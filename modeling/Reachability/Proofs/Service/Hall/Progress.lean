import Reachability.Proofs.Service.Hall.Ownership

/-!
# Progress

Every connection comes to rest in the end, as long as each connection gets its turn again and
again: programs end, the lock goes from one call to the next, and nobody overtakes whoever waits
for it.
-/
namespace Reachability.Service

/-- Holds when every connection gets its turn again and again. -/
def IsFair (schedule : Nat → HallMove) : Prop :=
  ∀ c n, ∃ k, n ≤ k ∧ schedule k = .proceed c

def HallMove.Spares (c : Nat) (m : HallMove) : Prop := m.connection = c → m = .proceed c

def firstMoves (schedule : Nat → HallMove) (n : Nat) : List HallMove :=
  (List.range n).map schedule

theorem firstMoves_succ (schedule : Nat → HallMove) (n : Nat) :
    firstMoves schedule (n + 1) = schedule 0 :: firstMoves (fun k => schedule (k + 1)) n := by
  simp [firstMoves, List.range_succ_eq_map, Function.comp_def]

theorem firstMoves_add (schedule : Nat → HallMove) (n k : Nat) :
    firstMoves schedule (n + k) =
      firstMoves schedule n ++ firstMoves (fun i => schedule (i + n)) k := by
  simp [firstMoves, List.range_add, Function.comp_def, Nat.add_comm]

theorem IsFair.shift {schedule : Nat → HallMove} (h : IsFair schedule) (n : Nat) :
    IsFair fun k => schedule (k + n) := by
  intro d m
  obtain ⟨k, hk, hmove⟩ := h d (m + n)
  have hshift : k - n + n = k := by omega
  refine ⟨k - n, by omega, ?_⟩
  dsimp only
  rw [hshift, hmove]

namespace Hall

variable {σ : Type} {net : Network σ} {t : Duration} {h g : Hall σ} {c d j k n p : Nat}
variable {P Q : Hall σ → Prop}

theorem run_append (net : Network σ) (t : Duration) (h : Hall σ) (moves more : List HallMove) :
    h.run net t (moves ++ more) = (h.run net t moves).run net t more := by
  induction moves generalizing h with
  | nil => rfl
  | cons m moves ih => exact ih _

/-! ## What happens in the end -/

/-- Holds of what happens at some time, whatever fair schedule is followed, when nothing more
comes in on a connection. -/
def Inevitable (net : Network σ) (t : Duration) (c : Nat) (P : Hall σ → Prop) (h : Hall σ) :
    Prop :=
  ∀ schedule, IsFair schedule → (∀ n, (schedule n).Spares c) →
    ∃ n, P (h.run net t (firstMoves schedule n))

namespace Inevitable

theorem now (hP : P h) : Inevitable net t c P h := fun _ _ _ => ⟨0, hP⟩

theorem trans (hP : Inevitable net t c P h) (hQ : ∀ g, P g → Inevitable net t c Q g) :
    Inevitable net t c Q h := by
  intro schedule hfair hspares
  obtain ⟨n, hn⟩ := hP schedule hfair hspares
  obtain ⟨k, hk⟩ := hQ _ hn _ (hfair.shift n) fun i => hspares (i + n)
  exact ⟨n + k, by rwa [firstMoves_add, run_append]⟩

theorem of_move {schedule : Nat → HallMove} (hfair : IsFair schedule)
    (hspares : ∀ n, (schedule n).Spares c)
    (h' : Inevitable net t c P (h.move net t (schedule 0))) :
    ∃ n, P (h.run net t (firstMoves schedule n)) := by
  obtain ⟨n, hn⟩ := h' _ (hfair.shift 1) fun i => hspares (i + 1)
  exact ⟨n + 1, by rwa [firstMoves_succ]⟩

/-- Something holds until a connection gets its turn, and leads to something else then. -/
theorem ensures (d : Nat) (hP : P h)
    (hstays : ∀ g m, P g → m.Spares c → m ≠ .proceed d →
      P (g.move net t m) ∨ Inevitable net t c Q (g.move net t m))
    (hturn : ∀ g, P g → Inevitable net t c Q (g.proceed net t d)) :
    Inevitable net t c Q h := by
  intro schedule hfair hspares
  obtain ⟨k, -, hk⟩ := hfair d 0
  induction k generalizing h schedule with
  | zero => exact of_move hfair hspares (hk ▸ hturn h hP)
  | succ k ih =>
    by_cases hmove : schedule 0 = .proceed d
    · exact of_move hfair hspares (hmove ▸ hturn h hP)
    · rcases hstays h _ hP (hspares 0) hmove with hP | hQ
      · obtain ⟨n, hn⟩ := ih hP _ (hfair.shift 1) (fun i => hspares (i + 1)) hk
        exact ⟨n + 1, by rwa [firstMoves_succ]⟩
      · exact of_move hfair hspares hQ

end Inevitable

/-! ## A connection and its errand -/

/-- Holds of a hall in which a connection has an errand and so much still to begin with. -/
structure Busy (c n : Nat) (errand : Option Errand) (h : Hall σ) : Prop where
  sound : h.Sound
  errand : (h.sessions c).errand = errand
  left : (h.sessions c).arrived.length = n

/-- Holds of a hall in which a connection waits for a call in a certain stage. -/
structure Awaits (c n k : Nat) (stage : Stage → Prop) (h : Hall σ) : Prop extends
    Busy c n (some (.test k)) h where
  call : ∃ call, h.floor.calls[k]? = some call ∧ stage call.stage

theorem Busy.move {errand : Option Errand} (h : Busy c n errand g) {m : HallMove}
    (hm : c ≠ m.connection) : Busy c n errand (g.move net t m) where
  sound := h.sound.move net t m
  errand := by rw [sessions_move_of_ne net t g hm, h.errand]
  left := by rw [sessions_move_of_ne net t g hm, h.left]

theorem Awaits.move {stage : Stage → Prop} (h : Awaits c n k stage g) {m : HallMove}
    (hm : c ≠ m.connection) (hstage : ¬ stage .waiting) :
    Awaits c n k stage (g.move net t m) where
  toBusy := h.toBusy.move hm
  call := by
    obtain ⟨call, hcall, hs⟩ := h.call
    obtain ⟨call', hcall', hby⟩ :=
      Call.Bystands.exists_of_rel (bystands_move h.sound net t hm h.errand) hcall
    obtain rfl := hby.eq_of_ne fun hwaiting => hstage (hwaiting ▸ hs)
    exact ⟨call', hcall', hs⟩

theorem ne_connection {m : HallMove} (hm : m.Spares c) (hne : m ≠ .proceed c) :
    c ≠ m.connection :=
  fun h => hne (hm h.symm)

theorem Busy.ensures {errand : Option Errand} (h : Busy c n errand g)
    (hturn : ∀ g, Busy c n errand g → Inevitable net t c Q (g.proceed net t c)) :
    Inevitable net t c Q g :=
  .ensures c h (fun _ _ h hm hne => .inl (h.move (ne_connection hm hne))) hturn

theorem Awaits.ensures {stage : Stage → Prop} (h : Awaits c n k stage g)
    (hstage : ¬ stage .waiting)
    (hturn : ∀ g, Awaits c n k stage g → Inevitable net t c Q (g.proceed net t c)) :
    Inevitable net t c Q g :=
  .ensures c h (fun _ _ h hm hne => .inl (h.move (ne_connection hm hne) hstage)) hturn

theorem Busy.answered {errand : Option Errand} (h : Busy c n errand g) {reply : Reply}
    (hproceed : g.proceed net t c = g.setSession c ((g.sessions c).answer reply)) :
    Busy c n none (g.proceed net t c) where
  sound := h.sound.proceed net t c
  errand := by
    rw [hproceed, sessions_setSession]
    rfl
  left := by
    rw [hproceed, sessions_setSession]
    exact h.left

theorem proceed_call {call : Call} (howns : h.Owns c k) (hcall : h.floor.calls[k]? = some call)
    (hended : call.stage.ended? = none) : h.proceed net t c =
      { h with
        floor := h.floor.proceed net k
        heard := h.heard ++ (call.stage.exchange? net h.floor.network).toList.map (c, ·) } := by
  rw [Owns] at howns
  simp only [proceed, howns, hcall, pursue, hended]

theorem Awaits.proceed_call {stage : Stage → Prop} {call call' : Call}
    (h : Busy c n (some (.test k)) g) (hcall : g.floor.calls[k]? = some call)
    (hended : call.stage.ended? = none)
    (hcall' : (g.floor.proceed net k).calls[k]? = some call') (hstage : stage call'.stage) :
    Awaits c n k stage (g.proceed net t c) where
  sound := h.sound.proceed net t c
  errand := by rw [Hall.proceed_call h.errand hcall hended, h.errand]
  left := by rw [Hall.proceed_call h.errand hcall hended, h.left]
  call := ⟨call', by rwa [Hall.proceed_call h.errand hcall hended], hstage⟩

theorem Awaits.ended (h : Awaits c n k (fun s => s.ended?.isSome) g) :
    Inevitable net t c (Busy c n none) g := by
  refine h.ensures (by simp [Stage.ended?]) fun g h => ?_
  obtain ⟨call, hcall, hs⟩ := h.call
  obtain ⟨ended, hended⟩ := Option.isSome_iff_exists.mp hs
  have hproceed : g.proceed net t c =
      g.setSession c ((g.sessions c).answer (.ofResponse (.ofTest ended))) := by
    simp only [proceed, h.errand, hcall, pursue, hended]
  exact .now (h.answered hproceed)

theorem Awaits.inside {rest : Program Verdict} (h : Awaits c n k (· = .inside rest) g) :
    Inevitable net t c (Busy c n none) g := by
  induction rest generalizing g with
  | done v =>
    refine h.ensures (by simp) fun g h => ?_
    obtain ⟨call, hcall, hs⟩ := h.call
    have hcall' := (Floor.proceed_done net h.sound.orderly hcall hs).2
    refine Awaits.ended (Awaits.proceed_call h.toBusy hcall (by rw [hs]; rfl) hcall' rfl)
  | ask action next ih =>
    refine h.ensures (by simp) fun g h => ?_
    obtain ⟨call, hcall, hs⟩ := h.call
    have hcall' := (Floor.proceed_ask net hcall hs).2
    exact ih _ (Awaits.proceed_call h.toBusy hcall (by rw [hs]; rfl) hcall' rfl)

/-! ## The queue -/

/-- Holds of a lock for which a call queues behind at most so many others. -/
def InLine (lock : Lock Nat) (holder k p : Nat) : Prop :=
  ∃ before behind, lock = .held holder (before ++ k :: behind) ∧ before.length ≤ p

namespace InLine

variable {lock : Lock Nat}

theorem mem_queue (h : InLine lock j k p) : k ∈ lock.queue := by
  obtain ⟨before, behind, rfl, -⟩ := h
  simp [Lock.queue]

theorem holder?_eq (h : InLine lock j k p) : lock.holder? = some j := by
  obtain ⟨before, behind, rfl, -⟩ := h
  rfl

theorem acquire (h : InLine lock j k p) (i : Nat) : InLine (lock.acquire i) j k p := by
  obtain ⟨before, behind, rfl, hp⟩ := h
  exact ⟨before, behind ++ [i], by simp [Lock.acquire], hp⟩

theorem withdraw (h : InLine lock j k p) {i : Nat} (hi : i ≠ k) :
    InLine (lock.withdraw i) j k p := by
  obtain ⟨before, behind, rfl, hp⟩ := h
  refine ⟨before.filter (· ≠ i), behind.filter (· ≠ i), ?_,
    Nat.le_trans (List.length_filter_le _ _) hp⟩
  simp [Lock.withdraw, Ne.symm hi]

theorem release (h : InLine lock j k p) :
    lock.release.holder? = some k ∨ ∃ i q, q < p ∧ InLine lock.release i k q := by
  obtain ⟨before, behind, rfl, hp⟩ := h
  cases before with
  | nil => exact .inl rfl
  | cons i before => exact .inr ⟨i, before.length, hp, before, behind, rfl, Nat.le_refl _⟩

end InLine

/-- What a move can do to the lock: only the call of the connection that makes it can be what
the lock is asked for, given up by or withdrawn from. -/
theorem lock_move (hsound : h.Sound) (net : Network σ) (t : Duration) (m : HallMove) :
    (h.move net t m).floor.lock = h.floor.lock ∨ ∃ i, h.Owns m.connection i ∧
      ((h.move net t m).floor.lock = h.floor.lock.acquire i ∨
        (h.move net t m).floor.lock = h.floor.lock.withdraw i ∨
        h.floor.lock.holder? = some i) := by
  have hfloor {e i : Nat} (howns : h.Owns e i) (m' : Move) (hm' : m'.call = i) {g : Hall σ}
      (hg : g.floor = h.floor.move net m') :
      g.floor.lock = h.floor.lock ∨ ∃ i, h.Owns e i ∧
        (g.floor.lock = h.floor.lock.acquire i ∨ g.floor.lock = h.floor.lock.withdraw i ∨
          h.floor.lock.holder? = some i) := by
    subst hm'
    rw [hg]
    rcases Floor.lock_move net hsound.orderly m' with hsame | hacquire | hwithdraw | ⟨hholder, -⟩
    · exact .inl hsame
    · exact .inr ⟨_, howns, .inl hacquire⟩
    · exact .inr ⟨_, howns, .inr (.inl hwithdraw)⟩
    · exact .inr ⟨_, howns, .inr (.inr hholder)⟩
  cases m with
  | receive e bytes => exact .inl rfl
  | finish e => exact .inl rfl
  | drop e =>
    simp only [move, drop, HallMove.connection]
    split
    · next i hi => exact hfloor hi (.drop i) rfl rfl
    · exact .inl rfl
    · exact .inl rfl
  | proceed e =>
    have hmoved := proceeds hsound net t e
    rw [move]
    generalize h.proceed net t e = g at hmoved
    cases hmoved with
    | @calls i call howns _ _ => exact hfloor howns (.proceed i) rfl rfl
    | rests | enlists | begins | ends | asks | answers => exact .inl rfl

/-- Holds of a hall in which a connection waits for a call that queues behind at most so many
others, while another connection has the lock. -/
structure Queues (c n k d j p : Nat) (rest : Program Verdict) (h : Hall σ) : Prop extends
    Busy c n (some (.test k)) h where
  line : InLine h.floor.lock j k p
  holder : h.Owns d j
  inside : ∃ call, h.floor.calls[j]? = some call ∧ call.stage = .inside rest

namespace Queues

variable {rest : Program Verdict}

theorem waiting (h : Queues c n k d j p rest g) :
    ∃ call, g.floor.calls[k]? = some call ∧ call.stage = .waiting :=
  Floor.exists_waiting h.sound.orderly h.line.mem_queue

theorem ne (h : Queues c n k d j p rest g) : c ≠ d := by
  rintro rfl
  obtain rfl : k = j := Errand.test.inj (Option.some.inj (h.errand.symm.trans h.holder))
  obtain ⟨call, hcall, hwaiting⟩ := h.waiting
  obtain ⟨call', hcall', hinside⟩ := h.inside
  rw [hcall] at hcall'
  cases hcall'
  rw [hwaiting] at hinside
  cases hinside

theorem move (h : Queues c n k d j p rest g) {m : HallMove} (hc : c ≠ m.connection)
    (hd : d ≠ m.connection) : Queues c n k d j p rest (g.move net t m) where
  toBusy := h.toBusy.move hc
  line := by
    rcases lock_move h.sound net t m with hsame | ⟨i, hi, hacquire | hwithdraw | hholder⟩
    · rw [hsame]
      exact h.line
    · rw [hacquire]
      exact h.line.acquire i
    · rw [hwithdraw]
      refine h.line.withdraw ?_
      rintro rfl
      exact hc (h.sound.unique _ _ _ h.errand hi)
    · obtain rfl := Option.some.inj (h.line.holder?_eq.symm.trans hholder)
      exact absurd (h.sound.unique _ _ _ h.holder hi) hd
  holder := by
    rw [Owns, sessions_move_of_ne net t g hd]
    exact h.holder
  inside := by
    obtain ⟨call, hcall, hstage⟩ := h.inside
    obtain ⟨call', hcall', hby⟩ :=
      Call.Bystands.exists_of_rel (bystands_move h.sound net t hd h.holder) hcall
    obtain rfl := hby.eq_of_ne (by simp [hstage])
    exact ⟨call', hcall', hstage⟩

theorem session (h : Queues c n k d j p rest g) {s : Session} (hc : c ≠ d)
    (hs : s.errand = (g.sessions d).errand) : Queues c n k d j p rest (g.setSession d s) where
  sound := h.sound.of_session hs
  errand := by rw [sessions_setSession_of_ne g hc, h.errand]
  left := by rw [sessions_setSession_of_ne g hc, h.left]
  line := h.line
  holder := by
    rw [Owns, sessions_setSession, hs]
    exact h.holder
  inside := h.inside

theorem proceed_self (h : Queues c n k d j p rest g) :
    Queues c n k d j p rest (g.proceed net t c) := by
  obtain ⟨call, hcall, hwaiting⟩ := h.waiting
  have hsound := h.sound.proceed net t c
  rw [proceed_call h.errand hcall (by rw [hwaiting]; rfl),
    Floor.proceed_waiting net hcall hwaiting] at hsound ⊢
  exact ⟨⟨hsound, h.errand, h.left⟩, h.line, h.holder, h.inside⟩

theorem step (h : Queues c n k d j p rest g) {m : HallMove} (hspares : m.Spares c)
    (hm : m ≠ .proceed d) : Queues c n k d j p rest (g.move net t m) ∨
      Busy c n (some (.test k)) (g.move net t m) ∧
        (g.move net t m).floor.lock = g.floor.lock.release := by
  by_cases hc : c = m.connection
  · rw [hspares hc.symm]
    exact .inl h.proceed_self
  · by_cases hd : d = m.connection
    · cases m with
      | receive e bytes =>
        obtain rfl : d = e := hd
        exact .inl (h.session hc rfl)
      | finish e =>
        obtain rfl : d = e := hd
        exact .inl (h.session hc rfl)
      | proceed e => exact absurd (congrArg HallMove.proceed hd.symm) hm
      | drop e =>
        obtain rfl : d = e := hd
        obtain ⟨call, hcall, hstage⟩ := h.inside
        have hholder := h.holder
        rw [Owns] at hholder
        refine .inr ⟨h.toBusy.move hc, ?_⟩
        simp only [Hall.move, drop, hholder]
        exact Floor.dropCall_inside hcall hstage
    · exact .inl (h.move hc hd)

/-- The connection that has the lock gives it up in the end, and the call is let in or is further
ahead in the queue. The induction is on what the call with the lock has still to do. -/
theorem passes (h : Queues c n k d j p rest g) :
    Inevitable net t c (fun g => Busy c n (some (.test k)) g ∧
      (g.floor.lock.holder? = some k ∨ ∃ i q, q < p ∧ InLine g.floor.lock i k q)) g := by
  have hreleased {g g' : Hall σ} (hline : InLine g.floor.lock j k p)
      (hbusy : Busy c n (some (.test k)) g') (hlock : g'.floor.lock = g.floor.lock.release) :
      Busy c n (some (.test k)) g' ∧
        (g'.floor.lock.holder? = some k ∨ ∃ i q, q < p ∧ InLine g'.floor.lock i k q) :=
    ⟨hbusy, hlock ▸ hline.release⟩
  induction rest generalizing g with
  | done v =>
    refine .ensures d h (fun g m h hspares hm => ?_) fun g h => ?_
    · exact (h.step hspares hm).imp_right fun ⟨hbusy, hlock⟩ =>
        .now (hreleased h.line hbusy hlock)
    · obtain ⟨call, hcall, hstage⟩ := h.inside
      have hbusy : Busy c n (some (.test k)) (g.proceed net t d) :=
        h.toBusy.move (m := .proceed d) h.ne
      refine .now (hreleased h.line hbusy ?_)
      rw [Hall.proceed_call h.holder hcall (by rw [hstage]; rfl)]
      exact (Floor.proceed_done net h.sound.orderly hcall hstage).1
  | ask action next ih =>
    refine .ensures d h (fun g m h hspares hm => ?_) fun g h => ?_
    · exact (h.step hspares hm).imp_right fun ⟨hbusy, hlock⟩ =>
        .now (hreleased h.line hbusy hlock)
    · obtain ⟨call, hcall, hstage⟩ := h.inside
      have hbusy : Busy c n (some (.test k)) (g.proceed net t d) :=
        h.toBusy.move (m := .proceed d) h.ne
      obtain ⟨hlock, hcall'⟩ := Floor.proceed_ask net hcall hstage
      rw [Hall.proceed_call h.holder hcall (by rw [hstage]; rfl)] at hbusy ⊢
      exact ih _ ⟨hbusy, by rw [hlock]; exact h.line, h.holder, _, hcall', rfl⟩

end Queues

/-- A test that waits ends. The induction is on its place in the queue. -/
theorem Awaits.inLine (h : Busy c n (some (.test k)) g) (hline : InLine g.floor.lock j k p) :
    Inevitable net t c (Busy c n none) g := by
  induction p using Nat.strongRecOn generalizing g j with
  | ind p ih =>
    obtain ⟨call, rest, hcall, hstage⟩ := Floor.exists_inside h.sound.orderly hline.holder?_eq
    obtain ⟨d, hd⟩ := h.sound.manned j call hcall (by rw [hstage]; rfl)
    have hqueues : Queues c n k d j p rest g := ⟨h, hline, hd, call, hcall, hstage⟩
    refine hqueues.passes.trans fun g' ⟨hbusy, hpassed⟩ => ?_
    rcases hpassed with hholder | ⟨i, q, hq, hline'⟩
    · obtain ⟨call, rest, hcall, hstage⟩ := Floor.exists_inside hbusy.sound.orderly hholder
      exact Awaits.inside ⟨hbusy, call, hcall, hstage⟩
    · exact ih q hq hbusy hline'

/-! ## Rest -/

theorem Awaits.waiting (h : Awaits c n k (· = .waiting) g) :
    Inevitable net t c (Busy c n none) g := by
  obtain ⟨call, hcall, hwaiting⟩ := h.call
  have hmem : k ∈ g.floor.lock.queue :=
    (h.sound.orderly.waiting k).mp (by simp [Floor.stage?_eq hcall, hwaiting, Stage.isWaiting])
  cases hlock : g.floor.lock with
  | free => simp [hlock, Lock.queue] at hmem
  | held j queue =>
    obtain ⟨before, behind, rfl⟩ := List.append_of_mem (by simpa [hlock, Lock.queue] using hmem)
    exact Awaits.inLine h.toBusy ⟨before, behind, hlock, Nat.le_refl _⟩

theorem Awaits.called (h : Awaits c n k (· = .called) g) :
    Inevitable net t c (Busy c n none) g := by
  refine h.ensures (by simp) fun g h => ?_
  obtain ⟨call, hcall, hs⟩ := h.call
  obtain ⟨stage, hcall', hstage⟩ := Floor.proceed_called net hcall hs
  have hawaits {S : Stage → Prop} (hS : S stage) : Awaits c n k S (g.proceed net t c) :=
    Awaits.proceed_call h.toBusy hcall (by rw [hs]; rfl) hcall' hS
  rcases hstage with ⟨v, rfl⟩ | ⟨rest, rfl⟩ | rfl
  · exact Awaits.ended (hawaits rfl)
  · exact Awaits.inside (hawaits rfl)
  · exact Awaits.waiting (hawaits rfl)

theorem Busy.test (h : Busy c n (some (.test k)) g) : Inevitable net t c (Busy c n none) g := by
  obtain ⟨call, hcall, hstage⟩ := h.sound.alive c k h.errand
  cases hs : call.stage with
  | called => exact Awaits.called ⟨h, call, hcall, hs⟩
  | waiting => exact Awaits.waiting ⟨h, call, hcall, hs⟩
  | inside rest => exact Awaits.inside ⟨h, call, hcall, hs⟩
  | returned v | rejected v => exact Awaits.ended ⟨h, call, hcall, by rw [hs]; rfl⟩
  | dropped => exact absurd hs hstage

theorem Busy.direct {rest : Program Reply} (h : Busy c n (some (.direct rest)) g) :
    Inevitable net t c (Busy c n none) g := by
  induction rest generalizing g with
  | done reply =>
    refine h.ensures fun g h => ?_
    have hproceed : g.proceed net t c = g.setSession c ((g.sessions c).answer reply) := by
      simp only [proceed, h.errand]
    exact .now (h.answered hproceed)
  | ask action next ih =>
    refine h.ensures fun g h => ?_
    refine ih (net.answer g.floor.network action).1 ⟨h.sound.proceed net t c, ?_, ?_⟩
    · simp only [proceed, h.errand, sessions_setSession]
    · simp only [proceed, h.errand, sessions_setSession, h.left]

theorem Busy.attend (h : Busy c (n + 1) none g) : Inevitable net t c (Busy c n none) g := by
  refine h.ensures fun g h => ?_
  have hsound := h.sound.proceed net t c
  have hmoved := proceeds h.sound net t c
  generalize g.proceed net t c = g' at hsound hmoved
  have hleft {i : Incoming} {arrived : List Incoming}
      (harrived : (g.sessions c).arrived = i :: arrived) : arrived.length = n := by
    have hlength := h.left
    rw [harrived] at hlength
    exact Nat.succ.inj hlength
  cases hmoved with
  | rests hrest =>
    have hlength := h.left
    rw [hrest.1] at hlength
    cases hlength
  | enlists hfree harrived htest =>
    refine Busy.test ⟨hsound, congrArg Session.errand (sessions_setSession g c _), ?_⟩
    simpa only [sessions_setSession] using hleft harrived
  | begins hfree harrived htest =>
    refine Busy.direct ⟨hsound, congrArg Session.errand (sessions_setSession g c _), ?_⟩
    simpa only [sessions_setSession] using hleft harrived
  | calls howns | ends howns => cases h.errand.symm.trans howns
  | asks herrand | answers herrand => cases h.errand.symm.trans herrand

/-- A connection begins with one thing after the other, and every errand ends. -/
theorem Busy.rests_of_free (h : Busy c n none g) :
    Inevitable net t c (fun g => (g.sessions c).IsAtRest) g := by
  induction n generalizing g with
  | zero => exact .now ⟨List.length_eq_zero_iff.mp h.left, h.errand⟩
  | succ n ih => exact h.attend.trans fun g h => ih h

/-- In the end everything that has come in on a connection is answered. -/
theorem inevitable_isAtRest (hsound : h.Sound) (net : Network σ) (t : Duration) (c : Nat) :
    Inevitable net t c (fun g => (g.sessions c).IsAtRest) h := by
  cases herrand : (h.sessions c).errand with
  | none => exact Busy.rests_of_free ⟨hsound, herrand, rfl⟩
  | some errand =>
    cases errand with
    | test k => exact (Busy.test ⟨hsound, herrand, rfl⟩).trans fun _ => Busy.rests_of_free
    | direct rest => exact (Busy.direct ⟨hsound, herrand, rfl⟩).trans fun _ => Busy.rests_of_free

end Hall

end Reachability.Service
