import Reachability.Proofs.Network.Reaches
import Reachability.Proofs.Floor.Exclusion

/-!
# Stays

A stay is the time that one call spends inside. What the calls ask of the network, whatever
the schedule is, is what they ask in their stays, one stay after the other. In its stay a
call asks what its probe asks when it is alone with the network as it found it: all of it
if the call returns, and the first part of it if the call is dropped.
-/
namespace Reachability

/-- The time of a call inside, from one state of the network to another. -/
structure Stay (σ : Type) where
  call : Nat
  before : σ
  actions : List Action
  after : σ

namespace Stay

variable {σ : Type}

def questions (x : Stay σ) : List (Nat × Action) := x.actions.map (x.call, ·)

def traffic (x : Stay σ) : List (Nat × Action) := x.questions.filter (·.2.isTraffic)

/-- What a stay tells of its call, by the stage of the call. -/
def Accounts (net : Network σ) (x : Stay σ) (p : Probe) : Stage → Prop
  | .inside rest => p.measure.Reaches net x.before x.actions rest x.after
  | .returned v => p.measure.Reaches net x.before x.actions (.done v) x.after
  | .dropped => ∃ rest, p.measure.Reaches net x.before x.actions rest x.after
  | .called | .waiting | .rejected _ => False

/-- Stays of which each finds the network as the one before has left it. -/
def Threaded (s : σ) : List (Stay σ) → σ → Prop
  | [], t => s = t
  | x :: stays, t => x.before = s ∧ Threaded x.after stays t

theorem threaded_concat {s t : σ} {stays : List (Stay σ)} {x : Stay σ} :
    Threaded s (stays ++ [x]) t ↔ Threaded s stays x.before ∧ x.after = t := by
  induction stays generalizing s with
  | nil => simp [Threaded, eq_comm]
  | cons y stays ih => simp [Threaded, ih, and_assoc]

theorem Accounts.isPrefix_trace {net : Network σ} {x : Stay σ} {p : Probe} {s : Stage}
    (h : x.Accounts net p s) : x.actions <+: (p.measure.trace net x.before).2.2 := by
  cases s with
  | inside rest => exact Program.Reaches.isPrefix_trace h
  | returned v => exact Program.Reaches.isPrefix_trace h
  | dropped =>
    obtain ⟨rest, h⟩ := h
    exact h.isPrefix_trace
  | called | waiting | rejected _ => cases h

end Stay

namespace Floor

/-- The stays behind the trace of a floor. Only the last of them can still go on. -/
structure Chronicle {σ : Type} (net : Network σ) (start : σ) (f : Floor σ)
    (stays : List (Stay σ)) : Prop where
  trace : f.trace = stays.flatMap Stay.questions
  threaded : Stay.Threaded start stays f.network
  nodup : (stays.map Stay.call).Nodup
  accounts : ∀ x ∈ stays, ∃ c, f.calls[x.call]? = some c ∧ x.Accounts net c.probe c.stage
  inside : ∀ i c, f.calls[i]? = some c → c.stage.isInside = true →
    ∃ past x, stays = past ++ [x] ∧ x.call = i
  returned : ∀ i c v, f.calls[i]? = some c → c.stage = .returned v → ∃ x ∈ stays, x.call = i

namespace Chronicle

variable {σ : Type} {net : Network σ} {start : σ} {f : Floor σ} {stays : List (Stay σ)}
variable {i : Nat} {c : Call} {s : Stage}

theorem ne_of_early (h : Chronicle net start f stays) (hc : f.calls[i]? = some c)
    (hs : c.stage = .called ∨ c.stage = .waiting) {x : Stay σ} (hx : x ∈ stays) :
    x.call ≠ i := by
  rintro rfl
  obtain ⟨d, hd, hacc⟩ := h.accounts x hx
  rw [hc] at hd
  cases hd
  rcases hs with hs | hs <;> simp [hs, Stay.Accounts] at hacc

theorem stayOut (h : Chronicle net start f stays) (hc : f.calls[i]? = some c)
    (hs : c.stage = .called ∨ c.stage = .waiting) (hin : s.isInside = false)
    (hret : ∀ v, s ≠ .returned v) : Chronicle net start (f.setStage i s) stays where
  trace := h.trace
  threaded := h.threaded
  nodup := h.nodup
  accounts x hx := by
    obtain ⟨d, hd, hacc⟩ := h.accounts x hx
    exact ⟨d, (getElem?_setStage_of_ne (h.ne_of_early hc hs hx) s).trans hd, hacc⟩
  inside j d hd hjin := by
    rcases cases_setStage hc hd with ⟨rfl, rfl⟩ | ⟨-, hd⟩
    · simp [hin] at hjin
    · exact h.inside j d hd hjin
  returned j d v hd hjret := by
    rcases cases_setStage hc hd with ⟨rfl, rfl⟩ | ⟨-, hd⟩
    · exact absurd hjret (hret v)
    · exact h.returned j d v hd hjret

theorem enter (h : Chronicle net start f stays) (hc : f.calls[i]? = some c)
    (hs : c.stage = .called ∨ c.stage = .waiting)
    (empty : ∀ (j : Nat) (d : Call), f.calls[j]? = some d → d.stage.isInside = false) :
    Chronicle net start (f.setStage i (.inside c.probe.measure))
      (stays ++ [⟨i, f.network, [], f.network⟩]) where
  trace := by
    simp only [List.flatMap_append, ← h.trace]
    simp [Stay.questions, setStage]
  threaded := Stay.threaded_concat.mpr ⟨h.threaded, rfl⟩
  nodup := by
    simp only [List.map_append, List.map_cons, List.map_nil, List.nodup_append]
    refine ⟨h.nodup, by simp, ?_⟩
    rintro j hj _ hi rfl
    obtain ⟨x, hx, rfl⟩ := List.mem_map.mp hj
    exact h.ne_of_early hc hs hx (List.mem_singleton.mp hi)
  accounts x hx := by
    rcases List.mem_append.mp hx with hold | hnew
    · obtain ⟨d, hd, hacc⟩ := h.accounts x hold
      exact ⟨d, (getElem?_setStage_of_ne (h.ne_of_early hc hs hold) _).trans hd, hacc⟩
    · rw [List.mem_singleton.mp hnew]
      exact ⟨_, getElem?_setStage hc _, .refl⟩
  inside j d hd hjin := by
    rcases cases_setStage hc hd with ⟨rfl, rfl⟩ | ⟨-, hd⟩
    · exact ⟨stays, _, rfl, rfl⟩
    · simp [empty j d hd] at hjin
  returned j d v hd hjret := by
    rcases cases_setStage hc hd with ⟨rfl, rfl⟩ | ⟨-, hd⟩
    · cases hjret
    · obtain ⟨x, hx, hcall⟩ := h.returned j d v hd hjret
      exact ⟨x, List.mem_append_left _ hx, hcall⟩

theorem ask (h : Chronicle net start f stays) (hc : f.calls[i]? = some c) {action : Action}
    {next : action.Answer → Program Verdict} (hs : c.stage = .inside (.ask action next)) :
    ∃ stays', Chronicle net start
      { f.setStage i (.inside (next (net.answer f.network action).1)) with
        network := (net.answer f.network action).2
        trace := f.trace ++ [(i, action)] } stays' := by
  obtain ⟨past, x, rfl, rfl⟩ := h.inside i c hc (by rw [hs]; rfl)
  obtain ⟨hpast, hafter⟩ := Stay.threaded_concat.mp h.threaded
  have hnodup := h.nodup
  have hne : ∀ y ∈ past, y.call ≠ x.call := by
    simp only [List.map_append, List.nodup_append] at hnodup
    intro y hy
    exact hnodup.2.2 _ (List.mem_map_of_mem hy) _ (by simp)
  refine ⟨past ++ [⟨x.call, x.before, x.actions ++ [action], (net.answer f.network action).2⟩],
    ?_, ?_, ?_, ?_, ?_, ?_⟩
  · simp [h.trace, Stay.questions]
  · exact Stay.threaded_concat.mpr ⟨hpast, rfl⟩
  · simpa using hnodup
  · intro y hy
    rcases List.mem_append.mp hy with hold | hnew
    · obtain ⟨d, hd, hacc⟩ := h.accounts y (List.mem_append_left _ hold)
      exact ⟨d, (getElem?_setStage_of_ne (hne y hold) _).trans hd, hacc⟩
    · rw [List.mem_singleton.mp hnew]
      obtain ⟨d, hd, hacc⟩ := h.accounts x (by simp)
      rw [hc] at hd
      cases hd
      rw [hs, Stay.Accounts, hafter] at hacc
      exact ⟨_, getElem?_setStage hc _, hacc.ask⟩
  · intro j d hd hjin
    rcases cases_setStage hc hd with ⟨rfl, rfl⟩ | ⟨hj, hd⟩
    · exact ⟨past, _, rfl, rfl⟩
    · obtain ⟨past', y, heq, rfl⟩ := h.inside j d hd hjin
      obtain ⟨-, hyx⟩ := List.append_inj' heq rfl
      cases hyx
      exact absurd rfl hj
  · intro j d v hd hjret
    rcases cases_setStage hc hd with ⟨rfl, rfl⟩ | ⟨hj, hd⟩
    · cases hjret
    · obtain ⟨y, hy, rfl⟩ := h.returned j d v hd hjret
      rcases List.mem_append.mp hy with hold | hnew
      · exact ⟨y, List.mem_append_left _ hold, rfl⟩
      · rw [List.mem_singleton.mp hnew] at hj
        exact absurd rfl hj

theorem leave (h : Chronicle net start f stays) (hc : f.calls[i]? = some c)
    {rest : Program Verdict} (hs : c.stage = .inside rest) (hl : Leaves rest s) :
    Chronicle net start (f.setStage i s) stays where
  trace := h.trace
  threaded := h.threaded
  nodup := h.nodup
  accounts x hx := by
    obtain ⟨d, hd, hacc⟩ := h.accounts x hx
    by_cases hj : x.call = i
    · subst hj
      rw [hc] at hd
      cases hd
      rw [hs] at hacc
      refine ⟨_, getElem?_setStage hc s, ?_⟩
      cases hl with
      | returns hrest => rwa [hrest] at hacc
      | isDropped => exact ⟨rest, hacc⟩
    · exact ⟨d, (getElem?_setStage_of_ne hj s).trans hd, hacc⟩
  inside j d hd hjin := by
    rcases cases_setStage hc hd with ⟨rfl, rfl⟩ | ⟨-, hd⟩
    · cases hl <;> cases hjin
    · exact h.inside j d hd hjin
  returned j d v hd hjret := by
    rcases cases_setStage hc hd with ⟨rfl, rfl⟩ | ⟨-, hd⟩
    · obtain ⟨past, x, rfl, hcall⟩ := h.inside j c hc (by rw [hs]; rfl)
      exact ⟨x, by simp, hcall⟩
    · exact h.returned j d v hd hjret

theorem setLock (h : Chronicle net start f stays) (lock : Lock Nat) :
    Chronicle net start { f with lock } stays :=
  ⟨h.trace, h.threaded, h.nodup, h.accounts, h.inside, h.returned⟩

/-- What every move keeps. -/
theorem moved (h : Chronicle net start f stays) (ho : f.Orderly) {g : Floor σ}
    (hm : Moved net f g) : ∃ stays', Chronicle net start g stays' := by
  cases hm with
  | nothing => exact ⟨stays, h⟩
  | @ends i c s hc hs hend =>
    refine ⟨stays, h.stayOut hc (Or.inl hs) ?_ ?_⟩
    · rcases hend with rfl | ⟨v, rfl⟩ <;> rfl
    · rintro v rfl
      simp at hend
  | @enters i c hc hs hlock =>
    unfold Orderly at ho
    rw [hlock] at ho
    exact ⟨_, (h.enter hc (Or.inl hs) fun _ _ hd => isInside_eq_false ho hd).setLock _⟩
  | queues hc hs _ => exact ⟨stays, (h.stayOut hc (Or.inl hs) rfl (by simp)).setLock _⟩
  | withdraws hc hs => exact ⟨stays, (h.stayOut hc (Or.inr hs) rfl (by simp)).setLock _⟩
  | asks hc hs => exact h.ask hc hs
  | leaves hc hs hl _ => exact ⟨stays, (h.leave hc hs hl).setLock _⟩
  | @handsOver i c rest s j d queue hc hs hl hlock hne hd hds =>
    unfold Orderly at ho
    rw [hlock] at ho
    have hout := ho.leave (stage?_eq hc) (by rw [hs]; rfl) hl.isIdle
    rw [← stage?_setStage hc] at hout
    have hd' := (getElem?_setStage_of_ne hne s).trans hd
    exact ⟨_, ((h.leave hc hs hl).enter hd' (Or.inr hds)
      fun _ _ he => isInside_eq_false hout he).setLock _⟩

theorem ofProbes (net : Network σ) (probes : List Probe) (start : σ) :
    Chronicle net start (Floor.ofProbes probes start) [] := by
  have hstage : ∀ (i : Nat) (c : Call), (Floor.ofProbes probes start).calls[i]? = some c →
      c.stage = .called := by
    intro i c hc
    simp only [Floor.ofProbes, List.getElem?_map, Option.map_eq_some_iff] at hc
    obtain ⟨p, -, rfl⟩ := hc
    rfl
  refine ⟨rfl, rfl, List.nodup_nil, by simp, ?_, ?_⟩
  · intro i c hc hin
    rw [hstage i c hc] at hin
    cases hin
  · intro i c v hc hret
    rw [hstage i c hc] at hret
    cases hret

theorem run (h : Chronicle net start f stays) (ho : f.Orderly) (moves : List Move) :
    ∃ stays', Chronicle net start (f.run net moves) stays' := by
  induction moves generalizing f stays with
  | nil => exact ⟨stays, h⟩
  | cons m moves ih =>
    have hm := Floor.moved net ho m
    obtain ⟨stays', h'⟩ := h.moved ho hm
    exact ih h' (hm.orderly ho)

end Chronicle

/-- The questions about a cluster: those about its base URL, those about its health if the
base URL was reached, and the time. -/
theorem trace_elasticsearch {σ : Type} (net : Network σ) (url : String)
    (credentials : Credentials) (timeout : Duration) (s : σ) :
    let base := (Attempt.http url timeout).trace net s
    let health := (Attempt.http (Endpoint.healthUrl url) timeout).trace net base.2.1
    ((Probe.elasticsearch url credentials timeout).measure.trace net s).2.2 =
      base.2.2 ++ (if base.1.isSuccess then health.2.2 else []) ++ [.epochSeconds] := by
  simp only [Probe.measure, Probe.health, Program.trace_bind]
  split <;> simp [Program.perform]

/-- Whatever the schedule is, the questions to the network come in stays of one call each, one
after the other. The stay of a call that has returned holds what its probe asks when it is
alone with the network as it found it, up to the same verdict; so both attempts at a cluster
are in one stay. The stay of a call that has been dropped holds a first part of that. No call
has two stays, and whoever asks a question is inside and has the lock. -/
theorem trace_eq_flatMap_stays {σ : Type} (net : Network σ) (probes : List Probe) (start : σ)
    (moves : List Move) :
    let f := (ofProbes probes start).run net moves
    f.calls.map Call.probe = probes ∧
    (∃ stays : List (Stay σ),
      f.trace = stays.flatMap Stay.questions ∧ f.traffic = stays.flatMap Stay.traffic ∧
      Stay.Threaded start stays f.network ∧ (stays.map Stay.call).Nodup ∧
      (∀ x ∈ stays, ∃ c, f.calls[x.call]? = some c ∧ x.Accounts net c.probe c.stage ∧
        x.actions <+: (c.probe.measure.trace net x.before).2.2) ∧
      (∀ (i : Nat) (c : Call) (v : Verdict), f.calls[i]? = some c → c.stage = .returned v →
        ∃ x ∈ stays, x.call = i ∧
          c.probe.measure.trace net x.before = (v, x.after, x.actions) ∧
          ∀ url credentials timeout, c.probe = .elasticsearch url credentials timeout →
            let base := (Attempt.http url timeout).trace net x.before
            let health := (Attempt.http (Endpoint.healthUrl url) timeout).trace net base.2.1
            x.actions = base.2.2 ++ (if base.1.isSuccess then health.2.2 else []) ++
              [.epochSeconds])) ∧
    ∀ m, (f.move net m).trace = f.trace ∨
      ∃ (i : Nat) (c : Call) (action : Action) (next : action.Answer → Program Verdict)
        (queue : List Nat),
        f.calls[i]? = some c ∧ c.stage = .inside (.ask action next) ∧
        f.lock = .held i queue ∧ (f.move net m).trace = f.trace ++ [(i, action)] := by
  have hstart := orderly_ofProbes probes start
  have horderly := orderly_run net hstart moves
  obtain ⟨stays, h⟩ := (Chronicle.ofProbes net probes start).run hstart moves
  refine ⟨?_, ⟨stays, h.trace, ?_, h.threaded, h.nodup, ?_, ?_⟩, ?_⟩
  · rw [probes_run net hstart]
    simp [ofProbes, Function.comp_def]
  · rw [traffic, h.trace, List.filter_flatMap]
    rfl
  · intro x hx
    obtain ⟨c, hc, hacc⟩ := h.accounts x hx
    exact ⟨c, hc, hacc, hacc.isPrefix_trace⟩
  · intro i c v hc hret
    obtain ⟨x, hx, rfl⟩ := h.returned i c v hc hret
    obtain ⟨d, hd, hacc⟩ := h.accounts x hx
    rw [hc] at hd
    cases hd
    rw [hret] at hacc
    have htrace := Program.Reaches.trace_eq_of_done hacc
    refine ⟨x, hx, rfl, htrace, ?_⟩
    intro url credentials timeout hprobe
    have hactions := trace_elasticsearch net url credentials timeout x.before
    rwa [← hprobe, htrace] at hactions
  · intro m
    exact (moved net horderly m).trace_eq_or_asks horderly

end Floor

end Reachability
