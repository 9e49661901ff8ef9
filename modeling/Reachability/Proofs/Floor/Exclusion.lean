import Mathlib.Logic.Function.Basic
import Reachability.Gate.Interleaving

/-!
# Exclusion

The lock of a floor and the stages of its calls agree: whoever holds the lock is the one
call inside, and those who queue for it are the calls that wait. Every move keeps this up,
whichever call goes on and whichever is dropped.
-/
namespace Reachability

/-- A holder and a queue that agree with the stages of the calls. -/
structure Agrees (holder : Option Nat) (queue : List Nat) (stage : Nat → Option Stage) :
    Prop where
  inside : ∀ i, (stage i).any Stage.isInside = true ↔ holder = some i
  waiting : ∀ i, (stage i).any Stage.isWaiting = true ↔ i ∈ queue
  nodup : queue.Nodup

namespace Agrees

variable {holder holder' : Option Nat} {queue queue' : List Nat} {stage : Nat → Option Stage}
variable {i j : Nat} {s t : Stage}

theorem update (h : Agrees holder queue stage) (inside : t.isInside = true ↔ holder' = some i)
    (waiting : t.isWaiting = true ↔ i ∈ queue')
    (holders : ∀ j ≠ i, holder' = some j ↔ holder = some j)
    (queues : ∀ j ≠ i, j ∈ queue' ↔ j ∈ queue) (nodup : queue'.Nodup) :
    Agrees holder' queue' (Function.update stage i (some t)) := by
  refine ⟨fun j => ?_, fun j => ?_, nodup⟩
  · by_cases hj : j = i
    · subst hj
      simpa using inside
    · rw [Function.update_of_ne hj, h.inside, holders j hj]
  · by_cases hj : j = i
    · subst hj
      simpa using waiting
    · rw [Function.update_of_ne hj, h.waiting, queues j hj]

theorem ne_holder (h : Agrees holder queue stage) (hi : stage i = some s)
    (hs : s.isInside = false) : holder ≠ some i := by
  rw [Ne, ← h.inside i, hi]
  simp [hs]

theorem not_mem_queue (h : Agrees holder queue stage) (hi : stage i = some s)
    (hs : s.isWaiting = false) : i ∉ queue := by
  rw [← h.waiting i, hi]
  simp [hs]

theorem idle (h : Agrees holder queue stage) (hi : stage i = some s) (hs : s.isIdle = true)
    (ht : t.isIdle = true) : Agrees holder queue (Function.update stage i (some t)) := by
  simp only [Stage.isIdle, Bool.and_eq_true, Bool.not_eq_true'] at hs ht
  apply h.update _ _ (fun _ _ => Iff.rfl) (fun _ _ => Iff.rfl) h.nodup
  · simp [ht.1, h.ne_holder hi hs.1]
  · simp [ht.2, h.not_mem_queue hi hs.2]

theorem enter (h : Agrees none [] stage) (ht : t.isInside = true) :
    Agrees (some i) [] (Function.update stage i (some t)) := by
  apply h.update _ _ _ (fun _ _ => Iff.rfl) h.nodup
  · simp [ht]
  · simp [Stage.isWaiting_of_isInside ht]
  · intro j hj
    simp [Ne.symm hj]

theorem stayIn (h : Agrees holder queue stage) (hi : stage i = some s) (hs : s.isInside = true)
    (ht : t.isInside = true) : Agrees holder queue (Function.update stage i (some t)) := by
  have hholder : holder = some i := (h.inside i).mp (by simp [hi, hs])
  apply h.update _ _ (fun _ _ => Iff.rfl) (fun _ _ => Iff.rfl) h.nodup
  · simp [ht, hholder]
  · simp [Stage.isWaiting_of_isInside ht, h.not_mem_queue hi (Stage.isWaiting_of_isInside hs)]

theorem next (h : Agrees none (i :: queue) stage) (ht : t.isInside = true) :
    Agrees (some i) queue (Function.update stage i (some t)) := by
  obtain ⟨hi, hnodup⟩ := List.nodup_cons.mp h.nodup
  apply h.update _ _ _ _ hnodup
  · simp [ht]
  · simp [Stage.isWaiting_of_isInside ht, hi]
  · intro j hj
    simp [Ne.symm hj]
  · intro j hj
    simp [hj]

theorem join (h : Agrees holder queue stage) (hi : stage i = some s) (hs : s.isIdle = true) :
    Agrees holder (queue ++ [i]) (Function.update stage i (some .waiting)) := by
  simp only [Stage.isIdle, Bool.and_eq_true, Bool.not_eq_true'] at hs
  apply h.update _ _ (fun _ _ => Iff.rfl) _ _
  · simp [Stage.isInside, h.ne_holder hi hs.1]
  · simp [Stage.isWaiting]
  · intro j hj
    simp [hj]
  · rw [List.nodup_append]
    refine ⟨h.nodup, by simp, ?_⟩
    rintro j hj _ hi' rfl
    exact h.not_mem_queue hi hs.2 (List.mem_singleton.mp hi' ▸ hj)

theorem withdraw (h : Agrees holder queue stage) (hi : stage i = some .waiting)
    (ht : t.isIdle = true) :
    Agrees holder (queue.filter (· ≠ i)) (Function.update stage i (some t)) := by
  simp only [Stage.isIdle, Bool.and_eq_true, Bool.not_eq_true'] at ht
  apply h.update _ _ (fun _ _ => Iff.rfl) _ (h.nodup.filter _)
  · simp [ht.1, h.ne_holder hi rfl]
  · simp [ht.2]
  · intro j hj
    simp [hj]

theorem leave (h : Agrees (some i) queue stage) (hi : stage i = some s)
    (hs : s.isWaiting = false) (ht : t.isIdle = true) :
    Agrees none queue (Function.update stage i (some t)) := by
  simp only [Stage.isIdle, Bool.and_eq_true, Bool.not_eq_true'] at ht
  apply h.update _ _ _ (fun _ _ => Iff.rfl) h.nodup
  · simp [ht.1]
  · simp [ht.2, h.not_mem_queue hi hs]
  · intro j hj
    simp [Ne.symm hj]

end Agrees

namespace Floor

variable {σ : Type}

/-- How a call may end that is inside with the rest of its program. -/
inductive Leaves (rest : Program Verdict) : Stage → Prop
  | returns {v} : rest = .done v → Leaves rest (.returned v)
  | isDropped : Leaves rest .dropped

/-- All that a move can do. -/
inductive Moved (net : Network σ) (f : Floor σ) : Floor σ → Prop
  | nothing : Moved net f f
  | ends {i c s} : f.calls[i]? = some c → c.stage = .called →
      s = .dropped ∨ (∃ v, s = .rejected v) → Moved net f (f.setStage i s)
  | enters {i c} : f.calls[i]? = some c → c.stage = .called → f.lock = .free →
      Moved net f { f.setStage i (.inside c.probe.measure) with lock := .held i [] }
  | queues {i c holder queue} : f.calls[i]? = some c → c.stage = .called →
      f.lock = .held holder queue →
      Moved net f { f.setStage i .waiting with lock := .held holder (queue ++ [i]) }
  | withdraws {i c} : f.calls[i]? = some c → c.stage = .waiting →
      Moved net f { f.setStage i .dropped with lock := f.lock.withdraw i }
  | asks {i c action next} : f.calls[i]? = some c → c.stage = .inside (.ask action next) →
      Moved net f
        { f.setStage i (.inside (next (net.answer f.network action).1)) with
          network := (net.answer f.network action).2
          trace := f.trace ++ [(i, action)] }
  | leaves {i c rest s} : f.calls[i]? = some c → c.stage = .inside rest → Leaves rest s →
      f.lock = .held i [] → Moved net f { f.setStage i s with lock := .free }
  | handsOver {i c rest s j d queue} : f.calls[i]? = some c → c.stage = .inside rest →
      Leaves rest s → f.lock = .held i (j :: queue) → j ≠ i → f.calls[j]? = some d →
      d.stage = .waiting →
      Moved net f
        { (f.setStage i s).setStage j (.inside d.probe.measure) with lock := .held j queue }

variable {f : Floor σ} {i j : Nat} {c : Call}

def stage? (f : Floor σ) (i : Nat) : Option Stage := f.calls[i]?.map Call.stage

/-- A floor whose lock agrees with the stages of its calls. -/
def Orderly (f : Floor σ) : Prop := Agrees f.lock.holder? f.lock.queue f.stage?

theorem stage?_eq (hc : f.calls[i]? = some c) : f.stage? i = some c.stage := by
  simp [stage?, hc]

theorem getElem?_setStage (hc : f.calls[i]? = some c) (s : Stage) :
    (f.setStage i s).calls[i]? = some { c with stage := s } := by
  simp [setStage, hc]

theorem getElem?_setStage_of_ne (h : j ≠ i) (s : Stage) :
    (f.setStage i s).calls[j]? = f.calls[j]? := by
  simp [setStage, Ne.symm h]

theorem cases_setStage (hc : f.calls[i]? = some c) {s : Stage} {d : Call}
    (hd : (f.setStage i s).calls[j]? = some d) :
    j = i ∧ d = { c with stage := s } ∨ j ≠ i ∧ f.calls[j]? = some d := by
  by_cases hj : j = i
  · subst hj
    rw [getElem?_setStage hc] at hd
    exact Or.inl ⟨rfl, (Option.some.inj hd).symm⟩
  · rw [getElem?_setStage_of_ne hj] at hd
    exact Or.inr ⟨hj, hd⟩

theorem stage?_setStage (hc : f.calls[i]? = some c) (s : Stage) :
    (f.setStage i s).stage? = Function.update f.stage? i (some s) := by
  funext j
  by_cases hj : j = i
  · subst hj
    simp [stage?, getElem?_setStage hc]
  · simp [stage?, getElem?_setStage_of_ne hj, hj]

theorem letIn_eq (hc : f.calls[i]? = some c) :
    f.letIn i = f.setStage i (.inside c.probe.measure) := by
  have hcalls : (f.calls.modify i fun d => { d with stage := .inside d.probe.measure }) =
      f.calls.modify i fun d => { d with stage := .inside c.probe.measure } := by
    apply List.ext_getElem?
    intro j
    by_cases hj : j = i
    · subst hj
      simp [hc]
    · simp [Ne.symm hj]
  simp [letIn, setStage, hcalls]

theorem lock_eq_held (h : f.Orderly) (hc : f.calls[i]? = some c) {rest : Program Verdict}
    (hs : c.stage = .inside rest) : ∃ queue, f.lock = .held i queue := by
  have hholder : f.lock.holder? = some i :=
    (h.inside i).mp (by simp [stage?_eq hc, hs, Stage.isInside])
  cases hlock : f.lock with
  | free => simp [hlock, Lock.holder?] at hholder
  | held holder queue =>
    obtain rfl : holder = i := by simpa [hlock, Lock.holder?] using hholder
    exact ⟨queue, rfl⟩

/-- Whoever leaves hands the lock to the first of the queue, who has waited for it. -/
theorem release_cases (h : f.Orderly) (hc : f.calls[i]? = some c) {rest : Program Verdict}
    (hs : c.stage = .inside rest) (s : Stage) :
    f.lock = .held i [] ∧ (f.setStage i s).release = { f.setStage i s with lock := .free } ∨
    ∃ j d queue, f.lock = .held i (j :: queue) ∧ j ≠ i ∧ f.calls[j]? = some d ∧
      d.stage = .waiting ∧ (f.setStage i s).release =
        { (f.setStage i s).setStage j (.inside d.probe.measure) with lock := .held j queue } := by
  obtain ⟨queue, hlock⟩ := lock_eq_held h hc hs
  cases queue with
  | nil => exact .inl ⟨hlock, by simp [release, setStage, hlock, Lock.release]⟩
  | cons j queue =>
    have hwait := Stage.eq_waiting_of_any ((h.waiting j).mpr (by simp [hlock, Lock.queue]))
    obtain ⟨d, hd, hds⟩ := Option.map_eq_some_iff.mp hwait
    have hne : j ≠ i := by
      rintro rfl
      rw [hc] at hd
      cases hd
      simp [hs] at hds
    refine .inr ⟨j, d, queue, hlock, hne, hd, hds, ?_⟩
    rw [← letIn_eq ((getElem?_setStage_of_ne hne s).trans hd)]
    simp [release, setStage, letIn, hlock, Lock.release]

theorem moved_release (net : Network σ) (h : f.Orderly) (hc : f.calls[i]? = some c)
    {rest : Program Verdict} (hs : c.stage = .inside rest) {s : Stage} (hl : Leaves rest s) :
    Moved net f (f.setStage i s).release := by
  obtain ⟨hlock, heq⟩ | ⟨j, d, queue, hlock, hne, hd, hds, heq⟩ := release_cases h hc hs s
  · rw [heq]
    exact .leaves hc hs hl hlock
  · rw [heq]
    exact .handsOver hc hs hl hlock hne hd hds

theorem moved_acquire (net : Network σ) (hc : f.calls[i]? = some c) (hs : c.stage = .called) :
    Moved net f (f.acquire i) := by
  cases hlock : f.lock with
  | free =>
    have heq : f.acquire i =
        { f.setStage i (.inside c.probe.measure) with lock := .held i [] } := by
      rw [← letIn_eq hc]
      simp [acquire, letIn, hlock, Lock.acquire]
    rw [heq]
    exact .enters hc hs hlock
  | held holder queue =>
    have heq : f.acquire i =
        { f.setStage i .waiting with lock := .held holder (queue ++ [i]) } := by
      simp [acquire, setStage, hlock, Lock.acquire]
    rw [heq]
    exact .queues hc hs hlock

theorem moved (net : Network σ) (h : f.Orderly) (m : Move) : Moved net f (f.move net m) := by
  cases m with
  | proceed i =>
    change Moved net f (f.proceed net i)
    unfold proceed
    split
    · exact .nothing
    · rename_i c hc
      split
      · rename_i hs
        split
        · exact .ends hc hs (Or.inr ⟨_, rfl⟩)
        · exact moved_acquire net hc hs
      · rename_i hs
        exact moved_release net h hc hs (.returns rfl)
      · rename_i hs
        exact .asks hc hs
      all_goals exact .nothing
  | drop i =>
    change Moved net f (f.dropCall i)
    unfold dropCall
    split
    · exact .nothing
    · rename_i c hc
      split
      · rename_i hs
        exact .ends hc hs (Or.inl rfl)
      · rename_i hs
        exact .withdraws hc hs
      · rename_i hs
        exact moved_release net h hc hs .isDropped
      all_goals exact .nothing

theorem Leaves.isIdle {rest : Program Verdict} {s : Stage} (h : Leaves rest s) :
    s.isIdle = true := by
  cases h <;> rfl

theorem isInside_eq_false {queue : List Nat} (h : Agrees none queue f.stage?)
    (hc : f.calls[i]? = some c) : c.stage.isInside = false := by
  by_contra hin
  have hholder := (h.inside i).mp (by simpa [stage?_eq hc] using hin)
  cases hholder

/-- What every move keeps. -/
theorem Moved.orderly {net : Network σ} {g : Floor σ} (h : f.Orderly) (hm : Moved net f g) :
    g.Orderly := by
  cases hm with
  | nothing => exact h
  | @ends i c s hc hs hend =>
    have hidle : s.isIdle = true := by
      rcases hend with rfl | ⟨v, rfl⟩ <;> rfl
    have hout := h.idle (stage?_eq hc) (by rw [hs]; rfl) hidle
    rwa [← stage?_setStage hc] at hout
  | @enters i c hc hs hlock =>
    unfold Orderly at h
    rw [hlock] at h
    have hin := h.enter (i := i) (t := .inside c.probe.measure) rfl
    rwa [← stage?_setStage hc] at hin
  | @queues i c holder queue hc hs hlock =>
    unfold Orderly at h
    rw [hlock] at h
    have hin := h.join (stage?_eq hc) (by rw [hs]; rfl)
    rwa [← stage?_setStage hc] at hin
  | @withdraws i c hc hs =>
    have hout := h.withdraw (t := .dropped) ((stage?_eq hc).trans (by rw [hs])) rfl
    rwa [← stage?_setStage hc, ← Lock.holder?_withdraw i, ← Lock.queue_withdraw] at hout
  | @asks i c action next hc hs =>
    have hin := h.stayIn (t := .inside (next (net.answer f.network action).1)) (stage?_eq hc)
      (by rw [hs]; rfl) rfl
    rwa [← stage?_setStage hc] at hin
  | @leaves i c rest s hc hs hl hlock =>
    unfold Orderly at h
    rw [hlock] at h
    have hout := h.leave (stage?_eq hc) (by rw [hs]; rfl) hl.isIdle
    rwa [← stage?_setStage hc] at hout
  | @handsOver i c rest s j d queue hc hs hl hlock hne hd hds =>
    unfold Orderly at h
    rw [hlock] at h
    have hout := h.leave (stage?_eq hc) (by rw [hs]; rfl) hl.isIdle
    have hin := hout.next (t := .inside d.probe.measure) rfl
    rwa [← stage?_setStage hc, ← stage?_setStage ((getElem?_setStage_of_ne hne s).trans hd)] at hin

theorem orderly_ofProbes (probes : List Probe) (network : σ) :
    (ofProbes probes network).Orderly := by
  have hstage : ∀ i s, (ofProbes probes network).stage? i = some s → s = .called := by
    intro i s hs
    simp only [stage?, ofProbes, List.getElem?_map, Option.map_map, Option.map_eq_some_iff] at hs
    obtain ⟨p, -, rfl⟩ := hs
    rfl
  refine ⟨fun i => ?_, fun i => ?_, List.nodup_nil⟩
  · cases h : (ofProbes probes network).stage? i with
    | none => simp [ofProbes, Lock.holder?]
    | some s => simp [hstage i s h, ofProbes, Lock.holder?, Stage.isInside]
  · cases h : (ofProbes probes network).stage? i with
    | none => simp [ofProbes, Lock.queue]
    | some s => simp [hstage i s h, ofProbes, Lock.queue, Stage.isWaiting]

theorem orderly_run (net : Network σ) (h : f.Orderly) (moves : List Move) :
    (f.run net moves).Orderly := by
  induction moves generalizing f with
  | nil => exact h
  | cons m moves ih => exact ih ((moved net h m).orderly h)

/-- Whoever asks a question is inside and has the lock. -/
theorem Moved.trace_eq_or_asks {net : Network σ} {g : Floor σ} (h : f.Orderly)
    (hm : Moved net f g) :
    g.trace = f.trace ∨
      ∃ (i : Nat) (c : Call) (action : Action) (next : action.Answer → Program Verdict)
        (queue : List Nat),
        f.calls[i]? = some c ∧ c.stage = .inside (.ask action next) ∧
        f.lock = .held i queue ∧ g.trace = f.trace ++ [(i, action)] := by
  cases hm with
  | @asks i c action next hc hs =>
    obtain ⟨queue, hlock⟩ := lock_eq_held h hc hs
    exact Or.inr ⟨i, c, action, next, queue, hc, hs, hlock, rfl⟩
  | nothing | ends | enters | queues | withdraws | leaves | handsOver => exact Or.inl rfl

theorem Moved.probes {net : Network σ} {g : Floor σ} (hm : Moved net f g) :
    g.calls.map Call.probe = f.calls.map Call.probe := by
  have hset : ∀ (f : Floor σ) (i : Nat) (s : Stage),
      (f.setStage i s).calls.map Call.probe = f.calls.map Call.probe := by
    intro f i s
    apply List.ext_getElem?
    intro j
    by_cases hj : j = i
    · subst hj
      simp [setStage, Function.comp_def]
    · simp [setStage, Ne.symm hj]
  cases hm with
  | nothing => rfl
  | handsOver => exact (hset _ _ _).trans (hset _ _ _)
  | ends | enters | queues | withdraws | asks | leaves => exact hset _ _ _

theorem probes_run (net : Network σ) (h : f.Orderly) (moves : List Move) :
    (f.run net moves).calls.map Call.probe = f.calls.map Call.probe := by
  induction moves generalizing f with
  | nil => rfl
  | cons m moves ih =>
    have hm := moved net h m
    exact (ih (hm.orderly h)).trans hm.probes

end Floor

end Reachability
