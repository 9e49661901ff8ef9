import Reachability.Proofs.Gate.Order

/-!
# Bystanders

A call that is refused and a report never touch the lock, and a task that is dropped while
it waits never has it. So the other tasks cannot tell whether these have come at all: a run
without their steps takes every other task through the same states.
-/
namespace Reachability

def Task.isRejected (t : Task) : Bool :=
  match t.state with
  | .rejected _ => true
  | _ => false

theorem Task.isRejected_finish (t : Task) : t.finish.isRejected = t.isRejected := by
  unfold Task.finish
  split <;> simp_all [Task.isRejected]

theorem Task.isRejected_drop (t : Task) : t.drop.isRejected = t.isRejected := by
  unfold Task.drop
  split <;> simp_all [Task.isRejected]

/-- Whether a task is neither turned away nor one of those to be left out. -/
def Task.isVisible (hidden : String → Bool) (t : Task) : Bool := !hidden t.id && !t.isRejected

def GateStep.isVisible (hidden : String → Bool) : GateStep → Bool
  | .hold id | .finish id | .drop id => !hidden id
  | .probe id p => p.violation?.isNone && !hidden id
  | .report _ => false

namespace Gate

variable (judge : Probe → Status)

/-- Whether the tasks with an identifier are dropped while they wait and never enter. -/
def isHidden (steps : List GateStep) (id : String) : Bool :=
  decide (id ∈ Gate.empty.abandoned judge steps ∧ id ∉ Gate.empty.entries judge steps)

/-! ### Those inside have entered -/

theorem mem_letIn_of_isRunning {id : String} {tasks : List Task} {t : Task}
    (ht : t ∈ letIn judge id tasks) (hrun : t.isRunning = true) : t.id = id ∨ t ∈ tasks := by
  induction tasks with
  | nil => simp [letIn] at ht
  | cons u tasks ih =>
    unfold letIn at ht
    split at ht
    · rename_i hu
      simp only [Bool.and_eq_true, decide_eq_true_eq] at hu
      rcases List.mem_cons.mp ht with rfl | hmem
      · exact Or.inl (by simpa using hu.1)
      · exact Or.inr (List.mem_cons_of_mem _ hmem)
    · rcases List.mem_cons.mp ht with rfl | hmem
      · exact Or.inr List.mem_cons_self
      · exact (ih hmem).imp_right (List.mem_cons_of_mem _)

theorem mem_entered_of_isRunning {tasks : List Task} {lock : Lock String}
    (quiet : ∀ t ∈ tasks, t.isRunning = false) {t : Task}
    (ht : t ∈ (handOver judge tasks lock).1.tasks) (hrun : t.isRunning = true) :
    t.id ∈ (handOver judge tasks lock).2 := by
  induction lock using Lock.releaseRec generalizing tasks with
  | free =>
    rw [handOver] at ht
    simp [quiet t ht] at hrun
  | held id queue ih =>
    simp only [handOver] at ht ⊢
    split at ht
    · rename_i hinside
      rw [if_pos hinside]
      rcases mem_letIn_of_isRunning judge ht hrun with hid | hmem
      · simp [hid]
      · simp [quiet t hmem] at hrun
    · rename_i hinside
      rw [if_neg hinside]
      apply List.mem_cons_of_mem
      apply ih _ ht
      intro u hu
      by_contra hurun
      rcases mem_letIn_of_isRunning judge hu (by simpa using hurun) with hid | hmem
      · exact hinside (List.any_eq_true.mpr ⟨u, hu, by simpa [hid] using hurun⟩)
      · exact hurun (quiet u hmem)

theorem mem_entries_of_isRunning (steps : List GateStep) {t : Task}
    (ht : t ∈ (Gate.empty.after judge steps).tasks) (hrun : t.isRunning = true) :
    t.id ∈ Gate.empty.entries judge steps := by
  induction steps using List.reverseRecOn generalizing t with
  | nil => simp [after, empty] at ht
  | append_singleton steps s ih =>
    rw [after_concat] at ht
    rw [entries_concat]
    have hstep := stepped judge (after_settled judge steps) s
    generalize (Gate.empty.after judge steps).step judge s = result at hstep ht ⊢
    cases hstep with
    | @stays r waiting hr hin hrrun hw ha hwait =>
      have hmem : t ∈ inLine ((Gate.empty.after judge steps).heeded s) :=
        List.mem_filter.mpr ⟨ht, Task.isInLine_of_isRunning hrun⟩
      rw [hin] at hmem
      rcases List.mem_cons.mp hmem with rfl | hlate
      · exact List.mem_append_left _ (ih hr hrun)
      · simp [Task.isRunning_eq_false (hwait t hlate)] at hrun
    | passes hin hwait hline =>
      have hquiet := quiet_of_inLine (hin ▸ hwait)
      exact List.mem_append_right _ (mem_entered_of_isRunning judge hquiet ht hrun)

/-! ### Leaving tasks out -/

variable {hidden : String → Bool}

theorem isVisible_of_isInLine {t : Task} (hin : t.isInLine = true) :
    t.isVisible hidden = !hidden t.id := by
  have hr : t.isRejected = false := by
    unfold Task.isRejected
    split
    · simp_all [Task.isInLine, Task.isRunning, Task.isWaiting]
    · rfl
  simp [Task.isVisible, hr]

theorem isVisible_enter {t : Task} (hid : hidden t.id = false) :
    (t.enter judge).isVisible hidden = true := by
  have hr : (t.enter judge).isRejected = false := by
    unfold Task.enter
    split
    · cases t.isAsked <;> rfl
    · rfl
  simp [Task.isVisible, hid, hr]

theorem isVisible_heed (s : GateStep) (t : Task) :
    (t.heed s).isVisible hidden = t.isVisible hidden := by
  have hr : (t.heed s).isRejected = t.isRejected := by
    rcases Task.heed_cases s t with ⟨-, heq⟩ | ⟨-, heq⟩ | ⟨-, -, heq⟩
    · rw [heq, Task.isRejected_finish]
    · rw [heq, Task.isRejected_drop]
    · rw [heq]
  rw [Task.isVisible, Task.isVisible, hr, (heed_calm s).id]

theorem letIn_filter {id : String} (hid : hidden id = false) (tasks : List Task) :
    letIn judge id (tasks.filter (Task.isVisible hidden)) =
      (letIn judge id tasks).filter (Task.isVisible hidden) := by
  induction tasks with
  | nil => rfl
  | cons t tasks ih =>
    by_cases ht : (decide (t.id = id) && t.isWaiting) = true
    · have hparts : t.id = id ∧ t.isWaiting = true := by simpa using ht
      obtain ⟨rfl, hwait⟩ := hparts
      have hvis : t.isVisible hidden = true := by
        rw [isVisible_of_isInLine (Task.isInLine_of_isWaiting hwait), hid, Bool.not_false]
      simp [letIn, hvis, hwait, isVisible_enter judge hid]
    · cases hvis : t.isVisible hidden with
      | true =>
        simp only [letIn, List.filter_cons, hvis, ht, if_true, if_false, ih, Bool.false_eq_true]
      | false => simp only [letIn, List.filter_cons, hvis, ht, if_false, ih, Bool.false_eq_true]

theorem isInside_filter {id : String} (hid : hidden id = false) (tasks : List Task) :
    isInside id (tasks.filter (Task.isVisible hidden)) = isInside id tasks := by
  rw [isInside, isInside, List.any_filter]
  congr 1
  funext t
  by_cases ht : t.id = id ∧ t.isRunning = true
  · obtain ⟨rfl, hrun⟩ := ht
    simp [isVisible_of_isInLine (Task.isInLine_of_isRunning hrun), hid]
  · simp [ht]

/-- Those who are left out and do not enter leave no trace in a passing of the lock. -/
theorem handOver_filter {tasks : List Task} {lock lock' : Lock String}
    (hline : lock'.line = lock.line.filter (!hidden ·))
    (h : ∀ id ∈ (handOver judge tasks lock).2, hidden id = false) :
    (handOver judge (tasks.filter (Task.isVisible hidden)) lock').1.tasks =
      (handOver judge tasks lock).1.tasks.filter (Task.isVisible hidden) := by
  induction lock using Lock.releaseRec generalizing tasks lock' with
  | free =>
    obtain rfl : lock' = .free := Lock.eq_of_line_eq hline
    rw [handOver, handOver]
  | held id queue ih =>
    have hid : hidden id = false := by
      apply h id
      simp only [handOver]
      split <;> exact List.mem_cons_self
    rw [Lock.line, List.filter_cons_of_pos (by simp [hid])] at hline
    obtain rfl : lock' = .held id (queue.filter (!hidden ·)) := Lock.eq_of_line_eq hline
    simp only [handOver, letIn_filter judge hid, isInside_filter hid] at h ⊢
    split
    · rfl
    · rename_i hinside
      rw [if_neg hinside] at h
      apply ih
      · rw [Lock.line_release, Lock.line_release]
        rfl
      · exact fun i hi => h i (List.mem_cons_of_mem _ hi)

theorem inLine_filter (tasks : List Task) :
    inLine (tasks.filter (Task.isVisible hidden)) =
      (inLine tasks).filter (Task.isVisible hidden) := by
  simp [inLine, List.filter_filter, Bool.and_comm]

variable {judge} in
theorem Stepped.unique {old old' tasks : List Task} {result result' : Gate × List String}
    (h : Stepped judge old tasks result) (h' : Stepped judge old' tasks result') :
    result = result' := by
  cases h with
  | stays _ hin hr _ _ _ =>
    cases h' with
    | stays _ hin' _ _ _ _ =>
      obtain ⟨rfl, rfl⟩ := List.cons.inj (hin.symm.trans hin')
      rfl
    | passes hin' hwait _ =>
      have hw := hwait _ (hin' ▸ hin ▸ List.mem_cons_self)
      simp [Task.isRunning_eq_false hw] at hr
  | passes hin hwait hline =>
    cases h' with
    | stays _ hin' hr _ _ _ =>
      have hw := hwait _ (hin ▸ hin' ▸ List.mem_cons_self)
      simp [Task.isRunning_eq_false hw] at hr
    | passes hin' _ hline' =>
      subst hin
      rw [Lock.eq_of_line_eq (hline.trans (hin' ▸ hline'.symm))]

theorem Settled.stepped_self {g : Gate} (h : Settled g) :
    Stepped judge g.tasks g.tasks (g, []) := by
  cases h with
  | free hfree => exact .free judge hfree
  | held hin hr hw ha hwait => exact .stays (mem_of_inLine hin) hin hr hw ha hwait

variable {judge} in
/-- A step in which nobody enters who is left out, seen without those who are. -/
theorem Stepped.filter {old tasks : List Task} {result : Gate × List String}
    (h : Stepped judge old tasks result)
    (hold : ∀ r ∈ old, r.isRunning = true → hidden r.id = false)
    (hentered : ∀ id ∈ result.2, hidden id = false) :
    ∃ result', Stepped judge (old.filter (Task.isVisible hidden))
        (tasks.filter (Task.isVisible hidden)) result' ∧
      result'.1.tasks = result.1.tasks.filter (Task.isVisible hidden) := by
  cases h with
  | @stays r waiting hr hin hrun hw ha hwait =>
    have hvis : r.isVisible hidden = true := by
      rw [isVisible_of_isInLine (Task.isInLine_of_isRunning hrun), hold r hr hrun, Bool.not_false]
    have hline : inLine (tasks.filter (Task.isVisible hidden)) =
        r :: waiting.filter (Task.isVisible hidden) := by
      rw [inLine_filter, hin, List.filter_cons_of_pos hvis]
    exact ⟨_, .stays (List.mem_filter.mpr ⟨hr, hvis⟩) hline hrun hw ha
      (fun t ht => hwait t (List.mem_of_mem_filter ht)), rfl⟩
  | @passes waiting lock hin hwait hline =>
    have hin' : inLine (tasks.filter (Task.isVisible hidden)) =
        waiting.filter (Task.isVisible hidden) := by
      rw [inLine_filter, hin]
    have hids : (waiting.filter (Task.isVisible hidden)).map Task.id =
        (waiting.map Task.id).filter (!hidden ·) := by
      rw [List.filter_map]
      congr 1
      apply List.filter_congr
      intro t ht
      exact isVisible_of_isInLine (Task.isInLine_of_isWaiting (hwait t ht))
    obtain ⟨lock', hline'⟩ := Lock.exists_line_eq ((waiting.map Task.id).filter (!hidden ·))
    refine ⟨_, .passes hin' (fun t ht => hwait t (List.mem_of_mem_filter ht))
      (hline'.trans hids.symm), ?_⟩
    apply handOver_filter judge _ hentered
    rw [hline', hline]

theorem arrivals_filter (s : GateStep) :
    s.arrivals.filter (Task.isVisible hidden) =
      if s.isVisible hidden then s.arrivals else [] := by
  cases s with
  | hold id =>
    cases h : hidden id <;>
      simp [GateStep.arrivals, GateStep.isVisible, arrival, Task.isVisible, Task.isRejected, h]
  | probe id p =>
    cases hv : p.violation? <;> cases h : hidden id <;>
      simp [GateStep.arrivals, GateStep.isVisible, arrival, Task.isVisible, Task.isRejected, h, hv]
  | finish _ | drop _ | report _ => simp [GateStep.arrivals]

theorem map_heed_filter (s : GateStep) (tasks : List Task) :
    (tasks.map (Task.heed s)).filter (Task.isVisible hidden) =
      (tasks.filter (Task.isVisible hidden)).map (Task.heed s) := by
  rw [List.filter_map]
  congr 1
  apply List.filter_congr
  intro t _
  exact isVisible_heed s t

theorem heeded_filter {g g' : Gate} (hg : g'.tasks = g.tasks.filter (Task.isVisible hidden))
    {s : GateStep} (hs : s.isVisible hidden = true) :
    (g.heeded s).filter (Task.isVisible hidden) = g'.heeded s := by
  rw [heeded, heeded, List.filter_append, map_heed_filter, arrivals_filter, if_pos hs, hg]

theorem heed_of_not_isVisible {s : GateStep} (hs : ¬ s.isVisible hidden = true) {t : Task}
    (ht : t.isVisible hidden = true) : t.heed s = t := by
  simp only [Task.isVisible, Bool.and_eq_true, Bool.not_eq_true'] at ht
  rcases Task.heed_cases s t with ⟨rfl, -⟩ | ⟨rfl, -⟩ | ⟨-, -, heq⟩
  · simp [GateStep.isVisible, ht.1] at hs
  · simp [GateStep.isVisible, ht.1] at hs
  · exact heq

theorem heeded_filter_of_not_isVisible (g : Gate) {s : GateStep}
    (hs : ¬ s.isVisible hidden = true) :
    (g.heeded s).filter (Task.isVisible hidden) = g.tasks.filter (Task.isVisible hidden) := by
  rw [heeded, List.filter_append, map_heed_filter, arrivals_filter, if_neg hs, List.append_nil]
  calc
    _ = (g.tasks.filter (Task.isVisible hidden)).map id := by
      apply List.map_congr_left
      intro t ht
      exact heed_of_not_isVisible hs (List.mem_filter.mp ht).2
    _ = _ := List.map_id _

/-- Without the steps that are left out, a run in which nobody enters who is left out takes
all others through the same states. -/
theorem after_filter (steps : List GateStep)
    (h : ∀ id ∈ Gate.empty.entries judge steps, hidden id = false) :
    (Gate.empty.after judge (steps.filter (GateStep.isVisible hidden))).tasks =
      (Gate.empty.after judge steps).tasks.filter (Task.isVisible hidden) := by
  induction steps using List.reverseRecOn with
  | nil => rfl
  | append_singleton steps s ih =>
    rw [entries_concat] at h
    have hpast := ih fun id hid => h id (List.mem_append_left _ hid)
    have hinside : ∀ r ∈ (Gate.empty.after judge steps).tasks, r.isRunning = true →
        hidden r.id = false := fun r hr hrun =>
      h r.id (List.mem_append_left _ (mem_entries_of_isRunning judge steps hr hrun))
    obtain ⟨result, hresult, htasks⟩ :=
      (stepped judge (after_settled judge steps) s).filter hinside
        fun id hid => h id (List.mem_append_right _ hid)
    rw [List.filter_append, after_concat, ← htasks]
    have hsettled := after_settled judge (steps.filter (GateStep.isVisible hidden))
    by_cases hs : s.isVisible hidden = true
    · rw [heeded_filter hpast hs] at hresult
      rw [List.filter_cons_of_pos hs, List.filter_nil, after_concat,
        (stepped judge hsettled s).unique hresult]
    · rw [heeded_filter_of_not_isVisible _ hs, ← hpast] at hresult
      rw [List.filter_cons_of_neg hs, List.filter_nil, List.append_nil,
        ← (hsettled.stepped_self judge).unique hresult]

theorem isHidden_iff (steps : List GateStep)
    (distinct : (steps.filterMap GateStep.started?).Nodup) (id : String) :
    isHidden judge steps id = true ↔ id ∈ Gate.empty.abandoned judge steps := by
  have horder := (entries_append_waitingIds judge steps
    (distinct.sublist (filterMap_admitted?_sublist steps))).1
  simp only [isHidden, decide_eq_true_eq, and_iff_left_iff_imp]
  intro hlost hentered
  have hmem := List.mem_append_left (Gate.empty.after judge steps).waitingIds hentered
  rw [horder] at hmem
  simpa [hlost] using (List.mem_filter.mp hmem).2

/-- At a gate in any state a call that is refused is so at once and a report is made at once,
and both leave the lock and all tasks alone. In every run, these steps and those of the tasks
that are dropped while they wait can be left out: after each of the remaining steps every
other task is as it was. -/
theorem bystanders_unaffected (steps : List GateStep) :
    let g := Gate.empty.after judge steps
    let hidden := isHidden judge steps
    (∀ id p v, p.violation? = some v → g.step judge (.probe id p) =
      (⟨g.tasks ++ [{ id, work := .probe p, state := .rejected v }], g.lock⟩, [])) ∧
    (∀ exportType timestamp, g.step judge (.report exportType) = (g, []) ∧
      (GateStep.report exportType).report? timestamp = some (.generate exportType timestamp)) ∧
    (∀ k, (Gate.empty.after judge ((steps.take k).filter (GateStep.isVisible hidden))).tasks =
      (Gate.empty.after judge (steps.take k)).tasks.filter (Task.isVisible hidden)) ∧
    ((steps.filterMap GateStep.started?).Nodup →
      ∀ id, hidden id = true ↔ id ∈ Gate.empty.abandoned judge steps) := by
  refine ⟨?_, fun _ _ => ⟨rfl, rfl⟩, ?_, isHidden_iff judge steps⟩
  · intro id p v hv
    simp [step, arrive, arrival, hv]
  · intro k
    apply after_filter
    intro id hid
    have hmem : id ∈ Gate.empty.entries judge steps := by
      rw [← List.take_append_drop k steps, entries_append]
      exact List.mem_append_left _ hid
    simp [isHidden, hmem]

end Gate

end Reachability
