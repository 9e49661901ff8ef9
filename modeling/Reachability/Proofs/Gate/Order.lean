import Mathlib.Data.List.Nodup
import Mathlib.Logic.Relation
import Reachability.Proofs.Gate.History

/-!
# The order of entry

Tasks enter in the order in which they came. The lock keeps those who wait in that order,
and a drop takes its task out of the queue and moves nobody else. So those who have entered,
followed by those who still wait, are those who came and were not turned away, in order,
without those who were dropped while they waited.
-/
namespace Reachability

def GateStep.started? : GateStep → Option String
  | .hold id | .probe id _ => some id
  | .finish _ | .drop _ | .report _ => none

/-- The task that asks for the lock in a step: it is started and passes its checks. -/
def GateStep.admitted? : GateStep → Option String
  | .hold id => some id
  | .probe id p => if p.violation?.isNone then some id else none
  | .finish _ | .drop _ | .report _ => none

/-- The moves of a task from one state to the next. -/
inductive TaskState.Next : TaskState → TaskState → Prop
  | enter : Next .waiting .running
  | finish : Next .running .finished
  | judge (status : Status) : Next .running (.judged status)
  | giveUp : Next .waiting .dropped
  | cutOff : Next .running .dropped

namespace Gate

variable (judge : Probe → Status)

def waitingIds (g : Gate) : List String := (g.tasks.filter Task.isWaiting).map Task.id

def abandons (g : Gate) (s : GateStep) : List String :=
  g.waitingIds.filter fun id => s = .drop id

/-- Those who are dropped while they wait in the course of the steps. -/
def abandoned (g : Gate) : List GateStep → List String
  | [] => []
  | s :: rest => g.abandons s ++ abandoned (g.step judge s).1 rest

theorem abandoned_concat (g : Gate) (xs : List GateStep) (s : GateStep) :
    g.abandoned judge (xs ++ [s]) = g.abandoned judge xs ++ (g.after judge xs).abandons s := by
  induction xs generalizing g with
  | nil => simp [abandoned, after]
  | cons x xs ih => simp only [List.cons_append, abandoned, after, ih, List.append_assoc]

theorem mem_abandons {g : Gate} {s : GateStep} {id : String} :
    id ∈ g.abandons s ↔ id ∈ g.waitingIds ∧ s = .drop id := by
  simp [abandons]

/-! ### One step -/

/-- Those who enter are at the front of the line, and the rest of it waits on. -/
theorem handOver_queue (tasks : List Task) (lock : Lock String) :
    (handOver judge tasks lock).2 ++ (handOver judge tasks lock).1.lock.queue = lock.line := by
  induction lock using Lock.releaseRec generalizing tasks with
  | free =>
    rw [handOver]
    rfl
  | held id queue ih =>
    simp only [handOver]
    split
    · rfl
    · rw [List.cons_append, ih, Lock.line_release]
      rfl

theorem Settled.queue_eq {g : Gate} (h : Settled g) : g.lock.queue = g.waitingIds := by
  have hfilter : ∀ tasks, tasks.filter Task.isWaiting = (inLine tasks).filter Task.isWaiting := by
    intro tasks
    rw [inLine, List.filter_filter]
    apply List.filter_congr
    intro t _
    cases hw : t.isWaiting <;> simp [Task.isInLine, hw]
  cases h with
  | @free tasks hfree => simp [waitingIds, hfilter tasks, hfree, Lock.queue]
  | @held tasks r waiting hin hr hw ha hwait =>
    have hr' : r.isWaiting = false := by
      by_contra hwr
      simp [Task.isRunning_eq_false (by simpa using hwr)] at hr
    rw [waitingIds, hfilter tasks, hin, List.filter_cons_of_neg (by simp [hr']),
      List.filter_eq_self.mpr hwait]
    rfl

theorem step_entered {g : Gate} (h : Settled g) (s : GateStep) :
    (g.step judge s).2 ++ (g.step judge s).1.waitingIds =
      ((g.heeded s).filter Task.isWaiting).map Task.id := by
  have hsettled := step_settled judge h s
  have hstep := stepped judge h s
  generalize g.step judge s = result at hstep hsettled ⊢
  cases hstep with
  | stays => rfl
  | passes hin hwait hline =>
    have hquiet := quiet_of_inLine (hin ▸ hwait)
    rw [← hsettled.queue_eq, handOver_queue, ← inLine_eq_of_quiet hquiet, hin, hline]

theorem isWaiting_heed (s : GateStep) (t : Task) :
    (t.heed s).isWaiting = (t.isWaiting && decide (s ≠ .drop t.id)) := by
  rcases Task.heed_cases s t with ⟨rfl, heq⟩ | ⟨rfl, heq⟩ | ⟨-, hdrop, heq⟩
  · simp [heq]
  · simp [heq]
  · simp [heq, hdrop]

theorem arrivals_waiting (s : GateStep) :
    (s.arrivals.filter Task.isWaiting).map Task.id = s.admitted?.toList := by
  cases s with
  | probe id p =>
    cases h : p.violation? <;>
      simp [GateStep.arrivals, GateStep.admitted?, arrival, h, Task.isWaiting]
  | hold _ | finish _ | drop _ | report _ => rfl

/-- A step takes out of the line whom it drops and puts at its end whom it admits. -/
theorem heeded_waiting (g : Gate) (s : GateStep) :
    ((g.heeded s).filter Task.isWaiting).map Task.id =
      (g.waitingIds.filter fun id => s ≠ .drop id) ++ s.admitted?.toList := by
  rw [heeded, List.filter_append, List.map_append, arrivals_waiting]
  congr 1
  rw [waitingIds, List.filter_map, List.filter_map, List.filter_filter, List.map_map]
  have hfilter : g.tasks.filter (Task.isWaiting ∘ Task.heed s) =
      g.tasks.filter fun t => (((fun id => decide (s ≠ .drop id)) ∘ Task.id) t && t.isWaiting) := by
    apply List.filter_congr
    intro t _
    rw [Function.comp_apply, isWaiting_heed, Bool.and_comm]
    rfl
  rw [hfilter]
  apply List.map_congr_left
  intro t _
  exact (heed_calm s).id t

theorem step_order {g : Gate} (h : Settled g) (s : GateStep) :
    (g.step judge s).2 ++ (g.step judge s).1.waitingIds =
      (g.waitingIds.filter fun id => s ≠ .drop id) ++ s.admitted?.toList := by
  rw [step_entered judge h, heeded_waiting]

/-! ### Runs -/

theorem filter_not_mem_abandons (g : Gate) (s : GateStep) :
    g.waitingIds.filter (fun id => id ∉ g.abandons s) =
      g.waitingIds.filter fun id => s ≠ .drop id := by
  apply List.filter_congr
  intro id hid
  simp [mem_abandons, hid]

theorem append_eq_filter {entered waiting known lost gone new : List String}
    (h : entered ++ waiting = known.filter (· ∉ lost)) (nodup : (known ++ new).Nodup)
    (hlost : ∀ id ∈ lost, id ∈ known) (hgone : ∀ id ∈ gone, id ∈ waiting) :
    entered ++ (waiting.filter (· ∉ gone) ++ new) =
      (known ++ new).filter (· ∉ lost ++ gone) := by
  obtain ⟨hknown, -, hnew⟩ := List.nodup_append.mp nodup
  have hparts : (entered ++ waiting).Nodup := h ▸ hknown.filter _
  have hmem : ∀ id ∈ gone, id ∈ known := by
    intro id hid
    have hline : id ∈ entered ++ waiting := List.mem_append_right _ (hgone id hid)
    rw [h] at hline
    exact List.mem_of_mem_filter hline
  have hentered : entered.filter (· ∉ gone) = entered := by
    apply List.filter_eq_self.mpr
    intro id hid
    have hout : id ∉ gone := fun hlate =>
      (List.nodup_append.mp hparts).2.2 id hid id (hgone id hlate) rfl
    simpa using hout
  have hstay : new.filter (· ∉ lost ++ gone) = new := by
    apply List.filter_eq_self.mpr
    intro id hid
    have hout : id ∉ lost ++ gone := by
      intro hleft
      rcases List.mem_append.mp hleft with hleft | hleft
      · exact hnew id (hlost id hleft) id hid rfl
      · exact hnew id (hmem id hleft) id hid rfl
    simpa using hout
  have hsplit : known.filter (· ∉ lost ++ gone) =
      (known.filter (· ∉ lost)).filter (· ∉ gone) := by
    rw [List.filter_filter]
    apply List.filter_congr
    intro id _
    by_cases hid : id ∈ lost <;> simp [hid]
  calc
    _ = (entered ++ waiting).filter (· ∉ gone) ++ new := by
      rw [List.filter_append, hentered, List.append_assoc]
    _ = _ := by
      rw [h, List.filter_append, hstay, hsplit]

/-- Those who have entered, then those who wait: all whom the steps admitted, without those
who were dropped while they waited. -/
theorem entries_append_waitingIds (steps : List GateStep)
    (distinct : (steps.filterMap GateStep.admitted?).Nodup) :
    Gate.empty.entries judge steps ++ (Gate.empty.after judge steps).waitingIds =
        (steps.filterMap GateStep.admitted?).filter (· ∉ Gate.empty.abandoned judge steps) ∧
      ∀ id ∈ Gate.empty.abandoned judge steps, id ∈ steps.filterMap GateStep.admitted? := by
  induction steps using List.reverseRecOn with
  | nil => exact ⟨rfl, by simp [abandoned]⟩
  | append_singleton steps s ih =>
    have hnew : (steps ++ [s]).filterMap GateStep.admitted? =
        steps.filterMap GateStep.admitted? ++ s.admitted?.toList := by
      rw [List.filterMap_append]
      cases h : s.admitted? <;> simp [h]
    rw [hnew] at distinct ⊢
    obtain ⟨hold, hsub⟩ := ih (List.nodup_append.mp distinct).1
    rw [entries_concat, after_concat, abandoned_concat, List.append_assoc,
      step_order judge (after_settled judge steps), ← filter_not_mem_abandons]
    have hgone : ∀ id ∈ (Gate.empty.after judge steps).abandons s,
        id ∈ (Gate.empty.after judge steps).waitingIds := fun id hid => (mem_abandons.mp hid).1
    refine ⟨append_eq_filter hold distinct hsub hgone, ?_⟩
    intro id hid
    apply List.mem_append_left
    rcases List.mem_append.mp hid with hid | hid
    · exact hsub id hid
    · have hline := List.mem_append_right (Gate.empty.entries judge steps) (hgone id hid)
      rw [hold] at hline
      exact List.mem_of_mem_filter hline

/-! ### States -/

theorem next_heed (s : GateStep) (t : Task) :
    Relation.ReflTransGen TaskState.Next t.state (t.heed s).state := by
  rcases Task.heed_cases s t with ⟨-, heq⟩ | ⟨-, heq⟩ | ⟨-, -, heq⟩
  · rw [heq, Task.finish]
    split
    · exact .refl
    · rename_i hs
      exact .single (hs ▸ .finish)
    · exact .refl
  · rw [heq, Task.drop]
    split
    · rename_i hs
      exact .single (hs ▸ .giveUp)
    · rename_i hs
      exact .single (hs ▸ .cutOff)
    · exact .refl
  · rw [heq]

theorem next_enter {t : Task} (h : t.isWaiting = true) :
    Relation.ReflTransGen TaskState.Next t.state (t.enter judge).state := by
  have hs : t.state = .waiting := by simpa [Task.isWaiting] using h
  have hin : Relation.ReflTransGen TaskState.Next t.state .running := .single (hs ▸ .enter)
  unfold Task.enter
  split
  · cases t.isAsked with
    | true => exact hin.tail .finish
    | false => exact hin
  · exact hin.tail (.judge _)

theorem heed_eq_self {t : Task} (h : t.isInLine = false) (s : GateStep) : t.heed s = t := by
  rcases Task.heed_cases s t with ⟨-, heq⟩ | ⟨-, heq⟩ | ⟨-, -, heq⟩
  · rw [heq, Task.finish_eq_self h]
  · rw [heq, Task.drop_eq_self h]
  · exact heq

theorem step_next {g : Gate} (h : Settled g) (s : GateStep) {i : Nat} {t : Task}
    (ht : g.tasks[i]? = some t) :
    ∃ u, (g.step judge s).1.tasks[i]? = some u ∧ u.id = t.id ∧ u.work = t.work ∧
      Relation.ReflTransGen TaskState.Next t.state u.state ∧ (t.isInLine = false → u = t) := by
  obtain ⟨u, hu, henter⟩ := exists_getElem?_step judge h s ht
  have hid := henter.id.trans ((heed_calm s).id t)
  have hwork := henter.work.trans (work_heed s t)
  refine ⟨u, hu, hid, hwork, ?_, ?_⟩
  · rcases henter with rfl | ⟨hwait, rfl⟩
    · exact next_heed s t
    · exact (next_heed s t).trans (next_enter judge hwait)
  · intro hout
    rw [heed_eq_self hout] at henter
    rcases henter with rfl | ⟨hwait, -⟩
    · rfl
    · simp [Task.isInLine, hwait] at hout

theorem filterMap_admitted?_sublist (steps : List GateStep) :
    (steps.filterMap GateStep.admitted?).Sublist (steps.filterMap GateStep.started?) := by
  induction steps with
  | nil => exact .slnil
  | cons s steps ih =>
    cases s with
    | hold id => exact ih.cons_cons id
    | probe id p =>
      cases h : p.violation? with
      | none => simpa [GateStep.admitted?, GateStep.started?, h] using ih
      | some v => simpa [GateStep.admitted?, GateStep.started?, h] using ih.cons id
    | finish _ | drop _ | report _ => exact ih

/-- Whatever the steps, those who have entered and then those who wait are all whom the
steps admitted, in that order, without those who were dropped while they waited. Nobody
enters twice. In every further step those who enter are the first of the line, and every
task moves on or, once it is out of line, stays as it is. -/
theorem entries_in_order (steps : List GateStep)
    (distinct : (steps.filterMap GateStep.started?).Nodup) :
    let g := Gate.empty.after judge steps
    let entered := Gate.empty.entries judge steps
    entered ++ g.waitingIds = (steps.filterMap GateStep.admitted?).filter
        (· ∉ Gate.empty.abandoned judge steps) ∧
    entered.Nodup ∧
    (∀ s, (g.step judge s).2 ++ (g.step judge s).1.waitingIds =
      ((g.heeded s).filter Task.isWaiting).map Task.id) ∧
    (∀ (s : GateStep) (i : Nat) (t : Task), g.tasks[i]? = some t →
      ∃ u, (g.step judge s).1.tasks[i]? = some u ∧ u.id = t.id ∧ u.work = t.work ∧
        Relation.ReflTransGen TaskState.Next t.state u.state ∧ (t.isInLine = false → u = t)) := by
  have hadmitted := distinct.sublist (filterMap_admitted?_sublist steps)
  have horder := (entries_append_waitingIds judge steps hadmitted).1
  have hsettled := after_settled judge steps
  refine ⟨horder, ?_, ?_, ?_⟩
  · have hparts := hadmitted.filter (· ∉ Gate.empty.abandoned judge steps)
    rw [← horder] at hparts
    exact (List.nodup_append.mp hparts).1
  · intro s
    exact step_entered judge hsettled s
  · intro s i t ht
    exact step_next judge hsettled s ht

/-- An early finish does not overtake, and a drop leaves the order of the others alone. -/
theorem entries_in_order_of_early_finish :
    let steps : List GateStep :=
      [.hold "a", .hold "b", .hold "c", .hold "d", .finish "c", .drop "b", .finish "a"]
    (steps.filterMap GateStep.started?).Nodup ∧
    Gate.empty.entries (fun _ => .success) steps ++
      (Gate.empty.after (fun _ => .success) steps).waitingIds = ["a", "c", "d"] :=
  ⟨by decide, (entries_in_order (fun _ => .success) _ (by decide)).1.trans (by decide +kernel)⟩

end Gate

end Reachability
