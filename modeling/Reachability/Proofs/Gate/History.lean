import Mathlib.Data.List.Forall2
import Mathlib.Data.List.Induction
import Reachability.Proofs.Gate.Settled

/-!
# What the steps do to a task

A task changes in a step only by what the step asks of it and then by entering. Along a
run of steps a hold that is still in line has neither been dropped nor, unless it knows of
it, been asked to finish since it came.
-/
namespace Reachability.Gate

variable (judge : Probe → Status)

/-! ### Runs -/

theorem after_append (g : Gate) (xs ys : List GateStep) :
    g.after judge (xs ++ ys) = (g.after judge xs).after judge ys := by
  induction xs generalizing g with
  | nil => rfl
  | cons x xs ih => exact ih _

theorem after_concat (g : Gate) (xs : List GateStep) (s : GateStep) :
    g.after judge (xs ++ [s]) = ((g.after judge xs).step judge s).1 :=
  after_append judge g xs [s]

theorem entries_append (g : Gate) (xs ys : List GateStep) :
    g.entries judge (xs ++ ys) = g.entries judge xs ++ (g.after judge xs).entries judge ys := by
  induction xs generalizing g with
  | nil => rfl
  | cons x xs ih => simp only [List.cons_append, entries, after, ih, List.append_assoc]

theorem entries_concat (g : Gate) (xs : List GateStep) (s : GateStep) :
    g.entries judge (xs ++ [s]) =
      g.entries judge xs ++ ((g.after judge xs).step judge s).2 := by
  rw [entries_append]
  simp [entries]

theorem after_settled (steps : List GateStep) : Settled (Gate.empty.after judge steps) := by
  induction steps using List.reverseRecOn with
  | nil => exact settled_empty
  | append_singleton steps s ih =>
    rw [after_concat]
    exact step_settled judge ih s

/-! ### One step -/

/-- A task stays as it is or, if it waits, enters. -/
def Enters (t u : Task) : Prop := u = t ∨ t.isWaiting = true ∧ u = t.enter judge

variable {judge} in
theorem Enters.trans {t u v : Task} (htu : Enters judge t u) (huv : Enters judge u v) :
    Enters judge t v := by
  rcases htu with rfl | ⟨ht, rfl⟩
  · exact huv
  · rcases huv with rfl | ⟨hu, -⟩
    · exact Or.inr ⟨ht, rfl⟩
    · simp at hu

variable {judge} in
theorem forall₂_enters_trans {ts us vs : List Task} (htu : List.Forall₂ (Enters judge) ts us)
    (huv : List.Forall₂ (Enters judge) us vs) : List.Forall₂ (Enters judge) ts vs := by
  induction htu generalizing vs with
  | nil => exact huv
  | cons h _ ih =>
    cases huv with
    | cons h' hrest => exact .cons (h.trans h') (ih hrest)

theorem forall₂_enters_refl (tasks : List Task) : List.Forall₂ (Enters judge) tasks tasks :=
  List.forall₂_same.mpr fun _ _ => Or.inl rfl

theorem letIn_enters (id : String) (tasks : List Task) :
    List.Forall₂ (Enters judge) tasks (letIn judge id tasks) := by
  induction tasks with
  | nil => exact .nil
  | cons t tasks ih =>
    unfold letIn
    split
    · rename_i h
      simp only [Bool.and_eq_true, decide_eq_true_eq] at h
      exact .cons (Or.inr ⟨h.2, rfl⟩) (forall₂_enters_refl judge tasks)
    · exact .cons (Or.inl rfl) ih

theorem handOver_enters (tasks : List Task) (lock : Lock String) :
    List.Forall₂ (Enters judge) tasks (handOver judge tasks lock).1.tasks := by
  induction lock using Lock.releaseRec generalizing tasks with
  | free =>
    rw [handOver]
    exact forall₂_enters_refl judge tasks
  | held id queue ih =>
    have hfirst := letIn_enters judge id tasks
    simp only [handOver]
    split
    · exact hfirst
    · exact forall₂_enters_trans hfirst (ih _)

/-- A step changes the tasks in two stages: they heed it, and then some of them enter. -/
theorem step_enters {g : Gate} (h : Settled g) (s : GateStep) :
    List.Forall₂ (Enters judge) (g.heeded s) (g.step judge s).1.tasks := by
  have hstep := stepped judge h s
  generalize g.step judge s = result at hstep ⊢
  cases hstep with
  | stays => exact forall₂_enters_refl judge _
  | passes => exact handOver_enters judge _ _

theorem exists_getElem?_step {g : Gate} (h : Settled g) (s : GateStep) {i : Nat} {t : Task}
    (ht : g.tasks[i]? = some t) :
    ∃ u, (g.step judge s).1.tasks[i]? = some u ∧ Enters judge (t.heed s) u := by
  have hheeded : (g.heeded s)[i]? = some (t.heed s) := by
    obtain ⟨hi, -⟩ := List.getElem?_eq_some_iff.mp ht
    rw [heeded, List.getElem?_append_left (by simpa using hi), List.getElem?_map, ht]
    rfl
  obtain ⟨hi, heq⟩ := List.getElem?_eq_some_iff.mp hheeded
  have henters := step_enters judge h s
  have henter := henters.get hi (henters.length_eq ▸ hi)
  rw [List.get_eq_getElem, heq] at henter
  exact ⟨_, List.getElem?_eq_getElem _, henter⟩

theorem exists_of_mem_step {g : Gate} (h : Settled g) {s : GateStep} {u : Task}
    (hu : u ∈ (g.step judge s).1.tasks) :
    (∃ t ∈ g.tasks, Enters judge (t.heed s) u) ∨ ∃ t ∈ s.arrivals, Enters judge t u := by
  obtain ⟨i, hi, rfl⟩ := List.mem_iff_getElem.mp hu
  have henters := step_enters judge h s
  have henter := henters.get (henters.length_eq ▸ hi) hi
  have hmem := List.get_mem (g.heeded s) ⟨i, henters.length_eq ▸ hi⟩
  rcases List.mem_append.mp hmem with hold | hnew
  · obtain ⟨t, ht, heq⟩ := List.mem_map.mp hold
    exact Or.inl ⟨t, ht, heq ▸ henter⟩
  · exact Or.inr ⟨_, hnew, henter⟩

/-! ### Holds in line -/

/-- A hold that came in a step and has neither been dropped since nor, unless it knows of
it, been asked to finish. -/
def Pending (steps : List GateStep) (t : Task) : Prop :=
  ∃ pre post, steps = pre ++ .hold t.id :: post ∧ .drop t.id ∉ post ∧
    (t.isAsked = false → .finish t.id ∉ post)

theorem Pending.concat {steps : List GateStep} {s : GateStep} {t : Task}
    (h : Pending steps t) (hdrop : s ≠ .drop t.id)
    (hfinish : t.isAsked = false → s ≠ .finish t.id) :
    Pending (steps ++ [s]) t := by
  obtain ⟨pre, post, rfl, hd, hf⟩ := h
  refine ⟨pre, post ++ [s], by simp, ?_, ?_⟩
  · simp [hd, hdrop.symm]
  · intro ha
    simp [hf ha, (hfinish ha).symm]

theorem work_heed (s : GateStep) (t : Task) : (t.heed s).work = t.work := by
  rcases Task.heed_cases s t with ⟨-, heq⟩ | ⟨-, heq⟩ | ⟨-, -, heq⟩ <;> simp [heq]

theorem Pending.heed {steps : List GateStep} {s : GateStep} {t : Task} (h : Pending steps t)
    (hw : t.work = .hold) (hin : (t.heed s).isInLine = true) :
    Pending (steps ++ [s]) (t.heed s) := by
  rcases Task.heed_cases s t with ⟨rfl, heq⟩ | ⟨-, heq⟩ | ⟨hfinish, hdrop, heq⟩
  · rw [heq] at hin ⊢
    have hasked := Task.isAsked_finish hw hin
    obtain ⟨pre, post, rfl, hd, -⟩ := h
    exact ⟨pre, post ++ [.finish t.id], by simp, by simpa using hd, by simp [hasked]⟩
  · simp [heq] at hin
  · rw [heq]
    exact h.concat hdrop fun _ => hfinish

section Enters

variable {judge}

theorem Enters.isInLine {t u : Task} (h : Enters judge t u) (hu : u.isInLine = true) :
    t.isInLine = true := by
  rcases h with rfl | ⟨ht, -⟩
  · exact hu
  · exact Task.isInLine_of_isWaiting ht

theorem Enters.pending {t u : Task} (h : Enters judge t u) {steps : List GateStep}
    (ht : Pending steps t) : Pending steps u := by
  rcases h with rfl | ⟨-, rfl⟩
  · exact ht
  · simpa [Pending] using ht

theorem Enters.id {t u : Task} (h : Enters judge t u) : u.id = t.id := by
  rcases h with rfl | ⟨-, rfl⟩ <;> simp

theorem Enters.work {t u : Task} (h : Enters judge t u) : u.work = t.work := by
  rcases h with rfl | ⟨-, rfl⟩ <;> simp

end Enters

/-- Every hold in line is one that came and has not been asked to leave without knowing it. -/
theorem pending_of_isInLine (steps : List GateStep) {t : Task}
    (ht : t ∈ (Gate.empty.after judge steps).tasks) (hw : t.work = .hold)
    (hin : t.isInLine = true) : Pending steps t := by
  induction steps using List.reverseRecOn generalizing t with
  | nil => simp [after, empty] at ht
  | append_singleton steps s ih =>
    rw [after_concat] at ht
    have hsettled := after_settled judge steps
    rcases exists_of_mem_step judge hsettled ht with ⟨u, hu, henter⟩ | ⟨u, hu, henter⟩
    · have hline := henter.isInLine hin
      have hwork : u.work = .hold := by rw [← work_heed s, ← henter.work, hw]
      have huline : u.isInLine = true := by
        by_contra h
        simp [(heed_calm s).outside u (by simpa using h)] at hline
      exact henter.pending ((ih hu hwork huline).heed hwork hline)
    · have hwork : u.work = .hold := by rw [← henter.work, hw]
      apply henter.pending
      cases s with
      | hold id =>
        rw [List.mem_singleton.mp hu]
        exact ⟨steps, [], rfl, by simp, by simp⟩
      | probe id p => simp [List.mem_singleton.mp hu] at hwork
      | finish _ | drop _ | report _ => simp [GateStep.arrivals] at hu

end Reachability.Gate
