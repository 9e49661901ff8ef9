import Reachability.Proofs.Gate.History

/-!
# No wake-up is lost

While a task waits at a settled gate a hold is inside that will let it in: one that has not
been asked to finish. Whoever leaves, and in whatever way, the lock goes to the first of
those who still wait.
-/
namespace Reachability.Gate

variable (judge : Probe → Status)

theorem filter_isRunning (tasks : List Task) :
    tasks.filter Task.isRunning = (inLine tasks).filter Task.isRunning := by
  rw [inLine, List.filter_filter]
  apply List.filter_congr
  intro t _
  cases h : t.isRunning <;> simp [Task.isInLine, h]

theorem filter_isRunning_of_waiting {tasks : List Task} (h : ∀ t ∈ tasks, t.isWaiting = true) :
    tasks.filter Task.isRunning = [] := by
  rw [List.filter_eq_nil_iff]
  intro t ht
  simp [Task.isRunning_eq_false (h t ht)]

/-- Who is inside a settled gate: nobody, and then nobody waits, or one hold. -/
theorem Settled.cases_isRunning {g : Gate} (h : Settled g) :
    (g.tasks.filter Task.isRunning = [] ∧ ∀ t ∈ g.tasks, t.isWaiting = false) ∨
    ∃ r, g.tasks.filter Task.isRunning = [r] ∧ r.work = .hold ∧ r.isAsked = false := by
  cases h with
  | @free tasks hfree =>
    left
    refine ⟨by rw [filter_isRunning, hfree]; rfl, ?_⟩
    intro t ht
    have hout := List.filter_eq_nil_iff.mp hfree t ht
    simp only [Task.isInLine, Bool.or_eq_true, not_or, Bool.not_eq_true] at hout
    exact hout.2
  | @held tasks r waiting hin hr hw ha hwait =>
    right
    refine ⟨r, ?_, hw, ha⟩
    rw [filter_isRunning, hin, List.filter_cons_of_pos hr, filter_isRunning_of_waiting hwait]

theorem eq_of_filter_isRunning {tasks : List Task} {r t : Task}
    (h : tasks.filter Task.isRunning = [r]) (ht : t ∈ tasks) (hr : t.isRunning = true) : t = r := by
  have hmem : t ∈ tasks.filter Task.isRunning := List.mem_filter.mpr ⟨ht, hr⟩
  rw [h] at hmem
  exact List.mem_singleton.mp hmem

theorem head?_handOver (tasks : List Task) (lock : Lock String) :
    (handOver judge tasks lock).2.head? = lock.line.head? := by
  cases lock with
  | free =>
    rw [handOver]
    rfl
  | held id queue =>
    simp only [handOver]
    split <;> rfl

theorem head?_step_of_leaves {g : Gate} (h : Settled g) {s : GateStep} {r : Task}
    (hr : r ∈ g.tasks) (hrun : r.isRunning = true) (hgone : r ∉ (g.step judge s).1.tasks) :
    (g.step judge s).2.head? = (((g.heeded s).filter Task.isWaiting).map Task.id).head? := by
  have hstep := stepped judge h s
  generalize g.step judge s = result at hstep hgone ⊢
  cases hstep with
  | @stays u waiting hu hin hurun hw ha hwait =>
    have hone : u = r := by
      rcases h.cases_isRunning with ⟨hnone, -⟩ | ⟨v, hv, -⟩
      · exact absurd (List.mem_filter.mpr ⟨hr, hrun⟩) (by simp [hnone])
      · rw [eq_of_filter_isRunning hv hu hurun, eq_of_filter_isRunning hv hr hrun]
    exact absurd (mem_of_inLine hin) (hone ▸ hgone)
  | passes hin hwait hline =>
    have hquiet := quiet_of_inLine (hin ▸ hwait)
    rw [head?_handOver, ← inLine_eq_of_quiet hquiet, hin, hline]

theorem holder_while_waiting (steps : List GateStep)
    (h : ∃ t ∈ (Gate.empty.after judge steps).tasks, t.isWaiting = true) :
    ∃ r, (Gate.empty.after judge steps).tasks.filter Task.isRunning = [r] ∧ r.work = .hold ∧
      r.isAsked = false ∧ ∃ pre post, steps = pre ++ .hold r.id :: post ∧
        .finish r.id ∉ post ∧ .drop r.id ∉ post := by
  rcases (after_settled judge steps).cases_isRunning with ⟨-, hnone⟩ | ⟨r, hr, hw, ha⟩
  · obtain ⟨t, ht, hwait⟩ := h
    simp [hnone t ht] at hwait
  · have hmem : r ∈ (Gate.empty.after judge steps).tasks.filter Task.isRunning := by simp [hr]
    obtain ⟨hmem, hrun⟩ := List.mem_filter.mp hmem
    obtain ⟨pre, post, heq, hdrop, hfinish⟩ :=
      pending_of_isInLine judge steps hmem hw (Task.isInLine_of_isRunning hrun)
    exact ⟨r, hr, hw, ha, pre, post, heq, hfinish ha, hdrop⟩

/-- After any steps at most one task is inside. While a task waits exactly one is inside,
and it is a hold that has been neither asked to finish nor dropped since it came. When the
task inside leaves, the first of those who still wait enters in the same step. Once every
hold has been asked to finish or dropped after it came, nobody waits. -/
theorem no_lost_wakeup (steps : List GateStep) :
    let g := Gate.empty.after judge steps
    (g.tasks.filter Task.isRunning).length ≤ 1 ∧
    ((∃ t ∈ g.tasks, t.isWaiting = true) →
      ∃ r, g.tasks.filter Task.isRunning = [r] ∧ r.work = .hold ∧ r.isAsked = false ∧
        ∃ pre post, steps = pre ++ .hold r.id :: post ∧
          .finish r.id ∉ post ∧ .drop r.id ∉ post) ∧
    (∀ s, ∀ r ∈ g.tasks, r.isRunning = true → r ∉ (g.step judge s).1.tasks →
      (g.step judge s).2.head? = (((g.heeded s).filter Task.isWaiting).map Task.id).head?) ∧
    ((∀ pre id post, steps = pre ++ .hold id :: post → .finish id ∈ post ∨ .drop id ∈ post) →
      ∀ t ∈ g.tasks, t.isWaiting = false) := by
  have hsettled := after_settled judge steps
  refine ⟨?_, holder_while_waiting judge steps, ?_, ?_⟩
  · rcases hsettled.cases_isRunning with ⟨hnone, -⟩ | ⟨r, hone, -⟩
    · simp [hnone]
    · simp [hone]
  · intro s r hr hrun hgone
    exact head?_step_of_leaves judge hsettled hr hrun hgone
  · intro hends t ht
    by_contra hwait
    obtain ⟨r, -, -, -, pre, post, heq, hfinish, hdrop⟩ :=
      holder_while_waiting judge steps ⟨t, ht, by simpa using hwait⟩
    rcases hends pre r.id post heq with h | h
    · exact hfinish h
    · exact hdrop h

end Reachability.Gate
