import Mathlib.Data.List.Basic
import Mathlib.Logic.Function.Iterate
import Reachability.Gate

/-!
# Settled gates

Between two steps a gate is settled: the lock and the tasks agree, only a hold that nobody
has asked to finish stays inside, and nobody waits at a free lock. A step of a settled gate
has one of two forms. Either the holder stays and nobody enters, or nobody is inside and the
lock goes along all who wait. Hence every step keeps a gate settled, however many tasks the
lock passes through in its course. Of the lock alone a step is one request and then some
releases, as many as there are tasks that leave.
-/
namespace Reachability

/-- The task right after a step, before anybody enters. -/
def Task.heed (s : GateStep) (t : Task) : Task :=
  match s with
  | .finish id => t.ifNamed id Task.finish
  | .drop id => t.ifNamed id Task.drop
  | .hold _ | .probe .. | .report _ => t

theorem Task.heed_cases (s : GateStep) (t : Task) :
    s = .finish t.id ∧ t.heed s = t.finish ∨ s = .drop t.id ∧ t.heed s = t.drop ∨
      s ≠ .finish t.id ∧ s ≠ .drop t.id ∧ t.heed s = t := by
  cases s with
  | finish id =>
    by_cases h : t.id = id
    · exact Or.inl ⟨by rw [h], if_pos h⟩
    · exact Or.inr (Or.inr ⟨by simp [Ne.symm h], by simp, if_neg h⟩)
  | drop id =>
    by_cases h : t.id = id
    · exact Or.inr (Or.inl ⟨by rw [h], if_pos h⟩)
    · exact Or.inr (Or.inr ⟨by simp, by simp [Ne.symm h], if_neg h⟩)
  | hold _ | probe _ _ | report _ => exact Or.inr (Or.inr ⟨by simp, by simp, rfl⟩)

def GateStep.arrivals : GateStep → List Task
  | .hold id => [{ id, work := .hold, state := Gate.arrival .hold }]
  | .probe id p => [{ id, work := .probe p, state := Gate.arrival (.probe p) }]
  | .finish _ | .drop _ | .report _ => []

namespace Gate

variable (judge : Probe → Status)

def heeded (g : Gate) (s : GateStep) : List Task := g.tasks.map (Task.heed s) ++ s.arrivals

/-- The tasks inside or waiting, in the order in which they came. -/
def inLine (tasks : List Task) : List Task := tasks.filter Task.isInLine

/-- A gate whose lock is free while nobody is in line, or held by the first in line, a hold
that has not been asked to finish, while all others in line wait. -/
inductive Settled : Gate → Prop
  | free {tasks} : inLine tasks = [] → Settled ⟨tasks, .free⟩
  | held {tasks r waiting} : inLine tasks = r :: waiting → r.isRunning = true →
      r.work = .hold → r.isAsked = false → (∀ t ∈ waiting, t.isWaiting = true) →
      Settled ⟨tasks, .held r.id (waiting.map Task.id)⟩

theorem settled_empty : Settled .empty := .free rfl

theorem letIn_append {before : List Task} (h : ∀ t ∈ before, t.isWaiting = false)
    {t : Task} (ht : t.isWaiting = true) (after : List Task) :
    letIn judge t.id (before ++ t :: after) = before ++ t.enter judge :: after := by
  induction before with
  | nil => simp [letIn, ht]
  | cons u before ih =>
    have hu := h u (by simp)
    have hrest := ih fun v hv => h v (by simp [hv])
    simp [letIn, hu, hrest]

theorem exists_letIn {tasks : List Task} {id : String} {queue : List String}
    (h : (tasks.filter Task.isWaiting).map Task.id = id :: queue) :
    ∃ before t after, tasks = before ++ t :: after ∧ (∀ u ∈ before, u.isWaiting = false) ∧
      t.isWaiting = true ∧ t.id = id ∧ (after.filter Task.isWaiting).map Task.id = queue ∧
      letIn judge id tasks = before ++ t.enter judge :: after := by
  obtain ⟨t, rest, hf, rfl, rfl⟩ := List.map_eq_cons_iff.mp h
  obtain ⟨before, after, rfl, hb, ht, rfl⟩ := List.filter_eq_cons_iff.mp hf
  have hb' : ∀ u ∈ before, u.isWaiting = false := by simpa using hb
  exact ⟨before, t, after, rfl, hb', ht, rfl, rfl, letIn_append judge hb' ht after⟩

theorem inLine_eq_of_quiet {tasks : List Task} (h : ∀ t ∈ tasks, t.isRunning = false) :
    inLine tasks = tasks.filter Task.isWaiting := by
  apply List.filter_congr
  intro t ht
  simp [Task.isInLine, h t ht]

theorem quiet_of_inLine {tasks : List Task} (h : ∀ t ∈ inLine tasks, t.isWaiting = true) :
    ∀ t ∈ tasks, t.isRunning = false := by
  intro t ht
  by_contra hr
  have hmem : t ∈ inLine tasks := List.mem_filter.mpr ⟨ht, by simp [Task.isInLine, hr]⟩
  simp [Task.isRunning_eq_false (h t hmem)] at hr

theorem isInside_eq_false {tasks : List Task} (h : ∀ t ∈ tasks, t.isRunning = false)
    (id : String) : isInside id tasks = false := by
  simp only [isInside, List.any_eq_false, Bool.and_eq_true, not_and]
  intro t ht _
  simp [h t ht]

/-- Handing the lock along the line of those who wait settles the gate, whether they stay,
have been asked to finish or are done at once. -/
theorem handOver_settled {tasks : List Task} {lock : Lock String}
    (quiet : ∀ t ∈ tasks, t.isRunning = false)
    (hline : (tasks.filter Task.isWaiting).map Task.id = lock.line) :
    Settled (handOver judge tasks lock).1 := by
  induction lock using Lock.releaseRec generalizing tasks with
  | free =>
    rw [handOver]
    apply Settled.free
    rw [inLine_eq_of_quiet quiet]
    exact List.map_eq_nil_iff.mp hline
  | held id queue ih =>
    obtain ⟨before, t, after, rfl, hb, ht, rfl, hq, hin⟩ := exists_letIn judge hline
    have hquiet : ∀ u ∈ before ++ after, u.isRunning = false := by
      intro u hu
      apply quiet u
      simp only [List.mem_append, List.mem_cons] at hu ⊢
      tauto
    simp only [handOver, hin]
    cases hr : (t.enter judge).isRunning with
    | true =>
      have hinside : isInside t.id (before ++ t.enter judge :: after) = true := by
        simp [isInside, hr]
      obtain ⟨hw, ha, he⟩ := Task.enter_of_isRunning hr
      have hline : inLine (before ++ t.enter judge :: after) =
          t.enter judge :: after.filter Task.isWaiting := by
        have hbefore : inLine before = [] := by
          rw [inLine_eq_of_quiet fun u hu => hquiet u (by simp [hu])]
          simpa using hb
        have hafter : inLine after = after.filter Task.isWaiting :=
          inLine_eq_of_quiet fun u hu => hquiet u (by simp [hu])
        simp only [inLine] at hbefore hafter ⊢
        rw [List.filter_append, hbefore, List.filter_cons_of_pos (by simp [Task.isInLine, hr]),
          hafter, List.nil_append]
      have hsettled := Settled.held hline hr (by simp [he, hw]) (by simp [he, ha])
        (fun u hu => (List.mem_filter.mp hu).2)
      simpa [hinside, ← hq] using hsettled
    | false =>
      have hquiet' : ∀ u ∈ before ++ t.enter judge :: after, u.isRunning = false := by
        intro u hu
        simp only [List.mem_append, List.mem_cons] at hu
        rcases hu with hu | rfl | hu
        · exact hquiet u (by simp [hu])
        · exact hr
        · exact hquiet u (by simp [hu])
      rw [if_neg (by simp [isInside_eq_false hquiet'])]
      have hb' : before.filter Task.isWaiting = [] := by simpa using hb
      apply ih hquiet'
      rw [Lock.line_release, Lock.line, List.tail_cons]
      simpa [hb'] using hq

/-- What a request may do to the tasks: a task that it touches keeps its place in line or
is out of line for good. -/
structure Calm (f : Task → Task) : Prop where
  id : ∀ t, (f t).id = t.id
  outside : ∀ t, t.isInLine = false → (f t).isInLine = false
  running : ∀ t, t.isRunning = true → f t = t ∨ (f t).isInLine = false
  waiting : ∀ t, t.isWaiting = true → (f t).isWaiting = true ∨ (f t).isInLine = false

namespace Calm

variable {f : Task → Task}

theorem inLine_map (h : Calm f) (tasks : List Task) :
    inLine (tasks.map f) = ((inLine tasks).map f).filter Task.isInLine := by
  induction tasks with
  | nil => rfl
  | cons t tasks ih =>
    cases ht : t.isInLine with
    | true =>
      simp only [inLine, List.map_cons, List.filter_cons, ht, if_true] at ih ⊢
      rw [ih]
    | false =>
      simp only [inLine, List.map_cons, List.filter_cons, ht, h.outside t ht,
        Bool.false_eq_true, if_false] at ih ⊢
      exact ih

theorem waiting_rest (h : Calm f) {waiting : List Task} (hw : ∀ t ∈ waiting, t.isWaiting = true) :
    ∀ t ∈ (waiting.map f).filter Task.isInLine, t.isWaiting = true := by
  intro t ht
  obtain ⟨ht, hin⟩ := List.mem_filter.mp ht
  obtain ⟨u, hu, rfl⟩ := List.mem_map.mp ht
  rcases h.waiting u (hw u hu) with hwait | hout
  · exact hwait
  · rw [hout] at hin
    contradiction

theorem ifNamed (h : Calm f) (id : String) : Calm (Task.ifNamed id f) where
  id t := by
    unfold Task.ifNamed
    split
    · exact h.id t
    · rfl
  outside t ht := by
    unfold Task.ifNamed
    split
    · exact h.outside t ht
    · exact ht
  running t ht := by
    unfold Task.ifNamed
    split
    · exact h.running t ht
    · exact Or.inl rfl
  waiting t ht := by
    unfold Task.ifNamed
    split
    · exact h.waiting t ht
    · exact Or.inl ht

theorem finish : Calm Task.finish where
  id := Task.id_finish
  outside t ht := by rw [Task.finish_eq_self ht, ht]
  running t ht := by
    unfold Task.finish
    split <;> simp_all [Task.isInLine, Task.isWaiting, Task.isRunning]
  waiting t ht := Or.inl (by simpa using ht)

theorem drop : Calm Task.drop where
  id := Task.id_drop
  outside t _ := t.isInLine_drop
  running t _ := Or.inr t.isInLine_drop
  waiting t _ := Or.inr t.isInLine_drop

end Calm

theorem finish_queue (id : String) {waiting : List Task} (h : ∀ t ∈ waiting, t.isWaiting = true) :
    ((waiting.map (Task.ifNamed id Task.finish)).filter Task.isInLine).map Task.id =
      waiting.map Task.id := by
  have hline : ∀ t ∈ waiting.map (Task.ifNamed id Task.finish), t.isInLine = true := by
    intro t ht
    obtain ⟨u, hu, rfl⟩ := List.mem_map.mp ht
    unfold Task.ifNamed
    split <;> simp [Task.isInLine, h u hu]
  rw [List.filter_eq_self.mpr hline, List.map_map]
  apply List.map_congr_left
  intro t _
  exact (Calm.finish.ifNamed id).id t

theorem drop_queue (id : String) {waiting : List Task} (h : ∀ t ∈ waiting, t.isWaiting = true) :
    ((waiting.map (Task.ifNamed id Task.drop)).filter Task.isInLine).map Task.id =
      (waiting.map Task.id).filter (· ≠ id) := by
  induction waiting with
  | nil => rfl
  | cons t waiting ih =>
    have hrest := ih fun u hu => h u (by simp [hu])
    have ht : t.isInLine = true := by simp [Task.isInLine, h t (by simp)]
    by_cases hid : t.id = id
    · simpa [Task.ifNamed, hid] using hrest
    · simpa [Task.ifNamed, hid, ht] using hrest

theorem heeded_of_arrivals {g : Gate} {s : GateStep} (h : s.arrivals = []) :
    g.heeded s = g.tasks.map (Task.heed s) := by
  rw [heeded, h, List.append_nil]

theorem heed_calm (s : GateStep) : Calm (Task.heed s) := by
  cases s with
  | finish id => exact Calm.finish.ifNamed id
  | drop id => exact Calm.drop.ifNamed id
  | hold _ | probe _ _ | report _ => exact ⟨fun _ => rfl, fun _ h => h, fun _ _ => Or.inl rfl,
      fun _ h => Or.inl h⟩

/-- The two forms of a step, by the tasks before it and those right after its request. -/
inductive Stepped (old tasks : List Task) : Gate × List String → Prop
  | stays {r waiting} : r ∈ old → inLine tasks = r :: waiting → r.isRunning = true →
      r.work = .hold → r.isAsked = false → (∀ t ∈ waiting, t.isWaiting = true) →
      Stepped old tasks (⟨tasks, .held r.id (waiting.map Task.id)⟩, [])
  | passes {waiting lock} : inLine tasks = waiting → (∀ t ∈ waiting, t.isWaiting = true) →
      lock.line = waiting.map Task.id → Stepped old tasks (handOver judge tasks lock)

theorem Stepped.free {old tasks : List Task} (h : inLine tasks = []) :
    Stepped judge old tasks (⟨tasks, .free⟩, []) := by
  have hstep : Stepped judge old tasks (handOver judge tasks .free) := .passes h (by simp) rfl
  rwa [handOver] at hstep

theorem mem_of_inLine {tasks waiting : List Task} {r : Task} (h : inLine tasks = r :: waiting) :
    r ∈ tasks :=
  List.mem_of_mem_filter (h ▸ List.mem_cons_self : r ∈ inLine tasks)

theorem arrive_stepped {g : Gate} (h : Settled g) (id : String) (work : Work) :
    Stepped judge g.tasks (g.tasks ++ [{ id, work, state := arrival work }])
      (g.arrive judge id work) := by
  unfold arrive
  rcases arrival_eq work with hwork | ⟨v, hwork⟩
  · simp only [hwork, if_true]
    have hline : ∀ tasks, inLine (tasks ++ [⟨id, work, .waiting, false⟩]) =
        inLine tasks ++ [⟨id, work, .waiting, false⟩] :=
      fun tasks => List.filter_append tasks _
    cases h with
    | @free tasks hfree =>
      have hfirst := hline tasks
      rw [hfree, List.nil_append] at hfirst
      exact .passes hfirst (by simp [Task.isWaiting]) rfl
    | @held tasks r waiting hin hr hw ha hwait =>
      have hlast := hline tasks
      rw [hin, List.cons_append] at hlast
      have hwait' : ∀ t ∈ waiting ++ [⟨id, work, .waiting, false⟩], t.isWaiting = true := by
        intro t ht
        rcases List.mem_append.mp ht with ht | ht
        · exact hwait t ht
        · rw [List.mem_singleton.mp ht]
          rfl
      have hstep : Stepped judge _ _ _ := .stays (mem_of_inLine hin) hlast hr hw ha hwait'
      rwa [List.map_append] at hstep
  · simp only [hwork, reduceCtorEq, if_false]
    have hline : ∀ tasks, inLine (tasks ++ [⟨id, work, .rejected v, false⟩]) = inLine tasks :=
      fun tasks => (List.filter_append tasks _).trans (List.append_nil _)
    cases h with
    | @free tasks hfree => exact .free judge ((hline tasks).trans hfree)
    | @held tasks r waiting hin hr hw ha hwait =>
      exact .stays (mem_of_inLine hin) ((hline tasks).trans hin) hr hw ha hwait

theorem settle_stepped {tasks waiting : List Task} {r : Task} (hin : inLine tasks = r :: waiting)
    (hr : r.isRunning = true) (hw : r.work = .hold) (ha : r.isAsked = false)
    (hwait : ∀ t ∈ waiting, t.isWaiting = true) {f : Task → Task} (hf : Calm f) :
    Stepped judge tasks (tasks.map f) (settle judge (tasks.map f)
      (.held r.id (((waiting.map f).filter Task.isInLine).map Task.id))) := by
  have hrest := hf.waiting_rest hwait
  have hmap := hf.inLine_map tasks
  rw [hin, List.map_cons] at hmap
  rcases hf.running r hr with hkeep | hgone
  · have hline : inLine (tasks.map f) = r :: (waiting.map f).filter Task.isInLine := by
      rw [hmap, hkeep, List.filter_cons_of_pos (by simp [Task.isInLine, hr])]
    have hinside : isInside r.id (tasks.map f) = true :=
      List.any_eq_true.mpr ⟨r, mem_of_inLine hline, by simp [hr]⟩
    rw [settle, if_pos hinside]
    exact .stays (mem_of_inLine hin) hline hr hw ha hrest
  · have hline : inLine (tasks.map f) = (waiting.map f).filter Task.isInLine := by
      rw [hmap, List.filter_cons_of_neg (by simp [hgone])]
    have hquiet := quiet_of_inLine (hline ▸ hrest)
    rw [settle, if_neg (by simp [isInside_eq_false hquiet])]
    exact .passes hline hrest (Lock.line_release _)

theorem stepped {g : Gate} (h : Settled g) (s : GateStep) :
    Stepped judge g.tasks (g.heeded s) (g.step judge s) := by
  cases s with
  | hold id =>
    have hmap : g.tasks.map (Task.heed (.hold id)) = g.tasks := List.map_id' _
    rw [heeded, hmap]
    exact arrive_stepped judge h id .hold
  | probe id p =>
    have hmap : g.tasks.map (Task.heed (.probe id p)) = g.tasks := List.map_id' _
    rw [heeded, hmap]
    exact arrive_stepped judge h id (.probe p)
  | finish id =>
    rw [heeded_of_arrivals rfl]
    cases h with
    | free h => exact .free judge (((heed_calm (.finish id)).inLine_map _).trans (by rw [h]; rfl))
    | held hin hr hw ha hwait =>
      have hs := settle_stepped judge hin hr hw ha hwait (Calm.finish.ifNamed id)
      rw [finish_queue id hwait] at hs
      exact hs
  | drop id =>
    rw [heeded_of_arrivals rfl]
    cases h with
    | free h => exact .free judge (((heed_calm (.drop id)).inLine_map _).trans (by rw [h]; rfl))
    | held hin hr hw ha hwait =>
      have hs := settle_stepped judge hin hr hw ha hwait (Calm.drop.ifNamed id)
      rw [drop_queue id hwait] at hs
      exact hs
  | report exportType =>
    have hmap : g.tasks.map (Task.heed (.report exportType)) = g.tasks := List.map_id' _
    rw [heeded_of_arrivals rfl, hmap]
    cases h with
    | free h => exact .free judge h
    | held hin hr hw ha hwait => exact .stays (mem_of_inLine hin) hin hr hw ha hwait

/-- What every step keeps. -/
theorem step_settled {g : Gate} (h : Settled g) (s : GateStep) :
    Settled (g.step judge s).1 := by
  have hstep := stepped judge h s
  generalize g.step judge s = result at hstep ⊢
  cases hstep with
  | stays _ hin hr hw ha hwait => exact .held hin hr hw ha hwait
  | passes hin hwait hline =>
    have hquiet := quiet_of_inLine (hin ▸ hwait)
    apply handOver_settled judge hquiet
    rw [← inLine_eq_of_quiet hquiet, hin, hline]

/-! ### The lock -/

theorem lock_handOver (tasks : List Task) (lock : Lock String) :
    ∃ n, (handOver judge tasks lock).1.lock = Lock.release^[n] lock := by
  induction lock using Lock.releaseRec generalizing tasks with
  | free => exact ⟨0, by rw [handOver]; rfl⟩
  | held id queue ih =>
    simp only [handOver]
    split
    · exact ⟨0, rfl⟩
    · obtain ⟨n, hn⟩ := ih (letIn judge id tasks)
      exact ⟨n + 1, hn⟩

theorem lock_settle (tasks : List Task) (lock : Lock String) :
    ∃ n, (settle judge tasks lock).1.lock = Lock.release^[n] lock := by
  cases lock with
  | free => exact ⟨0, rfl⟩
  | held id queue =>
    simp only [settle]
    split
    · exact ⟨0, rfl⟩
    · obtain ⟨n, hn⟩ := lock_handOver judge tasks (Lock.held id queue).release
      exact ⟨n + 1, hn⟩

theorem lock_arrive (g : Gate) (id : String) (work : Work) :
    ∃ asked n, (asked = g.lock ∨ ∃ id, asked = g.lock.acquire id ∨ asked = g.lock.withdraw id) ∧
      (g.arrive judge id work).1.lock = Lock.release^[n] asked := by
  simp only [arrive]
  split
  · split
    · obtain ⟨n, hn⟩ := lock_handOver judge (g.tasks ++ [⟨id, work, arrival work, false⟩])
        (g.lock.acquire id)
      exact ⟨_, n, .inr ⟨id, .inl rfl⟩, hn⟩
    · exact ⟨_, 0, .inr ⟨id, .inl rfl⟩, rfl⟩
  · exact ⟨_, 0, .inl rfl, rfl⟩

/-- In a step somebody asks for the lock, or withdraws from its line, or neither. After that the
lock is only released, which gives it to the first of those who queue for it. -/
theorem lock_step (g : Gate) (s : GateStep) :
    ∃ asked n, (asked = g.lock ∨ ∃ id, asked = g.lock.acquire id ∨ asked = g.lock.withdraw id) ∧
      (g.step judge s).1.lock = Lock.release^[n] asked := by
  cases s with
  | hold id => exact lock_arrive judge g id .hold
  | probe id p => exact lock_arrive judge g id (.probe p)
  | finish id =>
    obtain ⟨n, hn⟩ := lock_settle judge (g.tasks.map (Task.ifNamed id Task.finish)) g.lock
    exact ⟨_, n, .inl rfl, hn⟩
  | drop id =>
    obtain ⟨n, hn⟩ :=
      lock_settle judge (g.tasks.map (Task.ifNamed id Task.drop)) (g.lock.withdraw id)
    exact ⟨_, n, .inr ⟨id, .inr rfl⟩, hn⟩
  | report _ => exact ⟨_, 0, .inl rfl, rfl⟩

end Gate

end Reachability
