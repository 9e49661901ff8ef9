import Reachability.Proofs.Floor.Exclusion
import Reachability.Proofs.Network.Follows

/-!
# One step of a call

A call goes on as its program does, with the answers that it gets. Whatever another call does
changes nothing for it, except that it may be let in when it has waited.
-/
namespace Reachability

/-- What a call has still to do, as long as it is not dropped. -/
def Call.rest (c : Call) : Program (Except Violation Verdict) :=
  match c.stage with
  | .called | .dropped => c.probe.test
  | .waiting => .ok <$> c.probe.measure
  | .inside rest => .ok <$> rest
  | .returned verdict => .done (.ok verdict)
  | .rejected violation => .done (.error violation)

theorem Call.rest_of_ended? {c : Call} {ended : Except Violation Verdict}
    (h : c.stage.ended? = some ended) : c.rest = .done ended := by
  obtain ⟨probe, stage⟩ := c
  cases stage with
  | returned _ | rejected _ =>
    cases h
    rfl
  | called | waiting | inside _ | dropped => cases h

/-- What becomes of a call in the steps of the others. -/
inductive Call.Bystands (c : Call) : Call → Prop
  | same : Bystands c c
  | enters (h : c.stage = .waiting) : Bystands c { c with stage := .inside c.probe.measure }

namespace Call.Bystands

variable {c d : Call}

theorem rest_eq (h : c.Bystands d) : d.rest = c.rest := by
  cases h with
  | same => rfl
  | enters h => simp [rest, h]

theorem isIdle_eq (h : c.Bystands d) : d.stage.isIdle = c.stage.isIdle := by
  cases h with
  | same => rfl
  | enters h => simp [h, Stage.isIdle, Stage.isInside, Stage.isWaiting]

theorem eq_of_ne (h : c.Bystands d) (hc : c.stage ≠ .waiting) : d = c := by
  cases h with
  | same => rfl
  | enters h => exact absurd h hc

theorem stage_ne_dropped (h : c.Bystands d) (hc : c.stage ≠ .dropped) : d.stage ≠ .dropped := by
  cases h with
  | same => exact hc
  | enters h => nofun

theorem exists_of_rel {x y : Option Call} (h : Option.Rel Call.Bystands x y) (hx : x = some c) :
    ∃ d, y = some d ∧ c.Bystands d := by
  subst hx
  cases h with
  | some h => exact ⟨_, rfl, h⟩

theorem exists_of_rel' {x y : Option Call} (h : Option.Rel Call.Bystands x y) (hy : y = some d) :
    ∃ c, x = some c ∧ c.Bystands d := by
  subst hy
  cases h with
  | some h => exact ⟨_, rfl, h⟩

theorem rel_refl (x : Option Call) : Option.Rel Call.Bystands x x := by
  cases x with
  | none => exact .none
  | some c => exact .some .same

end Call.Bystands

namespace Floor

variable {σ : Type} {f : Floor σ} {i j : Nat} {c : Call}

theorem getElem?_enlist (f : Floor σ) (probe : Probe) (j : Nat) :
    (f.enlist probe).calls[j]? =
      if j = f.calls.length then some { probe } else f.calls[j]? := by
  simp only [enlist, List.getElem?_append, List.getElem?_singleton]
  split
  · next hlt => rw [if_neg (Nat.ne_of_lt hlt)]
  · next hge =>
    have hnone : f.calls[j]? = none := List.getElem?_eq_none (Nat.le_of_not_lt hge)
    rw [hnone]
    congr 1
    exact propext (by omega)

theorem orderly_enlist (h : f.Orderly) (probe : Probe) : (f.enlist probe).Orderly := by
  have hstage : (f.enlist probe).stage? =
      Function.update f.stage? f.calls.length (some .called) := by
    funext j
    rw [stage?, getElem?_enlist]
    split
    · next hj => simp [hj]
    · next hj => simp [stage?, hj]
  have hnone : f.stage? f.calls.length = none := by simp [stage?]
  have hholder : f.lock.holder? ≠ some f.calls.length := by
    rw [Ne, ← h.inside, hnone]
    simp
  have hqueue : f.calls.length ∉ f.lock.queue := by
    rw [← h.waiting, hnone]
    simp
  rw [Orderly, hstage]
  refine h.update ?_ ?_ (fun _ _ => Iff.rfl) (fun _ _ => Iff.rfl) h.nodup
  · simp [Stage.isInside, enlist, hholder]
  · simp [Stage.isWaiting, enlist, hqueue]

theorem lock_acquire (f : Floor σ) (i : Nat) : (f.acquire i).lock = f.lock.acquire i := by
  unfold acquire
  split <;> rfl

theorem lock_release (f : Floor σ) : f.release.lock = f.lock.release := by
  unfold release
  dsimp only
  split <;> rfl

/-- What a move can do to the lock. Only its holder can release it. -/
theorem lock_move (net : Network σ) (h : f.Orderly) (m : Move) :
    (f.move net m).lock = f.lock ∨ (f.move net m).lock = f.lock.acquire m.call ∨
      (f.move net m).lock = f.lock.withdraw m.call ∨
      f.lock.holder? = some m.call ∧ (f.move net m).lock = f.lock.release := by
  have hrelease {c : Call} {i : Nat} (hc : f.calls[i]? = some c) {rest : Program Verdict}
      (hs : c.stage = .inside rest) (s : Stage) :
      f.lock.holder? = some i ∧ (f.setStage i s).release.lock = f.lock.release := by
    obtain ⟨queue, hlock⟩ := lock_eq_held h hc hs
    exact ⟨by rw [hlock]; rfl, lock_release _⟩
  cases m with
  | proceed i =>
    simp only [move, proceed, Move.call]
    split
    · exact .inl rfl
    · next c hc =>
      split
      · split
        · exact .inl rfl
        · exact .inr (.inl (lock_acquire f i))
      · next hs => exact .inr (.inr (.inr (hrelease hc hs _)))
      all_goals exact .inl rfl
  | drop i =>
    simp only [move, dropCall, Move.call]
    split
    · exact .inl rfl
    · next c hc =>
      split
      · exact .inl rfl
      · exact .inr (.inr (.inl rfl))
      · next hs => exact .inr (.inr (.inr (hrelease hc hs _)))
      all_goals exact .inl rfl

theorem getElem?_acquire_of_ne (h : j ≠ i) : (f.acquire i).calls[j]? = f.calls[j]? := by
  unfold acquire
  split <;> simp [letIn, setStage, Ne.symm h]

/-- A move changes no other call, except that it may let one in. -/
theorem bystands_move (net : Network σ) (h : f.Orderly) (m : Move) (hj : j ≠ m.call) :
    Option.Rel Call.Bystands f.calls[j]? (f.move net m).calls[j]? := by
  have heq {x : Option Call} (hx : x = f.calls[j]?) : Option.Rel Call.Bystands f.calls[j]? x := by
    rw [hx]
    exact Call.Bystands.rel_refl _
  have hset {i : Nat} (hj : j ≠ i) (s : Stage) :
      Option.Rel Call.Bystands f.calls[j]? (f.setStage i s).calls[j]? :=
    heq (getElem?_setStage_of_ne hj s)
  have hrelease {c : Call} {i : Nat} (hj : j ≠ i) (hc : f.calls[i]? = some c)
      {rest : Program Verdict} (hs : c.stage = .inside rest) (s : Stage) :
      Option.Rel Call.Bystands f.calls[j]? (f.setStage i s).release.calls[j]? := by
    obtain ⟨-, hfree⟩ | ⟨k, d, queue, -, hk, hd, hds, hnext⟩ := release_cases h hc hs s
    · rw [hfree]
      exact hset hj s
    · rw [hnext]
      have hd' := (getElem?_setStage_of_ne hk s).trans hd
      by_cases hjk : j = k
      · subst hjk
        have hin := getElem?_setStage hd' (.inside d.probe.measure)
        dsimp only
        rw [hd, hin]
        exact .some (.enters hds)
      · exact heq ((getElem?_setStage_of_ne hjk _).trans (getElem?_setStage_of_ne hj s))
  cases m with
  | proceed i =>
    simp only [move, proceed, Move.call] at hj ⊢
    split
    · exact Call.Bystands.rel_refl _
    · next c hc =>
      split
      · split
        · exact hset hj _
        · exact heq (getElem?_acquire_of_ne hj)
      · next hs => exact hrelease hj hc hs _
      · exact hset hj _
      all_goals exact Call.Bystands.rel_refl _
  | drop i =>
    simp only [move, dropCall, Move.call] at hj ⊢
    split
    · exact Call.Bystands.rel_refl _
    · next c hc =>
      split
      · exact hset hj _
      · exact hset hj _
      · next hs => exact hrelease hj hc hs _
      all_goals exact Call.Bystands.rel_refl _

theorem getElem?_release (h : f.Orderly) (hc : f.calls[i]? = some c) {rest : Program Verdict}
    (hs : c.stage = .inside rest) (s : Stage) :
    (f.setStage i s).release.calls[i]? = some { c with stage := s } := by
  obtain ⟨-, hfree⟩ | ⟨k, d, queue, -, hk, hd, hds, hnext⟩ := release_cases h hc hs s
  · rw [hfree]
    exact getElem?_setStage hc s
  · rw [hnext]
    exact (getElem?_setStage_of_ne (Ne.symm hk) _).trans (getElem?_setStage hc s)

theorem getElem?_acquire (hc : f.calls[i]? = some c) :
    (f.acquire i).calls[i]? = some { c with stage := .inside c.probe.measure } ∨
      (f.acquire i).calls[i]? = some { c with stage := .waiting } := by
  unfold acquire
  split
  · exact .inl (by simp [letIn, hc])
  · exact .inr (getElem?_setStage hc _)

theorem exists_inside (h : f.Orderly) (hi : f.lock.holder? = some i) :
    ∃ c rest, f.calls[i]? = some c ∧ c.stage = .inside rest := by
  have hin := (h.inside i).mpr hi
  simp only [stage?, Option.any_map, Option.any_eq_true] at hin
  obtain ⟨c, hc, hstage⟩ := hin
  cases hs : c.stage with
  | inside rest => exact ⟨c, rest, hc, hs⟩
  | called | waiting | returned _ | rejected _ | dropped => simp [hs, Stage.isInside] at hstage

theorem exists_waiting (h : f.Orderly) (hi : i ∈ f.lock.queue) :
    ∃ c, f.calls[i]? = some c ∧ c.stage = .waiting :=
  Option.map_eq_some_iff.mp (Stage.eq_waiting_of_any ((h.waiting i).mpr hi))

/-! ## Steps by the stage of the call -/

theorem proceed_called (net : Network σ) (hc : f.calls[i]? = some c) (hs : c.stage = .called) :
    ∃ stage, (f.proceed net i).calls[i]? = some { c with stage } ∧
      ((∃ v, stage = .rejected v) ∨ (∃ rest, stage = .inside rest) ∨ stage = .waiting) := by
  simp only [proceed, hc, hs]
  cases c.probe.violation? with
  | some v => exact ⟨_, getElem?_setStage hc _, .inl ⟨v, rfl⟩⟩
  | none =>
    obtain hin | hwait := getElem?_acquire hc
    · exact ⟨_, hin, .inr (.inl ⟨_, rfl⟩)⟩
    · exact ⟨_, hwait, .inr (.inr rfl)⟩

theorem proceed_waiting (net : Network σ) (hc : f.calls[i]? = some c) (hs : c.stage = .waiting) :
    f.proceed net i = f := by
  simp only [proceed, hc, hs]

theorem proceed_ask (net : Network σ) (hc : f.calls[i]? = some c) {action : Action}
    {next : action.Answer → Program Verdict} (hs : c.stage = .inside (.ask action next)) :
    (f.proceed net i).lock = f.lock ∧ (f.proceed net i).calls[i]? =
      some { c with stage := .inside (next (net.answer f.network action).1) } := by
  simp only [proceed, hc, hs]
  exact ⟨rfl, getElem?_setStage hc _⟩

theorem proceed_done (net : Network σ) (h : f.Orderly) (hc : f.calls[i]? = some c) {v : Verdict}
    (hs : c.stage = .inside (.done v)) : (f.proceed net i).lock = f.lock.release ∧
      (f.proceed net i).calls[i]? = some { c with stage := .returned v } := by
  have hcall := getElem?_release h hc hs (.returned v)
  simp only [proceed, hc, hs]
  exact ⟨lock_release _, hcall⟩

theorem dropCall_inside (hc : f.calls[i]? = some c) {rest : Program Verdict}
    (hs : c.stage = .inside rest) : (f.dropCall i).lock = f.lock.release := by
  simp only [dropCall, hc, hs]
  exact lock_release _

theorem follows_proceed (net : Network σ) (h : f.Orderly) (hc : f.calls[i]? = some c)
    (hs : c.stage ≠ .dropped) : ∃ d, (f.proceed net i).calls[i]? = some d ∧ d.stage ≠ .dropped ∧
      c.rest.Follows (c.stage.exchange? net f.network).toList d.rest := by
  obtain ⟨probe, stage⟩ := c
  simp only [proceed, hc]
  cases stage with
  | called =>
    cases hv : probe.violation? with
    | some v =>
      refine ⟨_, getElem?_setStage hc _, nofun, ?_⟩
      simp only [Call.rest, Probe.test, hv]
      exact .refl _
    | none =>
      have htest : probe.test = .ok <$> probe.measure := by simp [Probe.test, hv]
      obtain hin | hwait := getElem?_acquire hc
      · exact ⟨_, hin, nofun, by simpa only [Call.rest, htest] using .refl _⟩
      · exact ⟨_, hwait, nofun, by simpa only [Call.rest, htest] using .refl _⟩
  | waiting => exact ⟨_, hc, nofun, .refl _⟩
  | inside rest =>
    cases rest with
    | done v => exact ⟨_, getElem?_release h hc rfl _, nofun, .refl _⟩
    | ask action next =>
      exact ⟨_, getElem?_setStage hc _, nofun, (Program.Follows.single _ _ next).map Except.ok⟩
  | returned v => exact ⟨_, hc, nofun, .refl _⟩
  | rejected v => exact ⟨_, hc, nofun, .refl _⟩
  | dropped => exact absurd rfl hs

theorem isIdle_dropCall (h : f.Orderly) (hc : f.calls[i]? = some c) :
    ∃ d, (f.dropCall i).calls[i]? = some d ∧ d.stage.isIdle = true := by
  obtain ⟨probe, stage⟩ := c
  simp only [dropCall, hc]
  cases stage with
  | called => exact ⟨_, getElem?_setStage hc _, rfl⟩
  | waiting => exact ⟨_, getElem?_setStage hc _, rfl⟩
  | inside rest => exact ⟨_, getElem?_release h hc rfl _, rfl⟩
  | returned v => exact ⟨_, hc, rfl⟩
  | rejected v => exact ⟨_, hc, rfl⟩
  | dropped => exact ⟨_, hc, rfl⟩

end Floor

end Reachability
