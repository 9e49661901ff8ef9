import Reachability.Network.Dialogue

/-!
# Programs and the answers that they have had

A program goes on as another one once its first questions have been answered, whoever answers
them. Alone with a network that gives the same answers it ends with the same value.
-/
namespace Reachability.Program

variable {σ α β : Type} {p q r : Program α} {xs ys : List Exchange}

@[simp] theorem done_bind (a : α) (f : α → Program β) : (done a >>= f) = f a := rfl

theorem dialogue_map (f : α → β) (p : Program α) (net : Network σ) (s : σ) :
    (f <$> p).dialogue net s = p.dialogue net s := by
  rw [← bind_pure_comp, dialogue_bind]
  exact List.append_nil _

/-- What a program goes on as when its first questions are answered in a certain way. -/
inductive Follows : Program α → List Exchange → Program α → Prop
  | refl (p : Program α) : Follows p [] p
  | ask {action : Action} {answer : action.Answer} {next : action.Answer → Program α}
      {xs : List Exchange} {q : Program α} (h : Follows (next answer) xs q) :
      Follows (.ask action next) (⟨action, answer⟩ :: xs) q

namespace Follows

theorem single (action : Action) (answer : action.Answer) (next : action.Answer → Program α) :
    (Program.ask action next).Follows [⟨action, answer⟩] (next answer) :=
  .ask (.refl _)

theorem trans (h : p.Follows xs q) (hq : q.Follows ys r) : p.Follows (xs ++ ys) r := by
  induction h with
  | refl p => exact hq
  | ask _ ih => exact .ask (ih hq)

theorem bind (h : p.Follows xs q) (f : α → Program β) : (p >>= f).Follows xs (q >>= f) := by
  induction h with
  | refl p => exact .refl _
  | ask _ ih => exact .ask ih

theorem map (h : p.Follows xs q) (f : α → β) : (f <$> p).Follows xs (f <$> q) := by
  rw [← bind_pure_comp, ← bind_pure_comp]
  exact h.bind _

/-- With a network that gives the same answers the value is the same, and so is the rest of the
dialogue. -/
theorem run_eq (h : p.Follows xs q) {net : Network σ} {s : σ} (hnet : xs <+: p.dialogue net s) :
    ∃ t, p.dialogue net s = xs ++ q.dialogue net t ∧ p.run net s = q.run net t := by
  induction h generalizing s with
  | refl p => exact ⟨s, rfl, rfl⟩
  | @ask action answer next xs q _ ih =>
    obtain ⟨heq, hrest⟩ := List.cons_prefix_cons.mp hnet
    obtain rfl : answer = (net.answer s action).1 := eq_of_heq (Exchange.mk.inj heq).2
    obtain ⟨t, hdialogue, hrun⟩ := ih hrest
    exact ⟨t, congrArg (_ :: ·) hdialogue, hrun⟩

theorem dialogue_recorded (h : p.Follows xs q) (ys : List Exchange) :
    p.dialogue .recorded (xs ++ ys) = xs ++ q.dialogue .recorded ys := by
  induction h with
  | refl p => rfl
  | ask _ ih => simp [dialogue, ih]

end Follows

end Reachability.Program
