import Reachability.Network.Dialogue

/-!
# Dialogues and datagrams of programs

What passes between a program and a network is what passes in its parts, in order, and so are
the datagrams that go out while it runs. A program that never asks for one to be sent is silent,
and so is one that is made of silent parts.
-/
namespace Reachability.Program

variable {σ α β : Type} {net : Network σ} {s : σ}

@[simp] theorem datagrams_pure (a : α) : (pure a : Program α).datagrams net s = [] := rfl

theorem datagrams_ask (action : Action) (next : action.Answer → Program α) :
    (ask action next).datagrams net s =
      (Exchange.datagram? ⟨action, (net.answer s action).1⟩).toList ++
        (next (net.answer s action).1).datagrams net (net.answer s action).2 := by
  simp only [datagrams, dialogue, List.filterMap_cons]
  cases Exchange.datagram? ⟨action, (net.answer s action).1⟩ <;> rfl

theorem datagrams_bind (p : Program α) (f : α → Program β) :
    (p >>= f).datagrams net s =
      p.datagrams net s ++ (f (p.run net s)).datagrams net (p.trace net s).2.1 := by
  rw [datagrams, dialogue_bind, List.filterMap_append]
  rfl

theorem datagrams_map (f : α → β) (p : Program α) :
    (f <$> p).datagrams net s = p.datagrams net s := by
  rw [← bind_pure_comp, datagrams_bind, datagrams_pure, List.append_nil]

theorem run_map (f : α → β) (p : Program α) : (f <$> p).run net s = f (p.run net s) := by
  rw [run, trace_map, run]

theorem run_bind (p : Program α) (f : α → Program β) :
    (p >>= f).run net s = (f (p.run net s)).run net (p.trace net s).2.1 := by
  rw [run, trace_bind, run, run]

@[simp] theorem run_pure (a : α) : (pure a : Program α).run net s = a := rfl

@[simp] theorem run_perform (action : Action) :
    (perform action).run net s = (net.answer s action).1 := rfl

@[simp] theorem dialogue_pure (a : α) : (pure a : Program α).dialogue net s = [] := rfl

/-- A question stands in front of the dialogue of what is made of its answer. -/
theorem dialogue_perform_bind (action : Action) (f : action.Answer → Program α) :
    (perform action >>= f).dialogue net s =
      ⟨action, (net.answer s action).1⟩ ::
        (f (net.answer s action).1).dialogue net (net.answer s action).2 := rfl

theorem run_perform_bind (action : Action) (f : action.Answer → Program α) :
    (perform action >>= f).run net s =
      (f (net.answer s action).1).run net (net.answer s action).2 := rfl

theorem dialogue_bind_run (p : Program α) (f : α → Program β) :
    (p >>= f).dialogue net s =
      p.dialogue net s ++ (f (p.run net s)).dialogue net (p.trace net s).2.1 :=
  dialogue_bind net p f s

theorem datagrams_perform (action : Action) : (perform action).datagrams net s =
    (Exchange.datagram? ⟨action, (net.answer s action).1⟩).toList :=
  (datagrams_ask action .done).trans (List.append_nil _)

/-- Holds of a program that never asks for a datagram to be sent. -/
inductive Silent : Program α → Prop
  | done (a : α) : Silent (.done a)
  | ask {action : Action} {next : action.Answer → Program α}
      (hother : ∀ target payload, action ≠ .send target payload)
      (hnext : ∀ answer, Silent (next answer)) : Silent (.ask action next)

namespace Silent

theorem perform {action : Action} (h : ∀ target payload, action ≠ .send target payload) :
    Silent (perform action) :=
  .ask h .done

theorem bind {p : Program α} {f : α → Program β} (hp : Silent p) (hf : ∀ a, Silent (f a)) :
    Silent (p >>= f) := by
  induction hp with
  | done a => exact hf a
  | ask hother _ ih => exact .ask hother ih

theorem map {p : Program α} (hp : Silent p) (f : α → β) : Silent (f <$> p) := by
  rw [← bind_pure_comp]
  exact hp.bind fun a => .done _

theorem datagrams_eq_nil {p : Program α} (hp : Silent p) : p.datagrams net s = [] := by
  induction hp generalizing s with
  | done a => rfl
  | @ask action next hother _ ih =>
    have hnone : Exchange.datagram? ⟨action, (net.answer s action).1⟩ = none := by
      cases action with
      | send target payload => exact absurd rfl (hother target payload)
      | instant | epochSeconds | lookup _ | connect _ _ | bind _ => rfl
    rw [datagrams_ask, hnone, ih]
    rfl

end Silent

end Reachability.Program
