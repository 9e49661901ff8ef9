import Reachability.Network

/-!
# Programs on their way

A program that has asked some of its questions goes on as another program. Once that one is
done, the questions on the way are the trace of the whole program. Until then they are the
first part of it.
-/
namespace Reachability.Program

variable {σ α : Type} {net : Network σ}

/-- What has become of a program, and of the network, after some questions. -/
inductive Reaches (net : Network σ) (p : Program α) (s : σ) : List Action → Program α → σ → Prop
  | refl : Reaches net p s [] p s
  | ask {actions action next t} : Reaches net p s actions (.ask action next) t →
      Reaches net p s (actions ++ [action]) (next (net.answer t action).1)
        (net.answer t action).2

namespace Reaches

variable {p q : Program α} {s t : σ} {actions : List Action}

theorem trace_eq (h : p.Reaches net s actions q t) :
    p.trace net s = ((q.trace net t).1, (q.trace net t).2.1, actions ++ (q.trace net t).2.2) := by
  induction h with
  | refl => rfl
  | ask _ ih =>
    rw [ih]
    simp

theorem trace_eq_of_done {a : α} (h : p.Reaches net s actions (.done a) t) :
    p.trace net s = (a, t, actions) := by
  simpa using h.trace_eq

theorem isPrefix_trace (h : p.Reaches net s actions q t) : actions <+: (p.trace net s).2.2 :=
  ⟨(q.trace net t).2.2, by rw [h.trace_eq]⟩

end Reaches

end Reachability.Program
