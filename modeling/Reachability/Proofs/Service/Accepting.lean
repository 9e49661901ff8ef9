import Mathlib.Data.List.TakeWhile
import Reachability.Service.Serve

/-!
# Accepting connections

A service leaves to tasks the connections that it accepts, in order, up to the first attempt to
accept one that fails. It goes on as long as no attempt fails, and the first failure ends it: the
connections behind that are lost.
-/
namespace Reachability.Service

variable {κ : Type} {accepted : List (Except IoError κ)}

theorem map_connections_accept (accepted : List (Except IoError κ)) :
    (accept accepted).connections.map .ok = accepted.takeWhile Except.isOk := by
  induction accepted with
  | nil => rfl
  | cons attempt more ih =>
    cases attempt with
    | error e => rfl
    | ok connection =>
      rw [List.takeWhile_cons_of_pos rfl, ← ih]
      rfl

theorem ending_accept_eq_none :
    (accept accepted).ending = none ↔ ∀ e : IoError, .error e ∉ accepted := by
  induction accepted with
  | nil => simp [accept]
  | cons attempt more ih =>
    cases attempt with
    | error e =>
      refine iff_of_false (by simp [accept, turn, Served.ended]) fun h => ?_
      exact h e List.mem_cons_self
    | ok connection => simp [accept, turn, Served.cons, ih]

theorem ending_accept_eq_some {e : IoError} :
    (accept accepted).ending = some e ↔ ∃ before after, accepted = before ++ .error e :: after ∧
      ∀ attempt ∈ before, attempt.isOk = true := by
  induction accepted with
  | nil => simp [accept]
  | cons attempt more ih =>
    cases attempt with
    | error e' =>
      constructor
      · intro h
        obtain rfl := Option.some.inj h
        exact ⟨[], more, rfl, by simp⟩
      · rintro ⟨before, after, heq, hbefore⟩
        cases before with
        | nil => cases heq; rfl
        | cons attempt before =>
          obtain rfl := (List.cons.inj heq).1
          cases hbefore _ List.mem_cons_self
    | ok connection =>
      refine ih.trans ⟨?_, ?_⟩
      · rintro ⟨before, after, rfl, hbefore⟩
        exact ⟨.ok connection :: before, after, rfl, List.forall_mem_cons.mpr ⟨rfl, hbefore⟩⟩
      · rintro ⟨before, after, heq, hbefore⟩
        cases before with
        | nil => cases heq
        | cons attempt before =>
          exact ⟨before, after, (List.cons.inj heq).2, (List.forall_mem_cons.mp hbefore).2⟩

/-- Once its address is bound, a service hands to tasks the connections that were accepted before
the first failure, in order. It serves on if and only if no attempt to accept fails, and ends with
the first failure otherwise. -/
theorem serves_until_first_failure (accepted : List (Except IoError κ)) :
    let served := serve (.ok ()) accepted
    served.connections.map .ok = accepted.takeWhile Except.isOk ∧
    (served.ending = none ↔ ∀ e : IoError, .error e ∉ accepted) ∧
    ∀ e : IoError, served.ending = some e ↔ ∃ before after,
      accepted = before ++ .error e :: after ∧ ∀ attempt ∈ before, attempt.isOk = true :=
  ⟨map_connections_accept accepted, ending_accept_eq_none, fun _ => ending_accept_eq_some⟩

/-- A connection that its peer gives up before it is accepted ends the service, and the next
connection is not served. -/
theorem ends_with_aborted_connection :
    let accepted : List (Except IoError Nat) := [.error (.os 103), .ok 1]
    let served := serve (.ok ()) accepted
    served.ending ≠ none ∧ ¬ ∀ connection, .ok connection ∈ accepted →
      connection ∈ served.connections := by
  refine ⟨by decide, fun h => ?_⟩
  exact List.not_mem_nil (h 1 (by simp))

end Reachability.Service
