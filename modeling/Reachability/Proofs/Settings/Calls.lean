import Reachability.Proofs.Settings.Overrides

/-!
# Overrides one after the other

Settings can be overridden again and again, by variables that are valid and by some that are not.
The time for a probe stays positive all along. A call that fails leaves the settings as the
variables in front of the faulty one make them, and a later call that sets at least the same
variables makes up for it.
-/
namespace Reachability

namespace Overrides

/-- Holds if other overrides set at least the same variables. -/
def IsWithin (o later : Overrides) : Prop :=
  ∀ v, (o.value? v).isSome = true → (later.value? v).isSome = true

theorem isWithin_before (o : Overrides) (v : Variable) : (o.before v).IsWithin o := by
  intro w hw
  cases v <;> cases w <;> simp_all [before, value?]

theorem IsWithin.trans {o later last : Overrides} (h : o.IsWithin later)
    (hlast : later.IsWithin last) : o.IsWithin last :=
  fun v hv => hlast v (h v hv)

end Overrides

namespace Settings

open Overrides (SpellsTimeout)

section

variable {o later : Overrides} {s t u : Settings}

theorem exists_fails {e : SettingsError} (h : s.override o = (t, some e)) :
    ∃ v, o.Fails v e ∧ Overridden (o.before v) s t := by
  rcases override_cases o s with ⟨t', -, heq⟩ | ⟨v, e', t', hfails, hover, heq⟩
  · cases h.symm.trans heq
  · cases h.symm.trans heq
    exact ⟨v, hfails, hover⟩

/-! ## The time stays positive -/

theorem Chosen.timeout_pos {value : Option String} {before n : Nat}
    (h : Chosen SpellsTimeout value before n) (hbefore : 0 < before) : 0 < n := by
  cases value with
  | none =>
    obtain rfl := chosen_none.mp h
    exact hbefore
  | some text =>
    obtain ⟨-, -, -, hpositive, -, -⟩ := chosen_some.mp h
    exact hpositive

theorem defaultTimeout_override_pos (o : Overrides) (h : 0 < s.defaultTimeout) :
    0 < (s.override o).1.defaultTimeout := by
  rcases override_cases o s with ⟨t, hover, heq⟩ | ⟨v, e, t, -, hover, heq⟩
  · rw [heq]
    exact hover.defaultTimeout.timeout_pos h
  · rw [heq]
    exact hover.defaultTimeout.timeout_pos h

/-- The calls are taken one by one, and each begins with what the one before has left. -/
theorem defaultTimeout_overrideAll_pos (calls : List Overrides) (h : 0 < s.defaultTimeout) :
    0 < (s.overrideAll calls).defaultTimeout := by
  induction calls generalizing s with
  | nil => exact h
  | cons o calls ih => exact ih (defaultTimeout_override_pos o h)

/-! ## Later calls -/

theorem Chosen.again {α : Type} {denotes : String → α → Prop} {value later : Option String}
    {x y z : α} (h : Chosen denotes value x y) (hwithin : value.isSome = true → later.isSome = true)
    (hlater : Chosen denotes later y z) : Chosen denotes later x z := by
  cases later with
  | some text => exact hlater
  | none =>
    cases value with
    | some text => cases hwithin rfl
    | none =>
      obtain rfl := chosen_none.mp h
      exact hlater

/-- What has been overridden before does not show where at least the same variables are set. -/
theorem Overridden.again (h : Overridden o s t) (hwithin : o.IsWithin later)
    (hlater : Overridden later t u) : Overridden later s u where
  listenAddress := h.listenAddress.again (hwithin .listenAddress) hlater.listenAddress
  defaultTimeout := h.defaultTimeout.again (hwithin .defaultTimeout) hlater.defaultTimeout
  dnsHosts := h.dnsHosts.again (hwithin .dnsHosts) hlater.dnsHosts

end

/-- After any calls, of which some may have failed, the time for a probe is positive if it was so
at the start, and it is so behind the next call as well. If that call fails, a variable is at fault
and the settings are exactly those that the variables in front of it make; if it succeeds, each
setting is what its variable denotes, or else what it was. A call that succeeds after one that has
failed, and that sets at least the same variables, ends as if it had been the only one. -/
theorem overridden_by_calls {s : Settings} (hpos : 0 < s.defaultTimeout)
    (calls : List Overrides) :
    let before := s.overrideAll calls
    0 < before.defaultTimeout ∧
    ∀ (o : Overrides) (t : Settings) (error : Option SettingsError),
      before.override o = (t, error) →
      0 < t.defaultTimeout ∧
      (∀ e, error = some e → ∃ v, o.Fails v e ∧ Overridden (o.before v) before t) ∧
      (error = none → Overridden o before t) ∧
      (error ≠ none → ∀ (later : Overrides) (u : Settings), o.IsWithin later →
        t.override later = (u, none) → before.override later = (u, none)) := by
  intro before
  have hbefore : 0 < before.defaultTimeout := defaultTimeout_overrideAll_pos calls hpos
  refine ⟨hbefore, ?_⟩
  intro o t error hcall
  have hpositive := defaultTimeout_override_pos o hbefore
  rw [hcall] at hpositive
  refine ⟨hpositive, ?_, ?_, ?_⟩
  · rintro e rfl
    exact exists_fails hcall
  · rintro rfl
    exact override_eq_iff.mp hcall
  · intro hfailed later u hwithin hlater
    obtain ⟨e, rfl⟩ := Option.ne_none_iff_exists'.mp hfailed
    obtain ⟨v, -, hover⟩ := exists_fails hcall
    have hfront : (o.before v).IsWithin later := (o.isWithin_before v).trans hwithin
    exact override_eq_iff.mpr (hover.again hfront (override_eq_iff.mp hlater))

/-- A call that fails at the time has changed the address, and the next one makes up for it. -/
theorem overridden_by_calls_recovering :
    let calls : List Overrides := [{ dnsHosts := some "1.1.1.1, 8.8.8.8," }]
    let before := ({} : Settings).overrideAll calls
    let broken : Overrides :=
      { listenAddress := some "[::1%2]:9000", defaultTimeout := some "0", dnsHosts := some "" }
    let later : Overrides :=
      { listenAddress := some " 0.0.0.0:9001", defaultTimeout := some "+4",
        dnsHosts := some "9.9.9.9" }
    let left : Settings := { before with listenAddress := .v6 ⟨#v[0, 0, 0, 0, 0, 0, 0, 1]⟩ 9000 2 }
    let recovered : Settings := ⟨.v4 .unspecified 9001, 4, ["9.9.9.9"]⟩
    0 < ({} : Settings).defaultTimeout ∧
      before.override broken = (left, some (.invalidTimeout "0")) ∧ broken.IsWithin later ∧
      left.override later = (recovered, none) ∧ before.override later = (recovered, none) := by
  intro calls before broken later left recovered
  have hpos : 0 < ({} : Settings).defaultTimeout := by decide
  have hbroken : before.override broken = (left, some (.invalidTimeout "0")) := by rfl
  have hwithin : broken.IsWithin later := by
    intro v _
    cases v <;> rfl
  have hlater : left.override later = (recovered, none) := by rfl
  have hcalls := (overridden_by_calls hpos calls).2 broken left _ hbroken
  exact ⟨hpos, hbroken, hwithin, hlater, hcalls.2.2.2 (by simp) later recovered hwithin hlater⟩

end Settings

end Reachability
