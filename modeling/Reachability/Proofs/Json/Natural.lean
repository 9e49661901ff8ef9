import Reachability.Proofs.Json.Meaning

/-!
# Numerals that are natural numbers

A numeral is read as a natural number exactly if it is nothing but digits and its value has 64
bits. Nothing else is made one: what is too large, or has a sign, a fraction or an exponent, is
negative or real, whatever its value.
-/
namespace Reachability.Json

/-- Holds of a numeral without sign, fraction and exponent. -/
def Numeral.IsPlain (n : Numeral) : Prop :=
  n.isNegative = false ∧ n.fraction = [] ∧ n.exponent = none

instance (n : Numeral) : Decidable n.IsPlain :=
  inferInstanceAs (Decidable (_ ∧ _ ∧ _))

namespace Number

variable {n : Numeral} {rest : List UInt8} {value : Nat}

theorem ofSignificand_ne_natural (isNegative : Bool) (s : Significand) (e : Int) :
    ofSignificand isNegative s e rest ≠ .ok (.natural value) := by
  unfold ofSignificand
  split <;> simp [signed, failAt]

/-- A numeral is a natural number exactly if it is plain and has 64 bits, and then it is its
value. -/
theorem ofNumeral_eq_natural : ofNumeral n rest = .ok (.natural value) ↔
    n.IsPlain ∧ Decimal.value n.whole < UInt64.size ∧ Decimal.value n.whole = value := by
  have hform : (n.isInteger && !n.isNegative) = true ↔ n.IsPlain := by
    simp [Numeral.isInteger, Numeral.IsPlain, and_comm]
  unfold ofNumeral
  dsimp only
  split
  · next h =>
    rw [Bool.and_eq_true, hform, decide_eq_true_eq] at h
    simp [h]
  · next h =>
    rw [Bool.and_eq_true, hform, decide_eq_true_eq] at h
    have hnot : ¬ (n.IsPlain ∧ Decimal.value n.whole < UInt64.size ∧
        Decimal.value n.whole = value) :=
      fun ⟨hplain, hlt, _⟩ => h ⟨hplain, hlt⟩
    refine iff_of_false ?_ hnot
    split
    · simp
    · split
      · exact ofSignificand_ne_natural _ _ _
      · split
        · exact ofSignificand_ne_natural _ _ _
        · split <;> simp [signed]

end Number

theorem Meaning.natural_eq_ok {n : Numeral} {limit value : Nat} {name : String}
    (h : limit < UInt64.size) : natural limit name (.number n) = .ok value ↔
      n.IsPlain ∧ Decimal.value n.whole ≤ limit ∧ Decimal.value n.whole = value := by
  have hnumber (v : Nat) : number n = .ok (.natural v) ↔
      n.IsPlain ∧ Decimal.value n.whole < UInt64.size ∧ Decimal.value n.whole = v := by
    refine Iff.trans ?_ (Number.ofNumeral_eq_natural : Number.ofNumeral n [] = _ ↔ _)
    rw [number]
    cases Number.ofNumeral n [] <;> simp [unplaced, Except.mapError]
  constructor
  · intro hv
    cases hn : number n with
    | error problem =>
      rw [natural, hn] at hv
      cases hv
    | ok x =>
      rw [natural, hn] at hv
      cases x with
      | natural v =>
        obtain ⟨hplain, -, rfl⟩ := (hnumber v).mp hn
        by_cases hle : Decimal.value n.whole ≤ limit
        · simp only [bind, Except.bind, hle, if_true, Except.ok.injEq] at hv
          exact ⟨hplain, hle, hv⟩
        · simp [bind, Except.bind, hle] at hv
      | negative _ | real _ => cases hv
  · rintro ⟨hplain, hle, rfl⟩
    have hn := (hnumber _).mpr ⟨hplain, Nat.lt_of_le_of_lt hle h, rfl⟩
    simp only [natural, hn, bind, Except.bind, hle, if_true]

end Reachability.Json
