import Mathlib.Data.List.Induction
import Reachability.Decimal
import Reachability.Hexadecimal

/-!
# Numbers in digits are read back

A number that is written in decimal or in hexadecimal consists of digits, has no leading
zero unless it is zero itself, and is the value of its digits.
-/
namespace Reachability

/-- The value of the digits of a number in a base whose digits are read back one by one. -/
theorem foldl_toDigits {base : Nat} {digit? : Char → Option Nat} (hbase : 1 < base)
    (hdigit : ∀ d < base, digit? d.digitChar = some d) (n : Nat) :
    (Nat.toDigits base n).foldl (fun n c => base * n + (digit? c).getD 0) 0 = n := by
  induction n using Nat.strongRecOn with
  | _ n ih =>
    rw [Nat.toDigits_eq_if hbase]
    split
    · next h => simp [hdigit n h]
    · next h =>
      have hmod := hdigit (n % base) (Nat.mod_lt _ (by omega))
      have hdiv := ih (n / base) (Nat.div_lt_self (by omega) hbase)
      rw [List.foldl_append, hdiv]
      simp only [List.foldl_cons, List.foldl_nil, hmod, Option.getD_some]
      exact Nat.div_add_mod n base

theorem exists_of_mem_toDigits {base n : Nat} {c : Char} (hbase : 1 < base)
    (h : c ∈ Nat.toDigits base n) : ∃ d < base, c = d.digitChar := by
  induction n using Nat.strongRecOn with
  | _ n ih =>
    rw [Nat.toDigits_eq_if hbase] at h
    split at h
    · next hlt => exact ⟨n, hlt, List.mem_singleton.mp h⟩
    · next hlt =>
      rcases List.mem_append.mp h with h | h
      · exact ih (n / base) (Nat.div_lt_self (by omega) hbase) h
      · exact ⟨n % base, Nat.mod_lt _ (by omega), List.mem_singleton.mp h⟩

theorem head?_toDigits {base n : Nat} (hbase : 1 < base)
    (hzero : ∀ d < base, d.digitChar = '0' → d = 0) (h : (Nat.toDigits base n).head? = some '0') :
    n = 0 := by
  induction n using Nat.strongRecOn with
  | _ n ih =>
    rw [Nat.toDigits_eq_if hbase] at h
    split at h
    · next hlt => exact hzero n hlt (by simpa using h)
    · next hlt =>
      obtain ⟨c, cs, hcons⟩ := List.exists_cons_of_ne_nil (Nat.toDigits_ne_nil (n := n / base))
      have hhead : (Nat.toDigits base (n / base)).head? = some '0' := by
        rw [hcons] at h ⊢
        exact h
      have hdiv := ih (n / base) (Nat.div_lt_self (by omega) hbase) hhead
      have : 0 < n / base := Nat.div_pos (by omega) (by omega)
      omega

namespace Decimal

/-- The decimal digits are the characters from U+0030 to U+0039. -/
theorem isDigit_iff {c : Char} : isDigit c = true ↔ 0x30 ≤ c.toNat ∧ c.toNat ≤ 0x39 := by
  simp only [isDigit, digit?]
  split
  · next h => exact ⟨fun _ => h, fun _ => rfl⟩
  · next h => exact ⟨fun hsome => by simp at hsome, fun hc => absurd hc h⟩

theorem digit?_digitChar : ∀ d < 10, digit? d.digitChar = some d := by decide

@[simp] theorem value_digits (n : Nat) : value (digits n) = n :=
  foldl_toDigits (by decide) digit?_digitChar n

theorem all_isDigit_digits (n : Nat) : (digits n).all isDigit = true := by
  rw [List.all_eq_true]
  intro c hc
  obtain ⟨d, hd, rfl⟩ := exists_of_mem_toDigits (by decide) hc
  rw [isDigit, digit?_digitChar d hd]
  rfl

theorem digits_ne_nil (n : Nat) : digits n ≠ [] := Nat.toDigits_ne_nil

theorem digits_eq_of_head? {n : Nat} (h : (digits n).head? = some '0') : digits n = ['0'] := by
  rw [head?_toDigits (by decide) (by decide) h]
  rfl

theorem digit?_eq_some {c : Char} {d : Nat} (h : digit? c = some d) :
    d < 10 ∧ d.digitChar = c := by
  rw [digit?, Option.ite_none_right_eq_some] at h
  obtain ⟨⟨hlow, hhigh⟩, hd⟩ := h
  have hlow : '0'.toNat ≤ c.toNat := hlow
  have hhigh : c.toNat ≤ '9'.toNat := hhigh
  rw [Option.some.injEq] at hd
  simp only [Char.reduceToNat] at hlow hhigh hd
  have hlt : d < 10 := by omega
  refine ⟨hlt, ?_⟩
  have hchar : d.digitChar = Char.ofNat (d + 48) :=
    (by decide : ∀ d < 10, Nat.digitChar d = Char.ofNat (d + 48)) d hlt
  rw [hchar, show d + 48 = c.toNat by omega, Char.ofNat_toNat]

/-- Digits without a leading zero are those of their value. The induction takes off the last
digit, as a number is written. -/
theorem digits_value {cs : List Char} (hne : cs ≠ []) (hdigits : cs.all isDigit = true)
    (hzero : cs.length = 1 ∨ cs.head? ≠ some '0') : digits (value cs) = cs := by
  induction cs using List.reverseRecOn with
  | nil => exact absurd rfl hne
  | append_singleton front c ih =>
    rw [List.all_append, Bool.and_eq_true] at hdigits
    obtain ⟨hfront, hc⟩ := hdigits
    rw [List.all_cons, List.all_nil, Bool.and_true] at hc
    obtain ⟨d, hd⟩ := Option.isSome_iff_exists.mp hc
    obtain ⟨hlt, hchar⟩ := digit?_eq_some hd
    have hvalue : value (front ++ [c]) = 10 * value front + d := by
      simp [value, List.foldl_append, hd]
    rw [hvalue, digits, Nat.toDigits_eq_if (by decide)]
    cases front with
    | nil => simp [value, hlt, hchar]
    | cons b front =>
      have hb : b ≠ '0' := by simpa using hzero
      have hdigits : digits (value (b :: front)) = b :: front :=
        ih (List.cons_ne_nil b front) hfront (.inr (by simpa using hb))
      have hpos : value (b :: front) ≠ 0 := by
        intro h
        rw [h] at hdigits
        exact hb (List.cons.inj hdigits).1.symm
      rw [if_neg (by omega), Nat.mul_add_div (by decide), Nat.div_eq_of_lt hlt, Nat.add_zero,
        Nat.mul_add_mod, Nat.mod_eq_of_lt hlt, hchar]
      exact congrArg (· ++ [c]) hdigits

theorem numberUpTo?_eq_some {limit n : Nat} {cs : List Char} :
    numberUpTo? limit cs = some n ↔
      cs ≠ [] ∧ cs.all isDigit = true ∧ value cs = n ∧ n ≤ limit := by
  rw [numberUpTo?, Option.filter_eq_some_iff, number?, decide_eq_true_iff]
  split
  · next h => simp [h]
  · next h =>
    simp only [reduceCtorEq, false_and, false_iff]
    rintro ⟨hne, hall, -⟩
    exact h ⟨hne, hall⟩

end Decimal

namespace Hexadecimal

theorem toNat_bounds {c : Char} (h : isDigit c = true) : 0x30 ≤ c.toNat ∧ c.toNat ≤ 0x66 := by
  have hrange {low high : Char} (hc : low ≤ c ∧ c ≤ high) :
      low.toNat ≤ c.toNat ∧ c.toNat ≤ high.toNat := hc
  simp only [isDigit, digit?] at h
  split at h
  · next hc => exact (hrange hc).imp (Nat.le_trans (by decide)) (Nat.le_trans · (by decide))
  split at h
  · next hc => exact (hrange hc).imp (Nat.le_trans (by decide)) (Nat.le_trans · (by decide))
  split at h
  · next hc => exact (hrange hc).imp (Nat.le_trans (by decide)) (Nat.le_trans · (by decide))
  · cases h

theorem digit?_digitChar : ∀ d < 16, digit? d.digitChar = some d := by decide

@[simp] theorem value_toDigits (n : Nat) : value (Nat.toDigits 16 n) = n :=
  foldl_toDigits (by decide) digit?_digitChar n

theorem all_isDigit_toDigits (n : Nat) : (Nat.toDigits 16 n).all isDigit = true := by
  rw [List.all_eq_true]
  intro c hc
  obtain ⟨d, hd, rfl⟩ := exists_of_mem_toDigits (by decide) hc
  rw [isDigit, digit?_digitChar d hd]
  rfl

theorem getD_digit?_lt (c : Char) : (digit? c).getD 0 < 16 := by
  have hle {a b : Char} (h : a ≤ b) : a.toNat ≤ b.toNat := h
  unfold digit?
  split
  · next h =>
    have hhigh : c.toNat ≤ 0x39 := hle h.2
    simp only [Option.getD_some, show '0'.toNat = 0x30 from rfl]
    omega
  split
  · next h =>
    have hhigh : c.toNat ≤ 0x66 := hle h.2
    simp only [Option.getD_some, show 'a'.toNat = 0x61 from rfl]
    omega
  split
  · next h =>
    have hhigh : c.toNat ≤ 0x46 := hle h.2
    simp only [Option.getD_some, show 'A'.toNat = 0x41 from rfl]
    omega
  · exact Nat.zero_lt_succ 15

theorem value_concat (cs : List Char) (c : Char) :
    value (cs ++ [c]) = 16 * value cs + (digit? c).getD 0 := by
  simp [value, List.foldl_append]

theorem value_lt (cs : List Char) : value cs < Nat.pow 16 cs.length := by
  induction cs using List.reverseRecOn with
  | nil => decide
  | append_singleton cs c ih =>
    have hc := getD_digit?_lt c
    rw [value_concat, List.length_append, List.length_singleton]
    change _ < Nat.pow 16 cs.length * 16
    omega

theorem value_lt_of_length {cs : List Char} (h : cs.length ≤ 4) : value cs < 0x10000 :=
  Nat.lt_of_lt_of_le (value_lt cs) (Nat.pow_le_pow_right (by decide) h)

end Hexadecimal

end Reachability
