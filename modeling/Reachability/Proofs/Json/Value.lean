import Reachability.Proofs.Json.Number

/-!
# Where values begin and end

The first byte of a written value tells of which kind the value is, and it is no white
space. What follows a value in a text never belongs to a number.
-/
namespace Reachability.Json

theorem skipBlank_append {ws : List UInt8} (h : IsBlank ws) (bs : List UInt8) :
    skipBlank (ws ++ bs) = skipBlank bs :=
  List.dropWhile_append_of_pos h

theorem skipBlank_cons {b : UInt8} (h : isBlank b = false) (bs : List UInt8) :
    skipBlank (b :: bs) = b :: bs := by
  rw [skipBlank, List.dropWhile_cons_of_neg (by simp [h])]

theorem skipBlank_of_isBlank {ws : List UInt8} (h : IsBlank ws) : skipBlank ws = [] := by
  rw [← List.append_nil ws, skipBlank_append h]
  rfl

theorem isBlank_nil : IsBlank [] := by
  simp [IsBlank]

theorem exists_of_skipBlank {bs tail : List UInt8} {b : UInt8} (h : skipBlank bs = b :: tail) :
    ∃ ws, IsBlank ws ∧ bs = ws ++ b :: tail := by
  refine ⟨bs.takeWhile isBlank, List.all_eq_true.mp List.all_takeWhile, ?_⟩
  rw [← h, skipBlank, List.takeWhile_append_dropWhile]

theorem isBlank_of_skipBlank {bs : List UInt8} (h : skipBlank bs = []) : IsBlank bs := by
  have hsplit := List.takeWhile_append_dropWhile (p := isBlank) (l := bs)
  rw [show bs.dropWhile isBlank = [] from h, List.append_nil] at hsplit
  rw [← hsplit]
  exact List.all_eq_true.mp List.all_takeWhile

theorem Numeral.toNat_of_isDigit {b : UInt8} (h : Numeral.isDigit b = true) :
    0x30 ≤ b.toNat ∧ b.toNat ≤ 0x39 := by
  have hb : b.toNat < 256 := b.toNat_lt
  have hchar : (Numeral.charOf b).toNat = b.toNat := by
    rw [Numeral.charOf, Char.ofNat, dif_pos (Or.inl (by omega))]
    rfl
  rw [← hchar]
  exact Decimal.isDigit_iff.mp h

theorem Numeral.ne_of_isDigit {b d : UInt8} (h : Numeral.isDigit b = true)
    (hd : d.toNat < 0x30 ∨ 0x39 < d.toNat) : b ≠ d := by
  rintro rfl
  have := Numeral.toNat_of_isDigit h
  omega

/-- The bytes that a value of its kind begins with. -/
def beginsWith : Json → UInt8 → Bool
  | .null, b => b == byte 'n'
  | .boolean value, b => b == byte (if value then 't' else 'f')
  | .number _, b => b == byte '-' || Numeral.isDigit b
  | .text _, b => b == byte '"'
  | .array _, b => b == byte '['
  | .object _, b => b == byte '{'

theorem isBlank_of_beginsWith {v : Json} {b : UInt8} (h : v.beginsWith b = true) :
    isBlank b = false := by
  cases v with
  | null | text _ | array _ | object _ =>
    obtain rfl := eq_of_beq h
    decide
  | boolean value =>
    obtain rfl := eq_of_beq h
    cases value <;> decide
  | number n =>
    rcases Bool.or_eq_true_iff.mp h with h | h
    · obtain rfl := eq_of_beq h
      decide
    · simp [isBlank, Numeral.ne_of_isDigit h]

theorem ne_closing_of_beginsWith {v : Json} {b : UInt8} (h : v.beginsWith b = true) :
    b ≠ byte ']' := by
  rintro rfl
  cases v with
  | boolean value => cases value <;> cases h
  | null | number _ | text _ | array _ | object _ => cases h

theorem Numeral.Written.begins {n : Numeral} {cs : List Char} (h : n.Written cs) :
    ∃ b tail, bytes cs = b :: tail ∧ (b == byte '-' || Numeral.isDigit b) = true := by
  cases h with
  | @mk proper exponent hexponent =>
    obtain ⟨hne, -, hwhole, -, -⟩ := proper
    obtain ⟨c, whole, hcons⟩ := List.exists_cons_of_ne_nil hne
    rw [hcons, List.all_cons, Bool.and_eq_true] at hwhole
    cases n.isNegative with
    | true => exact ⟨byte '-', _, rfl, rfl⟩
    | false =>
      refine ⟨byte c, _, by simp [hcons]; rfl, ?_⟩
      simp [Numeral.isDigit_byte hwhole.1]

/-- A written value begins as values of its kind do. -/
theorem Written.begins {v : Json} {bs : List UInt8} (h : Written v bs) :
    ∃ b tail, bs = b :: tail ∧ v.beginsWith b := by
  cases h with
  | null | true | false | emptyArray _ | array _ | emptyObject _ | object _ =>
    exact ⟨_, _, rfl, rfl⟩
  | number h => exact h.begins
  | text h =>
    obtain ⟨h⟩ := h
    exact ⟨_, _, rfl, rfl⟩

theorem Written.skipBlank {v : Json} {before bs : List UInt8} (h : Written v bs)
    (hbefore : IsBlank before) (rest : List UInt8) :
    Json.skipBlank (before ++ (bs ++ rest)) = bs ++ rest := by
  obtain ⟨b, tail, rfl, hb⟩ := h.begins
  rw [skipBlank_append hbefore, List.cons_append, skipBlank_cons (isBlank_of_beginsWith hb)]

namespace Numeral

theorem ends_nil : Ends [] := by
  simp [Ends]

theorem ends_cons {b : UInt8} {rest : List UInt8}
    (h : b.toNat < 0x2E ∨ b = byte ']' ∨ b = byte '}') :
    Ends (b :: rest) := by
  intro d hd
  obtain rfl : b = d := by simpa using hd
  have hdigit : isDigit b = false := by
    rw [Bool.eq_false_iff]
    intro hdigit
    have := toNat_of_isDigit hdigit
    rcases h with h | rfl | rfl
    · omega
    · cases hdigit
    · cases hdigit
  have hne {e : UInt8} (he : 0x2E ≤ e.toNat) (hbracket : e ≠ byte ']' ∧ e ≠ byte '}') : b ≠ e := by
    rintro rfl
    rcases h with h | h | h
    · omega
    · exact hbracket.1 h
    · exact hbracket.2 h
  exact ⟨hdigit, hne (by decide) (by decide), hne (by decide) (by decide),
    hne (by decide) (by decide)⟩

theorem Ends.append {ws rest : List UInt8} (h : Ends rest) (hws : IsBlank ws) :
    Ends (ws ++ rest) := by
  cases ws with
  | nil => exact h
  | cons b ws =>
    apply ends_cons
    have hb : isBlank b = true := hws b List.mem_cons_self
    simp only [isBlank, Bool.or_eq_true, beq_iff_eq] at hb
    rcases hb with ((rfl | rfl) | rfl) | rfl <;> decide

theorem ends_before {ws more : List UInt8} {b : UInt8} (hws : IsBlank ws)
    (hb : b.toNat < 0x2E ∨ b = byte ']' ∨ b = byte '}') : Ends (ws ++ b :: more) :=
  (ends_cons hb).append hws

end Numeral

end Reachability.Json
