import Reachability.Json.Number
import Reachability.Proofs.Digits
import Reachability.Proofs.Json.Text

/-!
# Written numbers are read back

A number says nowhere where it ends. It is read to its end if what follows cannot belong to
it, and in a text of JSON that is always so: a number is followed by white space, a comma,
a closing bracket or nothing.
-/
namespace Reachability.Json

namespace Numeral

def EndsDigits (rest : List UInt8) : Prop := ∀ b ∈ rest.head?, isDigit b = false

/-- Holds of a text that does not go on with anything that belongs to a number. -/
def Ends (rest : List UInt8) : Prop :=
  ∀ b ∈ rest.head?, isDigit b = false ∧ b ≠ byte '.' ∧ b ≠ byte 'e' ∧ b ≠ byte 'E'

theorem Ends.endsDigits {rest : List UInt8} (h : Ends rest) : EndsDigits rest :=
  fun b hb => (h b hb).1

theorem endsDigits_cons {b : UInt8} {rest : List UInt8} (h : isDigit b = false) :
    EndsDigits (b :: rest) := by
  intro d hd
  obtain rfl : b = d := by simpa using hd
  exact h

theorem charOf_byte {c : Char} (h : Decimal.isDigit c = true) : charOf (byte c) = c := by
  have := Decimal.isDigit_iff.mp h
  exact ofNat_toNat_byte (by omega)

theorem isDigit_byte {c : Char} (h : Decimal.isDigit c = true) : isDigit (byte c) = true := by
  rw [isDigit, charOf_byte h, h]

theorem map_charOf_bytes {digits : List Char} (h : digits.all Decimal.isDigit = true) :
    (bytes digits).map charOf = digits := by
  rw [bytes, List.map_map]
  refine (List.map_congr_left fun c hc => ?_).trans (List.map_id _)
  exact charOf_byte (List.all_eq_true.mp h c hc)

theorem takeDigits_bytes {digits : List Char} {rest : List UInt8}
    (h : digits.all Decimal.isDigit = true) (hrest : EndsDigits rest) :
    takeDigits (bytes digits ++ rest) = (digits, rest) := by
  have hdigits : ∀ b ∈ bytes digits, isDigit b = true := by
    intro b hb
    obtain ⟨c, hc, rfl⟩ := List.mem_map.mp hb
    exact isDigit_byte (List.all_eq_true.mp h c hc)
  have hnone : rest.takeWhile isDigit = [] ∧ rest.dropWhile isDigit = rest := by
    cases rest with
    | nil => exact ⟨rfl, rfl⟩
    | cons b rest => simp [hrest b rfl]
  rw [takeDigits, List.takeWhile_append_of_pos hdigits, List.dropWhile_append_of_pos hdigits,
    hnone.1, hnone.2, List.append_nil, map_charOf_bytes h]

theorem readWhole_bytes {whole : List Char} {rest : List UInt8} (atEnd : Problem)
    (hne : whole ≠ []) (hzero : whole.head? = some '0' → whole = ['0'])
    (hdigits : whole.all Decimal.isDigit = true) (hrest : EndsDigits rest) :
    readWhole atEnd (bytes whole ++ rest) = .ok (whole, rest) := by
  obtain ⟨c, cs, rfl⟩ := List.exists_cons_of_ne_nil hne
  simp only [List.all_cons, Bool.and_eq_true] at hdigits
  by_cases hc : c = '0'
  · subst hc
    obtain rfl : cs = [] := by simpa using hzero rfl
    cases rest with
    | nil => rfl
    | cons b rest =>
      have hb := hrest b rfl
      simp [readWhole, hb]
  · have hne : (byte c == byte '0') = false := by
      rw [beq_eq_false_iff_ne]
      intro h
      apply hc
      rw [← charOf_byte hdigits.1, h]
      rfl
    simp only [bytes_cons, List.cons_append, readWhole, hne, Bool.false_eq_true, if_false,
      isDigit_byte hdigits.1, if_true, takeDigits_bytes hdigits.2 hrest, charOf_byte hdigits.1]

theorem readFraction_bytes {fraction : List Char} {rest : List UInt8} (atEnd : Problem)
    (hdigits : fraction.all Decimal.isDigit = true) (hrest : EndsDigits rest)
    (hpoint : rest.head? ≠ some (byte '.')) :
    readFraction atEnd (bytes (if fraction = [] then [] else '.' :: fraction) ++ rest) =
      .ok (fraction, rest) := by
  split
  · next h =>
    subst h
    simp [readFraction, hpoint]
  · next h =>
    simp [readFraction, takeDigits_bytes hdigits hrest, h]

theorem byte_ne_of_isDigit {c sign : Char} (hc : Decimal.isDigit c = true)
    (hsign : isDigit (byte sign) = false) : byte c ≠ byte sign := by
  intro h
  have := isDigit_byte hc
  rw [h, hsign] at this
  cases this

theorem readExponent_bytes {exponent : Option (Bool × List Char)} {cs : List Char}
    {rest : List UInt8} (atEnd : Problem) (h : WrittenExponent exponent cs)
    (hdigits : ∀ e ∈ exponent, e.2 ≠ [] ∧ e.2.all Decimal.isDigit = true) (hrest : Ends rest) :
    readExponent atEnd (bytes cs ++ rest) = .ok (exponent, rest) := by
  have hmark {e : Char} (he : e = 'e' ∨ e = 'E') : byte e = byte 'e' ∨ byte e = byte 'E' :=
    he.imp (congrArg byte) (congrArg byte)
  cases h with
  | none =>
    have hhead : (rest.head? == some (byte 'e') || rest.head? == some (byte 'E')) = false := by
      cases rest with
      | nil => rfl
      | cons b rest => simp [hrest b rfl]
    simp [readExponent, hhead]
  | @unsigned e he digits =>
    obtain ⟨hne, hall⟩ := hdigits _ rfl
    have htake := takeDigits_bytes hall hrest.endsDigits
    obtain ⟨c, cs, rfl⟩ := List.exists_cons_of_ne_nil hne
    have hc : Decimal.isDigit c = true := List.all_eq_true.mp hall c List.mem_cons_self
    simp only [bytes_cons, List.cons_append] at htake
    simp [readExponent, hmark he, htake,
      byte_ne_of_isDigit hc (show isDigit (byte '-') = false from rfl),
      byte_ne_of_isDigit hc (show isDigit (byte '+') = false from rfl)]
  | @positive e he digits =>
    obtain ⟨hne, hall⟩ := hdigits _ rfl
    have hplus : byte '+' ≠ byte '-' := by decide
    simp [readExponent, hmark he, takeDigits_bytes hall hrest.endsDigits, hne, hplus]
  | @negative e he digits =>
    obtain ⟨hne, hall⟩ := hdigits _ rfl
    simp [readExponent, hmark he, takeDigits_bytes hall hrest.endsDigits, hne]

theorem endsDigits_exponent {exponent : Option (Bool × List Char)} {cs : List Char}
    {rest : List UInt8} (h : WrittenExponent exponent cs) (hrest : Ends rest) :
    EndsDigits (bytes cs ++ rest) ∧ (bytes cs ++ rest).head? ≠ some (byte '.') := by
  have hmark {e : Char} {more : List UInt8} (he : e = 'e' ∨ e = 'E') :
      EndsDigits (byte e :: more) ∧ (byte e :: more).head? ≠ some (byte '.') := by
    rcases he with rfl | rfl <;> exact ⟨endsDigits_cons rfl, by simp; decide⟩
  cases h with
  | none =>
    refine ⟨hrest.endsDigits, ?_⟩
    intro hpoint
    exact (hrest _ hpoint).2.1 rfl
  | unsigned he | positive he | negative he => exact hmark he

/-- A written numeral is read back. -/
theorem Written.read {n : Numeral} {cs : List Char} (h : n.Written cs) (atEnd : Problem)
    {rest : List UInt8} (hrest : Ends rest) :
    Numeral.read atEnd (bytes cs ++ rest) = .ok (n, rest) := by
  cases h with
  | @mk proper exponent hexponent =>
    obtain ⟨hne, hzero, hwhole, hfraction, hdigits⟩ := proper
    obtain ⟨hend, hpoint⟩ := endsDigits_exponent hexponent hrest
    generalize hpart : (if n.fraction = [] then [] else '.' :: n.fraction) = fraction
    have htail : EndsDigits (bytes fraction ++ (bytes exponent ++ rest)) := by
      by_cases h : n.fraction = []
      · simpa [← hpart, h] using hend
      · simpa [← hpart, h] using endsDigits_cons rfl
    have hunsigned : (bytes n.whole ++ (bytes fraction ++ (bytes exponent ++ rest))).head? ≠
        some (byte '-') := by
      obtain ⟨c, cs, hcons⟩ := List.exists_cons_of_ne_nil hne
      rw [hcons, List.all_cons, Bool.and_eq_true] at hwhole
      simpa [hcons] using byte_ne_of_isDigit hwhole.1 (show isDigit (byte '-') = false from rfl)
    have hsigned :
        bytes ((if n.isNegative then ['-'] else []) ++ n.whole ++ fraction ++ exponent) ++ rest =
          bytes (if n.isNegative then ['-'] else []) ++
          (bytes n.whole ++ (bytes fraction ++ (bytes exponent ++ rest))) := by
      simp
    have hwhole' := readWhole_bytes atEnd hne hzero hwhole htail
    have hfraction' := readFraction_bytes atEnd hfraction hend hpoint
    have hexponent' := readExponent_bytes atEnd hexponent hdigits hrest
    rw [hpart] at hfraction'
    rw [hsigned]
    -- From here on only what the three readers find counts.
    generalize bytes exponent ++ rest = afterFraction at *
    generalize bytes fraction ++ afterFraction = afterWhole at *
    generalize bytes n.whole ++ afterWhole = unsigned at *
    obtain ⟨isNegative, whole, fraction, exponent⟩ := n
    cases isNegative with
    | true =>
      simp [Numeral.read, hwhole', hfraction', hexponent', bind, Except.bind, pure, Except.pure]
    | false =>
      simp [Numeral.read, hunsigned, hwhole', hfraction', hexponent', bind, Except.bind, pure,
        Except.pure]

end Numeral

theorem Number.read_bytes {n : Numeral} {cs : List Char} (h : n.Written cs) {rest : List UInt8}
    (hrest : Numeral.Ends rest) :
    Number.read (bytes cs ++ rest) = (Number.ofNumeral n rest).map (·, rest) := by
  simp only [Number.read, h.read .endOfValue hrest, bind, Except.bind]
  cases Number.ofNumeral n rest <;> rfl

theorem Number.ofNumeral_ofNat {n : Nat} (h : n < UInt64.size) (rest : List UInt8) :
    Number.ofNumeral (.ofNat n) rest = .ok (.natural n) := by
  have hvalue : Decimal.value (Numeral.ofNat n).whole = n := Decimal.value_digits n
  simp only [Number.ofNumeral, hvalue, h, decide_true, Bool.and_true]
  rfl

end Reachability.Json
