import Reachability.Json.Compact
import Reachability.Proofs.Json.Unique

/-!
# Compact text is a text of its value

What is written without white space is JSON, and by uniqueness it says nothing but the value.
The numbers of a value must be numbers of JSON for this, as numerals can hold any characters.
-/
namespace Reachability.Json

open Text (Utf8.encode Utf8.encodeChar)

/-- Holds of a value whose numbers are all numbers of JSON. -/
inductive IsProper : Json → Prop
  | null : IsProper .null
  | boolean (value : Bool) : IsProper (.boolean value)
  | number {n : Numeral} (h : n.IsProper) : IsProper (.number n)
  | text (s : String) : IsProper (.text s)
  | array {vs : List Json} (h : ∀ v ∈ vs, IsProper v) : IsProper (.array vs)
  | object {ms : List (String × Json)} (h : ∀ m ∈ ms, IsProper m.2) : IsProper (.object ms)

theorem Numeral.isProper_ofNat (n : Nat) : (ofNat n).IsProper := by
  refine ⟨Decimal.digits_ne_nil n, Decimal.digits_eq_of_head?, Decimal.all_isDigit_digits n, rfl,
    ?_⟩
  intro e he
  cases he

theorem isProper_natural (n : Nat) : IsProper (.natural n) := .number (Numeral.isProper_ofNat n)

/-! ## Encoded characters -/

theorem encode_cons (c : Char) (cs : List Char) :
    Utf8.encode (c :: cs) = Utf8.encodeChar c ++ Utf8.encode cs := List.flatMap_cons

theorem encode_append (cs ds : List Char) :
    Utf8.encode (cs ++ ds) = Utf8.encode cs ++ Utf8.encode ds := List.flatMap_append

theorem encode_eq_bytes {cs : List Char} (h : ∀ c ∈ cs, c.toNat < 0x80) :
    Utf8.encode cs = bytes cs := by
  induction cs with
  | nil => rfl
  | cons c cs ih =>
    have hc : c.toNat < 0x80 := h c List.mem_cons_self
    rw [encode_cons, Text.Utf8.encodeChar_of_lt hc, ih fun d hd => h d (List.mem_cons_of_mem _ hd)]
    rfl

/-! ## Strings -/

theorem isCode_unicodeEscape {c : Char} (h : c.toNat < 0x20) :
    IsCode c.toNat ['0', '0', Nat.digitChar (c.toNat / 16), Nat.digitChar (c.toNat % 16)] := by
  have hdigits : ∀ n < 0x20,
      IsCode n ['0', '0', Nat.digitChar (n / 16), Nat.digitChar (n % 16)] := by
    unfold IsCode
    decide
  exact hdigits _ h

theorem writtenChar_escapeChar (c : Char) : WrittenChar c (Utf8.encode (escapeChar c)) := by
  unfold escapeChar
  have hshort {b : UInt8} {c e : Char} (h : (b, c) ∈ shortEscapes)
      (he : Utf8.encode ['\\', e] = [byte '\\', b]) : WrittenChar c (Utf8.encode ['\\', e]) := by
    rw [he]
    exact .short h
  split
  · next h =>
    subst h
    exact hshort (b := byte '"') (by decide) (by decide)
  split
  · next h =>
    subst h
    exact hshort (b := byte '\\') (by decide) (by decide)
  split
  · next h =>
    subst h
    exact hshort (b := byte 'b') (by decide) (by decide)
  split
  · next h =>
    subst h
    exact hshort (b := byte 't') (by decide) (by decide)
  split
  · next h =>
    subst h
    exact hshort (b := byte 'n') (by decide) (by decide)
  split
  · next h =>
    subst h
    exact hshort (b := byte 'f') (by decide) (by decide)
  split
  · next h =>
    subst h
    exact hshort (b := byte 'r') (by decide) (by decide)
  split
  · next h =>
    have hcode := isCode_unicodeEscape h
    have hascii : ∀ d ∈ unicodeEscape c, d.toNat < 0x80 := by
      intro d hd
      rcases List.mem_cons.mp hd with rfl | hd
      · decide
      rcases List.mem_cons.mp hd with rfl | hd
      · decide
      have hbounds := Hexadecimal.toNat_bounds (List.all_eq_true.mp hcode.2.1 d hd)
      exact Nat.lt_of_le_of_lt hbounds.2 (by decide)
    rw [encode_eq_bytes hascii]
    exact .code hcode
  · next hquote hbackslash _ _ _ _ _ hcontrol =>
    have hplain := WrittenChar.plain hquote hbackslash (Nat.not_lt.mp hcontrol)
    simpa [Utf8.encode] using hplain

theorem writtenString_stringChars (s : String) : WrittenString s (Utf8.encode (stringChars s)) := by
  have hchars (cs : List Char) : WrittenChars cs (Utf8.encode (cs.flatMap escapeChar)) := by
    induction cs with
    | nil => exact .nil
    | cons c cs ih =>
      rw [List.flatMap_cons, encode_append]
      exact .cons (writtenChar_escapeChar c) ih
  have h := WrittenString.mk (hchars s.toList)
  rw [stringChars, encode_cons, encode_append]
  exact h

/-! ## Numbers -/

theorem Numeral.written_toChars {n : Numeral} (h : n.IsProper) : n.Written n.toChars := by
  obtain ⟨isNegative, whole, fraction, exponent⟩ := n
  simp only [toChars, List.isEmpty_iff]
  cases exponent with
  | none => exact .mk _ h .none
  | some e =>
    obtain ⟨isNegativeExponent, digits⟩ := e
    cases isNegativeExponent with
    | false => exact .mk _ h (.unsigned (.inl rfl) digits)
    | true => exact .mk _ h (.negative (.inl rfl) digits)

theorem Numeral.mem_toChars {n : Numeral} (h : n.IsProper) {c : Char} (hc : c ∈ n.toChars) :
    Decimal.isDigit c = true ∨ c = '-' ∨ c = '.' ∨ c = 'e' := by
  obtain ⟨-, -, hwhole, hfraction, hexponent⟩ := h
  have hdigits {digits : List Char} (h : digits.all Decimal.isDigit = true) (hc : c ∈ digits) :
      Decimal.isDigit c = true := List.all_eq_true.mp h c hc
  have hsign {isNegative : Bool} (hc : c ∈ (if isNegative then ['-'] else [])) : c = '-' := by
    cases isNegative with
    | true => exact List.mem_singleton.mp hc
    | false => cases hc
  simp only [toChars, List.mem_append] at hc
  rcases hc with ((hc | hc) | hc) | hc
  · exact .inr (.inl (hsign hc))
  · exact .inl (hdigits hwhole hc)
  · split at hc
    · cases hc
    · rcases List.mem_cons.mp hc with rfl | hc
      · exact .inr (.inr (.inl rfl))
      · exact .inl (hdigits hfraction hc)
  · cases he : n.exponent with
    | none =>
      rw [he] at hc
      cases hc
    | some e =>
      rw [he] at hc
      rcases List.mem_cons.mp hc with rfl | hc
      · exact .inr (.inr (.inr rfl))
      rcases List.mem_append.mp hc with hc | hc
      · exact .inr (.inl (hsign hc))
      · exact .inl (hdigits (hexponent e he).2 hc)

theorem Numeral.toNat_lt_of_mem_toChars {n : Numeral} (h : n.IsProper) :
    ∀ c ∈ n.toChars, c.toNat < 0x80 := by
  intro c hc
  rcases mem_toChars h hc with hdigit | rfl | rfl | rfl
  · have := Decimal.isDigit_iff.mp hdigit
    omega
  · decide
  · decide
  · decide

/-! ## Values -/

theorem writtenItems_itemsChars {v : Json} {vs : List Json}
    (h : ∀ w ∈ v :: vs, Written w (Utf8.encode w.compactChars)) :
    WrittenItems v vs (Utf8.encode (itemsChars (v :: vs))) := by
  induction vs generalizing v with
  | nil =>
    have hlast := WrittenItems.last isBlank_nil (h v List.mem_cons_self) isBlank_nil
    rw [itemsChars]
    simpa using hlast
  | cons w vs ih =>
    have hmore := ih fun x hx => h x (List.mem_cons_of_mem _ hx)
    have hcons := WrittenItems.cons isBlank_nil (h v List.mem_cons_self) isBlank_nil hmore
    rw [itemsChars, encode_append, encode_cons]
    · exact hcons
    · exact List.cons_ne_nil w vs

theorem writtenMembers_membersChars {m : String × Json} {ms : List (String × Json)}
    (h : ∀ n ∈ m :: ms, Written n.2 (Utf8.encode n.2.compactChars)) :
    WrittenMembers m ms (Utf8.encode (membersChars (m :: ms))) := by
  induction ms generalizing m with
  | nil =>
    have hlast := WrittenMembers.last isBlank_nil (writtenString_stringChars m.1) isBlank_nil
      isBlank_nil (h m List.mem_cons_self) isBlank_nil
    rw [List.append_nil] at hlast
    rw [membersChars, encode_append, encode_cons]
    exact hlast
  | cons n ms ih =>
    have hmore := ih fun x hx => h x (List.mem_cons_of_mem _ hx)
    have hcons := WrittenMembers.cons isBlank_nil (writtenString_stringChars m.1) isBlank_nil
      isBlank_nil (h m List.mem_cons_self) isBlank_nil hmore
    rw [membersChars, encode_append, encode_cons, encode_append, encode_cons]
    · exact hcons
    · exact List.cons_ne_nil n ms

theorem written_compactChars {v : Json} (h : v.IsProper) :
    Written v (Utf8.encode v.compactChars) := by
  induction h with
  | null => exact .null
  | boolean value =>
    cases value with
    | true => exact .true
    | false => exact .false
  | @number n hn =>
    rw [compactChars, encode_eq_bytes (Numeral.toNat_lt_of_mem_toChars hn)]
    exact .number (Numeral.written_toChars hn)
  | text s =>
    rw [compactChars]
    exact .text (writtenString_stringChars s)
  | @array vs _ ih =>
    rw [compactChars, encode_cons, encode_append]
    cases vs with
    | nil => exact .emptyArray isBlank_nil
    | cons v vs => exact .array (writtenItems_itemsChars ih)
  | @object ms _ ih =>
    rw [compactChars, encode_cons, encode_append]
    cases ms with
    | nil => exact .emptyObject isBlank_nil
    | cons m ms => exact .object (writtenMembers_membersChars ih)

def compactBytes (v : Json) : List UInt8 := Utf8.encode v.compact.toList

/-- The text of a value is JSON and says that value and no other. -/
theorem document_compactBytes {v w : Json} (h : v.IsProper) :
    Document w v.compactBytes ↔ w = v := by
  have hwritten : Document v v.compactBytes := by
    rw [compactBytes, compact, String.toList_ofList]
    simpa using Document.mk isBlank_nil (written_compactChars h) isBlank_nil
  constructor
  · intro hw
    exact hw.unique hwritten
  · rintro rfl
    exact hwritten

end Reachability.Json
