import Reachability.Json.Outline
import Reachability.Proofs.Digits
import Reachability.Proofs.Text.Utf8

/-!
# Written strings are read back

However the characters of a string are written, as they are, by a letter, or by one or two
codes, the reader finds the bytes that encode them, and so the string. It stops behind the
closing quote, whatever follows.
-/
namespace Reachability.Json

open Text (Utf8.encode Utf8.encodeChar)

@[simp] theorem bytes_nil : bytes [] = [] := rfl

@[simp] theorem bytes_cons (c : Char) (cs : List Char) : bytes (c :: cs) = byte c :: bytes cs := rfl

@[simp] theorem bytes_append (cs ds : List Char) : bytes (cs ++ ds) = bytes cs ++ bytes ds :=
  List.map_append

@[simp] theorem length_bytes (cs : List Char) : (bytes cs).length = cs.length := List.length_map _

theorem ofNat_toNat_byte {c : Char} (h : c.toNat < 256) : Char.ofNat (byte c).toNat = c := by
  have hbyte : (byte c).toNat = c.toNat := by
    rw [byte, Char.toUInt8, UInt32.toNat_toUInt8]
    exact Nat.mod_eq_of_lt h
  rw [hbyte, Char.ofNat_toNat]

theorem map_ofNat_bytes {cs : List Char} (h : ∀ c ∈ cs, c.toNat < 256) :
    (bytes cs).map (fun b => Char.ofNat b.toNat) = cs := by
  rw [bytes, List.map_map]
  exact (List.map_congr_left fun c hc => ofNat_toNat_byte (h c hc)).trans (List.map_id _)

theorem fourDigits_bytes {n : Nat} {digits : List Char} (h : IsCode n digits) (rest : List UInt8) :
    fourDigits (bytes digits ++ rest) = .ok n := by
  obtain ⟨hlength, hdigits, hvalue⟩ := h
  have htake : (bytes digits ++ rest).take 4 = bytes digits := by
    rw [← hlength, ← length_bytes, List.take_left]
  have hfound : ((bytes digits ++ rest).take 4).map (fun b => Char.ofNat b.toNat) = digits := by
    rw [htake, map_ofNat_bytes]
    intro c hc
    have := (Hexadecimal.toNat_bounds (List.all_eq_true.mp hdigits c hc)).2
    omega
  rw [fourDigits]
  simp only [hfound]
  rw [if_neg (by omega), if_pos hdigits, hvalue]

theorem drop_bytes {n : Nat} {digits : List Char} (h : IsCode n digits) (rest : List UInt8) :
    (bytes digits ++ rest).drop 4 = rest := by
  rw [← h.1, ← length_bytes, List.drop_left]

/-! ## Escapes -/

theorem escape_short {b : UInt8} {c : Char} (h : (b, c) ∈ shortEscapes) (rest : List UInt8) :
    escape (b :: rest) = .ok (c, 1) := by
  have hlookup : shortEscapes.lookup b = some c := by
    simp only [shortEscapes, List.mem_cons, Prod.mk.injEq, List.not_mem_nil, or_false] at h
    rcases h with ⟨rfl, rfl⟩ | ⟨rfl, rfl⟩ | ⟨rfl, rfl⟩ | ⟨rfl, rfl⟩ | ⟨rfl, rfl⟩ | ⟨rfl, rfl⟩ |
      ⟨rfl, rfl⟩ | ⟨rfl, rfl⟩ <;> rfl
  simp only [escape, hlookup]

theorem not_isLowSurrogate (c : Char) : isLowSurrogate c.toNat = false := by
  have hc : c.toNat.isValidChar := c.valid
  simp only [isLowSurrogate, Bool.and_eq_false_iff, decide_eq_false_iff_not,
    Nat.isValidChar] at hc ⊢
  omega

theorem not_isHighSurrogate (c : Char) : isHighSurrogate c.toNat = false := by
  have hc : c.toNat.isValidChar := c.valid
  simp only [isHighSurrogate, Bool.and_eq_false_iff, decide_eq_false_iff_not,
    Nat.isValidChar] at hc ⊢
  omega

theorem escape_code {c : Char} {digits : List Char} (h : IsCode c.toNat digits)
    (rest : List UInt8) : escape (byte 'u' :: (bytes digits ++ rest)) = .ok (c, 5) := by
  have hlookup : shortEscapes.lookup (byte 'u') = none := by decide
  simp only [escape, hlookup, bne_self_eq_false, Bool.false_eq_true, if_false, fourDigits_bytes h,
    Except.bind, bind, not_isLowSurrogate, not_isHighSurrogate, Char.ofNat_toNat]
  rfl

theorem lowSurrogate_bytes {low : Nat} {digits : List Char} (hlow : isLowSurrogate low = true)
    (h : IsCode low digits) (rest : List UInt8) :
    lowSurrogate (byte '\\' :: byte 'u' :: (bytes digits ++ rest)) = .ok low := by
  simp only [lowSurrogate, bne_self_eq_false, Bool.false_eq_true, if_false, fourDigits_bytes h,
    Except.bind, bind, hlow, if_true]
  rfl

theorem escape_codes {high low : Nat} {first second : List Char}
    (hhigh : isHighSurrogate high = true) (hlow : isLowSurrogate low = true)
    (hfirst : IsCode high first) (hsecond : IsCode low second) (rest : List UInt8) :
    escape (byte 'u' :: (bytes first ++ byte '\\' :: byte 'u' :: (bytes second ++ rest))) =
      .ok (pair high low, 11) := by
  have hlookup : shortEscapes.lookup (byte 'u') = none := by decide
  have hnot : isLowSurrogate high = false := by
    simp only [isHighSurrogate, isLowSurrogate, Bool.and_eq_true, Bool.and_eq_false_iff,
      decide_eq_true_eq, decide_eq_false_iff_not] at hhigh ⊢
    omega
  simp only [escape, hlookup, bne_self_eq_false, Bool.false_eq_true, if_false,
    fourDigits_bytes hfirst, drop_bytes hfirst, Except.bind, bind, hnot, hhigh, if_true,
    lowSurrogate_bytes hlow hsecond]
  rfl

/-! ## Characters and strings -/

/-- The bytes that an escape has been resolved from are stepped over. -/
theorem stringBytes_escaped (used bs : List UInt8) :
    stringBytes used.length (used ++ bs) = stringBytes 0 bs := by
  induction used with
  | nil => rfl
  | cons b used ih => exact ih

theorem map_fst_escapedBytes (c : Char) (width : Nat) :
    (escapedBytes c width).map (·.1) = Utf8.encodeChar c := by
  unfold escapedBytes
  split
  · next h => simp [h]
  · next b bs h => simp [h, Function.comp_def]

theorem stringBytes_escape {c : Char} {bs rest : List UInt8} {more : List (UInt8 × Nat)}
    (used : List UInt8) (hescape : escape (used ++ bs) = .ok (c, used.length))
    (h : stringBytes 0 bs = .ok (more, rest)) :
    stringBytes 0 (byte '\\' :: (used ++ bs)) =
      .ok (escapedBytes c (used.length + 1) ++ more, rest) := by
  have hquote : (byte '\\' == byte '"') = false := by decide
  simp only [stringBytes, hquote, Bool.false_eq_true, if_false, beq_self_eq_true, if_true, hescape,
    Except.bind, bind, stringBytes_escaped, h]
  rfl

theorem stringBytes_plain {plain bs rest : List UInt8} {more : List (UInt8 × Nat)}
    (hplain : ∀ b ∈ plain, IsPlain b) (h : stringBytes 0 bs = .ok (more, rest)) :
    stringBytes 0 (plain ++ bs) = .ok (plain.map (·, 1) ++ more, rest) := by
  induction plain with
  | nil => exact h
  | cons b plain ih =>
    obtain ⟨hquote, hbackslash, hcontrol⟩ := hplain b List.mem_cons_self
    have htail := ih fun b hb => hplain b (List.mem_cons_of_mem _ hb)
    simp only [List.cons_append, stringBytes, beq_eq_false_iff_ne.mpr hquote,
      beq_eq_false_iff_ne.mpr hbackslash, Bool.false_eq_true, if_false, hcontrol, htail,
      Except.bind, bind]
    rfl

theorem isPlain_of_mem_encodeChar {c : Char} (quote : c ≠ '"') (backslash : c ≠ '\\')
    (control : 0x20 ≤ c.toNat) : ∀ b ∈ Utf8.encodeChar c, IsPlain b := by
  intro b hb
  by_cases hc : c.toNat < 0x80
  · rw [Text.Utf8.encodeChar_of_lt hc, List.mem_singleton] at hb
    have hn : b.toNat = c.toNat := by rw [hb, Text.Utf8.toNat_ofNat (by omega)]
    have hne {d : Char} (hd : d.toNat < 256) (h : c ≠ d) : b ≠ byte d := by
      rintro rfl
      apply h
      rw [← ofNat_toNat_byte hd, hn, Char.ofNat_toNat]
    refine ⟨hne (by decide) quote, hne (by decide) backslash, ?_⟩
    rw [UInt8.lt_iff_toNat_lt, hn]
    exact Nat.not_lt.mpr control
  · have hle := Text.Utf8.le_of_mem_encodeChar (Nat.not_lt.mp hc) hb
    have hne {d : UInt8} (hd : d.toNat < 0x80) : b ≠ d := by
      rintro rfl
      omega
    refine ⟨hne (by decide), hne (by decide), ?_⟩
    rw [UInt8.lt_iff_toNat_lt]
    exact Nat.not_lt.mpr (Nat.le_trans (by decide) hle)

/-- However a character is written, the bytes that encode it are found. -/
theorem WrittenChar.stringBytes {c : Char} {bs : List UInt8} (h : WrittenChar c bs) :
    ∃ found : List (UInt8 × Nat), found.map (·.1) = Utf8.encodeChar c ∧
      ∀ {after rest more}, stringBytes 0 after = .ok (more, rest) →
        stringBytes 0 (bs ++ after) = .ok (found ++ more, rest) := by
  cases h with
  | plain quote backslash control =>
    refine ⟨(Utf8.encodeChar c).map (·, 1), by simp [Function.comp_def], ?_⟩
    intro after rest more h
    exact stringBytes_plain (isPlain_of_mem_encodeChar quote backslash control) h
  | @short b _ hshort =>
    refine ⟨escapedBytes c 2, map_fst_escapedBytes _ _, ?_⟩
    intro after rest more h
    exact stringBytes_escape [b] (escape_short hshort after) h
  | @code _ digits hcode =>
    refine ⟨escapedBytes c 6, map_fst_escapedBytes _ _, ?_⟩
    intro after rest more h
    have hlength : (byte 'u' :: bytes digits).length = 5 := by simp [hcode.1]
    have := stringBytes_escape (byte 'u' :: bytes digits)
      (by rw [hlength]; exact escape_code hcode after) h
    rwa [hlength] at this
  | @codes high low first second hhigh hlow hfirst hsecond =>
    refine ⟨escapedBytes (pair high low) 12, map_fst_escapedBytes _ _, ?_⟩
    intro after rest more h
    have hlength :
        (byte 'u' :: (bytes first ++ byte '\\' :: byte 'u' :: bytes second)).length = 11 := by
      simp [hfirst.1, hsecond.1]
    have hescape := escape_codes hhigh hlow hfirst hsecond after
    have := stringBytes_escape
      (byte 'u' :: (bytes first ++ byte '\\' :: byte 'u' :: bytes second))
      (by rw [hlength]; simpa using hescape) h
    simpa [hlength, hfirst.1, hsecond.1] using this

theorem WrittenChars.stringBytes {cs : List Char} {bs : List UInt8} (h : WrittenChars cs bs)
    (rest : List UInt8) : ∃ found : List (UInt8 × Nat), found.map (·.1) = Utf8.encode cs ∧
      stringBytes 0 (bs ++ byte '"' :: rest) = .ok (found, rest) := by
  induction h with
  | nil => exact ⟨[], rfl, by simp [Json.stringBytes]⟩
  | cons head _ ih =>
    obtain ⟨first, hfirst, hread⟩ := head.stringBytes
    obtain ⟨more, hmore, htail⟩ := ih
    refine ⟨first ++ more, ?_, ?_⟩
    · simp [hfirst, hmore, Text.Utf8.encode]
    · rw [List.append_assoc]
      exact hread htail

theorem WrittenString.string {s : String} {bs : List UInt8} (h : WrittenString s bs) :
    ∃ inner, bs = byte '"' :: inner ∧ ∀ rest, Json.string (inner ++ rest) = .ok (s, rest) := by
  obtain ⟨hchars⟩ := h
  refine ⟨_, rfl, ?_⟩
  intro rest
  obtain ⟨found, hfound, hread⟩ := hchars.stringBytes rest
  rw [List.append_assoc, List.singleton_append]
  simp only [Json.string, hread, textOf, hfound, Text.Utf8.decode_encode, String.ofList_toList,
    Except.bind, bind]
  rfl

end Reachability.Json
