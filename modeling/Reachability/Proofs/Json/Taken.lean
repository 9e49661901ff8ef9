import Reachability.Proofs.Except
import Reachability.Proofs.Json.Skip

/-!
# What is read was written

A reader of a string or of a number takes just the bytes that the grammar has for it. So whatever
is read as one was written as one, and nothing else is taken.
-/
namespace Reachability.Json

open Text (Utf8.encodeChar Utf8.decode.go)

/-! ## Escapes -/

theorem byte_ofNat_toNat (b : UInt8) : byte (Char.ofNat b.toNat) = b := by
  have hvalid : b.toNat.isValidChar := .inl (Nat.lt_trans b.toNat_lt (by decide))
  have hnat : (Char.ofNat b.toNat).toNat = b.toNat := by
    rw [Char.ofNat, dif_pos hvalid]
    rfl
  rw [← UInt8.toNat_inj, byte, Char.toUInt8, UInt32.toNat_toUInt8]
  show (Char.ofNat b.toNat).toNat % 256 = _
  rw [hnat, Nat.mod_eq_of_lt b.toNat_lt]

theorem bytes_map_ofNat (bs : List UInt8) : bytes (bs.map fun b => Char.ofNat b.toNat) = bs := by
  rw [bytes, List.map_map]
  exact (List.map_congr_left fun b _ => byte_ofNat_toNat b).trans (List.map_id _)

theorem exists_of_fourDigits {bs : List UInt8} {n : Nat} (h : fourDigits bs = .ok n) :
    ∃ digits, IsCode n digits ∧ bs = bytes digits ++ bs.drop 4 := by
  unfold fourDigits at h
  dsimp only at h
  split at h
  · cases h
  · next hlength =>
    split at h
    · next hdigits =>
      refine ⟨_, ⟨?_, hdigits, Except.ok.inj h⟩, ?_⟩
      · simp only [List.length_map, List.length_take] at hlength ⊢
        omega
      · rw [bytes_map_ofNat, List.take_append_drop]
    · cases h

theorem toNat_ofNat_of_isCode {n : Nat} {digits : List Char} (h : IsCode n digits)
    (hlow : ¬ isLowSurrogate n = true) (hhigh : ¬ isHighSurrogate n = true) :
    (Char.ofNat n).toNat = n := by
  have hlt : n < 0x10000 := h.2.2 ▸ Hexadecimal.value_lt_of_length (Nat.le_of_eq h.1)
  have hvalid : n.isValidChar := by
    simp only [isLowSurrogate, isHighSurrogate, Bool.and_eq_true, decide_eq_true_eq] at hlow hhigh
    simp only [Nat.isValidChar]
    omega
  rw [Char.ofNat, dif_pos hvalid]
  rfl

theorem mem_of_lookup {b : UInt8} {c : Char} (h : shortEscapes.lookup b = some c) :
    (b, c) ∈ shortEscapes := by
  obtain ⟨before, after, heq, -⟩ := List.lookup_eq_some_iff.mp h
  rw [heq]
  simp

theorem exists_of_lowSurrogate {bs : List UInt8} {low : Nat} (h : lowSurrogate bs = .ok low) :
    ∃ digits rest, isLowSurrogate low = true ∧ IsCode low digits ∧
      bs = byte '\\' :: byte 'u' :: (bytes digits ++ rest) := by
  cases bs with
  | nil => cases h
  | cons b bs =>
    simp only [lowSurrogate, bne_iff_ne, ne_eq, ite_not] at h
    split at h
    · next hb =>
      cases bs with
      | nil => cases h
      | cons d bs =>
        simp only at h
        split at h
        · next hd =>
          obtain ⟨n, hn, h⟩ := exists_of_bind_eq_ok h
          obtain ⟨digits, hcode, hbs⟩ := exists_of_fourDigits hn
          split at h
          · next hlow =>
            cases h
            exact ⟨digits, bs.drop 4, hlow, hcode, by rw [← hbs, hb, hd]⟩
          · cases h
        · cases h
    · cases h

theorem exists_of_escape {bs : List UInt8} {c : Char} {width : Nat}
    (h : escape bs = .ok (c, width)) :
    ∃ used rest, bs = used ++ rest ∧ used.length = width ∧ WrittenChar c (byte '\\' :: used) := by
  cases bs with
  | nil => cases h
  | cons b bs =>
    simp only [escape] at h
    split at h
    · next d hlookup =>
      cases h
      exact ⟨[b], bs, rfl, rfl, .short (mem_of_lookup hlookup)⟩
    · simp only [bne_iff_ne, ne_eq, ite_not] at h
      split at h
      · next hb =>
        obtain ⟨n, hn, h⟩ := exists_of_bind_eq_ok h
        obtain ⟨digits, hcode, hbs⟩ := exists_of_fourDigits hn
        split at h
        · cases h
        split at h
        · next hhigh =>
          obtain ⟨low, hlow, h⟩ := exists_of_bind_eq_ok h
          obtain ⟨second, rest, hislow, hsecond, hrest⟩ := exists_of_lowSurrogate hlow
          obtain ⟨rfl, rfl⟩ := Prod.mk.inj (Except.ok.inj h)
          refine ⟨byte 'u' :: (bytes digits ++ byte '\\' :: byte 'u' :: bytes second), rest, ?_, ?_,
            ?_⟩
          · rw [hbs, hrest, hb]
            simp
          · simp [hcode.1, hsecond.1]
          · simpa using WrittenChar.codes hhigh hislow hcode hsecond
        · next hlow hhigh =>
          obtain ⟨rfl, rfl⟩ := Prod.mk.inj (Except.ok.inj h)
          have hn := toNat_ofNat_of_isCode hcode hlow hhigh
          refine ⟨byte 'u' :: bytes digits, bs.drop 4, ?_, ?_, .code (hn.symm ▸ hcode)⟩
          · rw [hb, List.cons_append, ← hbs]
          · simp [hcode.1]
      · cases h

/-! ## Strings -/

/-- The bytes of a string up to its closing quote, and those that encode it. -/
inductive Scans : List UInt8 → List UInt8 → Prop
  | nil : Scans [] []
  | plain {b : UInt8} {source found : List UInt8} (h : IsPlain b) (tail : Scans source found) :
      Scans (b :: source) (b :: found)
  | escape {c : Char} {used source found : List UInt8} (h : WrittenChar c (byte '\\' :: used))
      (tail : Scans source found) :
      Scans (byte '\\' :: (used ++ source)) (Utf8.encodeChar c ++ found)

/-- A string is scanned up to its closing quote. The induction is on the bytes, of which an escape
takes several. -/
theorem exists_of_stringBytes {bs rest : List UInt8} {found : List (UInt8 × Nat)}
    (h : stringBytes 0 bs = .ok (found, rest)) :
    ∃ source, bs = source ++ byte '"' :: rest ∧ Scans source (found.map (·.1)) := by
  induction hn : bs.length using Nat.strongRecOn generalizing bs found with
  | ind n ih =>
    cases bs with
    | nil => cases h
    | cons b bs =>
      rw [List.length_cons] at hn
      simp only [stringBytes, beq_iff_eq] at h
      split at h
      · next hquote =>
        cases h
        exact ⟨[], by rw [hquote]; rfl, .nil⟩
      next hquote =>
      split at h
      · next hbackslash =>
        obtain ⟨⟨c, width⟩, hescape, h⟩ := exists_of_bind_eq_ok h
        obtain ⟨used, behind, rfl, rfl, hwritten⟩ := exists_of_escape hescape
        obtain ⟨⟨more, rest'⟩, hmore, h⟩ := exists_of_bind_eq_ok h
        cases h
        rw [stringBytes_escaped] at hmore
        rw [List.length_append] at hn
        obtain ⟨source, rfl, hscans⟩ := ih behind.length (by omega) hmore rfl
        refine ⟨byte '\\' :: (used ++ source), by simp [hbackslash], ?_⟩
        rw [List.map_append, map_fst_escapedBytes]
        exact .escape hwritten hscans
      next hbackslash =>
      split at h
      · cases h
      · next hcontrol =>
        obtain ⟨⟨more, rest'⟩, hmore, h⟩ := exists_of_bind_eq_ok h
        cases h
        obtain ⟨source, rfl, hscans⟩ := ih bs.length (by omega) hmore rfl
        exact ⟨b :: source, rfl, .plain ⟨hquote, hbackslash, hcontrol⟩ hscans⟩

/-- Bytes that go on with a character stand for themselves: an escape begins with the first byte of
a character. -/
theorem Scans.exists_of_continuation {source bytes found : List UInt8}
    (h : Scans source (bytes ++ found))
    (hbytes : ∀ b ∈ bytes, ∃ n, Text.Utf8.continuation? b = some n) :
    ∃ more, source = bytes ++ more ∧ (∀ b ∈ bytes, IsPlain b) ∧ Scans more found := by
  induction bytes generalizing source with
  | nil => exact ⟨source, rfl, by simp, h⟩
  | cons d bytes ih =>
    obtain ⟨⟨n, hd⟩, htail⟩ := List.forall_mem_cons.mp hbytes
    generalize hfound : d :: bytes ++ found = all at h
    cases h with
    | nil => cases hfound
    | plain hplain tail =>
      obtain ⟨rfl, rfl⟩ := List.cons.inj hfound
      obtain ⟨more, rfl, hall, hmore⟩ := ih tail htail
      exact ⟨more, rfl, List.forall_mem_cons.mpr ⟨hplain, hall⟩, hmore⟩
    | @escape c used source found' hwritten tail =>
      obtain ⟨b, bs, hchar, hfirst, -⟩ := Text.Utf8.exists_encodeChar c
      rw [hchar] at hfound
      obtain ⟨rfl, -⟩ := List.cons.inj hfound
      rw [hd] at hfirst
      cases hfirst

theorem writtenChar_of_isPlain {c : Char} (h : ∀ b ∈ Utf8.encodeChar c, IsPlain b) :
    WrittenChar c (Utf8.encodeChar c) := by
  have hbyte (hlt : c.toNat < 0x80) : IsPlain (UInt8.ofNat c.toNat) :=
    h _ (by rw [Text.Utf8.encodeChar_of_lt hlt]; exact List.mem_singleton.mpr rfl)
  refine .plain ?_ ?_ ?_
  · rintro rfl
    exact (hbyte (by decide)).1 rfl
  · rintro rfl
    exact (hbyte (by decide)).2.1 rfl
  · rw [← Nat.not_lt]
    intro hlow
    refine (hbyte (by omega)).2.2 ?_
    rwa [UInt8.lt_iff_toNat_lt, Text.Utf8.toNat_ofNat (by omega)]

/-- What the bytes of a string encode is what it is written for. The induction is on the bytes, of
which a character takes some. -/
theorem Scans.writtenChars {source found : List UInt8} {offset : Nat} {cs : List Char}
    (h : Scans source found) (hdecode : Utf8.decode.go found offset = .ok cs) :
    WrittenChars cs source := by
  induction hn : source.length using Nat.strongRecOn generalizing source found offset cs with
  | ind n ih =>
    cases h with
    | nil =>
      rw [Utf8.decode.go] at hdecode
      cases hdecode
      exact .nil
    | @plain b source found hplain tail =>
      obtain ⟨c, left, more, offset', hfirst, hleft, rfl⟩ :=
        Text.Utf8.exists_of_decode_cons hdecode
      obtain ⟨d, ds, hchar, -, hmore⟩ := Text.Utf8.exists_encodeChar c
      rw [hchar] at hfirst
      obtain ⟨rfl, rfl⟩ := List.cons.inj hfirst
      obtain ⟨behind, rfl, hds, hbehind⟩ := tail.exists_of_continuation hmore
      have hwritten : WrittenChar c (b :: ds) := by
        rw [← hchar]
        exact writtenChar_of_isPlain (hchar ▸ List.forall_mem_cons.mpr ⟨hplain, hds⟩)
      have hlength : behind.length < n := by
        simp only [List.length_cons, List.length_append] at hn
        omega
      exact .cons hwritten (ih behind.length hlength hbehind hleft rfl)
    | @escape c used source found hwritten tail =>
      rw [Text.Utf8.go_encodeChar] at hdecode
      obtain ⟨more, hmore, rfl⟩ := exists_of_map_eq_ok hdecode
      have hlength : source.length < n := by
        simp only [List.length_cons, List.length_append] at hn
        omega
      exact .cons hwritten (ih source.length hlength tail hmore rfl)

theorem exists_of_string {bs rest : List UInt8} {s : String} (h : string bs = .ok (s, rest)) :
    ∃ source, bs = source ++ byte '"' :: rest ∧ WrittenChars s.toList source := by
  obtain ⟨⟨found, rest'⟩, hbytes, h⟩ := exists_of_bind_eq_ok h
  obtain ⟨s', hs, h⟩ := exists_of_bind_eq_ok h
  cases h
  obtain ⟨source, hsource, hscans⟩ := exists_of_stringBytes hbytes
  refine ⟨source, hsource, ?_⟩
  unfold textOf at hs
  split at hs
  · next cs hdecode =>
    cases hs
    rw [String.toList_ofList]
    exact hscans.writtenChars hdecode
  · cases hs

/-! ## Strings that are skipped -/

theorem exists_of_escapeWidth {bs : List UInt8} {width : Nat} (h : escapeWidth bs = .ok width) :
    ∃ used rest, bs = used ++ rest ∧ used.length = width ∧
      ∀ more, OutlineChars more → OutlineChars (byte '\\' :: (used ++ more)) := by
  cases bs with
  | nil => cases h
  | cons b bs =>
    simp only [escapeWidth] at h
    split at h
    · next hsome =>
      cases h
      obtain ⟨c, hlookup⟩ := Option.isSome_iff_exists.mp hsome
      exact ⟨[b], bs, rfl, rfl, fun more hmore => .short (mem_of_lookup hlookup) hmore⟩
    · simp only [bne_iff_ne, ne_eq, ite_not] at h
      split at h
      · next hb =>
        obtain ⟨n, hn, h⟩ := exists_of_bind_eq_ok h
        obtain ⟨digits, hcode, hbs⟩ := exists_of_fourDigits hn
        cases h
        refine ⟨byte 'u' :: bytes digits, bs.drop 4, ?_, ?_, fun more hmore => .code hcode hmore⟩
        · rw [hb, List.cons_append, ← hbs]
        · simp [hcode.1]
      · cases h

theorem exists_of_skipString {bs rest : List UInt8} (h : skipString 0 bs = .ok rest) :
    ∃ source, bs = source ++ byte '"' :: rest ∧ OutlineChars source := by
  induction hn : bs.length using Nat.strongRecOn generalizing bs with
  | ind n ih =>
    cases bs with
    | nil => cases h
    | cons b bs =>
      rw [List.length_cons] at hn
      simp only [skipString, beq_iff_eq] at h
      split at h
      · next hquote =>
        cases h
        exact ⟨[], by rw [hquote]; rfl, .nil⟩
      next hquote =>
      split at h
      · next hbackslash =>
        obtain ⟨width, hescape, h⟩ := exists_of_bind_eq_ok h
        obtain ⟨used, behind, rfl, rfl, houtline⟩ := exists_of_escapeWidth hescape
        rw [skipString_escaped] at h
        rw [List.length_append] at hn
        obtain ⟨source, rfl, hsource⟩ := ih behind.length (by omega) h rfl
        exact ⟨byte '\\' :: (used ++ source), by simp [hbackslash], houtline source hsource⟩
      next hbackslash =>
      split at h
      · cases h
      · next hcontrol =>
        obtain ⟨source, rfl, hsource⟩ := ih bs.length (by omega) h rfl
        exact ⟨b :: source, rfl, .plain ⟨hquote, hbackslash, hcontrol⟩ hsource⟩

/-! ## Numbers -/

namespace Numeral

theorem eq_of_takeDigits {bs rest : List UInt8} {digits : List Char}
    (h : takeDigits bs = (digits, rest)) :
    bs = bytes digits ++ rest ∧ digits.all Decimal.isDigit = true := by
  obtain ⟨rfl, rfl⟩ := Prod.mk.inj h
  refine ⟨?_, ?_⟩
  · show bs = bytes ((bs.takeWhile isDigit).map fun b => Char.ofNat b.toNat) ++ _
    rw [bytes_map_ofNat, List.takeWhile_append_dropWhile]
  · rw [List.all_map]
    exact List.all_takeWhile

theorem exists_of_readWhole {atEnd : Problem} {bs rest : List UInt8} {whole : List Char}
    (h : readWhole atEnd bs = .ok (whole, rest)) : bs = bytes whole ++ rest ∧ whole ≠ [] ∧
      (whole.head? = some '0' → whole = ['0']) ∧ whole.all Decimal.isDigit = true := by
  cases bs with
  | nil => cases h
  | cons b bs =>
    simp only [readWhole, beq_iff_eq] at h
    split at h
    · next hzero =>
      have hwhole : whole = ['0'] ∧ bs = rest := by
        cases bs with
        | nil =>
          cases h
          exact ⟨rfl, rfl⟩
        | cons d more =>
          simp only at h
          split at h
          · cases h
          · cases h
            exact ⟨rfl, rfl⟩
      obtain ⟨rfl, rfl⟩ := hwhole
      exact ⟨by rw [hzero]; rfl, by simp, by simp, rfl⟩
    · next hzero =>
      split at h
      · next hdigit =>
        cases htake : takeDigits bs with
        | mk digits rest' =>
          rw [htake] at h
          cases h
          obtain ⟨rfl, hdigits⟩ := eq_of_takeDigits htake
          refine ⟨?_, by simp, ?_, ?_⟩
          · rw [bytes_cons, List.cons_append]
            exact congrArg (· :: _) (byte_ofNat_toNat b).symm
          · intro hhead
            have hb : charOf b = '0' := by simpa using hhead
            refine absurd ?_ hzero
            rw [← hb]
            exact (byte_ofNat_toNat b).symm
          · rw [List.all_cons, hdigits, Bool.and_true]
            exact hdigit
      · cases h

theorem exists_of_digits {α : Type} {of : List Char → α} {bs rest : List UInt8} {x : α}
    {atEnd problem : Problem}
    (h : (if !(takeDigits bs).1.isEmpty then .ok (of (takeDigits bs).1, (takeDigits bs).2)
      else if (takeDigits bs).2.isEmpty then failAt atEnd []
      else failBehind problem (takeDigits bs).2) = Except.ok (x, rest)) :
    ∃ digits, x = of digits ∧ bs = bytes digits ++ rest ∧ digits ≠ [] ∧
      digits.all Decimal.isDigit = true := by
  cases htake : takeDigits bs with
  | mk digits rest' =>
    rw [htake] at h
    dsimp only at h
    split at h
    · next hne =>
      cases h
      obtain ⟨hbs, hdigits⟩ := eq_of_takeDigits htake
      exact ⟨digits, rfl, hbs, by simpa using hne, hdigits⟩
    · split at h <;> cases h

theorem exists_of_readFraction {atEnd : Problem} {bs rest : List UInt8} {fraction : List Char}
    (h : readFraction atEnd bs = .ok (fraction, rest)) :
    bs = bytes (if fraction = [] then [] else '.' :: fraction) ++ rest ∧
      fraction.all Decimal.isDigit = true := by
  simp only [readFraction] at h
  split at h
  · next hpoint =>
    obtain ⟨more, rfl⟩ := List.head?_eq_some_iff.mp (eq_of_beq hpoint)
    obtain ⟨digits, rfl, hmore, hne, hdigits⟩ := @exists_of_digits _ id _ _ _ _ _ h
    rw [List.tail_cons] at hmore
    exact ⟨by simp [hmore, hne], hdigits⟩
  · cases h
    exact ⟨rfl, rfl⟩

theorem exists_of_readExponent {atEnd : Problem} {bs rest : List UInt8}
    {exponent : Option (Bool × List Char)}
    (h : readExponent atEnd bs = .ok (exponent, rest)) :
    ∃ cs, bs = bytes cs ++ rest ∧ WrittenExponent exponent cs ∧
      ∀ e ∈ exponent, e.2 ≠ [] ∧ e.2.all Decimal.isDigit = true := by
  simp only [readExponent] at h
  split at h
  · next hmark =>
    rw [Bool.or_eq_true, beq_iff_eq, beq_iff_eq] at hmark
    obtain ⟨e, he, more, rfl⟩ : ∃ e, (e = 'e' ∨ e = 'E') ∧ ∃ more, bs = byte e :: more := by
      rcases hmark with hmark | hmark
      · exact ⟨'e', .inl rfl, List.head?_eq_some_iff.mp hmark⟩
      · exact ⟨'E', .inr rfl, List.head?_eq_some_iff.mp hmark⟩
    obtain ⟨digits, rfl, hmore, hproper⟩ :=
      @exists_of_digits _ (fun digits => some (_, digits)) _ _ _ _ _ h
    have hproper : ∀ x ∈ some ((byte e :: more).tail.head? == some (byte '-'), digits),
        x.2 ≠ [] ∧ x.2.all Decimal.isDigit = true := by
      simpa using hproper
    rw [List.tail_cons] at hmore hproper ⊢
    by_cases hminus : more.head? = some (byte '-')
    · obtain ⟨tail, rfl⟩ := List.head?_eq_some_iff.mp hminus
      have htail : tail = bytes digits ++ rest := by simpa using hmore
      exact ⟨e :: '-' :: digits, by simp [htail], by simpa using .negative he digits, hproper⟩
    · have hsign : (more.head? == some (byte '-')) = false := beq_eq_false_iff_ne.mpr hminus
      rw [hsign, Bool.false_or] at hmore
      rw [hsign] at hproper ⊢
      by_cases hplus : more.head? = some (byte '+')
      · obtain ⟨tail, rfl⟩ := List.head?_eq_some_iff.mp hplus
        have htail : tail = bytes digits ++ rest := by simpa using hmore
        exact ⟨e :: '+' :: digits, by simp [htail], .positive he digits, hproper⟩
      · have htail : more = bytes digits ++ rest := by simpa [hplus] using hmore
        exact ⟨e :: digits, by simp [htail], .unsigned he digits, hproper⟩
  · cases h
    exact ⟨[], rfl, .none, by simp⟩

theorem exists_of_read {atEnd : Problem} {bs rest : List UInt8} {n : Numeral}
    (h : Numeral.read atEnd bs = .ok (n, rest)) : ∃ cs, n.Written cs ∧ bs = bytes cs ++ rest := by
  obtain ⟨⟨whole, afterWhole⟩, hwhole, h⟩ := exists_of_bind_eq_ok h
  obtain ⟨⟨fraction, afterFraction⟩, hfraction, h⟩ := exists_of_bind_eq_ok h
  obtain ⟨⟨exponent, afterExponent⟩, hexponent, h⟩ := exists_of_bind_eq_ok h
  cases h
  obtain ⟨hunsigned, hne, hzero, hdigits⟩ := exists_of_readWhole hwhole
  obtain ⟨rfl, hfractionDigits⟩ := exists_of_readFraction hfraction
  obtain ⟨cs, rfl, hwritten, hexponentDigits⟩ := exists_of_readExponent hexponent
  refine ⟨_, .mk _ ⟨hne, hzero, hdigits, hfractionDigits, hexponentDigits⟩ hwritten, ?_⟩
  by_cases hminus : bs.head? = some (byte '-')
  · obtain ⟨more, rfl⟩ := List.head?_eq_some_iff.mp hminus
    have hmore : more = bytes whole ++ (bytes (if fraction = [] then [] else '.' :: fraction) ++
        (bytes cs ++ rest)) := by simpa using hunsigned
    simp [hmore]
  · have hsign : (bs.head? == some (byte '-')) = false := beq_eq_false_iff_ne.mpr hminus
    rw [hsign, if_neg Bool.false_ne_true] at hunsigned
    rw [hsign, hunsigned]
    simp

end Numeral

end Reachability.Json
