import Reachability.Text.Utf8

/-!
# Encoded texts are read back

What is encoded is decoded, and what is decoded was encoded: there is one encoding of a text.
-/
namespace Reachability.Text.Utf8

theorem charFrom?_toNat {least n : Nat} {c : Char} (hn : n = c.toNat) (h : least ≤ c.toNat) :
    charFrom? least n = some c := by
  rw [hn, charFrom?, if_pos ⟨c.valid, h⟩, Char.ofNat_toNat]

theorem continuation?_of_toNat {b : UInt8} {n : Nat} (hb : b.toNat = n + 0x80) (h : n < 64) :
    continuation? b = some n := by
  have hbounds : 0x80 ≤ b ∧ b < 0xC0 := by
    simp only [UInt8.le_iff_toNat_le, UInt8.lt_iff_toNat_lt, hb, UInt8.reduceToNat]
    omega
  rw [continuation?, if_pos hbounds, hb, Nat.add_sub_cancel]

section

variable {a b c d : UInt8} {lead high middle low : Nat} {char : Char}

theorem decodeFirst?_one (ha : a.toNat = char.toNat) (h : char.toNat < 0x80) (rest : List UInt8) :
    decodeFirst? (a :: rest) = some (char, rest) := by
  have hlt : a < 0x80 := by
    simpa only [UInt8.lt_iff_toNat_lt, ha, UInt8.reduceToNat] using h
  simp only [decodeFirst?, if_pos hlt, charFrom?_toNat ha (Nat.zero_le _), Option.map_some]

theorem decodeFirst?_two (ha : a.toNat = lead + 0xC0) (hb : b.toNat = low + 0x80)
    (hlead : lead < 0x20) (hlow : low < 64) (hchar : lead * 64 + low = char.toNat)
    (hleast : 0x80 ≤ char.toNat) (rest : List UInt8) :
    decodeFirst? (a :: b :: rest) = some (char, rest) := by
  have hbounds : ¬ a < 0x80 ∧ ¬ a < 0xC2 ∧ a < 0xE0 := by
    simp only [UInt8.lt_iff_toNat_lt, ha, UInt8.reduceToNat]
    omega
  obtain ⟨h1, h2, h3⟩ := hbounds
  simp only [decodeFirst?, if_neg h1, if_neg h2, if_pos h3, continuation?_of_toNat hb hlow, ha,
    Nat.add_sub_cancel, Option.bind_eq_bind, Option.bind_some, charFrom?_toNat hchar hleast]
  rfl

theorem decodeFirst?_three (ha : a.toNat = lead + 0xE0) (hb : b.toNat = middle + 0x80)
    (hc : c.toNat = low + 0x80) (hlead : lead < 0x10) (hmiddle : middle < 64) (hlow : low < 64)
    (hchar : (lead * 64 + middle) * 64 + low = char.toNat) (hleast : 0x800 ≤ char.toNat)
    (rest : List UInt8) : decodeFirst? (a :: b :: c :: rest) = some (char, rest) := by
  have hbounds : ¬ a < 0x80 ∧ ¬ a < 0xC2 ∧ ¬ a < 0xE0 ∧ a < 0xF0 := by
    simp only [UInt8.lt_iff_toNat_lt, ha, UInt8.reduceToNat]
    omega
  obtain ⟨h1, h2, h3, h4⟩ := hbounds
  simp only [decodeFirst?, if_neg h1, if_neg h2, if_neg h3, if_pos h4,
    continuation?_of_toNat hb hmiddle, continuation?_of_toNat hc hlow, ha, Nat.add_sub_cancel,
    Option.bind_eq_bind, Option.bind_some, charFrom?_toNat hchar hleast]
  rfl

theorem decodeFirst?_four (ha : a.toNat = lead + 0xF0) (hb : b.toNat = high + 0x80)
    (hc : c.toNat = middle + 0x80) (hd : d.toNat = low + 0x80) (hlead : lead < 5)
    (hhigh : high < 64) (hmiddle : middle < 64) (hlow : low < 64)
    (hchar : ((lead * 64 + high) * 64 + middle) * 64 + low = char.toNat)
    (hleast : 0x10000 ≤ char.toNat) (rest : List UInt8) :
    decodeFirst? (a :: b :: c :: d :: rest) = some (char, rest) := by
  have hbounds : ¬ a < 0x80 ∧ ¬ a < 0xC2 ∧ ¬ a < 0xE0 ∧ ¬ a < 0xF0 ∧ a < 0xF5 := by
    simp only [UInt8.lt_iff_toNat_lt, ha, UInt8.reduceToNat]
    omega
  obtain ⟨h1, h2, h3, h4, h5⟩ := hbounds
  simp only [decodeFirst?, if_neg h1, if_neg h2, if_neg h3, if_neg h4, if_pos h5,
    continuation?_of_toNat hb hhigh, continuation?_of_toNat hc hmiddle,
    continuation?_of_toNat hd hlow, ha, Nat.add_sub_cancel, Option.bind_eq_bind, Option.bind_some,
    charFrom?_toNat hchar hleast]
  rfl

end

theorem toNat_lt (c : Char) : c.toNat < 0x110000 := by
  rcases c.valid with h | h
  · exact Nat.lt_trans h (by decide)
  · exact h.2

theorem toNat_ofNat {n : Nat} (h : n < 256) : (UInt8.ofNat n).toNat = n := by
  rw [UInt8.toNat_ofNat', Nat.mod_eq_of_lt h]

/-- The four forms of a character, by its size. -/
theorem encodeChar_eq (c : Char) : encodeChar c =
    if c.toNat ≤ 0x7F then [UInt8.ofNat c.toNat]
    else if c.toNat ≤ 0x7FF then
      [UInt8.ofNat (c.toNat / 64 % 32 + 0xC0), UInt8.ofNat (c.toNat % 64 + 0x80)]
    else if c.toNat ≤ 0xFFFF then
      [UInt8.ofNat (c.toNat / 4096 % 16 + 0xE0), UInt8.ofNat (c.toNat / 64 % 64 + 0x80),
        UInt8.ofNat (c.toNat % 64 + 0x80)]
    else
      [UInt8.ofNat (c.toNat / 262144 % 8 + 0xF0), UInt8.ofNat (c.toNat / 4096 % 64 + 0x80),
        UInt8.ofNat (c.toNat / 64 % 64 + 0x80), UInt8.ofNat (c.toNat % 64 + 0x80)] := rfl

theorem decodeFirst?_encodeChar (c : Char) (rest : List UInt8) :
    decodeFirst? (encodeChar c ++ rest) = some (c, rest) := by
  have hc := toNat_lt c
  have hn {n : Nat} (h : n < 256) := toNat_ofNat h
  rw [encodeChar_eq]
  split
  · exact decodeFirst?_one (hn (by omega)) (by omega) rest
  split
  · exact decodeFirst?_two (hn (by omega)) (hn (by omega)) (by omega) (by omega) (by omega)
      (by omega) rest
  split
  · exact decodeFirst?_three (hn (by omega)) (hn (by omega)) (hn (by omega)) (by omega) (by omega)
      (by omega) (by omega) (by omega) rest
  · exact decodeFirst?_four (hn (by omega)) (hn (by omega)) (hn (by omega)) (hn (by omega))
      (by omega) (by omega) (by omega) (by omega) (by omega) (by omega) rest

theorem encodeChar_ne_nil (c : Char) : encodeChar c ≠ [] := String.utf8EncodeChar_ne_nil

theorem go_encodeChar (c : Char) (rest : List UInt8) (offset : Nat) :
    decode.go (encodeChar c ++ rest) offset =
      (decode.go rest (offset + c.utf8Size)).map (c :: ·) := by
  have hfirst := decodeFirst?_encodeChar c rest
  obtain ⟨b, bs, hcons⟩ := List.exists_cons_of_ne_nil (encodeChar_ne_nil c)
  rw [hcons, List.cons_append] at hfirst ⊢
  rw [decode.go]
  split
  · next h => rw [hfirst] at h; cases h
  · next d left h =>
    rw [hfirst] at h
    cases h
    rfl

/-- An encoded text is read back. -/
theorem decode_encode (cs : List Char) : decode (encode cs) = .ok cs := by
  have hgo : ∀ offset, decode.go (encode cs) offset = .ok cs := by
    induction cs with
    | nil => intro offset; simp [encode, decode.go]
    | cons c cs ih =>
      intro offset
      rw [encode, List.flatMap_cons, go_encodeChar, ← encode, ih]
      rfl
  exact hgo 0

theorem encodeChar_of_lt {c : Char} (h : c.toNat < 0x80) :
    encodeChar c = [UInt8.ofNat c.toNat] := by
  rw [encodeChar_eq, if_pos (by omega)]

theorem le_of_mem_encodeChar {c : Char} {b : UInt8} (h : 0x80 ≤ c.toNat) (hb : b ∈ encodeChar c) :
    0x80 ≤ b.toNat := by
  have hc := toNat_lt c
  have hle {n : Nat} (hn : n < 256) (hlow : 0x80 ≤ n) : 0x80 ≤ (UInt8.ofNat n).toNat := by
    rwa [toNat_ofNat hn]
  rw [encodeChar_eq, if_neg (by omega)] at hb
  split at hb
  · simp only [List.mem_cons, List.not_mem_nil, or_false] at hb
    rcases hb with rfl | rfl <;> exact hle (by omega) (by omega)
  split at hb
  · simp only [List.mem_cons, List.not_mem_nil, or_false] at hb
    rcases hb with rfl | rfl | rfl <;> exact hle (by omega) (by omega)
  · simp only [List.mem_cons, List.not_mem_nil, or_false] at hb
    rcases hb with rfl | rfl | rfl | rfl <;> exact hle (by omega) (by omega)

/-! ## What is decoded was encoded -/

theorem continuation?_eq_some {b : UInt8} {n : Nat} :
    continuation? b = some n ↔ b.toNat = n + 0x80 ∧ n < 64 := by
  constructor
  · intro h
    simp only [continuation?, Option.ite_none_right_eq_some, UInt8.le_iff_toNat_le,
      UInt8.lt_iff_toNat_lt, UInt8.reduceToNat, Option.some.injEq] at h
    omega
  · rintro ⟨hb, hn⟩
    exact continuation?_of_toNat hb hn

theorem charFrom?_eq_some {least n : Nat} {c : Char} :
    charFrom? least n = some c ↔ n = c.toNat ∧ least ≤ c.toNat := by
  constructor
  · intro h
    simp only [charFrom?, Option.ite_none_right_eq_some, Option.some.injEq] at h
    obtain ⟨⟨hvalid, hleast⟩, rfl⟩ := h
    have hn : n = (Char.ofNat n).toNat := by
      rw [Char.ofNat, dif_pos hvalid]
      rfl
    exact ⟨hn, hn ▸ hleast⟩
  · rintro ⟨hn, hleast⟩
    exact charFrom?_toNat hn hleast

theorem eq_ofNat {b : UInt8} {n : Nat} (h : b.toNat = n) : UInt8.ofNat n = b := by
  rw [← h, UInt8.ofNat_toNat]

theorem eq_of_decodeFirst? {bs rest : List UInt8} {char : Char}
    (h : decodeFirst? bs = some (char, rest)) : bs = encodeChar char ++ rest := by
  cases bs with
  | nil => cases h
  | cons a bs =>
    simp only [decodeFirst?, UInt8.lt_iff_toNat_lt, UInt8.reduceToNat] at h
    split at h
    · next ha =>
      simp only [Option.map_eq_some_iff, Prod.mk.injEq, charFrom?_eq_some] at h
      obtain ⟨_, ⟨hn, -⟩, rfl, rfl⟩ := h
      rw [encodeChar_of_lt (hn ▸ ha), eq_ofNat hn]
      rfl
    split at h
    · cases h
    split at h
    · split at h
      · next b bs =>
        simp only [Option.bind_eq_bind, Option.bind_eq_some_iff, continuation?_eq_some,
          charFrom?_eq_some, Option.pure_def, Option.some.injEq, Prod.mk.injEq] at h
        obtain ⟨low, hb, _, hchar, rfl, rfl⟩ := h
        rw [encodeChar_eq, if_neg (by omega), if_pos (by omega), eq_ofNat (b := a) (by omega),
          eq_ofNat (b := b) (by omega)]
        rfl
      · cases h
    split at h
    · split at h
      · next b c bs =>
        simp only [Option.bind_eq_bind, Option.bind_eq_some_iff, continuation?_eq_some,
          charFrom?_eq_some, Option.pure_def, Option.some.injEq, Prod.mk.injEq] at h
        obtain ⟨middle, hb, low, hc, _, hchar, rfl, rfl⟩ := h
        rw [encodeChar_eq, if_neg (by omega), if_neg (by omega), if_pos (by omega),
          eq_ofNat (b := a) (by omega), eq_ofNat (b := b) (by omega), eq_ofNat (b := c) (by omega)]
        rfl
      · cases h
    split at h
    · split at h
      · next b c d bs =>
        simp only [Option.bind_eq_bind, Option.bind_eq_some_iff, continuation?_eq_some,
          charFrom?_eq_some, Option.pure_def, Option.some.injEq, Prod.mk.injEq] at h
        obtain ⟨high, hb, middle, hc, low, hd, _, hchar, rfl, rfl⟩ := h
        rw [encodeChar_eq, if_neg (by omega), if_neg (by omega), if_neg (by omega),
          eq_ofNat (b := a) (by omega), eq_ofNat (b := b) (by omega), eq_ofNat (b := c) (by omega),
          eq_ofNat (b := d) (by omega)]
        rfl
      · cases h
    · cases h

/-- The first byte of a character does not go on with one, and the others do. -/
theorem exists_encodeChar (c : Char) : ∃ b bs, encodeChar c = b :: bs ∧
    continuation? b = none ∧ ∀ d ∈ bs, ∃ n, continuation? d = some n := by
  have hc := toNat_lt c
  have hfirst {n : Nat} (hn : n < 256) (h : n < 0x80 ∨ 0xC0 ≤ n) :
      continuation? (UInt8.ofNat n) = none := by
    simp only [continuation?, UInt8.le_iff_toNat_le, UInt8.lt_iff_toNat_lt, UInt8.reduceToNat,
      toNat_ofNat hn]
    exact if_neg (by omega)
  have hmore {n : Nat} (hn : n < 64) : ∃ m, continuation? (UInt8.ofNat (n + 0x80)) = some m :=
    ⟨n, continuation?_of_toNat (toNat_ofNat (by omega)) hn⟩
  rw [encodeChar_eq]
  split
  · exact ⟨_, _, rfl, hfirst (by omega) (by omega), by simp⟩
  split
  · refine ⟨_, _, rfl, hfirst (by omega) (by omega), ?_⟩
    simp only [List.forall_mem_singleton]
    exact hmore (by omega)
  split
  · refine ⟨_, _, rfl, hfirst (by omega) (by omega), ?_⟩
    simp only [List.forall_mem_cons]
    exact ⟨hmore (by omega), hmore (by omega), by simp⟩
  · refine ⟨_, _, rfl, hfirst (by omega) (by omega), ?_⟩
    simp only [List.forall_mem_cons]
    exact ⟨hmore (by omega), hmore (by omega), hmore (by omega), by simp⟩

theorem exists_of_decode_cons {b : UInt8} {bs : List UInt8} {offset : Nat} {cs : List Char}
    (h : decode.go (b :: bs) offset = .ok cs) : ∃ c left more offset',
      b :: bs = encodeChar c ++ left ∧ decode.go left offset' = .ok more ∧ cs = c :: more := by
  rw [decode.go] at h
  split at h
  · cases h
  · next c left hfirst =>
    cases hleft : decode.go left (offset + c.utf8Size) with
    | error e =>
      rw [hleft] at h
      cases h
    | ok more =>
      rw [hleft] at h
      exact ⟨c, left, more, _, eq_of_decodeFirst? hfirst, hleft, (Except.ok.inj h).symm⟩

/-! ## ASCII in decoded texts -/

theorem not_lt_of_continuation? {b : UInt8} {n : Nat} (h : continuation? b = some n) :
    ¬ b < 0x80 := by
  rw [continuation?, Option.ite_none_right_eq_some] at h
  exact UInt8.not_lt.mpr h.1.1

theorem mem_of_decodeFirst? {bs rest : List UInt8} {c : Char}
    (h : decodeFirst? bs = some (c, rest)) {b : UInt8} (hb : b ∈ bs) (hascii : b < 0x80) :
    c.toNat = b.toNat ∨ b ∈ rest := by
  have hcontinues {d : UInt8} {n : Nat} (hd : continuation? d = some n) : b ≠ d := by
    rintro rfl
    exact not_lt_of_continuation? hd hascii
  cases bs with
  | nil => cases hb
  | cons a bs =>
    by_cases ha : a < 0x80
    · simp only [decodeFirst?, if_pos ha, Option.map_eq_some_iff, Prod.mk.injEq, charFrom?,
        Option.ite_none_right_eq_some, Option.some.injEq] at h
      obtain ⟨_, ⟨⟨hvalid, -⟩, rfl⟩, rfl, rfl⟩ := h
      rcases List.mem_cons.mp hb with rfl | hb
      · rw [Char.ofNat, dif_pos hvalid]
        exact .inl rfl
      · exact .inr hb
    · have hbs : b ∈ bs := by
        rcases List.mem_cons.mp hb with rfl | hb
        · exact absurd hascii ha
        · exact hb
      right
      simp only [decodeFirst?, if_neg ha] at h
      split at h
      · cases h
      split at h
      · split at h
        · next d _ =>
          simp only [Option.bind_eq_bind, Option.bind_eq_some_iff, Option.pure_def,
            Option.some.injEq, Prod.mk.injEq] at h
          obtain ⟨_, hd, _, -, -, rfl⟩ := h
          simpa [hcontinues hd] using hbs
        · cases h
      split at h
      · split at h
        · next d e _ =>
          simp only [Option.bind_eq_bind, Option.bind_eq_some_iff, Option.pure_def,
            Option.some.injEq, Prod.mk.injEq] at h
          obtain ⟨_, hd, _, he, _, -, -, rfl⟩ := h
          simpa [hcontinues hd, hcontinues he] using hbs
        · cases h
      split at h
      · split at h
        · next d e f _ =>
          simp only [Option.bind_eq_bind, Option.bind_eq_some_iff, Option.pure_def,
            Option.some.injEq, Prod.mk.injEq] at h
          obtain ⟨_, hd, _, he, _, hf, _, -, -, rfl⟩ := h
          simpa [hcontinues hd, hcontinues he, hcontinues hf] using hbs
        · cases h
      · cases h

theorem mem_of_decode {bs : List UInt8} {cs : List Char} (h : decode bs = .ok cs) {c : Char}
    (hb : UInt8.ofNat c.toNat ∈ bs) (hascii : c.toNat < 0x80) : c ∈ cs := by
  have hbyte : (UInt8.ofNat c.toNat).toNat = c.toNat := toNat_ofNat (by omega)
  have hlt : UInt8.ofNat c.toNat < 0x80 := by
    rwa [UInt8.lt_iff_toNat_lt, hbyte]
  have hgo (bs : List UInt8) (offset : Nat) (cs : List Char)
      (h : decode.go bs offset = .ok cs) (hb : UInt8.ofNat c.toNat ∈ bs) : c ∈ cs := by
    induction bs, offset using decode.go.induct generalizing cs with
    | case1 => cases hb
    | case2 offset b rest hfirst =>
      rw [decode.go] at h
      split at h
      · cases h
      · next d left hd =>
        rw [hfirst] at hd
        cases hd
    | case3 offset b rest d left hfirst ih =>
      rw [decode.go] at h
      split at h
      · cases h
      · next d' left' hd =>
        rw [hfirst] at hd
        cases hd
        obtain ⟨ds, hds, rfl⟩ : ∃ ds, decode.go left (offset + d.utf8Size) = .ok ds ∧
            d :: ds = cs := by
          cases hleft : decode.go left (offset + d.utf8Size) with
          | error e =>
            rw [hleft] at h
            cases h
          | ok ds =>
            rw [hleft] at h
            exact ⟨ds, rfl, Except.ok.inj h⟩
        rcases mem_of_decodeFirst? hfirst hb hlt with hd | hleft
        · rw [hbyte, Char.toNat_inj] at hd
          rw [hd]
          exact List.mem_cons_self
        · exact List.mem_cons_of_mem _ (ih ds hds hleft)
  exact hgo bs 0 cs h hb

end Reachability.Text.Utf8
