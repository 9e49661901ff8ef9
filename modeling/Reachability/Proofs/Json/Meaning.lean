import Mathlib.Data.List.Forall2
import Reachability.Proofs.Except
import Reachability.Proofs.Json.Record

/-!
# What a reader makes of a value

A reader finds the same in every text of a value, or meets the same problem; only the place of
the problem depends on how the value is written. So a reader has a meaning, which is a function
of the value alone, and a record is decoded from the members of an object one by one, up to the
first that has no meaning or comes twice.
-/
namespace Reachability.Json

/-- What has been read or the problem that was met, without its place. -/
def unplaced (x : Except Fault α) : Except Problem α := x.mapError Fault.problem

@[simp] theorem unplaced_ok (a : α) : unplaced (.ok a) = .ok a := rfl

@[simp] theorem unplaced_bind (x : Except Fault α) (f : α → Except Fault β) :
    unplaced (x >>= f) = unplaced x >>= fun a => unplaced (f a) := by
  cases x <;> rfl

@[simp] theorem unplaced_map (f : α → β) (x : Except Fault α) :
    unplaced (x.map f) = (unplaced x).map f := by
  cases x <;> rfl

abbrev Meaning (α : Type) := Json → Except Problem α

/-! ## Numbers -/

theorem Number.unplaced_ofNumeral (n : Numeral) (rest : List UInt8) :
    unplaced (ofNumeral n rest) = unplaced (ofNumeral n []) := by
  have hscaled (isNegative : Bool) (s : Significand) (e : Int) :
      unplaced (ofSignificand isNegative s e rest) =
        unplaced (ofSignificand isNegative s e []) := by
    unfold ofSignificand
    split <;> rfl
  unfold ofNumeral
  dsimp only
  split
  · rfl
  · split
    · rfl
    · split
      · exact hscaled _ _ _
      · split
        · exact hscaled _ _ _
        · split <;> rfl

namespace Meaning

def number (n : Numeral) : Except Problem Number := unplaced (Number.ofNumeral n [])

def describe : Meaning String
  | .null => .ok "null"
  | .boolean true => .ok "boolean \x60true\x60"
  | .boolean false => .ok "boolean \x60false\x60"
  | .number n => (number n).map Number.description
  | .text s => .ok ("string " ++ Text.quoted s)
  | .array _ => .ok "sequence"
  | .object _ => .ok "map"

def mismatch (expected : String) : Meaning α := fun v => do
  .error (.wrongType (← describe v) expected)

def text : Meaning String
  | .text s => .ok s
  | v => mismatch "a string" v

def natural (limit : Nat) (name : String) : Meaning Nat
  | .number n => do
    let n ← number n
    match n with
    | .natural value =>
      if value ≤ limit then .ok value else .error (.wrongValue n.description name)
    | .negative _ => .error (.wrongValue n.description name)
    | .real _ => .error (.wrongType n.description name)
  | v => mismatch name v

def optional (meaning : Meaning α) : Meaning (Option α)
  | .null => .ok none
  | v => (meaning v).map some

def into (meaning : Meaning α) (set : α → ρ → ρ) : Meaning (ρ → ρ) := fun v =>
  (meaning v).map set

end Meaning

/-! ## Readers -/

namespace Reader

/-- Holds if a reader makes of every text of a value what the value means. -/
def Decodes (r : Reader α) (meaning : Meaning α) : Prop :=
  ∀ ⦃v : Json⦄ ⦃before bs rest : List UInt8⦄, IsBlank before → Written v bs → Numeral.Ends rest →
    unplaced (r (before ++ (bs ++ rest))) = (meaning v).map (·, rest)

theorem found_null (rest : List UInt8) :
    found (byte 'n') (bytes "ull".toList ++ rest) = .ok ("null", rest) := by
  have hword : word ("ull".toList.map byte) (bytes "ull".toList ++ rest) = .ok ((), rest) :=
    word_bytes _ rest
  simp only [found, beq_self_eq_true, if_true, hword]
  rfl

theorem found_true (rest : List UInt8) :
    found (byte 't') (bytes "rue".toList ++ rest) = .ok ("boolean \x60true\x60", rest) := by
  have hword : word ("rue".toList.map byte) (bytes "rue".toList ++ rest) = .ok ((), rest) :=
    word_bytes _ rest
  have hn : (byte 't' == byte 'n') = false := by decide
  simp only [found, hn, Bool.false_eq_true, if_false, beq_self_eq_true, if_true, hword]
  rfl

theorem found_false (rest : List UInt8) :
    found (byte 'f') (bytes "alse".toList ++ rest) = .ok ("boolean \x60false\x60", rest) := by
  have hword : word ("alse".toList.map byte) (bytes "alse".toList ++ rest) = .ok ((), rest) :=
    word_bytes _ rest
  have hn : (byte 'f' == byte 'n') = false := by decide
  have ht : (byte 'f' == byte 't') = false := by decide
  simp only [found, hn, ht, Bool.false_eq_true, if_false, beq_self_eq_true, if_true, hword]
  rfl

theorem found_number {b : UInt8} (hb : (b == byte '-' || Numeral.isDigit b) = true)
    (bs : List UInt8) :
    found b bs = (Number.read (b :: bs)).map fun (n, rest) => (n.description, rest) := by
  have hne {e : Char} (he : Numeral.isDigit (byte e) = false ∧ byte e ≠ byte '-') :
      (b == byte e) = false := by
    rw [beq_eq_false_iff_ne]
    rintro rfl
    simp [he.1, he.2] at hb
  simp only [found, hne (e := 'n') (by decide), hne (e := 't') (by decide),
    hne (e := 'f') (by decide), Bool.false_eq_true, if_false, hb, if_true]

theorem unplaced_read_number {n : Numeral} {b : UInt8} {cs : List Char} {tail rest : List UInt8}
    (h : n.Written cs) (hcons : b :: tail = bytes cs) (hrest : Numeral.Ends rest) :
    unplaced (Number.read (b :: (tail ++ rest))) = (Meaning.number n).map (·, rest) := by
  have hread := Number.read_bytes h hrest
  rw [← hcons, List.cons_append] at hread
  rw [hread, unplaced_map, Number.unplaced_ofNumeral, Meaning.number]

section

variable {v : Json} {b : UInt8} {tail rest : List UInt8}

theorem unplaced_found (h : Written v (b :: tail)) (hrest : Numeral.Ends rest) :
    (unplaced (found b (tail ++ rest))).map (·.1) = Meaning.describe v := by
  have hb : v.beginsWith b = true := by
    obtain ⟨d, more, hcons, hd⟩ := h.begins
    obtain ⟨rfl, -⟩ := List.cons.inj hcons
    exact hd
  generalize hbs : b :: tail = bs at h
  cases h with
  | null =>
    obtain ⟨rfl, rfl⟩ := List.cons.inj hbs
    exact congrArg (fun x => (unplaced x).map _) (found_null rest)
  | true =>
    obtain ⟨rfl, rfl⟩ := List.cons.inj hbs
    exact congrArg (fun x => (unplaced x).map _) (found_true rest)
  | false =>
    obtain ⟨rfl, rfl⟩ := List.cons.inj hbs
    exact congrArg (fun x => (unplaced x).map _) (found_false rest)
  | number hn =>
    rw [found_number hb, unplaced_map, unplaced_read_number hn hbs hrest, Meaning.describe]
    cases Meaning.number _ <;> rfl
  | text hs =>
    obtain ⟨inner, rfl, hread⟩ := hs.string
    obtain ⟨rfl, rfl⟩ := List.cons.inj hbs
    show (unplaced ((string (tail ++ rest)).map _)).map _ = _
    rw [hread]
    rfl
  | emptyArray _ | array _ | emptyObject _ | object _ =>
    obtain ⟨rfl, -⟩ := List.cons.inj hbs
    rfl

theorem unplaced_mismatch (expected : String) (h : Written v (b :: tail))
    (hrest : Numeral.Ends rest) (f : α → β) :
    unplaced (mismatch expected b (tail ++ rest)) = (Meaning.mismatch expected v).map f := by
  rw [Meaning.mismatch, ← unplaced_found h hrest, mismatch, unplaced_bind]
  cases found b (tail ++ rest) <;> rfl

end

theorem beq_quote {v : Json} {b : UInt8} (h : v.beginsWith b = true)
    (hv : ∀ s, v ≠ .text s) : (b == byte '"') = false := by
  rw [beq_eq_false_iff_ne]
  rintro rfl
  cases v with
  | text s => exact hv s rfl
  | boolean value => cases value <;> cases h
  | null | number _ | array _ | object _ => cases h

theorem isDigit_of_beginsWith {v : Json} {b : UInt8} (h : v.beginsWith b = true)
    (hv : ∀ n, v ≠ .number n) : (b == byte '-' || Numeral.isDigit b) = false := by
  cases v with
  | number n => exact absurd rfl (hv n)
  | boolean value =>
    obtain rfl := eq_of_beq h
    cases value <;> rfl
  | null | text _ | array _ | object _ =>
    obtain rfl := eq_of_beq h
    rfl

theorem beq_n {v : Json} {b : UInt8} (h : v.beginsWith b = true) (hv : v ≠ .null) :
    (b == byte 'n') = false := by
  rw [beq_eq_false_iff_ne]
  rintro rfl
  cases v with
  | null => exact hv rfl
  | boolean value => cases value <;> cases h
  | number _ | text _ | array _ | object _ => cases h

section

variable {α ρ : Type}

theorem decodes_text : Decodes text Meaning.text := by
  intro v before bs rest hbefore h hrest
  obtain ⟨b, tail, rfl, hb⟩ := h.begins
  rw [text, onValue_written _ hbefore h]
  by_cases hv : ∃ s, v = .text s
  · obtain ⟨s, rfl⟩ := hv
    have hs : WrittenString s (b :: tail) := by
      cases h with
      | text h => exact h
    obtain ⟨inner, hcons, hread⟩ := hs.string
    obtain ⟨rfl, rfl⟩ := List.cons.inj hcons
    simp only [beq_self_eq_true, if_true, hread]
    rfl
  · have hv : ∀ s, v ≠ .text s := not_exists.mp hv
    have hmeaning : Meaning.text v = Meaning.mismatch "a string" v := by
      cases v with
      | text s => exact absurd rfl (hv s)
      | null | boolean _ | number _ | array _ | object _ => rfl
    rw [beq_quote hb hv, if_neg Bool.false_ne_true, hmeaning]
    exact unplaced_mismatch _ h hrest _

theorem decodes_natural (limit : Nat) (name : String) :
    Decodes (natural limit name) (Meaning.natural limit name) := by
  intro v before bs rest hbefore h hrest
  obtain ⟨b, tail, rfl, hb⟩ := h.begins
  rw [natural, onValue_written _ hbefore h]
  by_cases hv : ∃ n, v = .number n
  · obtain ⟨n, rfl⟩ := hv
    have hread : unplaced (Number.read (b :: (tail ++ rest))) =
        (Meaning.number n).map (·, rest) := by
      generalize hbs : b :: tail = bs at h
      cases h with
      | number h => exact unplaced_read_number h hbs hrest
    simp only [Meaning.natural, show (b == byte '-' || Numeral.isDigit b) = true from hb, if_true,
      unplaced_bind, hread]
    cases Meaning.number n with
    | error problem => rfl
    | ok x =>
      cases x with
      | natural value =>
        by_cases hlimit : value ≤ limit
        · simp only [Except.map, bind, Except.bind, hlimit, if_true]
          rfl
        · simp only [Except.map, bind, Except.bind, hlimit, if_false]
          rfl
      | negative _ | real _ => rfl
  · have hv : ∀ n, v ≠ .number n := not_exists.mp hv
    have hmeaning : Meaning.natural limit name v = Meaning.mismatch name v := by
      cases v with
      | number n => exact absurd rfl (hv n)
      | null | boolean _ | text _ | array _ | object _ => rfl
    rw [isDigit_of_beginsWith hb hv, if_neg Bool.false_ne_true, hmeaning]
    exact unplaced_mismatch _ h hrest _

variable {r : Reader α} {meaning : Meaning α}

theorem Decodes.optional (hr : r.Decodes meaning) :
    (optional r).Decodes (Meaning.optional meaning) := by
  intro v before bs rest hbefore h hrest
  by_cases hv : v = .null
  · subst hv
    rw [reads_optional_null r hbefore h hrest]
    rfl
  · have hread := hr isBlank_nil h hrest
    have hmeaning : Meaning.optional meaning v = (meaning v).map some := by
      cases v with
      | null => exact absurd rfl hv
      | boolean _ | number _ | text _ | array _ | object _ => rfl
    obtain ⟨b, tail, rfl, hb⟩ := h.begins
    rw [List.nil_append, List.cons_append] at hread
    rw [Reader.optional, h.skipBlank hbefore, List.cons_append]
    simp only [beq_n hb hv, Bool.false_eq_true, if_false, unplaced_map, hread, hmeaning]
    cases meaning v <;> rfl

theorem Decodes.into (hr : r.Decodes meaning) (set : α → ρ → ρ) :
    (into r set).Decodes (Meaning.into meaning set) := by
  intro v before bs rest hbefore h hrest
  rw [Reader.into, unplaced_map, hr hbefore h hrest, Meaning.into]
  cases meaning v <;> rfl

end

end Reader

/-! ## Objects -/

/-- The names of members and what their values mean. -/
abbrev Meanings (ρ : Type) := List (String × Meaning (ρ → ρ))

/-- Decodes the members of an object one by one, of which some names have been seen. -/
def Meanings.decode (meanings : Meanings ρ) :
    (seen : List String) → ρ → List (String × Json) → Except Problem ρ
  | _, r, [] => .ok r
  | seen, r, (name, v) :: ms =>
    match meanings.lookup name with
    | none => meanings.decode seen r ms
    | some meaning =>
      if name ∈ seen then .error (.duplicate name)
      else do
        let set ← meaning v
        meanings.decode (name :: seen) (set r) ms

namespace Shape

variable {ρ : Type} {s : Shape ρ} {meanings : Meanings ρ}

def Decodes (s : Shape ρ) (meanings : Meanings ρ) : Prop :=
  List.Forall₂ (fun field meaning => field.name = meaning.1 ∧ field.read.Decodes meaning.2)
    s.fields meanings

theorem Decodes.find? (h : s.Decodes meanings) (name : String) :
    Option.Rel (fun field meaning => field.read.Decodes meaning)
      (s.fields.find? (·.name == name)) (meanings.lookup name) := by
  unfold Decodes at h
  generalize s.fields = fields at h
  induction h with
  | nil => exact .none
  | @cons field meaning fields meanings hfirst _ ih =>
    obtain ⟨own, meaning⟩ := meaning
    obtain ⟨rfl, hread⟩ := hfirst
    by_cases hfield : field.name = name
    · simpa [List.find?_cons, List.lookup_cons, hfield] using Option.Rel.some hread
    · have hlookup : (name == field.name) = false := by simp [Ne.symm hfield]
      simpa [List.find?_cons, List.lookup_cons, hfield, hlookup] using ih

theorem members_meaning {k : String} {ms : List (String × Json)} {isFirst : Bool}
    {seen : List String} {r : ρ} {bs between space value after rest : List UInt8}
    {others : List (String × Json)} (fuel : Nat) (hs : s.Decodes meanings)
    (hname : memberName isFirst bs =
      .ok (some k, between ++ byte ':' :: (space ++ (value ++ after))))
    (hbetween : IsBlank between) (hspace : IsBlank space)
    (hv : LooseValue (s.fields.map (·.name)) k ms value) (hafter : Numeral.Ends after)
    (hmore : ∀ seen r, unplaced (members s.fields false fuel seen r after) =
      (meanings.decode seen r others).map (·, rest)) :
    unplaced (members s.fields isFirst (fuel + 1) seen r bs) =
      (meanings.decode seen r (ms ++ others)).map (·, rest) := by
  have hskip (hunknown : s.fields.find? (·.name == k) = none) (houtline : Outline .value value) :
      unplaced (members s.fields isFirst (fuel + 1) seen r bs) =
        (meanings.decode seen r others).map (·, rest) := by
    rw [members]
    simpa only [hname, bind, Except.bind, hunknown, colon_written hbetween,
      houtline.skip hspace hafter] using hmore seen r
  cases hv with
  | unknown hk houtline => exact hskip (by simpa using hk) houtline
  | @written v _ hv =>
    have hfind := hs.find? k
    rw [List.singleton_append, Meanings.decode]
    cases hfield : s.fields.find? (fun field => field.name == k) with
    | none =>
      rw [hfield] at hfind
      generalize meanings.lookup k = found at hfind
      cases hfind with
      | none => exact hskip hfield hv.outline
    | some field =>
      rw [hfield] at hfind
      generalize meanings.lookup k = found at hfind
      cases hfind with
      | @some _ meaning hread =>
        rw [members]
        simp only [hname, bind, Except.bind, hfield]
        by_cases hseen : k ∈ seen
        · simp only [List.contains_iff_mem.mpr hseen, hseen, if_true]
          rfl
        · have hcontains : seen.contains k = false := by simpa using hseen
          simp only [hcontains, Bool.false_eq_true, if_false, colon_written hbetween, hseen]
          refine (unplaced_bind _ _).trans ?_
          rw [hread hspace hv hafter]
          cases meaning v with
          | error problem => rfl
          | ok set => exact hmore (k :: seen) (set r)

/-- The members of an object are decoded one by one. -/
theorem members_unplaced {ms : List (String × Json)} {isFirst : Bool} {seen : List String} {r : ρ}
    {fuel : Nat} {lead bs rest : List UInt8} (hs : s.Decodes meanings) (hlead : Lead isFirst lead)
    (h : LooseMembers (s.fields.map (·.name)) ms bs) (hfuel : bs.length < fuel) :
    unplaced (members s.fields isFirst fuel seen r (lead ++ (bs ++ byte '}' :: rest))) =
      (meanings.decode seen r ms).map (·, rest) := by
  obtain ⟨fuel, rfl⟩ := Nat.exists_eq_succ_of_ne_zero (show fuel ≠ 0 by omega)
  induction h generalizing isFirst seen r fuel lead with
  | @last k ms before name between space value after hbefore hname hbetween hspace hv hafter =>
    have hend : Numeral.Ends (after ++ byte '}' :: rest) := Numeral.ends_before hafter (by decide)
    have hmember := memberName_written hlead hbefore hname
      (between ++ byte ':' :: (space ++ (value ++ (after ++ byte '}' :: rest))))
    simp only [List.length_append, List.length_cons] at hfuel
    obtain ⟨fuel, rfl⟩ := Nat.exists_eq_succ_of_ne_zero (show fuel ≠ 0 by omega)
    simp only [List.append_assoc, List.cons_append]
    rw [← List.append_nil ms]
    refine members_meaning (fuel + 1) hs hmember hbetween hspace hv hend ?_
    intro seen r
    simp only [members, memberName_end false hafter, bind, Except.bind]
    rfl
  | @cons k ms others before name between space value after more hbefore hname hbetween hspace hv
      hafter _ ih =>
    have hend : Numeral.Ends (after ++ byte ',' :: (more ++ byte '}' :: rest)) :=
      Numeral.ends_before hafter (by decide)
    have hmember := memberName_written hlead hbefore hname (between ++ byte ':' ::
      (space ++ (value ++ (after ++ byte ',' :: (more ++ byte '}' :: rest)))))
    simp only [List.length_append, List.length_cons] at hfuel
    obtain ⟨fuel, rfl⟩ := Nat.exists_eq_succ_of_ne_zero (show fuel ≠ 0 by omega)
    simp only [List.append_assoc, List.cons_append]
    refine members_meaning (fuel + 1) hs hmember hbetween hspace hv hend ?_
    intro seen r
    have htail := @ih false seen r _ (.next hafter) fuel (by omega)
    simpa using htail

theorem readAll_unplaced {ms : List (String × Json)} {body : List UInt8} (hs : s.Decodes meanings)
    (h : LooseObject (s.fields.map (·.name)) ms body) :
    unplaced (s.readAll body) = meanings.decode [] s.defaults ms := by
  have hread {before inner after : List UInt8} (hbefore : IsBlank before) (hafter : IsBlank after)
      (hmembers : unplaced (members s.fields true ((inner ++ byte '}' :: after).length + 1) []
        s.defaults (inner ++ byte '}' :: after)) =
          (meanings.decode [] s.defaults ms).map (·, after)) :
      unplaced (s.readAll (before ++ byte '{' :: (inner ++ byte '}' :: after))) =
        meanings.decode [] s.defaults ms := by
    have hskip : skipBlank (before ++ byte '{' :: (inner ++ byte '}' :: after)) =
        byte '{' :: (inner ++ byte '}' :: after) := by
      rw [skipBlank_append hbefore, skipBlank_cons (by decide)]
    rw [readAll, unplaced_bind, Shape.read, Reader.onValue, hskip]
    simp only [beq_self_eq_true, if_true, hmembers]
    cases meanings.decode [] s.defaults ms with
    | error problem => rfl
    | ok r =>
      simp only [Except.map, bind, Except.bind, skipBlank_of_isBlank hafter]
      rfl
  cases h with
  | empty hbefore hws hafter =>
    refine hread hbefore hafter ?_
    simp only [members, memberName_end true hws, bind, Except.bind]
    rfl
  | members hbefore hmembers hafter =>
    refine hread hbefore hafter (members_unplaced hs .first hmembers ?_)
    simp only [List.length_append, List.length_cons]
    omega

end Shape

/-! ## One name among the members -/

def valuesOf (name : String) (ms : List (String × Json)) : List Json :=
  (ms.filter (·.1 == name)).map (·.2)

def without (name : String) (ms : List (String × Json)) : List (String × Json) :=
  ms.filter (·.1 != name)

@[simp] theorem valuesOf_nil (name : String) : valuesOf name [] = [] := rfl

@[simp] theorem valuesOf_cons (name : String) (m : String × Json) (ms : List (String × Json)) :
    valuesOf name (m :: ms) = if m.1 = name then m.2 :: valuesOf name ms else valuesOf name ms := by
  by_cases h : m.1 = name <;> simp [valuesOf, h]

@[simp] theorem without_nil (name : String) : without name [] = [] := rfl

@[simp] theorem without_cons (name : String) (m : String × Json) (ms : List (String × Json)) :
    without name (m :: ms) = if m.1 = name then without name ms else m :: without name ms := by
  by_cases h : m.1 = name <;> simp [without, h]

theorem without_eq_self {name : String} {ms : List (String × Json)} (h : valuesOf name ms = []) :
    without name ms = ms := by
  induction ms with
  | nil => rfl
  | cons m ms ih =>
    by_cases hm : m.1 = name
    · simp [hm] at h
    · simp only [valuesOf_cons, without_cons, hm, if_false] at h ⊢
      rw [ih h]

namespace Meanings

variable {ρ : Type} {meanings : Meanings ρ} {name : String} {set : ρ → ρ}

/-- Holds if a change of a record is independent of what the names other than this one mean. -/
def IsApart (meanings : Meanings ρ) (name : String) (set : ρ → ρ) : Prop :=
  ∀ m ∈ meanings, m.1 ≠ name → ∀ v other, m.2 v = .ok other → ∀ r, set (other r) = other (set r)

theorem decode_without (hlookup : meanings.lookup name = none) (seen : List String) (r : ρ)
    (ms : List (String × Json)) :
    meanings.decode seen r (without name ms) = meanings.decode seen r ms := by
  induction ms generalizing seen r with
  | nil => rfl
  | cons m ms ih =>
    obtain ⟨k, v⟩ := m
    by_cases hk : k = name
    · subst hk
      simp only [without_cons, if_true, decode, hlookup, ih]
    · simp only [without_cons, hk, if_false, decode, ih]

/-- A change that is independent of all members may be made after them. -/
theorem decode_set (hset : meanings.IsApart name set) {seen seen' : List String}
    (hseen : ∀ k, k ≠ name → (k ∈ seen' ↔ k ∈ seen)) {ms : List (String × Json)}
    (hms : valuesOf name ms = []) (r : ρ) :
    meanings.decode seen' (set r) ms = (meanings.decode seen r ms).map set := by
  induction ms generalizing seen seen' r with
  | nil => rfl
  | cons m ms ih =>
    obtain ⟨k, v⟩ := m
    have hk : k ≠ name := by
      rintro rfl
      simp at hms
    simp only [valuesOf_cons, hk, if_false] at hms
    rw [decode, decode]
    cases hlookup : meanings.lookup k with
    | none => exact ih hseen hms r
    | some meaning =>
      by_cases hmem : k ∈ seen
      · simp only [(hseen k hk).mpr hmem, hmem, if_true]
        rfl
      · simp only [mt (hseen k hk).mp hmem, hmem, if_false]
        cases hv : meaning v with
        | error problem => rfl
        | ok other =>
          obtain ⟨front, back, rfl, -⟩ := List.lookup_eq_some_iff.mp hlookup
          have hcomm := hset (k, meaning) (by simp) hk v other hv r
          have hseen' : ∀ j, j ≠ name → (j ∈ k :: seen' ↔ j ∈ k :: seen) := by
            intro j hj
            simp [hseen j hj]
          have hmore := ih hseen' hms (other r)
          rw [hcomm] at hmore
          exact hmore

theorem decode_of_valuesOf {meaning : Meaning (ρ → ρ)} {v : Json}
    (hset : meanings.IsApart name set) (hlookup : meanings.lookup name = some meaning)
    (hv : meaning v = .ok set) {seen : List String} (hseen : name ∉ seen)
    {ms : List (String × Json)} (hms : valuesOf name ms = [v]) (r : ρ) :
    meanings.decode seen r ms = (meanings.decode seen r (without name ms)).map set := by
  induction ms generalizing seen r with
  | nil => simp at hms
  | cons m ms ih =>
    obtain ⟨k, w⟩ := m
    by_cases hk : k = name
    · subst hk
      simp only [valuesOf_cons, if_true, List.cons.injEq] at hms
      obtain ⟨rfl, hrest⟩ := hms
      have hnames : ∀ j, j ≠ k → (j ∈ k :: seen ↔ j ∈ seen) := by
        intro j hj
        simp [hj]
      rw [decode, hlookup]
      simp only [hseen, if_false, hv, without_cons, if_true, without_eq_self hrest]
      exact decode_set hset hnames hrest r
    · simp only [valuesOf_cons, hk, if_false] at hms
      simp only [without_cons, hk, if_false]
      rw [decode, decode]
      cases meanings.lookup k with
      | none => exact ih hseen hms r
      | some meaning =>
        by_cases hmem : k ∈ seen
        · simp only [hmem, if_true]
          rfl
        · simp only [hmem, if_false]
          cases meaning w with
          | error problem => rfl
          | ok other => exact ih (by simp [hseen, Ne.symm hk]) hms (other r)

/-- Where an object is decoded a known name that has been seen does not come again, and another
one comes at most once and with a value that means something. -/
theorem valuesOf_of_decode {meaning : Meaning (ρ → ρ)}
    (hlookup : meanings.lookup name = some meaning) {seen : List String}
    {ms : List (String × Json)} {r q : ρ} (h : meanings.decode seen r ms = .ok q) :
    valuesOf name ms = [] ∨
      name ∉ seen ∧ ∃ v set, valuesOf name ms = [v] ∧ meaning v = .ok set := by
  induction ms generalizing seen r with
  | nil => exact .inl rfl
  | cons m ms ih =>
    obtain ⟨k, w⟩ := m
    rw [decode] at h
    by_cases hk : k = name
    · subst hk
      simp only [hlookup] at h
      by_cases hseen : k ∈ seen
      · simp [hseen] at h
      · simp only [hseen, if_false] at h
        cases hv : meaning w with
        | error problem =>
          rw [hv] at h
          cases h
        | ok set =>
          rw [hv] at h
          rcases ih h with hrest | ⟨hnot, -⟩
          · exact .inr ⟨hseen, w, set, by simp [hrest], hv⟩
          · exact absurd List.mem_cons_self hnot
    · simp only [valuesOf_cons, hk, if_false]
      cases hother : meanings.lookup k with
      | none =>
        simp only [hother] at h
        exact ih h
      | some other =>
        simp only [hother] at h
        by_cases hseen : k ∈ seen
        · simp [hseen] at h
        · simp only [hseen, if_false] at h
          cases hv : other w with
          | error problem =>
            rw [hv] at h
            cases h
          | ok set =>
            rw [hv] at h
            refine (ih h).imp_right ?_
            rintro ⟨hnot, hvalue⟩
            exact ⟨fun hmem => hnot (List.mem_cons_of_mem _ hmem), hvalue⟩

end Meanings

end Reachability.Json
