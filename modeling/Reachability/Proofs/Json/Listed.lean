import Mathlib.Data.List.TakeWhile
import Reachability.Proofs.Json.Accepted
import Reachability.Proofs.Json.Meaning
import Reachability.Proofs.Json.Unique

/-!
# Records that are written as arrays

A record is read from an array as well, which has the values of the members in their order and no
names. It is then the record of the object that gives these values to the names. An array must not
have more items than there are members, and it has to have the items of some members.
-/
namespace Reachability.Json

namespace Meanings

variable {ρ : Type} {meanings : Meanings ρ}

theorem decode_cons_of_forall_ne {m : String × Meaning (ρ → ρ)} {ms : List (String × Json)}
    (h : ∀ n ∈ ms, n.1 ≠ m.1) (seen : List String) (r : ρ) :
    decode (m :: meanings) seen r ms = meanings.decode seen r ms := by
  induction ms generalizing seen r with
  | nil => rfl
  | cons n ms ih =>
    obtain ⟨hne, hms⟩ := List.forall_mem_cons.mp h
    have hlookup : List.lookup n.1 (m :: meanings) = meanings.lookup n.1 := by
      rw [List.lookup_cons, beq_eq_false_iff_ne.mpr hne]
    rw [decode, decode, hlookup]
    simp only [ih hms]

theorem decode_zip_cons {name : String} {meaning : Meaning (ρ → ρ)} {names seen : List String}
    (hnew : name ∉ names) (hseen : name ∉ seen) (v : Json) (items : List Json) (r : ρ) :
    decode ((name, meaning) :: meanings) seen r ((name :: names).zip (v :: items)) =
      meaning v >>= fun set => meanings.decode (name :: seen) (set r) (names.zip items) := by
  have hrest (set : ρ → ρ) : decode ((name, meaning) :: meanings) (name :: seen) (set r)
      (names.zip items) = meanings.decode (name :: seen) (set r) (names.zip items) := by
    refine decode_cons_of_forall_ne ?_ _ _
    rintro ⟨other, w⟩ hm rfl
    exact hnew (List.of_mem_zip hm).1
  rw [List.zip_cons_cons, decode]
  simp only [List.lookup_cons_self, hseen, if_false, hrest]

end Meanings

namespace Reader

theorem Decodes.eq_ok {α : Type} {r : Reader α} {meaning : Meaning α} (hr : r.Decodes meaning)
    {v : Json} {value rest : List UInt8} {a : α} (h : Written v value) (hrest : Numeral.Ends rest)
    (hv : meaning v = .ok a) : r (value ++ rest) = .ok (a, rest) := by
  have hread := hr isBlank_nil h hrest
  rw [hv, List.nil_append] at hread
  cases hx : r (value ++ rest) with
  | error f =>
    rw [hx] at hread
    cases hread
  | ok x =>
    rw [hx] at hread
    exact congrArg _ (Except.ok.inj hread)

theorem Takes.exists_meaning {α : Type} {r : Reader α} {meaning : Meaning α} (hr : r.Takes)
    (hdecodes : r.Decodes meaning) {bs rest : List UInt8} {a : α} (h : r bs = .ok (a, rest))
    (hrest : Numeral.Ends rest) :
    ∃ v before value, IsBlank before ∧ Written v value ∧ bs = before ++ (value ++ rest) ∧
      meaning v = .ok a := by
  obtain ⟨v, before, value, hbefore, hvalue, rfl⟩ := hr h
  refine ⟨v, before, value, hbefore, hvalue, rfl, ?_⟩
  have hmeaning := hdecodes hbefore hvalue hrest
  rw [h] at hmeaning
  obtain ⟨a', hv, heq⟩ := exists_of_map_eq_ok hmeaning.symm
  rw [hv, (Prod.mk.inj heq).1]

end Reader

namespace Shape

variable {ρ : Type} {s : Shape ρ} {bs rest : List UInt8}

/-- Holds if there is a member for every item of an array, and an item for every member that an
array must hold. -/
structure Fits (fields : List (Field ρ)) (items : List Json) : Prop where
  length_le : items.length ≤ fields.length
  required : ∀ field ∈ fields.drop items.length, field.isRequired = false

/-- The texts of items from behind another item, or from the opening bracket, up to the closing
bracket. -/
inductive Listed : (isFirst : Bool) → List Json → List UInt8 → Prop
  | nil {isFirst : Bool} {ws : List UInt8} (hws : IsBlank ws) : Listed isFirst [] ws
  | cons {isFirst : Bool} {v : Json} {vs : List Json} {lead entries : List UInt8}
      (hlead : Lead isFirst lead) (h : WrittenItems v vs entries) :
      Listed isFirst (v :: vs) (lead ++ entries)

theorem Listed.ends {items : List Json} {text : List UInt8} (h : Listed false items text) :
    Numeral.Ends (text ++ byte ']' :: rest) := by
  cases h with
  | nil hws => exact Numeral.ends_before hws (by decide)
  | cons hlead h =>
    cases hlead with
    | next hws =>
      simp only [List.append_assoc, List.singleton_append]
      exact Numeral.ends_before hws (by decide)

theorem Listed.item {isFirst : Bool} {v : Json} {vs : List Json}
    {lead before value text : List UInt8} (h : Listed false vs text) (hlead : Lead isFirst lead)
    (hbefore : IsBlank before) (hvalue : Written v value) :
    Listed isFirst (v :: vs) (lead ++ (before ++ (value ++ text))) := by
  cases h with
  | nil hws => exact .cons hlead (.last hbefore hvalue hws)
  | cons hlead' h =>
    cases hlead' with
    | next hws =>
      simp only [List.append_assoc, List.singleton_append]
      exact .cons hlead (.cons hbefore hvalue hws h)

theorem Listed.exists_item {isFirst : Bool} {v : Json} {vs : List Json} {text : List UInt8}
    (h : Listed isFirst (v :: vs) text) : ∃ lead before value more, Lead isFirst lead ∧
      IsBlank before ∧ Written v value ∧ Listed false vs more ∧
      text = lead ++ (before ++ (value ++ more)) := by
  cases h with
  | cons hlead h =>
    cases h with
    | last hbefore hvalue hafter =>
      exact ⟨_, _, _, _, hlead, hbefore, hvalue, .nil hafter, rfl⟩
    | @cons _ w vs before value after more hbefore hvalue hafter hmore =>
      exact ⟨_, before, value, _, hlead, hbefore, hvalue, .cons (.next hafter) hmore, by simp⟩

theorem Listed.written {items : List Json} {text : List UInt8} (h : Listed true items text) :
    Written (.array items) (byte '[' :: (text ++ [byte ']'])) := by
  cases h with
  | nil hws => exact .emptyArray hws
  | cons hlead h =>
    cases hlead
    exact .array h

theorem exists_listed {items : List Json} {value : List UInt8} (h : Written (.array items) value) :
    ∃ text, Listed true items text ∧ value = byte '[' :: (text ++ [byte ']']) := by
  cases h with
  | emptyArray hws => exact ⟨_, .nil hws, rfl⟩
  | array h => exact ⟨_, .cons .first h, rfl⟩

theorem exists_of_arrayEnd (h : arrayEnd bs = .ok rest) :
    ∃ ws, IsBlank ws ∧ bs = ws ++ byte ']' :: rest := by
  simp only [arrayEnd] at h
  split at h
  · cases h
  next b tail hskip =>
  obtain ⟨ws, hws, rfl⟩ := exists_of_skipBlank hskip
  split at h
  · next hb =>
    cases h
    exact ⟨ws, hws, by rw [eq_of_beq hb]⟩
  · split at h
    · cases h
    · split at h <;> cases h

theorem exists_of_nextElement {isFirst isMore : Bool}
    (h : nextElement isFirst bs = .ok (isMore, rest)) :
    (isMore = false ∧ ∃ ws, IsBlank ws ∧ bs = ws ++ byte ']' :: rest) ∨
      isMore = true ∧ ∃ lead before, Lead isFirst lead ∧ IsBlank before ∧
        bs = lead ++ (before ++ rest) := by
  simp only [nextElement] at h
  split at h
  · cases h
  next b tail hskip =>
  obtain ⟨ws, hws, rfl⟩ := exists_of_skipBlank hskip
  split at h
  · next hb =>
    cases h
    exact .inl ⟨rfl, ws, hws, by rw [eq_of_beq hb]⟩
  split at h
  · next hfirst =>
    cases h
    exact .inr ⟨rfl, [], ws, hfirst ▸ .first, hws, rfl⟩
  next hfirst =>
  simp only [bne_iff_ne, ne_eq, ite_not] at h
  split at h
  · next hb =>
    split at h
    · cases h
    next d more hskip' =>
    obtain ⟨before, hbefore, rfl⟩ := exists_of_skipBlank hskip'
    split at h
    · cases h
    · cases h
      obtain rfl : isFirst = false := by simpa using hfirst
      exact .inr ⟨rfl, _, before, .next hws, hbefore, by simp [hb]⟩
  · cases h

theorem arrayEnd_end {ws : List UInt8} (hws : IsBlank ws) :
    arrayEnd (ws ++ byte ']' :: rest) = .ok rest := by
  simp only [arrayEnd, skipBlank_append hws,
    skipBlank_cons (show isBlank (byte ']') = false by decide), beq_self_eq_true, if_true]

theorem nextElement_end (isFirst : Bool) {ws : List UInt8} (hws : IsBlank ws) :
    nextElement isFirst (ws ++ byte ']' :: rest) = .ok (false, rest) := by
  simp only [nextElement, skipBlank_append hws,
    skipBlank_cons (show isBlank (byte ']') = false by decide), beq_self_eq_true, if_true]

theorem nextElement_written {isFirst : Bool} {v : Json} {lead before value : List UInt8}
    (hlead : Lead isFirst lead) (hbefore : IsBlank before) (hvalue : Written v value) :
    nextElement isFirst (lead ++ (before ++ (value ++ rest))) = .ok (true, value ++ rest) := by
  have hskip := hvalue.skipBlank hbefore rest
  obtain ⟨b, tail, rfl, hb⟩ := hvalue.begins
  have hclosing := beq_eq_false_iff_ne.mpr (ne_closing_of_beginsWith hb)
  rw [List.cons_append] at hskip
  cases hlead with
  | first =>
    simp only [nextElement, List.nil_append, List.cons_append, hskip, hclosing, Bool.false_eq_true,
      if_false, if_true]
  | next hws =>
    have hcomma : (byte ',' == byte ']') = false := by decide
    simp only [nextElement, List.append_assoc, List.cons_append, List.nil_append,
      skipBlank_append hws, skipBlank_cons (show isBlank (byte ',') = false by decide), hcomma,
      Bool.false_eq_true, if_false, bne_self_eq_false, hskip, hclosing]

theorem fits_nil {fields : List (Field ρ)} :
    Fits fields [] ↔ fields.takeWhile (!·.isRequired) = fields := by
  rw [List.takeWhile_eq_self_iff]
  constructor
  · intro h field hfield
    simpa using h.required field hfield
  · intro h
    refine ⟨Nat.zero_le _, ?_⟩
    intro field hfield
    simpa using h field hfield

theorem unseen_cons {fields : List (Field ρ)} {name : String} {seen : List String}
    (hnew : name ∉ fields.map (·.name)) (hseen : ∀ field ∈ fields, field.name ∉ seen) :
    ∀ field ∈ fields, field.name ∉ name :: seen := by
  intro field hfield hmem
  rcases List.mem_cons.mp hmem with rfl | hmem
  · exact hnew (List.mem_map_of_mem hfield)
  · exact hseen field hfield hmem

/-- From behind an item, or from the opening bracket, items are taken, and what is read is what
they mean as members. The induction is on the members, one for each item. -/
theorem exists_of_elements {expected : String} {fields : List (Field ρ)} {meanings : Meanings ρ}
    {index : Nat} {r q : ρ} (htakes : ∀ field ∈ fields, field.read.Takes)
    (hdecodes : List.Forall₂ (fun field meaning =>
      field.name = meaning.1 ∧ field.read.Decodes meaning.2) fields meanings)
    (hnodup : (fields.map (·.name)).Nodup)
    (h : elements expected fields index r bs = .ok (q, rest)) :
    ∃ items text, Fits fields items ∧ Listed (index == 0) items text ∧
      bs = text ++ byte ']' :: rest ∧
      ∀ seen, (∀ field ∈ fields, field.name ∉ seen) →
        meanings.decode seen r ((fields.map (·.name)).zip items) = .ok q := by
  induction hdecodes generalizing index r bs with
  | nil =>
    obtain ⟨behind, hend, heq⟩ := exists_of_bind_eq_ok h
    obtain ⟨rfl, rfl⟩ := Prod.mk.inj (Except.ok.inj heq)
    obtain ⟨ws, hws, rfl⟩ := exists_of_arrayEnd hend
    exact ⟨[], ws, fits_nil.mpr rfl, .nil hws, rfl, fun _ _ => rfl⟩
  | @cons field meaning fields meanings hfirst hdecodes ih =>
    obtain ⟨name, meaning⟩ := meaning
    obtain ⟨rfl, hmeaning⟩ := hfirst
    obtain ⟨hread, htakes⟩ := List.forall_mem_cons.mp htakes
    obtain ⟨hnew, hnodup⟩ := List.nodup_cons.mp hnodup
    rw [elements] at h
    obtain ⟨⟨isMore, behind⟩, hnext, hgo⟩ := exists_of_bind_eq_ok h
    rcases exists_of_nextElement hnext with
      ⟨rfl, ws, hws, rfl⟩ | ⟨rfl, lead, before, hlead, hbefore, rfl⟩
    · simp only [Bool.false_eq_true, if_false] at hgo
      split at hgo
      · cases hgo
      · next hlength =>
        obtain ⟨rfl, rfl⟩ := Prod.mk.inj (Except.ok.inj hgo)
        have hall : (field :: fields).takeWhile (!·.isRequired) = field :: fields :=
          (List.takeWhile_sublist _).eq_of_length_le (Nat.lt_of_not_le hlength)
        exact ⟨[], ws, fits_nil.mpr hall, .nil hws, rfl, fun _ _ => by rw [List.zip_nil_right]; rfl⟩
    · simp only [if_true] at hgo
      obtain ⟨⟨set, after⟩, hvalue, hmore⟩ := exists_of_bind_eq_ok hgo
      obtain ⟨items, text, hfits, hlisted, rfl, hdecode⟩ := ih htakes hnodup hmore
      obtain ⟨v, space, value, hspace, hwritten, rfl, hv⟩ :=
        hread.exists_meaning hmeaning hvalue hlisted.ends
      refine ⟨v :: items, _, ⟨?_, hfits.required⟩,
        hlisted.item hlead (List.forall_mem_append.mpr ⟨hbefore, hspace⟩) hwritten, by simp, ?_⟩
      · exact Nat.succ_le_succ hfits.length_le
      · intro seen hseen
        obtain ⟨hunseen, hseen⟩ := List.forall_mem_cons.mp hseen
        rw [List.map_cons, Meanings.decode_zip_cons hnew hunseen, show meaning v = _ from hv]
        exact hdecode _ (unseen_cons hnew hseen)

theorem elements_written {expected : String} {fields : List (Field ρ)} {meanings : Meanings ρ}
    {index : Nat} {seen : List String} {r q : ρ} {items : List Json} {text : List UInt8}
    (hdecodes : List.Forall₂ (fun field meaning =>
      field.name = meaning.1 ∧ field.read.Decodes meaning.2) fields meanings)
    (hnodup : (fields.map (·.name)).Nodup) (hseen : ∀ field ∈ fields, field.name ∉ seen)
    (hfits : Fits fields items) (hlisted : Listed (index == 0) items text)
    (hdecode : meanings.decode seen r ((fields.map (·.name)).zip items) = .ok q) :
    elements expected fields index r (text ++ byte ']' :: rest) = .ok (q, rest) := by
  induction hdecodes generalizing index seen r items text with
  | nil =>
    cases items with
    | cons v vs => cases hfits.length_le
    | nil =>
      cases hlisted with
      | nil hws =>
        rw [elements, arrayEnd_end hws]
        cases hdecode
        rfl
  | @cons field meaning fields meanings hfirst hdecodes ih =>
    obtain ⟨name, meaning⟩ := meaning
    obtain ⟨rfl, hmeaning⟩ := hfirst
    obtain ⟨hnew, hnodup⟩ := List.nodup_cons.mp hnodup
    obtain ⟨hunseen, hseen⟩ := List.forall_mem_cons.mp hseen
    cases items with
    | nil =>
      cases hlisted with
      | nil hws =>
        rw [List.zip_nil_right] at hdecode
        cases hdecode
        simp only [elements, nextElement_end _ hws, bind, Except.bind, fits_nil.mp hfits,
          Bool.false_eq_true, if_false, List.length_cons, Nat.not_succ_le_self]
        rfl
    | cons v vs =>
      obtain ⟨lead, before, value, more, hlead, hbefore, hvalue, hmore, rfl⟩ := hlisted.exists_item
      rw [List.map_cons, Meanings.decode_zip_cons hnew hunseen] at hdecode
      obtain ⟨set, hset, hdecode⟩ := exists_of_bind_eq_ok hdecode
      have hread : field.read (value ++ (more ++ byte ']' :: rest)) =
          .ok (set, more ++ byte ']' :: rest) :=
        hmeaning.eq_ok hvalue hmore.ends hset
      have hfits : Fits fields vs := ⟨Nat.le_of_succ_le_succ hfits.length_le, hfits.required⟩
      have htail := @ih (index + 1) _ _ _ _ hnodup (unseen_cons hnew hseen) hfits hmore hdecode
      simp only [elements, List.append_assoc, nextElement_written hlead hbefore hvalue, bind,
        Except.bind, if_true, hread, htail]

/-! ## Records -/

/-- What is read as a record is an object, but for the values of members that the record does not
know, or an array, and is then what the object is read as that gives the items to the members in
order. -/
theorem exists_of_readAll {meanings : Meanings ρ} {body : List UInt8} {r : ρ} (htakes : s.Takes)
    (hdecodes : s.Decodes meanings) (hnodup : (s.fields.map (·.name)).Nodup)
    (h : s.readAll body = .ok r) :
    (∃ ms, LooseObject (s.fields.map (·.name)) ms body) ∨
      ∃ items, Document (.array items) body ∧ Fits s.fields items ∧
        meanings.decode [] s.defaults ((s.fields.map (·.name)).zip items) = .ok r := by
  obtain ⟨⟨r', behind⟩, hread, hend⟩ := exists_of_bind_eq_ok h
  have hbehind : r' = r ∧ IsBlank behind := by
    simp only at hend
    split at hend
    · next hskip =>
      exact ⟨Except.ok.inj hend, isBlank_of_skipBlank hskip⟩
    · cases hend
  obtain ⟨rfl, hbehind⟩ := hbehind
  simp only [Shape.read, Reader.onValue] at hread
  split at hread
  · cases hread
  next b tail hskip =>
  obtain ⟨before, hbefore, rfl⟩ := exists_of_skipBlank hskip
  split at hread
  · next hb =>
    rw [eq_of_beq hb]
    left
    rcases exists_of_members htakes (Nat.lt_succ_self _) hread with
      ⟨ws, hws, rfl⟩ | ⟨lead, ms, entries, hlead, hentries, rfl⟩
    · exact ⟨_, .empty hbefore hws hbehind⟩
    · cases hlead
      exact ⟨ms, .members hbefore hentries hbehind⟩
  split at hread
  · next hb =>
    rw [eq_of_beq hb]
    right
    obtain ⟨items, text, hfits, hlisted, rfl, hdecode⟩ :=
      exists_of_elements htakes hdecodes hnodup hread
    refine ⟨items, ?_, hfits, hdecode [] (by simp)⟩
    simpa using Document.mk hbefore hlisted.written hbehind
  · exact absurd hread Reader.mismatch_ne_ok

theorem readAll_array {meanings : Meanings ρ} {items : List Json} {body : List UInt8} {r : ρ}
    (htakes : s.Takes) (hdecodes : s.Decodes meanings) (hnodup : (s.fields.map (·.name)).Nodup)
    (h : Document (.array items) body) :
    s.readAll body = .ok r ↔ Fits s.fields items ∧
      meanings.decode [] s.defaults ((s.fields.map (·.name)).zip items) = .ok r := by
  constructor
  · intro hread
    rcases exists_of_readAll htakes hdecodes hnodup hread with
      ⟨ms, hobject⟩ | ⟨items', h', hfits, hdecode⟩
    · obtain ⟨ms, heq⟩ := hobject.eq_object h
      cases heq
    · obtain rfl : items = items' := Json.array.inj (h.unique h')
      exact ⟨hfits, hdecode⟩
  · rintro ⟨hfits, hdecode⟩
    cases h with
    | @mk before value after hbefore hvalue hafter =>
      have hread : s.read (before ++ (value ++ after)) = .ok (r, after) := by
        obtain ⟨text, hlisted, rfl⟩ := exists_listed hvalue
        have hbrace : (byte '[' == byte '{') = false := by decide
        rw [Shape.read, Reader.onValue_written _ hbefore hvalue, List.append_assoc]
        simp only [hbrace, Bool.false_eq_true, if_false, beq_self_eq_true, if_true]
        exact elements_written hdecodes hnodup (by simp) hfits hlisted hdecode
      simp only [readAll, hread, skipBlank_of_isBlank hafter, bind, Except.bind]
      rfl

end Shape

end Reachability.Json
