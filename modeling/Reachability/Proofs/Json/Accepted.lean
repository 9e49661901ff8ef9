import Reachability.Proofs.Json.Record
import Reachability.Proofs.Json.Skipped

/-!
# What is read as an object was written as one

A reader takes written values only. So where a record is read from an object, all that it knows of
this is as the grammar has it. The object may have members that the record does not know, and of
their values only the outline is checked.
-/
namespace Reachability.Json

/-! ## Values -/

namespace Reader

variable {α β ρ : Type}

/-- Holds if a reader takes written values only. -/
def Takes (r : Reader α) : Prop :=
  ∀ ⦃bs rest : List UInt8⦄ ⦃a : α⦄, r bs = .ok (a, rest) →
    ∃ v before value, IsBlank before ∧ Written v value ∧ bs = before ++ (value ++ rest)

theorem mismatch_ne_ok {expected : String} {b : UInt8} {bs : List UInt8} {x : α × List UInt8} :
    mismatch expected b bs ≠ .ok x := by
  intro h
  obtain ⟨⟨found, rest⟩, hfound, h⟩ := exists_of_bind_eq_ok h
  cases h

theorem takes_text : Takes text := by
  intro bs rest s h
  simp only [text, onValue] at h
  split at h
  · cases h
  next b tail hskip =>
  obtain ⟨before, hbefore, rfl⟩ := exists_of_skipBlank hskip
  split at h
  · next hb =>
    obtain ⟨source, rfl, hchars⟩ := exists_of_string h
    exact ⟨.text s, before, _, hbefore, .text (.mk hchars), by simp [eq_of_beq hb]⟩
  · exact absurd h mismatch_ne_ok

theorem takes_natural (limit : Nat) (name : String) : Takes (natural limit name) := by
  intro bs rest n h
  simp only [natural, onValue] at h
  split at h
  · cases h
  next b tail hskip =>
  obtain ⟨before, hbefore, rfl⟩ := exists_of_skipBlank hskip
  split at h
  · obtain ⟨⟨n', behind⟩, hread, hcheck⟩ := exists_of_bind_eq_ok h
    obtain ⟨⟨numeral, behind'⟩, hnumeral, hvalue⟩ := exists_of_bind_eq_ok hread
    obtain ⟨value, -, heq⟩ := exists_of_bind_eq_ok hvalue
    obtain ⟨rfl, rfl⟩ := Prod.mk.inj (Except.ok.inj heq)
    obtain ⟨cs, hcs, hbs⟩ := Numeral.exists_of_read hnumeral
    have hrest : behind' = rest := by
      cases value with
      | natural value =>
        simp only at hcheck
        split at hcheck <;> cases hcheck
        rfl
      | negative _ | real _ => cases hcheck
    exact ⟨.number numeral, before, _, hbefore, .number hcs, by rw [hbs, hrest]⟩
  · exact absurd h mismatch_ne_ok

variable {r : Reader α}

theorem Takes.map (hr : r.Takes) (f : α → β) :
    Takes fun bs => (r bs).map fun (a, rest) => (f a, rest) := by
  intro bs rest b h
  obtain ⟨⟨a, behind⟩, hread, heq⟩ := exists_of_map_eq_ok h
  obtain ⟨-, rfl⟩ := Prod.mk.inj heq
  exact hr hread

theorem Takes.into (hr : r.Takes) (set : α → ρ → ρ) : (into r set).Takes := hr.map set

theorem Takes.optional (hr : r.Takes) : (optional r).Takes := by
  intro bs rest a h
  simp only [Reader.optional] at h
  split at h
  · next b tail hskip =>
    obtain ⟨before, hbefore, rfl⟩ := exists_of_skipBlank hskip
    split at h
    · next hb =>
      obtain ⟨⟨u, behind⟩, hword, heq⟩ := exists_of_map_eq_ok h
      obtain ⟨-, rfl⟩ := Prod.mk.inj heq
      rw [eq_of_word hword, eq_of_beq hb]
      exact ⟨.null, before, bytes "null".toList, hbefore, .null, rfl⟩
    · obtain ⟨v, between, value, hbetween, hvalue, hbs⟩ := hr.map some h
      rw [hbs]
      refine ⟨v, before ++ between, value, ?_, hvalue, by simp⟩
      exact List.forall_mem_append.mpr ⟨hbefore, hbetween⟩
  · obtain ⟨v, before, value, -, hvalue, hbs⟩ := hr.map some h
    obtain ⟨b, tail, rfl, -⟩ := hvalue.begins
    simp at hbs

end Reader

namespace Shape

variable {ρ : Type} {s : Shape ρ} {bs rest : List UInt8}

def Takes (s : Shape ρ) : Prop := ∀ field ∈ s.fields, field.read.Takes

/-! ## Objects -/

theorem exists_of_memberName {isFirst : Bool} {name? : Option String}
    (h : memberName isFirst bs = .ok (name?, rest)) :
    (name? = none ∧ ∃ ws, IsBlank ws ∧ bs = ws ++ byte '}' :: rest) ∨
      ∃ k lead before name, name? = some k ∧ Lead isFirst lead ∧ IsBlank before ∧
        WrittenString k name ∧ bs = lead ++ (before ++ (name ++ rest)) := by
  have hname {tail : List UInt8}
      (h : (string tail).map (fun x => (some x.1, x.2)) = .ok (name?, rest)) :
      ∃ k name, name? = some k ∧ WrittenString k name ∧ byte '"' :: tail = name ++ rest := by
    obtain ⟨⟨k, behind⟩, hstring, heq⟩ := exists_of_map_eq_ok h
    obtain ⟨rfl, rfl⟩ := Prod.mk.inj heq
    obtain ⟨source, rfl, hchars⟩ := exists_of_string hstring
    exact ⟨k, _, rfl, .mk hchars, by simp⟩
  simp only [memberName] at h
  split at h
  · cases h
  next b tail hskip =>
  obtain ⟨ws, hws, rfl⟩ := exists_of_skipBlank hskip
  split at h
  · next hb =>
    cases h
    exact .inl ⟨rfl, ws, hws, by rw [eq_of_beq hb]⟩
  split at h
  · next hfirst =>
    split at h
    · next hb =>
      obtain ⟨k, name, rfl, hwritten, heq⟩ := hname h
      refine .inr ⟨k, [], ws, name, rfl, hfirst ▸ .first, hws, hwritten, ?_⟩
      rw [eq_of_beq hb, heq, List.nil_append]
    · cases h
  next hfirst =>
  simp only [bne_iff_ne, ne_eq, ite_not] at h
  split at h
  · next hb =>
    split at h
    · cases h
    next d more hskip' =>
    obtain ⟨before, hbefore, rfl⟩ := exists_of_skipBlank hskip'
    split at h
    · next hd =>
      obtain ⟨k, name, rfl, hwritten, heq⟩ := hname h
      obtain rfl : isFirst = false := by simpa using hfirst
      refine .inr ⟨k, _, before, name, rfl, .next hws, hbefore, hwritten, ?_⟩
      simp [hb, eq_of_beq hd, heq]
    · split at h <;> cases h
  · cases h

theorem exists_of_colon (h : colon bs = .ok rest) :
    ∃ between, IsBlank between ∧ bs = between ++ byte ':' :: rest := by
  simp only [colon] at h
  split at h
  · cases h
  next b tail hskip =>
  obtain ⟨between, hbetween, rfl⟩ := exists_of_skipBlank hskip
  split at h
  · next hb =>
    cases h
    exact ⟨between, hbetween, by rw [eq_of_beq hb]⟩
  · cases h

/-- From behind a member name its value is taken: one that was written if the record knows the name,
and else one in outline. -/
theorem exists_of_value (hs : s.Takes) {k : String} {fuel : Nat} {seen : List String} {r q : ρ}
    {isFirst : Bool} {cs : List UInt8} (hname : memberName isFirst cs = .ok (some k, bs))
    (h : members s.fields isFirst (fuel + 1) seen r cs = .ok (q, rest)) :
    ∃ between space value after ms seen' r', IsBlank between ∧ IsBlank space ∧
      LooseValue (s.fields.map (·.name)) k ms value ∧
      bs = between ++ byte ':' :: (space ++ (value ++ after)) ∧
      members s.fields false fuel seen' r' after = .ok (q, rest) := by
  rw [members] at h
  simp only [hname, bind, Except.bind] at h
  split at h
  · next hfind =>
    obtain ⟨behind, hcolon, hskip⟩ := exists_of_bind_eq_ok h
    obtain ⟨between, hbetween, rfl⟩ := exists_of_colon hcolon
    obtain ⟨after, houtline, hmore⟩ := exists_of_bind_eq_ok hskip
    obtain ⟨space, value, hspace, hvalue, rfl⟩ := exists_of_skip houtline
    have hunknown : k ∉ s.fields.map (·.name) := by simpa using hfind
    exact ⟨between, space, value, after, _, seen, r, hbetween, hspace, .unknown hunknown hvalue,
      rfl, hmore⟩
  · next field hfind =>
    split at h
    · cases h
    · obtain ⟨behind, hcolon, hread⟩ := exists_of_bind_eq_ok h
      obtain ⟨between, hbetween, rfl⟩ := exists_of_colon hcolon
      obtain ⟨⟨set, after⟩, hfield, hmore⟩ := exists_of_bind_eq_ok hread
      obtain ⟨v, space, value, hspace, hvalue, rfl⟩ :=
        hs field (List.mem_of_find?_eq_some hfind) hfield
      exact ⟨between, space, value, after, _, _, _, hbetween, hspace, .written hvalue, rfl, hmore⟩

/-- From behind a member, or from the opening brace, the members of a loose object are taken. The
induction is on the fuel, which every member spends. -/
theorem exists_of_members (hs : s.Takes) {isFirst : Bool} {fuel : Nat} {seen : List String}
    {r q : ρ} (hfuel : bs.length < fuel)
    (h : members s.fields isFirst fuel seen r bs = .ok (q, rest)) :
    (∃ ws, IsBlank ws ∧ bs = ws ++ byte '}' :: rest) ∨
      ∃ lead ms entries, Lead isFirst lead ∧ LooseMembers (s.fields.map (·.name)) ms entries ∧
        bs = lead ++ (entries ++ byte '}' :: rest) := by
  induction fuel generalizing isFirst seen r bs with
  | zero => cases hfuel
  | succ fuel ih =>
    obtain ⟨⟨name?, behind⟩, hmember, hbehind⟩ := exists_of_bind_eq_ok h
    rcases exists_of_memberName hmember with
      ⟨rfl, ws, hws, rfl⟩ | ⟨k, lead, before, name, rfl, hlead, hbefore, hname, rfl⟩
    · cases hbehind
      exact .inl ⟨ws, hws, rfl⟩
    · obtain ⟨between, space, value, after, ms, seen', r', hbetween, hspace, hvalue, rfl, hmore⟩ :=
        exists_of_value hs hmember h
      simp only [List.length_append, List.length_cons] at hfuel
      right
      rcases ih (by omega) hmore with
        ⟨ws, hws, rfl⟩ | ⟨lead', others, entries, hlead', hentries, rfl⟩
      · exact ⟨lead, _, _, hlead, .last hbefore hname hbetween hspace hvalue hws, by simp⟩
      · cases hlead' with
        | next hws =>
          exact ⟨lead, _, _, hlead, .cons hbefore hname hbetween hspace hvalue hws hentries,
            by simp⟩

end Shape

end Reachability.Json
