import Reachability.Domain
import Reachability.Proofs.Text.Utf8

/-!
# Marks of an authority in a domain name

The colon, the at sign and the brackets make up the parts of an authority. None of them is changed
when a name is brought into ASCII, and none joins a mark that stands behind it. So a name that
holds one has no spelling in ASCII.
-/
namespace Reachability

namespace Text.Normal

/-- Holds of a character of ASCII that makes up no other with the one behind it. -/
def IsLoner (c : Char) : Prop := c.toNat < 0xC0 ∧ mayLead c = false

theorem parts_of_isLoner {c : Char} (h : IsLoner c) : parts c = [c] := if_pos h.1

theorem pair?_of_isLoner {a b : Char} (h : IsLoner a ∨ IsLoner b) : pair? a b = none := by
  unfold pair?
  rw [if_neg]
  rcases h with ha | hb
  · simp [ha.2]
  · have := hb.1
    simp only [Bool.and_eq_true, decide_eq_true_eq, not_and]
    omega

theorem mem_insertMark {c d : Char} {l : List Char} : c ∈ insertMark d l ↔ c = d ∨ c ∈ l := by
  induction l with
  | nil => simp [insertMark]
  | cons e l ih =>
    rw [insertMark]
    split
    · rw [List.mem_cons, ih, List.mem_cons, or_left_comm]
    · rw [List.mem_cons]

theorem mem_sortMarks {c : Char} {cs : List Char} : c ∈ sortMarks cs ↔ c ∈ cs := by
  induction cs with
  | nil => rfl
  | cons d cs ih =>
    rw [sortMarks]
    split
    · rw [List.mem_cons, ih, List.mem_cons]
    · rw [mem_insertMark, ih, List.mem_cons]

theorem mem_composeAfter {c : Char} (hc : IsLoner c) {starter : Char} {pending rest : List Char}
    (h : c = starter ∨ c ∈ pending ∨ c ∈ rest) : c ∈ composeAfter starter pending rest := by
  induction rest generalizing starter pending with
  | nil =>
    rw [composeAfter, List.mem_cons, List.mem_reverse]
    simpa using h
  | cons d rest ih =>
    unfold composeAfter
    dsimp only
    split
    · next joined hjoined =>
      have hpair : pair? starter d = some joined :=
        (Option.ite_none_right_eq_some.mp hjoined).2
      have hstarter : c ≠ starter := by
        rintro rfl
        rw [pair?_of_isLoner (.inl hc)] at hpair
        cases hpair
      have hd : c ≠ d := by
        rintro rfl
        rw [pair?_of_isLoner (.inr hc)] at hpair
        cases hpair
      rw [List.mem_cons, or_iff_right hstarter, or_iff_right hd] at h
      exact ih (.inr h)
    · rw [List.mem_cons] at h
      split
      · rw [List.mem_cons, List.mem_append, List.mem_reverse]
        rcases h with h | h | h | h
        · exact .inl h
        · exact .inr (.inl h)
        · exact .inr (.inr (ih (.inl h)))
        · exact .inr (.inr (ih (.inr (.inr h))))
      · apply ih
        rw [List.mem_cons]
        rcases h with h | h | h | h
        · exact .inl h
        · exact .inr (.inl (.inr h))
        · exact .inr (.inl (.inl h))
        · exact .inr (.inr h)

theorem mem_compose {c : Char} (hc : IsLoner c) {cs : List Char} (h : c ∈ cs) :
    c ∈ compose cs := by
  induction cs with
  | nil => cases h
  | cons d cs ih =>
    rw [List.mem_cons] at h
    rw [compose]
    split
    · apply mem_composeAfter hc
      rcases h with h | h
      · exact .inl h
      · exact .inr (.inr h)
    · rw [List.mem_cons]
      exact h.imp_right ih

/-- A character that makes up no other stays when a text is brought into normal form. -/
theorem mem_composed {c : Char} (hc : IsLoner c) {cs : List Char} (h : c ∈ cs) :
    c ∈ composed cs := by
  apply mem_compose hc
  rw [mem_sortMarks, List.mem_flatMap]
  refine ⟨c, h, ?_⟩
  rw [parts_of_isLoner hc]
  exact List.mem_singleton_self c

end Text.Normal

def dividers : List Char := [':', '@', '[', ']']

namespace Domain

open Text.Normal (IsLoner)

theorem divider {c : Char} (h : c ∈ dividers) :
    IsLoner c ∧ Text.isAscii c = true ∧ Text.lowerAscii c = c ∧ isForbidden c = true := by
  simp only [dividers, List.mem_cons, List.not_mem_nil, or_false] at h
  unfold IsLoner
  rcases h with rfl | rfl | rfl | rfl <;> decide

theorem mem_mapAll? {c : Char} (hc : mapChar? c = some [c]) {cs mapped : List Char}
    (hmapped : mapAll? cs = some mapped) (h : c ∈ cs) : c ∈ mapped := by
  induction cs generalizing mapped with
  | nil => cases h
  | cons d cs ih =>
    simp only [mapAll?, Option.bind_eq_bind, Option.bind_eq_some_iff, Option.pure_def,
      Option.some.injEq] at hmapped
    obtain ⟨first, hfirst, others, hothers, rfl⟩ := hmapped
    rcases List.mem_cons.mp h with rfl | h
    · rw [hc, Option.some.injEq] at hfirst
      rw [← hfirst]
      exact List.mem_cons_self
    · exact List.mem_append_right _ (ih hothers h)

/-- A name that holds a divider has no spelling in ASCII. -/
theorem toAscii?_eq_none {c : Char} (hc : c ∈ dividers) {name : List Char} (h : c ∈ name) :
    toAscii? name = none := by
  obtain ⟨hloner, hascii, hlower, hforbidden⟩ := divider hc
  unfold toAscii?
  split
  · rw [if_pos (List.any_eq_true.mpr ⟨c, h, hforbidden⟩)]
  · have hmap : mapChar? c = some [c] := by rw [mapChar?, if_pos hascii, hlower]
    rw [internationalToAscii?, Option.bind_eq_bind, Option.bind_eq_none_iff]
    intro mapped hmapped
    have hmem := Text.Normal.mem_composed hloner (mem_mapAll? hmap hmapped h)
    exact if_pos (List.any_eq_true.mpr ⟨c, hmem, hforbidden⟩)

end Domain

end Reachability
