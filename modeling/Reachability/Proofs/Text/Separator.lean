/-!
# Separators of several characters

A text that is split at a separator falls into pieces that have no separator in them and make the
text again. If the separator does not begin as it ends, none arises where a piece and a separator
meet, whatever the piece ends or begins with. Then there is only one way to cut the text, and the
pieces are those that it was put together from.
-/
namespace Reachability.Text

section

variable {α : Type} {sep piece front back rest : List α}

/-- Holds of a separator that does not begin as it ends, so that no two of them overlap. -/
def Unbordered (sep : List α) : Prop := ∀ n < sep.length, sep.take n <:+ sep → n = 0

instance [DecidableEq α] (sep : List α) : Decidable (Unbordered sep) :=
  inferInstanceAs (Decidable (∀ n < sep.length, sep.take n <:+ sep → n = 0))

/-- Where a separator follows a piece that has none in it, no separator begins any earlier. -/
theorem Unbordered.isPrefix_front (hsep : Unbordered sep) (hpiece : ¬ sep <:+: piece)
    (h : piece ++ (sep ++ rest) = front ++ (sep ++ back)) : piece <+: front := by
  rcases List.append_eq_append_iff.mp h with ⟨gap, rfl, -⟩ | ⟨tail, rfl, htail⟩
  · exact List.prefix_append piece gap
  -- The other separator begins in the piece, in front of `tail`, and either ends in it too or
  -- ends with the overlap, with which the separator behind the piece begins.
  rcases List.append_eq_append_iff.mp htail with ⟨more, rfl, -⟩ | ⟨overlap, hoverlap, hrest⟩
  · exact absurd ⟨front, more, by simp⟩ hpiece
  have hsuffix : overlap <:+ sep := ⟨tail, hoverlap.symm⟩
  have hprefix : overlap <+: sep :=
    List.prefix_of_prefix_length_le ⟨back, hrest.symm⟩ ⟨rest, rfl⟩ hsuffix.length_le
  rcases Nat.lt_or_ge overlap.length sep.length with hlt | hge
  · rw [List.prefix_iff_eq_take.mp hprefix] at hsuffix
    have hnil : overlap = [] := List.eq_nil_of_length_eq_zero (hsep _ hlt hsuffix)
    rw [hnil, List.append_nil] at hoverlap
    exact absurd (hoverlap ▸ (List.suffix_append front tail).isInfix) hpiece
  · have hlength := congrArg List.length hoverlap
    rw [List.length_append] at hlength
    have hnil : tail = [] := List.eq_nil_of_length_eq_zero (by omega)
    exact ⟨[], by simp [hnil]⟩

end

open String (Slice)
open String.Slice.Pattern

variable {sep piece other rest more text : String} {pieces others : List String}

theorem contains_iff_exists :
    text.contains sep ↔ ∃ front back, text = front ++ (sep ++ back) := by
  rw [String.contains_string_iff]
  constructor
  · rintro ⟨front, back, h⟩
    refine ⟨.ofList front, .ofList back, String.toList_inj.mp ?_⟩
    simp [← h]
  · rintro ⟨front, back, rfl⟩
    exact ⟨front.toList, back.toList, by simp⟩

theorem contains_append (piece sep rest : String) : (piece ++ sep ++ rest).contains sep :=
  contains_iff_exists.mpr ⟨piece, rest, String.append_assoc⟩

theorem Unbordered.eq_of_append (hsep : Unbordered sep.toList) (hpiece : ¬ piece.contains sep)
    (hother : ¬ other.contains sep) (h : piece ++ sep ++ rest = other ++ sep ++ more) :
    piece = other ∧ rest = more := by
  have hchars : piece.toList ++ (sep.toList ++ rest.toList) =
      other.toList ++ (sep.toList ++ more.toList) := by
    have htexts := congrArg String.toList h
    simpa only [String.toList_append, List.append_assoc] using htexts
  rw [String.contains_string_iff] at hpiece hother
  have hfront := hsep.isPrefix_front hpiece hchars
  have hback := hsep.isPrefix_front hother hchars.symm
  obtain rfl : piece = other :=
    String.toList_inj.mp (hfront.eq_of_length_le hback.length_le)
  exact ⟨rfl, (String.append_right_inj _).mp h⟩

/-- Holds of a text and the pieces without a separator that it is made of, with a separator
between each two of them. -/
inductive CutAt (sep : String) : (text : String) → (pieces : List String) → Prop
  | last {piece : String} (hpiece : ¬ piece.contains sep) : CutAt sep piece [piece]
  | more {piece rest : String} {pieces : List String} (hpiece : ¬ piece.contains sep)
    (hrest : CutAt sep rest pieces) : CutAt sep (piece ++ sep ++ rest) (piece :: pieces)

namespace CutAt

theorem not_contains (h : CutAt sep text pieces) : ∀ piece ∈ pieces, ¬ piece.contains sep := by
  induction h with
  | last hpiece => exact List.forall_mem_singleton.mpr hpiece
  | more hpiece hrest ih => exact List.forall_mem_cons.mpr ⟨hpiece, ih⟩

/-- There is only one way to cut a text at a separator that cannot overlap with itself. -/
theorem unique (hsep : Unbordered sep.toList) (h : CutAt sep text pieces)
    (h' : CutAt sep text others) : pieces = others := by
  induction h generalizing others with
  | last hpiece =>
    cases h' with
    | last => rfl
    | more => exact absurd (contains_append _ _ _) hpiece
  | @more piece rest pieces hpiece hrest ih =>
    generalize htext : piece ++ sep ++ rest = text at h'
    cases h' with
    | last hother => exact absurd (htext ▸ contains_append _ _ _) hother
    | more hother hmore =>
      obtain ⟨rfl, rfl⟩ := hsep.eq_of_append hpiece hother htext
      rw [ih hmore]

end CutAt

def piecesAt (sep text : String) : List String := (text.split sep).toList.map Slice.copy

section

variable {s : Slice} {p q : s.Pos} {before after front back : String}

theorem exists_pos_splits (h : s.copy = front ++ back) : ∃ r : s.Pos, r.Splits front back := by
  refine ⟨(String.Pos.ofEqAppend h).ofCopy, Slice.Pos.splits_of_splits_copy ?_⟩
  rw [String.Pos.copy_ofCopy]
  exact String.Pos.splits_ofEqAppend h

theorem copy_subslice (hpq : p ≤ q) : (s.subslice p q hpq).copy = (s.slice p q hpq).copy := by
  rw [Slice.Subslice.copy_eq, Function.comp_apply, Slice.toSlice_subslice]

theorem exists_rest (hpq : p ≤ q) (hp : p.Splits before after) :
    ∃ rest, after = (s.slice p q hpq).copy ++ rest ∧
      q.Splits (before ++ (s.slice p q hpq).copy) rest := by
  obtain ⟨_, rest, hp', hq⟩ := Slice.copy_slice_eq_iff_splits.mp ⟨hpq, rfl⟩
  obtain ⟨rfl, rfl⟩ := hp'.eq hp
  exact ⟨rest, rfl, hq⟩

theorem not_contains_slice (hne : sep ≠ "") (hpq : p ≤ q)
    (hfree : ∀ r, p ≤ r → r < q → ¬ Model.MatchesAt sep r) :
    ¬ (s.slice p q hpq).copy.contains sep := by
  intro hcontains
  obtain ⟨front, back, hslice⟩ := contains_iff_exists.mp hcontains
  obtain ⟨before, after, hp, hq⟩ := Slice.copy_slice_eq_iff_splits.mp ⟨hpq, rfl⟩
  rw [hslice] at hp hq
  obtain ⟨r, hr⟩ : ∃ r : s.Pos, r.Splits (before ++ front) (sep ++ (back ++ after)) := by
    apply exists_pos_splits
    rw [hp.eq_append]
    simp only [String.append_assoc]
  have hpr : p ≤ r := by
    apply (hp.le_iff_exists_eq_append hr).mpr
    exact ⟨front, rfl, by simp only [String.append_assoc]⟩
  have hrq : r < q := by
    apply (hr.lt_iff_exists_eq_append hq).mpr
    refine ⟨sep ++ back, by simp [hne], ?_, ?_⟩ <;> simp only [String.append_assoc]
  exact hfree r hpr hrq (Model.ForwardStringSearcher.matchesAt_iff_splits.mpr ⟨_, _, hr⟩)

/-- What a text is split into from a position `p` on cuts the text behind `p`. The search has come
to `q`, and no separator begins between the two. -/
theorem cutAt_split [Model.StrictPatternModel sep] (hne : sep ≠ "") (hpq : p ≤ q)
    (hfree : ∀ r, p ≤ r → r < q → ¬ Model.MatchesAt sep r) (hp : p.Splits before after) :
    CutAt sep after ((Model.split sep p q hpq).map Slice.Subslice.copy) := by
  fun_induction Model.split sep p q hpq generalizing before after with
  | case1 p hpq =>
    -- The search has come to the end of the text.
    have hpiece := not_contains_slice hne hpq hfree
    obtain ⟨_, rfl, hend⟩ := exists_rest hpq hp
    obtain ⟨-, rfl⟩ := Slice.splits_endPos_iff.mp hend
    rw [List.map_singleton, copy_subslice, String.append_empty]
    exact .last hpiece
  | case2 p q hpq _ r hr _ ih =>
    -- A separator stands from `q` to `r`.
    have hpiece := not_contains_slice hne hpq hfree
    obtain ⟨_, rfl, hq⟩ := exists_rest hpq hp
    obtain ⟨_, rest, hq', hrest⟩ :=
      Model.ForwardStringSearcher.isLongestMatchAt_iff_splits.mp (Model.matchAt?_eq_some_iff.mp hr)
    obtain ⟨rfl, rfl⟩ := hq.eq hq'
    rw [List.map_cons, copy_subslice, ← String.append_assoc]
    refine .more hpiece (ih ?_ hrest)
    intro t hrt htr
    exact absurd hrt (Std.not_le.mpr htr)
  | case3 p q hpq _ hq ih =>
    -- No separator begins at `q`, and the search goes on.
    refine ih ?_ hp
    intro r hpr hr
    rcases Std.le_iff_lt_or_eq.mp (Slice.Pos.lt_next_iff_le.mp hr) with hlt | rfl
    · exact hfree r hpr hlt
    · exact Model.matchAt?_eq_none_iff.mp hq

end

theorem cutAt_piecesAt (hne : sep ≠ "") (text : String) : CutAt sep text (piecesAt sep text) := by
  have := Model.ForwardStringSearcher.strictPatternModel hne
  have := Model.ForwardStringSearcher.lawfulToForwardSearcherModel hne
  have hstart : text.toSlice.startPos.Splits "" text :=
    Slice.splits_startPos_iff.mpr ⟨rfl, String.copy_toSlice.symm⟩
  rw [piecesAt, String.split, Slice.toList_split_eq_splitToSubslice, List.map_map,
    ← Slice.Subslice.copy_eq, toList_splitToSubslice_eq_modelSplit]
  refine cutAt_split hne (Slice.Pos.le_refl _) ?_ hstart
  intro r hr hlt
  exact absurd hr (Std.not_le.mpr hlt)

theorem piecesAt_eq_iff (hsep : Unbordered sep.toList) (hne : sep ≠ "") :
    piecesAt sep text = pieces ↔ CutAt sep text pieces := by
  constructor
  · rintro rfl
    exact cutAt_piecesAt hne text
  · intro h
    exact (cutAt_piecesAt hne text).unique hsep h

end Reachability.Text
