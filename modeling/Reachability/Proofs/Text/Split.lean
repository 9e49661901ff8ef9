import Reachability.Text.Split

/-!
# Pieces and their text

The pieces of a text make the text again with a separator between each two of them, and the
separator is in none of them. There is only one way to cut a text into such pieces.
-/
namespace Reachability.Text

variable {sep : Char} {cs piece : List Char}

theorem splitAtEach_eq_splitOn (sep : Char) (cs : List Char) :
    splitAtEach sep cs = cs.splitOn sep := by
  induction cs with
  | nil => rfl
  | cons c cs ih =>
    rw [splitAtEach, List.splitOn_cons_eq_if_modifyHead, ih]
    by_cases h : c = sep
    · simp [h]
    · cases hpieces : cs.splitOn sep with
      | nil => exact absurd hpieces (List.splitOn_ne_nil sep cs)
      | cons piece pieces => simp [h]

theorem splitAtEach_append (h : sep ∉ piece) (rest : List Char) :
    splitAtEach sep (piece ++ sep :: rest) = piece :: splitAtEach sep rest := by
  rw [splitAtEach_eq_splitOn, List.splitOn_append_cons_self_of_not_mem h, splitAtEach_eq_splitOn]

theorem splitAtEach_of_not_mem (h : sep ∉ piece) : splitAtEach sep piece = [piece] := by
  rw [splitAtEach_eq_splitOn, List.splitOn_eq_singleton h]

theorem splitAtEach_append_cons (sep : Char) (front rest : List Char) :
    splitAtEach sep (front ++ sep :: rest) = splitAtEach sep front ++ splitAtEach sep rest := by
  induction front with
  | nil => simp [splitAtEach]
  | cons c front ih =>
    rw [List.cons_append, splitAtEach, splitAtEach, ih]
    by_cases hc : c = sep
    · simp [hc]
    · cases hpieces : splitAtEach sep front with
      | nil =>
        rw [splitAtEach_eq_splitOn] at hpieces
        exact absurd hpieces (List.splitOn_ne_nil sep front)
      | cons piece pieces => simp [hc]

/-- The last piece is what stands behind the last separator. -/
theorem getLast?_splitAtEach (sep : Char) (cs : List Char) :
    (splitAtEach sep cs).getLast? = some (cs.reverse.takeWhile (· != sep)).reverse := by
  have hcs : cs = (cs.reverse.dropWhile (· != sep)).reverse ++
      (cs.reverse.takeWhile (· != sep)).reverse := by
    rw [← List.reverse_append, List.takeWhile_append_dropWhile, List.reverse_reverse]
  have hlast : sep ∉ (cs.reverse.takeWhile (· != sep)).reverse := by
    intro hmem
    have hne := List.all_eq_true.mp List.all_takeWhile sep (List.mem_reverse.mp hmem)
    simp at hne
  cases hfront : cs.reverse.dropWhile (· != sep) with
  | nil =>
    rw [hfront, List.reverse_nil, List.nil_append] at hcs
    rw [← hcs] at hlast ⊢
    rw [splitAtEach_of_not_mem hlast]
    rfl
  | cons c front =>
    have hhead := List.head?_dropWhile_not (· != sep) cs.reverse
    rw [hfront] at hhead
    obtain rfl : c = sep := by simpa using hhead
    rw [hfront, List.reverse_cons, List.append_assoc, List.singleton_append] at hcs
    generalize (cs.reverse.takeWhile (· != c)).reverse = last at hcs hlast
    rw [hcs, splitAtEach_append_cons, splitAtEach_of_not_mem hlast, List.getLast?_concat]

theorem mem_of_mem_splitAtEach {c : Char} (h : piece ∈ splitAtEach sep cs) (hc : c ∈ piece) :
    c ∈ cs ∧ c ≠ sep := by
  induction cs generalizing piece with
  | nil =>
    rw [splitAtEach, List.mem_singleton] at h
    rw [h] at hc
    cases hc
  | cons d cs ih =>
    have hmore {other : List Char} (h : other ∈ splitAtEach sep cs) (hc : c ∈ other) :
        c ∈ d :: cs ∧ c ≠ sep :=
      (ih h hc).imp_left (List.mem_cons_of_mem d)
    rw [splitAtEach] at h
    split at h
    · rcases List.mem_cons.mp h with rfl | h
      · cases hc
      · exact hmore h hc
    · next hd =>
      cases hpieces : splitAtEach sep cs with
      | nil =>
        simp only [hpieces, List.mem_singleton] at h
        obtain rfl := List.mem_singleton.mp (h ▸ hc)
        exact ⟨List.mem_cons_self, hd⟩
      | cons first pieces =>
        rw [hpieces] at h hmore
        rcases List.mem_cons.mp h with rfl | h
        · rcases List.mem_cons.mp hc with rfl | hc
          · exact ⟨List.mem_cons_self, hd⟩
          · exact hmore List.mem_cons_self hc
        · exact hmore (List.mem_cons_of_mem _ h) hc

theorem splitAtEach_eq_iff {pieces : List (List Char)} : splitAtEach sep cs = pieces ↔
    pieces ≠ [] ∧ (∀ piece ∈ pieces, sep ∉ piece) ∧ [sep].intercalate pieces = cs := by
  constructor
  · rintro rfl
    refine ⟨?_, ?_, ?_⟩
    · rw [splitAtEach_eq_splitOn]
      exact List.splitOn_ne_nil sep cs
    · intro piece hpiece hsep
      exact (mem_of_mem_splitAtEach hpiece hsep).2 rfl
    · rw [splitAtEach_eq_splitOn]
      exact List.intercalate_splitOn sep
  · rintro ⟨hne, hpieces, rfl⟩
    rw [splitAtEach_eq_splitOn]
    exact List.splitOn_intercalate sep hpieces hne

end Reachability.Text
