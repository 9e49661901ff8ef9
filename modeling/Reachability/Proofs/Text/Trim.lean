import Mathlib.Data.List.DropRight
import Reachability.Text.Blank

/-!
# Trimming

A text that is trimmed at both ends keeps what stands between. What has been trimmed stays as it
is when it is trimmed again, and blanks put around a text do not change what is left of it.
-/
namespace Reachability.Text

section

variable {α : Type} {p : α → Bool} {l before after : List α}

theorem dropTrailing_eq_rdropWhile (p : α → Bool) (l : List α) :
    dropTrailing p l = l.rdropWhile p := rfl

theorem dropTrailing_append_of_all (h : after.all p = true) :
    dropTrailing p (l ++ after) = dropTrailing p l := by
  have hdrop : ∀ a ∈ after.reverse, p a = true := by simpa using h
  rw [dropTrailing, dropTrailing, List.reverse_append, List.dropWhile_append_of_pos hdrop]

theorem dropTrailing_dropWhile_padded (hbefore : before.all p = true)
    (hafter : after.all p = true) :
    dropTrailing p ((before ++ l ++ after).dropWhile p) = dropTrailing p (l.dropWhile p) := by
  have hdrop : ∀ a ∈ before, p a = true := by simpa using hbefore
  rw [List.append_assoc, List.dropWhile_append_of_pos hdrop, List.dropWhile_append]
  split
  · next hempty =>
    have hnone : after.dropWhile p = [] :=
      List.dropWhile_eq_nil_iff.mpr (List.all_eq_true.mp hafter)
    rw [hnone, List.isEmpty_iff.mp hempty]
  · exact dropTrailing_append_of_all hafter

theorem dropTrailing_dropWhile_eq_self (hhead : ∀ a ∈ l.head?, p a = false)
    (hlast : ∀ a ∈ l.getLast?, p a = false) : dropTrailing p (l.dropWhile p) = l := by
  have hfront : l.dropWhile p = l := by
    cases l with
    | nil => rfl
    | cons a l => simp [hhead a rfl]
  rw [hfront, dropTrailing_eq_rdropWhile, List.rdropWhile_eq_self_iff]
  intro hl
  simp [hlast _ (List.getLast?_eq_some_getLast hl)]

theorem dropWhile_dropTrailing_dropWhile (p : α → Bool) (l : List α) :
    (dropTrailing p (l.dropWhile p)).dropWhile p = dropTrailing p (l.dropWhile p) := by
  have hprefix : dropTrailing p (l.dropWhile p) <+: l.dropWhile p := List.rdropWhile_prefix p _
  cases htrimmed : dropTrailing p (l.dropWhile p) with
  | nil => rfl
  | cons a trimmed =>
    obtain ⟨rest, hrest⟩ := htrimmed ▸ hprefix
    have ha : p a = false := by
      have hhead := List.head?_dropWhile_not p l
      rwa [← hrest] at hhead
    simp [ha]

/-- What is dropped at the two ends, and what is left between. -/
theorem exists_trimmed (p : α → Bool) (l : List α) : ∃ before after,
    before.all p = true ∧ after.all p = true ∧
      l = before ++ dropTrailing p (l.dropWhile p) ++ after := by
  have hback : dropTrailing p (l.dropWhile p) ++ (l.dropWhile p).rtakeWhile p =
      l.dropWhile p := List.rdropWhile_append_rtakeWhile
  refine ⟨l.takeWhile p, (l.dropWhile p).rtakeWhile p, List.all_takeWhile, ?_, ?_⟩
  · rw [List.all_eq_true]
    exact fun a ha => List.mem_rtakeWhile_imp ha
  · rw [List.append_assoc, hback, List.takeWhile_append_dropWhile]

theorem head?_trimmed (p : α → Bool) (l : List α) :
    ∀ a ∈ (dropTrailing p (l.dropWhile p)).head?, p a = false := by
  intro a ha
  rw [← dropWhile_dropTrailing_dropWhile] at ha
  have hhead := List.head?_dropWhile_not p (dropTrailing p (l.dropWhile p))
  rw [Option.mem_def.mp ha] at hhead
  exact hhead

theorem getLast?_trimmed (p : α → Bool) (l : List α) :
    ∀ a ∈ (dropTrailing p (l.dropWhile p)).getLast?, p a = false := by
  intro a ha
  have hne : (l.dropWhile p).rdropWhile p ≠ [] := by
    intro hnil
    rw [dropTrailing_eq_rdropWhile, hnil] at ha
    cases ha
  have hlast := List.rdropWhile_last_not p (l.dropWhile p) hne
  rw [dropTrailing_eq_rdropWhile, List.getLast?_eq_some_getLast hne] at ha
  obtain rfl := Option.some.inj ha
  exact Bool.eq_false_iff.mpr hlast

end

/-- White space around a text is dropped, and nothing of the text itself. -/
theorem trimChars_padded {before cs after : List Char} (hbefore : before.all isBlank = true)
    (hafter : after.all isBlank = true) (hhead : ∀ c ∈ cs.head?, isBlank c = false)
    (hlast : ∀ c ∈ cs.getLast?, isBlank c = false) : trimChars (before ++ cs ++ after) = cs := by
  rw [trimChars, dropTrailing_dropWhile_padded hbefore hafter,
    dropTrailing_dropWhile_eq_self hhead hlast]

theorem trimChars_of_all {cs : List Char} (h : cs.all isBlank = true) : trimChars cs = [] := by
  rw [trimChars, List.dropWhile_eq_nil_iff.mpr (List.all_eq_true.mp h)]
  rfl

theorem trimChars_trimChars (cs : List Char) : trimChars (trimChars cs) = trimChars cs := by
  unfold trimChars
  rw [dropWhile_dropTrailing_dropWhile, dropTrailing_eq_rdropWhile, dropTrailing_eq_rdropWhile,
    List.rdropWhile_idempotent]

theorem trim_trim (s : String) : trim (trim s) = trim s := by
  rw [trim, toList_trim, trimChars_trimChars, trim]

end Reachability.Text
