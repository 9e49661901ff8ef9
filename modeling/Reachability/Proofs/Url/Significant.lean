import Reachability.Url

/-!
# What counts of a URL

Blanks and controls are dropped at the ends of a URL, and line breaks and tabs anywhere in it.
So what is put behind a URL lets the blanks at its end count that did not count before.
-/
namespace Reachability.Url

def isEdge (c : Char) : Bool := c.toNat ≤ 0x20

def isLineBreak (c : Char) : Bool := c == '\t' || c == '\n' || c == '\r'

def onOneLine (cs : List Char) : List Char := cs.filter (!isLineBreak ·)

/-- The text without blanks and controls at its end. -/
def trimEnd (cs : List Char) : List Char := (cs.reverse.dropWhile isEdge).reverse

theorem significant_eq (cs : List Char) :
    significant cs = onOneLine (trimEnd (cs.dropWhile isEdge)) := rfl

theorem onOneLine_append (cs ds : List Char) :
    onOneLine (cs ++ ds) = onOneLine cs ++ onOneLine ds :=
  List.filter_append ..

theorem isEdge_of_isLineBreak {c : Char} (h : isLineBreak c = true) : isEdge c = true := by
  simp only [isLineBreak, Bool.or_eq_true, beq_iff_eq] at h
  rcases h with (rfl | rfl) | rfl <;> decide

theorem onOneLine_of_not_isEdge {cs : List Char} (h : ∀ c ∈ cs, isEdge c = false) :
    onOneLine cs = cs := by
  rw [onOneLine, List.filter_eq_self]
  intro c hc
  rw [Bool.not_eq_true', Bool.eq_false_iff]
  intro hbreak
  simpa [isEdge_of_isLineBreak hbreak] using h c hc

theorem trimEnd_cons {c : Char} (h : isEdge c = false) (cs : List Char) :
    trimEnd (c :: cs) = c :: trimEnd cs := by
  rw [trimEnd, List.reverse_cons, List.dropWhile_append]
  split
  · next hempty =>
    rw [List.isEmpty_iff] at hempty
    simp [trimEnd, hempty, h]
  · simp [trimEnd]

theorem trimEnd_append {cs : List Char} (h : ∀ c ∈ cs, isEdge c = false) (ds : List Char) :
    trimEnd (cs ++ ds) = cs ++ trimEnd ds := by
  induction cs with
  | nil => rfl
  | cons c cs ih =>
    rw [List.cons_append, trimEnd_cons (h c List.mem_cons_self),
      ih fun d hd => h d (List.mem_cons_of_mem _ hd), List.cons_append]

theorem trimEnd_append_of_not_isEdge (cs : List Char) {ds : List Char} (hne : ds ≠ [])
    (h : ∀ c ∈ ds, isEdge c = false) : trimEnd (cs ++ ds) = cs ++ ds := by
  obtain ⟨c, tail, hcons⟩ := List.exists_cons_of_ne_nil (mt List.reverse_eq_nil_iff.mp hne)
  have hc : isEdge c = false := h c (List.mem_reverse.mp (hcons ▸ List.mem_cons_self))
  have hreverse : (cs ++ ds).reverse = c :: (tail ++ cs.reverse) := by
    rw [List.reverse_append, hcons, List.cons_append]
  rw [trimEnd, hreverse, List.dropWhile_cons_of_neg (by simp [hc]), ← hreverse,
    List.reverse_reverse]

theorem exists_eq_trimEnd_append (cs : List Char) :
    ∃ blanks, cs = trimEnd cs ++ blanks ∧ ∀ c ∈ blanks, isEdge c = true := by
  refine ⟨(cs.reverse.takeWhile isEdge).reverse, ?_, ?_⟩
  · rw [trimEnd, ← List.reverse_append, List.takeWhile_append_dropWhile, List.reverse_reverse]
  · intro c hc
    exact List.all_eq_true.mp List.all_takeWhile c (List.mem_reverse.mp hc)

/-- What counts of a text that begins with a word of its own. -/
theorem significant_append {core : List Char} (hne : core ≠ []) (h : ∀ c ∈ core, isEdge c = false)
    (more : List Char) : significant (core ++ more) = core ++ onOneLine (trimEnd more) := by
  obtain ⟨c, tail, rfl⟩ := List.exists_cons_of_ne_nil hne
  have hc : ¬ isEdge c = true := by simp [h c List.mem_cons_self]
  rw [significant_eq, List.cons_append, List.dropWhile_cons_of_neg hc, ← List.cons_append,
    trimEnd_append h, onOneLine_append, onOneLine_of_not_isEdge h]

theorem getLast?_significant {cs : List Char} {c : Char} (h : cs.getLast? = some c)
    (hedge : isEdge c = false) : (significant cs).getLast? = some c := by
  obtain ⟨front, rfl⟩ := List.getLast?_eq_some_iff.mp h
  have hword : ∀ d ∈ [c], isEdge d = false := by simpa using hedge
  have hdrop : ∃ rest, (front ++ [c]).dropWhile isEdge = rest ++ [c] := by
    rw [List.dropWhile_append]
    split
    · exact ⟨[], by simp [hedge]⟩
    · exact ⟨_, rfl⟩
  obtain ⟨rest, hrest⟩ := hdrop
  rw [significant_eq, hrest, trimEnd_append_of_not_isEdge _ (by simp) hword,
    onOneLine_append, onOneLine_of_not_isEdge hword]
  simp

/-- Holds if the last character, tabs and line breaks aside, is a blank or a control. -/
def EndsBlank (cs : List Char) : Prop := ∃ c ∈ (onOneLine cs).getLast?, isEdge c = true

/-- What counts of a text with a word behind it: blanks that stood at the end of the text now
stand between the two. -/
theorem significant_append_word {cs word : List Char} (hcs : significant cs ≠ [])
    (hne : word ≠ []) (h : ∀ c ∈ word, isEdge c = false) :
    ∃ blanks, significant (cs ++ word) = significant cs ++ (blanks ++ word) ∧
      (∀ c ∈ blanks, isEdge c = true) ∧ (¬ EndsBlank cs → blanks = []) := by
  have hdrop : cs.dropWhile isEdge ≠ [] := by
    intro hnil
    rw [significant_eq, hnil] at hcs
    exact hcs rfl
  obtain ⟨blanks, heq, hblanks⟩ := exists_eq_trimEnd_append (cs.dropWhile isEdge)
  refine ⟨onOneLine blanks, ?_, fun c hc => hblanks c (List.mem_filter.mp hc).1, ?_⟩
  · have hmore : (cs ++ word).dropWhile isEdge = cs.dropWhile isEdge ++ word := by
      rw [List.dropWhile_append, if_neg (by simpa using hdrop)]
    rw [significant_eq, significant_eq, hmore, trimEnd_append_of_not_isEdge _ hne h,
      onOneLine_append, onOneLine_of_not_isEdge h]
    conv => lhs; rw [heq]
    rw [onOneLine_append, List.append_assoc]
  · intro hend
    rcases List.eq_nil_or_concat (onOneLine blanks) with hnil | ⟨front, c, hlast⟩
    · exact hnil
    · have hmem : c ∈ onOneLine blanks := by simp [hlast]
      refine absurd ⟨c, ?_, hblanks c (List.mem_filter.mp hmem).1⟩ hend
      rw [← List.takeWhile_append_dropWhile (p := isEdge) (l := cs), heq, onOneLine_append,
        onOneLine_append, hlast]
      simp

end Reachability.Url
