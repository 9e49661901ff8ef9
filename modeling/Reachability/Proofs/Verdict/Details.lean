import Mathlib.Data.List.Induction
import Reachability.Verdict.Details

/-!
# Details as a map with an order

A name that is given for the first time goes to the end, and one that is given again keeps its
place. So details with distinct names stand in the order in which they were given.
-/
namespace Reachability.Details

theorem lookup_setEntry (key value name : String) (l : List (String × String)) :
    (setEntry key value l).lookup name = if name = key then some value else l.lookup name := by
  induction l with
  | nil =>
    by_cases h : name = key
    · simp [setEntry, h]
    · simp [setEntry, List.lookup_cons, beq_eq_false_iff_ne.mpr h, h]
  | cons e l ih =>
    obtain ⟨k, v⟩ := e
    unfold setEntry
    by_cases hk : k = key
    · subst hk
      by_cases h : name = k
      · simp [h]
      · simp [List.lookup_cons, beq_eq_false_iff_ne.mpr h, h]
    · rw [if_neg hk, List.lookup_cons, ih, List.lookup_cons]
      by_cases h : name = k
      · simp [h, hk]
      · simp [beq_eq_false_iff_ne.mpr h]

/-- What is read under a name is what was last given under it. -/
@[simp] theorem get?_insert (d : Details) (key value name : String) :
    (d.insert key value).get? name = if name = key then some value else d.get? name :=
  lookup_setEntry key value name d.entries

@[simp] theorem get?_empty (name : String) : empty.get? name = none := rfl

theorem setEntry_of_not_mem {key : String} (value : String) {l : List (String × String)}
    (h : key ∉ l.map (·.1)) : setEntry key value l = l ++ [(key, value)] := by
  induction l with
  | nil => rfl
  | cons e l ih =>
    rw [List.map_cons, List.mem_cons, not_or] at h
    obtain ⟨hne, hmem⟩ := h
    rw [setEntry, if_neg (Ne.symm hne), ih hmem, List.cons_append]

/-- Details that are given one after the other. -/
def ofList (l : List (String × String)) : Details :=
  l.foldl (fun d e => d.insert e.1 e.2) empty

theorem ofList_concat (l : List (String × String)) (key value : String) :
    ofList (l ++ [(key, value)]) = (ofList l).insert key value := by
  simp [ofList]

theorem entries_ofList {l : List (String × String)} (h : (l.map (·.1)).Nodup) :
    (ofList l).entries = l := by
  induction l using List.reverseRecOn with
  | nil => rfl
  | append_singleton l e ih =>
    rw [List.map_append, List.nodup_append] at h
    obtain ⟨hl, -, hdisjoint⟩ := h
    have hmem : e.1 ∉ l.map (·.1) := by
      intro hmem
      exact hdisjoint e.1 hmem e.1 (by simp) rfl
    rw [ofList_concat, insert, ih hl, setEntry_of_not_mem _ hmem]

end Reachability.Details
