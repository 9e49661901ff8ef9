import Mathlib.Data.Finset.Dedup
import Mathlib.Data.Finset.Card
import Reachability.Proofs.Verdict
import Reachability.Proofs.Verdict.Details

/-!
# Details after any insertions

Texts may be given under the same name any number of times. The names then stand in the order of
their first places in what was given, and each has the text of its last place. All readers of the
details agree on this, the written object among them.
-/
namespace Reachability.Details

variable {key j k : String} {names keys : List String} {l before after : List (String × String)}

/-- The list `keys` has the names of `names`, each once, in the order of their first places. -/
structure FirstPlaces (names keys : List String) : Prop where
  nodup : keys.Nodup
  mem_iff (k : String) : k ∈ keys ↔ k ∈ names
  ordered : keys.Pairwise fun j k => names.idxOf j < names.idxOf k

namespace FirstPlaces

theorem ordered_concat (h : FirstPlaces names keys) (key : String) :
    keys.Pairwise fun j k => (names ++ [key]).idxOf j < (names ++ [key]).idxOf k := by
  refine h.ordered.imp_of_mem ?_
  intro j k hj hk hlt
  rwa [List.idxOf_append_of_mem ((h.mem_iff j).mp hj),
    List.idxOf_append_of_mem ((h.mem_iff k).mp hk)]

theorem concat_of_mem (h : FirstPlaces names keys) (hmem : key ∈ keys) :
    FirstPlaces (names ++ [key]) keys where
  nodup := h.nodup
  mem_iff k := by
    have hkey : k = key → k ∈ names := fun hk => hk ▸ (h.mem_iff key).mp hmem
    rw [h.mem_iff, List.mem_append, List.mem_singleton, or_iff_left_of_imp hkey]
  ordered := h.ordered_concat key

theorem concat_of_not_mem (h : FirstPlaces names keys) (hmem : key ∉ keys) :
    FirstPlaces (names ++ [key]) (keys ++ [key]) where
  nodup := List.nodup_append.mpr ⟨h.nodup, by simp, by
    rintro j hj k hk rfl
    exact hmem (List.mem_singleton.mp hk ▸ hj)⟩
  mem_iff k := by rw [List.mem_append, List.mem_append, h.mem_iff]
  ordered := by
    have hnew : key ∉ names := fun hkey => hmem ((h.mem_iff key).mpr hkey)
    refine List.pairwise_append.mpr ⟨h.ordered_concat key, by simp, ?_⟩
    intro j hj k hk
    have hmem_names : j ∈ names := (h.mem_iff j).mp hj
    rw [List.mem_singleton.mp hk, List.idxOf_append_of_mem hmem_names,
      List.idxOf_append_of_notMem hnew]
    simpa using Nat.lt_add_right 0 (List.idxOf_lt_length_of_mem hmem_names)

theorem length_eq (h : FirstPlaces names keys) : keys.length = names.toFinset.card := by
  have hsame : names.toFinset = keys.toFinset := by
    ext k
    rw [List.mem_toFinset, List.mem_toFinset, h.mem_iff]
  rw [hsame, List.toFinset_card_of_nodup h.nodup]

end FirstPlaces

theorem not_mem_names : k ∉ l.map (·.1) ↔ ∀ e ∈ l, (k != e.1) = true := by
  simp only [List.mem_map, not_exists, not_and, bne_iff_ne, ne_comm, ne_eq]

theorem not_mem_before_of_nodup {old : String}
    (h : ((before ++ (key, old) :: after).map (·.1)).Nodup) : key ∉ before.map (·.1) := by
  intro hmem
  rw [List.map_append, List.map_cons, List.nodup_append] at h
  exact h.2.2 key hmem key List.mem_cons_self rfl

/-! ## One insertion -/

theorem setEntry_append_cons (old value : String) (h : key ∉ before.map (·.1)) :
    setEntry key value (before ++ (key, old) :: after) = before ++ (key, value) :: after := by
  induction before with
  | nil => simp [setEntry]
  | cons e before ih =>
    rw [List.map_cons, List.mem_cons, not_or] at h
    obtain ⟨hne, hmem⟩ := h
    rw [List.cons_append, setEntry, if_neg (Ne.symm hne), ih hmem, List.cons_append]

theorem map_fst_setEntry_of_mem (value : String) (h : key ∈ l.map (·.1)) :
    (setEntry key value l).map (·.1) = l.map (·.1) := by
  induction l with
  | nil => simp at h
  | cons e l ih =>
    by_cases hkey : e.1 = key
    · simp [setEntry, hkey]
    · have hmem : key ∈ l.map (·.1) := (List.mem_cons.mp h).resolve_left (Ne.symm hkey)
      rw [setEntry, if_neg hkey, List.map_cons, ih hmem, List.map_cons]

/-- Two names can be given in either order, unless both are new. -/
theorem setEntry_comm (v w : String) (hne : j ≠ k) (h : j ∈ l.map (·.1) ∨ k ∈ l.map (·.1)) :
    setEntry k w (setEntry j v l) = setEntry j v (setEntry k w l) := by
  induction l with
  | nil => simp at h
  | cons e l ih =>
    by_cases hj : e.1 = j
    · simp [setEntry, hj, hne]
    · by_cases hk : e.1 = k
      · simp [setEntry, hk, hne.symm]
      · have hl : j ∈ l.map (·.1) ∨ k ∈ l.map (·.1) :=
          h.imp (fun h => (List.mem_cons.mp h).resolve_left (Ne.symm hj))
            fun h => (List.mem_cons.mp h).resolve_left (Ne.symm hk)
        simp only [setEntry, if_neg hj, if_neg hk, ih hl]

variable (d : Details)

theorem toList_insert (key value : String) :
    (d.insert key value).toList = setEntry key value d.toList := rfl

theorem keys_insert_of_mem (value : String) (h : key ∈ d.keys) :
    (d.insert key value).keys = d.keys :=
  map_fst_setEntry_of_mem value h

theorem toList_insert_of_not_mem (value : String) (h : key ∉ d.keys) :
    (d.insert key value).toList = d.toList ++ [(key, value)] :=
  setEntry_of_not_mem value h

theorem keys_insert_of_not_mem (value : String) (h : key ∉ d.keys) :
    (d.insert key value).keys = d.keys ++ [key] := by
  rw [keys, ← toList, toList_insert_of_not_mem d value h, List.map_append]
  rfl

theorem insert_comm (v w : String) (hne : j ≠ k) (h : j ∈ d.keys ∨ k ∈ d.keys) :
    (d.insert j v).insert k w = (d.insert k w).insert j v :=
  congrArg Details.mk (setEntry_comm v w hne h)

theorem toList_insert_insert (v w : String) (hne : j ≠ k) (hj : j ∉ d.keys) (hk : k ∉ d.keys) :
    ((d.insert j v).insert k w).toList = d.toList ++ [(j, v), (k, w)] := by
  have hk' : k ∉ (d.insert j v).keys := by
    rw [keys_insert_of_not_mem d v hj, List.mem_append, List.mem_singleton]
    exact not_or.mpr ⟨hk, hne.symm⟩
  rw [toList_insert_of_not_mem _ w hk', toList_insert_of_not_mem d v hj, List.append_assoc]
  rfl

theorem toList_insert_of_split {old : String} (value : String) (h : d.keys.Nodup)
    (hsplit : d.toList = before ++ (key, old) :: after) :
    (d.insert key value).toList = before ++ (key, value) :: after := by
  rw [keys, ← toList, hsplit] at h
  rw [toList_insert, hsplit, setEntry_append_cons old value (not_mem_before_of_nodup h)]

/-! ## All insertions -/

theorem firstPlaces_ofList (l : List (String × String)) :
    FirstPlaces (l.map (·.1)) (ofList l).keys := by
  induction l using List.reverseRecOn with
  | nil => exact ⟨.nil, fun _ => .rfl, .nil⟩
  | append_singleton l e ih =>
    rw [ofList_concat, List.map_append]
    by_cases h : e.1 ∈ (ofList l).keys
    · rw [keys_insert_of_mem _ _ h]
      exact ih.concat_of_mem h
    · rw [keys_insert_of_not_mem _ _ h]
      exact ih.concat_of_not_mem h

/-- A name is read as it is found from the end of what was given. -/
theorem get?_ofList (l : List (String × String)) (k : String) :
    (ofList l).get? k = l.reverse.lookup k := by
  induction l using List.reverseRecOn with
  | nil => rfl
  | append_singleton l e ih =>
    rw [ofList_concat, get?_insert, ih, List.reverse_concat, List.lookup_cons]
    by_cases h : k = e.1
    · simp [h]
    · simp [h, beq_eq_false_iff_ne.mpr h]

theorem get?_ofList_eq_some (l : List (String × String)) (k v : String) :
    (ofList l).get? k = some v ↔
      ∃ before after, l = before ++ (k, v) :: after ∧ k ∉ after.map (·.1) := by
  rw [get?_ofList, List.lookup_eq_some_iff]
  constructor
  · rintro ⟨after, before, hsplit, hafter⟩
    refine ⟨before.reverse, after.reverse, ?_, ?_⟩
    · rw [← l.reverse_reverse, hsplit]
      simp
    · rwa [List.map_reverse, List.mem_reverse, not_mem_names]
  · rintro ⟨before, after, rfl, hafter⟩
    refine ⟨after.reverse, before.reverse, by simp, ?_⟩
    rwa [← not_mem_names, List.map_reverse, List.mem_reverse]

theorem get?_eq_none (k : String) : d.get? k = none ↔ k ∉ d.keys := by
  rw [get?, List.lookup_eq_none_iff, keys, not_mem_names]

theorem contains_iff (k : String) : d.contains k = true ↔ k ∈ d.keys := by
  rw [contains, Option.isSome_iff_ne_none, Ne, get?_eq_none, not_not]

theorem mem_toList_iff {d : Details} (h : d.keys.Nodup) (k v : String) :
    (k, v) ∈ d.toList ↔ d.get? k = some v := by
  rw [get?, List.lookup_eq_some_iff, ← toList]
  constructor
  · intro hmem
    obtain ⟨before, after, hsplit⟩ := List.append_of_mem hmem
    rw [keys, ← toList, hsplit] at h
    exact ⟨before, after, hsplit, not_mem_names.mp (not_mem_before_of_nodup h)⟩
  · rintro ⟨before, after, hsplit, -⟩
    simp [hsplit]

/-- Details that are given one after the other are an ordered map. The names stand in the order
of their first places and have the texts of their last ones, the readers agree, and so does the
written object. So two names can be given in either order, up to their places where both are new,
and giving a name again changes its text only. -/
theorem ofList_keeps_first_places (l : List (String × String)) :
    FirstPlaces (l.map (·.1)) (ofList l).keys ∧
    let d := ofList l
    let names := l.map (·.1)
    (∀ k v, d.get? k = some v ↔
      ∃ before after, l = before ++ (k, v) :: after ∧ k ∉ after.map (·.1)) ∧
    (∀ k, d.get? k = none ↔ k ∉ names) ∧
    (∀ k, d.contains k = true ↔ k ∈ names) ∧
    d.size = names.toFinset.card ∧
    (d.isEmpty = true ↔ d.size = 0) ∧
    d.keys = d.toList.map (·.1) ∧
    (∀ k v, (k, v) ∈ d.toList ↔ d.get? k = some v) ∧
    (∀ w, Json.Document w d.toJson.compactBytes ↔
      w = .object (d.toList.map fun e => (e.1, .text e.2))) ∧
    (∀ j k v w, j ≠ k →
      (j ∈ names ∨ k ∈ names → (d.insert j v).insert k w = (d.insert k w).insert j v) ∧
      (j ∉ names → k ∉ names →
        ((d.insert j v).insert k w).toList = d.toList ++ [(j, v), (k, w)])) ∧
    (∀ before k old after v, d.toList = before ++ (k, old) :: after →
      (d.insert k v).toList = before ++ (k, v) :: after) := by
  refine ⟨firstPlaces_ofList l, ?_⟩
  intro d names
  have hplaces : FirstPlaces names d.keys := firstPlaces_ofList l
  refine ⟨get?_ofList_eq_some l, ?_, ?_, ?_, ?_, rfl, mem_toList_iff hplaces.nodup,
    fun w => Json.document_compactBytes d.isProper_toJson, ?_,
    fun before k old after v => toList_insert_of_split d v hplaces.nodup⟩
  · intro k
    rw [get?_eq_none, hplaces.mem_iff]
  · intro k
    rw [contains_iff, hplaces.mem_iff]
  · rw [← hplaces.length_eq, keys, List.length_map, size]
  · rw [isEmpty, size, List.isEmpty_iff_length_eq_zero]
  · intro j k v w hne
    rw [← hplaces.mem_iff, ← hplaces.mem_iff]
    exact ⟨insert_comm d v w hne, toList_insert_insert d v w hne⟩

example : (ofList [("a", "1"), ("b", "2"), ("a", "3")]).toList = [("a", "3"), ("b", "2")] := by
  decide

end Reachability.Details
