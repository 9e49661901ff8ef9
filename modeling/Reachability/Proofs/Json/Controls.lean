import Reachability.Proofs.Json.Compact

/-!
# Compact text holds no controls

The characters below U+0020 are escaped in strings, and nothing else in a text is one of them. So
the text of a value stands on one line, whatever its strings hold.
-/
namespace Reachability.Json

def HasNoControls (cs : List Char) : Prop := ∀ c ∈ cs, 0x20 ≤ c.toNat

theorem hasNoControls_append {cs ds : List Char} (hcs : HasNoControls cs)
    (hds : HasNoControls ds) : HasNoControls (cs ++ ds) := by
  intro c hc
  rcases List.mem_append.mp hc with hc | hc
  · exact hcs c hc
  · exact hds c hc

theorem hasNoControls_cons {c : Char} {cs : List Char} (hc : 0x20 ≤ c.toNat)
    (hcs : HasNoControls cs) : HasNoControls (c :: cs) := by
  intro d hd
  rcases List.mem_cons.mp hd with rfl | hd
  · exact hc
  · exact hcs d hd

theorem hasNoControls_of_all {cs : List Char} (h : cs.all (fun c => decide (0x20 ≤ c.toNat))) :
    HasNoControls cs := by
  intro c hc
  exact of_decide_eq_true (List.all_eq_true.mp h c hc)

theorem hasNoControls_escapeChar (c : Char) : HasNoControls (escapeChar c) := by
  have hcode : ∀ n < 0x20, (['\\', 'u', '0', '0', Nat.digitChar (n / 16),
      Nat.digitChar (n % 16)].all fun c => decide (0x20 ≤ c.toNat)) = true := by decide
  unfold escapeChar
  iterate 7
    split
    · exact hasNoControls_of_all (by decide)
  split
  · next h => exact hasNoControls_of_all (hcode _ h)
  · next h =>
    intro d hd
    obtain rfl := List.mem_singleton.mp hd
    exact Nat.not_lt.mp h

theorem hasNoControls_stringChars (s : String) : HasNoControls (stringChars s) := by
  have hinside : HasNoControls (s.toList.flatMap escapeChar) := by
    intro c hc
    obtain ⟨d, -, hd⟩ := List.mem_flatMap.mp hc
    exact hasNoControls_escapeChar d c hd
  exact hasNoControls_cons (by decide)
    (hasNoControls_append hinside (hasNoControls_of_all (by decide)))

theorem hasNoControls_toChars {n : Numeral} (h : n.IsProper) : HasNoControls n.toChars := by
  intro c hc
  rcases Numeral.mem_toChars h hc with hdigit | rfl | rfl | rfl
  · have := Decimal.isDigit_iff.mp hdigit
    omega
  · decide
  · decide
  · decide

theorem hasNoControls_itemsChars {vs : List Json}
    (h : ∀ v ∈ vs, HasNoControls v.compactChars) : HasNoControls (itemsChars vs) := by
  induction vs with
  | nil => exact hasNoControls_of_all rfl
  | cons v vs ih =>
    have hv := h v List.mem_cons_self
    have hvs := ih fun w hw => h w (List.mem_cons_of_mem _ hw)
    cases vs with
    | nil =>
      rw [itemsChars]
      exact hv
    | cons w vs =>
      rw [itemsChars]
      · exact hasNoControls_append hv (hasNoControls_cons (by decide) hvs)
      · exact List.cons_ne_nil w vs

theorem hasNoControls_membersChars {ms : List (String × Json)}
    (h : ∀ m ∈ ms, HasNoControls m.2.compactChars) : HasNoControls (membersChars ms) := by
  induction ms with
  | nil => exact hasNoControls_of_all rfl
  | cons m ms ih =>
    obtain ⟨k, v⟩ := m
    have hk := hasNoControls_stringChars k
    have hv := h (k, v) List.mem_cons_self
    have hms := ih fun n hn => h n (List.mem_cons_of_mem _ hn)
    cases ms with
    | nil =>
      rw [membersChars]
      exact hasNoControls_append hk (hasNoControls_cons (by decide) hv)
    | cons n ms =>
      rw [membersChars]
      · exact hasNoControls_append hk (hasNoControls_cons (by decide)
          (hasNoControls_append hv (hasNoControls_cons (by decide) hms)))
      · exact List.cons_ne_nil n ms

/-- The text of a value holds no controls. -/
theorem hasNoControls_compactChars {v : Json} (h : v.IsProper) : HasNoControls v.compactChars := by
  induction h with
  | null => exact hasNoControls_of_all (by decide)
  | boolean value => cases value <;> exact hasNoControls_of_all (by decide)
  | number h =>
    rw [compactChars]
    exact hasNoControls_toChars h
  | text s =>
    rw [compactChars]
    exact hasNoControls_stringChars s
  | array _ ih =>
    rw [compactChars]
    exact hasNoControls_cons (by decide)
      (hasNoControls_append (hasNoControls_itemsChars ih) (hasNoControls_of_all (by decide)))
  | object _ ih =>
    rw [compactChars]
    exact hasNoControls_cons (by decide)
      (hasNoControls_append (hasNoControls_membersChars ih) (hasNoControls_of_all (by decide)))

end Reachability.Json
