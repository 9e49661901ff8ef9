import Mathlib.Data.List.Pairwise
import Reachability.Proofs.Json.Meaning

/-!
# Independent members

The members of a record are independent if none of them undoes what another has set. Then it
does not matter in which order an object lists them, nor what else the object has: the record
that it is decoded to depends on the values of the known names alone.
-/
namespace Reachability.Json

variable {α β ρ : Type}

/-- Holds if two changes of a record can be made in either order, whatever the values are. -/
def Meaning.Commutes (first second : Meaning (ρ → ρ)) : Prop :=
  ∀ ⦃v w set other⦄, first v = .ok set → second w = .ok other → ∀ r, set (other r) = other (set r)

namespace Meaning.Commutes

theorem symm {first second : Meaning (ρ → ρ)} (h : first.Commutes second) :
    second.Commutes first :=
  fun _ _ _ _ hset hother r => (h hother hset r).symm

theorem into {first : Meaning α} {second : Meaning β} {set : α → ρ → ρ} {other : β → ρ → ρ}
    (h : ∀ a b r, set a (other b r) = other b (set a r)) :
    (first.into set).Commutes (second.into other) := by
  intro v w change change' hv hw r
  obtain ⟨a, -, rfl⟩ := exists_of_map_eq_ok (x := first v) hv
  obtain ⟨b, -, rfl⟩ := exists_of_map_eq_ok (x := second w) hw
  exact h a b r

end Meaning.Commutes

def Meanings.Independent (meanings : Meanings ρ) : Prop :=
  meanings.Pairwise fun m n => m.2.Commutes n.2

theorem Meanings.independent_nil : Independent ([] : Meanings ρ) := List.Pairwise.nil

theorem Meanings.independent_cons {m : String × Meaning (ρ → ρ)} {meanings : Meanings ρ} :
    Independent (m :: meanings) ↔ (∀ n ∈ meanings, m.2.Commutes n.2) ∧ meanings.Independent :=
  List.pairwise_cons

/-! ## One name -/

theorem valuesOf_without (name other : String) (ms : List (String × Json)) :
    valuesOf name (without other ms) = if name = other then [] else valuesOf name ms := by
  induction ms with
  | nil => simp
  | cons m ms ih =>
    by_cases hother : m.1 = other
    · by_cases hname : name = other
      · simpa [hother, hname] using ih
      · simpa [hother, hname, Ne.symm hname] using ih
    · by_cases hname : name = other
      · subst hname
        simpa [hother] using ih
      · simp [hother, hname, ih]

namespace Meanings

variable {meanings : Meanings ρ} {ms ms' : List (String × Json)} {r q : ρ}

theorem Independent.isApart (h : meanings.Independent) {name : String} {meaning : Meaning (ρ → ρ)}
    (hlookup : meanings.lookup name = some meaning) {v : Json} {set : ρ → ρ}
    (hv : meaning v = .ok set) : meanings.IsApart name set := by
  intro m hm hne w other hw
  obtain ⟨front, back, hsplit, -⟩ := List.lookup_eq_some_iff.mp hlookup
  have hmem : (name, meaning) ∈ meanings := by simp [hsplit]
  have hdistinct : (name, meaning) ≠ m := by
    rintro rfl
    exact hne rfl
  have hsymm : Std.Symm fun m n : String × Meaning (ρ → ρ) => m.2.Commutes n.2 :=
    ⟨fun _ _ => Meaning.Commutes.symm⟩
  exact List.Pairwise.forall h hmem hm hdistinct hv hw

/-- A decoded object is what the members of all other names make, but for the change that the
member of this name makes if there is one. -/
theorem Independent.exists_decode_without (h : meanings.Independent) (name : String)
    {meaning : Meaning α} {set : α → ρ → ρ}
    (hlookup : meanings.lookup name = some (meaning.into set))
    (hdecode : meanings.decode [] r ms = .ok q) :
    ∃ q', meanings.decode [] r (without name ms) = .ok q' ∧ (q = q' ∨ ∃ a, q = set a q') := by
  rcases valuesOf_of_decode hlookup hdecode with hnone | ⟨hseen, v, change, hone, hv⟩
  · exact ⟨q, by rwa [without_eq_self hnone], .inl rfl⟩
  · rw [decode_of_valuesOf (h.isApart hlookup hv) hlookup hv hseen hone] at hdecode
    obtain ⟨a, -, rfl⟩ := exists_of_map_eq_ok (x := meaning v) hv
    obtain ⟨q', hrest, hq⟩ := exists_of_map_eq_ok hdecode
    exact ⟨q', hrest, .inr ⟨a, hq.symm⟩⟩

theorem Independent.decode_eq_ok (h : meanings.Independent) {name : String} {meaning : Meaning α}
    {set : α → ρ → ρ} (hlookup : meanings.lookup name = some (meaning.into set)) {v : Json}
    (hms : valuesOf name ms = [v]) {others : ρ}
    (hothers : meanings.decode [] r (without name ms) = .ok others) :
    meanings.decode [] r ms = .ok q ↔ ∃ a, meaning v = .ok a ∧ set a others = q := by
  have hset {a : α} (ha : meaning v = .ok a) :
      meanings.decode [] r ms = .ok (set a others) := by
    have hv : meaning.into set v = .ok (set a) := congrArg (Except.map set) ha
    rw [decode_of_valuesOf (h.isApart hlookup hv) hlookup hv List.not_mem_nil hms, hothers]
    rfl
  constructor
  · intro hdecode
    rcases valuesOf_of_decode hlookup hdecode with hnone | ⟨-, w, change, hone, hw⟩
    · cases hms.symm.trans hnone
    · obtain rfl := List.singleton_inj.mp (hms.symm.trans hone)
      obtain ⟨a, ha, rfl⟩ := exists_of_map_eq_ok (x := meaning v) hw
      exact ⟨a, ha, Except.ok.inj ((hset ha).symm.trans hdecode)⟩
  · rintro ⟨a, ha, rfl⟩
    exact hset ha

theorem decode_of_unknown {seen : List String} (h : ∀ m ∈ ms, meanings.lookup m.1 = none) :
    meanings.decode seen r ms = .ok r := by
  induction ms with
  | nil => rfl
  | cons m ms ih =>
    obtain ⟨hm, hms⟩ := List.forall_mem_cons.mp h
    rw [decode, hm]
    exact ih hms

/-- What the values of one name have to do with a record is the same for two objects that have
the same of them. -/
theorem Independent.exists_decode_eq_map (h : meanings.Independent) {name : String}
    (hsame : valuesOf name ms = valuesOf name ms') (hdecode : meanings.decode [] r ms = .ok q) :
    ∃ set : ρ → ρ,
      meanings.decode [] r ms = (meanings.decode [] r (without name ms)).map set ∧
      meanings.decode [] r ms' = (meanings.decode [] r (without name ms')).map set := by
  have hid (x : Except Problem ρ) : x = x.map id := by cases x <;> rfl
  cases hlookup : meanings.lookup name with
  | none =>
    refine ⟨id, ?_, ?_⟩ <;> rw [decode_without hlookup] <;> exact hid _
  | some meaning =>
    rcases valuesOf_of_decode hlookup hdecode with hnone | ⟨hseen, v, set, hone, hv⟩
    · refine ⟨id, ?_, ?_⟩
      · rw [without_eq_self hnone]
        exact hid _
      · rw [without_eq_self (hsame ▸ hnone)]
        exact hid _
    · have hset := h.isApart hlookup hv
      exact ⟨set, decode_of_valuesOf hset hlookup hv hseen hone r,
        decode_of_valuesOf hset hlookup hv hseen (hsame ▸ hone) r⟩

/-- Holds if all names of an object that mean something are among these names. -/
def KnownAmong (meanings : Meanings ρ) (names : List String) (ms : List (String × Json)) : Prop :=
  ∀ m ∈ ms, m.1 ∈ names ∨ meanings.lookup m.1 = none

theorem knownAmong_names (ms : List (String × Json)) :
    meanings.KnownAmong (meanings.map (·.1)) ms := by
  intro m _
  by_cases hm : m.1 ∈ meanings.map (·.1)
  · exact .inl hm
  · refine .inr (List.lookup_eq_none_iff.mpr ?_)
    intro known hknown
    exact bne_iff_ne.mpr fun heq => hm (List.mem_map.mpr ⟨known, hknown, heq.symm⟩)

theorem KnownAmong.without {name : String} {names : List String}
    (h : meanings.KnownAmong (name :: names) ms) : meanings.KnownAmong names (without name ms) := by
  intro m hm
  obtain ⟨hm, hne⟩ := List.mem_filter.mp hm
  exact (h m hm).imp_left fun hmem => (List.mem_cons.mp hmem).resolve_left (bne_iff_ne.mp hne)

theorem Independent.decode_congr_of_names (h : meanings.Independent) {names : List String}
    (hms : meanings.KnownAmong names ms) (hms' : meanings.KnownAmong names ms')
    (hsame : ∀ name ∈ names, valuesOf name ms = valuesOf name ms')
    (hdecode : meanings.decode [] r ms = .ok q) : meanings.decode [] r ms' = .ok q := by
  induction names generalizing ms ms' q with
  | nil =>
    rw [← hdecode, decode_of_unknown fun m hm => (hms m hm).resolve_left List.not_mem_nil,
      decode_of_unknown fun m hm => (hms' m hm).resolve_left List.not_mem_nil]
  | cons name names ih =>
    obtain ⟨hname, hnames⟩ := List.forall_mem_cons.mp hsame
    obtain ⟨set, hwith, hwith'⟩ := h.exists_decode_eq_map hname hdecode
    rw [hwith] at hdecode
    obtain ⟨q', hrest, rfl⟩ := exists_of_map_eq_ok hdecode
    have hothers : ∀ k ∈ names, valuesOf k (without name ms) = valuesOf k (without name ms') := by
      intro k hk
      rw [valuesOf_without, valuesOf_without, hnames k hk]
    rw [hwith', ih hms.without hms'.without hothers hrest]
    rfl

theorem Independent.decode_congr (h : meanings.Independent)
    (hsame : ∀ name ∈ meanings.map (·.1), valuesOf name ms = valuesOf name ms')
    (hdecode : meanings.decode [] r ms = .ok q) : meanings.decode [] r ms' = .ok q :=
  h.decode_congr_of_names (knownAmong_names ms) (knownAmong_names ms') hsame hdecode

end Meanings

end Reachability.Json
