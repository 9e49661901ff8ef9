import Mathlib.Data.List.Nodup
import Reachability.Proofs.Digits
import Reachability.Proofs.Yaml.Events
import Reachability.Yaml.Reader

/-!
# Records written as block mappings

A reader takes the nodes of a value without regard to where they stand, so that the values of a
mapping can be read one by one. What the entries change in a record is then done in their order,
and entries that the record has no field for are skipped.
-/
namespace Reachability.Yaml

theorem isWord_digits (n : Nat) : IsWord (Decimal.digits n) := by
  apply isWord_of_isAlphanum (Decimal.digits_ne_nil n)
  intro c hc
  have hdigit := Decimal.isDigit_iff.mp (List.all_eq_true.mp (Decimal.all_isDigit_digits n) c hc)
  simp [Char.isAlphanum, Char.isDigit, UInt32.le_iff_toNat_le, hdigit]

namespace Resolution

theorem digit?_of_isDigit {c : Char} (h : Decimal.isDigit c = true) :
    digit? 10 c = some ((Decimal.digit? c).getD 0) := by
  obtain ⟨d, hd⟩ := Option.isSome_iff_exists.mp h
  obtain ⟨hlt, -⟩ := Decimal.digit?_eq_some hd
  have hhex : Hexadecimal.digit? c = some d := by
    rw [Decimal.digit?, Option.ite_none_right_eq_some] at hd
    rw [Hexadecimal.digit?, if_pos hd.1, hd.2]
  rw [digit?, hhex, hd, Option.getD_some]
  simp [hlt]

theorem digits?_of_isDigit {cs : List Char} (hne : cs ≠ []) (h : cs.all Decimal.isDigit = true) :
    digits? 10 cs = some (Decimal.value cs) := by
  have hdigits : cs.mapM (digit? 10) = some (cs.map fun c => (Decimal.digit? c).getD 0) := by
    clear hne
    induction cs with
    | nil => rfl
    | cons c cs ih =>
      rw [List.all_cons, Bool.and_eq_true] at h
      rw [List.mapM_cons, digit?_of_isDigit h.1, ih h.2]
      rfl
  cases cs with
  | nil => exact absurd rfl hne
  | cons c cs =>
    rw [digits?, hdigits]
    simp [Decimal.value, List.foldl_map, Nat.mul_comm]

theorem natural?_digits (n : Nat) : natural? (Decimal.digits n) = some n := by
  have hall := Decimal.all_isDigit_digits n
  have hread := digits?_of_isDigit (Decimal.digits_ne_nil n) hall
  rw [Decimal.value_digits] at hread
  cases hdigits : Decimal.digits n with
  | nil => exact absurd hdigits (Decimal.digits_ne_nil n)
  | cons c cs =>
    rw [hdigits] at hall hread
    by_cases hzero : c = '0'
    · have hone := Decimal.digits_eq_of_head? (n := n) (by rw [hdigits, hzero]; rfl)
      rw [hdigits] at hone
      rw [hone] at hread ⊢
      exact hread
    · have hc : Decimal.isDigit c = true := List.all_eq_true.mp hall c List.mem_cons_self
      have hplus : c ≠ '+' := by
        rintro rfl
        cases hc
      have hminus : c ≠ '-' := by
        rintro rfl
        cases hc
      simp [natural?, basePrefix?, hasLeadingZero, hplus, hminus, hzero, hread]

end Resolution

namespace Reader

variable {α β ρ : Type}

/-- Holds if a reader takes nodes of these kinds, whatever stands behind them, for a value. -/
def Reads (r : Reader α) (kinds : List NodeKind) (a : α) : Prop :=
  ∀ (d : Document) (path : String) ⦃nodes : List Node⦄, nodes.map (·.kind) = kinds →
    ∀ behind, r d path (nodes ++ behind) = .ok (a, behind)

@[simp] theorem resolve_scalar (d : Document) (s : Scalar) (mark : Mark) (behind : List Node) :
    resolve d (⟨.scalar s, mark⟩ :: behind) =
      .ok { node := ⟨.scalar s, mark⟩, inside := behind } := rfl

theorem scalarText_scalar {parse : String → Except String α} {s : Scalar} {a : α}
    (h : parse s.text = .ok a) (expected : String) (d : Document) (path : String) (mark : Mark)
    (behind : List Node) :
    scalarText expected parse d path (⟨.scalar s, mark⟩ :: behind) = .ok (a, behind) := by
  simp [scalarText, h, bind, Except.bind, pure, Except.pure, Resolved.after]

theorem reads_scalarText {parse : String → Except String α} {s : Scalar} {a : α}
    (h : parse s.text = .ok a) (expected : String) :
    (scalarText expected parse).Reads [.scalar s] a := by
  intro d path nodes hnodes behind
  obtain ⟨⟨_, mark⟩, rfl, rfl⟩ := List.map_eq_singleton_iff.mp hnodes
  exact scalarText_scalar h expected d path mark behind

theorem reads_natural {n : Nat} (hn : n < UInt64.size) :
    natural.Reads [.scalar (plainScalar (Decimal.digits n))] n := by
  intro d path nodes hnodes behind
  obtain ⟨⟨_, mark⟩, rfl, rfl⟩ := List.map_eq_singleton_iff.mp hnodes
  simp [natural, plainScalar, mayBeInteger, Resolution.natural?_digits, Option.filter, hn, bind,
    Except.bind, pure, Except.pure, Resolved.after]

theorem elements_words {element : Reader α} {items : List (List Char)} {as : List α}
    (h : List.Forall₂ (fun item a => element.Reads [.scalar (plainScalar item)] a) items as)
    (d : Document) (path : String) {nodes : List Node}
    (hnodes : nodes.map (·.kind) =
      items.map (fun item => .scalar (plainScalar item)) ++ [.sequenceEnd])
    (behind : List Node) {fuel : Nat} (hfuel : nodes.length ≤ fuel) (index : Nat) :
    elements element d path fuel index (nodes ++ behind) = .ok (as, behind) := by
  induction h generalizing nodes fuel index with
  | nil =>
    obtain ⟨⟨_, mark⟩, rfl, rfl⟩ := List.map_eq_singleton_iff.mp hnodes
    obtain ⟨fuel, rfl⟩ := Nat.exists_eq_succ_of_ne_zero (Nat.ne_zero_of_lt hfuel)
    rfl
  | @cons item a items as hfirst _ ih =>
    obtain ⟨⟨_, mark⟩, nodes, rfl, rfl, hmore⟩ := List.map_eq_cons_iff.mp hnodes
    obtain ⟨fuel, rfl⟩ := Nat.exists_eq_succ_of_ne_zero (Nat.ne_zero_of_lt hfuel)
    have hitem : [Node.mk (.scalar (plainScalar item)) mark].map (·.kind) =
      [.scalar (plainScalar item)] := rfl
    have hread := hfirst d (path ++ "[" ++ Decimal.text index ++ "]") hitem (nodes ++ behind)
    have htail := ih hmore (Nat.le_of_succ_le_succ hfuel) (index + 1)
    dsimp only [List.cons_append, List.nil_append] at hread ⊢
    rw [elements]
    simp [next, hread, htail, bind, Except.bind, pure, Except.pure]

/-- A list of words is read as the values of its words, and nothing at all as none. -/
theorem reads_sequence {element : Reader α} {items : List (List Char)} {as : List α}
    (h : List.Forall₂ (fun item a => element.Reads [.scalar (plainScalar item)] a) items as) :
    (sequence element).Reads (BlockValue.list items).nodeKinds as := by
  intro d path nodes hnodes behind
  cases h with
  | nil =>
    obtain ⟨⟨_, mark⟩, rfl, rfl⟩ := List.map_eq_singleton_iff.mp hnodes
    rfl
  | cons hfirst hmore =>
    obtain ⟨⟨_, mark⟩, nodes, rfl, rfl, hinside⟩ := List.map_eq_cons_iff.mp hnodes
    have hlength : nodes.length ≤ (nodes ++ behind).length + 1 := by
      rw [List.length_append]
      omega
    have hread := elements_words (.cons hfirst hmore) d path hinside behind hlength 0
    rw [List.cons_append, sequence]
    simp only [resolve, next, hread, bind, Except.bind, pure, Except.pure, Option.getD_none]

theorem Reads.into {r : Reader α} {kinds : List NodeKind} {a : α} (h : r.Reads kinds a)
    (set : α → ρ → ρ) : (into r set).Reads kinds (set a) := by
  intro d path nodes hnodes behind
  rw [Reader.into, h d path hnodes behind]
  rfl

theorem skip_words (d : Document) {items : List (List Char)} {nodes : List Node}
    (hnodes : nodes.map (·.kind) =
      items.map (fun item => .scalar (plainScalar item)) ++ [.sequenceEnd])
    (behind : List Node) : skip d 1 (nodes ++ behind) = .ok behind := by
  induction items generalizing nodes with
  | nil =>
    obtain ⟨⟨_, mark⟩, rfl, rfl⟩ := List.map_eq_singleton_iff.mp hnodes
    rfl
  | cons item items ih =>
    obtain ⟨⟨_, mark⟩, nodes, rfl, rfl, hmore⟩ := List.map_eq_cons_iff.mp hnodes
    rw [List.cons_append, skip]
    exact ih hmore

theorem skip_value (d : Document) {v : BlockValue} {nodes : List Node}
    (hnodes : nodes.map (·.kind) = v.nodeKinds) (behind : List Node) :
    skip d 0 (nodes ++ behind) = .ok behind := by
  match v with
  | .word _ | .list [] =>
    obtain ⟨⟨_, mark⟩, rfl, rfl⟩ := List.map_eq_singleton_iff.mp hnodes
    rfl
  | .list (item :: items) =>
    obtain ⟨⟨_, mark⟩, nodes, rfl, rfl, hinside⟩ := List.map_eq_cons_iff.mp hnodes
    rw [List.cons_append, skip]
    exact skip_words d hinside behind

/-- What an entry changes in a record: what its field says, or nothing if there is none. -/
inductive Changes (fields : List (Field ρ)) (e : BlockEntry) : (ρ → ρ) → Prop
  | known {field : Field ρ} {set : ρ → ρ}
      (hfield : fields.find? (·.name == .ofList e.key) = some field)
      (hread : field.read.Reads e.value.nodeKinds set) : Changes fields e set
  | unknown (hfield : fields.find? (·.name == .ofList e.key) = none) : Changes fields e id

variable {fields : List (Field ρ)} {field : Field ρ} {d : Document} {path : String} {start : Node}
  {s : Scalar} {rest behind : List Node} {seen : List String}

theorem members_known {set : ρ → ρ} (hfield : fields.find? (·.name == s.text) = some field)
    (hnew : s.text ∉ seen)
    (hread : field.read d (memberPath path (.scalar s)) rest = .ok (set, behind)) (mark : Mark)
    (fuel : Nat) (r : ρ) :
    members fields d path start (fuel + 1) seen r (⟨.scalar s, mark⟩ :: rest) =
      members fields d path start fuel (s.text :: seen) (set r) behind := by
  have hname : scalarText "field identifier" .ok d path (⟨.scalar s, mark⟩ :: rest) =
      .ok (s.text, rest) := scalarText_scalar rfl _ d path mark rest
  rw [members]
  simp [next, hname, hfield, hnew, hread, bind, Except.bind]

theorem members_unknown (hfield : fields.find? (·.name == s.text) = none)
    (hskip : skip d 0 rest = .ok behind) (mark : Mark) (fuel : Nat) (r : ρ) :
    members fields d path start (fuel + 1) seen r (⟨.scalar s, mark⟩ :: rest) =
      members fields d path start fuel seen r behind := by
  have hname : scalarText "field identifier" .ok d path (⟨.scalar s, mark⟩ :: rest) =
      .ok (s.text, rest) := scalarText_scalar rfl _ d path mark rest
  rw [members]
  simp [next, hname, hfield, hskip, bind, Except.bind]

theorem Changes.of_reads {e : BlockEntry} {name : String} {r : Reader α} {set : α → ρ → ρ} {a : α}
    (hfield : fields.find? (·.name == .ofList e.key) = some ⟨name, into r set⟩)
    (hread : r.Reads e.value.nodeKinds a) : Changes fields e (set a) :=
  .known hfield (hread.into set)

theorem members_entries {fields : List (Field ρ)} {es : List BlockEntry} {sets : List (ρ → ρ)}
    (h : List.Forall₂ (Changes fields) es sets) (hkeys : (es.map (·.key)).Nodup) (d : Document)
    (path : String) (start : Node) {nodes : List Node}
    (hnodes : nodes.map (·.kind) = es.flatMap BlockEntry.nodeKinds ++ [.mappingEnd])
    {fuel : Nat} (hfuel : nodes.length ≤ fuel) {seen : List String}
    (hseen : ∀ e ∈ es, .ofList e.key ∉ seen) (r : ρ) :
    members fields d path start fuel seen r nodes =
      .ok (sets.foldl (fun r set => set r) r, []) := by
  induction h generalizing nodes fuel seen r with
  | nil =>
    obtain ⟨⟨_, mark⟩, rfl, rfl⟩ := List.map_eq_singleton_iff.mp hnodes
    obtain ⟨fuel, rfl⟩ := Nat.exists_eq_succ_of_ne_zero (Nat.ne_zero_of_lt hfuel)
    rfl
  | @cons e set es sets hfirst _ ih =>
    rw [List.flatMap_cons, List.append_assoc] at hnodes
    obtain ⟨⟨_, mark⟩, _, rfl, rfl, hrest⟩ := List.map_eq_cons_iff.mp hnodes
    obtain ⟨value, nodes, rfl, hvalue, hmore⟩ := List.map_eq_append_iff.mp hrest
    obtain ⟨fuel, rfl⟩ := Nat.exists_eq_succ_of_ne_zero (Nat.ne_zero_of_lt hfuel)
    obtain ⟨hkey, hkeys⟩ := List.nodup_cons.mp hkeys
    obtain ⟨hnew, hseen⟩ := List.forall_mem_cons.mp hseen
    have hless : nodes.length ≤ fuel := by
      simp only [List.length_cons, List.length_append] at hfuel
      omega
    cases hfirst with
    | known hfield hread =>
      rw [members_known hfield hnew (hread d _ hvalue nodes)]
      apply ih hkeys hmore hless
      intro other hother hmem
      rcases List.mem_cons.mp hmem with heq | hmem
      · apply hkey
        exact List.mem_map.mpr ⟨other, hother, String.ofList_injective heq⟩
      · exact hseen other hother hmem
    | unknown hfield =>
      rw [members_unknown hfield (skip_value d hvalue nodes)]
      exact ih hkeys hmore hless hseen r

theorem record_entries {es : List BlockEntry} {sets : List (ρ → ρ)}
    (h : List.Forall₂ (Changes fields) es sets) (hkeys : (es.map (·.key)).Nodup)
    {nodes : List Node} (hnodes : nodes.map (·.kind) = mappingKinds es) (expected : String)
    (defaults : ρ) :
    record expected fields defaults { nodes } = .ok (sets.foldl (fun r set => set r) defaults) := by
  obtain ⟨⟨_, mark⟩, nodes, rfl, rfl, hentries⟩ := List.map_eq_cons_iff.mp hnodes
  have hseen : ∀ e ∈ es, .ofList e.key ∉ ([] : List String) := fun _ _ => List.not_mem_nil
  have hmembers := members_entries h hkeys { nodes := ⟨.mappingStart, mark⟩ :: nodes } ""
    ⟨.mappingStart, mark⟩ hentries (Nat.le_succ nodes.length) hseen defaults
  simp [record, hmembers, bind, Except.bind, pure, Except.pure]

/-- The text of a block mapping is read as a record that has, for every key it knows, the value
behind that, and its default for the others. -/
theorem record_ofText {e : BlockEntry} {es : List BlockEntry} {sets : List (ρ → ρ)}
    (hplain : ∀ entry ∈ e :: es, entry.IsPlain) (h : List.Forall₂ (Changes fields) (e :: es) sets)
    (hkeys : ((e :: es).map (·.key)).Nodup) (expected : String) (defaults : ρ) :
    record expected fields defaults (.ofText (.ofList ((e :: es).flatMap BlockEntry.chars))) =
      .ok (sets.foldl (fun r set => set r) defaults) := by
  obtain ⟨nodes, hnodes, htext⟩ := Document.ofText_entries hplain
  rw [htext]
  exact record_entries h hkeys hnodes expected defaults

end Reader

end Reachability.Yaml
