import Mathlib.Data.List.Forall2
import Reachability.Yaml.Reader

/-!
# Records read side by side

Two records that are read from one document, with the same keys and the same kinds of values,
meet the same fault or both are read. What holds between their defaults, and is kept by every
value that is read, holds between the records.
-/
namespace Reachability.Yaml

/-- Holds if two results are one fault, or values that go together. -/
inductive Alike {ε α β : Type} (R : α → β → Prop) : Except ε α → Except ε β → Prop
  | ok {a : α} {b : β} (h : R a b) : Alike R (.ok a) (.ok b)
  | error (e : ε) : Alike R (.error e) (.error e)

theorem Alike.bind {ε α β γ δ : Type} {R : α → β → Prop} {S : γ → δ → Prop} {x : Except ε α}
    {y : Except ε β} {f : α → Except ε γ} {g : β → Except ε δ} (h : Alike R x y)
    (hnext : ∀ a b, R a b → Alike S (f a) (g b)) : Alike S (x >>= f) (y >>= g) := by
  cases h with
  | ok h => exact hnext _ _ h
  | error e => exact .error e

theorem alike_refl {ε α : Type} (x : Except ε α) : Alike Eq x x := by
  cases x with
  | ok a => exact .ok rfl
  | error e => exact .error e

namespace Reader

variable {α ρ σ : Type} {R : ρ → σ → Prop}

def Paired (R : α → β → Prop) (x : α × List Node) (y : β × List Node) : Prop :=
  R x.1 y.1 ∧ x.2 = y.2

/-- Holds if two changes lead from records that go together to such records. -/
def Keeps (R : ρ → σ → Prop) (f : ρ → ρ) (g : σ → σ) : Prop := ∀ r s, R r s → R (f r) (g s)

/-- Holds if two fields of one name are read alike, and their values keep records together. -/
structure Field.Alike (R : ρ → σ → Prop) (field : Field ρ) (other : Field σ) : Prop where
  name : field.name = other.name
  read : ∀ d path nodes,
    Yaml.Alike (Paired (Keeps R)) (field.read d path nodes) (other.read d path nodes)

def Yields (r : Reader α) (P : α → Prop) : Prop :=
  ∀ ⦃d path nodes a rest⦄, r d path nodes = .ok (a, rest) → P a

theorem Field.alike_into {name : String} {r : Reader α} {set : α → ρ → ρ} {put : α → σ → σ}
    {P : α → Prop} (hr : r.Yields P) (h : ∀ a, P a → Keeps R (set a) (put a)) :
    Field.Alike R ⟨name, into r set⟩ ⟨name, into r put⟩ := by
  refine ⟨rfl, ?_⟩
  intro d path nodes
  dsimp only [into]
  cases hread : r d path nodes with
  | error e => exact .error e
  | ok x => exact .ok ⟨h x.1 (hr hread), rfl⟩

variable {fields : List (Field ρ)} {others : List (Field σ)}

theorem find?_alike (h : List.Forall₂ (Field.Alike R) fields others) (name : String) :
    Option.Rel (Field.Alike R) (fields.find? (·.name == name)) (others.find? (·.name == name)) := by
  induction h with
  | nil => exact .none
  | @cons field other fields others hfirst _ ih =>
    by_cases hname : other.name = name
    · simpa [List.find?_cons, hfirst.name, hname] using Option.Rel.some hfirst
    · simpa [List.find?_cons, hfirst.name, hname] using ih

/-- The keys and values of a mapping are read alike. The induction is on the nodes that may
still be read, as the fuel counts them. -/
theorem members_alike (h : List.Forall₂ (Field.Alike R) fields others) (d : Document)
    (path : String) (start : Node) (fuel : Nat) (seen : List String) {r : ρ} {s : σ}
    (hr : R r s) (nodes : List Node) :
    Alike (Paired R) (members fields d path start fuel seen r nodes)
      (members others d path start fuel seen s nodes) := by
  induction fuel generalizing seen r s nodes with
  | zero => exact .ok ⟨hr, rfl⟩
  | succ fuel ih =>
    rw [members, members]
    refine (alike_refl (next d nodes)).bind ?_
    rintro ⟨node, rest⟩ _ rfl
    by_cases hend : node.kind == .mappingEnd
    · simp only [hend, if_true]
      exact .ok ⟨hr, rfl⟩
    · simp only [hend]
      refine (alike_refl (scalarText "field identifier" .ok d path nodes)).bind ?_
      rintro ⟨name, rest⟩ _ rfl
      have hfind := find?_alike h name
      dsimp only
      generalize fields.find? (·.name == name) = found at hfind ⊢
      generalize others.find? (·.name == name) = found' at hfind ⊢
      cases hfind with
      | none =>
        refine (alike_refl (skip d 0 rest)).bind ?_
        rintro rest _ rfl
        exact ih seen hr rest
      | some hfield =>
        dsimp only
        by_cases hseen : seen.contains name
        · simp only [hseen, if_true]
          exact .error _
        · simp only [hseen]
          refine (hfield.read d (memberPath path node.kind) rest).bind ?_
          rintro ⟨set, rest⟩ ⟨put, _⟩ ⟨hkeeps, rfl⟩
          exact ih (name :: seen) (hkeeps r s hr) rest

def finish (d : Document) (value : ρ) : Except Error ρ :=
  match d.fault with
  | some fault => .error fault
  | none => if d.isOnly then .ok value else .error .severalDocuments

theorem finish_alike (d : Document) {r : ρ} {s : σ} (hr : R r s) :
    Alike R (finish d r) (finish d s) := by
  unfold finish
  cases d.fault with
  | some fault => exact .error fault
  | none =>
    by_cases honly : d.isOnly
    · simp only [honly, if_true]
      exact .ok hr
    · simp only [honly]
      exact .error _

/-- A document is read as two records alike. -/
theorem record_alike (h : List.Forall₂ (Field.Alike R) fields others) (expected : String)
    {defaults : ρ} {base : σ} (hdefaults : R defaults base) (d : Document) :
    Alike R (record expected fields defaults d) (record expected others base d) := by
  have hfinish := finish_alike d hdefaults
  unfold record
  cases d.nodes with
  | nil =>
    cases hfault : d.fault with
    | none =>
      rw [finish, finish, hfault] at hfinish
      exact hfinish
    | some fault => exact .error fault
  | cons node nodes =>
    dsimp only
    cases node.kind with
    | mappingStart =>
      refine (members_alike h d "" node (nodes.length + 1) [] hdefaults nodes).bind ?_
      intro x y hxy
      exact finish_alike d hxy.1
    | scalar s =>
      dsimp only
      by_cases habsent : s.isAbsent
      · simp only [habsent, if_true]
        exact hfinish
      · simp only [habsent]
        exact .error _
    | _ => exact .error _

end Reader

end Reachability.Yaml
