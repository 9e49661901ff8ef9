import Mathlib.Data.List.Basic
import Reachability.Yaml.Document

/-!
# Words on the lines of a document

A block mapping at the margin is written with one key on each line, and behind it a word or, on
lines of their own, a list of words. A word has no blanks and is a plain scalar up to the colon
or the break behind it.
-/
namespace Reachability.Yaml

/-- Holds of a text without blanks that may stand on a line as a plain scalar. -/
structure IsWord (cs : List Char) : Prop where
  head : ∃ c ∈ cs.head?, c.isAlphanum = true
  chars : ∀ c ∈ cs, endsWord (some c) = false ∧ Document.mayHold c = true
  last : cs.getLast? ≠ some ':'

theorem isWord_iff {cs : List Char} :
    IsWord cs ↔ (cs.head?.any Char.isAlphanum &&
      cs.all (fun c => !endsWord (some c) && Document.mayHold c) &&
      cs.getLast? != some ':') = true := by
  simp only [Bool.and_eq_true, Option.any_eq_true, List.all_eq_true, Bool.not_eq_true', bne_iff_ne]
  exact ⟨fun ⟨head, chars, last⟩ => ⟨⟨head, chars⟩, last⟩,
    fun ⟨⟨head, chars⟩, last⟩ => ⟨head, chars, last⟩⟩

instance : DecidablePred IsWord := fun _ => decidable_of_iff _ isWord_iff.symm

theorem IsWord.ne_nil {cs : List Char} (h : IsWord cs) : cs ≠ [] := by
  rintro rfl
  obtain ⟨x, hx, -⟩ := h.head
  cases hx

theorem IsWord.head?_append {cs : List Char} (h : IsWord cs) (rest : List Char) :
    ∃ x, (cs ++ rest).head? = some x ∧ x.isAlphanum = true := by
  obtain ⟨x, hx, hx'⟩ := h.head
  refine ⟨x, ?_, hx'⟩
  rw [List.head?_append, Option.mem_def.mp hx]
  rfl

/-- What may stand behind the colon of a key: a word, or words on lines of their own. -/
inductive BlockValue
  | word (cs : List Char)
  | list (items : List (List Char))

def plainKind (cs : List Char) : TokenKind := .scalar .plain (.ofList cs)

namespace BlockValue

def itemChars (item : List Char) : List Char := '-' :: ' ' :: (item ++ ['\n'])

/-- The lines of a value, from behind the colon on. -/
def chars : BlockValue → List Char
  | .word cs => ' ' :: (cs ++ ['\n'])
  | .list items => '\n' :: items.flatMap itemChars

def itemKinds (item : List Char) : List TokenKind := [.blockEntry, plainKind item]

def tokenKinds : BlockValue → List TokenKind
  | .word cs => [plainKind cs]
  | .list items => items.flatMap itemKinds

def HasWords : BlockValue → Prop
  | .word cs => IsWord cs
  | .list items => ∀ item ∈ items, IsWord item

end BlockValue

structure BlockEntry where
  key : List Char
  value : BlockValue

namespace BlockEntry

def chars (e : BlockEntry) : List Char := e.key ++ ':' :: e.value.chars

def tokenKinds (e : BlockEntry) : List TokenKind :=
  .key :: plainKind e.key :: .value :: e.value.tokenKinds

/-- Holds if key and value consist of words, and the key is not too long for one. -/
structure IsPlain (e : BlockEntry) : Prop where
  key : IsWord e.key
  length : e.key.length ≤ 1024
  value : e.value.HasWords

theorem head?_entries {e : BlockEntry} (he : e.IsPlain) (es : List BlockEntry) :
    ∃ x, ((e :: es).flatMap chars).head? = some x ∧ x.isAlphanum = true := by
  rw [List.flatMap_cons, chars, List.append_assoc]
  exact he.key.head?_append _

end BlockEntry

def BeginsLine (rest : List Char) : Prop := ∀ c ∈ rest.head?, endsWord (some c) = false

theorem ne_of_isAlphanum {c x : Char} (hc : c.isAlphanum = true) (hx : x.isAlphanum = false) :
    c ≠ x := by
  rintro rfl
  rw [hc] at hx
  cases hx

theorem endsWord_of_isAlphanum {x : Char} (hx : x.isAlphanum = true) :
    endsWord (some x) = false := by
  have hne (y : Char) (hy : y.isAlphanum = false) : x ≠ y := ne_of_isAlphanum hx hy
  simp [endsWord, isSpace, isBreak, isSeparator, hne]

theorem mayHold_of_isAlphanum {c : Char} (hc : c.isAlphanum = true) :
    Document.mayHold c = true := by
  have hcases : (decide (c.val ≥ 'A'.val ∧ c.val ≤ 'Z'.val) ||
      (decide (c.val ≥ 'a'.val) && decide (c.val ≤ 'z'.val)) ||
      (decide (c.val ≥ '0'.val) && decide (c.val ≤ '9'.val))) = true := hc
  simp only [Bool.or_eq_true, Bool.and_eq_true, decide_eq_true_eq, ge_iff_le,
    UInt32.le_iff_toNat_le, UInt32.reduceToNat, Char.reduceVal, Char.toNat_val] at hcases
  have hrange : 0x20 ≤ c.toNat ∧ c.toNat ≤ 0x7E := by omega
  simp [Document.mayHold, hrange]

theorem isWord_of_isAlphanum {cs : List Char} (hne : cs ≠ [])
    (h : ∀ c ∈ cs, c.isAlphanum = true) : IsWord cs := by
  refine ⟨?_, ?_, ?_⟩
  · exact ⟨cs.head hne, List.head?_eq_some_head hne, h _ (List.head_mem hne)⟩
  · intro c hc
    exact ⟨endsWord_of_isAlphanum (h c hc), mayHold_of_isAlphanum (h c hc)⟩
  · intro hlast
    have hcolon := h _ (List.mem_of_getLast? hlast)
    cases hcolon

namespace Cursor

theorem isLineOf_of_head {c : Cursor} {x : Char} (h : c.head? ≠ some x) : c.isLineOf x = false := by
  obtain ⟨rest, mark⟩ := c
  cases rest with
  | nil => simp [isLineOf]
  | cons y rest =>
    have hne : x ≠ y := by
      rintro rfl
      exact h rfl
    simp [isLineOf, List.isPrefixOf, hne]

section

variable {c : Cursor} {x y : Char} (hx : x.isAlphanum = true) (h : c.head? = some x)
include hx h

theorem isLineOf_of_isAlphanum (hy : y.isAlphanum = false) : c.isLineOf y = false := by
  apply isLineOf_of_head
  rw [h]
  exact fun heq => ne_of_isAlphanum hx hy (Option.some_inj.mp heq)

theorem isDocumentIndicator_of_isAlphanum : c.isDocumentIndicator = false := by
  rw [isDocumentIndicator, isLineOf_of_isAlphanum hx h (by decide),
    isLineOf_of_isAlphanum hx h (by decide)]
  rfl

theorem isAt_of_isAlphanum (hy : y.isAlphanum = false) : c.isAt y = false := by
  rw [isAt, h]
  exact beq_eq_false_iff_ne.mpr fun heq => ne_of_isAlphanum hx hy (Option.some_inj.mp heq)

end

variable {rest : List Char}

theorem gap_of_beginsLine (h : BeginsLine rest) (mark : Mark) :
    gap rest mark = ([], [], ⟨rest, mark⟩) := by
  unfold gap
  split
  · simp [BeginsLine, endsWord, isSpace, isBreak] at h
  · next x cs _ =>
    have hx := h x rfl
    simp only [endsWord, Bool.or_eq_false_iff] at hx
    simp [hx]
  · rfl

theorem tabBefore?_of_beginsLine (h : BeginsLine rest) (column : Nat) (afterBreak : Bool)
    (mark : Mark) : tabBefore? column afterBreak rest mark = none := by
  unfold tabBefore?
  split
  · simp [BeginsLine, endsWord, isSpace, isBreak] at h
  · next x cs _ =>
    have hx := h x rfl
    simp only [endsWord, Bool.or_eq_false_iff] at hx
    simp [hx]
  · rfl

theorem takeBreak?_eq_none {x : Char} (h : isBreak x = false) (mark : Mark) :
    takeBreak? ⟨x :: rest, mark⟩ = none := by
  unfold takeBreak?
  split
  · next heq =>
    cases heq
    cases h
  · next heq =>
    cases heq
    rw [if_neg (by simp [h])]
  · next heq => cases heq

end Cursor

namespace Token

variable {word rest : List Char}

/-- A word ends where a blank or a line break follows it, or a colon in front of these. -/
theorem plainWord_word (hchars : ∀ c ∈ word, endsWord (some c) = false)
    (hlast : word.getLast? ≠ some ':') {c : Char} {cs : List Char}
    (hrest : endsPlain false c cs.head? = true) :
    plainWord false (word ++ c :: cs) = word := by
  induction word with
  | nil => simp [plainWord, hrest]
  | cons x word ih =>
    have hx := hchars x List.mem_cons_self
    have hnot : endsPlain false x (word ++ c :: cs).head? = false := by
      cases word with
      | nil =>
        have hcolon : x ≠ ':' := by simpa using hlast
        simp [endsPlain, isStrayColon, hx, hcolon]
      | cons y word =>
        have hy := hchars y (by simp)
        simp [endsPlain, isStrayColon, hx, hy]
    have hlast' : word.getLast? ≠ some ':' := by
      cases word with
      | nil => simp
      | cons y word => simpa using hlast
    rw [List.cons_append, plainWord, hnot, if_neg Bool.false_ne_true,
      ih (fun d hd => hchars d (List.mem_cons_of_mem _ hd)) hlast']

theorem plain_before_colon (h : IsWord word) (column : Nat) (mark : Mark) {y : Char}
    (hy : endsWord (some y) = true) :
    plain false column ⟨word ++ ':' :: y :: rest, mark⟩ =
      .ok (⟨plainKind word, mark, (Cursor.skip ⟨word ++ ':' :: y :: rest, mark⟩ word.length).mark⟩,
        false, Cursor.skip ⟨word ++ ':' :: y :: rest, mark⟩ word.length) := by
  obtain ⟨x, hhead, hx⟩ := h.head?_append (':' :: y :: rest)
  have hindicator := Cursor.isDocumentIndicator_of_isAlphanum
    (c := ⟨word ++ ':' :: y :: rest, mark⟩) hx hhead
  have hhash := Cursor.isAt_of_isAlphanum (c := ⟨word ++ ':' :: y :: rest, mark⟩) (y := '#') hx
    hhead (by decide)
  have hends : endsPlain false ':' (y :: rest).head? = true := by simp [endsPlain, hy]
  have hword := plainWord_word (fun c hc => (h.chars c hc).1) h.last hends
  simp only [plain, plainText, hindicator, hhash, hword]
  simp [Cursor.skip, h.ne_nil, endsWord, isSpace, isBreak, isSeparator, isStrayColon, plainKind,
    bind, Except.bind, pure, Except.pure]

/-- A word at the end of its line is read together with the break behind it. -/
theorem plain_before_break (h : IsWord word) {column : Nat} (hcolumn : 0 < column) (mark : Mark)
    (hrest : BeginsLine rest) :
    ∃ finish, plain false column ⟨word ++ '\n' :: rest, mark⟩ =
      .ok (⟨plainKind word, mark, finish⟩, true,
        ⟨rest, Cursor.newLine (Cursor.skip ⟨word ++ '\n' :: rest, mark⟩ word.length).mark 1⟩) := by
  obtain ⟨x, hhead, hx⟩ := h.head?_append ('\n' :: rest)
  have hindicator := Cursor.isDocumentIndicator_of_isAlphanum
    (c := ⟨word ++ '\n' :: rest, mark⟩) hx hhead
  have hhash := Cursor.isAt_of_isAlphanum (c := ⟨word ++ '\n' :: rest, mark⟩) (y := '#') hx
    hhead (by decide)
  have hends : endsPlain false '\n' rest.head? = true := by simp [endsPlain, endsWord, isBreak]
  have hword := plainWord_word (fun c hc => (h.chars c hc).1) h.last hends
  have hbreak : isBreak '\n' = true := rfl
  have hgap (m : Mark) : Cursor.gap ('\n' :: rest) m =
      ([], ['\n'], ⟨rest, Cursor.newLine m 1⟩) := by
    simp [Cursor.gap, hbreak, Cursor.gap_of_beginsLine hrest, normalBreak, isSeparator]
  have htab (m : Mark) : Cursor.tabBefore? column false ('\n' :: rest) m = none := by
    simp [Cursor.tabBefore?, hbreak, Cursor.tabBefore?_of_beginsLine hrest]
  simp only [plain, plainText, hindicator, hhash, hword]
  refine ⟨(Cursor.skip ⟨word ++ '\n' :: rest, mark⟩ word.length).mark, ?_⟩
  simp [Cursor.skip, h.ne_nil, endsWord, isSpace, isBreak, isSeparator, isStrayColon, plainKind,
    bind, Except.bind, pure, Except.pure, hgap, htab, Cursor.newLine, hcolumn]

end Token

end Reachability.Yaml
