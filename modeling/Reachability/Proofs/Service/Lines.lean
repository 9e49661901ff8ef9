import Reachability.Service.Grammar

/-!
# Lines of a request

The texts of a request are made of visible ASCII and blanks, which end no line and are read as
they were written. A head is complete with the empty line behind its lines, however its bytes
have come in.
-/
namespace Reachability.Service

open Message

/-! ## Characters -/

def IsVisible (c : Char) : Prop := 0x21 ≤ c.toNat ∧ c.toNat < 0x7F

instance : DecidablePred IsVisible := fun _ => inferInstanceAs (Decidable (_ ∧ _))

/-- Holds of characters that end no line. -/
def IsInline (c : Char) : Prop := IsVisible c ∨ isBlank c = true

instance : DecidablePred IsInline := fun _ => inferInstanceAs (Decidable (_ ∨ _))

theorem forall_mem_of_all {p : Char → Prop} [DecidablePred p] {cs : List Char}
    (h : cs.all (fun c => decide (p c)) = true) : ∀ c ∈ cs, p c := by
  simpa using h

theorem isVisible_of_isAlphanum {c : Char} (h : c.isAlphanum = true) :
    IsVisible c ∧ c ∉ "?#:[]".toList := by
  have hrange : 0x30 ≤ c.toNat ∧ c.toNat < 0x3A ∨ 0x41 ≤ c.toNat ∧ c.toNat < 0x5B ∨
      0x61 ≤ c.toNat ∧ c.toNat < 0x7B := by
    rcases Bool.or_eq_true_iff.mp h with hletter | hdigit
    · rcases Bool.or_eq_true_iff.mp hletter with hupper | hlower
      · have hbounds : 0x41 ≤ c.toNat ∧ c.toNat ≤ 0x5A := of_decide_eq_true hupper
        omega
      · have hbounds : 0x61 ≤ c.toNat ∧ c.toNat ≤ 0x7A :=
          (Bool.and_eq_true_iff.mp hlower).imp of_decide_eq_true of_decide_eq_true
        omega
    · have hbounds : 0x30 ≤ c.toNat ∧ c.toNat ≤ 0x39 :=
        (Bool.and_eq_true_iff.mp hdigit).imp of_decide_eq_true of_decide_eq_true
      omega
  refine ⟨⟨by omega, by omega⟩, fun hmem => ?_⟩
  have hother : ∀ d ∈ "?#:[]".toList, ¬ (0x30 ≤ d.toNat ∧ d.toNat < 0x3A ∨
      0x41 ≤ d.toNat ∧ d.toNat < 0x5B ∨ 0x61 ≤ d.toNat ∧ d.toNat < 0x7B) :=
    forall_mem_of_all (by decide)
  exact hother c hmem hrange

theorem isVisible_of_isTokenChar {c : Char} (h : isTokenChar c = true) :
    IsVisible c ∧ c ≠ ':' ∧ c ≠ ',' := by
  rw [isTokenChar, Bool.or_eq_true, List.contains_iff_mem] at h
  rcases h with h | h
  · obtain ⟨hvisible, hother⟩ := isVisible_of_isAlphanum h
    refine ⟨hvisible, fun hc => hother (hc ▸ by decide), fun hc => ?_⟩
    subst hc
    revert h
    decide
  · exact forall_mem_of_all (p := fun c => IsVisible c ∧ c ≠ ':' ∧ c ≠ ',') (by decide) c h

theorem isVisible_of_isPathChar {c : Char} (h : IsPathChar c) :
    IsVisible c ∧ c ≠ '?' ∧ c ≠ '#' := by
  rcases h with h | h
  · obtain ⟨hvisible, hother⟩ := isVisible_of_isAlphanum h
    exact ⟨hvisible, fun hc => hother (hc ▸ by decide), fun hc => hother (hc ▸ by decide)⟩
  · exact forall_mem_of_all (p := fun c => IsVisible c ∧ c ≠ '?' ∧ c ≠ '#') (by decide) c h

theorem isBlank_eq_false {c : Char} (h : IsVisible c) : Message.isBlank c = false := by
  have hne : c ≠ ' ' ∧ c ≠ '\t' := by
    refine ⟨?_, ?_⟩ <;> rintro rfl <;> revert h <;> decide
  simp [Message.isBlank, hne]

theorem IsInline.toNat {c : Char} (h : IsInline c) :
    c.toNat = 0x09 ∨ 0x20 ≤ c.toNat ∧ c.toNat < 0x7F := by
  rcases h with ⟨hlow, hhigh⟩ | h
  · exact .inr ⟨by omega, hhigh⟩
  · rw [Message.isBlank, Bool.or_eq_true, beq_iff_eq, beq_iff_eq] at h
    rcases h with rfl | rfl <;> decide

theorem isInline_of_all {cs : List Char} (h : cs.all Message.isBlank = true) :
    ∀ c ∈ cs, IsInline c :=
  fun c hc => .inr (List.all_eq_true.mp h c hc)

theorem ascii_append (cs ds : List Char) : ascii (cs ++ ds) = ascii cs ++ ascii ds :=
  List.map_append

theorem chars_append (as bs : List UInt8) : chars (as ++ bs) = chars as ++ chars bs :=
  List.map_append

theorem chars_ascii {cs : List Char} (h : ∀ c ∈ cs, IsInline c) : chars (ascii cs) = cs := by
  rw [chars, ascii, List.map_map]
  refine (List.map_congr_left fun c hc => ?_).trans (List.map_id cs)
  have hrange := (h c hc).toNat
  have hmod : c.toNat % 256 = c.toNat := Nat.mod_eq_of_lt (by omega)
  simp [UInt8.toNat_ofNat', hmod]

theorem ascii_chars (bs : List UInt8) : ascii (chars bs) = bs := by
  rw [ascii, chars, List.map_map]
  refine (List.map_congr_left fun b _ => ?_).trans (List.map_id bs)
  have hvalid : b.toNat.isValidChar := .inl (Nat.lt_trans b.toNat_lt (by decide))
  have hnat : (Char.ofNat b.toNat).toNat = b.toNat := by
    rw [Char.ofNat, dif_pos hvalid]
    rfl
  exact (congrArg UInt8.ofNat hnat).trans UInt8.ofNat_toNat

theorem isFieldValue_ascii {cs : List Char} (h : ∀ c ∈ cs, IsInline c) :
    IsFieldValue (ascii cs) := by
  intro b hb
  obtain ⟨c, hc, rfl⟩ := List.mem_map.mp hb
  have hrange := (h c hc).toNat
  have hnat : (UInt8.ofNat c.toNat).toNat = c.toNat := by
    rw [UInt8.toNat_ofNat', Nat.mod_eq_of_lt (by omega)]
  rw [← UInt8.toNat_inj, ne_eq, ← UInt8.toNat_inj, hnat]
  rcases hrange with htab | ⟨hlow, hhigh⟩
  · exact .inl htab
  · exact .inr ⟨hlow, Nat.ne_of_lt hhigh⟩

theorem not_mem_of_isFieldValue {value : List UInt8} (h : IsFieldValue value) :
    0x0A ∉ value ∧ 0x0D ∉ value := by
  refine ⟨?_, ?_⟩ <;> intro hmem <;> rcases h _ hmem with hblank | ⟨hlow, -⟩
  · cases hblank
  · revert hlow
    decide
  · cases hblank
  · revert hlow
    decide

theorem not_mem_ascii {cs : List Char} (h : ∀ c ∈ cs, IsInline c) :
    0x0A ∉ ascii cs ∧ 0x0D ∉ ascii cs :=
  not_mem_of_isFieldValue (isFieldValue_ascii h)

/-! ## Bytes and lines -/

namespace Phase

variable {p q : Phase} {as bs line : List UInt8} {arrived : List Incoming}

theorem feed_append_of_eq (h : p.feed as = (q, arrived)) (bs : List UInt8) :
    p.feed (as ++ bs) = ((q.feed bs).1, arrived ++ (q.feed bs).2) := by
  rw [feed_append, h]

/-- Where nothing has arrived the rest of the bytes is taken as if it were all. -/
theorem feed_append_of_quiet (h : p.feed as = (q, [])) (bs : List UInt8) :
    p.feed (as ++ bs) = q.feed bs :=
  feed_append_of_eq h bs

theorem lineOf_reverse (line : List UInt8) : lineOf (0x0D :: line.reverse) = line := by
  simp [lineOf]

theorem wholeLine?_eq_some {seen : List UInt8} :
    wholeLine? seen = some line ↔ seen = 0x0D :: line.reverse ∧ 0x0D ∉ line := by
  cases seen with
  | nil => simp [wholeLine?]
  | cons b seen =>
    by_cases hb : b = 0x0D
    · subst hb
      by_cases hmem : 0x0D ∈ seen
      · simp only [wholeLine?, List.contains_iff_mem.mpr hmem, if_true, List.cons.injEq, true_and]
        refine ⟨by rintro ⟨⟩, ?_⟩
        rintro ⟨rfl, hline⟩
        exact absurd (List.mem_reverse.mp hmem) hline
      · simp only [wholeLine?, List.contains_eq_mem, hmem, decide_false, Bool.false_eq_true,
          if_false, Option.some.injEq, List.cons.injEq, true_and]
        constructor
        · rintro rfl
          simpa using hmem
        · rintro ⟨rfl, -⟩
          simp
    · have hnone : wholeLine? (b :: seen) = none := by
        unfold wholeLine?
        split
        · next heq => exact absurd (List.cons.inj heq).1 hb
        · rfl
      simp [hnone, hb]

theorem feed_gather {gather : List UInt8 → Phase}
    (hgather : ∀ seen b, b ≠ 0x0A → (gather seen).step b = (gather (b :: seen), []))
    (h : 0x0A ∉ line) (seen : List UInt8) :
    (gather seen).feed line = (gather (line.reverse ++ seen), []) := by
  induction line generalizing seen with
  | nil => rfl
  | cons b line ih =>
    obtain ⟨hb, hline⟩ := not_or.mp (mt List.mem_cons.mpr h)
    simp [feed, hgather seen b (Ne.symm hb), ih hline]

theorem feed_line {gather : List UInt8 → Phase}
    (hgather : ∀ seen b, b ≠ 0x0A → (gather seen).step b = (gather (b :: seen), []))
    (h : 0x0A ∉ line) :
    (gather []).feed (line ++ lineEnd) = (gather (0x0D :: line.reverse)).step 0x0A := by
  have hline := feed_gather hgather h []
  rw [List.append_nil] at hline
  rw [feed_append_of_quiet hline]
  simp [lineEnd, feed, hgather line.reverse 0x0D (by decide)]

/-- Lines of a head are kept, the last one first. -/
theorem feed_lines {lines : List (List UInt8)} (h : ∀ line ∈ lines, line ≠ [] ∧ 0x0A ∉ line)
    (seen : List (List UInt8)) :
    (head seen []).feed (lines.flatMap (· ++ lineEnd)) =
      (head (lines.reverse ++ seen) [], []) := by
  induction lines generalizing seen with
  | nil => rfl
  | cons line lines ih =>
    obtain ⟨⟨hne, hline⟩, hlines⟩ := List.forall_mem_cons.mp h
    have hfirst : (head seen []).feed (line ++ lineEnd) = (head (line :: seen) [], []) := by
      rw [feed_line (fun line b hb => by simp [step, hb]) hline]
      simp [step, lineOf_reverse, headLine, hne]
    rw [List.flatMap_cons, feed_append_of_quiet hfirst, ih hlines]
    simp

theorem feed_head {lines : List (List UInt8)} (h : ∀ line ∈ lines, line ≠ [] ∧ 0x0A ∉ line)
    (hlines : lines ≠ []) {head : Head} (hhead : Message.head? lines = some head) :
    start.feed (lines.flatMap (· ++ lineEnd) ++ lineEnd) = begin head := by
  have hend : (Phase.head lines.reverse []).feed ([] ++ lineEnd) = begin head := by
    rw [feed_line (fun line b hb => by simp [step, hb]) List.not_mem_nil]
    simp [step, lineOf, headLine, hlines, hhead]
  rw [start, feed_append_of_quiet (feed_lines h []), List.append_nil]
  exact hend

end Phase

end Reachability.Service
