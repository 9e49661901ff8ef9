import Reachability.Json.Outline
import Reachability.Proofs.Json.Taken

/-!
# What is skipped was written

Whatever the machine steps over is a value, but for what its strings hold. Between two values the
machine knows the open brackets only, so the statement on it is about these: behind a value that
stands in brackets there is a text that closes them all.
-/
namespace Reachability.Json

theorem eq_of_word {cs : List Char} {bs rest : List UInt8} {u : Unit}
    (h : word (cs.map byte) bs = .ok (u, rest)) : bs = bytes cs ++ rest := by
  induction cs generalizing bs with
  | nil =>
    cases h
    rfl
  | cons c cs ih =>
    cases bs with
    | nil => cases h
    | cons b bs =>
      rw [List.map_cons, word] at h
      split at h
      · next hb => rw [ih h, eq_of_beq hb, bytes_cons, List.cons_append]
      · cases h

namespace Skip

theorem length_of_skipBlank {bs tail : List UInt8} {b : UInt8} (h : skipBlank bs = b :: tail) :
    tail.length < bs.length := by
  have := length_skipBlank bs
  rw [h, List.length_cons] at this
  exact this

theorem exists_of_begin {b : UInt8} {bs rest : List UInt8} {new : Option Bracket}
    (h : begin b bs = .ok (new, rest)) :
    (∃ inner, new = none ∧ bs = inner ++ rest ∧ Outline .value (b :: inner)) ∨
      ∃ bracket, new = some bracket ∧ b = bracket.opening ∧ bs = rest := by
  have hword {c : Char} {cs : List Char} (hc : b = byte c)
      (hvalue : Outline .value (bytes (c :: cs)))
      (hwhole : ((word (cs.map byte) bs).map (·.2)).map (none, ·) = .ok (new, rest)) :
      ∃ inner, new = none ∧ bs = inner ++ rest ∧ Outline .value (b :: inner) := by
    obtain ⟨rest', hrest', heq⟩ := exists_of_map_eq_ok hwhole
    obtain ⟨⟨u, rest''⟩, hword, rfl⟩ := exists_of_map_eq_ok hrest'
    obtain ⟨rfl, rfl⟩ := Prod.mk.inj heq
    exact ⟨bytes cs, rfl, eq_of_word hword, hc ▸ hvalue⟩
  simp only [begin, beq_iff_eq] at h
  split at h
  · next hb => exact .inl (hword hb .null h)
  split at h
  · next hb => exact .inl (hword hb .true h)
  split at h
  · next hb => exact .inl (hword hb .false h)
  split at h
  · obtain ⟨rest', hskip, heq⟩ := exists_of_map_eq_ok h
    obtain ⟨rfl, rfl⟩ := Prod.mk.inj heq
    obtain ⟨⟨n, rest''⟩, hread, hrest⟩ := exists_of_bind_eq_ok hskip
    obtain rfl : rest'' = rest' := Except.ok.inj hrest
    obtain ⟨cs, hcs, hbs⟩ := Numeral.exists_of_read hread
    obtain ⟨d, inner, hcons, -⟩ := hcs.begins
    rw [hcons, List.cons_append] at hbs
    obtain ⟨rfl, rfl⟩ := List.cons.inj hbs
    exact .inl ⟨inner, rfl, rfl, hcons ▸ .number hcs⟩
  split at h
  · next hb =>
    obtain ⟨rest', hskip, heq⟩ := exists_of_map_eq_ok h
    obtain ⟨rfl, rfl⟩ := Prod.mk.inj heq
    obtain ⟨source, hsource, hchars⟩ := exists_of_skipString hskip
    refine .inl ⟨source ++ [byte '"'], rfl, by simp [hsource], ?_⟩
    rw [hb]
    exact .text (.mk hchars)
  split at h
  · next hb =>
    cases h
    exact .inr ⟨.array, rfl, hb, rfl⟩
  split at h
  · next hb =>
    cases h
    exact .inr ⟨.object, rfl, hb, rfl⟩
  · cases h

theorem exists_of_memberName {bs rest : List UInt8} (h : memberName bs = .ok rest) :
    ∃ before name between, IsBlank before ∧ OutlineString name ∧ IsBlank between ∧
      bs = before ++ (name ++ (between ++ byte ':' :: rest)) := by
  simp only [memberName] at h
  split at h
  · cases h
  next b tail hskip =>
  obtain ⟨before, hbefore, rfl⟩ := exists_of_skipBlank hskip
  simp only [bne_iff_ne, ne_eq, ite_not] at h
  split at h
  · next hb =>
    obtain ⟨behind, hname, h⟩ := exists_of_bind_eq_ok h
    obtain ⟨source, hsource, hchars⟩ := exists_of_skipString hname
    split at h
    · cases h
    next d more hskip' =>
    obtain ⟨between, hbetween, rfl⟩ := exists_of_skipBlank hskip'
    split at h
    · next hd =>
      cases h
      refine ⟨before, _, between, hbefore, .mk hchars, hbetween, ?_⟩
      simp [hsource, hb, eq_of_beq hd]
    · cases h
  · cases h

theorem goOn_skipBlank (brackets : List Bracket) {fuel : Nat} (hfuel : fuel ≠ 0)
    (bs : List UInt8) :
    goOn fuel (.value brackets (skipBlank bs)) = goOn fuel (.value brackets bs) := by
  rw [goOn, goOn]
  split
  · simp only [memberName, skipBlank_skipBlank]
  · exact skipIn_skipBlank brackets fuel hfuel

/-! ## Brackets -/

/-- The texts from behind a value in open brackets, innermost first, to the end of these. -/
inductive Closes : List Bracket → List UInt8 → Prop
  | nil : Closes [] []
  | close {bracket : Bracket} {outer : List Bracket} {ws tail : List UInt8} (hws : IsBlank ws)
      (h : Closes outer tail) : Closes (bracket :: outer) (ws ++ bracket.closing :: tail)
  | more {bracket : Bracket} {outer : List Bracket} {ws entries tail : List UInt8}
      (hws : IsBlank ws) (hmore : Outline (.entries bracket) entries) (h : Closes outer tail) :
      Closes (bracket :: outer) (ws ++ byte ',' :: (entries ++ bracket.closing :: tail))

theorem Closes.exists_entries {bracket : Bracket} {outer : List Bracket}
    {label value tail : List UInt8} (h : Closes (bracket :: outer) tail)
    (hlabel : Label bracket label) (hvalue : Outline .value value) :
    ∃ entries tail', Outline (.entries bracket) entries ∧ Closes outer tail' ∧
      label ++ (value ++ tail) = entries ++ bracket.closing :: tail' := by
  cases h with
  | @close _ _ ws tail hws h =>
    exact ⟨label ++ (value ++ ws), tail, .last hlabel hvalue hws, h, by simp⟩
  | @more _ _ ws entries tail hws hmore h =>
    exact ⟨label ++ (value ++ (ws ++ byte ',' :: entries)), tail,
      .cons hlabel hvalue hws hmore, h, by simp⟩

theorem exists_label_of_goOn {bracket : Bracket} {outer : List Bracket} {bs rest : List UInt8}
    {fuel : Nat} (h : goOn fuel (.value (bracket :: outer) bs) = .ok rest) :
    ∃ label behind, (∀ ws, IsBlank ws → Label bracket (label ++ ws)) ∧ bs = label ++ behind ∧
      skipIn (bracket :: outer) fuel behind = .ok rest := by
  cases bracket with
  | array => exact ⟨[], bs, fun ws hws => .array hws, rfl, h⟩
  | object =>
    obtain ⟨behind, hmember, hskip⟩ := exists_of_bind_eq_ok h
    obtain ⟨before, name, between, hbefore, hname, hbetween, rfl⟩ := exists_of_memberName hmember
    refine ⟨before ++ (name ++ (between ++ [byte ':'])), behind, ?_, by simp, hskip⟩
    intro ws hws
    simpa using Label.object hbefore hname hbetween hws

/-- Holds if what the machine takes from in front of a value is a value and what closes the
brackets around it. -/
def Sound (fuel : Nat) : Prop :=
  ∀ ⦃brackets : List Bracket⦄ ⦃bs rest : List UInt8⦄, bs.length < fuel →
    skipIn brackets fuel bs = .ok rest →
    ∃ ws value tail, IsBlank ws ∧ Outline .value value ∧ Closes brackets tail ∧
      bs = ws ++ (value ++ (tail ++ rest))

section

variable {bracket : Bracket} {outer : List Bracket} {bs rest : List UInt8} {fuel : Nat}

theorem Sound.exists_of_goOn (hsound : Sound fuel) (hfuel : bs.length < fuel)
    (h : goOn fuel (.value (bracket :: outer) bs) = .ok rest) :
    ∃ entries tail, Outline (.entries bracket) entries ∧ Closes outer tail ∧
      bs = entries ++ bracket.closing :: (tail ++ rest) := by
  obtain ⟨label, behind, hlabel, rfl, hskip⟩ := exists_label_of_goOn h
  rw [List.length_append] at hfuel
  obtain ⟨ws, value, tail, hws, hvalue, hcloses, rfl⟩ := hsound (by omega) hskip
  obtain ⟨entries, tail', hentries, hcloses', heq⟩ := hcloses.exists_entries (hlabel ws hws) hvalue
  refine ⟨entries, tail', hentries, hcloses', ?_⟩
  have := congrArg (· ++ rest) heq
  simpa using this

theorem Sound.exists_of_close (hsound : Sound fuel) {brackets : List Bracket} {closing : Nat}
    (hclosing : bs.length < closing) (hfuel : bs.length < fuel)
    (h : (close true brackets closing bs).bind (goOn fuel) = .ok rest) :
    ∃ tail, Closes brackets tail ∧ bs = tail ++ rest := by
  induction brackets generalizing closing bs with
  | nil =>
    have hdone : close true [] closing bs = .ok (.done bs) := by cases closing <;> rfl
    rw [hdone] at h
    cases h
    exact ⟨[], .nil, rfl⟩
  | cons bracket outer ih =>
    obtain ⟨closing, rfl⟩ := Nat.exists_eq_succ_of_ne_zero (show closing ≠ 0 by omega)
    simp only [close] at h
    split at h
    · cases h
    next b tail hskip =>
    have hlength := length_of_skipBlank hskip
    obtain ⟨ws, hws, rfl⟩ := exists_of_skipBlank hskip
    rw [Bool.true_and] at h
    split at h
    · next hcomma =>
      obtain ⟨entries, tail', hentries, hcloses, rfl⟩ :=
        hsound.exists_of_goOn (Nat.lt_trans hlength hfuel) h
      exact ⟨_, .more hws hentries hcloses, by simp [eq_of_beq hcomma]⟩
    split at h
    · next hend =>
      obtain ⟨tail', hcloses, rfl⟩ := ih (by omega) (by omega) h
      exact ⟨_, .close hws hcloses, by simp [eq_of_beq hend]⟩
    · cases h

theorem Sound.exists_of_open (hsound : Sound fuel) {closing : Nat}
    (hclosing : bs.length < closing) (hfuel : bs.length < fuel)
    (h : (close false (bracket :: outer) closing bs).bind (goOn fuel) = .ok rest) :
    ∃ inner tail, Outline .value (bracket.opening :: inner) ∧ Closes outer tail ∧
      bs = inner ++ (tail ++ rest) := by
  obtain ⟨closing, rfl⟩ := Nat.exists_eq_succ_of_ne_zero (show closing ≠ 0 by omega)
  simp only [close] at h
  split at h
  · cases h
  next b tail hskip =>
  simp only [Bool.false_and, Bool.false_eq_true, if_false] at h
  split at h
  · next hend =>
    have hlength := length_of_skipBlank hskip
    obtain ⟨ws, hws, rfl⟩ := exists_of_skipBlank hskip
    obtain ⟨tail', hcloses, rfl⟩ :=
      hsound.exists_of_close (show tail.length < closing by omega) (by omega) h
    exact ⟨_, tail', .empty bracket hws, hcloses, by simp [eq_of_beq hend]⟩
  · have hgo : goOn fuel (.value (bracket :: outer) bs) = .ok rest := by
      rw [← goOn_skipBlank _ (by omega), hskip]
      exact h
    obtain ⟨entries, tail', hentries, hcloses, rfl⟩ := hsound.exists_of_goOn hfuel hgo
    exact ⟨_, tail', .filled hentries, hcloses, by simp⟩

end

/-- The induction is on the fuel, which a value and all that follows it in its brackets spend. -/
theorem sound (fuel : Nat) : Sound fuel := by
  induction fuel with
  | zero =>
    intro brackets bs rest hfuel
    cases hfuel
  | succ fuel ih =>
    intro brackets bs rest hfuel h
    simp only [skipIn] at h
    split at h
    · cases h
    next b tail hskip =>
    have hlength := length_of_skipBlank hskip
    obtain ⟨ws, hws, rfl⟩ := exists_of_skipBlank hskip
    obtain ⟨⟨new, behind⟩, hbegin, hrun⟩ := exists_of_bind_eq_ok h
    have hclose : (close new.isNone (new.toList ++ brackets) fuel behind).bind (goOn fuel) =
        .ok rest := by
      obtain ⟨next, hnext, hgo⟩ := exists_of_bind_eq_ok hrun
      rw [hnext]
      cases next <;> exact hgo
    rcases exists_of_begin hbegin with ⟨inner, rfl, rfl, hvalue⟩ | ⟨bracket, rfl, rfl, rfl⟩
    · rw [List.length_append] at hlength
      obtain ⟨tail', hcloses, rfl⟩ :=
        ih.exists_of_close (show behind.length < fuel by omega) (by omega) hclose
      exact ⟨ws, _, tail', hws, hvalue, hcloses, by simp⟩
    · obtain ⟨inner, tail', hvalue, hcloses, rfl⟩ :=
        ih.exists_of_open (show tail.length < fuel by omega) (by omega) hclose
      exact ⟨ws, _, tail', hws, hvalue, hcloses, by simp⟩

end Skip

/-- What is skipped is a value, but for what its strings hold. -/
theorem exists_of_skip {bs rest : List UInt8} (h : skip bs = .ok rest) :
    ∃ ws value, IsBlank ws ∧ Outline .value value ∧ bs = ws ++ (value ++ rest) := by
  obtain ⟨ws, value, tail, hws, hvalue, hcloses, rfl⟩ :=
    Skip.sound _ (Nat.lt_succ_self _) h
  cases hcloses
  exact ⟨ws, value, hws, hvalue, rfl⟩

end Reachability.Json
