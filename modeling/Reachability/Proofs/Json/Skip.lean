import Reachability.Json.Skip
import Reachability.Proofs.Json.Outline

/-!
# Written values are skipped

Whatever a value is, and however it is written, skipping it ends right behind it, and its outline
is enough for that. The machine that skips keeps the open brackets in a list. So the statement on
a value is about what comes after it: if the machine gets from behind the value to some place, it
gets there from in front of the value.
-/
namespace Reachability.Json

/-! ## Strings -/

theorem skipString_escaped (used bs : List UInt8) :
    skipString used.length (used ++ bs) = skipString 0 bs := by
  induction used with
  | nil => rfl
  | cons b used ih => exact ih

theorem skipString_escape (used : List UInt8) {bs : List UInt8}
    (h : escapeWidth (used ++ bs) = .ok used.length) :
    skipString 0 (byte '\\' :: (used ++ bs)) = skipString 0 bs := by
  have hquote : (byte '\\' == byte '"') = false := by decide
  simp only [skipString, hquote, Bool.false_eq_true, if_false, beq_self_eq_true, if_true, h,
    Except.bind, bind, skipString_escaped]

theorem escapeWidth_code {n : Nat} {digits : List Char} (h : IsCode n digits)
    (rest : List UInt8) : escapeWidth (byte 'u' :: (bytes digits ++ rest)) = .ok 5 := by
  have hlookup : (shortEscapes.lookup (byte 'u')).isSome = false := by decide
  simp only [escapeWidth, hlookup, bne_self_eq_false, Bool.false_eq_true, if_false,
    fourDigits_bytes h, Except.bind, bind]
  rfl

theorem skipString_code {n : Nat} {digits : List Char} (h : IsCode n digits)
    (bs : List UInt8) :
    skipString 0 (byte '\\' :: byte 'u' :: (bytes digits ++ bs)) = skipString 0 bs := by
  have hlength : (byte 'u' :: bytes digits).length = 5 := by simp [h.1]
  exact skipString_escape _ (by rw [hlength]; exact escapeWidth_code h bs)

theorem OutlineChars.skipString {bs : List UInt8} (h : OutlineChars bs) (rest : List UInt8) :
    Json.skipString 0 (bs ++ byte '"' :: rest) = .ok rest := by
  induction h with
  | nil => rfl
  | @plain b bs hb _ ih =>
    obtain ⟨hquote, hbackslash, hcontrol⟩ := hb
    simpa only [List.cons_append, Json.skipString, beq_eq_false_iff_ne.mpr hquote,
      beq_eq_false_iff_ne.mpr hbackslash, Bool.false_eq_true, if_false, hcontrol] using ih
  | @short b c bs hshort _ ih =>
    have hlookup : (shortEscapes.lookup b).isSome = true := by
      simp only [shortEscapes, List.mem_cons, Prod.mk.injEq, List.not_mem_nil, or_false] at hshort
      rcases hshort with ⟨rfl, -⟩ | ⟨rfl, -⟩ | ⟨rfl, -⟩ | ⟨rfl, -⟩ | ⟨rfl, -⟩ | ⟨rfl, -⟩ |
        ⟨rfl, -⟩ | ⟨rfl, -⟩ <;> rfl
    exact (skipString_escape [b] (by simp [escapeWidth, hlookup])).trans ih
  | code hcode _ ih =>
    simp only [List.cons_append, List.append_assoc]
    exact (skipString_code hcode _).trans ih

/-! ## The machine -/

namespace Skip

def goOn (fuel : Nat) : Next → Except Fault (List UInt8)
  | .done rest => .ok rest
  | .value brackets bs => do
    let bs ← if brackets.head? == some .object then memberName bs else pure bs
    skipIn brackets fuel bs

/-- Holds if the machine gets from in front of a value to some place. -/
def Skips (brackets : List Bracket) (bs out : List UInt8) : Prop :=
  ∀ fuel, (skipBlank bs).length < fuel → skipIn brackets fuel bs = .ok out

def SkipsMember (outer : List Bracket) (bs out : List UInt8) : Prop :=
  ∃ value, memberName bs = .ok value ∧ value.length < (skipBlank bs).length ∧
    Skips (.object :: outer) value out

def SkipsIn : List Bracket → (bs out : List UInt8) → Prop
  | .object :: outer, bs, out => SkipsMember outer bs out
  | brackets, bs, out => Skips brackets bs out

/-- Holds if the machine gets from behind a value, or from behind a new bracket, to some
place. -/
def Resumes (mayBeComma : Bool) (brackets : List Bracket) (bs out : List UInt8) : Prop :=
  ∀ closing fuel, bs.length < closing → bs.length < fuel →
    (close mayBeComma brackets closing bs).bind (goOn fuel) = .ok out

theorem length_skipBlank (bs : List UInt8) : (skipBlank bs).length ≤ bs.length :=
  (List.dropWhile_sublist _).length_le

theorem skipBlank_skipBlank (bs : List UInt8) : skipBlank (skipBlank bs) = skipBlank bs := by
  induction bs with
  | nil => rfl
  | cons b bs ih =>
    by_cases h : isBlank b = true
    · simpa [skipBlank, h] using ih
    · simp [skipBlank, h]

theorem skipIn_skipBlank (brackets : List Bracket) (fuel : Nat) {bs : List UInt8}
    (h : fuel ≠ 0) : skipIn brackets fuel (skipBlank bs) = skipIn brackets fuel bs := by
  obtain ⟨fuel, rfl⟩ := Nat.exists_eq_succ_of_ne_zero h
  simp only [skipIn, skipBlank_skipBlank]

theorem SkipsIn.skipBlank {brackets : List Bracket} {bs out : List UInt8}
    (h : SkipsIn brackets bs out) : SkipsIn brackets (Json.skipBlank bs) out := by
  have hskips {brackets : List Bracket} (h : Skips brackets bs out) :
      Skips brackets (Json.skipBlank bs) out := by
    intro fuel hfuel
    rw [skipBlank_skipBlank] at hfuel
    rw [skipIn_skipBlank brackets fuel (by omega)]
    exact h fuel hfuel
  match brackets, h with
  | .object :: outer, ⟨value, hname, hlength, hvalue⟩ =>
    refine ⟨value, ?_, by rwa [skipBlank_skipBlank], hvalue⟩
    rw [← hname]
    simp only [memberName, skipBlank_skipBlank]
  | .array :: outer, h => exact hskips h
  | [], h => exact hskips h

theorem goOn_value {brackets : List Bracket} {bs out : List UInt8} {fuel : Nat}
    (h : SkipsIn brackets bs out) (hfuel : (skipBlank bs).length < fuel) :
    goOn fuel (.value brackets bs) = .ok out := by
  match brackets, h with
  | .object :: outer, ⟨value, hname, hlength, hvalue⟩ =>
    simp only [goOn, List.head?_cons, beq_self_eq_true, if_true, hname, bind, Except.bind]
    exact hvalue fuel (Nat.lt_of_le_of_lt (length_skipBlank value) (by omega))
  | .array :: outer, h => exact h fuel hfuel
  | [], h => exact h fuel hfuel

theorem resumes_done (bs : List UInt8) : Resumes true [] bs bs := by
  intro closing fuel _ _
  cases closing <;> rfl

section

variable (bracket : Bracket) {outer : List Bracket} {ws rest out : List UInt8}

theorem resumes_closing {mayBeComma : Bool} (hws : IsBlank ws) (h : Resumes true outer rest out) :
    Resumes mayBeComma (bracket :: outer) (ws ++ bracket.closing :: rest) out := by
  intro closing fuel hclosing hfuel
  simp only [List.length_append, List.length_cons] at hclosing hfuel
  obtain ⟨closing, rfl⟩ := Nat.exists_eq_succ_of_ne_zero (show closing ≠ 0 by omega)
  have hskip : skipBlank (ws ++ bracket.closing :: rest) = bracket.closing :: rest := by
    rw [skipBlank_append hws, skipBlank_cons (by cases bracket <;> decide)]
  have hcomma : (bracket.closing == byte ',') = false := by cases bracket <;> decide
  simp only [close, hskip, hcomma, Bool.and_false, Bool.false_eq_true, if_false, beq_self_eq_true,
    if_true]
  exact h closing fuel (by omega) (by omega)

theorem resumes_comma (hws : IsBlank ws) (h : SkipsIn (bracket :: outer) rest out) :
    Resumes true (bracket :: outer) (ws ++ byte ',' :: rest) out := by
  intro closing fuel hclosing hfuel
  simp only [List.length_append, List.length_cons] at hclosing hfuel
  obtain ⟨closing, rfl⟩ := Nat.exists_eq_succ_of_ne_zero (show closing ≠ 0 by omega)
  have hskip : skipBlank (ws ++ byte ',' :: rest) = byte ',' :: rest := by
    rw [skipBlank_append hws, skipBlank_cons (by decide)]
  simp only [close, hskip, beq_self_eq_true, Bool.and_self, if_true, Except.bind]
  have := length_skipBlank rest
  exact goOn_value h (by omega)

variable {bracket}

theorem resumes_first {b : UInt8} {bs : List UInt8} (hskip : skipBlank bs = b :: rest)
    (hb : b ≠ bracket.closing) (h : SkipsIn (bracket :: outer) bs out) :
    Resumes false (bracket :: outer) bs out := by
  intro closing fuel hclosing hfuel
  obtain ⟨closing, rfl⟩ := Nat.exists_eq_succ_of_ne_zero (show closing ≠ 0 by omega)
  simp only [close, hskip, Bool.false_and, Bool.false_eq_true, if_false,
    beq_eq_false_iff_ne.mpr hb, Except.bind]
  have := length_skipBlank bs
  rw [← hskip]
  exact goOn_value h.skipBlank (by rw [skipBlank_skipBlank]; omega)

end

theorem skips_of_begin {brackets : List Bracket} {bs rest out : List UInt8} {b : UInt8}
    {tail : List UInt8} {new : Option Bracket} (hskip : skipBlank bs = b :: tail)
    (hbegin : begin b tail = .ok (new, rest)) (hrest : rest.length ≤ tail.length)
    (h : Resumes new.isNone (new.toList ++ brackets) rest out) : Skips brackets bs out := by
  intro fuel hfuel
  rw [hskip, List.length_cons] at hfuel
  obtain ⟨fuel, rfl⟩ := Nat.exists_eq_succ_of_ne_zero (show fuel ≠ 0 by omega)
  have hgoes := h fuel fuel (by omega) (by omega)
  simp only [skipIn, hskip, hbegin, bind, Except.bind] at hgoes ⊢
  cases hclose : close new.isNone (new.toList ++ brackets) fuel rest with
  | error e => rw [hclose] at hgoes; cases hgoes
  | ok next =>
    rw [hclose] at hgoes
    cases next with
    | done rest => exact hgoes
    | value brackets bs => exact hgoes

theorem skips_whole {b : UInt8} {brackets : List Bracket} {before tail rest out : List UInt8}
    (hb : isBlank b = false) (hbefore : IsBlank before)
    (hbegin : begin b (tail ++ rest) = .ok (none, rest)) (hout : Resumes true brackets rest out) :
    Skips brackets (before ++ (b :: tail ++ rest)) out := by
  refine skips_of_begin ?_ hbegin (by simp) hout
  rw [skipBlank_append hbefore, List.cons_append, skipBlank_cons hb]

theorem skips_bracket {bracket : Bracket} {brackets : List Bracket}
    {before inner rest out : List UInt8} (hbefore : IsBlank before)
    (hout : Resumes false (bracket :: brackets) (inner ++ rest) out) :
    Skips brackets (before ++ (bracket.opening :: inner ++ rest)) out := by
  have hb : isBlank bracket.opening = false := by cases bracket <;> decide
  have hbegin : begin bracket.opening (inner ++ rest) = .ok (some bracket, inner ++ rest) := by
    cases bracket <;> rfl
  refine skips_of_begin ?_ hbegin (Nat.le_refl _) hout
  rw [skipBlank_append hbefore, List.cons_append, skipBlank_cons hb]

end Skip

theorem word_bytes (cs : List Char) (rest : List UInt8) :
    word (bytes cs) (bytes cs ++ rest) = .ok ((), rest) := by
  induction cs with
  | nil => cases rest <;> rfl
  | cons c cs ih => simpa [word] using ih

theorem Numeral.Written.skip {n : Numeral} {b : UInt8} {cs : List Char} {tail : List UInt8}
    (h : n.Written cs) (hcons : bytes cs = b :: tail) {rest : List UInt8}
    (hrest : Numeral.Ends rest) : Skip.begin b (tail ++ rest) = .ok (none, rest) := by
  obtain ⟨d, tail', hcons', hd⟩ := h.begins
  obtain ⟨rfl, rfl⟩ : d = b ∧ tail' = tail := by simpa [hcons] using hcons'.symm
  have hread : Number.skip (d :: (tail' ++ rest)) = .ok rest := by
    have := h.read .badNumber hrest
    rw [hcons, List.cons_append] at this
    simp only [Number.skip, this, bind, Except.bind]
    rfl
  have hne {e : Char} (he : Numeral.isDigit (byte e) = false ∧ byte e ≠ byte '-') :
      (d == byte e) = false := by
    rw [beq_eq_false_iff_ne]
    rintro rfl
    simp [he.1, he.2] at hd
  simp only [Skip.begin, hne (e := 'n') (by decide), hne (e := 't') (by decide),
    hne (e := 'f') (by decide), hd, hread]
  rfl

open Skip

theorem OutlineChars.begin {bs : List UInt8} (h : OutlineChars bs) (rest : List UInt8) :
    Skip.begin (byte '"') (bs ++ byte '"' :: rest) = .ok (none, rest) := by
  show Except.map _ (Json.skipString 0 (bs ++ byte '"' :: rest)) = _
  rw [h.skipString]
  rfl

theorem OutlineString.memberName {before name between rest : List UInt8} (h : OutlineString name)
    (hbefore : IsBlank before) (hbetween : IsBlank between) :
    Skip.memberName (before ++ (name ++ (between ++ byte ':' :: rest))) = .ok rest := by
  obtain @⟨bs, hchars⟩ := h
  have hskip : skipBlank (before ++ (byte '"' :: (bs ++ [byte '"']) ++
      (between ++ byte ':' :: rest))) =
        byte '"' :: (bs ++ byte '"' :: (between ++ byte ':' :: rest)) := by
    rw [skipBlank_append hbefore, List.cons_append, skipBlank_cons (by decide), List.append_assoc,
      List.singleton_append]
  have hcolon : skipBlank (between ++ byte ':' :: rest) = byte ':' :: rest := by
    rw [skipBlank_append hbetween, skipBlank_cons (by decide)]
  simp only [Skip.memberName, hskip, bne_self_eq_false, Bool.false_eq_true, if_false,
    hchars.skipString, bind, Except.bind, hcolon, beq_self_eq_true, if_true]
  rfl

theorem begin_null (rest : List UInt8) :
    Skip.begin (byte 'n') (bytes "ull".toList ++ rest) = .ok (none, rest) := by
  have hword : word ("ull".toList.map byte) (bytes "ull".toList ++ rest) = .ok ((), rest) :=
    word_bytes _ rest
  simp only [Skip.begin, beq_self_eq_true, if_true, hword]
  rfl

theorem begin_true (rest : List UInt8) :
    Skip.begin (byte 't') (bytes "rue".toList ++ rest) = .ok (none, rest) := by
  have hword : word ("rue".toList.map byte) (bytes "rue".toList ++ rest) = .ok ((), rest) :=
    word_bytes _ rest
  have hn : (byte 't' == byte 'n') = false := by decide
  simp only [Skip.begin, hn, Bool.false_eq_true, if_false, beq_self_eq_true, if_true, hword]
  rfl

theorem begin_false (rest : List UInt8) :
    Skip.begin (byte 'f') (bytes "alse".toList ++ rest) = .ok (none, rest) := by
  have hword : word ("alse".toList.map byte) (bytes "alse".toList ++ rest) = .ok ((), rest) :=
    word_bytes _ rest
  have hn : (byte 'f' == byte 'n') = false := by decide
  have ht : (byte 'f' == byte 't') = false := by decide
  simp only [Skip.begin, hn, ht, Bool.false_eq_true, if_false, beq_self_eq_true, if_true, hword]
  rfl

/-! ## Values

What follows a value inside of a bracket is a comma or the end of the bracket, so the place
behind it is reached by one of `resumes_comma` and `resumes_closing`. -/

theorem Label.skipsIn {bracket : Bracket} {outer : List Bracket} {label value out : List UInt8}
    (h : Label bracket label)
    (hvalue : ∀ ws, IsBlank ws → Skips (bracket :: outer) (ws ++ value) out) :
    SkipsIn (bracket :: outer) (label ++ value) out := by
  cases h with
  | array hws => exact hvalue _ hws
  | @object before name between space hbefore hname hbetween hspace =>
    simp only [List.append_assoc, List.cons_append]
    refine ⟨space ++ value, hname.memberName hbefore hbetween, ?_, hvalue space hspace⟩
    obtain ⟨hchars⟩ := hname
    rw [skipBlank_append hbefore, List.cons_append, skipBlank_cons (by decide)]
    simp only [List.length_cons, List.length_append]
    omega

/-- Holds if the place that is reached from behind a value is reached from in front of it, and if
the place that is reached from behind brackets is reached from in front of what stands in these. -/
def Part.IsSkipped : Part → List UInt8 → Prop
  | value, bs => ∀ ⦃brackets : List Bracket⦄ ⦃before rest out : List UInt8⦄, IsBlank before →
      Numeral.Ends rest → Resumes true brackets rest out →
        Skips brackets (before ++ (bs ++ rest)) out
  | entries bracket, bs => ∀ ⦃outer : List Bracket⦄ ⦃rest out : List UInt8⦄,
      Resumes true outer rest out → SkipsIn (bracket :: outer) (bs ++ bracket.closing :: rest) out

/-- What is a value in outline is skipped. The induction is on how it is built; what stands in
brackets is skipped if the place behind the brackets is known. -/
theorem Outline.isSkipped {part : Part} {bs : List UInt8} (h : Outline part bs) :
    part.IsSkipped bs := by
  induction h with
  | null =>
    intro brackets before rest out hbefore hrest hout
    exact skips_whole (by decide) hbefore (begin_null rest) hout
  | true =>
    intro brackets before rest out hbefore hrest hout
    exact skips_whole (by decide) hbefore (begin_true rest) hout
  | false =>
    intro brackets before rest out hbefore hrest hout
    exact skips_whole (by decide) hbefore (begin_false rest) hout
  | @number n cs hn =>
    intro brackets before rest out hbefore hrest hout
    obtain ⟨b, tail, hcons, hb⟩ := hn.begins
    rw [hcons]
    exact skips_whole (isBlank_of_beginsWith (v := .number n) hb) hbefore (hn.skip hcons hrest) hout
  | text hs =>
    intro brackets before rest out hbefore hrest hout
    obtain ⟨hchars⟩ := hs
    refine skips_whole (by decide) hbefore ?_ hout
    rw [List.append_assoc]
    exact hchars.begin rest
  | empty bracket hws =>
    intro brackets before rest out hbefore hrest hout
    refine skips_bracket hbefore ?_
    rw [List.append_assoc]
    exact resumes_closing bracket hws hout
  | @filled bracket bs hentries ih =>
    intro brackets before rest out hbefore hrest hout
    refine skips_bracket hbefore ?_
    rw [List.append_assoc]
    obtain ⟨b, tail, hskip, hb⟩ := hentries.begins_entries (bracket.closing :: rest)
    exact resumes_first hskip hb (ih hout)
  | @last bracket label value after hlabel _ hafter ih =>
    intro outer rest out hout
    rw [List.append_assoc, List.append_assoc]
    refine hlabel.skipsIn fun ws hws => ih hws ?_ (resumes_closing bracket hafter hout)
    exact Numeral.ends_before hafter (by cases bracket <;> decide)
  | @cons bracket label value after more hlabel _ hafter _ ih ihmore =>
    intro outer rest out hout
    rw [List.append_assoc, List.append_assoc, List.append_assoc]
    refine hlabel.skipsIn fun ws hws => ih hws ?_ (resumes_comma bracket hafter (ihmore hout))
    exact Numeral.ends_before hafter (by decide)

/-- Skipping a value in outline ends right behind it. -/
theorem Outline.skip {before bs rest : List UInt8} (h : Outline .value bs)
    (hbefore : IsBlank before) (hrest : Numeral.Ends rest) :
    Json.skip (before ++ (bs ++ rest)) = .ok rest :=
  h.isSkipped hbefore hrest (resumes_done rest) _ (Nat.lt_succ_of_le (length_skipBlank _))

end Reachability.Json
