import Reachability.Json.Outline
import Reachability.Proofs.Json.Value

/-!
# Written values have their outline

Every value is one in outline, and every object is a loose one, whatever names are known of it.
-/
namespace Reachability.Json

/-! ## Strings -/

theorem outlineChars_append {plain bs : List UInt8} (h : ∀ b ∈ plain, IsPlain b)
    (hbs : OutlineChars bs) : OutlineChars (plain ++ bs) := by
  induction plain with
  | nil => exact hbs
  | cons b plain ih =>
    obtain ⟨hb, hplain⟩ := List.forall_mem_cons.mp h
    exact .plain hb (ih hplain)

theorem WrittenChar.outline {c : Char} {bs tail : List UInt8} (h : WrittenChar c bs)
    (htail : OutlineChars tail) : OutlineChars (bs ++ tail) := by
  cases h with
  | plain quote backslash control =>
    exact outlineChars_append (isPlain_of_mem_encodeChar quote backslash control) htail
  | short h => exact .short h htail
  | code h => exact .code h htail
  | @codes high low first second _ _ hfirst hsecond =>
    have hsplit : bytes ('\\' :: 'u' :: (first ++ '\\' :: 'u' :: second)) ++ tail =
        byte '\\' :: byte 'u' :: (bytes first ++
          (byte '\\' :: byte 'u' :: (bytes second ++ tail))) := by
      simp
    rw [hsplit]
    exact .code hfirst (.code hsecond htail)

theorem WrittenString.outline {s : String} {bs : List UInt8} (h : WrittenString s bs) :
    OutlineString bs := by
  obtain ⟨hchars⟩ := h
  refine .mk ?_
  generalize s.toList = cs at hchars
  induction hchars with
  | nil => exact .nil
  | cons head _ ih => exact head.outline ih

/-! ## Values -/

mutual

theorem Written.outline {v : Json} {bs : List UInt8} (h : Written v bs) : Outline .value bs := by
  cases h with
  | null => exact .null
  | true => exact .true
  | false => exact .false
  | number h => exact .number h
  | text h => exact .text h.outline
  | emptyArray hws => exact .empty .array hws
  | array h => exact @Outline.filled .array _ h.outline
  | emptyObject hws => exact .empty .object hws
  | object h => exact @Outline.filled .object _ h.outline
termination_by 2 * bs.length

theorem WrittenItems.outline {v : Json} {vs : List Json} {bs : List UInt8}
    (h : WrittenItems v vs bs) : Outline (.entries .array) bs := by
  cases h with
  | last hbefore hv hafter => exact .last (.array hbefore) hv.outline hafter
  | cons hbefore hv hafter hmore =>
    exact .cons (.array hbefore) hv.outline hafter hmore.outline
termination_by 2 * bs.length + 1

theorem WrittenMembers.outline {m : String × Json} {ms : List (String × Json)} {bs : List UInt8}
    (h : WrittenMembers m ms bs) : Outline (.entries .object) bs := by
  cases h with
  | last hbefore hname hbetween hspace hv hafter =>
    simpa using Outline.last (.object hbefore hname.outline hbetween hspace) hv.outline hafter
  | cons hbefore hname hbetween hspace hv hafter hmore =>
    simpa using Outline.cons (.object hbefore hname.outline hbetween hspace) hv.outline hafter
      hmore.outline
termination_by 2 * bs.length + 1

end

/-! ## Where they begin -/

theorem Outline.begins {bs : List UInt8} (h : Outline .value bs) :
    ∃ b tail, bs = b :: tail ∧ ∃ v : Json, v.beginsWith b = Bool.true := by
  cases h with
  | null => exact ⟨_, _, rfl, .null, rfl⟩
  | true => exact ⟨_, _, rfl, .boolean Bool.true, rfl⟩
  | false => exact ⟨_, _, rfl, .boolean Bool.false, rfl⟩
  | @number n _ h =>
    obtain ⟨b, tail, hcons, hb⟩ := h.begins
    exact ⟨b, tail, hcons, .number n, hb⟩
  | text h =>
    obtain ⟨h⟩ := h
    exact ⟨_, _, rfl, .text "", rfl⟩
  | empty bracket _ | @filled bracket _ _ =>
    cases bracket with
    | array => exact ⟨_, _, rfl, .array [], rfl⟩
    | object => exact ⟨_, _, rfl, .object [], rfl⟩

theorem Outline.begins_entries {bracket : Bracket} {bs : List UInt8}
    (h : Outline (.entries bracket) bs) (rest : List UInt8) :
    ∃ b tail, skipBlank (bs ++ rest) = b :: tail ∧ b ≠ bracket.closing := by
  have hfirst {label value more : List UInt8} (hlabel : Label bracket label)
      (hvalue : Outline .value value) :
      ∃ b tail, skipBlank (label ++ (value ++ more)) = b :: tail ∧ b ≠ bracket.closing := by
    cases hlabel with
    | array hws =>
      obtain ⟨b, tail, rfl, v, hb⟩ := hvalue.begins
      refine ⟨b, tail ++ more, ?_, ne_closing_of_beginsWith hb⟩
      rw [skipBlank_append hws, List.cons_append, skipBlank_cons (isBlank_of_beginsWith hb)]
    | object hbefore hname _ _ =>
      obtain ⟨hname⟩ := hname
      rw [List.append_assoc, skipBlank_append hbefore, List.append_assoc, List.cons_append,
        skipBlank_cons (by decide)]
      exact ⟨_, _, rfl, by decide⟩
  cases h with
  | last hlabel hvalue _ | cons hlabel hvalue _ _ =>
    rw [List.append_assoc, List.append_assoc]
    exact hfirst hlabel hvalue

/-! ## Objects -/

/-- Written members are those of a loose object, whatever names are known. -/
theorem WrittenMembers.loose {m : String × Json} {ms : List (String × Json)} {bs : List UInt8}
    (h : WrittenMembers m ms bs) (known : List String) : LooseMembers known (m :: ms) bs := by
  induction ms generalizing m bs with
  | nil =>
    cases h with
    | last hbefore hname hbetween hspace hvalue hafter =>
      exact .last hbefore hname hbetween hspace (.written hvalue) hafter
  | cons m' ms ih =>
    cases h with
    | cons hbefore hname hbetween hspace hvalue hafter hmore =>
      exact .cons hbefore hname hbetween hspace (.written hvalue) hafter (ih hmore)

theorem Document.loose {ms : List (String × Json)} {body : List UInt8}
    (h : Document (.object ms) body) (known : List String) : LooseObject known ms body := by
  cases h with
  | mk hbefore hvalue hafter =>
    cases hvalue with
    | emptyObject hws => simpa using LooseObject.empty hbefore hws hafter
    | object hmembers => simpa using LooseObject.members hbefore (hmembers.loose known) hafter

theorem LooseObject.skipBlank {known : List String} {ms : List (String × Json)}
    {body : List UInt8} (h : LooseObject known ms body) :
    ∃ tail, Json.skipBlank body = byte '{' :: tail := by
  cases h with
  | empty hbefore | members hbefore =>
    exact ⟨_, by rw [skipBlank_append hbefore, skipBlank_cons (by decide)]⟩

/-- Only the texts of objects are loose objects. -/
theorem LooseObject.eq_object {known : List String} {ms : List (String × Json)}
    {body : List UInt8} (h : LooseObject known ms body) {v : Json} (hv : Document v body) :
    ∃ ms, v = .object ms := by
  obtain ⟨tail, hskip⟩ := h.skipBlank
  cases hv with
  | @mk _ value after hbefore hvalue hafter =>
    obtain ⟨b, more, rfl, hb⟩ := hvalue.begins
    rw [hvalue.skipBlank hbefore, List.cons_append] at hskip
    obtain rfl := (List.cons.inj hskip).1
    cases v with
    | object ms => exact ⟨ms, rfl⟩
    | boolean value => cases value <;> cases hb
    | null | number _ | text _ | array _ => cases hb

end Reachability.Json
