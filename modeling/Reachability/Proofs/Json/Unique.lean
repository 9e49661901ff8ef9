import Reachability.Proofs.Json.Skip

/-!
# A text has one value

The grammar is unambiguous: two values that are written at the front of one text are the
same value, and the same is left behind them. So what a text says does not depend on how its
reader came to its value.
-/
namespace Reachability.Json

/-- Holds of two values that begin with the same byte. -/
inductive SameKind : Json → Json → Prop
  | null : SameKind .null .null
  | boolean (value : Bool) : SameKind (.boolean value) (.boolean value)
  | number (m n : Numeral) : SameKind (.number m) (.number n)
  | text (s t : String) : SameKind (.text s) (.text t)
  | array (vs ws : List Json) : SameKind (.array vs) (.array ws)
  | object (ms ns : List (String × Json)) : SameKind (.object ms) (.object ns)

theorem sameKind_of_beginsWith {v w : Json} {b : UInt8} (hv : v.beginsWith b = true)
    (hw : w.beginsWith b = true) : SameKind v w := by
  cases v with
  | null =>
    obtain rfl := eq_of_beq hv
    cases w with
    | null => exact .null
    | boolean value => cases value <;> cases hw
    | number _ | text _ | array _ | object _ => cases hw
  | boolean value =>
    obtain rfl := eq_of_beq hv
    cases w with
    | boolean value' => cases value <;> cases value' <;> first | exact .boolean _ | cases hw
    | null | number _ | text _ | array _ | object _ => cases value <;> cases hw
  | number m =>
    cases w with
    | number n => exact .number m n
    | boolean value =>
      obtain rfl := eq_of_beq hw
      cases value <;> cases hv
    | null | text _ | array _ | object _ =>
      obtain rfl := eq_of_beq hw
      cases hv
  | text s =>
    obtain rfl := eq_of_beq hv
    cases w with
    | text t => exact .text s t
    | boolean value => cases value <;> cases hw
    | null | number _ | array _ | object _ => cases hw
  | array vs =>
    obtain rfl := eq_of_beq hv
    cases w with
    | array ws => exact .array vs ws
    | boolean value => cases value <;> cases hw
    | null | number _ | text _ | object _ => cases hw
  | object ms =>
    obtain rfl := eq_of_beq hv
    cases w with
    | object ns => exact .object ms ns
    | boolean value => cases value <;> cases hw
    | null | number _ | text _ | array _ => cases hw

section

variable {rest rest' : List UInt8}

theorem Written.sameKind {v w : Json} {bs cs : List UInt8} (h : Written v bs) (h' : Written w cs)
    (heq : bs ++ rest = cs ++ rest') : SameKind v w := by
  obtain ⟨b, tail, rfl, hb⟩ := h.begins
  obtain ⟨c, tail', rfl, hc⟩ := h'.begins
  obtain ⟨rfl, -⟩ := List.cons_eq_cons.mp heq
  exact sameKind_of_beginsWith hb hc

theorem WrittenString.unique {s t : String} {bs cs : List UInt8} (h : WrittenString s bs)
    (h' : WrittenString t cs) (heq : bs ++ rest = cs ++ rest') : s = t ∧ rest = rest' := by
  obtain ⟨inner, rfl, hread⟩ := h.string
  obtain ⟨inner', rfl, hread'⟩ := h'.string
  have hinner : inner ++ rest = inner' ++ rest' := (List.cons_eq_cons.mp heq).2
  have hsame := (hread rest).symm.trans (hinner ▸ hread' rest')
  simpa using hsame

theorem Numeral.Written.unique {m n : Numeral} {cs ds : List Char} (h : m.Written cs)
    (h' : n.Written ds) (hrest : Numeral.Ends rest) (hrest' : Numeral.Ends rest')
    (heq : bytes cs ++ rest = bytes ds ++ rest') : m = n ∧ rest = rest' := by
  have hsame := (h.read .endOfValue hrest).symm.trans (heq ▸ h'.read .endOfValue hrest')
  simpa using hsame

theorem Written.eq_behind_blank {v w : Json} {before before' bs cs : List UInt8}
    (h : Written v bs) (h' : Written w cs) (hbefore : IsBlank before) (hbefore' : IsBlank before')
    (heq : before ++ (bs ++ rest) = before' ++ (cs ++ rest')) : bs ++ rest = cs ++ rest' := by
  rw [← h.skipBlank hbefore rest, heq, h'.skipBlank hbefore' rest']

theorem WrittenString.eq_behind_blank {s t : String} {before before' bs cs : List UInt8}
    (h : WrittenString s bs) (h' : WrittenString t cs) (hbefore : IsBlank before)
    (hbefore' : IsBlank before') (heq : before ++ (bs ++ rest) = before' ++ (cs ++ rest')) :
    bs ++ rest = cs ++ rest' :=
  (Written.text h).eq_behind_blank (.text h') hbefore hbefore' heq

theorem eq_behind_blank {ws ws' : List UInt8} {b c : UInt8} (hws : IsBlank ws)
    (hws' : IsBlank ws') (hb : isBlank b = false) (hc : isBlank c = false)
    (heq : ws ++ b :: rest = ws' ++ c :: rest') : b = c ∧ rest = rest' := by
  have hskip := congrArg skipBlank heq
  rw [skipBlank_append hws, skipBlank_append hws', skipBlank_cons hb, skipBlank_cons hc] at hskip
  exact List.cons_eq_cons.mp hskip

theorem unique_before_colon {k l : String}
    {before before' name name' between between' : List UInt8} (h : WrittenString k name)
    (h' : WrittenString l name') (hbefore : IsBlank before) (hbefore' : IsBlank before')
    (hbetween : IsBlank between) (hbetween' : IsBlank between')
    (heq : before ++ (name ++ (between ++ byte ':' :: rest)) =
      before' ++ (name' ++ (between' ++ byte ':' :: rest'))) : k = l ∧ rest = rest' := by
  obtain ⟨rfl, htail⟩ := h.unique h' (h.eq_behind_blank h' hbefore hbefore' heq)
  exact ⟨rfl, (eq_behind_blank hbetween hbetween' (by decide) (by decide) htail).2⟩

theorem Outline.ne_blank {bracket : Bracket} {bs ws : List UInt8}
    (h : Outline (.entries bracket) bs) (hws : IsBlank ws) :
    bs ++ bracket.closing :: rest ≠ ws ++ bracket.closing :: rest' := by
  intro heq
  obtain ⟨b, tail, hskip, hb⟩ := h.begins_entries (bracket.closing :: rest)
  rw [heq, skipBlank_append hws, skipBlank_cons (by cases bracket <;> decide)] at hskip
  exact hb (List.cons_eq_cons.mp hskip).1.symm

theorem eq_in_brackets {b c opening opening' : UInt8} {inner inner' : List UInt8}
    (heq : opening :: (inner ++ [b]) ++ rest = opening' :: (inner' ++ [c]) ++ rest') :
    inner ++ b :: rest = inner' ++ c :: rest' := by
  simp only [List.cons_append, List.append_assoc, List.nil_append] at heq
  exact (List.cons_eq_cons.mp heq).2

end

mutual

/-- Of the values that are written at the front of a text there is one. -/
theorem Written.unique {v w : Json} {bs cs rest rest' : List UInt8} (h : Written v bs)
    (h' : Written w cs) (hrest : Numeral.Ends rest) (hrest' : Numeral.Ends rest')
    (heq : bs ++ rest = cs ++ rest') : v = w ∧ rest = rest' := by
  cases h.sameKind h' heq with
  | null =>
    cases h
    cases h'
    exact ⟨rfl, List.append_cancel_left heq⟩
  | boolean value =>
    cases h <;> cases h' <;> exact ⟨rfl, List.append_cancel_left heq⟩
  | number m n =>
    cases h with
    | number h =>
      cases h' with
      | number h' =>
        obtain ⟨rfl, hsame⟩ := h.unique h' hrest hrest' heq
        exact ⟨rfl, hsame⟩
  | text s t =>
    cases h with
    | text h =>
      cases h' with
      | text h' =>
        obtain ⟨rfl, hsame⟩ := h.unique h' heq
        exact ⟨rfl, hsame⟩
  | array vs ws =>
    cases h with
    | emptyArray hws =>
      cases h' with
      | emptyArray hws' =>
        exact ⟨rfl, (eq_behind_blank hws hws' (by decide) (by decide) (eq_in_brackets heq)).2⟩
      | array hitems' => exact absurd (eq_in_brackets heq).symm (hitems'.outline.ne_blank hws)
    | array hitems =>
      cases h' with
      | emptyArray hws' => exact absurd (eq_in_brackets heq) (hitems.outline.ne_blank hws')
      | array hitems' =>
        obtain ⟨hsame, hrest⟩ := hitems.unique hitems' (eq_in_brackets heq)
        exact ⟨by rw [hsame], hrest⟩
  | object ms ns =>
    cases h with
    | emptyObject hws =>
      cases h' with
      | emptyObject hws' =>
        exact ⟨rfl, (eq_behind_blank hws hws' (by decide) (by decide) (eq_in_brackets heq)).2⟩
      | object hmembers' => exact absurd (eq_in_brackets heq).symm (hmembers'.outline.ne_blank hws)
    | object hmembers =>
      cases h' with
      | emptyObject hws' => exact absurd (eq_in_brackets heq) (hmembers.outline.ne_blank hws')
      | object hmembers' =>
        obtain ⟨hsame, hrest⟩ := hmembers.unique hmembers' (eq_in_brackets heq)
        exact ⟨by rw [hsame], hrest⟩
termination_by 2 * bs.length

theorem WrittenItems.unique {v w : Json} {vs ws : List Json} {bs cs rest rest' : List UInt8}
    (h : WrittenItems v vs bs) (h' : WrittenItems w ws cs)
    (heq : bs ++ byte ']' :: rest = cs ++ byte ']' :: rest') :
    v :: vs = w :: ws ∧ rest = rest' := by
  cases h with
  | last hbefore hv hafter =>
    cases h' with
    | last hbefore' hv' hafter' =>
      simp only [List.append_assoc] at heq
      obtain ⟨rfl, htail⟩ := hv.unique hv' (Numeral.ends_before hafter (by decide))
        (Numeral.ends_before hafter' (by decide))
        (hv.eq_behind_blank hv' hbefore hbefore' heq)
      exact ⟨rfl, (eq_behind_blank hafter hafter' (by decide) (by decide) htail).2⟩
    | cons hbefore' hv' hafter' hmore' =>
      simp only [List.append_assoc, List.cons_append] at heq
      obtain ⟨-, htail⟩ := hv.unique hv' (Numeral.ends_before hafter (by decide))
        (Numeral.ends_before hafter' (by decide))
        (hv.eq_behind_blank hv' hbefore hbefore' heq)
      exact absurd (eq_behind_blank hafter hafter' (by decide) (by decide) htail).1 (by decide)
  | cons hbefore hv hafter hmore =>
    cases h' with
    | last hbefore' hv' hafter' =>
      simp only [List.append_assoc, List.cons_append] at heq
      obtain ⟨-, htail⟩ := hv.unique hv' (Numeral.ends_before hafter (by decide))
        (Numeral.ends_before hafter' (by decide))
        (hv.eq_behind_blank hv' hbefore hbefore' heq)
      exact absurd (eq_behind_blank hafter hafter' (by decide) (by decide) htail).1 (by decide)
    | cons hbefore' hv' hafter' hmore' =>
      simp only [List.append_assoc, List.cons_append] at heq
      obtain ⟨rfl, htail⟩ := hv.unique hv' (Numeral.ends_before hafter (by decide))
        (Numeral.ends_before hafter' (by decide))
        (hv.eq_behind_blank hv' hbefore hbefore' heq)
      obtain ⟨hsame, hrest⟩ := hmore.unique hmore'
        (eq_behind_blank hafter hafter' (by decide) (by decide) htail).2
      exact ⟨by rw [hsame], hrest⟩
termination_by 2 * bs.length + 1

theorem WrittenMembers.unique {m n : String × Json} {ms ns : List (String × Json)}
    {bs cs rest rest' : List UInt8} (h : WrittenMembers m ms bs) (h' : WrittenMembers n ns cs)
    (heq : bs ++ byte '}' :: rest = cs ++ byte '}' :: rest') :
    m :: ms = n :: ns ∧ rest = rest' := by
  cases h with
  | last hbefore hk hbetween hspace hv hafter =>
    cases h' with
    | last hbefore' hk' hbetween' hspace' hv' hafter' =>
      simp only [List.append_assoc, List.cons_append] at heq
      obtain ⟨rfl, hvalue⟩ := unique_before_colon hk hk' hbefore hbefore' hbetween hbetween' heq
      obtain ⟨rfl, htail⟩ := hv.unique hv' (Numeral.ends_before hafter (by decide))
        (Numeral.ends_before hafter' (by decide))
        (hv.eq_behind_blank hv' hspace hspace' hvalue)
      exact ⟨rfl, (eq_behind_blank hafter hafter' (by decide) (by decide) htail).2⟩
    | cons hbefore' hk' hbetween' hspace' hv' hafter' hmore' =>
      simp only [List.append_assoc, List.cons_append] at heq
      obtain ⟨rfl, hvalue⟩ := unique_before_colon hk hk' hbefore hbefore' hbetween hbetween' heq
      obtain ⟨-, htail⟩ := hv.unique hv' (Numeral.ends_before hafter (by decide))
        (Numeral.ends_before hafter' (by decide))
        (hv.eq_behind_blank hv' hspace hspace' hvalue)
      exact absurd (eq_behind_blank hafter hafter' (by decide) (by decide) htail).1 (by decide)
  | cons hbefore hk hbetween hspace hv hafter hmore =>
    cases h' with
    | last hbefore' hk' hbetween' hspace' hv' hafter' =>
      simp only [List.append_assoc, List.cons_append] at heq
      obtain ⟨rfl, hvalue⟩ := unique_before_colon hk hk' hbefore hbefore' hbetween hbetween' heq
      obtain ⟨-, htail⟩ := hv.unique hv' (Numeral.ends_before hafter (by decide))
        (Numeral.ends_before hafter' (by decide))
        (hv.eq_behind_blank hv' hspace hspace' hvalue)
      exact absurd (eq_behind_blank hafter hafter' (by decide) (by decide) htail).1 (by decide)
    | cons hbefore' hk' hbetween' hspace' hv' hafter' hmore' =>
      simp only [List.append_assoc, List.cons_append] at heq
      obtain ⟨rfl, hvalue⟩ := unique_before_colon hk hk' hbefore hbefore' hbetween hbetween' heq
      obtain ⟨rfl, htail⟩ := hv.unique hv' (Numeral.ends_before hafter (by decide))
        (Numeral.ends_before hafter' (by decide))
        (hv.eq_behind_blank hv' hspace hspace' hvalue)
      obtain ⟨hsame, hrest⟩ := hmore.unique hmore'
        (eq_behind_blank hafter hafter' (by decide) (by decide) htail).2
      exact ⟨by rw [hsame], hrest⟩
termination_by 2 * bs.length + 1

end

/-- A text has one value. -/
theorem Document.unique {v w : Json} {bs : List UInt8} (h : Document v bs) (h' : Document w bs) :
    v = w := by
  have hend {ws : List UInt8} (hws : IsBlank ws) : Numeral.Ends ws := by
    simpa using Numeral.ends_nil.append hws
  generalize hbs : bs = cs at h'
  cases h with
  | mk hbefore hv hafter =>
    cases h' with
    | mk hbefore' hv' hafter' =>
      exact (hv.unique hv' (hend hafter) (hend hafter')
        (hv.eq_behind_blank hv' hbefore hbefore' hbs)).1

/-! ## Texts without a value -/

theorem WrittenMembers.exists_first {m : String × Json} {ms : List (String × Json)}
    {bs : List UInt8} (h : WrittenMembers m ms bs) : ∃ before name between space value more,
      IsBlank before ∧ WrittenString m.1 name ∧ IsBlank between ∧ IsBlank space ∧
      Written m.2 value ∧
      bs = before ++ (name ++ (between ++ byte ':' :: (space ++ (value ++ more)))) := by
  cases h with
  | last hbefore hname hbetween hspace hvalue hafter =>
    exact ⟨_, _, _, _, _, _, hbefore, hname, hbetween, hspace, hvalue, rfl⟩
  | cons hbefore hname hbetween hspace hvalue hafter hmore =>
    exact ⟨_, _, _, _, _, _, hbefore, hname, hbetween, hspace, hvalue, rfl⟩

theorem not_document_of_string {k : String} {name rest : List UInt8} (hname : WrittenString k name)
    (hrest : ∀ x, string rest ≠ .ok x) (ms : List (String × Json)) :
    ¬ Document (.object ms) (byte '{' :: (name ++ byte ':' :: byte '"' :: rest)) := by
  intro h
  generalize hbody : byte '{' :: (name ++ byte ':' :: byte '"' :: rest) = body at h
  cases h with
  | @mk before value after hbefore hvalue hafter =>
    cases hvalue with
    | @emptyObject ws hws =>
      obtain ⟨inner, rfl, -⟩ := hname.string
      have hinner := (eq_behind_blank isBlank_nil hbefore (by decide) (by decide)
        (show [] ++ byte '{' :: _ = before ++ byte '{' :: (ws ++ byte '}' :: after) by
          simpa using hbody)).2
      exact absurd (eq_behind_blank isBlank_nil hws (by decide) (by decide) hinner).1 (by decide)
    | @object m ms bs hmembers =>
      obtain ⟨l, v⟩ := m
      obtain ⟨before', name', between, space, value, more, hbefore', hname', hbetween, hspace,
        hvalue, rfl⟩ := hmembers.exists_first
      have hinner := (eq_behind_blank isBlank_nil hbefore (by decide) (by decide)
        (show [] ++ byte '{' :: _ = before ++ byte '{' :: (before' ++ (name' ++ (between ++
          byte ':' :: (space ++ (value ++ (more ++ byte '}' :: after)))))) by simpa using hbody)).2
      have hquote := (unique_before_colon hname hname' isBlank_nil hbefore' isBlank_nil hbetween
        hinner).2
      have hskip := hvalue.skipBlank hspace (more ++ byte '}' :: after)
      rw [← hquote, skipBlank_cons (by decide)] at hskip
      obtain ⟨b, tail, rfl, hb⟩ := hvalue.begins
      obtain ⟨rfl, htail⟩ := List.cons.inj hskip
      cases v with
      | text s =>
        cases hvalue with
        | text hs =>
          obtain ⟨inner, hcons, hread⟩ := hs.string
          obtain rfl := (List.cons.inj hcons).2
          rw [show rest = tail ++ (more ++ byte '}' :: after) from htail] at hrest
          exact hrest _ (hread _)
      | boolean value => cases value <;> cases hb
      | null | number _ | array _ | object _ => cases hb

end Reachability.Json
