import Reachability.Json.Reader
import Reachability.Proofs.Json.Skip

/-!
# Written records are read back

A reader reads a value if it finds the same thing in every text of it. A record is read from
an object whose members may stand in any order and may be strange to it: each member that it
knows changes the record, and the others are skipped.
-/
namespace Reachability.Json

namespace Reader

/-- Holds if a reader finds something in every text of a value. -/
def Reads (r : Reader α) (v : Json) (a : α) : Prop :=
  ∀ ⦃before bs rest : List UInt8⦄, IsBlank before → Written v bs → Numeral.Ends rest →
    r (before ++ (bs ++ rest)) = .ok (a, rest)

theorem onValue_written {v : Json} {before rest : List UInt8} {b : UInt8} {tail : List UInt8}
    (r : UInt8 → Reader α) (hbefore : IsBlank before) (h : Written v (b :: tail)) :
    onValue r (before ++ (b :: tail ++ rest)) = r b (tail ++ rest) := by
  rw [onValue, h.skipBlank hbefore]
  rfl

theorem reads_text (s : String) : Reads text (.text s) s := by
  intro before bs rest hbefore h hrest
  have hs : WrittenString s bs := by
    cases h with
    | text h => exact h
  obtain ⟨inner, rfl, hread⟩ := hs.string
  rw [text, onValue_written _ hbefore h]
  simp only [beq_self_eq_true, if_true, hread]

theorem reads_natural {n limit : Nat} (hlimit : n ≤ limit) (hsize : n < UInt64.size)
    (name : String) : Reads (natural limit name) (.natural n) n := by
  intro before bs rest hbefore h hrest
  have hn : ∃ cs, (Numeral.ofNat n).Written cs ∧ bs = bytes cs := by
    cases h with
    | number h => exact ⟨_, h, rfl⟩
  obtain ⟨cs, hcs, rfl⟩ := hn
  obtain ⟨b, tail, hcons, hb⟩ := hcs.begins
  have hread : Number.read (b :: (tail ++ rest)) = .ok (.natural n, rest) := by
    have := Number.read_bytes hcs hrest
    rwa [hcons, Number.ofNumeral_ofNat hsize] at this
  rw [hcons] at h ⊢
  rw [natural, onValue_written _ hbefore h]
  simp only [hb, if_true, hread, bind, Except.bind, hlimit]
  rfl

theorem reads_optional_null (r : Reader α) : Reads (optional r) .null none := by
  intro before bs rest hbefore h hrest
  cases h with
  | null =>
    have hword : word ("ull".toList.map byte) (bytes "ull".toList ++ rest) = .ok ((), rest) :=
      word_bytes _ rest
    have hskip := Written.null.skipBlank hbefore rest
    have hcons : bytes "null".toList = byte 'n' :: bytes "ull".toList := rfl
    simp only [hcons, List.cons_append] at hskip ⊢
    simp only [optional, hskip, beq_self_eq_true, if_true, hword]
    rfl

theorem reads_optional {r : Reader α} {v : Json} {a : α} (hnull : v ≠ .null)
    (hr : Reads r v a) : Reads (optional r) v (some a) := by
  intro before bs rest hbefore h hrest
  have hread := hr isBlank_nil h hrest
  obtain ⟨b, tail, rfl, hb⟩ := h.begins
  have hn : (b == byte 'n') = false := by
    rw [beq_eq_false_iff_ne]
    rintro rfl
    cases v with
    | null => exact hnull rfl
    | boolean value => cases value <;> cases hb
    | number _ | text _ | array _ | object _ => cases hb
  have hskip := h.skipBlank hbefore rest
  simp only [List.nil_append, List.cons_append] at hread hskip ⊢
  simp only [optional, hskip, hn, Bool.false_eq_true, if_false, hread]
  rfl

theorem reads_into {r : Reader α} {v : Json} {a : α} (hr : Reads r v a) (set : α → ρ → ρ) :
    Reads (into r set) v (set a) := by
  intro before bs rest hbefore h hrest
  simp only [into, hr hbefore h hrest]
  rfl

end Reader

namespace Shape

/-- What stands in front of a member: nothing, or a comma behind the member before it. -/
inductive Lead : (isFirst : Bool) → List UInt8 → Prop
  | first : Lead true []
  | next {ws : List UInt8} (h : IsBlank ws) : Lead false (ws ++ [byte ','])

theorem memberName_written {isFirst : Bool} {k : String} {lead before name : List UInt8}
    (hlead : Lead isFirst lead) (hbefore : IsBlank before) (h : WrittenString k name)
    (rest : List UInt8) :
    memberName isFirst (lead ++ (before ++ (name ++ rest))) = .ok (some k, rest) := by
  obtain ⟨inner, rfl, hread⟩ := h.string
  have hskip : skipBlank (before ++ (byte '"' :: inner ++ rest)) = byte '"' :: (inner ++ rest) := by
    rw [skipBlank_append hbefore, List.cons_append, skipBlank_cons (by decide)]
  have hclosing : (byte '"' == byte '}') = false := by decide
  cases hlead with
  | first =>
    simp only [memberName, List.nil_append, hskip, hclosing, Bool.false_eq_true, if_false, if_true,
      beq_self_eq_true, hread]
    rfl
  | next hws =>
    have hcomma : (byte ',' == byte '}') = false := by decide
    simp only [memberName, List.append_assoc, List.singleton_append, skipBlank_append hws,
      skipBlank_cons (show isBlank (byte ',') = false by decide), hcomma, Bool.false_eq_true,
      if_false, bne_self_eq_false, hskip, beq_self_eq_true, if_true, hread]
    rfl

theorem memberName_end (isFirst : Bool) {ws : List UInt8} (hws : IsBlank ws) (rest : List UInt8) :
    memberName isFirst (ws ++ byte '}' :: rest) = .ok (none, rest) := by
  simp only [memberName, skipBlank_append hws,
    skipBlank_cons (show isBlank (byte '}') = false by decide), beq_self_eq_true, if_true]

theorem colon_written {ws : List UInt8} (hws : IsBlank ws) (rest : List UInt8) :
    colon (ws ++ byte ':' :: rest) = .ok rest := by
  simp only [colon, skipBlank_append hws,
    skipBlank_cons (show isBlank (byte ':') = false by decide), beq_self_eq_true, if_true]

variable {ρ : Type} {s : Shape ρ} {step : ρ → String → ρ}

/-- Holds if a member changes a record of a shape as the given step does for its name. -/
structure Follows (s : Shape ρ) (step : ρ → String → ρ) (m : String × Json) : Prop where
  known : ∀ field ∈ s.fields, field.name = m.1 → field.read.Reads m.2 (step · m.1)
  unknown : (∀ field ∈ s.fields, field.name ≠ m.1) → ∀ r, step r m.1 = r

theorem members_step {k : String} {v : Json} {isFirst : Bool} {seen : List String} {r : ρ}
    {bs between space value after : List UInt8} (fuel : Nat)
    (hname : memberName isFirst bs =
      .ok (some k, between ++ byte ':' :: (space ++ (value ++ after))))
    (hbetween : IsBlank between) (hspace : IsBlank space) (hv : Written v value)
    (hafter : Numeral.Ends after) (hfollows : Follows s step (k, v))
    (hseen : ∀ field ∈ s.fields, field.name = k → k ∉ seen) :
    ∃ seen', (seen' = seen ∨ seen' = k :: seen) ∧
      members s.fields isFirst (fuel + 1) seen r bs =
        members s.fields false fuel seen' (step r k) after := by
  rw [members]
  simp only [hname, bind, Except.bind]
  cases hfind : s.fields.find? (fun field => field.name == k) with
  | none =>
    refine ⟨seen, .inl rfl, ?_⟩
    have hunknown : ∀ field ∈ s.fields, field.name ≠ k := by simpa using hfind
    simp only [colon_written hbetween, hv.outline.skip hspace hafter, hfollows.unknown hunknown r]
  | some field =>
    refine ⟨k :: seen, .inr rfl, ?_⟩
    have hmem := List.mem_of_find?_eq_some hfind
    have hk : field.name = k := by simpa using List.find?_some hfind
    have hread := hfollows.known field hmem hk hspace hv hafter
    have hcontains : seen.contains k = false := by simpa using hseen field hmem hk
    simp only [hcontains, Bool.false_eq_true, if_false, colon_written hbetween, hread]

theorem not_mem_of_once {name : String} {seen names : List String}
    (h : (seen ++ name :: names).count name ≤ 1) : name ∉ seen := by
  intro hmem
  have hseen := List.one_le_count_iff.mpr hmem
  rw [List.count_append, List.count_cons_self] at h
  omega

/-- All members are read, if none that the shape knows comes twice. The induction is on the
members that are left; what may not come twice is a name among those seen and those left. -/
theorem members_written {m : String × Json} {ms : List (String × Json)} {isFirst : Bool}
    {seen : List String} {r : ρ} {fuel : Nat} {lead bs rest : List UInt8}
    (hlead : Lead isFirst lead) (h : WrittenMembers m ms bs)
    (hfollows : ∀ n ∈ m :: ms, Follows s step n)
    (honce : ∀ field ∈ s.fields, (seen ++ (m :: ms).map (·.1)).count field.name ≤ 1)
    (hfuel : bs.length < fuel) :
    members s.fields isFirst fuel seen r (lead ++ (bs ++ byte '}' :: rest)) =
      .ok (((m :: ms).map (·.1)).foldl step r, rest) := by
  obtain ⟨fuel, rfl⟩ := Nat.exists_eq_succ_of_ne_zero (show fuel ≠ 0 by omega)
  induction ms generalizing m isFirst seen r fuel lead bs with
  | nil =>
    cases h with
    | @last k v before name between space value after hbefore hname hbetween hspace hv hafter =>
      have hend : Numeral.Ends (after ++ byte '}' :: rest) :=
        Numeral.ends_before hafter (by decide)
      have hmember := memberName_written hlead hbefore hname
        (between ++ byte ':' :: (space ++ (value ++ (after ++ byte '}' :: rest))))
      obtain ⟨seen', -, hstep⟩ := members_step (r := r) fuel hmember hbetween hspace hv hend
        (hfollows _ List.mem_cons_self)
        (fun field hfield hk => not_mem_of_once (hk ▸ honce field hfield))
      simp only [List.append_assoc, List.cons_append, hstep]
      simp only [List.length_append, List.length_cons] at hfuel
      obtain ⟨fuel, rfl⟩ := Nat.exists_eq_succ_of_ne_zero (show fuel ≠ 0 by omega)
      simp only [members, memberName_end false hafter, bind, Except.bind]
      rfl
  | cons m' ms ih =>
    cases h with
    | @cons k v _ _ before name between space value after more hbefore hname hbetween hspace hv
        hafter hmore =>
      have hend : Numeral.Ends (after ++ byte ',' :: (more ++ byte '}' :: rest)) :=
        Numeral.ends_before hafter (by decide)
      have hmember := memberName_written hlead hbefore hname (between ++ byte ':' ::
        (space ++ (value ++ (after ++ byte ',' :: (more ++ byte '}' :: rest)))))
      obtain ⟨seen', hseen', hstep⟩ := members_step (r := r) fuel hmember hbetween hspace hv hend
        (hfollows _ List.mem_cons_self)
        (fun field hfield hk => not_mem_of_once (hk ▸ honce field hfield))
      have honce' : ∀ field ∈ s.fields,
          (seen' ++ (m' :: ms).map (·.1)).count field.name ≤ 1 := by
        intro field hfield
        have hcount := honce field hfield
        simp only [List.map_cons, List.count_append, List.count_cons] at hcount ⊢
        rcases hseen' with rfl | rfl
        · omega
        · rw [List.count_cons]
          omega
      simp only [List.length_append, List.length_cons] at hfuel
      obtain ⟨fuel, rfl⟩ := Nat.exists_eq_succ_of_ne_zero (show fuel ≠ 0 by omega)
      have htail := ih (r := step r k) (.next hafter) hmore
        (fun n hn => hfollows n (List.mem_cons_of_mem _ hn)) honce' fuel (by omega)
      simp only [List.append_assoc, List.cons_append, List.nil_append] at htail hstep ⊢
      rw [hstep, htail]
      rfl

theorem read_object {ms : List (String × Json)} {before inner after : List UInt8}
    (h : Written (.object ms) (byte '{' :: inner)) (hbefore : IsBlank before) :
    s.read (before ++ (byte '{' :: inner ++ after)) =
      members s.fields true ((inner ++ after).length + 1) [] s.defaults (inner ++ after) := by
  rw [Shape.read, Reader.onValue_written _ hbefore h]
  simp only [beq_self_eq_true, if_true]

/-- An object is read as a record, and nothing may follow it but white space. -/
theorem readAll_document {ms : List (String × Json)} {body : List UInt8}
    (h : Document (.object ms) body) (hfollows : ∀ m ∈ ms, Follows s step m)
    (honce : ∀ field ∈ s.fields, (ms.map (·.1)).count field.name ≤ 1) :
    s.readAll body = .ok ((ms.map (·.1)).foldl step s.defaults) := by
  cases h with
  | @mk before value after hbefore hv hafter =>
    have hread : s.read (before ++ (value ++ after)) =
        .ok ((ms.map (·.1)).foldl step s.defaults, after) := by
      cases hv with
      | emptyObject hws =>
        have hend := memberName_end true hws after
        rw [read_object (.emptyObject hws) hbefore, List.append_assoc, members,
          List.singleton_append]
        simp only [hend, bind, Except.bind]
        rfl
      | object hmembers =>
        rw [read_object (.object hmembers) hbefore, List.append_assoc, List.singleton_append]
        refine members_written .first hmembers hfollows honce ?_
        simp only [List.length_append, List.length_cons]
        omega
    simp only [readAll, hread, skipBlank_of_isBlank hafter, bind, Except.bind]
    rfl

end Shape

end Reachability.Json
