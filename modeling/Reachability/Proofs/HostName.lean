import Mathlib.Data.List.TakeWhile
import Reachability.HostName
import Reachability.Proofs.Address.Reading
import Reachability.Proofs.Text.Split
import Reachability.Text.Blank

/-!
# Which hosts are looked up

The name of a host is what stands between its brackets, or the whole host if it lacks one of them.
A name that is a text of an address has this address, and a name whose last label is `invalid` has
none. All others, and only these, are looked up, and each as it is.
-/
namespace Reachability.HostName

open Text (lowerAscii splitAtEach dropTrailing)

/-- The name of a host: what stands between a bracket at its front and one at its end, or else the
host as it is. -/
inductive Names (host : String) : String → Prop
  | bracketed {name : String} (h : host.toList = '[' :: (name.toList ++ [']'])) : Names host name
  | plain (h : ∀ cs, host.toList ≠ '[' :: (cs ++ [']'])) : Names host host

/-- Holds of a name whose last label is `invalid` in any case, dots at its end aside. -/
def IsReserved (name : String) : Prop :=
  ∃ label ∈ (splitAtEach '.' (dropTrailing (· == '.') name.toList)).getLast?,
    label.map lowerAscii = "invalid".toList

/-! ## Brackets -/

theorem names_unbracketed (host : String) : Names host (unbracketed host) := by
  unfold unbracketed
  split
  · next cs hcs =>
    split
    · next hlast =>
      obtain ⟨inner, rfl⟩ := List.getLast?_eq_some_iff.mp hlast
      refine .bracketed ?_
      rw [hcs, List.dropLast_concat, String.toList_ofList]
    · next hlast =>
      refine .plain fun inner hinner => hlast ?_
      rw [hcs] at hinner
      rw [(List.cons.inj hinner).2, List.getLast?_concat]
  · next hplain => exact .plain fun inner hinner => hplain _ hinner

theorem Names.unique {host name other : String} (h : Names host name) (ho : Names host other) :
    name = other := by
  cases h with
  | bracketed h =>
    cases ho with
    | bracketed ho =>
      have hinner := (List.cons.inj (h.symm.trans ho)).2
      exact String.toList_injective (List.append_cancel_right hinner)
    | plain ho => exact absurd h (ho _)
  | plain h =>
    cases ho with
    | bracketed ho => exact absurd ho (h _)
    | plain _ => rfl

theorem names_iff {host name : String} : Names host name ↔ name = unbracketed host := by
  constructor
  · exact fun h => h.unique (names_unbracketed host)
  · rintro rfl
    exact names_unbracketed host

/-! ## Labels -/

theorem lowerAscii_cases (c : Char) : lowerAscii c = c ∨
    0x41 ≤ c.toNat ∧ c.toNat ≤ 0x5A ∧ (lowerAscii c).toNat = c.toNat + 32 := by
  unfold lowerAscii
  split
  · next h =>
    have hlow : 0x41 ≤ c.toNat := h.1
    have hhigh : c.toNat ≤ 0x5A := h.2
    have hvalid : (c.toNat + 32).isValidChar := .inl (by omega)
    refine .inr ⟨hlow, hhigh, ?_⟩
    rw [Char.ofNat, dif_pos hvalid]
    rfl
  · exact .inl rfl

theorem lowerAscii_ne_dot (c : Char) : (lowerAscii c != '.') = (c != '.') := by
  have hne {d : Char} (hd : 0x41 ≤ d.toNat) : (d != '.') = true := by
    rw [bne_iff_ne]
    rintro rfl
    simp at hd
  rcases lowerAscii_cases c with h | ⟨hlow, -, h⟩
  · rw [h]
  · rw [hne hlow, hne (by omega)]

theorem takeWhile_eq_iff {word cs : List Char} (h : ∀ c ∈ word, (c != '.') = true) :
    cs.takeWhile (· != '.') = word ↔ cs = word ∨ word ++ ['.'] <+: cs := by
  constructor
  · rintro rfl
    cases hrest : cs.dropWhile (· != '.') with
    | nil =>
      refine .inl ?_
      have hcs := List.takeWhile_append_dropWhile (p := (· != '.')) (l := cs)
      rw [hrest, List.append_nil] at hcs
      exact hcs.symm
    | cons c rest =>
      have hhead := List.head?_dropWhile_not (· != '.') cs
      rw [hrest] at hhead
      obtain rfl : c = '.' := by simpa using hhead
      refine .inr ⟨rest, ?_⟩
      rw [List.append_assoc, List.singleton_append, ← hrest, List.takeWhile_append_dropWhile]
  · rintro (rfl | ⟨rest, rfl⟩)
    · exact List.takeWhile_eq_self_iff.mpr h
    · rw [List.append_assoc, List.takeWhile_append_of_pos h]
      simp

/-- The last label is the first one from the end. -/
theorem isReserved_iff {name : String} : isReserved name = true ↔ IsReserved name := by
  have hword : ∀ c ∈ "dilavni".toList, (c != '.') = true := List.all_eq_true.mp (by decide)
  have hlower : (lowerAscii · != '.') = (· != '.') := funext lowerAscii_ne_dot
  have hlabel : (reversedName name.toList).takeWhile (· != '.') =
      ((name.toList.reverse.dropWhile (· == '.')).takeWhile (· != '.')).map lowerAscii := by
    rw [reversedName, List.takeWhile_map]
    exact congrArg (fun p => (List.takeWhile p _).map lowerAscii) hlower
  rw [isReserved, Bool.or_eq_true, decide_eq_true_iff, List.isPrefixOf_iff_prefix,
    show "dilavni.".toList = "dilavni".toList ++ ['.'] from rfl, ← takeWhile_eq_iff hword, hlabel]
  simp only [IsReserved, Text.getLast?_splitAtEach, Option.mem_def, Option.some.injEq,
    exists_eq_left', dropTrailing, List.reverse_reverse, List.map_reverse]
  rw [List.reverse_eq_iff]
  rfl

example : isReserved "broker.INVALID.." = true ∧ isReserved "notinvalid" = false := by decide

/-- Addresses are written without a `v`, so no address is a reserved name. -/
theorem not_isReserved_of_written {text : String} {ip : IpAddress} (h : ip.Written text.toList) :
    ¬ IsReserved text := by
  rintro ⟨label, hlabel, hinvalid⟩
  have hv : 'v' ∈ label.map lowerAscii := by
    rw [hinvalid]
    decide
  obtain ⟨c, hc, hlower⟩ := List.mem_map.mp hv
  have hmem : c ∈ text.toList := by
    have hpiece := Text.mem_of_mem_splitAtEach (List.mem_of_getLast? hlabel) hc
    have hdropped := List.mem_reverse.mp hpiece.1
    exact List.mem_reverse.mp ((List.dropWhile_sublist _).subset hdropped)
  have hchar := h.isAddressChar c hmem
  rcases lowerAscii_cases c with heq | ⟨-, -, hcapital⟩
  · rw [← heq, hlower] at hchar
    exact absurd hchar (by decide)
  · rw [hlower] at hcapital
    have hnat : c.toNat = 0x56 := (Nat.add_right_cancel (show 0x56 + 32 = _ from hcapital)).symm
    have hc : c = 'V' := by
      rw [← Char.ofNat_toNat c, hnat]
    rw [hc] at hchar
    exact absurd hchar (by decide)

/-! ## Lookups -/

theorem kind_eq_address {name : String} {ip : IpAddress} :
    kind name = .address ip ↔ ip.Written name.toList := by
  rw [← IpAddress.ofText?_eq_some]
  unfold kind
  split
  · next h => simp [h]
  · next h =>
    rw [h]
    split <;> simp

theorem kind_eq_reserved {name : String} : kind name = .reserved ↔ IsReserved name := by
  unfold kind
  split
  · next ip h =>
    simpa using not_isReserved_of_written (IpAddress.ofText?_eq_some.mp h)
  · rw [← isReserved_iff]
    split <;> simp_all

theorem kind_eq_name {name : String} :
    kind name = .name ↔ ¬ IsReserved name ∧ ∀ ip : IpAddress, ¬ ip.Written name.toList := by
  simp only [← kind_eq_reserved, ← kind_eq_address]
  cases kind name <;> simp

variable {σ : Type}

theorem trace_resolve (net : Network σ) (s : σ) (host : String) :
    (resolve host).trace net s =
      match kind (unbracketed host) with
      | .address ip => (.ok ip, s, [])
      | .reserved => (.error (.unresolved (unbracketed host) reservedReason), s, [])
      | .name =>
        let reply := net.answer s (.lookup (unbracketed host))
        (firstAddress (unbracketed host) reply.1, reply.2, [.lookup (unbracketed host)]) := by
  unfold resolve
  dsimp only
  cases kind (unbracketed host) <;> rfl

/-- A host is resolved by its name, without its brackets. A reserved name fails and a text of an
address is this address, both without a lookup. Every other name, and no other, is looked up as it
is, and the first address that is found or the failure of the lookup is the result. No text is
both an address and reserved. -/
theorem looked_up_unless_known (net : Network σ) (s : σ) (host : String) :
    ∃ name, (∀ other, Names host other ↔ other = name) ∧
      let ended := (resolve host).trace net s
      let reply := net.answer s (.lookup name)
      (ended = (.error (.unresolved name reservedReason), s, []) ↔ IsReserved name) ∧
      (∀ ip : IpAddress, ended = (.ok ip, s, []) ↔ ip.Written name.toList) ∧
      (¬ IsReserved name ∧ (∀ ip : IpAddress, ¬ ip.Written name.toList) ↔ ended.2.2 ≠ []) ∧
      (ended.2.2 ≠ [] → ended.2 = (reply.2, [.lookup name]) ∧
        (∀ reason, reply.1 = .error reason → ended.1 = .error (.unresolved name reason)) ∧
        (reply.1 = .ok [] → ended.1 = .error (.unresolved name "no addresses returned")) ∧
        ∀ ip more, reply.1 = .ok (ip :: more) → ended.1 = .ok ip) ∧
      ∀ (text : String) (ip : IpAddress), ip.Written text.toList → ¬ IsReserved text := by
  refine ⟨unbracketed host, fun other => names_iff, ?_⟩
  intro ended reply
  have htrace : ended = _ := trace_resolve net s host
  generalize unbracketed host = name at reply htrace ⊢
  have hreserved : ended = (.error (.unresolved name reservedReason), s, []) ↔
      kind name = .reserved := by
    rw [htrace]
    cases kind name <;> simp
  have haddress (ip : IpAddress) : ended = (.ok ip, s, []) ↔ kind name = .address ip := by
    rw [htrace]
    cases kind name <;> simp
  have hname : kind name = .name ↔ ended.2.2 ≠ [] := by
    rw [htrace]
    cases kind name <;> simp
  refine ⟨hreserved.trans kind_eq_reserved, fun ip => (haddress ip).trans kind_eq_address,
    kind_eq_name.symm.trans hname, ?_, fun _ _ => not_isReserved_of_written⟩
  intro hasked
  rw [hname.mpr hasked] at htrace
  rw [htrace]
  refine ⟨rfl, ?_, ?_, ?_⟩
  · intro reason hreply
    simp [firstAddress, reply, hreply]
  · intro hreply
    simp [firstAddress, reply, hreply]
  · intro ip more hreply
    simp [firstAddress, reply, hreply]

end Reachability.HostName
