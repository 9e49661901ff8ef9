import Reachability.Proofs.Address.Text

/-!
# What is read as an address

The readers of addresses take from the front of a text what is a text of the address, and nothing
else. So a whole text is read as an address exactly if it is one of the texts of that address, and
it consists of digits, colons and dots.
-/
namespace Reachability

open Decimal (digits)

namespace AddressText

variable {cs rest : List Char}

/-! ## Version 4 -/

theorem eq_of_expect {c : Char} {u : Unit} (h : expect c cs = some (u, rest)) : cs = c :: rest := by
  cases cs with
  | nil => cases h
  | cons d cs =>
    rw [expect, Option.ite_none_right_eq_some] at h
    obtain ⟨rfl, hrest⟩ := h
    rw [(Prod.mk.inj (Option.some_inj.mp hrest)).2]

theorem eq_of_octet {o : UInt8} (h : octet cs = some (o, rest)) :
    cs = digits o.toNat ++ rest := by
  unfold octet at h
  split at h
  · cases h
  · next n left hdecimal =>
    rw [Option.ite_none_right_eq_some] at h
    obtain ⟨hzero, hread⟩ := h
    obtain ⟨rfl, rfl⟩ := Prod.mk.inj (Option.some_inj.mp hread)
    obtain ⟨_, hnumber, hleft⟩ := Option.map_eq_some_iff.mp hdecimal
    obtain ⟨rfl, rfl⟩ := Prod.mk.inj hleft
    obtain ⟨hne, hdigits, hvalue, hlimit⟩ := Decimal.numberUpTo?_eq_some.mp hnumber
    have hhead : (cs.takeWhile Decimal.isDigit).length = 1 ∨
        (cs.takeWhile Decimal.isDigit).head? ≠ some '0' := by
      refine hzero.imp_right fun hne0 hhead => hne0 ?_
      obtain ⟨c, front, hfront⟩ := List.exists_cons_of_ne_nil hne
      rw [hfront] at hhead
      rw [← List.takeWhile_append_dropWhile (p := Decimal.isDigit) (l := cs), hfront]
      exact hhead
    have hfront := Decimal.digits_value hne hdigits hhead
    rw [UInt8.toNat_ofNat_of_lt' (Nat.lt_succ_of_le hlimit), ← hvalue, hfront,
      List.takeWhile_append_dropWhile]

theorem eq_of_ipv4 {a : Ipv4} (h : ipv4 cs = some (a, rest)) : cs = a.toText.toList ++ rest := by
  simp only [ipv4, Option.bind_eq_bind, Option.bind_eq_some_iff, Prod.exists] at h
  obtain ⟨first, _, h₁, _, _, hdot₁, second, _, h₂, _, _, hdot₂, third, _, h₃, _, _, hdot₃,
    fourth, _, h₄, hread⟩ := h
  obtain ⟨rfl, rfl⟩ := Prod.mk.inj (Option.some_inj.mp hread)
  rw [eq_of_octet h₁, eq_of_expect hdot₁, eq_of_octet h₂, eq_of_expect hdot₂, eq_of_octet h₃,
    eq_of_expect hdot₃, eq_of_octet h₄, Ipv4.toList_toText]
  simp [Ipv4.chars]

/-! ## Groups -/

theorem exists_of_group {g : UInt16} (h : group cs = some (g, rest)) :
    ∃ front, WrittenGroup g front ∧ cs = front ++ rest := by
  simp only [group, Option.ite_none_right_eq_some, Option.some.injEq, Prod.mk.injEq] at h
  obtain ⟨⟨hleast, hmost⟩, rfl, rfl⟩ := h
  refine ⟨cs.takeWhile Hexadecimal.isDigit, ⟨?_, hmost, ?_, ?_⟩,
    List.takeWhile_append_dropWhile.symm⟩
  · exact List.length_pos_iff.mp hleast
  · exact List.all_eq_true.mp List.all_takeWhile
  · rw [UInt16.toNat_ofNat_of_lt' (Hexadecimal.value_lt_of_length hmost)]

theorem eq_of_separated {α : Type} {isFirst : Bool} {r : Reader α} {a : α}
    (h : separated isFirst r cs = some (a, rest)) :
    ∃ text, cs = (if isFirst then [] else [':']) ++ text ∧ r text = some (a, rest) := by
  cases isFirst with
  | true => exact ⟨cs, rfl, h⟩
  | false =>
    obtain ⟨⟨_, text⟩, hcolon, hread⟩ := Option.bind_eq_some_iff.mp h
    exact ⟨text, eq_of_expect hcolon, hread⟩

/-- What is read as groups is nothing at all, or a text of these groups behind the colon that
divides it from others. The induction is on the number of groups that are still allowed. -/
theorem exists_of_groups {isFirst hasTail : Bool} {limit : Nat} {gs : List UInt16}
    (h : groups isFirst limit cs = (gs, hasTail, rest)) :
    gs = [] ∧ hasTail = false ∧ cs = rest ∨
      gs.length ≤ limit ∧ ∃ text, WrittenGroups hasTail gs text ∧
        cs = (if isFirst then [] else [':']) ++ (text ++ rest) := by
  induction limit generalizing isFirst cs gs with
  | zero =>
    cases h
    exact .inl ⟨rfl, rfl, rfl⟩
  | succ limit ih =>
    rw [groups] at h
    split at h
    · next a left hread =>
      rw [Option.ite_none_right_eq_some] at hread
      obtain ⟨hlimit, hread⟩ := hread
      obtain ⟨text, hcs, htext⟩ := eq_of_separated hread
      cases h
      rw [eq_of_ipv4 htext] at hcs
      exact .inr ⟨Nat.succ_le_succ hlimit, _, .embedded a, hcs⟩
    · split at h
      · cases h
        exact .inl ⟨rfl, rfl, rfl⟩
      · next g left hread =>
        obtain ⟨text, hcs, htext⟩ := eq_of_separated hread
        obtain ⟨digits, hdigits, rfl⟩ := exists_of_group htext
        generalize hmore : groups false limit left = more at h
        obtain ⟨gs', hasTail', left'⟩ := more
        cases h
        rcases ih hmore with ⟨rfl, rfl, rfl⟩ | ⟨hlimit, more, hwritten, rfl⟩
        · exact .inr ⟨Nat.succ_le_succ (Nat.zero_le _), digits, .last hdigits, hcs⟩
        · refine .inr ⟨Nat.succ_le_succ hlimit, _, .cons hdigits hwritten, ?_⟩
          rw [hcs]
          simp

theorem exists_of_side {hasTail : Bool} {limit : Nat} {gs : List UInt16}
    (h : groups true limit cs = (gs, hasTail, rest)) :
    gs.length ≤ limit ∧ ∃ text, WrittenSide hasTail gs text ∧ cs = text ++ rest := by
  rcases exists_of_groups h with ⟨rfl, rfl, rfl⟩ | ⟨hlimit, text, htext, hcs⟩
  · exact ⟨Nat.zero_le _, [], .none, rfl⟩
  · exact ⟨hlimit, text, .some htext, hcs⟩

end AddressText

/-! ## Version 6 -/

theorem Ipv6.toGroups_of_ofGroups? {gs : List UInt16} {a : Ipv6} (h : ofGroups? gs = some a) :
    a.toGroups = gs := by
  rw [ofGroups?, Option.dite_none_right_eq_some] at h
  obtain ⟨_, h⟩ := h
  rw [← Option.some_inj.mp h]
  rfl

namespace AddressText

variable {cs rest : List Char}

theorem exists_of_ipv6 {a : Ipv6} (h : ipv6 cs = some (a, rest)) :
    ∃ text, a.Written text ∧ cs = text ++ rest := by
  unfold ipv6 at h
  generalize hhead : groups true 8 cs = head at h
  obtain ⟨front, hasTail, left⟩ := head
  obtain ⟨hfront, before, hbefore, rfl⟩ := exists_of_side hhead
  dsimp only at h
  split at h
  · next hlength =>
    obtain ⟨_, ha, h⟩ := Option.bind_eq_some_iff.mp h
    obtain ⟨rfl, rfl⟩ := Prod.mk.inj (Option.some_inj.mp h)
    have hgroups := Ipv6.toGroups_of_ofGroups? ha
    cases hbefore with
    | none => cases hlength
    | some hbefore =>
      rw [← hgroups] at hbefore
      exact ⟨before, .whole hbefore, rfl⟩
  · next hlength =>
    split at h
    · cases h
    · next htail =>
      obtain rfl : hasTail = false := Bool.eq_false_iff.mpr htail
      obtain ⟨⟨_, first⟩, hfirst, h⟩ := Option.bind_eq_some_iff.mp h
      dsimp only at h
      obtain ⟨⟨_, second⟩, hsecond, h⟩ := Option.bind_eq_some_iff.mp h
      dsimp only at h
      generalize hback : groups true (7 - front.length) second = tail at h
      obtain ⟨back, hasTail, left⟩ := tail
      dsimp only at h
      obtain ⟨hmost, after, hafter, hsplit⟩ := exists_of_side hback
      obtain ⟨_, ha, h⟩ := Option.bind_eq_some_iff.mp h
      obtain ⟨rfl, rfl⟩ := Prod.mk.inj (Option.some_inj.mp h)
      have hgroups := Ipv6.toGroups_of_ofGroups? ha
      rw [List.append_assoc] at hgroups
      refine ⟨_, .shortened hgroups (by omega) hbefore hafter, ?_⟩
      rw [eq_of_expect hfirst, eq_of_expect hsecond, hsplit]
      simp

/-! ## Characters -/

def IsAddressChar (c : Char) : Prop := Hexadecimal.isDigit c = true ∨ c = ':' ∨ c = '.'

instance : DecidablePred IsAddressChar := fun _ => inferInstanceAs (Decidable (_ ∨ _ ∨ _))

theorem isDigit_of_decimal {c : Char} (h : Decimal.isDigit c = true) :
    Hexadecimal.isDigit c = true := by
  rw [Decimal.isDigit, Decimal.digit?] at h
  split at h
  · next hc => rw [Hexadecimal.isDigit, Hexadecimal.digit?, if_pos hc, Option.isSome_some]
  · cases h

theorem isAddressChar_ipv4 (a : Ipv4) : ∀ c ∈ a.toText.toList, IsAddressChar c := by
  have hdigits (n : Nat) : ∀ c ∈ digits n, IsAddressChar c := fun c hc =>
    .inl (isDigit_of_decimal (List.all_eq_true.mp (Decimal.all_isDigit_digits n) c hc))
  have hdot : IsAddressChar '.' := .inr (.inr rfl)
  simp only [Ipv4.toList_toText, Ipv4.chars, List.forall_mem_append, List.forall_mem_cons]
  exact ⟨hdigits _, hdot, hdigits _, hdot, hdigits _, hdot, hdigits _⟩

theorem WrittenGroups.isAddressChar {hasTail : Bool} {gs : List UInt16}
    (h : WrittenGroups hasTail gs cs) : ∀ c ∈ cs, IsAddressChar c := by
  induction h with
  | last h => exact fun c hc => .inl (h.isDigit c hc)
  | embedded a => exact isAddressChar_ipv4 a
  | cons h _ ih =>
    rw [List.forall_mem_append, List.forall_mem_cons]
    exact ⟨fun c hc => .inl (h.isDigit c hc), .inr (.inl rfl), ih⟩

theorem WrittenSide.isAddressChar {hasTail : Bool} {gs : List UInt16}
    (h : WrittenSide hasTail gs cs) : ∀ c ∈ cs, IsAddressChar c := by
  cases h with
  | none => simp
  | some h => exact h.isAddressChar

end AddressText

open AddressText (IsAddressChar)

variable {cs : List Char}

theorem Ipv6.Written.isAddressChar {a : Ipv6} (h : a.Written cs) : ∀ c ∈ cs, IsAddressChar c := by
  cases h with
  | whole h => exact h.isAddressChar
  | shortened _ _ hbefore hafter =>
    have hcolon : IsAddressChar ':' := .inr (.inl rfl)
    simp only [List.forall_mem_append, List.forall_mem_cons]
    exact ⟨hbefore.isAddressChar, hcolon, hcolon, hafter.isAddressChar⟩

namespace AddressText

theorem exists_of_whole {α : Type} {r : Reader α} {a : α} (h : whole r cs = some a) :
    r cs = some (a, []) := by
  unfold whole at h
  split at h
  · next b hread => rw [hread, Option.some_inj.mp h]
  · cases h

/-- A text that is read as an address of version 6 consists of characters of addresses. -/
theorem isAddressChar_of_whole_ipv6 {a : Ipv6} (h : whole ipv6 cs = some a) :
    ∀ c ∈ cs, IsAddressChar c := by
  obtain ⟨text, htext, rfl⟩ := exists_of_ipv6 (exists_of_whole h)
  rw [List.append_nil]
  exact htext.isAddressChar

end AddressText

namespace IpAddress

theorem Written.isAddressChar {a : IpAddress} (h : a.Written cs) : ∀ c ∈ cs, IsAddressChar c := by
  cases h with
  | v4 a => exact AddressText.isAddressChar_ipv4 a
  | v6 h => exact h.isAddressChar

/-- A text is read as an address exactly if it is one of its texts. -/
theorem ofText?_eq_some {s : String} {a : IpAddress} :
    ofText? s = some a ↔ a.Written s.toList := by
  refine ⟨fun h => ?_, Written.ofText?⟩
  have hread := AddressText.exists_of_whole h
  unfold AddressText.ip at hread
  split at hread
  · next v4 rest h4 =>
    obtain ⟨rfl, rfl⟩ := Prod.mk.inj (Option.some_inj.mp hread)
    rw [AddressText.eq_of_ipv4 h4, List.append_nil]
    exact .v4 v4
  · obtain ⟨⟨v6, rest⟩, h6, hread⟩ := Option.map_eq_some_iff.mp hread
    obtain ⟨rfl, rfl⟩ := Prod.mk.inj hread
    obtain ⟨text, htext, hs⟩ := AddressText.exists_of_ipv6 h6
    rw [hs, List.append_nil]
    exact .v6 htext

theorem ofText?_eq_none {s : String} : ofText? s = none ↔ ∀ a : IpAddress, ¬ a.Written s.toList := by
  simp only [← ofText?_eq_some, Option.eq_none_iff_forall_ne_some, ne_eq]

/-- Version 6 in capitals with zeros in front, and with a version 4 address at its end. -/
example : ofText? "0DB8::00aB:1.2.3.4" =
    some (.v6 ⟨#v[0x0DB8, 0, 0, 0, 0, 0xAB, 0x0102, 0x0304]⟩) := by decide +kernel

end IpAddress

end Reachability
