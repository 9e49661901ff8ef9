import Reachability.Address.Grammar
import Reachability.Proofs.Digits

/-!
# Addresses are read from each of their texts

A version 4 address is read up to the first character that is no digit. A text of a version 6
address is one run of groups, or two with `::` between them, and what `::` stands for is as many
zeros as are missing. The text that an address is given in print is one of these.
-/
namespace Reachability

open Decimal (digits)

/-! ## Version 4 -/

namespace Ipv4

def chars (a : Ipv4) : List Char :=
  digits a.first.toNat ++ '.' :: (digits a.second.toNat ++ '.' ::
    (digits a.third.toNat ++ '.' :: digits a.fourth.toNat))

theorem toList_toText (a : Ipv4) : a.toText.toList = a.chars := by
  simp [toText, octets, chars, Decimal.text]

end Ipv4

namespace AddressText

/-- Holds of a text that does not go on with a decimal digit. -/
def EndsDigits (cs : List Char) : Prop := ∀ c ∈ cs.head?, Decimal.isDigit c = false

theorem takeWhile_digits (n : Nat) {rest : List Char} (h : EndsDigits rest) :
    (digits n ++ rest).takeWhile Decimal.isDigit = digits n ∧
      (digits n ++ rest).dropWhile Decimal.isDigit = rest := by
  have hdigits := List.all_eq_true.mp (Decimal.all_isDigit_digits n)
  rw [List.takeWhile_append_of_pos hdigits, List.dropWhile_append_of_pos hdigits]
  cases rest with
  | nil => simp
  | cons c rest => simp [h c rfl]

theorem decimal_digits {n limit : Nat} (hlimit : n ≤ limit) {rest : List Char}
    (h : EndsDigits rest) : decimal limit (digits n ++ rest) = some (n, rest) := by
  obtain ⟨htake, hdrop⟩ := takeWhile_digits n h
  simp [decimal, htake, hdrop, Decimal.numberUpTo?, Decimal.number?, Decimal.digits_ne_nil,
    Decimal.all_isDigit_digits, hlimit]

theorem octet_digits (o : UInt8) {rest : List Char} (h : EndsDigits rest) :
    octet (digits o.toNat ++ rest) = some (o, rest) := by
  have hlimit : o.toNat ≤ 255 := Nat.le_of_lt_succ o.toNat_lt
  obtain ⟨htake, -⟩ := takeWhile_digits o.toNat h
  have hzero : (digits o.toNat).length = 1 ∨ (digits o.toNat ++ rest).head? ≠ some '0' := by
    by_cases hhead : (digits o.toNat).head? = some '0'
    · rw [Decimal.digits_eq_of_head? hhead]
      exact .inl rfl
    · obtain ⟨c, cs, hcons⟩ := List.exists_cons_of_ne_nil (Decimal.digits_ne_nil o.toNat)
      rw [hcons] at hhead ⊢
      exact .inr hhead
  simp only [octet, decimal_digits hlimit h, htake, hzero, if_true, UInt8.ofNat_toNat]

theorem endsDigits_cons {c : Char} {cs : List Char} (h : Decimal.isDigit c = false) :
    EndsDigits (c :: cs) := by
  intro d hd
  obtain rfl : c = d := by simpa using hd
  exact h

theorem ipv4_chars (a : Ipv4) {rest : List Char} (h : EndsDigits rest) :
    ipv4 (a.chars ++ rest) = some (a, rest) := by
  have hdot {cs : List Char} : EndsDigits ('.' :: cs) := endsDigits_cons (by decide)
  simp [ipv4, Ipv4.chars, octet_digits _ hdot, octet_digits _ h, expect]

theorem expect_eq_none {c : Char} {cs : List Char} (h : cs.head? ≠ some c) :
    expect c cs = none := by
  cases cs with
  | nil => rfl
  | cons d cs => simpa [expect] using h

/-- What does not go on with a dot behind its first digits is no version 4 address. -/
theorem ipv4_eq_none {cs : List Char} (h : (cs.dropWhile Decimal.isDigit).head? ≠ some '.') :
    ipv4 cs = none := by
  have hoctet : ∀ o rest, octet cs = some (o, rest) → expect '.' rest = none := by
    intro o rest ho
    simp only [octet, decimal] at ho
    cases hn : Decimal.numberUpTo? 255 (cs.takeWhile Decimal.isDigit) with
    | none => simp [hn] at ho
    | some n =>
      simp only [hn, Option.map_some, Option.ite_none_right_eq_some, Option.some.injEq,
        Prod.mk.injEq] at ho
      exact ho.2.2 ▸ expect_eq_none h
  cases ho : octet cs with
  | none => simp [ipv4, ho]
  | some read => simp [ipv4, ho, hoctet _ _ ho]

/-! ## Groups -/

def EndsGroup (cs : List Char) : Prop := ∀ c ∈ cs.head?, Hexadecimal.isDigit c = false

def groupChars (g : UInt16) : List Char := Nat.toDigits 16 g.toNat

theorem isDigit_of_mem_groupChars {g : UInt16} {c : Char} (h : c ∈ groupChars g) :
    Hexadecimal.isDigit c = true :=
  List.all_eq_true.mp (Hexadecimal.all_isDigit_toDigits g.toNat) c h

theorem writtenGroup_groupChars (g : UInt16) : WrittenGroup g (groupChars g) where
  ne_nil := Nat.toDigits_ne_nil
  length_le := (Nat.length_toDigits_le_iff (by decide) (by decide)).mpr g.toNat_lt
  isDigit := fun _ => isDigit_of_mem_groupChars
  value_eq := Hexadecimal.value_toDigits g.toNat

theorem group_written {g : UInt16} {digits rest : List Char} (h : WrittenGroup g digits)
    (hrest : EndsGroup rest) : group (digits ++ rest) = some (g, rest) := by
  have hnone : rest.takeWhile Hexadecimal.isDigit = [] ∧
      rest.dropWhile Hexadecimal.isDigit = rest := by
    cases rest with
    | nil => exact ⟨rfl, rfl⟩
    | cons c rest => simp [hrest c rfl]
  have hleast : 1 ≤ digits.length := List.length_pos_iff.mpr h.ne_nil
  simp only [group, List.takeWhile_append_of_pos h.isDigit,
    List.dropWhile_append_of_pos h.isDigit, hnone.1, hnone.2, List.append_nil, hleast,
    h.length_le, and_self, if_true, h.value_eq, UInt16.ofNat_toNat]

/-- Groups with a colon before each but the first. -/
def groupsChars (isFirst : Bool) : List UInt16 → List Char
  | [] => []
  | g :: gs => (if isFirst then [] else [':']) ++ (groupChars g ++ groupsChars false gs)

theorem toList_groupsText (gs : List UInt16) :
    (Ipv6.groupsText gs).toList = groupsChars true gs := by
  cases gs with
  | nil => rfl
  | cons g gs =>
    have htail (g : UInt16) : List.intercalate [':'] ((g :: gs).map groupChars) =
        groupChars g ++ groupsChars false gs := by
      induction gs generalizing g with
      | nil => simp [groupsChars]
      | cons g' gs ih =>
        rw [List.map_cons, List.map_cons, List.intercalate_cons_cons, ← List.map_cons, ih]
        simp [groupsChars]
    have hgroups : (g :: gs).map (fun g => (Hexadecimal.text g.toNat).toList) =
        (g :: gs).map groupChars := by simp [groupChars, Hexadecimal.text]
    simp only [Ipv6.groupsText, String.toList_intercalate, List.map_map, Function.comp_def]
    rw [hgroups]
    simpa [groupsChars] using htail g

def AtColon (cs : List Char) : Prop := ∀ c ∈ cs.head?, c = ':'

theorem atColon_cons (cs : List Char) : AtColon (':' :: cs) := by
  intro c hc
  simpa using hc.symm

theorem AtColon.endsGroup {cs : List Char} (h : AtColon cs) : EndsGroup cs := by
  intro c hc
  obtain rfl := h c hc
  decide

/-- Holds of what may stand behind a version 6 address: nothing, its scope, or a bracket. -/
def EndsAddress (cs : List Char) : Prop := ∀ c ∈ cs.head?, c = '%' ∨ c = ']'

theorem endsAddress_nil : EndsAddress [] := by simp [EndsAddress]

def EndsItem (cs : List Char) : Prop := AtColon cs ∨ EndsAddress cs

theorem EndsItem.endsGroup {cs : List Char} (h : EndsItem cs) : EndsGroup cs := by
  rcases h with h | h
  · exact h.endsGroup
  · intro c hc
    rcases h c hc with rfl | rfl <;> decide

theorem EndsItem.head? {cs : List Char} (h : EndsItem cs) :
    ∀ c ∈ cs.head?, Decimal.isDigit c = false ∧ c ≠ '.' := by
  intro c hc
  rcases h with h | h
  · obtain rfl := h c hc
    decide
  · rcases h c hc with rfl | rfl <;> decide

theorem EndsItem.endsDigits {cs : List Char} (h : EndsItem cs) : EndsDigits cs :=
  fun c hc => (h.head? c hc).1

theorem ipv4_of_endsItem {cs : List Char} (h : EndsItem cs) : ipv4 cs = none := by
  apply ipv4_eq_none
  cases cs with
  | nil => simp
  | cons c cs =>
    obtain ⟨hdigit, hdot⟩ := h.head? c rfl
    simp [hdigit, hdot]

/-- Hexadecimal digits are no octet of a version 4 address, as there is no dot behind them. -/
theorem ipv4_digits {digits rest : List Char} (hdigits : ∀ c ∈ digits, Hexadecimal.isDigit c = true)
    (h : EndsItem rest) : ipv4 (digits ++ rest) = none := by
  apply ipv4_eq_none
  induction digits with
  | nil =>
    cases rest with
    | nil => simp
    | cons c rest =>
      obtain ⟨hdigit, hdot⟩ := h.head? c rfl
      simp [hdigit, hdot]
  | cons c digits ih =>
    have hmore := ih fun d hd => hdigits d (List.mem_cons_of_mem _ hd)
    rw [List.cons_append, List.dropWhile_cons]
    split
    · exact hmore
    · rw [List.head?_cons]
      intro hc
      have hdot := hdigits c List.mem_cons_self
      rw [Option.some_inj.mp hc] at hdot
      cases hdot

/-- Holds of what may follow a run of groups: two colons, or what may stand behind an address. -/
def EndsGroups (cs : List Char) : Prop := EndsAddress cs ∨ ∃ more, cs = ':' :: ':' :: more

theorem EndsGroups.endsItem {cs : List Char} (h : EndsGroups cs) : EndsItem cs := by
  rcases h with h | ⟨more, rfl⟩
  · exact .inr h
  · exact .inl (atColon_cons _)

theorem separated_colon {α : Type} (isFirst : Bool) (r : Reader α) (cs : List Char) :
    separated isFirst r ((if isFirst then [] else [':']) ++ cs) = r cs := by
  cases isFirst <;> simp [separated, expect]

theorem ipv4_colon (cs : List Char) : ipv4 (':' :: cs) = none :=
  ipv4_of_endsItem (.inl (atColon_cons cs))

theorem group_colon (cs : List Char) : group (':' :: cs) = none := by
  simp [group, show Hexadecimal.isDigit ':' = false by decide]

theorem groups_end (isFirst : Bool) (limit : Nat) {rest : List Char} (h : EndsGroups rest) :
    groups isFirst limit rest = ([], false, rest) := by
  have hnone : separated isFirst ipv4 rest = none ∧ separated isFirst group rest = none := by
    rcases h with h | ⟨more, rfl⟩
    · cases rest with
      | nil => cases isFirst <;> exact ⟨rfl, rfl⟩
      | cons c rest => rcases h c rfl with rfl | rfl <;> cases isFirst <;> exact ⟨rfl, rfl⟩
    · cases isFirst <;> simp [separated, expect, ipv4_colon, group_colon]
  cases limit with
  | zero => rfl
  | succ limit => simp [groups, hnone]

/-- Groups are read back from each of their texts, whatever may stand behind them. -/
theorem groups_written {isFirst hasTail : Bool} {limit : Nat} {gs : List UInt16}
    {cs rest : List Char} (h : WrittenGroups hasTail gs cs) (hlimit : gs.length ≤ limit)
    (hrest : EndsGroups rest) :
    groups isFirst limit ((if isFirst then [] else [':']) ++ (cs ++ rest)) =
      (gs, hasTail, rest) := by
  induction h generalizing isFirst limit with
  | @last g digits h =>
    obtain ⟨limit, rfl⟩ := Nat.exists_eq_succ_of_ne_zero (Nat.ne_of_gt hlimit)
    have hitem := hrest.endsItem
    simp only [groups, separated_colon, ipv4_digits h.isDigit hitem, group_written h hitem.endsGroup,
      ite_self, groups_end false limit hrest]
  | embedded a =>
    have htwo : 2 ≤ limit := hlimit
    obtain ⟨limit, rfl⟩ := Nat.exists_eq_add_of_le' htwo
    have hread : ipv4 (a.toText.toList ++ rest) = some (a, rest) := by
      rw [a.toList_toText]
      exact ipv4_chars a hrest.endsItem.endsDigits
    simp only [groups, separated_colon, hread, Nat.le_add_left, if_true]
  | @cons hasTail g gs digits more h hmore ih =>
    rw [List.length_cons] at hlimit
    obtain ⟨limit, rfl⟩ := Nat.exists_eq_succ_of_ne_zero (show limit ≠ 0 by omega)
    have hcolon := atColon_cons (more ++ rest)
    have hnext := @ih false limit (Nat.le_of_succ_le_succ hlimit)
    simp only [Bool.false_eq_true, if_false, List.singleton_append] at hnext
    simp only [List.append_assoc, List.cons_append, groups, separated_colon,
      ipv4_digits h.isDigit (.inl hcolon), group_written h hcolon.endsGroup, ite_self, hnext]

theorem groups_side {hasTail : Bool} {limit : Nat} {gs : List UInt16} {cs rest : List Char}
    (h : WrittenSide hasTail gs cs) (hlimit : gs.length ≤ limit) (hrest : EndsGroups rest) :
    groups true limit (cs ++ rest) = (gs, hasTail, rest) := by
  cases h with
  | none => exact groups_end true limit hrest
  | some h => exact groups_written h hlimit hrest

/-- Groups are no version 4 address, unless they are written as one. -/
theorem ipv4_groups {hasTail : Bool} {gs : List UInt16} {cs rest : List Char}
    (h : WrittenGroups hasTail gs cs) (hlength : hasTail = true → gs.length ≠ 2)
    (hrest : EndsGroups rest) : ipv4 (cs ++ rest) = none := by
  cases h with
  | last h => exact ipv4_digits h.isDigit hrest.endsItem
  | embedded a => exact absurd rfl (hlength rfl)
  | cons h _ =>
    rw [List.append_assoc]
    exact ipv4_digits h.isDigit (.inl (atColon_cons _))

theorem writtenGroups_groupsChars (g : UInt16) (gs : List UInt16) :
    WrittenGroups false (g :: gs) (groupsChars true (g :: gs)) := by
  induction gs generalizing g with
  | nil =>
    have hlast := WrittenGroups.last (writtenGroup_groupChars g)
    simpa [groupsChars] using hlast
  | cons next gs ih =>
    have hcons := WrittenGroups.cons (writtenGroup_groupChars g) (ih next)
    simpa [groupsChars] using hcons

theorem writtenSide_groupsChars (gs : List UInt16) : WrittenSide false gs (groupsChars true gs) := by
  cases gs with
  | nil => exact .none
  | cons g gs => exact .some (writtenGroups_groupsChars g gs)

end AddressText

/-! ## Version 6 -/

namespace Ipv6

open AddressText

theorem eq_replicate_zeroRun (gs : List UInt16) :
    ∃ back, gs = List.replicate (zeroRun gs) 0 ++ back := by
  induction gs with
  | nil => exact ⟨[], rfl⟩
  | cons g gs ih =>
    by_cases hg : g = 0
    · obtain ⟨back, hback⟩ := ih
      refine ⟨back, ?_⟩
      have hrun : zeroRun (g :: gs) = zeroRun gs + 1 := by simp [zeroRun, hg]
      rw [hrun, List.replicate_succ, List.cons_append, ← hback, hg]
    · exact ⟨g :: gs, by simp [zeroRun, hg]⟩

theorem eq_of_longestZeroRun (gs : List UInt16) : ∃ front back,
    gs = front ++ (List.replicate (longestZeroRun gs).2 0 ++ back) ∧
      front.length = (longestZeroRun gs).1 := by
  induction gs with
  | nil => exact ⟨[], [], rfl, rfl⟩
  | cons g gs ih =>
    obtain ⟨front, back, hgs, hfront⟩ := ih
    simp only [longestZeroRun]
    split
    · obtain ⟨back, hback⟩ := eq_replicate_zeroRun (g :: gs)
      exact ⟨[], back, hback, rfl⟩
    · exact ⟨g :: front, back, by rw [List.cons_append, ← hgs], by rw [List.length_cons, hfront]⟩

end Ipv6

namespace AddressText

variable {rest : List Char}

/-- A version 6 address is read back from each of its texts, whatever may stand behind it. -/
theorem ipv6_written {a : Ipv6} {cs : List Char} (h : a.Written cs) (hrest : EndsAddress rest) :
    ipv6 (cs ++ rest) = some (a, rest) := by
  cases h with
  | @whole hasTail _ h =>
    have hread : groups true 8 (cs ++ rest) = (a.toGroups, hasTail, rest) :=
      groups_written h (Nat.le_of_eq a.length_toGroups) (.inl hrest)
    simp [ipv6, hread]
  | @shortened front back n hasTail before after h hn hbefore hafter =>
    have hlength : front.length + (n + back.length) = 8 := by
      rw [← a.length_toGroups, h]
      simp
    have hfront : groups true 8 (before ++ ':' :: ':' :: (after ++ rest)) =
        (front, false, ':' :: ':' :: (after ++ rest)) :=
      groups_side hbefore (by omega) (.inr ⟨_, rfl⟩)
    have hback : groups true (7 - front.length) (after ++ rest) = (back, hasTail, rest) :=
      groups_side hafter (by omega) (.inl hrest)
    have hne : front.length ≠ 8 := by omega
    have hmissing : 8 - front.length - back.length = n := by omega
    simp [ipv6, hfront, hne, expect, hback, hmissing, ← h]

/-- A text of a version 6 address is not one of version 4. -/
theorem ipv4_written {a : Ipv6} {cs : List Char} (h : a.Written cs) : ipv4 cs = none := by
  cases h with
  | whole h =>
    have hnone : ipv4 (cs ++ []) = none := ipv4_groups h (by simp) (.inl endsAddress_nil)
    rwa [List.append_nil] at hnone
  | shortened _ _ hbefore _ =>
    cases hbefore with
    | none => exact ipv4_colon _
    | some h => exact ipv4_groups h (by simp) (.inr ⟨_, rfl⟩)

theorem toGroups_ofNat (high low : UInt16) :
    (Ipv4.ofNat (high.toNat * 65536 + low.toNat)).toGroups = [high, low] := by
  have hhigh := high.toNat_lt
  have hlow := low.toNat_lt
  simp only [Ipv4.ofNat, Ipv4.toGroups, List.cons.injEq, and_true, ← UInt16.toNat_inj,
    UInt16.toNat_add, UInt16.toNat_mul, UInt8.toNat_toUInt16, UInt8.toNat_ofNat']
  constructor
  · simp
    omega
  · simp
    omega

end AddressText

namespace Ipv6

open AddressText

/-- The ways in which the text of an address is made. -/
inductive Spelling (a : Ipv6) : List Char → Prop
  | mapped {v4 : Ipv4} (h : a.mapped? = some v4) : Spelling a ("::ffff:".toList ++ v4.chars)
  | shortened {front back : List UInt16} {n : Nat}
      (h : a.toGroups = front ++ (List.replicate n 0 ++ back)) (hn : 2 ≤ n) :
      Spelling a (groupsChars true front ++ ':' :: ':' :: groupsChars true back)
  | plain : Spelling a (groupsChars true a.toGroups)

theorem spelling_toText (a : Ipv6) : a.Spelling a.toText.toList := by
  unfold toText
  split
  · next v4 h =>
    rw [String.toList_append, Ipv4.toList_toText]
    exact .mapped h
  · obtain ⟨front, back, hgs, hfront⟩ := eq_of_longestZeroRun a.toGroups
    dsimp only
    rw [← hfront]
    split
    · next hn =>
      have htake : a.toGroups.take front.length = front := by
        rw [hgs, List.take_left]
      have hdrop : a.toGroups.drop (front.length + (longestZeroRun a.toGroups).2) = back := by
        generalize (longestZeroRun a.toGroups).2 = n at hgs
        rw [hgs, ← List.drop_drop, List.drop_left, List.drop_left' List.length_replicate]
      rw [htake, hdrop]
      simpa [toList_groupsText] using Spelling.shortened hgs hn
    · rw [toList_groupsText]
      exact .plain

theorem Spelling.written {a : Ipv6} {cs : List Char} (h : a.Spelling cs) : a.Written cs := by
  cases h with
  | @mapped v4 h =>
    have ha : a.toGroups = [] ++ (List.replicate 5 0 ++ 0xFFFF :: v4.toGroups) := by
      unfold mapped? at h
      split at h
      · next high low hgroups =>
        obtain rfl := Option.some_inj.mp h
        rw [hgroups, toGroups_ofNat]
        rfl
      · cases h
    have htail := WrittenGroups.cons (writtenGroup_groupChars 0xFFFF) (.embedded v4)
    rw [Ipv4.toList_toText] at htail
    exact .shortened ha (by decide) .none (.some htail)
  | shortened h hn =>
    exact .shortened h (Nat.le_of_succ_le hn) (writtenSide_groupsChars _) (writtenSide_groupsChars _)
  | plain =>
    obtain ⟨g, gs, hgroups⟩ : ∃ g gs, a.toGroups = g :: gs :=
      List.exists_cons_of_length_eq_add_one a.length_toGroups
    have hwhole := writtenGroups_groupsChars g gs
    rw [← hgroups] at hwhole
    exact .whole hwhole

theorem written_toText (a : Ipv6) : a.Written a.toText.toList := a.spelling_toText.written

end Ipv6

namespace IpAddress

open AddressText

/-- An address of either family is read from each of its texts. -/
theorem Written.ofText? {a : IpAddress} {s : String} (h : a.Written s.toList) :
    IpAddress.ofText? s = some a := by
  rw [IpAddress.ofText?]
  generalize s.toList = cs at h
  cases h with
  | v4 a =>
    have hread : ipv4 (a.chars ++ []) = some (a, []) := ipv4_chars a (by simp [EndsDigits])
    rw [List.append_nil] at hread
    simp [whole, ip, Ipv4.toList_toText, hread]
  | v6 h =>
    have hread := ipv6_written h endsAddress_nil
    rw [List.append_nil] at hread
    simp [whole, ip, AddressText.ipv4_written h, hread]

theorem written_toText (a : IpAddress) : a.Written a.toText.toList := by
  cases a with
  | v4 a => exact .v4 a
  | v6 a => exact .v6 a.written_toText

theorem ofText?_toText (a : IpAddress) : ofText? a.toText = some a := a.written_toText.ofText?

end IpAddress

/-! ## Socket addresses -/

namespace AddressText

theorem port_digits (p : UInt16) : port (':' :: digits p.toNat) = some (p, []) := by
  have hlimit : p.toNat ≤ 65535 := Nat.le_of_lt_succ p.toNat_lt
  have hend : EndsDigits [] := by simp [EndsDigits]
  have hread := decimal_digits hlimit hend
  rw [List.append_nil] at hread
  simp [port, expect, hread]

theorem socketV4_chars (a : Ipv4) (p : UInt16) :
    socketV4 (a.chars ++ ':' :: digits p.toNat) = some (.v4 a p, []) := by
  have hcolon : EndsDigits (':' :: digits p.toNat) := endsDigits_cons (by decide)
  simp [socketV4, ipv4_chars a hcolon, port_digits]

/-- The characters of a scope with its mark; none if it is zero. -/
def scopeChars (s : UInt32) : List Char := if s = 0 then [] else '%' :: digits s.toNat

theorem scope_scopeChars (s : UInt32) (rest : List Char) :
    scope (scopeChars s ++ ']' :: rest) = some (s, ']' :: rest) := by
  have hlimit : s.toNat ≤ 4294967295 := Nat.le_of_lt_succ s.toNat_lt
  have hend : EndsDigits (']' :: rest) := endsDigits_cons (by decide)
  have hread := decimal_digits hlimit hend
  unfold scopeChars
  split
  · next h =>
    subst h
    rfl
  · simp [scope, hread]

theorem endsAddress_scopeChars (s : UInt32) (rest : List Char) :
    EndsAddress (scopeChars s ++ ']' :: rest) := by
  unfold scopeChars
  split <;> simp [EndsAddress]

theorem socketV6_written {a : Ipv6} {cs : List Char} (h : a.Written cs) (p : UInt16)
    (s : UInt32) : socketV6 ('[' :: (cs ++ (scopeChars s ++ ']' :: ':' :: digits p.toNat))) =
      some (.v6 a p s, []) := by
  have hread := ipv6_written h (endsAddress_scopeChars s (':' :: digits p.toNat))
  simp [socketV6, expect, hread, scope_scopeChars, port_digits]

end AddressText

namespace SocketAddress

open AddressText

/-- The text of a socket address is read back as that address. -/
theorem ofText?_toText (a : SocketAddress) : ofText? a.toText = some a := by
  cases a with
  | v4 a p =>
    simp [ofText?, toText, whole, socket, Ipv4.toList_toText, Decimal.text, socketV4_chars]
  | v6 a p s =>
    have htext : (SocketAddress.v6 a p s).toText.toList =
        '[' :: (a.toText.toList ++ (scopeChars s ++ ']' :: ':' :: digits p.toNat)) := by
      by_cases hs : s = 0 <;> simp [toText, scopeChars, hs, Decimal.text]
    have hnone : socketV4 ('[' :: (a.toText.toList ++
        (scopeChars s ++ ']' :: ':' :: digits p.toNat))) = none := by
      have hbracket : ipv4 ('[' :: (a.toText.toList ++
          (scopeChars s ++ ']' :: ':' :: digits p.toNat))) = none :=
        ipv4_eq_none (by simp [show Decimal.isDigit '[' = false by decide])
      simp [socketV4, hbracket]
    simp [ofText?, whole, socket, htext, hnone, socketV6_written a.written_toText]

end SocketAddress

end Reachability
