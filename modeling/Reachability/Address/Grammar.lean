import Reachability.Address.Text

/-!
# The grammar of addresses

A version 4 address has one text. A version 6 address has many: its groups may have zeros in
front and letters of either case, the last two may be written as a version 4 address, and `::`
may stand for any run of zeros. `Written` relates an address to its texts.
-/
namespace Reachability

namespace AddressText

/-- One to four hexadecimal digits of either case that spell a group. -/
structure WrittenGroup (g : UInt16) (digits : List Char) : Prop where
  ne_nil : digits ≠ []
  length_le : digits.length ≤ 4
  isDigit : ∀ c ∈ digits, Hexadecimal.isDigit c = true
  value_eq : Hexadecimal.value digits = g.toNat

/-- The ways to write groups with colons between them. The flag tells whether the last two are
written as a version 4 address. -/
inductive WrittenGroups : Bool → List UInt16 → List Char → Prop
  | last {g : UInt16} {digits : List Char} (h : WrittenGroup g digits) :
      WrittenGroups false [g] digits
  | embedded (a : Ipv4) : WrittenGroups true a.toGroups a.toText.toList
  | cons {hasTail : Bool} {g : UInt16} {gs : List UInt16} {digits more : List Char}
      (h : WrittenGroup g digits) (hmore : WrittenGroups hasTail gs more) :
      WrittenGroups hasTail (g :: gs) (digits ++ ':' :: more)

/-- The ways to write the groups on one side of `::`, where there may be none. -/
inductive WrittenSide : Bool → List UInt16 → List Char → Prop
  | none : WrittenSide false [] []
  | some {hasTail : Bool} {gs : List UInt16} {cs : List Char} (h : WrittenGroups hasTail gs cs) :
      WrittenSide hasTail gs cs

end AddressText

open AddressText

/-- The texts of a version 6 address: all eight groups, or fewer and one `::` in place of the
zeros between them. In front of `::` stands no version 4 address. -/
inductive Ipv6.Written (a : Ipv6) : List Char → Prop
  | whole {hasTail : Bool} {cs : List Char} (h : WrittenGroups hasTail a.toGroups cs) : Written a cs
  | shortened {front back : List UInt16} {n : Nat} {hasTail : Bool} {before after : List Char}
      (h : a.toGroups = front ++ (List.replicate n 0 ++ back)) (hn : 1 ≤ n)
      (hbefore : WrittenSide false front before) (hafter : WrittenSide hasTail back after) :
      Written a (before ++ ':' :: ':' :: after)

/-- The texts of an address of either family. -/
inductive IpAddress.Written : IpAddress → List Char → Prop
  | v4 (a : Ipv4) : Written (.v4 a) a.toText.toList
  | v6 {a : Ipv6} {cs : List Char} (h : a.Written cs) : Written (.v6 a) cs

end Reachability
