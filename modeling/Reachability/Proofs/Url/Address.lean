import Mathlib.Data.Bool.AllAny
import Reachability.Proofs.Address.Text
import Reachability.Proofs.Text.Split
import Reachability.Url

/-!
# Addresses as hosts of URLs

The text of an address, in brackets if it is of version 6, is the host of a URL of the web,
and the host is that address. For version 4 this goes a long way round: the text is taken for
a domain name, is brought into ASCII, and turns out to end in a number.
-/
namespace Reachability

open Decimal (digits)

/-! ## Names made of digits and dots -/

def numerics : List Char := ".0123456789".toList

namespace Ipv4

theorem mem_numerics_of_mem_digits {n : Nat} {c : Char} (h : c ∈ digits n) : c ∈ numerics := by
  obtain ⟨d, hd, rfl⟩ := exists_of_mem_toDigits (by decide) h
  exact (by decide : ∀ d < 10, Nat.digitChar d ∈ numerics) d hd

theorem mem_numerics_of_mem_chars {a : Ipv4} {c : Char} (h : c ∈ a.chars) : c ∈ numerics := by
  simp only [chars, List.mem_append, List.mem_cons] at h
  rcases h with h | rfl | h | rfl | h | rfl | h
  · exact mem_numerics_of_mem_digits h
  · decide
  · exact mem_numerics_of_mem_digits h
  · decide
  · exact mem_numerics_of_mem_digits h
  · decide
  · exact mem_numerics_of_mem_digits h

end Ipv4

namespace Domain

theorem toAscii?_of_numerics {name : List Char} (h : ∀ c ∈ name, c ∈ numerics) :
    toAscii? name = some name := by
  have hascii : name.all Text.isAscii = true := by
    have hall : ∀ c ∈ numerics, Text.isAscii c = true := List.all_eq_true.mp (by decide)
    exact List.all_eq_true.mpr fun c hc => hall c (h c hc)
  have hlower : name.map Text.lowerAscii = name := by
    have hall : ∀ c ∈ numerics, Text.lowerAscii c = id c := List.all_iff_forall_prop.mp (by decide)
    exact (List.map_congr_left fun c hc => hall c (h c hc)).trans (List.map_id _)
  have hmarker : (Text.splitAtEach '.' name).any hasMarker = false := by
    rw [List.any_eq_false]
    intro label hlabel hmarked
    cases label with
    | nil => simp [hasMarker, marker] at hmarked
    | cons c label =>
      have hc := h c (Text.mem_of_mem_splitAtEach hlabel List.mem_cons_self).1
      have hx : ∀ c ∈ numerics, 'x' ≠ c := List.all_iff_forall_prop.mp (by decide)
      simp [hasMarker, marker, hx c hc] at hmarked
  have hforbidden : name.any isForbidden = false := by
    have hnone : ∀ c ∈ numerics, ¬ isForbidden c = true := List.all_iff_forall_prop.mp (by decide)
    exact List.any_eq_false.mpr fun c hc => hnone c (h c hc)
  simp [toAscii?, isPlain, hascii, hlower, hmarker, hforbidden]

end Domain

/-! ## Version 4 -/

namespace Host

theorem number?_digits (n : Nat) : number? (digits n) = some n := by
  have hbase : numberDigits (digits n) = (digits n, 10) := by
    by_cases hzero : (digits n).head? = some '0'
    · rw [Decimal.digits_eq_of_head? hzero]
      rfl
    · unfold numberDigits
      split
      · next h => simp [h] at hzero
      · next h => simp [h] at hzero
      · next h => simp [h] at hzero
      · rfl
  have hdigit : ∀ d < 10, Hexadecimal.digit? d.digitChar = some d := by decide
  have hall : ((digits n).all fun c => (Hexadecimal.digit? c).any (· < 10)) = true := by
    rw [List.all_eq_true]
    intro c hc
    obtain ⟨d, hd, rfl⟩ := exists_of_mem_toDigits (by decide) hc
    simp [hdigit d hd, hd]
  have hvalue : (digits n).foldl (fun n c => 10 * n + (Hexadecimal.digit? c).getD 0) 0 = n :=
    foldl_toDigits (by decide) hdigit n
  simp [number?, Decimal.digits_ne_nil, hbase, hall, hvalue]

theorem dot_not_mem_digits (n : Nat) : '.' ∉ digits n := by
  intro h
  have := List.all_eq_true.mp (Decimal.all_isDigit_digits n) '.' h
  cases this

theorem labels_chars (a : Ipv4) : labels a.chars = a.octets.map fun o => digits o.toNat := by
  have hpieces : Text.splitAtEach '.' a.chars = a.octets.map fun o => digits o.toNat := by
    rw [Ipv4.chars, Text.splitAtEach_append (dot_not_mem_digits _),
      Text.splitAtEach_append (dot_not_mem_digits _),
      Text.splitAtEach_append (dot_not_mem_digits _),
      Text.splitAtEach_of_not_mem (dot_not_mem_digits _)]
    rfl
  rw [labels, hpieces, if_neg]
  simp [Ipv4.octets, Decimal.digits_ne_nil]

theorem endsInNumber_chars (a : Ipv4) : endsInNumber a.chars = true := by
  simp [endsInNumber, labels_chars, Ipv4.octets, Decimal.digits_ne_nil, Decimal.all_isDigit_digits,
    number?_digits]

/-- An address is the number that its octets make up. -/
theorem ofNat_octets (a : Ipv4) : Ipv4.ofNat (a.first.toNat * 0x1000000 +
    (a.second.toNat * 0x10000 + (a.third.toNat * 0x100 + a.fourth.toNat))) = a := by
  obtain ⟨first, second, third, fourth⟩ := a
  have hfirst := first.toNat_lt
  have hsecond := second.toNat_lt
  have hthird := third.toNat_lt
  have hfourth := fourth.toNat_lt
  simp only [Ipv4.ofNat, Ipv4.mk.injEq, ← UInt8.toNat_inj, UInt8.toNat_ofNat']
  omega

theorem ipv4?_chars (a : Ipv4) : ipv4? a.chars = some a := by
  have hjoined : joinedNumbers? UInt32.size (a.octets.map UInt8.toNat) =
      some (a.first.toNat * 0x1000000 +
        (a.second.toNat * 0x10000 + (a.third.toNat * 0x100 + a.fourth.toNat))) := by
    have hlt (o : UInt8) : o.toNat < 256 := o.toNat_lt
    simp [joinedNumbers?, UInt32.size, Ipv4.octets, hlt]
  have hnumbers : (labels a.chars).mapM number? = some (a.octets.map UInt8.toNat) := by
    simp [labels_chars, Ipv4.octets, number?_digits]
  have hlength : ¬ 4 < (labels a.chars).length := by simp [labels_chars, Ipv4.octets]
  simp only [ipv4?, hlength, if_false, hnumbers, Option.bind_eq_bind, Option.bind_some, hjoined,
    ofNat_octets]
  rfl

theorem ofWebText_ipv4 (a : Ipv4) : ofWebText a.chars = .ok (.ip (.v4 a)) := by
  have hnumerics : ∀ c ∈ a.chars, c ∈ numerics := fun c => Ipv4.mem_numerics_of_mem_chars
  have hpercent : Url.percentDecoded? a.chars = some a.chars := by
    have hmem : '%' ∉ a.chars := fun h => absurd (hnumerics _ h) (by decide)
    simp [Url.percentDecoded?, hmem]
  have hne : a.chars ≠ [] := by simp [Ipv4.chars]
  have hname : (Url.percentDecoded? a.chars).bind Domain.toAscii? = some a.chars := by
    rw [hpercent, Option.bind_some, Domain.toAscii?_of_numerics hnumerics]
  have hbracket : ∀ rest, a.chars ≠ '[' :: rest := by
    intro rest h
    exact absurd (hnumerics '[' (h ▸ List.mem_cons_self)) (by decide)
  rw [ofWebText]
  · simp [hname, ofAsciiName, hne, endsInNumber_chars, ipv4?_chars]
  · exact hbracket

/-! ## Version 6 -/

theorem ofWebText_ipv6 (a : Ipv6) :
    ofWebText ('[' :: (a.toText.toList ++ [']'])) = .ok (.ip (.v6 a)) := by
  have hwhole : AddressText.whole AddressText.ipv6 a.toText.toList = some a := by
    have hread := AddressText.ipv6_written a.written_toText AddressText.endsAddress_nil
    rw [List.append_nil] at hread
    simp [AddressText.whole, hread]
  simp [ofWebText, ofBracketed, hwhole]

end Host

/-! ## Addresses in an authority -/

def literalChars : List Char := "0123456789abcdef:.[]".toList

/-- How an address stands in a URL. -/
def IpAddress.hostChars : IpAddress → List Char
  | .v4 a => a.chars
  | .v6 a => '[' :: (a.toText.toList ++ [']'])

theorem Host.ofWebText_hostChars (a : IpAddress) : ofWebText a.hostChars = .ok (.ip a) := by
  cases a with
  | v4 a => exact ofWebText_ipv4 a
  | v6 a => exact ofWebText_ipv6 a

theorem Ipv6.mem_of_mem_toText {a : Ipv6} {c : Char} (h : c ∈ a.toText.toList) :
    c ∈ "0123456789abcdef:.".toList := by
  have hgroups {isFirst : Bool} {gs : List UInt16} (h : c ∈ AddressText.groupsChars isFirst gs) :
      c ∈ "0123456789abcdef:.".toList := by
    induction gs generalizing isFirst with
    | nil => cases h
    | cons g gs ih =>
      simp only [AddressText.groupsChars, List.mem_append] at h
      rcases h with h | h | h
      · cases isFirst with
        | true => cases h
        | false =>
          obtain rfl := List.mem_singleton.mp h
          decide
      · obtain ⟨d, hd, rfl⟩ := exists_of_mem_toDigits (by decide) h
        exact (by decide : ∀ d < 16, Nat.digitChar d ∈ "0123456789abcdef:.".toList) d hd
      · exact ih h
  have hspelling := a.spelling_toText
  generalize a.toText.toList = cs at h hspelling
  cases hspelling with
  | mapped =>
    rcases List.mem_append.mp h with h | h
    · exact (by decide : "::ffff:".toList ⊆ "0123456789abcdef:.".toList) h
    · exact (by decide : numerics ⊆ "0123456789abcdef:.".toList) (Ipv4.mem_numerics_of_mem_chars h)
  | shortened =>
    simp only [List.mem_append, List.mem_cons] at h
    rcases h with h | rfl | rfl | h
    · exact hgroups h
    · decide
    · decide
    · exact hgroups h
  | plain => exact hgroups h

theorem IpAddress.mem_of_mem_hostChars {a : IpAddress} {c : Char} (h : c ∈ a.hostChars) :
    c ∈ literalChars := by
  cases a with
  | v4 a => exact (by decide : numerics ⊆ literalChars) (Ipv4.mem_numerics_of_mem_chars h)
  | v6 a =>
    simp only [hostChars, List.mem_cons, List.mem_append, List.not_mem_nil, or_false] at h
    rcases h with rfl | h | rfl
    · decide
    · exact (by decide : "0123456789abcdef:.".toList ⊆ literalChars) (Ipv6.mem_of_mem_toText h)
    · decide

namespace Url

theorem splitHost_of_atColon {cs : List Char} (h : AddressText.AtColon cs) :
    splitHost false cs = ([], cs) := by
  cases cs with
  | nil => rfl
  | cons c cs =>
    obtain rfl := h c rfl
    simp [splitHost]

/-- Outside of brackets a host ends at the first colon, or with the text. -/
theorem splitHost_append {cs : List Char} (h : ∀ c ∈ cs, c ≠ ':' ∧ c ≠ '[' ∧ c ≠ ']')
    {rest : List Char} (hrest : AddressText.AtColon rest) :
    splitHost false (cs ++ rest) = (cs, rest) := by
  induction cs with
  | nil => exact splitHost_of_atColon hrest
  | cons c cs ih =>
    obtain ⟨hcolon, hopen, hclose⟩ := h c List.mem_cons_self
    simp [splitHost, hcolon, hopen, hclose, ih fun d hd => h d (List.mem_cons_of_mem _ hd)]

theorem splitHost_inBrackets {cs : List Char} (h : ∀ c ∈ cs, c ≠ '[' ∧ c ≠ ']')
    {rest : List Char} (hrest : AddressText.AtColon rest) :
    splitHost true (cs ++ ']' :: rest) = (cs ++ [']'], rest) := by
  induction cs with
  | nil => simp [splitHost, splitHost_of_atColon hrest]
  | cons c cs ih =>
    obtain ⟨hopen, hclose⟩ := h c List.mem_cons_self
    simp [splitHost, hopen, hclose, ih fun d hd => h d (List.mem_cons_of_mem _ hd)]

theorem splitHost_bracketed {cs : List Char} (h : ∀ c ∈ cs, c ≠ '[' ∧ c ≠ ']')
    {rest : List Char} (hrest : AddressText.AtColon rest) :
    splitHost false ('[' :: (cs ++ [']']) ++ rest) = ('[' :: (cs ++ [']']), rest) := by
  simp [splitHost, splitHost_inBrackets h hrest]

theorem splitHost_hostChars (a : IpAddress) (rest : List Char) :
    splitHost false (a.hostChars ++ ':' :: rest) = (a.hostChars, ':' :: rest) := by
  have hrest := AddressText.atColon_cons rest
  cases a with
  | v4 a =>
    have hplain : ∀ c ∈ numerics, c ≠ ':' ∧ c ≠ '[' ∧ c ≠ ']' :=
      List.all_iff_forall_prop.mp (by decide)
    exact splitHost_append (fun c hc => hplain c (Ipv4.mem_numerics_of_mem_chars hc)) hrest
  | v6 a =>
    have hplain : ∀ c ∈ "0123456789abcdef:.".toList, c ≠ '[' ∧ c ≠ ']' :=
      List.all_iff_forall_prop.mp (by decide)
    exact splitHost_bracketed (fun c hc => hplain c (Ipv6.mem_of_mem_toText hc)) hrest

theorem portOf_digits (p : UInt16) : portOf (':' :: digits p.toNat) = .ok (some p) := by
  have hend : AddressText.EndsDigits [] := by simp [AddressText.EndsDigits]
  obtain ⟨htake, hdrop⟩ := AddressText.takeWhile_digits p.toNat hend
  rw [List.append_nil] at htake hdrop
  have hlimit : p.toNat ≤ 65535 := Nat.le_of_lt_succ p.toNat_lt
  simp [portOf, htake, hdrop, portOf.number, Decimal.digits_ne_nil, hlimit]

/-- An address and its port. -/
def literalAuthority (a : IpAddress) (p : UInt16) : List Char :=
  a.hostChars ++ ':' :: digits p.toNat

theorem mem_literalChars {a : IpAddress} {p : UInt16} {c : Char} (h : c ∈ literalAuthority a p) :
    c ∈ literalChars := by
  simp only [literalAuthority, List.mem_append, List.mem_cons] at h
  rcases h with h | rfl | h
  · exact IpAddress.mem_of_mem_hostChars h
  · decide
  · exact (by decide : numerics ⊆ literalChars) (Ipv4.mem_numerics_of_mem_digits h)

theorem splitAuthority_append_tail {isWeb : Bool} {authority tail : List Char}
    (hinside : ∀ c ∈ authority, endsAuthority isWeb c = false)
    (htail : ∀ c ∈ tail.head?, endsAuthority isWeb c = true) :
    splitAuthority isWeb (authority ++ tail) = (authority, tail) := by
  have hpos : ∀ c ∈ authority, (!endsAuthority isWeb c) = true := by simpa using hinside
  rw [splitAuthority, List.takeWhile_append_of_pos hpos, List.dropWhile_append_of_pos hpos]
  cases tail with
  | nil => simp
  | cons c tail => simp [htail c rfl]

/-- The authority of an address and its port, up to the end or a slash. -/
theorem webAuthority_literal (a : IpAddress) (p : UInt16) {path : List Char}
    (hpath : ∀ c ∈ path.head?, c = '/') :
    webAuthority (literalAuthority a p ++ path) = .ok (.ip a, some p) := by
  have hauthority : splitAuthority true (literalAuthority a p ++ path) =
      (literalAuthority a p, path) := by
    have hall : ∀ c ∈ literalChars, endsAuthority true c = false :=
      List.all_iff_forall_prop.mp (by decide)
    refine splitAuthority_append_tail (fun c hc => hall c (mem_literalChars hc)) fun c hc => ?_
    rw [hpath c hc]
    rfl
  have huser : splitAtLast (literalAuthority a p) = (none, literalAuthority a p) := by
    have hat : '@' ∉ literalAuthority a p := fun h => absurd (mem_literalChars h) (by decide)
    simp [splitAtLast, hat]
  have hne : a.hostChars ≠ [] := by
    cases a with
    | v4 a => simp [IpAddress.hostChars, Ipv4.chars]
    | v6 a => simp [IpAddress.hostChars]
  have hhost : splitHost false (literalAuthority a p) = (a.hostChars, ':' :: digits p.toNat) :=
    splitHost_hostChars a _
  simp only [webAuthority, hauthority, huser, hhost, hne, if_false, Host.ofWebText_hostChars,
    portOf_digits, bind, Except.bind]
  rfl

end Url

end Reachability
