import Reachability.Hexadecimal
import Reachability.Text.Utf8

/-!
# Percent encoding

A byte of a URL may be written as a percent sign and two hexadecimal digits.
-/
namespace Reachability.Url

/-- Puts the bytes in place that percent signs stand for; a percent sign without two digits
behind it stands for itself. -/
def decodeBytes : List UInt8 → List UInt8
  | b :: high :: low :: rest =>
    match Hexadecimal.digit? (Char.ofNat high.toNat), Hexadecimal.digit? (Char.ofNat low.toNat) with
    | some h, some l =>
      if b = 0x25 then UInt8.ofNat (16 * h + l) :: decodeBytes rest
      else b :: decodeBytes (high :: low :: rest)
    | _, _ => b :: decodeBytes (high :: low :: rest)
  | short => short

/-- The text with its percent signs resolved, if that is a text. -/
def percentDecoded? (cs : List Char) : Option (List Char) :=
  if cs.contains '%' then Text.Utf8.decode? (decodeBytes (Text.Utf8.encode cs)) else some cs

/-- A byte in percent encoding, with capitals. -/
def encodedByte (b : UInt8) : List Char :=
  let digit (n : Nat) : Char := (Nat.digitChar n).toUpper
  ['%', digit (b.toNat / 16), digit (b.toNat % 16)]

/-- The text with control characters and all characters beyond ASCII in percent encoding. -/
def controlsEncoded (cs : List Char) : List Char :=
  cs.flatMap fun c =>
    if 0x20 ≤ c.toNat ∧ c.toNat < 0x7F then [c]
    else (Text.Utf8.encodeChar c).flatMap encodedByte

end Reachability.Url
