/-!
# UTF-8

Characters are written as one to four bytes. Reading takes the shortest form of each
character only, and no surrogates; it fails at the first byte that fits no such form.
-/
namespace Reachability.Text.Utf8

/-- The bytes of one character. -/
def encodeChar (c : Char) : List UInt8 := String.utf8EncodeChar c

/-- The bytes of a text. -/
def encode (cs : List Char) : List UInt8 := cs.flatMap encodeChar

/-- The low six bits of a byte that continues a character. -/
def continuation? (b : UInt8) : Option Nat :=
  if 0x80 ≤ b ∧ b < 0xC0 then some (b.toNat - 0x80) else none

/-- The character of a code point of at least `least`, surrogates aside. -/
def charFrom? (least n : Nat) : Option Char :=
  if n.isValidChar ∧ least ≤ n then some (.ofNat n) else none

/-- Takes one character from the front of a list of bytes. -/
def decodeFirst? : List UInt8 → Option (Char × List UInt8)
  | [] => none
  | a :: rest =>
    if a < 0x80 then (charFrom? 0 a.toNat).map (·, rest)
    else if a < 0xC2 then none
    else if a < 0xE0 then
      match rest with
      | b :: rest => do
        let b ← continuation? b
        let c ← charFrom? 0x80 ((a.toNat - 0xC0) * 64 + b)
        return (c, rest)
      | _ => none
    else if a < 0xF0 then
      match rest with
      | b :: c :: rest => do
        let b ← continuation? b
        let c ← continuation? c
        let char ← charFrom? 0x800 (((a.toNat - 0xE0) * 64 + b) * 64 + c)
        return (char, rest)
      | _ => none
    else if a < 0xF5 then
      match rest with
      | b :: c :: d :: rest => do
        let b ← continuation? b
        let c ← continuation? c
        let d ← continuation? d
        let char ← charFrom? 0x10000 ((((a.toNat - 0xF0) * 64 + b) * 64 + c) * 64 + d)
        return (char, rest)
      | _ => none
    else none

theorem length_decodeFirst? {bs rest : List UInt8} {c : Char}
    (h : decodeFirst? bs = some (c, rest)) : rest.length < bs.length := by
  match bs with
  | [] => simp [decodeFirst?] at h
  | a :: tail =>
    simp only [decodeFirst?] at h
    repeat' split at h
    all_goals try simp only [reduceCtorEq] at h
    all_goals simp only [Option.bind_eq_bind, Option.bind_eq_some_iff, Option.map_eq_some_iff,
      Prod.mk.injEq, pure, Option.some.injEq] at h
    all_goals grind

/-- The text that a list of bytes encodes, or how many bytes stand before the first that
encodes nothing. -/
def decode (bs : List UInt8) : Except Nat (List Char) :=
  go bs 0
where
  go (bs : List UInt8) (offset : Nat) : Except Nat (List Char) :=
    match bs with
    | [] => .ok []
    | b :: rest =>
      match _ : decodeFirst? (b :: rest) with
      | none => .error offset
      | some (c, left) => (go left (offset + c.utf8Size)).map (c :: ·)
  termination_by bs.length
  decreasing_by exact length_decodeFirst? ‹_›

/-- The text that a list of bytes encodes. -/
def decode? (bs : List UInt8) : Option (List Char) := (decode bs).toOption

end Reachability.Text.Utf8
