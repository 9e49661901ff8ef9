import Reachability.Decimal

/-!
# Punycode

A label with characters beyond ASCII is written in ASCII as its ASCII characters, a
hyphen, and a sequence of numbers that say which further characters stand where
(RFC 3492). The numbers are written least significant digit first, in a base of 36 with
a threshold for each place, and the thresholds adapt to the sizes seen so far.
-/
namespace Reachability.Domain.Punycode

/-- The code point before which every character is written as it is. -/
def initialCode : Nat := 128

def initialBias : Nat := 72

/-- All numbers stay below this. -/
def overflow : Nat := UInt32.size

/-- How far the largest digits reach at the end of the adaptation; the quotient and the
number of places it took. -/
def reduce (delta : Nat) : Nat × Nat :=
  if 455 < delta then
    let (rest, places) := reduce (delta / 35)
    (rest, places + 36)
  else (delta, 0)
termination_by delta

/-- The bias for the next number, after one that stood for `delta` among `count`
characters. -/
def adapt (delta count : Nat) (isFirst : Bool) : Nat :=
  let delta := if isFirst then delta / 700 else delta / 2
  let (rest, places) := reduce (delta + delta / count)
  places + 36 * rest / (rest + 38)

/-- The threshold of the digit at a place. -/
def threshold (place bias : Nat) : Nat :=
  if place ≤ bias then 1 else if bias + 26 ≤ place then 26 else place - bias

/-- The value of a digit: letters of either case, then decimal digits. -/
def digit? (c : Char) : Option Nat :=
  if 'a' ≤ c ∧ c ≤ 'z' then some (c.toNat - 'a'.toNat)
  else if 'A' ≤ c ∧ c ≤ 'Z' then some (c.toNat - 'A'.toNat)
  else if '0' ≤ c ∧ c ≤ '9' then some (c.toNat - '0'.toNat + 26)
  else none

def digitChar (d : Nat) : Char :=
  if d < 26 then Char.ofNat ('a'.toNat + d) else Char.ofNat ('0'.toNat + (d - 26))

/-- Reads one number, added up from `sum` on, and what follows it. -/
def readNumber? (bias sum weight place : Nat) : List Char → Option (Nat × List Char)
  | [] => none
  | c :: rest => do
    let d ← digit? c
    let sum := sum + d * weight
    let t := threshold place bias
    if overflow ≤ sum then none
    else if d < t then some (sum, rest)
    else if overflow ≤ weight * (36 - t) then none
    else readNumber? bias sum (weight * (36 - t)) (place + 36) rest

theorem length_readNumber? {bias sum weight place n : Nat} {cs rest : List Char}
    (h : readNumber? bias sum weight place cs = some (n, rest)) :
    rest.length < cs.length := by
  induction cs generalizing sum weight place with
  | nil => simp [readNumber?] at h
  | cons c cs ih =>
    simp only [readNumber?, Option.bind_eq_bind, Option.bind_eq_some_iff] at h
    obtain ⟨d, -, h⟩ := h
    repeat' split at h
    · simp at h
    · simp only [Option.some.injEq, Prod.mk.injEq] at h
      simp [h.2]
    · simp at h
    · have := ih h
      simp only [List.length_cons]
      omega

/-- Puts the characters that the numbers stand for among those read so far, behind the first
`index` of them for the next one. Only before the first number `index` is 0. -/
def insertAll? (code index bias : Nat) (placed : List Char) (cs : List Char) :
    Option (List Char) :=
  match cs with
  | [] => some placed
  | c :: rest =>
    match _ : readNumber? bias index 1 36 (c :: rest) with
    | none => none
    | some (sum, left) =>
      let count := placed.length + 1
      let code := code + sum / count
      let place := sum % count
      if code.isValidChar then
        insertAll? code (place + 1) (adapt (sum - index) count (index == 0))
          (placed.take place ++ Char.ofNat code :: placed.drop place) left
      else none
termination_by cs.length
decreasing_by exact length_readNumber? ‹_›

/-- Reads a label without its marker. The last hyphen ends the ASCII characters. -/
def decode? (cs : List Char) : Option (List Char) :=
  if cs.contains '-' then
    let digits := (cs.reverse.takeWhile (· != '-')).reverse
    let ascii := cs.take (cs.length - digits.length - 1)
    if ascii.isEmpty then none else insertAll? initialCode 0 initialBias ascii digits
  else insertAll? initialCode 0 initialBias [] cs

theorem threshold_bounds (place bias : Nat) :
    1 ≤ threshold place bias ∧ threshold place bias ≤ 26 := by
  unfold threshold
  split
  · omega
  · split <;> omega

/-- The digits of a number, from a place on. -/
def writeNumber (bias place n : Nat) : List Char :=
  let t := threshold place bias
  if h : n < t then [digitChar n]
  else
    have : (n - t) / (36 - t) < n := by
      have := threshold_bounds place bias
      have : (n - t) / (36 - t) ≤ n - t := Nat.div_le_self ..
      omega
    digitChar (t + (n - t) % (36 - t)) :: writeNumber bias (place + 36) ((n - t) / (36 - t))
termination_by n

/-- What has been written when the characters before a code point are done. -/
structure Progress where
  delta : Nat
  bias : Nat
  /-- How many characters of the label are written. -/
  count : Nat
  digits : List Char

/-- Takes note of one character of the label while those with a code point are written. -/
def Progress.pass (asciiCount code : Nat) (p : Progress) (c : Char) : Progress :=
  if c.toNat < code then { p with delta := p.delta + 1 }
  else if c.toNat = code then
    { delta := 0
      bias := adapt p.delta (p.count + 1) (p.count == asciiCount)
      count := p.count + 1
      digits := p.digits ++ writeNumber p.bias 36 p.delta }
  else p

/-- Writes the characters with each of the given code points, in ascending order. -/
def writeCodes (asciiCount : Nat) (cs : List Char) (next : Nat) (p : Progress) :
    List Nat → Progress
  | [] => p
  | code :: codes =>
    let p := { p with delta := p.delta + (code - next) * (p.count + 1) }
    let p := cs.foldl (·.pass asciiCount code) p
    writeCodes asciiCount cs (code + 1) { p with delta := p.delta + 1 } codes

/-- Adds a number to an ascending list without repetitions. -/
def insertCode (n : Nat) : List Nat → List Nat
  | [] => [n]
  | m :: rest => if n < m then n :: m :: rest else if n = m then m :: rest else m :: insertCode n rest

/-- Writes a label without its marker. -/
def encode (cs : List Char) : List Char :=
  let ascii := cs.filter (·.toNat < initialCode)
  let codes := ((cs.map (·.toNat)).filter (initialCode ≤ ·)).foldr insertCode []
  let p := writeCodes ascii.length cs initialCode ⟨0, initialBias, ascii.length, []⟩ codes
  if ascii.isEmpty then p.digits else ascii ++ '-' :: p.digits

end Reachability.Domain.Punycode
