import Reachability.Decimal

/-!
# Durations

A length of time in whole seconds and the nanoseconds beyond them. Its text uses the
largest unit of which there is at least one, with as many decimal places as needed.
-/
namespace Reachability

structure Duration where
  seconds : Nat
  nanoseconds : Nat
  nanoseconds_lt : nanoseconds < 1000000000 := by decide
deriving DecidableEq

namespace Duration

def zero : Duration := ⟨0, 0, by decide⟩

instance : Inhabited Duration := ⟨zero⟩

/-- Nanoseconds of a second and more are carried over. -/
def ofParts (seconds nanoseconds : Nat) : Duration :=
  ⟨seconds + nanoseconds / 1000000000, nanoseconds % 1000000000,
    Nat.mod_lt _ (by decide)⟩

def ofSeconds (seconds : Nat) : Duration := ⟨seconds, 0, by decide⟩

def ofNanoseconds (n : Nat) : Duration := ofParts 0 n

def isZero (d : Duration) : Bool := d.seconds == 0 && d.nanoseconds == 0

def toNanoseconds (d : Duration) : Nat := d.seconds * 1000000000 + d.nanoseconds

/-- The whole milliseconds in it. -/
def wholeMilliseconds (d : Duration) : Nat := d.toNanoseconds / 1000000

/-- A number with a fraction of `places` decimal places, less the zeros at its end. -/
def decimalText (whole fraction places : Nat) : String :=
  let ds := Decimal.digits fraction
  let padded := List.replicate (places - ds.length) '0' ++ ds
  let kept := (padded.reverse.dropWhile (· == '0')).reverse
  if fraction = 0 then Decimal.text whole
  else Decimal.text whole ++ "." ++ String.ofList kept

def toText (d : Duration) : String :=
  let n := d.nanoseconds
  if 0 < d.seconds then decimalText d.seconds n 9 ++ "s"
  else if 1000000 ≤ n then decimalText (n / 1000000) (n % 1000000) 6 ++ "ms"
  else if 1000 ≤ n then decimalText (n / 1000) (n % 1000) 3 ++ "µs"
  else decimalText n 0 0 ++ "ns"

end Duration

end Reachability
