import WorkerSim.Numeral

/-!
# Intervals of time

An interval is a whole number of milliseconds. Its text is in seconds from one second on, with as
many decimals as it takes, and in milliseconds below; no time at all is zero nanoseconds.
-/

set_option autoImplicit false

namespace WorkerSim

structure Interval where
  millis : UInt64
  deriving DecidableEq, Repr

namespace Interval

/-- No pause is longer than thirty years of 365 days, in milliseconds. -/
def longestPause : UInt64 := 946080000000

/-- The time that a pause takes. -/
def paused (i : Interval) : Interval := ⟨min i.millis longestPause⟩

def seconds (i : Interval) : Nat := i.millis.toNat / 1000

/-- The part below a second. -/
def nanos (i : Interval) : Nat := i.millis.toNat % 1000 * 1000000

/-- Three decimals without the zeros at the end, behind a point if any is left. -/
def decimals (thousandths : Nat) : List Char :=
  let ds := Numeral.digits thousandths
  let padded := List.replicate (3 - ds.length) '0' ++ ds
  let kept := (padded.reverse.dropWhile (· == '0')).reverse
  if kept.isEmpty then [] else '.' :: kept

def chars (i : Interval) : List Char :=
  if i.millis = 0 then "0ns".toList
  else if i.millis < 1000 then Numeral.digits i.millis.toNat ++ "ms".toList
  else Numeral.digits i.seconds ++ decimals (i.millis.toNat % 1000) ++ ['s']

def text (i : Interval) : String := String.ofList i.chars

end Interval

end WorkerSim
