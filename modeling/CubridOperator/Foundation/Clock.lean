import Mathlib.Algebra.Order.Group.Unbundled.Int

/-!
Readings of a clock, in nanoseconds, and the times an API server keeps of them.
-/
namespace Foundation

def seconds (n : Int) : Int := n * 1000000000

def minutes (n : Int) : Int := seconds (60 * n)

/-- The time that is stored for a reading: whole seconds. -/
def wholeSeconds (t : Int) : Int := t / seconds 1 * seconds 1

theorem wholeSeconds_le (t : Int) : wholeSeconds t ≤ t := by
  unfold wholeSeconds seconds
  omega

theorem lt_wholeSeconds_add (t : Int) : t < wholeSeconds t + seconds 1 := by
  unfold wholeSeconds seconds
  omega

@[simp] theorem wholeSeconds_wholeSeconds (t : Int) :
    wholeSeconds (wholeSeconds t) = wholeSeconds t := by
  unfold wholeSeconds seconds
  omega

/-- The year, month and day of a day counted from 1 January 1970. Years are
    counted from March, in eras of 400 years. -/
def civilDate (day : Int) : Int × Int × Int :=
  let z := day + 719468
  let era := z / 146097
  let doe := z % 146097
  let yoe := (doe - doe / 1460 + doe / 36524 - doe / 146096) / 365
  let doy := doe - (365 * yoe + yoe / 4 - yoe / 100)
  let mp := (5 * doy + 2) / 153
  let month := if mp < 10 then mp + 3 else mp - 9
  (yoe + era * 400 + (if month ≤ 2 then 1 else 0), month, doy - (153 * mp + 2) / 5 + 1)

def padded (width : Nat) (n : Int) : String :=
  let digits := Nat.toDigits 10 n.toNat
  String.ofList (List.replicate (width - digits.length) '0' ++ digits)

def rfc3339 (t : Int) : String :=
  let s := t / seconds 1
  let (year, month, day) := civilDate (s / 86400)
  let ofDay := s % 86400
  padded 4 year ++ "-" ++ padded 2 month ++ "-" ++ padded 2 day ++ "T" ++ padded 2
    (ofDay / 3600) ++ ":" ++
    padded 2 (ofDay / 60 % 60) ++ ":" ++ padded 2 (ofDay % 60) ++ "Z"

example : rfc3339 (seconds 951827696) = "2000-02-29T12:34:56Z" := by decide +kernel

end Foundation
