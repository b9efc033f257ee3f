import Woml.Host

/-!
# What the engine writes into its tables as text

Instants are stored as RFC 3339 texts and compared by the database byte by byte. The calendar and
the format are those of the library that prints them.
-/

namespace Woml

/-! ## Printed instants -/

/-- The bytes of a number in decimal digits, padded to a width. -/
def padded : Nat → Nat → List Nat
  | 0, _ => []
  | width + 1, n => padded width (n / 10) ++ [48 + n % 10]

/-- The days from the start of the year 0 to the start of a year. -/
def daysBeforeYear (year : Nat) : Nat :=
  365 * year + (year + 3) / 4 + (year + 399) / 400 - (year + 99) / 100

/-- The days of a year before a month, counted from 0. -/
def daysBeforeMonth (leap : Bool) (month : Nat) : Nat :=
  [0, 31, 59, 90, 120, 151, 181, 212, 243, 273, 304, 334].getD month 365 +
    if leap && 2 ≤ month then 1 else 0

/-- A fraction in groups of three digits, up to the last group that is not zero. -/
def fraction : Nat → Nat → List Nat
  | 0, _ => []
  | groups + 1, n =>
    if n = 0 then []
    else padded 3 (n / 1000 ^ groups) ++ fraction groups (n % 1000 ^ groups)

/-- The last of the indices `0`, …, `bound` whose start is not after `x`. -/
def lastStart (start : Nat → Nat) (bound x : Nat) : Nat := Nat.findGreatest (start · ≤ x) bound

def dayNanos : Nat := 86400 * 10 ^ 9

/-- The nanoseconds from the start of the year 0 to an instant. -/
def sinceYearZero (instant : DateTime) : Int := instant + daysBeforeYear 1970 * dayNanos

/-- The text of the instant that many nanoseconds after the start of the year 0. -/
def printed (nanos : Nat) : List Nat :=
  let day := nanos / dayNanos
  let second := nanos % dayNanos / 10 ^ 9
  let nano := nanos % dayNanos % 10 ^ 9
  let year := lastStart daysBeforeYear 9999 day
  let ordinal := day - daysBeforeYear year
  let leap : Bool := daysBeforeYear (year + 1) = daysBeforeYear year + 366
  let month := lastStart (daysBeforeMonth leap) 11 ordinal
  padded 4 year ++ utf8 "-" ++ padded 2 (month + 1) ++ utf8 "-" ++
    padded 2 (ordinal - daysBeforeMonth leap month + 1) ++ utf8 "T" ++ padded 2 (second / 3600) ++
    utf8 ":" ++ padded 2 (second / 60 % 60) ++ utf8 ":" ++ padded 2 (second % 60) ++
    (if nano = 0 then [] else utf8 "." ++ fraction 3 nano) ++ utf8 "+00:00"

/-- The bytes of `to_rfc3339` for an instant in UTC in the years 0 to 9999. -/
def toRfc3339 (instant : DateTime) : List Nat := printed (sinceYearZero instant).toNat

end Woml
