import CompilerDriver.Instant.Basic
import CompilerDriver.Text.Digits

/-!
# Instants as text

The form of RFC 3339: date, `T`, time, zone. Years of four digits stand bare, all others carry a sign.
The fraction of a second has none, three, six or nine digits, as few as lose nothing, and a leap second
is the 60th of its minute.
-/

namespace CompilerDriver.Instant

open Digits

/-- How the zone of an instant is written; it is always universal time. -/
inductive Zone where
  /-- The letter `Z`, as in records. -/
  | letter
  /-- The distance `+00:00`, as in reports for people. -/
  | offset
deriving DecidableEq, Repr

def Zone.text : Zone → List Char
  | .letter => ['Z']
  | .offset => ['+', '0', '0', ':', '0', '0']

/-- A year: four digits from 0 to 9999, otherwise a sign and at least four digits. -/
def yearText (year : Int) : List Char :=
  if 0 ≤ year ∧ year ≤ 9999 then padded 4 year.toNat
  else (if year < 0 then '-' else '+') :: padded 4 year.natAbs

/-- A fraction of a second, given in nanoseconds. -/
def fractionText (nanos : Nat) : List Char :=
  if nanos = 0 then []
  else if nanos % 1000000 = 0 then '.' :: padded 3 (nanos / 1000000)
  else if nanos % 1000 = 0 then '.' :: padded 6 (nanos / 1000)
  else '.' :: padded 9 nanos

def dateText (date : Date) : List Char :=
  yearText date.year ++ '-' :: padded 2 date.month ++ '-' :: padded 2 date.day

/-- A time of day, given by its second and the nanoseconds since that second began. -/
def timeText (second nanos : Nat) : List Char :=
  let leap := if 1000000000 ≤ nanos then 1 else 0
  padded 2 (second / 3600) ++ ':' :: padded 2 (second / 60 % 60) ++
    ':' :: padded 2 (second % 60 + leap) ++ fractionText (nanos - leap * 1000000000)

/-- The characters of an instant. -/
def chars (zone : Zone) (t : Instant) : List Char :=
  dateText t.date ++ 'T' :: timeText t.secondOfDay t.nanos ++ zone.text

/-- An instant as records write it. -/
def text (t : Instant) : String := String.ofList (t.chars .letter)

/-- An instant as reports for people write it. -/
def reportText (t : Instant) : String := String.ofList (t.chars .offset)

end CompilerDriver.Instant
