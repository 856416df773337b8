import CompilerDriver.Instant.Calendar

/-!
# Instants

A moment in coordinated universal time, to the nanosecond. It is counted in seconds from the start of
1970, which knows no leap seconds; the fraction of a leap second is told by counting on past a whole
second, and that only in the last second of a minute.

The years go from `firstYear` to `lastYear`, and an instant outside them cannot be formed.
-/

namespace CompilerDriver

/-- A moment in coordinated universal time. -/
structure Instant where
  /-- Seconds since the start of 1970. -/
  seconds : Int
  /-- Nanoseconds since that second began; from 10^9 on, within the leap second that follows it. -/
  nanos : Nat
  /-- The year -262143 or a later one. -/
  seconds_ge : -8334601228800 ≤ seconds
  /-- The year 262142 or an earlier one. -/
  seconds_le : seconds ≤ 8210266876799
  nanos_lt : nanos < 2000000000
  /-- A leap second ends a minute. -/
  leap : 1000000000 ≤ nanos → seconds % 60 = 59
deriving DecidableEq, Repr

namespace Instant

/-- The first year that an instant can lie in. -/
def firstYear : Int := -262143

/-- The last year that an instant can lie in. -/
def lastYear : Int := 262142

/-- The day on which 1970 began. -/
def epochDay : Int := 719162

/-- The start of 1970. -/
def epoch : Instant := ⟨0, 0, by decide, by decide, by decide, by decide⟩

instance : Inhabited Instant := ⟨epoch⟩

/-- The instant that many seconds and nanoseconds after the start of 1970, if there is one. -/
def ofUnix? (seconds : Int) (nanos : Nat) : Option Instant :=
  if h : -8334601228800 ≤ seconds ∧ seconds ≤ 8210266876799 ∧ nanos < 2000000000 ∧
      (1000000000 ≤ nanos → seconds % 60 = 59) then
    some ⟨seconds, nanos, h.1, h.2.1, h.2.2.1, h.2.2.2⟩
  else none

theorem ofUnix?_self (t : Instant) : ofUnix? t.seconds t.nanos = some t := by
  rw [ofUnix?, dif_pos ⟨t.seconds_ge, t.seconds_le, t.nanos_lt, t.leap⟩]

/-- The same moment as a clock shows it that knows no leap seconds: a leap second counts as the next second.
Past the last year there is none, and the instant stays as it is. -/
def withoutLeap (t : Instant) : Instant :=
  (ofUnix? (t.seconds + t.nanos / 1000000000) (t.nanos % 1000000000)).getD t

/-- The date of an instant. -/
def date (t : Instant) : Date := Date.ofDayNumber (t.seconds / 86400 + epochDay)

/-- The second of its day that an instant lies in. -/
def secondOfDay (t : Instant) : Nat := (t.seconds % 86400).toNat

/-- The bounds of an instant are those of its years. -/
example :
    (Date.yearStart firstYear - epochDay) * 86400 = -8334601228800 ∧
    (Date.yearStart (lastYear + 1) - epochDay) * 86400 - 1 = 8210266876799 := by decide

end Instant

end CompilerDriver
