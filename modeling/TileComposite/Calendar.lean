/-! Dates, and dates with a time of day. A moment may be tied to a zone; two moments
can be told apart in time only if both are or neither is. -/
namespace TileComposite

structure Date where
  year : Nat
  month : Nat
  day : Nat
  deriving DecidableEq

/-- A date and a time of day; `offset` is the distance from universal time in
seconds, if the time is tied to a zone. -/
structure Moment where
  date : Date
  hour : Nat
  minute : Nat
  second : Nat
  microsecond : Nat
  offset : Option Int
  deriving DecidableEq

def isLeapYear (year : Nat) : Bool := year % 4 = 0 && (year % 100 ≠ 0 || year % 400 = 0)

def daysInMonth (year month : Nat) : Nat :=
  if month = 2 then if isLeapYear year then 29 else 28
  else if month = 4 ∨ month = 6 ∨ month = 9 ∨ month = 11 then 30
  else 31

namespace Date

/-- The number of days up to a date, from the first day of the first year on. -/
def ordinal (d : Date) : Nat :=
  let years := d.year - 1
  let months := (List.range' 1 (d.month - 1)).map (daysInMonth d.year)
  365 * years + years / 4 - years / 100 + years / 400 + months.foldr (· + ·) 0 + d.day

def lt (a b : Date) : Bool := a.ordinal < b.ordinal

end Date

namespace Moment

/-- Microseconds on the clock of the moment's own zone. -/
def clock (m : Moment) : Int :=
  let seconds := 86400 * m.date.ordinal + 3600 * m.hour + 60 * m.minute + m.second
  1000000 * seconds + m.microsecond

/-- Microseconds of universal time, or of the clock if there is no zone. -/
def instant (m : Moment) : Int := m.clock - 1000000 * m.offset.getD 0

/-- Two moments can be compared if both have a zone or neither has. -/
def comparable (a b : Moment) : Bool := a.offset.isSome == b.offset.isSome

def same (a b : Moment) : Bool := a.comparable b && a.instant == b.instant

end Moment
end TileComposite
