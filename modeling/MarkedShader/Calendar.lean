import MarkedShader.Number.Decimal

/-! Days of the calendar and times of a day. -/
namespace MarkedShader

structure Date where
  year : Nat
  month : Nat
  day : Nat
  deriving DecidableEq, Repr

/-- A time of a day. Without an offset it is nowhere in particular; an offset counts minutes ahead
of universal time. -/
structure Moment where
  date : Date
  hour : Nat
  minute : Nat
  second : Nat := 0
  microsecond : Nat := 0
  offset : Option Int := none
  deriving DecidableEq, Repr

/-- The first part of a date or time that is beyond its range. -/
inductive CalendarFault
  | year (found : Nat)
  | month
  | day
  | hour
  | minute
  | second
  | offset (minutes : Int)
  deriving DecidableEq, Repr

namespace Date

def isLeap (year : Nat) : Bool := year%4 = 0 && (year%100 ≠ 0 || year%400 = 0)

def daysIn (year month : Nat) : Nat :=
  if month = 2 then (if isLeap year then 29 else 28)
    else if [4, 6, 9, 11].contains month then 30 else 31

/-- The days before the first of January. -/
def daysBefore (year : Nat) : Nat := (year-1)*365 + (year-1)/4 - (year-1)/100 + (year-1)/400

/-- The number of a day; the first day of year 1 has the number 1. -/
def ordinal (d : Date) : Nat :=
  (List.range (d.month-1)).foldl (fun n m => n + daysIn d.year (m+1)) (daysBefore d.year + d.day)

def check (d : Date) : Except CalendarFault Unit :=
  if d.year = 0 then .error (.year d.year)
  else if d.month = 0 || 12 < d.month then .error .month
  else if d.day = 0 || daysIn d.year d.month < d.day then .error .day
  else .ok ()

/-- A number with zeros before it. -/
def padded (width n : Nat) : Text := (Decimal.natural n).leftpad width '0'

def text (d : Date) : Text := padded 4 d.year ++ '-' :: padded 2 d.month ++ '-' :: padded 2 d.day

end Date

namespace Moment

def minutesPerDay : Nat := 1440

/-- Whether date, time and offset are in their ranges. The offset is checked first; it is less than
a day. -/
def check (m : Moment) : Except CalendarFault Unit := do
  if let some offset := m.offset then
    if minutesPerDay ≤ offset.natAbs then throw (.offset offset)
  m.date.check
  if 23 < m.hour then throw .hour
  if 59 < m.minute then throw .minute
  if 59 < m.second then throw .second

def offsetText (offset : Int) : Text :=
  (if offset < 0 then '-' else '+') :: Date.padded 2 (offset.natAbs/60) ++ ':' ::
    Date.padded 2 (offset.natAbs%60)

/-- Date, time, the microseconds if there are any, and the offset if there is one. -/
def text (m : Moment) : Text :=
  m.date.text ++ ' ' :: Date.padded 2 m.hour ++ ':' :: Date.padded 2 m.minute ++
    ':' :: Date.padded 2 m.second ++
    (if m.microsecond = 0 then [] else '.' :: Date.padded 6 m.microsecond) ++
      (m.offset.map offsetText).getD []

/-- Microseconds since the day before the first one. -/
def instant (m : Moment) : Int :=
  (((m.date.ordinal*24 + m.hour)*60 + m.minute - m.offset.getD 0)*60 + m.second)*1000000 +
    m.microsecond

/-- Whether two moments are the same: at one instant if both have an offset, of one date and time if
none has. -/
def same (a b : Moment) : Bool := a.offset.isSome == b.offset.isSome && a.instant == b.instant

end Moment

namespace CalendarFault

/-- The spelling of a span of minutes: whole days, and the seconds of the day begun. -/
def spanText (minutes : Int) : Text :=
  let days := minutes.fdiv Moment.minutesPerDay
  let seconds := minutes.fmod Moment.minutesPerDay * 60
  let parts := (if days = 0 then [] else ["days=".toList ++ Decimal.integer days]) ++
    if seconds = 0 then [] else ["seconds=".toList ++ Decimal.integer seconds]
  "datetime.timedelta(".toList ++
    (if parts.isEmpty then ['0'] else List.intercalate ", ".toList parts) ++ [')']

def message : CalendarFault → Text
  | year found => "year ".toList ++ Decimal.natural found ++ " is out of range".toList
  | month => "month must be in 1..12".toList
  | day => "day is out of range for month".toList
  | hour => "hour must be in 0..23".toList
  | minute => "minute must be in 0..59".toList
  | second => "second must be in 0..59".toList
  | offset minutes =>
    "offset must be a timedelta strictly between -timedelta(hours=24) and timedelta(hours=24), not ".toList ++
      spanText minutes ++ ['.']

end CalendarFault
end MarkedShader
