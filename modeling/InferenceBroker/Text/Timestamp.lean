/-!
# Points in time

A point in time as settings files write it: a calendar date, a time of day with
nanoseconds, and an offset from UTC. Its text is the default one of time values:
`2006-01-02 15:04:05.999999999 -0700 MST`, the fraction without trailing zeros (left out
when zero), the offset as `+hhmm`, and the zone's name: `UTC` for UTC and a zero offset,
the offset again for any other.
-/

namespace InferenceBroker

namespace Timestamp

/-- A calendar date and time of day, with an offset from UTC in seconds (`none` for UTC
itself). -/
structure Stamp where
  year : Nat
  month : Nat
  day : Nat
  hour : Nat
  minute : Nat
  second : Nat
  nanos : Nat
  offset : Option Int
  deriving Repr, Inhabited, BEq

/-- A natural with leading zeros up to a width. -/
def pad (width n : Nat) : String :=
  let ds := toString n
  String.ofList (List.replicate (width - ds.length) '0') ++ ds

/-- Whether a year is a leap year. -/
def leapYear (y : Nat) : Bool := y % 4 == 0 && (y % 100 != 0 || y % 400 == 0)

/-- The number of days of a month (1 to 12) in a year. -/
def daysIn (month year : Nat) : Nat :=
  match month with
  | 2 => if leapYear year then 29 else 28
  | 4 | 6 | 9 | 11 => 30
  | _ => 31

/-- The fraction of a second: a point and nine digits without trailing zeros, nothing
for zero. -/
def fraction (nanos : Nat) : String :=
  if nanos == 0 then ""
  else "." ++ String.ofList ((pad 9 nanos).toList.reverse.dropWhile (· == '0')).reverse

/-- An offset from UTC as `+hhmm` or `-hhmm`. -/
def offsetText (secs : Int) : String :=
  let minutes := secs.natAbs / 60
  (if secs < 0 then "-" else "+") ++ pad 2 (minutes / 60) ++ pad 2 (minutes % 60)

/-- Carries a leap second into the next minute, and on into the hour, day, month and
year as far as needed, the way points in time are normalised. -/
def Stamp.carrySecond (s : Stamp) : Stamp :=
  if s.second < 60 then s
  else
    let s := { s with second := s.second - 60, minute := s.minute + 1 }
    let s := if s.minute < 60 then s else { s with minute := 0, hour := s.hour + 1 }
    let s := if s.hour < 24 then s else { s with hour := 0, day := s.day + 1 }
    let s := if s.day ≤ daysIn s.month s.year then s else { s with day := 1, month := s.month + 1 }
    if s.month ≤ 12 then s else { s with month := 1, year := s.year + 1 }

/-- The default text of a point in time. -/
def Stamp.text (s : Stamp) : String :=
  let zone := match s.offset with
    | none => "+0000 UTC"
    | some o => if o == 0 then "+0000 UTC" else offsetText o ++ " " ++ offsetText o
  s!"{pad 4 s.year}-{pad 2 s.month}-{pad 2 s.day} {pad 2 s.hour}:{pad 2 s.minute}:{pad 2 s.second}" ++
    fraction s.nanos ++ " " ++ zone

theorem daysIn_leap : daysIn 2 2000 = 29 := by decide

theorem leapYear_century : leapYear 1900 = false := by decide

end Timestamp

end InferenceBroker
