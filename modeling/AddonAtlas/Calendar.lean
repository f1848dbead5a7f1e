import AddonAtlas.Number.Instances

/-!
# Dates and moments

Days of the proleptic Gregorian calendar, from year 1 to year 9999, and moments of a day with an
optional offset from universal time. Both have an ISO text, and a longer text by which they are shown
inside other values.
-/

namespace AddonAtlas.Calendar

/-- Why numbers make no date or moment. -/
inductive Fault
  | year (year : Nat)
  | month
  | day
  | hour
  | minute
  | second
  | offset (minutes : Int)
deriving DecidableEq, Repr

def isLeapYear (year : Nat) : Bool :=
  year % 4 == 0 && (year % 100 != 0 || year % 400 == 0)

def daysInMonth (year month : Nat) : Nat :=
  match month with
  | 2 => if isLeapYear year then 29 else 28
  | 4 | 6 | 9 | 11 => 30
  | _ => 31

/-- The decimal digits of a number with zeros in front up to a width. -/
def padded (width n : Nat) : String :=
  let s := toString n
  String.ofList (List.replicate (width - s.length) '0') ++ s

structure Date where
  year : Nat
  month : Nat
  day : Nat
deriving DecidableEq, Repr

namespace Date

/-- The date of three numbers; the first one out of range is reported. -/
def of (year month day : Nat) : Except Fault Date :=
  if year = 0 ∨ 9999 < year then .error (.year year)
  else if month = 0 ∨ 12 < month then .error .month
  else if day = 0 ∨ daysInMonth year month < day then .error .day
  else .ok ⟨year, month, day⟩

/-- The number of days from the first day of year 1 on. -/
def ordinal (d : Date) : Nat :=
  let years := d.year - 1
  let months := (List.range (d.month - 1)).map fun m => daysInMonth d.year (m + 1)
  365 * years + years / 4 - years / 100 + years / 400 + months.sum + d.day

def iso (d : Date) : String :=
  padded 4 d.year ++ "-" ++ padded 2 d.month ++ "-" ++ padded 2 d.day

def shown (d : Date) : String :=
  "datetime.date(" ++ toString d.year ++ ", " ++ toString d.month ++ ", " ++ toString d.day ++ ")"

end Date

/-- A span of minutes, in days and seconds of a day. -/
def spanShown (minutes : Int) : String :=
  let days := Int.fdiv minutes 1440
  let seconds := Int.fmod minutes 1440 * 60
  let parts :=
    (if days = 0 then [] else ["days=" ++ toString days]) ++
      (if seconds = 0 then [] else ["seconds=" ++ toString seconds])
  "datetime.timedelta(" ++ (if parts.isEmpty then "0" else ", ".intercalate parts) ++ ")"

namespace Fault

def message : Fault → String
  | year y => "year " ++ toString y ++ " is out of range"
  | month => "month must be in 1..12"
  | day => "day is out of range for month"
  | hour => "hour must be in 0..23"
  | minute => "minute must be in 0..59"
  | second => "second must be in 0..59"
  | offset minutes =>
    "offset must be a timedelta strictly between -timedelta(hours=24) and timedelta(hours=24), not " ++
      spanShown minutes ++ "."

end Fault

/-- A second of a day with its millionths, and the offset from universal time in minutes. -/
structure Moment where
  date : Date
  hour : Nat
  minute : Nat
  second : Nat
  micro : Nat
  offset : Option Int
deriving DecidableEq, Repr

namespace Moment

/-- The moment of its numbers. The offset is checked first, then the date, then the time. -/
def of (year month day hour minute second micro : Nat) (offset : Option Int) :
    Except Fault Moment := do
  match offset with
  | some m => if 1440 ≤ m.natAbs then throw (.offset m)
  | none => pure ()
  let date ← Date.of year month day
  if 23 < hour then throw .hour
  if 59 < minute then throw .minute
  if 59 < second then throw .second
  return ⟨date, hour, minute, second, micro, offset⟩

/-- The millionths of a second from the beginning of year 1 on, by the clock that shows the moment. -/
def micros (t : Moment) : Nat :=
  (((24 * t.date.ordinal + t.hour) * 60 + t.minute) * 60 + t.second) * 1000000 + t.micro

/-- Whether two moments are the same: the same instant if both have an offset, the same numbers if
none has. -/
def isSame (s t : Moment) : Bool :=
  match s.offset, t.offset with
  | some m, some n =>
    (s.micros : Int) - 60000000 * m == (t.micros : Int) - 60000000 * n
  | none, none => s == t
  | _, _ => false

def iso (t : Moment) : String :=
  t.date.iso ++ " " ++ padded 2 t.hour ++ ":" ++ padded 2 t.minute ++ ":" ++ padded 2 t.second ++
    (if t.micro = 0 then "" else "." ++ padded 6 t.micro) ++
    (match t.offset with
      | none => ""
      | some m =>
        (if m < 0 then "-" else "+") ++ padded 2 (m.natAbs / 60) ++ ":" ++ padded 2 (m.natAbs % 60))

def shown (t : Moment) : String :=
  let numbers :=
    [t.date.year, t.date.month, t.date.day, t.hour, t.minute] ++
      (if t.micro ≠ 0 then [t.second, t.micro] else if t.second ≠ 0 then [t.second] else [])
  let zone :=
    match t.offset with
    | none => ""
    | some m =>
      ", tzinfo=" ++
        (if m = 0 then "datetime.timezone.utc" else "datetime.timezone(" ++ spanShown m ++ ")")
  "datetime.datetime(" ++ ", ".intercalate (numbers.map toString) ++ zone ++ ")"

end Moment

end AddonAtlas.Calendar
