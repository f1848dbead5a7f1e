import AddonAtlas.Calendar

/-!
# Moments as texts

A moment, as so many seconds from the start of the year 1970 in universal time, and the texts that a format with
letters behind percent signs makes of it.
-/

namespace AddonAtlas.Shell

structure Moment where
  year : Int
  month : Nat
  day : Nat
  /-- The number of the day in the week, from Sunday on. -/
  weekday : Nat
  /-- The number of the day in the year, from zero on. -/
  yearDay : Nat
  hour : Nat
  minute : Nat
  second : Nat
  /-- The seconds themselves. -/
  total : Int
deriving Repr

namespace Moment

/-- The month and the day of the month for a day of a year that is counted from zero. -/
def monthDay (year : Nat) : (months : List Nat) → (day : Nat) → Nat × Nat
  | [], day => (12, day + 1)
  | month :: rest, day =>
    let length := Calendar.daysInMonth year month
    if day < length then (month, day + 1) else monthDay year rest (day - length)

/-- The moment that so many seconds stand for. -/
def ofSeconds (total : Int) : Moment :=
  let days := Int.fdiv total 86400
  let rest := (Int.fmod total 86400).toNat
  -- The years repeat every 400 years, which are 146097 days; 1970 is 370 years behind the start of such a span.
  let shifted := days + 135140
  let spans := Int.fdiv shifted 146097
  let inSpan := (Int.fmod shifted 146097).toNat
  let estimate := inSpan / 366
  let start (y : Nat) : Nat := 365 * y + (y + 3) / 4 - (y + 99) / 100 + (y + 399) / 400
  let year := ((List.range 3).map (estimate + ·)).foldl (fun found y => if start y ≤ inSpan then y else found) estimate
  let yearDay := inSpan - start year
  let (month, day) := monthDay (year + 400) ((List.range 12).map (· + 1)) yearDay
  { year := 400 * spans + 1600 + year
    month := month
    day := day
    weekday := (Int.fmod (days + 4) 7).toNat
    yearDay := yearDay
    hour := rest / 3600
    minute := rest / 60 % 60
    second := rest % 60
    total := total }

def dayNames : List String :=
  ["Sunday", "Monday", "Tuesday", "Wednesday", "Thursday", "Friday", "Saturday"]

def monthNames : List String :=
  ["January", "February", "March", "April", "May", "June", "July", "August", "September", "October", "November",
    "December"]

/-- A number with blanks in front. -/
def blanked (width n : Nat) : String :=
  let s := toString n
  String.ofList (List.replicate (width - s.length) ' ') ++ s

/-- The number of the week by a day of the week with which weeks begin. -/
def week (m : Moment) (first : Nat) : Nat :=
  (m.yearDay + 7 - (m.weekday + 7 - first) % 7) / 7

/-- The year and the number of the week, if weeks begin on Mondays and belong to the year of their Thursday. -/
def isoWeek (m : Moment) : Int × Nat :=
  let weekday := (m.weekday + 6) % 7
  let thursday : Int := (m.yearDay : Int) - weekday + 3
  let length (y : Int) : Int := if Calendar.isLeapYear (y % 400 + 400).toNat then 366 else 365
  if thursday < 0 then (m.year - 1, ((thursday + length (m.year - 1)) / 7 + 1).toNat)
  else if length m.year ≤ thursday then (m.year + 1, ((thursday - length m.year) / 7 + 1).toNat)
  else (m.year, (thursday / 7 + 1).toNat)

/-- The text for a letter; nothing if the letter means nothing. -/
def field? (m : Moment) (letter : Char) : Option String :=
  let two := Calendar.padded 2
  let hour12 := if m.hour % 12 = 0 then 12 else m.hour % 12
  let short (s : String) : String := (s.take 3).toString
  let dayName := dayNames.getD m.weekday ""
  let monthName := monthNames.getD (m.month - 1) ""
  let year := toString m.year
  let time := two m.hour ++ ":" ++ two m.minute ++ ":" ++ two m.second
  let yearInCentury := two (m.year % 100).toNat
  match letter with
  | 'Y' => some year
  | 'C' => some (two (m.year / 100).toNat)
  | 'y' => some yearInCentury
  | 'm' => some (two m.month)
  | 'd' => some (two m.day)
  | 'e' => some (blanked 2 m.day)
  | 'H' => some (two m.hour)
  | 'I' => some (two hour12)
  | 'k' => some (blanked 2 m.hour)
  | 'l' => some (blanked 2 hour12)
  | 'M' => some (two m.minute)
  | 'S' => some (two m.second)
  | 'N' => some "000000000"
  | 'j' => some (Calendar.padded 3 (m.yearDay + 1))
  | 'a' => some (short dayName)
  | 'A' => some dayName
  | 'b' | 'h' => some (short monthName)
  | 'B' => some monthName
  | 'p' => some (if m.hour < 12 then "AM" else "PM")
  | 'P' => some (if m.hour < 12 then "am" else "pm")
  | 's' => some (toString m.total)
  | 'u' => some (toString (if m.weekday = 0 then 7 else m.weekday))
  | 'w' => some (toString m.weekday)
  | 'U' => some (two (m.week 0))
  | 'W' => some (two (m.week 1))
  | 'V' => some (two m.isoWeek.2)
  | 'G' => some (toString m.isoWeek.1)
  | 'g' => some (two (m.isoWeek.1 % 100).toNat)
  | 'q' => some (toString ((m.month + 2) / 3))
  | 'z' => some "+0000"
  | 'Z' => some "UTC"
  | 'n' => some "\n"
  | 't' => some "\t"
  | '%' => some "%"
  | 'F' => some (year ++ "-" ++ two m.month ++ "-" ++ two m.day)
  | 'D' | 'x' => some (two m.month ++ "/" ++ two m.day ++ "/" ++ yearInCentury)
  | 'T' | 'X' => some time
  | 'R' => some (two m.hour ++ ":" ++ two m.minute)
  | 'r' => some (two hour12 ++ ":" ++ two m.minute ++ ":" ++ two m.second ++ (if m.hour < 12 then " AM" else " PM"))
  | 'c' => some (short dayName ++ " " ++ short monthName ++ " " ++ blanked 2 m.day ++ " " ++ time ++ " " ++ year)
  | _ => none

/-- The text that a format makes of a moment. -/
def formatted (m : Moment) : List Char → List Char
  | '%' :: c :: rest =>
    match m.field? c with
    | some s => s.toList ++ formatted m rest
    | none => '%' :: c :: formatted m rest
  | c :: rest => c :: formatted m rest
  | [] => []

end Moment

end AddonAtlas.Shell
