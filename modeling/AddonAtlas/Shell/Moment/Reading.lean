import AddonAtlas.Shell.Arithmetic
import AddonAtlas.Shell.Moment

/-!
# Reading moments

A moment in words: a date, a time of the day, a zone, a day of the week, and spans before or behind it, in any
order, each at most once but for the spans. What is not said is that of the present, or zero for times.
-/

namespace AddonAtlas.Shell.Moment

/-- A piece of the text. A number is kept with its digits and the sign in front of it. -/
inductive Piece
  | number (sign : Option Bool) (digits : List Char)
  | word (letters : List Char)
  | mark (c : Char)
deriving DecidableEq, Repr

/-- The pieces of a text; what stands in parentheses is left out. -/
def pieces : (fuel : Nat) → List Char → List Piece
  | 0, _ => []
  | _ + 1, [] => []
  | fuel + 1, c :: rest =>
    let isSign (c : Char) : Bool := c == '+' || c == '-'
    if Arithmetic.isSpace c then pieces fuel rest
    else if isDigit c then
      let ds := (c :: rest).takeWhile isDigit
      .number none ds :: pieces fuel (rest.drop (ds.length - 1))
    else if isSign c then
      let behind := rest.dropWhile Arithmetic.isSpace
      let ds := behind.takeWhile isDigit
      if ds.isEmpty then pieces fuel rest else .number (some (c == '-')) ds :: pieces fuel (behind.drop ds.length)
    else if c.isAlpha then
      let ls := (c :: rest).takeWhile fun d => d.isAlpha || d == '.'
      .word (ls.map Char.toLower) :: pieces fuel (rest.drop (ls.length - 1))
    else if c = '(' then pieces fuel ((rest.dropWhile (· != ')')).drop 1)
    else .mark c :: pieces fuel rest

/-- What was read so far. -/
structure Notes where
  date : Option (Int × Nat × Nat) := none
  hasYear : Bool := true
  /-- Seconds since the start of the day. -/
  time : Option Nat := none
  /-- Seconds by which a zone is ahead of universal time. -/
  zone : Option Int := none
  weekday : Option (Int × Nat) := none
  /-- Months, days and seconds to add. -/
  span : Int × Int × Int := (0, 0, 0)
  hasSpan : Bool := false

def valueOf (ds : List Char) : Nat :=
  (Arithmetic.digitsOf 10 ds).1

/-- The number of a month by its name, or three letters of it at least. -/
def month? (w : List Char) : Option Nat :=
  let w := if w.getLast? = some '.' then w.dropLast else w
  if w = "sept".toList then some 9
  else
    (monthNames.findIdx? fun m =>
      let cs := m.toList.map Char.toLower
      w = cs || w = cs.take 3).map (· + 1)

/-- The number of a day of the week by its name, or three letters of it. -/
def weekday? (w : List Char) : Option Nat :=
  let w := if w.getLast? = some '.' then w.dropLast else w
  if w = "tues".toList then some 2
  else if w = "wednes".toList then some 3
  else if w = "thur".toList ∨ w = "thurs".toList then some 4
  else
    dayNames.findIdx? fun d =>
      let cs := d.toList.map Char.toLower
      w = cs || w = cs.take 3

/-- What a unit of time is in months, days and seconds. -/
def unit? (w : List Char) : Option (Int × Int × Int) :=
  let w := if w.length > 1 && w.getLast? = some 's' then w.dropLast else w
  ([("year", ((12 : Int), (0 : Int), (0 : Int))), ("month", (1, 0, 0)), ("fortnight", (0, 14, 0)), ("week", (0, 7, 0)),
    ("day", (0, 1, 0)), ("hour", (0, 0, 3600)), ("minute", (0, 0, 60)), ("min", (0, 0, 60)), ("second", (0, 0, 1)),
    ("sec", (0, 0, 1))].find? fun u => u.1.toList = w).map (·.2)

/-- The number that an ordinal stands for. -/
def ordinal? (w : List Char) : Option Int :=
  ([("last", (-1 : Int)), ("this", 0), ("next", 1), ("first", 1), ("third", 3), ("fourth", 4), ("fifth", 5),
    ("sixth", 6), ("seventh", 7), ("eighth", 8), ("ninth", 9), ("tenth", 10), ("eleventh", 11),
    ("twelfth", 12)].find? fun o => o.1.toList = w).map (·.2)

/-- The hours by which a zone is ahead, by its name. -/
def zone? (w : List Char) : Option Int :=
  let known : List (String × Int) :=
    [("gmt", 0), ("ut", 0), ("utc", 0), ("wet", 0), ("cet", 1), ("met", 1), ("eet", 2), ("bst", 1), ("cest", 2),
      ("est", -5), ("edt", -4), ("cst", -6), ("cdt", -5), ("mst", -7), ("mdt", -6), ("pst", -8), ("pdt", -7)]
  match known.find? fun z => z.1.toList = w with
  | some z => some z.2
  | none =>
    match w with
    | [c] =>
      if c = 'z' then some 0
      else if 'a' ≤ c && c ≤ 'i' then some ((c.toNat : Int) - 96)
      else if 'k' ≤ c && c ≤ 'm' then some ((c.toNat : Int) - 97)
      else if 'n' ≤ c && c ≤ 'y' then some (109 - (c.toNat : Int))
      else none
    | _ => none

/-- Adds a span so many times. -/
def Notes.add (n : Notes) (count : Int) (unit : Int × Int × Int) : Notes :=
  let (months, days, seconds) := n.span
  { n with
    span := (months + count * unit.1, days + count * unit.2.1, seconds + count * unit.2.2), hasSpan := true }

/-- A year of which the digits are given. -/
def yearOf (ds : List Char) : Int :=
  let y : Int := valueOf ds
  if ds.length ≤ 2 then (if y < 69 then 2000 + y else 1900 + y) else y

def withDate (n : Notes) (year : Int) (month day : Nat) (hasYear : Bool) : Option Notes :=
  let isRight := 1 ≤ month && month ≤ 12 && 1 ≤ day && day ≤ Calendar.daysInMonth (year % 400 + 400).toNat month
  if n.date.isSome || (hasYear && !isRight) then none
  else some { n with date := some (year, month, day), hasYear := hasYear }

def withTime (n : Notes) (hour minute second : Nat) : Option Notes :=
  if n.time.isSome || 23 < hour || 59 < minute || 59 < second then none
  else some { n with time := some (hour * 3600 + minute * 60 + second) }

def withZone (n : Notes) (seconds : Int) : Option Notes :=
  if n.zone.isSome then none else some { n with zone := some seconds }

/-- The seconds of a zone that is written as hours, or as hours and minutes. -/
def zoneSeconds (isBehind : Bool) (ds : List Char) : Int :=
  let v := valueOf ds
  let total : Nat := if ds.length ≤ 2 then v * 3600 else v / 100 * 3600 + v % 100 * 60
  if isBehind then -(total : Int) else total

/-- The hour of the day for one before or behind noon; nothing if there is no such hour. -/
def hourOf (hour : Nat) (w : List Char) : Option Nat :=
  if w = "am".toList ∨ w = "a.m.".toList then (if 1 ≤ hour ∧ hour ≤ 12 then some (hour % 12) else none)
  else if w = "pm".toList ∨ w = "p.m.".toList then (if 1 ≤ hour ∧ hour ≤ 12 then some (hour % 12 + 12) else none)
  else none

/-- Reads a time of the day behind its hour and minute. -/
def behindTime (n : Notes) (hour minute second : Nat) : List Piece → Option (Notes × List Piece)
  | .word w :: rest =>
    match hourOf hour w with
    | some hour => (withTime n hour minute second).map fun n => (n, rest)
    | none => (withTime n hour minute second).map fun n => (n, .word w :: rest)
  | .number (some isBehind) ds :: rest =>
    let isSpan :=
      match rest with
      | .word w :: _ => (unit? w).isSome && 2 < ds.length
      | _ => false
    if isSpan then (withTime n hour minute second).map fun n => (n, .number (some isBehind) ds :: rest)
    else
      let (seconds, rest) :=
        match rest with
        | .mark ':' :: .number none ms :: rest =>
          let extra : Int := (valueOf ms * 60 : Nat)
          let hours := zoneSeconds isBehind ds
          (if isBehind then hours - extra else hours + extra, rest)
        | rest => (zoneSeconds isBehind ds, rest)
      (withTime n hour minute second).bind fun n => (withZone n seconds).map fun n => (n, rest)
  | rest => (withTime n hour minute second).map fun n => (n, rest)

/-- Reads one item. -/
def item (n : Notes) : List Piece → Option (Notes × List Piece)
  | .number none y :: .number (some true) m :: .number (some true) d :: rest => do
    let n ← withDate n (yearOf y) (valueOf m) (valueOf d) true
    match rest with
    | .word ['t'] :: .number none h :: .mark ':' :: rest => some (n, .number none h :: .mark ':' :: rest)
    | rest => some (n, rest)
  | .number none a :: .mark '/' :: .number none b :: .mark '/' :: .number none c :: rest => do
    let n ←
      if 4 ≤ a.length then withDate n (yearOf a) (valueOf b) (valueOf c) true
      else withDate n (yearOf c) (valueOf a) (valueOf b) true
    some (n, rest)
  | .number none a :: .mark '/' :: .number none b :: rest => do
    some (← withDate n 0 (valueOf a) (valueOf b) false, rest)
  | .number none h :: .mark ':' :: .number none m :: .mark ':' :: .number none s :: rest =>
    let rest :=
      match rest with
      | .mark '.' :: .number none _ :: rest | .mark ',' :: .number none _ :: rest => rest
      | rest => rest
    behindTime n (valueOf h) (valueOf m) (valueOf s) rest
  | .number none h :: .mark ':' :: .number none m :: rest => behindTime n (valueOf h) (valueOf m) 0 rest
  | .number sign ds :: .word w :: rest =>
    let count : Int := if sign = some true then -(valueOf ds : Int) else valueOf ds
    match unit? w with
    | some u =>
      match rest with
      | .word ['a', 'g', 'o'] :: rest => some (n.add (-count) u, rest)
      | rest => some (n.add count u, rest)
    | none =>
      match month? w with
      | some m =>
        match sign, rest with
        | none, .number none y :: .mark ':' :: rest =>
          (withDate n 0 m (valueOf ds) false).map fun n => (n, .number none y :: .mark ':' :: rest)
        | none, .number none y :: rest | none, .number (some true) y :: rest =>
          (withDate n (yearOf y) m (valueOf ds) true).map fun n => (n, rest)
        | none, rest => (withDate n 0 m (valueOf ds) false).map fun n => (n, rest)
        | some _, _ => none
      | none =>
        match hourOf (valueOf ds) w, sign with
        | some h, none => (withTime n h 0 0).map fun n => (n, rest)
        | _, _ => bare n sign ds (.word w :: rest)
  | .number sign ds :: rest => bare n sign ds rest
  | .word w :: rest =>
    match month? w, rest with
    | some m, .number none d :: .mark ',' :: .number none y :: rest =>
      (withDate n (yearOf y) m (valueOf d) true).map fun n => (n, rest)
    | some m, .number none d :: rest => (withDate n 0 m (valueOf d) false).map fun n => (n, rest)
    | some _, _ => none
    | none, rest =>
      match ordinal? w, rest with
      | some k, .word u :: rest =>
        match unit? u, weekday? u with
        | some u, _ =>
          match rest with
          | .word ['a', 'g', 'o'] :: rest => some (n.add (-k) u, rest)
          | rest => some (n.add k u, rest)
        | none, some d => if n.weekday.isSome then none else some ({ n with weekday := some (k, d) }, rest)
        | none, none => none
      | some _, _ => none
      | none, rest =>
        match weekday? w, unit? w, zone? w with
        | some d, _, _ =>
          let rest := if rest.head? = some (.mark ',') then rest.drop 1 else rest
          if n.weekday.isSome then none else some ({ n with weekday := some (0, d) }, rest)
        | none, some u, _ =>
          match rest with
          | .word ['a', 'g', 'o'] :: rest => some (n.add (-1) u, rest)
          | rest => some (n.add 1 u, rest)
        | none, none, some hours => (withZone n (hours * 3600)).map fun n => (n, rest)
        | none, none, none =>
          if w = "tomorrow".toList then some (n.add 1 (0, 1, 0), rest)
          else if w = "yesterday".toList then some (n.add (-1) (0, 1, 0), rest)
          else if w = "today".toList ∨ w = "now".toList then some (n.add 0 (0, 1, 0), rest)
          else none
  | .mark _ :: _ | [] => none
where
  /-- Reads a number that nothing explains. -/
  bare (n : Notes) (sign : Option Bool) (ds : List Char) (rest : List Piece) : Option (Notes × List Piece) :=
    match sign with
    | some isBehind => if n.time.isSome then (withZone n (zoneSeconds isBehind ds)).map fun n => (n, rest) else none
    | none =>
      if n.date.isSome && !n.hasYear && !n.hasSpan && (n.time.isSome || 2 < ds.length) then
        (n.date.bind fun (_, m, d) => withDate { n with date := none } (yearOf ds) m d true).map fun n => (n, rest)
      else if 4 < ds.length then
        let v := valueOf ds
        (withDate n (yearOf (ds.take (ds.length - 4))) (v / 100 % 100) (v % 100) true).map fun n => (n, rest)
      else
        let v := valueOf ds
        (if ds.length ≤ 2 then withTime n v 0 0 else withTime n (v / 100) (v % 100) 0).map fun n => (n, rest)

/-- Reads all items. -/
def items : (fuel : Nat) → Notes → List Piece → Option Notes
  | 0, _, _ => none
  | _ + 1, n, [] => some n
  | fuel + 1, n, ps => (item n ps).bind fun (n, ps) => items fuel n ps

/-- The days since the start of the year 1970 for a day of a month. -/
def dayNumber (year : Int) (month day : Nat) : Int :=
  let spans := Int.fdiv year 400
  let y := (Int.fmod year 400).toNat
  let leap : Int := (y + 3) / 4 - (y + 99) / 100 + (y + 399) / 400
  let before := ((List.range (month - 1)).map fun m => Calendar.daysInMonth (y + 400) (m + 1)).sum
  146097 * spans + 365 * y + leap + before + day - 1 - 719528

/-- The seconds of what was read, seen from the present. -/
def Notes.total (n : Notes) (now : Int) : Option Int :=
  let present := ofSeconds now
  let (year, month, day) :=
    match n.date with
    | some (y, m, d) => (if n.hasYear then y else present.year, m, d)
    | none => (present.year, present.month, present.day)
  if Calendar.daysInMonth (year % 400 + 400).toNat (max 1 (min 12 month)) < day ∨ month < 1 ∨ 12 < month then none
  else
    let time : Int :=
      match n.time with
      | some t => t
      | none => if n.date.isSome || n.weekday.isSome || !n.hasSpan then 0 else now - 86400 * Int.fdiv now 86400
    let months := year * 12 + ((month : Int) - 1) + n.span.1
    let days := dayNumber (Int.fdiv months 12) ((Int.fmod months 12).toNat + 1) 1 + (day : Int) - 1
    let days :=
      match n.weekday with
      | some (count, d) =>
        if n.date.isSome then days
        else
          let today := Int.fmod (days + 4) 7
          let ahead := Int.fmod ((d : Int) - today) 7
          days + ahead + 7 * (if 0 < count && ahead ≠ 0 then count - 1 else count)
      | none => days
    some ((days + n.span.2.1) * 86400 + time + n.span.2.2 - n.zone.getD 0)

/-- The seconds, and billionths of one, that a text stands for; nothing if it does not stand for a moment. -/
def read? (now : Int) (s : String) : Option (Int × Nat) :=
  match s.toList.dropWhile Arithmetic.isSpace with
  | '@' :: rest =>
    let rest := rest.dropWhile Arithmetic.isSpace
    let isBefore := rest.head? = some '-'
    let rest := if isBefore ∨ rest.head? = some '+' then rest.drop 1 else rest
    let ds := rest.takeWhile isDigit
    let behind := rest.drop ds.length
    let (fraction, behind) :=
      match behind with
      | '.' :: more | ',' :: more =>
        let fs := more.takeWhile isDigit
        (fs, if fs.isEmpty then behind else more.drop fs.length)
      | _ => ([], behind)
    if ds.isEmpty || !(behind.all Arithmetic.isSpace) then none
    else
      let parts := valueOf ((fraction ++ List.replicate 9 '0').take 9)
      let whole : Int := valueOf ds
      if isBefore then (if parts = 0 then some (-whole, 0) else some (-whole - 1, 1000000000 - parts))
      else some (whole, parts)
  | cs =>
    let ps := pieces (cs.length + 1) cs
    (items (ps.length + 1) {} ps).bind fun n => (n.total now).map fun t => (t, 0)

end AddonAtlas.Shell.Moment
