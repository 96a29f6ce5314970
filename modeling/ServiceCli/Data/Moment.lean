import ServiceCli.Number.Shortest

set_option autoImplicit false
set_option relaxedAutoImplicit false

namespace ServiceCli.Data

open ServiceCli.Number

/-- A day of the calendar. -/
structure Date where
  year : Nat
  month : Nat
  day : Nat
  deriving DecidableEq, Repr

/-- A time of day; `offset` is the distance from universal time in seconds, when it is known. -/
structure TimeOfDay where
  hour : Nat
  minute : Nat
  second : Nat
  microsecond : Nat
  offset : Option Int
  deriving DecidableEq, Repr

/-- A day, or an instant on it. -/
structure Moment where
  date : Date
  time : Option TimeOfDay
  deriving DecidableEq, Repr

/-- Every fourth year is a leap year, every hundredth is not, every four-hundredth is. -/
def isLeapYear (year : Nat) : Bool :=
  year % 4 == 0 && (year % 100 != 0 || year % 400 == 0)

def daysInMonth (year month : Nat) : Nat :=
  match month with
  | 2 => if isLeapYear year then 29 else 28
  | 4 | 6 | 9 | 11 => 30
  | _ => 31

/-- A day exists when its month does and has that many days. -/
def Date.exists (d : Date) : Bool :=
  1 ≤ d.year && d.year ≤ 9999 && 1 ≤ d.month && d.month ≤ 12 && 1 ≤ d.day
    && d.day ≤ daysInMonth d.year d.month

/-- A time exists within one day, and its offset is less than one day. -/
def TimeOfDay.exists (t : TimeOfDay) : Bool :=
  t.hour < 24 && t.minute < 60 && t.second < 60
    && match t.offset with
      | some o => o.natAbs < 86400
      | none => true

def Moment.exists (m : Moment) : Bool :=
  m.date.exists && match m.time with
    | some t => t.exists
    | none => true

/-- The number of days from the first of January of the year 1 up to a day. -/
def Date.ordinal (d : Date) : Nat :=
  let before := d.year - 1
  let months := (List.range d.month).drop 1
  365 * before + before / 4 - before / 100 + before / 400
    + (months.map (daysInMonth d.year)).foldl (· + ·) 0 + d.day

/-- The number of microseconds from the beginning of the year 1 in universal time, where the
distance from it is known. -/
def Moment.instant? (m : Moment) : Option Int := do
  let t ← m.time
  let offset ← t.offset
  let seconds : Int := ((m.date.ordinal * 24 + t.hour) * 60 + t.minute) * 60 + t.second - offset
  return seconds * 1000000 + t.microsecond

/-- Moments whose distance from universal time is known are the same when they are the same
instant. -/
def Moment.same (m n : Moment) : Bool :=
  match m.instant?, n.instant? with
  | some i, some j => i == j
  | _, _ => m == n

def padded (width n : Nat) : String := String.ofList (padLeft width '0' (digitsOf n))

/-- The text `YYYY-MM-DD` of a date. -/
def Date.text (d : Date) : String := s!"{padded 4 d.year}-{padded 2 d.month}-{padded 2 d.day}"

/-- The text `±HH:MM` of an offset, with seconds where there are any. -/
def offsetText (seconds : Int) : String :=
  let n := seconds.natAbs
  let sign := if seconds < 0 then "-" else "+"
  let tail := if n % 60 == 0 then "" else ":" ++ padded 2 (n % 60)
  sign ++ padded 2 (n / 3600) ++ ":" ++ padded 2 (n / 60 % 60) ++ tail

/-- The text `HH:MM:SS` of a time, with microseconds and offset where there are any. -/
def TimeOfDay.text (t : TimeOfDay) : String :=
  let fraction := if t.microsecond == 0 then "" else "." ++ padded 6 t.microsecond
  let offset := match t.offset with
    | some o => offsetText o
    | none => ""
  s!"{padded 2 t.hour}:{padded 2 t.minute}:{padded 2 t.second}" ++ fraction ++ offset

/-- The date and time with a separator between them. -/
def Moment.textWith (separator : String) (m : Moment) : String :=
  match m.time with
  | some t => m.date.text ++ separator ++ t.text
  | none => m.date.text

/-- The interchange form, with a `T` between date and time. -/
def Moment.isoText (m : Moment) : String := m.textWith "T"

/-- The expression that denotes an offset in generated source. -/
def offsetLiteral (seconds : Int) : String :=
  if seconds == 0 then "datetime.timezone.utc"
  else
    let days := seconds.fdiv 86400
    let rest := seconds.fmod 86400
    let parts := (if days == 0 then [] else [s!"days={days}"])
      ++ (if rest == 0 then [] else [s!"seconds={rest}"])
    "datetime.timezone(datetime.timedelta(" ++ ", ".intercalate parts ++ "))"

/-- The expression that denotes a moment in generated source; trailing zero seconds are left out. -/
def Moment.literal (m : Moment) : String :=
  let day := s!"{m.date.year}, {m.date.month}, {m.date.day}"
  match m.time with
  | none => s!"datetime.date({day})"
  | some t =>
    let fine := if t.microsecond != 0 then s!", {t.second}, {t.microsecond}"
      else if t.second != 0 then s!", {t.second}" else ""
    let offset := match t.offset with
      | some o => ", tzinfo=" ++ offsetLiteral o
      | none => ""
    s!"datetime.datetime({day}, {t.hour}, {t.minute}{fine}{offset})"

end ServiceCli.Data
