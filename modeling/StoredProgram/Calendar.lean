import StoredProgram.Numeral

/-! Calendar days and moments of the Gregorian calendar, years 1 to 9999. -/

namespace StoredProgram.Calendar

inductive Error where
  | year (n : Nat)
  | month
  | day
  | hour
  | minute
  | second
  | offset (seconds : Int)
  deriving DecidableEq

structure Day where
  year : Nat
  month : Nat
  day : Nat
  deriving DecidableEq

/-- A time of a day; the offset from universal time is in seconds. -/
structure Moment where
  date : Day
  hour : Nat
  minute : Nat
  second : Nat
  microsecond : Nat
  offset : Option Int
  deriving DecidableEq

def isLeap (year : Nat) : Bool := year % 4 = 0 && (year % 100 ≠ 0 || year % 400 = 0)

def daysIn (year month : Nat) : Nat :=
  if month = 2 then (if isLeap year then 29 else 28)
  else if month = 4 ∨ month = 6 ∨ month = 9 ∨ month = 11 then 30
  else 31

def Day.check (d : Day) : Except Error Day :=
  if d.year = 0 ∨ 9999 < d.year then .error (.year d.year)
  else if d.month = 0 ∨ 12 < d.month then .error .month
  else if d.day = 0 ∨ daysIn d.year d.month < d.day then .error .day
  else .ok d

def daySeconds : Int := 86400

def Moment.check (t : Moment) : Except Error Moment := do
  if let some s := t.offset then
    if daySeconds ≤ s ∨ s ≤ -daySeconds then throw (.offset s)
  let _ ← t.date.check
  if 23 < t.hour then throw .hour
  if 59 < t.minute then throw .minute
  if 59 < t.second then throw .second
  return t

def daysBefore (year : Nat) : Nat :=
  let y := year - 1
  365 * y + y / 4 - y / 100 + y / 400

def Day.ordinal (d : Day) : Nat :=
  let months := List.range (d.month - 1)
  months.foldl (fun n m => n + daysIn d.year (m + 1)) (daysBefore d.year) + d.day

def Moment.microseconds (t : Moment) : Int :=
  (((t.date.ordinal * 24 + t.hour) * 60 + t.minute) * 60 + t.second) * 1000000 + t.microsecond

/-- Moments with offsets are the same if they are so in universal time. One without is the same only
as another without. -/
def Moment.same (t u : Moment) : Bool :=
  match t.offset, u.offset with
  | none, none => t.microseconds = u.microseconds
  | some a, some b => t.microseconds - a * 1000000 = u.microseconds - b * 1000000
  | _, _ => false

def digits (n : Nat) : String := String.ofList (Numeral.decimal n)

def padded (width n : Nat) : String :=
  let ds := Numeral.decimal n
  String.ofList (List.replicate (width - ds.length) '0' ++ ds)

def Day.text (d : Day) : String := s!"{padded 4 d.year}-{padded 2 d.month}-{padded 2 d.day}"

def offsetText (s : Int) : String :=
  let m := s.natAbs / 60
  (if s < 0 then "-" else "+") ++ s!"{padded 2 (m / 60)}:{padded 2 (m % 60)}"

def Moment.text (t : Moment) : String :=
  s!"{t.date.text} {padded 2 t.hour}:{padded 2 t.minute}:{padded 2 t.second}" ++
    (if t.microsecond = 0 then "" else "." ++ padded 6 t.microsecond) ++
    (t.offset.map offsetText).getD ""

def durationParts (s : Int) : List String :=
  let days := Int.fdiv s daySeconds
  let rest := Int.fmod s daySeconds
  (if days = 0 then [] else ["days=" ++ Numeral.text days]) ++
    (if rest = 0 then [] else ["seconds=" ++ Numeral.text rest])

def durationCall (s : Int) : String :=
  let parts := durationParts s
  "datetime.timedelta(" ++ (if parts.isEmpty then "0" else ", ".intercalate parts) ++ ")"

def Day.call (d : Day) : String :=
  s!"datetime.date({digits d.year}, {digits d.month}, {digits d.day})"

def offsetCall (s : Int) : String :=
  if s = 0 then "datetime.timezone.utc" else "datetime.timezone(" ++ durationCall s ++ ")"

def Moment.call (t : Moment) : String :=
  let time := [t.date.year, t.date.month, t.date.day, t.hour, t.minute]
  let fine := if t.microsecond ≠ 0 then [t.second, t.microsecond]
    else if t.second ≠ 0 then [t.second] else []
  let zone := (t.offset.map fun s => "tzinfo=" ++ offsetCall s).toList
  "datetime.datetime(" ++ ", ".intercalate ((time ++ fine).map digits ++ zone) ++ ")"

def Error.message : Error → String
  | .year n => s!"year {digits n} is out of range"
  | .month => "month must be in 1..12"
  | .day => "day is out of range for month"
  | .hour => "hour must be in 0..23"
  | .minute => "minute must be in 0..59"
  | .second => "second must be in 0..59"
  | .offset s => "offset must be a timedelta strictly between -timedelta(hours=24) and " ++
      "timedelta(hours=24), not " ++ durationCall s ++ "."

end StoredProgram.Calendar
