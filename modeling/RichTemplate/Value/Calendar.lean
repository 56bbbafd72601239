/-!
# Dates and times

Days of the calendar from year 1 to year 9999, and times of such days with an optional offset from
universal time.
-/

namespace RichTemplate

/-- A number in decimal with at least `width` digits. -/
def padded (width n : Nat) : String :=
  let digits := Nat.toDigits 10 n
  String.ofList (List.replicate (width - digits.length) '0' ++ digits)

structure Date where
  year : Nat
  month : Nat
  day : Nat
deriving DecidableEq, Repr

/-- A time of a day; the offset is in seconds east of universal time. -/
structure DateTime where
  date : Date
  hour : Nat
  minute : Nat
  second : Nat
  microsecond : Nat
  offset : Option Int
deriving DecidableEq, Repr

inductive CalendarError where
  | year (given : Nat)
  | month
  | day
  | hour
  | minute
  | second
  | offset (seconds : Int)
deriving DecidableEq, Repr

namespace Date

def isLeap (year : Nat) : Bool :=
  year % 4 == 0 && (year % 100 != 0 || year % 400 == 0)

def daysInMonth (year month : Nat) : Nat :=
  if month = 2 then (if isLeap year then 29 else 28)
  else if month = 4 ∨ month = 6 ∨ month = 9 ∨ month = 11 then 30
  else 31

def ofParts (year month day : Nat) : Except CalendarError Date :=
  if year < 1 ∨ 9999 < year then .error (.year year)
  else if month < 1 ∨ 12 < month then .error .month
  else if day < 1 ∨ daysInMonth year month < day then .error .day
  else .ok ⟨year, month, day⟩

def dayNumber (d : Date) : Nat :=
  let years := d.year - 1
  let months := (List.range (d.month - 1)).foldl (fun days i => days + daysInMonth d.year (i + 1)) 0
  years * 365 + years / 4 - years / 100 + years / 400 + months + (d.day - 1)

def isoText (d : Date) : String :=
  padded 4 d.year ++ "-" ++ padded 2 d.month ++ "-" ++ padded 2 d.day

end Date

/-- A span of time in whole seconds, split into days, which may be negative, and the rest of a
day. -/
def durationText (seconds : Int) : String :=
  let days := Int.fdiv seconds 86400
  let rest := Int.fmod seconds 86400
  let parts := (if days = 0 then [] else ["days=" ++ toString days]) ++
    (if rest = 0 then [] else ["seconds=" ++ toString rest])
  "datetime.timedelta(" ++ (if parts.isEmpty then "0" else ", ".intercalate parts) ++ ")"

namespace DateTime

/-- The time with the given parts. The offset must be less than a day; it is looked at first. -/
def ofParts (year month day hour minute second microsecond : Nat) (offset : Option Int) :
    Except CalendarError DateTime := do
  match offset with
  | some o => if 86400 ≤ o.natAbs then .error (.offset o)
  | none => pure ()
  let date ← Date.ofParts year month day
  if 23 < hour then .error .hour
  else if 59 < minute then .error .minute
  else if 59 < second then .error .second
  else .ok ⟨date, hour, minute, second, microsecond, offset⟩

/-- The offset from universal time, as in `+02:30`. -/
def offsetText (offset : Int) : String :=
  let minutes := offset.natAbs / 60
  let seconds := offset.natAbs % 60
  (if offset < 0 then "-" else "+") ++ padded 2 (minutes / 60) ++ ":" ++ padded 2 (minutes % 60) ++
    (if seconds = 0 then "" else ":" ++ padded 2 seconds)

/-- The time in ISO form with a mark between day and time; a whole second has no fraction. -/
def isoText (separator : String) (t : DateTime) : String :=
  t.date.isoText ++ separator ++ padded 2 t.hour ++ ":" ++ padded 2 t.minute ++ ":" ++
    padded 2 t.second ++ (if t.microsecond = 0 then "" else "." ++ padded 6 t.microsecond) ++
    (match t.offset with
      | some o => offsetText o
      | none => "")

/-- Seconds of the day at the place the time is given for, moved to universal time. -/
def instant (t : DateTime) : Int :=
  (t.date.dayNumber * 86400 + t.hour * 3600 + t.minute * 60 + t.second : Nat) - t.offset.getD 0

/-- Whether two times are the same moment; a time without an offset is none of those with one. -/
def sameMoment (s t : DateTime) : Bool :=
  s.offset.isSome == t.offset.isSome && s.instant == t.instant && s.microsecond == t.microsecond

end DateTime

namespace CalendarError

def message : CalendarError → String
  | .year given => "year " ++ toString given ++ " is out of range"
  | .month => "month must be in 1..12"
  | .day => "day is out of range for month"
  | .hour => "hour must be in 0..23"
  | .minute => "minute must be in 0..59"
  | .second => "second must be in 0..59"
  | .offset seconds =>
    "offset must be a timedelta strictly between -timedelta(hours=24) and timedelta(hours=24), not "
      ++ durationText seconds ++ "."

end CalendarError

end RichTemplate
