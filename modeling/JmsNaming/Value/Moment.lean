/-
Dates, times of day and instants, as configuration files hold them, with their two written forms:
the plain one and the one used inside lists and maps.
-/
namespace JmsNaming

/-- A calendar date. -/
structure Date where
  year : Nat
  month : Nat
  day : Nat
  deriving DecidableEq, Inhabited

/-- A time of day. -/
structure TimeOfDay where
  hour : Nat
  minute : Nat
  second : Nat
  microsecond : Nat
  deriving DecidableEq, Inhabited

/-- A date, a time of day, or both; the last with the seconds that its clock is ahead of the
universal one, where that is known. -/
inductive Moment where
  | date (d : Date)
  | time (t : TimeOfDay)
  | dateTime (d : Date) (t : TimeOfDay) (offset : Option Int)
  deriving DecidableEq, Inhabited

/-- `n` in decimal with zeros in front up to `width` digits. -/
def paddedNat (width n : Nat) : List Char :=
  let digits := Nat.toDigits 10 n
  List.replicate (width - digits.length) '0' ++ digits

/-! ## Calendar rules -/

def isLeapYear (year : Nat) : Bool :=
  year % 4 == 0 && (year % 100 != 0 || year % 400 == 0)

def daysInMonth (year month : Nat) : Nat :=
  if month == 2 then (if isLeapYear year then 29 else 28)
  else if month == 4 || month == 6 || month == 9 || month == 11 then 30
  else 31

/-- Why numbers form no date or time. -/
inductive CalendarFault where
  | year (n : Nat)
  | month
  | day
  | hour
  | minute
  | second
  | offset (seconds : Int)
  deriving DecidableEq

/-- A span of seconds as a whole number of days and the seconds beyond. -/
def spanText (seconds : Int) : String :=
  let days := seconds.fdiv 86400
  let rest := seconds.fmod 86400
  let parts := (if days = 0 then [] else ["days=" ++ toString days]) ++
    (if rest = 0 then [] else ["seconds=" ++ toString rest])
  "datetime.timedelta(" ++ (if parts.isEmpty then "0" else String.intercalate ", " parts) ++ ")"

def CalendarFault.message : CalendarFault → String
  | year n => "year " ++ toString n ++ " is out of range"
  | month => "month must be in 1..12"
  | day => "day is out of range for month"
  | hour => "hour must be in 0..23"
  | minute => "minute must be in 0..59"
  | second => "second must be in 0..59"
  | offset seconds =>
    "offset must be a timedelta strictly between -timedelta(hours=24) and timedelta(hours=24), not " ++
      spanText seconds ++ "."

/-- The first thing wrong with a date. -/
def Date.check (d : Date) : Except CalendarFault Unit :=
  if d.year < 1 || 9999 < d.year then .error (.year d.year)
  else if d.month < 1 || 12 < d.month then .error .month
  else if d.day < 1 || daysInMonth d.year d.month < d.day then .error .day
  else .ok ()

/-- A clock's lead is less than a day. -/
def checkOffset (seconds : Int) : Except CalendarFault Unit :=
  if seconds.natAbs < 86400 then .ok () else .error (.offset seconds)

/-- The first thing wrong with a time of day. -/
def TimeOfDay.check (t : TimeOfDay) : Except CalendarFault Unit :=
  if 23 < t.hour then .error .hour
  else if 59 < t.minute then .error .minute
  else if 59 < t.second then .error .second
  else .ok ()

/-! ## Instants -/

/-- The days from the first day of the year 0 up to a date. -/
def Date.dayNumber (d : Date) : Nat :=
  let years := d.year - 1
  let months := (List.range (d.month - 1)).foldl (fun days m => days + daysInMonth d.year (m + 1)) 0
  366 + years * 365 + years / 4 - years / 100 + years / 400 + months + d.day - 1

/-- The microseconds from midnight. -/
def TimeOfDay.microseconds (t : TimeOfDay) : Nat :=
  ((t.hour * 60 + t.minute) * 60 + t.second) * 1000000 + t.microsecond

/-- The point in time, in microseconds, of a moment whose clock is known. Moments of different clocks
may be the same point in time. -/
def Moment.instant? : Moment → Option Int
  | dateTime d t (some offset) => some (d.dayNumber * 86400000000 + t.microseconds - offset * 1000000)
  | _ => none

/-! ## Plain text -/

def Date.text (d : Date) : List Char :=
  paddedNat 4 d.year ++ '-' :: paddedNat 2 d.month ++ '-' :: paddedNat 2 d.day

def TimeOfDay.text (t : TimeOfDay) : List Char :=
  paddedNat 2 t.hour ++ ':' :: paddedNat 2 t.minute ++ ':' :: paddedNat 2 t.second ++
    (if t.microsecond = 0 then [] else '.' :: paddedNat 6 t.microsecond)

/-- An offset as a sign, hours, minutes and, if there are any, seconds. -/
def offsetText (offset : Int) : List Char :=
  let n := offset.natAbs
  (if offset < 0 then '-' else '+') :: paddedNat 2 (n / 3600) ++ ':' :: paddedNat 2 (n / 60 % 60) ++
    (if n % 60 = 0 then [] else ':' :: paddedNat 2 (n % 60))

def Moment.text : Moment → List Char
  | date d => d.text
  | time t => t.text
  | dateTime d t offset =>
    d.text ++ ' ' :: t.text ++ (match offset with | none => [] | some o => offsetText o)

/-! ## Text inside lists and maps -/

def commaJoin (parts : List String) : String :=
  String.intercalate ", " parts

def Date.parts (d : Date) : List String :=
  [toString d.year, toString d.month, toString d.day]

/-- The parts of a time, without zero microseconds and then without zero seconds. -/
def TimeOfDay.parts (t : TimeOfDay) : List String :=
  [toString t.hour, toString t.minute] ++
    (if t.microsecond != 0 then [toString t.second, toString t.microsecond]
     else if t.second != 0 then [toString t.second] else [])

/-- The clock of a moment, as its lead over the universal one. -/
def clockText (offset : Int) : String :=
  if offset = 0 then "datetime.timezone.utc" else "datetime.timezone(" ++ spanText offset ++ ")"

/-- The text of a moment inside a list or a map: its kind and its parts. -/
def Moment.innerText : Moment → List Char
  | date d => ("datetime.date(" ++ commaJoin d.parts ++ ")").toList
  | time t => ("datetime.time(" ++ commaJoin t.parts ++ ")").toList
  | dateTime d t offset =>
    let zone := match offset with
      | none => []
      | some o => ["tzinfo=" ++ clockText o]
    ("datetime.datetime(" ++ commaJoin (d.parts ++ t.parts ++ zone) ++ ")").toList

end JmsNaming
