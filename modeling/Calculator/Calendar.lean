/-! The calendar: days, times of day, and moments, which may know their distance to universal time.
-/

namespace Calculator

structure Date where
  year : Nat
  month : Nat
  day : Nat
  deriving DecidableEq, Repr

structure Clock where
  hour : Nat
  minute : Nat
  second : Nat
  microsecond : Nat
  deriving DecidableEq, Repr

/-- A day and a time, with the distance to universal time in seconds if it is known. -/
structure Moment where
  date : Date
  clock : Clock
  zone : Option Int
  deriving DecidableEq, Repr

/-- Why a text is no date.  A text may have the form of a date and still name no day or time. -/
inductive DateFault where
  | form
  | year (n : Nat)
  | month
  | day
  | hour
  | minute
  | second
  | zone (seconds : Int)
  deriving DecidableEq, Repr

/-- A span of time that goes back or lasts for at least a day: whole days, and the seconds that are
left. -/
def describeSpan (seconds : Int) : String :=
  let rest := seconds.fmod 86400
  "datetime.timedelta(days=" ++ toString (seconds.fdiv 86400)
    ++ (if rest = 0 then "" else ", seconds=" ++ toString rest) ++ ")"

def DateFault.message : DateFault → String
  | .form => "'NoneType' object has no attribute 'groupdict'"
  | .year n => "year " ++ toString n ++ " is out of range"
  | .month => "month must be in 1..12"
  | .day => "day is out of range for month"
  | .hour => "hour must be in 0..23"
  | .minute => "minute must be in 0..59"
  | .second => "second must be in 0..59"
  | .zone seconds =>
      "offset must be a timedelta strictly between -timedelta(hours=24) and timedelta(hours=24), "
        ++ "not " ++ describeSpan seconds ++ "."

def isLeapYear (year : Nat) : Bool := year % 4 = 0 && (year % 100 ≠ 0 || year % 400 = 0)

def daysIn (year month : Nat) : Nat :=
  if month = 2 then if isLeapYear year then 29 else 28
  else if month ∈ [4, 6, 9, 11] then 30
  else 31

namespace Date

/-- Fails unless there is such a day. -/
def check (d : Date) : Except DateFault Unit :=
  if d.year = 0 then .error (.year d.year)
  else if d.month = 0 ∨ 12 < d.month then .error .month
  else if d.day = 0 ∨ daysIn d.year d.month < d.day then .error .day
  else .ok ()

/-- The number of days from the first day of the year one up to a day, that day included. -/
def number (d : Date) : Nat :=
  let years := d.year - 1
  let daysBefore := (List.range (d.month - 1)).foldl (fun days m => days + daysIn d.year (m + 1)) 0
  years * 365 + years / 4 - years / 100 + years / 400 + daysBefore + d.day

def describe (d : Date) : String :=
  "datetime.date(" ++ String.intercalate ", " ([d.year, d.month, d.day].map toString) ++ ")"

end Date

/-- Fails unless there is such a time. -/
def Clock.check (c : Clock) : Except DateFault Unit :=
  if 23 < c.hour then .error .hour
  else if 59 < c.minute then .error .minute
  else if 59 < c.second then .error .second
  else .ok ()

namespace Moment

/-- The microseconds of universal time up to a moment whose distance to it is known. -/
def instant? (m : Moment) : Option Int :=
  m.zone.map fun zone =>
    let c := m.clock
    let seconds : Int := ((m.date.number * 24 + c.hour) * 60 + c.minute) * 60 + c.second
    (seconds - zone) * 1000000 + c.microsecond

/-- Whether two moments are the same.  Those of known distance to universal time are compared
there, and no other moment is the same as one of them. -/
def same (a b : Moment) : Bool :=
  match a.instant?, b.instant? with
  | some i, some j => i = j
  | none, none => a = b
  | _, _ => false

/-- The parts of a moment that are shown: seconds and microseconds are left out when nothing that
comes after them is shown and they are zero. -/
def parts (m : Moment) : List Nat :=
  let c := m.clock
  let parts := [m.date.year, m.date.month, m.date.day, c.hour, c.minute]
  if c.microsecond ≠ 0 then parts ++ [c.second, c.microsecond]
  else if c.second ≠ 0 then parts ++ [c.second]
  else parts

/-- A distance to universal time.  A negative one is given as a day back and the rest forward. -/
def describeZone (seconds : Int) : String :=
  if seconds = 0 then "datetime.timezone.utc"
  else if seconds < 0 then "datetime.timezone(" ++ describeSpan seconds ++ ")"
  else "datetime.timezone(datetime.timedelta(seconds=" ++ toString seconds ++ "))"

def describe (m : Moment) : String :=
  "datetime.datetime(" ++ String.intercalate ", " (m.parts.map toString)
    ++ (match m.zone with
        | some seconds => ", tzinfo=" ++ describeZone seconds
        | none => "")
    ++ ")"

end Moment

@[simp] theorem Moment.same_self (m : Moment) : m.same m = true := by
  unfold Moment.same
  cases h : m.instant? <;> simp

end Calculator
