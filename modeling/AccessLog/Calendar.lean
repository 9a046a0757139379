/-
Dates.

* `WallTime`: seconds since the start of 1970, whole or as a floating-point
  number.
* `Instant`: whole seconds and microseconds; a fraction is rounded to the
  nearest microsecond, a half to the even one.
* `Date.ofDays`: the Gregorian date of a day.
* `WallTime.moment`: date and time of day, for the years from 1 to 9999.
* `Moment.httpDate`: the date as in the head of a message.
* `Moment.isoDate`: the date in the order year, month, day, with the offset.
-/
import AccessLog.Failure

namespace AccessLog

/-- Seconds since the start of 1970 in universal time. -/
inductive WallTime where
  | whole (seconds : Int)
  | binary (seconds : Binary64)
deriving DecidableEq

/-- A point in time to the microsecond. -/
structure Instant where
  seconds : Int
  micros : Nat
deriving DecidableEq

namespace Instant

/-- The seconds that a signed word of 64 bits can hold. -/
def inRange (seconds : Int) : Bool :=
  Wire.fitsInt64 seconds

/-- The instant of a finite number of seconds: the fraction is scaled to
microseconds as a floating-point number and then rounded. -/
def ofBinary (negative : Bool) (mantissa : Nat) (exponent : Int) : Instant :=
  let (n, d) := Binary64.magnitude mantissa exponent
  let whole : Int := if negative then -((n / d : Nat) : Int) else ((n / d : Nat) : Int)
  let micros := match Binary64.ofRatio false (n % d * 1000000) d with
    | .finite _ m e =>
      let (n, d) := Binary64.magnitude m e
      roundDiv n d
    | _ => 0
  if negative then
    if micros = 0 then ⟨whole, 0⟩ else ⟨whole - 1, 1000000 - micros⟩
  else if 1000000 ≤ micros then ⟨whole + 1, micros - 1000000⟩
  else ⟨whole, micros⟩

end Instant

namespace WallTime

/-- The instant of a time, if it is a number in range. -/
def instant : WallTime → Except Failure Instant
  | whole n => if Instant.inRange n then .ok ⟨n, 0⟩ else .error .timeOutOfRange
  | binary .nan => .error .timeNotNumber
  | binary (.inf _) => .error .timeOutOfRange
  | binary (.finite negative m e) =>
    let i := Instant.ofBinary negative m e
    if Instant.inRange i.seconds then .ok i else .error .timeOutOfRange

end WallTime

/-- A day of the Gregorian calendar. -/
structure Date where
  year : Int
  month : Nat
  day : Nat
deriving DecidableEq

/-- The date of a day, counted from the start of 1970; years are taken to
start in March, so that the odd day is the last one. -/
def Date.ofDays (days : Int) : Date :=
  let z := days + 719468
  let era := z / 146097
  let dayOfEra := (z % 146097).toNat
  let yearOfEra :=
    (dayOfEra - dayOfEra / 1460 + dayOfEra / 36524 - dayOfEra / 146096) / 365
  let dayOfYear := dayOfEra - (365 * yearOfEra + yearOfEra / 4 - yearOfEra / 100)
  let shifted := (5 * dayOfYear + 2) / 153
  let day := dayOfYear - (153 * shifted + 2) / 5 + 1
  let month := if shifted < 10 then shifted + 3 else shifted - 9
  let year : Int := yearOfEra + era * 400
  ⟨if month ≤ 2 then year + 1 else year, month, day⟩

/-- The day of the week, from Monday as zero; 1970 began on a Thursday. -/
def weekday (days : Int) : Nat :=
  ((days + 3) % 7).toNat

/-- The short names of the days of the week. -/
def weekdayNames : List Text := ["Mon", "Tue", "Wed", "Thu", "Fri", "Sat", "Sun"]

/-- The short names of the months. -/
def monthNames : List Text :=
  ["Jan", "Feb", "Mar", "Apr", "May", "Jun", "Jul", "Aug", "Sep", "Oct", "Nov", "Dec"]

/-- A numeral filled up with zeros. -/
def zeroPadded (width n : Nat) : Text :=
  (Text.ofNat n).padLeft width '0'

/-- The time of day with colons. -/
def clockText (second : Nat) : Text :=
  zeroPadded 2 (second / 3600) ++ ":" ++ zeroPadded 2 (second / 60 % 60) ++ ":" ++
    zeroPadded 2 (second % 60)

/-- A date with the time of the day. -/
structure Moment where
  /-- The day, counted from the start of 1970. -/
  days : Int
  date : Date
  /-- The second of the day. -/
  second : Nat
  micros : Nat
deriving DecidableEq

/-- The largest year that a broken-down time can hold. -/
def maxYear : Int := 0x80000000 + 1899

/-- The date and time of day of an instant, for the years from 1 to 9999; the
year that is told otherwise is a word of 32 bits. -/
def Instant.moment (i : Instant) : Except Failure Moment :=
  let days := i.seconds / 86400
  let date := Date.ofDays days
  if maxYear < date.year || date.year < 1900 - 0x80000000 then
    .error (.io (some 75) "Value too large for defined data type")
  else if date.year < 1 || 9999 < date.year then
    .error (.yearOutOfRange (date.year.bmod 0x100000000))
  else .ok ⟨days, date, (i.seconds % 86400).toNat, i.micros⟩

/-- The date and time of day of a time. -/
def WallTime.moment (t : WallTime) : Except Failure Moment := do
  (← t.instant).moment

namespace Moment

/-- Day of the week, day, month, year and time in universal time. -/
def httpDate (m : Moment) : Text :=
  weekdayNames.getD (weekday m.days) [] ++ ", " ++ zeroPadded 2 m.date.day ++ " " ++
    monthNames.getD (m.date.month - 1) [] ++ " " ++ zeroPadded 4 m.date.year.toNat ++ " " ++
    clockText m.second ++ " GMT"

/-- Year, month and day, time, microseconds if there are some, and the offset. -/
def isoDate (m : Moment) : Text :=
  let fraction : Text := if m.micros = 0 then [] else "." ++ zeroPadded 6 m.micros
  zeroPadded 4 m.date.year.toNat ++ "-" ++ zeroPadded 2 m.date.month ++ "-" ++
    zeroPadded 2 m.date.day ++ "T" ++ clockText m.second ++ fraction ++ "+00:00"

end Moment

end AccessLog
