import StyleBuild.Failure.Basic
import StyleBuild.Number.Digits
import StyleBuild.Yaml.Tag

/-!
# Dates

A date in a document has to be one of the calendar, although no setting takes a date: it is checked
when the document is read, and shown when it stands where a name should.
-/

namespace StyleBuild.Yaml.Date

/-! ## The calendar -/

def isLeapYear (year : Nat) : Bool := year % 4 = 0 && (year % 100 ≠ 0 || year % 400 = 0)

def daysInMonth (year month : Nat) : Nat :=
  if month = 2 then (if isLeapYear year then 29 else 28)
  else if [4, 6, 9, 11].contains month then 30
  else 31

/-- Refuses what is not the case, with a reason. -/
def require (holds : Bool) (reason : Text) : Except Fault Unit :=
  if holds then .ok () else .error (.badValue reason)

def checkDay (year month day : Nat) : Except Fault Unit := do
  require (1 ≤ year) ("year ".toList ++ Text.ofNat year ++ " is out of range".toList)
  require (1 ≤ month && month ≤ 12) "month must be in 1..12".toList
  require (1 ≤ day && day ≤ daysInMonth year month) "day is out of range for month".toList

def checkTime (hour minute second : Nat) : Except Fault Unit := do
  require (hour ≤ 23) "hour must be in 0..23".toList
  require (minute ≤ 59) "minute must be in 0..59".toList
  require (second ≤ 59) "second must be in 0..59".toList

/-! ## How dates are shown -/

/-- A call of a constructor with arguments. -/
def shownCall (name : String) (arguments : List Text) : Text :=
  "datetime.".toList ++ name.toList ++ '(' :: Text.joinWith ", ".toList arguments ++ [')']

def secondsInDay : Nat := 86400

/-- A span of time, as days and seconds; the seconds are not negative. -/
def shownSpan (seconds : Int) : Text :=
  let days := seconds / secondsInDay
  let rest := seconds % secondsInDay
  let part (name : String) (n : Int) : List Text :=
    if n = 0 then [] else [name.toList ++ '=' :: Text.ofInt n]
  let parts := part "days" days ++ part "seconds" rest
  shownCall "timedelta" (if parts = [] then [['0']] else parts)

/-- The offset from universal time, in seconds. -/
def offset (sign : Option Char) (hour minute : Text) : Int :=
  let seconds : Int := Digits.ofDecimals hour * 3600 + Digits.ofDecimals minute * 60
  if sign = some '-' then -seconds else seconds

/-- The zone of a time, whose offset is less than a day. -/
def shownZone (seconds : Int) : Except Fault Text := do
  require (seconds.natAbs < secondsInDay)
    ("offset must be a timedelta strictly between -timedelta(hours=24) and ".toList ++
      "timedelta(hours=24), not ".toList ++ shownSpan seconds ++ ['.'])
  return if seconds = 0 then "datetime.timezone.utc".toList
    else shownCall "timezone" [shownSpan seconds]

/-- Millionths of a second, from the digits of a fraction; further digits are dropped. -/
def millionths (fraction : Text) : Nat :=
  Digits.ofDecimals ((fraction ++ List.replicate 6 '0').take 6)

/-- The last parts of a time are left out where they are zero. -/
def shownTime (hour minute second part : Nat) : List Text :=
  [hour, minute].map Text.ofNat ++
    (if second = 0 && part = 0 then [] else [Text.ofNat second]) ++
    (if part = 0 then [] else [Text.ofNat part])

/-- How many days come before a date of the calendar. -/
def daysBefore (year month day : Nat) : Nat :=
  let years := year - 1
  let inYear := (List.range (month - 1)).foldl (fun n m => n + daysInMonth year (m + 1)) (day - 1)
  365 * years + years / 4 - years / 100 + years / 400 + inYear

/-- A time that is `offset` seconds ahead of universal time, as millionths of a second of that. -/
def moment (day hour minute second part : Nat) (offset : Int) : Int :=
  let seconds : Int := ((day * 24 + hour) * 60 + minute) * 60 + second
  (seconds - offset) * 1000000 + part

/-- Checks a date, and gives it as it is shown and the moment that it is. -/
def read (s : Tag.Stamp) : Except Fault (Text × Option Int) := do
  let year := Digits.ofDecimals s.year
  let month := Digits.ofDecimals s.month
  let day := Digits.ofDecimals s.day
  let shownDay := [year, month, day].map Text.ofNat
  match s.time with
  | none =>
    checkDay year month day
    return (shownCall "date" shownDay, none)
  | some (hour, minute, second, fraction) =>
    let hour := Digits.ofDecimals hour
    let minute := Digits.ofDecimals minute
    let second := Digits.ofDecimals second
    let part := millionths fraction
    let ahead := s.zone.map fun (sign, hour, minute) => offset sign hour minute
    -- The zone is the first thing that is looked at.
    let zone ← match ahead with
      | none => pure []
      | some seconds => pure ["tzinfo=".toList ++ (← shownZone seconds)]
    checkDay year month day
    checkTime hour minute second
    let shown := shownCall "datetime" (shownDay ++ shownTime hour minute second part ++ zone)
    return (shown, ahead.map (moment (daysBefore year month day) hour minute second part))

end StyleBuild.Yaml.Date
