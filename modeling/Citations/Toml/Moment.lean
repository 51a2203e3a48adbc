import Citations.Text.Basic

/-!
# Dates and times

A date, a time of day, or both with the distance from universal time. Days are those that the
month has in its year; a minute may have a leap second; of a fraction of a second nine digits
count.
-/
namespace Citations.Toml

/-- A day. -/
structure Date where
  /-- The year, of four digits. -/
  year : Nat
  /-- The month, from 1. -/
  month : Nat
  /-- The day of the month, from 1. -/
  day : Nat
  deriving DecidableEq, Repr

/-- A time of day. -/
structure Time where
  /-- The hour. -/
  hour : Nat
  /-- The minute. -/
  minute : Nat
  /-- The second. -/
  second : Nat
  /-- The billionths of a second. -/
  nanosecond : Nat
  deriving DecidableEq, Repr

/-- The distance from universal time. -/
inductive Offset where
  /-- None. -/
  | universal
  /-- Minutes ahead. -/
  | ahead (minutes : Int)
  deriving DecidableEq, Repr

/-- A date, a time, or both. -/
inductive Moment where
  /-- A day. -/
  | date (day : Date)
  /-- A time of day. -/
  | time (hour : Time)
  /-- A time on a day, and the distance from universal time if it is known. -/
  | dateTime (day : Date) (hour : Time) (offset? : Option Offset)
  deriving DecidableEq, Repr

/-- A number of a fixed count of digits, which lies between two bounds. -/
def fixed? (count least most : Nat) (text : Text) : Option (Nat × Text) := do
  let digits ← (text.take count).mapM Text.digit?
  let value := Text.numeral 10 digits
  if digits.length = count ∧ least ≤ value ∧ value ≤ most then some (value, text.drop count)
  else none

/-- The number of days of a month. -/
def daysIn (year month : Nat) : Nat :=
  if month = 2 then
    if year % 4 = 0 ∧ (year % 100 ≠ 0 ∨ year % 400 = 0) then 29 else 28
  else if month = 4 ∨ month = 6 ∨ month = 9 ∨ month = 11 then 30
  else 31

/-- The date at the front. -/
def date? (text : Text) : Option (Date × Text) := do
  let (year, rest) ← fixed? 4 0 9999 text
  let (month, rest) ← fixed? 2 1 12 (← Text.expect? '-' rest)
  let (day, rest) ← fixed? 2 1 (daysIn year month) (← Text.expect? '-' rest)
  some (⟨year, month, day⟩, rest)

/-- The billionths that the digits after a point write, and what follows; zero when there is no
point with digits. -/
def fraction (text : Text) : Nat × Text :=
  match text with
  | '.' :: rest =>
    let digits := (rest.takeWhile Char.isDigit).filterMap Text.digit?
    let kept := digits.take 9
    if digits = [] then (0, text)
    else (Text.numeral 10 kept * Nat.pow 10 (9 - kept.length), rest.dropWhile Char.isDigit)
  | _ => (0, text)

/-- The time at the front. -/
def time? (text : Text) : Option (Time × Text) := do
  let (hour, rest) ← fixed? 2 0 23 text
  let (minute, rest) ← fixed? 2 0 59 (← Text.expect? ':' rest)
  let (second, rest) ← fixed? 2 0 60 (← Text.expect? ':' rest)
  let (nanosecond, rest) := fraction rest
  some (⟨hour, minute, second, nanosecond⟩, rest)

/-- Hours and minutes, as minutes. -/
def minutes? (text : Text) : Option (Nat × Text) := do
  let (hours, rest) ← fixed? 2 0 23 text
  let (minutes, rest) ← fixed? 2 0 59 (← Text.expect? ':' rest)
  some (hours * 60 + minutes, rest)

/-- The distance from universal time at the front, if there is one. -/
def offset (text : Text) : Option Offset × Text :=
  let found? : Option (Offset × Text) :=
    match text with
    | 'Z' :: rest => some (.universal, rest)
    | 'z' :: rest => some (.universal, rest)
    | '+' :: rest => (minutes? rest).map fun (count, after) => (.ahead count, after)
    | '-' :: rest => (minutes? rest).map fun (count, after) => (.ahead (-count), after)
    | _ => none
  match found? with
  | some (found, rest) => (some found, rest)
  | none => (none, text)

/-- What follows the mark between a date and a time. -/
def timeMark? : Text → Option Text
  | 'T' :: rest => some rest
  | 't' :: rest => some rest
  | ' ' :: rest => some rest
  | _ => none

/-- The date or time at the front. -/
def moment? (text : Text) : Option (Moment × Text) :=
  match date? text with
  | none => (time? text).map fun (time, rest) => (.time time, rest)
  | some (day, rest) =>
    match (timeMark? rest).bind time? with
    | none => some (.date day, rest)
    | some (time, rest) =>
      let (offset?, rest) := offset rest
      some (.dateTime day time offset?, rest)

/-- A number with zeros in front up to a count of digits. -/
def padded (count n : Nat) : Text :=
  let digits := Text.ofNat n
  List.replicate (count - digits.length) '0' ++ digits

/-- The text of a date. -/
def Date.text (day : Date) : Text :=
  padded 4 day.year ++ '-' :: padded 2 day.month ++ '-' :: padded 2 day.day

/-- The text of a time; a fraction is written without the zeros that end it. -/
def Time.text (time : Time) : Text :=
  padded 2 time.hour ++ ':' :: padded 2 time.minute ++ ':' :: padded 2 time.second ++
    if time.nanosecond = 0 then []
    else '.' :: Text.dropEndWhile (· = '0') (padded 9 time.nanosecond)

/-- The text of a distance from universal time. -/
def Offset.text : Offset → Text
  | universal => ['Z']
  | ahead minutes =>
    (if minutes < 0 then '-' else '+') ::
      padded 2 (minutes.natAbs / 60) ++ ':' :: padded 2 (minutes.natAbs % 60)

/-- The text of a date, a time, or both. -/
def Moment.text : Moment → Text
  | .date day => day.text
  | .time hour => hour.text
  | .dateTime day hour offset? =>
    day.text ++ 'T' :: hour.text ++ (offset?.map Offset.text).getD []

end Citations.Toml
