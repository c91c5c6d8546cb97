/-
**Dates and times.**

A timestamp is a date, or a date with a time of day and perhaps an offset from universal time. No
setting is a timestamp, so only its form and its bounds matter, and whether two of them are the same:
`Stamp.check` says what is out of range, and `Stamp.instant` which instant is meant.
-/

import AlarmFeed.Yaml.Cursor

namespace AlarmFeed.Yaml

/-- An offset from universal time. -/
structure Offset where
  negative : Bool
  hours : Nat
  minutes : Nat

/-- A time of day. -/
structure TimeOfDay where
  hour : Nat
  minute : Nat
  second : Nat
  /-- Millionths of a second. -/
  fraction : Nat
  offset : Option Offset

/-- What a timestamp means: a day, or a time in millionths of a second since the year 1, which without
an offset holds nowhere in particular. -/
inductive Instant
  | day (number : Nat)
  | somewhere (time : Int)
  | universal (time : Int)
  deriving DecidableEq

/-- A date with or without a time of day. -/
structure Stamp where
  year : Nat
  month : Nat
  day : Nat
  /-- Whether month and day have two digits each. -/
  full : Bool
  time : Option TimeOfDay

/-- The first digits of a text, so many at most, and the rest. -/
def digitsUpTo (most : Nat) (t : Text) : Text × Text :=
  let digits := (t.take most).takeWhile CodePoint.isDigit
  (digits, t.drop digits.length)

/-- A number of so many digits and the rest. -/
def numberOf? (least most : Nat) (t : Text) : Option (Nat × Text) :=
  let (digits, rest) := digitsUpTo most t
  if least ≤ digits.length then some (Decimal.value digits, rest) else none

/-- The rest behind a given code point. -/
def behind? (c : CodePoint) (t : Text) : Option Text :=
  Text.after? [c] t

/-- The text without one line feed at its end. -/
def withoutLineFeed (t : Text) : Text :=
  if t.getLast? = some (CodePoint.ofChar '\n') then t.dropLast else t

/-- What separates a date from a time: one letter, or spacing. -/
def behindDate? (t : Text) : Option Text :=
  match t with
  | [] => none
  | c :: rest =>
    if c = 'T' ∨ c = 't' then some rest
    else
      let rest := t.dropWhile isSpacing
      if rest.length < t.length then some rest else none

/-- A fraction of a second in millionths, digits past those left out, and the rest. -/
def fraction (t : Text) : Nat × Text :=
  match behind? '.' t with
  | some rest =>
    let digits := (rest.takeWhile CodePoint.isDigit).take 6
    (Decimal.value digits * Nat.pow 10 (6 - digits.length), rest.dropWhile CodePoint.isDigit)
  | none => (0, t)

/-- An offset at the end of a text; none outside if something else stands there. -/
def offset? (t : Text) : Option (Option Offset) :=
  match t with
  | [] => some none
  | _ =>
    match t.dropWhile isSpacing with
    | [] => none
    | c :: rest =>
      if c = 'Z' then if rest = [] then some (some ⟨false, 0, 0⟩) else none
      else if c = '+' ∨ c = '-' then do
        let (hours, rest) ← numberOf? 1 2 rest
        match rest with
        | [] => some (some ⟨c == '-', hours, 0⟩)
        | _ =>
          let (minutes, rest) ← numberOf? 2 2 (← behind? ':' rest)
          if rest = [] then some (some ⟨c == '-', hours, minutes⟩) else none
      else none

/-- A time of day that ends a text. -/
def timeOfDay? (t : Text) : Option TimeOfDay := do
  let (hour, rest) ← numberOf? 1 2 t
  let (minute, rest) ← numberOf? 2 2 (← behind? ':' rest)
  let (second, rest) ← numberOf? 2 2 (← behind? ':' rest)
  let (fraction, rest) := fraction rest
  let offset ← offset? rest
  return ⟨hour, minute, second, fraction, offset⟩

namespace Stamp

/-- The timestamp that a text says. -/
def ofText? (t : Text) : Option Stamp := do
  let (year, rest) ← numberOf? 4 4 t
  let (month, behindMonth) ← numberOf? 1 2 (← behind? '-' rest)
  let (day, rest) ← numberOf? 1 2 (← behind? '-' behindMonth)
  let full := t.length - rest.length == 10
  match rest with
  | [] => return ⟨year, month, day, full, none⟩
  | _ => return ⟨year, month, day, full, some (← timeOfDay? (← behindDate? rest))⟩

/-- How many days a month has. -/
def daysIn (year month : Nat) : Nat :=
  if month = 2 then
    if year % 4 = 0 ∧ (year % 100 ≠ 0 ∨ year % 400 = 0) then 29 else 28
  else if month = 4 ∨ month = 6 ∨ month = 9 ∨ month = 11 then 30
  else 31

/-- A value out of range. -/
def outOfRange (message : Text) : Except Fault Unit :=
  .error (.general .value message)

/-- Parts of a duration that are not zero, with their names. -/
def durationText (days seconds : Int) : Text :=
  let part (name : Text) (count : Int) : List Text :=
    if count = 0 then [] else [name ++ ("=" : Text) ++ Decimal.ofInt count]
  let parts := part "days" days ++ part "seconds" seconds
  ("datetime.timedelta(" : Text)
    ++ (if parts = [] then ("0" : Text) else Text.joinWith ", " parts) ++ (")" : Text)

/-- An offset is less than a day. -/
def checkOffset (offset : Offset) : Except Fault Unit :=
  let size : Int := 3600 * offset.hours + 60 * offset.minutes
  let seconds := if offset.negative then -size else size
  if size < 86400 then .ok ()
  else outOfRange <|
    ("offset must be a timedelta strictly between -timedelta(hours=24) and timedelta(hours=24), not " :
      Text) ++ durationText (seconds.fdiv 86400) (seconds.fmod 86400) ++ ("." : Text)

/-- A date has a year from 1 on, a month from 1 to 12, and a day of that month. -/
def checkDate (stamp : Stamp) : Except Fault Unit :=
  if stamp.year = 0 then outOfRange "year 0 is out of range"
  else if stamp.month = 0 ∨ 12 < stamp.month then outOfRange "month must be in 1..12"
  else if stamp.day = 0 ∨ daysIn stamp.year stamp.month < stamp.day then
    outOfRange "day is out of range for month"
  else .ok ()

/-- A time of day has an hour below 24, and minutes and seconds below 60. -/
def checkTime (time : TimeOfDay) : Except Fault Unit :=
  if 23 < time.hour then outOfRange "hour must be in 0..23"
  else if 59 < time.minute then outOfRange "minute must be in 0..59"
  else if 59 < time.second then outOfRange "second must be in 0..59"
  else .ok ()

/-- What is out of range: the offset, then the date, then the time. -/
def check (stamp : Stamp) : Except Fault Unit := do
  match stamp.time with
  | none => stamp.checkDate
  | some time =>
    if let some offset := time.offset then checkOffset offset
    stamp.checkDate
    checkTime time

/-- The number of a day, counted from the year 1. -/
def dayNumber (stamp : Stamp) : Nat :=
  let years := stamp.year - 1
  let months := (List.range (stamp.month - 1)).foldl
    (fun days month => days + daysIn stamp.year (month + 1)) 0
  365 * years + years / 4 - years / 100 + years / 400 + months + stamp.day

/-- The instant that a timestamp means, if it is within bounds. -/
def instant (stamp : Stamp) : Except Fault Instant := do
  stamp.check
  match stamp.time with
  | none => return .day stamp.dayNumber
  | some time =>
    let minutes := 60 * (24 * stamp.dayNumber + time.hour) + time.minute
    let second : Int := 60 * minutes + time.second
    match time.offset with
    | none => return .somewhere (1000000 * second + time.fraction)
    | some offset =>
      let shift : Int := 3600 * offset.hours + 60 * offset.minutes
      let second := if offset.negative then second + shift else second - shift
      return .universal (1000000 * second + time.fraction)

end Stamp

end AlarmFeed.Yaml
