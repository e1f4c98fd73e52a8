import RouteAtlas.Text.CodeText

/-!
# Timestamps

A point in time as a document writes it: a date, a time of day with microseconds, and the offset
from universal time if it is known. `Timestamp.text` writes the extended form of ISO 8601, leaving
out a fraction of zero; `Timestamp.ofText?` reads that form back, with or without the separators
inside date and time.

The reader is generous where the form leaves a choice: any character may stand between date and
time, a fraction may have any number of digits, and parts of the time may be missing from the end.
It is strict about dates, which have to exist.
-/

namespace RouteAtlas

/-- An offset from universal time, or a time of day. -/
structure ClockTime where
  hour : Nat
  minute : Nat
  second : Nat
  micro : Nat
  deriving DecidableEq, Repr

/-- A point in time. The offset is behind universal time when `behind` holds. -/
structure Timestamp where
  year : Nat
  month : Nat
  day : Nat
  time : ClockTime
  offset : Option (Bool × ClockTime)
  deriving DecidableEq, Repr

namespace Timestamp

/-- A number with zeros in front of it, `width` digits at least. -/
def digits (width n : Nat) : Text :=
  let numeral := Text.ofNat n
  List.replicate (width - numeral.length) '0' ++ numeral

/-- Hours and minutes, which are always written. -/
def hourText (t : ClockTime) : Text := digits 2 t.hour ++ ':' :: digits 2 t.minute

/-- A fraction of a second, unless it is zero. -/
def fractionText (t : ClockTime) : Text := if t.micro = 0 then [] else '.' :: digits 6 t.micro

/-- Seconds with their fraction. -/
def secondText (t : ClockTime) : Text := ':' :: digits 2 t.second ++ fractionText t

/-- An offset: its sign, hours and minutes, and seconds if there are any. -/
def offsetText : Option (Bool × ClockTime) → Text
  | none => []
  | some (behind, t) =>
    (if behind then '-' else '+') :: hourText t
      ++ if t.second = 0 ∧ t.micro = 0 then [] else secondText t

/-- The extended form. -/
def text (t : Timestamp) : Text :=
  digits 4 t.year ++ '-' :: digits 2 t.month ++ '-' :: digits 2 t.day ++ 'T' ::
    hourText t.time ++ secondText t.time ++ offsetText t.offset

/-- A year with a leap day. -/
def isLeap (year : Nat) : Bool := year % 4 == 0 && (year % 100 != 0 || year % 400 == 0)

/-- The number of days of a month. -/
def daysIn (year month : Nat) : Nat :=
  if month = 2 then (if isLeap year then 29 else 28)
  else if month = 4 ∨ month = 6 ∨ month = 9 ∨ month = 11 then 30 else 31

/-- The point in time a number of microseconds after the beginning of 1970 in universal time. Years
are counted from March on, so that a leap day ends its year, and grouped by four hundred, after
which the calendar repeats. -/
def ofMicroseconds (micros : Nat) : Timestamp :=
  let days := micros / 86400000000 + 719468
  let era := days / 146097
  let dayOfEra := days % 146097
  let yearOfEra := (dayOfEra - dayOfEra / 1460 + dayOfEra / 36524 - dayOfEra / 146096) / 365
  let dayOfYear := dayOfEra - (365 * yearOfEra + yearOfEra / 4 - yearOfEra / 100)
  let monthFromMarch := (5 * dayOfYear + 2) / 153
  let month := if monthFromMarch < 10 then monthFromMarch + 3 else monthFromMarch - 9
  let seconds := micros / 1000000 % 86400
  { year := yearOfEra + era * 400 + if month ≤ 2 then 1 else 0
    month
    day := dayOfYear - (153 * monthFromMarch + 2) / 5 + 1
    time := ⟨seconds / 3600, seconds / 60 % 60, seconds % 60, micros % 1000000⟩
    offset := some (false, ⟨0, 0, 0, 0⟩) }

/-- The number that exactly `width` digits at the beginning spell, and what follows. -/
def readDigits? (width : Nat) (s : Text) : Option (Nat × Text) :=
  let taken := s.take width
  if taken.length = width ∧ taken.all Text.isAsciiDigit then
    some (Text.decimalValue taken, s.drop width)
  else none

/-- A date with hyphens between its parts or without any, and what follows. -/
def readDate? (s : Text) : Option ((Nat × Nat × Nat) × Text) := do
  let (year, rest) ← readDigits? 4 s
  let (month, day, rest) ← match rest with
    | '-' :: rest => do
      let (month, rest) ← readDigits? 2 rest
      match rest with
      | '-' :: rest => do
        let (day, rest) ← readDigits? 2 rest
        pure (month, day, rest)
      | _ => none
    | rest => do
      let (month, rest) ← readDigits? 2 rest
      let (day, rest) ← readDigits? 2 rest
      pure (month, day, rest)
  if 1 ≤ year ∧ 1 ≤ month ∧ month ≤ 12 ∧ 1 ≤ day ∧ day ≤ daysIn year month then
    some ((year, month, day), rest)
  else none

/-- A fraction of a second: of its digits the first six count. -/
def readFraction? (s : Text) : Option Nat :=
  if s.isEmpty || !s.all Text.isAsciiDigit then none
  else
    let kept := s.take 6
    some (Text.decimalValue (kept ++ List.replicate (6 - kept.length) '0'))

/-- Pairs of digits, each behind a colon if `colons` holds, at most `count` of them. -/
def readPairs? (colons : Bool) : (count : Nat) → Text → Option (List Nat × Text)
  | 0, s => some ([], s)
  | _, [] => some ([], [])
  | _, '.' :: s => some ([], '.' :: s)
  | _, ',' :: s => some ([], ',' :: s)
  | count + 1, s => do
    let s ← if colons then (match s with
      | ':' :: s => some s
      | _ => none) else some s
    let (n, s) ← readDigits? 2 s
    let (more, s) ← readPairs? colons count s
    pure (n :: more, s)

/-- A time of day: hours, and minutes, seconds and a fraction as far as they are there. -/
def readClock? (s : Text) : Option ClockTime := do
  let (hour, rest) ← readDigits? 2 s
  let (pairs, rest) ← readPairs? (rest.head? == some ':') 2 rest
  let micro ← match pairs, rest with
    | _, [] => some 0
    | [_, _], '.' :: fraction => readFraction? fraction
    | [_, _], ',' :: fraction => readFraction? fraction
    | _, _ => none
  let time : ClockTime := ⟨hour, pairs.getD 0 0, pairs.getD 1 0, micro⟩
  if time.hour < 24 ∧ time.minute < 60 ∧ time.second < 60 then some time else none

/-- The offset at the end of a time of day: `Z`, or a sign and a duration below a day. -/
def readOffset? : Text → Option (Option (Bool × ClockTime))
  | [] => some none
  | ['Z'] => some (some (false, ⟨0, 0, 0, 0⟩))
  | '+' :: s => (readClock? s).map fun t => some (false, t)
  | '-' :: s => (readClock? s).map fun t => some (decide (t ≠ ⟨0, 0, 0, 0⟩), t)
  | _ => none

/-- The timestamp that a text spells. Any one character may stand between date and time. -/
def ofText? (s : Text) : Option Timestamp := do
  let ((year, month, day), rest) ← readDate? s
  match rest with
  | [] => some ⟨year, month, day, ⟨0, 0, 0, 0⟩, none⟩
  | _ :: rest =>
    let clock := rest.takeWhile fun c => c != '+' && c != '-' && c != 'Z'
    let time ← readClock? clock
    let offset ← readOffset? (rest.drop clock.length)
    some ⟨year, month, day, time, offset⟩

end Timestamp

end RouteAtlas
