import PromptCanvas.Decimal.Reading

set_option autoImplicit false

/-! # Texts and numbers that are points in time

A point in time is a calendar date, alone or with a time of day and an offset, or a number of seconds
(milliseconds, where it is large) since 1970. It falls into the years 1 to 9999. These are the rules that pydantic
documents for its lax mode from version 2.5 on: a date alone is its midnight, a fraction of a second counts to the
microsecond, and a number is counted in universal time. Of a text that is no point in time it matters whether it is
none at all or one out of range. -/

namespace PromptCanvas

/-- A point in time. -/
structure Moment where
  /-- What a clock shows, in microseconds since it showed the first moment of 1970. -/
  clock : Int
  /-- The minutes by which the clock is ahead of universal time, if they are told. -/
  offset : Option Int
deriving DecidableEq, Repr

namespace Moment

open Text

/-! ## Dates -/

/-- The days of a month. -/
def daysIn (year month : Nat) : Nat :=
  if month = 2 then
    if year % 4 = 0 ∧ (year % 100 ≠ 0 ∨ year % 400 = 0) then 29 else 28
  else if month = 4 ∨ month = 6 ∨ month = 9 ∨ month = 11 then 30
  else 31

/-- The days from the first day of the year 1 to the first day of a later year. -/
def daysBefore (year : Nat) : Nat :=
  let years := year - 1
  365 * years + years / 4 - years / 100 + years / 400

/-- The days from the first day of 1970 to a date. -/
def dayNumber (year month day : Nat) : Int :=
  let months := (List.range (month - 1)).foldl (fun days m => days + daysIn year (m + 1)) 0
  let days := daysBefore year + months + (day - 1)
  (days : Int) - daysBefore 1970

example : dayNumber 2000 3 1 = 11017 := by decide

/-- A number of exactly `count` digits. -/
def number? (count : Nat) (cs : List Char) : Option (Nat × List Char) :=
  let digits := cs.take count
  if digits.length = count ∧ digits.all isDigit then some (decimalValue digits, cs.drop count)
  else none

/-- What follows a given character. -/
def sign? (c : Char) (cs : List Char) : Option (List Char) :=
  if cs.head? = some c then some cs.tail else none

/-- A calendar date as its year and the number of its day, and what follows it. -/
def readDate? (cs : List Char) : Option ((Nat × Int) × List Char) := do
  let (year, cs) ← number? 4 cs
  let (month, cs) ← number? 2 (← sign? '-' cs)
  let (day, cs) ← number? 2 (← sign? '-' cs)
  if 1 ≤ month ∧ month ≤ 12 ∧ 1 ≤ day ∧ day ≤ daysIn year month then
    some ((year, dayNumber year month day), cs)
  else none

/-! ## Times of day -/

/-- The microseconds of the digits after a point; those after the sixth do not count. -/
def microseconds (digits : List Char) : Nat :=
  decimalValue (digits.take 6 ++ List.replicate (6 - digits.length) '0')

/-- The microseconds in the seconds of a time of day, which may be missing or have a fraction, and what follows
    them. -/
def readSeconds? (cs : List Char) : Option (Nat × List Char) :=
  match sign? ':' cs with
  | none => some (0, cs)
  | some cs => do
      let (second, cs) ← number? 2 cs
      if 60 ≤ second then none
      else
        match (sign? '.' cs).or (sign? ',' cs) with
        | none => some (second * 1000000, cs)
        | some cs =>
            let digits := cs.takeWhile isDigit
            if digits = [] then none
            else some (second * 1000000 + microseconds digits, cs.dropWhile isDigit)

/-- The minutes that an hour and a minute come to, with nothing behind them. -/
def readMinutes? (cs : List Char) : Option Nat := do
  let (hour, cs) ← number? 2 cs
  let (minute, cs) ← number? 2 ((sign? ':' cs).getD cs)
  if hour < 24 ∧ minute < 60 ∧ cs = [] then some (hour * 60 + minute) else none

/-- The offset from universal time that a text writes; an empty text writes none. -/
def readOffset? : List Char → Option (Option Int)
  | [] => some none
  | c :: cs =>
      if c = 'Z' ∨ c = 'z' then if cs = [] then some (some 0) else none
      else if c = '+' then (readMinutes? cs).map fun (minutes : Nat) => some (minutes : Int)
      else if c = '-' ∨ c = '\u2212' then (readMinutes? cs).map fun (minutes : Nat) => some (-(minutes : Int))
      else none

/-- The microseconds of a time of day, and its offset. -/
def readTime? (cs : List Char) : Option (Nat × Option Int) := do
  let (hour, cs) ← number? 2 cs
  let (minute, cs) ← number? 2 (← sign? ':' cs)
  let (seconds, cs) ← readSeconds? cs
  let offset ← readOffset? cs
  if hour < 24 ∧ minute < 60 then some ((hour * 60 + minute) * 60000000 + seconds, offset) else none

/-- The moment of a time of day. -/
def onDay (day : Int) (time : Nat × Option Int) : Moment := ⟨day * 86400000000 + time.1, time.2⟩

/-- The year and the moment of a text that is a calendar date, alone or followed by a time of day. -/
def readCalendar? (cs : List Char) : Option (Nat × Moment) :=
  match readDate? cs with
  | none => none
  | some ((year, day), []) => some (year, onDay day (0, none))
  | some ((year, day), c :: rest) =>
      if c = 'T' ∨ c = 't' ∨ c = ' ' ∨ c = '_' then (readTime? rest).map fun time => (year, onDay day time)
      else none

/-! ## Counted time -/

/-- Why a value is no point in time. -/
inductive TimeFault where
  | unreadable
  | outOfRange
deriving DecidableEq, Repr

/-- The greatest number that counts seconds; a greater one counts milliseconds. -/
def watershed : Int := 20000000000

/-- Whether a number counts seconds. -/
def countsSeconds (n : Int) : Bool := -watershed ≤ n && n ≤ watershed

/-- The whole seconds that a number of seconds or milliseconds counts. -/
def seconds (n : Int) : Int := if countsSeconds n then n else n.fdiv 1000

/-- The first second of the year 0. -/
def yearZero : Int := -62167219200

/-- The first second of the year 1. -/
def earliest : Int := -62135596800

/-- The last second of the year 9999. -/
def latest : Int := 253402300799

/-- Whether a number of seconds or milliseconds falls into the years 1 to 9999. -/
def inRange (n : Int) : Bool := decide (earliest ≤ seconds n ∧ seconds n ≤ latest)

/-- Whether a number of seconds or milliseconds falls into the year 0. -/
def inYearZero (n : Int) : Bool := decide (yearZero ≤ seconds n ∧ seconds n < earliest)

/-- The microseconds in the unit that a number counts. -/
def unit (n : Int) : Nat := if countsSeconds n then 1000000 else 1000

/-- The moment that a number counts, whose whole part is given. -/
def ofCount (x : Binary64) (n : Int) : Except TimeFault Moment :=
  if inRange n then .ok ⟨(x.nearest? (unit n)).getD 0, some 0⟩ else .error .outOfRange

/-- The moment that a whole number counts. -/
def ofWhole (n : Int) : Except TimeFault Moment :=
  if inRange n then .ok ⟨n * unit n, some 0⟩ else .error .outOfRange

/-- The number that a text counts: digits, or a decimal with a point, after an optional sign. Only a
    decimal with a point may have an exponent. -/
def count? (cs : List Char) : Option Binary64 :=
  let (negative, body) := Decimal.readSign cs
  if (body.dropWhile isDigit).head?.all (· == '.') then Decimal.readDecimal? negative body else none

/-- The moment that a text writes. Of the texts outside the years 1 to 9999, those of the year 0 are out of range
    and the others are unreadable. -/
def ofText (s : String) : Except TimeFault Moment :=
  match readCalendar? s.toList with
  | some (year, moment) => if year = 0 then .error .outOfRange else .ok moment
  | none =>
      match (count? s.toList).bind fun x => x.floor?.map fun n => (x, n) with
      | none => .error .unreadable
      | some (x, n) => if inRange n || inYearZero n then ofCount x n else .error .unreadable

end Moment

end PromptCanvas
