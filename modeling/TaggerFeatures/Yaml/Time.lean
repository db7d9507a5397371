import TaggerFeatures.Yaml.Error

/-! Dates and times of day, as YAML writes them. -/
namespace TaggerFeatures.Yaml

structure Date where
  year : Nat
  month : Nat
  day : Nat
deriving DecidableEq, Repr

/-- A time of day; `offset` is the distance from universal time in minutes, if it is given. -/
structure Clock where
  hour : Nat
  minute : Nat
  second : Nat
  microsecond : Nat
  offset : Option Int
deriving DecidableEq, Repr

structure Time where
  date : Date
  clock : Option Clock
deriving DecidableEq, Repr

namespace Time

/-- At least `least` and at most `most` digits at the start of a text, and the rest. -/
def digits? (least most : Nat) (s : List Char) : Option (List Char × List Char) :=
  let ds := (s.take most).takeWhile Numeral.isDigit
  if ds.length < least then none else some (ds, s.drop ds.length)

/-- The rest of a text behind a character. -/
def behind? (c : Char) : List Char → Option (List Char)
  | [] => none
  | x :: rest => if x = c then some rest else none

/-- Whether a character is a blank between the parts of a time. -/
def isGapChar (c : Char) : Bool := c == ' ' || c == '\t'

/-- Year, month and day at the start of a text. -/
def date? (least : Nat) (s : List Char) : Option (Date × List Char) := do
  let (year, s) ← digits? 4 4 s
  let s ← behind? '-' s
  let (month, s) ← digits? least 2 s
  let s ← behind? '-' s
  let (day, s) ← digits? least 2 s
  some (⟨Numeral.ofDigits year, Numeral.ofDigits month, Numeral.ofDigits day⟩, s)

/-- The six digits of a fraction of a second. -/
def microseconds (ds : List Char) : Nat :=
  Numeral.ofDigits ((ds ++ List.replicate 6 '0').take 6)

/-- The offset behind a sign: hours, and minutes behind a colon. -/
def offset? (negative : Bool) (s : List Char) : Option Int := do
  let (hours, rest) ← digits? 1 2 s
  let minutes ← match rest with
    | [] => some 0
    | ':' :: rest => do
      let (minutes, rest) ← digits? 2 2 rest
      if rest.isEmpty then some (Numeral.ofDigits minutes) else none
    | _ => none
  let n : Int := (Numeral.ofDigits hours * 60 + minutes : Nat)
  some (if negative then -n else n)

/-- The zone at the end of a time: none, `Z`, or an offset. -/
def zone? : List Char → Option (Option Int)
  | [] => some none
  | 'Z' :: rest => if rest.isEmpty then some (some 0) else none
  | '+' :: rest => (offset? false rest).map some
  | '-' :: rest => (offset? true rest).map some
  | _ => none

/-- A time of day that is the whole text. Blanks may stand before the zone. -/
def clock? (s : List Char) : Option Clock := do
  let (hour, s) ← digits? 1 2 s
  let s ← behind? ':' s
  let (minute, s) ← digits? 2 2 s
  let s ← behind? ':' s
  let (second, s) ← digits? 2 2 s
  let (fraction, s) := match s with
    | '.' :: rest => (rest.takeWhile Numeral.isDigit, rest.dropWhile Numeral.isDigit)
    | s => ([], s)
  let blank := s.takeWhile isGapChar
  let offset ← match blank, s.dropWhile isGapChar with
    | _ :: _, [] => none
    | _, rest => zone? rest
  some ⟨Numeral.ofDigits hour, Numeral.ofDigits minute, Numeral.ofDigits second,
    microseconds fraction, offset⟩

/-- What stands behind a date: a letter T or blanks, then a time of day. -/
def clockPart? : List Char → Option Clock
  | 'T' :: rest => clock? rest
  | 't' :: rest => clock? rest
  | s => if s.head?.any isGapChar then clock? (s.dropWhile isGapChar) else none

/-- Reads a date, or a date and a time of day. Without a time, month and day have at least `least`
digits. -/
def ofChars? (least : Nat) (s : List Char) : Option Time :=
  match date? least s with
  | some (date, []) => some ⟨date, none⟩
  | _ => do
    let (date, rest) ← date? 1 s
    let clock ← clockPart? rest
    some ⟨date, some clock⟩

def isLeap (year : Nat) : Bool := year % 4 == 0 && (year % 100 != 0 || year % 400 == 0)

def daysOf (year month : Nat) : Nat :=
  if month = 2 then (if isLeap year then 29 else 28)
  else if month = 4 ∨ month = 6 ∨ month = 9 ∨ month = 11 then 30
  else 31

def checkDate (d : Date) : Except Error Unit :=
  if d.year = 0 then .error (.yearOutside d.year)
  else if d.month = 0 ∨ 12 < d.month then .error (.partOutside .month)
  else if d.day = 0 ∨ daysOf d.year d.month < d.day then .error .dayOutside
  else .ok ()

def checkClock (c : Clock) : Except Error Unit :=
  if 23 < c.hour then .error (.partOutside .hour)
  else if 59 < c.minute then .error (.partOutside .minute)
  else if 59 < c.second then .error (.partOutside .second)
  else .ok ()

/-- Checks that there is such a time. An offset is less than a day. -/
def check (t : Time) : Except Error Time := do
  match t.clock.bind Clock.offset with
  | some minutes => if 1440 ≤ minutes.natAbs then throw (.offsetTooLarge minutes)
  | none => pure ()
  checkDate t.date
  match t.clock with
  | some c => checkClock c
  | none => pure ()
  pure t

/-! ## Comparing -/

/-- How many days lie before a day, from the beginning of the year 1. -/
def daysBefore (d : Date) : Nat :=
  let years := d.year - 1
  let months := (List.range (d.month - 1)).map fun m => daysOf d.year (m + 1)
  let beforeMonth := months.foldr (· + ·) 0
  years * 365 + years / 4 - years / 100 + years / 400 + beforeMonth + (d.day - 1)

/-- The point of time in universal time, in microseconds, if the offset is given. -/
def instant? (t : Time) : Option Int := do
  let c ← t.clock
  let offset ← c.offset
  let minutes : Int := ((daysBefore t.date * 24 + c.hour) * 60 + c.minute : Nat)
  some (((minutes - offset) * 60 + c.second) * 1000000 + c.microsecond)

/-- Whether two times are one. With offsets, points of time are compared. -/
def same (a b : Time) : Bool :=
  match a.instant?, b.instant? with
  | some m, some n => m == n
  | none, none => a = b
  | _, _ => false

/-! ## Written forms -/

/-- A number in at least `width` digits. -/
def padded (width n : Nat) : String :=
  let ds := Nat.toDigits 10 n
  String.ofList (List.replicate (width - ds.length) '0' ++ ds)

/-- Hours and minutes of an offset with a sign. -/
def printOffset (minutes : Int) : String :=
  (if minutes < 0 then "-" else "+") ++ padded 2 (minutes.natAbs / 60) ++ ":" ++
    padded 2 (minutes.natAbs % 60)

def printDate (d : Date) : String :=
  padded 4 d.year ++ "-" ++ padded 2 d.month ++ "-" ++ padded 2 d.day

def print (t : Time) : String :=
  match t.clock with
  | none => printDate t.date
  | some c =>
    printDate t.date ++ " " ++ padded 2 c.hour ++ ":" ++ padded 2 c.minute ++ ":" ++
      padded 2 c.second ++
      (if c.microsecond = 0 then "" else "." ++ padded 6 c.microsecond) ++
      (match c.offset with
        | none => ""
        | some minutes => printOffset minutes)

end Time
end TaggerFeatures.Yaml
