import Steading.Text.Blank

/-!
# Points in time as text

A point in time is given as a date and a time of day with the offset of the place from UTC, and is
kept and written in UTC to the second. Blanks may stand around each number, and numbers need not
be padded.
-/

namespace Steading

/-- A day of the calendar that has a leap day every fourth year but for three centuries of four. -/
structure Date where
  year : Int
  month : Nat
  day : Nat
  deriving DecidableEq, Inhabited

namespace Date

def isLeap (year : Int) : Bool :=
  year % 4 == 0 && (year % 100 != 0 || year % 400 == 0)

def daysIn (year : Int) (month : Nat) : Nat :=
  if month = 2 then (if isLeap year then 29 else 28)
  else if month = 4 ∨ month = 6 ∨ month = 9 ∨ month = 11 then 30
  else 31

/-- The years that have dates. -/
def hasYear (year : Int) : Bool :=
  decide (-262143 ≤ year) && decide (year ≤ 262142)

def isValid (d : Date) : Bool :=
  hasYear d.year && 1 ≤ d.month && d.month ≤ 12 && 1 ≤ d.day && d.day ≤ daysIn d.year d.month

def next (d : Date) : Date :=
  if d.day < daysIn d.year d.month then { d with day := d.day + 1 }
  else if d.month < 12 then ⟨d.year, d.month + 1, 1⟩
  else ⟨d.year + 1, 1, 1⟩

def previous (d : Date) : Date :=
  if 1 < d.day then { d with day := d.day - 1 }
  else if 1 < d.month then ⟨d.year, d.month - 1, daysIn d.year (d.month - 1)⟩
  else ⟨d.year - 1, 12, 31⟩

end Date

/-- A second of a day in UTC. A minute may have a sixtieth second. -/
structure Timestamp where
  date : Date
  /-- Minutes since midnight. -/
  minute : Nat
  second : Nat
  deriving DecidableEq, Inhabited

namespace Timestamp

open Text

def skipBlanks (cs : List Char) : List Char :=
  cs.dropWhile isBlank

/-- The value of a run of decimal digits. -/
def digits (cs : List Char) : Nat :=
  cs.foldl (fun n c => n * 10 + (c.toNat - '0'.toNat)) 0

/-- The number in front of a text, of at most `most` digits if there is a bound. -/
def number? (most : Option Nat) (cs : List Char) : Option (Nat × List Char) :=
  let ds := (most.elim cs cs.take).takeWhile Char.isDigit
  if ds.isEmpty then none else some (digits ds, cs.drop ds.length)

/-- Four digits, or any number of them behind a sign. -/
def year? : List Char → Option (Int × List Char)
  | '-' :: cs => (number? none cs).map fun r => (-(r.1 : Int), r.2)
  | '+' :: cs => (number? none cs).map fun r => ((r.1 : Int), r.2)
  | cs => (number? (some 4) cs).map fun r => ((r.1 : Int), r.2)

/-- A mark that is not optional, and what follows it. -/
def mark? (isMark : Char → Bool) : List Char → Option (List Char)
  | c :: cs => if isMark c then some cs else none
  | [] => none

/-- A number of one or two digits behind a mark. -/
def part? (isMark : Char → Bool) (cs : List Char) : Option (Nat × List Char) := do
  number? (some 2) (skipBlanks (← mark? isMark cs))

/-- The text behind a fraction of a second. -/
def skipFraction? : List Char → Option (List Char)
  | '.' :: cs => (number? none cs).map (·.2)
  | cs => some cs

def sign? : List Char → Option (Int × List Char)
  | '+' :: cs => some (1, cs)
  | '-' :: cs => some (-1, cs)
  | '−' :: cs => some (-1, cs)
  | _ => none

/-- Two digits, and what follows them. -/
def pair? : List Char → Option (Nat × List Char)
  | a :: b :: cs => if a.isDigit && b.isDigit then some (digits [a, b], cs) else none
  | _ => none

def isOffsetMark (c : Char) : Bool :=
  c == ':' || isBlank c

/-- An offset from UTC in minutes, of less than a day. -/
def offset? : List Char → Option (Int × List Char)
  | 'Z' :: cs => some (0, cs)
  | 'z' :: cs => some (0, cs)
  | cs =>
    if lower (String.ofList (cs.take 3)) == "utc" then some (0, cs.drop 3)
    else do
      let (sign, cs) ← sign? cs
      let (hours, cs) ← pair? cs
      let (minutes, cs) ← pair? (cs.dropWhile isOffsetMark)
      if hours < 24 && minutes < 60 then some (sign * (hours * 60 + minutes : Nat), cs) else none

/-- A minute counted from the midnight of a day, which may lie on the day before or after. -/
def ofMinute (d : Date) (minute : Int) (second : Nat) : Timestamp :=
  if minute < 0 then ⟨d.previous, (minute + 1440).toNat, second⟩
  else if 1440 ≤ minute then ⟨d.next, (minute - 1440).toNat, second⟩
  else ⟨d, minute.toNat, second⟩

def ofChars? (cs : List Char) : Option Timestamp := do
  let (year, cs) ← year? (skipBlanks cs)
  let (month, cs) ← part? (· == '-') (skipBlanks cs)
  let (day, cs) ← part? (· == '-') (skipBlanks cs)
  let (hour, cs) ← part? (['t', 'T', ' '].contains ·) cs
  let (minute, cs) ← part? (· == ':') (skipBlanks cs)
  let (second, cs) ← part? (· == ':') (skipBlanks cs)
  let (offset, cs) ← offset? (skipBlanks (← skipFraction? cs))
  let date : Date := ⟨year, month, day⟩
  guard ((skipBlanks cs).isEmpty && date.isValid && hour < 24 && minute < 60 && second ≤ 60)
  let t := ofMinute date ((hour * 60 + minute : Nat) - offset) second
  guard (Date.hasYear t.date.year)
  return t

def ofText? (s : String) : Option Timestamp :=
  ofChars? s.toList

/-- At least `width` digits. -/
def padded (width n : Nat) : List Char :=
  let ds := Nat.toDigits 10 n
  List.replicate (width - ds.length) '0' ++ ds

/-- A year has four digits, and a sign in front if these are too few or it is negative. -/
def yearText (year : Int) : List Char :=
  if year < 0 then '-' :: padded 4 year.natAbs
  else if 9999 < year then '+' :: padded 4 year.natAbs
  else padded 4 year.natAbs

def dateText (d : Date) : List Char :=
  yearText d.year ++ '-' :: padded 2 d.month ++ '-' :: padded 2 d.day

def text (t : Timestamp) : String :=
  String.ofList (dateText t.date ++ 'T' :: padded 2 (t.minute / 60) ++
    ':' :: padded 2 (t.minute % 60) ++ ':' :: padded 2 t.second ++ ['Z'])

end Timestamp

end Steading
