import LeaseDesk.Calendar.Instant
import LeaseDesk.Text.Basic
import LeaseDesk.Text.Numerals

/-!
# Dates and instants as text

A date is written `YYYY-MM-DD`. Years from 0 to 9999 have four digits and no sign; any other year is
written with its sign and at least four digits. An instant is its date, a `T`, the time of day, the
fraction of the second in the fewest of no, three, six or nine digits that lose nothing, and a mark
for UTC.

`Date.ofText?` reads dates more liberally than they are written: blanks may stand around the whole and
before each of the three numbers, months and days may have one digit, a year without a sign has one to
four digits, and a year with a sign any number of them.
-/

namespace LeaseDesk

open Text

namespace Date

/-- The year, in four digits if that is possible without a sign. -/
def yearChars (year : Int) : List Char :=
  if 0 ≤ year ∧ year ≤ 9999 then Decimal.padded 4 year.natAbs
  else (if year < 0 then '-' else '+') :: Decimal.padded 4 year.natAbs

/-- The characters of a date. -/
def chars (d : Date) : List Char :=
  yearChars d.year ++ '-' :: (Decimal.padded 2 d.month ++ '-' :: Decimal.padded 2 d.day)

/-- A date as text. -/
def text (d : Date) : String :=
  String.ofList d.chars

/-- Splits off a row of at least one and at most `most` digits: the number and what follows. -/
def readDigits? (most : Nat) (cs : List Char) : Option (Nat × List Char) :=
  let ds := (cs.take most).takeWhile Char.isDigit
  if ds.isEmpty then none else some (Decimal.value ds, cs.drop ds.length)

/-- Splits off a year, with or without a sign. -/
def readYear? (cs : List Char) : Option (Int × List Char) :=
  match cs with
  | '+' :: rest => (readDigits? rest.length rest).map fun (n, rest) => ((n : Int), rest)
  | '-' :: rest => (readDigits? rest.length rest).map fun (n, rest) => (-(n : Int), rest)
  | _ => (readDigits? 4 cs).map fun (n, rest) => ((n : Int), rest)

/-- Goes past the hyphen at the front. -/
def pastHyphen? : List Char → Option (List Char)
  | '-' :: rest => some rest
  | _ => none

/-- Reads a date from a text that holds nothing else. -/
def ofChars? (cs : List Char) : Option Date := do
  let (year, cs) ← readYear? ((trimChars cs).dropWhile isBlank)
  let cs ← pastHyphen? cs
  let (month, cs) ← readDigits? 2 (cs.dropWhile isBlank)
  let cs ← pastHyphen? cs
  let (day, cs) ← readDigits? 2 (cs.dropWhile isBlank)
  if cs.isEmpty then of? year month day else none

/-- Reads a date from a text that holds nothing else. -/
def ofText? (s : String) : Option Date :=
  ofChars? s.toList

end Date

/-- How UTC is marked at the end of an instant. -/
inductive ZoneMark
  /-- by the letter `Z` -/
  | letter
  /-- as an offset of no hours and no minutes -/
  | offset
deriving DecidableEq

/-- The mark itself. -/
def ZoneMark.chars : ZoneMark → List Char
  | .letter => ['Z']
  | .offset => "+00:00".toList

namespace Instant

/-- The fraction of the second, with its point, in the fewest groups of three digits; nothing for a
full second. -/
def fractionChars (t : Instant) : List Char :=
  let n := t.nanosecond
  if n == 0 then []
  else if n % 1000000 == 0 then '.' :: Decimal.padded 3 (n / 1000000)
  else if n % 1000 == 0 then '.' :: Decimal.padded 6 (n / 1000)
  else '.' :: Decimal.padded 9 n

/-- An instant as text. -/
def text (mark : ZoneMark) (t : Instant) : String :=
  let (hour, minute, second) := t.clock
  String.ofList (t.date.chars ++ 'T' :: Decimal.padded 2 hour ++ ':' :: Decimal.padded 2 minute
    ++ ':' :: Decimal.padded 2 second ++ t.fractionChars ++ mark.chars)

end Instant

end LeaseDesk
