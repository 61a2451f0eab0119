/-!
# The bytes of JSON text

JSON text arrives as bytes. All of its structure is in ASCII; other bytes may stand only inside of
strings.
-/

namespace LeaseDesk.Json

/-- The byte of an ASCII character. -/
def ascii (c : Char) : UInt8 := c.toUInt8

/-- White space between the parts of a value: space, line feed, carriage return, tabulator. -/
def isSpace (b : UInt8) : Bool :=
  b == 0x20 || b == 0x0A || b == 0x0D || b == 0x09

/-- Goes past white space. -/
def skipSpace (bs : List UInt8) : List UInt8 :=
  bs.dropWhile isSpace

/-- A decimal digit. -/
def isDigit (b : UInt8) : Bool :=
  ascii '0' ≤ b && b ≤ ascii '9'

/-- The number a digit stands for. -/
def digitValue (b : UInt8) : Nat :=
  b.toNat - '0'.toNat

/-- The number a hexadecimal digit stands for. -/
def hexValue? (b : UInt8) : Option Nat :=
  if isDigit b then some (digitValue b)
  else if ascii 'a' ≤ b && b ≤ ascii 'f' then some (b.toNat - 'a'.toNat + 10)
  else if ascii 'A' ≤ b && b ≤ ascii 'F' then some (b.toNat - 'A'.toNat + 10)
  else none

theorem length_dropWhile_le {α : Type} (p : α → Bool) (l : List α) :
    (l.dropWhile p).length ≤ l.length :=
  (List.dropWhile_sublist p).length_le

theorem length_skipSpace_le (bs : List UInt8) : (skipSpace bs).length ≤ bs.length :=
  length_dropWhile_le _ _

end LeaseDesk.Json
