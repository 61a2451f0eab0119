/-!
# Numerals

In decimal, numbers are written without needless zeros, or padded with zeros to a least width, and are
read back from their ASCII digits. In hexadecimal, the letters among the digits may be small or capital
where they are read.
-/

namespace LeaseDesk.Text

/-! ## Decimal -/

namespace Decimal

/-- The digit for a number below ten. -/
def digit (n : Nat) : Char :=
  Char.ofNat ('0'.toNat + n % 10)

/-- The decimal digits of a number, most significant first. -/
def digits (n : Nat) : List Char :=
  if n < 10 then [digit n] else digits (n / 10) ++ [digit n]
termination_by n
decreasing_by omega

/-- The digits, filled up with leading zeros to at least `width` of them. -/
def padded (width n : Nat) : List Char :=
  List.replicate (width - (digits n).length) '0' ++ digits n

/-- The number that a row of ASCII digits denotes. -/
def value (ds : List Char) : Nat :=
  ds.foldl (fun v d => 10 * v + (d.toNat - '0'.toNat)) 0

/-- A natural number as text. -/
def natText (n : Nat) : String :=
  String.ofList (digits n)

/-- An integer as text, with a minus sign in front of negative ones. -/
def intText (n : Int) : String :=
  if n < 0 then "-" ++ natText n.natAbs else natText n.natAbs

/-- The largest number of 64 bits. -/
def largest64 : Nat := 18446744073709551615

/-- Reads an unsigned number of at most `most`: an optional plus sign and then ASCII digits only, at
least one of them. -/
def readBounded (most : Nat) (s : String) : Option Nat :=
  let ds := match s.toList with
    | '+' :: rest => rest
    | cs => cs
  if ds.isEmpty || !ds.all Char.isDigit || most < value ds then none else some (value ds)

end Decimal

/-! ## Hexadecimal -/

/-- The hexadecimal digit of a number below sixteen, where `ten` is the digit for ten. -/
def hexDigit (ten : Char) (n : Nat) : Char :=
  if n < 10 then Char.ofNat ('0'.toNat + n) else Char.ofNat (ten.toNat + (n - 10))

/-- A number in hexadecimal, in small letters and without needless zeros. -/
def hexDigits (n : Nat) : List Char :=
  if n < 16 then [hexDigit 'a' n] else hexDigits (n / 16) ++ [hexDigit 'a' (n % 16)]
termination_by n
decreasing_by omega

/-- The number a hexadecimal digit stands for, case not minded. -/
def hexValue? (c : Char) : Option Nat :=
  if c.isDigit then some (c.toNat - '0'.toNat)
  else if 'a' ≤ c && c ≤ 'f' then some (c.toNat - 'a'.toNat + 10)
  else if 'A' ≤ c && c ≤ 'F' then some (c.toNat - 'A'.toNat + 10)
  else none

/-- The number that hexadecimal digits stand for, zero if there are none. -/
def hexNumber? (ds : List Char) : Option Nat :=
  ds.foldlM (fun v d => (hexValue? d).map (16 * v + ·)) 0

end LeaseDesk.Text
