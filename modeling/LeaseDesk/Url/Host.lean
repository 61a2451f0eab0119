import LeaseDesk.Text.Basic
import LeaseDesk.Text.Numerals
import LeaseDesk.Url.Percent
import LeaseDesk.Url.Punycode

/-!
# Servers

An address names its server by a name or by a number. In the addresses of the web (`Host.ofText?`) a
name is brought into ASCII and small letters, and a text whose last part is a number has to be a
number as a whole, of 32 bits; in all other addresses (`Host.ofOtherText?`) a name stands as it is.
A number of 128 bits stands in brackets.
-/

namespace LeaseDesk.Url

/-- A server. -/
inductive Host
  /-- by name, which may be empty -/
  | name (s : String)
  /-- by a number of 32 bits -/
  | short (n : Nat)
  /-- by eight numbers of 16 bits -/
  | long (pieces : List Nat)
deriving DecidableEq

namespace Host

/-! ## Numbers of 32 bits -/

/-- The number that octal digits denote. -/
def octalValue (ds : List Char) : Nat :=
  ds.foldl (fun v d => 8 * v + (d.toNat - '0'.toNat)) 0

/-- A digit of an octal numeral. -/
def isOctalDigit (c : Char) : Bool := '0' ≤ c && c ≤ '7'

/-- Reads a part of a number: hexadecimal behind `0x`, octal behind `0`, and decimal otherwise. -/
def part? : List Char → Option Nat
  | [] => none
  | '0' :: 'x' :: ds | '0' :: 'X' :: ds => Text.hexNumber? ds
  | ['0'] => some 0
  | '0' :: ds => if ds.all isOctalDigit then some (octalValue ds) else none
  | ds => if ds.all Char.isDigit then some (Text.Decimal.value ds) else none

/-- The parts between points. Behind the last point there may be nothing. -/
def parts (cs : List Char) : List (List Char) :=
  let parts := Text.splitWhere (· == '.') cs
  if parts.length != 1 && parts.getLast? == some [] then parts.dropLast else parts

/-- The last part is a number, or looks like one. -/
def endsInNumber (cs : List Char) : Bool :=
  match (parts cs).getLast? with
  | none => false
  | some part => (!part.isEmpty && part.all Char.isDigit) || (part? part).isSome

/-- What the leading bytes of a number contribute, when the first has this weight. -/
def leadingValue : Nat → List Nat → Nat
  | _, [] => 0
  | weight, byte :: rest => byte * weight + leadingValue (weight / 256) rest

/-- Reads a number of 32 bits: up to three bytes with points behind them, and the rest. -/
def short? (cs : List Char) : Option Host :=
  match (parts cs).mapM part? with
  | none => none
  | some numbers =>
    let leading := numbers.dropLast
    let room := Nat.pow 256 (4 - leading.length)
    match numbers.getLast? with
    | none => none
    | some rest =>
      if leading.length ≤ 3 && leading.all (· < 256) && rest < room then
        some (.short (leadingValue 16777216 leading + rest))
      else none

/-! ## Numbers of 128 bits -/

/-- Reads a byte, in decimal and without needless zeros. -/
def byte? (ds : List Char) : Option Nat :=
  if !ds.isEmpty && ds.all Char.isDigit && (ds.length == 1 || ds.head? != some '0')
      && Text.Decimal.value ds < 256 then
    some (Text.Decimal.value ds)
  else none

/-- Reads four bytes with points between them, as two numbers of 16 bits. -/
def quad? (cs : List Char) : Option (List Nat) :=
  match (Text.splitWhere (· == '.') cs).mapM byte? with
  | some [a, b, c, d] => some [a * 256 + b, c * 256 + d]
  | _ => none

/-- Reads a number of 16 bits. -/
def piece? (ds : List Char) : Option Nat :=
  if !ds.isEmpty && ds.length ≤ 4 then Text.hexNumber? ds else none

/-- Reads numbers of 16 bits with colons between them. If that is allowed, four bytes may stand for
the last two. -/
def pieces? (allowsQuad : Bool) (cs : List Char) : Option (List Nat) :=
  if cs.isEmpty then some []
  else
    let texts := Text.splitWhere (· == ':') cs
    match texts.dropLast.mapM piece?, texts.getLast? with
    | some front, some last =>
      match piece? last with
      | some n => some (front ++ [n])
      | none => if allowsQuad then (quad? last).map (front ++ ·) else none
    | _, _ => none

/-- What stands in front of two colons and what stands behind them, if there are two. -/
def aroundColons : List Char → List Char × Option (List Char)
  | ':' :: ':' :: rest => ([], some rest)
  | c :: rest =>
    let (front, behind) := aroundColons rest
    (c :: front, behind)
  | [] => ([], none)

/-- Reads a number of 128 bits, where two colons stand for as many zeros as are missing. -/
def long? (cs : List Char) : Option Host :=
  match aroundColons cs with
  | (_, none) =>
    match pieces? true cs with
    | some pieces => if pieces.length == 8 then some (.long pieces) else none
    | none => none
  | (front, some behind) =>
    match pieces? false front, pieces? true behind with
    | some front, some behind =>
      if front.length + behind.length ≤ 7 then
        some (.long (front ++ List.replicate (8 - front.length - behind.length) 0 ++ behind))
      else none
    | _, _ => none

/-- Reads what stands in brackets, of which the first has been read. -/
def bracketed? (cs : List Char) : Option Host :=
  if cs.getLast? == some ']' then long? cs.dropLast else none

/-! ## Names -/

/-- Characters that mean nothing in a name. -/
def isIgnored (c : Char) : Bool :=
  [0xAD, 0x200B, 0x2060, 0xFEFF].contains c.toNat || (0xFE00 ≤ c.toNat && c.toNat ≤ 0xFE0F)

/-- A character of a name in its common form: plain where it is wide, and a small letter where it is
a capital of the Latin, the Greek or the Cyrillic alphabet. -/
def common (c : Char) : Char :=
  let n := c.toNat
  if 0xFF01 ≤ n && n ≤ 0xFF5E then (Char.ofNat (n - 0xFEE0)).toLower
  else if (0xC0 ≤ n && n ≤ 0xDE && n != 0xD7) || (0x391 ≤ n && n ≤ 0x3A9) || (0x410 ≤ n && n ≤ 0x42F)
  then Char.ofNat (n + 0x20)
  else if 0x400 ≤ n && n ≤ 0x40F then Char.ofNat (n + 0x50)
  else c.toLower

/-- Characters that mean a point. -/
def isPoint (c : Char) : Bool :=
  c == '.' || [0x3002, 0xFF61].contains c.toNat

/-- Characters that cannot stand in the name of a server of the web. -/
def isForbidden (c : Char) : Bool :=
  c.toNat ≤ 0x20 || c.toNat == 0x7F || "%#/:<>?@[\\]^|".toList.contains c || Text.isBlank c

/-- A label in ASCII. A label that is in Punycode already can hold letters, digits and hyphens only.
-/
def label? (cs : List Char) : Option (List Char) :=
  if cs.any fun c => 0x80 ≤ c.toNat then some ("xn--".toList ++ Punycode.encode cs)
  else if cs.take 4 == "xn--".toList
      && (cs.length == 4 || !cs.all fun c => c.isAlphanum || c == '-') then none
  else some cs

/-- A name in ASCII and small letters. -/
def nameInAscii? (cs : List Char) : Option (List Char) :=
  let cs := (cs.filter fun c => !isIgnored c).map fun c => if isPoint c then '.' else common c
  if cs.any isForbidden then none
  else ((Text.splitWhere (· == '.') cs).mapM label?).map fun labels => List.intercalate ['.'] labels

/-- Reads the server of an address of the web, in which characters may be escaped. -/
def ofText? : List Char → Option Host
  | '[' :: rest => bracketed? rest
  | cs =>
    (Http.Percent.decode? (String.ofList cs)).bind fun decoded =>
      (nameInAscii? decoded.toList).bind fun name =>
        if name.isEmpty then none
        else if endsInNumber name then short? name
        else some (.name (String.ofList name))

/-- Reads the server of any other address. -/
def ofOtherText? : List Char → Option Host
  | '[' :: rest => bracketed? rest
  | cs =>
    if cs.any fun c => "\x00\t\n\r #/:<>?@[\\]^|".toList.contains c then none
    else some (.name (String.ofList (escapeAll [] cs)))

/-! ## Text -/

/-- The length of the run of zeros at the front. -/
def zeros (pieces : List Nat) : Nat := (pieces.takeWhile (· == 0)).length

/-- The length of the longest run of zeros. -/
def longestZeros : List Nat → Nat
  | [] => 0
  | n :: rest => max (zeros (n :: rest)) (longestZeros rest)

/-- Numbers of 16 bits with colons between them. The first run of `run` zeros is left out, if `run`
is not zero. -/
def piecesText (run : Nat) : List Nat → List Char
  | [] => []
  | n :: rest =>
    if run != 0 && zeros (n :: rest) == run then
      "::".toList ++ List.intercalate [':'] (((n :: rest).drop run).map Text.hexDigits)
    else Text.hexDigits n ++ (if rest.isEmpty || (run != 0 && zeros rest == run) then [] else [':'])
      ++ piecesText run rest

/-- The four bytes of a number with points between them. -/
def quadText (n : Nat) : String :=
  String.intercalate "." ([n / 16777216, n / 65536 % 256, n / 256 % 256, n % 256].map
    Text.Decimal.natText)

/-- The server as it stands in an address. -/
def text : Host → String
  | name s => s
  | short n => quadText n
  | long pieces =>
    let run := longestZeros pieces
    String.ofList ('[' :: piecesText (if run ≤ 1 then 0 else run) pieces ++ [']'])

end Host

end LeaseDesk.Url
