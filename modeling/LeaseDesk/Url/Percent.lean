import LeaseDesk.Json.Bytes
import LeaseDesk.Text.Basic
import LeaseDesk.Text.Numerals

/-!
# Percent-encoding

In an address a byte may be written as a percent sign and two hexadecimal digits. Decoding undoes this
byte by byte; a percent sign that is not followed by two hexadecimal digits stands for itself. The bytes
have to be UTF-8 in the end.

A character is escaped by writing each byte of it so. Everything that is not a printing character of
ASCII is escaped wherever it stands; the other characters that have to be escaped differ from part to
part. The space is among them in all parts but a path without root.
-/

namespace LeaseDesk.Http.Percent

open Json (ascii hexValue?)

/-- The byte meant by three, if they are a percent sign and two hexadecimal digits. -/
def escaped? (percent high low : UInt8) : Option UInt8 :=
  if percent == ascii '%' then
    match hexValue? high, hexValue? low with
    | some h, some l => some (UInt8.ofNat (h * 16 + l))
    | _, _ => none
  else none

/-- The bytes meant by the bytes of a path. -/
def decodeBytes : List UInt8 → List UInt8
  | a :: b :: c :: rest =>
    match escaped? a b c with
    | some byte => byte :: decodeBytes rest
    | none => a :: decodeBytes (b :: c :: rest)
  | bs => bs

/-- The text meant by a part of a path, if its bytes are those of a text. -/
def decode? (s : String) : Option String :=
  Text.ofBytes? (decodeBytes (Text.toBytes s))

end LeaseDesk.Http.Percent

namespace LeaseDesk.Url

/-- A character with its bytes escaped. -/
def escape (c : Char) : List Char :=
  (String.utf8EncodeChar c).flatMap fun b =>
    ['%', Text.hexDigit 'A' (b.toNat / 16), Text.hexDigit 'A' (b.toNat % 16)]

/-- Escapes characters outside of printing ASCII, and the given ones. -/
def escapeAll (others : List Char) (cs : List Char) : List Char :=
  cs.flatMap fun c =>
    if c.toNat < 0x20 || 0x7F ≤ c.toNat || others.contains c then escape c else [c]

/-- What is escaped in a fragment. -/
def fragmentMarks : List Char := " \"<>`".toList

/-- What is escaped in a path. -/
def pathMarks : List Char := fragmentMarks ++ "#?\x7b\x7d".toList

/-- What is escaped in the name and the password of a user. -/
def userMarks : List Char := pathMarks ++ "/:;=@[\\]^|".toList

/-- What is escaped in a query. -/
def queryMarks : List Char := " \"#<>".toList

end LeaseDesk.Url
