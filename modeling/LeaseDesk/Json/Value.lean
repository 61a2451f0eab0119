import LeaseDesk.Text.Numerals

/-!
# JSON values and their text

The values that the service writes: numbers are integers, and an object is a list of members in the
order in which they are written. The text is compact, without any white space. In strings only the
quotation mark, the backslash and the controls below the space are escaped.
-/

namespace LeaseDesk

/-- A JSON value. -/
inductive Json
  | null
  | bool (b : Bool)
  | number (n : Int)
  | text (s : String)
  | list (items : List Json)
  | object (members : List (String × Json))

namespace Json

/-- Text, or null for none. -/
def ofText? : Option String → Json
  | none => null
  | some s => text s

/-- A character as it stands in a string. -/
def escape (c : Char) : List Char :=
  if c == '"' then ['\\', '"']
  else if c == '\\' then ['\\', '\\']
  else if c == '\n' then ['\\', 'n']
  else if c == '\r' then ['\\', 'r']
  else if c == '\t' then ['\\', 't']
  else if c == '\x08' then ['\\', 'b']
  else if c == '\x0c' then ['\\', 'f']
  else if c.toNat < 0x20 then
    ['\\', 'u', '0', '0', Text.hexDigit 'a' (c.toNat / 16), Text.hexDigit 'a' (c.toNat % 16)]
  else [c]

/-- A string with its quotation marks. -/
def quote (s : String) : List Char :=
  '"' :: (s.toList.flatMap escape ++ ['"'])

mutual

/-- The characters of a value. -/
def chars : Json → List Char
  | null => "null".toList
  | bool true => "true".toList
  | bool false => "false".toList
  | number n => (Text.Decimal.intText n).toList
  | text s => quote s
  | list items => '[' :: (itemChars items ++ [']'])
  | object members => '\x7b' :: (memberChars members ++ ['\x7d'])

/-- The characters of the items of a list. -/
def itemChars : List Json → List Char
  | [] => []
  | [v] => chars v
  | v :: rest => chars v ++ ',' :: itemChars rest

/-- The characters of the members of an object. -/
def memberChars : List (String × Json) → List Char
  | [] => []
  | [(name, v)] => quote name ++ ':' :: chars v
  | (name, v) :: rest => quote name ++ ':' :: (chars v ++ ',' :: memberChars rest)

end

/-- A value as text. -/
def render (v : Json) : String :=
  String.ofList v.chars

end Json

end LeaseDesk
