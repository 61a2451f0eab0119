import LeaseDesk.Text.Basic
import LeaseDesk.Text.Numerals
import LeaseDesk.Text.Pattern

/-!
# Log filters

A log filter is a list of directives with commas between them. A directive is a target, a level, or
both with an equals sign between them; the target may be followed, or replaced, by the name of a
span in brackets, and behind that name the fields of the span may be asked for in braces:
`target[span{field=value}]=level`. Wrong can be the shape, the level, and a value that is neither a
number nor a pattern.

A directive is followed in its trimmed form, but levels and fields are cut out of the text as it was
given, at the places where they were found in the trimmed one. So blanks in front of a directive
move all of them.
-/

namespace LeaseDesk.Settings

/-- The levels by name. -/
def levelNames : List String := ["off", "error", "warn", "info", "debug", "trace"]

/-- A level, by name in any case or by a number from 0 to 5. -/
def isLevel (s : String) : Bool :=
  match Text.Decimal.readBounded Text.Decimal.largest64 s with
  | some n => n ≤ 5
  | none => levelNames.contains (String.ofList (s.toList.map Char.toLower))

/-! ## Fields -/

/-- What follows after a sign. -/
def pastSign : List Char → List Char
  | '+' :: rest => rest
  | '-' :: rest => rest
  | cs => cs

/-- The exponent of a number, if there is one. -/
def isExponent : List Char → Bool
  | [] => true
  | c :: rest =>
    let digits := pastSign rest
    (c == 'e' || c == 'E') && !digits.isEmpty && digits.all Char.isDigit

/-- A number: a decimal fraction, perhaps with an exponent, or a word for what is no finite number.
-/
def isNumber (s : String) : Bool :=
  let cs := pastSign s.toList
  let rest := cs.dropWhile Char.isDigit
  let whole := cs.takeWhile Char.isDigit
  let fraction := if rest.head? == some '.' then (rest.drop 1).takeWhile Char.isDigit else []
  let behind := if rest.head? == some '.' then (rest.drop 1).dropWhile Char.isDigit else rest
  ["inf", "infinity", "nan"].contains (String.ofList (cs.map Char.toLower))
    || (!(whole ++ fraction).isEmpty && isExponent behind)

/-- A field is a name, and behind an equals sign perhaps a value. A second equals sign ends the
value. -/
def isField (s : String) : Bool :=
  match s.toList.dropWhile (· != '=') with
  | [] => !s.isEmpty
  | _ :: rest =>
    let value := String.ofList (rest.takeWhile (· != '='))
    isNumber value || Text.Pattern.isPattern value

/-! ## Directives -/

/-- Where the following of a directive has got to. Offsets are in bytes. -/
inductive Stage
  /-- in front of it -/
  | start
  /-- in a level or a target -/
  | word
  /-- in the name of a span -/
  | span
  /-- in a field that begins at an offset -/
  | field (offset : Nat)
  /-- behind the fields -/
  | fields
  /-- behind a span -/
  | target
  /-- in a level that begins at an offset -/
  | level (offset : Nat)

/-- The text between two offsets, if they do not split a character. -/
def cut? (bytes : List UInt8) (first last : Nat) : Option String :=
  Text.ofBytes? ((bytes.take last).drop first)

/-- A directive may begin with this character, brackets aside. -/
def mayBegin (c : Char) : Bool :=
  c == '-' || c == ':' || c == '_' || Text.isAlphanumeric c

/-- The stage behind one more character, which stands at an offset; none if it may not stand there.
-/
def Stage.next? (bytes : List UInt8) (offset : Nat) (c : Char) : Stage → Option Stage
  | start => if c == '[' then some span else if mayBegin c then some word else none
  | word => some (if c == '=' then level (offset + 1) else if c == '[' then span else word)
  | span => some (if c == ']' then target else if c == '\x7b' then field (offset + 1) else span)
  | field first =>
    if c == '\x7d' then
      if (cut? bytes first offset).any isField then some fields else none
    else some (field first)
  | fields => if c == ']' then some target else none
  | target => if c == '=' then some (level (offset + 1)) else none
  | level first => some (level first)

/-- The directive may end here. -/
def Stage.mayEnd (bytes : List UInt8) : Stage → Bool
  | word | target => true
  | level first => (cut? bytes first bytes.length).any fun s => s.isEmpty || isLevel s
  | start | span | field _ | fields => false

/-- Follows a directive from an offset on. -/
def follow (bytes : List UInt8) : Nat → Stage → List Char → Bool
  | _, stage, [] => stage.mayEnd bytes
  | offset, stage, c :: rest =>
    match stage.next? bytes offset c with
    | none => false
    | some stage => follow bytes (offset + c.utf8Size) stage rest

/-- The directive is acceptable. -/
def isDirective (cs : List Char) : Bool :=
  follow (Text.toBytes (String.ofList cs)) 0 .start (Text.trimChars cs)

/-- All directives of a filter are acceptable, where nothing between commas is no directive. -/
def isLogFilter (s : String) : Bool :=
  (Text.splitWhere (· == ',') s.toList).all fun directive => directive.isEmpty || isDirective directive

end LeaseDesk.Settings
