import LeaseDesk.Text.Alphanumeric
import LeaseDesk.Text.Basic
import LeaseDesk.Text.Numerals

/-!
# Which texts are patterns

Values are compared with *patterns*, that is with regular expressions. Here nothing is matched: the
question is only whether a text is a pattern, so that settings can be refused before they are used.

The pieces of a pattern are characters, the point, anchors, classes in brackets and groups, and each
piece may be repeated by `?`, `*` and `+`. A repetition in braces is not available. The *mode* says
how what follows is meant, and is changed by a group of flags for the rest of the group around it.
As long as it is `wide`, a pattern is about characters, and what would need to know more about them
than their code points is not available: named classes, the edges of words, and disregard of case.
When it is not wide, a pattern is about bytes, and it may not reach beyond ASCII other than by
writing characters out.

Reading proceeds from left to right, and what is read is taken off the text.
-/

namespace LeaseDesk.Text.Pattern

/-- How what follows is meant. -/
structure Mode where
  /-- case is disregarded -/
  anyCase : Bool
  /-- it is about characters, not about bytes -/
  wide : Bool
  /-- blanks and remarks mean nothing -/
  spaced : Bool
deriving DecidableEq

namespace Mode

/-- How a pattern begins. -/
def initial : Mode := ⟨false, true, false⟩

/-- A character may stand for itself. In a wide pattern it would take knowledge of the character to
disregard its case. -/
def allowsLiteral (m : Mode) : Bool := !(m.wide && m.anyCase)

end Mode

/-! ## Blanks -/

/-- What follows after blanks and remarks. A remark begins with a number sign and ends with the
line. -/
def pastBlanks : Bool → List Char → List Char
  | _, [] => []
  | true, c :: rest => pastBlanks (c != '\n') rest
  | false, c :: rest =>
    if isBlank c then pastBlanks false rest
    else if c == '#' then pastBlanks true rest
    else c :: rest

/-- What follows after everything that means nothing. -/
def Mode.skip (m : Mode) (cs : List Char) : List Char :=
  if m.spaced then pastBlanks false cs else cs

/-! ## Escapes -/

/-- What a piece stands for. -/
inductive Piece
  /-- the character of a code point -/
  | literal (codePoint : Nat)
  /-- a class of ASCII characters -/
  | named
  /-- a place between characters -/
  | place
deriving DecidableEq

/-- The characters that mean something outside of brackets or in them. -/
def marks : List Char := "\\.+*?()|[]\x7b\x7d^$#&-~".toList

/-- The character stands for itself behind a backslash. -/
def isEscapable (c : Char) : Bool :=
  marks.contains c || (c.toNat < 0x80 && !c.isAlphanum && c != '<' && c != '>')

/-- Reads so many hexadecimal digits, in front of which `n` has been read. -/
def readHex? (m : Mode) (n : Nat) : Nat → List Char → Option (Nat × List Char)
  | 0, cs => some (n, cs)
  | count + 1, cs =>
    match m.skip cs with
    | [] => none
    | c :: rest => (hexValue? c).bind fun d => readHex? m (16 * n + d) count rest

/-- The number is a code point of a character. -/
def isCodePoint (n : Nat) : Bool := n < 0xD800 || (0xDFFF < n && n < 0x110000)

/-- Reads a code point of so many hexadecimal digits. Two digits stand for a byte where bytes are
meant. -/
def readCodePoint? (m : Mode) (count : Nat) (cs : List Char) : Option (Piece × List Char) :=
  match readHex? m 0 count cs with
  | none => none
  | some (n, rest) =>
    if isCodePoint n && (m.wide || count != 2 || n < 0x80) then some (.literal n, rest) else none

/-- The code points of the controls that have letters of their own. -/
def controls : List (Char × Nat) :=
  [('a', 0x07), ('f', 0x0C), ('t', 0x09), ('n', 0x0A), ('r', 0x0D), ('v', 0x0B)]

/-- Reads what stands behind a backslash. -/
def readEscape? (m : Mode) : List Char → Option (Piece × List Char)
  | [] => none
  | 'x' :: rest => readCodePoint? m 2 rest
  | 'u' :: rest => readCodePoint? m 4 rest
  | 'U' :: rest => readCodePoint? m 8 rest
  | c :: rest =>
    if isEscapable c then some (.literal c.toNat, rest)
    else if "dsw".toList.contains c then if m.wide then none else some (.named, rest)
    else if "bB<>".toList.contains c then if m.wide then none else some (.place, rest)
    else if "Az".toList.contains c then some (.place, rest)
    else (controls.lookup c).map fun n => (.literal n, rest)

/-! ## Classes in brackets -/

/-- How two sets make a third. -/
inductive Combination
  | common
  | without
  | either
deriving DecidableEq

/-- Whether a set made of two reaches beyond ASCII. The bytes beyond ASCII are in a set all together
or not at all. -/
def Combination.reach : Combination → Bool → Bool → Bool
  | common, a, b => a && b
  | without, a, b => a && !b
  | either, a, b => a != b

/-- A pair of brackets that has not been closed yet. -/
structure Bracket where
  /-- what stands in it is excluded -/
  negated : Bool
  /-- the reach of what stands in front of the last combination, and that combination -/
  front : Option (Bool × Combination)
  /-- the reach of what follows it -/
  reach : Bool

namespace Bracket

/-- One more member. -/
def add (b : Bracket) (reach : Bool) : Bracket := { b with reach := b.reach || reach }

/-- The reach of what has been read, exclusion aside. -/
def total (b : Bracket) : Bool :=
  match b.front with
  | none => b.reach
  | some (reach, combination) => combination.reach reach b.reach

/-- A combination follows. -/
def combine (b : Bracket) (combination : Combination) : Bracket :=
  { b with front := some (b.total, combination), reach := false }

end Bracket

/-- The names of classes between `[:` and `:]`. -/
def classNames : List String :=
  ["alnum", "alpha", "ascii", "blank", "cntrl", "digit", "graph", "lower", "print", "punct", "space",
    "upper", "word", "xdigit"]

/-- Reads what follows `[` of a class by name: whether it is negated. -/
def readClassName? (cs : List Char) : Option (Bool × List Char) :=
  match cs with
  | ':' :: rest =>
    let negated := rest.head? == some '^'
    let rest := if negated then rest.drop 1 else rest
    match rest.dropWhile (· != ':') with
    | ':' :: ']' :: after =>
      if classNames.contains (String.ofList (rest.takeWhile (· != ':'))) then some (negated, after)
      else none
    | _ => none
  | _ => none

/-- What follows after hyphens at the front of a class, which stand for themselves; and whether
there are any. -/
def pastHyphens (m : Mode) : Nat → List Char → Bool × List Char
  | 0, cs => (false, cs)
  | fuel + 1, cs =>
    match m.skip cs with
    | '-' :: rest => (true, (pastHyphens m fuel rest).2)
    | cs => (false, cs)

/-- Reads what follows `[`: the new pair of brackets. A closing bracket at the front stands for
itself. -/
def openBracket (m : Mode) (cs : List Char) : Bracket × List Char :=
  let (negated, cs) := match m.skip cs with
    | '^' :: rest => (true, rest)
    | cs => (false, cs)
  match pastHyphens m cs.length cs with
  | (false, ']' :: rest) => (⟨negated, none, false⟩, rest)
  | (_, rest) => (⟨negated, none, false⟩, rest)

/-- Reads a member of a class, where a character stands for itself unless it is a backslash. -/
def readMember? (m : Mode) : List Char → Option (Piece × List Char)
  | [] => none
  | '\\' :: rest => readEscape? m rest
  | c :: rest => some (.literal c.toNat, rest)

/-- The reach of a member that stands alone. -/
def Piece.reach? (m : Mode) : Piece → Option Bool
  | literal n => if m.wide || n < 0x80 then some false else none
  | named => some false
  | place => none

/-- Reads a member of a class or a range of characters: its reach. -/
def readRange? (m : Mode) (cs : List Char) : Option (Bool × List Char) :=
  (readMember? m cs).bind fun (first, rest) =>
    let alone := (first.reach? m).map fun reach => (reach, rest)
    match m.skip rest with
    | '-' :: after =>
      match m.skip after with
      | [] => none
      | c :: behind =>
        if c == ']' || c == '-' then alone
        else
          match first, readMember? m (c :: behind) with
          | .literal a, some (.literal b, rest) =>
            if a ≤ b && (m.wide || b < 0x80) then some (false, rest) else none
          | _, _ => none
    | _ => alone

/-- Reads on inside of brackets until all of them are closed. -/
def readClass? (m : Mode) : Nat → List Bracket → List Char → Option (List Char)
  | 0, _, _ => none
  | _, [], cs => some cs
  | fuel + 1, b :: outer, cs =>
    match m.skip cs with
    | [] => none
    | '[' :: rest =>
      match readClassName? rest with
      | some (negated, rest) => readClass? m fuel (b.add negated :: outer) rest
      | none =>
        let (inner, rest) := openBracket m rest
        readClass? m fuel (inner :: b :: outer) rest
    | ']' :: rest =>
      if !m.wide && (b.total != b.negated) then none
      else
        match outer with
        | [] => some rest
        | b' :: outer => readClass? m fuel (b' :: outer) rest
    | '&' :: '&' :: rest => readClass? m fuel (b.combine .common :: outer) rest
    | '-' :: '-' :: rest => readClass? m fuel (b.combine .without :: outer) rest
    | '~' :: '~' :: rest => readClass? m fuel (b.combine .either :: outer) rest
    | cs =>
      match readRange? m cs with
      | none => none
      | some (reach, rest) => readClass? m fuel (b.add reach :: outer) rest

/-! ## Groups -/

/-- The flags that can be set and unset. -/
def flagLetters : List Char := "imsUuRx".toList

/-- Reads flags up to a colon or a closing bracket, which is left: the flags, with a hyphen in front
of those that are unset. None occurs twice, and the hyphen is not the last. -/
def readFlags? (before : List Char) : List Char → Option (List Char × List Char)
  | [] => none
  | c :: rest =>
    if c == ':' || c == ')' then
      if before.head? == some '-' then none else some (before.reverse, c :: rest)
    else if (c == '-' || flagLetters.contains c) && !before.contains c then
      readFlags? (c :: before) rest
    else none

/-- What a flag is afterwards. -/
def flagAfter (flags : List Char) (flag : Char) (before : Bool) : Bool :=
  if (flags.takeWhile (· != '-')).contains flag then true
  else if flags.contains flag then false
  else before

/-- The mode behind flags. -/
def Mode.after (m : Mode) (flags : List Char) : Mode :=
  ⟨flagAfter flags 'i' m.anyCase, flagAfter flags 'u' m.wide, flagAfter flags 'x' m.spaced⟩

/-- The characters may be the name of a group. -/
def isGroupName : List Char → Bool
  | [] => false
  | c :: rest =>
    (c == '_' || isLetter c)
      && rest.all fun c => "_.[]".toList.contains c || isAlphanumeric c

/-- Where the reading of a pattern has got to. -/
structure State where
  /-- how what follows is meant -/
  mode : Mode
  /-- the modes to return to at the end of each group that has not been closed, innermost first -/
  outer : List Mode
  /-- there is a piece in front that can be repeated -/
  repeatable : Bool
  /-- the names of groups so far -/
  names : List String

namespace State

/-- A piece has been read. -/
def read (s : State) : State := { s with repeatable := true }

/-- A group begins, with a mode of its own. -/
def enter (s : State) (mode : Mode) : State :=
  { s with mode := mode, outer := s.mode :: s.outer, repeatable := false }

/-- A group ends, if there is one. -/
def leave? (s : State) : Option State :=
  match s.outer with
  | [] => none
  | mode :: outer => some { s with mode := mode, outer := outer, repeatable := true }

/-- Reads the name of a group and what closes it. -/
def enterNamed? (s : State) (cs : List Char) : Option (State × List Char) :=
  let name := cs.takeWhile (· != '>')
  match cs.dropWhile (· != '>') with
  | [] => none
  | _ :: rest =>
    if isGroupName name && !s.names.contains (String.ofList name) then
      some ({ s.enter s.mode with names := String.ofList name :: s.names }, rest)
    else none

/-- Reads what follows an opening parenthesis. No group looks ahead or back. -/
def openGroup? (s : State) (cs : List Char) : Option (State × List Char) :=
  match s.mode.skip cs with
  | '?' :: 'P' :: '<' :: rest => s.enterNamed? rest
  | '?' :: '<' :: rest =>
    if rest.head? == some '=' || rest.head? == some '!' then none else s.enterNamed? rest
  | '?' :: rest =>
    match readFlags? [] rest with
    | some (flags, ':' :: rest) => some (s.enter (s.mode.after flags), rest)
    | some (flags, _ :: rest) =>
      if flags.isEmpty then none
      else some ({ s with mode := s.mode.after flags, repeatable := false }, rest)
    | _ => none
  | rest => some (s.enter s.mode, rest)

/-- What follows after a repetition, which a question mark makes modest. -/
def pastRepetition : List Char → List Char
  | '?' :: rest => rest
  | rest => rest

/-- Reads one piece or mark. -/
def step? (s : State) : List Char → Option (State × List Char)
  | [] => none
  | c :: rest =>
    if c == '(' then s.openGroup? rest
    else if c == ')' then (s.leave?).map fun s => (s, rest)
    else if c == '|' then some ({ s with repeatable := false }, rest)
    else if c == '[' then
      if s.mode.allowsLiteral then
        let (b, rest) := openBracket s.mode rest
        (readClass? s.mode (rest.length + 1) [b] rest).map fun rest => (s.read, rest)
      else none
    else if c == '?' || c == '*' || c == '+' then
      if s.repeatable then some (s, pastRepetition rest) else none
    else if c == '\x7b' then none
    else if c == '\\' then
      match readEscape? s.mode rest with
      | some (.literal _, rest) => if s.mode.allowsLiteral then some (s.read, rest) else none
      | some (_, rest) => some (s.read, rest)
      | none => none
    else if c == '.' then if s.mode.wide then some (s.read, rest) else none
    else if c == '^' || c == '$' then some (s.read, rest)
    else if s.mode.allowsLiteral then some (s.read, rest)
    else none

/-- Reads to the end, where no group may be left open. -/
def accepts : Nat → State → List Char → Bool
  | 0, _, _ => false
  | fuel + 1, s, cs =>
    match s.mode.skip cs with
    | [] => s.outer.isEmpty
    | cs =>
      match s.step? cs with
      | none => false
      | some (s, rest) => accepts fuel s rest

end State

/-- The text is a pattern. -/
def isPattern (s : String) : Bool :=
  State.accepts (s.length + 1) ⟨.initial, [], false, []⟩ s.toList

end LeaseDesk.Text.Pattern
