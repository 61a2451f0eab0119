/-!
# Media types

The header `Content-Type` names a type and a subtype, joined by a slash, and parameters behind
semicolons. A body counts as JSON if the type is `application` and the subtype is `json` or ends in
`+json`; case does not matter. What the parameters say is of no interest, but they have to be well
formed.
-/

namespace LeaseDesk.Http.MediaType

/-- Characters of which names consist. -/
def isToken (c : Char) : Bool :=
  c.isAlphanum || "!#$%&'*+-.^_`|~".toList.contains c

/-- Characters that may stand in a header at all. -/
def isVisible (c : Char) : Bool :=
  (0x20 ≤ c.toNat && c.toNat < 0x7F) || c == '\t'

/-- Characters that may stand in a quoted value. -/
def isQuotable (c : Char) : Bool :=
  0x20 ≤ c.toNat && c.toNat != 0x7F

/-- Where the reading of parameters has got to. -/
inductive Place
  /-- in front of a name -/
  | start
  /-- in a name -/
  | name
  /-- in front of a value -/
  | value
  /-- in a value without quotation marks -/
  | token
  /-- behind the opening quotation mark of a value -/
  | quote
  /-- in a value with quotation marks, which has at least one character -/
  | quoted
  /-- behind the closing quotation mark -/
  | closed

/-- The place behind one more character; none if it may not stand there. -/
def Place.next? (c : Char) : Place → Option Place
  | start => if c == ' ' then some start else if isToken c then some name else none
  | name => if isToken c then some name else if c == '=' then some value else none
  | value => if c == '"' then some quote else if isToken c then some token else none
  | token => if isToken c then some token else if c == ';' then some start else none
  | quote => if isQuotable c then some quoted else none
  | quoted => if c == '"' then some closed else if isQuotable c then some quoted else none
  | closed => if c == ';' then some start else if c == ' ' then some closed else none

/-- Parameters may end here. -/
def Place.mayEnd : Place → Bool
  | start | value | token | closed => true
  | name | quote | quoted => false

/-- The text goes on from a place as parameters do. -/
def areParameters : Place → List Char → Bool
  | place, [] => place.mayEnd
  | place, c :: rest =>
    match place.next? c with
    | none => false
    | some place => areParameters place rest

/-- The part of a subtype in front of the last plus sign that is not its first character, and the part
behind it. -/
def splitSuffix (subtype : List Char) : List Char × Option (List Char) :=
  let behind := (subtype.reverse.takeWhile (· != '+')).reverse
  let front := subtype.take (subtype.length - behind.length - 1)
  if front.isEmpty then (subtype, none) else (front, some behind)

/-- The subtype says that the body is JSON. -/
def isJsonSubtype (subtype : List Char) : Bool :=
  let json := "json".toList
  let (front, suffix) := splitSuffix (subtype.map Char.toLower)
  front == json || suffix == some json

/-- The media type says that the body is JSON. -/
def isJson (s : String) : Bool :=
  let cs := s.toList
  let type := cs.takeWhile isToken
  match cs.dropWhile isToken with
  | '/' :: rest =>
    let subtype := rest.takeWhile isToken
    let parameters := rest.dropWhile isToken
    cs.all isVisible && type.map Char.toLower == "application".toList && isJsonSubtype subtype
      && match parameters with
        | [] => true
        | c :: parameters => c == ';' && areParameters .start parameters
  | _ => false

end LeaseDesk.Http.MediaType
