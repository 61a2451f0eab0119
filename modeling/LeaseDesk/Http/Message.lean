import LeaseDesk.Json.Value

/-!
# HTTP requests and responses

Requests come with the target as it was sent, before anything in it is decoded. Header names are
compared without regard to case.
-/

namespace LeaseDesk.Http

/-- A request. -/
structure Request where
  /-- the method, in capitals for all methods that mean anything here -/
  method : String
  /-- the path, and behind a question mark the query -/
  target : String
  /-- the headers, each a name and a value -/
  headers : List (String × String)
  /-- the body -/
  body : List UInt8

/-- What a response says. -/
inductive Content
  | nothing
  | text (s : String)
  | json (v : Json)

/-- A response. -/
structure Response where
  /-- the status -/
  status : Nat
  /-- the headers beyond those that describe the content -/
  headers : List (String × String)
  /-- the content -/
  content : Content

namespace Request

/-- A query or a fragment begins. -/
def endsPath (c : Char) : Bool := c == '?' || c == '#'

/-- What follows a scheme, its colon and two slashes. -/
def pastScheme? (cs : List Char) : Option (List Char) :=
  match cs.dropWhile (· != ':') with
  | ':' :: '/' :: '/' :: rest => some rest
  | _ => none

/-- The path, without query and fragment. The target may be an asterisk, or it may be an absolute
address: then the path is what follows the server, and it is never empty. A target that names
nothing but a server has no path. -/
def path (r : Request) : List Char :=
  match r.target.toList with
  | '/' :: rest => '/' :: rest.takeWhile fun c => !endsPath c
  | ['*'] => ['*']
  | cs =>
    match pastScheme? cs with
    | none => []
    | some cs =>
      match cs.dropWhile fun c => c != '/' && !endsPath c with
      | '/' :: rest => '/' :: rest.takeWhile fun c => !endsPath c
      | _ => ['/']

/-- The value of the first header of a name, which is given in small letters. -/
def header? (r : Request) (name : String) : Option String :=
  (r.headers.find? fun h => h.1.toList.map Char.toLower == name.toList).map (·.2)

end Request

namespace Response

/-- A response without content. -/
def bare (status : Nat) : Response := ⟨status, [], .nothing⟩

/-- A response in plain text. -/
def plain (status : Nat) (s : String) : Response := ⟨status, [], .text s⟩

/-- A response in JSON. -/
def ofJson (status : Nat) (v : Json) : Response := ⟨status, [], .json v⟩

/-- The response with one more header. -/
def withHeader (r : Response) (name value : String) : Response :=
  { r with headers := r.headers ++ [(name, value)] }

/-- The response without its content. -/
def withoutContent (r : Response) : Response :=
  { r with content := .nothing }

end Response

end LeaseDesk.Http
