import LeaseDesk.Url.Host

/-!
# Addresses

An address begins with a scheme and a colon. What follows names a server, a path on it, perhaps a
query and perhaps a fragment; but there are schemes whose addresses have no server, and then the
path may have no root. `Url.text` writes an address in its one normal form.
-/

namespace LeaseDesk

/-- The path of an address. -/
inductive Url.Path
  /-- a text, which is no path in truth -/
  | rootless (s : String)
  /-- segments, each with a slash in front -/
  | rooted (segments : List String)
deriving DecidableEq

/-- An address. All its parts are escaped. -/
structure Url where
  /-- the scheme, in small letters -/
  scheme : String
  /-- the name of the user, empty if there is none -/
  user : String
  /-- the password of the user -/
  password : Option String
  /-- the server -/
  host : Option Url.Host
  /-- the port, unless it is the usual one -/
  port : Option Nat
  /-- the path -/
  path : Url.Path
  /-- the query -/
  query : Option String
  /-- the fragment -/
  fragment : Option String
deriving DecidableEq

namespace Url

/-- A path as it stands in an address. -/
def Path.text : Path → String
  | rootless s => s
  | rooted segments => String.join (segments.map ("/" ++ ·))

/-- Nothing, or a text with a mark in front. -/
def marked (mark : String) : Option String → String
  | none => ""
  | some s => mark ++ s

/-- The user as it stands in front of the server. -/
def userText (u : Url) : String :=
  if u.user.isEmpty && u.password.isNone then "" else u.user ++ marked ":" u.password ++ "@"

/-- What stands between the scheme and the path. Without a server, a path must not be mistaken for
one. -/
def authorityText (u : Url) : String :=
  match u.host, u.path with
  | some host, _ =>
    "//" ++ u.userText ++ host.text ++ marked ":" (u.port.map Text.Decimal.natText)
  | none, .rooted ("" :: _ :: _) => if u.scheme == "file" then "//" else "/."
  | none, _ => if u.scheme == "file" then "//" else ""

/-- The address as a text. -/
def text (u : Url) : String :=
  u.scheme ++ ":" ++ u.authorityText ++ u.path.text ++ marked "?" u.query ++ marked "#" u.fragment

/-- What is asked for at the server: the path and the query. -/
def target (u : Url) : String :=
  u.path.text ++ marked "?" u.query

/-- The address names a server. -/
def hasHost (u : Url) : Bool :=
  match u.host with
  | none => false
  | some host => host != .name ""

/-- The address without user and password, unless they are no texts at all. -/
def withoutUser (u : Url) : Url :=
  let password := u.password.bind Http.Percent.decode?
  match Http.Percent.decode? u.user with
  | none => u
  | some user =>
    if user.isEmpty && password.isNone then u else { u with user := "", password := none }

/-- Characters that no request names a server with. -/
def isUnrequestable (c : Char) : Bool := "\"`\x7b\x7d".toList.contains c

/-- A request can be sent to the address: over HTTP, to a server whose name is fit for it, and the
address is not too long. -/
def isRequestable (u : Url) : Bool :=
  (u.scheme == "http" || u.scheme == "https") && u.hasHost
    && !(u.host.any fun host => host.text.toList.any isUnrequestable)
    && u.text.utf8ByteSize ≤ 65534

end Url

end LeaseDesk
