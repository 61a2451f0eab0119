import LeaseDesk.Url.Basic

/-!
# Reading addresses

`Url.ofText?` reads an absolute address and brings it into its normal form: `.` and `..` in paths
are resolved, what may not stand in a part is escaped, and a port that is usual for the scheme is
dropped. The schemes of the web are *special*: their addresses have a server however many slashes
are in front of it, and a backslash counts as a slash. The addresses of files are special too, but
need no server.
-/

namespace LeaseDesk.Url

/-- The usual ports of special schemes, other than that of files. -/
def usualPorts : List (String × Nat) :=
  [("http", 80), ("https", 443), ("ws", 80), ("wss", 443), ("ftp", 21)]

/-- The scheme is special. -/
def isSpecial (scheme : String) : Bool :=
  scheme == "file" || (usualPorts.lookup scheme).isSome

/-- A slash, or what counts as one. -/
def isSlash (special : Bool) (c : Char) : Bool := c == '/' || (special && c == '\\')

/-- What stands in front of the path ends here. -/
def endsAuthority (special : Bool) (c : Char) : Bool := isSlash special c || c == '?' || c == '#'

/-! ## Cleaning -/

/-- Characters that are dropped from the ends of an address. -/
def isOuterFiller (c : Char) : Bool := c.toNat ≤ 0x20

/-- Characters that are dropped wherever they stand. -/
def isInnerFiller (c : Char) : Bool := c == '\t' || c == '\n' || c == '\r'

/-- The address without fillers. -/
def clean (cs : List Char) : List Char :=
  (((cs.dropWhile isOuterFiller).reverse.dropWhile isOuterFiller).reverse).filter
    fun c => !isInnerFiller c

/-- Reads a scheme and its colon. -/
def readScheme? (cs : List Char) : Option (String × List Char) :=
  let scheme := cs.takeWhile fun c => c.isAlphanum || c == '+' || c == '-' || c == '.'
  match scheme, cs.drop scheme.length with
  | first :: _, ':' :: rest =>
    if first.isAlpha then some (String.ofList (scheme.map Char.toLower), rest) else none
  | _, _ => none

/-! ## Paths -/

/-- The segment with escaped points written out, case not minded. -/
def withPoints : List Char → List Char
  | '%' :: '2' :: 'e' :: rest => '.' :: withPoints rest
  | '%' :: '2' :: 'E' :: rest => '.' :: withPoints rest
  | c :: rest => c :: withPoints rest
  | [] => []

/-- The name of a drive: a letter and a colon, or a bar instead of the colon. -/
def isDrive : List Char → Bool
  | [letter, mark] => letter.isAlpha && (mark == ':' || mark == '|')
  | _ => false

/-- Goes one segment up, but not up from a drive. The segments are given the last first. -/
def goUp (file : Bool) : List (List Char) → List (List Char)
  | [] => []
  | last :: before =>
    if file && isDrive last && before.all List.isEmpty then last :: before else before

/-- A segment behind those in front of it, where a drive is written with a colon. -/
def asSegment (file : Bool) (before : List (List Char)) (segment : List Char) : List Char :=
  if file && before.all List.isEmpty && isDrive segment then segment.take 1 ++ [':'] else segment

/-- Resolves the segments `.` and `..` behind the segments resolved before, the last first. -/
def resolve (file : Bool) (before : List (List Char)) : List (List Char) → List (List Char)
  | [] => before.reverse
  | segment :: rest =>
    let name := withPoints segment
    if name == ['.', '.'] then
      let up := goUp file before
      resolve file (if rest.isEmpty then [] :: up else up) rest
    else if name == ['.'] then resolve file (if rest.isEmpty then [] :: before else before) rest
    else resolve file (asSegment file before segment :: before) rest

/-- The segments of a path behind its first slash. -/
def readSegments (special file : Bool) (cs : List Char) : List (List Char) :=
  resolve file [] (Text.splitWhere (isSlash special) cs)

/-- A path with these segments. -/
def rooted (segments : List (List Char)) : Path :=
  .rooted (segments.map fun segment => String.ofList (escapeAll pathMarks segment))

/-! ## Query and fragment -/

/-- The address ends its path here. -/
def endsPath (c : Char) : Bool := c == '?' || c == '#'

/-- The query of what follows a path. -/
def readQuery (special : Bool) : List Char → Option String
  | '?' :: rest =>
    let marks := if special then '\'' :: queryMarks else queryMarks
    some (String.ofList (escapeAll marks (rest.takeWhile (· != '#'))))
  | _ => none

/-- The fragment of what follows a path. -/
def readFragment (cs : List Char) : Option String :=
  match cs.dropWhile (· != '#') with
  | [] => none
  | _ :: rest => some (String.ofList (escapeAll fragmentMarks rest))

/-! ## User, server and port -/

/-- Splits at the last `@`: the user, if there is one, and the rest. -/
def splitUser (cs : List Char) : Option (List Char) × List Char :=
  if cs.contains '@' then
    let server := (cs.reverse.takeWhile (· != '@')).reverse
    (some (cs.take (cs.length - server.length - 1)), server)
  else (none, cs)

/-- The name of the user, and the password unless it is empty. -/
def readUser (cs : List Char) : String × Option String :=
  let written (cs : List Char) : String := String.ofList (escapeAll userMarks cs)
  let password := (cs.dropWhile (· != ':')).drop 1
  (written (cs.takeWhile (· != ':')), if password.isEmpty then none else some (written password))

/-- What stands in front of the first colon outside of brackets, and the rest. -/
def splitPort : Bool → List Char → List Char × List Char
  | _, [] => ([], [])
  | bracketed, c :: rest =>
    if c == ':' && !bracketed then ([], c :: rest)
    else
      let bracketed := if c == '[' then true else if c == ']' then false else bracketed
      let (host, port) := splitPort bracketed rest
      (c :: host, port)

/-- Reads a port behind a colon, if there is one: nothing if it is the usual port of the scheme. A
backslash ends it in any case, and what stands from there on is left. -/
def readPort? (scheme : String) : List Char → Option (Option Nat × List Char)
  | ':' :: rest =>
    let digits := rest.takeWhile Char.isDigit
    let behind := rest.dropWhile Char.isDigit
    let port := Text.Decimal.value digits
    if (behind.isEmpty || behind.head? == some '\\') && port ≤ 65535 then
      some (if digits.isEmpty || usualPorts.lookup scheme == some port then none else some port, behind)
    else none
  | cs => some (none, cs)

/-- Reads a server of a scheme, which has to have a name if the scheme is special, or if there is a
user or a port. -/
def readHost? (special : Bool) (hasUser : Bool) (host port : List Char) : Option Host :=
  if host.isEmpty && (special || hasUser || !port.isEmpty) then none
  else if special then Host.ofText? host
  else Host.ofOtherText? host

/-! ## Addresses -/

/-- Reads an address with a server, from behind the slashes in front of it. -/
def readRemote? (scheme : String) (cs : List Char) : Option Url :=
  let special := isSpecial scheme
  let authority := cs.takeWhile fun c => !endsAuthority special c
  let behind := cs.dropWhile fun c => !endsAuthority special c
  let (userPart, server) := splitUser authority
  let (user, password) := readUser (userPart.getD [])
  let hasUser := !user.isEmpty || password.isSome
  let (host, port) := splitPort false server
  if userPart == some [] && server.isEmpty && !behind.isEmpty then none
  else
    match readHost? special hasUser host port, readPort? scheme port with
    | some host, some (port, leftOver) =>
      let behind := leftOver ++ behind
      let path := behind.takeWhile fun c => !endsPath c
      let behindPath := behind.dropWhile fun c => !endsPath c
      let segments :=
        match path with
        | [] => if special then [[]] else []
        | c :: rest =>
          readSegments special false (if isSlash special c then rest else c :: rest)
      some ⟨scheme, user, password, some host, port, rooted segments, readQuery special behindPath,
        readFragment behindPath⟩
    | _, _ => none

/-- Reads the server in the address of a file, which may be missing, and what follows it. -/
def readFileHost? (cs : List Char) : Option (Option Host × List Char) :=
  let host := cs.takeWhile fun c => !endsAuthority true c
  let behind := cs.dropWhile fun c => !endsAuthority true c
  if isDrive host then some (none, cs)
  else if host.isEmpty then some (none, behind)
  else
    (Host.ofText? host).map fun host => (if host == .name "localhost" then none else some host, behind)

/-- The address of a file. Empty segments in front of its path mean nothing, and a path that begins
with a drive has no server. -/
def fileUrl (host : Option Host) (cs : List Char) : Url :=
  let path := cs.takeWhile fun c => !endsPath c
  let behindPath := cs.dropWhile fun c => !endsPath c
  let segments := (readSegments true true path).dropWhile List.isEmpty
  ⟨"file", "", none, if segments.head?.any isDrive then none else host, none,
    rooted (if segments.isEmpty then [[]] else segments), readQuery true behindPath,
    readFragment behindPath⟩

/-- Reads the address of a file, from behind the scheme. -/
def readFile? : List Char → Option Url
  | a :: b :: rest =>
    if isSlash true a && isSlash true b then
      (readFileHost? rest).map fun (host, behind) => fileUrl host behind
    else some (fileUrl none (a :: b :: rest))
  | cs => some (fileUrl none cs)

/-- The address without a server. -/
def localUrl (scheme : String) (cs : List Char) : Url :=
  let path := cs.takeWhile fun c => !endsPath c
  let behindPath := cs.dropWhile fun c => !endsPath c
  let path :=
    match path with
    | '/' :: rest => rooted (readSegments false false rest)
    | path => .rootless (String.ofList (escapeAll [] path))
  ⟨scheme, "", none, none, none, path, readQuery false behindPath, readFragment behindPath⟩

/-- Reads an absolute address. -/
def ofText? (s : String) : Option Url :=
  (readScheme? (clean s.toList)).bind fun (scheme, rest) =>
    if scheme == "file" then readFile? rest
    else if isSpecial scheme then readRemote? scheme (rest.dropWhile (isSlash true))
    else
      match rest with
      | '/' :: '/' :: rest => readRemote? scheme rest
      | rest => some (localUrl scheme rest)

end LeaseDesk.Url
