import LeaseDesk.Desk
import LeaseDesk.Http.MediaType
import LeaseDesk.Http.Route
import LeaseDesk.Representation
import LeaseDesk.Url.Percent

/-!
# Serving requests

`decide` looks at a request alone and comes to a `Decision`: either the response is settled, or one
operation has to be performed. `respond` turns the result of an operation into a response. Between the
two stands the desk, and so a request performs at most one operation, and nothing but that operation
touches the desk.

The service is either *plain*, or *guarded*: then requests that announce too long a body are refused, and
pages of any origin may use the service.
-/

namespace LeaseDesk.Http

/-- The longest body that is read, in bytes. -/
def longestBody : Nat := 2097152

/-- How the service is exposed. -/
structure Policy where
  /-- the longest body that may be announced, if there is a limit -/
  announcedLimit : Option Nat
  /-- pages of other origins may use the service -/
  crossOrigin : Bool

namespace Policy

/-- Neither limits nor permissions. -/
def plain : Policy := ⟨none, false⟩

/-- At most one mebibyte may be announced, and pages of any origin may use the service. -/
def guarded : Policy := ⟨some 1048576, true⟩

end Policy

/-- The length of the body as announced, if it is announced by a number. -/
def Request.announcedLength? (r : Request) : Option Nat :=
  (r.header? "content-length").bind (Text.Decimal.readBounded Text.Decimal.largest64)

/-- The longest body that is read of this request. Of a guarded service, no more is read than was
announced. -/
def bodyAllowance (policy : Policy) (r : Request) : Nat :=
  match policy.announcedLimit with
  | none => longestBody
  | some limit => min longestBody (min limit (r.announcedLength?.getD limit))

/-- The request announces too long a body. -/
def announcesTooMuch (policy : Policy) (r : Request) : Bool :=
  match policy.announcedLimit, r.announcedLength? with
  | some limit, some n => limit < n
  | _, _ => false

/-- What is to be done about a request. -/
inductive Decision
  /-- this is the response -/
  | settled (response : Response)
  /-- an operation has to be performed -/
  | perform (op : Operation)

/-- The identifier in the path is not a text. Of what the response says this is the first part. What
follows behind a colon, which is what was wrong with the identifier, is left out here. -/
def badPath : Response := .plain 400 "Invalid URL"

/-- The body is of the wrong type. -/
def wrongMediaType : Response :=
  .plain 415 "Expected request with `Content-Type: application/json`"

/-- The body is longer than what is read. -/
def bodyTooLong : Response :=
  .plain 413 "Failed to buffer the request body: length limit exceeded"

/-- The body is longer than what may be announced. -/
def announcedTooLong : Response := .plain 413 "length limit exceeded"

/-- The body is refused. Of what the response says this is the first part. What follows behind a colon,
which is what was wrong with the body and where, is left out here. -/
def refusedBody : Json.Refusal → Response
  | .malformed => .plain 400 "Failed to parse the request body as JSON"
  | .mismatched => .plain 422 "Failed to deserialize the JSON body into the target type"

/-- The service is up. -/
def upAndRunning : Response :=
  .ofJson 200 (.object [("status", .text "ok"), ("version", .text "0.1.0")])

/-- Decodes the body of a request into fields. Its type is looked at first, then its length. -/
def readBody (allowance : Nat) (r : Request) (fields : List Json.Field) :
    Except Response (Json.Values fields) :=
  if !((r.header? "content-type").any MediaType.isJson) then .error wrongMediaType
  else if allowance < r.body.length then .error bodyTooLong
  else
    match Json.decode fields r.body with
    | .error refusal => .error (refusedBody refusal)
    | .ok (values, _) => .ok values

/-- What an action makes of a request, given the identifier in its path. -/
def Action.decide (allowance : Nat) (r : Request) (id : String) : Action → Decision
  | .health => .settled upAndRunning
  | .perform op => .perform (op id)
  | .submit fields op =>
    match readBody allowance r fields with
    | .error response => .settled response
    | .ok values =>
      match op id values with
      | .error problem => .settled problem.response
      | .ok op => .perform op

/-- The identifier meant by the part of the path that stands for it; empty if there is none. -/
def decodeId? : Option (List Char) → Option String
  | none => some ""
  | some segment => Percent.decode? (String.ofList segment)

/-- What a route makes of a request. -/
def Route.decide (route : Route) (allowance : Nat) (r : Request) (id : Option (List Char)) :
    Decision :=
  match route.action? r.method with
  | none => .settled (.bare 405)
  | some action =>
    match decodeId? id with
    | none => .settled badPath
    | some id => action.decide allowance r id

/-- The request asks only which requests are permitted. -/
def isPreflight (policy : Policy) (r : Request) : Bool :=
  policy.crossOrigin && r.method == "OPTIONS"

/-- The permissions told to a request that asks for them. -/
def permissions : Response :=
  ((Response.bare 200).withHeader "access-control-allow-methods" "*").withHeader
    "access-control-allow-headers" "*"

/-- What is to be done about a request. -/
def decide (policy : Policy) (r : Request) : Decision :=
  if isPreflight policy r then .settled permissions
  else if announcesTooMuch policy r then .settled announcedTooLong
  else
    match findRoute? r.path with
    | none => .settled (Problem.noRoute r.path).response
    | some (route, id) => route.decide (bodyAllowance policy r) r id

/-- The methods to tell a client that used another one on a route. -/
def otherMethods? (r : Request) : Option String :=
  (findRoute? r.path).bind fun (route, _) =>
    match route.action? r.method with
    | none => some route.allowed
    | some _ => none

/-- The request asks for the head of what a route would answer. -/
def wantsHeadOnly (r : Request) : Bool :=
  r.method == "HEAD" && (findRoute? r.path).any fun (route, _) => (route.action? r.method).isSome

/-- The response as it is sent: with the permission for pages of other origins, with the methods of the
route if it does not have the one used, and without content if only the head of an answer was asked
for. -/
def finish (policy : Policy) (r : Request) (response : Response) : Response :=
  let response :=
    if policy.crossOrigin then response.withHeader "access-control-allow-origin" "*" else response
  let response :=
    match otherMethods? r with
    | none => response
    | some methods => response.withHeader "allow" methods
  if wantsHeadOnly r then response.withoutContent else response

/-- The operation puts a new record on record. -/
def isCreation : Operation → Bool
  | .createLegalEntity .. | .createFleet .. | .createVehicle .. | .createDriver ..
  | .createContract .. | .assignVehicle .. => true
  | _ => false

/-- The verdict on the license of a driver. -/
def verdictJson (driverId : String) (v : Verdict) : Json :=
  .object [("driver_id", .text driverId), ("verdict", .text v.name), ("valid", .bool v.isValid)]

/-- The driver whose license an operation asks about. -/
def subject : Operation → String
  | .validateLicense driverId => driverId
  | _ => ""

/-- The response to the result of an operation. -/
def respond (op : Operation) : Except Failure Outcome → Response
  | .error f => (Problem.failure f).response
  | .ok (.record kind r) =>
    .ofJson (if isCreation op then 201 else 200) (Representation.forClients kind r)
  | .ok (.records kind rs) => .ofJson 200 (.list (rs.map (Representation.forClients kind)))
  | .ok (.verdict v) => .ofJson 200 (verdictJson (subject op) v)
  | .ok .nothing => .bare 204

/-- Serves a request at a desk. -/
def serve {σ : Type} (policy : Policy) (host : Host σ) (r : Request) (s : σ) : Response × σ :=
  match decide policy r with
  | .settled response => (finish policy r response, s)
  | .perform op =>
    match op.program.run host s with
    | (result, s) => (finish policy r (respond op result), s)

end LeaseDesk.Http
