import LeaseDesk.Failure
import LeaseDesk.Http.Message

/-!
# Problems as responses

A request runs into a problem either because an operation fails or before any operation is tried. Each
problem has a status and a title; details are added unless they are not for the eyes of clients.
-/

namespace LeaseDesk.Http

/-- What a request runs into. -/
inductive Problem
  /-- an operation failed -/
  | failure (f : Failure)
  /-- the request cannot be understood -/
  | badRequest (reason : String)
  /-- there is nothing at the path -/
  | notFound (what : String)
deriving DecidableEq

namespace Problem

/-- The problem in words. -/
def message : Problem → String
  | failure f => f.message
  | badRequest reason => "Invalid request: " ++ reason
  | notFound what => "Not found: " ++ what

/-- The status and the title of a failure. -/
def heading : Failure → Nat × String
  | .invalidInput _ => (400, "Invalid input")
  | .notFound _ => (404, "Not found")
  | .conflict _ | .alreadyDeleted _ | .driverAlreadyAssigned | .driverHasContracts
  | .driverHasAssignments => (409, "Conflict")
  | .contractNotActive => (422, "Contract not active")
  | .licenseRejected _ => (422, "License validation failed")
  | .registerUnavailable _ => (503, "Validation service unavailable")
  | .database _ | .internal _ => (500, "Internal server error")

/-- A response with a title and perhaps details. -/
def describe (status : Nat) (title : String) (details : Option String) : Response :=
  .ofJson status (.object (("error", .text title) ::
    match details with
    | none => []
    | some s => [("details", .text s)]))

/-- The response to a problem. -/
def response : Problem → Response
  | failure f =>
    let (status, title) := heading f
    describe status title (if f.isExposable then some f.message else none)
  | badRequest reason => describe 400 "Bad request" (some reason)
  | notFound what => describe 404 "Not found" (some what)

/-- A field of the body is not a date. -/
def notADate (field : String) : Problem :=
  .badRequest (field ++ " must be a date in YYYY-MM-DD format")

/-- No route has the path. -/
def noRoute (path : List Char) : Problem :=
  .notFound ("No route for " ++ String.ofList path)

end Problem

end LeaseDesk.Http
