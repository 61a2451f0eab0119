import LeaseDesk.Calendar.Format
import LeaseDesk.Http.Problem
import LeaseDesk.Json.Decode
import LeaseDesk.Operation
import LeaseDesk.Text.Basic

/-!
# Routes

A route is a pattern of path segments with an action for each of its methods. `routes` is the whole
interface of the service: what it can be asked for, where, and which operation that is. A segment of the
pattern is either a word, which has to stand there exactly, or the place of an identifier. Paths are
matched before anything in them is decoded.
-/

namespace LeaseDesk.Http

open Json (Field Values)

/-- A segment of a pattern. -/
inductive Step
  /-- this word -/
  | word (w : String)
  /-- any identifier -/
  | id

/-- What is done at a route. -/
inductive Action
  /-- say that the service is up -/
  | health
  /-- perform an operation, given the identifier in the path -/
  | perform (op : String → Operation)
  /-- perform an operation, given the identifier in the path and the fields of the body -/
  | submit (fields : List Field) (op : String → Values fields → Except Problem Operation)

/-- A pattern and the actions of its methods. -/
structure Route where
  /-- the pattern -/
  pattern : List Step
  /-- the methods with their actions -/
  actions : List (String × Action)

/-- Reads a field of the body that has to be a date. -/
def readDate (field value : String) : Except Problem Date :=
  match Date.ofText? value with
  | none => .error (.notADate field)
  | some d => .ok d

/-- What is done with the fields of a new legal entity. -/
def submitLegalEntity : Action :=
  .submit [.text "name", .text "tax_id"] fun _ (name, taxId, ()) =>
    .ok (.createLegalEntity name taxId)

/-- What is done with the fields of a new fleet of a legal entity. -/
def submitFleet : Action :=
  .submit [.text "name"] fun id (name, ()) => .ok (.createFleet id name)

/-- What is done with the fields of a new vehicle of a fleet. -/
def submitVehicle : Action :=
  .submit [.text "make", .text "model", .integer "year", .optionalText "license_plate"]
    fun id (make, model, year, licensePlate, ()) =>
      .ok (.createVehicle id make model year licensePlate)

/-- What is done with the fields of a new driver. -/
def submitDriver : Action :=
  .submit [.text "first_name", .text "last_name", .text "license_number"]
    fun _ (firstName, lastName, licenseNumber, ()) =>
      .ok (.createDriver firstName lastName licenseNumber)

/-- What is done with the fields of a new contract of a driver. -/
def submitContract : Action :=
  .submit [.text "legal_entity_id", .text "fleet_id", .text "start_date", .text "end_date"]
    fun id (legalEntityId, fleetId, startDate, endDate, ()) => do
      let startDate ← readDate "start_date" startDate
      let endDate ← readDate "end_date" endDate
      return .createContract id legalEntityId fleetId startDate endDate

/-- What is done with the fields of a termination. -/
def submitTermination : Action :=
  .submit [.text "terminated_by"] fun id (terminatedBy, ()) =>
    .ok (.terminateContract id terminatedBy)

/-- What is done with the fields of a new assignment under a contract. -/
def submitAssignment : Action :=
  .submit [.text "vehicle_id"] fun id (vehicleId, ()) => .ok (.assignVehicle id vehicleId)

/-- The routes that every kind of record has: reading or deleting one, and restoring it. -/
def itemRoutes (word : String) (kind : Kind) : List Route :=
  [⟨[.word word, .id], [("GET", .perform (.get kind)), ("DELETE", .perform (.delete kind))]⟩,
    ⟨[.word word, .id, .word "undelete"], [("POST", .perform (.undelete kind))]⟩]

/-- A route for a list and for adding to it. -/
def listRoute (pattern : List Step) (listing : String → Storage.Listing) (add : Action) : Route :=
  ⟨pattern, [("GET", .perform fun id => .list (listing id)), ("POST", add)]⟩

/-- The routes of the service. -/
def routes : List Route :=
  ⟨[.word "health"], [("GET", .health)]⟩ ::
  listRoute [.word "legal-entities"] (fun _ => .legalEntities) submitLegalEntity ::
  listRoute [.word "legal-entities", .id, .word "fleets"] .fleetsOf submitFleet ::
  listRoute [.word "fleets", .id, .word "vehicles"] .vehiclesOf submitVehicle ::
  listRoute [.word "drivers"] (fun _ => .drivers) submitDriver ::
  ⟨[.word "drivers", .id, .word "validate"], [("POST", .perform .validateLicense)]⟩ ::
  listRoute [.word "drivers", .id, .word "contracts"] .contractsOf submitContract ::
  ⟨[.word "contracts", .id, .word "terminate"], [("POST", submitTermination)]⟩ ::
  listRoute [.word "contracts", .id, .word "assignments"] .assignmentsOf submitAssignment ::
  ⟨[.word "assignments", .id, .word "return"], [("POST", .perform .returnVehicle)]⟩ ::
  (itemRoutes "legal-entities" .legalEntity ++ itemRoutes "fleets" .fleet
    ++ itemRoutes "vehicles" .vehicle ++ itemRoutes "drivers" .driver
    ++ itemRoutes "contracts" .contract ++ itemRoutes "assignments" .assignment)

/-- The segments of a path, which begins with a slash. -/
def segments? : List Char → Option (List (List Char))
  | '/' :: rest => some (Text.splitWhere (· == '/') rest)
  | _ => none

/-- Matches segments with a pattern: the identifier among them, if the pattern has a place for one. At
the end of a path an identifier may not be empty. -/
def matchSteps? : List Step → List (List Char) → Option (Option (List Char))
  | [], [] => some none
  | .word w :: steps, segment :: segments =>
    if w.toList == segment then matchSteps? steps segments else none
  | .id :: steps, segment :: segments =>
    if segments.isEmpty && segment.isEmpty then none
    else (matchSteps? steps segments).map fun _ => some segment
  | _, _ => none

/-- The route of a path, and the identifier in the path as it was sent. -/
def findRoute? (path : List Char) : Option (Route × Option (List Char)) :=
  (segments? path).bind fun segments =>
    routes.findSome? fun route =>
      (matchSteps? route.pattern segments).map fun id => (route, id)

/-- The action of a method. Whatever can be read by `GET` can be asked about by `HEAD`. -/
def Route.action? (route : Route) (method : String) : Option Action :=
  route.actions.lookup (if method == "HEAD" then "GET" else method)

/-- The methods of a route as they are told to clients. -/
def Route.allowed (route : Route) : String :=
  String.intercalate "," (route.actions.map fun (method, _) =>
    if method == "GET" then "GET,HEAD" else method)

end LeaseDesk.Http
