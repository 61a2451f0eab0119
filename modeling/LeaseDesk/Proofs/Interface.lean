import LeaseDesk.Proofs.Paths

/-!
# What requests ask for

The interface of the service as its clients see it. `Request.Names` lists the requests that name an
operation, by method, path and body, and `Request.Settles` lists the reasons for which a request is
answered without one, with the answers. Both speak of the request alone and not of the order in
which anything about it is looked at.
-/

namespace LeaseDesk.Http

open Json (Field Values)
open Storage (Listing)

/-! ## Requests -/

namespace Request

/-- The request only wants to read something. -/
def Reads (r : Request) : Prop := r.method = "GET" ∨ r.method = "HEAD"

/-- The method, where asking for the head of an answer counts as asking for the answer. -/
def verb (r : Request) : String := if r.method = "HEAD" then "GET" else r.method

/-- The path of the request follows a pattern, and this identifier is meant by the segment in its
place; it is empty if there is no place for one. -/
def At (r : Request) (pattern : List Step) (id : String) : Prop :=
  ∃ segment, Follows r.path pattern segment ∧ decodeId? segment = some id

/-- The body of the request is JSON. -/
def IsJson (r : Request) : Prop := (r.header? "content-type").any MediaType.isJson

/-- The body of the request is JSON, not too long, and carries these values. -/
structure Carries (r : Request) (fields : List Field) (values : Values fields) : Prop where
  json : r.IsJson
  short : r.body.length ≤ longestBody
  decoded : ∃ rest, Json.decode fields r.body = .ok (values, rest)

/-- The body of the request carries no values, and this is the response to it. -/
inductive Miscarries (r : Request) (fields : List Field) : Response → Prop
  | type (other : ¬ r.IsJson) : Miscarries r fields wrongMediaType
  | length (json : r.IsJson) (long : longestBody < r.body.length) :
      Miscarries r fields bodyTooLong
  | refused {refusal : Json.Refusal} (json : r.IsJson) (short : r.body.length ≤ longestBody)
      (decoded : Json.decode fields r.body = .error refusal) :
      Miscarries r fields (refusedBody refusal)

end Request

/-! ## The places of the interface -/

/-- The word for the records of a kind in paths. -/
def collection : Kind → String
  | .legalEntity => "legal-entities"
  | .fleet => "fleets"
  | .vehicle => "vehicles"
  | .driver => "drivers"
  | .contract => "contracts"
  | .assignment => "assignments"

/-- The place of a record. -/
def itemPattern (kind : Kind) : List Step := [.word (collection kind), .id]

/-- A place below that of a record. -/
def belowPattern (kind : Kind) (word : String) : List Step :=
  [.word (collection kind), .id, .word word]

/-- The place of a list. -/
def listPattern : Listing → List Step
  | .legalEntities => [.word "legal-entities"]
  | .drivers => [.word "drivers"]
  | .fleetsOf _ => belowPattern .legalEntity "fleets"
  | .vehiclesOf _ => belowPattern .fleet "vehicles"
  | .contractsOf _ => belowPattern .driver "contracts"
  | .assignmentsOf _ => belowPattern .contract "assignments"

/-- The identifier in the place of a list. -/
def listOwner : Listing → String
  | .legalEntities | .drivers => ""
  | .fleetsOf id | .vehiclesOf id | .contractsOf id | .assignmentsOf id => id

/-- The fields of a legal entity. -/
abbrev legalEntityForm : List Field := [.text "name", .text "tax_id"]

/-- The fields of a fleet. -/
abbrev fleetForm : List Field := [.text "name"]

/-- The fields of a vehicle. The license plate may be left out. -/
abbrev vehicleForm : List Field :=
  [.text "make", .text "model", .integer "year", .optionalText "license_plate"]

/-- The fields of a driver. -/
abbrev driverForm : List Field := [.text "first_name", .text "last_name", .text "license_number"]

/-- The fields of a contract. -/
abbrev contractForm : List Field :=
  [.text "legal_entity_id", .text "fleet_id", .text "start_date", .text "end_date"]

/-- The fields of a termination. -/
abbrev terminationForm : List Field := [.text "terminated_by"]

/-- The fields of an assignment. -/
abbrev assignmentForm : List Field := [.text "vehicle_id"]

/-- The places to which forms are posted. -/
def forms : List (List Step × List Field) :=
  [([.word "legal-entities"], legalEntityForm),
    (belowPattern .legalEntity "fleets", fleetForm),
    (belowPattern .fleet "vehicles", vehicleForm),
    ([.word "drivers"], driverForm),
    (belowPattern .driver "contracts", contractForm),
    (belowPattern .contract "terminate", terminationForm),
    (belowPattern .contract "assignments", assignmentForm)]

/-! ## The interface -/

namespace Request

/-- **The requests that name an operation.** -/
inductive Names (r : Request) : Operation → Prop
  | get {kind : Kind} {id : String} (reads : r.Reads) (place : r.At (itemPattern kind) id) :
      Names r (.get kind id)
  | delete {kind : Kind} {id : String} (method : r.method = "DELETE")
      (place : r.At (itemPattern kind) id) : Names r (.delete kind id)
  | undelete {kind : Kind} {id : String} (method : r.method = "POST")
      (place : r.At (belowPattern kind "undelete") id) : Names r (.undelete kind id)
  | list {listing : Listing} (reads : r.Reads)
      (place : r.At (listPattern listing) (listOwner listing)) : Names r (.list listing)
  | createLegalEntity {name taxId : String} (method : r.method = "POST")
      (place : r.At [.word "legal-entities"] "")
      (body : r.Carries legalEntityForm (name, taxId, ())) :
      Names r (.createLegalEntity name taxId)
  | createFleet {id name : String} (method : r.method = "POST")
      (place : r.At (belowPattern .legalEntity "fleets") id)
      (body : r.Carries fleetForm (name, ())) :
      Names r (.createFleet id name)
  | createVehicle {id make model licensePlate : String} {year : Int} (method : r.method = "POST")
      (place : r.At (belowPattern .fleet "vehicles") id)
      (body : r.Carries vehicleForm (make, model, year, licensePlate, ())) :
      Names r (.createVehicle id make model year licensePlate)
  | createDriver {firstName lastName licenseNumber : String} (method : r.method = "POST")
      (place : r.At [.word "drivers"] "")
      (body : r.Carries driverForm (firstName, lastName, licenseNumber, ())) :
      Names r (.createDriver firstName lastName licenseNumber)
  | createContract {id legalEntityId fleetId first last : String} {startDate endDate : Date}
      (method : r.method = "POST") (place : r.At (belowPattern .driver "contracts") id)
      (body : r.Carries contractForm (legalEntityId, fleetId, first, last, ()))
      (first_date : Date.ofText? first = some startDate)
      (last_date : Date.ofText? last = some endDate) :
      Names r (.createContract id legalEntityId fleetId startDate endDate)
  | terminateContract {id terminatedBy : String} (method : r.method = "POST")
      (place : r.At (belowPattern .contract "terminate") id)
      (body : r.Carries terminationForm (terminatedBy, ())) :
      Names r (.terminateContract id terminatedBy)
  | assignVehicle {id vehicleId : String} (method : r.method = "POST")
      (place : r.At (belowPattern .contract "assignments") id)
      (body : r.Carries assignmentForm (vehicleId, ())) : Names r (.assignVehicle id vehicleId)
  | returnVehicle {id : String} (method : r.method = "POST")
      (place : r.At (belowPattern .assignment "return") id) : Names r (.returnVehicle id)
  | validateLicense {id : String} (method : r.method = "POST")
      (place : r.At (belowPattern .driver "validate") id) : Names r (.validateLicense id)

/-- The response, without its content if only the head was asked for. -/
def cut (r : Request) (response : Response) : Response :=
  if r.method = "HEAD" then response.withoutContent else response

/-- **The requests that are answered without an operation**, and the answers. -/
inductive Settles (r : Request) : Response → Prop
  | health (reads : r.Reads) (place : r.At [.word "health"] "") : Settles r (r.cut upAndRunning)
  | noRoute (place : ∀ route ∈ routes, ∀ id, ¬ Follows r.path route.pattern id) :
      Settles r (Problem.noRoute r.path).response
  | wrongMethod {route : Route} {id : Option (List Char)} (mem : route ∈ routes)
      (place : Follows r.path route.pattern id) (method : r.verb ∉ route.actions.map Prod.fst) :
      Settles r ((Response.bare 405).withHeader "allow" route.allowed)
  | badPath {route : Route} {id : Option (List Char)} (mem : route ∈ routes)
      (place : Follows r.path route.pattern id) (method : r.verb ∈ route.actions.map Prod.fst)
      (undecodable : decodeId? id = none) : Settles r (r.cut badPath)
  | badBody {pattern : List Step} {fields : List Field} {id : String} {response : Response}
      (method : r.method = "POST") (form : (pattern, fields) ∈ forms) (place : r.At pattern id)
      (body : r.Miscarries fields response) : Settles r response
  | badFirstDate {id legalEntityId fleetId first last : String} (method : r.method = "POST")
      (place : r.At (belowPattern .driver "contracts") id)
      (body : r.Carries contractForm (legalEntityId, fleetId, first, last, ()))
      (first_date : Date.ofText? first = none) :
      Settles r (Problem.notADate "start_date").response
  | badLastDate {id legalEntityId fleetId first last : String} (method : r.method = "POST")
      (place : r.At (belowPattern .driver "contracts") id)
      (body : r.Carries contractForm (legalEntityId, fleetId, first, last, ()))
      (first_date : Date.ofText? first ≠ none) (last_date : Date.ofText? last = none) :
      Settles r (Problem.notADate "end_date").response

end Request

end LeaseDesk.Http
