import LeaseDesk.License.Verdict
import LeaseDesk.Record

/-!
# Why an operation fails

`Failure` lists the ways in which an operation can fail, and `Failure.message` is the only place where
they are put into words. The functions after it name the particular failures that the operations
distinguish. Two ways, a fault of the database and a fault inside the service, are not for the eyes of
clients: `Failure.isExposable` tells them apart from the others.
-/

namespace LeaseDesk

/-- The ways in which an operation fails. -/
inductive Failure
  /-- an argument is not acceptable -/
  | invalidInput (reason : String)
  /-- a record does not exist, or is deleted -/
  | notFound (what : String)
  /-- the operation contradicts what is on record -/
  | conflict (reason : String)
  /-- the record to delete is deleted already -/
  | alreadyDeleted (what : String)
  /-- no vehicle is handed out under the contract now -/
  | contractNotActive
  /-- the driver has a vehicle of the fleet already -/
  | driverAlreadyAssigned
  /-- contracts stand in the way of deleting the driver -/
  | driverHasContracts
  /-- vehicles not returned stand in the way of deleting the driver -/
  | driverHasAssignments
  /-- the license register cannot be asked -/
  | registerUnavailable (reason : String)
  /-- the license register does not confirm the license -/
  | licenseRejected (verdict : Verdict)
  /-- the database failed -/
  | database (reason : String)
  /-- something inside the service failed -/
  | internal (reason : String)
deriving DecidableEq

namespace Failure

/-- The failure in words. -/
def message : Failure → String
  | invalidInput reason => "Invalid input: " ++ reason
  | notFound what => "Entity not found: " ++ what
  | conflict reason => "Conflict: " ++ reason
  | alreadyDeleted what => "Entity is already deleted: " ++ what
  | contractNotActive => "Contract is not active"
  | driverAlreadyAssigned => "Driver already has an active vehicle assignment for this fleet"
  | driverHasContracts => "Driver has active contracts; terminate them before deletion"
  | driverHasAssignments =>
    "Driver has active vehicle assignments; return vehicles before deletion"
  | registerUnavailable reason => "Driver license validation service not available: " ++ reason
  | licenseRejected verdict => "Driver license validation failed: " ++ verdict.name
  | database reason => "Database error: " ++ reason
  | internal reason => "Internal error: " ++ reason

/-- The words may be shown to clients. -/
def isExposable : Failure → Bool
  | database _ | internal _ => false
  | _ => true

/-- A field that has to be given was not. -/
def required (field : String) : Failure :=
  .invalidInput (field ++ " is required")

/-- There is no record of the kind under the identifier, or none that is not deleted. -/
def missing (kind : Kind) (id : String) : Failure :=
  .notFound (kind.mention id ++ " not found")

/-- The record to delete has a tombstone. -/
def buried (kind : Kind) (id : String) : Failure :=
  .alreadyDeleted (kind.mention id ++ " is already deleted")

/-- No vehicle was built in the year. -/
def implausibleYear : Failure :=
  .invalidInput "year must be between 1900 and 2100"

/-- A contract names no driver, no legal entity or no fleet. -/
def partiesRequired : Failure :=
  .invalidInput "driver_id, legal_entity_id, and fleet_id are required"

/-- A contract ends on or before its first day. -/
def emptyPeriod : Failure :=
  .invalidInput "end_date must be after start_date"

/-- Another contract of the same parties about the same fleet is in the way. -/
def overlapping (contractId : String) : Failure :=
  .conflict ("contract dates overlap with existing contract " ++ contractId)

/-- The contract is terminated already. -/
def alreadyTerminated : Failure :=
  .conflict "contract is already terminated"

/-- An assignment names no contract or no vehicle. -/
def assignmentPartiesRequired : Failure :=
  .invalidInput "contract_id and vehicle_id are required"

/-- The vehicle is not of the fleet that the contract is about. -/
def foreignVehicle : Failure :=
  .invalidInput "vehicle must belong to the contract's fleet"

/-- The vehicle is returned already. -/
def alreadyReturned : Failure :=
  .conflict "vehicle already returned"

/-- No identifier for a new record was to be had. -/
def emptyId : Failure :=
  .internal "id generator returned empty ID"

/-- Nobody has said where the license register is. -/
def registerUnconfigured : Failure :=
  .registerUnavailable "license validator is not configured"

end Failure

end LeaseDesk
