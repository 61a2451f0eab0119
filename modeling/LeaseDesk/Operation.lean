import LeaseDesk.Procedure

/-!
# Operations

An operation is a request to the desk as data: the name of a procedure with its arguments. Whole
histories of the desk are lists of operations.
-/

namespace LeaseDesk

/-- What the desk can be asked to do. -/
inductive Operation
  | createLegalEntity (name taxId : String)
  | createFleet (legalEntityId name : String)
  | createVehicle (fleetId make model : String) (year : Int) (licensePlate : String)
  | createDriver (firstName lastName licenseNumber : String)
  | createContract (driverId legalEntityId fleetId : String) (startDate endDate : Date)
  | terminateContract (id terminatedBy : String)
  | assignVehicle (contractId vehicleId : String)
  | returnVehicle (id : String)
  | validateLicense (driverId : String)
  | get (kind : Kind) (id : String)
  | list (listing : Storage.Listing)
  | delete (kind : Kind) (id : String)
  | undelete (kind : Kind) (id : String)
deriving DecidableEq

/-- What an operation results in. -/
inductive Outcome
  /-- a record -/
  | record (kind : Kind) (r : kind.Record)
  /-- a list of records -/
  | records (kind : Kind) (rs : List kind.Record)
  /-- a verdict on a license -/
  | verdict (v : Verdict)
  /-- nothing that needs saying -/
  | nothing

/-- The program of an operation. -/
def Operation.program : Operation → Program Outcome
  | .createLegalEntity name taxId => do
    return .record _ (← Procedure.createLegalEntity name taxId)
  | .createFleet legalEntityId name => do
    return .record _ (← Procedure.createFleet legalEntityId name)
  | .createVehicle fleetId make model year licensePlate => do
    return .record _ (← Procedure.createVehicle fleetId make model year licensePlate)
  | .createDriver firstName lastName licenseNumber => do
    return .record _ (← Procedure.createDriver firstName lastName licenseNumber)
  | .createContract driverId legalEntityId fleetId startDate endDate => do
    return .record _ (← Procedure.createContract driverId legalEntityId fleetId startDate endDate)
  | .terminateContract id terminatedBy => do
    return .record _ (← Procedure.terminateContract id terminatedBy)
  | .assignVehicle contractId vehicleId => do
    return .record _ (← Procedure.assignVehicle contractId vehicleId)
  | .returnVehicle id => do return .record _ (← Procedure.returnVehicle id)
  | .validateLicense driverId => do return .verdict (← Procedure.validateLicense driverId)
  | .get kind id => do return .record kind (← Procedure.get kind id)
  | .list listing => do return .records _ (← Procedure.list listing)
  | .delete kind id => do
    Procedure.delete kind id
    return .nothing
  | .undelete kind id => do
    Procedure.undelete kind id
    return .nothing

end LeaseDesk
