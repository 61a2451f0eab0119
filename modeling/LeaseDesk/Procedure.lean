import LeaseDesk.Program
import LeaseDesk.Rules
import LeaseDesk.Text.Basic

/-!
# The procedures of the desk

Reading, listing, deleting and restoring are the same for all kinds of records, but for two things: a
list is asked for by naming the record it belongs to, and a driver is deleted only if neither contracts
nor vehicles stand in the way. Creating differs from kind to kind. The order of the checks in a procedure
decides which of several failures is reported.

Arguments are checked before anything is asked for, references to other records before anything is
written, and the identifier of a new record is drawn last, so that a failing procedure leaves no trace.
-/

namespace LeaseDesk.Procedure

/-! ## Checks -/

/-- An identifier has to be given. It is used as it stands. -/
def requireId (field id : String) : Program Unit :=
  Program.require (!id.isEmpty) (.required field)

/-- A text has to be given. It is used without the blanks around it. -/
def requireText (field text : String) : Program String := do
  let trimmed := Text.trim text
  Program.require (!trimmed.isEmpty) (.required field)
  return trimmed

/-- A live record has to exist under the identifier. -/
def requireRecord (kind : Kind) (id : String) : Program kind.Record := do
  match ← Program.call (.find kind id) with
  | some r => return r
  | none => .fail (.missing kind id)

/-- Draws an identifier for a new record, which may not be empty. -/
def freshId : Program String :=
  .ask .freshId fun id => do
    Program.require (!id.isEmpty) .emptyId
    return id

/-- Keeps a new record under a fresh identifier. -/
def enter (kind : Kind) (data : kind.Data) : Program kind.Record := do
  let id ← freshId
  let r : kind.Record := .fresh id data
  Program.call (.save kind r)
  return r

/-! ## Procedures -/

/-- Puts a legal entity on record. -/
def createLegalEntity (name taxId : String) : Program Kind.legalEntity.Record := do
  let name ← requireText "name" name
  let taxId ← requireText "tax_id" taxId
  enter .legalEntity ⟨name, taxId⟩

/-- Puts a fleet of a legal entity on record. -/
def createFleet (legalEntityId name : String) : Program Kind.fleet.Record := do
  requireId "legal_entity_id" legalEntityId
  let name ← requireText "name" name
  let _ ← requireRecord .legalEntity legalEntityId
  enter .fleet ⟨legalEntityId, name⟩

/-- Puts a vehicle of a fleet on record. The license plate may be left empty. -/
def createVehicle (fleetId make model : String) (year : Int) (licensePlate : String) :
    Program Kind.vehicle.Record := do
  requireId "fleet_id" fleetId
  let make ← requireText "make" make
  let model ← requireText "model" model
  Program.require (Vehicle.isPlausibleYear year) .implausibleYear
  let _ ← requireRecord .fleet fleetId
  enter .vehicle ⟨fleetId, make, model, year, Text.trim licensePlate⟩

/-- Puts a driver on record whose license the register confirms. -/
def createDriver (firstName lastName licenseNumber : String) : Program Kind.driver.Record := do
  let firstName ← requireText "first_name" firstName
  let lastName ← requireText "last_name" lastName
  let licenseNumber ← requireText "license_number" licenseNumber
  let driver : Driver := ⟨firstName, lastName, licenseNumber⟩
  let verdict ← Program.verdict driver
  Program.require verdict.isValid (.licenseRejected verdict)
  enter .driver driver

/-- Puts a contract on record, unless it overlaps another one of the same parties about the same
fleet. -/
def createContract (driverId legalEntityId fleetId : String) (startDate endDate : Date) :
    Program Kind.contract.Record := do
  Program.require (!(driverId.isEmpty || legalEntityId.isEmpty || fleetId.isEmpty)) .partiesRequired
  Program.require (decide (startDate < endDate)) .emptyPeriod
  let _ ← requireRecord .driver driverId
  let _ ← requireRecord .legalEntity legalEntityId
  let _ ← requireRecord .fleet fleetId
  let contracts ← Program.call (.list (.contractsOf driverId))
  let inTheWay := contracts.find? fun r =>
    r.data.covers driverId legalEntityId fleetId && r.data.overlaps startDate endDate
  match inTheWay with
  | some r => .fail (.overlapping r.id)
  | none => enter .contract ⟨driverId, legalEntityId, fleetId, startDate, endDate, none, none⟩

/-- Terminates a contract now. A contract is terminated once at most. -/
def terminateContract (id terminatedBy : String) : Program Kind.contract.Record := do
  requireId "id" id
  let terminatedBy ← requireText "terminated_by" terminatedBy
  let r ← requireRecord .contract id
  Program.require (!r.data.isTerminated) .alreadyTerminated
  let now ← Program.clock
  let c : Contract := { r.data with terminatedAt := some now, terminatedBy := some terminatedBy }
  let r : Kind.contract.Record := ⟨r.id, c, r.deletedAt⟩
  Program.call (.save .contract r)
  return r

/-- Hands a vehicle out under a contract now, to the driver of the contract. -/
def assignVehicle (contractId vehicleId : String) : Program Kind.assignment.Record := do
  Program.require (!(contractId.isEmpty || vehicleId.isEmpty)) .assignmentPartiesRequired
  let contract ← requireRecord .contract contractId
  let vehicle ← requireRecord .vehicle vehicleId
  Program.require (vehicle.data.fleetId == contract.data.fleetId) .foreignVehicle
  let now ← Program.clock
  Program.require (contract.data.isActiveAt now) .contractNotActive
  let held ← Program.call (.activeInFleet contract.data.driverId vehicle.data.fleetId)
  Program.require held.isNone .driverAlreadyAssigned
  enter .assignment ⟨contract.data.driverId, vehicleId, contractId, now, none⟩

/-- Takes a vehicle back now. A vehicle is returned once at most. -/
def returnVehicle (id : String) : Program Kind.assignment.Record := do
  requireId "id" id
  let r ← requireRecord .assignment id
  Program.require (!r.data.isReturned) .alreadyReturned
  let now ← Program.clock
  let r : Kind.assignment.Record := ⟨r.id, { r.data with endTime := some now }, r.deletedAt⟩
  Program.call (.save .assignment r)
  return r

/-- Asks the register again about the license of a driver on record. -/
def validateLicense (driverId : String) : Program Verdict := do
  requireId "id" driverId
  let r ← requireRecord .driver driverId
  Program.verdict r.data

/-- Reads a record. -/
def get (kind : Kind) (id : String) : Program kind.Record := do
  requireId "id" id
  requireRecord kind id

/-- The argument that names the record a list belongs to, if it belongs to one. -/
def listArgument : Storage.Listing → Option (String × String)
  | .legalEntities | .drivers => none
  | .fleetsOf id => some ("legal_entity_id", id)
  | .vehiclesOf id => some ("fleet_id", id)
  | .contractsOf id => some ("driver_id", id)
  | .assignmentsOf id => some ("contract_id", id)

/-- Reads a list of records. The record the list belongs to need not exist. -/
def list (listing : Storage.Listing) : Program (List listing.kind.Record) := do
  match listArgument listing with
  | some (field, id) => requireId field id
  | none => pure ()
  Program.call (.list listing)

/-- Nothing stands in the way of deleting the driver: no contract that is neither terminated nor over,
and no vehicle that is not returned. -/
def requireNoObligations (driverId : String) : Program Unit := do
  let now ← Program.clock
  let contracts ← Program.call (.list (.contractsOf driverId))
  Program.require (!contracts.any fun r => r.data.blocksDriverDeletion now) .driverHasContracts
  let assignments ← Program.call (.activeAssignments driverId)
  Program.require assignments.isEmpty .driverHasAssignments

/-- Deletes a record by a tombstone. -/
def delete (kind : Kind) (id : String) : Program Unit := do
  requireId "id" id
  if kind = .driver then requireNoObligations id
  Program.call (.bury kind id)

/-- Takes the tombstone off a record. -/
def undelete (kind : Kind) (id : String) : Program Unit := do
  requireId "id" id
  Program.call (.restore kind id)

end LeaseDesk.Procedure
