import LeaseDesk.Calendar.Instant

/-!
# The records kept

Six kinds of things are on record: legal entities, their fleets, the vehicles of a fleet, drivers,
contracts that let a driver use a fleet of a legal entity for a while, and assignments of a vehicle to a
driver under a contract. What the six have in common is in `Record`: an identifier, and a tombstone that
hides the record without destroying it. What is particular to a kind is its data, found by `Kind.Data`,
so that everything that treats the six alike is written once, for any kind.
-/

namespace LeaseDesk

/-- The kinds of records. -/
inductive Kind
  | legalEntity
  | fleet
  | vehicle
  | driver
  | contract
  | assignment
deriving DecidableEq

namespace Kind

/-- All kinds. -/
def all : List Kind := [legalEntity, fleet, vehicle, driver, contract, assignment]

/-- What a record of the kind is called in messages. -/
def label : Kind → String
  | legalEntity => "Legal entity"
  | fleet => "Fleet"
  | vehicle => "Vehicle"
  | driver => "Driver"
  | contract => "Contract"
  | assignment => "Vehicle assignment"

/-- How messages refer to one record. -/
def mention (kind : Kind) (id : String) : String :=
  kind.label ++ " " ++ id

end Kind

/-- A company that leases vehicles out. -/
structure LegalEntity where
  /-- its name -/
  name : String
  /-- its number with the tax office -/
  taxId : String
deriving DecidableEq

/-- A fleet of vehicles. -/
structure Fleet where
  /-- the legal entity that owns the fleet -/
  legalEntityId : String
  /-- its name -/
  name : String
deriving DecidableEq

/-- A vehicle. -/
structure Vehicle where
  /-- the fleet it belongs to -/
  fleetId : String
  /-- the manufacturer -/
  make : String
  /-- the manufacturer's name for the model -/
  model : String
  /-- the year it was built -/
  year : Int
  /-- the license plate, possibly empty -/
  licensePlate : String
deriving DecidableEq

/-- A person who may drive. -/
structure Driver where
  /-- the first name -/
  firstName : String
  /-- the last name -/
  lastName : String
  /-- the number of the driving license -/
  licenseNumber : String
deriving DecidableEq

/-- A contract between a driver and a legal entity about the use of a fleet. -/
structure Contract where
  /-- the driver -/
  driverId : String
  /-- the legal entity -/
  legalEntityId : String
  /-- the fleet -/
  fleetId : String
  /-- the first day -/
  startDate : Date
  /-- the agreed last day -/
  endDate : Date
  /-- when the contract was terminated, if it was -/
  terminatedAt : Option Instant
  /-- who terminated it -/
  terminatedBy : Option String
deriving DecidableEq

/-- A vehicle in the hands of a driver. -/
structure Assignment where
  /-- the driver -/
  driverId : String
  /-- the vehicle -/
  vehicleId : String
  /-- the contract under which the driver has it -/
  contractId : String
  /-- when the driver got it -/
  startTime : Instant
  /-- when the driver returned it, if that has happened -/
  endTime : Option Instant
deriving DecidableEq

/-- What is particular to the records of a kind. -/
@[reducible] def Kind.Data : Kind → Type
  | .legalEntity => LegalEntity
  | .fleet => Fleet
  | .vehicle => Vehicle
  | .driver => Driver
  | .contract => Contract
  | .assignment => Assignment

/-- A record: data under an identifier, perhaps hidden by a tombstone. -/
structure Record (α : Type) where
  /-- the identifier -/
  id : String
  /-- the data -/
  data : α
  /-- the tombstone: when the record was deleted, if it is -/
  deletedAt : Option Instant
deriving DecidableEq

namespace Record

variable {α : Type}

/-- A new record, not deleted. -/
def fresh (id : String) (data : α) : Record α := ⟨id, data, none⟩

/-- A tombstone hides the record. -/
def isDeleted (r : Record α) : Bool := r.deletedAt.isSome

/-- No tombstone hides the record. -/
def isLive (r : Record α) : Bool := r.deletedAt.isNone

/-- The record with a tombstone. -/
def bury (r : Record α) (at_ : Instant) : Record α := ⟨r.id, r.data, some at_⟩

/-- The record without a tombstone. -/
def restore (r : Record α) : Record α := ⟨r.id, r.data, none⟩

@[simp] theorem id_bury (r : Record α) (t : Instant) : (r.bury t).id = r.id := rfl

theorem isDeleted_eq_not_isLive (r : Record α) : r.isDeleted = !r.isLive := by
  cases r with | mk _ _ d => cases d <;> rfl

end Record

/-- A record of a kind. -/
abbrev Kind.Record (kind : Kind) : Type := LeaseDesk.Record kind.Data

instance (kind : Kind) : DecidableEq kind.Data :=
  match kind with
  | .legalEntity => inferInstanceAs (DecidableEq LegalEntity)
  | .fleet => inferInstanceAs (DecidableEq Fleet)
  | .vehicle => inferInstanceAs (DecidableEq Vehicle)
  | .driver => inferInstanceAs (DecidableEq Driver)
  | .contract => inferInstanceAs (DecidableEq Contract)
  | .assignment => inferInstanceAs (DecidableEq Assignment)

end LeaseDesk
