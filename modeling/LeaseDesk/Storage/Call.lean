import LeaseDesk.Failure

/-!
# What can be asked of a storage

A storage keeps the records of all kinds and answers *calls*. A call is data, and so the same sequence
of calls can be put to two storages and the answers compared. Every call that reads sees only records
without a tombstone, with one exception: the fleet of a vehicle stays known after the vehicle is deleted,
so that a driver who still holds it counts as having a vehicle of that fleet.
-/

namespace LeaseDesk.Storage

/-- The lists that can be asked for. -/
inductive Listing
  | legalEntities
  | drivers
  | fleetsOf (legalEntityId : String)
  | vehiclesOf (fleetId : String)
  | contractsOf (driverId : String)
  | assignmentsOf (contractId : String)
deriving DecidableEq

/-- The kind of the records in a list. -/
@[reducible] def Listing.kind : Listing → Kind
  | .legalEntities => .legalEntity
  | .drivers => .driver
  | .fleetsOf _ => .fleet
  | .vehiclesOf _ => .vehicle
  | .contractsOf _ => .contract
  | .assignmentsOf _ => .assignment

/-- The calls that a storage answers. -/
inductive Call
  /-- keep this record, in place of the one with the same identifier if there is one -/
  | save (kind : Kind) (record : kind.Record)
  /-- the live record under an identifier -/
  | find (kind : Kind) (id : String)
  /-- the live records of a list, in the order of the kind -/
  | list (listing : Listing)
  /-- the active assignments of a driver -/
  | activeAssignments (driverId : String)
  /-- the first active assignment of a driver on a vehicle of a fleet -/
  | activeInFleet (driverId fleetId : String)
  /-- the fleet of a vehicle, deleted or not -/
  | fleetOfVehicle (vehicleId : String)
  /-- put a tombstone on a live record -/
  | bury (kind : Kind) (id : String)
  /-- take the tombstone off a record -/
  | restore (kind : Kind) (id : String)

/-- What a storage answers to a call, if nothing fails. -/
@[reducible] def Call.Answer : Call → Type
  | .save _ _ => Unit
  | .find kind _ => Option kind.Record
  | .list listing => List listing.kind.Record
  | .activeAssignments _ => List Kind.assignment.Record
  | .activeInFleet _ _ => Option Kind.assignment.Record
  | .fleetOfVehicle _ => Option String
  | .bury _ _ => Unit
  | .restore _ _ => Unit

/-- A computation on a state that can fail, keeping the state reached. -/
abbrev Attempt (σ α : Type) : Type := ExceptT Failure (StateM σ) α

/-- A storage whose contents are a state of type `σ`. -/
structure Backend (σ : Type) where
  /-- the answer to a call, and the contents afterwards -/
  answer : (call : Call) → Attempt σ call.Answer

/-- The place of a record among the records of its kind: contracts are ordered by their first day,
assignments by the moment the driver got the vehicle, and the other kinds have no such place. -/
def place : (kind : Kind) → kind.Data → Int
  | .contract, c => c.startDate.rank
  | .assignment, a => a.startTime.rank
  | .legalEntity, _ | .fleet, _ | .vehicle, _ | .driver, _ => 0

/-- The order of the records of a kind: by place, and by identifier at the same place. Identifiers are
compared by code points. -/
def precedes (kind : Kind) (r s : kind.Record) : Bool :=
  let p := place kind r.data
  let q := place kind s.data
  decide (p < q) || (p == q && decide (r.id ≤ s.id))

/-- The records that belong into a list, as far as their data tell. -/
def Listing.selects : (listing : Listing) → listing.kind.Data → Bool
  | .legalEntities, _ => true
  | .drivers, _ => true
  | .fleetsOf id, f => f.legalEntityId == id
  | .vehiclesOf id, v => v.fleetId == id
  | .contractsOf id, c => c.driverId == id
  | .assignmentsOf id, a => a.contractId == id

end LeaseDesk.Storage
