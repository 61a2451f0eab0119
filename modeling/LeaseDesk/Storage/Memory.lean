import LeaseDesk.Rules
import LeaseDesk.Storage.Call
import LeaseDesk.Storage.Store

/-!
# Keeping the records in memory

The books hold one store for each kind. `Memory.answer` says what every call reads from the books and
what it writes into them. Tombstones are dated by a clock on the wall that the operations never see;
nothing that is answered depends on that date.
-/

namespace LeaseDesk.Storage

/-- One store for each kind. -/
structure Books where
  /-- the legal entities -/
  legalEntities : Store LegalEntity
  /-- the fleets -/
  fleets : Store Fleet
  /-- the vehicles -/
  vehicles : Store Vehicle
  /-- the drivers -/
  drivers : Store Driver
  /-- the contracts -/
  contracts : Store Contract
  /-- the assignments -/
  assignments : Store Assignment

namespace Books

/-- Books in which nothing is written. -/
def empty : Books := ⟨.empty, .empty, .empty, .empty, .empty, .empty⟩

/-- The store of a kind. -/
def get (b : Books) : (kind : Kind) → Store kind.Data
  | .legalEntity => b.legalEntities
  | .fleet => b.fleets
  | .vehicle => b.vehicles
  | .driver => b.drivers
  | .contract => b.contracts
  | .assignment => b.assignments

/-- The books with another store of a kind. -/
def set (b : Books) : (kind : Kind) → Store kind.Data → Books
  | .legalEntity, s => { b with legalEntities := s }
  | .fleet, s => { b with fleets := s }
  | .vehicle, s => { b with vehicles := s }
  | .driver, s => { b with drivers := s }
  | .contract, s => { b with contracts := s }
  | .assignment, s => { b with assignments := s }

/-- The books with this record. -/
def put (b : Books) (kind : Kind) (r : kind.Record) : Books :=
  b.set kind ((b.get kind).put r)

@[simp] theorem get_set_self (b : Books) (kind : Kind) (s : Store kind.Data) :
    (b.set kind s).get kind = s := by
  cases kind <;> rfl

theorem get_set_of_ne (b : Books) {kind other : Kind} (h : other ≠ kind) (s : Store kind.Data) :
    (b.set kind s).get other = b.get other := by
  cases kind <;> cases other <;> first | rfl | exact absurd rfl h

/-- The record under an identifier, deleted or not. -/
def lookup (b : Books) (kind : Kind) (id : String) : Option kind.Record :=
  (b.get kind).lookup id

/-- The live record under an identifier. -/
def find (b : Books) (kind : Kind) (id : String) : Option kind.Record :=
  (b.lookup kind id).filter Record.isLive

/-- The live records of a kind that satisfy a condition, in the order of the kind. -/
def sorted (b : Books) (kind : Kind) (p : kind.Record → Bool) : List kind.Record :=
  ((b.get kind).live p).mergeSort (precedes kind)

/-- The records of a list. -/
def list (b : Books) (listing : Listing) : List listing.kind.Record :=
  b.sorted listing.kind fun r => listing.selects r.data

/-- The active assignments of a driver. -/
def activeAssignments (b : Books) (driverId : String) : List Kind.assignment.Record :=
  b.sorted .assignment fun r => r.data.driverId == driverId && r.isActive

/-- The fleet of a vehicle, deleted or not. -/
def fleetOfVehicle (b : Books) (vehicleId : String) : Option String :=
  (b.lookup .vehicle vehicleId).map fun v => v.data.fleetId

/-- The first active assignment of a driver on a vehicle of a fleet. -/
def activeInFleet (b : Books) (driverId fleetId : String) : Option Kind.assignment.Record :=
  (b.activeAssignments driverId).find? fun r => b.fleetOfVehicle r.data.vehicleId == some fleetId

end Books

/-- Books, and the clock on the wall. -/
structure Memory where
  /-- the books -/
  books : Books
  /-- what the clock on the wall shows -/
  wall : Instant

namespace Memory

/-- What a call answers, and the memory afterwards. -/
def answer (call : Call) (m : Memory) : Except Failure call.Answer × Memory :=
  match call with
  | .save kind r => (.ok (), { m with books := m.books.put kind r })
  | .find kind id => (.ok (m.books.find kind id), m)
  | .list listing => (.ok (m.books.list listing), m)
  | .activeAssignments driverId => (.ok (m.books.activeAssignments driverId), m)
  | .activeInFleet driverId fleetId => (.ok (m.books.activeInFleet driverId fleetId), m)
  | .fleetOfVehicle vehicleId => (.ok (m.books.fleetOfVehicle vehicleId), m)
  | .bury kind id =>
    match m.books.lookup kind id with
    | none => (.error (.missing kind id), m)
    | some r =>
      if r.isDeleted then (.error (.buried kind id), m)
      else (.ok (), { m with books := m.books.put kind (r.bury m.wall) })
  | .restore kind id =>
    match m.books.lookup kind id with
    | none => (.error (.missing kind id), m)
    | some r => (.ok (), { m with books := m.books.put kind r.restore })

/-- The memory as a storage. -/
def backend : Backend Memory := ⟨answer⟩

end Memory

end LeaseDesk.Storage
