import LeaseDesk.Sql.Statement
import LeaseDesk.Storage.Call

/-!
# Keeping the records in a database

A `Connection` takes one statement after another and replies to each. `answer` says which statements a
call to the storage becomes, and what is made of the replies. A fault at the connection ends the call.

To delete a record is to put a tombstone on it where there is none. If no row was changed, the record is
looked for once more, to tell one that is deleted already from one that never was.
-/

namespace LeaseDesk.Sql

open Storage

/-- The reply to a statement. -/
inductive Reply
  /-- these rows -/
  | rows (rows : List Row)
  /-- so many rows were changed -/
  | affected (n : Nat)

/-- A connection to a database, in a state of type `σ`. -/
structure Connection (σ : Type) where
  /-- the reply to a statement, and the state afterwards -/
  execute : Statement → σ → Except Fault Reply × σ

variable {σ : Type}

/-- The failure that a fault at the connection is to the service. -/
def failure (f : Fault) : Failure := .database f.message

/-- The reply to a statement. -/
def tell (c : Connection σ) (s : Statement) : Attempt σ Reply := fun state =>
  match c.execute s state with
  | (.ok reply, state) => (.ok reply, state)
  | (.error f, state) => (.error (failure f), state)

/-- The number of rows that a statement changed. -/
def change (c : Connection σ) (s : Statement) : Attempt σ Nat := do
  match ← tell c s with
  | .affected n => return n
  | .rows _ => return 0

/-- The rows that satisfy a query. -/
def ask (c : Connection σ) (q : Query) : Attempt σ (List Row) := do
  match ← tell c (.select q) with
  | .rows rows => return rows
  | .affected _ => return []

/-- What is read from a row, unless it is unreadable. -/
def readable {α : Type} (result : Except Fault α) : Attempt σ α :=
  match result with
  | .ok a => return a
  | .error f => throw (failure f)

/-- The records that satisfy a query. -/
def records (c : Connection σ) (q : Query) : Attempt σ (List q.kind.Record) := do
  readable ((← ask c q).mapM (recordOf q.kind))

/-- The first record that satisfies a query. -/
def first (c : Connection σ) (q : Query) : Attempt σ (Option q.kind.Record) := do
  match ← ask c q with
  | [] => return none
  | row :: _ => return some (← readable (recordOf q.kind row))

/-- The identifier is this one. -/
def hasId (kind : Kind) (id : String) : Condition := .equals ⟨kind, "id"⟩ (.text id)

/-- There is no tombstone. -/
def isLive (kind : Kind) : Condition := .isNull ⟨kind, "deleted_at"⟩

/-- The question for the record under an identifier, deleted or not. -/
def recordQuery (kind : Kind) (id : String) : Query := ⟨kind, none, [hasId kind id], [], some 1⟩

/-- The question for the live record under an identifier. -/
def liveQuery (kind : Kind) (id : String) : Query :=
  ⟨kind, none, [hasId kind id, isLive kind], [], some 1⟩

/-- The order of the records of a kind. -/
def orderOf (kind : Kind) : List ColumnRef :=
  match kind with
  | .contract => [⟨kind, "start_date"⟩, ⟨kind, "id"⟩]
  | .assignment => [⟨kind, "start_time"⟩, ⟨kind, "id"⟩]
  | .legalEntity | .fleet | .vehicle | .driver => [⟨kind, "id"⟩]

/-- The column that names the record to which a list belongs, with the identifier wanted there. -/
def owner : Listing → Option (String × String)
  | .legalEntities | .drivers => none
  | .fleetsOf id => some ("legal_entity_id", id)
  | .vehiclesOf id => some ("fleet_id", id)
  | .contractsOf id => some ("driver_id", id)
  | .assignmentsOf id => some ("contract_id", id)

/-- The conditions on the records of a list. -/
def listConditions (listing : Listing) : List Condition :=
  match owner listing with
  | none => [isLive listing.kind]
  | some (column, id) => [.equals ⟨listing.kind, column⟩ (.text id), isLive listing.kind]

/-- The question for a list. -/
def listQuery (listing : Listing) : Query :=
  ⟨listing.kind, none, listConditions listing, orderOf listing.kind, none⟩

/-- The conditions on the active assignments of a driver. -/
def activeConditions (driverId : String) : List Condition :=
  [.equals ⟨.assignment, "driver_id"⟩ (.text driverId), .isNull ⟨.assignment, "end_time"⟩,
    isLive .assignment]

/-- The question for the active assignments of a driver. -/
def activeQuery (driverId : String) : Query :=
  ⟨.assignment, none, activeConditions driverId, orderOf .assignment, none⟩

/-- The question for the first active assignment of a driver on a vehicle of a fleet. -/
def activeInFleetQuery (driverId fleetId : String) : Query :=
  ⟨.assignment, some ⟨.vehicle, ⟨.assignment, "vehicle_id"⟩, ⟨.vehicle, "id"⟩⟩,
    activeConditions driverId ++ [.equals ⟨.vehicle, "fleet_id"⟩ (.text fleetId)],
    [⟨.assignment, "start_time"⟩], some 1⟩

/-- Puts a tombstone on a live record. -/
def buryStatement (kind : Kind) (id : String) : Statement :=
  .update ⟨kind, "deleted_at"⟩ .wallClock [hasId kind id, isLive kind]

/-- Takes the tombstone off a record. -/
def restoreStatement (kind : Kind) (id : String) : Statement :=
  .update ⟨kind, "deleted_at"⟩ (.cell .null) [hasId kind id]

/-- Puts a tombstone on a live record, or finds out why there is none. -/
def bury (c : Connection σ) (kind : Kind) (id : String) : Attempt σ Unit := do
  if (← change c (buryStatement kind id)) == 0 then
    match ← first c (recordQuery kind id) with
    | some _ => throw (.buried kind id)
    | none => throw (.missing kind id)

/-- Takes the tombstone off a record. -/
def restore (c : Connection σ) (kind : Kind) (id : String) : Attempt σ Unit := do
  if (← change c (restoreStatement kind id)) == 0 then throw (.missing kind id)

/-- What is answered to a call. -/
def answer (c : Connection σ) : (call : Call) → Attempt σ call.Answer
  | .save kind r => do
    let _ ← change c (.upsert kind (rowOf kind r))
  | .find kind id => first c (liveQuery kind id)
  | .list listing => records c (listQuery listing)
  | .activeAssignments driverId => records c (activeQuery driverId)
  | .activeInFleet driverId fleetId => first c (activeInFleetQuery driverId fleetId)
  | .fleetOfVehicle vehicleId => do
    return (← first c (recordQuery .vehicle vehicleId)).map fun v => v.data.fleetId
  | .bury kind id => bury c kind id
  | .restore kind id => restore c kind id

/-- A database as a storage. -/
def backend (c : Connection σ) : Backend σ := ⟨answer c⟩

/-- Creates the tables and indexes that are not there yet. -/
def ensureSchema (c : Connection σ) : Attempt σ Unit :=
  schema.forM fun text => do
    let _ ← change c (.define text)

/-- A connection whose replies are fixed beforehand, and which notes the statements it is told. -/
structure Script where
  /-- the replies still to be given -/
  replies : List (Except Fault Reply)
  /-- the statements told, the latest last -/
  told : List Statement

namespace Script

/-- A script at its beginning. -/
def ofReplies (replies : List (Except Fault Reply)) : Script := ⟨replies, []⟩

/-- When the replies are used up, no rows are found and none are changed. -/
def connection : Connection Script where
  execute statement script :=
    let told := script.told ++ [statement]
    match script.replies with
    | [] => (.ok (.rows []), ⟨[], told⟩)
    | reply :: replies => (reply, ⟨replies, told⟩)

end Script

end LeaseDesk.Sql
