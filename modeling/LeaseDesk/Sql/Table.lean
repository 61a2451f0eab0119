import LeaseDesk.Record

/-!
# Tables and rows

The records of a kind are the rows of a table. Its first column holds the identifier, its last one the
tombstone, and the columns between them the data. `rowOf` lays a record out as a row, and `recordOf`
reads a row back; a column that may not be null and is makes the row unreadable.
-/

namespace LeaseDesk.Sql

/-- The types of columns. -/
inductive ColumnType
  | text
  | integer
  | date
  | moment
deriving DecidableEq

/-- The name of a type. -/
def ColumnType.name : ColumnType → String
  | text => "TEXT"
  | integer => "INTEGER"
  | date => "DATE"
  | moment => "TIMESTAMPTZ"

/-- A column. -/
structure Column where
  /-- its name -/
  name : String
  /-- the type of what it holds -/
  type : ColumnType
  /-- it may be null -/
  nullable : Bool

/-- A column that is never null. -/
def Column.always (name : String) (type : ColumnType) : Column := ⟨name, type, false⟩

/-- A column that may be null. -/
def Column.sometimes (name : String) (type : ColumnType) : Column := ⟨name, type, true⟩

/-- The table of a kind. -/
def tableName : Kind → String
  | .legalEntity => "legal_entities"
  | .fleet => "fleets"
  | .vehicle => "vehicles"
  | .driver => "drivers"
  | .contract => "contracts"
  | .assignment => "vehicle_assignments"

/-- The columns for the data of a kind. -/
def dataColumns : Kind → List Column
  | .legalEntity => [.always "name" .text, .always "tax_id" .text]
  | .fleet => [.always "legal_entity_id" .text, .always "name" .text]
  | .vehicle =>
    [.always "fleet_id" .text, .always "make" .text, .always "model" .text,
      .always "year" .integer, .always "license_plate" .text]
  | .driver =>
    [.always "first_name" .text, .always "last_name" .text, .always "license_number" .text]
  | .contract =>
    [.always "driver_id" .text, .always "legal_entity_id" .text, .always "fleet_id" .text,
      .always "start_date" .date, .always "end_date" .date, .sometimes "terminated_at" .moment,
      .sometimes "terminated_by" .text]
  | .assignment =>
    [.always "driver_id" .text, .always "vehicle_id" .text, .always "contract_id" .text,
      .always "start_time" .moment, .sometimes "end_time" .moment]

/-- The names of all columns of a table. -/
def columnNames (kind : Kind) : List String :=
  "id" :: (dataColumns kind).map Column.name ++ ["deleted_at"]

/-- What a column of a row holds. -/
inductive Cell
  | null
  | text (s : String)
  | integer (n : Int)
  | date (d : Date)
  | moment (t : Instant)
deriving DecidableEq

/-- A row: the cells of its columns, by name. -/
abbrev Row : Type := List (String × Cell)

/-- A text, or null for none. -/
def Cell.ofText? : Option String → Cell
  | none => null
  | some s => text s

/-- An instant, or null for none. -/
def Cell.ofMoment? : Option Instant → Cell
  | none => null
  | some t => moment t

/-- The cells of the data of a kind, in the order of its columns. -/
def dataCells : (kind : Kind) → kind.Data → List Cell
  | .legalEntity, e => [.text e.name, .text e.taxId]
  | .fleet, f => [.text f.legalEntityId, .text f.name]
  | .vehicle, v =>
    [.text v.fleetId, .text v.make, .text v.model, .integer v.year, .text v.licensePlate]
  | .driver, d => [.text d.firstName, .text d.lastName, .text d.licenseNumber]
  | .contract, c =>
    [.text c.driverId, .text c.legalEntityId, .text c.fleetId, .date c.startDate, .date c.endDate,
      .ofMoment? c.terminatedAt, .ofText? c.terminatedBy]
  | .assignment, a =>
    [.text a.driverId, .text a.vehicleId, .text a.contractId, .moment a.startTime,
      .ofMoment? a.endTime]

/-- A record laid out as a row. -/
def rowOf (kind : Kind) (r : kind.Record) : Row :=
  (columnNames kind).zip (.text r.id :: dataCells kind r.data ++ [.ofMoment? r.deletedAt])

/-- What goes wrong at a connection to a database. -/
inductive Fault
  /-- the database cannot be reached -/
  | connection (reason : String)
  /-- a statement that changes something failed -/
  | execution (reason : String)
  /-- a statement that reads something failed -/
  | query (reason : String)
  /-- something else -/
  | other (reason : String)
  /-- this column of a row is null and may not be -/
  | nullIn (column : String)
deriving DecidableEq

/-- The fault in words. -/
def Fault.message : Fault → String
  | connection reason => "Connection Error: " ++ reason
  | execution reason => "Execution Error: " ++ reason
  | query reason => "Query Error: " ++ reason
  | other reason => "Custom Error: " ++ reason
  | nullIn column =>
    "Type Error: A null value was encountered while decoding \"" ++ column ++ "\""

namespace Row

/-- What a column of a row holds; a column that is not there holds null. -/
def cell (row : Row) (name : String) : Cell :=
  (row.lookup name).getD .null

/-- The text in a column. -/
def text (row : Row) (name : String) : Except Fault String :=
  match row.cell name with
  | .text s => .ok s
  | _ => .error (.nullIn name)

/-- The integer in a column. -/
def integer (row : Row) (name : String) : Except Fault Int :=
  match row.cell name with
  | .integer n => .ok n
  | _ => .error (.nullIn name)

/-- The date in a column. -/
def date (row : Row) (name : String) : Except Fault Date :=
  match row.cell name with
  | .date d => .ok d
  | _ => .error (.nullIn name)

/-- The instant in a column. -/
def moment (row : Row) (name : String) : Except Fault Instant :=
  match row.cell name with
  | .moment t => .ok t
  | _ => .error (.nullIn name)

/-- The text in a column that may be null. -/
def text? (row : Row) (name : String) : Option String :=
  match row.cell name with
  | .text s => some s
  | _ => none

/-- The instant in a column that may be null. -/
def moment? (row : Row) (name : String) : Option Instant :=
  match row.cell name with
  | .moment t => some t
  | _ => none

end Row

/-- The data in a row, read column by column. -/
def dataOf : (kind : Kind) → Row → Except Fault kind.Data
  | .legalEntity, row => do
    let name ← row.text "name"
    let taxId ← row.text "tax_id"
    return ⟨name, taxId⟩
  | .fleet, row => do
    let legalEntityId ← row.text "legal_entity_id"
    let name ← row.text "name"
    return ⟨legalEntityId, name⟩
  | .vehicle, row => do
    let fleetId ← row.text "fleet_id"
    let make ← row.text "make"
    let model ← row.text "model"
    let year ← row.integer "year"
    let licensePlate ← row.text "license_plate"
    return ⟨fleetId, make, model, year, licensePlate⟩
  | .driver, row => do
    let firstName ← row.text "first_name"
    let lastName ← row.text "last_name"
    let licenseNumber ← row.text "license_number"
    return ⟨firstName, lastName, licenseNumber⟩
  | .contract, row => do
    let driverId ← row.text "driver_id"
    let legalEntityId ← row.text "legal_entity_id"
    let fleetId ← row.text "fleet_id"
    let startDate ← row.date "start_date"
    let endDate ← row.date "end_date"
    return ⟨driverId, legalEntityId, fleetId, startDate, endDate, row.moment? "terminated_at",
      row.text? "terminated_by"⟩
  | .assignment, row => do
    let driverId ← row.text "driver_id"
    let vehicleId ← row.text "vehicle_id"
    let contractId ← row.text "contract_id"
    let startTime ← row.moment "start_time"
    return ⟨driverId, vehicleId, contractId, startTime, row.moment? "end_time"⟩

/-- The record in a row. -/
def recordOf (kind : Kind) (row : Row) : Except Fault kind.Record := do
  let id ← row.text "id"
  let data ← dataOf kind row
  return ⟨id, data, row.moment? "deleted_at"⟩

end LeaseDesk.Sql
