import LeaseDesk.Calendar.Format
import LeaseDesk.Json.Value
import LeaseDesk.Record

/-!
# Records as JSON

A record has two representations. The *archived* one shows all that is kept, tombstone included, and
marks UTC by the letter `Z`. The one *for clients* leaves out what is none of their business: it has no
tombstones, and UTC is marked as an offset. Both name the same things alike, and `members` holds what
they share.
-/

namespace LeaseDesk.Representation

/-- An instant, or null for none. -/
def instant? (mark : ZoneMark) : Option Instant → Json
  | none => .null
  | some t => .text (t.text mark)

/-- The data of a record as members of an object. -/
def members (mark : ZoneMark) : (kind : Kind) → kind.Data → List (String × Json)
  | .legalEntity, e => [("name", .text e.name), ("tax_id", .text e.taxId)]
  | .fleet, f => [("legal_entity_id", .text f.legalEntityId), ("name", .text f.name)]
  | .vehicle, v =>
    [("fleet_id", .text v.fleetId), ("make", .text v.make), ("model", .text v.model),
      ("year", .number v.year), ("license_plate", .text v.licensePlate)]
  | .driver, d =>
    [("first_name", .text d.firstName), ("last_name", .text d.lastName),
      ("license_number", .text d.licenseNumber)]
  | .contract, c =>
    [("driver_id", .text c.driverId), ("legal_entity_id", .text c.legalEntityId),
      ("fleet_id", .text c.fleetId), ("start_date", .text c.startDate.text),
      ("end_date", .text c.endDate.text), ("terminated_at", instant? mark c.terminatedAt),
      ("terminated_by", .ofText? c.terminatedBy)]
  | .assignment, a =>
    [("driver_id", .text a.driverId), ("vehicle_id", .text a.vehicleId),
      ("contract_id", .text a.contractId), ("start_time", .text (a.startTime.text mark)),
      ("end_time", instant? mark a.endTime)]

/-- A record as it is kept. -/
def archived (kind : Kind) (r : kind.Record) : Json :=
  .object (("id", .text r.id) :: members .letter kind r.data
    ++ [("deleted_at", instant? .letter r.deletedAt)])

/-- A record as clients see it. -/
def forClients (kind : Kind) (r : kind.Record) : Json :=
  .object (("id", .text r.id) :: members .offset kind r.data)

end LeaseDesk.Representation
