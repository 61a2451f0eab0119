import LeaseDesk.Proofs.Books
import LeaseDesk.Proofs.Tables

/-!
# Records as rows

Nothing is lost when a record is laid out as a row: it can be read back (`recordOf_rowOf`), it is
ordered among other rows as it is among other records (`inOrder_rowOf`), and a condition says of the
row what it means of the record. What the changes do to rows is then said in terms of records: a row
put over another one replaces it, and the tombstone is the only column that is ever changed by
itself.
-/

namespace LeaseDesk.Sql

open Storage

namespace Cell

@[simp] theorem equals_text (s s' : String) : (text s).equals (text s') = (s == s') := by
  rw [equals, show (text s != null) = true from rfl, Bool.true_and, Bool.eq_iff_iff, beq_iff_eq,
    beq_iff_eq, text.injEq]

@[simp] theorem ofMoment?_beq_null (t : Option Instant) : (ofMoment? t == null) = t.isNone := by
  cases t <;> rfl

end Cell

section

variable {kind : Kind} (r s : kind.Record)

/-! ## Reading -/

@[simp] theorem cell_deletedAt : (rowOf kind r).cell "deleted_at" = .ofMoment? r.deletedAt := by
  cases kind <;> rfl

/-- **Nothing is lost.** A record can be read back from its row. -/
theorem recordOf_rowOf : recordOf kind (rowOf kind r) = .ok r := by
  obtain ⟨id, data, deletedAt⟩ := r
  cases kind
  -- what may be null is read back only once it is known whether it is
  case contract =>
    obtain ⟨driverId, legalEntityId, fleetId, first, last, terminatedAt, terminatedBy⟩ := data
    cases terminatedAt <;> cases terminatedBy <;> cases deletedAt <;> rfl
  case assignment =>
    obtain ⟨driverId, vehicleId, contractId, startTime, endTime⟩ := data
    cases endTime <;> cases deletedAt <;> rfl
  all_goals cases deletedAt <;> rfl

theorem mapM_recordOf (rs : List kind.Record) :
    (rs.map (rowOf kind)).mapM (recordOf kind) = .ok rs := by
  rw [List.mapM_map, show recordOf kind ∘ rowOf kind = fun r => pure r from funext recordOf_rowOf,
    List.mapM_pure, List.map_id']
  rfl

/-! ## Conditions -/

theorem holds_hasId (id : String) :
    (hasId kind id).holds (rowOf kind r).scope = (r.id == id) :=
  Cell.equals_text r.id id

theorem holds_isLive : (isLive kind).holds (rowOf kind r).scope = r.isLive := by
  rw [isLive, Condition.holds, Row.scope, cell_deletedAt, Cell.ofMoment?_beq_null, Record.isLive]

theorem satisfies_hasId (id : String) :
    (rowOf kind r).satisfies [hasId kind id] = (r.id == id) := by
  rw [Row.satisfies, List.all_cons, holds_hasId, List.all_nil, Bool.and_true]

theorem satisfies_hasId_isLive (id : String) :
    (rowOf kind r).satisfies [hasId kind id, isLive kind] = (r.isLive && r.id == id) := by
  rw [Row.satisfies, List.all_cons, List.all_cons, holds_hasId, holds_isLive, List.all_nil,
    Bool.and_true, Bool.and_comm]

theorem satisfies_listConditions {listing : Listing} (r : listing.kind.Record) :
    (rowOf listing.kind r).satisfies (listConditions listing) =
      (r.isLive && listing.selects r.data) := by
  cases listing <;> simp only [listConditions, owner, Row.satisfies, List.all_cons, List.all_nil,
    holds_isLive, Bool.and_true, Listing.selects]
  all_goals
    rw [Bool.and_comm]
    exact congrArg (r.isLive && ·) (Cell.equals_text _ _)

theorem satisfies_activeConditions (driverId : String) (r : Kind.assignment.Record) :
    (rowOf .assignment r).satisfies (activeConditions driverId) =
      (r.isLive && (r.data.driverId == driverId && r.isActive)) := by
  have hdriver : (Condition.equals ⟨.assignment, "driver_id"⟩ (.text driverId)).holds
      (rowOf .assignment r).scope = (r.data.driverId == driverId) := Cell.equals_text _ _
  have hopen : (Condition.isNull ⟨.assignment, "end_time"⟩).holds (rowOf .assignment r).scope =
      r.data.endTime.isNone := Cell.ofMoment?_beq_null _
  rw [activeConditions, Row.satisfies, List.all_cons, List.all_cons, List.all_cons, hdriver, hopen,
    holds_isLive, List.all_nil, Record.isActive, Assignment.isReturned]
  cases r.isLive <;> cases r.data.endTime <;> simp

/-! ## Order -/

theorem inOrder_id : inOrder (rowOf kind r).scope (rowOf kind s).scope [⟨kind, "id"⟩] =
    decide (r.id ≤ s.id) := by
  show (if Cell.text r.id = Cell.text s.id then true else decide (r.id ≤ s.id)) = _
  by_cases h : r.id = s.id <;> simp [h]

/-- Rows are ordered by a column first that holds what stands for a number. -/
theorem inOrder_column_id {column : ColumnRef} {p q : Int}
    (heq : (rowOf kind r).scope column = (rowOf kind s).scope column ↔ p = q)
    (hle : ((rowOf kind r).scope column).precedes ((rowOf kind s).scope column) = decide (p ≤ q)) :
    inOrder (rowOf kind r).scope (rowOf kind s).scope [column, ⟨kind, "id"⟩] =
      (decide (p < q) || (p == q && decide (r.id ≤ s.id))) := by
  rw [inOrder, inOrder_id]
  by_cases h : p = q
  · simp [if_pos (heq.mpr h), h]
  · rw [if_neg (mt heq.mp h), hle, beq_eq_false_iff_ne.mpr h, Bool.false_and, Bool.or_false,
      decide_eq_decide]
    omega

/-- **The same order.** Rows are ordered as the records are. -/
theorem inOrder_rowOf :
    inOrder (rowOf kind r).scope (rowOf kind s).scope (orderOf kind) = precedes kind r s := by
  cases kind
  case contract =>
    refine inOrder_column_id r s ⟨fun h => ?_, fun h => ?_⟩ rfl
    · exact congrArg Date.rank (Cell.date.inj h)
    · exact congrArg Cell.date (Date.rank_injective h)
  case assignment =>
    refine inOrder_column_id r s ⟨fun h => ?_, fun h => ?_⟩ rfl
    · exact congrArg Instant.rank (Cell.moment.inj h)
    · exact congrArg Cell.moment (Instant.rank_injective h)
  all_goals
    rw [orderOf, inOrder_id, precedes]
    simp [place]

/-! ## Changes -/

theorem sameKey_rowOf : (rowOf kind r).sameKey (rowOf kind s) = (r.id == s.id) :=
  Cell.equals_text r.id s.id

/-- A row that is put over another one replaces it, because it has all the columns. -/
theorem overwrite_rowOf (h : r.id = s.id) :
    (rowOf kind r).overwrite (rowOf kind s) = rowOf kind s := by
  obtain ⟨id, data, deletedAt⟩ := r
  obtain rfl : id = s.id := h
  cases kind <;> rfl

theorem map_cell_rowOf :
    (columnNames kind).map (fun name => (name, (rowOf kind r).cell name)) = rowOf kind r := by
  cases kind <;> rfl

theorem set_deletedAt_rowOf (t : Option Instant) :
    (rowOf kind r).set "deleted_at" (.ofMoment? t) = rowOf kind ⟨r.id, r.data, t⟩ := by
  cases kind <;> rfl

/-- Putting a row among rows is putting a record among records. -/
theorem upsertRows_rowOf {xs : List kind.Record} (h : (xs.map Record.id).Nodup) :
    upsertRows kind (rowOf kind r) (xs.map (rowOf kind)) =
      (Store.putInto r xs).map (rowOf kind) := by
  have hany : (xs.map (rowOf kind)).any (fun row => row.sameKey (rowOf kind r)) ↔
      r.id ∈ xs.map Record.id := by
    simp only [List.any_map, List.any_eq_true, Function.comp_apply, sameKey_rowOf, beq_iff_eq,
      List.mem_map]
  rw [upsertRows]
  by_cases hmem : r.id ∈ xs.map Record.id
  · rw [if_pos (hany.mpr hmem), Store.putInto_of_mem h hmem, List.map_map, List.map_map]
    refine List.map_congr_left fun x _ => ?_
    simp only [Function.comp_apply, sameKey_rowOf, beq_iff_eq]
    split_ifs with hx
    · exact overwrite_rowOf x r hx
    · rfl
  · rw [if_neg (mt hany.mp hmem), Store.putInto_of_not_mem hmem, map_cell_rowOf, List.map_append,
      List.map_singleton]

/-- Changing the tombstone in rows is changing it in records. -/
theorem updateRows_rowOf {conditions : List Condition} {p : kind.Record → Bool}
    (hp : ∀ x, (rowOf kind x).satisfies conditions = p x) (t : Option Instant)
    (xs : List kind.Record) :
    updateRows "deleted_at" (.ofMoment? t) conditions (xs.map (rowOf kind)) =
      (xs.map fun x => if p x then ⟨x.id, x.data, t⟩ else x).map (rowOf kind) := by
  rw [updateRows, List.map_map, List.map_map]
  refine List.map_congr_left fun x _ => ?_
  simp only [Function.comp_apply, hp]
  split_ifs
  · exact set_deletedAt_rowOf x t
  · rfl

end

end LeaseDesk.Sql
