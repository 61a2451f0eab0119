import LeaseDesk.Operation
import LeaseDesk.Proofs.Yields

/-!
# When a procedure succeeds

For every procedure of the desk there is one equivalence that says when it succeeds and what it
leaves behind. The equivalences are exact: on the right stands everything the procedure has checked,
in the order of the checks, and the one record it has written. Nobody has to open a procedure after
this.
-/

namespace LeaseDesk

open Storage

/-! ## Revised records -/

/-- The record with other data, as deleted or live as before. -/
def Record.revise {α : Type} (r : Record α) (data : α) : Record α :=
  ⟨r.id, data, r.deletedAt⟩

/-- The contract, terminated. -/
def Contract.terminate (c : Contract) (now : Instant) (terminatedBy : String) : Contract :=
  { c with terminatedAt := some now, terminatedBy := some terminatedBy }

/-- The assignment, with the vehicle returned. -/
def Assignment.finish (a : Assignment) (now : Instant) : Assignment :=
  { a with endTime := some now }

/-! ## Checks -/

namespace Procedure

open Program

variable {β : Type} {d d' : Desk Memory}

theorem yields_requireId_bind {field id : String} {f : Unit → Program β} {b : β} :
    ((requireId field id).bind f).Yields d b d' ↔ id ≠ "" ∧ (f ()).Yields d b d' := by
  rw [requireId, yields_require_bind, Bool.not_eq_true', ← Bool.not_eq_true, String.isEmpty_iff]

theorem yields_requireText_bind {field text : String} {f : String → Program β} {b : β} :
    ((requireText field text).bind f).Yields d b d' ↔
      Text.trim text ≠ "" ∧ (f (Text.trim text)).Yields d b d' := by
  have hp : ∀ s e, (requireText field text).Yields d s e ↔
      (Text.trim text ≠ "" ∧ s = Text.trim text) ∧ e = d := by
    intro s e
    rw [requireText, bind_eq, yields_require_bind, pure_eq, yields_done, Bool.not_eq_true',
      ← Bool.not_eq_true, String.isEmpty_iff, and_assoc]
  rw [yields_bind_same hp]
  exact ⟨fun ⟨_, ⟨hs, rfl⟩, hf⟩ => ⟨hs, hf⟩, fun ⟨hs, hf⟩ => ⟨_, ⟨hs, rfl⟩, hf⟩⟩

theorem yields_requireRecord {kind : Kind} {id : String} {r : kind.Record} :
    (requireRecord kind id).Yields d r d' ↔ d.books.find kind id = some r ∧ d' = d := by
  rw [requireRecord, bind_eq, yields_call_bind rfl]
  rcases d.books.find kind id with _ | s
  · exact ⟨fun h => absurd h not_yields_fail, fun h => nomatch h.1⟩
  · rw [Option.some.injEq]
    exact yields_done.trans (and_congr_left' eq_comm)

theorem yields_requireRecord_bind {kind : Kind} {id : String} {f : kind.Record → Program β}
    {b : β} :
    ((requireRecord kind id).bind f).Yields d b d' ↔
      ∃ r, d.books.find kind id = some r ∧ (f r).Yields d b d' :=
  yields_bind_same fun _ _ => yields_requireRecord

theorem yields_freshId {id : String} :
    freshId.Yields d id d' ↔ d.ids.next ≠ "" ∧ id = d.ids.next ∧ d' = d.draw := by
  rw [freshId, yields_ask]
  constructor
  · rintro ⟨n, e, he, h⟩
    obtain ⟨hn, rfl⟩ := Prod.mk.inj he
    obtain rfl := Except.ok.inj hn
    obtain ⟨hne, h⟩ := yields_require_bind.mp h
    exact ⟨by simpa using hne, yields_done.mp h⟩
  · rintro ⟨hne, rfl, rfl⟩
    exact ⟨_, _, rfl, yields_require_bind.mpr ⟨by simpa using hne, yields_done.mpr ⟨rfl, rfl⟩⟩⟩

/-- A new record is entered under the next identifier, unless that is empty. -/
theorem yields_enter {kind : Kind} {data : kind.Data} {r : kind.Record} :
    (enter kind data).Yields d r d' ↔
      d.ids.next ≠ "" ∧ r = .fresh d.ids.next data ∧ d' = d.enter kind data := by
  rw [enter, bind_eq, yields_bind]
  constructor
  · rintro ⟨id, e, hid, h⟩
    obtain ⟨hne, rfl, rfl⟩ := yields_freshId.mp hid
    exact ⟨hne, yields_save_done.mp h⟩
  · rintro ⟨hne, hr⟩
    exact ⟨_, _, yields_freshId.mpr ⟨hne, rfl, rfl⟩, yields_save_done.mpr hr⟩

/-! ## Procedures -/

theorem yields_createLegalEntity {name taxId : String} {r : Kind.legalEntity.Record} :
    (createLegalEntity name taxId).Yields d r d' ↔
      Text.trim name ≠ "" ∧ Text.trim taxId ≠ "" ∧ d.ids.next ≠ "" ∧
        r = .fresh d.ids.next ⟨Text.trim name, Text.trim taxId⟩ ∧
        d' = d.enter .legalEntity ⟨Text.trim name, Text.trim taxId⟩ := by
  rw [createLegalEntity, bind_eq, yields_requireText_bind]
  refine and_congr_right fun _ => ?_
  rw [bind_eq, yields_requireText_bind]
  exact and_congr_right fun _ => yields_enter

theorem yields_createFleet {legalEntityId name : String} {r : Kind.fleet.Record} :
    (createFleet legalEntityId name).Yields d r d' ↔
      legalEntityId ≠ "" ∧ Text.trim name ≠ "" ∧
        (∃ e, d.books.find .legalEntity legalEntityId = some e ∧
          d.ids.next ≠ "" ∧ r = .fresh d.ids.next ⟨legalEntityId, Text.trim name⟩ ∧
          d' = d.enter .fleet ⟨legalEntityId, Text.trim name⟩) := by
  rw [createFleet, bind_eq, yields_requireId_bind]
  refine and_congr_right fun _ => ?_
  rw [bind_eq, yields_requireText_bind]
  refine and_congr_right fun _ => ?_
  rw [bind_eq, yields_requireRecord_bind]
  exact exists_congr fun _ => and_congr_right fun _ => yields_enter

theorem yields_createVehicle {fleetId make model licensePlate : String} {year : Int}
    {r : Kind.vehicle.Record} :
    (createVehicle fleetId make model year licensePlate).Yields d r d' ↔
      fleetId ≠ "" ∧ Text.trim make ≠ "" ∧ Text.trim model ≠ "" ∧ Vehicle.isPlausibleYear year ∧
        ∃ f, d.books.find .fleet fleetId = some f ∧ d.ids.next ≠ "" ∧
          r = .fresh d.ids.next
            ⟨fleetId, Text.trim make, Text.trim model, year, Text.trim licensePlate⟩ ∧
          d' = d.enter .vehicle
            ⟨fleetId, Text.trim make, Text.trim model, year, Text.trim licensePlate⟩ := by
  rw [createVehicle, bind_eq, yields_requireId_bind]
  refine and_congr_right fun _ => ?_
  rw [bind_eq, yields_requireText_bind]
  refine and_congr_right fun _ => ?_
  rw [bind_eq, yields_requireText_bind]
  refine and_congr_right fun _ => ?_
  rw [bind_eq, yields_require_bind]
  refine and_congr_right fun _ => ?_
  rw [bind_eq, yields_requireRecord_bind]
  exact exists_congr fun _ => and_congr_right fun _ => yields_enter

/-- A driver is created only on the register's word that the license is valid. -/
theorem yields_createDriver {firstName lastName licenseNumber : String} {r : Kind.driver.Record} :
    (createDriver firstName lastName licenseNumber).Yields d r d' ↔
      Text.trim firstName ≠ "" ∧ Text.trim lastName ≠ "" ∧ Text.trim licenseNumber ≠ "" ∧
        ∃ p : Driver, p = ⟨Text.trim firstName, Text.trim lastName, Text.trim licenseNumber⟩ ∧
          d.register p = .ok .valid ∧ d.ids.next ≠ "" ∧ r = .fresh d.ids.next p ∧
          d' = (d.inquire p).enter .driver p := by
  rw [createDriver, bind_eq, yields_requireText_bind]
  refine and_congr_right fun _ => ?_
  rw [bind_eq, yields_requireText_bind]
  refine and_congr_right fun _ => ?_
  rw [bind_eq, yields_requireText_bind]
  refine and_congr_right fun _ => ?_
  rw [bind_eq, yields_bind, exists_eq_left]
  constructor
  · rintro ⟨v, e, hv, h⟩
    obtain ⟨hreg, rfl⟩ := yields_verdict.mp hv
    obtain ⟨hvalid, h⟩ := yields_require_bind.mp h
    rw [beq_iff_eq.mp hvalid] at hreg
    exact ⟨hreg, yields_enter.mp h⟩
  · rintro ⟨hv, h⟩
    exact ⟨_, _, yields_verdict.mpr ⟨hv, rfl⟩, yields_require_bind.mpr ⟨rfl, yields_enter.mpr h⟩⟩

/-- No contract of these parties that is on record overlaps the days. -/
theorem find?_inTheWay_eq_none_iff {b : Books} {driverId legalEntityId fleetId : String}
    {first last : Date} :
    (b.list (.contractsOf driverId)).find? (fun r =>
        r.data.covers driverId legalEntityId fleetId && r.data.overlaps first last) = none ↔
      ∀ c, b.Live .contract c → c.data.covers driverId legalEntityId fleetId →
        ¬ c.data.overlaps first last := by
  rw [List.find?_eq_none]
  constructor
  · intro h c hc hcov hover
    -- the list holds the contracts of the driver, and whoever covers the parties is one of them
    have hd : c.data.driverId == driverId := by
      rw [Contract.covers, Bool.and_eq_true, Bool.and_eq_true] at hcov
      exact hcov.1.1
    exact h c (Books.mem_list.mpr ⟨hc, hd⟩) (Bool.and_eq_true_iff.mpr ⟨hcov, hover⟩)
  · intro h c hc hway
    obtain ⟨hcov, hover⟩ := Bool.and_eq_true_iff.mp hway
    exact h c (Books.mem_list.mp hc).1 hcov hover

/-- A contract is created only between parties on record, and only if no contract of the same
parties overlaps it. -/
theorem yields_createContract {driverId legalEntityId fleetId : String} {first last : Date}
    {r : Kind.contract.Record} :
    (createContract driverId legalEntityId fleetId first last).Yields d r d' ↔
      (driverId ≠ "" ∧ legalEntityId ≠ "" ∧ fleetId ≠ "") ∧ first < last ∧
        ∃ p, d.books.find .driver driverId = some p ∧
        ∃ e, d.books.find .legalEntity legalEntityId = some e ∧
        ∃ f, d.books.find .fleet fleetId = some f ∧
          (∀ c, d.books.Live .contract c → c.data.covers driverId legalEntityId fleetId →
            ¬ c.data.overlaps first last) ∧
          d.ids.next ≠ "" ∧
          r = .fresh d.ids.next ⟨driverId, legalEntityId, fleetId, first, last, none, none⟩ ∧
          d' = d.enter .contract ⟨driverId, legalEntityId, fleetId, first, last, none, none⟩ := by
  rw [createContract, bind_eq, yields_require_bind]
  refine and_congr (by simp [and_assoc]) ?_
  rw [bind_eq, yields_require_bind, decide_eq_true_iff]
  refine and_congr_right fun _ => ?_
  rw [bind_eq, yields_requireRecord_bind]
  refine exists_congr fun _ => and_congr_right fun _ => ?_
  rw [bind_eq, yields_requireRecord_bind]
  refine exists_congr fun _ => and_congr_right fun _ => ?_
  rw [bind_eq, yields_requireRecord_bind]
  refine exists_congr fun _ => and_congr_right fun _ => ?_
  rw [bind_eq, yields_call_bind rfl, ← find?_inTheWay_eq_none_iff]
  rcases List.find? _ _ with _ | c
  · exact yields_enter.trans (and_iff_right rfl).symm
  · exact ⟨fun h => absurd h not_yields_fail, fun h => nomatch h.1⟩

/-- Only a live contract that is not terminated can be terminated. -/
theorem yields_terminateContract {id terminatedBy : String} {r : Kind.contract.Record} :
    (terminateContract id terminatedBy).Yields d r d' ↔
      id ≠ "" ∧ Text.trim terminatedBy ≠ "" ∧
        ∃ c, d.books.find .contract id = some c ∧ c.data.terminatedAt = none ∧
          r = c.revise (c.data.terminate d.clock (Text.trim terminatedBy)) ∧
          d' = d.write .contract
            (c.revise (c.data.terminate d.clock (Text.trim terminatedBy))) := by
  rw [terminateContract, bind_eq, yields_requireId_bind]
  refine and_congr_right fun _ => ?_
  rw [bind_eq, yields_requireText_bind]
  refine and_congr_right fun _ => ?_
  rw [bind_eq, yields_requireRecord_bind]
  refine exists_congr fun c => and_congr_right fun _ => ?_
  rw [bind_eq, yields_require_bind]
  refine and_congr (by simp [Contract.isTerminated]) ?_
  rw [bind_eq, yields_clock_bind]
  exact yields_save_done

/-- A vehicle is handed out only under an active contract about its fleet, and only to a driver who
holds no other vehicle of that fleet. -/
theorem yields_assignVehicle {contractId vehicleId : String} {r : Kind.assignment.Record} :
    (assignVehicle contractId vehicleId).Yields d r d' ↔
      (contractId ≠ "" ∧ vehicleId ≠ "") ∧
        ∃ c, d.books.find .contract contractId = some c ∧
        ∃ v, d.books.find .vehicle vehicleId = some v ∧
          v.data.fleetId = c.data.fleetId ∧ c.data.isActiveAt d.clock ∧
          d.books.activeInFleet c.data.driverId v.data.fleetId = none ∧
          d.ids.next ≠ "" ∧
          r = .fresh d.ids.next ⟨c.data.driverId, vehicleId, contractId, d.clock, none⟩ ∧
          d' = d.enter .assignment ⟨c.data.driverId, vehicleId, contractId, d.clock, none⟩ := by
  rw [assignVehicle, bind_eq, yields_require_bind]
  refine and_congr (by simp) ?_
  rw [bind_eq, yields_requireRecord_bind]
  refine exists_congr fun c => and_congr_right fun _ => ?_
  rw [bind_eq, yields_requireRecord_bind]
  refine exists_congr fun v => and_congr_right fun _ => ?_
  rw [bind_eq, yields_require_bind, beq_iff_eq]
  refine and_congr_right fun _ => ?_
  rw [bind_eq, yields_clock_bind, bind_eq, yields_require_bind]
  refine and_congr_right fun _ => ?_
  rw [bind_eq, yields_call_bind rfl, bind_eq, yields_require_bind, Option.isNone_iff_eq_none]
  exact and_congr_right fun _ => yields_enter

/-- Only a live assignment that is not returned can be returned. -/
theorem yields_returnVehicle {id : String} {r : Kind.assignment.Record} :
    (returnVehicle id).Yields d r d' ↔
      id ≠ "" ∧ ∃ a, d.books.find .assignment id = some a ∧ a.data.endTime = none ∧
        r = a.revise (a.data.finish d.clock) ∧
        d' = d.write .assignment (a.revise (a.data.finish d.clock)) := by
  rw [returnVehicle, bind_eq, yields_requireId_bind]
  refine and_congr_right fun _ => ?_
  rw [bind_eq, yields_requireRecord_bind]
  refine exists_congr fun a => and_congr_right fun _ => ?_
  rw [bind_eq, yields_require_bind]
  refine and_congr (by simp [Assignment.isReturned]) ?_
  rw [bind_eq, yields_clock_bind]
  exact yields_save_done

theorem yields_validateLicense {driverId : String} {v : Verdict} :
    (validateLicense driverId).Yields d v d' ↔
      driverId ≠ "" ∧ ∃ p, d.books.find .driver driverId = some p ∧
        d.register p.data = .ok v ∧ d' = d.inquire p.data := by
  rw [validateLicense, bind_eq, yields_requireId_bind]
  refine and_congr_right fun _ => ?_
  rw [bind_eq, yields_requireRecord_bind]
  exact exists_congr fun _ => and_congr_right fun _ => yields_verdict

theorem yields_get {kind : Kind} {id : String} {r : kind.Record} :
    (get kind id).Yields d r d' ↔ id ≠ "" ∧ d.books.find kind id = some r ∧ d' = d := by
  rw [get, bind_eq, yields_requireId_bind]
  exact and_congr_right fun _ => yields_requireRecord

theorem yields_list {listing : Storage.Listing} {rs : List listing.kind.Record} :
    (list listing).Yields d rs d' ↔
      (∀ field id, listArgument listing = some (field, id) → id ≠ "") ∧
        rs = d.books.list listing ∧ d' = d := by
  rw [list]
  rcases listArgument listing with _ | ⟨field, id⟩
  · exact (yields_call rfl).trans (and_iff_right (fun _ _ h => nomatch h)).symm
  · refine yields_requireId_bind.trans (and_congr ?_ (yields_call rfl))
    constructor
    · rintro h _ _ ⟨⟩
      exact h
    · exact fun h => h field id rfl

/-- Neither contracts nor vehicles stand in the way of deleting the driver. -/
def NoObligations (d : Desk Memory) (driverId : String) : Prop :=
  (∀ c, d.books.Live .contract c → c.data.driverId = driverId →
    ¬ c.data.blocksDriverDeletion d.clock) ∧
  ∀ a, d.books.Live .assignment a → a.data.driverId = driverId → a.data.endTime ≠ none

theorem yields_requireNoObligations {driverId : String} {u : Unit} :
    (requireNoObligations driverId).Yields d u d' ↔ NoObligations d driverId ∧ d' = d := by
  rw [requireNoObligations, bind_eq, yields_clock_bind, bind_eq, yields_call_bind rfl, bind_eq,
    yields_require_bind, bind_eq, yields_call_bind rfl, yields_require, NoObligations, and_assoc]
  refine and_congr ?_ (and_congr_left' ?_)
  · rw [Bool.not_eq_true', List.any_eq_false]
    constructor
    · intro h c hc hd
      exact h c (Books.mem_list.mpr ⟨hc, beq_iff_eq.mpr hd⟩)
    · intro h c hc
      obtain ⟨hl, hd⟩ := Books.mem_list.mp hc
      exact h c hl (beq_iff_eq.mp hd)
  · rw [List.isEmpty_iff, List.eq_nil_iff_forall_not_mem]
    constructor
    · intro h a ha hd he
      exact h a (Books.mem_activeAssignments.mpr ⟨ha, hd, he⟩)
    · intro h a ha
      obtain ⟨hl, hd, he⟩ := Books.mem_activeAssignments.mp ha
      exact h a hl hd he

/-- A live record is deleted; if it is a driver, then nothing may stand in the way. -/
theorem yields_delete {kind : Kind} {id : String} {u : Unit} :
    (delete kind id).Yields d u d' ↔
      id ≠ "" ∧ (kind = .driver → NoObligations d id) ∧
        ∃ r, d.books.find kind id = some r ∧ d' = d.write kind (r.bury d.contents.wall) := by
  rw [delete, bind_eq, yields_requireId_bind]
  refine and_congr_right fun _ => ?_
  by_cases hk : kind = .driver
  · rw [if_pos hk, forall_prop_of_true hk]
    refine (yields_bind_same fun _ _ => yields_requireNoObligations).trans ?_
    exact (exists_const Unit).trans (and_congr_right fun _ => yields_bury)
  · rw [if_neg hk]
    exact yields_bury.trans (and_iff_right fun h => absurd h hk).symm

theorem yields_undelete {kind : Kind} {id : String} {u : Unit} :
    (undelete kind id).Yields d u d' ↔
      id ≠ "" ∧ ∃ r, d.books.lookup kind id = some r ∧ d' = d.write kind r.restore := by
  rw [undelete, bind_eq, yields_requireId_bind]
  exact and_congr_right fun _ => yields_restore

end Procedure

end LeaseDesk
