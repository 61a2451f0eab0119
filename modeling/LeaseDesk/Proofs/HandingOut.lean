import LeaseDesk.Proofs.Obstacles
import LeaseDesk.Proofs.Order

/-!
# What becomes of a vehicle that is asked for

A vehicle is handed out under a contract if nothing stands in the way, and
`Procedure.decided_assignVehicle` lists what can, in the order in which it is reported. Towards the
end of the list stands what the driver has already: no vehicle of the fleet may be out with the
driver, under any contract, and a vehicle that is deleted in the meantime still counts for its fleet
(`Books.HeldInFleet`).

The books are searched for such an assignment in the order of the assignments, so it is always the
one that began first which is found (`Books.activeInFleet_eq_some_iff`).
-/

namespace LeaseDesk

open Storage

namespace Storage.Books

variable {b : Books} {driverId fleetId : String} {a : Kind.assignment.Record}

/-- The driver has not returned the vehicle of the assignment, and the vehicle, deleted or not, is of
this fleet. -/
structure HeldInFleet (b : Books) (driverId fleetId : String) (a : Kind.assignment.Record) :
    Prop where
  live : b.Live .assignment a
  driver : a.data.driverId = driverId
  out : a.data.endTime = none
  fleet : ∃ v, b.Stored .vehicle v ∧ v.id = a.data.vehicleId ∧ v.data.fleetId = fleetId

/-- Of the assignments on which the driver holds vehicles of the fleet, this one began before all
others, or at the same moment under an identifier that comes first. -/
structure FirstHeldInFleet (b : Books) (driverId fleetId : String) (a : Kind.assignment.Record) :
    Prop where
  held : b.HeldInFleet driverId fleetId a
  least : ∀ s, b.HeldInFleet driverId fleetId s →
    a.data.startTime < s.data.startTime ∨
      a.data.startTime = s.data.startTime ∧ a.id ≤ s.id

theorem heldInFleet_iff : b.HeldInFleet driverId fleetId a ↔
    a ∈ b.activeAssignments driverId ∧ b.fleetOfVehicle a.data.vehicleId == some fleetId := by
  rw [mem_activeAssignments, beq_iff_eq, fleetOfVehicle_eq_some_iff]
  constructor
  · rintro ⟨hlive, hdriver, hout, hfleet⟩
    exact ⟨⟨hlive, hdriver, hout⟩, hfleet⟩
  · rintro ⟨⟨hlive, hdriver, hout⟩, hfleet⟩
    exact ⟨hlive, hdriver, hout, hfleet⟩

/-- What a search among the active assignments of the driver comes upon is the first one in the
fleet. -/
theorem activeInFleet_eq_some_iff :
    b.activeInFleet driverId fleetId = some a ↔ b.FirstHeldInFleet driverId fleetId a := by
  refine find?_sorted_eq_some_iff.trans ⟨?_, ?_⟩
  · rintro ⟨ha, hleast⟩
    refine ⟨heldInFleet_iff.mpr ha, fun s hs => ?_⟩
    obtain ⟨hactive, hfleet⟩ := heldInFleet_iff.mp hs
    exact precedes_assignment_iff.mp (hleast s hactive hfleet)
  · rintro ⟨ha, hleast⟩
    refine ⟨heldInFleet_iff.mp ha, fun s hactive hfleet => ?_⟩
    exact precedes_assignment_iff.mpr (hleast s (heldInFleet_iff.mpr ⟨hactive, hfleet⟩))

/-- Something is found exactly if there is something to be found. -/
theorem activeInFleet_isSome_iff :
    (b.activeInFleet driverId fleetId).isSome ↔ ∃ a, b.HeldInFleet driverId fleetId a := by
  rw [activeInFleet, List.find?_isSome]
  exact exists_congr fun a => heldInFleet_iff.symm

end Storage.Books

namespace Procedure

open Program

/-- **Handing out a vehicle.** A vehicle goes to the driver of an active contract about its fleet, if
the driver holds no vehicle of that fleet. What the driver holds there is looked up in any books by the
assignment that comes first. -/
theorem decided_assignVehicle (d : Desk Memory) (contractId vehicleId : String) :
    (assignVehicle contractId vehicleId).Decided d
        [.of (contractId = "" ∨ vehicleId = "") .assignmentPartiesRequired,
          .absent d.books .contract contractId,
          .absent d.books .vehicle vehicleId,
          .of (∃ c v, d.books.find .contract contractId = some c ∧
            d.books.find .vehicle vehicleId = some v ∧ v.data.fleetId ≠ c.data.fleetId)
            .foreignVehicle,
          .of (∃ c, d.books.find .contract contractId = some c ∧ ¬ c.data.isActiveAt d.clock)
            .contractNotActive,
          .of (∃ c v, d.books.find .contract contractId = some c ∧
            d.books.find .vehicle vehicleId = some v ∧
            ∃ a, d.books.HeldInFleet c.data.driverId v.data.fleetId a) .driverAlreadyAssigned,
          .unnamed d]
        (fun r d' => ∃ c, d.books.find .contract contractId = some c ∧
          r = .fresh d.ids.next ⟨c.data.driverId, vehicleId, contractId, d.clock, none⟩ ∧
          d' = d.enter .assignment ⟨c.data.driverId, vehicleId, contractId, d.clock, none⟩) ∧
      ∀ (m : Memory) (driverId fleetId : String), ∃ found,
        Memory.answer (.activeInFleet driverId fleetId) m = (.ok found, m) ∧
        (∀ a, found = some a ↔ m.books.FirstHeldInFleet driverId fleetId a) ∧
        (found = none ↔ ¬ ∃ a, m.books.HeldInFleet driverId fleetId a) := by
  constructor
  · refine (decided_require ?_).bind_same fun _ => ?_
    · rw [Bool.not_eq_false', Bool.or_eq_true, String.isEmpty_iff, String.isEmpty_iff]
    rintro _ rfl
    refine decided_requireRecord.bind_same fun _ => ?_
    intro c hc
    refine decided_requireRecord.bind_same fun _ => ?_
    intro v hv
    refine (decided_require ?_).bind_same fun _ => ?_
    · simp [hc, hv]
    rintro _ rfl
    refine decided_clock.bind_same fun _ => ?_
    rintro _ rfl
    refine (decided_require ?_).bind_same fun _ => ?_
    · simp [hc]
    rintro _ rfl
    refine (decided_call rfl).bind_same fun _ => ?_
    rintro _ rfl
    refine (decided_require ?_).bind_same fun _ => ?_
    · rw [Option.isNone_eq_false_iff]
      refine Iff.trans ?_ Books.activeInFleet_isSome_iff.symm
      simp [hc, hv]
    rintro _ rfl
    refine decided_enter.of_iff fun _ r d' => ?_
    simp [hc]
  · intro m driverId fleetId
    refine ⟨_, rfl, fun a => Books.activeInFleet_eq_some_iff, ?_⟩
    rw [← Books.activeInFleet_isSome_iff, Option.not_isSome_iff_eq_none]

end Procedure

end LeaseDesk
