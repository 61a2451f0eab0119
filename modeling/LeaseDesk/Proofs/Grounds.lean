import LeaseDesk.Proofs.Custody
import LeaseDesk.Proofs.Days

/-!
# What an assignment rests on

When a vehicle is handed out, its contract is checked: it is about the fleet of the vehicle, and it is
active. Afterwards the contract can be terminated, and the contract and the vehicle can be deleted and
restored. None of this takes the ground from under the assignment (`Books.Grounds`): the contract and
the vehicle are still on record, they still agree with the assignment, and the contract, as it stands
now, was active when the vehicle was handed out. The reason is that a contract is terminated at a later
time than any at which vehicles were handed out under it, as long as the clock does not run backwards.
-/

namespace LeaseDesk

open Storage

/-- What an assignment rests on: a contract and a vehicle on record, deleted or not. -/
structure Storage.Books.Grounds (b : Books) (a : Assignment) (c : Kind.contract.Record)
    (v : Kind.vehicle.Record) : Prop where
  contract : b.Stored .contract c ∧ c.id = a.contractId
  vehicle : b.Stored .vehicle v ∧ v.id = a.vehicleId
  driver : a.driverId = c.data.driverId
  fleet : v.data.fleetId = c.data.fleetId
  active : c.data.isActiveAt a.startTime
  inOrder : ∀ e, a.endTime = some e → a.startTime ≤ e

/-- Every assignment on record rests on a contract and a vehicle. -/
def Storage.Books.Grounded (b : Books) : Prop :=
  ∀ a, b.Stored .assignment a → ∃ c v, b.Grounds a.data c v

/-! ## One operation -/

/-- A contract that was active remains to have been so when it is terminated later. -/
theorem Contract.isActiveAt_terminate {c : Contract} {start now : Instant} {terminatedBy : String}
    (h : c.isActiveAt start) (hle : start ≤ now) :
    (c.terminate now terminatedBy).isActiveAt start := by
  obtain ⟨hfirst, hlast, -⟩ := isActiveAt_iff.mp h
  refine isActiveAt_iff.mpr ⟨hfirst, hlast, fun t ht => ?_⟩
  obtain rfl := Option.some.inj ht
  exact hle

theorem Kind.Revised.isActiveAt {c c' : Contract} {start now : Instant}
    (h : Kind.contract.Revised now c c') (hactive : c.isActiveAt start) (hle : start ≤ now) :
    c'.isActiveAt start := by
  cases h with
  | same => exact hactive
  | terminated => exact Contract.isActiveAt_terminate hactive hle

theorem Kind.Revised.parties {c c' : Contract} {now : Instant}
    (h : Kind.contract.Revised now c c') : c'.driverId = c.driverId ∧ c'.fleetId = c.fleetId := by
  cases h <;> exact ⟨rfl, rfl⟩

variable {op : Operation} {d d' : Desk Memory} {a : Assignment} {c : Kind.contract.Record}
  {v : Kind.vehicle.Record}

/-- A vehicle is returned after it was handed out. -/
theorem Storage.Books.Grounds.finish {b : Books} {now : Instant} (h : b.Grounds a c v)
    (hle : a.startTime ≤ now) : b.Grounds (a.finish now) c v := by
  refine ⟨h.contract, h.vehicle, h.driver, h.fleet, h.active, fun e he => ?_⟩
  obtain rfl := Option.some.inj he
  exact hle

/-- Whoever is handed a vehicle has good grounds. -/
theorem Desk.AdmitsAssignment.grounds (h : d.AdmitsAssignment a c v) : d.books.Grounds a c v := by
  obtain ⟨hc, hcid⟩ := Books.find_eq_some_iff.mp h.contract
  obtain ⟨hv, hvid⟩ := Books.find_eq_some_iff.mp h.vehicle
  obtain ⟨hstart, hend⟩ := h.handedOut
  refine ⟨⟨hc.stored, hcid⟩, ⟨hv.stored, hvid⟩, h.driver, h.fleet, ?_, fun e he => ?_⟩
  · rw [hstart]
    exact h.active
  · exact nomatch hend.symm.trans he

/-- **Grounds last.** What an assignment rests on before an operation is there after it, the contract
perhaps terminated, but not before the vehicle was handed out. -/
theorem Effect.grounds (he : Effect op d d') (hd : d.Orderly) (h : d.books.Grounds a c v)
    (hle : a.startTime ≤ d.clock) : ∃ c' v', d'.books.Grounds a c' v' := by
  obtain ⟨hc, hcid⟩ := h.contract
  obtain ⟨hv, hvid⟩ := h.vehicle
  obtain ⟨c', hc', hcid', hcrev⟩ := he.retains hd.numbered hd.neverRepeats hc
  obtain ⟨v', hv', hvid', hvrev⟩ := he.retains hd.numbered hd.neverRepeats hv
  obtain ⟨hdriver, hfleet⟩ := hcrev.parties
  refine ⟨c', v', ⟨hc', hcid'.trans hcid⟩, ⟨hv', hvid'.trans hvid⟩, ?_, ?_, ?_, h.inOrder⟩
  · rw [hdriver]
    exact h.driver
  · rw [hvrev.eq_of_vehicle, hfleet]
    exact h.fleet
  · exact hcrev.isActiveAt h.active hle

/-- An operation keeps all assignments grounded, if none of them begins later than now. -/
theorem Effect.grounded (he : Effect op d d') (hd : d.Orderly) (h : d.books.Grounded)
    (hclock : ∀ a, d.books.Stored .assignment a → a.data.startTime ≤ d.clock) :
    d'.books.Grounded := by
  -- what was on record before keeps its grounds
  have hold : ∀ a, d.books.Stored .assignment a → ∃ c v, d'.books.Grounds a.data c v := by
    intro a ha
    obtain ⟨c, v, hground⟩ := h a ha
    exact he.grounds hd hground (hclock a ha)
  intro a ha
  cases he.source ha with
  | kept stored => exact hold a stored
  | entered a _ admits _ _ =>
    obtain ⟨c, v, hadmits⟩ := admits
    refine he.grounds hd hadmits.grounds ?_
    rw [Record.fresh, hadmits.handedOut.1]
    exact Instant.le_refl _
  | returned r _ live _ =>
    obtain ⟨c, v, hground⟩ := h r live.stored
    have hle := hclock r live.stored
    exact he.grounds hd (hground.finish hle) hle
  | buried r _ live _ => exact hold r live.stored
  | restored r _ stored => exact hold r stored

/-! ## All operations -/

/-- **The books hang together**, as long as identifiers do not repeat and the clock does not run
backwards: no reference dangles, and every assignment rests on a contract and a vehicle. -/
theorem coherent_and_grounded {ids : IdSource} (hids : ids.NeverRepeats) {turns : List Turn}
    (hclock : Chronological turns) :
    (history ids turns).books.Coherent ∧ (history ids turns).books.Grounded := by
  refine ⟨coherent_history ids turns, ?_⟩
  refine history_invariant (P := fun d => d.books.Grounded)
    (fun a ha => absurd ha Books.not_stored_empty) ?_
  intro past t hp h
  obtain ⟨-, -, hlate⟩ := List.pairwise_append.mp (hclock.sublist hp.sublist)
  refine (t.effect _).grounded ((orderly_history hids past).prepare t) h fun a ha => ?_
  -- the vehicle was handed out in an earlier turn
  have hstamp := stamps_history ids past .assignment a ha a.data.startTime (List.mem_cons_self ..)
  obtain ⟨u, hu, hstart⟩ := exists_turn_of_mem_readings hstamp
  rw [← hstart]
  exact hlate u hu t (List.mem_singleton_self t)

/-- The driver takes a vehicle and returns it. Then the contract is terminated, and the contract and
the vehicle are deleted. -/
def leaseEnded : List Turn :=
  sampleFleet ++
    [.on newYear (.assignVehicle "contract" "vehicle"),
    .on januaryEnd (.returnVehicle "assignment"),
    .on januaryEnd (.terminateContract "contract" "Ada"),
    .on januaryEnd (.delete .contract "contract"),
    .on januaryEnd (.delete .vehicle "vehicle")]

/-- The assignment still rests on both of them. -/
theorem grounds_leaseEnded :
    ∃ c v, (history sampleIds leaseEnded).books.Grounds
      ⟨"driver", "vehicle", "contract", .startOfDay newYear, some (.startOfDay januaryEnd)⟩ c v := by
  have hclock : Chronological leaseEnded := by decide +kernel
  have ha : (history sampleIds leaseEnded).books.Stored .assignment (.fresh "assignment"
      ⟨"driver", "vehicle", "contract", .startOfDay newYear, some (.startOfDay januaryEnd)⟩) := by
    decide +kernel
  exact (coherent_and_grounded neverRepeats_sampleIds hclock).2 _ ha

end LeaseDesk
