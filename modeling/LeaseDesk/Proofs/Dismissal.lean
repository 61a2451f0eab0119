import LeaseDesk.Proofs.Days
import LeaseDesk.Proofs.Footprint
import LeaseDesk.Proofs.Obstacles

/-!
# What becomes of a driver who is to be deleted

A driver is deleted unless something stands in the way, and `dismissalObstacles` lists what can, in
the order in which it is reported: contracts that bind the driver (`Desk.Binds`), vehicles that are
out with the driver (`Books.HasOut`), and only then that there is no such driver, or not any more.
`Procedure.decided_deleteDriver` says that this is all, and that the deletion changes nothing but
the one record (`Dismissed`).

A contract binds as long as the date of the clock does not exceed its last day. On the last day of
the calendar no clock ever does (`Date.le_lastDay`).
-/

namespace LeaseDesk

open Storage

/-- The last day of the calendar. -/
def Date.lastDay : Date := ⟨Date.lastYear, 12, 31, by decide⟩

/-- No date is later, because the last day has no day after. -/
theorem Date.le_lastDay (x : Date) : x ≤ Date.lastDay := by
  rw [← Date.not_lt]
  intro h
  obtain ⟨n, hn, -⟩ := Date.exists_next_le h
  exact nomatch (show lastDay.next? = none by decide).symm.trans hn

variable {d d' : Desk Memory} {id : String}

/-- The contract of the driver is on record and not terminated, and its last day has not passed. It need
not have begun. -/
structure Desk.Binds (d : Desk Memory) (driverId : String) (c : Kind.contract.Record) : Prop where
  live : d.books.Live .contract c
  driver : c.data.driverId = driverId
  running : c.data.terminatedAt = none
  lastDay : d.clock.date ≤ c.data.endDate

/-- The driver has not returned the vehicle of the assignment. -/
structure Storage.Books.HasOut (b : Books) (driverId : String) (a : Kind.assignment.Record) :
    Prop where
  live : b.Live .assignment a
  driver : a.data.driverId = driverId
  out : a.data.endTime = none

/-- The driver was on record, and is deleted now. Nothing else has changed. -/
structure Dismissed (d : Desk Memory) (p : Kind.driver.Record) (d' : Desk Memory) : Prop where
  live : d.books.Live .driver p
  desk : d' = d.write .driver (p.bury d.contents.wall)
  deleted : d'.books.lookup .driver p.id = some (p.bury d.contents.wall)
  others : ∀ kind id, (kind, id) ≠ (.driver, p.id) →
    d'.books.lookup kind id = d.books.lookup kind id

/-- What can stand in the way of deleting a driver, in the order in which it is reported. -/
def dismissalObstacles (d : Desk Memory) (driverId : String) : List Obstacle :=
  [.of (driverId = "") (.required "id"),
    .of (∃ c, d.Binds driverId c) .driverHasContracts,
    .of (∃ a, d.books.HasOut driverId a) .driverHasAssignments,
    .of (d.books.lookup .driver driverId = none) (.missing .driver driverId),
    .of (d.books.Deleted .driver driverId) (.buried .driver driverId)]

theorem binds_iff {c : Kind.contract.Record} : d.Binds id c ↔
    c ∈ d.books.list (.contractsOf id) ∧ c.data.blocksDriverDeletion d.clock := by
  rw [Contract.blocksDriverDeletion_iff]
  constructor
  · rintro ⟨hlive, hdriver, hrunning, hlast⟩
    exact ⟨Books.mem_list.mpr ⟨hlive, beq_iff_eq.mpr hdriver⟩, hrunning, hlast⟩
  · rintro ⟨hlisted, hrunning, hlast⟩
    obtain ⟨hlive, hdriver⟩ := Books.mem_list.mp hlisted
    exact ⟨hlive, beq_iff_eq.mp hdriver, hrunning, hlast⟩

theorem hasOut_iff {a : Kind.assignment.Record} :
    d.books.HasOut id a ↔ a ∈ d.books.activeAssignments id := by
  rw [Books.mem_activeAssignments]
  exact ⟨fun ⟨hlive, hdriver, hout⟩ => ⟨hlive, hdriver, hout⟩,
    fun ⟨hlive, hdriver, hout⟩ => ⟨hlive, hdriver, hout⟩⟩

theorem dismissed_iff {p : Kind.driver.Record} :
    Dismissed d p d' ↔
      d.books.Live .driver p ∧ d' = d.write .driver (p.bury d.contents.wall) := by
  constructor
  · exact fun h => ⟨h.live, h.desk⟩
  · rintro ⟨hlive, rfl⟩
    refine ⟨hlive, rfl, ?_, fun kind id hne => ?_⟩
    · exact (Books.lookup_put _ _).trans (if_pos rfl)
    · exact Books.lookup_put_of_ne_target rfl fun h => hne (Option.some.inj h).symm

namespace Procedure

open Program

theorem decided_requireNoObligations :
    (requireNoObligations id).Decided d
      [.of (∃ c, d.Binds id c) .driverHasContracts,
        .of (∃ a, d.books.HasOut id a) .driverHasAssignments]
      fun u d' => u = () ∧ d' = d := by
  refine decided_clock.bind_same fun _ => ?_
  rintro _ rfl
  refine (decided_call rfl).bind_same fun _ => ?_
  rintro _ rfl
  refine (decided_require ?_).bind_same fun _ => ?_
  · rw [Bool.not_eq_false', List.any_eq_true]
    exact exists_congr fun c => binds_iff
  rintro _ rfl
  refine (decided_call rfl).bind_same fun _ => ?_
  rintro _ rfl
  refine decided_require ?_
  rw [List.isEmpty_eq_false_iff_exists_mem]
  exact exists_congr fun a => hasOut_iff

/-- **Deleting a driver.** A driver is deleted if no contract binds the driver and no vehicle is
out, and nothing else changes. What stands in the way is reported before anybody looks whether there
is such a driver. A contract that runs to the last day of the calendar always binds, and whoever is
bound by a contract is told so, with vehicles out or not. -/
theorem decided_deleteDriver (d : Desk Memory) (id : String) :
    (delete .driver id).Decided d (dismissalObstacles d id)
        (fun _ d' => ∃ p, p.id = id ∧ Dismissed d p d') ∧
      (∀ c, d.books.Live .contract c → c.data.driverId = id → c.data.terminatedAt = none →
        c.data.endDate = Date.lastDay → d.Binds id c) ∧
      ∀ c, id ≠ "" → d.Binds id c →
        ∀ e, (delete .driver id).Fails d e ↔ e = .driverHasContracts := by
  have hdecided : (delete .driver id).Decided d (dismissalObstacles d id)
      fun _ d' => ∃ p, p.id = id ∧ Dismissed d p d' := by
    refine decided_requireId.bind_same fun _ => ?_
    rintro _ rfl
    refine decided_requireNoObligations.bind_same fun _ => ?_
    rintro _ rfl
    refine decided_bury.of_iff fun _ _ d' => exists_congr fun p => ?_
    rw [dismissed_iff, Books.find_eq_some_iff, and_assoc, and_left_comm]
  refine ⟨hdecided, ?_, ?_⟩
  · intro c hlive hdriver hrunning hlast
    exact ⟨hlive, hdriver, hrunning, hlast ▸ Date.le_lastDay _⟩
  · intro c hid hc e
    have hbound : ∃ c, d.Binds id c := ⟨c, hc⟩
    rw [hdecided.fails, dismissalObstacles, stoppedBy_cons, stoppedBy_cons]
    simp [Obstacle.of, hid, hbound]

end Procedure

end LeaseDesk
