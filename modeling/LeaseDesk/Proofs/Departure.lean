import LeaseDesk.Proofs.Custody
import LeaseDesk.Proofs.Days
import LeaseDesk.Proofs.Readings

/-!
# Drivers who are deleted

A driver is deleted only if nothing stands in the way: every live contract of the driver is terminated
or past its last day, and every vehicle is returned. The check is made once, and with a rule of its
own. What it is worth later on depends on what the desk does for a deleted driver. It makes no new
contract for one, but it hands vehicles out without a look at the driver, under any contract that is
active. So everything hangs on the contracts being over (`Contract.IsOver`), and on their staying so.

They do stay so, because the clock goes forward and a contract that was terminated in an earlier
reading of it is never active again. Only restoring can bring a running contract back to a deleted
driver, and restoring checks nothing (`settled_always_iff`). Under a contract that was not brought back
in this way, vehicles go to drivers on record only (`driver_of_assignVehicle`); and where neither
contracts nor assignments are restored, a deleted driver is through with both for good
(`nothing_left_of_deleted`).
-/

namespace LeaseDesk

open Storage

/-! ## Contracts that are over -/

namespace Contract

/-- The last day of the contract has passed, or it was terminated before. -/
def IsOver (c : Contract) (now : Instant) : Prop :=
  c.endDate < now.date ∨ ∃ t, c.terminatedAt = some t ∧ t < now

variable {c : Contract} {now later : Instant}

theorem IsOver.mono (h : c.IsOver now) (hle : now ≤ later) : c.IsOver later := by
  rcases h with hlast | ⟨t, ht, hlt⟩
  · exact .inl (Date.lt_of_lt_of_le hlast (Instant.date_le_date hle))
  · exact .inr ⟨t, ht, Instant.lt_of_lt_of_le hlt hle⟩

/-- Terminating what is over does not revive it. -/
theorem IsOver.terminate {terminatedBy : String} (h : c.IsOver now)
    (hrunning : c.terminatedAt = none) : (c.terminate later terminatedBy).IsOver now := by
  rcases h with hlast | ⟨t, ht, -⟩
  · exact .inl hlast
  · exact nomatch hrunning.symm.trans ht

theorem IsOver.not_isActiveAt (h : c.IsOver now) : ¬ c.isActiveAt now := by
  intro hactive
  obtain ⟨-, hlast, hterm⟩ := isActiveAt_iff.mp hactive
  rcases h with hpassed | ⟨t, ht, hlt⟩
  · exact Date.not_lt.mpr hlast hpassed
  · exact Instant.not_lt.mpr (hterm t ht) hlt

theorem IsOver.not_blocksDriverDeletion (h : c.IsOver now) : ¬ c.blocksDriverDeletion now := by
  intro hblocks
  obtain ⟨hrunning, hlast⟩ := blocksDriverDeletion_iff.mp hblocks
  rcases h with hpassed | ⟨t, ht, -⟩
  · exact Date.not_lt.mpr hlast hpassed
  · exact nomatch hrunning.symm.trans ht

/-- What does not stand in the way of deleting the driver is over, if it was not terminated just
now. -/
theorem isOver_of_not_blocksDriverDeletion (h : ¬ c.blocksDriverDeletion now)
    (hterm : ∀ t, c.terminatedAt = some t → t < now) : c.IsOver now := by
  rcases ht : c.terminatedAt with _ | t
  · refine .inl (Date.not_le.mp fun hlast => h ?_)
    exact blocksDriverDeletion_iff.mpr ⟨ht, hlast⟩
  · exact .inr ⟨t, ht, hterm t ht⟩

end Contract

namespace Storage.Books

/-- The driver is on record, but deleted. -/
def Departed (b : Books) (driverId : String) : Prop :=
  ∃ p, b.Stored .driver p ∧ p.id = driverId ∧ p.isDeleted

/-- The contract, if it is live and its driver is deleted, is over. -/
def Settled (b : Books) (contractId : String) (now : Instant) : Prop :=
  ∀ c, b.find .contract contractId = some c → b.Departed c.data.driverId → c.data.IsOver now

/-- No deleted driver has a vehicle. -/
def VehiclesBack (b : Books) : Prop :=
  ∀ a, b.Live .assignment a → b.Departed a.data.driverId → a.data.endTime ≠ none

theorem not_departed_of_find {b : Books} {driverId : String} {p : Kind.driver.Record}
    (h : b.find .driver driverId = some p) : ¬ b.Departed driverId := by
  rintro ⟨q, hq, hid, hdeleted⟩
  obtain ⟨hp, rfl⟩ := find_eq_some_iff.mp h
  obtain rfl := hq.eq_of_id_eq hp.stored hid
  rw [Record.isDeleted_eq_not_isLive, hp.isLive] at hdeleted
  exact nomatch hdeleted

/-- Who is on record is live or deleted. -/
theorem find_or_departed {b : Books} {driverId : String} (h : b.Knows (.driver, driverId)) :
    (∃ p, b.find .driver driverId = some p) ∨ b.Departed driverId := by
  obtain ⟨p, hp, hid⟩ := h
  by_cases hlive : p.isLive
  · exact .inl ⟨p, find_eq_some_iff.mpr ⟨live_iff.mpr ⟨hp, hlive⟩, hid⟩⟩
  · refine .inr ⟨p, hp, hid, ?_⟩
    rw [Record.isDeleted_eq_not_isLive, Bool.not_eq_true']
    exact Bool.not_eq_true _ ▸ hlive

end Storage.Books

/-! ## One operation -/

variable {op : Operation} {d d' : Desk Memory} {now : Instant}

/-- A deleted driver was deleted before, or has just been deleted with nothing standing in the way. -/
theorem Effect.departed (he : Effect op d d') {driverId : String}
    (h : d'.books.Departed driverId) :
    d.books.Departed driverId ∨
      op = .delete .driver driverId ∧ Procedure.NoObligations d driverId := by
  obtain ⟨p, hp, rfl, hdeleted⟩ := h
  cases he.source hp with
  | kept stored => exact .inl ⟨p, stored, rfl, hdeleted⟩
  | entered => exact nomatch hdeleted
  | buried r operation _ free => exact .inr ⟨operation, free rfl⟩
  | restored => exact nomatch hdeleted

/-- **Only restoring can bring a running contract back.** Whatever else an operation does, it keeps a
contract settled, if the clock has moved on since contracts were terminated. -/
theorem Effect.settled (he : Effect op d d') {contractId : String}
    (h : d.books.Settled contractId now)
    (hdelete : ∀ id, op = .delete .driver id → d.clock ≤ now ∧
      ∀ c, d.books.Stored .contract c → ∀ t, c.data.terminatedAt = some t → t < d.clock)
    (hrestored : op = .undelete .contract contractId →
      ∀ c, d.books.lookup .contract contractId = some c → d.books.Departed c.data.driverId →
        c.data.IsOver now) : d'.books.Settled contractId now := by
  -- a contract that was live before is over, also if the driver has only just been deleted
  have hold : ∀ r, d.books.Live .contract r → r.id = contractId →
      d'.books.Departed r.data.driverId → r.data.IsOver now := by
    intro r hr hid hgone
    rcases he.departed hgone with hgone | ⟨hop, hfree, -⟩
    · exact h r (Books.find_eq_some_iff.mpr ⟨hr, hid⟩) hgone
    · obtain ⟨hle, hterm⟩ := hdelete _ hop
      have hover := Contract.isOver_of_not_blocksDriverDeletion (hfree r hr rfl)
        (hterm r hr.stored)
      exact hover.mono hle
  intro c hc hgone
  obtain ⟨hlive, hid⟩ := Books.find_eq_some_iff.mp hc
  cases he.source hlive.stored with
  | kept stored => exact hold c (Books.live_iff.mpr ⟨stored, hlive.isLive⟩) hid hgone
  | entered _ operation admits =>
    -- the driver of a new contract was found live
    obtain ⟨p, hp⟩ := admits.driver
    rcases he.departed hgone with hgone | ⟨rfl, -⟩
    · exact absurd hgone (Books.not_departed_of_find hp)
    · exact nomatch operation
  | terminated r _ _ live running => exact (hold r live hid hgone).terminate running
  | buried => exact nomatch hlive.isLive
  | restored r operation stored =>
    obtain rfl : r.id = contractId := hid
    rcases he.departed hgone with hgone | ⟨hop, -⟩
    · exact hrestored operation r stored hgone
    · exact nomatch operation.symm.trans hop

/-- **No vehicle for a deleted driver.** An operation other than restoring an assignment leaves deleted
drivers without vehicles, if all contracts are settled when vehicles are handed out. -/
theorem Effect.vehiclesBack (he : Effect op d d') (h : d.books.VehiclesBack)
    (hsettled : op.enters = some .assignment → ∀ id, d.books.Settled id d.clock)
    (hrestored : ∀ id, op ≠ .undelete .assignment id) : d'.books.VehiclesBack := by
  intro a ha hgone
  cases he.source ha.stored with
  | kept stored =>
    have hlive := Books.live_iff.mpr ⟨stored, ha.isLive⟩
    rcases he.departed hgone with hgone | ⟨-, -, hfree⟩
    · exact h a hlive hgone
    · exact hfree a hlive rfl
  | entered a operation admits =>
    obtain ⟨c, v, hadmits⟩ := admits
    rcases he.departed hgone with hgone | ⟨rfl, -⟩
    · rw [Record.fresh, hadmits.driver] at hgone
      have hover := hsettled operation _ c hadmits.contract hgone
      exact absurd hadmits.active hover.not_isActiveAt
    · exact nomatch operation
  | returned => exact nofun
  | buried => exact nomatch ha.isLive
  | restored r operation => exact absurd operation (hrestored r.id)

/-! ## All operations -/

/-- The contract is settled from now on. -/
def SettledFor (ids : IdSource) (turns : List Turn) (contractId : String) : Prop :=
  ∀ now, (∀ r ∈ readings ids turns, r ≤ now) → (history ids turns).books.Settled contractId now

/-- The turn restores the contract while its driver is deleted, and the contract is not over. What the
clock has shown so far is not later than `now`. -/
def Turn.RestoresRunning (t : Turn) (d : Desk Memory) (shown : List Instant)
    (contractId : String) : Prop :=
  t.operation = .undelete .contract contractId ∧
    ∃ c now, d.books.lookup .contract contractId = some c ∧ d.books.Departed c.data.driverId ∧
      (∀ r ∈ shown, r ≤ now) ∧ ¬ c.data.IsOver now

variable {ids : IdSource} {past turns : List Turn} {t : Turn} {contractId : String}

/-- Nothing stops such a turn, and the contract is there again. -/
theorem Turn.RestoresRunning.not_settledFor
    (h : t.RestoresRunning (history ids past) (readings ids past) contractId) :
    ¬ SettledFor ids (past ++ [t]) contractId := by
  obtain ⟨hop, c, now, hc, hgone, hnow, hrunning⟩ := h
  obtain ⟨hstored, rfl⟩ := Books.lookup_eq_some_iff.mp hc
  intro hsettled
  have hbooks := Turn.books_after_undelete hop ((numbered_history ids past).named hstored) hstored
  have hshown : ∀ r ∈ readings ids (past ++ [t]), r ≤ now := by
    rwa [readings_append_singleton, Turn.reads_undelete hop, List.append_nil]
  have hafter := hsettled now hshown
  rw [history_append_singleton, hbooks] at hafter
  refine hrunning (hafter c.restore ?_ hgone)
  exact Books.find_eq_some_iff.mpr ⟨Books.live_put.mpr (.inl ⟨rfl, rfl⟩), rfl⟩

/-- Other turns keep the contract settled. -/
theorem SettledFor.append_singleton (h : SettledFor ids past contractId)
    (hclock : (readings ids (past ++ [t])).Pairwise (· < ·))
    (hgood : ¬ t.RestoresRunning (history ids past) (readings ids past) contractId) :
    SettledFor ids (past ++ [t]) contractId := by
  intro now hnow
  have hpast : ∀ r ∈ readings ids past, r ≤ now := by
    intro r hr
    exact hnow r ((readings_mono (List.prefix_append past [t])).subset hr)
  rw [history_append_singleton]
  rcases t.untouched_or_reads (history ids past) with hbooks | hreads
  · rw [hbooks]
    exact h now hpast
  · refine (t.effect _).settled (h now hpast) ?_ ?_
    · intro id hop
      have hread := hreads (by rw [hop]; rfl)
      refine ⟨hnow _ ?_, fun c hc u hu => lt_clock_of_mem_readings hclock hread ?_⟩
      · rw [readings_append_singleton]
        exact List.mem_append_right _ hread
      · exact stamps_history ids past .contract c hc u (Option.mem_toList.mpr hu)
    · intro hop c hc hgone
      by_contra hrunning
      exact hgood ⟨hop, c, now, hc, hgone, hpast, hrunning⟩

/-- **When a contract is settled.** With a clock that goes forward, a contract is settled all through
a history exactly if no turn of it restores the contract, running, while its driver is deleted. -/
theorem settled_always_iff (hclock : (readings ids turns).Pairwise (· < ·)) :
    (∀ past, past <+: turns → SettledFor ids past contractId) ↔
      ∀ past t, past ++ [t] <+: turns →
        ¬ t.RestoresRunning (history ids past) (readings ids past) contractId := by
  have start : SettledFor ids [] contractId := by
    intro now _ c hc
    exact absurd (Books.find_eq_some_iff.mp hc).1 Books.not_live_empty
  refine turns_always_iff start fun past t hp h => ?_
  refine ⟨fun hafter hbad => hbad.not_settledFor hafter, fun hgood => ?_⟩
  exact h.append_singleton (hclock.sublist (readings_mono hp).sublist) hgood

/-! ## Who gets a vehicle -/

open Program Procedure in
/-- **Whom vehicles are handed to.** With a clock that goes forward, a vehicle is handed out under a
contract only while the driver is on record and not deleted, unless the contract was restored, running,
while its driver was deleted. -/
theorem driver_of_assignVehicle (hclock : (readings ids (past ++ [t])).Pairwise (· < ·))
    (hturns : ∀ earlier u, earlier ++ [u] <+: past →
      ¬ u.RestoresRunning (history ids earlier) (readings ids earlier) contractId)
    {vehicleId : String} (hop : t.operation = .assignVehicle contractId vehicleId) {out : Outcome}
    (hok : (t.play (history ids past)).1 = .ok out) :
    ∃ c p, (history ids past).books.find .contract contractId = some c ∧
      (history ids past).books.find .driver c.data.driverId = some p := by
  have hread := Turn.clock_mem_reads (by rw [hop]; rfl) hok
  have hrun := Turn.yields_of_ok hok
  rw [hop] at hrun
  obtain ⟨r, hassign, -⟩ := yields_map.mp hrun
  obtain ⟨-, c, hc, -, -, -, hactive, -⟩ := yields_assignVehicle.mp hassign
  have hstored := (Books.find_eq_some_iff.mp hc).1.stored
  have hknown : (history ids past).books.Knows (.driver, c.data.driverId) := by
    exact coherent_history ids past .contract c hstored _ (by simp [Kind.references])
  rcases Books.find_or_departed hknown with ⟨p, hp⟩ | hgone
  · exact ⟨c, p, hc, hp⟩
  · -- the contract of a deleted driver would be over, but it is active
    have hpast := hclock.sublist (readings_mono (List.prefix_append past [t])).sublist
    have hsettled := (settled_always_iff hpast).mpr hturns past (List.prefix_refl _)
    have hover := hsettled t.clock
      (fun r hr => Instant.le_of_lt (lt_clock_of_mem_readings hclock hread hr)) c hc hgone
    exact absurd hactive hover.not_isActiveAt

/-- A refused attempt to delete the driver, who has a contract. -/
def deletionRefused : List Turn :=
  sampleFleet ++
    [.on newYear (.delete .contract "contract2"),
    .on newYear (.delete .driver "driver")]

/-- The driver takes a vehicle. -/
def vehicleTaken : Turn :=
  .on januaryEnd (.assignVehicle "contract" "vehicle")

/-- The driver gets the vehicle after the refusal, and is on record. -/
theorem driver_vehicleTaken :
    ∃ c p, (history sampleIds deletionRefused).books.find .contract "contract" = some c ∧
      (history sampleIds deletionRefused).books.find .driver c.data.driverId = some p := by
  have hclock : (readings sampleIds (deletionRefused ++ [vehicleTaken])).Pairwise (· < ·) := by
    decide +kernel
  have hop : ∀ t ∈ deletionRefused, t.operation ≠ .undelete .contract "contract" := by
    simp [deletionRefused, sampleFleet, sampleParties, Turn.on]
  have hok : (vehicleTaken.play (history sampleIds deletionRefused)).1.isOk := by decide +kernel
  rcases hout : (vehicleTaken.play (history sampleIds deletionRefused)).1 with e | out
  · rw [hout] at hok
    cases hok
  · refine driver_of_assignVehicle hclock (fun earlier u hu hbad => ?_) rfl hout
    exact hop u (hu.subset (by simp)) hbad.1

/-- The contracts of the driver are deleted, the driver is deleted, and one contract is restored. -/
def contractOfDeleted : List Turn :=
  sampleFleet ++
    [.on newYear (.delete .contract "contract"),
    .on newYear (.delete .contract "contract2"),
    .on newYear (.delete .driver "driver"),
    .on newYear (.undelete .contract "contract")]

/-- The deleted driver gets a vehicle then. -/
theorem not_driver_contractOfDeleted :
    (readings sampleIds (contractOfDeleted ++ [vehicleTaken])).Pairwise (· < ·) ∧
    (vehicleTaken.play (history sampleIds contractOfDeleted)).1.isOk ∧
    ¬ ∃ c p, (history sampleIds contractOfDeleted).books.find .contract "contract" = some c ∧
      (history sampleIds contractOfDeleted).books.find .driver c.data.driverId = some p := by
  refine ⟨by decide +kernel, by decide +kernel, ?_⟩
  rintro ⟨c, p, hc, hp⟩
  have hcontract : (history sampleIds contractOfDeleted).books.find .contract "contract" =
      some (.fresh "contract" januaryContract) := by
    decide +kernel
  obtain rfl := Option.some.inj (hcontract.symm.trans hc)
  have hgone : (history sampleIds contractOfDeleted).books.find .driver "driver" = none := by
    decide +kernel
  exact nomatch hgone.symm.trans hp

/-! ## What is left of a deleted driver -/

/-- As long as contracts are settled and no assignment is restored, deleted drivers have no
vehicles. -/
theorem vehiclesBack_history (hclock : (readings ids turns).Pairwise (· < ·))
    (hsettled : ∀ past, past <+: turns → ∀ id, SettledFor ids past id)
    (hturns : ∀ t ∈ turns, ∀ id, t.operation ≠ .undelete .assignment id) :
    (history ids turns).books.VehiclesBack := by
  refine turns_induction (P := fun turns => (history ids turns).books.VehiclesBack)
    (fun a ha => absurd ha Books.not_live_empty) ?_
  intro past t hp h
  rw [history_append_singleton]
  rcases t.untouched_or_reads (history ids past) with hbooks | hreads
  · rwa [hbooks]
  · refine (t.effect _).vehiclesBack h ?_ (hturns t (hp.subset (by simp)))
    intro hop id
    have hread := hreads (Operation.isTimed_of_enters hop)
    have hpast := hclock.sublist (readings_mono hp).sublist
    refine hsettled past ((List.prefix_append past [t]).trans hp) id t.clock fun r hr => ?_
    exact Instant.le_of_lt (lt_clock_of_mem_readings hpast hread hr)

/-- **A deleted driver is through with contracts and vehicles.** In a history with a clock that goes
forward in which neither contracts nor assignments are restored, a deleted driver has no vehicle, and
no live contract of the driver is active or stands in the way of the deletion, at the time the clock
has last shown or later. -/
theorem nothing_left_of_deleted (hclock : (readings ids turns).Pairwise (· < ·))
    (hturns : ∀ t ∈ turns, ∀ id, t.operation ≠ .undelete .contract id ∧
      t.operation ≠ .undelete .assignment id)
    {p : Kind.driver.Record} (hp : (history ids turns).books.Stored .driver p)
    (hdeleted : p.isDeleted) {now : Instant} (hnow : ∀ r ∈ readings ids turns, r ≤ now) :
    (∀ a, (history ids turns).books.Stored .assignment a → a.data.driverId = p.id →
      ¬ a.isActive) ∧
    ∀ c, (history ids turns).books.Live .contract c → c.data.driverId = p.id →
      ¬ c.data.isActiveAt now ∧ ¬ c.data.blocksDriverDeletion now := by
  have hsettled : ∀ past, past <+: turns → ∀ id, SettledFor ids past id := by
    intro past hpast id
    refine (settled_always_iff hclock).mpr (fun earlier t ht hbad => ?_) past hpast
    exact (hturns t (ht.subset (by simp)) id).1 hbad.1
  have hback := vehiclesBack_history hclock hsettled fun t ht id => (hturns t ht id).2
  constructor
  · intro a ha hdriver hactive
    obtain ⟨hlive, hout⟩ := Bool.and_eq_true_iff.mp hactive
    refine hback a (Books.live_iff.mpr ⟨ha, hlive⟩) ⟨p, hp, hdriver.symm, hdeleted⟩ ?_
    rwa [Assignment.isReturned, Bool.not_eq_true', Option.isSome_eq_false_iff,
      Option.isNone_iff_eq_none] at hout
  · intro c hc hdriver
    have hover := hsettled turns (List.prefix_refl _) c.id now hnow c hc
      ⟨p, hp, hdriver.symm, hdeleted⟩
    exact ⟨hover.not_isActiveAt, hover.not_blocksDriverDeletion⟩

/-- The middle of February. -/
def midFebruary : Date := ⟨2025, 2, 14, by decide⟩

/-- The driver takes a vehicle in January and returns it, and the first contract is deleted. In February
the second one is terminated, and then the driver is deleted. -/
def driverLeaves : List Turn :=
  sampleFleet ++
    [.on newYear (.assignVehicle "contract" "vehicle"),
    .on januaryEnd (.returnVehicle "assignment"),
    .on januaryEnd (.delete .contract "contract"),
    .on midFebruary (.terminateContract "contract2" "Ada"),
    .on februaryEnd (.delete .driver "driver")]

/-- The second contract would have run to the end of February, but it is not active any more. -/
theorem nothing_left_driverLeaves :
    let c : Contract := { februaryContract with
      terminatedAt := some (.startOfDay midFebruary), terminatedBy := some "Ada" }
    (history sampleIds driverLeaves).books.Live .contract (.fresh "contract2" c) ∧
      ¬ c.isActiveAt (.startOfDay februaryEnd) ∧
      ¬ c.blocksDriverDeletion (.startOfDay februaryEnd) := by
  intro c
  have hclock : (readings sampleIds driverLeaves).Pairwise (· < ·) := by decide +kernel
  have hturns : ∀ t ∈ driverLeaves, ∀ id, t.operation ≠ .undelete .contract id ∧
      t.operation ≠ .undelete .assignment id := by
    simp [driverLeaves, sampleFleet, sampleParties, Turn.on]
  have hp : (history sampleIds driverLeaves).books.Stored .driver
      ((Record.fresh "driver" ⟨"Ada", "Byron", "L-1"⟩).bury (.startOfDay februaryEnd)) := by
    decide +kernel
  have hnow : ∀ r ∈ readings sampleIds driverLeaves, r ≤ .startOfDay februaryEnd := by
    decide +kernel
  have hc : (history sampleIds driverLeaves).books.Live .contract (.fresh "contract2" c) := by
    decide +kernel
  have hleft := nothing_left_of_deleted hclock hturns hp rfl hnow
  exact ⟨hc, hleft.2 (.fresh "contract2" c) hc rfl⟩

end LeaseDesk
