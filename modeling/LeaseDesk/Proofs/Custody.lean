import LeaseDesk.Proofs.Readings
import LeaseDesk.Proofs.Retention

/-!
# Vehicles in the hands of a driver

A driver gets no vehicle of a fleet while holding another one of it. Two questions about any two
live assignments of one driver in one fleet are answered here: can both be open, and how do they lie
in time? Both answers are instances of one invariant, `Books.Custody`, which says that a relation
holds between any two such assignments. `Effect.custody` shows, for any relation that the making and
the ending of assignments respect, that only restoring an assignment can break it. The fleet of an
assignment is looked up through its vehicle; that this never changes takes `Effect.fleetOfVehicle`.

Restoring checks nothing, and so the driver has at most one vehicle of a fleet exactly as long as no
open assignment is restored next to another one (`exclusive_always_iff`). Where no assignment is
restored at all and the clock does not run backwards, one of the two has ended before the other
began (`custody_in_turn`).
-/

namespace LeaseDesk

open Storage

namespace Storage.Books

/-- The vehicles of the assignments are on record, deleted or not, in the same fleet. -/
def SameFleet (b : Books) (a a' : Assignment) : Prop :=
  ∃ fleetId, b.fleetOfVehicle a.vehicleId = some fleetId ∧
    b.fleetOfVehicle a'.vehicleId = some fleetId

/-- Any two live assignments of a driver in the same fleet are related. -/
def Custody (b : Books) (Q : Assignment → Assignment → Prop) : Prop :=
  b.LivePairwise .assignment fun r s =>
    r.data.driverId = s.data.driverId → b.SameFleet r.data s.data → Q r.data s.data

variable {b : Books} {Q : Assignment → Assignment → Prop}

theorem SameFleet.symm {a a' : Assignment} (h : b.SameFleet a a') : b.SameFleet a' a := by
  obtain ⟨f, hf, hf'⟩ := h
  exact ⟨f, hf', hf⟩

theorem custody_empty : empty.Custody Q := livePairwise_empty

end Storage.Books

/-! ## One operation -/

variable {op : Operation} {d d' : Desk Memory} {Q : Assignment → Assignment → Prop}

/-- The fleet of an assignment, as looked up after an operation, is the one that was looked up
before. -/
theorem Effect.fleetOfVehicle_eq (he : Effect op d d') (hd : d.Orderly)
    {r : Kind.assignment.Record} (hr : d'.books.Stored .assignment r) :
    d'.books.fleetOfVehicle r.data.vehicleId = d.books.fleetOfVehicle r.data.vehicleId := by
  have href : (Kind.vehicle, r.data.vehicleId) ∈ Kind.assignment.references r.data := by
    simp [Kind.references]
  -- even a new assignment is for a vehicle that was on record before
  obtain ⟨v, hv, hid⟩ := he.knew hd.coherent hr _ href
  have hold := Books.fleetOfVehicle_eq_some_iff.mpr ⟨v, hv, hid, rfl⟩
  rw [hold, he.fleetOfVehicle hd.numbered hd.neverRepeats hold]

/-- **Only restoring can break custody.** Whatever else an operation does, it keeps a relation
between the assignments of a driver in a fleet, if an assignment that begins now is related to those
that have ended, and if an open one may end now. -/
theorem Effect.custody (he : Effect op d d') (hd : d.Orderly) (h : d.books.Custody Q)
    (hsymm : ∀ a a', Q a a' → Q a' a)
    (hbegins : ∀ a r, a.startTime = d.clock → d.books.Live .assignment r →
      r.data.endTime ≠ none → Q a r.data)
    (hends : ∀ a a', a.endTime = none → Q a a' → Q (a.finish d.clock) a')
    (hrestored : ∀ r s, op = .undelete .assignment r.id → d.books.Stored .assignment r →
      d.books.Live .assignment s → s.id ≠ r.id → r.data.driverId = s.data.driverId →
      d.books.SameFleet r.data s.data → Q r.data s.data) : d'.books.Custody Q := by
  -- the relation is kept for fleets as they were looked up before
  have hkept : d'.books.LivePairwise .assignment fun r s =>
      r.data.driverId = s.data.driverId → d.books.SameFleet r.data s.data → Q r.data s.data := by
    refine he.livePairwise h ?_ ?_ ?_ hrestored
    · intro r s hrs hdriver hsame
      exact hsymm _ _ (hrs hdriver.symm hsame.symm)
    · rintro a s ⟨c, v, hadmits⟩ hs hdriver ⟨f, hf, hf'⟩
      refine hbegins a s hadmits.handedOut.1 hs fun hopen => ?_
      -- the check has found no open assignment in this fleet
      obtain ⟨hv, hid⟩ := Books.find_eq_some_iff.mp hadmits.vehicle
      have hfleet := Books.fleetOfVehicle_eq_some_iff.mpr ⟨v, hv.stored, hid, rfl⟩
      obtain rfl := Option.some.inj (hfleet.symm.trans hf)
      exact Books.activeInFleet_eq_none_iff.mp hadmits.free s hs hdriver.symm hopen hf'
    · intro r s a hrev hrs hdriver hsame
      obtain ⟨id, data, deletedAt⟩ := r
      cases hrev with
      | same => exact hrs hdriver hsame
      | returned _ out => exact hends _ _ out (hrs hdriver hsame)
  refine hkept.imp fun r s hr hs hrs hdriver hsame => hrs hdriver ?_
  rwa [Books.SameFleet, he.fleetOfVehicle_eq hd hr.stored, he.fleetOfVehicle_eq hd hs.stored]
    at hsame

/-! ## At most one vehicle of a fleet -/

/-- At most one of the two assignments is open. -/
def Assignment.NotBothOpen (a a' : Assignment) : Prop :=
  ¬ (a.endTime = none ∧ a'.endTime = none)

/-- No driver has two vehicles of a fleet: of two live assignments of a driver in the same fleet, at
most one is open. -/
def Storage.Books.Exclusive (b : Books) : Prop :=
  b.Custody Assignment.NotBothOpen

/-- The turn restores an open assignment next to another open one of the same driver in the same
fleet. -/
def Turn.RestoresCustody (t : Turn) (d : Desk Memory) : Prop :=
  ∃ r s, t.operation = .undelete .assignment r.id ∧ d.books.Stored .assignment r ∧
    d.books.Live .assignment s ∧ s.id ≠ r.id ∧ r.data.driverId = s.data.driverId ∧
    d.books.SameFleet r.data s.data ∧ r.data.endTime = none ∧ s.data.endTime = none

/-- Nothing stops such a turn, and the driver has both vehicles. -/
theorem Turn.RestoresCustody.not_exclusive {t : Turn} (h : t.RestoresCustody d)
    (hd : d.Numbered) : ¬ (t.after d).books.Exclusive := by
  obtain ⟨r, s, hop, hr, hs, hid, hdriver, ⟨f, hf, hf'⟩, hopen⟩ := h
  refine Turn.not_livePairwise_after_undelete hop (hd.named hr) hr hs hid fun hrs => ?_
  -- restoring an assignment leaves the vehicles alone
  have hbooks := Turn.books_after_undelete hop (hd.named hr) hr
  refine hrs hdriver ⟨f, ?_, ?_⟩ hopen <;> rw [hbooks]
  · exact hf
  · exact hf'

/-- **When a driver has at most one vehicle of a fleet.** As identifiers do not repeat, this is so
all through a history exactly if no turn of it restores an open assignment next to another open one
of the same driver in the same fleet. -/
theorem exclusive_always_iff {ids : IdSource} (hids : ids.NeverRepeats) (turns : List Turn) :
    (∀ past, past <+: turns → (history ids past).books.Exclusive) ↔
      ∀ past t, past ++ [t] <+: turns → ¬ t.RestoresCustody (history ids past) := by
  refine history_always_iff (P := fun d => d.books.Exclusive) Books.custody_empty ?_ turns
  intro past t h
  have hd := orderly_history hids past
  constructor
  · exact fun hafter hbad => hbad.not_exclusive hd.numbered hafter
  · intro hgood
    refine (t.effect _).custody (hd.prepare t) h ?_ ?_ ?_ ?_
    · exact fun a a' hopen hboth => hopen hboth.symm
    · exact fun a r _ _ hended hboth => hended hboth.2
    · exact fun a a' _ _ hboth => nomatch hboth.1
    · intro r s hop hr hs hid hdriver hsame hopen
      exact hgood ⟨r, s, hop, hr, hs, hid, hdriver, hsame, hopen.1, hopen.2⟩

/-- The driver takes the first vehicle, returns it at the end of January and takes it again. -/
def takenTwice : List Turn :=
  sampleFleet ++
    [.on newYear (.assignVehicle "contract" "vehicle"),
    .on januaryEnd (.returnVehicle "assignment"),
    .on januaryEnd (.assignVehicle "contract2" "vehicle")]

theorem takenTwice_restores_nothing :
    ∀ t ∈ takenTwice, ∀ id, t.operation ≠ .undelete .assignment id := by
  simp [takenTwice, sampleFleet, sampleParties, Turn.on]

/-- The driver has never more than one vehicle. -/
theorem exclusive_takenTwice : (history sampleIds takenTwice).books.Exclusive := by
  have halways := (exclusive_always_iff neverRepeats_sampleIds takenTwice).mpr ?_
  · exact halways takenTwice (List.prefix_refl _)
  · rintro past t hp ⟨r, s, hop, -⟩
    exact takenTwice_restores_nothing t (hp.subset (by simp)) r.id hop

/-- The assignment of a vehicle is deleted, the driver takes the other one, and the assignment is
restored. -/
def assignmentRestored : List Turn :=
  sampleFleet ++
    [.on newYear (.assignVehicle "contract" "vehicle"),
    .on newYear (.delete .assignment "assignment"),
    .on newYear (.assignVehicle "contract" "vehicle2"),
    .on newYear (.undelete .assignment "assignment")]

/-- The driver has both vehicles then. -/
theorem not_exclusive_assignmentRestored :
    ¬ (history sampleIds assignmentRestored).books.Exclusive := by
  intro h
  have hr : (history sampleIds assignmentRestored).books.Live .assignment
      (.fresh "assignment" ⟨"driver", "vehicle", "contract", .startOfDay newYear, none⟩) := by
    decide +kernel
  have hs : (history sampleIds assignmentRestored).books.Live .assignment
      (.fresh "assignment2" ⟨"driver", "vehicle2", "contract", .startOfDay newYear, none⟩) := by
    decide +kernel
  refine h _ _ hr hs (by decide) rfl ⟨"fleet", ?_, ?_⟩ ⟨rfl, rfl⟩ <;> decide +kernel

/-! ## One vehicle after the other -/

/-- The first assignment has ended when the second one begins. -/
def Assignment.EndsBefore (a a' : Assignment) : Prop :=
  ∃ e, a.endTime = some e ∧ e ≤ a'.startTime

/-- The clock never runs backwards from one turn to a later one. -/
def Chronological (turns : List Turn) : Prop :=
  turns.Pairwise fun s t => s.clock ≤ t.clock

instance (turns : List Turn) : Decidable (Chronological turns) :=
  inferInstanceAs (Decidable (List.Pairwise _ _))

/-- Vehicles are returned at times the clock has shown. -/
theorem returned_history (ids : IdSource) (turns : List Turn) :
    ∀ r, (history ids turns).books.Stored .assignment r → ∀ e, r.data.endTime = some e →
      ∃ t ∈ turns, t.clock = e := by
  intro r hr e he
  refine exists_turn_of_mem_readings (stamps_history ids turns .assignment r hr e ?_)
  exact List.mem_cons_of_mem _ (Option.mem_toList.mpr he)

/-- **One vehicle after the other.** In a history in which identifiers do not repeat, the clock does
not run backwards and no assignment is restored, of any two live assignments of a driver in the same
fleet one has ended when the other begins. -/
theorem custody_in_turn {ids : IdSource} (hids : ids.NeverRepeats) {turns : List Turn}
    (hclock : Chronological turns)
    (hturns : ∀ t ∈ turns, ∀ id, t.operation ≠ .undelete .assignment id)
    {r s : Kind.assignment.Record} (hr : (history ids turns).books.Live .assignment r)
    (hs : (history ids turns).books.Live .assignment s) (hne : r ≠ s)
    (hdriver : r.data.driverId = s.data.driverId)
    (hfleet : (history ids turns).books.SameFleet r.data s.data) :
    r.data.EndsBefore s.data ∨ s.data.EndsBefore r.data := by
  have hcustody : (history ids turns).books.Custody
      fun a a' => a.EndsBefore a' ∨ a'.EndsBefore a := by
    refine history_invariant (P := fun d => d.books.Custody _) Books.custody_empty ?_
    intro past t hp hpast
    obtain ⟨-, -, hlate⟩ := List.pairwise_append.mp (hclock.sublist hp.sublist)
    refine (t.effect _).custody ((orderly_history hids past).prepare t) hpast ?_ ?_ ?_ ?_
    · exact fun a a' => Or.symm
    · intro a r hstart hr hended
      -- the other vehicle was returned in an earlier turn
      obtain ⟨e, he⟩ := Option.ne_none_iff_exists'.mp hended
      obtain ⟨u, hu, hclock⟩ := returned_history ids past r hr.stored e he
      refine .inr ⟨e, he, ?_⟩
      rw [hstart, ← hclock]
      exact hlate u hu t (List.mem_singleton_self t)
    · rintro a a' hopen (⟨e, he, -⟩ | hbefore)
      · exact nomatch hopen.symm.trans he
      · exact .inr hbefore
    · exact fun r s hop => absurd hop (hturns t (hp.subset (by simp)) r.id)
  exact hcustody r s hr hs hne hdriver hfleet

/-- The first time the driver takes the vehicle has ended when the second one begins. -/
theorem custody_takenTwice :
    let first : Assignment :=
      ⟨"driver", "vehicle", "contract", .startOfDay newYear, some (.startOfDay januaryEnd)⟩
    let second : Assignment := ⟨"driver", "vehicle", "contract2", .startOfDay januaryEnd, none⟩
    first.EndsBefore second ∨ second.EndsBefore first := by
  intro first second
  have hr : (history sampleIds takenTwice).books.Live .assignment (.fresh "assignment" first) := by
    decide +kernel
  have hs : (history sampleIds takenTwice).books.Live .assignment
      (.fresh "assignment2" second) := by
    decide +kernel
  have hfleet : (history sampleIds takenTwice).books.fleetOfVehicle "vehicle" = some "fleet" := by
    decide +kernel
  have hclock : Chronological takenTwice := by decide +kernel
  have hturn := custody_in_turn neverRepeats_sampleIds hclock takenTwice_restores_nothing hr hs
    (by decide) rfl ⟨"fleet", hfleet, hfleet⟩
  exact hturn

end LeaseDesk
