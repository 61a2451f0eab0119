import LeaseDesk.Proofs.Days
import LeaseDesk.Proofs.History

/-!
# Overlapping contracts

The making of a contract checks that no contract of the same parties overlaps it. Termination and
deletion cannot bring an overlap about, and neither can anything that is done to other records, but
restoring a deleted contract can: it checks nothing. So the books are free of overlaps all the time
exactly if no contract is ever restored on top of another one (`overlapFree_always_iff`).

Where no contract is restored at all, what is left of two contracts of the same parties touches at
most on one day, the last of the one and the first of the other. Since both days belong to an active
contract, that day is the only one on which both are active (`handover_of_active`).
-/

namespace LeaseDesk

open Storage

/-! ## Overlaps -/

namespace Contract

/-- The contracts are between the same parties and about the same fleet. -/
def SameParties (c c' : Contract) : Prop :=
  c.driverId = c'.driverId ∧ c.legalEntityId = c'.legalEntityId ∧ c.fleetId = c'.fleetId

/-- Each of the contracts begins before the other one effectively ends. If both effectively end after
their first days, they share a day then, the last one of either not counted. A contract that was
terminated on its first day or before has no day to share, and collides all the same with contracts that
begin before its end and end after its beginning. -/
def Collides (c c' : Contract) : Prop :=
  c.startDate < c'.effectiveEnd ∧ c'.startDate < c.effectiveEnd

instance (c c' : Contract) : Decidable (c.SameParties c') :=
  inferInstanceAs (Decidable (_ ∧ _))

instance (c c' : Contract) : Decidable (c.Collides c') :=
  inferInstanceAs (Decidable (_ ∧ _))

variable {c c' : Contract}

theorem SameParties.symm (h : c.SameParties c') : c'.SameParties c :=
  ⟨h.1.symm, h.2.1.symm, h.2.2.symm⟩

theorem Collides.symm (h : c.Collides c') : c'.Collides c := And.symm h

theorem covers_iff_sameParties :
    c'.covers c.driverId c.legalEntityId c.fleetId ↔ c'.SameParties c := by
  rw [covers, Bool.and_eq_true, Bool.and_eq_true, beq_iff_eq, beq_iff_eq, beq_iff_eq, and_assoc]
  rfl

/-- What is checked against a contract that runs to its agreed end is whether it collides. -/
theorem overlaps_iff_collides (h : c.terminatedAt = none) :
    c'.overlaps c.startDate c.endDate ↔ c.Collides c' := by
  rw [overlaps, Bool.and_eq_true, decide_eq_true_iff, decide_eq_true_iff, Collides,
    effectiveEnd_of_running h]

/-- Who terminates a contract makes no room for a collision. -/
theorem Collides.of_terminate {now : Instant} {terminatedBy : String}
    (hrunning : c.terminatedAt = none) (h : (c.terminate now terminatedBy).Collides c') :
    c.Collides c' := by
  refine ⟨h.1, ?_⟩
  -- the agreed end, which was the effective one, stays an upper bound
  have hend : (c.terminate now terminatedBy).effectiveEnd ≤ c.endDate := effectiveEnd_le
  have hbefore := h.2
  rw [effectiveEnd_of_running hrunning]
  rw [Date.le_def] at hend
  rw [Date.lt_def] at *
  omega

end Contract

/-- No two live contracts of the same parties collide. -/
def Storage.Books.OverlapFree (b : Books) : Prop :=
  b.LivePairwise .contract fun r s => r.data.SameParties s.data → ¬ r.data.Collides s.data

/-! ## One operation -/

variable {d d' : Desk Memory}

/-- **Only restoring can make contracts overlap.** Whatever else an operation does, it keeps the
books free of overlaps. -/
theorem Effect.overlapFree {op : Operation} (he : Effect op d d') (h : d.books.OverlapFree)
    (hrestored : ∀ r s, op = .undelete .contract r.id → d.books.Stored .contract r →
      d.books.Live .contract s → s.id ≠ r.id → r.data.SameParties s.data →
      ¬ r.data.Collides s.data) : d'.books.OverlapFree := by
  refine he.livePairwise h ?_ ?_ ?_ hrestored
  · exact fun r s hrs hsame hcoll => hrs hsame.symm hcoll.symm
  -- a new contract was checked, and a terminated one only ends earlier
  · intro c s hadmits hs hsame hcoll
    refine hadmits.free s hs (Contract.covers_iff_sameParties.mpr hsame.symm) ?_
    exact (Contract.overlaps_iff_collides hadmits.running.1).mpr hcoll
  · intro r s c hrev hrs hsame hcoll
    obtain ⟨id, data, deletedAt⟩ := r
    cases hrev with
    | same => exact hrs hsame hcoll
    | terminated _ terminatedBy running => exact hrs hsame (hcoll.of_terminate running)

/-! ## All operations -/

/-- The turn restores a contract that collides with a live one of the same parties. -/
def Turn.RestoresCollision (t : Turn) (d : Desk Memory) : Prop :=
  ∃ r s, t.operation = .undelete .contract r.id ∧ d.books.Stored .contract r ∧
    d.books.Live .contract s ∧ s.id ≠ r.id ∧ r.data.SameParties s.data ∧ r.data.Collides s.data

/-- Nothing stops such a turn, and the collision is there. -/
theorem Turn.RestoresCollision.not_overlapFree {t : Turn} (h : t.RestoresCollision d)
    (hd : d.Numbered) : ¬ (t.after d).books.OverlapFree := by
  obtain ⟨r, s, hop, hr, hs, hid, hsame, hcoll⟩ := h
  refine Turn.not_livePairwise_after_undelete hop (hd.named hr) hr hs hid ?_
  exact fun hrs => hrs hsame hcoll

/-- **When contracts never overlap.** The books are free of overlaps all through a history exactly
if no turn of it restores a contract that collides with a live one of the same parties. -/
theorem overlapFree_always_iff (ids : IdSource) (turns : List Turn) :
    (∀ past, past <+: turns → (history ids past).books.OverlapFree) ↔
      ∀ past t, past ++ [t] <+: turns → ¬ t.RestoresCollision (history ids past) := by
  refine history_always_iff (P := fun d => d.books.OverlapFree) Books.livePairwise_empty ?_ turns
  intro past t h
  constructor
  · exact fun hafter hbad => hbad.not_overlapFree (numbered_history ids past) hafter
  · intro hgood
    refine (t.effect _).overlapFree h fun r s hop hr hs hid hsame hcoll => ?_
    exact hgood ⟨r, s, hop, hr, hs, hid, hsame, hcoll⟩

/-- A contract is made, deleted, made again, and restored. -/
def contractRestored : List Turn :=
  sampleParties ++
    [.on newYear (.createContract "driver" "company" "fleet" newYear januaryEnd),
    .on newYear (.delete .contract "contract"),
    .on newYear (.createContract "driver" "company" "fleet" newYear januaryEnd),
    .on newYear (.undelete .contract "contract")]

/-- The driver has the same contract twice then. -/
theorem not_overlapFree_contractRestored :
    ¬ (history sampleIds contractRestored).books.OverlapFree := by
  intro h
  have hr : (history sampleIds contractRestored).books.Live .contract
      (.fresh "contract" januaryContract) := by
    decide +kernel
  have hs : (history sampleIds contractRestored).books.Live .contract
      (.fresh "contract2" januaryContract) := by
    decide +kernel
  exact h _ _ hr hs (by decide) (by decide) (by decide)

/-- Where no contract is restored, there are no overlaps. -/
theorem overlapFree_history {ids : IdSource} {turns : List Turn}
    (h : ∀ t ∈ turns, ∀ id, t.operation ≠ .undelete .contract id) :
    (history ids turns).books.OverlapFree := by
  refine history_invariant (P := fun d => d.books.OverlapFree) Books.livePairwise_empty ?_
  intro past t hp hpast
  refine (t.effect _).overlapFree hpast fun r _ hop => ?_
  exact absurd hop (h t (hp.subset (by simp)) r.id)

/-! ## Handing over -/

/-- Of two active contracts that do not collide, one ends on the day on which the other begins. -/
theorem Contract.handover {c c' : Contract} {now : Instant} (h : c.isActiveAt now)
    (h' : c'.isActiveAt now) (hfree : ¬ c.Collides c') :
    (now.date = c.effectiveEnd ∧ now.date = c'.startDate) ∨
      (now.date = c'.effectiveEnd ∧ now.date = c.startDate) := by
  obtain ⟨hstart, hend⟩ := date_le_effectiveEnd h
  obtain ⟨hstart', hend'⟩ := date_le_effectiveEnd h'
  rw [Collides, not_and_or, Date.not_lt, Date.not_lt] at hfree
  rcases hfree with hle | hle
  · refine .inr ⟨Date.le_antisymm hend' (Date.le_trans hle hstart), ?_⟩
    exact Date.le_antisymm (Date.le_trans hend' hle) hstart
  · refine .inl ⟨Date.le_antisymm hend (Date.le_trans hle hstart'), ?_⟩
    exact Date.le_antisymm (Date.le_trans hend hle) hstart'

/-- **Only on the day of a handover.** In a history in which no contract is restored, two live
contracts of the same parties are both active only on the day on which the one ends and the other
begins. -/
theorem handover_of_active {ids : IdSource} {turns : List Turn}
    (hturns : ∀ t ∈ turns, ∀ id, t.operation ≠ .undelete .contract id)
    {r s : Kind.contract.Record} (hr : (history ids turns).books.Live .contract r)
    (hs : (history ids turns).books.Live .contract s) (hne : r ≠ s)
    (hsame : r.data.SameParties s.data) {now : Instant}
    (hractive : r.data.isActiveAt now) (hsactive : s.data.isActiveAt now) :
    (now.date = r.data.effectiveEnd ∧ now.date = s.data.startDate) ∨
      (now.date = s.data.effectiveEnd ∧ now.date = r.data.startDate) := by
  have hfree := overlapFree_history hturns r s hr hs hne hsame
  exact Contract.handover hractive hsactive hfree

/-- A contract for January and one for February, which begins on the last of January. -/
def januaryAndFebruary : List Turn :=
  sampleParties ++
    [.on newYear (.createContract "driver" "company" "fleet" newYear januaryEnd),
    .on newYear (.createContract "driver" "company" "fleet" januaryEnd februaryEnd)]

/-- Both contracts are active on the last of January. -/
theorem handover_januaryAndFebruary :
    januaryContract.isActiveAt (.startOfDay januaryEnd) ∧
    februaryContract.isActiveAt (.startOfDay januaryEnd) ∧
    ((januaryEnd = januaryContract.effectiveEnd ∧ januaryEnd = februaryContract.startDate) ∨
      (januaryEnd = februaryContract.effectiveEnd ∧ januaryEnd = januaryContract.startDate)) := by
  have hturns : ∀ t ∈ januaryAndFebruary, ∀ id, t.operation ≠ .undelete .contract id := by
    simp [januaryAndFebruary, sampleParties, Turn.on]
  have hr : (history sampleIds januaryAndFebruary).books.Live .contract
      (.fresh "contract" januaryContract) := by
    decide +kernel
  have hs : (history sampleIds januaryAndFebruary).books.Live .contract
      (.fresh "contract2" februaryContract) := by
    decide +kernel
  have hjanuary : januaryContract.isActiveAt (.startOfDay januaryEnd) := by decide +kernel
  have hfebruary : februaryContract.isActiveAt (.startOfDay januaryEnd) := by decide +kernel
  refine ⟨hjanuary, hfebruary, ?_⟩
  exact handover_of_active hturns hr hs (by decide) (by decide) hjanuary hfebruary

end LeaseDesk
