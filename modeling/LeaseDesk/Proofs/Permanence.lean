import LeaseDesk.Proofs.Retention
import LeaseDesk.Proofs.WellFormed

/-!
# What is written stays written

The books are a history. A record that has been put there is there ever after, under its identifier,
and hardly anything that it says can change. What it was entered with never does. A contract can be
terminated, and then it says when and by whom; a vehicle can be returned, and then the assignment says
when; either of these is written once, and neither changed nor taken back (`Kind.Continues`). The
tombstone alone can come and go, and it is only ever set or taken off by name.

`append_only_history` compares any two moments of a history, far apart as they may be. The operations
between them are taken one by one: each makes a successor of the record, and what is said of the
record and its successor composes (`Continued.trans`).
-/

namespace LeaseDesk

open Storage

/-! ## From one moment to a later one -/

/-- What the data of a record can have become. -/
inductive Kind.Continues : (kind : Kind) → kind.Data → kind.Data → Prop
  /-- they are what they were -/
  | same (kind : Kind) (data : kind.Data) : Continues kind data data
  /-- a running contract has been terminated by somebody -/
  | terminated (c : Contract) (running : c.terminatedAt = none ∧ c.terminatedBy = none)
      (now : Instant) (terminatedBy : String) :
      Continues .contract c (c.terminate now terminatedBy)
  /-- a vehicle that was out has been returned -/
  | returned (a : Assignment) (out : a.endTime = none) (now : Instant) :
      Continues .assignment a (a.finish now)

/-- What is written once is not written again. -/
theorem Kind.Continues.trans {kind : Kind} {x y z : kind.Data} (h : kind.Continues x y)
    (h' : kind.Continues y z) : kind.Continues x z := by
  cases h with
  | same => exact h'
  | terminated c running now terminatedBy =>
    cases h' with
    | same => exact .terminated c running now terminatedBy
    | terminated _ running' => exact nomatch running'.1
  | returned a out now =>
    cases h' with
    | same => exact .returned a out now
    | returned _ out' => exact nomatch out'

/-- What a record can have become in the course of turns. If its tombstone is not what it was, then one
of the turns has deleted or restored just this record, and the tombstone is what that turn has left. -/
structure Continued (turns : List Turn) (kind : Kind) (r s : kind.Record) : Prop where
  id : s.id = r.id
  data : kind.Continues r.data s.data
  tombstone : s.deletedAt = r.deletedAt ∨ ∃ t ∈ turns,
    t.operation = .delete kind r.id ∧ s.deletedAt = some t.wall ∨
      t.operation = .undelete kind r.id ∧ s.deletedAt = none

namespace Continued

variable {kind : Kind} {r s u : kind.Record} {turns later : List Turn}

theorem refl (turns : List Turn) (r : kind.Record) : Continued turns kind r r :=
  ⟨rfl, .same _ _, .inl rfl⟩

theorem trans (h : Continued turns kind r s) (h' : Continued later kind s u) :
    Continued (turns ++ later) kind r u := by
  refine ⟨h'.id.trans h.id, h.data.trans h'.data, ?_⟩
  rcases h'.tombstone with hsame | ⟨t, ht, hlast⟩
  · rw [hsame]
    rcases h.tombstone with hsame | ⟨t, ht, hlast⟩
    · exact .inl hsame
    · exact .inr ⟨t, List.mem_append_left later ht, hlast⟩
  · rw [h.id] at hlast
    exact .inr ⟨t, List.mem_append_right turns ht, hlast⟩

end Continued

/-- A successor is what the record has become in the turn. -/
theorem Successor.continued {t : Turn} {d : Desk Memory} {kind : Kind} {r s : kind.Record}
    (h : Successor t.operation (t.prepare d) kind r s) (hr : kind.WellFormed r.data) :
    Continued [t] kind r s := by
  cases h with
  | kept => exact .refl _ r
  | terminated r terminatedBy _ running =>
    -- nobody has terminated a contract at no time
    have hby : r.data.terminatedBy = none := hr.2.1.mp running
    exact ⟨rfl, .terminated r.data ⟨running, hby⟩ t.clock _, .inl rfl⟩
  | returned r _ out => exact ⟨rfl, .returned r.data out t.clock, .inl rfl⟩
  | buried r operation _ =>
    exact ⟨rfl, .same _ _, .inr ⟨t, List.mem_singleton_self t, .inl ⟨operation, rfl⟩⟩⟩
  | restored r operation =>
    exact ⟨rfl, .same _ _, .inr ⟨t, List.mem_singleton_self t, .inr ⟨operation, rfl⟩⟩⟩

/-! ## Any two moments -/

/-- Every record on record at some moment is there at every later moment. -/
theorem exists_continued {ids : IdSource} (hids : ids.NeverRepeats) (past later : List Turn)
    {kind : Kind} {r : kind.Record} (hr : (history ids past).books.Stored kind r) :
    ∃ s, (history ids (past ++ later)).books.Stored kind s ∧ Continued later kind r s := by
  induction later using List.reverseRecOn with
  | nil =>
    rw [List.append_nil]
    exact ⟨r, hr, .refl [] r⟩
  | append_singleton later t ih =>
    obtain ⟨s, hs, hcontinued⟩ := ih
    have hwell := wellFormed_history ids (past ++ later) kind s hs
    have horderly := (orderly_history hids (past ++ later)).prepare t
    obtain ⟨u, hu, hsucc⟩ :=
      (t.effect _).exists_successor horderly.numbered horderly.neverRepeats hs
    rw [← List.append_assoc, history_append_singleton]
    exact ⟨u, hu, hcontinued.trans (hsucc.continued hwell)⟩

/-- **Books are only added to**, as long as identifiers do not repeat. Whatever is on record at one
moment of a history, deleted or not, is on record at any later one under the same identifier and with
the data it was entered with. It can be ended once in between, and only deleting and restoring it
change its tombstone. The end of a contract is always written with the name of who has ended it. -/
theorem append_only_history {ids : IdSource} (hids : ids.NeverRepeats) (past later : List Turn) :
    (∀ kind r, (history ids past).books.Stored kind r →
      ∃ s, (history ids (past ++ later)).books.Stored kind s ∧ Continued later kind r s) ∧
    ∀ c, (history ids past).books.Stored .contract c →
      (c.data.terminatedAt = none ↔ c.data.terminatedBy = none) := by
  refine ⟨fun kind r hr => exists_continued hids past later hr, fun c hc => ?_⟩
  obtain ⟨-, htogether, -⟩ := wellFormed_history ids past .contract c hc
  exact htogether

/-- A contract is made. -/
def contractMade : List Turn :=
  sampleParties ++ [.on newYear (.createContract "driver" "company" "fleet" newYear januaryEnd)]

/-- The contract is terminated, deleted and restored, and somebody tries to terminate it again. -/
def contractEnded : List Turn :=
  [.on newYear (.terminateContract "contract" "Ada"),
    .on januaryEnd (.delete .contract "contract"),
    .on januaryEnd (.undelete .contract "contract"),
    .on januaryEnd (.terminateContract "contract" "Grace")]

/-- The first who terminates the contract is on record, and the contract is live again. -/
theorem append_only_contractEnded :
    Continued contractEnded .contract (.fresh "contract" januaryContract)
      (.fresh "contract" (januaryContract.terminate (.startOfDay newYear) "Ada")) := by
  obtain ⟨hkept, -⟩ := append_only_history neverRepeats_sampleIds contractMade contractEnded
  obtain ⟨s, hs, hcontinued⟩ :=
    hkept .contract (.fresh "contract" januaryContract) (by decide +kernel)
  have hnow : (history sampleIds (contractMade ++ contractEnded)).books.Stored .contract
      (.fresh "contract" (januaryContract.terminate (.startOfDay newYear) "Ada")) := by
    decide +kernel
  obtain rfl := hs.eq_of_id_eq hnow hcontinued.id
  exact hcontinued

end LeaseDesk
