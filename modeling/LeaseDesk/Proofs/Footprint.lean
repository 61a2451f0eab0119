import LeaseDesk.Proofs.Effect

/-!
# The footprint of an operation

How much can one operation change? If it fails, nothing, and `Operation.failing` has said so. If it
comes to a result, then at most the one record that it makes or names, its `target`, and an
identifier is drawn exactly if a record is made. `Operation.footprint` puts the two cases together,
for every operation on every desk, whatever the clock shows, the identifiers are and the register
says.
-/

namespace LeaseDesk

open Storage

/-- The record that an operation makes or changes, by its kind and identifier. A record that is made
gets the identifier that is next. -/
def Operation.target (op : Operation) (next : String) : Option (Kind × String) :=
  match op with
  | .createLegalEntity .. => some (.legalEntity, next)
  | .createFleet .. => some (.fleet, next)
  | .createVehicle .. => some (.vehicle, next)
  | .createDriver .. => some (.driver, next)
  | .createContract .. => some (.contract, next)
  | .assignVehicle .. => some (.assignment, next)
  | .terminateContract id _ => some (.contract, id)
  | .returnVehicle id => some (.assignment, id)
  | .delete kind id | .undelete kind id => some (kind, id)
  | .validateLicense _ | .get _ _ | .list _ => none

/-- What an operation that came to a result has left behind. -/
structure Operation.Footprint (op : Operation) (d : Desk Memory) (out : Outcome)
    (d' : Desk Memory) : Prop where
  /-- every record is as it was, but for the target -/
  others : ∀ kind id, op.target d.ids.next ≠ some (kind, id) →
    d'.books.lookup kind id = d.books.lookup kind id
  /-- without a target nothing is written -/
  reading : op.target d.ids.next = none → d'.books = d.books
  /-- the record that is made stands on record as it is handed back, under the one identifier that
  was drawn -/
  made : ∀ kind, op.enters = some kind → ∃ r : kind.Record, out = .record kind r ∧
    r.id = d.ids.next ∧ r.id ≠ "" ∧ d'.ids = d.ids.advance ∧ d'.books = d.books.put kind r
  /-- no identifier is drawn unless a record is made -/
  undrawn : op.enters = none → d'.ids = d.ids

variable {op : Operation} {d d' : Desk Memory}

theorem Operation.target_of_enters {kind : Kind} (h : op.enters = some kind) (next : String) :
    op.target next = some (kind, next) := by
  cases op <;> cases h <;> rfl

theorem Storage.Books.lookup_put_of_ne_target {b : Books} {kind other : Kind} {r : kind.Record}
    {id : String} {target : Option (Kind × String)} (htarget : target = some (kind, r.id))
    (hne : target ≠ some (other, id)) :
    (b.put kind r).lookup other id = b.lookup other id := by
  by_cases hk : other = kind
  · subst hk
    have hid : r.id ≠ id := by
      rintro rfl
      exact hne htarget
    rw [lookup_put, if_neg hid]
  · exact lookup_put_of_ne hk r id

/-- Only the target is written. -/
theorem Effect.lookup_of_ne_target (he : Effect op d d') {kind : Kind} {id : String}
    (h : op.target d.ids.next ≠ some (kind, id)) :
    d'.books.lookup kind id = d.books.lookup kind id := by
  cases he with
  | untouched hb => rw [hb]
  | entered kind data operation admits named ids hb =>
    rw [hb]
    exact Books.lookup_put_of_ne_target (Operation.target_of_enters operation _) h
  | terminated r terminatedBy operation live running filled hb =>
    rw [hb]
    exact Books.lookup_put_of_ne_target (operation ▸ rfl) h
  | returned r operation live out hb =>
    rw [hb]
    exact Books.lookup_put_of_ne_target (operation ▸ rfl) h
  | buried kind r operation live free hb =>
    rw [hb]
    exact Books.lookup_put_of_ne_target (operation ▸ rfl) h
  | restored kind r operation named stored hb =>
    rw [hb]
    exact Books.lookup_put_of_ne_target (operation ▸ rfl) h

/-- Without a target, nothing is written. -/
theorem Effect.books_of_target_none (he : Effect op d d') (h : op.target d.ids.next = none) :
    d'.books = d.books := by
  cases he with
  | untouched hb => exact hb
  | entered kind data operation =>
    exact nomatch (Operation.target_of_enters operation _).symm.trans h
  | terminated r terminatedBy operation => exact nomatch operation ▸ h
  | returned r operation => exact nomatch operation ▸ h
  | buried kind r operation => exact nomatch operation ▸ h
  | restored kind r operation => exact nomatch operation ▸ h

/-- Every ending that makes a record hands it back as it stands on record. -/
theorem Operation.Ending.made {q : Program Outcome} (hq : op.Ending q) {out : Outcome}
    (h : q.Yields d out d') {kind : Kind} (hkind : op.enters = some kind) :
    ∃ r : kind.Record, out = .record kind r ∧ r.id = d.ids.next ∧ r.id ≠ "" ∧
      d'.ids = d.ids.advance ∧ d'.books = d.books.put kind r := by
  cases hq with
  | enter other data operation =>
    obtain rfl := Option.some.inj (operation.symm.trans hkind)
    obtain ⟨r, hr, rfl⟩ := Program.yields_map.mp h
    obtain ⟨hnamed, rfl, rfl⟩ := Procedure.yields_enter.mp hr
    exact ⟨_, rfl, rfl, hnamed, rfl, rfl⟩
  | call c out operation => exact nomatch operation.symm.trans hkind
  | reply out operation => exact nomatch operation.symm.trans hkind

/-- An ending that makes no record draws no identifier. -/
theorem Operation.Ending.undrawn {q : Program Outcome} (hq : op.Ending q) {out : Outcome}
    (h : q.Yields d out d') (hop : op.enters = none) : d'.ids = d.ids := by
  cases hq with
  | enter other data operation => exact nomatch operation.symm.trans hop
  | call c out operation =>
    obtain ⟨a, e, hanswer, hdone⟩ := Program.yields_ask.mp h
    obtain ⟨-, rfl⟩ := Program.yields_done.mp hdone
    rw [Program.answer_storage] at hanswer
    rw [← (Prod.mk.inj hanswer).2]
  | reply out operation => rw [(Program.yields_done.mp h).2]

theorem Operation.footprint_of_yields {out : Outcome} (h : op.program.Yields d out d') :
    op.Footprint d out d' := by
  have he := Operation.effect_of_yields h
  obtain ⟨drivers, ⟨q, hq, hrun⟩ | ⟨e, hrun, -⟩⟩ := op.looksUntil.run_cases d
  · have hending : q.Yields (d.asking drivers) out d' := hrun.symm.trans h
    have hundrawn := hq.undrawn hending
    exact {
      others := fun _ _ => he.lookup_of_ne_target
      reading := he.books_of_target_none
      made := fun _ => hq.made hending
      undrawn := hundrawn }
  · rw [Program.Yields, hrun] at h
    cases (Prod.mk.inj h).1

/-- **Failing leaves no trace, and succeeding touches one record.** -/
theorem Operation.footprint (op : Operation) (d : Desk Memory) :
    match op.program.run memoryHost d with
    | (.error e, d') => op.FailedTrace d e d'
    | (.ok out, d') => op.Footprint d out d' := by
  rcases h : op.program.run memoryHost d with ⟨e | out, d'⟩
  · exact Operation.failing h
  · exact Operation.footprint_of_yields h

end LeaseDesk
