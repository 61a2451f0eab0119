import LeaseDesk.Proofs.History

/-!
# What stays on record

No operation destroys a record. As long as identifiers do not repeat, so that no new record takes
the place of an old one, every stored record has a `Successor` in the books after an operation, and
there is not much that the successor can be (`Effect.exists_successor`). Its data are at most revised
(`Effect.retains`).

A reference, once it points to a stored record, always does, even if that is another record later on.
New data are checked for that, or take their references from a record that was, and so the books are
coherent all the time (`coherent_history`). With the identifiers in order this makes an orderly desk
(`orderly_history`).
-/

namespace LeaseDesk

open Storage

/-- Nothing becomes of a vehicle. -/
theorem Kind.Revised.eq_of_vehicle {now : Instant} {v v' : Vehicle}
    (h : Kind.vehicle.Revised now v v') : v' = v := by
  cases h
  rfl

variable {op : Operation} {d d' : Desk Memory} {kind other : Kind}

/-! ## What becomes of records -/

/-- What an operation on the desk `d` can make of a stored record. -/
inductive Successor (op : Operation) (d : Desk Memory) :
    (kind : Kind) → kind.Record → kind.Record → Prop
  /-- it stays as it is -/
  | kept {kind : Kind} (r : kind.Record) : Successor op d kind r r
  /-- the contract is terminated -/
  | terminated (r : Kind.contract.Record) (terminatedBy : String)
      (operation : op = .terminateContract r.id terminatedBy)
      (running : r.data.terminatedAt = none) :
      Successor op d .contract r (r.revise (r.data.terminate d.clock (Text.trim terminatedBy)))
  /-- the vehicle is returned -/
  | returned (r : Kind.assignment.Record) (operation : op = .returnVehicle r.id)
      (out : r.data.endTime = none) :
      Successor op d .assignment r (r.revise (r.data.finish d.clock))
  /-- it is deleted -/
  | buried {kind : Kind} (r : kind.Record) (operation : op = .delete kind r.id) (live : r.isLive) :
      Successor op d kind r (r.bury d.contents.wall)
  /-- it is restored -/
  | restored {kind : Kind} (r : kind.Record) (operation : op = .undelete kind r.id) :
      Successor op d kind r r.restore

theorem Successor.id {r s : kind.Record} (h : Successor op d kind r s) : s.id = r.id := by
  cases h <;> rfl

theorem Successor.revised {r s : kind.Record} (h : Successor op d kind r s) :
    kind.Revised d.clock r.data s.data := by
  cases h with
  | kept => exact .same _ _
  | terminated r _ _ running => exact .terminated _ _ running
  | returned r _ out => exact .returned _ out
  | buried => exact .same _ _
  | restored => exact .same _ _

/-- A `put` loses nothing if the record put succeeds the one that it replaces. -/
theorem Storage.Books.exists_successor_put {r s : kind.Record} {t : other.Record}
    (ht : d.books.Stored other t) (hr : d.books.Stored kind r) (h : Successor op d kind r s) :
    ∃ t', (d.books.put kind s).Stored other t' ∧ Successor op d other t t' := by
  by_cases hk : other = kind
  · subst hk
    by_cases heq : t.id = r.id
    · obtain rfl := ht.eq_of_id_eq hr heq
      exact ⟨s, stored_put.mpr (.inl rfl), h⟩
    · refine ⟨t, stored_put.mpr (.inr ⟨?_, ht⟩), .kept t⟩
      rwa [h.id]
  · exact ⟨t, (stored_put_of_ne hk).mpr ht, .kept t⟩

/-- **Nothing is lost.** Every stored record has a successor in the books after an operation. -/
theorem Effect.exists_successor (he : Effect op d d') (hd : d.Numbered)
    (hids : d.ids.NeverRepeats) {t : other.Record} (ht : d.books.Stored other t) :
    ∃ t', d'.books.Stored other t' ∧ Successor op d other t t' := by
  cases he with
  | untouched hb =>
    rw [hb]
    exact ⟨t, ht, .kept t⟩
  | entered kind data operation admits named ids hb =>
    rw [hb]
    refine ⟨t, ?_, .kept t⟩
    -- the new identifier is not that of the old record, which is therefore not overwritten
    by_cases hk : other = kind
    · subst hk
      exact Books.stored_put.mpr (.inr ⟨hd.id_ne_next hids ht, ht⟩)
    · exact (Books.stored_put_of_ne hk).mpr ht
  | terminated r terminatedBy operation live running filled hb =>
    rw [hb]
    exact Books.exists_successor_put ht live.stored (.terminated r _ operation running)
  | returned r operation live out hb =>
    rw [hb]
    exact Books.exists_successor_put ht live.stored (.returned r operation out)
  | buried kind r operation live free hb =>
    rw [hb]
    exact Books.exists_successor_put ht live.stored (.buried r operation live.isLive)
  | restored kind r operation named stored hb =>
    rw [hb]
    exact Books.exists_successor_put ht stored (.restored r operation)

/-- Every stored record is still stored after an operation, with its data revised at most. -/
theorem Effect.retains (he : Effect op d d') (hd : d.Numbered) (hids : d.ids.NeverRepeats)
    {t : other.Record} (ht : d.books.Stored other t) :
    ∃ t', d'.books.Stored other t' ∧ t'.id = t.id ∧ other.Revised d.clock t.data t'.data := by
  obtain ⟨t', ht', hsucc⟩ := he.exists_successor hd hids ht
  exact ⟨t', ht', hsucc.id, hsucc.revised⟩

/-- A vehicle stays in its fleet. -/
theorem Effect.fleetOfVehicle (he : Effect op d d') (hd : d.Numbered) (hids : d.ids.NeverRepeats)
    {vehicleId fleetId : String} (h : d.books.fleetOfVehicle vehicleId = some fleetId) :
    d'.books.fleetOfVehicle vehicleId = some fleetId := by
  obtain ⟨v, hv, rfl, rfl⟩ := Books.fleetOfVehicle_eq_some_iff.mp h
  obtain ⟨v', hv', hid, hrev⟩ := he.retains hd hids hv
  exact Books.fleetOfVehicle_eq_some_iff.mpr ⟨v', hv', hid, by rw [hrev.eq_of_vehicle]⟩

/-! ## References -/

/-- The records that the data of a record refer to. -/
def Kind.references : (kind : Kind) → kind.Data → List (Kind × String)
  | .legalEntity, _ => []
  | .fleet, f => [(.legalEntity, f.legalEntityId)]
  | .vehicle, v => [(.fleet, v.fleetId)]
  | .driver, _ => []
  | .contract, c => [(.driver, c.driverId), (.legalEntity, c.legalEntityId), (.fleet, c.fleetId)]
  | .assignment, a => [(.driver, a.driverId), (.vehicle, a.vehicleId), (.contract, a.contractId)]

/-- No revision changes what a record refers to. -/
theorem Kind.Revised.references {now : Instant} {x y : kind.Data} (h : kind.Revised now x y) :
    kind.references y = kind.references x := by
  cases h <;> rfl

/-- The reference points to a stored record. -/
def Storage.Books.Knows (b : Books) (ref : Kind × String) : Prop :=
  ∃ r, b.Stored ref.1 r ∧ r.id = ref.2

/-- All references of stored records point to stored records. -/
def Storage.Books.Coherent (b : Books) : Prop :=
  ∀ kind r, b.Stored kind r → ∀ ref ∈ kind.references r.data, b.Knows ref

theorem Storage.Books.knows_of_find {b : Books} {id : String} {r : kind.Record}
    (h : b.find kind id = some r) : b.Knows (kind, id) := by
  obtain ⟨hlive, hid⟩ := Books.find_eq_some_iff.mp h
  exact ⟨r, hlive.stored, hid⟩

/-- Whatever is written, what is known stays known: a record is only ever replaced by one with the same
identifier. -/
theorem Storage.Books.Knows.put {b : Books} {ref : Kind × String} (h : b.Knows ref)
    (s : kind.Record) : (b.put kind s).Knows ref := by
  obtain ⟨other, name⟩ := ref
  obtain ⟨r, hr, hname⟩ := h
  by_cases hk : other = kind
  · subst hk
    by_cases hid : r.id = s.id
    · exact ⟨s, Books.stored_put.mpr (.inl rfl), hid.symm.trans hname⟩
    · exact ⟨r, Books.stored_put.mpr (.inr ⟨hid, hr⟩), hname⟩
  · exact ⟨r, (Books.stored_put_of_ne hk).mpr hr, hname⟩

/-- What is known stays known. -/
theorem Effect.knows (he : Effect op d d') {ref : Kind × String} (h : d.books.Knows ref) :
    d'.books.Knows ref := by
  cases he with
  | untouched hb => rwa [hb]
  | entered _ _ _ _ _ _ hb => exact hb ▸ h.put _
  | terminated _ _ _ _ _ _ hb => exact hb ▸ h.put _
  | returned _ _ _ _ hb => exact hb ▸ h.put _
  | buried _ _ _ _ _ hb => exact hb ▸ h.put _
  | restored _ _ _ _ _ hb => exact hb ▸ h.put _

/-- New data refer to what is known. The driver of an assignment is not checked, but is known from
the contract. -/
theorem Desk.Admits.knows {data : kind.Data} (h : d.Admits kind data) (hd : d.books.Coherent) :
    ∀ ref ∈ kind.references data, d.books.Knows ref := by
  intro ref href
  cases kind with
  | legalEntity => cases href
  | driver => cases href
  | fleet =>
    obtain ⟨-, -, e, he⟩ := h
    obtain rfl := List.mem_singleton.mp href
    exact Books.knows_of_find he
  | vehicle =>
    obtain ⟨-, -, -, -, -, f, hf⟩ := h
    obtain rfl := List.mem_singleton.mp href
    exact Books.knows_of_find hf
  | contract =>
    obtain ⟨p, hp⟩ := h.driver
    obtain ⟨e, he⟩ := h.legalEntity
    obtain ⟨f, hf⟩ := h.fleet
    simp only [Kind.references, List.mem_cons, List.not_mem_nil, or_false] at href
    rcases href with rfl | rfl | rfl
    · exact Books.knows_of_find hp
    · exact Books.knows_of_find he
    · exact Books.knows_of_find hf
  | assignment =>
    obtain ⟨c, v, h⟩ := h
    have hc := (Books.find_eq_some_iff.mp h.contract).1.stored
    simp only [Kind.references, List.mem_cons, List.not_mem_nil, or_false] at href
    rcases href with rfl | rfl | rfl
    · rw [h.driver]
      exact hd .contract c hc _ (List.mem_cons_self ..)
    · exact Books.knows_of_find h.vehicle
    · exact Books.knows_of_find h.contract

/-- What is referred to after an operation was known before it. -/
theorem Effect.knew (he : Effect op d d') (h : d.books.Coherent) {s : kind.Record}
    (hs : d'.books.Stored kind s) : ∀ ref ∈ kind.references s.data, d.books.Knows ref := by
  cases he.origin hs with
  | revised r stored id rev =>
    rw [rev.references]
    exact h kind r stored
  | entered admits => exact admits.knows h

/-- The desk keeps its records under identifiers that were drawn and never come up again, and no
reference dangles. -/
structure Desk.Orderly (d : Desk Memory) : Prop where
  numbered : d.Numbered
  neverRepeats : d.ids.NeverRepeats
  coherent : d.books.Coherent

theorem Desk.Orderly.prepare (h : d.Orderly) (t : Turn) : (t.prepare d).Orderly :=
  ⟨h.numbered.prepare t, h.neverRepeats, h.coherent⟩

/-- **No reference dangles**, whatever identifiers are drawn. -/
theorem coherent_history (ids : IdSource) (turns : List Turn) :
    (history ids turns).books.Coherent := by
  refine history_invariant (P := fun d => d.books.Coherent)
    (fun _ _ hr => absurd hr Books.not_stored_empty) ?_
  intro past t _ h kind s hs ref href
  exact (t.effect _).knows ((t.effect _).knew h hs ref href)

/-- **A desk stays orderly**, as long as identifiers do not repeat. -/
theorem orderly_history {ids : IdSource} (hids : ids.NeverRepeats) (turns : List Turn) :
    (history ids turns).Orderly :=
  ⟨numbered_history ids turns, hids.of_leads (leads_history ids turns), coherent_history ids turns⟩

end LeaseDesk
