import LeaseDesk.Proofs.Failing
import LeaseDesk.Proofs.Success

/-!
# What an operation does to the books

`Effect` lists what one operation can do: nothing at all, or enter a new record, terminate a
contract, return a vehicle, delete a record or restore one. Each case carries all that the operation
has checked before. `Operation.effect` says that this list is complete, whatever the operation, the
desk and the result. An invariant of the books is kept by the desk if it is kept in the six cases of
`Effect`.

For invariants that speak of one record at a time there are shorter ways. `Effect.source` tells of
every stored record how it got there. Where only the data matter, `Effect.origin` is enough: every
stored record was stored before or is new, and of the data of an old one hardly anything has changed:
a contract can have been terminated and a vehicle can have been returned, each once (`Kind.Revised`).
For invariants about two live records of a kind there is `Effect.livePairwise`.
-/

namespace LeaseDesk

open Storage

/-! ## What is entered -/

/-- A text that was given, without the blanks around it. -/
def Filled (text : String) : Prop :=
  text ≠ "" ∧ ∃ given, text = Text.trim given

/-- What has been checked of a new contract. -/
structure Desk.AdmitsContract (d : Desk Memory) (c : Contract) : Prop where
  named : c.driverId ≠ "" ∧ c.legalEntityId ≠ "" ∧ c.fleetId ≠ ""
  ordered : c.startDate < c.endDate
  driver : ∃ p, d.books.find .driver c.driverId = some p
  legalEntity : ∃ e, d.books.find .legalEntity c.legalEntityId = some e
  fleet : ∃ f, d.books.find .fleet c.fleetId = some f
  free : ∀ r, d.books.Live .contract r → r.data.covers c.driverId c.legalEntityId c.fleetId →
    ¬ r.data.overlaps c.startDate c.endDate
  running : c.terminatedAt = none ∧ c.terminatedBy = none

/-- What has been checked of a new assignment, under its contract and for its vehicle. -/
structure Desk.AdmitsAssignment (d : Desk Memory) (a : Assignment) (c : Kind.contract.Record)
    (v : Kind.vehicle.Record) : Prop where
  named : a.contractId ≠ "" ∧ a.vehicleId ≠ ""
  contract : d.books.find .contract a.contractId = some c
  vehicle : d.books.find .vehicle a.vehicleId = some v
  driver : a.driverId = c.data.driverId
  fleet : v.data.fleetId = c.data.fleetId
  active : c.data.isActiveAt d.clock
  free : d.books.activeInFleet a.driverId v.data.fleetId = none
  handedOut : a.startTime = d.clock ∧ a.endTime = none

/-- What has been checked of new data of any kind. -/
def Desk.Admits (d : Desk Memory) : (kind : Kind) → kind.Data → Prop
  | .legalEntity, e => Filled e.name ∧ Filled e.taxId
  | .fleet, f => Filled f.name ∧ f.legalEntityId ≠ "" ∧
      ∃ e, d.books.find .legalEntity f.legalEntityId = some e
  | .vehicle, v => Filled v.make ∧ Filled v.model ∧ (∃ given, v.licensePlate = Text.trim given) ∧
      Vehicle.isPlausibleYear v.year ∧ v.fleetId ≠ "" ∧
      ∃ f, d.books.find .fleet v.fleetId = some f
  | .driver, p => Filled p.firstName ∧ Filled p.lastName ∧ Filled p.licenseNumber ∧
      d.register p = .ok .valid
  | .contract, c => d.AdmitsContract c
  | .assignment, a => ∃ c v, d.AdmitsAssignment a c v

/-! ## The effects -/

/-- What an operation on the desk `d` can do to the books, if it leaves the desk `d'`. -/
inductive Effect (op : Operation) (d d' : Desk Memory) : Prop
  /-- nothing -/
  | untouched (books : d'.books = d.books)
  /-- put new data on record, under the next identifier -/
  | entered (kind : Kind) (data : kind.Data) (operation : op.enters = some kind)
      (admits : d.Admits kind data) (named : d.ids.next ≠ "") (ids : d'.ids = d.ids.advance)
      (books : d'.books = d.books.put kind (.fresh d.ids.next data))
  /-- terminate a contract -/
  | terminated (r : Kind.contract.Record) (terminatedBy : String)
      (operation : op = .terminateContract r.id terminatedBy) (live : d.books.Live .contract r)
      (running : r.data.terminatedAt = none) (filled : Text.trim terminatedBy ≠ "")
      (books : d'.books = d.books.put .contract
        (r.revise (r.data.terminate d.clock (Text.trim terminatedBy))))
  /-- take a vehicle back -/
  | returned (r : Kind.assignment.Record) (operation : op = .returnVehicle r.id)
      (live : d.books.Live .assignment r) (out : r.data.endTime = none)
      (books : d'.books = d.books.put .assignment (r.revise (r.data.finish d.clock)))
  /-- delete a record -/
  | buried (kind : Kind) (r : kind.Record) (operation : op = .delete kind r.id)
      (live : d.books.Live kind r) (free : kind = .driver → Procedure.NoObligations d r.id)
      (books : d'.books = d.books.put kind (r.bury d.contents.wall))
  /-- restore a record -/
  | restored (kind : Kind) (r : kind.Record) (operation : op = .undelete kind r.id)
      (named : r.id ≠ "") (stored : d.books.Stored kind r)
      (books : d'.books = d.books.put kind r.restore)

variable {d d' : Desk Memory}

open Program Procedure in
/-- The operations that come to a result. -/
theorem Operation.effect_of_yields {op : Operation} {out : Outcome}
    (h : op.program.Yields d out d') : Effect op d d' := by
  cases op <;> simp only [Operation.program, bind_eq, pure_eq] at h
  case createLegalEntity name taxId =>
    obtain ⟨r, h, -⟩ := yields_map.mp h
    obtain ⟨hname, htax, hid, -, rfl⟩ := yields_createLegalEntity.mp h
    refine .entered .legalEntity _ rfl ?_ hid rfl rfl
    exact ⟨⟨hname, name, rfl⟩, htax, taxId, rfl⟩
  case createFleet legalEntityId name =>
    obtain ⟨r, h, -⟩ := yields_map.mp h
    obtain ⟨hentity, hname, e, he, hid, -, rfl⟩ := yields_createFleet.mp h
    refine .entered .fleet _ rfl ?_ hid rfl rfl
    exact ⟨⟨hname, name, rfl⟩, hentity, e, he⟩
  case createVehicle fleetId make model year licensePlate =>
    obtain ⟨r, h, -⟩ := yields_map.mp h
    obtain ⟨hfleet, hmake, hmodel, hyear, f, hf, hid, -, rfl⟩ := yields_createVehicle.mp h
    refine .entered .vehicle _ rfl ?_ hid rfl rfl
    exact ⟨⟨hmake, make, rfl⟩, ⟨hmodel, model, rfl⟩, ⟨licensePlate, rfl⟩, hyear, hfleet, f, hf⟩
  case createDriver firstName lastName licenseNumber =>
    obtain ⟨r, h, -⟩ := yields_map.mp h
    obtain ⟨hfirst, hlast, hnumber, p, rfl, hvalid, hid, -, rfl⟩ := yields_createDriver.mp h
    refine .entered .driver _ rfl ?_ hid rfl rfl
    exact ⟨⟨hfirst, firstName, rfl⟩, ⟨hlast, lastName, rfl⟩, ⟨hnumber, licenseNumber, rfl⟩, hvalid⟩
  case createContract driverId legalEntityId fleetId first last =>
    obtain ⟨r, h, -⟩ := yields_map.mp h
    obtain ⟨hnamed, hdays, p, hp, e, he, f, hf, hfree, hid, -, rfl⟩ := yields_createContract.mp h
    refine .entered .contract _ rfl ?_ hid rfl rfl
    exact ⟨hnamed, hdays, ⟨p, hp⟩, ⟨e, he⟩, ⟨f, hf⟩, hfree, rfl, rfl⟩
  case terminateContract id terminatedBy =>
    obtain ⟨r, h, -⟩ := yields_map.mp h
    obtain ⟨-, hby, c, hc, hrunning, -, rfl⟩ := yields_terminateContract.mp h
    obtain ⟨hlive, rfl⟩ := Books.find_eq_some_iff.mp hc
    exact .terminated c terminatedBy rfl hlive hrunning hby rfl
  case assignVehicle contractId vehicleId =>
    obtain ⟨r, h, -⟩ := yields_map.mp h
    obtain ⟨hnamed, c, hc, v, hv, hfleet, hactive, hfree, hid, -, rfl⟩ :=
      yields_assignVehicle.mp h
    refine .entered .assignment _ rfl ?_ hid rfl rfl
    exact ⟨c, v, hnamed, hc, hv, rfl, hfleet, hactive, hfree, rfl, rfl⟩
  case returnVehicle id =>
    obtain ⟨r, h, -⟩ := yields_map.mp h
    obtain ⟨-, a, ha, hout, -, rfl⟩ := yields_returnVehicle.mp h
    obtain ⟨hlive, rfl⟩ := Books.find_eq_some_iff.mp ha
    exact .returned a rfl hlive hout rfl
  case validateLicense driverId =>
    obtain ⟨v, h, -⟩ := yields_map.mp h
    obtain ⟨-, p, -, -, rfl⟩ := yields_validateLicense.mp h
    exact .untouched rfl
  case get kind id =>
    obtain ⟨r, h, -⟩ := yields_map.mp h
    obtain ⟨-, -, rfl⟩ := yields_get.mp h
    exact .untouched rfl
  case list listing =>
    obtain ⟨rs, h, -⟩ := yields_map.mp h
    obtain ⟨-, -, rfl⟩ := yields_list.mp h
    exact .untouched rfl
  case delete kind id =>
    obtain ⟨u, h, -⟩ := (yields_map (f := fun _ => Outcome.nothing)).mp h
    obtain ⟨-, hfree, r, hr, rfl⟩ := yields_delete.mp h
    obtain ⟨hlive, rfl⟩ := Books.find_eq_some_iff.mp hr
    exact .buried kind r rfl hlive hfree rfl
  case undelete kind id =>
    obtain ⟨u, h, -⟩ := (yields_map (f := fun _ => Outcome.nothing)).mp h
    obtain ⟨hid, r, hr, rfl⟩ := yields_undelete.mp h
    obtain ⟨hstored, rfl⟩ := Books.lookup_eq_some_iff.mp hr
    exact .restored kind r rfl hid hstored rfl

/-- **The list of effects is complete.** Whatever an operation comes to, it has had one of them. -/
theorem Operation.effect {op : Operation} {result : Except Failure Outcome}
    (h : op.program.run memoryHost d = (result, d')) : Effect op d d' := by
  cases result with
  | error e => exact .untouched (Operation.failing h).books
  | ok out => exact Operation.effect_of_yields h

/-! ## Where records come from -/

/-- How a record got into the books, if an operation on the desk `d` has left the desk `d'`. -/
inductive Source (op : Operation) (d d' : Desk Memory) : (kind : Kind) → kind.Record → Prop
  /-- it was there as it is -/
  | kept {kind : Kind} {s : kind.Record} (stored : d.books.Stored kind s) : Source op d d' kind s
  /-- it is new -/
  | entered {kind : Kind} (data : kind.Data) (operation : op.enters = some kind)
      (admits : d.Admits kind data) (named : d.ids.next ≠ "") (ids : d'.ids = d.ids.advance) :
      Source op d d' kind (.fresh d.ids.next data)
  /-- it is a contract, just terminated -/
  | terminated (r : Kind.contract.Record) (terminatedBy : String)
      (operation : op = .terminateContract r.id terminatedBy) (live : d.books.Live .contract r)
      (running : r.data.terminatedAt = none) :
      Source op d d' .contract (r.revise (r.data.terminate d.clock (Text.trim terminatedBy)))
  /-- it is an assignment, the vehicle just returned -/
  | returned (r : Kind.assignment.Record) (operation : op = .returnVehicle r.id)
      (live : d.books.Live .assignment r) (out : r.data.endTime = none) :
      Source op d d' .assignment (r.revise (r.data.finish d.clock))
  /-- it has just been deleted -/
  | buried {kind : Kind} (r : kind.Record) (operation : op = .delete kind r.id)
      (live : d.books.Live kind r) (free : kind = .driver → Procedure.NoObligations d r.id) :
      Source op d d' kind (r.bury d.contents.wall)
  /-- it has just been restored -/
  | restored {kind : Kind} (r : kind.Record) (operation : op = .undelete kind r.id)
      (stored : d.books.Stored kind r) : Source op d d' kind r.restore

/-- **Records come from somewhere.** Whatever stands in the books after an operation has been there
before, or the operation has put it there. -/
theorem Effect.source {op : Operation} (he : Effect op d d') {other : Kind} {s : other.Record}
    (hs : d'.books.Stored other s) : Source op d d' other s := by
  have hold : ∀ kind r, d.books.Stored kind r → Source op d d' kind r :=
    fun _ _ => .kept
  cases he with
  | untouched hb =>
    rw [hb] at hs
    exact hold other s hs
  | entered kind data operation admits named ids hb =>
    rw [hb] at hs
    exact Books.forall_stored_put hold (.entered data operation admits named ids) other s hs
  | terminated r terminatedBy operation live running filled hb =>
    rw [hb] at hs
    exact Books.forall_stored_put hold (.terminated r _ operation live running) other s hs
  | returned r operation live out hb =>
    rw [hb] at hs
    exact Books.forall_stored_put hold (.returned r operation live out) other s hs
  | buried kind r operation live free hb =>
    rw [hb] at hs
    exact Books.forall_stored_put hold (.buried r operation live free) other s hs
  | restored kind r operation named stored hb =>
    rw [hb] at hs
    exact Books.forall_stored_put hold (.restored r operation stored) other s hs

/-- What can become of the data of a record at a time: nothing, or a contract is terminated, or a
vehicle is returned. -/
inductive Kind.Revised (now : Instant) : (kind : Kind) → kind.Data → kind.Data → Prop
  /-- nothing -/
  | same (kind : Kind) (data : kind.Data) : Revised now kind data data
  /-- the contract is terminated -/
  | terminated (c : Contract) (terminatedBy : String) (running : c.terminatedAt = none) :
      Revised now .contract c (c.terminate now terminatedBy)
  /-- the vehicle is returned -/
  | returned (a : Assignment) (out : a.endTime = none) :
      Revised now .assignment a (a.finish now)

/-- Where a stored record comes from as far as its data are concerned. -/
inductive Origin (d d' : Desk Memory) (kind : Kind) (s : kind.Record) : Prop
  /-- the record was there, with the same data or with data since revised -/
  | revised (r : kind.Record) (stored : d.books.Stored kind r) (id : r.id = s.id)
      (rev : kind.Revised d.clock r.data s.data)
  /-- the record is new -/
  | entered (admits : d.Admits kind s.data) (id : s.id = d.ids.next) (named : s.id ≠ "")
      (ids : d'.ids = d.ids.advance)

/-- Up to a revision of its data, a record was there before or is new. -/
theorem Effect.origin {op : Operation} (he : Effect op d d') {other : Kind} {s : other.Record}
    (hs : d'.books.Stored other s) : Origin d d' other s := by
  cases he.source hs with
  | kept stored => exact .revised s stored rfl (.same _ _)
  | entered data operation admits named ids => exact .entered admits rfl named ids
  | terminated r _ _ live running => exact .revised r live.stored rfl (.terminated _ _ running)
  | returned r _ live out => exact .revised r live.stored rfl (.returned _ out)
  | buried r _ live _ => exact .revised r live.stored rfl (.same _ _)
  | restored r _ stored => exact .revised r stored rfl (.same _ _)

/-! ## Invariants about two records -/

/-- **What can break a relation.** A symmetric relation between the live records of a kind is kept
by an operation if it holds between new data that were admitted and every live record, if it
survives revisions, and if it holds between a record that is restored and every other live one. -/
theorem Effect.livePairwise {op : Operation} (he : Effect op d d') {kind : Kind}
    {R : kind.Record → kind.Record → Prop} (h : d.books.LivePairwise kind R)
    (hsymm : ∀ r s, R r s → R s r)
    (hentered : ∀ data s, d.Admits kind data → d.books.Live kind s → R (.fresh d.ids.next data) s)
    (hrevised : ∀ r s data, kind.Revised d.clock r.data data → R r s → R (r.revise data) s)
    (hrestored : ∀ r s, op = .undelete kind r.id → d.books.Stored kind r → d.books.Live kind s →
      s.id ≠ r.id → R r.restore s) : d'.books.LivePairwise kind R := by
  -- a live record is related to the live records with other identifiers
  have hlive : ∀ r s, d.books.Live kind r → d.books.Live kind s → s.id ≠ r.id → R r s := by
    intro r s hr hs hid
    refine h r s hr hs ?_
    rintro rfl
    exact hid rfl
  cases he with
  | untouched hb => rwa [hb]
  | entered k data operation admits named ids hb =>
    rw [hb]
    by_cases hk : kind = k
    · subst hk
      exact h.put hsymm fun _ s hs _ => hentered data s admits hs
    · exact h.put_of_ne hk _
  | terminated r terminatedBy operation live running filled hb =>
    rw [hb]
    by_cases hk : kind = .contract
    · subst hk
      refine h.put hsymm fun _ s hs hid => ?_
      exact hrevised r s _ (.terminated _ _ running) (hlive r s live hs hid)
    · exact h.put_of_ne hk _
  | returned r operation live out hb =>
    rw [hb]
    by_cases hk : kind = .assignment
    · subst hk
      refine h.put hsymm fun _ s hs hid => ?_
      exact hrevised r s _ (.returned _ out) (hlive r s live hs hid)
    · exact h.put_of_ne hk _
  | buried k r operation live free hb =>
    rw [hb]
    by_cases hk : kind = k
    · subst hk
      exact h.put hsymm fun hl => nomatch hl
    · exact h.put_of_ne hk _
  | restored k r operation named stored hb =>
    rw [hb]
    by_cases hk : kind = k
    · subst hk
      exact h.put hsymm fun _ s hs hid => hrestored r s operation stored hs hid
    · exact h.put_of_ne hk _

end LeaseDesk
