import LeaseDesk.Proofs.Resemblance

/-!
# Two storages, the same answers

The same calls are put to a memory and to a database behind a faithful connection. This module shows
that nobody can tell the two apart by their answers, records and failures alike. One query leaves
the database a choice, the first active assignment in a fleet, and there the answers may differ in
which of several assignments is named that began at the same moment (`SameStart`).

`answer_agrees` deals with one call, from tables that show the books to tables that show the books.
`storages_agree` follows by induction for any number of calls, beginning with nothing on record.
-/

namespace LeaseDesk.Sql

open Storage

/-! ## Replies -/

section

variable {σ α β : Type}

theorem attempt_bind_ok {x : Attempt σ α} {f : α → Attempt σ β} {state state' : σ} {a : α}
    (h : x state = (.ok a, state')) : (x >>= f) state = f a state' := by
  simp only [bind, ExceptT.bind, ExceptT.mk, StateT.bind, h, ExceptT.bindCont]

variable {c : Connection σ} {tables : σ → Tables}

theorem Faithful.tell_eq (hc : Faithful c tables) {s : Statement} (hs : s.Emitted) (state : σ) :
    ∃ reply state', tell c s state = (.ok reply, state') ∧
      (tables state).Executes s reply (tables state') := by
  obtain ⟨reply, state', hrun, hexecutes⟩ := hc.executes s hs state
  exact ⟨reply, state', by rw [tell, hrun], hexecutes⟩

theorem Faithful.ask_eq (hc : Faithful c tables) {q : Query} (hq : (Statement.select q).Emitted)
    (state : σ) :
    ∃ rows state', ask c q state = (.ok rows, state') ∧ q.Returns (tables state) rows ∧
      (tables state').Same (tables state) := by
  obtain ⟨reply, state', htell, ⟨rows, rfl, hrows⟩, hsame⟩ := hc.tell_eq hq state
  refine ⟨rows, state', ?_, hrows, hsame⟩
  rw [ask, attempt_bind_ok htell]
  rfl

theorem Faithful.change_upsert (hc : Faithful c tables) (kind : Kind) (r : kind.Record)
    (state : σ) :
    ∃ state', change c (.upsert kind (rowOf kind r)) state = (.ok 1, state') ∧
      (tables state').Same ((tables state).change kind (upsertRows kind (rowOf kind r))) := by
  obtain ⟨reply, state', htell, rfl, hsame⟩ := hc.tell_eq (.save kind r) state
  refine ⟨state', ?_, hsame⟩
  rw [change, attempt_bind_ok htell]
  rfl

theorem Faithful.change_update (hc : Faithful c tables) {column : ColumnRef} {value : Argument}
    {conditions : List Condition} (hs : (Statement.update column value conditions).Emitted)
    (state : σ) :
    ∃ now state', change c (.update column value conditions) state =
        (.ok ((tables state column.kind).countP fun row => row.satisfies conditions), state') ∧
      (tables state').Same ((tables state).change column.kind
        (updateRows column.name (value.value now) conditions)) := by
  obtain ⟨reply, state', htell, now, rfl, hsame⟩ := hc.tell_eq hs state
  refine ⟨now, state', ?_, hsame⟩
  rw [change, attempt_bind_ok htell]
  rfl

/-- The rows that a query returns are read back without loss. -/
theorem records_eq {q : Query} {state state' : σ} {ys : List q.kind.Record}
    (h : ask c q state = (.ok (ys.map (rowOf q.kind)), state')) :
    records c q state = (.ok ys, state') := by
  rw [records, attempt_bind_ok h, mapM_recordOf]
  rfl

theorem first_eq {q : Query} {state state' : σ} (ys : List q.kind.Record)
    (h : ask c q state = (.ok ((ys.map (rowOf q.kind)).take 1), state')) :
    first c q state = (.ok ys.head?, state') := by
  rw [first, attempt_bind_ok h]
  cases ys with
  | nil => rfl
  | cons y ys =>
    show (readable (recordOf q.kind (rowOf q.kind y)) >>= _) state' = _
    rw [recordOf_rowOf]
    rfl

end

/-! ## The calls -/

section

variable {σ : Type} {c : Connection σ} {tables : σ → Tables} {state : σ} {b : Books}

/-- A list comes out of the database as it comes out of the books. -/
theorem records_agree (hc : Faithful c tables) (hb : Represents (tables state) b) {q : Query}
    (hq : (Statement.select q).Emitted) (hjoin : q.join = none) (horder : q.order = orderOf q.kind)
    (hlimit : q.limit = none) {p : q.kind.Record → Bool}
    (hp : ∀ x, (rowOf q.kind x).satisfies q.conditions = (x.isLive && p x)) :
    ∃ state', records c q state = (.ok (b.sorted q.kind p), state') ∧
      Represents (tables state') b := by
  obtain ⟨rows, state', hask, hreturns, hsame⟩ := hc.ask_eq hq state
  obtain ⟨xs, ht, hxs⟩ := hb q.kind
  obtain ⟨ys, hys, hsorted, rfl⟩ := exists_records_of_returns hjoin hp ht hreturns
  rw [hxs.filter_eq] at hys
  rw [horder] at hsorted
  refine ⟨state', ?_, hb.of_same hsame⟩
  rw [← Books.eq_sorted hys (hsorted.imp fun h => (inOrder_rowOf _ _).symm.trans h)]
  refine records_eq (hask.trans ?_)
  rw [Query.cut, hlimit]

/-- What is at the head of a list with at most one element. -/
theorem head?_eq_of_mem_iff {α : Type} {l : List α} {o : Option α}
    (h : ∀ a, a ∈ l ↔ o = some a) : l.head? = o := by
  cases l with
  | nil =>
    cases o with
    | none => rfl
    | some a => exact absurd ((h a).mpr rfl) List.not_mem_nil
  | cons a l => exact ((h a).mp List.mem_cons_self).symm

/-- A query for one record is answered with the one record that satisfies the conditions. -/
theorem first_agrees (hc : Faithful c tables) {kind : Kind} {conditions : List Condition}
    (hq : (Statement.select ⟨kind, none, conditions, [], some 1⟩).Emitted)
    {xs : List kind.Record} (ht : (tables state kind).Perm (xs.map (rowOf kind)))
    {p : kind.Record → Bool} (hp : ∀ x, (rowOf kind x).satisfies conditions = p x)
    {found : Option kind.Record} (hfound : ∀ x, x ∈ xs.filter p ↔ found = some x) :
    ∃ state', first c ⟨kind, none, conditions, [], some 1⟩ state = (.ok found, state') ∧
      (tables state').Same (tables state) := by
  obtain ⟨rows, state', hask, hreturns, hsame⟩ := hc.ask_eq hq state
  obtain ⟨ys, hys, -, rfl⟩ := exists_records_of_returns rfl hp ht hreturns
  refine ⟨state', ?_, hsame⟩
  have hhead : ys.head? = found :=
    head?_eq_of_mem_iff fun x => hys.mem_iff.trans (hfound x)
  rw [← hhead]
  exact first_eq ys hask

/-- A live record is found in the database as it is found in the books. -/
theorem find_agrees (hc : Faithful c tables) (hb : Represents (tables state) b) (kind : Kind)
    (id : String) :
    ∃ state', first c (liveQuery kind id) state = (.ok (b.find kind id), state') ∧
      Represents (tables state') b := by
  obtain ⟨xs, ht, hxs⟩ := hb kind
  have hfound : ∀ x : kind.Record, x ∈ xs.filter (fun x => x.isLive && x.id == id) ↔
      b.find kind id = some x := by
    intro x
    rw [hxs.filter_eq, Books.find_eq_some_iff, Books.live_iff, and_assoc]
    refine Store.mem_live.trans ?_
    rw [beq_iff_eq]
    rfl
  obtain ⟨state', hfirst, hsame⟩ :=
    first_agrees hc (.find kind id) ht (fun x => satisfies_hasId_isLive x id) hfound
  exact ⟨state', hfirst, hb.of_same hsame⟩

/-- Deleted or not, a record in the database resembles the one in the books. -/
theorem lookup_agrees (hc : Faithful c tables) (hb : Represents (tables state) b) (kind : Kind)
    (id : String) :
    ∃ found state', first c (recordQuery kind id) state = (.ok found, state') ∧
      Option.Rel Record.Resembles found (b.lookup kind id) ∧ Represents (tables state') b := by
  obtain ⟨xs, ht, hxs⟩ := hb kind
  have hfound : ∀ x : kind.Record, x ∈ xs.filter (fun x => x.id == id) ↔
      xs.find? (fun x => x.id == id) = some x := by
    intro x
    rw [List.mem_filter, beq_iff_eq]
    exact (Store.lookup_eq_some_iff (s := ⟨xs, hxs.nodup⟩)).symm
  obtain ⟨state', hfirst, hsame⟩ :=
    first_agrees hc (.lookup kind id) ht (fun x => satisfies_hasId x id) hfound
  exact ⟨_, state', hfirst, hxs.find?_rel id, hb.of_same hsame⟩

/-! ### Changes -/

/-- A record is saved in the database as it is saved in the books. -/
theorem save_agrees (hc : Faithful c tables) (hb : Represents (tables state) b) (kind : Kind)
    (r : kind.Record) :
    ∃ state', answer c (.save kind r) state = (.ok (), state') ∧
      Represents (tables state') (b.put kind r) := by
  obtain ⟨state', hrun, hsame⟩ := hc.change_upsert kind r state
  refine ⟨state', ?_, ?_⟩
  · rw [answer, attempt_bind_ok hrun]
    rfl
  · obtain ⟨xs, ht, hxs⟩ := hb kind
    refine hb.of_change hsame ⟨Store.putInto r xs, ?_, ?_⟩ fun other h => ?_
    · refine (upsertRows_perm ht).trans (.of_eq ?_)
      exact upsertRows_rowOf r hxs.nodup
    · rw [Books.put, Books.get_set_self]
      exact hxs.putInto (.refl r)
    · rw [Books.put, Books.get_set_of_ne b h]

/-- A change of tombstones: what is written where the conditions are satisfied, next to the records
that this concerns and what it is to them. Two clocks may be read for the same tombstone. -/
structure Marks {kind : Kind} (value : Argument) (conditions : List Condition)
    (p : kind.Record → Bool) (t : Option Instant) : Prop where
  emitted : (Statement.update ⟨kind, "deleted_at"⟩ value conditions).Emitted
  satisfies : ∀ x, (rowOf kind x).satisfies conditions = p x
  resembling : ∀ r s : kind.Record, r.Resembles s → p r = p s
  value : ∀ now, ∃ t', value.value now = .ofMoment? t' ∧ t'.isNone = t.isNone

theorem marks_bury (kind : Kind) (id : String) (wall : Instant) :
    Marks .wallClock [hasId kind id, isLive kind] (fun x : kind.Record => x.isLive && x.id == id)
      (some wall) where
  emitted := .bury kind id
  satisfies x := satisfies_hasId_isLive x id
  resembling r s h := by rw [h.isLive, h.id]
  value now := ⟨some now, rfl, rfl⟩

theorem marks_restore (kind : Kind) (id : String) :
    Marks (.cell .null) [hasId kind id] (fun x : kind.Record => x.id == id) none where
  emitted := .restore kind id
  satisfies x := satisfies_hasId x id
  resembling r s h := by rw [h.id]
  value _ := ⟨none, rfl, rfl⟩

section

variable {kind : Kind} {value : Argument} {conditions : List Condition} {p : kind.Record → Bool}
  {t : Option Instant}

/-- After tombstones are changed in the database, the tables show any books in which the same
tombstones are changed. -/
theorem Marks.agree (h : Marks value conditions p t) (hc : Faithful c tables)
    (hb : Represents (tables state) b) :
    ∃ state', change c (.update ⟨kind, "deleted_at"⟩ value conditions) state =
        (.ok ((b.get kind).records.countP p), state') ∧
      ∀ b' : Books, (b'.get kind).records =
          (b.get kind).records.map (fun y => if p y then ⟨y.id, y.data, t⟩ else y) →
        (∀ other, other ≠ kind → b'.get other = b.get other) →
        Represents (tables state') b' := by
  obtain ⟨now, state', hrun, hsame⟩ := hc.change_update h.emitted state
  obtain ⟨t', hvalue, hnone⟩ := h.value now
  obtain ⟨xs, ht, hxs⟩ := hb kind
  refine ⟨state', ?_, fun b' hkind hothers => ?_⟩
  · rw [hrun, ht.countP_eq, List.countP_map, ← hxs.countP_eq h.resembling]
    rw [List.countP_congr fun x _ => by rw [Function.comp_apply, h.satisfies]]
  · refine hb.of_change hsame ⟨xs.map fun x => if p x then ⟨x.id, x.data, t'⟩ else x, ?_, ?_⟩
      hothers
    · rw [hvalue, ← updateRows_rowOf h.satisfies]
      exact ht.map _
    · rw [hkind]
      exact hxs.map_deletedAt h.resembling hnone

/-- Where no record is concerned, nothing is changed. -/
theorem Marks.agree_of_forall_not (h : Marks value conditions p t) (hc : Faithful c tables)
    (hb : Represents (tables state) b) (hp : ∀ r, b.Stored kind r → p r = false) :
    ∃ state', change c (.update ⟨kind, "deleted_at"⟩ value conditions) state = (.ok 0, state') ∧
      Represents (tables state') b := by
  obtain ⟨state', hrun, hafter⟩ := h.agree hc hb
  have hp (r : kind.Record) (hr : r ∈ (b.get kind).records) : p r = false :=
    hp r (Store.lookup_eq_some_iff.mpr ⟨hr, rfl⟩)
  refine ⟨state', ?_, hafter b ?_ fun _ _ => rfl⟩
  · rw [hrun, List.countP_eq_zero.mpr fun r hr => by rw [hp r hr]; exact Bool.false_ne_true]
  · rw [List.map_congr_left (g := id), List.map_id]
    intro r hr
    rw [hp r hr]
    rfl

/-- Where one record is concerned, it is put into the books with its tombstone changed. -/
theorem Marks.agree_of_unique (h : Marks value conditions p t) (hc : Faithful c tables)
    (hb : Represents (tables state) b) {r : kind.Record} (hr : b.Stored kind r)
    (hp : ∀ s, b.Stored kind s → (p s ↔ s.id = r.id)) :
    ∃ n state', change c (.update ⟨kind, "deleted_at"⟩ value conditions) state =
        (.ok n, state') ∧ n ≠ 0 ∧ Represents (tables state') (b.put kind ⟨r.id, r.data, t⟩) := by
  obtain ⟨state', hrun, hafter⟩ := h.agree hc hb
  obtain ⟨hmem, -⟩ := Store.lookup_eq_some_iff.mp hr
  refine ⟨_, state', hrun, ?_, hafter _ ?_ fun other hne => ?_⟩
  · exact Nat.ne_of_gt (List.countP_pos_iff.mpr ⟨r, hmem, (hp r hr).mpr rfl⟩)
  · rw [Books.put, Books.get_set_self]
    refine (Store.putInto_of_mem (r := ⟨r.id, r.data, t⟩) (b.get kind).distinct
      (List.mem_map.mpr ⟨r, hmem, rfl⟩)).trans ?_
    refine List.map_congr_left fun s hs => ?_
    have hs : b.Stored kind s := Store.lookup_eq_some_iff.mpr ⟨hs, rfl⟩
    by_cases hid : s.id = r.id
    · obtain rfl := hs.eq_of_id_eq hr hid
      rw [if_pos rfl, if_pos ((hp s hs).mpr rfl)]
    · rw [if_neg hid, if_neg (mt (hp s hs).mp hid)]
  · rw [Books.put, Books.get_set_of_ne b hne]

end

/-- A record is restored in the database as it is restored in memory. -/
theorem restore_agrees (hc : Faithful c tables) (hb : Represents (tables state) b) (kind : Kind)
    (id : String) (wall : Instant) :
    ∃ state', answer c (.restore kind id) state =
        ((Memory.answer (.restore kind id) ⟨b, wall⟩).1, state') ∧
      Represents (tables state') (Memory.answer (.restore kind id) ⟨b, wall⟩).2.books := by
  rw [Memory.answer, answer, restore]
  cases hr : b.lookup kind id with
  | none =>
    obtain ⟨state', hrun, hafter⟩ :=
      (marks_restore kind id).agree_of_forall_not hc hb fun s hs => by
        rw [beq_eq_false_iff_ne]
        rintro rfl
        rw [hs] at hr
        cases hr
    refine ⟨state', ?_, hafter⟩
    rw [restoreStatement, attempt_bind_ok hrun]
    rfl
  | some r =>
    obtain ⟨hr, rfl⟩ := Books.lookup_eq_some_iff.mp hr
    obtain ⟨n, state', hrun, hn, hafter⟩ :=
      (marks_restore kind r.id).agree_of_unique hc hb hr fun s _ => beq_iff_eq
    refine ⟨state', ?_, hafter⟩
    rw [restoreStatement, attempt_bind_ok hrun, if_neg (mt beq_iff_eq.mp hn)]
    rfl

/-- A record is buried in the database as it is buried in memory. -/
theorem bury_agrees (hc : Faithful c tables) (hb : Represents (tables state) b) (kind : Kind)
    (id : String) (wall : Instant) :
    ∃ state', answer c (.bury kind id) state =
        ((Memory.answer (.bury kind id) ⟨b, wall⟩).1, state') ∧
      Represents (tables state') (Memory.answer (.bury kind id) ⟨b, wall⟩).2.books := by
  rw [Memory.answer, answer, bury]
  by_cases hlive : ∃ r, b.Live kind r ∧ r.id = id
  · obtain ⟨r, hr, rfl⟩ := hlive
    obtain ⟨n, state', hrun, hn, hafter⟩ :=
      (marks_bury kind r.id wall).agree_of_unique hc hb hr.stored fun s hs => by
        rw [Bool.and_eq_true, beq_iff_eq, and_iff_right_iff_imp]
        intro hid
        rw [hs.eq_of_id_eq hr.stored hid]
        exact hr.isLive
    rw [hr.stored]
    simp only [Record.isDeleted, hr.deletedAt]
    refine ⟨state', ?_, hafter⟩
    rw [buryStatement, attempt_bind_ok hrun, if_neg (mt beq_iff_eq.mp hn)]
    rfl
  · obtain ⟨state₁, hrun, hb⟩ :=
      (marks_bury kind id wall).agree_of_forall_not hc hb fun s hs => by
        rw [Bool.and_eq_false_iff, beq_eq_false_iff_ne, ← Bool.not_eq_true]
        exact not_and_or.mp fun h => hlive ⟨s, Books.live_iff.mpr ⟨hs, h.1⟩, h.2⟩
    -- what the record looks like tells why no row was changed
    obtain ⟨found, state', hfirst, hfound, hb⟩ := lookup_agrees hc hb kind id
    rw [buryStatement, attempt_bind_ok hrun]
    refine ⟨state', ?_⟩
    show (first c (recordQuery kind id) >>= _) state₁ = _ ∧ _
    rw [attempt_bind_ok hfirst]
    cases hr : b.lookup kind id with
    | none =>
      rw [hr] at hfound
      cases hfound
      exact ⟨rfl, hb⟩
    | some r =>
      rw [hr] at hfound
      cases hfound
      have hdeleted : r.isDeleted := by
        rw [Record.isDeleted_eq_not_isLive, Bool.not_eq_true', ← Bool.not_eq_true]
        intro hl
        have hfind : b.find kind id = some r := by
          rw [Books.find, hr, Option.filter_some_pos hl]
        exact hlive ⟨r, Books.find_eq_some_iff.mp hfind⟩
      simp only [hdeleted, if_true]
      exact ⟨rfl, hb⟩

/-! ### The first active assignment in a fleet -/

/-- The assignment is an active one of the driver, on a vehicle of the fleet. -/
def ActiveInFleet (b : Books) (driverId fleetId : String) (a : Kind.assignment.Record) : Prop :=
  a ∈ b.activeAssignments driverId ∧ b.fleetOfVehicle a.data.vehicleId = some fleetId

/-- The row of an assignment, joined with the row of a vehicle. -/
def joined (a : Kind.assignment.Record) (v : Kind.vehicle.Record) : Scope :=
  Row.joinedScope .assignment (rowOf .assignment a) (rowOf .vehicle v)

/-- The query for the first active assignment in a fleet says of the two rows that the assignment is
an active one of the driver and the vehicle the one assigned, in the fleet. -/
theorem joined_holds (driverId fleetId : String) (a : Kind.assignment.Record)
    (v : Kind.vehicle.Record) :
    ((joined a v ⟨.assignment, "vehicle_id"⟩).equals (joined a v ⟨.vehicle, "id"⟩) &&
      (activeInFleetQuery driverId fleetId).conditions.all fun condition =>
        condition.holds (joined a v)) =
    ((a.isLive && (a.data.driverId == driverId && a.isActive)) &&
      (v.id == a.data.vehicleId && v.data.fleetId == fleetId)) := by
  have hjoin : (joined a v ⟨.assignment, "vehicle_id"⟩).equals (joined a v ⟨.vehicle, "id"⟩) =
      (a.data.vehicleId == v.id) := Cell.equals_text _ _
  have hfleet : (Condition.equals ⟨.vehicle, "fleet_id"⟩ (.text fleetId)).holds (joined a v) =
      (v.data.fleetId == fleetId) := Cell.equals_text _ _
  have hactive : ((activeConditions driverId).all fun condition => condition.holds (joined a v)) =
      (rowOf .assignment a).satisfies (activeConditions driverId) := rfl
  rw [hjoin, activeInFleetQuery, List.all_append, hactive, satisfies_activeConditions,
    List.all_cons, List.all_nil, hfleet, Bool.and_true, Bool.and_left_comm,
    Bool.beq_comm (a := v.id)]

theorem mem_hits_activeInFleet {t : Tables} {driverId fleetId : String} {hit : Scope × Row}
    {as : List Kind.assignment.Record} {vs : List Kind.vehicle.Record}
    (has : (t .assignment).Perm (as.map (rowOf .assignment)))
    (hvs : (t .vehicle).Perm (vs.map (rowOf .vehicle))) :
    hit ∈ (activeInFleetQuery driverId fleetId).hits t ↔
      ∃ a ∈ as, ∃ v ∈ vs, hit = (joined a v, rowOf .assignment a) ∧
        (a.isLive && (a.data.driverId == driverId && a.isActive)) ∧
        (v.id == a.data.vehicleId && v.data.fleetId == fleetId) := by
  rw [Query.hits, Query.candidates, List.mem_filter]
  simp only [activeInFleetQuery, List.mem_filter, List.mem_map, List.mem_product, Prod.exists]
  constructor
  · rintro ⟨⟨⟨row, other, ⟨hrow, hother⟩, rfl⟩, hjoin⟩, hconditions⟩
    obtain ⟨a, ha, rfl⟩ := List.mem_map.mp (has.mem_iff.mp hrow)
    obtain ⟨v, hv, rfl⟩ := List.mem_map.mp (hvs.mem_iff.mp hother)
    refine ⟨a, ha, v, hv, rfl, ?_⟩
    rw [← Bool.and_eq_true, ← joined_holds, Bool.and_eq_true]
    exact ⟨hjoin, hconditions⟩
  · rintro ⟨a, ha, v, hv, rfl, hholds⟩
    rw [← Bool.and_eq_true, ← joined_holds, Bool.and_eq_true] at hholds
    refine ⟨⟨⟨_, _, ⟨?_, ?_⟩, rfl⟩, hholds.1⟩, hholds.2⟩
    · exact has.mem_iff.mpr (List.mem_map_of_mem ha)
    · exact hvs.mem_iff.mpr (List.mem_map_of_mem hv)

theorem activeInFleet_iff {driverId fleetId : String} {a : Kind.assignment.Record}
    {as : List Kind.assignment.Record} {vs : List Kind.vehicle.Record}
    (has : Resemblance as (b.get .assignment).records)
    (hvs : Resemblance vs (b.get .vehicle).records) :
    ActiveInFleet b driverId fleetId a ↔
      (a ∈ as ∧ (a.isLive && (a.data.driverId == driverId && a.isActive))) ∧
        ∃ v ∈ vs, v.id == a.data.vehicleId && v.data.fleetId == fleetId := by
  refine and_congr ?_ ?_
  · have hlive := has.filter_eq fun x => x.data.driverId == driverId && x.isActive
    rw [Books.activeAssignments, Books.sorted, List.mem_mergeSort, Store.live, ← hlive,
      List.mem_filter]
  · rw [hvs.exists_iff fun r s h => by rw [h.id, h.data], Books.fleetOfVehicle_eq_some_iff]
    simp only [Bool.and_eq_true, beq_iff_eq]
    exact exists_congr fun v => and_congr_left'
      (Store.lookup_eq_some_iff.trans (and_iff_left rfl))

/-- Every row that satisfies the query is that of an active assignment in the fleet. -/
theorem activeInFleet_of_mem_hits (hb : Represents (tables state) b) {driverId fleetId : String}
    {hit : Scope × Row} (h : hit ∈ (activeInFleetQuery driverId fleetId).hits (tables state)) :
    ∃ a, ActiveInFleet b driverId fleetId a ∧ hit.2 = rowOf .assignment a ∧
      hit.1 ⟨.assignment, "start_time"⟩ = .moment a.data.startTime := by
  obtain ⟨as, hasRows, has⟩ := hb .assignment
  obtain ⟨vs, hvsRows, hvs⟩ := hb .vehicle
  obtain ⟨a, ha, v, hv, rfl, hactive, hfleet⟩ := (mem_hits_activeInFleet hasRows hvsRows).mp h
  exact ⟨a, (activeInFleet_iff has hvs).mpr ⟨⟨ha, hactive⟩, v, hv, hfleet⟩, rfl, rfl⟩

/-- Every active assignment in the fleet has a row that satisfies the query. -/
theorem exists_mem_hits_of_activeInFleet (hb : Represents (tables state) b)
    {driverId fleetId : String} {a : Kind.assignment.Record}
    (h : ActiveInFleet b driverId fleetId a) :
    ∃ hit ∈ (activeInFleetQuery driverId fleetId).hits (tables state),
      hit.1 ⟨.assignment, "start_time"⟩ = .moment a.data.startTime := by
  obtain ⟨as, hasRows, has⟩ := hb .assignment
  obtain ⟨vs, hvsRows, hvs⟩ := hb .vehicle
  obtain ⟨⟨ha, hactive⟩, v, hv, hfleet⟩ := (activeInFleet_iff has hvs).mp h
  refine ⟨_, (mem_hits_activeInFleet hasRows hvsRows).mpr ⟨a, ha, v, hv, rfl, hactive, hfleet⟩, ?_⟩
  rfl

theorem activeInFleet_isNone_iff {driverId fleetId : String} :
    b.activeInFleet driverId fleetId = none ↔ ∀ a, ¬ ActiveInFleet b driverId fleetId a := by
  rw [Books.activeInFleet, List.find?_eq_none]
  exact forall_congr' fun a => ⟨fun h ha => h ha.1 (beq_iff_eq.mpr ha.2),
    fun h ha hf => h ⟨ha, beq_iff_eq.mp hf⟩⟩

/-- What is found in the books is an active assignment in the fleet, and none began earlier. -/
theorem activeInFleet_eq_some {driverId fleetId : String} {s : Kind.assignment.Record}
    (h : b.activeInFleet driverId fleetId = some s) :
    ActiveInFleet b driverId fleetId s ∧
      ∀ a, ActiveInFleet b driverId fleetId a → s.data.startTime ≤ a.data.startTime := by
  obtain ⟨⟨hs, hfleet⟩, hleast⟩ := Books.find?_sorted_eq_some_iff.mp h
  refine ⟨⟨hs, beq_iff_eq.mp hfleet⟩, fun a ⟨ha, hafleet⟩ => ?_⟩
  have hle := precedes_iff.mp (hleast a ha (beq_iff_eq.mpr hafleet))
  exact Instant.le_def.mpr (hle.elim Int.le_of_lt fun h => Int.le_of_eq h.1)

/-- The two answers name no assignment, or active assignments in the fleet that began at the same
moment. -/
inductive SameStart (b : Books) (driverId fleetId : String) :
    Option Kind.assignment.Record → Option Kind.assignment.Record → Prop
  | none : SameStart b driverId fleetId none none
  | some {r s : Kind.assignment.Record} (hr : ActiveInFleet b driverId fleetId r)
      (hs : ActiveInFleet b driverId fleetId s) (h : r.data.startTime = s.data.startTime) :
      SameStart b driverId fleetId (some r) (some s)

/-- An active assignment in a fleet comes out of the database if one comes out of the books, and
both began as early as any. -/
theorem activeInFleet_agrees (hc : Faithful c tables) (hb : Represents (tables state) b)
    (driverId fleetId : String) :
    ∃ found state', first c (activeInFleetQuery driverId fleetId) state = (.ok found, state') ∧
      SameStart b driverId fleetId found (b.activeInFleet driverId fleetId) ∧
      Represents (tables state') b := by
  obtain ⟨rows, state', hask, ⟨found, hperm, hsorted, rfl⟩, hsame⟩ :=
    hc.ask_eq (.activeInFleet driverId fleetId) state
  cases found with
  | nil =>
    refine ⟨none, state', first_eq [] hask, ?_, hb.of_same hsame⟩
    rw [activeInFleet_isNone_iff.mpr]
    · exact .none
    · intro a ha
      obtain ⟨hit, hhit, -⟩ := exists_mem_hits_of_activeInFleet hb ha
      exact absurd (hperm.symm.subset hhit) List.not_mem_nil
  | cons hit others =>
    obtain ⟨r, hr, hrow, hstart⟩ :=
      activeInFleet_of_mem_hits hb (hperm.subset List.mem_cons_self)
    have hask : ask c (activeInFleetQuery driverId fleetId) state =
        (.ok (([r].map (rowOf .assignment)).take 1), state') := by
      rw [hask, Query.cut, List.map_cons, hrow]
      rfl
    have hfirst := first_eq (q := activeInFleetQuery driverId fleetId) [r] hask
    refine ⟨some r, state', hfirst, ?_, hb.of_same hsame⟩
    cases hs : b.activeInFleet driverId fleetId with
    | none => exact absurd hr (activeInFleet_isNone_iff.mp hs r)
    | some s =>
      obtain ⟨hs, hleast⟩ := activeInFleet_eq_some hs
      obtain ⟨hit', hhit', hstart'⟩ := exists_mem_hits_of_activeInFleet hb hs
      refine .some hr hs (Instant.rank_injective (Int.le_antisymm ?_ (hleast r hr)))
      -- the row that comes first is not after that of the assignment in the books
      rcases List.mem_cons.mp (hperm.symm.subset hhit') with rfl | hlater
      · exact Int.le_of_eq (congrArg Instant.rank (Cell.moment.inj (hstart.symm.trans hstart')))
      · have hle := (List.pairwise_cons.mp hsorted).1 hit' hlater
        simp only [activeInFleetQuery, inOrder, hstart, hstart', Cell.precedes] at hle
        split_ifs at hle with heq
        · exact Int.le_of_eq (congrArg Instant.rank (Cell.moment.inj heq))
        · exact of_decide_eq_true hle

/-! ## Agreement -/

/-- **The same answers.** What the database answers to a call agrees with what memory answers. -/
def Agrees (b : Books) : (call : Call) → Except Failure call.Answer → Except Failure call.Answer →
    Prop
  | .activeInFleet driverId fleetId, x, y =>
    ∃ r s, x = .ok r ∧ y = .ok s ∧ SameStart b driverId fleetId r s
  | .save _ _, x, y | .find _ _, x, y | .list _, x, y | .activeAssignments _, x, y
  | .fleetOfVehicle _, x, y | .bury _ _, x, y | .restore _ _, x, y => x = y

/-- One call, from tables that show the books. -/
theorem answer_agrees (hc : Faithful c tables) (hb : Represents (tables state) b) (call : Call)
    (wall : Instant) :
    ∃ x state', answer c call state = (x, state') ∧
      Agrees b call x (Memory.answer call ⟨b, wall⟩).1 ∧
      Represents (tables state') (Memory.answer call ⟨b, wall⟩).2.books := by
  cases call with
  | save kind r =>
    obtain ⟨state', hrun, hb⟩ := save_agrees hc hb kind r
    exact ⟨_, state', hrun, rfl, hb⟩
  | find kind id =>
    obtain ⟨state', hrun, hb⟩ := find_agrees hc hb kind id
    exact ⟨_, state', hrun, rfl, hb⟩
  | list listing =>
    obtain ⟨state', hrun, hb⟩ := records_agree hc hb (.list listing) rfl rfl rfl
      satisfies_listConditions
    exact ⟨_, state', hrun, rfl, hb⟩
  | activeAssignments driverId =>
    obtain ⟨state', hrun, hb⟩ := records_agree hc hb (.active driverId) rfl rfl rfl
      (satisfies_activeConditions driverId)
    exact ⟨_, state', hrun, rfl, hb⟩
  | activeInFleet driverId fleetId =>
    obtain ⟨found, state', hrun, hsame, hb⟩ := activeInFleet_agrees hc hb driverId fleetId
    exact ⟨_, state', hrun, ⟨found, _, rfl, rfl, hsame⟩, hb⟩
  | fleetOfVehicle vehicleId =>
    obtain ⟨found, state', hrun, hfound, hb⟩ := lookup_agrees hc hb .vehicle vehicleId
    refine ⟨.ok (found.map fun v => v.data.fleetId), state', ?_, ?_, hb⟩
    · rw [answer, attempt_bind_ok hrun]
      rfl
    · show Except.ok _ = Except.ok _
      rw [Books.fleetOfVehicle]
      generalize b.lookup .vehicle vehicleId = known at hfound
      cases hfound with
      | none => rfl
      | some h => rw [Option.map_some, Option.map_some, h.data]
  | bury kind id =>
    obtain ⟨state', hrun, hb⟩ := bury_agrees hc hb kind id wall
    exact ⟨_, state', hrun, rfl, hb⟩
  | restore kind id =>
    obtain ⟨state', hrun, hb⟩ := restore_agrees hc hb kind id wall
    exact ⟨_, state', hrun, rfl, hb⟩

end

/-! ## Any number of calls -/

/-- The books after calls to a memory, each with what the clock on the wall showed. -/
def booksAfter (b : Books) (calls : List (Instant × Call)) : Books :=
  calls.foldl (fun b call => (Memory.answer call.2 ⟨b, call.1⟩).2.books) b

section

variable {σ : Type} {c : Connection σ} {tables : σ → Tables}

/-- The state of a connection after calls to the database. -/
def stateAfter (c : Connection σ) (state : σ) (calls : List Call) : σ :=
  calls.foldl (fun state call => (answer c call state).2) state

/-- After the same calls, the tables still show the books. -/
theorem represents_after (hc : Faithful c tables) {state : σ} {b : Books}
    (hb : Represents (tables state) b) (calls : List (Instant × Call)) :
    Represents (tables (stateAfter c state (calls.map Prod.snd))) (booksAfter b calls) := by
  induction calls generalizing state b with
  | nil => exact hb
  | cons call calls ih =>
    obtain ⟨x, state', hrun, -, hafter⟩ := answer_agrees hc hb call.2 call.1
    rw [List.map_cons, stateAfter, List.foldl_cons, hrun]
    exact ih hafter

/-- **Nobody can tell the two apart.** After the same calls, any call is answered by a database as
it is by a memory, if both were empty at first. -/
theorem storages_agree (hc : Faithful c tables) {state : σ}
    (hempty : ∀ kind, tables state kind = []) (past : List (Instant × Call)) (wall : Instant)
    (next : Call) :
    Agrees (booksAfter .empty past) next
      (answer c next (stateAfter c state (past.map Prod.snd))).1
      (Memory.answer next ⟨booksAfter .empty past, wall⟩).1 := by
  have hnothing : Represents (tables state) .empty := by
    rw [show tables state = fun _ => [] from funext hempty]
    exact represents_empty
  obtain ⟨x, state', hrun, hagrees, -⟩ :=
    answer_agrees hc (represents_after hc hnothing past) next wall
  rw [hrun]
  exact hagrees

/-- The moment at which everything in the example happens. -/
def sampleMoment : Instant := .startOfDay ⟨2025, 3, 1, by decide⟩

/-- A vehicle of a fleet, assigned to a driver and then deleted. -/
def deletedWhileAssigned : List (Instant × Call) :=
  [.save .vehicle (.fresh "vehicle" ⟨"fleet", "Fiat", "Panda", 2020, ""⟩),
    .save .assignment (.fresh "assignment" ⟨"driver", "vehicle", "contract", sampleMoment, none⟩),
    .bury .vehicle "vehicle"].map fun call => (sampleMoment, call)

/-- The assignment is found all the same, in memory and in a database. -/
theorem storages_agree_deletedWhileAssigned :
    Faithful (Tables.connection sampleMoment) id ∧ (∀ kind, id (fun _ => [] : Tables) kind = []) ∧
      (booksAfter .empty deletedWhileAssigned).activeInFleet "driver" "fleet" ≠ none ∧
      Agrees (booksAfter .empty deletedWhileAssigned) (.activeInFleet "driver" "fleet")
        (answer (Tables.connection sampleMoment) (.activeInFleet "driver" "fleet")
          (stateAfter (Tables.connection sampleMoment) (fun _ => [])
            (deletedWhileAssigned.map Prod.snd))).1
        (Memory.answer (.activeInFleet "driver" "fleet")
          ⟨booksAfter .empty deletedWhileAssigned, sampleMoment⟩).1 :=
  ⟨Tables.faithful_connection _, fun _ => rfl, by decide +kernel,
    storages_agree (Tables.faithful_connection _) (fun _ => rfl) _ _ _⟩

end

end LeaseDesk.Sql
