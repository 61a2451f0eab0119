import LeaseDesk.Storage.Memory
import Mathlib.Data.List.Nodup

/-!
# What stands in the books

Everything that is read from the books is said here in terms of two predicates. A record is `Stored`
when it stands in the books at all, and `Live` when no tombstone hides it. What a call looks up,
finds or lists is then a matter of which records are stored or live and of what their data say; the
order of a store, and the sorting on the way out, drop out of the picture.

There is one way to write: `put`. The lemmas on it say which records are stored and live afterwards,
in the store that was written to and in the others. `LivePairwise` is the shape of the invariants
about two records of a kind: to keep one under a `put`, only the record put has to be looked at.
-/

namespace LeaseDesk.Storage

namespace Store

variable {α : Type}

/-- Identifiers being distinct, looking up is membership. -/
theorem lookup_eq_some_iff {s : Store α} {id : String} {r : Record α} :
    s.lookup id = some r ↔ r ∈ s.records ∧ r.id = id := by
  constructor
  · intro h
    exact ⟨List.mem_of_find?_eq_some h, id_of_lookup h⟩
  · rintro ⟨hr, rfl⟩
    rcases h : s.lookup r.id with _ | r'
    · rw [lookup, List.find?_eq_none] at h
      exact absurd (beq_self_eq_true _) (h r hr)
    -- what is found has the identifier, and no other record does
    · have hr' : r' ∈ s.records := List.mem_of_find?_eq_some h
      rw [List.inj_on_of_nodup_map s.distinct hr' hr (id_of_lookup h)]

/-- A record with a new identifier is added. -/
theorem putInto_of_not_mem {r : Record α} {xs : List (Record α)}
    (h : r.id ∉ xs.map Record.id) : putInto r xs = xs ++ [r] := by
  induction xs with
  | nil => rfl
  | cons x xs ih =>
    rw [List.map_cons, List.mem_cons, not_or] at h
    rw [putInto, if_neg (by simpa using Ne.symm h.1), ih h.2, List.cons_append]

/-- A record with an identifier that is there takes the place of the other one. -/
theorem putInto_of_mem {r : Record α} {xs : List (Record α)} (hdistinct : (xs.map Record.id).Nodup)
    (h : r.id ∈ xs.map Record.id) :
    putInto r xs = xs.map fun x => if x.id = r.id then r else x := by
  induction xs with
  | nil => exact absurd h List.not_mem_nil
  | cons x xs ih =>
    rw [List.map_cons, List.nodup_cons] at hdistinct
    rw [putInto, List.map_cons]
    by_cases hx : x.id = r.id
    · -- no other record has the identifier
      have hrest : xs.map (fun y => if y.id = r.id then r else y) = xs := by
        rw [List.map_congr_left (g := id), List.map_id]
        intro y hy
        refine if_neg fun hid => hdistinct.1 ?_
        rw [hx, ← hid]
        exact List.mem_map_of_mem hy
      rw [if_pos hx, if_pos (beq_iff_eq.mpr hx), hrest]
    · rw [List.map_cons, List.mem_cons] at h
      rw [if_neg hx, if_neg (mt beq_iff_eq.mp hx), ih hdistinct.2 (h.resolve_left (Ne.symm hx))]

theorem mem_live {s : Store α} {p : Record α → Bool} {r : Record α} :
    r ∈ s.live p ↔ s.lookup r.id = some r ∧ r.isLive ∧ p r := by
  rw [live, List.mem_filter, Bool.and_eq_true, lookup_eq_some_iff]
  exact ⟨fun ⟨h, h'⟩ => ⟨⟨h, rfl⟩, h'⟩, fun ⟨⟨h, _⟩, h'⟩ => ⟨h, h'⟩⟩

end Store

namespace Books

/-- The record stands in the books, deleted or not. -/
def Stored (b : Books) (kind : Kind) (r : kind.Record) : Prop :=
  b.lookup kind r.id = some r

/-- The record stands in the books and is not deleted. -/
def Live (b : Books) (kind : Kind) (r : kind.Record) : Prop :=
  b.find kind r.id = some r

instance (b : Books) (kind : Kind) (r : kind.Record) : Decidable (b.Stored kind r) :=
  inferInstanceAs (Decidable (_ = _))

instance (b : Books) (kind : Kind) (r : kind.Record) : Decidable (b.Live kind r) :=
  inferInstanceAs (Decidable (_ = _))

variable {b : Books} {kind other : Kind}

theorem live_iff {r : kind.Record} : b.Live kind r ↔ b.Stored kind r ∧ r.isLive := by
  rw [Live, Stored, find, Option.filter_eq_some_iff]

theorem Live.stored {r : kind.Record} (h : b.Live kind r) : b.Stored kind r :=
  (live_iff.mp h).1

theorem Live.isLive {r : kind.Record} (h : b.Live kind r) : r.isLive :=
  (live_iff.mp h).2

theorem Live.deletedAt {r : kind.Record} (h : b.Live kind r) : r.deletedAt = none :=
  Option.isNone_iff_eq_none.mp h.isLive

theorem lookup_eq_some_iff {id : String} {r : kind.Record} :
    b.lookup kind id = some r ↔ b.Stored kind r ∧ r.id = id := by
  constructor
  · intro h
    obtain rfl : r.id = id := Store.id_of_lookup h
    exact ⟨h, rfl⟩
  · rintro ⟨h, rfl⟩
    exact h

theorem find_eq_some_iff {id : String} {r : kind.Record} :
    b.find kind id = some r ↔ b.Live kind r ∧ r.id = id := by
  rw [find, Option.filter_eq_some_iff, lookup_eq_some_iff, live_iff]
  exact ⟨fun ⟨⟨h, hid⟩, hl⟩ => ⟨⟨h, hl⟩, hid⟩, fun ⟨⟨h, hl⟩, hid⟩ => ⟨⟨h, hid⟩, hl⟩⟩

/-- One identifier, one record. -/
theorem Stored.eq_of_id_eq {r s : kind.Record} (hr : b.Stored kind r) (hs : b.Stored kind s)
    (hid : r.id = s.id) : r = s := by
  rw [Stored, hid] at hr
  exact Option.some.inj (hr.symm.trans hs)

theorem not_stored_empty {r : kind.Record} : ¬ empty.Stored kind r := by
  cases kind <;> exact fun h => nomatch h

theorem not_live_empty {r : kind.Record} : ¬ empty.Live kind r :=
  fun h => not_stored_empty h.stored

/-! ## Lists -/

theorem mem_sorted {p : kind.Record → Bool} {r : kind.Record} :
    r ∈ b.sorted kind p ↔ b.Live kind r ∧ p r := by
  rw [sorted, List.mem_mergeSort, Store.mem_live, live_iff, and_assoc]
  rfl

theorem mem_list {listing : Listing} {r : listing.kind.Record} :
    r ∈ b.list listing ↔ b.Live listing.kind r ∧ listing.selects r.data :=
  mem_sorted

/-- The active assignments of a driver are the live ones that are not returned. -/
theorem mem_activeAssignments {driverId : String} {a : Kind.assignment.Record} :
    a ∈ b.activeAssignments driverId ↔
      b.Live .assignment a ∧ a.data.driverId = driverId ∧ a.data.endTime = none := by
  rw [activeAssignments, mem_sorted, Bool.and_eq_true, beq_iff_eq]
  refine and_congr_right fun h => and_congr_right fun _ => ?_
  rw [Record.isActive, h.isLive, Bool.true_and, Assignment.isReturned, Bool.not_eq_true',
    Option.isSome_eq_false_iff, Option.isNone_iff_eq_none]

/-- No assignment is found in a fleet exactly if no active assignment of the driver is on a vehicle
of the fleet. -/
theorem activeInFleet_eq_none_iff {driverId fleetId : String} :
    b.activeInFleet driverId fleetId = none ↔
      ∀ a, b.Live .assignment a → a.data.driverId = driverId → a.data.endTime = none →
        b.fleetOfVehicle a.data.vehicleId ≠ some fleetId := by
  rw [activeInFleet, List.find?_eq_none]
  constructor
  · intro h a ha hd he hf
    exact h a (mem_activeAssignments.mpr ⟨ha, hd, he⟩) (beq_iff_eq.mpr hf)
  · intro h a ha hf
    obtain ⟨hl, hd, he⟩ := mem_activeAssignments.mp ha
    exact h a hl hd he (beq_iff_eq.mp hf)

theorem fleetOfVehicle_eq_some_iff {vehicleId fleetId : String} :
    b.fleetOfVehicle vehicleId = some fleetId ↔
      ∃ v, b.Stored .vehicle v ∧ v.id = vehicleId ∧ v.data.fleetId = fleetId := by
  rw [fleetOfVehicle, Option.map_eq_some_iff]
  constructor
  · rintro ⟨v, hv, hf⟩
    obtain ⟨hs, hid⟩ := lookup_eq_some_iff.mp hv
    exact ⟨v, hs, hid, hf⟩
  · rintro ⟨v, hs, hid, hf⟩
    exact ⟨v, lookup_eq_some_iff.mpr ⟨hs, hid⟩, hf⟩

/-! ## Writing -/

theorem lookup_put (r : kind.Record) (id : String) :
    (b.put kind r).lookup kind id = if r.id = id then some r else b.lookup kind id := by
  rw [lookup, put, get_set_self, Store.lookup_put]
  rfl

theorem lookup_put_of_ne (h : other ≠ kind) (r : kind.Record) (id : String) :
    (b.put kind r).lookup other id = b.lookup other id := by
  rw [lookup, put, get_set_of_ne b h]
  rfl

/-- After a `put`, the record put is stored, and so are the earlier ones with other identifiers. -/
theorem stored_put {r s : kind.Record} :
    (b.put kind r).Stored kind s ↔ s = r ∨ s.id ≠ r.id ∧ b.Stored kind s := by
  rw [Stored, lookup_put]
  by_cases h : r.id = s.id
  · rw [if_pos h, Option.some.injEq]
    exact ⟨fun he => .inl he.symm, fun hs => hs.elim Eq.symm fun hs => absurd h.symm hs.1⟩
  · rw [if_neg h]
    refine ⟨fun hs => .inr ⟨Ne.symm h, hs⟩, fun hs => ?_⟩
    exact hs.elim (fun he => absurd (congrArg Record.id he.symm) h) And.right

theorem stored_put_of_ne (h : other ≠ kind) {r : kind.Record} {s : other.Record} :
    (b.put kind r).Stored other s ↔ b.Stored other s := by
  rw [Stored, lookup_put_of_ne h]
  rfl

/-- What is true of all stored records and of the record put, is true of all stored records
afterwards. -/
theorem forall_stored_put {P : (kind : Kind) → kind.Record → Prop}
    (h : ∀ other s, b.Stored other s → P other s) {r : kind.Record} (hr : P kind r) :
    ∀ other s, (b.put kind r).Stored other s → P other s := by
  intro other s hs
  by_cases hk : other = kind
  · subst hk
    rcases stored_put.mp hs with rfl | ⟨-, hs⟩
    · exact hr
    · exact h other s hs
  · exact h other s ((stored_put_of_ne hk).mp hs)

theorem live_put {r s : kind.Record} :
    (b.put kind r).Live kind s ↔ s = r ∧ r.isLive ∨ s.id ≠ r.id ∧ b.Live kind s := by
  rw [live_iff, stored_put, live_iff, or_and_right, and_assoc]
  exact or_congr_left (and_congr_right fun he => by rw [he])

theorem live_put_of_ne (h : other ≠ kind) {r : kind.Record} {s : other.Record} :
    (b.put kind r).Live other s ↔ b.Live other s := by
  rw [live_iff, stored_put_of_ne h, live_iff]

/-! ## Deleted records -/

variable {id : String}

/-- The record under the identifier is deleted. -/
def Deleted (b : Books) (kind : Kind) (id : String) : Prop :=
  ∃ r, b.lookup kind id = some r ∧ r.isLive = false

theorem Deleted.find_eq_none (h : b.Deleted kind id) : b.find kind id = none := by
  obtain ⟨r, hr, hl⟩ := h
  rw [find, hr, Option.filter_some, hl]
  rfl

theorem Deleted.lookup_ne_none (h : b.Deleted kind id) : b.lookup kind id ≠ none := by
  obtain ⟨r, hr, -⟩ := h
  rw [hr]
  exact Option.some_ne_none r

/-- Under an identifier there is nothing, a deleted record or a live one. -/
theorem absent_or_deleted_or_live (b : Books) (kind : Kind) (id : String) :
    b.lookup kind id = none ∨ b.Deleted kind id ∨ ∃ r, b.find kind id = some r := by
  rcases h : b.lookup kind id with _ | r
  · exact .inl rfl
  · rcases hl : r.isLive with _ | _
    · exact .inr (.inl ⟨r, h, hl⟩)
    · refine .inr (.inr ⟨r, ?_⟩)
      rw [find, h, Option.filter_some, if_pos hl]

theorem find_eq_none_of_absent (h : b.lookup kind id = none) : b.find kind id = none := by
  rw [find, h, Option.filter_none]

theorem deleted_put_bury {r : kind.Record} (at_ : Instant) (hid : r.id = id) :
    (b.put kind (r.bury at_)).Deleted kind id := by
  refine ⟨r.bury at_, ?_, rfl⟩
  rw [lookup_put, Record.id_bury, if_pos hid]

theorem not_deleted_put {r : kind.Record} (hl : r.isLive) : ¬ (b.put kind r).Deleted kind r.id := by
  rintro ⟨s, hs, hdel⟩
  rw [lookup_put, if_pos rfl] at hs
  obtain rfl := Option.some.inj hs
  exact absurd hl (by rw [hdel]; nofun)

theorem Deleted.put_of_ne (h : b.Deleted kind id) {r : other.Record}
    (hne : (other, r.id) ≠ (kind, id)) : (b.put other r).Deleted kind id := by
  obtain ⟨s, hs, hdel⟩ := h
  refine ⟨s, ?_, hdel⟩
  by_cases hk : kind = other
  · subst hk
    have hid : r.id ≠ id := by
      rintro rfl
      exact hne rfl
    rwa [lookup_put, if_neg hid]
  · rwa [lookup_put_of_ne hk]

/-! ## Invariants about two records -/

/-- Any two live records of the kind are related. -/
def LivePairwise (b : Books) (kind : Kind) (R : kind.Record → kind.Record → Prop) : Prop :=
  ∀ r s, b.Live kind r → b.Live kind s → r ≠ s → R r s

theorem livePairwise_empty {R : kind.Record → kind.Record → Prop} : empty.LivePairwise kind R :=
  fun _ _ h => absurd h not_live_empty

theorem LivePairwise.imp {R R' : kind.Record → kind.Record → Prop} (h : b.LivePairwise kind R)
    (hR : ∀ r s, b.Live kind r → b.Live kind s → R r s → R' r s) : b.LivePairwise kind R' :=
  fun r s hr hs hne => hR r s hr hs (h r s hr hs hne)

/-- **The record put is all that matters.** A symmetric relation between the live records is kept by
a `put` if the record put, unless it is deleted, is related to every other live record. -/
theorem LivePairwise.put {R : kind.Record → kind.Record → Prop} (h : b.LivePairwise kind R)
    (hsymm : ∀ r s, R r s → R s r) {r : kind.Record}
    (hr : r.isLive → ∀ s, b.Live kind s → s.id ≠ r.id → R r s) :
    (b.put kind r).LivePairwise kind R := by
  intro s t hs ht hne
  rcases live_put.mp hs with ⟨rfl, hl⟩ | ⟨hsid, hs'⟩ <;>
    rcases live_put.mp ht with ⟨rfl, hl'⟩ | ⟨htid, ht'⟩
  · exact absurd rfl hne
  · exact hr hl t ht' htid
  · exact hsymm _ _ (hr hl' s hs' hsid)
  · exact h s t hs' ht' hne

theorem LivePairwise.put_of_ne {R : kind.Record → kind.Record → Prop} (h : b.LivePairwise kind R)
    (hne : kind ≠ other) (r : other.Record) : (b.put other r).LivePairwise kind R :=
  fun s t hs ht => h s t ((live_put_of_ne hne).mp hs) ((live_put_of_ne hne).mp ht)

end Books

end LeaseDesk.Storage
