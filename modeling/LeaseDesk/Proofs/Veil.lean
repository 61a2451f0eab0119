import LeaseDesk.Proofs.Order

/-!
# Behind the tombstones

Two books are compared that differ in nothing but deleted records (`Books.Veiled`). What is deleted in
the one is deleted in the other, but perhaps at another time, and with other data. How much the data of
deleted records have in common is a parameter, `InCommon`, because two questions are asked in the same
way: whether anything that is deleted can be seen, and whether the time can be seen at which it was
deleted. In either case vehicles keep to their fleets, for that is what the books tell of a vehicle
after it is deleted.

`Memory.answer_inStep` deals with one call: it is answered alike from either books, and afterwards they
differ in nothing but deleted records again. One call could show a difference, and that is to restore a
record whose data are not the same; it is excluded by name.
-/

namespace LeaseDesk

open Storage

/-- Two computations have come to the same result, and have left related states. -/
structure InStep {α σ τ : Type} (R : σ → τ → Prop) (x : α × σ) (y : α × τ) : Prop where
  result : x.1 = y.1
  state : R x.2 y.2

/-! ## Records -/

/-- What the data of deleted records have in common. -/
structure InCommon where
  /-- the data of two deleted records under this identifier have enough in common -/
  relates : (kind : Kind) → String → kind.Data → kind.Data → Prop
  /-- equal data always do -/
  refl : ∀ kind id data, relates kind id data data
  /-- vehicles are of the same fleet, whatever else -/
  fleet : ∀ id v w, relates .vehicle id v w → v.fleetId = w.fleetId

namespace InCommon

/-- Nothing but the fleets of vehicles. -/
def fleets : InCommon where
  relates
    | .vehicle, _, v, w => v.fleetId = w.fleetId
    | _, _, _, _ => True
  refl kind _ _ := by cases kind <;> trivial
  fleet _ _ _ h := h

/-- All that there is. -/
def everything : InCommon where
  relates _ _ x y := x = y
  refl _ _ _ := rfl
  fleet _ _ _ h := congrArg Vehicle.fleetId h

/-- All that there is under some identifiers, besides what is in common under any. -/
def besides (common : InCommon) (S : Kind → String → Prop) : InCommon where
  relates kind id x y := common.relates kind id x y ∧ (S kind id → x = y)
  refl kind id data := ⟨common.refl kind id data, fun _ => rfl⟩
  fleet id v w h := common.fleet id v w h.1

end InCommon

/-- The same live record, or two deleted records under one identifier. -/
inductive Record.Veiled {α : Type} (relates : α → α → Prop) : Record α → Record α → Prop
  | live (r : Record α) (isLive : r.isLive) : Veiled relates r r
  | deleted (id : String) {x y : α} (common : relates x y) (at_ at_' : Instant) :
      Veiled relates ⟨id, x, some at_⟩ ⟨id, y, some at_'⟩

namespace Record.Veiled

variable {α : Type} {relates : α → α → Prop} {r s : Record α}

theorem refl (hrefl : ∀ x, relates x x) (r : Record α) : r.Veiled relates r := by
  obtain ⟨id, data, _ | at_⟩ := r
  · exact .live _ rfl
  · exact .deleted id (hrefl data) at_ at_

theorem id_eq (h : r.Veiled relates s) : r.id = s.id := by
  cases h <;> rfl

theorem relates_data (hrefl : ∀ x, relates x x) (h : r.Veiled relates s) :
    relates r.data s.data := by
  cases h with
  | live => exact hrefl _
  | deleted _ common => exact common

/-- More is found to be in common. -/
theorem imp {relates' : α → α → Prop} (h : r.Veiled relates s)
    (himp : relates r.data s.data → relates' r.data s.data) : r.Veiled relates' s := by
  cases h with
  | live r isLive => exact .live r isLive
  | deleted id common at_ at_' => exact .deleted id (himp common) at_ at_'

/-- One record deleted twice. -/
theorem bury (hrefl : ∀ x, relates x x) (r : Record α) (at_ at_' : Instant) :
    (r.bury at_).Veiled relates (r.bury at_') :=
  .deleted r.id (hrefl r.data) at_ at_'

/-- Nothing is left of the difference between two records with the same data when they are restored. -/
theorem restore_eq (h : r.Veiled relates s) (hdata : r.data = s.data) : r.restore = s.restore := by
  rw [Record.restore, Record.restore, h.id_eq, hdata]

end Record.Veiled

/-! ## Books -/

namespace Storage.Books

/-- The two books differ in nothing but deleted records. -/
def Veiled (common : InCommon) (b b' : Books) : Prop :=
  ∀ kind id,
    Option.Rel (Record.Veiled (common.relates kind id)) (b.lookup kind id) (b'.lookup kind id)

/-- The data under the identifier are the same in both books, deleted or not. -/
def SameData (b b' : Books) (kind : Kind) (id : String) : Prop :=
  (b.lookup kind id).map Record.data = (b'.lookup kind id).map Record.data

instance (b b' : Books) (kind : Kind) (id : String) : Decidable (b.SameData b' kind id) :=
  inferInstanceAs (Decidable (_ = _))

namespace Veiled

variable {common : InCommon} {b b' : Books}

theorem refl (common : InCommon) (b : Books) : b.Veiled common b := by
  intro kind id
  cases b.lookup kind id with
  | none => exact .none
  | some r => exact .some (.refl (common.refl kind id) r)

/-- Data are the same where they have everything in common. -/
theorem sameData (h : b.Veiled common b') {kind : Kind} {id : String}
    (heq : ∀ x y, common.relates kind id x y → x = y) : b.SameData b' kind id := by
  have hrel := h kind id
  rw [SameData]
  generalize b.lookup kind id = x at hrel ⊢
  generalize b'.lookup kind id = y at hrel ⊢
  cases hrel with
  | none => rfl
  | some hr => exact congrArg some (heq _ _ (hr.relates_data (common.refl kind id)))

/-- Data have everything in common where they are the same. -/
theorem besides (h : b.Veiled common b') {S : Kind → String → Prop}
    (hsame : ∀ kind id, S kind id → b.SameData b' kind id) :
    b.Veiled (common.besides S) b' := by
  intro kind id
  have hrel := h kind id
  have hdata := hsame kind id
  rw [SameData] at hdata
  generalize b.lookup kind id = x at hrel hdata ⊢
  generalize b'.lookup kind id = y at hrel hdata ⊢
  cases hrel with
  | none => exact .none
  | some hr =>
    exact .some (hr.imp fun hcommon => ⟨hcommon, fun hS => Option.some.inj (hdata hS)⟩)

/-! ### Reading -/

theorem find_eq (h : b.Veiled common b') (kind : Kind) (id : String) :
    b.find kind id = b'.find kind id := by
  have hrel := h kind id
  rw [find, find]
  generalize b.lookup kind id = x at hrel ⊢
  generalize b'.lookup kind id = y at hrel ⊢
  cases hrel with
  | none => rfl
  | some hr =>
    cases hr with
    | live => rfl
    | deleted => rfl

/-- The same live records are listed, and their order leaves no choice. -/
theorem sorted_eq (h : b.Veiled common b') (kind : Kind) (p : kind.Record → Bool) :
    b.sorted kind p = b'.sorted kind p := by
  have hperm : (b.sorted kind p).Perm (b'.sorted kind p) := by
    rw [List.perm_ext_iff_of_nodup (b.nodup_sorted kind p) (b'.nodup_sorted kind p)]
    intro r
    rw [mem_sorted, mem_sorted, Live, Live, h.find_eq]
  exact eq_sorted (hperm.trans (List.mergeSort_perm _ _)) (pairwise_sorted b kind p)

theorem activeAssignments_eq (h : b.Veiled common b') (driverId : String) :
    b.activeAssignments driverId = b'.activeAssignments driverId :=
  h.sorted_eq .assignment _

/-- Vehicles keep to their fleets. -/
theorem fleetOfVehicle_eq (h : b.Veiled common b') (vehicleId : String) :
    b.fleetOfVehicle vehicleId = b'.fleetOfVehicle vehicleId := by
  have hrel := h .vehicle vehicleId
  rw [fleetOfVehicle, fleetOfVehicle]
  generalize b.lookup .vehicle vehicleId = x at hrel ⊢
  generalize b'.lookup .vehicle vehicleId = y at hrel ⊢
  cases hrel with
  | none => rfl
  | some hr => exact congrArg some (common.fleet _ _ _ (hr.relates_data (common.refl _ _)))

theorem activeInFleet_eq (h : b.Veiled common b') (driverId fleetId : String) :
    b.activeInFleet driverId fleetId = b'.activeInFleet driverId fleetId := by
  simp only [activeInFleet, h.activeAssignments_eq, h.fleetOfVehicle_eq]

/-! ### Writing -/

/-- Records that differ in nothing but what tombstones hide are put into either books. -/
theorem put (h : b.Veiled common b') {kind : Kind} {r s : kind.Record}
    (hr : r.Veiled (common.relates kind r.id) s) : (b.put kind r).Veiled common (b'.put kind s) := by
  intro other id
  by_cases hk : other = kind
  · subst hk
    rw [lookup_put, lookup_put, ← hr.id_eq]
    split_ifs with hid
    · exact .some (hid ▸ hr)
    · exact h other id
  · rw [lookup_put_of_ne hk, lookup_put_of_ne hk]
    exact h other id

end Veiled

end Storage.Books

/-! ## Calls -/

namespace Storage.Memory

variable {common : InCommon} {m m' : Memory}

/-- What is written in the two memories differs in nothing but deleted records. -/
def Veiled (common : InCommon) (m m' : Memory) : Prop :=
  m.books.Veiled common m'.books

/-- A record is deleted from both books, each time by another clock, or from neither. -/
theorem bury_inStep (h : m.Veiled common m') (kind : Kind) (id : String) :
    InStep (Veiled common) (answer (.bury kind id) m) (answer (.bury kind id) m') := by
  have hrel := h kind id
  rw [answer, answer]
  generalize m.books.lookup kind id = x at hrel ⊢
  generalize m'.books.lookup kind id = y at hrel ⊢
  cases hrel with
  | none => exact ⟨rfl, h⟩
  | some hr =>
    cases hr with
    | live _ hl =>
      simp only [Record.isDeleted_eq_not_isLive, hl]
      exact ⟨rfl, Books.Veiled.put h (.bury (common.refl kind _) _ m.wall m'.wall)⟩
    | deleted => exact ⟨rfl, h⟩

/-- The same record is restored in both books, if its data are the same. -/
theorem restore_inStep (h : m.Veiled common m') {kind : Kind} {id : String}
    (hdata : m.books.SameData m'.books kind id) :
    InStep (Veiled common) (answer (.restore kind id) m) (answer (.restore kind id) m') := by
  have hrel := h kind id
  rw [Books.SameData] at hdata
  rw [answer, answer]
  generalize m.books.lookup kind id = x at hrel hdata ⊢
  generalize m'.books.lookup kind id = y at hrel hdata ⊢
  cases hrel with
  | none => exact ⟨rfl, h⟩
  | some hr =>
    refine ⟨rfl, Books.Veiled.put h ?_⟩
    rw [hr.restore_eq (Option.some.inj hdata)]
    exact .refl (common.refl kind _) _

/-- **Deleted records are not seen.** A call is answered alike from books that differ in nothing but
deleted records, and leaves such books, unless it restores a record whose data are not the same. -/
theorem answer_inStep (h : m.Veiled common m') (c : Call)
    (hrestored : ∀ kind id, c = .restore kind id → m.books.SameData m'.books kind id) :
    InStep (Veiled common) (answer c m) (answer c m') := by
  cases c with
  | save kind r => exact ⟨rfl, Books.Veiled.put h (.refl (common.refl kind r.id) r)⟩
  | find kind id => exact ⟨congrArg Except.ok (h.find_eq kind id), h⟩
  | list listing => exact ⟨congrArg Except.ok (h.sorted_eq listing.kind _), h⟩
  | activeAssignments driverId => exact ⟨congrArg Except.ok (h.activeAssignments_eq driverId), h⟩
  | activeInFleet driverId fleetId =>
    exact ⟨congrArg Except.ok (h.activeInFleet_eq driverId fleetId), h⟩
  | fleetOfVehicle vehicleId => exact ⟨congrArg Except.ok (h.fleetOfVehicle_eq vehicleId), h⟩
  | bury kind id => exact bury_inStep h kind id
  | restore kind id => exact restore_inStep h (hrestored kind id rfl)

end Storage.Memory

end LeaseDesk
