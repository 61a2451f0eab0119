import LeaseDesk.Proofs.Agreement
import LeaseDesk.Proofs.History
import Mathlib.Logic.Function.Basic

/-!
# Lists of records

What is kept in memory is thought of here as a `Cabinet`: records under keys. A cabinet knows nothing
of identifiers, and when its contents are gone through, they come out in any order, each key once
(`Cabinet.ComesOut`). Calls to the storage file a record under its identifier, and they put tombstones
on what is found under a key or take them off again. So every record stays under its own identifier,
which is why the memory never differs from the cabinet (`lookup_booksAfter`).

The lists that can be asked for hold exactly the records that belong into them, each once, in strict
order (`Exactly`), and there is only one way to write down such a list. Therefore it does not
matter in which order the cabinet is gone through (`lists_exact`).
-/

namespace LeaseDesk.Storage

open Sql (booksAfter)

/-! ## Cabinets -/

/-- Records of all kinds under keys. Nothing ties a key to the identifier of what is under it. -/
abbrev Cabinet : Type := (kind : Kind) → String → Option kind.Record

namespace Cabinet

/-- Nothing is filed. -/
def empty : Cabinet := fun _ _ => none

/-- The cabinet with something else under one key. -/
def refile (t : Cabinet) (kind : Kind) (key : String) (filed : Option kind.Record) : Cabinet :=
  Function.update t kind (Function.update (t kind) key filed)

/-- The cabinet after a call, if this is what the clock on the wall shows. -/
def after (t : Cabinet) (wall : Instant) : Call → Cabinet
  | .save kind r => t.refile kind r.id (some r)
  | .bury kind key =>
    t.refile kind key ((t kind key).map fun r => if r.isDeleted then r else r.bury wall)
  | .restore kind key => t.refile kind key ((t kind key).map Record.restore)
  | .find .. | .list .. | .activeAssignments .. | .activeInFleet .. | .fleetOfVehicle .. => t

/-- The cabinet after calls, each with what the clock on the wall showed. -/
def afterAll (t : Cabinet) (calls : List (Instant × Call)) : Cabinet :=
  calls.foldl (fun t call => t.after call.1 call.2) t

/-- The records of a kind, as they come out when the cabinet is gone through key by key in some
order. -/
def ComesOut (t : Cabinet) (kind : Kind) (rs : List kind.Record) : Prop :=
  ∃ keys : List String, keys.Nodup ∧ (∀ key, key ∈ keys ↔ (t kind key).isSome) ∧
    rs = keys.filterMap (t kind)

/-- The books hold what the cabinet holds, in some order. -/
def HeldBy (t : Cabinet) (b : Books) : Prop :=
  ∀ kind, t.ComesOut kind (b.get kind).records

/-- The record is filed somewhere, and not deleted. -/
def Shows (t : Cabinet) (kind : Kind) (r : kind.Record) : Prop :=
  (∃ key, t kind key = some r) ∧ r.deletedAt = none

variable {t : Cabinet} {kind : Kind} {key : String}

/-- What comes out is what is filed. -/
theorem ComesOut.mem_iff {rs : List kind.Record} (h : t.ComesOut kind rs) {r : kind.Record} :
    r ∈ rs ↔ ∃ key, t kind key = some r := by
  obtain ⟨keys, -, hkeys, rfl⟩ := h
  rw [List.mem_filterMap]
  constructor
  · rintro ⟨key, -, hr⟩
    exact ⟨key, hr⟩
  · rintro ⟨key, hr⟩
    exact ⟨key, (hkeys key).mpr (by rw [hr]; rfl), hr⟩

theorem refile_self {filed : Option kind.Record} (h : t kind key = filed) :
    t.refile kind key filed = t := by
  rw [refile, ← h, Function.update_eq_self, Function.update_eq_self]

end Cabinet

/-! ## The memory as a cabinet -/

section

variable {b : Books} {kind : Kind}

/-- To put a record into the books is to file it under its identifier. -/
theorem lookup_put_eq_refile (r : kind.Record) :
    (b.put kind r).lookup = Cabinet.refile b.lookup kind r.id (some r) := by
  funext other id
  by_cases hk : other = kind
  · subst hk
    rw [Books.lookup_put, Cabinet.refile, Function.update_self]
    by_cases hid : id = r.id
    · subst hid
      rw [if_pos rfl, Function.update_self]
    · rw [if_neg (Ne.symm hid), Function.update_of_ne hid]
  · rw [Books.lookup_put_of_ne hk, Cabinet.refile, Function.update_of_ne hk]

/-- **One call** does to the memory what it does to a cabinet. -/
theorem lookup_answer (b : Books) (wall : Instant) (c : Call) :
    (Memory.answer c ⟨b, wall⟩).2.books.lookup = Cabinet.after b.lookup wall c := by
  cases c with
  | save kind r => exact lookup_put_eq_refile r
  | bury kind id =>
    rw [Memory.answer, Cabinet.after]
    cases hr : b.lookup kind id with
    | none => exact (Cabinet.refile_self hr).symm
    | some r =>
      obtain ⟨-, rfl⟩ := Books.lookup_eq_some_iff.mp hr
      simp only [Option.map_some]
      cases hdeleted : r.isDeleted with
      | true => exact (Cabinet.refile_self hr).symm
      | false => exact lookup_put_eq_refile (r.bury wall)
  | restore kind id =>
    rw [Memory.answer, Cabinet.after]
    cases hr : b.lookup kind id with
    | none => exact (Cabinet.refile_self hr).symm
    | some r =>
      obtain ⟨-, rfl⟩ := Books.lookup_eq_some_iff.mp hr
      exact lookup_put_eq_refile r.restore
  | find | list | activeAssignments | activeInFleet | fleetOfVehicle => rfl

/-- **Any number of calls.** The memory never differs from a cabinet. -/
theorem lookup_booksAfter (b : Books) (calls : List (Instant × Call)) :
    (booksAfter b calls).lookup = Cabinet.afterAll b.lookup calls := by
  induction calls generalizing b with
  | nil => rfl
  | cons call calls ih =>
    have hrest := ih (Memory.answer call.2 ⟨b, call.1⟩).2.books
    rwa [lookup_answer] at hrest

theorem lookup_empty_books : Books.empty.lookup = Cabinet.empty := by
  funext kind id
  cases kind <;> rfl

end

/-- Books with the same records in another order hold the same. -/
theorem heldBy_of_perm {b b' : Books}
    (h : ∀ kind, (b'.get kind).records.Perm (b.get kind).records) :
    Cabinet.HeldBy b.lookup b' := by
  intro kind
  have hmem : ∀ r : kind.Record, r ∈ (b'.get kind).records ↔ b.lookup kind r.id = some r := by
    intro r
    rw [(h kind).mem_iff]
    exact ⟨fun hr => Store.lookup_eq_some_iff.mpr ⟨hr, rfl⟩,
      fun hr => (Store.lookup_eq_some_iff.mp hr).1⟩
  refine ⟨(b'.get kind).records.map Record.id, (b'.get kind).distinct, ?_, ?_⟩
  · intro key
    rw [List.mem_map, Option.isSome_iff_exists]
    constructor
    · rintro ⟨r, hr, rfl⟩
      exact ⟨r, (hmem r).mp hr⟩
    · rintro ⟨r, hr⟩
      obtain ⟨hstored, rfl⟩ := Books.lookup_eq_some_iff.mp hr
      exact ⟨r, (hmem r).mpr hstored, rfl⟩
  · have hself : ∀ r ∈ (b'.get kind).records, (b.lookup kind ∘ Record.id) r = some r :=
      fun r hr => (hmem r).mp hr
    rw [List.filterMap_map, List.filterMap_congr hself, List.filterMap_some]

/-- What is filed under identifiers is found again, in whatever order it comes out. -/
theorem lookup_of_heldBy {b b' : Books} (h : Cabinet.HeldBy b.lookup b') :
    b'.lookup = b.lookup := by
  funext kind id
  ext r
  have hrecords := (h kind).mem_iff (r := r)
  constructor
  · intro hr
    obtain ⟨hmem, rfl⟩ := Store.lookup_eq_some_iff.mp hr
    obtain ⟨key, hkey⟩ := hrecords.mp hmem
    obtain ⟨hstored, -⟩ := Books.lookup_eq_some_iff.mp hkey
    exact hstored
  · intro hr
    obtain ⟨-, rfl⟩ := Books.lookup_eq_some_iff.mp hr
    exact Store.lookup_eq_some_iff.mpr ⟨hrecords.mpr ⟨r.id, hr⟩, rfl⟩

/-! ## Exact lists -/

/-- The record comes strictly before the other one: contracts by their first day and assignments by the
moment they began, if these differ, and else by identifier. -/
def Before : (kind : Kind) → kind.Record → kind.Record → Prop
  | .contract, r, s => r.data.startDate < s.data.startDate ∨
      r.data.startDate = s.data.startDate ∧ r.id < s.id
  | .assignment, r, s => r.data.startTime < s.data.startTime ∨
      r.data.startTime = s.data.startTime ∧ r.id < s.id
  | .legalEntity, r, s | .fleet, r, s | .vehicle, r, s | .driver, r, s => r.id < s.id

/-- The record belongs into the list, as far as its data tell. -/
def Listing.Wants : (listing : Listing) → listing.kind.Data → Prop
  | .legalEntities, _ | .drivers, _ => True
  | .fleetsOf id, f => f.legalEntityId = id
  | .vehiclesOf id, v => v.fleetId = id
  | .contractsOf id, c => c.driverId = id
  | .assignmentsOf id, a => a.contractId = id

/-- The list holds exactly the records with the property, each once, in strict order. -/
structure Exactly {kind : Kind} (rs : List kind.Record) (P : kind.Record → Prop) : Prop where
  mem : ∀ r, r ∈ rs ↔ P r
  once : rs.Nodup
  ascending : rs.Pairwise (Before kind)

section

variable {kind : Kind} {r s : kind.Record} {rs ss : List kind.Record} {P : kind.Record → Prop}

/-- Two records are never both before the other, whatever is compared before their identifiers. -/
theorem lex_asymm {α : Type} [LT α] (hasymm : ∀ x y : α, x < y → ¬ y < x) {x y : α}
    {id id' : String} (h : x < y ∨ x = y ∧ id < id') : ¬ (y < x ∨ y = x ∧ id' < id) := by
  rcases h with hlt | ⟨rfl, hid⟩
  · rintro (hlt' | ⟨rfl, -⟩)
    · exact hasymm x y hlt hlt'
    · exact hasymm y y hlt hlt
  · rintro (hlt | ⟨-, hid'⟩)
    · exact hasymm x x hlt hlt
    · exact String.lt_asymm hid hid'

theorem Before.asymm (h : Before kind r s) : ¬ Before kind s r := by
  cases kind with
  | contract | assignment =>
    rw [Before] at h ⊢
    apply lex_asymm _ h
    exact fun _ _ => Int.lt_asymm
  | legalEntity | fleet | vehicle | driver => exact String.lt_asymm h

theorem before_of_precedes (h : precedes kind r s) (hid : r.id ≠ s.id) : Before kind r s := by
  have hlt (hle : r.id ≤ s.id) : r.id < s.id := by
    by_contra hnot
    exact hid (String.le_antisymm hle (String.not_lt.mp hnot))
  cases kind with
  | contract =>
    exact (precedes_contract_iff.mp h).imp_right fun ⟨hdate, hle⟩ => ⟨hdate, hlt hle⟩
  | assignment =>
    exact (precedes_assignment_iff.mp h).imp_right fun ⟨htime, hle⟩ => ⟨htime, hlt hle⟩
  | legalEntity | fleet | vehicle | driver =>
    rcases precedes_iff.mp h with hplace | ⟨-, hle⟩
    · exact absurd hplace (Int.lt_irrefl _)
    · exact hlt hle

/-- **There is only one exact list.** -/
theorem Exactly.unique (hr : Exactly rs P) (hs : Exactly ss P) : rs = ss := by
  have hperm : rs.Perm ss := by
    rw [List.perm_ext_iff_of_nodup hr.once hs.once]
    intro r
    rw [hr.mem, hs.mem]
  refine List.Perm.eq_of_pairwise ?_ hr.ascending hs.ascending hperm
  exact fun _ _ _ _ h h' => absurd h' h.asymm

theorem Listing.selects_iff {listing : Listing} {data : listing.kind.Data} :
    listing.selects data ↔ listing.Wants data := by
  cases listing with
  | legalEntities | drivers => exact iff_of_true rfl trivial
  | fleetsOf | vehiclesOf | contractsOf | assignmentsOf => exact beq_iff_eq

theorem shows_lookup_iff {b : Books} : Cabinet.Shows b.lookup kind r ↔ b.Live kind r := by
  rw [Books.live_iff, Record.isLive, Option.isNone_iff_eq_none]
  refine and_congr_left fun _ => ⟨?_, fun hr => ⟨r.id, hr⟩⟩
  rintro ⟨key, hkey⟩
  exact (Books.lookup_eq_some_iff.mp hkey).1

/-- What is sorted on the way out is exact. -/
theorem exactly_sorted {b : Books} {p : kind.Record → Bool}
    (h : ∀ r, b.Live kind r → (p r ↔ P r)) :
    Exactly (b.sorted kind p) fun r => Cabinet.Shows b.lookup kind r ∧ P r where
  mem r := by
    rw [Books.mem_sorted, shows_lookup_iff]
    exact and_congr_right (h r)
  once := b.nodup_sorted kind p
  ascending := by
    refine ((b.pairwise_sorted kind p).and (b.nodup_sorted kind p)).imp_of_mem ?_
    rintro r s hr hs ⟨hprecedes, hne⟩
    apply before_of_precedes hprecedes
    intro hid
    have hr := (Books.mem_sorted.mp hr).1.stored
    exact hne (hr.eq_of_id_eq (Books.mem_sorted.mp hs).1.stored hid)

theorem exactly_list (b : Books) (listing : Listing) :
    Exactly (b.list listing) fun r =>
      Cabinet.Shows b.lookup listing.kind r ∧ listing.Wants r.data :=
  exactly_sorted fun _ _ => Listing.selects_iff

theorem exactly_activeAssignments (b : Books) (driverId : String) :
    Exactly (b.activeAssignments driverId) fun a =>
      Cabinet.Shows b.lookup .assignment a ∧ a.data.driverId = driverId ∧
        a.data.endTime = none := by
  refine exactly_sorted fun a ha => ?_
  simp [Record.isActive, ha.isLive, Assignment.isReturned]

end

/-- **Lists are exact, and the order in which records are kept is not seen.** After any calls to the
storage, let the records come out in any order: every list holds exactly the live records that belong
into it, each once, in strict order, and so it is always the same list. A record can be found in the
list it belongs into exactly if it can be found by its identifier. -/
theorem lists_exact (calls : List (Instant × Call)) {b : Books}
    (hb : (Cabinet.afterAll .empty calls).HeldBy b) :
    (∀ listing, Exactly (b.list listing) fun r =>
      (Cabinet.afterAll .empty calls).Shows listing.kind r ∧ listing.Wants r.data) ∧
    (∀ driverId, Exactly (b.activeAssignments driverId) fun a =>
      (Cabinet.afterAll .empty calls).Shows .assignment a ∧ a.data.driverId = driverId ∧
        a.data.endTime = none) ∧
    (∀ b', (Cabinet.afterAll .empty calls).HeldBy b' →
      (∀ listing, b'.list listing = b.list listing) ∧
        ∀ driverId, b'.activeAssignments driverId = b.activeAssignments driverId) ∧
    (∀ listing r, listing.Wants r.data →
      (r ∈ b.list listing ↔ b.find listing.kind r.id = some r)) ∧
    (Cabinet.afterAll .empty calls).HeldBy (booksAfter .empty calls) := by
  have hcabinet : Cabinet.afterAll .empty calls = (booksAfter .empty calls).lookup := by
    rw [lookup_booksAfter, lookup_empty_books]
  rw [hcabinet] at hb ⊢
  have hlookup {b' : Books} (h : Cabinet.HeldBy (booksAfter .empty calls).lookup b') :
      (booksAfter .empty calls).lookup = b'.lookup := (lookup_of_heldBy h).symm
  refine ⟨?_, ?_, ?_, ?_, ?_⟩
  · rw [hlookup hb]
    exact exactly_list b
  · rw [hlookup hb]
    exact exactly_activeAssignments b
  · intro b' hb'
    have hsame : b'.lookup = b.lookup := (hlookup hb').symm.trans (hlookup hb)
    constructor
    · intro listing
      have hexact := exactly_list b' listing
      rw [hsame] at hexact
      exact hexact.unique (exactly_list b listing)
    · intro driverId
      have hexact := exactly_activeAssignments b' driverId
      rw [hsame] at hexact
      exact hexact.unique (exactly_activeAssignments b driverId)
  · intro listing r hwants
    rw [(exactly_list b listing).mem, shows_lookup_iff]
    exact and_iff_left hwants
  · exact heldBy_of_perm fun _ => .refl _

/-! ## A sample -/

/-- Three contracts of a driver are kept. The last one is deleted and restored. -/
def threeContracts : List (Instant × Call) :=
  [.save .contract (.fresh "c" januaryContract),
    .save .contract (.fresh "b" februaryContract),
    .save .contract (.fresh "a" februaryContract),
    .bury .contract "a",
    .restore .contract "a"].map fun call => (.startOfDay newYear, call)

/-- The three contracts, as they are not found in the memory. -/
def threeShuffled : Books :=
  { Books.empty with
    contracts := ⟨[.fresh "b" februaryContract, .fresh "a" februaryContract,
      .fresh "c" januaryContract], by decide⟩ }

/-- However they come out, the three contracts are listed in one order. -/
theorem lists_exact_threeShuffled :
    (Cabinet.afterAll .empty threeContracts).HeldBy threeShuffled ∧
      threeShuffled.contracts.records ≠ (booksAfter .empty threeContracts).contracts.records ∧
      (booksAfter .empty threeContracts).list (.contractsOf "driver") =
        threeShuffled.list (.contractsOf "driver") := by
  have hheld : (Cabinet.afterAll .empty threeContracts).HeldBy threeShuffled := by
    rw [← lookup_empty_books, ← lookup_booksAfter]
    apply heldBy_of_perm
    intro kind
    cases kind with
    | contract => decide +kernel
    | _ => exact .refl _
  obtain ⟨-, -, hsame, -, hmemory⟩ := lists_exact threeContracts hheld
  exact ⟨hheld, by decide +kernel, (hsame _ hmemory).1 (.contractsOf "driver")⟩

example : (threeShuffled.list (.contractsOf "driver")).map Record.id = ["c", "a", "b"] := by
  cbv

end LeaseDesk.Storage
