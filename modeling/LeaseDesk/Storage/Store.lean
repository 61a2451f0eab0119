import LeaseDesk.Record

/-!
# A store of records of one kind

The records of a store have pairwise different identifiers, and that is part of the type. Their order in
the store carries no meaning: what is read is either a single record, found by its identifier, or a list
that is sorted on the way out.
-/

namespace LeaseDesk.Storage

/-- Records with pairwise different identifiers. -/
structure Store (α : Type) where
  /-- the records, in no particular order -/
  records : List (Record α)
  /-- no identifier occurs twice -/
  distinct : (records.map Record.id).Nodup

namespace Store

variable {α : Type}

/-- The store without records. -/
def empty : Store α := ⟨[], by simp⟩

/-- The record under an identifier, deleted or not. -/
def lookup (s : Store α) (id : String) : Option (Record α) :=
  s.records.find? fun r => r.id == id

/-- The records after `r` has taken the place of the one with its identifier, if there is one, and has
been added otherwise. -/
def putInto (r : Record α) : List (Record α) → List (Record α)
  | [] => [r]
  | x :: xs => if x.id == r.id then r :: xs else x :: putInto r xs

theorem mem_map_id_putInto (r : Record α) (xs : List (Record α)) (id : String) :
    id ∈ (putInto r xs).map Record.id ↔ id = r.id ∨ id ∈ xs.map Record.id := by
  induction xs with
  | nil => simp [putInto]
  | cons x xs ih =>
    by_cases h : x.id = r.id
    · simp [putInto, h]
    · simp only [putInto, beq_iff_eq, h, if_false, List.map_cons, List.mem_cons, ih]
      grind

theorem distinct_putInto (r : Record α) {xs : List (Record α)}
    (h : (xs.map Record.id).Nodup) : ((putInto r xs).map Record.id).Nodup := by
  induction xs with
  | nil => simp [putInto]
  | cons x xs ih =>
    rw [List.map_cons, List.nodup_cons] at h
    by_cases hx : x.id = r.id
    · simp only [putInto, hx, beq_self_eq_true, if_true, List.map_cons, List.nodup_cons]
      exact ⟨hx ▸ h.1, h.2⟩
    · simp only [putInto, beq_iff_eq, hx, if_false, List.map_cons, List.nodup_cons]
      refine ⟨?_, ih h.2⟩
      rw [mem_map_id_putInto]
      exact fun hmem => hmem.elim hx h.1

/-- The store with this record, which replaces the one with the same identifier. -/
def put (s : Store α) (r : Record α) : Store α :=
  ⟨putInto r s.records, distinct_putInto r s.distinct⟩

/-- The live records that satisfy a condition, in the store's own order. -/
def live (s : Store α) (p : Record α → Bool) : List (Record α) :=
  s.records.filter fun r => r.isLive && p r

/-- Looking up after a `put`. -/
theorem lookup_put (s : Store α) (r : Record α) (id : String) :
    (s.put r).lookup id = if r.id = id then some r else s.lookup id := by
  have key : ∀ xs : List (Record α), (putInto r xs).find? (fun x => x.id == id)
      = if r.id = id then some r else xs.find? (fun x => x.id == id) := by
    intro xs
    induction xs with
    | nil => by_cases h : r.id = id <;> simp [putInto, h]
    | cons x xs ih =>
      by_cases hx : x.id = r.id <;> by_cases h : r.id = id <;>
        simp_all [putInto, List.find?_cons]
  exact key s.records

theorem id_of_lookup {s : Store α} {id : String} {r : Record α} (h : s.lookup id = some r) :
    r.id = id := by
  have := List.find?_some h
  simpa using this

end Store

end LeaseDesk.Storage
