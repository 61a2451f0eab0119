import LeaseDesk.Proofs.Order
import LeaseDesk.Proofs.Rows
import Mathlib.Data.List.Forall2

/-!
# Tables that show the books

What a database holds is compared with the books up to two things that no answer depends on: the
order of the rows, and the dates of the tombstones, which are read off two different clocks. Live
records have no tombstones, and so they are the same in both (`Resemblance.filter_eq`). A list of
them is also in the same order, because the order of the records leaves no choice
(`Books.eq_sorted`).
-/

namespace LeaseDesk

open Storage

/-! ## Resemblance -/

/-- The two records are the same, except that they may have been deleted at different times. -/
structure Record.Resembles {α : Type} (r s : Record α) : Prop where
  id : r.id = s.id
  data : r.data = s.data
  isLive : r.isLive = s.isLive

/-- Resembling records in the same order. -/
abbrev Resemblance {α : Type} (xs ys : List (Record α)) : Prop :=
  List.Forall₂ Record.Resembles xs ys

namespace Record.Resembles

variable {α : Type} {r s : Record α}

theorem refl (r : Record α) : r.Resembles r := ⟨rfl, rfl, rfl⟩

/-- Live records have no other difference. -/
theorem eq_of_isLive (h : r.Resembles s) (hl : s.isLive) : r = s := by
  obtain ⟨id, data, del⟩ := r
  obtain ⟨id', data', del'⟩ := s
  obtain ⟨rfl, rfl, hlive⟩ := h
  rw [hl] at hlive
  obtain rfl := Option.isNone_iff_eq_none.mp hlive
  obtain rfl := Option.isNone_iff_eq_none.mp hl
  rfl

end Record.Resembles

namespace Resemblance

variable {α : Type} {xs ys : List (Record α)}

theorem map_id (h : Resemblance xs ys) : xs.map Record.id = ys.map Record.id := by
  induction h with
  | nil => rfl
  | cons h _ ih => rw [List.map_cons, List.map_cons, h.id, ih]

theorem countP_eq (h : Resemblance xs ys) {p : Record α → Bool}
    (hp : ∀ r s, r.Resembles s → p r = p s) : xs.countP p = ys.countP p := by
  induction h with
  | nil => rfl
  | cons h _ ih => rw [List.countP_cons, List.countP_cons, hp _ _ h, ih]

/-- The same is there, as far as dates do not matter. -/
theorem exists_iff (h : Resemblance xs ys) {p : Record α → Bool}
    (hp : ∀ r s, r.Resembles s → p r = p s) : (∃ r ∈ xs, p r) ↔ ∃ s ∈ ys, p s := by
  rw [← List.countP_pos_iff, ← List.countP_pos_iff, h.countP_eq hp]

/-- The tombstones of the same records are changed, perhaps to different dates. -/
theorem map_deletedAt (h : Resemblance xs ys) {p : Record α → Bool}
    (hp : ∀ r s, r.Resembles s → p r = p s) {t t' : Option Instant} (ht : t.isNone = t'.isNone) :
    Resemblance (xs.map fun r => if p r then ⟨r.id, r.data, t⟩ else r)
      (ys.map fun s => if p s then ⟨s.id, s.data, t'⟩ else s) := by
  induction h with
  | nil => exact .nil
  | @cons r s _ _ h _ ih =>
    refine .cons ?_ ih
    simp only [hp r s h]
    split_ifs
    · exact ⟨h.id, h.data, ht⟩
    · exact h

theorem nodup {s : Store α} (h : Resemblance xs s.records) : (xs.map Record.id).Nodup := by
  rw [h.map_id]
  exact s.distinct

/-- The live records are the same. -/
theorem filter_eq (h : Resemblance xs ys) (p : Record α → Bool) :
    xs.filter (fun r => r.isLive && p r) = ys.filter fun r => r.isLive && p r := by
  induction h with
  | nil => rfl
  | @cons r s _ _ h _ ih =>
    by_cases hl : s.isLive
    · obtain rfl := h.eq_of_isLive hl
      rw [List.filter_cons, List.filter_cons, ih]
    · rw [List.filter_cons_of_neg, List.filter_cons_of_neg, ih]
      · rw [Bool.and_eq_true]
        exact fun hs => hl hs.1
      · rw [Bool.and_eq_true, h.isLive]
        exact fun hs => hl hs.1

theorem find?_rel (h : Resemblance xs ys) (id : String) :
    Option.Rel Record.Resembles (xs.find? fun r => r.id == id) (ys.find? fun r => r.id == id) := by
  induction h with
  | nil => exact .none
  | @cons r s _ _ h _ ih =>
    by_cases hid : s.id = id
    · rw [List.find?_cons_of_pos (by simpa [h.id] using hid),
        List.find?_cons_of_pos (by simpa using hid)]
      exact .some h
    · rw [List.find?_cons_of_neg (by simpa [h.id] using hid),
        List.find?_cons_of_neg (by simpa using hid)]
      exact ih

theorem putInto (h : Resemblance xs ys) {r s : Record α} (hr : r.Resembles s) :
    Resemblance (Store.putInto r xs) (Store.putInto s ys) := by
  induction h with
  | nil => exact .cons hr .nil
  | @cons x y _ _ hxy hrest ih =>
    rw [Store.putInto, Store.putInto, hxy.id, hr.id]
    split_ifs
    · exact .cons hr hrest
    · exact .cons hxy ih

end Resemblance

namespace Sql

/-! ## What the database holds -/

/-- The rows show the records, in some order and up to the dates of the tombstones. -/
def Shows (kind : Kind) (rows : List Row) (records : List kind.Record) : Prop :=
  ∃ xs : List kind.Record, rows.Perm (xs.map (rowOf kind)) ∧ Resemblance xs records

/-- The tables show the books. -/
def Represents (t : Tables) (b : Books) : Prop :=
  ∀ kind, Shows kind (t kind) (b.get kind).records

theorem represents_empty : Represents (fun _ => []) .empty := by
  intro kind
  refine ⟨[], .refl _, ?_⟩
  cases kind <;> exact .nil

theorem Represents.of_same {t t' : Tables} {b : Books} (h : Represents t b) (hsame : t'.Same t) :
    Represents t' b := by
  intro kind
  obtain ⟨xs, hperm, hxs⟩ := h kind
  exact ⟨xs, (hsame kind).trans hperm, hxs⟩

/-- The tables show the books after a change, if the changed rows show the changed records. -/
theorem Represents.of_change {t t' : Tables} {b b' : Books} (hb : Represents t b) {kind : Kind}
    {f : List Row → List Row} (hsame : t'.Same (t.change kind f))
    (hkind : Shows kind (f (t kind)) (b'.get kind).records)
    (hothers : ∀ other, other ≠ kind → b'.get other = b.get other) : Represents t' b' := by
  intro other
  have hperm := hsame other
  by_cases h : other = kind
  · subst h
    rw [Tables.change, Function.update_self] at hperm
    obtain ⟨xs, hf, hxs⟩ := hkind
    exact ⟨xs, hperm.trans hf, hxs⟩
  · rw [Tables.change, Function.update_of_ne h] at hperm
    rw [hothers other h]
    obtain ⟨xs, ht, hxs⟩ := hb other
    exact ⟨xs, hperm.trans ht, hxs⟩

theorem upsertRows_perm {kind : Kind} {new : Row} {rows rows' : List Row}
    (h : rows.Perm rows') : (upsertRows kind new rows).Perm (upsertRows kind new rows') := by
  have hany : (rows.any fun row => row.sameKey new) = rows'.any fun row => row.sameKey new := by
    rw [Bool.eq_iff_iff, List.any_eq_true, List.any_eq_true]
    exact exists_congr fun row => and_congr_left' h.mem_iff
  rw [upsertRows, upsertRows, hany]
  split_ifs
  · exact h.map _
  · exact h.append_right _

/-! ## Queries -/

/-- A query without a join is answered with records that satisfy its conditions. -/
theorem exists_records_of_returns {q : Query} {t : Tables} {rows : List Row}
    {xs : List q.kind.Record} {p : q.kind.Record → Bool} (hjoin : q.join = none)
    (hp : ∀ x, (rowOf q.kind x).satisfies q.conditions = p x)
    (ht : (t q.kind).Perm (xs.map (rowOf q.kind))) (h : q.Returns t rows) :
    ∃ ys : List q.kind.Record, ys.Perm (xs.filter p) ∧
      ys.Pairwise (fun a b =>
        inOrder (rowOf q.kind a).scope (rowOf q.kind b).scope q.order) ∧
      rows = q.cut (ys.map (rowOf q.kind)) := by
  obtain ⟨found, hperm, hsorted, rfl⟩ := h
  have hhits : (q.hits t).Perm ((xs.filter p).map fun x =>
      ((rowOf q.kind x).scope, rowOf q.kind x)) := by
    rw [Query.hits, Query.candidates, hjoin]
    refine ((ht.map _).filter _).trans (.of_eq ?_)
    rw [List.map_map, List.filter_map]
    refine congrArg _ (List.filter_congr fun x _ => ?_)
    exact hp x
  obtain ⟨ys, rfl, hys⟩ :=
    (congrFun (congrFun (List.eq_map_comp_perm _) found) (xs.filter p)).mpr (hperm.trans hhits)
  refine ⟨ys, hys, List.pairwise_map.mp hsorted, ?_⟩
  rw [List.map_map]
  rfl

end Sql

end LeaseDesk
