import LeaseDesk.Proofs.Books

/-!
# The order of the records

Lists of records are sorted, and so is what one record is picked from. The order is total, and
different records of the books never share a place in it, because no two have the same identifier.
That leaves no choice how to put live records in order (`Books.eq_sorted`), nor which of them comes
first (`Books.find?_sorted_eq_some_iff`).
-/

namespace LeaseDesk.Storage

/-! ## Two records -/

variable {kind : Kind} {r s t : kind.Record}

theorem precedes_iff : precedes kind r s ↔
    place kind r.data < place kind s.data ∨
      place kind r.data = place kind s.data ∧ r.id ≤ s.id := by
  simp only [precedes, Bool.or_eq_true, Bool.and_eq_true, decide_eq_true_eq, beq_iff_eq]

theorem precedes_total (kind : Kind) (r s : kind.Record) :
    precedes kind r s || precedes kind s r := by
  rw [Bool.or_eq_true, precedes_iff, precedes_iff]
  rcases Int.lt_trichotomy (place kind r.data) (place kind s.data) with h | h | h
  · exact .inl (.inl h)
  · exact (String.le_total r.id s.id).imp (fun hid => .inr ⟨h, hid⟩) fun hid => .inr ⟨h.symm, hid⟩
  · exact .inr (.inl h)

theorem precedes_refl (r : kind.Record) : precedes kind r r := by
  simpa using precedes_total kind r r

theorem precedes_trans (hrs : precedes kind r s) (hst : precedes kind s t) :
    precedes kind r t := by
  rw [precedes_iff] at hrs hst ⊢
  rcases hrs with h | ⟨h, hid⟩ <;> rcases hst with h' | ⟨h', hid'⟩
  · exact .inl (Int.lt_trans h h')
  · exact .inl (h' ▸ h)
  · exact .inl (h ▸ h')
  · exact .inr ⟨h.trans h', String.le_trans hid hid'⟩

theorem id_eq_of_precedes (hrs : precedes kind r s) (hsr : precedes kind s r) : r.id = s.id := by
  rw [precedes_iff] at hrs hsr
  rcases hrs with h | ⟨h, hid⟩ <;> rcases hsr with h' | ⟨h', hid'⟩
  · omega
  · omega
  · omega
  · exact String.le_antisymm hid hid'

/-- Contracts are ordered by their first day, and by identifier if they begin on the same day. -/
theorem precedes_contract_iff {r s : Kind.contract.Record} : precedes .contract r s ↔
    r.data.startDate < s.data.startDate ∨
      r.data.startDate = s.data.startDate ∧ r.id ≤ s.id := by
  rw [precedes_iff]
  refine or_congr_right (and_congr_left' ?_)
  exact ⟨Date.rank_injective, congrArg Date.rank⟩

/-- Assignments are ordered by their beginning, and by identifier if they begin at the same
moment. -/
theorem precedes_assignment_iff {r s : Kind.assignment.Record} : precedes .assignment r s ↔
    r.data.startTime < s.data.startTime ∨
      r.data.startTime = s.data.startTime ∧ r.id ≤ s.id := by
  rw [precedes_iff]
  refine or_congr_right (and_congr_left' ?_)
  exact ⟨Instant.rank_injective, congrArg Instant.rank⟩

/-! ## Sorted lists -/

namespace Books

variable {b : Books} {p : kind.Record → Bool}

/-- Of two records in the books that precede each other there is only one. -/
theorem Live.eq_of_precedes (hr : b.Live kind r) (hs : b.Live kind s) (hrs : precedes kind r s)
    (hsr : precedes kind s r) : r = s :=
  hr.stored.eq_of_id_eq hs.stored (id_eq_of_precedes hrs hsr)

theorem nodup_sorted (b : Books) (kind : Kind) (p : kind.Record → Bool) :
    (b.sorted kind p).Nodup := by
  rw [sorted, (List.mergeSort_perm _ _).nodup_iff]
  exact (List.Nodup.of_map _ (b.get kind).distinct).filter _

theorem pairwise_sorted (b : Books) (kind : Kind) (p : kind.Record → Bool) :
    (b.sorted kind p).Pairwise fun r s => precedes kind r s := by
  refine List.pairwise_mergeSort ?_ ?_ _
  · exact fun r s t => precedes_trans
  · exact precedes_total kind

/-- **The order leaves no choice.** There is only one way to put live records in order. -/
theorem eq_sorted {ys : List kind.Record} (hperm : ys.Perm ((b.get kind).live p))
    (hsorted : ys.Pairwise fun r s => precedes kind r s) : ys = b.sorted kind p := by
  have hsame : ys.Perm (b.sorted kind p) := hperm.trans (List.mergeSort_perm _ _).symm
  refine List.Perm.eq_of_pairwise ?_ hsorted (pairwise_sorted b kind p) hsame
  intro r s hr hs
  exact (mem_sorted.mp (hsame.subset hr)).1.eq_of_precedes (mem_sorted.mp hs).1

/-- What is found in a sorted list precedes everything in it that could have been found. -/
theorem precedes_of_find?_sorted {q : kind.Record → Bool}
    (h : (b.sorted kind p).find? q = some r) (hs : s ∈ b.sorted kind p) (hq : q s) :
    precedes kind r s := by
  obtain ⟨-, before, after, hlist, hbefore⟩ := List.find?_eq_some_iff_append.mp h
  have hsorted := pairwise_sorted b kind p
  rw [hlist, List.mem_append, List.mem_cons] at hs
  rw [hlist, List.pairwise_append, List.pairwise_cons] at hsorted
  rcases hs with hs | rfl | hs
  · exact absurd hq (by simpa using hbefore s hs)
  · exact precedes_refl s
  · exact hsorted.2.1.1 s hs

/-- **The first one is the least.** What is found in a sorted list is the record in it that could have
been found and precedes all the others. -/
theorem find?_sorted_eq_some_iff {q : kind.Record → Bool} :
    (b.sorted kind p).find? q = some r ↔
      (r ∈ b.sorted kind p ∧ q r) ∧ ∀ s ∈ b.sorted kind p, q s → precedes kind r s := by
  constructor
  · intro h
    exact ⟨⟨List.mem_of_find?_eq_some h, List.find?_some h⟩, fun s => precedes_of_find?_sorted h⟩
  · rintro ⟨⟨hr, hq⟩, hleast⟩
    rcases h : (b.sorted kind p).find? q with _ | s
    · exact absurd hq (List.find?_eq_none.mp h r hr)
    · -- the one found precedes this one, and this one precedes all
      have hs : s ∈ b.sorted kind p := List.mem_of_find?_eq_some h
      have hsr : precedes kind s r := precedes_of_find?_sorted h hr hq
      have hrs : precedes kind r s := hleast s hs (List.find?_some h)
      exact congrArg some ((mem_sorted.mp hs).1.eq_of_precedes (mem_sorted.mp hr).1 hsr hrs)

end Books

end LeaseDesk.Storage
