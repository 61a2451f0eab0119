import LeaseDesk.Proofs.Dismissal
import LeaseDesk.Proofs.History

/-!
# Contracts day by day

The rules of contracts compare moments with midnights, and they compare dates with each other
without naming a day. What they come to is said here in terms of single days.

Whether a contract is active, and whether it stands in the way of deleting its driver, depends on
the date of the clock alone, but for the moment of termination (`rules_in_days`). No day after the
last one is needed for that, and so the last day of the calendar is a last day like any other.

Whether a contract overlaps the days that somebody asks for is decided by two comparisons. They are
meant to find out whether there is a day that belongs to both, and they do, as long as the contract
has a day of its own. A contract that was terminated on its first day or before has none, and still
it is found to overlap all days that reach from before its end to after its beginning
(`overlaps_in_days`).
-/

namespace LeaseDesk

/-- Only the last day of the calendar has no day after. -/
theorem Date.next?_eq_none_iff {d : Date} : d.next? = none ↔ d = Date.lastDay := by
  refine ⟨?_, ?_⟩
  · intro h
    apply Date.le_antisymm (Date.le_lastDay d)
    rw [← Date.not_lt]
    intro hlt
    obtain ⟨n, hn, -⟩ := Date.exists_next_le hlt
    exact nomatch h.symm.trans hn
  · rintro rfl
    decide

namespace Contract

/-! ## Active contracts -/

/-- **Days are all that counts.** A contract is active on the days from its first to its last, up to
the moment of its termination, and it stands in the way of deleting its driver to the end of its
last day, unless it is terminated. If the last day is that of the calendar, which is the only one
without a day after, then it never passes. An active contract has not effectively ended. -/
theorem rules_in_days (c : Contract) (now : Instant) :
    (c.isActiveAt now ↔ c.startDate ≤ now.date ∧ now.date ≤ c.endDate ∧
      ∀ t, c.terminatedAt = some t → now ≤ t) ∧
    (c.blocksDriverDeletion now ↔ c.terminatedAt = none ∧ now.date ≤ c.endDate) ∧
    (c.endDate.next? = none ↔ c.endDate = Date.lastDay) ∧
    (c.endDate = Date.lastDay →
      (c.isActiveAt now ↔ c.startDate ≤ now.date ∧ ∀ t, c.terminatedAt = some t → now ≤ t) ∧
      (c.blocksDriverDeletion now ↔ c.terminatedAt = none)) ∧
    (c.isActiveAt now → now.date ≤ c.effectiveEnd) := by
  refine ⟨isActiveAt_iff, blocksDriverDeletion_iff, Date.next?_eq_none_iff, ?_, ?_⟩
  · intro hlast
    have hopen : now.date ≤ c.endDate := hlast ▸ Date.le_lastDay now.date
    rw [isActiveAt_iff, blocksDriverDeletion_iff]
    exact ⟨and_congr_right fun _ => and_iff_right hopen, and_iff_left hopen⟩
  · exact fun hactive => (date_le_effectiveEnd hactive).2

/-! ## Overlapping contracts -/

variable {c : Contract} {first last : Date}

/-- There is a day, from `first` up to but not including `last`, that is a day of the contract, from
its first day up to but not including its effective end. -/
def SharesDay (c : Contract) (first last : Date) : Prop :=
  ∃ day, (first ≤ day ∧ day < last) ∧ c.startDate ≤ day ∧ day < c.effectiveEnd

/-- The contract had ended by the day on which it was to begin, and the days from `first` to `last`
reach from before its end to after its beginning. -/
structure Bridged (c : Contract) (first last : Date) : Prop where
  void : c.effectiveEnd ≤ c.startDate
  before : first < c.effectiveEnd
  after : c.startDate < last

theorem overlaps_iff : c.overlaps first last ↔ first < c.effectiveEnd ∧ c.startDate < last := by
  rw [overlaps, Bool.and_eq_true, decide_eq_true_iff, decide_eq_true_iff]

/-- Two stretches of days share one exactly if both begin before either ends. -/
theorem sharesDay_iff : c.SharesDay first last ↔
    (first < last ∧ c.startDate < c.effectiveEnd) ∧
      first < c.effectiveEnd ∧ c.startDate < last := by
  refine ⟨?_, ?_⟩
  · rintro ⟨day, ⟨hfirst, hlast⟩, hstart, hend⟩
    simp only [Date.le_def, Date.lt_def] at *
    omega
  · rintro ⟨⟨hasked, hown⟩, hfirst, hlast⟩
    -- the later one of the two beginnings
    by_cases h : first ≤ c.startDate
    · exact ⟨c.startDate, ⟨h, hlast⟩, Date.le_refl _, hown⟩
    · have hlate : c.startDate ≤ first := Int.le_of_lt (Date.not_le.mp h)
      exact ⟨first, ⟨Date.le_refl _, hasked⟩, hlate, hfirst⟩

theorem Bridged.not_sharesDay (h : c.Bridged first last) : ¬ c.SharesDay first last := by
  intro hshares
  have hown := (sharesDay_iff.mp hshares).1.2
  exact Date.not_lt.mpr h.void hown

/-- **What overlapping means.** For days to overlap a contract is to share a day with it, or to bridge
one that had ended before it began. So the comparisons find out whether a day is shared exactly where
no such contract is bridged. -/
theorem overlaps_in_days (c : Contract) {first last : Date} (hasked : first < last) :
    (c.overlaps first last ↔ c.SharesDay first last ∨ c.Bridged first last) ∧
      ((c.overlaps first last ↔ c.SharesDay first last) ↔ ¬ c.Bridged first last) := by
  have hexact : c.overlaps first last ↔ c.SharesDay first last ∨ c.Bridged first last := by
    rw [overlaps_iff, sharesDay_iff]
    refine ⟨?_, ?_⟩
    · rintro ⟨hbefore, hafter⟩
      by_cases hown : c.startDate < c.effectiveEnd
      · exact .inl ⟨⟨hasked, hown⟩, hbefore, hafter⟩
      · exact .inr ⟨Date.not_lt.mp hown, hbefore, hafter⟩
    · rintro (⟨-, hshared⟩ | hbridged)
      · exact hshared
      · exact ⟨hbridged.before, hbridged.after⟩
  refine ⟨hexact, ?_⟩
  rw [hexact]
  refine ⟨?_, or_iff_left⟩
  intro hdecides hbridged
  exact hbridged.not_sharesDay (hdecides.mp (.inr hbridged))

end Contract

/-- The fifteenth of January. -/
def midJanuary : Date := ⟨2025, 1, 15, by decide⟩

/-- The contract about February, terminated in January. -/
def februaryCalledOff : Contract :=
  februaryContract.terminate (.startOfDay midJanuary) "Ada"

/-- The days of two months bridge the contract that was called off between them. -/
theorem overlaps_in_days_februaryCalledOff :
    newYear < februaryEnd ∧
      (februaryCalledOff.overlaps newYear februaryEnd ↔
        februaryCalledOff.SharesDay newYear februaryEnd ∨
          februaryCalledOff.Bridged newYear februaryEnd) ∧
      ((februaryCalledOff.overlaps newYear februaryEnd ↔
          februaryCalledOff.SharesDay newYear februaryEnd) ↔
        ¬ februaryCalledOff.Bridged newYear februaryEnd) := by
  have hasked : newYear < februaryEnd := by decide
  exact ⟨hasked, Contract.overlaps_in_days februaryCalledOff hasked⟩

/-- The two comparisons do not find out whether a day is shared: the contract ends after its first day,
and was called off before. It is found to overlap, and has no day to share. -/
theorem not_sharesDay_februaryCalledOff :
    februaryCalledOff.startDate < februaryCalledOff.endDate ∧ newYear < februaryEnd ∧
      ¬ (februaryCalledOff.overlaps newYear februaryEnd ↔
        februaryCalledOff.SharesDay newYear februaryEnd) := by
  refine ⟨by decide, by decide, fun h => ?_⟩
  have hbridged : februaryCalledOff.Bridged newYear februaryEnd :=
    ⟨by decide, by decide, by decide⟩
  exact hbridged.not_sharesDay (h.mp (by decide))

end LeaseDesk
