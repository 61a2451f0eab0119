import LeaseDesk.Rules
import Mathlib.Tactic.IntervalCases

/-!
# The rules in terms of days

The rules are written with the day after the last one and with the first moment of a day. Here they
are put in terms of the dates themselves. No date lies between a day and the day after
(`Date.exists_next_le`), so a contract is in its window as long as the date of the clock does not
exceed the last day, and an active contract has neither begun too late nor ended too early by its
dates.
-/

namespace LeaseDesk

namespace Date

variable {a b c : Date}

protected theorem le_antisymm (h : a ≤ b) (h' : b ≤ a) : a = b :=
  rank_injective (Int.le_antisymm h h')

protected theorem le_trans (h : a ≤ b) (h' : b ≤ c) : a ≤ c :=
  Int.le_trans h h'

protected theorem lt_of_lt_of_le (h : a < b) (h' : b ≤ c) : a < c :=
  Int.lt_of_lt_of_le h h'

protected theorem not_lt : ¬ a < b ↔ b ≤ a :=
  Int.not_lt

protected theorem not_le : ¬ a ≤ b ↔ b < a :=
  Int.not_le

protected theorem le_refl (a : Date) : a ≤ a :=
  Int.le_refl _

theorem le_earlier : c ≤ a.earlier b ↔ c ≤ a ∧ c ≤ b := by
  rw [earlier]
  split
  · next h => exact ⟨fun hc => ⟨hc, Date.le_trans hc h⟩, And.left⟩
  · next h =>
    have hba : b ≤ a := Int.le_of_lt (Int.not_le.mp h)
    exact ⟨fun hc => ⟨Date.le_trans hc hba, hc⟩, And.right⟩

/-- Every month of the calendar has a first day. -/
theorem exists_first {year : Int} {month : Nat} (hyear : firstYear ≤ year ∧ year ≤ lastYear)
    (hmonth : 1 ≤ month ∧ month ≤ 12) : Exists year month 1 := by
  refine ⟨hyear, Nat.le_refl 1, ?_⟩
  obtain ⟨hone, htwelve⟩ := hmonth
  interval_cases month
  case «2» =>
    rw [daysInMonth]
    split <;> decide
  all_goals simp [daysInMonth]

/-- The day after comes next in the month, or is the first of the next month, or of the next year;
only the last day of the calendar has none. -/
theorem next?_cases (d : Date) :
    (∃ h, d.next? = some ⟨d.year, d.month, d.day + 1, h⟩) ∨
    (d.day = daysInMonth d.year d.month ∧ ∃ h, d.next? = some ⟨d.year, d.month + 1, 1, h⟩) ∨
    (d.month = 12 ∧ d.day = 31 ∧ ∃ h, d.next? = some ⟨d.year + 1, 1, 1, h⟩) ∨
    (d.month = 12 ∧ d.day = 31 ∧ d.year = lastYear ∧ d.next? = none) := by
  obtain ⟨year, month, day, hyear, hday, hlen⟩ := d
  have hmonth := daysInMonth_le hday hlen
  simp only [next?, of?]
  by_cases hd : Exists year month (day + 1)
  · exact .inl ⟨hd, by rw [dif_pos hd]; rfl⟩
  · have hlast : day = daysInMonth year month := by
      by_contra hne
      exact hd ⟨hyear, by omega, by omega⟩
    rw [dif_neg hd]
    by_cases hm : Exists year (month + 1) 1
    · exact .inr (.inl ⟨hlast, hm, by rw [dif_pos hm]; rfl⟩)
    · have hdec : month = 12 := by
        by_contra hne
        exact hm (exists_first hyear (by omega))
      subst hdec
      rw [dif_neg hm]
      by_cases hy : Exists (year + 1) 1 1
      · exact .inr (.inr (.inl ⟨rfl, hlast, hy, by rw [dif_pos hy]; rfl⟩))
      · have hend : year = lastYear := by
          by_contra hne
          exact hy (exists_first (by omega) (by omega))
        exact .inr (.inr (.inr ⟨rfl, hlast, hend, by rw [dif_neg hy]; rfl⟩))

theorem lt_of_next? {d n : Date} (h : d.next? = some n) : d < n := by
  have hmonth := daysInMonth_le d.inCalendar.2.1 d.inCalendar.2.2
  rw [lt_def]
  rcases d.next?_cases with ⟨_, hn⟩ | ⟨-, _, hn⟩ | ⟨hm, -, _, hn⟩ | ⟨-, -, -, hn⟩ <;>
    rw [hn] at h <;> cases h <;> simp only [rank] <;> omega

/-- **No gaps.** A date later than a day is not earlier than the day after, which then exists. -/
theorem exists_next_le {d x : Date} (h : d < x) : ∃ n, d.next? = some n ∧ n ≤ x := by
  have hx := daysInMonth_le x.inCalendar.2.1 x.inCalendar.2.2
  have hone := x.inCalendar.2.1
  rw [lt_def] at h
  simp only [rank] at h
  rcases d.next?_cases with ⟨_, hn⟩ | ⟨hlast, _, hn⟩ | ⟨hm, hday, _, hn⟩ | ⟨hm, hday, hend, hn⟩
  · refine ⟨_, hn, ?_⟩
    simp only [le_def, rank]
    omega
  · refine ⟨_, hn, ?_⟩
    have hmonth := daysInMonth_le d.inCalendar.2.1 d.inCalendar.2.2
    -- in the same month there would be no room for a later date
    have hother : ¬ (x.year = d.year ∧ x.month = d.month) := by
      rintro ⟨hy, hm⟩
      have hlen := x.inCalendar.2.2
      rw [hy, hm, ← hlast] at hlen
      omega
    simp only [le_def, rank]
    omega
  · refine ⟨_, hn, ?_⟩
    simp only [le_def, rank]
    omega
  · have hyear := x.inCalendar.1.2
    omega

end Date

namespace Instant

variable {s t u : Instant}

protected theorem le_refl (t : Instant) : t ≤ t :=
  Int.le_refl _

protected theorem le_of_lt (h : s < t) : s ≤ t :=
  Int.le_of_lt h

protected theorem lt_of_lt_of_le (h : s < t) (h' : t ≤ u) : s < u :=
  Int.lt_of_lt_of_le h h'

protected theorem not_lt : ¬ s < t ↔ t ≤ s :=
  Int.not_lt

/-- An instant that is not later is not of a later date. -/
theorem date_le_date (h : s ≤ t) : s.date ≤ t.date := by
  have hs := s.withinDay
  have ht := t.withinDay
  simp only [le_def, Date.le_def, rank, perDay, perMinute, perSecond] at *
  omega

end Instant

namespace Contract

variable {c : Contract} {now : Instant}

/-- The window is open as long as the date of the clock does not exceed the last day. -/
theorem isWindowOpen_iff : c.isWindowOpen now ↔ now.date ≤ c.endDate := by
  rw [isWindowOpen]
  rcases h : c.endDate.next? with _ | n
  · refine iff_of_true rfl ?_
    rw [← Date.not_lt]
    intro hlt
    obtain ⟨n, hn, -⟩ := Date.exists_next_le hlt
    exact nomatch h.symm.trans hn
  · rw [decide_eq_true_iff, Instant.rank_lt_startOfDay]
    have hn := Date.lt_of_next? h
    constructor
    · intro hlt
      rw [← Date.not_lt]
      intro hlate
      obtain ⟨n', hn', hle⟩ := Date.exists_next_le hlate
      obtain rfl := Option.some.inj (h.symm.trans hn')
      exact Date.not_lt.mpr hle hlt
    · intro hle
      rw [Date.le_def] at hle
      rw [Date.lt_def] at *
      omega

/-- A contract is active from the first moment of its first day to the last moment of its last one,
but not after its termination. -/
theorem isActiveAt_iff : c.isActiveAt now ↔
    c.startDate ≤ now.date ∧ now.date ≤ c.endDate ∧ ∀ t, c.terminatedAt = some t → now ≤ t := by
  have hstart : Instant.startOfDay c.startDate ≤ now ↔ c.startDate ≤ now.date := by
    rw [← Date.not_lt, ← Instant.rank_lt_startOfDay, Instant.le_def, Instant.lt_def]
    omega
  rw [isActiveAt, Bool.and_eq_true, Bool.and_eq_true, isWindowOpen_iff, decide_eq_true_iff, hstart,
    and_assoc]
  refine and_congr_right fun _ => and_congr_right fun _ => ?_
  cases c.terminatedAt <;> simp

/-- A contract stands in the way of deleting its driver to the last moment of its last day, unless it is
terminated. -/
theorem blocksDriverDeletion_iff :
    c.blocksDriverDeletion now ↔ c.terminatedAt = none ∧ now.date ≤ c.endDate := by
  rw [blocksDriverDeletion, Bool.and_eq_true, isWindowOpen_iff, isTerminated, Bool.not_eq_true',
    Option.isSome_eq_false_iff, Option.isNone_iff_eq_none]

theorem effectiveEnd_of_running (h : c.terminatedAt = none) : c.effectiveEnd = c.endDate := by
  rw [effectiveEnd, h]

theorem effectiveEnd_of_terminated {t : Instant} (h : c.terminatedAt = some t) :
    c.effectiveEnd = c.endDate.earlier t.date := by
  rw [effectiveEnd, h]

/-- Termination never makes a contract longer. -/
theorem effectiveEnd_le : c.effectiveEnd ≤ c.endDate := by
  rcases h : c.terminatedAt with _ | t
  · rw [effectiveEnd_of_running h]
    exact Date.le_refl _
  · rw [effectiveEnd_of_terminated h]
    exact (Date.le_earlier.mp (Date.le_refl _)).1

/-- An active contract has begun, and it has not effectively ended. -/
theorem date_le_effectiveEnd (h : c.isActiveAt now) :
    c.startDate ≤ now.date ∧ now.date ≤ c.effectiveEnd := by
  obtain ⟨hstart, hend, hterm⟩ := isActiveAt_iff.mp h
  refine ⟨hstart, ?_⟩
  rcases ht : c.terminatedAt with _ | t
  · rwa [effectiveEnd_of_running ht]
  · rw [effectiveEnd_of_terminated ht]
    exact Date.le_earlier.mpr ⟨hend, Instant.date_le_date (hterm t ht)⟩

end Contract

end LeaseDesk
