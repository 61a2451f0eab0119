/-!
# The calendar

Dates of the proleptic Gregorian calendar with a year 0, from January 1st of the year −262143 to
December 31st of the year 262142. A `Date` carries the proof that it exists, so no operation has to
ask again. Dates are ordered by year, month and day; `Date.rank` packs the three into one integer,
leaving more room than any month needs, which turns the order into the order of the integers.
-/

namespace LeaseDesk

/-- Every fourth year is a leap year, except the full centuries not divisible by 400. -/
def isLeapYear (year : Int) : Bool :=
  year % 4 == 0 && (year % 100 != 0 || year % 400 == 0)

/-- The number of days in a month; months are numbered from 1, and no other month has a day. -/
def daysInMonth (year : Int) (month : Nat) : Nat :=
  match month with
  | 1 | 3 | 5 | 7 | 8 | 10 | 12 => 31
  | 4 | 6 | 9 | 11 => 30
  | 2 => if isLeapYear year then 29 else 28
  | _ => 0

namespace Date

/-- The first year of the calendar. -/
def firstYear : Int := -262143

/-- The last year of the calendar. -/
def lastYear : Int := 262142

/-- The year lies in the calendar, and the month of that year has the day. -/
def Exists (year : Int) (month day : Nat) : Prop :=
  (firstYear ≤ year ∧ year ≤ lastYear) ∧ 1 ≤ day ∧ day ≤ daysInMonth year month

instance (year : Int) (month day : Nat) : Decidable (Exists year month day) :=
  inferInstanceAs (Decidable (_ ∧ _))

end Date

/-- A date of the calendar. -/
structure Date where
  /-- the year; the year before 1 is 0, the one before that is −1 -/
  year : Int
  /-- the month, counted from 1 -/
  month : Nat
  /-- the day of the month, counted from 1 -/
  day : Nat
  /-- the date exists -/
  inCalendar : Date.Exists year month day
deriving DecidableEq

namespace Date

/-- The date with these numbers, if there is one. -/
def of? (year : Int) (month day : Nat) : Option Date :=
  if h : Exists year month day then some ⟨year, month, day, h⟩ else none

/-- The place of a date in the order of dates. -/
def rank (d : Date) : Int :=
  (d.year * 12 + (d.month : Int)) * 32 + (d.day : Int)

instance : LE Date := ⟨fun a b => a.rank ≤ b.rank⟩
instance : LT Date := ⟨fun a b => a.rank < b.rank⟩
instance (a b : Date) : Decidable (a ≤ b) := inferInstanceAs (Decidable (a.rank ≤ b.rank))
instance (a b : Date) : Decidable (a < b) := inferInstanceAs (Decidable (a.rank < b.rank))

/-- The earlier of two dates. -/
def earlier (a b : Date) : Date :=
  if a ≤ b then a else b

/-- The day after: the next day of the month, else the first of the next month, else the first of the
next year. The last day of the calendar has none. -/
def next? (d : Date) : Option Date :=
  of? d.year d.month (d.day + 1) <|> of? d.year (d.month + 1) 1 <|> of? (d.year + 1) 1 1

/-- The day before: the previous day of the month, else the last of the previous month, else the last
of the previous year. The first day of the calendar has none. -/
def previous? (d : Date) : Option Date :=
  of? d.year d.month (d.day - 1)
    <|> of? d.year (d.month - 1) (daysInMonth d.year (d.month - 1))
    <|> of? (d.year - 1) 12 31

theorem le_def {a b : Date} : a ≤ b ↔ a.rank ≤ b.rank := Iff.rfl

theorem lt_def {a b : Date} : a < b ↔ a.rank < b.rank := Iff.rfl

/-- No month has more than 31 days, and only the numbers 1 to 12 are months. -/
theorem daysInMonth_le {year : Int} {month day : Nat} (h : 1 ≤ day)
    (hm : day ≤ daysInMonth year month) : 1 ≤ month ∧ month ≤ 12 ∧ day ≤ 31 := by
  unfold daysInMonth at hm
  split at hm <;> try omega
  split at hm <;> omega

/-- A date is determined by its place in the order. -/
theorem rank_injective {a b : Date} (h : a.rank = b.rank) : a = b := by
  obtain ⟨ya, ma, da, _, ha, ha'⟩ := a
  obtain ⟨yb, mb, db, _, hb, hb'⟩ := b
  have := daysInMonth_le ha ha'
  have := daysInMonth_le hb hb'
  simp only [rank] at h
  have hy : ya = yb := by omega
  have hm : ma = mb := by omega
  have hd : da = db := by omega
  subst hy hm hd
  rfl

end Date

end LeaseDesk
