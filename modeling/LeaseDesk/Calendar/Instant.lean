import LeaseDesk.Calendar.Date

/-!
# Instants

A moment in UTC, exact to the nanosecond, is a date and the time passed since its midnight. Days have
no leap seconds, so every day has the same length, and comparing two instants means comparing their
dates first and the times of day on equal dates.

There are clocks that read 23:59:60 in a leap second, or count more than a second's worth of nanoseconds
within the second before it. Such readings are no instants here: nothing that is said of instants is
said of them.
-/

namespace LeaseDesk

namespace Instant

/-- The nanoseconds of a second. -/
def perSecond : Nat := 1000000000

/-- The nanoseconds of a minute. -/
def perMinute : Nat := 60 * perSecond

/-- The nanoseconds of a day. -/
def perDay : Nat := 24 * 60 * perMinute

end Instant

/-- A moment in UTC, outside of leap seconds. -/
structure Instant where
  /-- the UTC date -/
  date : Date
  /-- the nanoseconds passed since midnight -/
  sinceMidnight : Nat
  /-- the day is not over -/
  withinDay : sinceMidnight < Instant.perDay
deriving DecidableEq

namespace Instant

/-- The place of an instant in the order of instants. -/
def rank (t : Instant) : Int :=
  t.date.rank * (perDay : Int) + (t.sinceMidnight : Int)

instance : LE Instant := ⟨fun a b => a.rank ≤ b.rank⟩
instance : LT Instant := ⟨fun a b => a.rank < b.rank⟩
instance (a b : Instant) : Decidable (a ≤ b) := inferInstanceAs (Decidable (a.rank ≤ b.rank))
instance (a b : Instant) : Decidable (a < b) := inferInstanceAs (Decidable (a.rank < b.rank))

/-- The first moment of a day. -/
def startOfDay (d : Date) : Instant :=
  ⟨d, 0, by decide⟩

/-- The moment a clock showing UTC reads so on the given date, if a clock can read so. -/
def of? (date : Date) (hour minute second nanosecond : Nat) : Option Instant :=
  let n := ((hour * 60 + minute) * 60 + second) * perSecond + nanosecond
  if h : hour < 24 ∧ minute < 60 ∧ second < 60 ∧ nanosecond < perSecond ∧ n < perDay then
    some ⟨date, n, h.2.2.2.2⟩
  else none

/-- The moment at which clocks that run `minutes` ahead of UTC read what `reading` shows. The
difference is less than a day; nothing is returned where the calendar ends. -/
def ofLocal? (reading : Instant) (minutes : Int) : Option Instant :=
  let n : Int := (reading.sinceMidnight : Int) - minutes * (perMinute : Int)
  let dayAndTime : Option (Date × Int) :=
    if n < 0 then reading.date.previous?.map (·, n + (perDay : Int))
    else if (perDay : Int) ≤ n then reading.date.next?.map (·, n - (perDay : Int))
    else some (reading.date, n)
  dayAndTime.bind fun (date, time) =>
    if h : time.toNat < perDay then some ⟨date, time.toNat, h⟩ else none

/-- The hour, minute and second that a clock showing UTC reads. -/
def clock (t : Instant) : Nat × Nat × Nat :=
  let seconds := t.sinceMidnight / perSecond
  (seconds / 3600, seconds / 60 % 60, seconds % 60)

/-- The nanoseconds passed since the last full second. -/
def nanosecond (t : Instant) : Nat :=
  t.sinceMidnight % perSecond

theorem le_def {a b : Instant} : a ≤ b ↔ a.rank ≤ b.rank := Iff.rfl

theorem lt_def {a b : Instant} : a < b ↔ a.rank < b.rank := Iff.rfl

/-- An instant is determined by its place in the order. -/
theorem rank_injective {a b : Instant} (h : a.rank = b.rank) : a = b := by
  obtain ⟨d, n, hn⟩ := a
  obtain ⟨e, m, hm⟩ := b
  simp only [rank, perDay, perMinute, perSecond] at h hn hm
  have hdate : d = e := Date.rank_injective (by omega)
  subst hdate
  have htime : n = m := by omega
  subst htime
  rfl

/-- Instants are compared by their dates first. -/
theorem rank_lt_startOfDay {t : Instant} {d : Date} : t < startOfDay d ↔ t.date < d := by
  have ht := t.withinDay
  simp only [lt_def, Date.lt_def, rank, startOfDay, perDay, perMinute, perSecond] at *
  omega

end Instant

end LeaseDesk
