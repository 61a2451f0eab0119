import LeaseDesk.Proofs.DateGrammar
import Mathlib.Algebra.Group.Nat.Defs

/-!
# How dates are written

Dates are written and read by different conventions. A year is written in four digits, and with a sign
where four digits without one would not do; a year without a sign is read as long as it has up to four
digits, and one with a sign however many it has. Still nothing is lost between the two: what is written
for a date spells it (`Date.spelling_chars`), and blanks around it make no difference
(`Date.ofText?_of_inBlanks`).
-/

namespace LeaseDesk

open Text

/-! ## Writing numerals -/

namespace Text

namespace Decimal

theorem digit_mod (n : Nat) : digit (n % 10) = digit n := by
  rw [digit, digit, Nat.mod_mod]

/-- A number has no more digits than the power of ten above it has zeros. -/
theorem length_digits_le {n : Nat} (k : Nat) (h : n < 10 ^ (k + 1)) :
    (digits n).length ≤ k + 1 := by
  induction k generalizing n with
  | zero => rw [digits, if_pos (by simpa using h), List.length_singleton]
  | succ k ih =>
    rw [digits]
    split
    · simp
    · have hrest : (digits (n / 10)).length ≤ k + 1 :=
        ih (Nat.div_lt_of_lt_mul (by rwa [← Nat.pow_succ']))
      simpa using hrest

theorem length_padded {n : Nat} (k : Nat) (h : n < 10 ^ (k + 1)) :
    (padded (k + 1) n).length = k + 1 := by
  have hdigits := length_digits_le k h
  rw [padded, List.length_append, List.length_replicate]
  omega

end Decimal

namespace Numeral

variable {ds : List Char} {n : Nat}

theorem zero_cons (h : Numeral ds n) : Numeral ('0' :: ds) n := by
  induction h with
  | @one d digit =>
    have hzero : Numeral ['0'] 0 := .one (d := 0) (by decide)
    simpa using hzero.more digit
  | more _ digit ih => exact ih.more digit

theorem zeros_append (h : Numeral ds n) (k : Nat) : Numeral (List.replicate k '0' ++ ds) n := by
  induction k with
  | zero => exact h
  | succ k ih => exact ih.zero_cons

end Numeral

theorem numeral_digits (n : Nat) : Numeral (Decimal.digits n) n := by
  induction n using Decimal.digits.induct with
  | case1 n h =>
    rw [Decimal.digits, if_pos h]
    exact .one h
  | case2 n h ih =>
    have hlast := ih.more (Nat.mod_lt n (by decide : 10 > 0))
    rw [Decimal.digit_mod, Nat.div_add_mod] at hlast
    rwa [Decimal.digits, if_neg h]

/-- What is written for a number denotes it, however many zeros are in front. -/
theorem numeral_padded (width n : Nat) : Numeral (Decimal.padded width n) n :=
  (numeral_digits n).zeros_append _

/-- The second text is the first with blanks around it, if with anything. -/
def InBlanks (s t : String) : Prop :=
  ∃ before after, AllBlank before ∧ AllBlank after ∧ t.toList = before ++ s.toList ++ after

theorem InBlanks.refl (s : String) : InBlanks s s :=
  ⟨[], [], nofun, nofun, by simp⟩

end Text

/-! ## Writing dates -/

namespace Date

/-- The year is written as a numeral that may stand for it. -/
theorem yearNumeral_yearChars (year : Int) : YearNumeral (yearChars year) year := by
  have hnumeral := numeral_padded 4 year.natAbs
  rw [yearChars]
  split
  · next hshort =>
    have hlength := Decimal.length_padded (n := year.natAbs) 3 (by omega)
    have hplain := YearNumeral.plain hnumeral hlength.le
    rwa [Int.natAbs_of_nonneg hshort.1] at hplain
  · split
    · next hnegative =>
      have hsigned := YearNumeral.negative hnumeral
      rwa [Int.ofNat_natAbs_of_nonpos (Int.le_of_lt hnegative), Int.neg_neg] at hsigned
    · next hpositive =>
      have hsigned := YearNumeral.positive hnumeral
      rwa [Int.natAbs_of_nonneg (Int.not_lt.mp hpositive)] at hsigned

/-- **What is written for a date spells it.** -/
theorem spelling_chars (d : Date) : d.Spelling d.chars := by
  obtain ⟨-, hfirst, hlast⟩ := d.inCalendar
  obtain ⟨-, hmonth, hday⟩ := daysInMonth_le hfirst hlast
  have hmonths := Decimal.length_padded (n := d.month) 1 (by omega)
  have hdays := Decimal.length_padded (n := d.day) 1 (by omega)
  have h : d.Spelling ([] ++ (yearChars d.year ++ '-' :: ([] ++ (Decimal.padded 2 d.month ++
      '-' :: ([] ++ Decimal.padded 2 d.day))))) := by
    apply Spelling.mk
    · exact yearNumeral_yearChars d.year
    · exact nofun
    · exact numeral_padded 2 d.month
    · exact hmonths.le
    · exact nofun
    · exact numeral_padded 2 d.day
    · exact hdays.le
    · exact nofun
  exact h

theorem flush_chars (d : Date) : Flush d.chars :=
  flush_of_yearNumeral (yearNumeral_yearChars d.year) _

theorem flush_reverse_chars (d : Date) : Flush d.chars.reverse := by
  have hday := numeral_padded 2 d.day
  rw [chars, List.reverse_append, List.reverse_cons, List.reverse_append, List.reverse_cons,
    List.append_assoc, List.append_assoc, List.append_assoc]
  refine flush_of_isDigit (List.reverse_ne_nil_iff.mpr hday.ne_nil) fun c hc => ?_
  exact hday.isDigit c (List.mem_reverse.mp hc)

/-- Blanks around what is written change nothing. -/
theorem spelledBy_of_inBlanks {d : Date} {text : String} (h : InBlanks d.text text) :
    d.SpelledBy text := by
  obtain ⟨before, after, hbefore, hafter, htext⟩ := h
  rw [Date.text, String.toList_ofList] at htext
  exact ⟨d.chars, ⟨⟨before, after, hbefore, hafter, htext⟩, d.flush_chars, d.flush_reverse_chars⟩,
    d.spelling_chars⟩

theorem ofText?_of_inBlanks {d : Date} {text : String} (h : InBlanks d.text text) :
    ofText? text = some d :=
  ofText?_eq_some_iff.mpr (spelledBy_of_inBlanks h)

theorem ofText?_text (d : Date) : ofText? d.text = some d :=
  ofText?_of_inBlanks (.refl d.text)

/-- Different dates are written differently. -/
theorem text_injective : Function.Injective Date.text := by
  intro d d' h
  have hread := d.ofText?_text
  rw [h, ofText?_text] at hread
  exact (Option.some.inj hread).symm

end Date

end LeaseDesk
