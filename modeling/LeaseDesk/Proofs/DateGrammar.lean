import LeaseDesk.Calendar.Format
import LeaseDesk.Http.Route
import LeaseDesk.Proofs.WellFormed

/-!
# How dates may be spelled

A date is spelled by a year, a month and a day with hyphens between them, and blanks may stand before
each of the three. Which numerals may be used is said by a grammar, and the grammar says nothing of how a
text is read: `Numeral`, `YearNumeral`, and `Date.Spelling` for the whole. Around the spelling there may be
blanks, which are taken off first (`Stripped`).

A text is read from left to right, and every row of digits is taken as far as it goes. Nothing is
lost by that, because a row of digits in a spelling is always followed by a hyphen or by nothing
(`readDigits?_of_numeral`). Therefore the texts that are read are exactly those that spell a date
(`Http.readDate_iff_spelledBy`), and any other text is refused in the same words.
-/

namespace LeaseDesk

namespace Text

/-! ## Numerals -/

/-- A row of ASCII digits, at least one, and the number that it denotes. -/
inductive Numeral : List Char → Nat → Prop
  | one {d : Nat} (digit : d < 10) : Numeral [Decimal.digit d] d
  | more {ds : List Char} {n d : Nat} (h : Numeral ds n) (digit : d < 10) :
      Numeral (ds ++ [Decimal.digit d]) (10 * n + d)

namespace Decimal

theorem isDigit_digit {d : Nat} (h : d < 10) : (digit d).isDigit :=
  (by decide : ∀ d < 10, (digit d).isDigit) d h

theorem toNat_digit {d : Nat} (h : d < 10) : (digit d).toNat - '0'.toNat = d :=
  (by decide : ∀ d < 10, (digit d).toNat - '0'.toNat = d) d h

theorem exists_digit_of_isDigit {c : Char} (h : c.isDigit) : ∃ d < 10, c = digit d := by
  simp only [Char.isDigit, Bool.and_eq_true, decide_eq_true_eq, ge_iff_le, UInt32.le_iff_toNat_le]
    at h
  have hc : c.toNat = c.val.toNat := rfl
  have hzero : '0'.val.toNat = 48 := rfl
  have hnine : '9'.val.toNat = 57 := rfl
  refine ⟨c.toNat - 48, by omega, ?_⟩
  rw [digit, Nat.mod_eq_of_lt (by omega), show '0'.toNat + (c.toNat - 48) = c.toNat by
    rw [show '0'.toNat = 48 from rfl]; omega, Char.ofNat_toNat]

theorem value_concat (ds : List Char) (c : Char) :
    value (ds ++ [c]) = 10 * value ds + (c.toNat - '0'.toNat) := by
  rw [value, List.foldl_append]
  rfl

end Decimal

theorem numeral_iff {ds : List Char} {n : Nat} :
    Numeral ds n ↔ ds ≠ [] ∧ (∀ c ∈ ds, c.isDigit) ∧ Decimal.value ds = n := by
  constructor
  · intro h
    induction h with
    | @one d digit =>
      refine ⟨by simp, by simpa using Decimal.isDigit_digit digit, ?_⟩
      simpa [Decimal.value] using Decimal.toNat_digit digit
    | @more ds n d h digit ih =>
      obtain ⟨-, hdigits, hvalue⟩ := ih
      refine ⟨by simp, ?_, ?_⟩
      · simpa [or_imp, forall_and] using ⟨hdigits, Decimal.isDigit_digit digit⟩
      · rw [Decimal.value_concat, hvalue, Decimal.toNat_digit digit]
  · rintro ⟨hne, hdigits, rfl⟩
    induction ds using List.reverseRecOn with
    | nil => exact absurd rfl hne
    | append_singleton ds c ih =>
      obtain ⟨d, hd, rfl⟩ := Decimal.exists_digit_of_isDigit (hdigits c (by simp))
      rw [Decimal.value_concat, Decimal.toNat_digit hd]
      by_cases hds : ds = []
      · subst hds
        simpa [Decimal.value] using Numeral.one hd
      · exact (ih hds fun c hc => hdigits c (by simp [hc])).more hd

theorem Numeral.ne_nil {ds : List Char} {n : Nat} (h : Numeral ds n) : ds ≠ [] :=
  (numeral_iff.mp h).1

theorem Numeral.isDigit {ds : List Char} {n : Nat} (h : Numeral ds n) : ∀ c ∈ ds, c.isDigit :=
  (numeral_iff.mp h).2.1

/-! ## Blanks -/

/-- There are only blanks, if there is anything. -/
def AllBlank (cs : List Char) : Prop :=
  ∀ c ∈ cs, isBlank c

/-- The text does not begin with a blank. -/
def Flush (cs : List Char) : Prop :=
  ∀ c, cs.head? = some c → isBlank c = false

/-- What is left of the text if the blanks are taken off at both ends. -/
structure Stripped (cs core : List Char) : Prop where
  around : ∃ before after, AllBlank before ∧ AllBlank after ∧ cs = before ++ core ++ after
  start : Flush core
  finish : Flush core.reverse

theorem not_isBlank_of_isDigit {c : Char} (h : c.isDigit) : isBlank c = false := by
  obtain ⟨d, hd, rfl⟩ := Decimal.exists_digit_of_isDigit h
  exact (by decide : ∀ d < 10, isBlank (Decimal.digit d) = false) d hd

theorem dropWhile_isBlank {before cs : List Char} (hblank : AllBlank before) (hflush : Flush cs) :
    (before ++ cs).dropWhile isBlank = cs := by
  rw [List.dropWhile_append_of_pos hblank]
  cases cs with
  | nil => rfl
  | cons c cs => rw [List.dropWhile_cons_of_neg (by simp [hflush c rfl])]

theorem AllBlank.singleton {c : Char} (h : isBlank c) : AllBlank [c] := by
  rintro _ (_ | ⟨_, ⟨⟩⟩)
  exact h

theorem AllBlank.dropWhile_eq_nil {cs : List Char} (h : AllBlank cs) :
    cs.dropWhile isBlank = [] :=
  List.dropWhile_eq_nil_iff.mpr h

theorem AllBlank.reverse {cs : List Char} (h : AllBlank cs) : AllBlank cs.reverse :=
  fun c hc => h c (List.mem_reverse.mp hc)

theorem allBlank_takeWhile (cs : List Char) : AllBlank (cs.takeWhile isBlank) :=
  fun _ hc => List.mem_takeWhile_imp hc

theorem flush_dropWhile (cs : List Char) : Flush (cs.dropWhile isBlank) := by
  intro c hc
  have hnot := List.head?_dropWhile_not isBlank cs
  rw [hc] at hnot
  simpa using hnot

/-- **Trimming strips.** What is left by trimming is what is left if the blanks are taken off. -/
theorem stripped_iff {cs core : List Char} : Stripped cs core ↔ core = trimChars cs := by
  constructor
  · rintro ⟨⟨before, after, hbefore, hafter, rfl⟩, hstart, hfinish⟩
    rw [trimChars, List.append_assoc]
    cases core with
    | nil =>
      rw [List.nil_append, List.dropWhile_append_of_pos hbefore, hafter.dropWhile_eq_nil]
      rfl
    | cons c core =>
      -- both ends are taken off by one and the same argument
      rw [dropWhile_isBlank hbefore (fun c' hc' => hstart c' (by simpa using hc')),
        List.reverse_append, dropWhile_isBlank hafter.reverse hfinish, List.reverse_reverse]
  · rintro rfl
    rw [trimChars]
    refine ⟨⟨cs.takeWhile isBlank, ((cs.dropWhile isBlank).reverse.takeWhile isBlank).reverse,
      allBlank_takeWhile cs, (allBlank_takeWhile _).reverse, ?_⟩, ?_, ?_⟩
    · rw [List.append_assoc, ← List.reverse_append, List.takeWhile_append_dropWhile,
        List.reverse_reverse, List.takeWhile_append_dropWhile]
    · exact fun c hc => by simpa using not_isBlank_of_head?_trimChars hc
    · rw [List.reverse_reverse]
      exact flush_dropWhile _

end Text

open Text

/-! ## The grammar -/

/-- The numeral of a year: up to four digits, or any number of digits with a sign. -/
inductive YearNumeral : List Char → Int → Prop
  | plain {ds : List Char} {n : Nat} (h : Numeral ds n) (short : ds.length ≤ 4) : YearNumeral ds n
  | positive {ds : List Char} {n : Nat} (h : Numeral ds n) : YearNumeral ('+' :: ds) n
  | negative {ds : List Char} {n : Nat} (h : Numeral ds n) : YearNumeral ('-' :: ds) (-n)

namespace Date

/-- **The spellings of a date.** Year, month and day stand in this order, with hyphens between them, and
there may be blanks before each of the three. Months and days have one digit or two. -/
inductive Spelling (d : Date) : List Char → Prop
  | mk {blanks blanks' blanks'' ys ms ds : List Char}
      (year : YearNumeral ys d.year) (beforeYear : AllBlank blanks)
      (month : Numeral ms d.month) (shortMonth : ms.length ≤ 2) (beforeMonth : AllBlank blanks')
      (day : Numeral ds d.day) (shortDay : ds.length ≤ 2) (beforeDay : AllBlank blanks'') :
      Spelling d (blanks ++ (ys ++ '-' :: (blanks' ++ (ms ++ '-' :: (blanks'' ++ ds)))))

/-! ## Reading numerals -/

/-- No digit comes next. -/
def Stops (rest : List Char) : Prop :=
  ∀ c, rest.head? = some c → c.isDigit = false

theorem stops_nil : Stops [] := nofun

theorem stops_hyphen (rest : List Char) : Stops ('-' :: rest) := by
  rintro c ⟨⟩
  rfl

theorem flush_of_isDigit {ds rest : List Char} (hne : ds ≠ []) (h : ∀ c ∈ ds, c.isDigit) :
    Flush (ds ++ rest) := by
  intro c hc
  rw [List.head?_append_of_ne_nil _ hne] at hc
  exact not_isBlank_of_isDigit (h c (List.mem_of_head? hc))

variable {most : Nat} {cs ds ys rest : List Char} {n : Nat} {year : Int}

theorem Stops.take (h : Stops rest) (k : Nat) : Stops (rest.take k) := by
  intro c hc
  rw [List.head?_take] at hc
  split at hc
  · exact nomatch hc
  · exact h c hc

theorem Stops.takeWhile_eq_nil (h : Stops rest) : rest.takeWhile Char.isDigit = [] := by
  cases rest with
  | nil => rfl
  | cons c rest => simp [h c rfl]

/-- A numeral is read to its end, if no digit comes next. -/
theorem readDigits?_of_numeral (h : Numeral ds n) (hshort : ds.length ≤ most)
    (hstops : Stops rest) : readDigits? most (ds ++ rest) = some (n, rest) := by
  obtain ⟨hne, hdigits, rfl⟩ := numeral_iff.mp h
  have hrow : ((ds ++ rest).take most).takeWhile Char.isDigit = ds := by
    rw [List.take_append, List.take_of_length_le hshort, List.takeWhile_append_of_pos hdigits,
      (hstops.take _).takeWhile_eq_nil, List.append_nil]
  simp only [readDigits?, hrow]
  rw [if_neg (by simpa using hne), List.drop_left]

/-- What is read as a number is a numeral. -/
theorem exists_numeral_of_readDigits? (h : readDigits? most cs = some (n, rest)) :
    ∃ ds, Numeral ds n ∧ ds.length ≤ most ∧ cs = ds ++ rest := by
  simp only [readDigits?] at h
  split at h
  · exact nomatch h
  · next hne =>
    obtain ⟨rfl, rfl⟩ := Prod.mk.inj (Option.some.inj h)
    have hrow := List.takeWhile_prefix Char.isDigit (l := cs.take most)
    refine ⟨(cs.take most).takeWhile Char.isDigit, numeral_iff.mpr ⟨?_, ?_, rfl⟩, ?_, ?_⟩
    · simpa using hne
    · exact fun c hc => List.mem_takeWhile_imp hc
    · exact hrow.length_le.trans (List.length_take_le most cs)
    · exact List.prefix_iff_eq_append.mp (hrow.trans (List.take_prefix most cs)) |>.symm

/-- The numeral of a year is read to its end, if no digit comes next. -/
theorem readYear?_of_yearNumeral (h : YearNumeral ys year) (hstops : Stops rest) :
    readYear? (ys ++ rest) = some (year, rest) := by
  cases h with
  | plain h short =>
    have hread := readDigits?_of_numeral h short hstops
    cases ys with
    | nil => exact absurd rfl h.ne_nil
    | cons c ys =>
      have hc := h.isDigit c List.mem_cons_self
      rw [List.cons_append] at hread ⊢
      rw [readYear?, hread]
      · rfl
      -- a digit is not a sign
      all_goals
        rintro rest' heq
        obtain rfl := (List.cons.inj heq).1
        exact absurd hc (by decide)
  | positive h =>
    rw [List.cons_append, readYear?, readDigits?_of_numeral h (by simp) hstops]
    rfl
  | negative h =>
    rw [List.cons_append, readYear?, readDigits?_of_numeral h (by simp) hstops]
    rfl

theorem exists_numeral_of_map {f : Nat → Int}
    (h : (readDigits? most cs).map (fun (n, rest) => (f n, rest)) = some (year, rest)) :
    ∃ ds n, Numeral ds n ∧ ds.length ≤ most ∧ cs = ds ++ rest ∧ year = f n := by
  obtain ⟨⟨n, rest'⟩, hread, heq⟩ := Option.map_eq_some_iff.mp h
  obtain ⟨rfl, rfl⟩ := Prod.mk.inj heq
  obtain ⟨ds, hds, hshort, rfl⟩ := exists_numeral_of_readDigits? hread
  exact ⟨ds, n, hds, hshort, rfl, rfl⟩

/-- What is read as a year is the numeral of one. -/
theorem exists_yearNumeral_of_readYear? (h : readYear? cs = some (year, rest)) :
    ∃ ys, YearNumeral ys year ∧ cs = ys ++ rest := by
  rw [readYear?.eq_def] at h
  split at h
  · obtain ⟨ds, n, hds, -, rfl, rfl⟩ := exists_numeral_of_map h
    exact ⟨'+' :: ds, .positive hds, rfl⟩
  · obtain ⟨ds, n, hds, -, rfl, rfl⟩ := exists_numeral_of_map (f := fun n => -(n : Int)) h
    exact ⟨'-' :: ds, .negative hds, rfl⟩
  · obtain ⟨ds, n, hds, hshort, rfl, rfl⟩ := exists_numeral_of_map h
    exact ⟨ds, .plain hds hshort, rfl⟩

theorem pastHyphen?_eq_some_iff : pastHyphen? cs = some rest ↔ cs = '-' :: rest := by
  rw [pastHyphen?.eq_def]
  split
  · simp
  · next hne =>
    exact ⟨nofun, fun h => absurd h (hne rest)⟩

theorem of?_eq_some_iff {month day : Nat} {d : Date} :
    of? year month day = some d ↔ d.year = year ∧ d.month = month ∧ d.day = day := by
  rw [of?]
  constructor
  · intro h
    split at h
    · obtain rfl := Option.some.inj h
      exact ⟨rfl, rfl, rfl⟩
    · exact nomatch h
  · rintro ⟨rfl, rfl, rfl⟩
    rw [dif_pos d.inCalendar]

/-! ## Reading dates -/

theorem flush_of_yearNumeral (h : YearNumeral ys year) (rest : List Char) :
    Flush (ys ++ rest) := by
  cases h with
  | plain h => exact flush_of_isDigit h.ne_nil h.isDigit
  | positive | negative =>
    rintro c ⟨⟩
    decide

/-- Blanks are passed over before a numeral. -/
theorem dropWhile_isBlank_numeral {blanks : List Char} (hblank : AllBlank blanks)
    (h : Numeral ds n) (rest : List Char) :
    (blanks ++ (ds ++ rest)).dropWhile isBlank = ds ++ rest :=
  dropWhile_isBlank hblank (flush_of_isDigit h.ne_nil h.isDigit)

/-- Every spelling is read. -/
theorem ofChars?_of_spelling {d : Date} (h : d.Spelling (trimChars cs)) : ofChars? cs = some d := by
  rw [ofChars?]
  generalize trimChars cs = core at h
  cases h with
  | @mk blanks blanks' blanks'' ys ms ds year beforeYear month shortMonth beforeMonth day shortDay
      beforeDay =>
    have hyear := readYear?_of_yearNumeral year
      (stops_hyphen (blanks' ++ (ms ++ '-' :: (blanks'' ++ ds))))
    have hmonth := readDigits?_of_numeral month shortMonth (stops_hyphen (blanks'' ++ ds))
    have hday := readDigits?_of_numeral day shortDay stops_nil
    have hbeforeDay := dropWhile_isBlank_numeral beforeDay day []
    rw [List.append_nil] at hday hbeforeDay
    simp only [dropWhile_isBlank beforeYear (flush_of_yearNumeral year _), hyear, pastHyphen?,
      dropWhile_isBlank_numeral beforeMonth month, hmonth, hbeforeDay, hday,
      Option.bind_eq_bind, Option.bind_some, List.isEmpty_nil, if_true]
    exact of?_eq_some_iff.mpr ⟨rfl, rfl, rfl⟩

/-- Blanks and what comes after them. -/
theorem exists_blanks (cs : List Char) :
    ∃ blanks, AllBlank blanks ∧ cs = blanks ++ cs.dropWhile isBlank :=
  ⟨cs.takeWhile isBlank, allBlank_takeWhile cs, List.takeWhile_append_dropWhile.symm⟩

/-- What is read is a spelling. -/
theorem spelling_of_ofChars? {d : Date} (h : ofChars? cs = some d) :
    d.Spelling (trimChars cs) := by
  simp only [ofChars?, Option.bind_eq_bind, Option.bind_eq_some_iff, Prod.exists] at h
  obtain ⟨year, afterYear, hyear, fromMonth, hhyphen, month, afterMonth, hmonth, fromDay,
    hhyphen', day, afterDay, hday, hend⟩ := h
  split at hend
  · next hnothing =>
    obtain ⟨blanks, hblanks, hcore⟩ := exists_blanks (trimChars cs)
    obtain ⟨blanks', hblanks', hfromMonth⟩ := exists_blanks fromMonth
    obtain ⟨blanks'', hblanks'', hfromDay⟩ := exists_blanks fromDay
    obtain ⟨ys, hys, hcore'⟩ := exists_yearNumeral_of_readYear? hyear
    obtain ⟨ms, hms, hshort, hfromMonth'⟩ := exists_numeral_of_readDigits? hmonth
    obtain ⟨ds, hds, hshort', hfromDay'⟩ := exists_numeral_of_readDigits? hday
    obtain rfl := pastHyphen?_eq_some_iff.mp hhyphen
    obtain rfl := pastHyphen?_eq_some_iff.mp hhyphen'
    obtain rfl := List.isEmpty_iff.mp hnothing
    obtain ⟨rfl, rfl, rfl⟩ := of?_eq_some_iff.mp hend
    rw [hcore, hcore', hfromMonth, hfromMonth', hfromDay, hfromDay', List.append_nil]
    exact .mk hys hblanks hms hshort hblanks' hds hshort' hblanks''
  · exact nomatch hend

theorem ofChars?_eq_some_iff {d : Date} : ofChars? cs = some d ↔ d.Spelling (trimChars cs) :=
  ⟨spelling_of_ofChars?, ofChars?_of_spelling⟩

/-- The text spells the date, with or without blanks around it. -/
def SpelledBy (d : Date) (text : String) : Prop :=
  ∃ core, Stripped text.toList core ∧ d.Spelling core

theorem ofText?_eq_some_iff {d : Date} {text : String} :
    ofText? text = some d ↔ d.SpelledBy text := by
  rw [ofText?, ofChars?_eq_some_iff, SpelledBy]
  simp only [stripped_iff, exists_eq_left]

end Date

namespace Http

/-- **Dates are read as they may be spelled.** A field of a form is read as a date exactly if it spells
that date, and if it spells none, the request is refused with a word on the field. -/
theorem readDate_iff_spelledBy (field text : String) :
    (∀ d, readDate field text = .ok d ↔ d.SpelledBy text) ∧
      ∀ problem, readDate field text = .error problem ↔
        problem = .badRequest (field ++ " must be a date in YYYY-MM-DD format") ∧
          ∀ d : Date, ¬ d.SpelledBy text := by
  simp only [← Date.ofText?_eq_some_iff, readDate]
  cases h : Date.ofText? text with
  | none => simp [Problem.notADate, eq_comm]
  | some d => simp

/-- Without a sign a year has four digits at most, leading zeros included. -/
example : ["+02024- 2-29 ", "02024-02-29"].map Date.ofText? =
    [some ⟨2024, 2, 29, by decide⟩, none] := by decide +kernel

end Http

end LeaseDesk
