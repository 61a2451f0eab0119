import LeaseDesk.Proofs.Ascii
import LeaseDesk.Proofs.JsonGrammar
import Mathlib.Data.List.DropRight

/-!
# What is written is read

Every scanner goes past what the grammar derives, however it is written, and comes to what follows. For
texts it is said as well what has been read (`readText?_of_spells`), and for numerals which one it was
(`Numeral.Written.read?_eq`). Values are passed over by `skipFrom?`, which keeps a list of open brackets
where the grammar has a tree; that the two agree is `Derives.skipFrom?_eq`, by induction on the
derivation with any brackets open around it.
-/

namespace LeaseDesk.Json

open Text (IsAscii)

/-! ## White space -/

theorem skipSpace_append {space : List UInt8} (h : Blank space) (bs : List UInt8) :
    skipSpace (space ++ bs) = skipSpace bs :=
  List.dropWhile_append_of_pos h

theorem skipSpace_cons {b : UInt8} (h : isSpace b = false) (bs : List UInt8) :
    skipSpace (b :: bs) = b :: bs :=
  List.dropWhile_cons_of_neg (by rw [h]; exact Bool.false_ne_true)

theorem skipSpace_skipSpace (bs : List UInt8) : skipSpace (skipSpace bs) = skipSpace bs :=
  List.dropWhile_idempotent _ _

/-! ## Texts -/

theorem HexUnit.readUnit?_eq {n : Nat} {digits : List UInt8} (h : HexUnit n digits)
    (rest : List UInt8) : readUnit? (digits ++ rest) = some (n, rest) := by
  cases h with
  | digits first second third fourth =>
    simp only [List.cons_append, List.nil_append, readUnit?, first, second, third, fourth]
    rfl

/-- The byte stands for itself in a text. -/
def Printing (b : UInt8) : Prop := b ≠ ascii '"' ∧ b ≠ ascii '\\' ∧ 0x20 ≤ b

instance : DecidablePred Printing := fun b =>
  inferInstanceAs (Decidable (b ≠ ascii '"' ∧ b ≠ ascii '\\' ∧ 0x20 ≤ b))

theorem readBytes?_append {before bs : List UInt8} (h : ∀ b ∈ bs, Printing b) (rest : List UInt8) :
    readBytes? before (bs ++ rest) = readBytes? (bs.reverse ++ before) rest := by
  induction bs generalizing before with
  | nil => rfl
  | cons b bs ih =>
    obtain ⟨⟨hquote, hbackslash, hprinting⟩, hbs⟩ := List.forall_mem_cons.mp h
    rw [List.cons_append, readBytes?, if_neg (by simpa using hquote),
      if_neg (by simpa using hbackslash), if_neg (UInt8.not_lt.mpr hprinting), ih hbs,
      List.reverse_cons, List.append_assoc, List.singleton_append]

/-- Beyond ASCII, no byte of a character is in ASCII. -/
theorem le_of_mem_utf8EncodeChar {c : Char} (hc : ¬ IsAscii c) :
    ∀ b ∈ String.utf8EncodeChar c, 0x80 ≤ b := by
  have hbyte {n : Nat} (hlow : 0x80 ≤ n) (hhigh : n < 0x100) : 0x80 ≤ UInt8.ofNat n := by
    rw [UInt8.le_iff_toNat_le, UInt8.toNat_ofNat_of_lt' hhigh]
    exact hlow
  have hlt : ¬ c.val.toNat ≤ 0x7F := fun hle => hc (Nat.lt_succ_of_le hle)
  rw [String.utf8EncodeChar, if_neg hlt]
  split
  · simp only [List.forall_mem_cons, List.not_mem_nil, false_implies, implies_true, and_true]
    exact ⟨hbyte (by omega) (by omega), hbyte (by omega) (by omega)⟩
  split
  · simp only [List.forall_mem_cons, List.not_mem_nil, false_implies, implies_true, and_true]
    exact ⟨hbyte (by omega) (by omega), hbyte (by omega) (by omega), hbyte (by omega) (by omega)⟩
  · simp only [List.forall_mem_cons, List.not_mem_nil, false_implies, implies_true, and_true]
    exact ⟨hbyte (by omega) (by omega), hbyte (by omega) (by omega), hbyte (by omega) (by omega),
      hbyte (by omega) (by omega)⟩

theorem printing_of_mem {c : Char} (hprinting : 0x20 ≤ c.toNat) (hquote : c ≠ '"')
    (hbackslash : c ≠ '\\') : ∀ b ∈ String.utf8EncodeChar c, Printing b := by
  by_cases hc : IsAscii c
  · rw [Text.utf8EncodeChar_of_isAscii hc, List.forall_mem_singleton]
    exact Text.forall_isAscii
      (p := fun c => 0x20 ≤ c.toNat ∧ c ≠ '"' ∧ c ≠ '\\' → Printing (ascii c)) (by decide) hc
      ⟨hprinting, hquote, hbackslash⟩
  · intro b hb
    have hle : 0x80 ≤ b.toNat := UInt8.le_iff_toNat_le.mp (le_of_mem_utf8EncodeChar hc b hb)
    refine ⟨?_, ?_, UInt8.le_iff_toNat_le.mpr (Nat.le_trans (by decide) hle)⟩
    · rintro rfl
      exact absurd hle (by decide)
    · rintro rfl
      exact absurd hle (by decide)

theorem lookup_shortEscapes : ∀ p ∈ shortEscapes, shortEscapes.lookup p.1 = some p.2 := by
  decide

theorem readEscape?_numbered (bs : List UInt8) : readEscape? (ascii 'u' :: bs) = readNumbered? bs := by
  rw [readEscape?, show shortEscapes.lookup (ascii 'u') = none from by decide]
  rfl

theorem readNumbered?_of_hexUnit {c : Char} {digits : List UInt8} (h : HexUnit c.toNat digits)
    (rest : List UInt8) : readNumbered? (digits ++ rest) = some (c, rest) := by
  have hvalid : c.toNat < 0xD800 ∨ 0xDFFF < c.toNat ∧ c.toNat < 0x110000 := c.valid
  have hlow : isLowSurrogate c.toNat = false := by
    rw [isLowSurrogate, Bool.and_eq_false_iff, decide_eq_false_iff_not, decide_eq_false_iff_not]
    omega
  have hhigh : isHighSurrogate c.toNat = false := by
    rw [isHighSurrogate, Bool.and_eq_false_iff, decide_eq_false_iff_not, decide_eq_false_iff_not]
    omega
  simp only [readNumbered?, h.readUnit?_eq, Option.bind_some, hlow, hhigh, Char.ofNat_toNat,
    Bool.false_eq_true, if_false]

theorem readNumbered?_of_pair {bs rest rest' rest'' : List UInt8} {n m : Nat}
    (hfirst : readUnit? bs = some (n, rest)) (hn : isLowSurrogate n = false)
    (hhigh : isHighSurrogate n) (hpast : pastNumberedEscape? rest = some rest')
    (hsecond : readUnit? rest' = some (m, rest'')) (hlow : isLowSurrogate m) :
    readNumbered? bs = some (joinSurrogates n m, rest'') := by
  simp only [readNumbered?, hfirst, Option.bind_some, hn, Bool.false_eq_true, if_false, hhigh,
    if_true, hpast, hsecond, hlow]

theorem readNumbered?_of_surrogates {c : Char} {high low : List UInt8} (hbeyond : 0x10000 ≤ c.toNat)
    (hhigh : HexUnit (0xD800 + (c.toNat - 0x10000) / 0x400) high)
    (hlow : HexUnit (0xDC00 + (c.toNat - 0x10000) % 0x400) low) (rest : List UInt8) :
    readNumbered? (high ++ ascii '\\' :: ascii 'u' :: low ++ rest) = some (c, rest) := by
  have hvalid : c.toNat < 0xD800 ∨ 0xDFFF < c.toNat ∧ c.toNat < 0x110000 := c.valid
  generalize hn : 0xD800 + (c.toNat - 0x10000) / 0x400 = n at hhigh
  generalize hm : 0xDC00 + (c.toNat - 0x10000) % 0x400 = m at hlow
  have hn_low : isLowSurrogate n = false := by
    rw [isLowSurrogate, Bool.and_eq_false_iff, decide_eq_false_iff_not, decide_eq_false_iff_not]
    omega
  have hn_high : isHighSurrogate n := by
    rw [isHighSurrogate, Bool.and_eq_true, decide_eq_true_eq, decide_eq_true_eq]
    omega
  have hm_low : isLowSurrogate m := by
    rw [isLowSurrogate, Bool.and_eq_true, decide_eq_true_eq, decide_eq_true_eq]
    omega
  have hjoin : joinSurrogates n m = c := by
    rw [joinSurrogates, show 0x10000 + (n - 0xD800) * 0x400 + (m - 0xDC00) = c.toNat by omega,
      Char.ofNat_toNat]
  rw [List.append_assoc, readNumbered?_of_pair (hhigh.readUnit?_eq _) hn_low hn_high rfl
    (hlow.readUnit?_eq rest) hm_low, hjoin]

/-- A character is read as itself, however it is written. -/
theorem Writes.readBytes?_eq {c : Char} {bs : List UInt8} (h : Writes c bs)
    (before rest : List UInt8) : readBytes? before (bs ++ rest) =
      readBytes? ((String.utf8EncodeChar c).reverse ++ before) rest := by
  have hescape (escape : List UInt8) (hread : readEscape? (escape ++ rest) = some (c, rest)) :
      readBytes? before (ascii '\\' :: (escape ++ rest)) =
        readBytes? ((String.utf8EncodeChar c).reverse ++ before) rest := by
    rw [readBytes?, if_neg (by decide), if_pos (by decide)]
    split
    · next hnone => exact absurd (hread.symm.trans hnone) (Option.some_ne_none _)
    · next hsome =>
      obtain ⟨rfl, rfl⟩ := Prod.mk.inj (Option.some.inj (hread.symm.trans hsome))
      rfl
  cases h with
  | plain hprinting hquote hbackslash =>
    exact readBytes?_append (printing_of_mem hprinting hquote hbackslash) rest
  | @short b _ hmem =>
    refine hescape [b] ?_
    simp only [List.singleton_append, readEscape?, lookup_shortEscapes _ hmem]
  | @numbered _ digits hnumber =>
    refine hescape (ascii 'u' :: digits) ?_
    rw [List.cons_append, readEscape?_numbered, readNumbered?_of_hexUnit hnumber]
  | @surrogates _ high low hbeyond hhigh hlow =>
    refine hescape (ascii 'u' :: high ++ ascii '\\' :: ascii 'u' :: low) ?_
    rw [List.cons_append, List.cons_append, readEscape?_numbered,
      readNumbered?_of_surrogates hbeyond hhigh hlow]

theorem Spells.readBytes?_eq {cs : List Char} {bs : List UInt8} (h : Spells cs bs)
    (before rest : List UInt8) : readBytes? before (bs ++ ascii '"' :: rest) =
      some (before.reverse ++ cs.flatMap String.utf8EncodeChar, rest) := by
  induction h generalizing before with
  | nil => rw [List.nil_append, readBytes?, if_pos (by decide), List.flatMap_nil, List.append_nil]
  | cons first _ ih =>
    rw [List.append_assoc, first.readBytes?_eq, ih, List.reverse_append, List.reverse_reverse,
      List.append_assoc, List.flatMap_cons]

/-- **Texts are read** as what they say, however they are written. -/
theorem readText?_of_spells {s : String} {bs : List UInt8} (h : Spells s.toList bs)
    (rest : List UInt8) : readText? (bs ++ ascii '"' :: rest) = some (s, rest) := by
  rw [readText?, h.readBytes?_eq, Option.bind_some, List.reverse_nil, List.nil_append,
    ← Text.toBytes_eq]
  show (Text.ofBytes? (Text.toBytes s)).map _ = _
  rw [Text.ofBytes?_toBytes, Option.map_some]

/-- What stands between quotation marks is passed over. -/
theorem Quoted.skipString?_eq {bs : List UInt8} (h : Quoted bs) (rest : List UInt8) :
    skipString? (bs ++ ascii '"' :: rest) = some rest := by
  have hescape (escape : List UInt8) {bs : List UInt8} (hskip : skipEscape? (escape ++ bs) = some bs) :
      skipString? (ascii '\\' :: (escape ++ bs)) = skipString? bs := by
    rw [skipString?, if_neg (by decide), if_pos (by decide)]
    split
    · next hnone => exact absurd (hskip.symm.trans hnone) (Option.some_ne_none _)
    · next hsome => rw [Option.some.inj (hskip.symm.trans hsome)]
  induction h with
  | nil => rw [List.nil_append, skipString?, if_pos (by decide)]
  | byte hprinting hquote hbackslash _ ih =>
    rw [List.cons_append, skipString?, if_neg (by simpa using hquote),
      if_neg (by simpa using hbackslash), if_neg (UInt8.not_lt.mpr hprinting), ih]
  | @short b c bs hmem _ ih =>
    rw [← ih]
    refine hescape [b] ?_
    rw [List.singleton_append, skipEscape?, lookup_shortEscapes _ hmem, Option.isSome_some,
      if_pos rfl]
  | @numbered n digits bs hnumber _ ih =>
    rw [← ih, List.cons_append, List.cons_append, List.append_assoc]
    refine hescape (ascii 'u' :: digits) ?_
    rw [List.cons_append, skipEscape?, if_neg (by decide), if_pos (by decide),
      hnumber.readUnit?_eq, Option.map_some]

theorem Quoted.append {bs bs' : List UInt8} (h : Quoted bs) (h' : Quoted bs') :
    Quoted (bs ++ bs') := by
  induction h with
  | nil => exact h'
  | byte printing no_quote no_backslash _ ih => exact .byte printing no_quote no_backslash ih
  | short escape _ ih => exact .short escape ih
  | numbered number _ ih =>
    rw [List.cons_append, List.cons_append, List.append_assoc]
    exact .numbered number ih

theorem quoted_of_printing {bs : List UInt8} (h : ∀ b ∈ bs, Printing b) : Quoted bs := by
  induction bs with
  | nil => exact .nil
  | cons b bs ih =>
    obtain ⟨⟨hquote, hbackslash, hprinting⟩, hbs⟩ := List.forall_mem_cons.mp h
    exact .byte hprinting hquote hbackslash (ih hbs)

theorem Writes.quoted {c : Char} {bs : List UInt8} (h : Writes c bs) : Quoted bs := by
  have hnumber {n : Nat} {digits : List UInt8} (number : HexUnit n digits) :
      Quoted (ascii '\\' :: ascii 'u' :: digits) := by
    have hquoted := Quoted.numbered number .nil
    rwa [List.append_nil] at hquoted
  cases h with
  | plain printing no_quote no_backslash =>
    exact quoted_of_printing (printing_of_mem printing no_quote no_backslash)
  | short escape => exact .short escape .nil
  | numbered number => exact hnumber number
  | surrogates _ first second => exact (hnumber first).append (hnumber second)

/-- What spells something may stand between quotation marks. -/
theorem Spells.quoted {cs : List Char} {bs : List UInt8} (h : Spells cs bs) : Quoted bs := by
  induction h with
  | nil => exact .nil
  | cons first _ ih => exact first.quoted.append ih

/-! ## Numerals -/

/-- No numeral goes on here. -/
def NumeralEnds (bs : List UInt8) : Prop :=
  ∀ b ∈ bs.head?, isDigit b = false ∧ b ≠ ascii '.' ∧ b ≠ ascii 'e' ∧ b ≠ ascii 'E'

theorem digit_byte : ∀ d < 10, isDigit (UInt8.ofNat ('0'.toNat + d)) ∧
    digitValue (UInt8.ofNat ('0'.toNat + d)) = d := by
  decide

namespace Numeral

theorem digitsOf_append {ds : List Nat} (hds : ∀ d ∈ ds, d < 10) {rest : List UInt8}
    (hrest : ∀ b ∈ rest.head?, isDigit b = false) :
    digitsOf (digitBytes ds ++ rest) = (ds, rest) := by
  induction ds with
  | nil =>
    cases rest with
    | nil => rfl
    | cons b rest =>
      have hb := Bool.eq_false_iff.mp (hrest b rfl)
      rw [digitBytes, List.map_nil, List.nil_append, digitsOf, List.takeWhile_cons_of_neg hb,
        List.dropWhile_cons_of_neg hb, List.map_nil]
  | cons d ds ih =>
    obtain ⟨hd, hds⟩ := List.forall_mem_cons.mp hds
    obtain ⟨hdigit, hvalue⟩ := digit_byte d hd
    obtain ⟨htake, hdrop⟩ := Prod.mk.inj (ih hds)
    rw [digitBytes, List.map_cons, List.cons_append, digitsOf, List.takeWhile_cons_of_pos hdigit,
      List.dropWhile_cons_of_pos hdigit, List.map_cons, hvalue, ← digitBytes, htake, hdrop]

theorem minusOf_of_ne {bs : List UInt8} (h : ∀ b ∈ bs.head?, b ≠ ascii '-') :
    minusOf bs = (false, bs) := by
  cases bs with
  | nil => rfl
  | cons b bs => rw [minusOf, if_neg (by simpa using h b rfl)]

theorem head?_digitBytes {ds : List Nat} (hne : ds ≠ []) (hds : ∀ d ∈ ds, d < 10)
    (rest : List UInt8) : ∀ b ∈ (digitBytes ds ++ rest).head?, isDigit b := by
  cases ds with
  | nil => exact absurd rfl hne
  | cons d ds =>
    rintro _ ⟨⟩
    exact (digit_byte d (hds d List.mem_cons_self)).1

theorem ne_of_isDigit {b c : UInt8} (hb : isDigit b) (hc : isDigit c = false) : b ≠ c := by
  rintro rfl
  exact nomatch hb.symm.trans hc

theorem signOf_append {negative : Bool} {sign : List UInt8} (h : Sign negative sign) {ds : List Nat}
    (hne : ds ≠ []) (hds : ∀ d ∈ ds, d < 10) (rest : List UInt8) :
    signOf (sign ++ (digitBytes ds ++ rest)) = (negative, digitBytes ds ++ rest) := by
  cases h with
  | plus => rfl
  | minus => rfl
  | none =>
    have hhead := head?_digitBytes hne hds rest
    rw [List.nil_append]
    generalize digitBytes ds ++ rest = bs at hhead
    cases bs with
    | nil => rfl
    | cons b bs =>
      have hplus : b ≠ ascii '+' := ne_of_isDigit (hhead b rfl) (by decide)
      rw [signOf, if_neg (by simpa using hplus), minusOf_of_ne]
      exact fun b hb => ne_of_isDigit (hhead b hb) (by decide)

end Numeral

open Numeral

theorem Fraction.fractionOf_eq {ds : List Nat} {bs : List UInt8} (h : Fraction ds bs)
    {rest : List UInt8} (hrest : ∀ b ∈ rest.head?, isDigit b = false ∧ b ≠ ascii '.') :
    fractionOf (bs ++ rest) = some (ds, rest) := by
  cases h with
  | none =>
    cases rest with
    | nil => rfl
    | cons b rest =>
      rw [List.nil_append, fractionOf, if_neg (by simpa using (hrest b rfl).2)]
  | digits nonempty digits =>
    rw [List.cons_append, fractionOf, if_pos (by decide),
      digitsOf_append digits fun b hb => (hrest b hb).1, if_neg (by simpa using nonempty)]

theorem Exponent.exponentOf_eq {e : Option Int} {bs : List UInt8} (h : Exponent e bs)
    {rest : List UInt8} (hrest : NumeralEnds rest) : exponentOf (bs ++ rest) = some (e, rest) := by
  cases h with
  | none =>
    cases rest with
    | nil => rfl
    | cons b rest =>
      obtain ⟨-, -, he, hE⟩ := hrest b rfl
      rw [List.nil_append, exponentOf, if_neg (by simpa using ⟨he, hE⟩)]
  | digits letter_e sign_written nonempty digits =>
    rw [List.append_assoc, List.cons_append, exponentOf, if_pos (by simpa using letter_e),
      signOf_append sign_written nonempty digits]
    dsimp only
    rw [digitsOf_append digits fun b hb => (hrest b hb).1, if_neg (by simpa using nonempty)]

/-- What follows a whole part is no digit, and what follows a fraction no point. -/
theorem Exponent.head?_append {e : Option Int} {bs : List UInt8} (h : Exponent e bs)
    {rest : List UInt8} (hrest : NumeralEnds rest) :
    ∀ b ∈ (bs ++ rest).head?, isDigit b = false ∧ b ≠ ascii '.' := by
  cases h with
  | none => exact fun b hb => ⟨(hrest b hb).1, (hrest b hb).2.1⟩
  | digits letter_e =>
    rintro _ ⟨⟩
    rcases letter_e with rfl | rfl <;> decide

theorem Fraction.head?_append {ds : List Nat} {bs : List UInt8} (h : Fraction ds bs)
    {rest : List UInt8} (hrest : ∀ b ∈ rest.head?, isDigit b = false ∧ b ≠ ascii '.') :
    ∀ b ∈ (bs ++ rest).head?, isDigit b = false := by
  cases h with
  | none => exact fun b hb => (hrest b hb).1
  | digits =>
    rintro _ ⟨⟩
    decide

/-- **Numerals are read** as the numerals that they are. -/
theorem Numeral.Written.read?_eq {n : Numeral} {bs : List UInt8} (h : n.Written bs)
    {rest : List UInt8} (hrest : NumeralEnds rest) : read? (bs ++ rest) = some (n, rest) := by
  cases h with
  | @mk negative whole fraction exponent fractionBytes exponentBytes nonempty digits no_zero
      fraction_written exponent_written =>
    have hexponent := exponent_written.head?_append hrest
    have hfraction := fraction_written.head?_append hexponent
    have hminus : minusOf ((if negative then [ascii '-'] else []) ++
        (digitBytes whole ++ (fractionBytes ++ (exponentBytes ++ rest)))) =
          (negative, digitBytes whole ++ (fractionBytes ++ (exponentBytes ++ rest))) := by
      cases negative with
      | true => rfl
      | false =>
        exact minusOf_of_ne fun b hb =>
          ne_of_isDigit (head?_digitBytes nonempty digits _ b hb) (by decide)
    have hwhole : (whole.isEmpty || (whole.head? == some 0 && decide (1 < whole.length))) =
        false := by
      rw [Bool.or_eq_false_iff, Bool.and_eq_false_iff, List.isEmpty_eq_false_iff,
        decide_eq_false_iff_not, beq_eq_false_iff_ne]
      refine ⟨nonempty, ?_⟩
      by_cases hzero : whole.head? = some 0
      · exact .inr (by rw [no_zero hzero]; decide)
      · exact .inl hzero
    simp only [List.append_assoc]
    rw [read?, hminus]
    dsimp only
    rw [digitsOf_append digits hfraction, hwhole]
    dsimp only
    rw [if_neg Bool.false_ne_true, fraction_written.fractionOf_eq hexponent, Option.bind_some,
      exponent_written.exponentOf_eq hrest, Option.map_some]

/-! ## Passing over values -/

/-- Here a value is at its end: there is white space, a comma or a closing bracket, if anything. -/
def Delimited (bs : List UInt8) : Prop :=
  ∀ b ∈ bs.head?, isSpace b ∨ b = ascii ',' ∨ ∃ br : Bracket, b = br.close

theorem isSpace_iff {b : UInt8} :
    isSpace b ↔ b = 0x20 ∨ b = 0x0A ∨ b = 0x0D ∨ b = 0x09 := by
  simp only [isSpace, Bool.or_eq_true, beq_iff_eq, or_assoc]

theorem Delimited.numeralEnds {bs : List UInt8} (h : Delimited bs) : NumeralEnds bs := by
  intro b hb
  rcases h b hb with hspace | rfl | ⟨br, rfl⟩
  · rcases isSpace_iff.mp hspace with rfl | rfl | rfl | rfl <;> decide
  · decide
  · cases br <;> decide

theorem delimited_append {space : List UInt8} (h : Blank space) {bs : List UInt8}
    (hbs : Delimited bs) : Delimited (space ++ bs) := by
  cases space with
  | nil => exact hbs
  | cons b space =>
    rintro _ ⟨⟩
    exact .inl (h b List.mem_cons_self)

section

variable {stack outer : List Bracket} {br : Bracket} {b : UInt8} {bs rest : List UInt8}

theorem skipFrom?_wanted (h : skipSpace bs = b :: rest) : skipFrom? .wanted stack bs =
    if b == ascii '[' then skipFrom? .opened (.list :: stack) rest
    else if b == 0x7B then skipFrom? .opened (.object :: stack) rest
    else (skipScalar? b rest).bind (skipFrom? .ended stack) := by
  rw [skipFrom?]
  split
  · next hnil => exact absurd (h.symm.trans hnil) (List.cons_ne_nil _ _)
  · next hcons =>
    obtain ⟨rfl, rfl⟩ := List.cons.inj (h.symm.trans hcons)
    split
    · rfl
    split
    · rfl
    split
    · next hnone => rw [hnone, Option.bind_none]
    · next hsome => rw [hsome, Option.bind_some]

/-- Goes on from in front of an item between these brackets. -/
def skipItem? (br : Bracket) (outer : List Bracket) (bs : List UInt8) : Option (List UInt8) :=
  (skipLabel? br bs).bind (skipFrom? .wanted (br :: outer))

theorem skipFrom?_opened (h : skipSpace bs = b :: rest) : skipFrom? .opened (br :: outer) bs =
    if b == br.close then skipFrom? .ended outer rest else skipItem? br outer (b :: rest) := by
  rw [skipFrom?]
  split
  · next hnil => exact absurd (h.symm.trans hnil) (List.cons_ne_nil _ _)
  · next hcons =>
    obtain ⟨rfl, rfl⟩ := List.cons.inj (h.symm.trans hcons)
    split
    · rfl
    rw [skipItem?]
    split
    · next hnone => rw [hnone, Option.bind_none]
    · next hsome => rw [hsome, Option.bind_some]

theorem skipFrom?_ended (h : skipSpace bs = b :: rest) : skipFrom? .ended (br :: outer) bs =
    if b == br.close then skipFrom? .ended outer rest
    else if b == ascii ',' then skipItem? br outer rest
    else none := by
  rw [skipFrom?]
  split
  · next hnil => exact absurd (h.symm.trans hnil) (List.cons_ne_nil _ _)
  · next hcons =>
    obtain ⟨rfl, rfl⟩ := List.cons.inj (h.symm.trans hcons)
    split
    · rfl
    split
    · rw [skipItem?]
      split
      · next hnone => rw [hnone, Option.bind_none]
      · next hsome => rw [hsome, Option.bind_some]
    · rfl

/-- Only the white space in front of a value may be different. -/
theorem skipFrom?_wanted_congr {bs' : List UInt8} (h : skipSpace bs = skipSpace bs') :
    skipFrom? .wanted stack bs = skipFrom? .wanted stack bs' := by
  cases hbs : skipSpace bs with
  | nil =>
    have hnone {bs : List UInt8} (hbs : skipSpace bs = []) : skipFrom? .wanted stack bs = none := by
      rw [skipFrom?]
      split
      · rfl
      · next hcons => exact absurd (hcons.symm.trans hbs) (List.cons_ne_nil _ _)
    rw [hnone hbs, hnone (h ▸ hbs)]
  | cons b rest => rw [skipFrom?_wanted hbs, skipFrom?_wanted (h ▸ hbs)]

theorem skipItem?_skipSpace : skipItem? br outer (skipSpace bs) = skipItem? br outer bs := by
  cases br with
  | list => exact skipFrom?_wanted_congr (skipSpace_skipSpace bs)
  | object => rw [skipItem?, skipItem?, skipLabel?, skipLabel?, skipName?, skipName?,
      skipSpace_skipSpace]

theorem Label.skipLabel?_eq {label : List UInt8} (h : Label br label) :
    skipLabel? br (label ++ rest) = some rest := by
  cases h with
  | list => rfl
  | @object before name after space_before quoted space_after =>
    simp only [List.append_assoc, List.cons_append, List.nil_append]
    rw [skipLabel?, skipName?, skipSpace_append space_before, skipSpace_cons (by decide)]
    dsimp only
    rw [if_pos (by decide), quoted.skipString?_eq, Option.bind_some, skipSpace_append space_after,
      skipSpace_cons (by decide)]
    rfl

theorem skipWord?_append (word rest : List UInt8) : skipWord? word (word ++ rest) = some rest := by
  rw [skipWord?, List.take_left, if_pos (beq_self_eq_true _), List.drop_left]

/-- A numeral begins with a minus sign or a digit. -/
theorem Numeral.Written.exists_cons {n : Numeral} (h : n.Written bs) :
    ∃ b t, bs = b :: t ∧ startsNumeral b := by
  cases h with
  | @mk negative whole fraction exponent fractionBytes exponentBytes nonempty digits =>
    cases negative with
    | true => exact ⟨ascii '-', _, rfl, rfl⟩
    | false =>
      cases whole with
      | nil => exact absurd rfl nonempty
      | cons d ds =>
        refine ⟨UInt8.ofNat ('0'.toNat + d), _, rfl, ?_⟩
        rw [startsNumeral, (digit_byte d (digits d List.mem_cons_self)).1, Bool.or_true]

theorem skipScalar?_of_numeral {n : Numeral} (h : n.Written (b :: bs)) (hrest : Delimited rest) :
    skipScalar? b (bs ++ rest) = some rest := by
  obtain ⟨b, t, heq, hstarts⟩ := h.exists_cons
  obtain ⟨rfl, rfl⟩ := List.cons.inj heq
  have hquote : b ≠ ascii '"' := by
    rintro rfl
    exact absurd hstarts (by decide)
  rw [skipScalar?, if_neg (by simpa using hquote), if_pos hstarts, ← List.cons_append,
    h.read?_eq hrest.numeralEnds, Option.map_some]

/-- A word that is a value is told by its first letter. -/
theorem words_cases (h : bs ∈ words) : ∃ b word, bs = b :: word ∧ wordAfter? b = some word ∧
    b ≠ ascii '"' ∧ startsNumeral b = false := by
  simp only [words, List.map_cons, List.map_nil, List.mem_cons, List.not_mem_nil, or_false] at h
  rcases h with rfl | rfl | rfl
  · exact ⟨ascii 'n', "ull".toList.map ascii, by decide⟩
  · exact ⟨ascii 't', "rue".toList.map ascii, by decide⟩
  · exact ⟨ascii 'f', "alse".toList.map ascii, by decide⟩

theorem skipScalar?_of_word (h : b :: bs ∈ words) : skipScalar? b (bs ++ rest) = some rest := by
  obtain ⟨b, word, heq, hword, hquote, hstarts⟩ := words_cases h
  obtain ⟨rfl, rfl⟩ := List.cons.inj heq
  rw [skipScalar?, if_neg (by simpa using hquote), hstarts, if_neg Bool.false_ne_true, hword,
    Option.bind_some, skipWord?_append]

/-- The byte can be the first one of a value. -/
def BeginsValue (b : UInt8) : Prop := isSpace b = false ∧ ∀ br : Bracket, b ≠ br.close

theorem beginsValue_of_startsNumeral (h : startsNumeral b) : BeginsValue b := by
  have hne {c : UInt8} (hc : startsNumeral c = false) : b ≠ c := by
    rintro rfl
    exact nomatch h.symm.trans hc
  refine ⟨?_, fun br => hne (by cases br <;> decide)⟩
  rw [← Bool.not_eq_true, isSpace_iff]
  simp only [not_or]
  exact ⟨hne (by decide), hne (by decide), hne (by decide), hne (by decide)⟩

theorem beginsValue_of_words (h : b :: bs ∈ words) : BeginsValue b := by
  simp only [words, List.map_cons, List.map_nil, List.mem_cons, List.not_mem_nil, or_false] at h
  rcases h with h | h | h <;> obtain ⟨rfl, -⟩ := List.cons.inj h <;>
    exact ⟨by decide, fun br => by cases br <;> decide⟩

theorem beginsValue_opens (br : Bracket) : BeginsValue br.opens := by
  cases br <;> exact ⟨by decide, fun br => by cases br <;> decide⟩

/-- How a phrase begins: a value with a byte that tells which value it is, and contents not with the
bracket that would close them. -/
def Phrase.Begins : Phrase → List UInt8 → Prop
  | value, bs => ∃ b t, bs = b :: t ∧ BeginsValue b
  | contents br, bs => ∀ rest, ∃ b, (skipSpace (bs ++ rest)).head? = some b ∧ b ≠ br.close

theorem begins_contents {label before value tail : List UInt8} (labelled : Label br label)
    (space_before : Blank before) (item : Phrase.value.Begins value) :
    (Phrase.contents br).Begins (label ++ (before ++ (value ++ tail))) := by
  obtain ⟨b, t, rfl, hspace, hclose⟩ := item
  intro rest
  cases labelled with
  | list =>
    refine ⟨b, ?_, hclose .list⟩
    simp only [List.nil_append, List.append_assoc, List.cons_append, skipSpace_append space_before,
      skipSpace_cons hspace, List.head?_cons]
  | object space_before quoted space_after =>
    have hquote : isSpace (ascii '"') = false := by decide
    refine ⟨ascii '"', ?_, by decide⟩
    simp only [List.append_assoc, List.cons_append, skipSpace_append space_before,
      skipSpace_cons hquote, List.head?_cons]

theorem Derives.begins {phrase : Phrase} (h : Derives phrase bs) : phrase.Begins bs := by
  induction h with
  | text quoted => exact ⟨_, _, rfl, by decide, fun br => by cases br <;> decide⟩
  | numeral written =>
    obtain ⟨b, t, rfl, hstarts⟩ := written.exists_cons
    exact ⟨b, t, rfl, beginsValue_of_startsNumeral hstarts⟩
  | word mem =>
    obtain ⟨b, word, rfl, -⟩ := words_cases mem
    exact ⟨b, word, rfl, beginsValue_of_words mem⟩
  | empty blank => exact ⟨_, _, rfl, beginsValue_opens _⟩
  | full contents ih => exact ⟨_, _, rfl, beginsValue_opens _⟩
  | last labelled space_before item space_after ih =>
    simp only [List.append_assoc]
    exact begins_contents labelled space_before ih
  | next labelled space_before item space_after others ih ih' =>
    simp only [List.append_assoc]
    exact begins_contents labelled space_before ih

/-- A phrase is passed over: a value up to where it ends, and contents up to the bracket that closes
them, with whatever brackets are open around them. -/
def Phrase.IsPassed : Phrase → List UInt8 → Prop
  | value, bs => ∀ stack rest, Delimited rest →
    skipFrom? .wanted stack (bs ++ rest) = skipFrom? .ended stack rest
  | contents br, bs => ∀ outer rest,
    skipItem? br outer (bs ++ br.close :: rest) = skipFrom? .ended outer rest

theorem isPassed_scalar (h : ∀ rest, Delimited rest → skipScalar? b (bs ++ rest) = some rest)
    (hspace : isSpace b = false) (hopens : ∀ br : Bracket, b ≠ br.opens) :
    Phrase.value.IsPassed (b :: bs) := by
  intro stack rest hrest
  have hlist : (b == ascii '[') = false := beq_eq_false_iff_ne.mpr (hopens .list)
  have hobject : (b == 0x7B) = false := beq_eq_false_iff_ne.mpr (hopens .object)
  rw [List.cons_append, skipFrom?_wanted (skipSpace_cons hspace _), hlist,
    if_neg Bool.false_ne_true, hobject, if_neg Bool.false_ne_true, h rest hrest, Option.bind_some]

theorem skipFrom?_opens (stack : List Bracket) (rest : List UInt8) :
    skipFrom? .wanted stack (br.opens :: rest) = skipFrom? .opened (br :: stack) rest := by
  cases br <;> rw [skipFrom?_wanted (skipSpace_cons (by decide) rest)] <;> rfl

theorem skipSpace_close (br : Bracket) (rest : List UInt8) :
    skipSpace (br.close :: rest) = br.close :: rest :=
  skipSpace_cons (by cases br <;> decide) rest

/-- An item is passed over up to the comma or bracket behind it. -/
theorem skipItem?_item {label before value after : List UInt8} (labelled : Label br label)
    (space_before : Blank before) (item : Phrase.value.IsPassed value) (space_after : Blank after)
    (hrest : Delimited rest) : skipItem? br outer (label ++ (before ++ (value ++ (after ++ rest)))) =
      skipFrom? .ended (br :: outer) (after ++ rest) := by
  rw [skipItem?, labelled.skipLabel?_eq, Option.bind_some,
    skipFrom?_wanted_congr (skipSpace_append space_before _),
    item _ _ (delimited_append space_after hrest)]

/-- **Values are passed over**, however deep they are nested. -/
theorem Derives.isPassed {phrase : Phrase} (h : Derives phrase bs) : phrase.IsPassed bs := by
  induction h with
  | @text inner quoted =>
    rw [List.cons_append]
    refine isPassed_scalar (fun rest _ => ?_) (by decide) fun br => by cases br <;> decide
    rw [skipScalar?, if_pos (by decide), List.append_assoc, List.singleton_append,
      quoted.skipString?_eq]
  | numeral written =>
    obtain ⟨b, t, rfl, hstarts⟩ := written.exists_cons
    refine isPassed_scalar (fun rest => skipScalar?_of_numeral written)
      (beginsValue_of_startsNumeral hstarts).1 fun br => ?_
    rintro rfl
    cases br <;> exact absurd hstarts (by decide)
  | word mem =>
    obtain ⟨b, word, rfl, hword, -⟩ := words_cases mem
    refine isPassed_scalar (fun rest _ => skipScalar?_of_word mem) (beginsValue_of_words mem).1
      fun br => ?_
    have hopens : wordAfter? br.opens = none := by cases br <;> rfl
    rintro rfl
    exact nomatch hopens.symm.trans hword
  | @empty br space blank =>
    intro stack rest _
    have hspace : skipSpace (space ++ br.close :: rest) = br.close :: rest := by
      rw [skipSpace_append blank, skipSpace_close]
    rw [List.cons_append, List.cons_append, List.append_assoc, List.singleton_append,
      skipFrom?_opens,
      skipFrom?_opened hspace, if_pos (beq_self_eq_true _)]
  | @full br bs contents ih =>
    intro stack rest _
    obtain ⟨b, hfirst, hclose⟩ := contents.begins (br.close :: rest)
    obtain ⟨t, hhead⟩ := List.head?_eq_some_iff.mp hfirst
    rw [List.cons_append, List.cons_append, List.append_assoc, List.singleton_append,
      skipFrom?_opens,
      skipFrom?_opened hhead, if_neg (by simpa using hclose), ← hhead, skipItem?_skipSpace, ih]
  | @last br label before value after labelled space_before item space_after ih =>
    intro outer rest
    have hclose : Delimited (br.close :: rest) := by
      rintro _ ⟨⟩
      exact .inr (.inr ⟨br, rfl⟩)
    have hspace : skipSpace (after ++ br.close :: rest) = br.close :: rest := by
      rw [skipSpace_append space_after, skipSpace_close]
    simp only [List.append_assoc]
    rw [skipItem?_item labelled space_before ih space_after hclose, skipFrom?_ended hspace,
      if_pos (beq_self_eq_true _)]
  | @next br label before value after others labelled space_before item space_after _ ih ih' =>
    intro outer rest
    have hcomma : Delimited (ascii ',' :: (others ++ br.close :: rest)) := by
      rintro _ ⟨⟩
      exact .inr (.inl rfl)
    have hspace : skipSpace (after ++ ascii ',' :: (others ++ br.close :: rest)) =
        ascii ',' :: (others ++ br.close :: rest) := by
      rw [skipSpace_append space_after, skipSpace_cons (by decide)]
    simp only [List.append_assoc, List.cons_append]
    rw [skipItem?_item labelled space_before ih space_after hcomma, skipFrom?_ended hspace,
      if_neg (by cases br <;> decide), if_pos (beq_self_eq_true _), ih']

theorem skipValue?_of_isValue {space value : List UInt8} (hspace : Blank space)
    (h : IsValue value) (hrest : Delimited rest) : skipValue? (space ++ (value ++ rest)) = some rest := by
  rw [skipValue?, skipFrom?_wanted_congr (skipSpace_append hspace _), h.isPassed _ _ hrest, skipFrom?]

end

end LeaseDesk.Json
