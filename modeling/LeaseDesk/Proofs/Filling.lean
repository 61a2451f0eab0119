import LeaseDesk.Proofs.Doubles
import LeaseDesk.Proofs.JsonReading

/-!
# How forms are filled in

A form is a list of fields, and a body fills it in if it is an object that gives every field that has
to be given once and none twice (`Gives`). Nothing else about the object matters: not the order of its
members, not how they are written, and not what other members there are. This is what decoding comes
to (`decode_finds`): it finds the values that the object gives, and if it gives none, the body is
mismatched and not malformed.

The members are taken one by one, and between two of them there are slots that are filled and slots that
are not. `GivesFrom` is what an object gives beyond what is in the slots already. One member takes one
slot at most (`readMember_finds`), and that is the step of the induction.
-/

namespace LeaseDesk.Json

/-! ## Forms -/

/-- An integer as it may be written: without fraction and exponent, and zero without a sign. -/
inductive SpellsInteger : Int → List UInt8 → Prop
  | mk {negative : Bool} {whole : List Nat} {bs : List UInt8}
      (written : Numeral.Written ⟨negative, whole, [], none⟩ bs)
      (no_negative_zero : negative → Numeral.valueOf whole ≠ 0) :
      SpellsInteger (if negative then -(Numeral.valueOf whole : Int) else Numeral.valueOf whole) bs

/-- The bytes are a value of the type. -/
def FieldType.Spells : (type : FieldType) → type.Value → List UInt8 → Prop
  | .text, s, bs => SpellsText s bs
  | .integer, i, bs => SpellsInteger i bs ∧ -2147483648 ≤ i ∧ i ≤ 2147483647

/-- The values of the members of a name. -/
def valuesOf (name : String) (ms : List Member) : List (List UInt8) :=
  (ms.filter fun m => m.name == name).map Member.value

/-- The field has a value: it is given once, or it is not given and falls back on the value. -/
def Field.Obtains (f : Field) (ms : List Member) (v : f.type.Value) : Prop :=
  (∃ value, valuesOf f.name ms = [value] ∧ f.type.Spells v value) ∨
    valuesOf f.name ms = [] ∧ f.fallback = some v

/-- **The members give these values to the fields.** -/
def Gives : (fs : List Field) → List Member → Values fs → Prop
  | [], _, () => True
  | f :: fs, ms, (v, vs) => f.Obtains ms v ∧ Gives fs ms vs

/-- A value that can be told to be of one type or another: its texts have to say something, and its
numerals may not be too large. -/
inductive Legible : List UInt8 → Prop
  | text {s : String} {bs : List UInt8} (spelled : SpellsText s bs) : Legible bs
  | numeral {n : Numeral} {bs : List UInt8} (written : n.Written bs)
      (not_too_large : n.isTooLarge = false) : Legible bs
  | word {bs : List UInt8} (word : bs ∈ words) : Legible bs
  | nested {br : Bracket} {bs : List UInt8} (value : IsValue (br.opens :: bs)) :
      Legible (br.opens :: bs)

/-- The value of the member is fit to be read if the member is for a field, and to be passed over if it
is not. -/
structure Member.Proper (fs : List Field) (m : Member) : Prop where
  legible : m.name ∈ fs.map Field.name → Legible m.value
  value : m.name ∉ fs.map Field.name → IsValue m.value

/-! ## Values -/

/-- What is found is the one thing that has a property, and what follows it; or nothing has the
property, and it is a mismatch. -/
inductive Finds {α : Type} (p : α → Prop) (rest : List UInt8) :
    Except Refusal (α × List UInt8) → Prop
  | found {a : α} (only : ∀ b, p b ↔ b = a) : Finds p rest (.ok (a, rest))
  | nothing (none : ∀ b, ¬ p b) : Finds p rest (.error .mismatched)

theorem Finds.congr {α : Type} {p q : α → Prop} {rest : List UInt8}
    {result : Except Refusal (α × List UInt8)} (h : Finds p rest result) (hpq : ∀ a, q a ↔ p a) :
    Finds q rest result := by
  cases h with
  | found only => exact .found fun b => (hpq b).trans (only b)
  | nothing none => exact .nothing fun b => mt (hpq b).mp (none b)

section

variable {b : UInt8} {bs space value rest : List UInt8} {s : String} {i : Int}

theorem SpellsText.unique {t : String} (h : SpellsText s bs) (h' : SpellsText t bs) : t = s := by
  obtain ⟨inner, hinner, rfl⟩ := h
  obtain ⟨inner', hinner', heq⟩ := h'
  rw [List.cons_append, List.cons_append] at heq
  have hread := readText?_of_spells hinner []
  rw [List.tail_eq_of_cons_eq heq, readText?_of_spells hinner' []] at hread
  exact (Prod.mk.inj (Option.some.inj hread)).1

theorem numeralEnds_nil : NumeralEnds [] := fun _ h => nomatch h

theorem Numeral.Written.unique {n n' : Numeral} (h : n.Written bs) (h' : n'.Written bs) : n' = n := by
  have hread := h.read?_eq numeralEnds_nil
  rw [h'.read?_eq numeralEnds_nil] at hread
  exact (Prod.mk.inj (Option.some.inj hread)).1

theorem integer?_filter_plain {negative : Bool} {whole : List Nat} :
    (Numeral.mk negative whole [] none).integer?.filter isInt32 = some i ↔
      (negative → Numeral.valueOf whole ≠ 0) ∧
        i = (if negative then -(Numeral.valueOf whole : Int) else Numeral.valueOf whole) ∧
        -2147483648 ≤ i ∧ i ≤ 2147483647 := by
  rw [Option.filter_eq_some_iff, Numeral.integer?]
  simp only [List.isEmpty_nil, Bool.not_true, Option.isSome_none, Bool.or_self, isInt32,
    Bool.and_eq_true, decide_eq_true_eq]
  generalize Numeral.valueOf whole = v
  cases negative with
  | true =>
    simp only [if_true, Bool.false_eq_true, if_false, Bool.or_eq_true, beq_iff_eq,
      decide_eq_true_eq, Option.ite_none_left_eq_some, Option.some.injEq, forall_const]
    omega
  | false =>
    simp only [Bool.false_eq_true, if_false, Option.ite_none_left_eq_some, Option.some.injEq,
      false_implies, true_and]
    rw [Numeral.largestSignificand]
    omega

/-- A numeral denotes an integer of 32 bits if it is one way to write it. -/
theorem integer?_filter_eq_some_iff {n : Numeral} (h : n.Written bs) :
    n.integer?.filter isInt32 = some i ↔ FieldType.integer.Spells i bs := by
  constructor
  · intro hi
    obtain ⟨negative, whole, fraction, exponent⟩ := n
    have hplain : fraction = [] ∧ exponent = none := by
      by_contra hcontra
      rw [Numeral.integer?, if_pos] at hi
      · exact nomatch hi
      · cases fraction <;> cases exponent <;> simp at hcontra ⊢
    obtain ⟨rfl, rfl⟩ := hplain
    obtain ⟨no_negative_zero, rfl, hrange⟩ := integer?_filter_plain.mp hi
    exact ⟨.mk h no_negative_zero, hrange⟩
  · rintro ⟨⟨written, no_negative_zero⟩, hrange⟩
    obtain rfl := h.unique written
    exact integer?_filter_plain.mpr ⟨no_negative_zero, rfl, hrange⟩

theorem Numeral.Written.digits {n : Numeral} (h : n.Written bs) :
    (∀ d ∈ n.whole, d < 10) ∧ ∀ d ∈ n.fraction, d < 10 := by
  cases h with
  | mk nonempty digits no_zero fraction_written exponent_written =>
    refine ⟨digits, ?_⟩
    cases fraction_written with
    | none => exact nofun
    | digits nonempty digits => exact digits

theorem legible_of_spells {type : FieldType} {v : type.Value} (h : type.Spells v bs) :
    Legible bs := by
  cases type with
  | text => exact .text h
  | integer =>
    obtain ⟨hinteger, hrange⟩ := h
    cases hinteger with
    | @mk negative whole _ written no_negative_zero =>
      have hsafe : (2147483648 : ℚ) ≤ safeMagnitude := by
        have hle : 2147483648 ≤ safeMagnitude := by decide +kernel
        exact_mod_cast hle
      have hwhole : Numeral.valueOf whole ≤ 2147483648 := by
        cases negative <;> simp at hrange <;> omega
      refine .numeral written (Numeral.isTooLarge_eq_false written.digits.1 nofun ?_)
      refine le_trans ?_ hsafe
      rw [Numeral.magnitude, List.append_nil, Option.getD_none, List.length_nil, Int.natCast_zero,
        Int.sub_zero, zpow_zero, mul_one]
      exact_mod_cast hwhole

theorem Legible.isValue (h : Legible bs) : IsValue bs := by
  cases h with
  | text spelled =>
    obtain ⟨inner, hinner, rfl⟩ := spelled
    exact .text hinner.quoted
  | numeral written => exact .numeral written
  | word word => exact .word word
  | nested value => exact value

/-- A legible value is told by its first byte. -/
theorem Legible.cases_head (h : Legible (b :: bs)) :
    (b = ascii '"' ∧ ∃ s, SpellsText s (b :: bs)) ∨
      (startsNumeral b ∧ ∃ n : Numeral, n.Written (b :: bs) ∧ n.isTooLarge = false) ∨
      (∃ word, wordAfter? b = some word ∧ bs = word ∧ b ≠ ascii '"' ∧ startsNumeral b = false) ∨
      ∃ br : Bracket, b = br.opens := by
  generalize hvalue : b :: bs = value at h
  cases h with
  | text spelled =>
    obtain ⟨inner, hinner, rfl⟩ := id spelled
    exact .inl ⟨(List.cons.inj hvalue).1, _, spelled⟩
  | numeral written not_too_large =>
    obtain ⟨_, _, rfl, hstarts⟩ := written.exists_cons
    obtain ⟨rfl, rfl⟩ := List.cons.inj hvalue
    exact .inr (.inl ⟨hstarts, _, written, not_too_large⟩)
  | word mem =>
    obtain ⟨_, word, rfl, hword⟩ := words_cases mem
    obtain ⟨rfl, rfl⟩ := List.cons.inj hvalue
    exact .inr (.inr (.inl ⟨_, hword.1, rfl, hword.2⟩))
  | @nested br => exact .inr (.inr (.inr ⟨br, (List.cons.inj hvalue).1⟩))

theorem startsNumeral_quote : startsNumeral (ascii '"') = false := by decide

theorem opens_ne (br : Bracket) : br.opens ≠ ascii '"' ∧ startsNumeral br.opens = false := by
  cases br <;> decide

/-- A legible value of another type than wanted is a mismatch. -/
theorem refuse_eq (h : Legible (b :: bs)) (hrest : Delimited rest) :
    refuse b (bs ++ rest) = .mismatched := by
  rcases h.cases_head with ⟨rfl, s, hs⟩ | ⟨hstarts, n, hn, hsmall⟩ |
    ⟨word, hword, rfl, hquote, hstarts⟩ | ⟨br, rfl⟩
  · obtain ⟨inner, hinner, heq⟩ := hs
    rw [List.cons_append] at heq
    rw [refuse, if_pos (by decide), List.tail_eq_of_cons_eq heq, List.append_assoc,
      List.singleton_append, readText?_of_spells hinner,
      Option.isSome_some, if_pos rfl]
  · have hquote : b ≠ ascii '"' := by
      rintro rfl
      exact nomatch hstarts.symm.trans startsNumeral_quote
    rw [refuse, if_neg (by simpa using hquote), if_pos hstarts, ← List.cons_append,
      hn.read?_eq hrest.numeralEnds]
    show refuseNumeral n = .mismatched
    rw [refuseNumeral, hsmall, if_neg Bool.false_ne_true]
  · have hopens : (b == ascii '[' || b == 0x7B) = false := by
      rw [Bool.or_eq_false_iff, beq_eq_false_iff_ne, beq_eq_false_iff_ne]
      constructor <;>
      · rintro rfl
        exact nomatch hword
    rw [refuse, if_neg (by simpa using hquote), hstarts, if_neg Bool.false_ne_true, hopens,
      if_neg Bool.false_ne_true, hword, Option.bind_some, skipWord?_append, Option.isSome_some,
      if_pos rfl]
  · cases br <;> rfl

theorem Legible.exists_cons (h : Legible value) : ∃ b bs, value = b :: bs ∧ isSpace b = false := by
  cases h with
  | text spelled =>
    obtain ⟨inner, -, rfl⟩ := spelled
    exact ⟨_, _, rfl, by decide⟩
  | numeral written =>
    obtain ⟨b, bs, rfl, hstarts⟩ := written.exists_cons
    exact ⟨b, bs, rfl, (beginsValue_of_startsNumeral hstarts).1⟩
  | word mem =>
    obtain ⟨b, word, rfl, -⟩ := words_cases mem
    exact ⟨b, word, rfl, (beginsValue_of_words mem).1⟩
  | nested => exact ⟨_, _, rfl, (beginsValue_opens _).1⟩

theorem readString_finds (h : Legible (b :: bs)) (hrest : Delimited rest) :
    Finds (fun s => SpellsText s (b :: bs)) rest (readString b (bs ++ rest)) := by
  by_cases hquote : b = ascii '"'
  · obtain ⟨s, hs⟩ : ∃ s, SpellsText s (b :: bs) := by
      rcases h.cases_head with ⟨-, hs⟩ | ⟨hstarts, -⟩ | ⟨-, -, -, hne, -⟩ | ⟨br, hbr⟩
      · exact hs
      · rw [hquote, startsNumeral_quote] at hstarts
        exact nomatch hstarts
      · exact absurd hquote hne
      · exact absurd (hbr.symm.trans hquote) (opens_ne br).1
    have hread : readText? (bs ++ rest) = some (s, rest) := by
      obtain ⟨inner, hinner, heq⟩ := id hs
      rw [List.cons_append] at heq
      rw [List.tail_eq_of_cons_eq heq, List.append_assoc, List.singleton_append,
        readText?_of_spells hinner]
    rw [readString, if_pos (by simpa using hquote), hread]
    refine .found fun t => ⟨hs.unique, ?_⟩
    rintro rfl
    exact hs
  · rw [readString, if_neg (by simpa using hquote), refuse_eq h hrest]
    refine .nothing fun s hs => ?_
    obtain ⟨inner, -, heq⟩ := hs
    exact hquote (List.head_eq_of_cons_eq heq)

theorem readInteger_finds (h : Legible (b :: bs)) (hrest : Delimited rest) :
    Finds (fun i => FieldType.integer.Spells i (b :: bs)) rest (readInteger b (bs ++ rest)) := by
  by_cases hstarts : startsNumeral b
  · obtain ⟨n, hn, hsmall⟩ : ∃ n : Numeral, n.Written (b :: bs) ∧ n.isTooLarge = false := by
      rcases h.cases_head with ⟨rfl, -⟩ | ⟨-, hn⟩ | ⟨-, -, -, -, hne⟩ | ⟨br, rfl⟩
      · exact nomatch hstarts.symm.trans startsNumeral_quote
      · exact hn
      · exact nomatch hstarts.symm.trans hne
      · exact nomatch hstarts.symm.trans (opens_ne br).2
    have hread : Numeral.read? (b :: (bs ++ rest)) = some (n, rest) := hn.read?_eq hrest.numeralEnds
    rw [readInteger, if_pos hstarts, hread]
    dsimp only
    cases hint : n.integer?.filter isInt32 with
    | some i =>
      refine .found fun j => ?_
      rw [← integer?_filter_eq_some_iff hn, hint, Option.some.injEq]
      exact eq_comm
    | none =>
      rw [refuseNumeral, hsmall]
      refine .nothing fun j hj => ?_
      exact nomatch hint.symm.trans ((integer?_filter_eq_some_iff hn).mpr hj)
  · rw [readInteger, if_neg hstarts, refuse_eq h hrest]
    refine .nothing fun i hi => ?_
    obtain ⟨⟨written, -⟩, -⟩ := hi
    obtain ⟨_, _, heq, hfirst⟩ := written.exists_cons
    exact hstarts (List.head_eq_of_cons_eq heq ▸ hfirst)

/-- **Values are found** if they are of the type that is wanted, and are a mismatch otherwise. -/
theorem readValue_finds {type : FieldType} (hspace : Blank space) (h : Legible value)
    (hrest : Delimited rest) :
    Finds (fun v => type.Spells v value) rest (readValue type (space ++ (value ++ rest))) := by
  obtain ⟨b, bs, rfl, hb⟩ := h.exists_cons
  rw [readValue, skipSpace_append hspace, List.cons_append, skipSpace_cons hb]
  cases type with
  | text => exact readString_finds h hrest
  | integer => exact readInteger_finds h hrest

end

/-! ## Members -/

/-- What the field has in the end, given what is in its slot: nothing may be added to a slot that is
filled. -/
def Field.ObtainsFrom (f : Field) : Option f.type.Value → List Member → f.type.Value → Prop
  | none, ms, v => f.Obtains ms v
  | some w, ms, v => valuesOf f.name ms = [] ∧ v = w

/-- The slots and the members give these values to the fields. -/
def GivesFrom : (fs : List Field) → Slots fs → List Member → Values fs → Prop
  | [], (), _, () => True
  | f :: fs, (slot, slots), ms, (v, vs) => f.ObtainsFrom slot ms v ∧ GivesFrom fs slots ms vs

section

variable {fs : List Field} {slots : Slots fs} {vs : Values fs} {m : Member} {ms : List Member}
  {name : String} {bs colon space rest : List UInt8}

theorem givesFrom_noSlots : GivesFrom fs (noSlots fs) ms vs ↔ Gives fs ms vs := by
  induction fs with
  | nil => exact Iff.rfl
  | cons f fs ih => exact and_congr_right fun _ => ih

theorem valuesOf_cons_of_eq (h : m.name = name) :
    valuesOf name (m :: ms) = m.value :: valuesOf name ms := by
  rw [valuesOf, List.filter_cons, if_pos (beq_iff_eq.mpr h), List.map_cons, ← valuesOf]

theorem valuesOf_cons_of_ne (h : m.name ≠ name) : valuesOf name (m :: ms) = valuesOf name ms := by
  rw [valuesOf, List.filter_cons, if_neg (mt beq_iff_eq.mp h), ← valuesOf]

theorem obtainsFrom_cons_of_ne {f : Field} (h : m.name ≠ f.name) {slot : Option f.type.Value}
    {v : f.type.Value} : f.ObtainsFrom slot (m :: ms) v ↔ f.ObtainsFrom slot ms v := by
  cases slot with
  | none => rw [Field.ObtainsFrom, Field.ObtainsFrom, Field.Obtains, Field.Obtains,
      valuesOf_cons_of_ne h]
  | some w => rw [Field.ObtainsFrom, Field.ObtainsFrom, valuesOf_cons_of_ne h]

/-- A member that is not for a field changes nothing. -/
theorem givesFrom_cons_of_notMem (h : m.name ∉ fs.map Field.name) :
    GivesFrom fs slots (m :: ms) vs ↔ GivesFrom fs slots ms vs := by
  induction fs with
  | nil => exact Iff.rfl
  | cons f fs ih =>
    rw [List.map_cons, List.mem_cons, not_or] at h
    exact and_congr (obtainsFrom_cons_of_ne h.1) (ih h.2)

/-- A slot that is filled is not filled again. -/
theorem not_obtainsFrom_some {f : Field} (h : m.name = f.name) {w v : f.type.Value} :
    ¬ f.ObtainsFrom (some w) (m :: ms) v := by
  rintro ⟨hnil, -⟩
  rw [valuesOf_cons_of_eq h] at hnil
  exact nomatch hnil

theorem obtainsFrom_none_cons {f : Field} (h : m.name = f.name) {v : f.type.Value} :
    f.ObtainsFrom none (m :: ms) v ↔ valuesOf f.name ms = [] ∧ f.type.Spells v m.value := by
  rw [Field.ObtainsFrom, Field.Obtains, valuesOf_cons_of_eq h]
  constructor
  · rintro (⟨value, hvalues, hspells⟩ | ⟨hnil, -⟩)
    · obtain ⟨rfl, hnil⟩ := List.cons.inj hvalues
      exact ⟨hnil, hspells⟩
    · exact nomatch hnil
  · rintro ⟨hnil, hspells⟩
    exact .inl ⟨m.value, by rw [hnil], hspells⟩

theorem pastColon_eq (hcolon : Blank colon) (rest : List UInt8) :
    pastColon (colon ++ ascii ':' :: rest) = .ok rest := by
  rw [pastColon, skipSpace_append hcolon, skipSpace_cons (by decide)]
  rfl

/-- **One member at a time.** A member fills the slot of its field, if it is for a field and the slot
is empty; then it has done its part. Otherwise it is passed over, or nothing can come of it. -/
theorem readMember_step (hdistinct : (fs.map Field.name).Nodup) (hm : m.Proper fs)
    (hcolon : Blank colon) (hspace : Blank space) (hrest : Delimited rest) (slots : Slots fs) :
    let text := colon ++ ascii ':' :: (space ++ (m.value ++ rest))
    (∃ slots', readMember fs slots m.name text = .ok (slots', rest) ∧
        ∀ ms vs, GivesFrom fs slots (m :: ms) vs ↔ GivesFrom fs slots' ms vs) ∨
      readMember fs slots m.name text = .error .mismatched ∧
        ∀ ms vs, ¬ GivesFrom fs slots (m :: ms) vs := by
  intro text
  induction fs with
  | nil =>
    refine .inl ⟨(), ?_, fun ms vs => Iff.rfl⟩
    rw [readMember, skipMember, pastColon_eq hcolon]
    dsimp only
    rw [skipValue?_of_isValue hspace (hm.value List.not_mem_nil) hrest]
  | cons f fs ih =>
    obtain ⟨slot, slots⟩ := slots
    rw [List.map_cons, List.nodup_cons] at hdistinct
    rw [readMember]
    by_cases hname : f.name = m.name
    · rw [if_pos (beq_iff_eq.mpr hname)]
      cases slot with
      | some w =>
        refine .inr ⟨rfl, fun ms vs h => not_obtainsFrom_some hname.symm h.1⟩
      | none =>
        have hothers : m.name ∉ fs.map Field.name := hname ▸ hdistinct.1
        have hlegible := hm.legible (List.mem_map.mpr ⟨f, List.mem_cons_self, hname⟩)
        have hfinds : Finds (fun v => f.type.Spells v m.value) rest
            (readValue f.type (space ++ (m.value ++ rest))) := readValue_finds hspace hlegible hrest
        rw [Option.isSome_none, if_neg Bool.false_ne_true, pastColon_eq hcolon]
        dsimp only
        generalize readValue f.type (space ++ (m.value ++ rest)) = result at hfinds
        cases hfinds with
        | @found v only =>
          refine .inl ⟨(some v, slots), rfl, fun ms vs => ?_⟩
          refine and_congr ?_ (givesFrom_cons_of_notMem hothers)
          rw [obtainsFrom_none_cons hname.symm, only]
          exact Iff.rfl
        | nothing none =>
          refine .inr ⟨rfl, fun ms vs h => ?_⟩
          exact none _ ((obtainsFrom_none_cons hname.symm).mp h.1).2
    · have hm' : m.Proper fs := by
        refine ⟨fun h => hm.legible (List.mem_cons_of_mem _ h), fun h => hm.value ?_⟩
        rw [List.map_cons, List.mem_cons, not_or]
        exact ⟨Ne.symm hname, h⟩
      rw [if_neg (mt beq_iff_eq.mp hname)]
      rcases ih hdistinct.2 hm' slots with ⟨slots', hread, hgives⟩ | ⟨hread, hnone⟩
      · refine .inl ⟨(slot, slots'), by rw [hread], fun ms vs => ?_⟩
        exact and_congr (obtainsFrom_cons_of_ne (Ne.symm hname)) (hgives ms vs.2)
      · exact .inr ⟨by rw [hread], fun ms vs h => hnone ms vs.2 h.2⟩

theorem orElse_eq_some_iff {f : Field} {slot : Option f.type.Value} {v : f.type.Value} :
    (slot <|> f.fallback) = some v ↔ f.ObtainsFrom slot [] v := by
  cases slot with
  | none =>
    constructor
    · exact fun h => .inr ⟨rfl, h⟩
    · rintro (⟨value, hvalues, -⟩ | ⟨-, h⟩)
      · exact nomatch hvalues
      · exact h
  | some w => exact ⟨fun h => ⟨rfl, (Option.some.inj h).symm⟩, fun h => congrArg some h.2.symm⟩

theorem complete?_eq_some_iff : complete? fs slots = some vs ↔ GivesFrom fs slots [] vs := by
  induction fs with
  | nil => exact iff_of_true rfl trivial
  | cons f fs ih =>
    obtain ⟨slot, slots⟩ := slots
    obtain ⟨v, vs⟩ := vs
    rw [GivesFrom, ← ih, ← orElse_eq_some_iff, complete?, Option.bind_eq_some_iff]
    constructor
    · rintro ⟨w, hw, hmap⟩
      obtain ⟨ws, hws, heq⟩ := Option.map_eq_some_iff.mp hmap
      obtain ⟨rfl, rfl⟩ := Prod.mk.inj heq
      exact ⟨hw, hws⟩
    · rintro ⟨hv, hvs⟩
      exact ⟨v, hv, by rw [hvs, Option.map_some]⟩

/-- At the closing bracket it shows what has been given. -/
theorem readMembers_close {first : Bool} (h : skipSpace bs = Bracket.object.close :: rest) :
    Finds (GivesFrom fs slots []) rest (readMembers fs slots first bs) := by
  rw [readMembers]
  split
  · next hnil => exact absurd (h.symm.trans hnil) (List.cons_ne_nil _ _)
  · next hcons =>
    obtain ⟨rfl, rfl⟩ := List.cons.inj (h.symm.trans hcons)
    rw [if_pos (by decide)]
    cases hcomplete : complete? fs slots with
    | some values =>
      refine .found fun vs => ?_
      rw [← complete?_eq_some_iff, hcomplete, Option.some.injEq]
      exact eq_comm
    | none =>
      refine .nothing fun vs hvs => ?_
      have hsome := hcomplete.symm.trans (complete?_eq_some_iff.mpr hvs)
      exact absurd hsome.symm (Option.some_ne_none _)

/-- What is done where a name has been read. -/
theorem readMembers_name {first : Bool} {b : UInt8} {afterLead afterQuote afterName : List UInt8}
    (hlead : skipSpace bs = b :: afterLead) (hclose : b ≠ Bracket.object.close)
    (hcomma : pastComma first (b :: afterLead) = ascii '"' :: afterQuote)
    (hname : readText? afterQuote = some (name, afterName)) :
    readMembers fs slots first bs =
      match readMember fs slots name afterName with
      | .error e => .error e
      | .ok (slots, rest) => readMembers fs slots false rest := by
  rw [readMembers]
  split
  · next hnil => exact absurd (hlead.symm.trans hnil) (List.cons_ne_nil _ _)
  next hcons =>
  obtain ⟨rfl, rfl⟩ := List.cons.inj (hlead.symm.trans hcons)
  have hb : (b == 0x7D) = false := beq_eq_false_iff_ne.mpr hclose
  rw [hb, if_neg Bool.false_ne_true]
  split
  · next hnil => exact absurd (hcomma.symm.trans hnil) (List.cons_ne_nil _ _)
  next hquote =>
  obtain ⟨rfl, rfl⟩ := List.cons.inj (hcomma.symm.trans hquote)
  rw [if_pos (beq_self_eq_true _)]
  split
  · next hnone => exact absurd (hname.symm.trans hnone) (Option.some_ne_none _)
  next hsome =>
  obtain ⟨rfl, rfl⟩ := Prod.mk.inj (Option.some.inj (hname.symm.trans hsome))
  split
  · next herror => rw [herror]
  · next hok => rw [hok]

/-- What stands in front of a member: nothing in front of the first, and a comma in front of others. -/
inductive Lead : Bool → List UInt8 → Prop
  | first : Lead true []
  | later {space : List UInt8} (blank : Blank space) : Lead false (space ++ [ascii ','])

theorem readMembers_member (fs : List Field) {first : Bool} {lead written : List UInt8} (hlead : Lead first lead)
    (hm : m.Written written) :
    ∃ colon space after, Blank colon ∧ Blank space ∧ Blank after ∧ ∀ (slots : Slots fs) rest,
      readMembers fs slots first (lead ++ (written ++ rest)) =
        match readMember fs slots m.name
          (colon ++ ascii ':' :: (space ++ (m.value ++ (after ++ rest)))) with
        | .error e => .error e
        | .ok (slots, rest) => readMembers fs slots false rest := by
  cases hm with
  | @mk _ _ value before colon space after space_before name_spelled hcolon hspace hafter =>
    obtain ⟨inner, hinner, rfl⟩ := name_spelled
    refine ⟨colon, space, after, hcolon, hspace, hafter, fun slots rest => ?_⟩
    have hname := readText?_of_spells hinner
      (colon ++ ascii ':' :: (space ++ (value ++ (after ++ rest))))
    simp only [List.append_assoc, List.cons_append, List.nil_append]
    cases hlead with
    | first =>
      refine readMembers_name (b := ascii '"') ?_ (by decide) rfl hname
      rw [List.nil_append, skipSpace_append space_before, skipSpace_cons (by decide)]
    | later blank =>
      rw [List.append_assoc, List.singleton_append]
      refine readMembers_name ((skipSpace_append blank _).trans (skipSpace_cons (by decide) _))
        (by decide) ?_ hname
      rw [pastComma, if_neg Bool.false_ne_true, if_pos (by decide), skipSpace_append space_before,
        skipSpace_cons (by decide)]

/-- **Members are taken in any order**, and written in any way. -/
theorem readMembers_finds {first : Bool} {lead : List UInt8} (hdistinct : (fs.map Field.name).Nodup)
    (h : WrittenMembers ms bs) (hms : ∀ m ∈ ms, m.Proper fs) (hlead : Lead first lead)
    (slots : Slots fs) :
    Finds (GivesFrom fs slots ms) rest
      (readMembers fs slots first (lead ++ (bs ++ Bracket.object.close :: rest))) := by
  induction h generalizing first lead slots with
  | @last m bs written =>
    obtain ⟨colon, space, after, hcolon, hspace, hafter, hread⟩ :=
      readMembers_member fs hlead written
    have hrest : Delimited (after ++ Bracket.object.close :: rest) :=
      delimited_append hafter (by rintro _ ⟨⟩; exact .inr (.inr ⟨.object, rfl⟩))
    rw [hread]
    rcases readMember_step hdistinct (hms m List.mem_cons_self) hcolon hspace hrest slots with
      ⟨slots', hmember, hgives⟩ | ⟨hmember, hnone⟩
    · rw [hmember]
      refine (readMembers_close ?_).congr (hgives [])
      rw [skipSpace_append hafter, skipSpace_close]
    · rw [hmember]
      exact .nothing (hnone [])
  | @next m ms bs others written _ ih =>
    obtain ⟨colon, space, after, hcolon, hspace, hafter, hread⟩ :=
      readMembers_member fs hlead written
    have hrest : Delimited (after ++ ascii ',' :: (others ++ Bracket.object.close :: rest)) :=
      delimited_append hafter (by rintro _ ⟨⟩; exact .inr (.inl rfl))
    rw [List.append_assoc, List.cons_append, hread]
    rcases readMember_step hdistinct (hms m List.mem_cons_self) hcolon hspace hrest slots with
      ⟨slots', hmember, hgives⟩ | ⟨hmember, hnone⟩
    · rw [hmember]
      have hothers := ih (fun m hm => hms m (List.mem_cons_of_mem _ hm)) (.later hafter) slots'
      rw [List.append_assoc, List.singleton_append] at hothers
      exact hothers.congr (hgives ms)
    · rw [hmember]
      exact .nothing (hnone ms)

/-- **Decoding.** What is decoded from an object are the values that its members give to the fields;
and if they give none, it is a mismatch. What follows the object is left alone. -/
theorem decode_finds (hdistinct : (fs.map Field.name).Nodup) (h : WrittenObject ms bs)
    (hms : ∀ m ∈ ms, m.Proper fs) (hspace : Blank space) :
    Finds (Gives fs ms) rest (decode fs (space ++ (bs ++ rest))) := by
  have hopens {text : List UInt8} : decode fs (space ++ Bracket.object.opens :: text) =
      readMembers fs (noSlots fs) true text := by
    rw [decode, skipSpace_append hspace, skipSpace_cons (by decide)]
    rfl
  have hfinds : Finds (GivesFrom fs (noSlots fs) ms) rest (decode fs (space ++ (bs ++ rest))) := by
    cases h with
    | @empty blanks hblank =>
      rw [List.append_assoc, List.cons_append, hopens]
      refine readMembers_close ?_
      rw [List.singleton_append, skipSpace_append hblank, skipSpace_close]
    | full members =>
      rw [List.append_assoc, List.cons_append, hopens, List.singleton_append]
      exact readMembers_finds hdistinct members hms .first (noSlots fs)
  exact hfinds.congr fun vs => givesFrom_noSlots.symm

end

end LeaseDesk.Json
