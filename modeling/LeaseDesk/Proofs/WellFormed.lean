import LeaseDesk.Proofs.History
import Mathlib.Data.List.DropRight

/-!
# Well-formed records

What is checked of the arguments of an operation is true of the records ever after: texts that have to
be given are there, without white space at either end, vehicles were built in years that can be, and
contracts end after they begin. Later operations keep it so. To terminate a contract is the only
revision that brings in a text, and that text is checked as well; a vehicle is returned at some time,
and deleting and restoring leave the data alone.

Nothing is assumed of the identifiers that are drawn. Where one comes up again, a well-formed record
takes the place of another.
-/

namespace LeaseDesk

open Storage

/-! ## White space -/

namespace Text

/-- The code points with the property `White_Space` in the Unicode Character Database. -/
def whiteSpace : List Nat :=
  [0x0009, 0x000A, 0x000B, 0x000C, 0x000D, 0x0020, 0x0085, 0x00A0, 0x1680,
    0x2000, 0x2001, 0x2002, 0x2003, 0x2004, 0x2005, 0x2006, 0x2007, 0x2008, 0x2009, 0x200A,
    0x2028, 0x2029, 0x202F, 0x205F, 0x3000]

/-- The text neither begins nor ends with white space. -/
def Tidy (s : String) : Prop :=
  ∀ c, s.toList.head? = some c ∨ s.toList.getLast? = some c → c.toNat ∉ whiteSpace

/-- The text is not empty, and neither begins nor ends with white space. -/
def Given (s : String) : Prop :=
  s ≠ "" ∧ Tidy s

theorem isBlank_iff (c : Char) : isBlank c ↔ c.toNat ∈ whiteSpace := by
  simp only [isBlank, whiteSpace, List.mem_cons, List.not_mem_nil, Bool.or_eq_true,
    Bool.and_eq_true, decide_eq_true_eq, beq_iff_eq, or_false]
  omega

/-- What is left after trimming does not begin with a blank. -/
theorem not_isBlank_of_head?_trimChars {cs : List Char} {c : Char}
    (h : (trimChars cs).head? = some c) : ¬ isBlank c := by
  -- trimming the end leaves the beginning as it is
  have hstart : (cs.dropWhile isBlank).head? = some c := by
    obtain ⟨rest, hrest⟩ := List.rdropWhile_prefix isBlank (cs.dropWhile isBlank)
    rw [← hrest, List.head?_append]
    exact congrArg (·.or rest.head?) h
  have hnot := List.head?_dropWhile_not isBlank cs
  rw [hstart] at hnot
  exact Bool.not_eq_true _ ▸ hnot

/-- What is left after trimming does not end with a blank. -/
theorem not_isBlank_of_getLast?_trimChars {cs : List Char} {c : Char}
    (h : (trimChars cs).getLast? = some c) : ¬ isBlank c := by
  obtain ⟨hne, rfl⟩ := List.mem_getLast?_eq_getLast h
  exact List.rdropWhile_last_not isBlank (cs.dropWhile isBlank) hne

/-- **Trimming makes texts tidy**, whatever script they are written in. -/
theorem tidy_trim (s : String) : Tidy (trim s) := by
  intro c hc
  rw [toList_trim] at hc
  rw [← isBlank_iff]
  rcases hc with hfirst | hlast
  · exact not_isBlank_of_head?_trimChars hfirst
  · exact not_isBlank_of_getLast?_trimChars hlast

end Text

theorem Filled.given {text : String} (h : Filled text) : Text.Given text := by
  obtain ⟨hne, given, rfl⟩ := h
  exact ⟨hne, Text.tidy_trim given⟩

/-! ## Records -/

/-- What is true of the data of every record. -/
def Kind.WellFormed : (kind : Kind) → kind.Data → Prop
  | .legalEntity, e => Text.Given e.name ∧ Text.Given e.taxId
  | .fleet, f => Text.Given f.name
  | .vehicle, v => Text.Given v.make ∧ Text.Given v.model ∧ Text.Tidy v.licensePlate ∧
      1900 ≤ v.year ∧ v.year ≤ 2100
  | .driver, p => Text.Given p.firstName ∧ Text.Given p.lastName ∧ Text.Given p.licenseNumber
  | .contract, c => c.startDate < c.endDate ∧ (c.terminatedAt = none ↔ c.terminatedBy = none) ∧
      ∀ by_, c.terminatedBy = some by_ → Text.Given by_
  | .assignment, _ => True

/-- All records are well-formed, deleted or not. -/
def Storage.Books.WellFormed (b : Books) : Prop :=
  ∀ kind r, b.Stored kind r → kind.WellFormed r.data

variable {op : Operation} {d d' : Desk Memory}

/-- What has been checked of new data is enough. -/
theorem Desk.Admits.wellFormed {kind : Kind} {data : kind.Data} (h : d.Admits kind data) :
    kind.WellFormed data := by
  cases kind with
  | legalEntity => exact ⟨h.1.given, h.2.given⟩
  | fleet => exact h.1.given
  | vehicle =>
    obtain ⟨hmake, hmodel, ⟨plate, hplate⟩, hyear, -⟩ := h
    rw [Vehicle.isPlausibleYear, Bool.and_eq_true, decide_eq_true_eq, decide_eq_true_eq] at hyear
    refine ⟨hmake.given, hmodel.given, ?_, hyear⟩
    rw [hplate]
    exact Text.tidy_trim plate
  | driver => exact ⟨h.1.given, h.2.1.given, h.2.2.1.given⟩
  | contract =>
    obtain ⟨hat, hby⟩ := h.running
    refine ⟨h.ordered, iff_of_true hat hby, fun by_ hsome => ?_⟩
    exact nomatch hby.symm.trans hsome
  | assignment => trivial

/-- A contract stays well-formed when somebody terminates it. -/
theorem Kind.WellFormed.terminate {c : Contract} (h : Kind.contract.WellFormed c) (now : Instant)
    {by_ : String} (hby : Text.Given by_) : Kind.contract.WellFormed (c.terminate now by_) := by
  refine ⟨h.1, ⟨nofun, nofun⟩, fun by' hby' => ?_⟩
  obtain rfl := Option.some.inj hby'
  exact hby

/-- An operation keeps all records well-formed. -/
theorem Effect.wellFormed (he : Effect op d d') (h : d.books.WellFormed) :
    d'.books.WellFormed := by
  cases he with
  | untouched hb => rwa [hb]
  | entered kind data operation admits named ids hb =>
    rw [hb]
    exact Books.forall_stored_put h admits.wellFormed
  | terminated r terminatedBy operation live running filled hb =>
    rw [hb]
    have hgiven : Text.Given (Text.trim terminatedBy) := ⟨filled, Text.tidy_trim terminatedBy⟩
    exact Books.forall_stored_put h ((h .contract r live.stored).terminate d.clock hgiven)
  | returned r operation live out hb =>
    rw [hb]
    exact Books.forall_stored_put h trivial
  | buried kind r operation live free hb =>
    rw [hb]
    exact Books.forall_stored_put h (h kind r live.stored)
  | restored kind r operation named stored hb =>
    rw [hb]
    exact Books.forall_stored_put h (h kind r stored)

/-! ## All operations -/

/-- Only well-formed records get into the books. -/
theorem wellFormed_history (ids : IdSource) (turns : List Turn) :
    (history ids turns).books.WellFormed := by
  refine history_invariant (P := fun d => d.books.WellFormed)
    (fun _ _ hr => absurd hr Books.not_stored_empty) ?_
  exact fun past t _ h => (t.effect _).wellFormed h

/-- **Every record is well-formed**, deleted or not, and stands under its own identifier, which is not
empty. -/
theorem wellFormed_of_lookup {ids : IdSource} {turns : List Turn} {kind : Kind} {id : String}
    {r : kind.Record} (hr : (history ids turns).books.lookup kind id = some r) :
    r.id = id ∧ id ≠ "" ∧ kind.WellFormed r.data := by
  obtain ⟨hstored, rfl⟩ := Books.lookup_eq_some_iff.mp hr
  have hnamed := (numbered_history ids turns).named hstored
  exact ⟨rfl, hnamed, wellFormed_history ids turns kind r hstored⟩

/-- Somebody terminates a contract and signs with an em space and an ideographic space around the
name. Then the contract is deleted. -/
def signedInBlanks : List Turn :=
  sampleParties ++
    [.on newYear (.createContract "driver" "company" "fleet" newYear januaryEnd),
    .on januaryEnd (.terminateContract "contract" "\u2003Ada Byron\u3000"),
    .on januaryEnd (.delete .contract "contract")]

/-- The signature is on record without the spaces. -/
theorem wellFormed_signedInBlanks :
    let ended := januaryContract.terminate (.startOfDay januaryEnd) "Ada Byron"
    let r : Kind.contract.Record := ⟨"contract", ended, some (.startOfDay januaryEnd)⟩
    (history sampleIds signedInBlanks).books.lookup .contract "contract" = some r ∧
      r.id = "contract" ∧ "contract" ≠ "" ∧ Kind.contract.WellFormed r.data := by
  intro ended r
  have hr : (history sampleIds signedInBlanks).books.lookup .contract "contract" = some r := by
    decide +kernel
  exact ⟨hr, wellFormed_of_lookup hr⟩

end LeaseDesk
