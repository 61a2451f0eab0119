import LeaseDesk.Proofs.Deciding
import LeaseDesk.Proofs.Filling

/-!
# Submitting forms

Seven routes take a form, and all of them take it in the same way. What the body of a request gives to
the fields is what is acted on, however the body is written (`forms_read_in_any_layout`); and if a field
is missing, given twice or given something else than it wants, the answer is 422 and nothing is done.

Two things are not a matter of layout (`not_read_in_any_layout`). A body longer than what is read is
refused before it is looked at, be it for white space alone; and where a field is given a number, that
must not be too large for the way in which its size is estimated, which is a little less than the largest
double.
-/

namespace LeaseDesk

namespace Json

instance : (type : FieldType) → DecidableEq type.Value
  | .text => inferInstanceAs (DecidableEq String)
  | .integer => inferInstanceAs (DecidableEq Int)

deriving instance DecidableEq for LeaseDesk.Json.Field

/-! ## Faults -/

/-- What is wrong with what the members give to a field. -/
inductive Field.Fault (f : Field) (ms : List Member) : Prop
  /-- it has to be given and is not -/
  | missing (absent : valuesOf f.name ms = []) (required : f.fallback = none)
  /-- it is given more than once -/
  | repeated (more : 2 ≤ (valuesOf f.name ms).length)
  /-- it is given something that is not of its type -/
  | mistyped {value : List UInt8} (once : valuesOf f.name ms = [value])
      (other : ∀ v, ¬ f.type.Spells v value)

variable {fs : List Field} {f : Field} {ms : List Member} {m : Member}

theorem Field.obtains_or_fault (f : Field) (ms : List Member) :
    (∃ v, f.Obtains ms v) ∨ f.Fault ms := by
  by_cases habsent : valuesOf f.name ms = []
  · cases hfallback : f.fallback with
    | none => exact .inr (.missing habsent hfallback)
    | some v => exact .inl ⟨v, .inr ⟨habsent, hfallback⟩⟩
  by_cases honce : ∃ value, valuesOf f.name ms = [value]
  · obtain ⟨value, honce⟩ := honce
    by_cases hspells : ∃ v, f.type.Spells v value
    · obtain ⟨v, hv⟩ := hspells
      exact .inl ⟨v, .inl ⟨value, honce, hv⟩⟩
    · exact .inr (.mistyped honce (not_exists.mp hspells))
  · refine .inr (.repeated ?_)
    rcases hvalues : valuesOf f.name ms with _ | ⟨value, _ | ⟨value', values⟩⟩
    · exact absurd hvalues habsent
    · exact absurd ⟨value, hvalues⟩ honce
    · simp

theorem Field.Fault.not_obtains (h : f.Fault ms) (v : f.type.Value) : ¬ f.Obtains ms v := by
  rintro (⟨value, hvalues, hspells⟩ | ⟨hvalues, hfallback⟩)
  · cases h with
    | missing absent => exact nomatch hvalues.symm.trans absent
    | repeated more =>
      rw [hvalues, List.length_singleton] at more
      exact absurd more (by decide)
    | mistyped once other =>
      obtain ⟨rfl, -⟩ := List.cons.inj (hvalues.symm.trans once)
      exact other v hspells
  · cases h with
    | missing absent required => exact nomatch hfallback.symm.trans required
    | repeated more =>
      rw [hvalues] at more
      exact absurd more (by decide)
    | mistyped once => exact nomatch hvalues.symm.trans once

/-- Members give values to all fields, or something is wrong with one of them. -/
theorem not_gives_iff : (∀ vs, ¬ Gives fs ms vs) ↔ ∃ f ∈ fs, f.Fault ms := by
  induction fs with
  | nil => exact iff_of_false (fun h => h () trivial) (by simp)
  | cons f fs ih =>
    rw [List.exists_mem_cons_iff, ← ih]
    constructor
    · intro h
      rcases f.obtains_or_fault ms with ⟨v, hv⟩ | hfault
      · exact .inr fun vs hvs => h (v, vs) ⟨hv, hvs⟩
      · exact .inl hfault
    · rintro (hfault | hnone) ⟨v, vs⟩ ⟨hv, hvs⟩
      · exact hfault.not_obtains v hv
      · exact hnone vs hvs

/-- What is given to a field is legible. -/
theorem legible_of_gives {vs : Values fs} (h : Gives fs ms vs) (hm : m ∈ ms)
    (hname : m.name ∈ fs.map Field.name) : Legible m.value := by
  induction fs with
  | nil => exact absurd hname List.not_mem_nil
  | cons f fs ih =>
    obtain ⟨v, vs⟩ := vs
    obtain ⟨hobtains, hothers⟩ := h
    rcases List.mem_cons.mp hname with hname | hname
    · have hmem : m.value ∈ valuesOf f.name ms :=
        List.mem_map_of_mem (List.mem_filter.mpr ⟨hm, beq_iff_eq.mpr hname⟩)
      rcases hobtains with ⟨value, hvalues, hspells⟩ | ⟨hvalues, -⟩
      · rw [hvalues, List.mem_singleton] at hmem
        exact hmem ▸ legible_of_spells hspells
      · rw [hvalues] at hmem
        exact absurd hmem List.not_mem_nil
    · exact ih hothers hname

end Json

namespace Http

open Json

/-! ## Requests -/

/-- The body is an object of these members, perhaps with white space in front of it. What follows it is
left alone. -/
def Request.Holds (r : Request) (ms : List Member) : Prop :=
  ∃ space object rest, Blank space ∧ WrittenObject ms object ∧ r.body = space ++ (object ++ rest)

/-- The fields that an action takes from a body. -/
def Action.fields : Action → List Field
  | .health | .perform _ => []
  | .submit fields _ => fields

/-- No form has two fields of one name. -/
theorem distinct_routes : ∀ route ∈ routes, ∀ entry ∈ route.actions,
    (entry.2.fields.map Field.name).Nodup := by
  decide

/-- All that may be left out of a form is a license plate. -/
theorem fallback_routes : ∀ route ∈ routes, ∀ entry ∈ route.actions, ∀ f ∈ entry.2.fields,
    f.fallback = none ∨ f = .optionalText "license_plate" := by
  decide

section

variable {policy : Policy} {r : Request} {route : Route} {fields : List Field}
  {op : String → Values fields → Except Problem Operation} {id : String} {ms : List Member}

theorem readBody_eq {allowance : Nat} (hjson : r.IsJson) (hshort : r.body.length ≤ allowance) :
    readBody allowance r fields =
      match Json.decode fields r.body with
      | .error refusal => .error (refusedBody refusal)
      | .ok (values, _) => .ok values := by
  have htype : ¬ (!(r.header? "content-type").any MediaType.isJson) = true := by
    rw [Request.IsJson] at hjson
    rw [hjson]
    exact Bool.false_ne_true
  exact (if_neg htype).trans (if_neg (Nat.not_lt.mpr hshort))

/-- **Forms are read in any layout.** At a place where a form can be posted, let the body be JSON of
a length that is read, and an object with white space in front of it. If the members give values to the
fields, and all others are values of any kind, then exactly these values are acted on. If something is
wrong with a field, while all members are fit to be read, the answer is 422, and nothing is done. Only
a license plate may be left out, and then it is empty. All numbers of no more than `safeMagnitude` are
fit to be read. -/
theorem forms_read_in_any_layout (hroute : route ∈ routes)
    (haction : ("POST", .submit fields op) ∈ route.actions) (hmethod : r.method = "POST")
    (hplace : r.At route.pattern id) (hannounced : announcesTooMuch policy r = false)
    (hjson : r.IsJson) (hshort : r.body.length ≤ bodyAllowance policy r) (hbody : r.Holds ms) :
    (∀ values, Gives fields ms values →
      (∀ m ∈ ms, m.name ∉ fields.map Field.name → IsValue m.value) →
      decide policy r =
        match op id values with
        | .error problem => .settled problem.response
        | .ok operation => .perform operation) ∧
      ((∃ f ∈ fields, f.Fault ms) → (∀ m ∈ ms, m.Proper fields) →
        decide policy r = .settled (refusedBody .mismatched) ∧
          ∀ (σ : Type) (host : Host σ) (s : σ),
            (serve policy host r s).1.status = 422 ∧ (serve policy host r s).2 = s) ∧
      (∀ f ∈ fields, f.fallback = none ∨ f = .optionalText "license_plate") ∧
      ∀ (n : Numeral) (bs : List UInt8), n.Written bs → n.magnitude ≤ safeMagnitude →
        Legible bs := by
  have hdistinct : (fields.map Field.name).Nodup := distinct_routes route hroute _ haction
  have hdecide : decide policy r =
      (Action.submit fields op).decide (bodyAllowance policy r) r id :=
    decide_of_at hannounced hroute hplace haction (Request.verb_eq_post_iff.mpr hmethod)
  obtain ⟨space, object, rest, hspace, hobject, heq⟩ := hbody
  have hfinds (hms : ∀ m ∈ ms, m.Proper fields) :
      Finds (Gives fields ms) rest (Json.decode fields r.body) :=
    heq ▸ decode_finds hdistinct hobject hms hspace
  rw [Action.decide, readBody_eq hjson hshort] at hdecide
  refine ⟨fun values hgives hothers => ?_, fun hfault hms => ?_,
    fallback_routes route hroute _ haction, fun n bs hwritten hle => ?_⟩
  · have hdecoded := hfinds fun m hm => ⟨legible_of_gives hgives hm, hothers m hm⟩
    rw [hdecide]
    generalize Json.decode fields r.body = decoded at hdecoded
    cases hdecoded with
    | found only =>
      obtain rfl := (only values).mp hgives
      rfl
    | nothing none => exact absurd hgives (none values)
  · have hnone := not_gives_iff.mpr hfault
    have hsettled : decide policy r = .settled (refusedBody .mismatched) := by
      have hdecoded := hfinds hms
      rw [hdecide]
      generalize Json.decode fields r.body = decoded at hdecoded
      cases hdecoded with
      | found only => exact absurd ((only _).mpr rfl) (hnone _)
      | nothing none => rfl
    refine ⟨hsettled, fun σ host s => ?_⟩
    rw [serve, hsettled]
    exact ⟨status_finish policy, rfl⟩
  · exact .numeral hwritten (Numeral.isTooLarge_eq_false hwritten.digits.1 hwritten.digits.2 hle)

end

/-! ## Samples -/

/-- A vehicle in an unusual layout. -/
def unusualVehicle : Request :=
  let first := "\t\x7b \"year\" :2020, \"extras\":[\x7b\"a\":null\x7d] ,\"make\": \"Fiat\","
  let last := "\n\"m\\u006fdel\":\"\\ud83d\\uDE97\"\r\n\x7d."
  ⟨"POST", "/fleets/fleet/vehicles", [("content-type", "application/json")],
    Text.toBytes first ++ Text.toBytes last⟩

/-- What it says. -/
def unusualMembers : List Member :=
  [⟨"year", digitBytes [2, 0, 2, 0]⟩, ⟨"extras", Text.toBytes "[\x7b\"a\":null\x7d]"⟩,
    ⟨"make", (Json.text "Fiat").bytes⟩, ⟨"model", Text.toBytes "\"\\ud83d\\uDE97\""⟩]

theorem gives_unusualMembers :
    Gives vehicleForm unusualMembers ("Fiat", "🚗", (2020 : Int), "", ()) := by
  have hmodel : SpellsText "🚗" (Text.toBytes "\"\\ud83d\\uDE97\"") := by
    have hhigh : HexUnit 0xD83D (['d', '8', '3', 'd'].map ascii) :=
      HexUnit.digits (w := 13) (x := 8) (y := 3) (z := 13) rfl rfl rfl rfl
    have hlow : HexUnit 0xDE97 (['D', 'E', '9', '7'].map ascii) :=
      HexUnit.digits (w := 13) (x := 14) (y := 9) (z := 7) rfl rfl rfl rfl
    exact ⟨_, .cons (.surrogates (by decide) hhigh hlow) .nil, by decide +kernel⟩
  have hyear : SpellsInteger 2020 (digitBytes [2, 0, 2, 0]) := by
    have hwritten : Numeral.Written ⟨false, [2, 0, 2, 0], [], none⟩ (digitBytes [2, 0, 2, 0]) :=
      .mk (by decide) (by decide) (by decide) .none .none
    have hspells := SpellsInteger.mk hwritten (by decide)
    exact hspells
  have hvalue : valuesOf "year" unusualMembers = [digitBytes [2, 0, 2, 0]] := by decide +kernel
  exact ⟨.inl ⟨_, by decide +kernel, spellsText_bytes "Fiat"⟩, .inl ⟨_, by decide +kernel, hmodel⟩,
    .inl ⟨_, hvalue, hyear, by decide, by decide⟩, .inr ⟨by decide +kernel, rfl⟩, trivial⟩

/-- What is extra in it is a value. -/
theorem isValue_extras : IsValue (Text.toBytes "[\x7b\"a\":null\x7d]") := by
  have hlabel : Label .object ([] ++ ascii '"' :: [ascii 'a'] ++ ascii '"' :: [] ++ [ascii ':']) :=
    .object nofun (.byte (by decide) (by decide) (by decide) .nil) nofun
  have hmember : Derives (.contents .object)
      (Text.toBytes "\"a\":" ++ [] ++ Text.toBytes "null" ++ []) :=
    .last hlabel nofun (.word (by decide)) nofun
  have hobject : IsValue (Text.toBytes "\x7b\"a\":null\x7d") := hmember.full
  have hitem : Derives (.contents .list) ([] ++ [] ++ Text.toBytes "\x7b\"a\":null\x7d" ++ []) :=
    .last .list nofun hobject nofun
  exact hitem.full

theorem holds_unusualVehicle : unusualVehicle.Holds unusualMembers := by
  have hyear : Member.Written ⟨"year", digitBytes [2, 0, 2, 0]⟩ ([0x20] ++ (Json.text "year").bytes ++
      [0x20] ++ ascii ':' :: [] ++ digitBytes [2, 0, 2, 0] ++ []) :=
    .mk (by decide) (spellsText_bytes "year") (by decide) nofun nofun
  have hextras : Member.Written ⟨"extras", Text.toBytes "[\x7b\"a\":null\x7d]"⟩ ([0x20] ++
      (Json.text "extras").bytes ++ [] ++ ascii ':' :: [] ++ Text.toBytes "[\x7b\"a\":null\x7d]" ++
      [0x20]) :=
    .mk (by decide) (spellsText_bytes "extras") nofun nofun (by decide)
  have hmake : Member.Written ⟨"make", (Json.text "Fiat").bytes⟩ ([] ++ (Json.text "make").bytes ++ [] ++
      ascii ':' :: [0x20] ++ (Json.text "Fiat").bytes ++ []) :=
    .mk nofun (spellsText_bytes "make") nofun (by decide) nofun
  have hname : SpellsText "model" (Text.toBytes "\"m\\u006fdel\"") := by
    have hunit : HexUnit 0x6F (['0', '0', '6', 'f'].map ascii) :=
      HexUnit.digits (w := 0) (x := 0) (y := 6) (z := 15) rfl rfl rfl rfl
    exact ⟨_, .cons (writes_escape 'm') (.cons (.numbered hunit) (spells_escape ['d', 'e', 'l'])),
      by decide +kernel⟩
  have hmodel : Member.Written ⟨"model", Text.toBytes "\"\\ud83d\\uDE97\""⟩ ([0x0A] ++
      Text.toBytes "\"m\\u006fdel\"" ++ [] ++ ascii ':' :: [] ++ Text.toBytes "\"\\ud83d\\uDE97\"" ++
      [0x0D, 0x0A]) :=
    .mk (by decide) hname nofun nofun (by decide)
  have hobject := WrittenObject.full (.next hyear (.next hextras (.next hmake (.last hmodel))))
  exact ⟨[0x09], _, [ascii '.'], by decide, hobject, by decide +kernel⟩

/-- A form for a company, with this body. -/
def companyForm (body : List UInt8) : Request :=
  ⟨"POST", "/legal-entities", [("content-type", "application/json")], body⟩

theorem isJson_companyForm (body : List UInt8) : (companyForm body).IsJson := by
  have hjson : (companyForm []).IsJson := by
    rw [Request.IsJson]
    decide +kernel
  exact hjson

theorem at_companyForm (body : List UInt8) : (companyForm body).At [.word "legal-entities"] "" := by
  have hpath : (companyForm body).path = joined ([.word "legal-entities"].map (Step.text [])) := by
    rw [companyForm, Request.path]
    dsimp only
    decide
  exact ⟨none, ⟨hpath, rfl, nofun, nofun⟩, rfl⟩

/-- Members as the service writes them. -/
def writtenMembers (members : List (String × Json)) : List Member :=
  members.map fun m => ⟨m.1, m.2.bytes⟩

theorem holds_companyForm (members : List (String × Json)) (rest : List UInt8) :
    (companyForm ((Json.object members).bytes ++ rest)).Holds (writtenMembers members) :=
  ⟨[], _, rest, nofun, writtenObject_bytes members, rfl⟩

/-- A company with two names. -/
def twoNames : List (String × Json) := [("name", .text "A"), ("name", .text "B"), ("tax_id", .text "T")]

theorem exponent_308 : Exponent (some 308) (Text.toBytes "e308") := by
  have hdigits : [3, 0, 8] ≠ [] ∧ ∀ d ∈ [3, 0, 8], d < 10 := by decide
  have hexponent := Exponent.digits (.inl rfl) .none hdigits.1 hdigits.2
  exact hexponent

/-- The vehicle is what is acted on, the company with two names is refused, and one with a large number
is fit to be read. -/
theorem forms_read_in_any_layout_unusual :
    decide .plain unusualVehicle = .perform (.createVehicle "fleet" "Fiat" "🚗" 2020 "") ∧
      decide .plain (companyForm ((Json.object twoNames).bytes ++ [])) =
        .settled (refusedBody .mismatched) ∧
      Legible (Text.toBytes "1e308") := by
  have hvehicle : unusualVehicle.At (belowPattern .fleet "vehicles") "fleet" := by
    refine ⟨some "fleet".toList, ⟨by decide, rfl, ?_, nofun⟩, by decide⟩
    rintro _ ⟨⟩
    decide
  have hjson : unusualVehicle.IsJson := by
    rw [Request.IsJson]
    decide +kernel
  have hannounced (r : Request) : announcesTooMuch .plain r = false := rfl
  have haddVehicle : ("POST", Action.submit vehicleForm _) ∈ (routeOf (.vehiclesOf "")).actions :=
    List.mem_of_getElem? (i := 1) rfl
  have haddCompany : ("POST", Action.submit legalEntityForm _) ∈ (routeOf .legalEntities).actions :=
    List.mem_of_getElem? (i := 1) rfl
  obtain ⟨hread, -, -, hlegible⟩ := forms_read_in_any_layout (routeOf_mem _) haddVehicle rfl hvehicle
    (hannounced _) hjson (by decide +kernel) holds_unusualVehicle
  obtain ⟨-, hrefused, -, -⟩ := forms_read_in_any_layout (routeOf_mem _) haddCompany rfl
    (at_companyForm _) (hannounced _) (isJson_companyForm _) (by decide +kernel)
    (holds_companyForm twoNames [])
  refine ⟨?_, ?_, ?_⟩
  · refine hread _ gives_unusualMembers ?_
    have hmem : ∀ m ∈ unusualMembers,
        m.name ∈ vehicleForm.map Field.name ∨ m.value = Text.toBytes "[\x7b\"a\":null\x7d]" := by
      decide +kernel
    intro m hm hname
    rw [(hmem m hm).resolve_left hname]
    exact isValue_extras
  · refine (hrefused ⟨_, List.mem_cons_self, .repeated (by decide +kernel)⟩ fun m hm => ?_).1
    obtain ⟨⟨name, v⟩, hmem, rfl⟩ := List.mem_map.mp hm
    have htext : name ∈ legalEntityForm.map Field.name ∧ ∃ s, v = .text s := by
      simp only [twoNames, List.mem_cons, List.not_mem_nil, or_false, Prod.mk.injEq] at hmem
      obtain ⟨rfl, rfl⟩ | ⟨rfl, rfl⟩ | ⟨rfl, rfl⟩ := hmem <;> exact ⟨by decide, _, rfl⟩
    obtain ⟨hname, s, rfl⟩ := htext
    exact ⟨fun _ => .text (spellsText_bytes s), fun h => absurd hname h⟩
  · have hwritten : Numeral.Written ⟨false, [1], [], some 308⟩ (Text.toBytes "1e308") :=
      .mk (by decide) (by decide) (by decide) .none exponent_308
    have hle : (10 : ℚ) ^ 308 ≤ safeMagnitude := by
      exact_mod_cast (by decide +kernel : 10 ^ 308 ≤ safeMagnitude)
    exact hlegible _ _ hwritten (by simpa [Numeral.magnitude, Numeral.valueOf] using hle)

/-! ## What is not a matter of layout -/

section

variable {body : List UInt8} {response : Response}

theorem decide_companyForm (h : (companyForm body).Miscarries legalEntityForm response) :
    decide .plain (companyForm body) = .settled response :=
  decide_of_miscarries (.add .legalEntities rfl (at_companyForm body)) h

end

/-- A company. -/
def company : List (String × Json) := [("name", .text "A"), ("tax_id", .text "T")]

/-- The company, with more white space behind it than is read. -/
def paddedCompany : Request :=
  companyForm ((Json.object company).bytes ++ List.replicate longestBody 0x20)

theorem gives_company : Gives legalEntityForm (writtenMembers company) ("A", "T", ()) :=
  ⟨.inl ⟨_, by decide +kernel, spellsText_bytes "A"⟩,
    .inl ⟨_, by decide +kernel, spellsText_bytes "T"⟩, trivial⟩

theorem miscarries_paddedCompany : paddedCompany.Miscarries legalEntityForm bodyTooLong := by
  refine .length (isJson_companyForm _) ?_
  have hne : 0 < (Json.object company).bytes.length := by decide +kernel
  rw [paddedCompany, companyForm, List.length_append, List.length_replicate]
  omega

/-- A number that is not larger than a double can be. -/
def largeNumeral : Numeral :=
  ⟨false, [1], [7, 9, 7, 6, 9, 3, 1, 3, 4, 8, 6, 2, 3, 1, 5, 7, 0, 8, 1], some 308⟩

/-- It, as it is written. -/
def largeBytes : List UInt8 := Text.toBytes "1.7976931348623157081e308"

/-- A company with this number for a name. -/
def numberedMembers : List Member := [⟨"name", largeBytes⟩, ⟨"tax_id", (Json.text "T").bytes⟩]

/-- The form with this company. -/
def numberedCompany : Request :=
  companyForm (Text.toBytes "\x7b\"name\":1.7976931348623157081e308,\"tax_id\":\"T\"\x7d")

theorem written_largeNumeral : largeNumeral.Written largeBytes := by
  have hfraction : Fraction largeNumeral.fraction (Text.toBytes ".7976931348623157081") :=
    .digits (by decide) (by decide)
  exact .mk (by decide) (by decide) (by decide) hfraction exponent_308

theorem magnitude_largeNumeral : largeNumeral.magnitude ≤ largestDouble := by
  have hle : (17976931348623157081 : ℚ) * 10 ^ 289 ≤ largestDouble := by
    exact_mod_cast (by decide +kernel : 17976931348623157081 * 10 ^ 289 ≤ largestDouble)
  have hdigits : Numeral.valueOf (largeNumeral.whole ++ largeNumeral.fraction) =
      17976931348623157081 := by decide
  have hexponent : largeNumeral.exponent.getD 0 - largeNumeral.fraction.length = (289 : Nat) := by
    decide
  rw [Numeral.magnitude, hdigits, hexponent, zpow_natCast, Nat.cast_ofNat]
  exact hle

theorem holds_numberedCompany : numberedCompany.Holds numberedMembers := by
  have hmembers : WrittenMembers numberedMembers _ :=
    .next (written_quote "name" largeBytes) (.last (written_quote "tax_id" (Json.text "T").bytes))
  exact ⟨[], _, [], nofun, .full hmembers, by decide +kernel⟩

theorem fault_numberedCompany : (Field.text "name").Fault numberedMembers := by
  have honce : valuesOf "name" numberedMembers = [largeBytes] := by decide +kernel
  refine .mistyped honce ?_
  rintro s ⟨inner, -, heq⟩
  have hfirst : ascii '1' = ascii '"' := List.head_eq_of_cons_eq heq
  exact absurd hfirst (by decide)

instance : DecidableEq (Values legalEntityForm) :=
  inferInstanceAs (DecidableEq (String × String × Unit))

theorem miscarries_numberedCompany :
    numberedCompany.Miscarries legalEntityForm (refusedBody .malformed) :=
  .refused (isJson_companyForm _) (by decide +kernel) (by decide +kernel)

/-- **What is not a matter of layout.** White space that makes a body too long, and a number that is not
larger than a double can be, but is taken to be. -/
theorem not_read_in_any_layout :
    (paddedCompany.IsJson ∧ paddedCompany.Holds (writtenMembers company) ∧
      Gives legalEntityForm (writtenMembers company) ("A", "T", ()) ∧
      decide .plain paddedCompany = .settled bodyTooLong) ∧
    largeNumeral.Written largeBytes ∧ largeNumeral.magnitude ≤ largestDouble ∧
    numberedCompany.IsJson ∧ numberedCompany.Holds numberedMembers ∧
    (∀ m ∈ numberedMembers, IsValue m.value) ∧ (∃ f ∈ legalEntityForm, f.Fault numberedMembers) ∧
    decide .plain numberedCompany = .settled (refusedBody .malformed) := by
  have hvalues : ∀ m ∈ numberedMembers, IsValue m.value := by
    rintro m (_ | ⟨_, _ | ⟨_, ⟨⟩⟩⟩)
    · exact .numeral written_largeNumeral
    · exact (Legible.text (spellsText_bytes "T")).isValue
  exact ⟨⟨isJson_companyForm _, holds_companyForm company _, gives_company,
    decide_companyForm miscarries_paddedCompany⟩, written_largeNumeral, magnitude_largeNumeral,
    isJson_companyForm _, holds_numberedCompany, hvalues, ⟨_, List.mem_cons_self, fault_numberedCompany⟩,
    decide_companyForm miscarries_numberedCompany⟩

end Http

end LeaseDesk
