import LeaseDesk.Proofs.DateWriting
import LeaseDesk.Proofs.Deciding
import LeaseDesk.Proofs.History

/-!
# Dates that come back

Clients may send back what they were told. The dates that a response tells are those of the contracts
that an operation came to: no other record has a first day, and neither has a problem or anything that is
answered without an operation (`shows_serve_iff`). They are told as texts that spell them. So if the
texts are submitted again, with or without blanks around them, they stand for the same days
(`dates_survive`).
-/

namespace LeaseDesk

open Text

/-! ## What is shown -/

/-- The text that an object has for a name. -/
def Json.textAt? (v : Json) (name : String) : Option String :=
  match v with
  | .object members =>
    match members.lookup name with
    | some (.text s) => some s
    | _ => none
  | _ => none

/-- The record is what an operation resulted in, or it is in the list that it resulted in. -/
inductive Outcome.Tells {kind : Kind} (r : kind.Record) : Outcome → Prop
  | alone : Tells r (.record kind r)
  | listed {rs : List kind.Record} (mem : r ∈ rs) : Tells r (.records kind rs)

namespace Http

/-- The content consists of the value, or of a list that has it. -/
inductive Content.Shows (v : Json) : Content → Prop
  | whole : Shows v (.json v)
  | item {items : List Json} (mem : v ∈ items) : Shows v (.json (.list items))

/-- The operation that is performed for the request tells of the record. -/
def Tells {σ : Type} (policy : Policy) (host : Host σ) (r : Request) (s : σ) {kind : Kind}
    (record : kind.Record) : Prop :=
  ∃ op out, decide policy r = .perform op ∧ (op.program.run host s).1 = .ok out ∧ out.Tells record

/-- The request submits the form of a contract with these texts. -/
structure Request.Submits (r : Request) (driverId legalEntityId fleetId first last : String) :
    Prop where
  method : r.method = "POST"
  place : r.At (belowPattern .driver "contracts") driverId
  body : r.Carries contractForm (legalEntityId, fleetId, first, last, ())

end Http

namespace Representation

theorem textAt?_startDate (c : Kind.contract.Record) :
    (forClients .contract c).textAt? "start_date" = some c.data.startDate.text := by
  simp [forClients, members, Json.textAt?, List.lookup_cons]

theorem textAt?_endDate (c : Kind.contract.Record) :
    (forClients .contract c).textAt? "end_date" = some c.data.endDate.text := by
  simp [forClients, members, Json.textAt?, List.lookup_cons]

/-- Nothing on record but a contract has a first day. -/
theorem eq_contract_of_textAt? {kind : Kind} {r : kind.Record} {first : String}
    (h : (forClients kind r).textAt? "start_date" = some first) : kind = .contract := by
  cases kind with
  | contract => rfl
  | _ => simp [forClients, members, Json.textAt?, List.lookup_cons] at h

end Representation

namespace Http

/-! ## Responses without dates -/

/-- Nothing that the response shows has a first day. -/
def Response.Undated (response : Response) : Prop :=
  ∀ v, response.content.Shows v → v.textAt? "start_date" = none

namespace Response

theorem undated_bare (status : Nat) : (bare status).Undated :=
  fun _ h => nomatch h

theorem undated_plain (status : Nat) (s : String) : (plain status s).Undated :=
  fun _ h => nomatch h

theorem undated_object {status : Nat} {members : List (String × Json)}
    (h : members.lookup "start_date" = none) : (ofJson status (.object members)).Undated := by
  rintro v ⟨⟩
  simp only [Json.textAt?, h]

end Response

theorem Problem.undated_response (problem : Problem) : problem.response.Undated := by
  have hdescribe (status : Nat) (title : String) (details : Option String) :
      (describe status title details).Undated := by
    apply Response.undated_object
    cases details <;> simp [List.lookup_cons]
  cases problem with
  | failure e => exact hdescribe _ _ _
  | badRequest reason => exact hdescribe 400 "Bad request" (some reason)
  | notFound what => exact hdescribe 404 "Not found" (some what)

section

variable {policy : Policy} {r : Request} {response : Response} {op : Operation}

theorem undated_of_readBody {allowance : Nat} {fields : List Json.Field}
    (h : readBody allowance r fields = .error response) : response.Undated := by
  rw [readBody] at h
  split at h
  · obtain rfl := Except.error.inj h
    exact Response.undated_plain _ _
  · split at h
    · obtain rfl := Except.error.inj h
      exact Response.undated_plain _ _
    · cases hdecoded : Json.decode fields r.body with
      | ok values =>
        simp only [hdecoded] at h
        cases h
      | error refusal =>
        simp only [hdecoded] at h
        obtain rfl := Except.error.inj h
        cases refusal <;> exact Response.undated_plain _ _

theorem undated_of_action {action : Action} {allowance : Nat} {id : String}
    (h : action.decide allowance r id = .settled response) : response.Undated := by
  cases action with
  | health =>
    obtain rfl := Decision.settled.inj h
    exact Response.undated_object (by simp [List.lookup_cons])
  | perform op => cases h
  | submit fields op =>
    rw [Action.decide] at h
    cases hbody : readBody allowance r fields with
    | error answer =>
      simp only [hbody] at h
      obtain rfl := Decision.settled.inj h
      exact undated_of_readBody hbody
    | ok values =>
      cases hop : op id values with
      | error problem =>
        simp only [hbody, hop] at h
        obtain rfl := Decision.settled.inj h
        exact problem.undated_response
      | ok op =>
        simp only [hbody, hop] at h
        cases h

/-- A request is answered in words that say nothing of dates, or the action of its method decides. -/
theorem decide_cases (policy : Policy) (r : Request) :
    (∃ response, decide policy r = .settled response ∧ response.Undated) ∨
      ∃ action id, decide policy r = action.decide (bodyAllowance policy r) r id ∧
        ∃ route segment, findRoute? r.path = some (route, segment) ∧
          route.action? r.method = some action := by
  rw [decide]
  split
  · exact .inl ⟨permissions, rfl, Response.undated_bare 200⟩
  · split
    · exact .inl ⟨announcedTooLong, rfl, Response.undated_plain _ _⟩
    · split
      · exact .inl ⟨_, rfl, Problem.undated_response _⟩
      · next route segment hroute =>
        rw [Route.decide]
        split
        · exact .inl ⟨_, rfl, Response.undated_bare 405⟩
        · next action haction =>
          split
          · exact .inl ⟨badPath, rfl, Response.undated_plain _ _⟩
          · next id _ => exact .inr ⟨action, id, rfl, route, segment, hroute, haction⟩

/-- A response that is settled without an operation says nothing of dates. -/
theorem undated_of_settled (h : decide policy r = .settled response) : response.Undated := by
  obtain ⟨response', hdecide, hundated⟩ | ⟨action, id, hdecide, -⟩ := decide_cases policy r
  · obtain rfl := Decision.settled.inj (h.symm.trans hdecide)
    exact hundated
  · exact undated_of_action (hdecide.symm.trans h)

theorem wantsHeadOnly_of_perform (h : decide policy r = .perform op) :
    wantsHeadOnly r = (r.method == "HEAD") := by
  obtain ⟨response, hdecide, -⟩ | ⟨action, -, -, route, segment, hroute, haction⟩ :=
    decide_cases policy r
  · exact nomatch hdecide.symm.trans h
  · simp only [wantsHeadOnly, hroute, Option.any_some, haction, Option.isSome_some, Bool.and_true]

/-! ## Responses with dates -/

/-- What is shown with a first day of the result of an operation is a contract that it tells of. -/
theorem shows_respond_iff {out : Outcome} {v : Json} {first : String}
    (hfirst : v.textAt? "start_date" = some first) :
    (respond op (.ok out)).content.Shows v ↔
      ∃ c : Kind.contract.Record, out.Tells c ∧ v = Representation.forClients .contract c := by
  constructor
  · intro h
    cases out with
    | record kind record =>
      cases h
      obtain rfl := Representation.eq_contract_of_textAt? hfirst
      exact ⟨record, .alone, rfl⟩
    | records kind records =>
      cases h with
      | whole => exact nomatch hfirst
      | item mem =>
        obtain ⟨record, hrecord, rfl⟩ := List.mem_map.mp mem
        obtain rfl := Representation.eq_contract_of_textAt? hfirst
        exact ⟨record, .listed hrecord, rfl⟩
    | verdict verdict =>
      have hundated : (respond op (.ok (.verdict verdict))).Undated :=
        Response.undated_object (by simp [List.lookup_cons])
      exact nomatch (hundated v h).symm.trans hfirst
    | nothing => exact nomatch h
  · rintro ⟨c, hc, rfl⟩
    cases hc with
    | alone => exact .whole
    | listed mem => exact .item (List.mem_map_of_mem mem)

/-- All that is changed about the content in the end is that it may be left out. -/
theorem shows_finish_iff {v : Json} : (finish policy r response).content.Shows v ↔
    wantsHeadOnly r = false ∧ response.content.Shows v := by
  rw [content_finish]
  cases wantsHeadOnly r with
  | true => exact iff_of_false nofun nofun
  | false => exact (and_iff_right rfl).symm

section

variable {σ : Type} {host : Host σ} {s : σ}

/-- What is told is told by the one operation that is performed. -/
theorem tells_iff_of_perform (h : decide policy r = .perform op) {kind : Kind}
    {record : kind.Record} : Tells policy host r s record ↔
      ∃ out, (op.program.run host s).1 = .ok out ∧ out.Tells record := by
  constructor
  · rintro ⟨op', out, hperform, htells⟩
    obtain rfl := Decision.perform.inj (h.symm.trans hperform)
    exact ⟨out, htells⟩
  · rintro ⟨out, htells⟩
    exact ⟨op, out, h, htells⟩

theorem not_tells_of_settled (h : decide policy r = .settled response) {kind : Kind}
    {record : kind.Record} : ¬ Tells policy host r s record := by
  rintro ⟨op, out, hperform, -⟩
  exact nomatch h.symm.trans hperform

/-- **The dates that the service tells.** What a response shows with a first day is a contract that the
operation tells of, and all of these are shown, unless only the head was asked for. -/
theorem shows_serve_iff {v : Json} {first : String}
    (hfirst : v.textAt? "start_date" = some first) :
    (serve policy host r s).1.content.Shows v ↔ r.method ≠ "HEAD" ∧
      ∃ c : Kind.contract.Record, Tells policy host r s c ∧
        v = Representation.forClients .contract c := by
  rw [serve]
  cases hdecide : decide policy r with
  | settled response =>
    simp only [shows_finish_iff, not_tells_of_settled hdecide]
    refine iff_of_false ?_ (by simp)
    rintro ⟨-, hshows⟩
    exact nomatch (undated_of_settled hdecide v hshows).symm.trans hfirst
  | perform op =>
    simp only [shows_finish_iff, wantsHeadOnly_of_perform hdecide, beq_eq_false_iff_ne,
      tells_iff_of_perform hdecide]
    refine and_congr_right fun _ => ?_
    cases (op.program.run host s).1 with
    | error e =>
      refine iff_of_false ?_ (by simp)
      intro hshows
      exact nomatch ((Problem.failure e).undated_response v hshows).symm.trans hfirst
    | ok out => simp only [shows_respond_iff hfirst, Except.ok.injEq, exists_eq_left']

end

/-! ## The round trip -/

theorem readDate_of_inBlanks {d : Date} {text : String} (h : InBlanks d.text text)
    (field : String) : readDate field text = .ok d := by
  rw [readDate, Date.ofText?_of_inBlanks h]

/-- A form with the texts of two days stands for these days. -/
theorem decide_of_submits {driverId legalEntityId fleetId first last : String} {d d' : Date}
    (h : r.Submits driverId legalEntityId fleetId first last) (hfirst : InBlanks d.text first)
    (hlast : InBlanks d'.text last) :
    decide .plain r = .perform (.createContract driverId legalEntityId fleetId d d') :=
  decide_of_dates h.method h.place h.body (Date.ofText?_of_inBlanks hfirst)
    (Date.ofText?_of_inBlanks hlast)

end

end Http

open Http

/-- **Dates survive.** What is written for a date is read as that date, with any blanks around it, and
no two dates are written alike. Every contract that the operation tells of is shown, if not only the head
was asked for, with texts for its two dates, and a form that has these texts in it asks for a contract
about the same days. Nothing else is shown with a first day. -/
theorem dates_survive {σ : Type} (policy : Policy) (host : Host σ) (r : Request) (s : σ) :
    (∀ (d : Date) field text, InBlanks d.text text → readDate field text = .ok d) ∧
      Function.Injective Date.text ∧
      (∀ c : Kind.contract.Record, Http.Tells policy host r s c →
        (r.method ≠ "HEAD" →
          (serve policy host r s).1.content.Shows (Representation.forClients .contract c)) ∧
        ∃ first last,
          (Representation.forClients .contract c).textAt? "start_date" = some first ∧
          (Representation.forClients .contract c).textAt? "end_date" = some last ∧
          ∀ (again : Request) driverId legalEntityId fleetId first' last',
            InBlanks first first' → InBlanks last last' →
            again.Submits driverId legalEntityId fleetId first' last' →
            Http.decide .plain again = .perform (.createContract driverId legalEntityId fleetId
              c.data.startDate c.data.endDate)) ∧
      ∀ v first, (serve policy host r s).1.content.Shows v →
        v.textAt? "start_date" = some first →
        ∃ c : Kind.contract.Record, Http.Tells policy host r s c ∧
          v = Representation.forClients .contract c := by
  refine ⟨fun d field text h => readDate_of_inBlanks h field, Date.text_injective, ?_, ?_⟩
  · intro c htells
    have hfirst := Representation.textAt?_startDate c
    refine ⟨fun hmethod => (shows_serve_iff hfirst).mpr ⟨hmethod, c, htells, rfl⟩, _, _, hfirst,
      Representation.textAt?_endDate c, ?_⟩
    intro again driverId legalEntityId fleetId first' last' hblanks hblanks' hsubmits
    exact decide_of_submits hsubmits hblanks hblanks'
  · intro v first hshows hfirst
    exact ((shows_serve_iff hfirst).mp hshows).2

/-! ## A sample -/

/-- A leap day beyond the years of four digits. -/
def farLeapDay : Date := ⟨10000, 2, 29, by decide⟩

/-- The driver may use the fleet until the day after. -/
def farContract : Contract :=
  ⟨"driver", "company", "fleet", farLeapDay, ⟨10000, 3, 1, by decide⟩, none, none⟩

/-- A contract that is far ahead. -/
def planningAhead : List Turn :=
  sampleParties ++
    [.on newYear (.createContract "driver" "company" "fleet" farContract.startDate
      farContract.endDate)]

/-- Looking the contract up. -/
def lookingUp : Request := ⟨"GET", "/contracts/contract", [], []⟩

/-- Submitting its dates again, with blanks around them. -/
def submittingAgain : Request :=
  let parties := "\x7b\"legal_entity_id\":\"company\",\"fleet_id\":\"fleet\","
  let dates := "\"start_date\":\" +10000-02-29\",\"end_date\":\"+10000-03-01\\u3000\"\x7d"
  ⟨"POST", "/drivers/driver/contracts", [("content-type", "application/json")],
    (parties.toList ++ dates.toList).map Char.toUInt8⟩

open Program Procedure in
theorem tells_lookingUp : Http.Tells .plain memoryHost lookingUp (history sampleIds planningAhead)
    (.fresh "contract" farContract : Kind.contract.Record) := by
  have hnames : lookingUp.Names (.get .contract "contract") := by
    refine .get (.inl rfl) ⟨some "contract".toList, ⟨by decide, rfl, ?_, fun _ => nofun⟩, by decide⟩
    rintro _ ⟨⟩
    decide
  have hfind : (history sampleIds planningAhead).books.find .contract "contract" =
      some (.fresh "contract" farContract) := by decide +kernel
  have hget : (Operation.get .contract "contract").program.Yields (history sampleIds planningAhead)
      (.record .contract (.fresh "contract" farContract)) (history sampleIds planningAhead) :=
    yields_map.mpr ⟨_, yields_get.mpr ⟨by decide, hfind, rfl⟩, rfl⟩
  exact ⟨_, _, decide_of_names hnames, congrArg Prod.fst hget, .alone⟩

instance : DecidableEq (Json.Values contractForm) :=
  inferInstanceAs (DecidableEq (String × String × String × String × Unit))

theorem submits_submittingAgain : submittingAgain.Submits "driver" "company" "fleet"
    " +10000-02-29" "+10000-03-01\u3000" := by
  refine ⟨rfl, ⟨some "driver".toList, ⟨by decide, rfl, ?_, nofun⟩, by decide⟩, ?_, ?_, [], ?_⟩
  · rintro _ ⟨⟩
    decide
  · rw [Request.IsJson]
    decide +kernel
  · decide +kernel
  · decide +kernel

/-- The contract is shown, and its dates can be submitted again. -/
theorem dates_survive_planningAhead :
    readDate "start_date" " +10000-02-29" = .ok farLeapDay ∧
      (serve .plain memoryHost lookingUp (history sampleIds planningAhead)).1.content.Shows
        (Representation.forClients .contract (.fresh "contract" farContract)) ∧
      Http.decide .plain submittingAgain =
        .perform (.createContract "driver" "company" "fleet" farContract.startDate
          farContract.endDate) := by
  obtain ⟨hread, -, htold, -⟩ :=
    dates_survive .plain memoryHost lookingUp (history sampleIds planningAhead)
  obtain ⟨hshown, first, last, hfirst, hlast, hagain⟩ := htold _ tells_lookingUp
  obtain rfl := Option.some.inj ((Representation.textAt?_startDate _).symm.trans hfirst)
  obtain rfl := Option.some.inj ((Representation.textAt?_endDate _).symm.trans hlast)
  have hblanks : InBlanks farContract.startDate.text " +10000-02-29" :=
    ⟨[' '], [], .singleton (by decide), nofun, by decide +kernel⟩
  have hblanks' : InBlanks farContract.endDate.text "+10000-03-01\u3000" :=
    ⟨[], ['\u3000'], nofun, .singleton (by decide), by decide +kernel⟩
  refine ⟨hread farLeapDay _ _ hblanks, hshown (by decide), ?_⟩
  exact hagain submittingAgain _ _ _ _ _ hblanks hblanks' submits_submittingAgain

end LeaseDesk
