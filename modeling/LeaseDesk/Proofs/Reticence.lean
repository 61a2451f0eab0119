import LeaseDesk.Proofs.Serving
import LeaseDesk.Proofs.Veil

/-!
# What clients are not told

A fault of the database and a fault inside the service come with words that are meant for the operators
alone. The license register can report such a fault, and then its words get into a program. They do not
get out of it again.

Two desks are sent the same requests, and whenever the register is asked, it says the same at both of
them, up to such words (`Visit.Akin`). A program then comes to the same result, or it fails for reasons
that are akin (`Program.akinRuns`), because no program looks at the reason of a failure. And akin
reasons make the same response, because their words are left out of it. So the clients of the two desks
are told the same, and the desks stay alike (`internal_reasons_untold`).
-/

namespace LeaseDesk

open Http Storage

/-! ## Reasons -/

/-- The failures differ at most in words that are not for the eyes of clients. -/
inductive Failure.Akin : Failure → Failure → Prop
  | same (e : Failure) : Akin e e
  | database (reason reason' : String) : Akin (.database reason) (.database reason')
  | internal (reason reason' : String) : Akin (.internal reason) (.internal reason')

/-- The same result, or failures that are akin. -/
inductive AkinResults {α : Type} : Except Failure α → Except Failure α → Prop
  | ok (a : α) : AkinResults (.ok a) (.ok a)
  | error {e e' : Failure} (akin : e.Akin e') : AkinResults (.error e) (.error e')

/-- The registers say the same of every driver, up to reasons that are akin. -/
def Register.Akin (register register' : Register) : Prop :=
  ∀ driver, AkinResults (register driver) (register' driver)

/-! ## Programs -/

/-- The desks differ at most in what the register says, and there only in reasons that are akin. -/
structure Desk.Akin (d d' : Desk Memory) : Prop where
  clock : d.clock = d'.clock
  ids : d.ids = d'.ids
  register : d.register.Akin d'.register
  inquiries : d.inquiries = d'.inquiries
  contents : d.contents = d'.contents

/-- Two computations have come to akin results, and have left akin desks. -/
structure AkinRuns {α : Type} (x y : Except Failure α × Desk Memory) : Prop where
  result : AkinResults x.1 y.1
  desk : x.2.Akin y.2

section

variable {d d' : Desk Memory}

/-- An ask is answered alike, and only the register can give different reasons. -/
theorem Desk.Akin.answer (h : d.Akin d') (request : Ask) :
    AkinRuns (Desk.answer Memory.backend request d) (Desk.answer Memory.backend request d') := by
  cases request with
  | clock =>
    rw [Desk.answer, Desk.answer, h.clock]
    exact ⟨.ok d'.clock, h⟩
  | freshId =>
    rw [Desk.answer, Desk.answer, h.ids]
    exact ⟨.ok d'.ids.next, { h with ids := rfl }⟩
  | verdict driver =>
    have hinquiries := congrArg (fun drivers => drivers ++ [driver]) h.inquiries
    exact ⟨h.register driver, { h with inquiries := hinquiries }⟩
  | storage c =>
    rw [Program.answer_storage, Program.answer_storage, h.contents]
    refine ⟨?_, { h with contents := rfl }⟩
    cases (Memory.answer c d'.contents).1 with
    | ok a => exact .ok a
    | error e => exact .error (.same e)

/-- **No program looks at a reason.** On akin desks a program comes to the same result, or it fails for
akin reasons. -/
theorem Program.akinRuns {α : Type} (p : Program α) (h : d.Akin d') :
    AkinRuns (p.run memoryHost d) (p.run memoryHost d') := by
  induction p generalizing d d' with
  | done a => exact ⟨.ok a, h⟩
  | fail e => exact ⟨.error (.same e), h⟩
  | ask request next ih =>
    have hanswer := h.answer request
    rw [run_ask, run_ask]
    generalize Desk.answer Memory.backend request d = x at hanswer ⊢
    generalize Desk.answer Memory.backend request d' = y at hanswer ⊢
    obtain ⟨x, e⟩ := x
    obtain ⟨y, e'⟩ := y
    obtain ⟨hresult, hdesk⟩ := hanswer
    cases hresult with
    | ok a => exact ih a hdesk
    | error akin => exact ⟨.error akin, hdesk⟩

/-! ## Responses -/

namespace Http

/-- What a response says under a name, if it is a JSON object. -/
def Response.member? (r : Response) (name : String) : Option Json :=
  match r.content with
  | .json (.object members) => members.lookup name
  | _ => none

/-- Akin reasons make the same response. -/
theorem Problem.response_eq_of_akin {e e' : Failure} (h : e.Akin e') :
    (failure e).response = (failure e').response := by
  cases h <;> rfl

/-- All other reasons are given in full. -/
theorem Problem.member?_details {e : Failure} (h : e.isExposable) :
    (failure e).response.member? "details" = some (.text e.message) := by
  simp only [response, h, describe]
  rfl

theorem respond_eq_of_akin (op : Operation) {x y : Except Failure Outcome}
    (h : AkinResults x y) : respond op x = respond op y := by
  cases h with
  | ok => rfl
  | error akin => exact Problem.response_eq_of_akin akin

/-- A request gets the same response at akin desks, and leaves akin desks. -/
theorem akin_serve (policy : Policy) (r : Request) (h : d.Akin d') :
    InStep Desk.Akin (serve policy memoryHost r d) (serve policy memoryHost r d') := by
  rw [serve, serve]
  cases Http.decide policy r with
  | settled response => exact ⟨rfl, h⟩
  | perform op =>
    have hrun := op.program.akinRuns h
    exact ⟨congrArg (finish policy r) (respond_eq_of_akin op hrun.result), hrun.desk⟩

end Http

/-! ## Sequences of requests -/

/-- The same request under the same clocks, where the register says the same up to akin reasons. -/
structure Visit.Akin (v v' : Visit) : Prop where
  clock : v.clock = v'.clock
  wall : v.wall = v'.wall
  register : v.register.Akin v'.register
  request : v.request = v'.request

theorem Desk.Akin.alike (h : d.Akin d') : d.Alike d' :=
  ⟨congrArg Memory.books h.contents, h.ids, h.inquiries⟩

theorem Visit.Akin.serve {v v' : Visit} (h : v.Akin v') (hd : d.Alike d') :
    InStep Desk.Akin (v.serve d) (v'.serve d') := by
  obtain ⟨clock, wall, register, request⟩ := v
  obtain ⟨clock', wall', register', request'⟩ := v'
  obtain ⟨rfl, rfl, hregister, rfl⟩ := h
  refine akin_serve .plain request ⟨rfl, hd.ids, hregister, hd.inquiries, ?_⟩
  exact congrArg (fun books => Memory.mk books wall) hd.books

/-- The responses to the requests of the visits, one after the other. -/
def Desk.responses (d : Desk Memory) : List Visit → List Response
  | [] => []
  | v :: visits => (v.serve d).1 :: (v.serve d).2.responses visits

/-- Akin visits get the same responses, and leave desks that are alike. -/
theorem Desk.Alike.visits {visits visits' : List Visit} (hd : d.Alike d')
    (h : List.Forall₂ Visit.Akin visits visits') :
    d.responses visits = d'.responses visits' ∧
      (d.afterVisits visits).Alike (d'.afterVisits visits') := by
  induction h generalizing d d' with
  | nil => exact ⟨rfl, hd⟩
  | cons hv _ ih =>
    have hserve := hv.serve hd
    obtain ⟨hrest, hafter⟩ := ih hserve.state.alike
    refine ⟨?_, hafter⟩
    rw [responses, responses, hserve.result, hrest]

end

/-- **What the operators know is not told.** Two sequences of the same requests, during which the
register says the same up to reasons that are not for clients, get the same responses. The books, the
identifiers drawn and the drivers asked about are the same afterwards. The response to a fault of the
database or inside the service does not depend on its reason, and the response to any other failure
says in its details what the failure is. -/
theorem internal_reasons_untold (d : Desk Memory) {visits visits' : List Visit}
    (h : List.Forall₂ Visit.Akin visits visits') :
    (d.responses visits = d.responses visits' ∧
      (d.afterVisits visits).Alike (d.afterVisits visits')) ∧
    (∀ reason reason', (Problem.failure (.database reason)).response =
        (Problem.failure (.database reason')).response ∧
      (Problem.failure (.internal reason)).response =
        (Problem.failure (.internal reason')).response) ∧
    ∀ e : Failure, (∀ reason, e ≠ .database reason) → (∀ reason, e ≠ .internal reason) →
      (Problem.failure e).response.member? "details" = some (.text e.message) := by
  refine ⟨Desk.Alike.visits ⟨rfl, rfl, rfl⟩ h, fun reason reason' => ?_, ?_⟩
  · exact ⟨Problem.response_eq_of_akin (.database reason reason'),
      Problem.response_eq_of_akin (.internal reason reason')⟩
  · intro e hdatabase hinternal
    apply Problem.member?_details
    cases e with
    | database reason => exact absurd rfl (hdatabase reason)
    | internal reason => exact absurd rfl (hinternal reason)
    | _ => rfl

/-- The register breaks down while a license is checked, and the driver is looked up afterwards. -/
def registerDown (reason : String) : List Visit :=
  [⟨.startOfDay newYear, .startOfDay newYear, fun _ => .error (.internal reason),
      ⟨"POST", "/drivers/driver/validate", [], []⟩⟩,
    ⟨.startOfDay newYear, .startOfDay newYear, fun _ => .ok .valid,
      ⟨"GET", "/drivers/driver", [], []⟩⟩]

/-- Nobody learns the password. -/
theorem internal_reasons_untold_registerDown :
    (history sampleIds sampleParties).responses (registerDown "password: 1234") =
      (history sampleIds sampleParties).responses (registerDown "disk full") := by
  have hvisits : List.Forall₂ Visit.Akin (registerDown "password: 1234")
      (registerDown "disk full") := by
    refine .cons ⟨rfl, rfl, fun driver => ?_, rfl⟩ (.cons ⟨rfl, rfl, fun driver => ?_, rfl⟩ .nil)
    · exact .error (.internal _ _)
    · exact .ok Verdict.valid
  exact (internal_reasons_untold (history sampleIds sampleParties) hvisits).1.1

/-- That something failed is not hidden. -/
example : ((history sampleIds sampleParties).responses (registerDown "disk full")).map
    Response.status = [500, 200] := by decide +kernel

end LeaseDesk
