import LeaseDesk.Proofs.Deciding
import LeaseDesk.Proofs.Footprint
import LeaseDesk.Proofs.History

/-!
# Serving requests

Between the clients and the desk stands nothing that the desk would notice. A request is either
answered on the spot, and the desk is as it was, or it comes down to one operation, the one that it
names, and the response reports what that came to (`Served`). So the books change only where a
request is answered with success, and never when somebody only wants to read. `serve_refines` has
all this for every request, and for every request in a sequence.

As far as the desk is concerned, a sequence of requests is a history of the operations that they
name, and what holds in all histories holds however the desk is asked (`alike_history`).
-/

namespace LeaseDesk

open Http Storage

/-! ## Reports -/

/-- **What a response says of an operation.** Records are shown as clients see them, with the status
201 if they are new and 200 otherwise, and so are lists and verdicts. Deleting and restoring leave
nothing to be said. A failure has its place in the table of problems. -/
inductive Operation.Reports (op : Operation) : Except Failure Outcome → Response → Prop
  | made {kind : Kind} {r : kind.Record} (operation : op.enters = some kind) :
      Reports op (.ok (.record kind r)) (.ofJson 201 (Representation.forClients kind r))
  | shown {kind : Kind} {r : kind.Record} (operation : op.enters = none) :
      Reports op (.ok (.record kind r)) (.ofJson 200 (Representation.forClients kind r))
  | listed {listing : Listing} {rs : List listing.kind.Record} (operation : op = .list listing) :
      Reports op (.ok (.records listing.kind rs))
        (.ofJson 200 (.list (rs.map (Representation.forClients listing.kind))))
  | judged {driverId : String} {v : Verdict} (operation : op = .validateLicense driverId) :
      Reports op (.ok (.verdict v)) (.ofJson 200 (verdictJson driverId v))
  | silent {kind : Kind} {id : String}
      (operation : op = .delete kind id ∨ op = .undelete kind id) :
      Reports op (.ok .nothing) (.bare 204)
  | failed {e : Failure} : Reports op (.error e) (Problem.failure e).response

namespace Operation

variable {op : Operation} {d d' : Desk Memory} {out : Outcome}

theorem Reports.eq_respond {result : Except Failure Outcome} {response : Response}
    (h : op.Reports result response) : response = respond op result := by
  cases h with
  | made operation => cases op <;> first | rfl | exact nomatch operation
  | shown operation => cases op <;> first | rfl | exact nomatch operation
  | listed => rfl
  | judged operation => rw [operation]; rfl
  | silent => rfl
  | failed => rfl

open Program in
theorem reports_of_yields (h : op.program.Yields d out d') :
    op.Reports (.ok out) (respond op (.ok out)) := by
  cases op <;> simp only [Operation.program, bind_eq, pure_eq] at h <;>
    obtain ⟨a, -, rfl⟩ := yields_map.mp h
  case validateLicense => exact .judged rfl
  case list => exact .listed rfl
  case delete => exact .silent (.inl rfl)
  case undelete => exact .silent (.inr rfl)
  case get | terminateContract | returnVehicle => exact .shown rfl
  all_goals exact .made rfl

/-- Responses report what operations come to. -/
theorem reports_respond {result : Except Failure Outcome}
    (h : op.program.run memoryHost d = (result, d')) : op.Reports result (respond op result) := by
  cases result with
  | error e => exact .failed
  | ok out => exact reports_of_yields h

/-- Nothing but a failure is reported with a status of 400 or above. -/
theorem Reports.status_lt {response : Response} (h : op.Reports (.ok out) response) :
    response.status < 400 := by
  cases h <;> exact of_decide_eq_true rfl

end Operation

/-! ## Single requests -/

/-- **What becomes of a request.** -/
inductive Served (r : Request) (d : Desk Memory) : Response → Desk Memory → Prop
  /-- it is answered, and the desk is as it was -/
  | settled {response : Response} (reason : r.Settles response) : Served r d response d
  /-- the operation that it names is performed, and the response reports what it came to -/
  | performed {op : Operation} {result : Except Failure Outcome} {d' : Desk Memory}
      {response : Response} (named : r.Names op) (run : op.program.run memoryHost d = (result, d'))
      (reported : op.Reports result response) : Served r d (r.cut response) d'

section

variable {r : Request} {d d' : Desk Memory} {response : Response}

theorem status_cut (r : Request) (response : Response) :
    (r.cut response).status = response.status := by
  rw [Request.cut]
  split <;> rfl

/-- Serving a request does what becomes of it, and nothing else does. -/
theorem serve_eq_iff : serve .plain memoryHost r d = (response, d') ↔ Served r d response d' := by
  constructor
  · intro h
    rw [serve] at h
    cases hdecide : Http.decide .plain r with
    | settled answer =>
      rw [hdecide] at h
      obtain ⟨rfl, rfl⟩ := Prod.mk.inj h
      exact .settled (settled_iff.mp ⟨answer, hdecide, rfl⟩)
    | perform op =>
      have hnamed := decide_eq_perform_iff.mp hdecide
      rcases hrun : op.program.run memoryHost d with ⟨result, d''⟩
      rw [hdecide] at h
      simp only [hrun, finish_of_names hnamed] at h
      obtain ⟨rfl, rfl⟩ := Prod.mk.inj h
      exact .performed hnamed hrun (Operation.reports_respond hrun)
  · rintro (hreason | ⟨hnamed, hrun, hreported⟩)
    · obtain ⟨answer, hdecide, hfinish⟩ := settled_iff.mpr hreason
      rw [serve, hdecide]
      simp only [hfinish]
    · rw [serve, decide_of_names hnamed]
      simp only [hrun, finish_of_names hnamed, hreported.eq_respond]

/-- **The books change only with success**, and never when somebody only wants to read. -/
theorem Served.books (h : Served r d response d') (hquiet : 400 ≤ response.status ∨ r.Reads) :
    d'.books = d.books := by
  cases h with
  | settled => rfl
  | @performed op result d' response named run reported =>
    cases result with
    | error e => exact (Operation.failing run).books
    | ok out =>
      rcases hquiet with hstatus | hreads
      · rw [status_cut] at hstatus
        exact absurd reported.status_lt (Nat.not_lt.mpr hstatus)
      · refine (Operation.footprint_of_yields run).reading ?_
        rcases named.of_reads hreads with ⟨kind, id, rfl⟩ | ⟨listing, rfl⟩ <;> rfl

end

/-! ## Sequences of requests -/

/-- A request, and what the world outside shows while it is served. -/
structure Visit where
  /-- what the clock shows -/
  clock : Instant
  /-- what the clock on the wall shows -/
  wall : Instant
  /-- what the license register says -/
  register : Register
  /-- the request -/
  request : Request

namespace Visit

/-- The desk before the request is served. -/
def prepare (v : Visit) (d : Desk Memory) : Desk Memory :=
  { d with
    clock := v.clock
    register := v.register
    contents := { d.contents with wall := v.wall } }

/-- The response to the request, and the desk afterwards. -/
def serve (v : Visit) (d : Desk Memory) : Response × Desk Memory :=
  Http.serve .plain memoryHost v.request (v.prepare d)

end Visit

/-- The desk after the visits. -/
def Desk.afterVisits (d : Desk Memory) (visits : List Visit) : Desk Memory :=
  visits.foldl (fun d v => (v.serve d).2) d

/-- **Requests come down to operations.** Every request at every desk is served in one way: it is
answered for a reason, and the desk is as it was, or it names an operation, that operation is
performed, and the result is reported. It names no other operation, and there is no reason to answer
it without. In any sequence of requests, one that is refused or only wants to read leaves the books
as they were. -/
theorem serve_refines (d : Desk Memory) :
    (∀ r response d', Http.serve .plain memoryHost r d = (response, d') ↔ Served r d response d') ∧
      (∀ r : Request, ∀ op, r.Names op →
        (∀ op', r.Names op' → op' = op) ∧ ∀ response, ¬ r.Settles response) ∧
      ∀ past v, 400 ≤ (v.serve (d.afterVisits past)).1.status ∨ v.request.Reads →
        (d.afterVisits (past ++ [v])).books = (d.afterVisits past).books := by
  refine ⟨fun r response d' => serve_eq_iff, fun r op h => ⟨fun op' => h.unique, h.not_settles⟩,
    fun past v hquiet => ?_⟩
  rw [Desk.afterVisits, List.foldl_append]
  have hserved : Served v.request (v.prepare (d.afterVisits past)) _ _ := serve_eq_iff.mp rfl
  exact hserved.books hquiet

/-! ## Sequences of requests as histories -/

/-- The turn in which the operation that the request names is performed, if it names one. -/
def Visit.turn? (v : Visit) : Option Turn :=
  match Http.decide .plain v.request with
  | .settled _ => none
  | .perform op => some ⟨v.clock, v.wall, v.register, op⟩

/-- Two desks differ at most in what they show of the world outside. -/
structure Desk.Alike (d d' : Desk Memory) : Prop where
  books : d.books = d'.books
  ids : d.ids = d'.ids
  inquiries : d.inquiries = d'.inquiries

theorem Desk.Alike.prepare_eq {d d' : Desk Memory} (h : d.Alike d') (v : Visit) {op : Operation} :
    v.prepare d = Turn.prepare ⟨v.clock, v.wall, v.register, op⟩ d' := by
  obtain ⟨clock, ids, register, inquiries, books, wall⟩ := d
  obtain ⟨clock', ids', register', inquiries', books', wall'⟩ := d'
  obtain ⟨rfl, rfl, rfl⟩ := h
  rfl

/-- On desks that are alike, requests and the operations they name leave desks that are alike. -/
theorem Desk.Alike.after {d d' : Desk Memory} (h : d.Alike d') (visits : List Visit) :
    (d.afterVisits visits).Alike
      ((visits.filterMap Visit.turn?).foldl (fun d t => t.after d) d') := by
  induction visits generalizing d d' with
  | nil => exact h
  | cons v visits ih =>
    rw [afterVisits, List.foldl_cons, ← afterVisits, List.filterMap_cons, Visit.serve, serve,
      Visit.turn?]
    cases Http.decide .plain v.request with
    | settled answer => exact ih ⟨h.books, h.ids, h.inquiries⟩
    | perform op =>
      rw [h.prepare_eq v]
      exact ih ⟨rfl, rfl, rfl⟩

/-- **Sequences of requests are histories.** At a desk with empty books, requests leave what is left
by the history of the operations that they name. -/
theorem alike_history (ids : IdSource) (visits : List Visit) :
    ((Desk.opening ids).afterVisits visits).Alike (history ids (visits.filterMap Visit.turn?)) :=
  Desk.Alike.after ⟨rfl, rfl, rfl⟩ visits

end LeaseDesk
