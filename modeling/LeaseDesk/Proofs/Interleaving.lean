import LeaseDesk.Proofs.History

/-!
# Requests side by side

In a history one operation is over before the next one begins. When requests come in side by side,
this is not so: their programs take turns, one ask at a time, and what a program has been told may
be out of date when it asks the next thing. A `Hall` is a desk with the requests waiting at it, each
a `Session` with what is left of its program. A `Move` says whose turn it is, and what the world
outside shows then. `interleave` plays a list of moves, and as the list is arbitrary, so is the
order in which the asks of the requests mix.

A single request that has all the turns does what it does in a history (`Program.run_step`).
-/

namespace LeaseDesk

open Storage

namespace Program

variable {α σ : Type}

/-- One ask of a program: what is left of the program, and the state afterwards. A program that has
ended stays as it is. -/
def step (host : Host σ) : Program α → σ → Program α × σ
  | done a, s => (done a, s)
  | fail e, s => (fail e, s)
  | ask request next, s =>
    match host.answer request s with
    | (.ok a, s) => (next a, s)
    | (.error e, s) => (fail e, s)

/-- The first ask makes no difference to what a program comes to. -/
theorem run_step (host : Host σ) (p : Program α) (s : σ) :
    (p.step host s).1.run host (p.step host s).2 = p.run host s := by
  cases p with
  | done a => rfl
  | fail e => rfl
  | ask request next =>
    rw [step, run]
    rcases host.answer request s with ⟨e | a, t⟩ <;> rfl

/-- An idle ask leaves everything as it is, but for the note of whom the register was asked about.
-/
theorem step_of_idle {request : Ask} (idle : request.isIdle) (next : request.Answer → Program α)
    (d : Desk Memory) :
    ∃ drivers q, (ask request next).step memoryHost d = (q, d.asking drivers) ∧
      ((∃ a, q = next a) ∨ ∃ e, q = fail e) := by
  obtain ⟨drivers, ⟨a, ha⟩ | ⟨e, he, -⟩⟩ := Desk.answer_of_idle idle d
  · refine ⟨drivers, next a, ?_, .inl ⟨a, rfl⟩⟩
    rw [step, show memoryHost.answer request d = _ from ha]
  · refine ⟨drivers, fail e, ?_, .inr ⟨e, rfl⟩⟩
    rw [step, show memoryHost.answer request d = _ from he]

end Program

/-- A request, and what is left of its program. -/
structure Session where
  /-- what was asked of the desk -/
  request : Operation
  /-- what is left to do -/
  rest : Program Outcome

/-- A session at its beginning. -/
def Session.open (request : Operation) : Session := ⟨request, request.program⟩

/-- The session after its next ask, which is put to the desk. -/
def Session.next (s : Session) (d : Desk Memory) : Session :=
  ⟨s.request, (s.rest.step memoryHost d).1⟩

/-- A desk, and the sessions that take turns at it. -/
structure Hall where
  /-- the desk -/
  desk : Desk Memory
  /-- the sessions -/
  sessions : List Session

/-- Whose turn it is, and what the world outside shows. -/
structure Move where
  /-- the place of the session in the list -/
  turn : Nat
  /-- what the clock shows -/
  clock : Instant
  /-- what the clock on the wall shows -/
  wall : Instant
  /-- what the license register says -/
  register : Register

/-- The desk before the ask of the move. -/
def Move.prepare (m : Move) (d : Desk Memory) : Desk Memory :=
  { d with
    clock := m.clock
    register := m.register
    contents := { d.contents with wall := m.wall } }

namespace Hall

/-- The hall after a move. Nothing happens if there is no session in the place. -/
def after (h : Hall) (m : Move) : Hall :=
  match h.sessions[m.turn]? with
  | none => h
  | some s =>
    ⟨(s.rest.step memoryHost (m.prepare h.desk)).2,
      h.sessions.set m.turn (s.next (m.prepare h.desk))⟩

variable {h : Hall} {m : Move} {s : Session}

theorem after_of_none (hs : h.sessions[m.turn]? = none) : h.after m = h := by
  rw [after, hs]

theorem desk_after (hs : h.sessions[m.turn]? = some s) :
    (h.after m).desk = (s.rest.step memoryHost (m.prepare h.desk)).2 := by
  rw [after, hs]

theorem sessions_after (hs : h.sessions[m.turn]? = some s) :
    (h.after m).sessions = h.sessions.set m.turn (s.next (m.prepare h.desk)) := by
  rw [after, hs]

/-- The session whose turn it is goes on by one ask. -/
theorem getElem?_after_self (hs : h.sessions[m.turn]? = some s) :
    (h.after m).sessions[m.turn]? = some (s.next (m.prepare h.desk)) := by
  obtain ⟨hlt, -⟩ := List.getElem?_eq_some_iff.mp hs
  rw [sessions_after hs, List.getElem?_set_self hlt]

/-- The others wait. -/
theorem getElem?_after_of_ne {i : Nat} (hi : m.turn ≠ i) :
    (h.after m).sessions[i]? = h.sessions[i]? := by
  cases hs : h.sessions[m.turn]? with
  | none => rw [after_of_none hs]
  | some s => rw [sessions_after hs, List.getElem?_set_ne hi]

/-- After a move, every session is as it was, or it is the one whose turn it was. -/
theorem mem_sessions_after {t : Session} (ht : t ∈ (h.after m).sessions) :
    t ∈ h.sessions ∨
      ∃ s, h.sessions[m.turn]? = some s ∧ t = s.next (m.prepare h.desk) := by
  cases hs : h.sessions[m.turn]? with
  | none =>
    rw [after_of_none hs] at ht
    exact .inl ht
  | some s =>
    rw [sessions_after hs] at ht
    exact (List.mem_or_eq_of_mem_set ht).imp id fun hts => ⟨s, rfl, hts⟩

end Hall

/-- The hall after the moves, if the requests have come in all at once. -/
def interleave (d : Desk Memory) (requests : List Operation) (moves : List Move) : Hall :=
  moves.foldl Hall.after ⟨d, requests.map Session.open⟩

variable {d : Desk Memory} {requests : List Operation}

theorem interleave_append_singleton (past : List Move) (m : Move) :
    interleave d requests (past ++ [m]) = (interleave d requests past).after m := by
  rw [interleave, List.foldl_append]
  rfl

/-- **Ask by ask.** What holds of every session at its beginning and is kept by every ask, holds of
all sessions at any time. -/
theorem session_invariant {P : Session → Prop} (start : ∀ op ∈ requests, P (.open op))
    (step : ∀ s e, P s → P (s.next e)) (moves : List Move) :
    ∀ s ∈ (interleave d requests moves).sessions, P s := by
  induction moves using List.reverseRecOn with
  | nil =>
    intro s hs
    obtain ⟨op, hop, rfl⟩ := List.mem_map.mp hs
    exact start op hop
  | append_singleton past m ih =>
    intro s hs
    rw [interleave_append_singleton] at hs
    rcases Hall.mem_sessions_after hs with hs | ⟨t, ht, rfl⟩
    · exact ih s hs
    · exact step t _ (ih t (List.mem_of_getElem? ht))

end LeaseDesk
