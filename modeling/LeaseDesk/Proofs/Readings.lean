import LeaseDesk.Proofs.History

/-!
# What the clock has shown

Time matters only where somebody looks at the clock. `Program.trace` lists the asks that a program
makes, and `readings` collects, over a whole history, what the clock showed whenever it was asked. A
theorem about a clock that goes forward speaks of the readings alone; what the clock shows in turns in
which nobody looks is left open.

An operation that needs the time cannot come to a result without asking for it (`Program.Timed`).
Since a failing operation writes nothing, it follows that an operation that needs the time has either
read the clock or left the books alone (`Turn.untouched_or_reads`). So all times on record are times
the clock has shown (`stamps_history`).
-/

namespace LeaseDesk

open Storage

/-! ## Programs -/

namespace Program

variable {α β σ : Type}

/-- The asks that a program makes, up to its end or to the first ask that fails. -/
def trace (host : Host σ) : Program α → σ → List Ask
  | done _, _ => []
  | fail _, _ => []
  | ask request next, s =>
    request ::
      match host.answer request s with
      | (.ok a, s) => (next a).trace host s
      | (.error _, _) => []

/-- The program comes to no result without asking for the time. -/
inductive Timed : Program α → Prop
  | fail (e : Failure) : Timed (fail e)
  | clock (next : Instant → Program α) : Timed (ask .clock next)
  | ask (request : Ask) {next : request.Answer → Program α} (rest : ∀ a, Timed (next a)) :
      Timed (ask request next)

/-- It is enough that the time is asked for in the end. -/
theorem Timed.bind_right (p : Program α) {f : α → Program β} (hf : ∀ a, (f a).Timed) :
    (p.bind f).Timed := by
  induction p with
  | done a => exact hf a
  | fail e => exact .fail e
  | ask request next ih => exact .ask request ih

/-- It is enough that the time is asked for in the beginning. -/
theorem Timed.bind_left {p : Program α} (hp : p.Timed) (f : α → Program β) :
    (p.bind f).Timed := by
  induction hp with
  | fail e => exact .fail e
  | clock next => exact .clock _
  | ask request _ ih => exact .ask request ih

theorem timed_clock_bind (f : Instant → Program β) : (clock.bind f).Timed := .clock _

theorem trace_ask (request : Ask) (next : request.Answer → Program α) (d : Desk Memory) :
    (ask request next).trace memoryHost d = request ::
      match Desk.answer Memory.backend request d with
      | (.ok a, d) => (next a).trace memoryHost d
      | (.error _, _) => [] := by
  rw [trace, show memoryHost.answer request d = Desk.answer Memory.backend request d from rfl]
  rcases Desk.answer Memory.backend request d with ⟨e | a, s⟩ <;> rfl

/-- Who comes to a result has asked for the time. -/
theorem Timed.clock_mem_trace {p : Program α} (hp : p.Timed) {d d' : Desk Memory} {a : α}
    (h : p.Yields d a d') : Ask.clock ∈ p.trace memoryHost d := by
  induction hp generalizing d with
  | fail e => exact absurd h not_yields_fail
  | clock next => exact List.mem_cons_self ..
  | ask request _ ih =>
    obtain ⟨b, e, hanswer, hrest⟩ := yields_ask.mp h
    rw [trace_ask, hanswer]
    exact List.mem_cons_of_mem _ (ih b hrest)

end Program

/-! ## Operations -/

namespace Procedure

open Program

theorem timed_terminateContract (id terminatedBy : String) :
    (terminateContract id terminatedBy).Timed := by
  simp only [terminateContract, bind_eq]
  refine .bind_right _ fun _ => .bind_right _ fun _ => .bind_right _ fun _ => ?_
  exact .bind_right _ fun _ => timed_clock_bind _

theorem timed_assignVehicle (contractId vehicleId : String) :
    (assignVehicle contractId vehicleId).Timed := by
  simp only [assignVehicle, bind_eq]
  refine .bind_right _ fun _ => .bind_right _ fun _ => .bind_right _ fun _ => ?_
  exact .bind_right _ fun _ => timed_clock_bind _

theorem timed_returnVehicle (id : String) : (returnVehicle id).Timed := by
  simp only [returnVehicle, bind_eq]
  refine .bind_right _ fun _ => .bind_right _ fun _ => ?_
  exact .bind_right _ fun _ => timed_clock_bind _

theorem timed_delete_driver (id : String) : (delete .driver id).Timed := by
  simp only [delete, bind_eq, if_true]
  refine .bind_right _ fun _ => .bind_left ?_ _
  exact timed_clock_bind _

end Procedure

/-- The operation needs the time. -/
def Operation.isTimed : Operation → Bool
  | .terminateContract .. | .assignVehicle .. | .returnVehicle .. => true
  | .delete kind _ => kind = .driver
  | _ => false

theorem Operation.timed {op : Operation} (h : op.isTimed) : op.program.Timed := by
  cases op <;> simp only [isTimed, Bool.false_eq_true, decide_eq_true_eq] at h <;>
    simp only [program, Program.bind_eq, Program.pure_eq]
  case terminateContract => exact .bind_left (Procedure.timed_terminateContract _ _) _
  case assignVehicle => exact .bind_left (Procedure.timed_assignVehicle _ _) _
  case returnVehicle => exact .bind_left (Procedure.timed_returnVehicle _) _
  case delete =>
    subst h
    exact .bind_left (Procedure.timed_delete_driver _) _

/-- Only one operation makes assignments, and it needs the time. -/
theorem Operation.isTimed_of_enters {op : Operation} (h : op.enters = some .assignment) :
    op.isTimed := by
  cases op <;> first | rfl | exact nomatch h

/-! ## Turns -/

namespace Turn

variable (t : Turn) (d : Desk Memory)

/-- What the clock shows in the turn, as often as it is asked. -/
def reads : List Instant :=
  (t.operation.program.trace memoryHost (t.prepare d)).filterMap fun
    | .clock => some t.clock
    | _ => none

variable {t d}

theorem eq_clock_of_mem_reads {i : Instant} (h : i ∈ t.reads d) : i = t.clock := by
  obtain ⟨request, -, hi⟩ := List.mem_filterMap.mp h
  cases request with
  | clock => exact (Option.some.inj hi).symm
  | _ => exact nomatch hi

/-- An operation that needs the time has read the clock when it comes to a result. -/
theorem clock_mem_reads (htimed : t.operation.isTimed) {out : Outcome}
    (hok : (t.play d).1 = .ok out) : t.clock ∈ t.reads d := by
  have hask := (Operation.timed htimed).clock_mem_trace (yields_of_ok hok)
  exact List.mem_filterMap.mpr ⟨.clock, hask, rfl⟩

/-- Restoring a record takes no time. -/
theorem reads_undelete {kind : Kind} {id : String} (h : t.operation = .undelete kind id) :
    t.reads d = [] := by
  rw [reads, h]
  simp only [Operation.program, Procedure.undelete, Procedure.requireId, Program.require,
    Program.bind_eq]
  split
  · rw [Program.done_bind, Program.call, Program.ask_bind, Program.trace_ask]
    rcases Desk.answer Memory.backend _ _ with ⟨e | u, s⟩ <;> rfl
  · rfl

variable (t d)

/-- **Nothing is written out of time.** An operation that needs the time has read the clock, unless it
has left the books alone. -/
theorem untouched_or_reads :
    (t.after d).books = d.books ∨ (t.operation.isTimed → t.clock ∈ t.reads d) := by
  cases hresult : (t.play d).1 with
  | error e => exact .inl (books_after_of_error hresult)
  | ok out => exact .inr fun htimed => clock_mem_reads htimed hresult

end Turn

/-! ## Histories -/

/-- What the clock shows in turns played on the desk, as often as it is asked. -/
def Desk.reads : Desk Memory → List Turn → List Instant
  | _, [] => []
  | d, t :: turns => t.reads d ++ reads (t.after d) turns

/-- What the clock shows in the course of a history, as often as it is asked. -/
def readings (ids : IdSource) (turns : List Turn) : List Instant :=
  (Desk.opening ids).reads turns

theorem readings_append_singleton (ids : IdSource) (past : List Turn) (t : Turn) :
    readings ids (past ++ [t]) = readings ids past ++ t.reads (history ids past) := by
  rw [readings, readings, history]
  generalize Desk.opening ids = d
  induction past generalizing d with
  | nil => simp [Desk.reads]
  | cons u past ih =>
    rw [List.cons_append, Desk.reads, ih, Desk.reads, List.foldl_cons, List.append_assoc]

theorem readings_mono {ids : IdSource} {past turns : List Turn} (h : past <+: turns) :
    readings ids past <+: readings ids turns := by
  obtain ⟨later, rfl⟩ := h
  induction later using List.reverseRecOn with
  | nil => simp
  | append_singleton later t ih =>
    rw [← List.append_assoc, readings_append_singleton]
    exact ih.trans (List.prefix_append _ _)

/-- Whatever the clock has shown, it showed in some turn. -/
theorem exists_turn_of_mem_readings {ids : IdSource} {turns : List Turn} {i : Instant}
    (h : i ∈ readings ids turns) : ∃ t ∈ turns, t.clock = i := by
  induction turns using List.reverseRecOn with
  | nil => exact nomatch h
  | append_singleton turns u ih =>
    rw [readings_append_singleton, List.mem_append] at h
    rcases h with hearlier | hnow
    · obtain ⟨t, ht, hclock⟩ := ih hearlier
      exact ⟨t, List.mem_append_left _ ht, hclock⟩
    · exact ⟨u, by simp, (Turn.eq_clock_of_mem_reads hnow).symm⟩

/-- When the clock is read, it shows more than ever before. -/
theorem lt_clock_of_mem_readings {ids : IdSource} {past : List Turn} {t : Turn}
    (hclock : (readings ids (past ++ [t])).Pairwise (· < ·))
    (hread : t.clock ∈ t.reads (history ids past)) {i : Instant} (hi : i ∈ readings ids past) :
    i < t.clock := by
  rw [readings_append_singleton] at hclock
  exact (List.pairwise_append.mp hclock).2.2 i hi _ hread

/-! ## Times on record -/

/-- The instants that stand in the data of a record. -/
def Kind.stamps : (kind : Kind) → kind.Data → List Instant
  | .contract, c => c.terminatedAt.toList
  | .assignment, a => a.startTime :: a.endTime.toList
  | .legalEntity, _ | .fleet, _ | .vehicle, _ | .driver, _ => []

/-- New data are stamped, if at all, with the time they are entered. -/
theorem Desk.Admits.stamps {d : Desk Memory} {kind : Kind} {data : kind.Data}
    (h : d.Admits kind data) : ∀ i ∈ kind.stamps data, kind = .assignment ∧ i = d.clock := by
  intro i hi
  cases kind with
  | contract =>
    rw [Kind.stamps, h.running.1] at hi
    exact nomatch hi
  | assignment =>
    obtain ⟨c, v, h⟩ := h
    rw [Kind.stamps, h.handedOut.1, h.handedOut.2] at hi
    exact ⟨rfl, List.mem_singleton.mp hi⟩
  | _ => exact nomatch hi

/-- **Times on record are times the clock has shown.** -/
theorem stamps_history (ids : IdSource) (turns : List Turn) :
    ∀ kind s, (history ids turns).books.Stored kind s → ∀ i ∈ kind.stamps s.data,
      i ∈ readings ids turns := by
  refine turns_induction (P := fun turns => ∀ kind s, (history ids turns).books.Stored kind s →
    ∀ i ∈ kind.stamps s.data, i ∈ readings ids turns)
    (fun _ s hs => absurd hs Books.not_stored_empty) ?_
  intro past t _ h kind s hs i hi
  rw [history_append_singleton] at hs
  rw [readings_append_singleton, List.mem_append]
  rcases t.untouched_or_reads (history ids past) with hbooks | hreads
  · rw [hbooks] at hs
    exact .inl (h kind s hs i hi)
  cases (t.effect _).source hs with
  | kept stored => exact .inl (h kind s stored i hi)
  | entered data operation admits =>
    obtain ⟨rfl, rfl⟩ := admits.stamps i hi
    exact .inr (hreads (Operation.isTimed_of_enters operation))
  | terminated r _ operation =>
    obtain rfl := List.mem_singleton.mp hi
    refine .inr (hreads ?_)
    rw [operation]
    rfl
  | returned r operation live =>
    rcases List.mem_cons.mp hi with rfl | hend
    · exact .inl (h _ r live.stored _ (List.mem_cons_self ..))
    · obtain rfl := List.mem_singleton.mp hend
      refine .inr (hreads ?_)
      rw [operation]
      rfl
  | buried r _ live => exact .inl (h kind r live.stored i hi)
  | restored r _ stored => exact .inl (h kind r stored i hi)

end LeaseDesk
