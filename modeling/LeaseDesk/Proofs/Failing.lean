import LeaseDesk.Proofs.Looking
import LeaseDesk.Proofs.Yields

/-!
# What a failing operation leaves behind

Here the programs that look before they write are run. As long as one looks, the desk stays as it
is, except that the register may be asked about drivers (`Program.LooksUntil.run_cases`). A failure
then comes either from looking, or from an ending, and of the endings only two can fail: there may
be no identifier for a new record, and a call may find no record to write to. Either way the books
are as they were (`Operation.failing`).

Of the identifiers, any program at all can only draw more, in their order.
-/

namespace LeaseDesk

open Storage

/-! ## Asks -/

/-- A call that fails writes nothing, and anybody may know why it failed. -/
theorem Storage.Memory.of_answer_error {c : Call} {m m' : Memory} {e : Failure}
    (h : Memory.answer c m = (.error e, m')) : m' = m ∧ e.isExposable := by
  -- only the two calls that look a record up before they write can fail
  cases c with
  | bury kind id =>
    rw [Memory.answer] at h
    split at h
    · obtain ⟨he, rfl⟩ := Prod.mk.inj h
      exact ⟨rfl, Except.error.inj he ▸ rfl⟩
    · split at h
      · obtain ⟨he, rfl⟩ := Prod.mk.inj h
        exact ⟨rfl, Except.error.inj he ▸ rfl⟩
      · cases (Prod.mk.inj h).1
  | restore kind id =>
    rw [Memory.answer] at h
    split at h
    · obtain ⟨he, rfl⟩ := Prod.mk.inj h
      exact ⟨rfl, Except.error.inj he ▸ rfl⟩
    · cases (Prod.mk.inj h).1
  | _ => cases (Prod.mk.inj h).1

/-- The same identifiers in the same order, and none of them drawn that is not drawn here. -/
def IdSource.Leads (s s' : IdSource) : Prop :=
  s'.ids = s.ids ∧ s.drawn ≤ s'.drawn

theorem IdSource.Leads.refl (s : IdSource) : s.Leads s := ⟨rfl, Nat.le_refl _⟩

theorem IdSource.Leads.trans {s t u : IdSource} (h : s.Leads t) (h' : t.Leads u) : s.Leads u :=
  ⟨h'.1.trans h.1, Nat.le_trans h.2 h'.2⟩

theorem IdSource.leads_advance (s : IdSource) : s.Leads s.advance := ⟨rfl, Nat.le_succ _⟩

namespace Desk

variable {d d' : Desk Memory} {request : Ask}

/-- The desk after the register was asked about several drivers. -/
def asking (d : Desk Memory) (drivers : List Driver) : Desk Memory :=
  { d with inquiries := d.inquiries ++ drivers }

theorem asking_nil (d : Desk Memory) : d.asking [] = d := by
  rw [asking, List.append_nil]

theorem asking_asking (d : Desk Memory) (earlier later : List Driver) :
    (d.asking earlier).asking later = d.asking (earlier ++ later) := by
  rw [asking, asking, asking, List.append_assoc]

/-- An idle ask leaves everything as it is, but for the note of whom the register was asked about.
It fails only where the register does. -/
theorem answer_of_idle (idle : request.isIdle) (d : Desk Memory) :
    ∃ drivers, (∃ a, answer Memory.backend request d = (.ok a, d.asking drivers)) ∨
      ∃ e, answer Memory.backend request d = (.error e, d.asking drivers) ∧
        ∃ driver, d.register driver = .error e := by
  rcases request with _ | _ | driver | c
  case clock => exact ⟨[], .inl ⟨d.clock, by rw [asking_nil, answer]⟩⟩
  case freshId => cases idle
  case verdict =>
    refine ⟨[driver], ?_⟩
    rcases h : d.register driver with e | v
    · exact .inr ⟨e, by rw [answer, h, asking], driver, h⟩
    · exact .inl ⟨v, by rw [answer, h, asking]⟩
  case storage =>
    refine ⟨[], .inl ?_⟩
    rw [asking_nil]
    cases c <;> first | exact ⟨_, rfl⟩ | cases idle

theorem ids_of_answer {a : Except Failure request.Answer}
    (h : answer Memory.backend request d = (a, d')) : d.ids.Leads d'.ids := by
  rw [← (Prod.mk.inj h).2]
  cases request with
  | freshId => exact IdSource.leads_advance _
  | _ => exact IdSource.Leads.refl _

end Desk

/-! ## Programs -/

namespace Program

variable {α : Type} {P : Program α → Prop} {p : Program α} {d d' : Desk Memory}

/-- **Looking changes nothing.** A program that looks for an ending gets there on the same desk, up
to the note of whom the register was asked about, or fails on it. It fails with a reason that
anybody may know, unless the register gave the reason. -/
theorem LooksUntil.run_cases (hp : p.LooksUntil P) (d : Desk Memory) :
    ∃ drivers, (∃ q, P q ∧ p.run memoryHost d = q.run memoryHost (d.asking drivers)) ∨
      ∃ e, p.run memoryHost d = (.error e, d.asking drivers) ∧
        (e.isExposable ∨ ∃ driver, d.register driver = .error e) := by
  induction hp generalizing d with
  | @reached p ending =>
    refine ⟨[], .inl ⟨p, ending, ?_⟩⟩
    rw [Desk.asking_nil]
  | fail e exposable =>
    refine ⟨[], .inr ⟨e, ?_, .inl exposable⟩⟩
    rw [Desk.asking_nil, run_fail]
  | look idle _ ih =>
    obtain ⟨earlier, ⟨a, ha⟩ | ⟨e, he, hreg⟩⟩ := Desk.answer_of_idle idle d
    · obtain ⟨later, h⟩ := ih a (d.asking earlier)
      refine ⟨earlier ++ later, ?_⟩
      rw [run_ask, ha, ← Desk.asking_asking]
      exact h
    · refine ⟨earlier, .inr ⟨e, ?_, .inr hreg⟩⟩
      rw [run_ask, he]

/-- **Identifiers are only ever drawn**, by any program whatever. -/
theorem ids_of_run {r : Except Failure α} (h : p.run memoryHost d = (r, d')) :
    d.ids.Leads d'.ids := by
  induction p generalizing d with
  | done a =>
    rw [← (Prod.mk.inj h).2]
    exact IdSource.Leads.refl _
  | fail e =>
    rw [← (Prod.mk.inj h).2]
    exact IdSource.Leads.refl _
  | ask request next ih =>
    rw [run_ask] at h
    split at h
    · rename_i hans
      exact (Desk.ids_of_answer hans).trans (ih _ h)
    · rename_i hans
      rw [← (Prod.mk.inj h).2]
      exact Desk.ids_of_answer hans

/-- A new record is entered under the next identifier, which is drawn even if it is empty. -/
theorem run_enter (kind : Kind) (data : kind.Data) (d : Desk Memory) :
    (Procedure.enter kind data).run memoryHost d =
      if d.ids.next = "" then (.error .emptyId, d.draw)
      else (.ok (.fresh d.ids.next data), d.enter kind data) := by
  have hdrawn : (Procedure.enter kind data).run memoryHost d =
      (((require (!d.ids.next.isEmpty) .emptyId).bind fun _ => done d.ids.next).bind fun id =>
        (call (.save kind (.fresh id data))).bind fun _ => done (.fresh id data)).run memoryHost
          d.draw := rfl
  split_ifs with h
  · rw [hdrawn, h]
    rfl
  · have hnamed : (!d.ids.next.isEmpty) = true := by simpa using h
    rw [hdrawn, hnamed]
    rfl

end Program

/-! ## Operations -/

/-- What an operation that failed has left behind: the books as they were, and no identifier drawn,
except that an operation that makes a record draws the next one only to find it empty. Nothing else
fails for want of an identifier, unless the register says so. -/
structure Operation.FailedTrace (op : Operation) (d : Desk Memory) (e : Failure)
    (d' : Desk Memory) : Prop where
  books : d'.books = d.books
  ids : d'.ids = d.ids ∧ (e = .emptyId → ∃ driver, d.register driver = .error .emptyId) ∨
    d'.ids = d.ids.advance ∧ e = .emptyId ∧ d.ids.next = "" ∧ op.enters.isSome

/-- **Failing leaves no trace.** -/
theorem Operation.failing {op : Operation} {d d' : Desk Memory} {e : Failure}
    (h : op.program.run memoryHost d = (.error e, d')) : op.FailedTrace d e d' := by
  obtain ⟨drivers, ⟨q, hq, hrun⟩ | ⟨f, hrun, hf⟩⟩ := op.looksUntil.run_cases d
  · rw [hrun] at h
    cases hq with
    | enter kind data operation =>
      rw [Program.run_bind, Program.run_enter] at h
      split_ifs at h with hempty
      · obtain ⟨he, rfl⟩ := Prod.mk.inj h
        have henters : op.enters.isSome := by rw [operation, Option.isSome_some]
        exact ⟨rfl, .inr ⟨rfl, (Except.error.inj he).symm, hempty, henters⟩⟩
      · cases (Prod.mk.inj h).1
    | call c out operation =>
      rw [Program.call, Program.ask_bind, Program.run_ask, Program.answer_storage] at h
      rcases hanswer : Memory.answer c (d.asking drivers).contents with ⟨x | a, m⟩ <;>
        rw [hanswer] at h
      · obtain ⟨hx, rfl⟩ := Prod.mk.inj h
        obtain ⟨rfl, hexp⟩ := Memory.of_answer_error hanswer
        obtain rfl := Except.error.inj hx
        refine ⟨rfl, .inl ⟨rfl, ?_⟩⟩
        rintro rfl
        cases hexp
      · cases (Prod.mk.inj h).1
    | reply out operation => cases (Prod.mk.inj h).1
  · rw [hrun] at h
    obtain ⟨he, rfl⟩ := Prod.mk.inj h
    obtain rfl := Except.error.inj he
    refine ⟨rfl, .inl ⟨rfl, ?_⟩⟩
    rintro rfl
    exact hf.resolve_left Bool.false_ne_true

end LeaseDesk
