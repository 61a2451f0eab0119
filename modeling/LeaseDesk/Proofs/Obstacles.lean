import LeaseDesk.Proofs.Failing
import LeaseDesk.Proofs.Success

/-!
# What stands in the way of a program

A procedure checks one thing after the other, and the first check that fails decides how it fails. The
checks are listed here as *obstacles*, in the order in which they are met. An obstacle stands or does
not, and if it is the first one that stands, then it is the one that is reported (`StoppedBy`).
`Program.Decided` says of a program that its obstacles are all there is to it: it fails exactly as the
first one reports, and where none stands, it comes to its result.

A list of obstacles is put together like the program (`Decided.bind`), from those of its pieces.
-/

namespace LeaseDesk

open Storage

/-- Something that can stand in the way of a program. -/
structure Obstacle where
  /-- it does stand in the way -/
  stands : Prop
  /-- a program that it stops may fail with this -/
  reports : Failure → Prop

/-- The first obstacle that stands reports this failure. -/
inductive StoppedBy (e : Failure) : List Obstacle → Prop
  | here {o : Obstacle} {os : List Obstacle} (stands : o.stands) (reports : o.reports e) :
      StoppedBy e (o :: os)
  | later {o : Obstacle} {os : List Obstacle} (passed : ¬ o.stands) (stopped : StoppedBy e os) :
      StoppedBy e (o :: os)

/-- None of the obstacles stands. -/
def Clear (obstacles : List Obstacle) : Prop :=
  ∀ o ∈ obstacles, ¬ o.stands

namespace Obstacle

/-- An obstacle that is always reported in the same way. -/
def of (stands : Prop) (e : Failure) : Obstacle :=
  ⟨stands, fun f => f = e⟩

/-- An obstacle that can stand for several reasons. One for which it does is reported. -/
def any {ι : Type} (stands : ι → Prop) (report : ι → Failure) : Obstacle where
  stands := ∃ i, stands i
  reports e := ∃ i, stands i ∧ e = report i

/-- There is no live record under the identifier. -/
def absent (b : Books) (kind : Kind) (id : String) : Obstacle :=
  .of (b.find kind id = none) (.missing kind id)

/-- There is no identifier for a new record. -/
def unnamed (d : Desk Memory) : Obstacle :=
  .of (d.ids.next = "") .emptyId

end Obstacle

/-! ## Lists of obstacles -/

section

variable {e : Failure} {o : Obstacle} {os os' : List Obstacle}

theorem clear_nil : Clear [] :=
  List.forall_mem_nil _

theorem clear_cons : Clear (o :: os) ↔ ¬ o.stands ∧ Clear os :=
  List.forall_mem_cons

theorem clear_append : Clear (os ++ os') ↔ Clear os ∧ Clear os' :=
  List.forall_mem_append

theorem not_stoppedBy_nil : ¬ StoppedBy e [] :=
  nofun

theorem stoppedBy_cons :
    StoppedBy e (o :: os) ↔ o.stands ∧ o.reports e ∨ ¬ o.stands ∧ StoppedBy e os := by
  constructor
  · rintro (⟨hstands, hreports⟩ | ⟨hpassed, hstopped⟩)
    · exact .inl ⟨hstands, hreports⟩
    · exact .inr ⟨hpassed, hstopped⟩
  · rintro (⟨hstands, hreports⟩ | ⟨hpassed, hstopped⟩)
    · exact .here hstands hreports
    · exact .later hpassed hstopped

theorem StoppedBy.not_clear (h : StoppedBy e os) : ¬ Clear os := by
  induction h with
  | here stands => exact fun hclear => (clear_cons.mp hclear).1 stands
  | later _ _ ih => exact fun hclear => ih (clear_cons.mp hclear).2

/-- The later obstacles matter only if none of the earlier ones stands. -/
theorem stoppedBy_append :
    StoppedBy e (os ++ os') ↔ StoppedBy e os ∨ Clear os ∧ StoppedBy e os' := by
  induction os with
  | nil => simp [not_stoppedBy_nil, clear_nil]
  | cons o os ih =>
    rw [List.cons_append, stoppedBy_cons, stoppedBy_cons, clear_cons, ih]
    tauto

end

/-! ## Programs -/

namespace Program

variable {α β : Type} {p : Program α} {f : α → Program β} {d d' : Desk Memory} {e : Failure}
  {o : Obstacle} {os os' : List Obstacle}

/-- The program fails, and this is why. -/
def Fails (p : Program α) (d : Desk Memory) (e : Failure) : Prop :=
  ∃ d', p.run memoryHost d = (.error e, d')

/-- The program fails as the first obstacle reports that stands in its way. If none stands, it comes
to its result. -/
structure Decided (p : Program α) (d : Desk Memory) (obstacles : List Obstacle)
    (Result : α → Desk Memory → Prop) : Prop where
  /-- it fails with what the first obstacle that stands reports, and with nothing else -/
  fails : ∀ e, p.Fails d e ↔ StoppedBy e obstacles
  /-- if none stands, it comes to its result, and to no other -/
  yields : ∀ a d', p.Yields d a d' ↔ Clear obstacles ∧ Result a d'

theorem fails_or_yields (p : Program α) (d : Desk Memory) :
    (∃ e, p.Fails d e) ∨ ∃ a d', p.Yields d a d' := by
  rcases h : p.run memoryHost d with ⟨e | a, d'⟩
  · exact .inl ⟨e, d', h⟩
  · exact .inr ⟨a, d', h⟩

theorem fails_bind : (p.bind f).Fails d e ↔
    p.Fails d e ∨ ∃ a d', p.Yields d a d' ∧ (f a).Fails d' e := by
  simp only [Fails, Yields, run_bind]
  rcases p.run memoryHost d with ⟨x | a, s⟩
  · simp
  · simp

/-- A piece that leaves the desk as it is can fail, and else the rest can. -/
theorem fails_bind_same {P : α → Prop} (hp : ∀ a d', p.Yields d a d' ↔ P a ∧ d' = d) :
    (p.bind f).Fails d e ↔ p.Fails d e ∨ ∃ a, P a ∧ (f a).Fails d e := by
  rw [fails_bind]
  refine or_congr_right (exists_congr fun a => ?_)
  simp [hp]

namespace Decided

variable {R : α → Desk Memory → Prop} {R' : β → Desk Memory → Prop}

theorem exists_result (hp : p.Decided d os R) (h : Clear os) :
    ∃ a d', p.Yields d a d' ∧ R a d' := by
  rcases p.fails_or_yields d with ⟨e, he⟩ | ⟨a, d', ha⟩
  · exact absurd h ((hp.fails e).mp he).not_clear
  · exact ⟨a, d', ha, ((hp.yields a d').mp ha).2⟩

/-- **Obstacles are met in order**: first those of the one program, and then those of the other. -/
theorem bind (hp : p.Decided d os R)
    (hf : Clear os → ∀ a d', R a d' → (f a).Decided d' os' R') :
    (p.bind f).Decided d (os ++ os') R' := by
  constructor
  · intro e
    rw [fails_bind, hp.fails, stoppedBy_append]
    refine or_congr_right ⟨?_, ?_⟩
    · rintro ⟨a, d', ha, he⟩
      obtain ⟨hclear, hR⟩ := (hp.yields a d').mp ha
      exact ⟨hclear, ((hf hclear a d' hR).fails e).mp he⟩
    · rintro ⟨hclear, hstopped⟩
      obtain ⟨a, d', ha, hR⟩ := hp.exists_result hclear
      exact ⟨a, d', ha, ((hf hclear a d' hR).fails e).mpr hstopped⟩
  · intro b d''
    rw [yields_bind, clear_append]
    constructor
    · rintro ⟨a, d', ha, hb⟩
      obtain ⟨hclear, hR⟩ := (hp.yields a d').mp ha
      obtain ⟨hclear', hR'⟩ := ((hf hclear a d' hR).yields b d'').mp hb
      exact ⟨⟨hclear, hclear'⟩, hR'⟩
    · rintro ⟨⟨hclear, hclear'⟩, hR'⟩
      obtain ⟨a, d', ha, hR⟩ := hp.exists_result hclear
      exact ⟨a, d', ha, ((hf hclear a d' hR).yields b d'').mpr ⟨hclear', hR'⟩⟩

/-- A piece that leaves the desk as it is only adds its obstacles. -/
theorem bind_same {P : α → Prop} (hp : p.Decided d os fun a e => P a ∧ e = d)
    (hf : Clear os → ∀ a, P a → (f a).Decided d os' R') : (p.bind f).Decided d (os ++ os') R' := by
  refine hp.bind fun hclear a d' hR => ?_
  obtain ⟨ha, rfl⟩ := hR
  exact hf hclear a ha

/-- An obstacle that does not stand is no obstacle. -/
theorem pass (h : ¬ o.stands) (hp : p.Decided d os R) : p.Decided d (o :: os) R := by
  constructor
  · intro e
    rw [hp.fails, stoppedBy_cons]
    simp [h]
  · intro a d'
    rw [hp.yields, clear_cons]
    simp [h]

/-- What follows where nothing stands in the way may be added to the result. -/
theorem of_iff {S : α → Desk Memory → Prop} (hp : p.Decided d os R)
    (h : Clear os → ∀ a d', R a d' ↔ S a d') : p.Decided d os S :=
  ⟨hp.fails, fun a d' => (hp.yields a d').trans (and_congr_right fun hclear => h hclear a d')⟩

end Decided

/-! ## Pieces of programs -/

theorem decided_of_yields {R : α → Desk Memory → Prop} {a : α} (h : p.Yields d a d')
    (hR : ∀ b e, p.Yields d b e ↔ R b e) : p.Decided d [] R := by
  constructor
  · intro e
    rw [Yields] at h
    simp [Fails, h, not_stoppedBy_nil]
  · intro b e
    simp [hR, clear_nil]

theorem decided_of_run {a : α} (h : p.run memoryHost d = (.ok a, d')) :
    p.Decided d [] fun b e => b = a ∧ e = d' := by
  refine decided_of_yields h fun b e => ?_
  simp [Yields, h, eq_comm]

/-- Behind an obstacle that stands, nothing matters any more. -/
theorem decided_of_run_error {R : α → Desk Memory → Prop} (h : p.run memoryHost d = (.error e, d'))
    (hstands : o.stands) (hreports : ∀ e', o.reports e' ↔ e' = e) :
    p.Decided d (o :: os) R := by
  constructor
  · intro e'
    simp [Fails, h, stoppedBy_cons, hstands, hreports, eq_comm]
  · intro a d''
    simp [Yields, h, clear_cons, hstands]

theorem decided_require {condition : Bool} {stands : Prop} (h : stands ↔ condition = false) :
    (require condition e).Decided d [.of stands e] fun u d' => u = () ∧ d' = d := by
  cases condition with
  | false => exact decided_of_run_error rfl (h.mpr rfl) fun _ => Iff.rfl
  | true => exact .pass (fun hstands => nomatch h.mp hstands) (decided_of_run rfl)

theorem fails_require {condition : Bool} {x : Failure} :
    (require condition e).Fails d x ↔ condition = false ∧ x = e := by
  refine ((decided_require Iff.rfl).fails x).trans ?_
  simp [stoppedBy_cons, not_stoppedBy_nil, Obstacle.of]

/-- Another failure than that of the check comes from what follows it. -/
theorem fails_require_bind {condition : Bool} {f : Unit → Program β} {x : Failure} (hne : x ≠ e)
    (h : ((require condition e).bind f).Fails d x) : condition ∧ (f ()).Fails d x := by
  rw [fails_bind_same fun _ _ => yields_require] at h
  obtain ⟨_, hpassed, hf⟩ := h.resolve_left fun h => hne (fails_require.mp h).2
  exact ⟨hpassed, hf⟩

theorem decided_clock : clock.Decided d [] fun t d' => t = d.clock ∧ d' = d :=
  decided_of_run rfl

theorem decided_call {c : Call} {a : c.Answer}
    (h : Memory.answer c d.contents = (.ok a, d.contents)) :
    (call c).Decided d [] fun b d' => b = a ∧ d' = d := by
  apply decided_of_run
  rw [call, run_ask, answer_storage, h]
  rfl

theorem not_fails_call {c : Call} {a : c.Answer}
    (h : Memory.answer c d.contents = (.ok a, d.contents)) : ¬ (call c).Fails d e := by
  rw [(decided_call h).fails]
  exact not_stoppedBy_nil

theorem run_call_of_error {c : Call} (h : Memory.answer c d.contents = (.error e, d.contents)) :
    (call c).run memoryHost d = (.error e, d) := by
  rw [call, run_ask, answer_storage, h]

/-- Only a live record can be deleted, and then nothing else changes. -/
theorem decided_bury {kind : Kind} {id : String} :
    (call (.bury kind id)).Decided d
      [.of (d.books.lookup kind id = none) (.missing kind id),
        .of (d.books.Deleted kind id) (.buried kind id)]
      fun _ d' => ∃ r, d.books.find kind id = some r ∧
        d' = d.write kind (r.bury d.contents.wall) := by
  rcases d.books.absent_or_deleted_or_live kind id with habsent | hdel | ⟨r, hr⟩
  · have hrun := run_call_of_error (Memory.answer_bury_of_absent habsent)
    exact decided_of_run_error hrun habsent fun _ => Iff.rfl
  · have hrun := run_call_of_error (Memory.answer_bury_of_deleted hdel)
    exact .pass hdel.lookup_ne_none (decided_of_run_error hrun hdel fun _ => Iff.rfl)
  · have hyields : (call (.bury kind id)).Yields d () (d.write kind (r.bury d.contents.wall)) :=
      yields_bury.mpr ⟨r, hr, rfl⟩
    refine .pass (fun habsent => ?_) (.pass (fun hdel => ?_) ?_)
    · exact Option.some_ne_none r (hr.symm.trans (Books.find_eq_none_of_absent habsent))
    · exact Option.some_ne_none r (hr.symm.trans (Books.Deleted.find_eq_none hdel))
    · exact decided_of_yields hyields fun _ _ => yields_bury

end Program

namespace Procedure

open Program

variable {d : Desk Memory}

theorem decided_requireId {field id : String} :
    (requireId field id).Decided d [.of (id = "") (.required field)] fun u d' => u = () ∧ d' = d :=
  decided_require (by simp)

theorem decided_requireRecord {kind : Kind} {id : String} :
    (requireRecord kind id).Decided d [.absent d.books kind id]
      fun r d' => d.books.find kind id = some r ∧ d' = d := by
  rcases h : d.books.find kind id with _ | r
  · have hcall : (call (.find kind id)).Yields d (d.books.find kind id) d := rfl
    have hrun : (requireRecord kind id).run memoryHost d = (.error (.missing kind id), d) := by
      rw [requireRecord, bind_eq, hcall.run_bind, h]
      rfl
    exact decided_of_run_error hrun h fun _ => Iff.rfl
  · have hyields : (requireRecord kind id).Yields d r d := yields_requireRecord.mpr ⟨h, rfl⟩
    refine .pass (fun hnone => Option.some_ne_none r (h.symm.trans hnone)) ?_
    exact decided_of_yields hyields fun _ _ => h ▸ yields_requireRecord

theorem fails_requireRecord {kind : Kind} {id : String} {e : Failure} :
    (requireRecord kind id).Fails d e ↔
      d.books.find kind id = none ∧ e = .missing kind id := by
  refine (decided_requireRecord.fails e).trans ?_
  simp [stoppedBy_cons, not_stoppedBy_nil, Obstacle.absent, Obstacle.of]

theorem fails_requireRecord_bind {α : Type} {kind : Kind} {id : String}
    {f : kind.Record → Program α} {e : Failure} (hne : e ≠ .missing kind id)
    (h : ((requireRecord kind id).bind f).Fails d e) :
    ∃ r, d.books.find kind id = some r ∧ (f r).Fails d e := by
  rw [fails_bind_same fun _ _ => yields_requireRecord] at h
  exact h.resolve_left fun h => hne (fails_requireRecord.mp h).2

/-- A new record is entered under the next identifier, unless that is empty. -/
theorem decided_enter {kind : Kind} {data : kind.Data} :
    (enter kind data).Decided d [.unnamed d]
      fun r d' => r = .fresh d.ids.next data ∧ d' = d.enter kind data := by
  have hrun := run_enter kind data d
  by_cases h : d.ids.next = ""
  · rw [if_pos h] at hrun
    exact decided_of_run_error hrun h fun _ => Iff.rfl
  · rw [if_neg h] at hrun
    exact .pass h (decided_of_run hrun)

theorem fails_enter {kind : Kind} {data : kind.Data} {e : Failure} :
    (enter kind data).Fails d e ↔ d.ids.next = "" ∧ e = .emptyId := by
  refine (decided_enter.fails e).trans ?_
  simp [stoppedBy_cons, not_stoppedBy_nil, Obstacle.unnamed, Obstacle.of]

end Procedure

end LeaseDesk
