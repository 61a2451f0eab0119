import LeaseDesk.Desk
import LeaseDesk.Proofs.Books

/-!
# Programs that come to a result

`Program.Yields` says that a program comes to a result on a desk that keeps its records in memory,
and what the desk is afterwards. For each of the few things a program is made of there is one
equivalence that says when it yields what; `Program.yields_bind` and its special cases put them
together. Most pieces leave the desk as it is, and then the equivalence for the whole only hands the
result on (`Program.yields_bind_same`).
-/

namespace LeaseDesk

open Storage

/-- Answers programs from a desk that keeps its records in memory. -/
abbrev memoryHost : Host (Desk Memory) := Desk.host Memory.backend

namespace Desk

/-- The books of a desk. -/
abbrev books (d : Desk Memory) : Books := d.contents.books

/-- The desk after a record was written into its books. -/
def write (d : Desk Memory) (kind : Kind) (r : kind.Record) : Desk Memory :=
  { d with contents := { d.contents with books := d.books.put kind r } }

/-- The desk after an identifier was drawn. -/
def draw (d : Desk Memory) : Desk Memory :=
  { d with ids := d.ids.advance }

/-- The desk after the register was asked about a driver. -/
def inquire (d : Desk Memory) (driver : Driver) : Desk Memory :=
  { d with inquiries := d.inquiries ++ [driver] }

/-- The desk after new data were put on record under the next identifier. -/
def enter (d : Desk Memory) (kind : Kind) (data : kind.Data) : Desk Memory :=
  d.draw.write kind (.fresh d.ids.next data)

theorem live_enter (d : Desk Memory) (kind : Kind) (data : kind.Data) :
    (d.enter kind data).books.Live kind (.fresh d.ids.next data) :=
  Books.live_put.mpr (.inl ⟨rfl, rfl⟩)

end Desk

/-! ## Burying -/

namespace Storage.Memory

variable {m : Memory} {kind : Kind} {id : String}

theorem answer_bury_of_absent (h : m.books.lookup kind id = none) :
    answer (.bury kind id) m = (.error (.missing kind id), m) := by
  simp only [answer, h]

theorem answer_bury_of_deleted (h : m.books.Deleted kind id) :
    answer (.bury kind id) m = (.error (.buried kind id), m) := by
  obtain ⟨r, hr, hl⟩ := h
  simp [answer, hr, Record.isDeleted_eq_not_isLive, hl]

theorem answer_bury_of_live {r : kind.Record} (h : m.books.find kind id = some r) :
    answer (.bury kind id) m =
      (.ok (), { m with books := m.books.put kind (r.bury m.wall) }) := by
  obtain ⟨hr, rfl⟩ := Books.find_eq_some_iff.mp h
  have hl : r.isLive := hr.isLive
  have hlookup : m.books.lookup kind r.id = some r := hr.stored
  simp [answer, hlookup, Record.isDeleted_eq_not_isLive, hl]

end Storage.Memory

/-! ## Pieces of programs -/

namespace Program

variable {α β : Type} {d d' : Desk Memory}

/-- The program comes to a result, and this is the desk afterwards. -/
def Yields (p : Program α) (d : Desk Memory) (a : α) (d' : Desk Memory) : Prop :=
  p.run memoryHost d = (.ok a, d')

@[simp] theorem yields_done {a b : α} : (done a).Yields d b d' ↔ b = a ∧ d' = d := by
  rw [Yields, run_done, Prod.mk.injEq, Except.ok.injEq]
  exact and_congr eq_comm eq_comm

@[simp] theorem not_yields_fail {e : Failure} {a : α} : ¬ (fail e : Program α).Yields d a d' := by
  rw [Yields, run_fail, Prod.mk.injEq]
  exact fun h => nomatch h.1

theorem yields_bind {p : Program α} {f : α → Program β} {b : β} :
    (p.bind f).Yields d b d' ↔ ∃ a e, p.Yields d a e ∧ (f a).Yields e b d' := by
  simp only [Yields, run_bind]
  rcases p.run memoryHost d with ⟨e | a, s⟩
  · simp
  · simp only [Prod.mk.injEq, Except.ok.injEq]
    exact ⟨fun h => ⟨a, s, ⟨rfl, rfl⟩, h⟩, fun ⟨_, _, ⟨rfl, rfl⟩, h⟩ => h⟩

/-- What comes after a result runs on the desk that was left. -/
theorem Yields.run_bind {p : Program α} {a : α} (h : p.Yields d a d') (f : α → Program β) :
    (p.bind f).run memoryHost d = (f a).run memoryHost d' := by
  rw [Program.run_bind, h]

/-- What a result is made into afterwards is of no account to the desk. -/
theorem yields_map {p : Program α} {f : α → β} {b : β} :
    (p.bind fun a => done (f a)).Yields d b d' ↔ ∃ a, p.Yields d a d' ∧ b = f a := by
  rw [yields_bind]
  constructor
  · rintro ⟨a, e, hp, h⟩
    obtain ⟨rfl, rfl⟩ := yields_done.mp h
    exact ⟨a, hp, rfl⟩
  · rintro ⟨a, hp, rfl⟩
    exact ⟨a, d', hp, yields_done.mpr ⟨rfl, rfl⟩⟩

/-- A piece that leaves the desk as it is only hands its result on. -/
theorem yields_bind_same {p : Program α} {P : α → Prop}
    (hp : ∀ a e, p.Yields d a e ↔ P a ∧ e = d) {f : α → Program β} {b : β} :
    (p.bind f).Yields d b d' ↔ ∃ a, P a ∧ (f a).Yields d b d' := by
  rw [yields_bind]
  refine exists_congr fun a => ?_
  constructor
  · rintro ⟨e, hpe, hf⟩
    obtain ⟨ha, rfl⟩ := (hp a e).mp hpe
    exact ⟨ha, hf⟩
  · rintro ⟨ha, hf⟩
    exact ⟨d, (hp a d).mpr ⟨ha, rfl⟩, hf⟩

theorem yields_require {condition : Bool} {e : Failure} {u : Unit} :
    (require condition e).Yields d u d' ↔ condition ∧ d' = d := by
  cases condition <;> simp [require]

/-- A check lets the program go on or ends it. -/
theorem yields_require_bind {condition : Bool} {e : Failure} {f : Unit → Program β} {b : β} :
    ((require condition e).bind f).Yields d b d' ↔ condition ∧ (f ()).Yields d b d' := by
  cases condition <;> simp [require]

theorem run_ask (request : Ask) (next : request.Answer → Program α) (d : Desk Memory) :
    (ask request next).run memoryHost d =
      match Desk.answer Memory.backend request d with
      | (.ok a, d) => (next a).run memoryHost d
      | (.error e, d) => (.error e, d) := by
  rw [run, show memoryHost.answer request d = Desk.answer Memory.backend request d from rfl]
  rcases Desk.answer Memory.backend request d with ⟨e | a, s⟩ <;> rfl

theorem yields_ask {request : Ask} {next : request.Answer → Program α} {a : α} :
    (ask request next).Yields d a d' ↔
      ∃ b e, Desk.answer Memory.backend request d = (.ok b, e) ∧ (next b).Yields e a d' := by
  simp only [Yields, run_ask]
  rcases Desk.answer Memory.backend request d with ⟨e | b, s⟩
  · simp
  · simp only [Prod.mk.injEq, Except.ok.injEq]
    exact ⟨fun h => ⟨b, s, ⟨rfl, rfl⟩, h⟩, fun ⟨_, _, ⟨rfl, rfl⟩, h⟩ => h⟩

theorem yields_ask_done {request : Ask} {a : request.Answer} :
    (ask request done).Yields d a d' ↔ Desk.answer Memory.backend request d = (.ok a, d') := by
  simp [yields_ask]

theorem yields_clock_bind {f : Instant → Program β} {b : β} :
    (clock.bind f).Yields d b d' ↔ (f d.clock).Yields d b d' := by
  refine (yields_bind_same fun t e => ?_).trans exists_eq_left
  rw [clock, yields_ask_done, Desk.answer, Prod.mk.injEq, Except.ok.injEq]
  exact and_congr eq_comm eq_comm

/-- The register is asked once, whatever it says. -/
theorem run_verdict (driver : Driver) (d : Desk Memory) :
    (verdict driver).run memoryHost d = (d.register driver, d.inquire driver) := by
  rw [verdict, run_ask, Desk.answer]
  rcases d.register driver with e | v <;> rfl

theorem yields_verdict {driver : Driver} {v : Verdict} :
    (verdict driver).Yields d v d' ↔ d.register driver = .ok v ∧ d' = d.inquire driver := by
  rw [verdict, yields_ask_done, Desk.answer, Prod.mk.injEq]
  exact and_congr_right fun _ => eq_comm

theorem answer_storage (c : Call) (d : Desk Memory) :
    Desk.answer Memory.backend (.storage c) d =
      ((Memory.answer c d.contents).1, { d with contents := (Memory.answer c d.contents).2 }) := rfl

theorem yields_call {c : Call} {a b : c.Answer} {m : Memory}
    (h : Memory.answer c d.contents = (.ok b, m)) :
    (call c).Yields d a d' ↔ a = b ∧ d' = { d with contents := m } := by
  rw [call, yields_ask_done, answer_storage, h, Prod.mk.injEq, Except.ok.injEq]
  exact and_congr eq_comm eq_comm

theorem not_yields_call {c : Call} {a : c.Answer} {e : Failure} {m : Memory}
    (h : Memory.answer c d.contents = (.error e, m)) : ¬ (call c).Yields d a d' := by
  rw [call, yields_ask_done, answer_storage, h, Prod.mk.injEq]
  exact fun h => nomatch h.1

/-- A call that only reads hands on what it is answered. -/
theorem yields_call_bind {c : Call} {a : c.Answer}
    (h : Memory.answer c d.contents = (.ok a, d.contents)) {f : c.Answer → Program β} {b : β} :
    ((call c).bind f).Yields d b d' ↔ (f a).Yields d b d' :=
  (yields_bind_same fun _ _ => yields_call h).trans exists_eq_left

theorem yields_save {kind : Kind} {r : kind.Record} {u : Unit} :
    (call (.save kind r)).Yields d u d' ↔ d' = d.write kind r :=
  (yields_call rfl).trans (and_iff_right rfl)

theorem yields_save_done {kind : Kind} {r s : kind.Record} :
    ((call (.save kind r)).bind fun _ => done r).Yields d s d' ↔ s = r ∧ d' = d.write kind r := by
  rw [yields_bind]
  constructor
  · rintro ⟨_, e, hsave, h⟩
    obtain rfl := yields_save.mp hsave
    exact yields_done.mp h
  · intro h
    exact ⟨(), _, yields_save.mpr rfl, yields_done.mpr h⟩

/-- Only a live record can be buried. -/
theorem yields_bury {kind : Kind} {id : String} {u : Unit} :
    (call (.bury kind id)).Yields d u d' ↔
      ∃ r, d.books.find kind id = some r ∧ d' = d.write kind (r.bury d.contents.wall) := by
  rcases d.books.absent_or_deleted_or_live kind id with habsent | hdel | ⟨r, hr⟩
  · have hf := Books.find_eq_none_of_absent habsent
    simp [not_yields_call (Memory.answer_bury_of_absent habsent), hf]
  · simp [not_yields_call (Memory.answer_bury_of_deleted hdel), hdel.find_eq_none]
  · simp only [yields_call (Memory.answer_bury_of_live hr), hr, Option.some.injEq, exists_eq_left',
      true_and]
    rfl

/-- Any record can be restored, deleted or not. -/
theorem yields_restore {kind : Kind} {id : String} {u : Unit} :
    (call (.restore kind id)).Yields d u d' ↔
      ∃ r, d.books.lookup kind id = some r ∧ d' = d.write kind r.restore := by
  rcases h : d.books.lookup kind id with _ | r
  · have ha : Memory.answer (.restore kind id) d.contents =
        (.error (.missing kind id), d.contents) := by
      simp only [Memory.answer, h]
    simp [not_yields_call ha]
  · have ha : Memory.answer (.restore kind id) d.contents =
        (.ok (), { d.contents with books := d.books.put kind r.restore }) := by
      simp only [Memory.answer, h]
    simp only [yields_call ha, Option.some.injEq, exists_eq_left', true_and]
    rfl

end Program

end LeaseDesk
