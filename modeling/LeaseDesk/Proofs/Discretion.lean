import LeaseDesk.Http.Server
import LeaseDesk.Proofs.History
import LeaseDesk.Proofs.Veil

/-!
# What nobody can find out

Two desks are asked the same things in the same order, and it is shown that they answer the same. They
differ in what nobody is to find out, and after every answer the difference is still of that sort
(`Desk.Veiled`). What is asked is an `Errand`: an operation, a call to the storage, or a request.

There are two secrets. One is what deleted records say. `deleted_records_unseen` is about desks whose
deleted records have nothing in common but the fleets of vehicles, and as long as nobody restores a
record, nobody sees a difference. The other is the time at which records were deleted, for it is read
off a clock on the wall that nobody else looks at. `wall_clock_unseen` is about one desk under two such
clocks, and there it does not matter what is restored.

The way is the same for both. A single ask is answered alike (`Desk.Veiled.answer`). A program that only
looks comes to the same ending on either desk (`Program.LooksUntil.inStep`), and so an operation is in
step with itself (`Operation.inStep`). Anything that an errand can be comes down to that.
-/

namespace LeaseDesk

open Storage

/-- What is made of the result is made of the same. -/
theorem InStep.map {α β σ τ : Type} {R : σ → τ → Prop} {x : α × σ} {y : α × τ}
    (h : InStep R x y) (f : α → β) : InStep R (x.map f id) (y.map f id) :=
  ⟨congrArg f h.result, h.state⟩

/-! ## Desks -/

/-- The two desks differ in nothing but deleted records, and in what the clocks on their walls show. -/
structure Desk.Veiled (common : InCommon) (d d' : Desk Memory) : Prop where
  clock : d.clock = d'.clock
  ids : d.ids = d'.ids
  register : d.register = d'.register
  inquiries : d.inquiries = d'.inquiries
  books : d.books.Veiled common d'.books

/-- An idle ask leaves the books as they are. -/
theorem Desk.books_of_idle {request : Ask} (idle : request.isIdle) {d d' : Desk Memory}
    {a : Except Failure request.Answer} (h : Desk.answer Memory.backend request d = (a, d')) :
    d'.books = d.books := by
  obtain ⟨drivers, ⟨_, hanswer⟩ | ⟨_, hanswer, -⟩⟩ := Desk.answer_of_idle idle d
  · rw [hanswer] at h
    rw [← (Prod.mk.inj h).2]
    rfl
  · rw [hanswer] at h
    rw [← (Prod.mk.inj h).2]
    rfl

namespace Desk.Veiled

variable {common : InCommon} {d d' : Desk Memory}

theorem refl (common : InCommon) (d : Desk Memory) : d.Veiled common d :=
  ⟨rfl, rfl, rfl, rfl, .refl common d.books⟩

theorem draw (h : d.Veiled common d') : d.draw.Veiled common d'.draw :=
  { h with ids := congrArg IdSource.advance h.ids }

theorem write (h : d.Veiled common d') {kind : Kind} {r s : kind.Record}
    (hr : r.Veiled (common.relates kind r.id) s) :
    (d.write kind r).Veiled common (d'.write kind s) :=
  { h with books := h.books.put hr }

theorem enter (h : d.Veiled common d') (kind : Kind) (data : kind.Data) :
    (d.enter kind data).Veiled common (d'.enter kind data) := by
  rw [Desk.enter, Desk.enter, h.ids]
  exact h.draw.write (.refl (common.refl kind _) _)

/-- One ask is answered alike, unless it restores a record whose data are not the same. -/
theorem answer (h : d.Veiled common d') (request : Ask)
    (hrestored : ∀ kind id, request = .storage (.restore kind id) →
      d.books.SameData d'.books kind id) :
    InStep (Desk.Veiled common) (Desk.answer Memory.backend request d)
      (Desk.answer Memory.backend request d') := by
  cases request with
  | clock => exact ⟨congrArg Except.ok h.clock, h⟩
  | freshId =>
    refine ⟨?_, h.draw⟩
    rw [Desk.answer, Desk.answer, h.ids]
  | verdict driver =>
    exact ⟨congrFun h.register driver, { h with
      inquiries := congrArg (fun drivers => drivers ++ [driver]) h.inquiries }⟩
  | storage c =>
    rw [Program.answer_storage, Program.answer_storage]
    have hcall := Memory.answer_inStep h.books c fun kind id hc => hrestored kind id (hc ▸ rfl)
    exact ⟨hcall.result, { h with books := hcall.state }⟩

end Desk.Veiled

/-! ## Programs -/

namespace Program

variable {α : Type} {P : Program α → Prop} {p : Program α} {common : InCommon} {d d' : Desk Memory}

/-- A program is in step with itself if it is after the first ask, and that ask restores nothing of
which the data are not the same. -/
theorem inStep_ask {request : Ask} {next : request.Answer → Program α} (h : d.Veiled common d')
    (hrestored : ∀ kind id, request = .storage (.restore kind id) →
      d.books.SameData d'.books kind id)
    (hnext : ∀ a e e', Desk.answer Memory.backend request d = (.ok a, e) →
      Desk.answer Memory.backend request d' = (.ok a, e') → e.Veiled common e' →
      InStep (Desk.Veiled common) ((next a).run memoryHost e) ((next a).run memoryHost e')) :
    InStep (Desk.Veiled common) ((ask request next).run memoryHost d)
      ((ask request next).run memoryHost d') := by
  have hanswer := h.answer request hrestored
  rw [run_ask, run_ask]
  rcases hx : Desk.answer Memory.backend request d with ⟨x, e⟩
  rcases hy : Desk.answer Memory.backend request d' with ⟨y, e'⟩
  rw [hx, hy] at hanswer
  obtain ⟨hxy, hveiled⟩ := hanswer
  dsimp only at hxy hveiled
  subst hxy
  cases x with
  | error e => exact ⟨rfl, hveiled⟩
  | ok a => exact hnext a e e' hx hy hveiled

/-- A program that looks for an ending is in step with itself, if its endings are. Looking changes
nothing in the books. -/
theorem LooksUntil.inStep (hp : p.LooksUntil P) (h : d.Veiled common d')
    (hending : ∀ q e e', P q → e.books = d.books → e'.books = d'.books → e.Veiled common e' →
      InStep (Desk.Veiled common) (q.run memoryHost e) (q.run memoryHost e')) :
    InStep (Desk.Veiled common) (p.run memoryHost d) (p.run memoryHost d') := by
  induction hp generalizing d d' with
  | reached ending => exact hending _ d d' ending rfl rfl h
  | fail e _ => exact ⟨rfl, h⟩
  | look idle _ ih =>
    refine inStep_ask h ?_ fun a e e' he he' hveiled => ih a hveiled ?_
    · rintro kind id rfl
      cases idle
    · intro q f f' hq hf hf' hff
      exact hending q f f' hq (hf.trans (Desk.books_of_idle idle he))
        (hf'.trans (Desk.books_of_idle idle he')) hff

end Program

/-- **An operation cannot tell the desks apart**, unless it restores a record whose data are not the
same. -/
theorem Operation.inStep {common : InCommon} {d d' : Desk Memory} (op : Operation)
    (h : d.Veiled common d')
    (hrestored : ∀ kind id, op = .undelete kind id → d.books.SameData d'.books kind id) :
    InStep (Desk.Veiled common) (op.program.run memoryHost d) (op.program.run memoryHost d') := by
  refine op.looksUntil.inStep h fun q e e' hq he he' hveiled => ?_
  cases hq with
  | enter kind data =>
    rw [Program.run_bind, Program.run_bind, Program.run_enter, Program.run_enter, hveiled.ids]
    split_ifs
    · exact ⟨rfl, hveiled.draw⟩
    · exact ⟨rfl, hveiled.enter kind data⟩
  | call c out _ restores =>
    refine Program.inStep_ask hveiled (fun kind id hc => ?_) fun _ _ _ _ _ hdone => ⟨rfl, hdone⟩
    rw [he, he']
    exact hrestored kind id (restores kind id (Ask.storage.inj hc))
  | reply out => exact ⟨rfl, hveiled⟩

/-- Requests come down to operations, or else they do not come to the desk at all. -/
theorem Http.inStep_serve {common : InCommon} {d d' : Desk Memory} (policy : Policy) (r : Request)
    (h : d.Veiled common d')
    (hrestored : ∀ kind id, Http.decide policy r = .perform (.undelete kind id) →
      d.books.SameData d'.books kind id) :
    InStep (Desk.Veiled common) (serve policy memoryHost r d) (serve policy memoryHost r d') := by
  rw [serve, serve]
  cases hdecide : Http.decide policy r with
  | settled response => exact ⟨rfl, h⟩
  | perform op =>
    refine (op.inStep h ?_).map fun result => finish policy r (respond op result)
    rintro kind id rfl
    exact hrestored kind id hdecide

/-! ## Errands -/

/-- What the desk can be asked for from outside. -/
inductive Task
  /-- an operation -/
  | operation (op : Operation)
  /-- one call to the storage, past all procedures -/
  | call (c : Call)
  /-- a request to the service -/
  | request (policy : Http.Policy) (r : Http.Request)

/-- What comes back. -/
inductive Reply
  /-- the result of an operation -/
  | outcome (result : Except Failure Outcome)
  /-- the answer to a call -/
  | answer (c : Call) (result : Except Failure c.Answer)
  /-- the response to a request -/
  | response (response : Http.Response)

namespace Task

/-- What comes back, and the desk afterwards. -/
def perform (d : Desk Memory) : Task → Reply × Desk Memory
  | .operation op => (op.program.run memoryHost d).map .outcome id
  | .call c => ((Program.call c).run memoryHost d).map (.answer c) id
  | .request policy r => (Http.serve policy memoryHost r d).map .response id

/-- The record that is restored, if one is. -/
def restored? : Task → Option (Kind × String)
  | .operation (.undelete kind id) => some (kind, id)
  | .call (.restore kind id) => some (kind, id)
  | .request policy r =>
    match Http.decide policy r with
    | .perform (.undelete kind id) => some (kind, id)
    | _ => none
  | _ => none

/-- **No task can tell the desks apart**, unless it restores a record whose data are not the same. -/
theorem inStep_perform {common : InCommon} {d d' : Desk Memory} (task : Task)
    (h : d.Veiled common d')
    (hrestored : ∀ kind id, task.restored? = some (kind, id) →
      d.books.SameData d'.books kind id) :
    InStep (Desk.Veiled common) (task.perform d) (task.perform d') := by
  cases task with
  | operation op =>
    refine (op.inStep h ?_).map _
    rintro kind id rfl
    exact hrestored kind id rfl
  | call c =>
    refine (Program.inStep_ask h ?_ ?_).map _
    · intro kind id hc
      cases hc
      exact hrestored kind id rfl
    · exact fun _ _ _ _ _ hdone => ⟨rfl, hdone⟩
  | request policy r =>
    refine (Http.inStep_serve policy r h fun kind id hdecide => ?_).map _
    refine hrestored kind id ?_
    rw [restored?, hdecide]

end Task

/-- A task, and what the world outside shows while it is performed. -/
structure Errand where
  /-- what the clock shows -/
  clock : Instant
  /-- what the license register says -/
  register : Register
  /-- the task -/
  task : Task

namespace Errand

/-- The desk before the task is performed. -/
def prepare (e : Errand) (wall : Instant) (d : Desk Memory) : Desk Memory :=
  { d with
    clock := e.clock
    register := e.register
    contents := { d.contents with wall := wall } }

/-- What comes back, and the desk afterwards. -/
def perform (e : Errand) (wall : Instant) (d : Desk Memory) : Reply × Desk Memory :=
  e.task.perform (e.prepare wall d)

/-- One errand leaves the desks as much alike as they were. The clocks on the walls need not agree. -/
theorem inStep_perform {common : InCommon} {d d' : Desk Memory} (e : Errand) (wall wall' : Instant)
    (h : d.Veiled common d')
    (hrestored : ∀ kind id, e.task.restored? = some (kind, id) →
      d.books.SameData d'.books kind id) :
    InStep (Desk.Veiled common) (e.perform wall d) (e.perform wall' d') :=
  e.task.inStep_perform ⟨rfl, h.ids, rfl, h.inquiries, h.books⟩ hrestored

end Errand

/-- All that comes back from one errand after the other, and the desk afterwards. The clock on the wall
shows a time for each of them. -/
def Desk.attend (d : Desk Memory) (wall : Nat → Instant) (errands : List Errand) :
    List Reply × Desk Memory :=
  errands.foldl (fun s e => (e.perform (wall s.1.length) s.2).map (fun reply => s.1 ++ [reply]) id)
    ([], d)

theorem Desk.attend_append_singleton (d : Desk Memory) (wall : Nat → Instant) (past : List Errand)
    (e : Errand) :
    d.attend wall (past ++ [e]) =
      (e.perform (wall (d.attend wall past).1.length) (d.attend wall past).2).map
        (fun reply => (d.attend wall past).1 ++ [reply]) id := by
  rw [attend, List.foldl_append]
  rfl

/-- **In step all the time.** Errand by errand the desks answer the same, and they differ in nothing but
deleted records, as long as no record is restored whose data are not the same at that moment. -/
theorem Desk.Veiled.inStep_attend {common : InCommon} {d d' : Desk Memory} (h : d.Veiled common d')
    (wall wall' : Nat → Instant) (errands : List Errand)
    (hrestored : ∀ past e, past ++ [e] <+: errands →
      (d.attend wall past).2.Veiled common (d'.attend wall' past).2 →
      ∀ kind id, e.task.restored? = some (kind, id) →
        (d.attend wall past).2.books.SameData (d'.attend wall' past).2.books kind id) :
    InStep (Desk.Veiled common) (d.attend wall errands) (d'.attend wall' errands) := by
  refine turns_induction (P := fun past =>
    InStep (Desk.Veiled common) (d.attend wall past) (d'.attend wall' past)) ⟨rfl, h⟩ ?_
  intro past e hp hpast
  rw [attend_append_singleton, attend_append_singleton, hpast.result]
  refine InStep.map (e.inStep_perform _ _ hpast.state ?_) _
  exact hrestored past e hp hpast.state

/-- Data that are the same at the beginning are the same at the end, as long as no others are restored
in between. -/
theorem Desk.Veiled.sameData_attend {common : InCommon} {d d' : Desk Memory}
    (h : d.Veiled common d') (wall wall' : Nat → Instant) {errands : List Errand}
    (hrestored : ∀ e ∈ errands, ∀ kind id, e.task.restored? = some (kind, id) →
      d.books.SameData d'.books kind id)
    {kind : Kind} {id : String} (hsame : d.books.SameData d'.books kind id) :
    (d.attend wall errands).2.books.SameData (d'.attend wall' errands).2.books kind id := by
  -- what is the same at the beginning is counted among what the desks have in common
  have hmore : d.Veiled (common.besides fun kind id => d.books.SameData d'.books kind id) d' :=
    { h with books := h.books.besides fun _ _ hsame => hsame }
  have hend := hmore.inStep_attend wall wall' errands fun past e hp hpast kind id hid =>
    hpast.books.sameData fun x y hxy => hxy.2 (hrestored e (hp.subset (by simp)) kind id hid)
  exact hend.state.books.sameData fun x y hxy => hxy.2 hsame

/-! ## The two secrets -/

/-- **What deleted records say is not seen.** Two desks differ in nothing but deleted records, of which
only the vehicles have something in common, that they are of the same fleet. They are sent on the same
errands, and no record is restored whose data are not the same at that moment. Then the same comes
back from either desk, and in the end they differ in nothing but deleted records again. -/
theorem deleted_records_unseen {d d' : Desk Memory} (h : d.Veiled .fleets d')
    (wall wall' : Nat → Instant) (errands : List Errand)
    (hrestored : ∀ past e, past ++ [e] <+: errands →
      ∀ kind id, e.task.restored? = some (kind, id) →
        (d.attend wall past).2.books.SameData (d'.attend wall' past).2.books kind id) :
    InStep (Desk.Veiled .fleets) (d.attend wall errands) (d'.attend wall' errands) :=
  h.inStep_attend wall wall' errands fun past e hp _ => hrestored past e hp

/-- The driver has taken a vehicle, and it was deleted afterwards. -/
def vehicleGone (v : Vehicle) (day : Date) : Desk Memory :=
  (history sampleIds
    (sampleFleet ++ [.on newYear (.assignVehicle "contract" "vehicle")])).write .vehicle
      ⟨"vehicle", v, some (.startOfDay day)⟩

/-- A task on the first of January. -/
def Errand.onNewYear (task : Task) : Errand :=
  ⟨.startOfDay newYear, fun _ => .ok .valid, task⟩

/-- The driver wants the second vehicle, somebody asks for the deleted one and tries to delete it once
more, and the second one is deleted and restored. -/
def vehicleErrands : List Errand :=
  [.onNewYear (.operation (.assignVehicle "contract" "vehicle2")),
    .onNewYear (.request .plain ⟨"GET", "/vehicles/vehicle", [], []⟩),
    .onNewYear (.call (.bury .vehicle "vehicle")),
    .onNewYear (.operation (.delete .vehicle "vehicle2")),
    .onNewYear (.request .plain ⟨"POST", "/vehicles/vehicle2/undelete", [], []⟩)]

/-- A Panda it was, deleted on the first of January. -/
def pandaGone : Desk Memory := vehicleGone ⟨"fleet", "Fiat", "Panda", 2020, "A 1"⟩ newYear

/-- It was an Ypsilon, without a plate, and deleted on the last of January. -/
def ypsilonGone : Desk Memory := vehicleGone ⟨"fleet", "Lancia", "Ypsilon", 1999, ""⟩ januaryEnd

theorem pandaGone_veiled : pandaGone.Veiled .fleets ypsilonGone := by
  refine (Desk.Veiled.refl .fleets _).write (.deleted "vehicle" ?_ _ _)
  exact Eq.refl "fleet"

theorem vehicleErrands_restored :
    ∀ e ∈ vehicleErrands, ∀ kind id, e.task.restored? = some (kind, id) →
      pandaGone.books.SameData ypsilonGone.books kind id := by
  have hnamed : ∀ e ∈ vehicleErrands,
      e.task.restored? = none ∨ e.task.restored? = some (.vehicle, "vehicle2") := by
    decide +kernel
  have hsame : pandaGone.books.SameData ypsilonGone.books .vehicle "vehicle2" := by
    decide +kernel
  intro e he kind id hid
  rcases hnamed e he with hnone | hsecond
  · exact nomatch hnone.symm.trans hid
  · cases hsecond.symm.trans hid
    exact hsame

/-- Nobody finds out which it was. -/
theorem deleted_records_unseen_pandaGone :
    InStep (Desk.Veiled .fleets)
      (pandaGone.attend (fun _ => .startOfDay newYear) vehicleErrands)
      (ypsilonGone.attend (fun _ => .startOfDay februaryEnd) vehicleErrands) := by
  have hrestored := vehicleErrands_restored
  refine deleted_records_unseen pandaGone_veiled _ _ vehicleErrands fun past e hp kind id hid => ?_
  refine pandaGone_veiled.sameData_attend _ _ (fun e' he' => ?_) ?_
  · exact hrestored e' (hp.subset (List.mem_append_left [e] he'))
  · exact hrestored e (hp.subset (by simp)) kind id hid

/-- The fleet is seen: were the deleted vehicle of another one, the driver would get the second
vehicle. -/
example :
    ((Operation.assignVehicle "contract" "vehicle2").program.run memoryHost pandaGone).1.isOk =
      false ∧
    ((Operation.assignVehicle "contract" "vehicle2").program.run memoryHost
      (vehicleGone ⟨"elsewhere", "Fiat", "Panda", 2020, "A 1"⟩ newYear)).1.isOk = true := by
  decide +kernel

/-- **The clock on the wall is not seen.** Whatever the clock on the wall shows when records are deleted,
the same comes back from the same errands, also if records are restored. In the end there is no
difference but in the dates of tombstones. -/
theorem wall_clock_unseen (d : Desk Memory) (wall wall' : Nat → Instant) (errands : List Errand) :
    InStep (Desk.Veiled .everything) (d.attend wall errands) (d.attend wall' errands) := by
  refine (Desk.Veiled.refl .everything d).inStep_attend wall wall' errands ?_
  exact fun past e _ hpast kind id _ => hpast.books.sameData fun x y h => h

end LeaseDesk
