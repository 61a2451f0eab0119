import LeaseDesk.Proofs.Dismissal
import LeaseDesk.Proofs.History
import LeaseDesk.Proofs.Order

/-!
# Clearing the way for a deletion

Who is told that a driver cannot be deleted is also told what to do about it: to terminate the
contracts of the driver, and to return the vehicles. These are the *chores* of the driver
(`Books.Chore`), one for each contract that is not terminated and one for each vehicle that is out.
Here it is shown that the advice is good. Every chore can be done, whatever else has been deleted in
the meantime, and doing one leaves all the others to be done and no new ones (`Chore.done`). So in
whatever order they are done, all of them succeed, and then nothing stands in the way any more
(`way_cleared`).

Contracts that have not begun or are already over are chores as well, as long as nobody has terminated
them. They would not stand in the way, but it does no harm to terminate them.
-/

namespace LeaseDesk

open Storage

namespace Storage.Books

/-- The contract of the driver is on record, and nobody has terminated it. -/
structure Runs (b : Books) (driverId : String) (c : Kind.contract.Record) : Prop where
  live : b.Live .contract c
  driver : c.data.driverId = driverId
  running : c.data.terminatedAt = none

/-- The operation settles something that ties the driver. Every contract is terminated in somebody's
name, its `signature`. -/
inductive Chore (b : Books) (signature : String → String) (driverId : String) : Operation → Prop
  | terminate {c : Kind.contract.Record} (runs : b.Runs driverId c) :
      Chore b signature driverId (.terminateContract c.id (signature c.id))
  | giveBack {a : Kind.assignment.Record} (out : b.HasOut driverId a) :
      Chore b signature driverId (.returnVehicle a.id)

/-- The chores of a driver, as they are gathered from the list of the contracts and from the active
assignments. -/
def chores (b : Books) (signature : String → String) (driverId : String) : List Operation :=
  ((b.list (.contractsOf driverId)).filter fun c => !c.data.isTerminated).map
      (fun c => .terminateContract c.id (signature c.id)) ++
    (b.activeAssignments driverId).map fun a => .returnVehicle a.id

variable {b : Books} {signature : String → String} {driverId : String}

/-! ## The list of chores -/

theorem mem_running_iff {c : Kind.contract.Record} :
    c ∈ (b.list (.contractsOf driverId)).filter (fun c => !c.data.isTerminated) ↔
      b.Runs driverId c := by
  simp only [List.mem_filter, Contract.isTerminated, Bool.not_eq_true',
    Option.isSome_eq_false_iff, Option.isNone_iff_eq_none]
  constructor
  · rintro ⟨hlisted, hrunning⟩
    obtain ⟨hlive, hdriver⟩ := mem_list.mp hlisted
    exact ⟨hlive, beq_iff_eq.mp hdriver, hrunning⟩
  · rintro ⟨hlive, hdriver, hrunning⟩
    exact ⟨mem_list.mpr ⟨hlive, beq_iff_eq.mpr hdriver⟩, hrunning⟩

theorem mem_chores {op : Operation} :
    op ∈ b.chores signature driverId ↔ b.Chore signature driverId op := by
  simp only [chores, List.mem_append, List.mem_map]
  constructor
  · rintro (⟨c, hc, rfl⟩ | ⟨a, ha, rfl⟩)
    · exact .terminate (mem_running_iff.mp hc)
    · obtain ⟨hlive, hdriver, hout⟩ := mem_activeAssignments.mp ha
      exact .giveBack ⟨hlive, hdriver, hout⟩
  · rintro (hc | ⟨hlive, hdriver, hout⟩)
    · exact .inl ⟨_, mem_running_iff.mpr hc, rfl⟩
    · exact .inr ⟨_, mem_activeAssignments.mpr ⟨hlive, hdriver, hout⟩, rfl⟩

/-- No chore is listed twice. -/
theorem nodup_chores : (b.chores signature driverId).Nodup := by
  rw [chores, List.nodup_append']
  refine ⟨?_, ?_, ?_⟩
  · refine List.Nodup.map_on ?_ ((b.nodup_sorted .contract _).filter _)
    intro c hc c' hc' heq
    obtain ⟨hid, -⟩ := Operation.terminateContract.inj heq
    exact (mem_running_iff.mp hc).live.stored.eq_of_id_eq (mem_running_iff.mp hc').live.stored hid
  · refine List.Nodup.map_on ?_ (b.nodup_sorted .assignment _)
    intro a ha a' ha' heq
    have hid := Operation.returnVehicle.inj heq
    obtain ⟨hlive, -⟩ := mem_activeAssignments.mp ha
    obtain ⟨hlive', -⟩ := mem_activeAssignments.mp ha'
    exact hlive.stored.eq_of_id_eq hlive'.stored hid
  · intro op hterminate hreturn
    obtain ⟨c, -, rfl⟩ := List.mem_map.mp hterminate
    obtain ⟨a, -, heq⟩ := List.mem_map.mp hreturn
    exact nomatch heq

/-! ## Settling one thing -/

/-- A contract that is put on record terminated does not run, and the others are not touched. -/
theorem runs_put {r c : Kind.contract.Record} (hended : r.data.terminatedAt ≠ none) :
    (b.put .contract r).Runs driverId c ↔ b.Runs driverId c ∧ c.id ≠ r.id := by
  constructor
  · rintro ⟨hlive, hdriver, hrunning⟩
    rcases live_put.mp hlive with ⟨rfl, -⟩ | ⟨hid, hlive⟩
    · exact absurd hrunning hended
    · exact ⟨⟨hlive, hdriver, hrunning⟩, hid⟩
  · rintro ⟨⟨hlive, hdriver, hrunning⟩, hid⟩
    exact ⟨live_put.mpr (.inr ⟨hid, hlive⟩), hdriver, hrunning⟩

/-- A vehicle is not out that is put on record as returned, and the others are not touched. -/
theorem hasOut_put {r a : Kind.assignment.Record} (hback : r.data.endTime ≠ none) :
    (b.put .assignment r).HasOut driverId a ↔ b.HasOut driverId a ∧ a.id ≠ r.id := by
  constructor
  · rintro ⟨hlive, hdriver, hout⟩
    rcases live_put.mp hlive with ⟨rfl, -⟩ | ⟨hid, hlive⟩
    · exact absurd hout hback
    · exact ⟨⟨hlive, hdriver, hout⟩, hid⟩
  · rintro ⟨⟨hlive, hdriver, hout⟩, hid⟩
    exact ⟨live_put.mpr (.inr ⟨hid, hlive⟩), hdriver, hout⟩

theorem runs_put_of_ne {kind : Kind} (hne : .contract ≠ kind) {r : kind.Record}
    {c : Kind.contract.Record} : (b.put kind r).Runs driverId c ↔ b.Runs driverId c :=
  ⟨fun h => ⟨(live_put_of_ne hne).mp h.live, h.driver, h.running⟩,
    fun h => ⟨(live_put_of_ne hne).mpr h.live, h.driver, h.running⟩⟩

theorem hasOut_put_of_ne {kind : Kind} (hne : .assignment ≠ kind) {r : kind.Record}
    {a : Kind.assignment.Record} : (b.put kind r).HasOut driverId a ↔ b.HasOut driverId a :=
  ⟨fun h => ⟨(live_put_of_ne hne).mp h.live, h.driver, h.out⟩,
    fun h => ⟨(live_put_of_ne hne).mpr h.live, h.driver, h.out⟩⟩

/-- Where a contract is put on record as terminated, its termination is no chore any more. -/
theorem chore_put_contract {r : Kind.contract.Record} (hended : r.data.terminatedAt ≠ none)
    {op : Operation} : (b.put .contract r).Chore signature driverId op ↔
      b.Chore signature driverId op ∧ op ≠ .terminateContract r.id (signature r.id) := by
  constructor
  · rintro (hruns | hout)
    · obtain ⟨hruns, hid⟩ := (runs_put hended).mp hruns
      exact ⟨.terminate hruns, fun heq => hid (Operation.terminateContract.inj heq).1⟩
    · exact ⟨.giveBack ((hasOut_put_of_ne (by decide)).mp hout), nofun⟩
  · rintro ⟨hruns | hout, hne⟩
    · refine .terminate ((runs_put hended).mpr ⟨hruns, fun hid => hne ?_⟩)
      rw [hid]
    · exact .giveBack ((hasOut_put_of_ne (by decide)).mpr hout)

/-- Where a vehicle is put on record as returned, returning it is no chore any more. -/
theorem chore_put_assignment {r : Kind.assignment.Record} (hback : r.data.endTime ≠ none)
    {op : Operation} : (b.put .assignment r).Chore signature driverId op ↔
      b.Chore signature driverId op ∧ op ≠ .returnVehicle r.id := by
  constructor
  · rintro (hruns | hout)
    · exact ⟨.terminate ((runs_put_of_ne (by decide)).mp hruns), nofun⟩
    · obtain ⟨hout, hid⟩ := (hasOut_put hback).mp hout
      exact ⟨.giveBack hout, fun heq => hid (Operation.returnVehicle.inj heq)⟩
  · rintro ⟨hruns | hout, hne⟩
    · exact .terminate ((runs_put_of_ne (by decide)).mpr hruns)
    · refine .giveBack ((hasOut_put hback).mpr ⟨hout, fun hid => hne ?_⟩)
      rw [hid]

end Storage.Books

/-! ## Doing a chore -/

variable {d : Desk Memory} {signature : String → String} {driverId : String} {op : Operation}

/-- What is left after a chore was done: all the other chores, and the drivers as they were. -/
structure Desk.Relieved (d : Desk Memory) (signature : String → String) (driverId : String)
    (op : Operation) (d' : Desk Memory) : Prop where
  chores : ∀ other, d'.books.Chore signature driverId other ↔
    d.books.Chore signature driverId other ∧ other ≠ op
  drivers : d'.books.find .driver = d.books.find .driver

open Program Procedure in
/-- **Chores can be done**, one without regard to the others. -/
theorem Storage.Books.Chore.done (h : d.books.Chore signature driverId op) (hd : d.Numbered)
    (hsigned : ∀ id, Text.trim (signature id) ≠ "") :
    ∃ out d', op.program.Yields d out d' ∧ d.Relieved signature driverId op d' := by
  cases h with
  | @terminate c runs =>
    let ended := c.revise (c.data.terminate d.clock (Text.trim (signature c.id)))
    refine ⟨.record .contract ended, d.write .contract ended, ?_, ?_, rfl⟩
    · apply yields_map.mpr
      refine ⟨ended, yields_terminateContract.mpr ?_, rfl⟩
      exact ⟨hd.named runs.live.stored, hsigned c.id, c, runs.live, runs.running, rfl, rfl⟩
    · intro other
      exact Books.chore_put_contract (r := ended) nofun
  | @giveBack a out =>
    let ended := a.revise (a.data.finish d.clock)
    refine ⟨.record .assignment ended, d.write .assignment ended, ?_, ?_, rfl⟩
    · apply yields_map.mpr
      refine ⟨ended, yields_returnVehicle.mpr ?_, rfl⟩
      exact ⟨hd.named out.live.stored, a, out.live, out.out, rfl, rfl⟩
    · intro other
      exact Books.chore_put_assignment (r := ended) nofun

/-- Without chores, nothing stands in the way of deleting the driver. -/
theorem noObligations_of_not_chore (h : ∀ op, ¬ d.books.Chore signature driverId op) :
    Procedure.NoObligations d driverId := by
  constructor
  · intro c hlive hdriver hblocks
    obtain ⟨hrunning, -⟩ := Contract.blocksDriverDeletion_iff.mp hblocks
    exact h _ (.terminate ⟨hlive, hdriver, hrunning⟩)
  · intro a hlive hdriver hout
    exact h _ (.giveBack ⟨hlive, hdriver, hout⟩)

/-! ## Doing all of them -/

section

variable {ids : IdSource} {turns errands : List Turn}

/-- The desk after some more turns. -/
theorem history_append_append_singleton (ids : IdSource) (turns past : List Turn) (t : Turn) :
    history ids (turns ++ (past ++ [t])) = t.after (history ids (turns ++ past)) := by
  rw [← List.append_assoc, history_append_singleton]

/-- Where the operation of a turn is a chore, it comes to a result and leaves the others. -/
theorem Turn.relieves {t : Turn} {past : List Turn}
    (h : (history ids past).books.Chore signature driverId t.operation)
    (hsigned : ∀ id, Text.trim (signature id) ≠ "") :
    (∃ out, (t.play (history ids past)).1 = .ok out) ∧
      (history ids past).Relieved signature driverId t.operation (t.after (history ids past)) := by
  have hnumbered := (numbered_history ids past).prepare t
  have hchore : (t.prepare (history ids past)).books.Chore signature driverId t.operation := h
  obtain ⟨out, d', hyields, hchores, hdrivers⟩ := hchore.done hnumbered hsigned
  have hplay : t.play (history ids past) = (.ok out, d') := hyields
  rw [Turn.after, hplay]
  exact ⟨⟨out, rfl⟩, hchores, hdrivers⟩

/-- After some more turns, the chores that are left are those that no turn has done, and the drivers
are as they were. -/
structure Leaves (ids : IdSource) (turns : List Turn) (signature : String → String)
    (driverId : String) (past : List Turn) : Prop where
  chores : ∀ op, (history ids (turns ++ past)).books.Chore signature driverId op ↔
    (history ids turns).books.Chore signature driverId op ∧ op ∉ past.map Turn.operation
  drivers : (history ids (turns ++ past)).books.find .driver =
    (history ids turns).books.find .driver

/-- An errand that is next is still a chore, if none is run twice. -/
theorem Leaves.chore_next {past : List Turn} {t : Turn}
    (h : Leaves ids turns signature driverId past) (hpast : past ++ [t] <+: errands)
    (hchores : ∀ t ∈ errands, (history ids turns).books.Chore signature driverId t.operation)
    (honce : (errands.map Turn.operation).Nodup) :
    (history ids (turns ++ past)).books.Chore signature driverId t.operation := by
  refine (h.chores t.operation).mpr ⟨hchores t (hpast.subset (by simp)), ?_⟩
  have hsofar : ((past ++ [t]).map Turn.operation).Nodup :=
    honce.sublist (hpast.map Turn.operation).sublist
  rw [List.map_append, List.map_singleton, ← List.concat_eq_append, List.nodup_concat] at hsofar
  exact hsofar.1

/-- Errands that are chores, none of them run twice, do away with one chore each. -/
theorem leaves_after_errands (hsigned : ∀ id, Text.trim (signature id) ≠ "")
    (hchores : ∀ t ∈ errands, (history ids turns).books.Chore signature driverId t.operation)
    (honce : (errands.map Turn.operation).Nodup) {past : List Turn} (hpast : past <+: errands) :
    Leaves ids turns signature driverId past := by
  apply turns_induction (P := Leaves ids turns signature driverId)
  · exact ⟨by simp, by rw [List.append_nil]⟩
  · intro past t hp hleaves
    have hchore := hleaves.chore_next (hp.trans hpast) hchores honce
    obtain ⟨-, hrelieved⟩ := Turn.relieves hchore hsigned
    constructor
    · intro op
      rw [history_append_append_singleton, hrelieved.chores, hleaves.chores]
      simp [and_assoc]
    · rw [history_append_append_singleton]
      exact hrelieved.drivers.trans hleaves.drivers

open Program Procedure in
/-- Without chores, a driver on record is deleted. -/
theorem Turn.deletes {t : Turn} {past : List Turn} {p : Kind.driver.Record}
    (hp : (history ids past).books.Live .driver p) (hop : t.operation = .delete .driver p.id)
    (hnone : ∀ op, ¬ (history ids past).books.Chore signature p.id op) :
    (t.play (history ids past)).1 = .ok .nothing ∧
      (t.after (history ids past)).books.Deleted .driver p.id := by
  have hyields : t.operation.program.Yields (t.prepare (history ids past)) .nothing
      ((t.prepare (history ids past)).write .driver (p.bury t.wall)) := by
    rw [hop]
    apply (yields_map (f := fun _ => Outcome.nothing)).mpr
    refine ⟨(), yields_delete.mpr ⟨?_, ?_, p, hp, rfl⟩, rfl⟩
    · exact (numbered_history ids past).named hp.stored
    · exact fun _ => noObligations_of_not_chore hnone
  have hplay : t.play (history ids past) = (.ok .nothing, _) := hyields
  rw [Turn.after, hplay]
  exact ⟨rfl, Books.deleted_put_bury t.wall rfl⟩

open Program Procedure in
/-- Whoever is on record can be asked for the contracts. -/
theorem Turn.lists {t : Turn} {past : List Turn} {p : Kind.driver.Record}
    (hp : (history ids past).books.Live .driver p) (hop : t.operation = .list (.contractsOf p.id)) :
    (t.play (history ids past)).1 =
      .ok (.records .contract ((history ids past).books.list (.contractsOf p.id))) := by
  have hyields : t.operation.program.Yields (t.prepare (history ids past))
      (.records .contract ((history ids past).books.list (.contractsOf p.id)))
      (t.prepare (history ids past)) := by
    rw [hop]
    apply yields_map.mpr
    refine ⟨_, yields_list.mpr ⟨?_, rfl, rfl⟩, rfl⟩
    rintro _ _ ⟨⟩
    exact (numbered_history ids past).named hp.stored
  exact congrArg Prod.fst hyields

/-- **The way can be cleared.** To have a driver deleted, one asks for the list of the contracts,
terminates those that are not terminated, in anybody's name, returns the vehicles that are out, and
deletes the driver. The errands can be run in any order and at any time, and whatever they are about
may have been deleted: all of them succeed, and so does the deletion. -/
theorem way_cleared {p : Kind.driver.Record} (hp : (history ids turns).books.Live .driver p)
    (hsigned : ∀ id, Text.trim (signature id) ≠ "")
    (herrands : (errands.map Turn.operation).Perm
      ((history ids turns).books.chores signature p.id))
    {last : Turn} (hlast : last.operation = .delete .driver p.id) :
    (∀ t : Turn, t.operation = .list (.contractsOf p.id) → (t.play (history ids turns)).1 =
      .ok (.records .contract ((history ids turns).books.list (.contractsOf p.id)))) ∧
    (∀ past t, past ++ [t] <+: errands ++ [last] →
      ∃ out, (t.play (history ids (turns ++ past))).1 = .ok out) ∧
    (history ids (turns ++ (errands ++ [last]))).books.Deleted .driver p.id := by
  have hchores : ∀ t ∈ errands, (history ids turns).books.Chore signature p.id t.operation :=
    fun t ht => Books.mem_chores.mp (herrands.subset (List.mem_map_of_mem ht))
  have honce : (errands.map Turn.operation).Nodup := herrands.nodup_iff.mpr Books.nodup_chores
  have hleaves {past : List Turn} (hpast : past <+: errands) :=
    leaves_after_errands hsigned hchores honce hpast
  -- when the errands are run, no chore is left, and the driver is still there
  have hnone : ∀ op, ¬ (history ids (turns ++ errands)).books.Chore signature p.id op := by
    intro op hop
    obtain ⟨hbefore, hundone⟩ := ((hleaves (List.prefix_refl _)).chores op).mp hop
    exact hundone (herrands.symm.subset (Books.mem_chores.mpr hbefore))
  have hthere : (history ids (turns ++ errands)).books.Live .driver p :=
    (congrFun (hleaves (List.prefix_refl _)).drivers p.id).trans hp
  obtain ⟨hok, hdeleted⟩ := Turn.deletes hthere hlast hnone
  refine ⟨fun t => Turn.lists hp, fun past t h => ?_, ?_⟩
  · rcases List.prefix_concat_iff.mp h with heq | hpast
    · obtain ⟨rfl, ht⟩ := List.append_inj' heq rfl
      obtain rfl := List.singleton_inj.mp ht
      exact ⟨.nothing, hok⟩
    · have hbefore := hleaves ((List.prefix_append past [t]).trans hpast)
      exact (Turn.relieves (hbefore.chore_next hpast hchores honce) hsigned).1
  · rwa [history_append_append_singleton]

end

/-! ## A sample -/

/-- The driver has two contracts and a vehicle, and then the vehicle and the contract under which it
was handed out are deleted. -/
def leftBehind : List Turn :=
  sampleFleet ++
    [.on newYear (.assignVehicle "contract" "vehicle"),
    .on newYear (.delete .vehicle "vehicle"),
    .on newYear (.delete .contract "contract")]

/-- What is left to be done for the driver: the vehicle is returned first, and the other contract is
terminated before it has begun. -/
def leftToDo : List Turn :=
  [.on newYear (.returnVehicle "assignment"),
    .on newYear (.terminateContract "contract2" " Ada ")]

/-- Vehicle and contract being gone, the driver can be let go all the same. -/
theorem way_cleared_leftBehind :
    let books := (history sampleIds leftBehind).books
    let ada : Kind.driver.Record := .fresh "driver" ⟨"Ada", "Byron", "L-1"⟩
    let deletion : Turn := .on newYear (.delete .driver "driver")
    books.Live .driver ada ∧
    (leftToDo.map Turn.operation).Perm (books.chores (fun _ => " Ada ") "driver") ∧
    (∀ past t, past ++ [t] <+: leftToDo ++ [deletion] →
      ∃ out, (t.play (history sampleIds (leftBehind ++ past))).1 = .ok out) ∧
    (history sampleIds (leftBehind ++ (leftToDo ++ [deletion]))).books.Deleted .driver
      "driver" := by
  intro books ada deletion
  have hada : books.Live .driver ada := by decide +kernel
  have hperm : (leftToDo.map Turn.operation).Perm
      (books.chores (fun _ => " Ada ") "driver") := by decide +kernel
  have hfilled : Text.trim " Ada " ≠ "" := by decide +kernel
  have hlast : deletion.operation = .delete .driver "driver" := rfl
  obtain ⟨-, hsucceed, hdeleted⟩ := way_cleared hada (fun _ => hfilled) hperm hlast
  exact ⟨hada, hperm, hsucceed, hdeleted⟩

end LeaseDesk
