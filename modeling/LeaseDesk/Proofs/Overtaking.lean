import LeaseDesk.Proofs.Custody
import LeaseDesk.Proofs.Interleaving

/-!
# Deletions that are overtaken

To terminate a contract, or to return a vehicle, a session first finds the record and later saves it
as a whole, and with it the tombstone that it had when it was found, which is none. In between the
session holds a copy (`Program.Holds`). If somebody else deletes the record in the meantime, the
copy is saved over the tombstone, and a deletion that was confirmed is undone.

This is the only way to lose a deletion as long as nobody makes records or restores them.
`deletionsLast_iff` says so for all requests side by side, in whatever order their asks mix. A
session that has its hands empty when the deletion is confirmed finds nothing to copy afterwards
(`Program.EmptyHanded.step_cases`), and it is in this that the record stays deleted.
-/

namespace LeaseDesk

open Storage

/-! ## Copies -/

namespace Program

variable {α β : Type} {kind : Kind} {id : String} {target : Option (Kind × String)}

/-- The program has come to a result. -/
def isDone : Program α → Bool
  | done _ => true
  | _ => false

/-- The next ask saves a live record under the identifier, and it is the last one. -/
def AboutToSave (kind : Kind) (id : String) (p : Program α) : Prop :=
  ∃ (r : kind.Record) (out : α), r.isLive ∧ r.id = id ∧
    p = ask (.storage (.save kind r)) fun _ => done out

/-- A live record under the identifier will be saved, perhaps after a look at the clock. -/
inductive Holds (kind : Kind) (id : String) : Program α → Prop
  | save {p : Program α} (h : p.AboutToSave kind id) : Holds kind id p
  | clock {next : Instant → Program α} (rest : ∀ t, Holds kind id (next t)) :
      Holds kind id (ask .clock next)

/-- The program holds no copy of a record. It can get hold of one only of the target, and only where
the target is found alive. Where it does not take a copy then, its hands are as empty as before. -/
inductive EmptyHanded (target : Option (Kind × String)) : Program α → Prop
  | done (a : α) : EmptyHanded target (done a)
  | fail (e : Failure) : EmptyHanded target (fail e)
  | look {request : Ask} {next : request.Answer → Program α} (idle : request.isIdle)
      (rest : ∀ a, EmptyHanded target (next a)) : EmptyHanded target (ask request next)
  | bury (kind : Kind) (id : String) {next : Unit → Program α}
      (rest : ∀ a, EmptyHanded target (next a)) :
      EmptyHanded target (ask (.storage (.bury kind id)) next)
  | find {kind : Kind} {id : String} {next : Option kind.Record → Program α}
      (operation : target = some (kind, id)) (missing : EmptyHanded target (next none))
      (found : ∀ r : kind.Record, r.isLive → r.id = id → ¬ (next (some r)).Holds kind id →
        EmptyHanded target (next (some r))) :
      EmptyHanded target (ask (.storage (.find kind id)) next)

/-- The program holds a copy of the target or of nothing. -/
inductive Tame (target : Option (Kind × String)) (p : Program α) : Prop
  | emptyHanded (h : p.EmptyHanded target) : Tame target p
  | holds (kind : Kind) (id : String) (operation : target = some (kind, id))
      (h : p.Holds kind id) : Tame target p

/-- Looking does not fill the hands. -/
theorem LooksUntil.emptyHanded {P : Program α → Prop} {p : Program α} (hp : p.LooksUntil P)
    (h : ∀ q, P q → q.EmptyHanded target) : p.EmptyHanded target := by
  induction hp with
  | reached ending => exact h _ ending
  | fail e exposable => exact .fail e
  | look idle _ ih => exact .look idle ih

theorem LooksOnly.emptyHanded {p : Program α} (hp : p.LooksOnly) : p.EmptyHanded target := by
  refine LooksUntil.emptyHanded hp ?_
  rintro _ ⟨a, rfl⟩
  exact .done a

theorem LooksOnly.bind_emptyHanded {p : Program α} (hp : p.LooksOnly) {f : α → Program β}
    (hf : ∀ a, (f a).EmptyHanded target) : (p.bind f).EmptyHanded target := by
  refine LooksUntil.emptyHanded (hp.bind fun a => .reached (P := fun q => q.EmptyHanded target)
    (hf a)) fun q hq => hq

theorem EmptyHanded.not_aboutToSave {p : Program α} (hp : p.EmptyHanded target) :
    ¬ p.AboutToSave kind id := by
  rintro ⟨r, out, -, -, rfl⟩
  cases hp with
  | look idle rest => cases idle

/-- Hands are not empty and full. -/
theorem EmptyHanded.not_holds {p : Program α} (hp : p.EmptyHanded target) :
    ¬ p.Holds kind id := by
  intro h
  induction h with
  | save h => exact hp.not_aboutToSave h
  | clock rest ih =>
    cases hp with
    | look idle hrest => exact ih (Instant.startOfDay newYear) (hrest _)

/-- A copy is a copy of one record. -/
theorem Holds.unique {p : Program α} {other : Kind} {id' : String} (h : p.Holds kind id)
    (h' : p.Holds other id') : other = kind ∧ id' = id := by
  induction h with
  | save h =>
    obtain ⟨r, out, -, rfl, rfl⟩ := h
    cases h' with
    | save h' =>
      obtain ⟨r', out', -, rfl, heq⟩ := h'
      obtain ⟨hsave, -⟩ := ask.inj heq
      cases hsave
      exact ⟨rfl, rfl⟩
  | clock rest ih =>
    cases h' with
    | save h' =>
      obtain ⟨r', out', -, -, heq⟩ := h'
      exact nomatch heq
    | clock rest' => exact ih (Instant.startOfDay newYear) (rest' _)

/-- What a tame program holds a copy of is its target. -/
theorem Tame.target_of_holds {p : Program α} (hp : p.Tame target) (h : p.Holds kind id) :
    target = some (kind, id) := by
  cases hp with
  | emptyHanded hempty => exact absurd h hempty.not_holds
  | holds other id' operation h' =>
    obtain ⟨rfl, rfl⟩ := h.unique h'
    exact operation

/-! ## Asking -/

variable {p : Program α} {d : Desk Memory}

/-- A record is buried, or there is none that can be. -/
theorem step_bury (kind : Kind) (id : String) (next : Unit → Program α) (d : Desk Memory) :
    (∃ e, (ask (.storage (.bury kind id)) next).step memoryHost d = (fail e, d)) ∨
      ∃ r : kind.Record, r.id = id ∧ (ask (.storage (.bury kind id)) next).step memoryHost d =
        (next (), d.write kind (r.bury d.contents.wall)) := by
  rcases hanswer : Memory.answer (.bury kind id) d.contents with ⟨e | u, m⟩
  · refine .inl ⟨e, ?_⟩
    obtain ⟨rfl, -⟩ := Memory.of_answer_error hanswer
    rw [step, show memoryHost.answer _ d = _ from answer_storage _ d, hanswer]
  · have hcall : (call (.bury kind id)).Yields d u { d with contents := m } :=
      (yields_call hanswer).mpr ⟨rfl, rfl⟩
    obtain ⟨r, hr, hd⟩ := yields_bury.mp hcall
    refine .inr ⟨r, (Books.find_eq_some_iff.mp hr).2, ?_⟩
    rw [step, show memoryHost.answer _ d = _ from answer_storage _ d, hanswer, ← hd]

/-- Empty hands stay empty, unless the target is found alive. -/
theorem EmptyHanded.step_cases (hp : p.EmptyHanded target) (d : Desk Memory) :
    (p.step memoryHost d).1.EmptyHanded target ∨
      ∃ kind id, target = some (kind, id) ∧ d.books.find kind id ≠ none ∧
        (p.step memoryHost d).1.Holds kind id := by
  cases hp with
  | done a => exact .inl (.done a)
  | fail e => exact .inl (.fail e)
  | look idle rest =>
    obtain ⟨drivers, q, hstep, ⟨a, rfl⟩ | ⟨e, rfl⟩⟩ := step_of_idle idle _ d
    · rw [hstep]
      exact .inl (rest a)
    · rw [hstep]
      exact .inl (.fail e)
  | bury other id rest =>
    rcases step_bury other id _ d with ⟨e, hstep⟩ | ⟨r, -, hstep⟩
    · rw [hstep]
      exact .inl (.fail e)
    · rw [hstep]
      exact .inl (rest ())
  | @find other id next operation missing found =>
    show (next (d.books.find other id)).EmptyHanded target ∨ ∃ kind id', _ ∧ _ ∧
      (next (d.books.find other id)).Holds kind id'
    rcases hfind : d.books.find other id with _ | r
    · exact .inl missing
    · obtain ⟨hlive, hid⟩ := Books.find_eq_some_iff.mp hfind
      by_cases hholds : (next (some r)).Holds other id
      · exact .inr ⟨other, id, operation, by rw [hfind]; nofun, hholds⟩
      · exact .inl (found r hlive.isLive hid hholds)

theorem Holds.step (hp : p.Holds kind id) (d : Desk Memory) :
    (p.step memoryHost d).1.Holds kind id ∨ (p.step memoryHost d).1.EmptyHanded target := by
  cases hp with
  | save h =>
    obtain ⟨r, out, -, -, rfl⟩ := h
    exact .inr (.done out)
  | clock rest => exact .inl (rest d.clock)

theorem Tame.step (hp : p.Tame target) (d : Desk Memory) :
    (p.step memoryHost d).1.Tame target := by
  cases hp with
  | emptyHanded h =>
    rcases h.step_cases d with h | ⟨kind, id, operation, -, h⟩
    · exact .emptyHanded h
    · exact .holds kind id operation h
  | holds kind id operation h =>
    rcases h.step d with h | h
    · exact .holds kind id operation h
    · exact .emptyHanded h

/-- A tame program leaves a record deleted, unless it saves a copy of it. -/
theorem Tame.deleted_step (hp : p.Tame target) (hsave : ¬ p.AboutToSave kind id)
    (hdel : d.books.Deleted kind id) : (p.step memoryHost d).2.books.Deleted kind id := by
  cases hp with
  | emptyHanded h =>
    cases h with
    | done a => exact hdel
    | fail e => exact hdel
    | look idle rest =>
      obtain ⟨drivers, q, hstep, -⟩ := step_of_idle idle _ d
      rw [hstep]
      exact hdel
    | bury other id' rest =>
      rcases step_bury other id' _ d with ⟨e, hstep⟩ | ⟨r, rfl, hstep⟩
      · rw [hstep]
        exact hdel
      · rw [hstep]
        by_cases hsame : (other, r.id) = (kind, id)
        · obtain ⟨rfl, rfl⟩ := Prod.mk.inj hsame
          exact Books.deleted_put_bury _ rfl
        · exact hdel.put_of_ne hsame
    | find operation missing found => exact hdel
  | holds other id' operation h =>
    cases h with
    | save h =>
      obtain ⟨r, out, hlive, rfl, rfl⟩ := h
      refine hdel.put_of_ne ?_
      rintro ⟨⟩
      exact hsave ⟨r, out, hlive, rfl, rfl⟩
    | clock rest => exact hdel

end Program

/-! ## Operations -/

/-- The record that an operation finds and saves again, if it does that. -/
def Operation.revises : Operation → Option (Kind × String)
  | .terminateContract id _ => some (.contract, id)
  | .returnVehicle id => some (.assignment, id)
  | _ => none

/-- The operation makes a record or restores one. -/
def Operation.bringsIn : Operation → Bool
  | .undelete _ _ => true
  | op => op.enters.isSome

namespace Procedure

open Program

variable {β : Type} {target : Option (Kind × String)}

theorem emptyHanded_requireRecord_bind {kind : Kind} {id : String} {f : kind.Record → Program β}
    (operation : target = some (kind, id))
    (hf : ∀ r : kind.Record, r.isLive → r.id = id → ¬ (f r).Holds kind id →
      (f r).EmptyHanded target) : ((requireRecord kind id).bind f).EmptyHanded target :=
  .find operation (.fail _) hf

/-- A check that is passed with a copy in the hands. -/
theorem emptyHanded_require_bind {kind : Kind} {id : String} {condition : Bool} {e : Failure}
    {f : Unit → Program β} (hf : (f ()).Holds kind id)
    (hnot : ¬ ((require condition e).bind f).Holds kind id) :
    ((require condition e).bind f).EmptyHanded target := by
  cases condition
  · exact .fail e
  · exact absurd hf hnot

end Procedure

open Program Procedure in
/-- Whoever makes and restores nothing begins with empty hands. -/
theorem Operation.emptyHanded {op : Operation} (h : ¬ op.bringsIn) :
    op.program.EmptyHanded op.revises := by
  cases op <;> simp only [program, bind_eq, pure_eq]
  case terminateContract id terminatedBy =>
    simp only [Procedure.terminateContract, bind_eq, pure_eq, Program.bind_assoc]
    refine (looksOnly_requireId _ _).bind_emptyHanded fun _ => ?_
    refine (looksOnly_requireText _ _).bind_emptyHanded fun _ => ?_
    refine emptyHanded_requireRecord_bind rfl fun r hlive hid => ?_
    refine emptyHanded_require_bind ?_
    exact .clock fun now => .save ⟨r.revise (r.data.terminate now _), _, hlive, hid, rfl⟩
  case returnVehicle id =>
    simp only [Procedure.returnVehicle, bind_eq, pure_eq, Program.bind_assoc]
    refine (looksOnly_requireId _ _).bind_emptyHanded fun _ => ?_
    refine emptyHanded_requireRecord_bind rfl fun r hlive hid => ?_
    refine emptyHanded_require_bind ?_
    exact .clock fun now => .save ⟨r.revise (r.data.finish now), _, hlive, hid, rfl⟩
  case validateLicense driverId =>
    exact (looksOnly_validateLicense driverId).bind_emptyHanded fun _ => .done _
  case get kind id => exact (looksOnly_get kind id).bind_emptyHanded fun _ => .done _
  case list listing => exact (looksOnly_list listing).bind_emptyHanded fun _ => .done _
  case delete kind id =>
    refine ((looksUntil_delete kind id).map ?_).emptyHanded fun q hq => hq
    rintro _ rfl
    exact .bury kind id fun _ => .done _
  all_goals exact absurd rfl h

/-! ## Sessions -/

namespace Session

open Program

/-- The session has been told that the record is deleted. -/
def Confirms (s : Session) (kind : Kind) (id : String) : Prop :=
  s.request = .delete kind id ∧ s.rest.isDone

instance (s : Session) (kind : Kind) (id : String) : Decidable (s.Confirms kind id) :=
  inferInstanceAs (Decidable (_ ∧ _))

/-- A request to delete that has not been answered looks until it buries the record. -/
def Waits (kind : Kind) (id : String) (p : Program Outcome) : Prop :=
  p.LooksUntil (· = ask (.storage (.bury kind id)) fun _ => done .nothing)

/-- What is left of a request to delete. -/
inductive Buries (kind : Kind) (id : String) : Program Outcome → Prop
  | waiting {p : Program Outcome} (h : Waits kind id p) : Buries kind id p
  | confirmed : Buries kind id (done .nothing)
  | failed (e : Failure) : Buries kind id (fail e)

/-- What can be relied on of a session at any time. -/
structure Sound (s : Session) : Prop where
  /-- it holds no copies but of what it revises -/
  tame : s.rest.Tame s.request.revises
  /-- a deletion is confirmed only after the record is buried -/
  buries : ∀ kind id, s.request = .delete kind id → Buries kind id s.rest

variable {s : Session} {kind : Kind} {id : String}

theorem waits_delete (kind : Kind) (id : String) :
    Waits kind id (Operation.delete kind id).program := by
  refine (Procedure.looksUntil_delete kind id).map ?_
  rintro _ rfl
  rfl

theorem Waits.not_isDone {p : Program Outcome} (h : Waits kind id p) : ¬ p.isDone := by
  cases h with
  | reached ending =>
    subst ending
    nofun
  | fail e exposable => nofun
  | look idle rest => nofun

theorem sound_open {op : Operation} (h : ¬ op.bringsIn) : (Session.open op).Sound where
  tame := .emptyHanded (Operation.emptyHanded h)
  buries := by
    rintro kind id rfl
    exact .waiting (waits_delete kind id)

/-- To delete takes an ask at least. -/
theorem not_confirms_open (op : Operation) : ¬ (Session.open op).Confirms kind id := by
  rintro ⟨hop, hdone⟩
  obtain rfl : op = .delete kind id := hop
  exact (waits_delete kind id).not_isDone hdone

/-- One more ask of a request to delete. It is confirmed now only if the record is deleted now. -/
theorem Buries.step {p : Program Outcome} (hp : Buries kind id p) (d : Desk Memory) :
    Buries kind id (p.step memoryHost d).1 ∧
      ((p.step memoryHost d).1.isDone →
        p.isDone ∨ (p.step memoryHost d).2.books.Deleted kind id) := by
  cases hp with
  | confirmed => exact ⟨.confirmed, .inl⟩
  | failed e => exact ⟨.failed e, nofun⟩
  | waiting h =>
    cases h with
    | reached ending =>
      subst ending
      rcases step_bury kind id (fun _ => done Outcome.nothing) d with
        ⟨e, hstep⟩ | ⟨r, hid, hstep⟩
      · rw [hstep]
        exact ⟨.failed e, nofun⟩
      · rw [hstep]
        exact ⟨.confirmed, fun _ => .inr (Books.deleted_put_bury _ hid)⟩
    | fail e exposable => exact ⟨.failed e, nofun⟩
    | look idle rest =>
      obtain ⟨drivers, q, hstep, ⟨a, rfl⟩ | ⟨e, rfl⟩⟩ := step_of_idle idle _ d
      · rw [hstep]
        exact ⟨.waiting (rest a), fun hdone => absurd hdone (Waits.not_isDone (rest a))⟩
      · rw [hstep]
        exact ⟨.failed e, nofun⟩

theorem Sound.next (hs : s.Sound) (d : Desk Memory) : (s.next d).Sound where
  tame := hs.tame.step d
  buries := fun kind id hop => ((hs.buries kind id hop).step d).1

/-- The session holds no copy of the record. -/
def Spares (s : Session) (kind : Kind) (id : String) : Prop :=
  s.request.revises = some (kind, id) → s.rest.EmptyHanded s.request.revises

theorem Sound.holds_or_spares (hs : s.Sound) (kind : Kind) (id : String) :
    s.rest.Holds kind id ∨ s.Spares kind id := by
  cases hs.tame with
  | emptyHanded h => exact .inr fun _ => h
  | holds other id' operation h =>
    by_cases hsame : s.request.revises = some (kind, id)
    · obtain ⟨rfl, rfl⟩ := Prod.mk.inj (Option.some.inj (operation.symm.trans hsame))
      exact .inl h
    · exact .inr fun hop => absurd hop hsame

theorem Spares.not_aboutToSave (h : s.Spares kind id) (hs : s.Sound) :
    ¬ s.rest.AboutToSave kind id := by
  intro hsave
  have htarget := hs.tame.target_of_holds (.save hsave)
  exact (h htarget).not_aboutToSave hsave

/-- Of a record that is deleted nobody gets a copy. -/
theorem Spares.next (h : s.Spares kind id) {d : Desk Memory} (hdel : d.books.Deleted kind id) :
    (s.next d).Spares kind id := by
  intro hop
  rcases (h hop).step_cases d with hempty | ⟨other, id', hop', hfound, -⟩
  · exact hempty
  · obtain ⟨rfl, rfl⟩ := Prod.mk.inj (Option.some.inj (hop'.symm.trans hop))
    exact absurd hdel.find_eq_none hfound

/-- Whoever is told now that a record is deleted has just deleted it. -/
theorem Sound.deleted_of_confirms (hs : s.Sound) {d : Desk Memory} (hbefore : ¬ s.Confirms kind id)
    (hafter : (s.next d).Confirms kind id) :
    (s.rest.step memoryHost d).2.books.Deleted kind id := by
  obtain ⟨hop, hdone⟩ := hafter
  rcases ((hs.buries kind id hop).step d).2 hdone with hout | hdel
  · exact absurd ⟨hop, hout⟩ hbefore
  · exact hdel

end Session

/-! ## The hall -/

namespace Hall

/-- Somebody has been told that the record is deleted. -/
def Confirms (h : Hall) (kind : Kind) (id : String) : Prop :=
  ∃ s ∈ h.sessions, s.Confirms kind id

instance (h : Hall) (kind : Kind) (id : String) : Decidable (h.Confirms kind id) :=
  inferInstanceAs (Decidable (∃ s ∈ h.sessions, s.Confirms kind id))

/-- The session in this place holds a copy of the record. -/
def Holds (h : Hall) (place : Nat) (kind : Kind) (id : String) : Prop :=
  ∃ s, h.sessions[place]? = some s ∧ s.rest.Holds kind id

/-- The session in this place is about to save its copy of the record. -/
def AboutToSave (h : Hall) (place : Nat) (kind : Kind) (id : String) : Prop :=
  ∃ s, h.sessions[place]? = some s ∧ s.rest.AboutToSave kind id

/-- The record is deleted, and only sessions that held a copy of it earlier can hold one. -/
structure KeepsDeleted (h₀ h : Hall) (kind : Kind) (id : String) : Prop where
  deleted : h.desk.books.Deleted kind id
  hands : ∀ place s, h.sessions[place]? = some s → h₀.Holds place kind id ∨ s.Spares kind id

/-- **No copies of what is deleted.** A record stays deleted through a move, unless a copy of it is
saved that was there before. -/
theorem KeepsDeleted.after {h₀ h : Hall} {kind : Kind} {id : String} {m : Move}
    (hkeep : h₀.KeepsDeleted h kind id) (hsound : ∀ s ∈ h.sessions, s.Sound)
    (hgood : h₀.Holds m.turn kind id → ¬ h.AboutToSave m.turn kind id) :
    h₀.KeepsDeleted (h.after m) kind id := by
  cases hs : h.sessions[m.turn]? with
  | none => rwa [after_of_none hs]
  | some s =>
    have hsnd := hsound s (List.mem_of_getElem? hs)
    constructor
    · rw [desk_after hs]
      refine hsnd.tame.deleted_step ?_ hkeep.deleted
      rcases hkeep.hands m.turn s hs with hheld | hspares
      · exact fun hsave => hgood hheld ⟨s, hs, hsave⟩
      · exact hspares.not_aboutToSave hsnd
    · intro place t ht
      by_cases hplace : m.turn = place
      · subst hplace
        rw [getElem?_after_self hs] at ht
        obtain rfl := Option.some.inj ht
        exact (hkeep.hands m.turn s hs).imp_right fun hspares => hspares.next hkeep.deleted
      · rw [getElem?_after_of_ne hplace] at ht
        exact hkeep.hands place t ht

end Hall

/-- **Deletions last.** Once somebody has been told that a record is deleted, it is deleted for the
rest of the moves. -/
def DeletionsLast (d : Desk Memory) (requests : List Operation) (moves : List Move) : Prop :=
  ∀ past later, past ++ later <+: moves → ∀ kind id,
    (interleave d requests past).Confirms kind id →
      (interleave d requests (past ++ later)).desk.books.Deleted kind id

/-- A deletion is overtaken: the move `m` confirms it while the session whose turn it is in the move
`n` holds a copy of the record, and in the move `n` this copy is saved. -/
structure Overtaken (d : Desk Memory) (requests : List Operation) (past : List Move) (m : Move)
    (between : List Move) (n : Move) (kind : Kind) (id : String) : Prop where
  unconfirmed : ¬ (interleave d requests past).Confirms kind id
  confirmed : (interleave d requests (past ++ [m])).Confirms kind id
  copied : (interleave d requests (past ++ [m])).Holds n.turn kind id
  saved : (interleave d requests (past ++ m :: between)).AboutToSave n.turn kind id

section

variable {d : Desk Memory} {requests : List Operation} {moves past between : List Move} {m n : Move}
  {kind : Kind} {id : String}

/-- A record of which a copy has just been saved is not deleted. -/
theorem Hall.AboutToSave.not_deleted {h : Hall} (hsave : h.AboutToSave n.turn kind id) :
    ¬ (h.after n).desk.books.Deleted kind id := by
  obtain ⟨s, hs, r, out, hlive, rfl, hrest⟩ := hsave
  rw [Hall.desk_after hs, hrest]
  exact Books.not_deleted_put hlive

theorem Overtaken.not_deletionsLast (h : Overtaken d requests past m between n kind id)
    (hp : past ++ m :: between ++ [n] <+: moves) : ¬ DeletionsLast d requests moves := by
  intro hlast
  have hafter := hlast (past ++ [m]) (between ++ [n]) (by simpa using hp) kind id h.confirmed
  rw [show past ++ [m] ++ (between ++ [n]) = past ++ m :: between ++ [n] by simp,
    interleave_append_singleton] at hafter
  exact h.saved.not_deleted hafter

/-- A deletion that is confirmed was confirmed by some move. -/
theorem exists_confirming_move (h : (interleave d requests past).Confirms kind id) :
    ∃ earlier m later, past = earlier ++ m :: later ∧
      ¬ (interleave d requests earlier).Confirms kind id ∧
      (interleave d requests (earlier ++ [m])).Confirms kind id := by
  induction past using List.reverseRecOn with
  | nil =>
    obtain ⟨s, hs, hconf⟩ := h
    obtain ⟨op, -, rfl⟩ := List.mem_map.mp hs
    exact absurd hconf (Session.not_confirms_open op)
  | append_singleton past m ih =>
    by_cases hpast : (interleave d requests past).Confirms kind id
    · obtain ⟨earlier, m', later, rfl, hbefore, hafter⟩ := ih hpast
      exact ⟨earlier, m', later ++ [m], by simp, hbefore, hafter⟩
    · exact ⟨past, m, [], rfl, hpast, h⟩

variable (hrequests : ∀ op ∈ requests, ¬ op.bringsIn)

include hrequests

theorem sound_interleave : ∀ s ∈ (interleave d requests moves).sessions, s.Sound :=
  session_invariant (fun op hop => Session.sound_open (hrequests op hop))
    (fun _ e hs => hs.next e) moves

/-- The move that confirms a deletion leaves the record deleted. -/
theorem deleted_of_confirming_move
    (hbefore : ¬ (interleave d requests past).Confirms kind id)
    (hafter : (interleave d requests (past ++ [m])).Confirms kind id) :
    (interleave d requests (past ++ [m])).desk.books.Deleted kind id := by
  obtain ⟨t, ht, hconf⟩ := hafter
  rw [interleave_append_singleton] at ht ⊢
  rcases Hall.mem_sessions_after ht with ht | ⟨s, hs, rfl⟩
  · exact absurd ⟨t, ht, hconf⟩ hbefore
  · have hmem := List.mem_of_getElem? hs
    rw [Hall.desk_after hs]
    refine (sound_interleave hrequests s hmem).deleted_of_confirms ?_ hconf
    exact fun hconf => hbefore ⟨s, hmem, hconf⟩

/-- As long as no copy is saved that was there when the deletion was confirmed, the record stays
deleted. -/
theorem keepsDeleted_interleave
    (hbefore : ¬ (interleave d requests past).Confirms kind id)
    (hafter : (interleave d requests (past ++ [m])).Confirms kind id)
    (hgood : ∀ between n, past ++ m :: between ++ [n] <+: moves →
      ¬ Overtaken d requests past m between n kind id)
    (hp : past ++ m :: between <+: moves) :
    (interleave d requests (past ++ [m])).KeepsDeleted
      (interleave d requests (past ++ m :: between)) kind id := by
  induction between using List.reverseRecOn with
  | nil =>
    refine ⟨deleted_of_confirming_move hrequests hbefore hafter, fun place s hs => ?_⟩
    have hsnd := sound_interleave hrequests s (List.mem_of_getElem? hs)
    exact (hsnd.holds_or_spares kind id).imp_left fun h => ⟨s, hs, h⟩
  | append_singleton between n ih =>
    rw [show past ++ m :: (between ++ [n]) = past ++ m :: between ++ [n] by simp] at hp ⊢
    rw [interleave_append_singleton (past ++ m :: between)]
    refine (ih ((List.prefix_append _ _).trans hp)).after (sound_interleave hrequests) ?_
    intro hheld hsave
    exact hgood between n hp ⟨hbefore, hafter, hheld, hsave⟩

/-- **When deletions last.** Among requests that make no records and restore none, in whatever order
their asks mix, deletions last exactly if none is overtaken: no session saves a copy that it held
when the deletion of the record was confirmed. -/
theorem deletionsLast_iff : DeletionsLast d requests moves ↔
    ∀ past m between n, past ++ m :: between ++ [n] <+: moves → ∀ kind id,
      ¬ Overtaken d requests past m between n kind id := by
  constructor
  · exact fun hlast past m between n hp kind id h => h.not_deletionsLast hp hlast
  · intro hgood past later hp kind id hconf
    obtain ⟨earlier, m, between, rfl, hbefore, hafter⟩ := exists_confirming_move hconf
    rw [show earlier ++ m :: between ++ later = earlier ++ m :: (between ++ later) by simp] at hp ⊢
    have hkeep := keepsDeleted_interleave hrequests hbefore hafter
      (fun between n hn => hgood earlier m between n hn kind id) hp
    exact hkeep.deleted

end

/-! ## Samples -/

/-- The session in this place makes its next ask on the first of January. -/
def Move.of (place : Nat) : Move :=
  ⟨place, .startOfDay newYear, .startOfDay newYear, fun _ => .ok .valid⟩

/-- The first session finds its record, the second has its turn, and the first goes on: it looks at
the clock and saves. -/
def inBetween : List Move := [.of 0, .of 1, .of 0, .of 0]

/-- A contract is terminated, and another one is deleted in between. -/
def otherDeleted : List Operation :=
  [.terminateContract "contract2" "Ada", .delete .contract "contract"]

/-- That deletion lasts. -/
theorem deletionsLast_otherDeleted :
    DeletionsLast (history sampleIds sampleFleet) otherDeleted inBetween := by
  have hrequests : ∀ op ∈ otherDeleted, ¬ op.bringsIn := by decide
  refine (deletionsLast_iff hrequests).mpr ?_
  intro past m between n hp kind id h
  have hmem : ∀ moves, ∀ s ∈
      (interleave (history sampleIds sampleFleet) otherDeleted moves).sessions,
      s.request ∈ otherDeleted := session_invariant (fun _ hop => hop) fun _ _ hs => hs
  obtain ⟨s, hs, hdelete, -⟩ := h.confirmed
  obtain ⟨t, ht, hholds⟩ := h.copied
  have ht := List.mem_of_getElem? ht
  have hrevises := (sound_interleave hrequests t ht).tame.target_of_holds hholds
  have hs := hmem _ s hs
  have ht := hmem _ t ht
  rw [hdelete] at hs
  simp only [otherDeleted, List.mem_cons, List.not_mem_nil, or_false] at hs ht
  rcases ht with ht | ht <;> rw [ht] at hrevises
  · obtain ⟨rfl, rfl⟩ := Prod.mk.inj (Option.some.inj hrevises)
    exact absurd hs (by decide)
  · exact nomatch hrevises

/-- A contract is terminated, and it is deleted in between. -/
def sameDeleted : List Operation :=
  [.terminateContract "contract" "Ada", .delete .contract "contract"]

/-- In the end the contract is not deleted any more. -/
theorem not_deletionsLast_sameDeleted :
    ¬ DeletionsLast (history sampleIds sampleFleet) sameDeleted inBetween := by
  intro h
  have hconfirms : (interleave (history sampleIds sampleFleet) sameDeleted [.of 0, .of 1]).Confirms
      .contract "contract" := by
    decide +kernel
  have hlive : ((interleave (history sampleIds sampleFleet) sameDeleted
      inBetween).desk.books.lookup .contract "contract").any Record.isLive = true := by
    decide +kernel
  obtain ⟨r, hr, hdel⟩ := h [.of 0, .of 1] [.of 0, .of 0] (List.prefix_refl _) .contract
    "contract" hconfirms
  rw [show [.of 0, .of 1] ++ [.of 0, .of 0] = inBetween from rfl] at hr
  rw [hr, Option.any_some, hdel] at hlive
  exact nomatch hlive

end LeaseDesk
