import LeaseDesk.Operation

/-!
# Looking before writing

Every operation first looks: it reads records, the clock and the register, and it may give up at any
point. Only when it has seen enough does it come to its ending, and there is not much an ending can
be. It enters a new record under a fresh identifier, it makes one single call that writes, or it has
nothing left to do. Nothing is looked at, and nothing can be refused, after an ending has begun.

`Program.LooksUntil` says so of the tree of a program, without running it. For each procedure there
is one lemma with the ending it comes to, and `Operation.looksUntil` puts them together. Nobody has
to go through the checks of a procedure again to see what it leaves behind when it fails.
-/

namespace LeaseDesk

open Storage

/-- The ask leaves the books and the identifiers as they are, whatever it is answered. -/
def Ask.isIdle : Ask → Bool
  | .freshId | .storage (.save _ _) | .storage (.bury _ _) | .storage (.restore _ _) => false
  | _ => true

namespace Program

variable {α β : Type} {P : Program α → Prop} {Q : Program β → Prop}

/-- The program makes idle asks only, until it comes to a program with the property. It may also
give up, for a reason that can be shown to anybody. -/
inductive LooksUntil (P : Program α → Prop) : Program α → Prop
  | reached {p : Program α} (ending : P p) : LooksUntil P p
  | fail (e : Failure) (exposable : e.isExposable) : LooksUntil P (fail e)
  | look {request : Ask} {next : request.Answer → Program α} (idle : request.isIdle)
      (rest : ∀ a, LooksUntil P (next a)) : LooksUntil P (ask request next)

/-- The program does nothing but look. -/
def LooksOnly (p : Program α) : Prop :=
  p.LooksUntil fun q => ∃ a, q = done a

theorem looksOnly_done (a : α) : (done a).LooksOnly := .reached ⟨a, rfl⟩

/-- What follows on a program follows on its ending. -/
theorem LooksUntil.bind {p : Program α} (hp : p.LooksUntil P) {f : α → Program β}
    (h : ∀ q, P q → (q.bind f).LooksUntil Q) : (p.bind f).LooksUntil Q := by
  induction hp with
  | reached ending => exact h _ ending
  | fail e exposable => exact .fail e exposable
  | look idle _ ih => exact .look idle ih

theorem LooksUntil.map {p : Program α} (hp : p.LooksUntil P) {f : α → Program β}
    (h : ∀ q, P q → Q (q.bind f)) : (p.bind f).LooksUntil Q :=
  hp.bind fun q hq => .reached (h q hq)

/-- It takes as long as one likes to look first. -/
theorem LooksOnly.bind {p : Program α} (hp : p.LooksOnly) {f : α → Program β}
    (hf : ∀ a, (f a).LooksUntil Q) : (p.bind f).LooksUntil Q := by
  refine LooksUntil.bind hp ?_
  rintro _ ⟨a, rfl⟩
  exact hf a

theorem looksOnly_require (condition : Bool) (e : Failure) (exposable : e.isExposable) :
    (require condition e).LooksOnly := by
  cases condition
  · exact .fail e exposable
  · exact looksOnly_done ()

theorem looksOnly_clock : clock.LooksOnly := .look rfl looksOnly_done

theorem looksOnly_verdict (driver : Driver) : (verdict driver).LooksOnly :=
  .look rfl looksOnly_done

theorem looksOnly_call (c : Call) (idle : (Ask.storage c).isIdle) : (call c).LooksOnly :=
  .look idle looksOnly_done

end Program

/-! ## Procedures -/

namespace Procedure

open Program

theorem looksOnly_requireId (field id : String) : (requireId field id).LooksOnly :=
  looksOnly_require _ _ (by rfl)

theorem looksOnly_requireText (field text : String) : (requireText field text).LooksOnly :=
  (looksOnly_require _ _ (by rfl)).bind fun _ => looksOnly_done _

theorem looksOnly_requireRecord (kind : Kind) (id : String) :
    (requireRecord kind id).LooksOnly := by
  refine (looksOnly_call _ rfl).bind fun r => ?_
  cases r with
  | none => exact .fail _ rfl
  | some r => exact looksOnly_done r

theorem looksOnly_requireNoObligations (driverId : String) :
    (requireNoObligations driverId).LooksOnly := by
  simp only [requireNoObligations, bind_eq]
  refine looksOnly_clock.bind fun _ => ?_
  refine (looksOnly_call _ rfl).bind fun _ => ?_
  refine (looksOnly_require _ _ (by rfl)).bind fun _ => ?_
  refine (looksOnly_call _ rfl).bind fun _ => ?_
  exact looksOnly_require _ _ (by rfl)

/-- The ending of a procedure that makes a record: one is entered. -/
def Enters (kind : Kind) (q : Program kind.Record) : Prop :=
  ∃ data, q = enter kind data

/-- The ending of a procedure that changes a record: one is saved, and handed back. -/
def Saves (kind : Kind) (q : Program kind.Record) : Prop :=
  ∃ r, q = (call (.save kind r)).bind fun _ => done r

theorem looksUntil_createLegalEntity (name taxId : String) :
    (createLegalEntity name taxId).LooksUntil (Enters .legalEntity) := by
  simp only [createLegalEntity, bind_eq]
  refine (looksOnly_requireText _ _).bind fun _ => ?_
  refine (looksOnly_requireText _ _).bind fun _ => ?_
  exact .reached ⟨_, rfl⟩

theorem looksUntil_createFleet (legalEntityId name : String) :
    (createFleet legalEntityId name).LooksUntil (Enters .fleet) := by
  simp only [createFleet, bind_eq]
  refine (looksOnly_requireId _ _).bind fun _ => ?_
  refine (looksOnly_requireText _ _).bind fun _ => ?_
  refine (looksOnly_requireRecord _ _).bind fun _ => ?_
  exact .reached ⟨_, rfl⟩

theorem looksUntil_createVehicle (fleetId make model : String) (year : Int)
    (licensePlate : String) :
    (createVehicle fleetId make model year licensePlate).LooksUntil (Enters .vehicle) := by
  simp only [createVehicle, bind_eq]
  refine (looksOnly_requireId _ _).bind fun _ => ?_
  refine (looksOnly_requireText _ _).bind fun _ => ?_
  refine (looksOnly_requireText _ _).bind fun _ => ?_
  refine (looksOnly_require _ _ (by rfl)).bind fun _ => ?_
  refine (looksOnly_requireRecord _ _).bind fun _ => ?_
  exact .reached ⟨_, rfl⟩

theorem looksUntil_createDriver (firstName lastName licenseNumber : String) :
    (createDriver firstName lastName licenseNumber).LooksUntil (Enters .driver) := by
  simp only [createDriver, bind_eq]
  refine (looksOnly_requireText _ _).bind fun _ => ?_
  refine (looksOnly_requireText _ _).bind fun _ => ?_
  refine (looksOnly_requireText _ _).bind fun _ => ?_
  refine (looksOnly_verdict _).bind fun _ => ?_
  refine (looksOnly_require _ _ (by rfl)).bind fun _ => ?_
  exact .reached ⟨_, rfl⟩

theorem looksUntil_createContract (driverId legalEntityId fleetId : String) (first last : Date) :
    (createContract driverId legalEntityId fleetId first last).LooksUntil
      (Enters .contract) := by
  simp only [createContract, bind_eq]
  refine (looksOnly_require _ _ (by rfl)).bind fun _ => ?_
  refine (looksOnly_require _ _ (by rfl)).bind fun _ => ?_
  refine (looksOnly_requireRecord _ _).bind fun _ => ?_
  refine (looksOnly_requireRecord _ _).bind fun _ => ?_
  refine (looksOnly_requireRecord _ _).bind fun _ => ?_
  refine (looksOnly_call _ rfl).bind fun _ => ?_
  split
  · exact .fail _ rfl
  · exact .reached ⟨_, rfl⟩

theorem looksUntil_terminateContract (id terminatedBy : String) :
    (terminateContract id terminatedBy).LooksUntil (Saves .contract) := by
  simp only [terminateContract, bind_eq, pure_eq]
  refine (looksOnly_requireId _ _).bind fun _ => ?_
  refine (looksOnly_requireText _ _).bind fun _ => ?_
  refine (looksOnly_requireRecord _ _).bind fun _ => ?_
  refine (looksOnly_require _ _ (by rfl)).bind fun _ => ?_
  refine looksOnly_clock.bind fun _ => ?_
  exact .reached ⟨_, rfl⟩

theorem looksUntil_assignVehicle (contractId vehicleId : String) :
    (assignVehicle contractId vehicleId).LooksUntil (Enters .assignment) := by
  simp only [assignVehicle, bind_eq]
  refine (looksOnly_require _ _ (by rfl)).bind fun _ => ?_
  refine (looksOnly_requireRecord _ _).bind fun _ => ?_
  refine (looksOnly_requireRecord _ _).bind fun _ => ?_
  refine (looksOnly_require _ _ (by rfl)).bind fun _ => ?_
  refine looksOnly_clock.bind fun _ => ?_
  refine (looksOnly_require _ _ (by rfl)).bind fun _ => ?_
  refine (looksOnly_call _ rfl).bind fun _ => ?_
  refine (looksOnly_require _ _ (by rfl)).bind fun _ => ?_
  exact .reached ⟨_, rfl⟩

theorem looksUntil_returnVehicle (id : String) :
    (returnVehicle id).LooksUntil (Saves .assignment) := by
  simp only [returnVehicle, bind_eq, pure_eq]
  refine (looksOnly_requireId _ _).bind fun _ => ?_
  refine (looksOnly_requireRecord _ _).bind fun _ => ?_
  refine (looksOnly_require _ _ (by rfl)).bind fun _ => ?_
  refine looksOnly_clock.bind fun _ => ?_
  exact .reached ⟨_, rfl⟩

theorem looksOnly_validateLicense (driverId : String) : (validateLicense driverId).LooksOnly := by
  simp only [validateLicense, bind_eq]
  refine (looksOnly_requireId _ _).bind fun _ => ?_
  refine (looksOnly_requireRecord _ _).bind fun _ => ?_
  exact looksOnly_verdict _

theorem looksOnly_get (kind : Kind) (id : String) : (get kind id).LooksOnly := by
  simp only [get, bind_eq]
  refine (looksOnly_requireId _ _).bind fun _ => ?_
  exact looksOnly_requireRecord _ _

theorem looksOnly_list (listing : Listing) : (list listing).LooksOnly := by
  rw [Procedure.list]
  split
  · refine (looksOnly_requireId _ _).bind fun _ => ?_
    exact looksOnly_call (.list listing) rfl
  · exact looksOnly_call (.list listing) rfl

theorem looksUntil_delete (kind : Kind) (id : String) :
    (delete kind id).LooksUntil (· = call (.bury kind id)) := by
  simp only [delete, bind_eq]
  refine (looksOnly_requireId _ _).bind fun _ => ?_
  split
  · exact (looksOnly_requireNoObligations _).bind fun _ => .reached rfl
  · exact .reached rfl

theorem looksUntil_undelete (kind : Kind) (id : String) :
    (undelete kind id).LooksUntil (· = call (.restore kind id)) := by
  simp only [undelete, bind_eq]
  exact (looksOnly_requireId _ _).bind fun _ => .reached rfl

end Procedure

/-! ## Operations -/

/-- The kind of the record that an operation puts on record, if it puts one there. -/
def Operation.enters : Operation → Option Kind
  | .createLegalEntity .. => some .legalEntity
  | .createFleet .. => some .fleet
  | .createVehicle .. => some .vehicle
  | .createDriver .. => some .driver
  | .createContract .. => some .contract
  | .assignVehicle .. => some .assignment
  | _ => none

open Program in
/-- What is left of an operation when it has seen enough. -/
inductive Operation.Ending (op : Operation) : Program Outcome → Prop
  /-- a new record is entered -/
  | enter (kind : Kind) (data : kind.Data) (operation : op.enters = some kind) :
      Ending op ((Procedure.enter kind data).bind fun r => done (.record kind r))
  /-- one call to the storage is made, and no record is restored but one that the operation names -/
  | call (c : Call) (out : Outcome) (operation : op.enters = none)
      (restores : ∀ kind id, c = .restore kind id → op = .undelete kind id) :
      Ending op ((call c).bind fun _ => done out)
  /-- there is nothing left to do -/
  | reply (out : Outcome) (operation : op.enters = none) : Ending op (done out)

namespace Operation.Ending

open Program

variable {op : Operation}

theorem of_enters {kind : Kind} (operation : op.enters = some kind) (q : Program kind.Record)
    (hq : Procedure.Enters kind q) : op.Ending (q.bind fun r => done (.record kind r)) := by
  obtain ⟨data, rfl⟩ := hq
  exact .enter kind data operation

theorem of_saves {kind : Kind} (operation : op.enters = none) (q : Program kind.Record)
    (hq : Procedure.Saves kind q) : op.Ending (q.bind fun r => done (.record kind r)) := by
  obtain ⟨r, rfl⟩ := hq
  exact .call (.save kind r) (.record kind r) operation fun _ _ h => nomatch h

theorem of_done {α : Type} {f : α → Outcome} (operation : op.enters = none) (q : Program α)
    (hq : ∃ a, q = done a) : op.Ending (q.bind fun a => done (f a)) := by
  obtain ⟨a, rfl⟩ := hq
  exact .reply (f a) operation

end Operation.Ending

open Program Procedure in
/-- **Looking comes first.** Whatever an operation writes, it writes when nothing can stop it any
more. -/
theorem Operation.looksUntil (op : Operation) : op.program.LooksUntil op.Ending := by
  cases op <;> simp only [Operation.program, bind_eq, pure_eq]
  case createLegalEntity => exact (looksUntil_createLegalEntity _ _).map (.of_enters rfl)
  case createFleet => exact (looksUntil_createFleet _ _).map (.of_enters rfl)
  case createVehicle => exact (looksUntil_createVehicle _ _ _ _ _).map (.of_enters rfl)
  case createDriver => exact (looksUntil_createDriver _ _ _).map (.of_enters rfl)
  case createContract => exact (looksUntil_createContract _ _ _ _ _).map (.of_enters rfl)
  case terminateContract => exact (looksUntil_terminateContract _ _).map (.of_saves rfl)
  case assignVehicle => exact (looksUntil_assignVehicle _ _).map (.of_enters rfl)
  case returnVehicle => exact (looksUntil_returnVehicle _).map (.of_saves rfl)
  case validateLicense => exact LooksUntil.map (looksOnly_validateLicense _) (.of_done rfl)
  case get => exact LooksUntil.map (looksOnly_get _ _) (.of_done rfl)
  case list => exact LooksUntil.map (looksOnly_list _) (.of_done rfl)
  case delete kind id =>
    refine (looksUntil_delete kind id).map ?_
    rintro _ rfl
    exact .call _ _ rfl fun _ _ h => nomatch h
  case undelete kind id =>
    refine (looksUntil_undelete kind id).map ?_
    rintro _ rfl
    refine .call _ _ rfl fun _ _ h => ?_
    cases h
    rfl

end LeaseDesk
