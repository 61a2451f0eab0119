import LeaseDesk.Storage.Call

/-!
# Programs of requests

A procedure of the desk is a `Program`: a tree that asks for one thing after another and goes on
with each answer. What can be asked for is an `Ask`: the time, an identifier for a new record, the
verdict of the license register, or a call to the storage. A program says nothing of how it is answered.
`Program.run` puts a program to a `Host`, which answers every ask from a state and leaves a new one; an
ask that fails ends the program with that failure.

Because the asks stand in the tree one by one, the same program can be run on different storages, and
the asks of several programs can be interleaved.
-/

namespace LeaseDesk

open Storage (Attempt)

/-- What a program can ask for. -/
inductive Ask
  /-- the time -/
  | clock
  /-- an identifier for a new record -/
  | freshId
  /-- the license register's verdict on a driver -/
  | verdict (driver : Driver)
  /-- a call to the storage -/
  | storage (call : Storage.Call)

/-- The answer to an ask. -/
@[reducible] def Ask.Answer : Ask → Type
  | .clock => Instant
  | .freshId => String
  | .verdict _ => Verdict
  | .storage call => call.Answer

/-- A tree of asks, ending in a result or in a failure. -/
inductive Program (α : Type) : Type
  /-- the result -/
  | done (result : α)
  /-- the program gives up -/
  | fail (failure : Failure)
  /-- ask, and go on with the answer -/
  | ask (request : Ask) (next : request.Answer → Program α)

/-- Who answers asks, from a state of type `σ`. -/
structure Host (σ : Type) where
  /-- the answer to an ask, and the state afterwards -/
  answer : (request : Ask) → Attempt σ request.Answer

namespace Program

variable {α β σ : Type}

/-- One program after the other. -/
protected def bind : Program α → (α → Program β) → Program β
  | done a, f => f a
  | fail e, _ => fail e
  | ask request next, f => ask request fun a => (next a).bind f

instance : Monad Program where
  pure := done
  bind := Program.bind

/-- What a host makes of a program, and the state afterwards. -/
def run (host : Host σ) : Program α → σ → Except Failure α × σ
  | done a, s => (.ok a, s)
  | fail e, s => (.error e, s)
  | ask request next, s =>
    match host.answer request s with
    | (.ok a, s) => (next a).run host s
    | (.error e, s) => (.error e, s)

/-- The time. -/
def clock : Program Instant := ask .clock done

/-- The license register's verdict on a driver. -/
def verdict (driver : Driver) : Program Verdict := ask (.verdict driver) done

/-- The answer to a call to the storage. -/
def call (c : Storage.Call) : Program c.Answer := ask (.storage c) done

/-- Gives up unless the condition holds. -/
def require (condition : Bool) (failure : Failure) : Program Unit :=
  if condition then done () else fail failure

@[simp] theorem pure_eq (a : α) : (pure a : Program α) = done a := rfl

@[simp] theorem bind_eq (p : Program α) (f : α → Program β) : p >>= f = p.bind f := rfl

@[simp] theorem done_bind (a : α) (f : α → Program β) : (done a).bind f = f a := rfl

@[simp] theorem fail_bind (e : Failure) (f : α → Program β) : (fail e).bind f = fail e := rfl

@[simp] theorem ask_bind (request : Ask) (next : request.Answer → Program α)
    (f : α → Program β) : (ask request next).bind f = ask request fun a => (next a).bind f := rfl

theorem bind_assoc {γ : Type} (p : Program α) (f : α → Program β) (g : β → Program γ) :
    (p.bind f).bind g = p.bind fun a => (f a).bind g := by
  induction p with
  | done a => rfl
  | fail e => rfl
  | ask request next ih =>
    rw [ask_bind, ask_bind, ask_bind]
    exact congrArg (ask request) (funext ih)

@[simp] theorem run_done (host : Host σ) (a : α) (s : σ) : (done a).run host s = (.ok a, s) := rfl

@[simp] theorem run_fail (host : Host σ) (e : Failure) (s : σ) :
    (fail e : Program α).run host s = (.error e, s) := rfl

/-- **Sequencing.** To run one program after the other is to run the first and, unless it fails, the
second on the state it leaves. -/
theorem run_bind (host : Host σ) (p : Program α) (f : α → Program β) (s : σ) :
    (p.bind f).run host s =
      match p.run host s with
      | (.ok a, s) => (f a).run host s
      | (.error e, s) => (.error e, s) := by
  induction p generalizing s with
  | done a => rfl
  | fail e => rfl
  | ask request next ih =>
    simp only [ask_bind, run]
    split
    · exact ih _ _
    · rfl

end Program

end LeaseDesk
