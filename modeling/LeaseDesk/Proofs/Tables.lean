import LeaseDesk.Sql.Connection
import Mathlib.Data.List.Perm.Basic
import Mathlib.Data.List.ProdSigma
import Mathlib.Logic.Function.Basic

/-!
# What statements mean

A database keeps the rows of a table for each kind. This module says what the statements of the desk
mean to it, in the usual sense of SQL: which rows satisfy a query and in what order they may come,
what becomes of a row that is put over another one, which rows a change is made to. Rows have no
order of their own, so tables are compared as bags, and a query whose order leaves a choice has
several good replies.

A connection is `Faithful` if it never fails and gives every statement that the desk can make of a
call its meaning. Other statements it may treat as it likes. `Tables.connection` shows that there is
such a connection, and that the meaning can be computed.
-/

namespace LeaseDesk.Sql

/-! ## Rows and conditions -/

namespace Cell

/-- Equality as conditions mean it. Null is equal to nothing, not even to null. -/
def equals (c c' : Cell) : Bool := c != null && c == c'

/-- The place of a type among the types. -/
def sort : Cell → Nat
  | text _ => 0
  | integer _ => 1
  | date _ => 2
  | moment _ => 3
  | null => 4

/-- The order of cells: texts by code points, dates and moments as time goes, and null last. Cells
of different types are never in one column. -/
def precedes : Cell → Cell → Bool
  | text s, text s' => decide (s ≤ s')
  | integer n, integer n' => decide (n ≤ n')
  | date d, date d' => decide (d ≤ d')
  | moment t, moment t' => decide (t ≤ t')
  | c, c' => decide (c.sort ≤ c'.sort)

end Cell

/-- What the columns of one or two tables hold in one place. -/
abbrev Scope : Type := ColumnRef → Cell

/-- The scope of a single row. -/
def Row.scope (row : Row) : Scope := fun column => row.cell column.name

/-- The scope of a row of a table, joined with a row of another one. -/
def Row.joinedScope (kind : Kind) (row other : Row) : Scope := fun column =>
  if column.kind = kind then row.cell column.name else other.cell column.name

/-- The condition is satisfied. -/
def Condition.holds (scope : Scope) : Condition → Bool
  | .equals column value => (scope column).equals value
  | .isNull column => scope column == .null

/-- The one may come before the other: they differ first in a column in which it precedes, or not at
all. -/
def inOrder (a b : Scope) : List ColumnRef → Bool
  | [] => true
  | column :: rest =>
    if a column = b column then inOrder a b rest else (a column).precedes (b column)

/-! ## Queries -/

/-- The rows of the table of each kind, in no particular order. -/
abbrev Tables : Type := Kind → List Row

namespace Query

/-- The rows that a query is about, before the conditions. -/
def candidates (q : Query) (t : Tables) : List (Scope × Row) :=
  match q.join with
  | none => (t q.kind).map fun row => (row.scope, row)
  | some j =>
    ((t q.kind ×ˢ t j.kind).map fun pair =>
      (Row.joinedScope q.kind pair.1 pair.2, pair.1)).filter fun hit =>
        (hit.1 j.left).equals (hit.1 j.right)

/-- The rows that satisfy a query. -/
def hits (q : Query) (t : Tables) : List (Scope × Row) :=
  (q.candidates t).filter fun hit => q.conditions.all fun condition => condition.holds hit.1

/-- No more rows than are wanted. -/
def cut (q : Query) (rows : List Row) : List Row :=
  match q.limit with
  | none => rows
  | some n => rows.take n

/-- A good reply to a query: the rows that satisfy it in some order that is asked for, or as many of
them as are wanted, from the front. -/
def Returns (q : Query) (t : Tables) (rows : List Row) : Prop :=
  ∃ found : List (Scope × Row), found.Perm (q.hits t) ∧
    found.Pairwise (fun a b => inOrder a.1 b.1 q.order) ∧ rows = q.cut (found.map Prod.snd)

end Query

/-! ## Changes -/

/-- The two rows have the same key. -/
def Row.sameKey (row other : Row) : Bool := (row.cell "id").equals (other.cell "id")

/-- The row, with what another one says of the columns other than the key. -/
def Row.overwrite (row new : Row) : Row :=
  row.map fun cell => if cell.1 = "id" then cell else (cell.1, (new.lookup cell.1).getD cell.2)

/-- The row with another cell in a column. -/
def Row.set (row : Row) (name : String) (c : Cell) : Row :=
  row.map fun cell => if cell.1 = name then (name, c) else cell

/-- The rows after one was put among them: over the one with its key, if there is one, and else as a
new row, with null wherever it says nothing. -/
def upsertRows (kind : Kind) (new : Row) (rows : List Row) : List Row :=
  if rows.any fun row => row.sameKey new then
    rows.map fun row => if row.sameKey new then row.overwrite new else row
  else rows ++ [(columnNames kind).map fun name => (name, new.cell name)]

/-- The conditions are satisfied by the row. -/
def Row.satisfies (row : Row) (conditions : List Condition) : Bool :=
  conditions.all fun condition => condition.holds row.scope

/-- The rows after a column was changed in those that satisfy conditions. -/
def updateRows (name : String) (c : Cell) (conditions : List Condition) (rows : List Row) :
    List Row :=
  rows.map fun row => if row.satisfies conditions then row.set name c else row

/-- What an argument is at a time. -/
def Argument.value (now : Instant) : Argument → Cell
  | .cell c => c
  | .wallClock => .moment now

namespace Tables

/-- The same rows in every table. -/
def Same (t t' : Tables) : Prop := ∀ kind, (t kind).Perm (t' kind)

/-- The tables with other rows in one of them. -/
def change (t : Tables) (kind : Kind) (f : List Row → List Row) : Tables :=
  Function.update t kind (f (t kind))

/-- **The meaning of a statement.** What may be replied to it, and which tables may be left. -/
def Executes (t : Tables) : Statement → Reply → Tables → Prop
  | .define _, reply, t' => (∃ n, reply = .affected n) ∧ t'.Same t
  | .upsert kind row, reply, t' =>
    reply = .affected 1 ∧ t'.Same (t.change kind (upsertRows kind row))
  | .update column value conditions, reply, t' =>
    ∃ now, reply = .affected ((t column.kind).countP fun row => row.satisfies conditions) ∧
      t'.Same (t.change column.kind (updateRows column.name (value.value now) conditions))
  | .select q, reply, t' => (∃ rows, reply = .rows rows ∧ q.Returns t rows) ∧ t'.Same t

end Tables

/-- The statements that calls to the storage become. -/
inductive Statement.Emitted : Statement → Prop
  | save (kind : Kind) (r : kind.Record) : Emitted (.upsert kind (rowOf kind r))
  | find (kind : Kind) (id : String) : Emitted (.select (liveQuery kind id))
  | lookup (kind : Kind) (id : String) : Emitted (.select (recordQuery kind id))
  | list (listing : Storage.Listing) : Emitted (.select (listQuery listing))
  | active (driverId : String) : Emitted (.select (activeQuery driverId))
  | activeInFleet (driverId fleetId : String) :
      Emitted (.select (activeInFleetQuery driverId fleetId))
  | bury (kind : Kind) (id : String) : Emitted (buryStatement kind id)
  | restore (kind : Kind) (id : String) : Emitted (restoreStatement kind id)

/-- The connection leads to a database that keeps tables, never fails, and gives the statements of
the desk their meaning. -/
structure Faithful {σ : Type} (c : Connection σ) (tables : σ → Tables) : Prop where
  executes : ∀ s, s.Emitted → ∀ state, ∃ reply state', c.execute s state = (.ok reply, state') ∧
    (tables state).Executes s reply (tables state')

/-! ## A faithful connection -/

namespace Cell

theorem precedes_total (c c' : Cell) : c.precedes c' || c'.precedes c := by
  rw [Bool.or_eq_true]
  cases c <;> cases c' <;> simp only [precedes, decide_eq_true_eq, Date.le_def, Instant.le_def]
  case text.text s s' => exact String.le_total s s'
  all_goals omega

theorem precedes_trans {a b c : Cell} (hab : a.precedes b) (hbc : b.precedes c) :
    a.precedes c := by
  revert hab hbc
  cases a <;> cases b <;> cases c <;> simp [precedes, sort, Date.le_def, Instant.le_def]
  case text.text.text s s' s'' => exact fun h h' => String.le_trans h h'
  all_goals omega

theorem precedes_antisymm {c c' : Cell} (h : c.precedes c') (h' : c'.precedes c) : c = c' := by
  revert h h'
  cases c <;> cases c' <;> simp [precedes, sort, Date.le_def, Instant.le_def]
  case text.text s s' => exact fun h h' => String.le_antisymm h h'
  case integer.integer n n' => exact fun h h' => Int.le_antisymm h h'
  case date.date d d' => exact fun h h' => Date.rank_injective (Int.le_antisymm h h')
  case moment.moment t t' => exact fun h h' => Instant.rank_injective (Int.le_antisymm h h')

end Cell

theorem inOrder_total (order : List ColumnRef) (a b : Scope) :
    inOrder a b order || inOrder b a order := by
  induction order with
  | nil => rfl
  | cons column rest ih =>
    by_cases h : a column = b column
    · simp only [inOrder, if_pos h, if_pos h.symm, ih]
    · simp only [inOrder, if_neg h, if_neg (Ne.symm h), Cell.precedes_total]

theorem inOrder_trans {order : List ColumnRef} {a b c : Scope} (hab : inOrder a b order)
    (hbc : inOrder b c order) : inOrder a c order := by
  induction order with
  | nil => rfl
  | cons column rest ih =>
    rw [inOrder] at hab hbc ⊢
    by_cases h : a column = b column
    · rw [if_pos h] at hab
      rw [h]
      split_ifs at hbc ⊢
      · exact ih hab hbc
      · exact hbc
    · rw [if_neg h] at hab
      by_cases h' : b column = c column
      · rwa [← h', if_neg h]
      · rw [if_neg h'] at hbc
        -- two that precede each other are the same
        have hne : a column ≠ c column := by
          intro heq
          rw [← heq] at hbc
          exact h (Cell.precedes_antisymm hab hbc)
        rw [if_neg hne]
        exact Cell.precedes_trans hab hbc

namespace Tables

/-- A database that does what it is told, and whose clock always shows the same. -/
def connection (now : Instant) : Connection Tables where
  execute s t :=
    match s with
    | .define _ => (.ok (.affected 0), t)
    | .upsert kind row => (.ok (.affected 1), t.change kind (upsertRows kind row))
    | .update column value conditions =>
      (.ok (.affected ((t column.kind).countP fun row => row.satisfies conditions)),
        t.change column.kind (updateRows column.name (value.value now) conditions))
    | .select q =>
      let found := (q.hits t).mergeSort fun a b => inOrder a.1 b.1 q.order
      (.ok (.rows (q.cut (found.map Prod.snd))), t)

theorem same_refl (t : Tables) : t.Same t := fun _ => .refl _

/-- It is faithful. -/
theorem faithful_connection (now : Instant) : Faithful (connection now) id where
  executes s _ t := by
    cases s with
    | define text => exact ⟨_, _, rfl, ⟨0, rfl⟩, same_refl t⟩
    | upsert kind row => exact ⟨_, _, rfl, rfl, same_refl _⟩
    | update column value conditions => exact ⟨_, _, rfl, now, rfl, same_refl _⟩
    | select q =>
      refine ⟨_, _, rfl, ⟨_, rfl, _, List.mergeSort_perm _ _, ?_, rfl⟩, same_refl t⟩
      refine List.pairwise_mergeSort ?_ ?_ _
      · exact fun a b c => inOrder_trans
      · exact fun a b => inOrder_total q.order a.1 b.1

end Tables

end LeaseDesk.Sql
