import LeaseDesk.Sql.Table
import LeaseDesk.Text.Numerals

/-!
# Statements

What is said to a database is a `Statement`. A statement is data first, so that its meaning on tables can
be told without reading SQL, and has a text, in which every value is left out and numbered, and the list
of the values left out.
-/

namespace LeaseDesk.Sql

/-- A column of a table. -/
structure ColumnRef where
  /-- the kind of records in the table -/
  kind : Kind
  /-- the name of the column -/
  name : String
deriving DecidableEq

/-- A value handed over with a statement. -/
inductive Argument
  /-- this value -/
  | cell (c : Cell)
  /-- the date and time on the wall when the statement is made -/
  | wallClock
deriving DecidableEq

/-- A condition on a row. -/
inductive Condition
  | equals (column : ColumnRef) (value : Cell)
  | isNull (column : ColumnRef)
deriving DecidableEq

/-- Rows of a second table, joined where two columns are equal. -/
structure Join where
  /-- the kind of records in the second table -/
  kind : Kind
  /-- a column of the first table -/
  left : ColumnRef
  /-- a column of the second table -/
  right : ColumnRef

/-- The question for rows of a table. -/
structure Query where
  /-- the kind of records in the table -/
  kind : Kind
  /-- a second table that conditions may speak of -/
  join : Option Join
  /-- conditions that the rows satisfy -/
  conditions : List Condition
  /-- the columns by which the rows are ordered, the first one first -/
  order : List ColumnRef
  /-- the greatest number of rows wanted -/
  limit : Option Nat

/-- What can be said to a database. -/
inductive Statement
  /-- a definition of a table or an index, as it stands -/
  | define (text : String)
  /-- put a row into a table, over the one with the same identifier if there is one -/
  | upsert (kind : Kind) (row : Row)
  /-- change a column of the rows that satisfy conditions -/
  | update (column : ColumnRef) (value : Argument) (conditions : List Condition)
  /-- ask for rows -/
  | select (query : Query)

/-- A name in quotation marks. -/
def quoted (name : String) : String := "\"" ++ name ++ "\""

/-- Texts with commas between them. -/
def commaSeparated (texts : List String) : String := String.intercalate ", " texts

/-- The place of a value that is left out. -/
def placeholder (n : Nat) : String := "$" ++ Text.Decimal.natText n

/-- A column with the name of its table. -/
def ColumnRef.text (c : ColumnRef) : String := quoted (tableName c.kind) ++ "." ++ quoted c.name

/-- The texts of conditions, the values left out being numbered from `n` on. -/
def conditionTexts (n : Nat) : List Condition → List String
  | [] => []
  | .equals column _ :: rest =>
    (column.text ++ " = " ++ placeholder n) :: conditionTexts (n + 1) rest
  | .isNull column :: rest => (column.text ++ " IS NULL") :: conditionTexts n rest

/-- The values left out of conditions. -/
def conditionArguments (conditions : List Condition) : List Argument :=
  conditions.filterMap fun
    | .equals _ value => some (.cell value)
    | .isNull _ => none

/-- All conditions, if there are any. -/
def whereText (n : Nat) (conditions : List Condition) : String :=
  if conditions.isEmpty then ""
  else " WHERE " ++ String.intercalate " AND " (conditionTexts n conditions)

/-- The second table, if there is one. -/
def joinText : Option Join → String
  | none => ""
  | some j =>
    " INNER JOIN " ++ quoted (tableName j.kind) ++ " ON " ++ j.left.text ++ " = " ++ j.right.text

/-- The order, if there is one. -/
def orderText (order : List ColumnRef) : String :=
  if order.isEmpty then ""
  else " ORDER BY " ++ commaSeparated (order.map fun c => c.text ++ " ASC")

/-- The limit, if there is one. -/
def limitText (n : Nat) : Option Nat → String
  | none => ""
  | some _ => " LIMIT " ++ placeholder n

/-- The text of a question. -/
def Query.text (q : Query) : String :=
  let columns := (columnNames q.kind).map fun name => (ColumnRef.mk q.kind name).text
  "SELECT " ++ commaSeparated columns ++ " FROM " ++ quoted (tableName q.kind) ++ joinText q.join
    ++ whereText 1 q.conditions ++ orderText q.order
    ++ limitText ((conditionArguments q.conditions).length + 1) q.limit

/-- The values left out of a question. -/
def Query.arguments (q : Query) : List Argument :=
  conditionArguments q.conditions
    ++ match q.limit with
      | none => []
      | some n => [.cell (.integer n)]

/-- The text of putting a row into a table. -/
def upsertText (kind : Kind) (row : Row) : String :=
  let names := row.map fun cell => quoted cell.1
  let places := (List.range row.length).map fun n => placeholder (n + 1)
  let others := names.filter fun name => name != quoted "id"
  "INSERT INTO " ++ quoted (tableName kind) ++ " (" ++ commaSeparated names ++ ") VALUES ("
    ++ commaSeparated places ++ ") ON CONFLICT (" ++ quoted "id" ++ ") DO UPDATE SET "
    ++ commaSeparated (others.map fun name => name ++ " = " ++ quoted "excluded" ++ "." ++ name)

namespace Statement

/-- The text of a statement. -/
def text : Statement → String
  | define text => text
  | upsert kind row => upsertText kind row
  | update column _ conditions =>
    "UPDATE " ++ quoted (tableName column.kind) ++ " SET " ++ quoted column.name ++ " = "
      ++ placeholder 1 ++ whereText 2 conditions
  | select query => query.text

/-- The values left out of a statement. -/
def arguments : Statement → List Argument
  | define _ => []
  | upsert _ row => row.map fun cell => .cell cell.2
  | update _ value conditions => value :: conditionArguments conditions
  | select query => query.arguments

/-- The statement asks for rows, and changes nothing. -/
def isQuery : Statement → Bool
  | select _ => true
  | _ => false

end Statement

/-! ## The schema

The statements that create the tables and the indexes on the columns by which lists are asked for. They
do nothing to what is there already. -/

/-- The definition of a column. -/
def Column.definition (c : Column) : String :=
  c.name ++ " " ++ c.type.name ++ (if c.nullable then "" else " NOT NULL")

/-- The lines between the brackets of the definition of a table. -/
def columnDefinitions (kind : Kind) : List String :=
  "id TEXT PRIMARY KEY" :: (dataColumns kind).map Column.definition ++ ["deleted_at TIMESTAMPTZ"]

/-- The definition of a table. -/
def createTable (kind : Kind) : String :=
  "CREATE TABLE IF NOT EXISTS " ++ tableName kind ++ " (\n        "
    ++ String.intercalate ",\n        " (columnDefinitions kind) ++ "\n    )"

/-- The columns by which the records of a kind are looked for. -/
def indexedColumns : Kind → List String
  | .legalEntity | .driver => []
  | .fleet => ["legal_entity_id"]
  | .vehicle => ["fleet_id"]
  | .contract => ["driver_id"]
  | .assignment => ["driver_id", "contract_id"]

/-- The definition of an index. -/
def createIndex (kind : Kind) (column : String) : String :=
  let table := tableName kind
  "CREATE INDEX IF NOT EXISTS idx_" ++ table ++ "_" ++ column ++ " ON " ++ table ++ " (" ++ column
    ++ ")"

/-- All definitions: the table of each kind, and its indexes behind it. -/
def schema : List String :=
  Kind.all.flatMap fun kind => createTable kind :: (indexedColumns kind).map (createIndex kind)

end LeaseDesk.Sql
