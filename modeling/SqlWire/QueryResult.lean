import SqlWire.Datum
import SqlWire.FieldType
import SqlWire.Text.Case
/-!
# Query results

The columns and rows decoded from the answer to one statement, and the accessors that callers use.
Column and row numbers start at 1, and labels are matched without regard to case.
-/
namespace SqlWire

/-- A column of a result; a server may leave out its names. -/
structure Column where
  schema : Option String
  table : Option String
  name : Option String
  typeCode : Int
  deriving DecidableEq

/-- Text, or nothing for an SQL null. -/
abbrev Value := Option String

/-- What a statement produced, with values of type `α`; a server sends text. A statement without a
result set has neither columns nor rows. -/
structure QueryResult (α : Type) where
  columns : List Column
  rows : List (List (Option α))
  affectedRows : Int
  lastInsertId : Int
  deriving DecidableEq

inductive AccessError where
  | columnRange (index : Int) (count : Nat)
  | rowRange (index : Int) (count : Nat)
  | noColumn (label : String)
  /-- The row has fewer values than there are columns. -/
  | shortRow

/-- The text of the error; a missing column is named by its label, a short row has no text. -/
def AccessError.message : AccessError → String
  | .columnRange i n => s!"column {i} out of range 1..{n}"
  | .rowRange i n => s!"row {i} out of range 1..{n}"
  | .noColumn label => label
  | .shortRow => ""

namespace Column

def typeName (c : Column) : String := FieldType.name c.typeCode

end Column

/-- A column by its number or by its label. -/
inductive ColumnKey where
  | number (index : Int)
  | label (label : String)

namespace QueryResult

variable {α : Type}

/-- The result of a statement that only changed rows. -/
def ofChange (affectedRows lastInsertId : Int) : QueryResult α := ⟨[], [], affectedRows, lastInsertId⟩

def columnCount (r : QueryResult α) : Nat := r.columns.length

def rowCount (r : QueryResult α) : Nat := r.rows.length

def hasResultSet (r : QueryResult α) : Bool := !r.columns.isEmpty

/-- The entry with this number, counted from 1. -/
def entry? {β : Type} (xs : List β) (index : Int) : Option β :=
  if 1 ≤ index then xs[(index - 1).toNat]? else none

def column (r : QueryResult α) (index : Int) : Except AccessError Column :=
  match entry? r.columns index with
  | some c => .ok c
  | none => .error (.columnRange index r.columnCount)

def columnName (r : QueryResult α) (index : Int) : Except AccessError Value :=
  (·.name) <$> r.column index

def columnTable (r : QueryResult α) (index : Int) : Except AccessError Value :=
  (·.table) <$> r.column index

def columnTypeName (r : QueryResult α) (index : Int) : Except AccessError String :=
  (·.typeName) <$> r.column index

/-- The column has a name, and it is the label in another case at most. -/
def matchesLabel (label : String) (c : Column) : Bool :=
  match c.name with
  | some name => Text.lower name.toList == Text.lower label.toList
  | none => false

/-- The number of the first column with this label. -/
def columnIndex (r : QueryResult α) (label : String) : Except AccessError Int :=
  match r.columns.findIdx? (matchesLabel label) with
  | some i => .ok (i + 1 : Nat)
  | none => .error (.noColumn label)

def indexOf (r : QueryResult α) : ColumnKey → Except AccessError Int
  | .number index => .ok index
  | .label label => r.columnIndex label

/-- A value by its row and column. The row is looked up first, then the column. -/
def value (r : QueryResult α) (row : Int) (key : ColumnKey) : Except AccessError (Option α) :=
  match entry? r.rows row with
  | none => .error (.rowRange row r.rowCount)
  | some values => do
    let index ← r.indexOf key
    let _ ← r.column index
    match entry? values index with
    | some v => .ok v
    | none => .error .shortRow

/-! ## How a result is shown -/

/-- Items in parentheses; a single one has a comma behind it. -/
def shownTuple : List String → String
  | [item] => "(" ++ item ++ ",)"
  | items => "(" ++ ", ".intercalate items ++ ")"

def shownColumn (c : Column) : String :=
  s!"ColumnDef(schema={Quotable.quoted c.schema}, table={Quotable.quoted c.table}, name={Quotable.quoted c.name}, type_code={c.typeCode})"

def shown [Quotable α] (r : QueryResult α) : String :=
  let columns := shownTuple (r.columns.map shownColumn)
  let rows := ", ".intercalate (r.rows.map fun row => shownTuple (row.map Quotable.quoted))
  s!"QueryResult(columns={columns}, rows=[{rows}])"

end QueryResult

end SqlWire
