import SqlWire.Charset
import SqlWire.FieldType
import SqlWire.Wire.Cursor
import SqlWire.Wire.Encoding
/-!
# Column definitions and rows

What a server sends of a result: the definition of each column, and rows of one nullable text per
column.
-/
namespace SqlWire

variable {α β ε : Type}

/-! ## Column definitions -/

/-- The definition of a column, with the names that the statement gave and those that the
table and the column have themselves. -/
structure ColumnPacket (α : Type) where
  catalog : Option α
  schema : Option α
  table : Option α
  orgTable : Option α
  name : Option α
  orgName : Option α
  characterSet : Int
  columnLength : Int
  columnType : Int
  flags : Int
  decimals : Int

namespace ColumnPacket

/-- A nameless column of text. -/
def initial : ColumnPacket String :=
  ⟨some "def", some "", some "", some "", some "", some "", Charset.utf8mb4GeneralCi, 0,
    FieldType.varString, 0, 0⟩

def mapText (f : α → β) (p : ColumnPacket α) : ColumnPacket β :=
  { p with
    catalog := p.catalog.map f, schema := p.schema.map f, table := p.table.map f
    orgTable := p.orgTable.map f, name := p.name.map f, orgName := p.orgName.map f }

/-- The definition with its names replaced one after another, or the first failure at that. -/
def traverse (f : α → Except ε β) (p : ColumnPacket α) : Except ε (ColumnPacket β) := do
  return { p with
    catalog := ← p.catalog.mapM f, schema := ← p.schema.mapM f, table := ← p.table.mapM f
    orgTable := ← p.orgTable.mapM f, name := ← p.name.mapM f, orgName := ← p.orgName.mapM f }

/-- How many octets follow the names, less the two that fill up. -/
def fixedLength : Nat := 0x0C

def encode [Sendable α] (p : ColumnPacket α) : Bytes :=
  Encoding.nullable p.catalog ++ Encoding.nullable p.schema ++ Encoding.nullable p.table
    ++ Encoding.nullable p.orgTable ++ Encoding.nullable p.name ++ Encoding.nullable p.orgName
    ++ Encoding.length fixedLength
    ++ Bytes.ofInt 2 p.characterSet ++ Bytes.ofInt 4 p.columnLength ++ Bytes.ofInt 1 p.columnType
    ++ Bytes.ofInt 2 p.flags ++ Bytes.ofInt 1 p.decimals ++ Encoding.zeros 2

def decode : Decoder (ColumnPacket String) := do
  let catalog ← Decoder.nullableText
  let schema ← Decoder.nullableText
  let table ← Decoder.nullableText
  let orgTable ← Decoder.nullableText
  let name ← Decoder.nullableText
  let orgName ← Decoder.nullableText
  let _ ← Decoder.lengthInt
  let characterSet ← Decoder.fixedInt 2
  let columnLength ← Decoder.fixedInt 4
  let columnType ← Decoder.fixedInt 1
  let flags ← Decoder.fixedInt 2
  let decimals ← Decoder.fixedInt 1
  Decoder.skip 2
  return ⟨catalog, schema, table, orgTable, name, orgName, characterSet, columnLength, columnType,
    flags, decimals⟩

end ColumnPacket

/-! ## Rows -/

namespace Row

/-- The row with its values replaced one after another, or the first failure at that. -/
def traverse (f : α → Except ε β) (values : List (Option α)) : Except ε (List (Option β)) :=
  values.mapM (·.mapM f)

def encode [Sendable α] (values : List (Option α)) : Bytes := values.flatMap Encoding.nullable

/-- Reads `n` more values behind those that are `done`, newest first. -/
def decodeOnto (done : List (Option String)) : (n : Nat) → Decoder (List (Option String))
  | 0 => return done.reverse
  | n + 1 => do decodeOnto ((← Decoder.nullableText) :: done) n

/-- A row of `n` values. -/
def decode (n : Nat) : Decoder (List (Option String)) := decodeOnto [] n

end Row

end SqlWire
