import SqlWire.QueryResult
import SqlWire.Session
/-!
# The answer to a statement

A statement begins a command cycle. Its answer is an error, a report of success, or a result set:
the number of columns, their definitions, an end mark, rows, and an end mark.
-/
namespace SqlWire.Session

/-- The next payload of the answer; an error may come at any point. -/
def receiveAnswer : Exchange Bytes := do
  let p ← receive
  if Marker.isErr p.payload then
    let r ← parseReport p.payload
    note Level.warning s!"Query error: {reportLine r}"
    throw (.queryRefused r)
  return p.payload

/-- Whenever a payload arrives, the transport has less to deliver. -/
theorem length_of_receiveAnswer {payload : Bytes} {s s' : Session}
    (h : receiveAnswer s = .ok payload s') :
    s'.transport.incoming.length < s.transport.incoming.length := by
  obtain ⟨p, s1, h1, h⟩ := Stateful.bind_eq_ok.1 h
  have hlen := length_of_receive h1
  split at h
  · obtain ⟨r, s2, _, h⟩ := Stateful.bind_eq_ok.1 h
    obtain ⟨u, s3, _, h⟩ := Stateful.bind_eq_ok.1 h
    cases h
  · cases h; exact hlen

/-! ## Columns -/

/-- How a column's definition appears in a result. -/
def columnOf (p : ColumnPacket String) : Column := ⟨p.schema, p.table, p.name, p.columnType⟩

/-- Receives `n` more column definitions behind those that are `done`, newest first. -/
def receiveColumnsOnto (done : List Column) : (n : Nat) → Exchange (List Column)
  | 0 => return done.reverse
  | n + 1 => do
    let p ← parse ColumnPacket.decode (← receiveAnswer)
    receiveColumnsOnto (columnOf p :: done) n

def receiveColumns (n : Nat) : Exchange (List Column) := receiveColumnsOnto [] n

def receiveColumnsEnd (n : Nat) : Exchange Unit := do
  let payload ← receiveAnswer
  unless Marker.isEof payload do throw (.noEof n payload)

/-! ## Rows -/

/-- Receives rows of `n` values behind those that are `done`, newest first, and the end mark. -/
def receiveRowsOnto (n : Nat) (done : List (List Value)) :
    Exchange (List (List Value) × EofPacket) := fun s =>
  match _h : receiveAnswer s with
  | .error e s' => .error e s'
  | .ok payload s' =>
    if Marker.isEof payload then
      (do return (done.reverse, ← parse EofPacket.decode payload) : Exchange _) s'
    else
      match (Row.decode n).read payload with
      | .error e => .error (.malformed e) s'
      | .ok row => receiveRowsOnto n (row :: done) s'
termination_by s => s.transport.incoming.length
decreasing_by exact length_of_receiveAnswer ‹_›

def receiveRows (n : Nat) : Exchange (List (List Value) × EofPacket) := receiveRowsOnto n []

/-! ## The whole answer -/

def receiveResultSet (n : Nat) : Exchange (QueryResult String) := do
  let columns ← receiveColumns n
  receiveColumnsEnd n
  let (rows, eof) ← receiveRows n
  note Level.debug s!"{n} columns, {rows.length} rows, {eof.warnings} warnings"
  return ⟨columns, rows, 0, 0⟩

/-- The answer that begins with this payload. -/
def receiveRest (payload : Bytes) : Exchange (QueryResult String) := do
  if Marker.isOk payload then
    let ok ← parse OkPacket.decode payload
    note Level.debug s!"OK: {ok.affectedRows} affected rows"
    return .ofChange ok.affectedRows ok.lastInsertId
  match ← parse Decoder.lengthInt payload with
  | none | some 0 => throw (.badColumnCount payload)
  | some n => receiveResultSet n

/-- Sends a statement as it is and receives its answer. -/
def execute (sql : Datum) : Exchange (QueryResult String) := do
  reset
  let _ ← send (.statement sql)
  note Level.debug s!"query: {sql.shown}"
  receiveRest (← receiveAnswer)

end SqlWire.Session
