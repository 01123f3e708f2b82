import SqlWire.Connection
/-!
# Runs of calls

What a client may call on a connection, and what comes of calls one after another.
-/
namespace SqlWire

open Stateful

/-- A call on a connection. A block that uses the connection enters it and leaves it by closing. -/
inductive Call where
  | query (sql : Datum)
  | executeQuery (sql : Option Wording)
  | execute (sql : Option Wording)
  | executeUpdate (sql : Option Datum)
  | close
  | enter
  | leave

/-- What a call returns. -/
inductive Reply where
  | nothing
  | result (r : QueryResult String)
  | hasResultSet (b : Bool)

namespace Connection

variable {c : Connection} {sql : Datum}

def call : Call → Action Reply
  | .query sql => do return .result (← query sql)
  | .executeQuery sql => do return .result (← executeQuery sql)
  | .execute sql => do return .hasResultSet (← execute sql)
  | .executeUpdate sql => do
    executeUpdate sql
    return .nothing
  | .close | .leave => do
    close
    return .nothing
  | .enter => return .nothing

/-- One call after another, whatever each of them ends as. -/
def converse : List Call → Connection → List (Except Failure Reply) × Connection
  | [], c => ([], c)
  | next :: calls, c =>
    let (outcomes, c') := converse calls (final (call next c))
    (outcome (call next c) :: outcomes, c')

theorem converse_eq (calls : List Call) (c : Connection) : converse calls c = runAll call calls c := by
  induction calls generalizing c with
  | nil => rfl
  | cons next calls ih => simp only [converse, runAll, ih]

/-- The later calls find the connection as the earlier ones left it. -/
theorem converse_append (calls more : List Call) (c : Connection) :
    converse (calls ++ more) c =
      ((converse calls c).1 ++ (converse more (converse calls c).2).1,
        (converse more (converse calls c).2).2) := by
  simp only [converse_eq]
  exact runAll_append calls more c

/-! ## Statements and logins -/

theorem query_of_closed (h : c.isClosed = true) : query sql c = .error .closed c := by
  unfold query
  rw [if_pos h]

theorem query_of_open (h : c.isClosed = false) : query sql c =
    match Session.execute sql c.session with
    | .ok r s => .ok r { c with session := s }
    | .error f s => settle f { c with session := s } := by
  unfold query inSession
  rw [if_neg (by simp [h])]
  cases Session.execute sql c.session <;> rfl

theorem login_eq (c : Connection) : login c =
    match Session.authenticate (credentials c.settings) c.session with
    | .ok g s =>
      .ok g { c with socket := true, file := true, stream := true, session := s, greeting := some g }
    | .error f s => closing f { c with socket := true, file := true, stream := true, session := s } := by
  have hrun : (do hold; inSession (Session.authenticate (credentials c.settings)) : Action _) c =
      inSession (Session.authenticate (credentials c.settings))
        { c with socket := true, file := true, stream := true } := rfl
  unfold login
  simp only [hrun, inSession]
  cases Session.authenticate (credentials c.settings) c.session <;> rfl

theorem call_query (sql : Datum) (c : Connection) :
    outcome (call (.query sql) c) = (outcome (query sql c)).map .result ∧
      final (call (.query sql) c) = final (query sql c) := bind_pure _

end Connection

end SqlWire
