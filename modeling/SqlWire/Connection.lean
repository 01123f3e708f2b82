import SqlWire.Answer
import SqlWire.Authentication
import SqlWire.Settings
import SqlWire.Statement
/-!
# Connections

One connection that runs one statement at a time. A failure of the transport or the protocol leaves
client and server out of step, so the connection closes itself. An error that the server reports
does not close it.
-/
namespace SqlWire

structure Dial where
  host : String
  port : Int
  timeout : Binary64

/-- Why no socket is opened. -/
inductive DialFault where
  /-- The network refuses, for a reason. -/
  | refused (reason : String)
  | invalid (e : DialError)

/-- A connection and all that it has done. -/
structure Connection where
  settings : Settings
  socket : Bool
  file : Bool
  stream : Bool
  session : Session
  /-- The greeting of the server that let the client in. -/
  greeting : Option (Greeting String)
  lastResult : Option (QueryResult String)
  /-- How often a socket was closed. -/
  socketCloses : Nat
  /-- The attempts to reach a server, newest first. -/
  dials : List Dial
  /-- The time limits set on sockets, newest first; none is no limit. -/
  timeouts : List (Option Binary64)

abbrev Action := EStateM Failure Connection

namespace Connection

/-- A connection that holds nothing yet, and would talk over this transport. -/
def idle (settings : Settings) (transport : Transport) (journal : Journal) : Connection :=
  ⟨settings, false, false, false, Session.start transport journal, none, none, 0, [], []⟩

def isClosed (c : Connection) : Bool := !c.socket

/-- A step of the session as a step of the connection. -/
def inSession {α : Type} (x : Exchange α) : Action α := fun c =>
  match x c.session with
  | .ok a s => .ok a { c with session := s }
  | .error e s => .error e { c with session := s }

def note (level : Level) (message : String) : Action Unit := inSession (Session.note level message)

/-! ## Opening and closing -/

/-- Lets go of the socket and the streams over it. -/
def release : Action Unit := modify fun c =>
  { c with socket := false, file := false, stream := false, socketCloses := c.socketCloses + 1 }

/-- Closes the connection, if it is open. That the byte stream cannot be closed is only noted. -/
def close : Action Unit := do
  let c ← get
  if c.isClosed then return ()
  if let some reason := c.session.transport.closeFault then
    note Level.debug s!"Ignore error on close: {reason}"
  release

/-- Opens a socket, unless there is a fault. Only this is limited in time. -/
def dial (fault : Option DialFault) : Action Unit := do
  let c ← get
  note Level.info s!"Connect to {c.settings.host}:{c.settings.port}"
  modify fun c =>
    { c with dials := ⟨c.settings.host, c.settings.port, c.settings.connectTimeout⟩ :: c.dials }
  match fault with
  | some (.refused reason) => throw (.unreachable c.settings.host c.settings.port reason)
  | some (.invalid e) => throw (.undialable e)
  | none => modify fun c => { c with timeouts := none :: c.timeouts }

/-- Takes hold of the socket and the streams over it. -/
def hold : Action Unit := modify fun c => { c with socket := true, file := true, stream := true }

def credentials (settings : Settings) : Session.Credentials :=
  ⟨settings.user, settings.password, settings.scramble⟩

/-- Ends a step that failed by closing the connection. -/
def closing {α : Type} (f : Failure) : Action α := do
  close
  throw f

/-- Logs in over a socket that is open; a failure closes it. -/
def login : Action (Greeting String) := fun c =>
  match (do hold; inSession (Session.authenticate (credentials c.settings)) : Action _) c with
  | .ok g c => .ok g { c with greeting := some g }
  | .error f c => closing f c

def connect (fault : Option DialFault) : Action (Greeting String) := do
  dial fault
  login

/-! ## Statements -/

/-- Ends a statement that failed; the connection closes if the stream is broken. -/
def settle {α : Type} (f : Failure) : Action α := do
  if f.breaksStream then
    let c ← get
    note Level.error s!"Connection to {c.settings.host}:{c.settings.port} is broken, closing it"
    close
  throw f

/-- Runs a statement as it is. -/
def query (sql : Datum) : Action (QueryResult String) := fun c =>
  if c.isClosed then .error .closed c
  else match inSession (Session.execute sql) c with
    | .ok r c => .ok r c
    | .error f c => settle f c

/-- Runs the normal form of a statement; without a statement, that of an empty one. -/
def executeQuery (sql : Option Wording) : Action (QueryResult String) :=
  query (.text (Statement.normalize (sql.getD "")))

/-- Runs a statement, keeps its result, and tells whether it has a result set. -/
def execute (sql : Option Wording) : Action Bool := do
  modify fun c => { c with lastResult := none }
  let r ← executeQuery sql
  modify fun c => { c with lastResult := some r }
  return r.hasResultSet

/-- Updates are always refused. -/
def executeUpdate (sql : Option Datum) : Action Unit :=
  throw (.updateRefused (Datum.shownOption sql))

end Connection

end SqlWire
