import SqlWire.Connection
import SqlWire.LogFiles
/-!
# The command line

Reads an ini file, sets up the log files, connects as the file says, runs one statement, and notes the
result line by line. The exit status is 0 if there is a result and 1 if the ini file or the server made
that impossible.
-/
namespace SqlWire.Console

/-- What the command line does not handle. -/
inductive ConsoleError where
  | settings (e : SettingsError)
  | logFiles (e : TreeError)
  | failure (f : Failure)

/-- The connection and the log files of the command. What is noted stands in the journal of the connection; the
files are as they were set up. -/
structure State where
  connection : Connection
  files : LogFiles

abbrev Step := EStateM ConsoleError State

/-- The file that is used if none is named. -/
def exampleFile : String :=
  "[Client]
host = 127.0.0.1
port = 40000
user = root
password =
database =
connect_timeout = 5
scramble = false

[Logging]
# 10 = DEBUG, dumps every packet
level = 20
"

def defaultStatement : String := "select 1"

def clientSection : String := "Client"

def loggingSection : String := "Logging"

/-- The name of the command's log file. -/
def logName : String := "miniclient"

/-! ## Steps -/

/-- A step of the connection, whose failure is passed on. -/
def ofAction {α : Type} (x : Action α) : Step α := fun s =>
  match x s.connection with
  | .ok a c => .ok a { s with connection := c }
  | .error f c => .error (.failure f) { s with connection := c }

/-- A change of the log files, whose error is passed on. -/
def ofChange (x : LogFiles.Change Unit) : Step Unit := fun s =>
  match x s.files with
  | .ok () l => .ok () { s with files := l }
  | .error e l => .error (.logFiles e) { s with files := l }

def note (level : Level) (message : String) : Step Unit := ofAction (Connection.note level message)

/-- Reads settings, whose error is passed on. -/
def ofSettings {α : Type} : Except SettingsError α → Step α
  | .ok a => pure a
  | .error e => throw (.settings e)

/-- How the records are to be kept, as the file says. -/
def logRequest (ini : Ini) : Except SettingsError LogRequest := do
  let options ← (ini.optionsOf loggingSection).mapError .badIni
  let level ← Settings.intOption options "level" Level.info
  let directory ← Settings.option options "log_dir" none (some <| some ·)
  return ⟨some logName, level, directory⟩

/-- Sets the journal and the log files of the program at a path up as the file says. -/
def setUpJournal (program : Path) (ini : Ini) : Step Unit := do
  let request ← ofSettings (logRequest ini)
  ofChange (LogFiles.setUp program request)
  ofAction <| modify fun c => { c with
    session := { c.session with
      journal := { c.session.journal with threshold := Level.threshold request.level } } }

/-- Connects, runs the statement, and closes the connection whatever came of it. -/
def runStatement (fault : Option DialFault) (sql : Wording) : Action (QueryResult String) := do
  let _ ← Connection.connect fault
  fun c =>
    match Connection.executeQuery (some sql) c with
    | .ok r c => (do Connection.close; return r : Action (QueryResult String)) c
    | .error f c => Connection.closing f c

/-- The failures that the command line reports itself. -/
def isReported (f : Failure) : Bool :=
  match f.errorClass? with
  | some .transport | some .handshake | some .query | some .server => true
  | _ => false

/-! ## The result -/

def shownName (v : Value) : String := v.getD "None"

def headLine (columns : List Column) : String :=
  " | ".intercalate
    (columns.map fun c => s!"{shownName c.table}.{shownName c.name}({c.typeName})")

def rowLine (row : List Value) : String := " | ".intercalate (row.map (·.getD "NULL"))

/-- Notes a result line by line. -/
def noteResult (r : QueryResult String) : Step Unit := do
  if r.hasResultSet then
    note Level.info (headLine r.columns)
    r.rows.forM fun row => note Level.info (rowLine row)
    note Level.info s!"{r.rowCount} rows in set"
  else note Level.info s!"OK, {r.affectedRows} rows affected"

/-! ## The whole command -/

/-- What comes of the statement, as an exit status. -/
def conclude (r : EStateM.Result Failure Connection (QueryResult String)) : Step Nat := fun s =>
  match r with
  | .ok r c => (do noteResult r; return 0 : Step Nat) { s with connection := c }
  | .error f c =>
    if isReported f then
      (do note Level.error s!"Query failed: {f.message}"; return 1 : Step Nat) { s with connection := c }
    else .error (.failure f) { s with connection := c }

/-- Runs the statement over a connection with these settings. -/
def runWith (settings : Settings) (fault : Option DialFault) (sql : Wording) : Step Nat := do
  ofAction <| modify fun c => { c with settings := settings }
  note Level.info s!"Connect to {settings.host}:{settings.port} as {Datum.shownOption settings.user}"
  let s ← get
  conclude (runStatement fault sql s.connection)

/-- The statement that is run, which is the default one if none is given. -/
def statementOf : Option Wording → Wording
  | none | some (.plain "") => defaultStatement
  | some sql => sql

/-- Runs the command of the program at a path with the content of the file at `path`, if it can be
read. -/
def run (program : Path) (file : Option String) (path : String) (sql : Option Wording)
    (fault : Option DialFault) : Step Nat := do
  match file with
  | none =>
    note Level.error s!"Can't read config file {path}"
    return 1
  | some content =>
    let ini ← ofSettings ((Ini.parseFile content).mapError .badIni)
    match [clientSection, loggingSection].find? (!ini.hasSection ·) with
    | some missing =>
      note Level.error s!"No [{missing}] section in {path}"
      return 1
    | none =>
      setUpJournal program ini
      let settings ← ofSettings (Settings.ofIni ini clientSection)
      runWith settings fault (statementOf sql)

end SqlWire.Console
