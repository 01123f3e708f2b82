import SqlWire.Binary64
import SqlWire.Datum
import SqlWire.Ini
import SqlWire.Url
/-!
# Connection settings

Where and as whom to connect, from a URL or from a section of an ini file.
-/
namespace SqlWire

/-- Where and as whom to connect. The database is kept for the caller and not sent. -/
structure Settings where
  host : String
  port : Int
  user : Option Datum
  password : Option Datum
  database : Option Datum
  /-- How many seconds opening the connection may take. -/
  connectTimeout : Binary64
  scramble : Bool

/-- Why there are no settings to be had. -/
inductive SettingsError where
  | otherScheme (url : String)
  | noHost (url : String)
  | badUrl (e : UrlError)
  | badIni (e : IniError)
  /-- A value is no number, or no truth value. -/
  | badValue

namespace Settings

def scheme : String := "pcsql"

def defaultHost : String := "127.0.0.1"

def defaultPort : Int := 40000

def defaultTimeout : Binary64 := .ofInt 5

/-- What holds unless the caller says otherwise. -/
def initial : Settings :=
  ⟨defaultHost, defaultPort, some (.text ""), some (.text ""), some (.text ""), defaultTimeout, false⟩

def shown (s : Settings) : String :=
  s!"ConnectionSettings(host={Quotable.quoted s.host}, port={s.port}, user={Quotable.quoted s.user}, database={Quotable.quoted s.database})"

end Settings

/-- The text of the error; those that a reader of numbers, URLs or ini files finds have none. -/
def SettingsError.message : SettingsError → String
  | .otherScheme url => s!"Not a {Settings.scheme}:// url: {url}"
  | .noHost url => s!"No host in url: {url}"
  | .badUrl _ | .badIni _ | .badValue => ""

namespace Settings

/-! ## From a URL -/

/-- The text, unless it is missing or empty. -/
def orElse (text : Option (List Char)) (other : Option Datum) : Option Datum :=
  match text with
  | none | some [] => other
  | some cs => some (.text (String.ofList cs))

/-- Fills in host, port, user, password and database from a URL. What the URL leaves out, and a
port of zero, stays as in `base`. -/
def ofUrl (base : Settings) (text : String) : Except SettingsError Settings := do
  let url ← (Url.split text).mapError .badUrl
  if url.scheme ≠ scheme.toList then throw (.otherScheme text)
  if url.host.isEmpty then throw (.noHost text)
  let port ← url.port.mapError .badUrl
  return { base with
    host := String.ofList url.host
    port := match port with
      | none | some 0 => base.port
      | some n => n
    user := orElse url.user base.user
    password := orElse url.password base.password
    database := some (.text (String.ofList (url.path.dropWhile (· = '/')))) }

/-! ## From an ini file -/

/-- The words for true and false, in lower case. -/
def truthWords : List (String × Bool) :=
  [("1", true), ("yes", true), ("true", true), ("on", true),
    ("0", false), ("no", false), ("false", false), ("off", false)]

def truth? (text : String) : Option Bool :=
  truthWords.lookup (String.ofList (Text.lower text.toList))

/-- The value of an option as it is read, or the default of an option that is missing. -/
def option {α : Type} (options : List (String × String)) (name : String) (default : α)
    (read : String → Option α) : Except SettingsError α :=
  match Ini.value? options name with
  | .error e => .error (.badIni e)
  | .ok none => .ok default
  | .ok (some text) =>
    match read text with
    | some a => .ok a
    | none => .error .badValue

def textOption (options : List (String × String)) (name default : String) :
    Except SettingsError String := option options name default some

def intOption (options : List (String × String)) (name : String) (default : Int) :
    Except SettingsError Int := option options name default fun s => Text.decimal? s.toList

/-- The settings in a section of an ini file. -/
def ofIni (ini : Ini) (name : String) : Except SettingsError Settings := do
  let options ← (ini.optionsOf name).mapError .badIni
  let host ← textOption options "host" initial.host
  let port ← intOption options "port" initial.port
  let user ← textOption options "user" ""
  let password ← textOption options "password" ""
  let database ← textOption options "database" ""
  let connectTimeout ← option options "connect_timeout" initial.connectTimeout
    fun s => Binary64.parse? s.toList
  let scramble ← option options "scramble" initial.scramble truth?
  return ⟨host, port, some (.text user), some (.text password), some (.text database),
    connectTimeout, scramble⟩

end Settings

end SqlWire
