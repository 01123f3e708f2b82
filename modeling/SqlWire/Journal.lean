/-!
# The journal

What the client notes about its work. A record has a level, and the journal keeps those that reach
its threshold.
-/
namespace SqlWire

/-- How much a record matters; more is higher. -/
abbrev Level := Int

namespace Level

def debug : Level := 10
def info : Level := 20
def warning : Level := 30
def error : Level := 40
def critical : Level := 50

/-- The name of a level, or its number if it has none. -/
def name (level : Level) : String :=
  if level = 0 then "NOTSET"
  else if level = debug then "DEBUG"
  else if level = info then "INFO"
  else if level = warning then "WARNING"
  else if level = error then "ERROR"
  else if level = critical then "CRITICAL"
  else s!"Level {level}"

/-- The threshold that a setting stands for: zero leaves it at warnings. -/
def threshold (setting : Int) : Level := if setting = 0 then warning else setting

end Level

structure LogRecord where
  level : Level
  message : String

/-- The records that reached the threshold, newest first. -/
structure Journal where
  threshold : Level
  records : List LogRecord

namespace Journal

def fresh (setting : Int) : Journal := ⟨Level.threshold setting, []⟩

/-- A record of this level would be kept. Only positive levels ever are. -/
def keeps (j : Journal) (level : Level) : Bool := 0 < level && j.threshold ≤ level

def note (j : Journal) (level : Level) (message : String) : Journal :=
  if j.keeps level then { j with records := ⟨level, message⟩ :: j.records } else j

end Journal

end SqlWire
