import SqlWire.FileTree
import SqlWire.Journal
/-!
# Log files

Where the records of a program go: to a file in a log directory and to the console. Setting this up
again adds a file and another copy on the console.
-/
namespace SqlWire

/-- A file name without the suffixes of programs in it, wherever they stand. -/
def withoutSuffixes : List Char → List Char
  | '.' :: 'p' :: 'y' :: rest => withoutSuffixes rest
  | c :: rest => c :: withoutSuffixes rest
  | [] => []

/-- The records that were let through, in the files that were set up and on the console. -/
structure LogFiles where
  level : Int
  /-- The file of each set-up, the oldest first. -/
  targets : List Path
  tree : FileTree
  console : String

/-- How a program wants its records kept. -/
structure LogRequest where
  name : Option String
  level : Int
  directory : Option String

namespace LogFiles

def start (tree : FileTree) : LogFiles := ⟨0, [], tree, ""⟩

/-- The log directory for a request of the program at a path. It stands beside the program's
directory unless the request names one. -/
def directory (program : Path) (request : LogRequest) : Origin × Route :=
  match request.directory with
  | some d => (.ofText d.toList, .ofText d.toList)
  | none =>
    let beside := program.parent.parent.child "log".toList
    (beside.origin, beside.names)

/-- The file's name for a request of the program at a path: the program's unless the request names
one. -/
def fileName (program : Path) (request : LogRequest) : List Char :=
  let name := match request.name with
    | none | some "" => program.name
    | some n => n.toList
  withoutSuffixes name ++ ".log".toList

/-- The file for a request of the program at a path. -/
def target (program : Path) (request : LogRequest) : Path :=
  let (origin, route) := directory program request
  (Path.follow ⟨origin, []⟩ route).walk (fileName program request)

/-- Makes the log directory and the file for a request of the program at a path. -/
def makeFile (program : Path) (request : LogRequest) : TreeChange Unit := do
  if request.directory = some "" then throw .missing
  let (origin, route) := directory program request
  FileTree.ensureDirectory origin route
  FileTree.ensureFile (target program request)

/-- A step in keeping records; what it changed before it failed stays changed. -/
abbrev Change := EStateM TreeError LogFiles

/-- A change of the tree alone. -/
def change (x : TreeChange Unit) : Change Unit := fun l =>
  match x l.tree with
  | .ok () tree => .ok () { l with tree := tree }
  | .error e tree => .error e { l with tree := tree }

/-- Makes a directory before it is asked for. -/
def provide (directory : String) : Change Unit :=
  change (FileTree.provideDirectory (.ofText directory.toList) (.ofText directory.toList))

/-- Sets up a file and the console for the records from now on. -/
def setUp (program : Path) (request : LogRequest) : Change Unit := do
  change (makeFile program request)
  modify fun l => { l with level := request.level, targets := l.targets ++ [target program request] }

/-- The line of a record behind its time, process and place. -/
def line (time process place : String) (r : LogRecord) : String :=
  s!"{time} {Level.name r.level} [{process}] {place} {r.message} \n"

def write (l : LogFiles) (text : String) : LogFiles :=
  l.targets.foldl (fun l path =>
    { l with tree := l.tree.append path text, console := l.console ++ text }) l

/-- Writes a record if its level is reached. -/
def record (l : LogFiles) (time process place : String) (r : LogRecord) : LogFiles :=
  if (Journal.fresh l.level).keeps r.level then l.write (line time process place r) else l

end LogFiles

end SqlWire
