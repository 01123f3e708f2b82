import SqlWire.Text.Split
/-!
# File trees

Directories and files around a top directory, with the routes that lead to them. A route is followed
step by step through directories that are there, while a `Path` is where it leads if nothing stands
in the way.
-/
namespace SqlWire

/-! ## Routes and paths -/

/-- The steps of a route as they are written: names, one point for no step, two for a step up. -/
abbrev Route := List (List Char)

namespace Route

def stay : List Char := ['.']

def up : List Char := ['.', '.']

/-- The steps between slashes; slashes in a row count once. -/
def ofText (text : List Char) : Route := (Text.splitAt '/' text).filter (!·.isEmpty)

end Route

/-- A directory that is always there. -/
inductive Origin where
  /-- So many directories above the top. -/
  | above (n : Nat)
  /-- The root, which no step leads out of. -/
  | root
  deriving DecidableEq

namespace Origin

def top : Origin := .above 0

def parent : Origin → Origin
  | .above n => .above (n + 1)
  | .root => .root

/-- Where a text begins; a slash in front leads to the root. -/
def ofText (text : List Char) : Origin := if text.head? = some '/' then .root else .top

end Origin

/-- A place: the names that lead down to it from an origin. -/
structure Path where
  origin : Origin
  names : List (List Char)
  deriving DecidableEq

namespace Path

def parent (p : Path) : Path :=
  if p.names.isEmpty then ⟨p.origin.parent, []⟩ else ⟨p.origin, p.names.dropLast⟩

def child (p : Path) (name : List Char) : Path := ⟨p.origin, p.names ++ [name]⟩

def name (p : Path) : List Char := p.names.getLastD []

def step (p : Path) (s : List Char) : Path :=
  if s = Route.stay then p else if s = Route.up then p.parent else p.child s

/-- Where a route from here leads. -/
def follow (p : Path) (r : Route) : Path := r.foldl step p

/-- Where a text leads that is read from here; a slash in front leads to the root. -/
def walk (p : Path) (text : List Char) : Path :=
  (if text.head? = some '/' then ⟨.root, []⟩ else p).follow (Route.ofText text)

/-- Where a text leads that is read from the top. -/
def ofText (text : List Char) : Path := walk ⟨.top, []⟩ text

def toText (p : Path) : String := String.ofList (['/'].intercalate p.names)

end Path

/-! ## Trees -/

inductive Node where
  | directory
  | file (content : String)

/-- What is below the origins, the oldest first. -/
structure FileTree where
  nodes : List (Path × Node)
  /-- Why nothing may be made or written at a place. -/
  denial : Path → Option String

inductive TreeError where
  | missing
  | taken
  | notDirectory
  | isDirectory
  | longName
  | badName
  | denied (reason : String)
  deriving DecidableEq

/-- A change of a tree; what was made before it failed stays made. -/
abbrev TreeChange := EStateM TreeError FileTree

namespace FileTree

/-- A tree of these directories alone. -/
def ofDirectories (ps : List Path) : FileTree := ⟨ps.map (·, .directory), fun _ => none⟩

def node? (t : FileTree) (p : Path) : Option Node :=
  if p.names.isEmpty then some .directory else t.nodes.lookup p

def add (t : FileTree) (p : Path) (n : Node) : FileTree := { t with nodes := t.nodes ++ [(p, n)] }

/-- The place must be a directory. -/
def checkDirectory (t : FileTree) (p : Path) : Except TreeError Unit :=
  match t.node? p with
  | some .directory => .ok ()
  | some (.file _) => .error .notDirectory
  | none => .error .missing

/-- The most octets that a name may have. -/
def maxNameLength : Nat := 255

def checkName (name : List Char) : Except TreeError Unit :=
  if (String.ofList name).utf8ByteSize ≤ maxNameLength then .ok () else .error .longName

/-- A step from a directory to what is there. -/
def enter (t : FileTree) (p : Path) (s : List Char) : Except TreeError Path := do
  t.checkDirectory p
  checkName s
  match t.node? (p.step s) with
  | some _ => return p.step s
  | none => throw .missing

/-- Where a route leads, through directories that are there. -/
def resolve (t : FileTree) (o : Origin) (r : Route) : Except TreeError Path :=
  r.foldlM t.enter ⟨o, []⟩

/-- Something is at the end of the route. -/
def holds (t : FileTree) (o : Origin) (r : Route) : Bool := (t.resolve o r).isOk

/-- A directory is at the end of the route. -/
def hasDirectory (t : FileTree) (o : Origin) (r : Route) : Bool :=
  ((t.resolve o r).bind t.checkDirectory).isOk

/-- Where a step from the end of a route leads, if something may be made there. -/
def site (t : FileTree) (o : Origin) (r : Route) (s : List Char) : Except TreeError Path := do
  if (s :: r).any (·.contains '\x00') then throw .badName
  let p ← t.resolve o r
  t.checkDirectory p
  checkName s
  return p.step s

/-! ## Making directories and files -/

/-- Changes the tree, if that is allowed at the place. -/
def unlessDenied (p : Path) (f : FileTree → FileTree) : TreeChange Unit := fun t =>
  match t.denial p with
  | some reason => .error (.denied reason) t
  | none => .ok () (f t)

/-- Makes a directory one step from the end of a route. -/
def makeDirectory (o : Origin) (r : Route) (s : List Char) : TreeChange Unit := fun t =>
  match t.site o r s with
  | .error e => .error e t
  | .ok p => if (t.node? p).isSome then .error .taken t else unlessDenied p (·.add p .directory) t

/-- Makes the directory at the end of a route and those on the way that are not there. The steps are
given last first. A last step that does not move makes nothing once the way to it was made. -/
def makeWay (o : Origin) : Route → TreeChange Unit
  | [] => throw .taken
  | s :: back => fun t =>
    if t.holds o back.reverse then makeDirectory o back.reverse s t
    else match makeWay o back t with
      | .ok () t | .error .taken t =>
        if s = Route.stay then .ok () t else makeDirectory o back.reverse s t
      | .error e t => .error e t

/-- Makes the directory at the end of a route unless it is there. -/
def ensureDirectory (o : Origin) (r : Route) : TreeChange Unit := fun t =>
  if t.hasDirectory o r then .ok () t else makeWay o r.reverse t

/-- Makes the directory at the end of a route; an error does not count if it is there afterwards. -/
def provideDirectory (o : Origin) (r : Route) : TreeChange Unit := fun t =>
  match ensureDirectory o r t with
  | .ok () t => .ok () t
  | .error e t => if t.hasDirectory o r then .ok () t else .error e t

/-- Opens a file to be written on, and makes it unless it is there. -/
def ensureFile (p : Path) : TreeChange Unit := fun t =>
  match t.site p.origin p.names.dropLast p.name with
  | .error e => .error e t
  | .ok p =>
    match t.node? p with
    | some (.file _) => unlessDenied p id t
    | some .directory => .error .isDirectory t
    | none => unlessDenied p (·.add p (.file "")) t

/-! ## Contents -/

/-- Adds to the end of a file. -/
def append (t : FileTree) (p : Path) (text : String) : FileTree :=
  { t with nodes := t.nodes.map fun (q, n) =>
    match n with
    | .file content => if q = p then (q, .file (content ++ text)) else (q, n)
    | .directory => (q, n) }

/-- The files below the top, with their contents. -/
def files (t : FileTree) : List (Path × String) :=
  t.nodes.filterMap fun (p, n) =>
    match n with
    | .file content => if p.origin = .top then some (p, content) else none
    | .directory => none

end FileTree

end SqlWire
