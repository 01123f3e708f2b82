import SqlWire.Text.Blank
import SqlWire.Text.Case
import SqlWire.Text.Split
/-!
# Ini files

Sections of options with values that may go on over indented lines. A line that begins with `#` or
`;` is a comment. Options of the section `DEFAULT` stand for those that another section lacks.
Where a value is used, `%(option)s` stands for another option's value and `%%` for a percent sign.
-/
namespace SqlWire

/-- Why a file cannot be read or a value cannot be used. -/
inductive IniError where
  | noSectionHeader
  | duplicateSection
  | duplicateOption
  | badLine
  | noSection
  /-- A percent sign begins neither form that it may begin. -/
  | badReference
  | unknownReference
  /-- References lead to references too often. -/
  | deepReference
  deriving DecidableEq

/-- A section: its options, the last one first. -/
structure IniSection where
  name : String
  options : List (String × String)

structure Ini where
  sections : List IniSection

namespace Ini

/-- The section whose options stand in for missing ones. -/
def defaultName : String := "DEFAULT"

/-! ## Reading -/

/-- A section while it is read: the lines of each value, newest first. -/
structure Draft where
  name : List Char
  options : List (List Char × List (List Char))

/-- How far the reader is. -/
structure Reader where
  /-- Sections left behind, newest first. -/
  done : List Draft
  current : Option Draft
  /-- The option that an indented line goes on with is the current section's newest. -/
  inValue : Bool
  /-- The indentation of the last line that was not such a one. -/
  indent : Nat
  /-- Some line was no option. -/
  faulty : Bool

def Reader.start : Reader := ⟨[], none, false, 0, false⟩

/-- Adds a line to the newest option's value. -/
def Reader.extend (r : Reader) (line : List Char) : Reader :=
  match r.current with
  | some ⟨name, (option, lines) :: rest⟩ =>
    { r with current := some ⟨name, (option, line :: lines) :: rest⟩ }
  | _ => r

/-- The name in a section's header, up to the last bracket. -/
def header? : List Char → Option (List Char)
  | '[' :: rest => (Text.cutLast ']' rest).1.filter (!·.isEmpty)
  | _ => none

def isDelimiter (c : Char) : Bool := c = '=' || c = ':'

/-- The name and value of an option. -/
def option? (cs : List Char) : Option (List Char × List Char) :=
  match cs.dropWhile (!isDelimiter ·) with
  | [] => none
  | _ :: value => some (Text.trimRight (cs.takeWhile (!isDelimiter ·)), Text.trim value)

/-- Goes on to a section; the default section may be entered again. -/
def Reader.enter (r : Reader) (name : List Char) : Except IniError Reader :=
  let all := r.current.toList ++ r.done
  match all.find? (·.name = name) with
  | some old =>
    if name = defaultName.toList then
      .ok { r with done := all.filter (·.name ≠ name), current := some old, inValue := false }
    else .error .duplicateSection
  | none => .ok { r with done := all, current := some ⟨name, []⟩, inValue := false }

/-- Adds an option; one without a name is remembered as a fault. -/
def Reader.add (r : Reader) (draft : Draft) (name value : List Char) :
    Except IniError Reader :=
  let key := Text.lower name
  if draft.options.any (·.1 = key) then .error .duplicateOption
  else .ok { r with
    current := some { draft with options := (key, [value]) :: draft.options }
    inValue := !key.isEmpty, faulty := r.faulty || key.isEmpty }

/-- Takes in a line that is neither empty nor a comment nor a continuation. -/
def Reader.takeItem (r : Reader) (value : List Char) : Except IniError Reader :=
  match header? value, r.current with
  | some name, _ => r.enter name
  | none, none => .error .noSectionHeader
  | none, some draft =>
    match option? value with
    | some (name, v) => r.add draft name v
    | none => .ok { r with faulty := true }

def Reader.take (r : Reader) (line : List Char) : Except IniError Reader :=
  let value := Text.trim line
  let indent := (line.takeWhile Text.isBlank).length
  match value with
  | [] => .ok (if r.inValue then r.extend [] else r)
  | c :: _ =>
    if c = '#' ∨ c = ';' then .ok r
    else if r.inValue && r.indent < indent then .ok (r.extend value)
    else Reader.takeItem { r with indent := indent } value

/-- A value's lines, without the blanks at its end. -/
def joined (lines : List (List Char)) : String :=
  String.ofList (Text.trimRight (['\n'].intercalate lines.reverse))

/-- A section that was read to its end. -/
def Draft.finish (d : Draft) : IniSection :=
  ⟨String.ofList d.name, d.options.map fun (name, lines) => (String.ofList name, joined lines)⟩

/-- Reads the lines of a file. A faulty line is reported when all others have been read. -/
def parse (text : String) : Except IniError Ini := do
  let r ← (Text.splitAt '\n' text.toList).foldlM Reader.take Reader.start
  if r.faulty then throw .badLine
  return ⟨(r.current.toList ++ r.done).map Draft.finish⟩

/-- Line ends of every system become one line feed. -/
def unifyLines : List Char → List Char → List Char
  | done, [] => done.reverse
  | done, '\r' :: '\n' :: rest => unifyLines ('\n' :: done) rest
  | done, '\r' :: rest => unifyLines ('\n' :: done) rest
  | done, c :: rest => unifyLines (c :: done) rest

/-- Reads a file's content, with the line ends of any system. -/
def parseFile (content : String) : Except IniError Ini :=
  parse (String.ofList (unifyLines [] content.toList))

/-! ## Looking up -/

def find? (ini : Ini) (name : String) : Option IniSection := ini.sections.find? (·.name = name)

/-- There is such a section, other than the default one. -/
def hasSection (ini : Ini) (name : String) : Bool :=
  name ≠ defaultName && (ini.find? name).isSome

/-- The options to use in a section: its own before the default ones. -/
def optionsOf (ini : Ini) (name : String) : Except IniError (List (String × String)) :=
  let defaults := ((ini.find? defaultName).map (·.options)).getD []
  if name = defaultName then .ok defaults
  else match ini.find? name with
    | some s => .ok (s.options ++ defaults)
    | none => .error .noSection

/-! ## References -/

/-- References may lead on to references so often. -/
def maxDepth : Nat := 10

/-- The name in a reference, behind its parenthesis, and what stands behind the reference. -/
def reference? (cs : List Char) : Option (List Char × List Char) :=
  match cs.dropWhile (· ≠ ')') with
  | ')' :: 's' :: rest =>
    let name := cs.takeWhile (· ≠ ')')
    if name.isEmpty then none else some (name, rest)
  | _ => none

theorem length_of_reference {cs name rest : List Char} (h : reference? cs = some (name, rest)) :
    rest.length < cs.length := by
  have hlen := (List.dropWhile_suffix (l := cs) (· ≠ ')')).length_le
  unfold reference? at h
  split at h
  · rename_i heq
    rw [heq] at hlen
    simp only [List.length_cons] at hlen h
    split at h
    · cases h
    · cases h
      omega
  · cases h

/-- Puts values in the place of references, where `value` gives the final value of an option. The
text so far is in `done`, newest first. -/
def expandWith (value : List Char → Except IniError (List Char)) (done : List Char) :
    List Char → Except IniError (List Char)
  | '%' :: '%' :: rest => expandWith value ('%' :: done) rest
  | '%' :: '(' :: rest =>
    match _h : reference? rest with
    | none => .error .badReference
    | some (name, behind) =>
      match value name with
      | .error e => .error e
      | .ok v => expandWith value (v.reverse ++ done) behind
  | '%' :: _ => .error .badReference
  | c :: rest => expandWith value (c :: done) rest
  | [] => .ok done.reverse
termination_by cs => cs.length
decreasing_by
  all_goals simp only [List.length_cons]
  · omega
  · have := length_of_reference ‹_›
    omega
  · omega

/-- Puts values in the place of references, so many levels deep. -/
def expand (options : List (String × String)) : (levels : Nat) → List Char →
    Except IniError (List Char)
  | 0, _ => .error .deepReference
  | levels + 1, text =>
    expandWith (fun name =>
      match options.lookup (String.ofList (Text.lower name)) with
      | none => .error .unknownReference
      | some v => if v.contains '%' then expand options levels v.toList else .ok v.toList) [] text

/-- The value of an option, with references replaced. -/
def value? (options : List (String × String)) (name : String) : Except IniError (Option String) :=
  match options.lookup name with
  | none => .ok none
  | some v => return some (String.ofList (← expand options maxDepth v.toList))

end Ini

end SqlWire
