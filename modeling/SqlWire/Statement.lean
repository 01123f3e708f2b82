import SqlWire.Text.Blank
import SqlWire.Text.Case
import SqlWire.Text.Wording
/-!
# Statements

The form in which statements are sent: without comments in front and without the semicolon that
ends them. The probes with which some tools ask whether a server is alive are replaced by one that
every server answers.
-/
namespace SqlWire.Statement

/-- The probe that every server answers. -/
def probe : String := "select 1"

/-- The probes that are replaced, in lower case. -/
def probes : List String := ["select 1 from dual", "values 1"]

/-! ## Comments -/

/-- What stands behind the first `*/`. -/
def afterClose : List CodePoint → Option (List CodePoint)
  | a :: b :: rest =>
    if a = .char '*' ∧ b = .char '/' then some rest else afterClose (b :: rest)
  | _ => none

/-- What stands behind a complete comment at the front. -/
def afterComment : List CodePoint → Option (List CodePoint)
  | a :: b :: rest =>
    if a = .char '/' ∧ b = .char '*' then afterClose rest else none
  | _ => none

theorem length_of_afterClose {xs rest : List CodePoint} (h : afterClose xs = some rest) :
    rest.length < xs.length := by
  fun_induction afterClose xs with
  | case1 a b r =>
    cases h
    exact Nat.lt_succ_of_lt (Nat.lt_succ_self _)
  | case2 a b r _ ih => exact Nat.lt_succ_of_lt (ih h)
  | case3 => cases h

theorem length_of_afterComment {xs rest : List CodePoint} (h : afterComment xs = some rest) :
    rest.length < xs.length := by
  unfold afterComment at h
  split at h
  · split at h
    · have := length_of_afterClose h
      simp only [List.length_cons]
      omega
    · cases h
  · cases h

theorem length_trim_le (xs : List CodePoint) : (Text.trim xs).length ≤ xs.length := by
  obtain ⟨l, r, h, _, _⟩ := Text.trim_eq xs
  have := congrArg List.length h
  simp only [List.length_append] at this
  omega

/-- Without the comments in front and the blanks around what follows them. -/
def stripComments (xs : List CodePoint) : List CodePoint :=
  match _h : afterComment xs with
  | none => xs
  | some rest => stripComments (Text.trim rest)
termination_by xs.length
decreasing_by
  exact Nat.lt_of_le_of_lt (length_trim_le _) (length_of_afterComment ‹_›)

/-! ## Normal form -/

/-- Without one semicolon at the end and the blanks before it. -/
def stripSemicolon (xs : List CodePoint) : List CodePoint :=
  if xs.getLast? = some (.char ';') then Text.trim xs.dropLast else xs

/-- A probe in any case becomes the one that every server answers. -/
def replaceProbe (xs : List CodePoint) : List CodePoint :=
  let small := String.ofList (Text.lower (xs.map Letter.face))
  if probes.contains small then probe.toList.map .char else xs

def normalForm (xs : List CodePoint) : List CodePoint :=
  replaceProbe (stripSemicolon (stripComments (Text.trim xs)))

/-- The form in which a statement is sent. -/
def normalize (sql : Wording) : Wording := .ofPoints (normalForm sql.points)

end SqlWire.Statement
