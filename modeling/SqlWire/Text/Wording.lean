import SqlWire.Text.Letter
/-!
# Wordings

A text as a client is handed it, with the lone surrogates that may be in it.
-/
namespace SqlWire

/-- A text with lone surrogates: what stands before the first of them, and what stands behind it. -/
structure LooseText where
  before : String
  surrogate : Fin 0x800
  behind : List CodePoint
  deriving DecidableEq

def LooseText.points (t : LooseText) : List CodePoint :=
  t.before.toList.map .char ++ .surrogate t.surrogate :: t.behind

/-- A text of characters, or one with lone surrogates. -/
inductive Wording where
  | plain (s : String)
  | loose (t : LooseText)
  deriving DecidableEq

instance : Coe String Wording := ⟨.plain⟩

namespace Wording

def points : Wording → List CodePoint
  | .plain s => s.toList.map .char
  | .loose t => t.points

/-- The text of these code points behind the characters that are `done`, newest first. -/
def ofPointsOnto (done : List Char) : List CodePoint → Wording
  | [] => .plain (String.ofList done.reverse)
  | .char c :: rest => ofPointsOnto (c :: done) rest
  | .surrogate n :: rest => .loose ⟨String.ofList done.reverse, n, rest⟩

def ofPoints (ps : List CodePoint) : Wording := ofPointsOnto [] ps

theorem points_ofPointsOnto (done : List Char) (ps : List CodePoint) :
    (ofPointsOnto done ps).points = done.reverse.map .char ++ ps := by
  induction ps generalizing done with
  | nil => simp [ofPointsOnto, points]
  | cons p ps ih =>
    cases p with
    | char c => simp [ofPointsOnto, ih]
    | surrogate n => simp [ofPointsOnto, points, LooseText.points]

theorem points_ofPoints (ps : List CodePoint) : (ofPoints ps).points = ps := points_ofPointsOnto [] ps

theorem ofPointsOnto_chars (done cs : List Char) (ps : List CodePoint) :
    ofPointsOnto done (cs.map .char ++ ps) = ofPointsOnto (cs.reverse ++ done) ps := by
  induction cs generalizing done with
  | nil => rfl
  | cons c cs ih => simp [ofPointsOnto, ih]

/-- A text is given by its code points. -/
theorem ofPoints_points (w : Wording) : ofPoints w.points = w := by
  cases w with
  | plain s =>
    have h := ofPointsOnto_chars [] s.toList []
    rw [List.append_nil] at h
    simp [ofPoints, points, h, ofPointsOnto]
  | loose t =>
    have h := ofPointsOnto_chars [] t.before.toList (.surrogate t.surrogate :: t.behind)
    simp [ofPoints, points, LooseText.points, h, ofPointsOnto]

end Wording

end SqlWire
