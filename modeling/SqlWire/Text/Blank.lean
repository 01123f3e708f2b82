import SqlWire.Text.Letter
import SqlWire.Text.Ranges
/-!
# Blanks

The white space of Unicode 14.0, together with the four information separators, and trimming by it.
Texts are worked on as lists of letters. `trim_eq` says that trimming only takes blanks away.
-/
namespace SqlWire.Text

/-- The runs of blanks. -/
def blankRuns : List Run := [
  (0x9, 0xD), (0x1C, 0x20), (0x85, 0x85), (0xA0, 0xA0), (0x1680, 0x1680), (0x2000, 0x200A),
  (0x2028, 0x2029), (0x202F, 0x202F), (0x205F, 0x205F), (0x3000, 0x3000)]

def isBlank (c : Char) : Bool := covered blankRuns c

variable {α : Type} [Letter α]

/-- The letter looks like a blank. -/
def looksBlank (x : α) : Bool := isBlank (Letter.face x)

@[simp] theorem looksBlank_char (c : Char) : looksBlank c = isBlank c := rfl

def trimLeft (xs : List α) : List α := xs.dropWhile looksBlank

def trimRight (xs : List α) : List α := (xs.reverse.dropWhile looksBlank).reverse

def trim (xs : List α) : List α := trimRight (trimLeft xs)

/-- A text is its leading blanks, its trimmed form and its trailing blanks. -/
theorem trim_eq (xs : List α) :
    ∃ l r, xs = l ++ trim xs ++ r ∧ (∀ x ∈ l, looksBlank x) ∧ ∀ x ∈ r, looksBlank x := by
  refine ⟨xs.takeWhile looksBlank, ((trimLeft xs).reverse.takeWhile looksBlank).reverse, ?_, ?_, ?_⟩
  · have h := congrArg List.reverse
      (List.takeWhile_append_dropWhile (p := looksBlank) (l := (trimLeft xs).reverse))
    rw [List.reverse_append, List.reverse_reverse] at h
    rw [List.append_assoc, trim, trimRight, h, trimLeft, List.takeWhile_append_dropWhile]
  · exact fun x hx => List.all_eq_true.1 List.all_takeWhile x hx
  · intro x hx
    exact List.all_eq_true.1 (List.all_takeWhile (p := looksBlank)) x (List.mem_reverse.1 hx)

end SqlWire.Text
