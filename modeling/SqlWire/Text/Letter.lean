import SqlWire.Text.Utf8
/-!
# Letters

What texts are made of. A text that a client is handed may hold lone surrogates: halves of the pairs that another
encoding writes for some characters. They are no characters themselves, and UTF-8 has no octets for them.
-/
namespace SqlWire

/-- A character or a lone surrogate. -/
inductive CodePoint where
  | char (c : Char)
  | surrogate (n : Fin 0x800)
  deriving DecidableEq

/-- The number of a code point; the surrogates stand in a gap between the characters. -/
def CodePoint.toNat : CodePoint → Nat
  | .char c => c.toNat
  | .surrogate n => 0xD800 + n

/-- A letter of a text looks like a character. -/
class Letter (α : Type) where
  face : α → Char

namespace Letter

instance : Letter Char := ⟨id⟩

@[simp] theorem face_char (c : Char) : face c = c := rfl

/-- A surrogate looks like what is read in place of one. -/
instance : Letter CodePoint where
  face
    | .char c => c
    | .surrogate _ => Utf8.replacement

end Letter

end SqlWire
