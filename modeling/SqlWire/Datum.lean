import SqlWire.Text.Quoted
/-!
# Data to send

What a caller hands over to be sent: text, which travels as UTF-8 if that has octets for it, or octets, which
travel as they are. In a list of values, octets are told from text by their quoted form.
-/
namespace SqlWire

/-- Whatever has octets to put on the wire. -/
class Sendable (α : Type) where
  octets : α → Bytes

/-- Whatever has a quoted form. -/
class Quotable (α : Type) where
  quoted : α → String

instance : Sendable String := ⟨Utf8.encode⟩

instance : Sendable Bytes := ⟨id⟩

/-- Text, or octets as they are. -/
inductive Datum where
  | text (w : Wording)
  | raw (b : Bytes)
  deriving DecidableEq

instance : Quotable String := ⟨Text.quoted⟩

instance : Quotable Wording where
  quoted
    | .plain s => Text.quoted s
    | .loose t => t.quoted

instance : Quotable Datum where
  quoted
    | .text w => Quotable.quoted w
    | .raw b => quotedOctets b

/-- What is absent is shown as `None`. -/
instance {α : Type} [Quotable α] : Quotable (Option α) where
  quoted
    | some a => Quotable.quoted a
    | none => "None"

namespace Datum

/-- A text of characters. -/
def plain (s : String) : Datum := .text s

/-- How the datum reads in a message: text as it is, octets quoted. -/
def shown : Datum → String
  | .text (.plain s) => s
  | .text (.loose t) => t.shown
  | .raw b => quotedOctets b

/-- How a datum that may be absent reads in a message. -/
def shownOption (d : Option Datum) : String := (d.map shown).getD "None"

end Datum

end SqlWire
