import SqlWire.Bytes
import SqlWire.Text.Hex
import SqlWire.Text.Printable
import SqlWire.Text.Wording
/-!
# Quoted text and octets

The form in which texts and octet strings are shown in messages. A single quote encloses them,
unless they hold one and no double quote; a backslash stands before a backslash and the enclosing
quote, and what is not printable is written as an escape.
-/
namespace SqlWire.Text

/-- The quote that encloses characters. -/
def enclosing (cs : List Char) : Char :=
  if cs.contains '\'' && !cs.contains '"' then '"' else '\''

/-- The escape of a code point by its number, as short as its size allows. -/
def numberEscape (n : Nat) : List Char :=
  if n < 0x100 then '\\' :: 'x' :: hexPadded 2 n
  else if n < 0x10000 then '\\' :: 'u' :: hexPadded 4 n
  else '\\' :: 'U' :: hexPadded 8 n

/-- One character inside quotes, where `plain` tells which are shown as they are. -/
def escaped (plain : Char → Bool) (quote c : Char) : List Char :=
  if c = quote ∨ c = '\\' then ['\\', c]
  else if c = '\t' then ['\\', 't']
  else if c = '\n' then ['\\', 'n']
  else if c = '\r' then ['\\', 'r']
  else if plain c then [c]
  else numberEscape c.toNat

def quotedBy (plain : Char → Bool) (cs : List Char) : List Char :=
  let quote := enclosing cs
  quote :: cs.flatMap (escaped plain quote) ++ [quote]

def quoted (s : String) : String := String.ofList (quotedBy isPrintable s.toList)

end SqlWire.Text

namespace SqlWire

namespace LooseText

/-- The text in quotes. -/
def quoted (t : LooseText) : String :=
  let quote := Text.enclosing (t.points.map Letter.face)
  let inside := t.points.flatMap fun
    | .char c => Text.escaped Text.isPrintable quote c
    | p => Text.numberEscape p.toNat
  String.ofList (quote :: inside ++ [quote])

/-- The text without quotes. What no character stands for is written as an escape. -/
def shown (t : LooseText) : String :=
  String.ofList <| t.points.flatMap fun
    | .char c => [c]
    | p => Text.numberEscape p.toNat

end LooseText

/-- Octets in quotes, behind the letter `b`; those of visible ASCII are shown as characters. -/
def quotedOctets (b : Bytes) : String :=
  String.ofList ('b' :: Text.quotedBy (fun c => 0x20 ≤ c.toNat && c.toNat < 0x7F)
    (b.map fun octet => Char.ofNat octet.toNat))

end SqlWire
