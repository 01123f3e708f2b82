import SqlWire.Capability
import SqlWire.Wire.Cursor
import SqlWire.Wire.Encoding
/-!
# The server's greeting

The first packet of a connection. It carries the nonce for the password in two parts.
-/
namespace SqlWire

variable {α β ε : Type}

/-- What a server says of itself when a connection is opened. -/
structure Greeting (α : Type) where
  protocolVersion : Int
  serverVersion : α
  connectionId : Int
  challenge1 : Bytes
  capabilityFlags : Int
  characterSet : Int
  statusFlags : Int
  challenge2 : Bytes
  authPluginDataLength : Int
  authPluginName : α

namespace Greeting

def part1Length : Nat := 8

def part2Length : Nat := 13

/-- As much of the nonce is used. -/
def nonceLength : Nat := 20

def initial : Greeting String :=
  ⟨10, "", 0, [], Capability.protocol41, 0, 0, [], 0, ""⟩

def mapText (f : α → β) (g : Greeting α) : Greeting β :=
  { g with serverVersion := f g.serverVersion, authPluginName := f g.authPluginName }

/-- The greeting with its texts replaced one after another, or the first failure at that. -/
def traverse (f : α → Except ε β) (g : Greeting α) : Except ε (Greeting β) := do
  return { g with serverVersion := ← f g.serverVersion, authPluginName := ← f g.authPluginName }

/-- The nonce: what is beyond its length, a terminator or another octet, is not part of it. -/
def nonce (g : Greeting α) : Bytes := (g.challenge1 ++ g.challenge2).take nonceLength

def encode [Sendable α] (g : Greeting α) : Bytes :=
  Bytes.ofInt 1 g.protocolVersion ++ Encoding.terminated g.serverVersion
    ++ Bytes.ofInt 4 g.connectionId ++ Encoding.padded part1Length g.challenge1
    ++ Encoding.zeros 1 ++ Bytes.ofInt 2 g.capabilityFlags ++ Bytes.ofInt 1 g.characterSet
    ++ Bytes.ofInt 2 g.statusFlags ++ Bytes.ofInt 2 (g.capabilityFlags / 0x10000)
    ++ Bytes.ofInt 1 g.authPluginDataLength ++ Encoding.zeros 10
    ++ Encoding.padded part2Length g.challenge2 ++ Encoding.terminated g.authPluginName

/-- Some servers end a full second part with a terminator of its own, and servers without
authentication plugins stop there. -/
def decode : Decoder (Greeting String) := do
  let protocolVersion ← Decoder.fixedInt 1
  let serverVersion ← Decoder.terminatedText
  let connectionId ← Decoder.fixedInt 4
  let challenge1 ← Decoder.octets part1Length
  Decoder.skip 1
  let lowFlags ← Decoder.fixedInt 2
  let characterSet ← Decoder.fixedInt 1
  let statusFlags ← Decoder.fixedInt 2
  let highFlags ← Decoder.fixedInt 2
  let authPluginDataLength ← Decoder.fixedInt 1
  Decoder.skip 10
  let challenge2 ← Decoder.octets part2Length
  if ← Decoder.isNext 0 then Decoder.skip 1
  let authPluginName ← if ← Decoder.hasMore then Decoder.terminatedText else pure ""
  return ⟨protocolVersion, serverVersion, connectionId, challenge1,
    Capability.union lowFlags (highFlags * 0x10000 : Nat), characterSet, statusFlags, challenge2,
    authPluginDataLength, authPluginName⟩

end Greeting

end SqlWire
