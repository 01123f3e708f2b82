import SqlWire.Capability
import SqlWire.Charset
import SqlWire.Wire.Cursor
import SqlWire.Wire.Encoding
/-!
# The client's login

The client's answer to the greeting: what it can do, who it is, and its proof of the password.
-/
namespace SqlWire

variable {α β ε : Type}

/-- The one authentication plugin of this client. -/
def nativePlugin : String := "mysql_native_password"

structure LoginPacket (α : Type) where
  capabilityFlags : Int
  maxPacketSize : Int
  characterSet : Int
  username : α
  authResponse : Bytes
  pluginName : α

namespace LoginPacket

/-- A login without a name or password. -/
def initial : LoginPacket String :=
  ⟨Capability.client, 0, Charset.utf8mb4GeneralCi, "", [], nativePlugin⟩

def mapText (f : α → β) (p : LoginPacket α) : LoginPacket β :=
  { p with username := f p.username, pluginName := f p.pluginName }

/-- The packet with its texts replaced one after another, or the first failure at that. -/
def traverse (f : α → Except ε β) (p : LoginPacket α) : Except ε (LoginPacket β) := do
  return { p with username := ← f p.username, pluginName := ← f p.pluginName }

def encode [Sendable α] (p : LoginPacket α) : Bytes :=
  Bytes.ofInt 4 p.capabilityFlags ++ Bytes.ofInt 4 p.maxPacketSize ++ Bytes.ofInt 1 p.characterSet
    ++ Encoding.zeros 23 ++ Encoding.terminated p.username
    ++ Bytes.ofInt 1 p.authResponse.length ++ p.authResponse ++ Encoding.terminated p.pluginName

/-- A client that does not announce plugins names none and means the native one. -/
def decode : Decoder (LoginPacket String) := do
  let capabilityFlags ← Decoder.fixedInt 4
  let maxPacketSize ← Decoder.fixedInt 4
  let characterSet ← Decoder.fixedInt 1
  Decoder.skip 23
  let username ← Decoder.terminatedText
  let authResponse ← Decoder.octets (← Decoder.fixedInt 1)
  let pluginName ←
    if Capability.announces capabilityFlags Capability.pluginAuth then Decoder.terminatedText
    else pure nativePlugin
  return ⟨capabilityFlags, maxPacketSize, characterSet, username, authResponse, pluginName⟩

end LoginPacket

end SqlWire
