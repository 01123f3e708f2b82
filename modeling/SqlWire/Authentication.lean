import SqlWire.Password
import SqlWire.Session
/-!
# The connection phase

The greeting is read, the login is sent under the id after the greeting's, and the server answers.
Nothing is sent before a complete greeting was understood.
-/
namespace SqlWire.Session

structure Credentials where
  user : Option Datum
  password : Option Datum
  /-- The password is proved to the server; else the server gets no proof. -/
  scramble : Bool

namespace Credentials

/-- The user's name, an empty text if there is none. -/
def username (c : Credentials) : Datum :=
  match c.user with
  | none | some (.raw []) => .text ""
  | some user => user

def proof (c : Credentials) (nonce : Bytes) : Except EncodeError Bytes :=
  match c.scramble, c.password with
  | true, some password => return Password.scramble (← password.octets) nonce
  | _, _ => return []

def login (c : Credentials) (nonce : Bytes) : Except EncodeError (LoginPacket Datum) := do
  return { LoginPacket.initial.mapText Datum.plain with
    username := c.username, authResponse := ← c.proof nonce }

end Credentials

/-- The greeting in the first packet, or the error that stands in its place. -/
def parseGreeting (payload : Bytes) : Exchange (Greeting String) := do
  if Marker.isErr payload then
    let r ← parseReport payload
    note Level.warning s!"Server refused the connection: {reportLine r}"
    throw (.loginRefused r)
  parse Greeting.decode payload

/-- Notes what the server says of itself. -/
def noteGreeting (g : Greeting String) : Exchange Unit := do
  unless Capability.announces g.capabilityFlags Capability.protocol41 do
    note Level.warning s!"Server {g.serverVersion} does not announce protocol 41"
  let flags := String.ofList (Text.hexPadded 8 g.capabilityFlags.toNat)
  note Level.debug s!"Server greeting: version {g.serverVersion}, connection id {g.connectionId}, capabilities 0x{flags}, plugin {g.authPluginName}"

/-- Sends the login that answers a nonce. -/
def sendLogin (c : Credentials) (nonce : Bytes) : Exchange Int := do
  send (.login (← writable (c.login nonce)))

/-- Logs in, and returns the greeting. -/
def authenticate (c : Credentials) : Exchange (Greeting String) := do
  let g ← parseGreeting (← receiveGreeting).payload
  noteGreeting g
  let _ ← sendLogin c g.nonce
  let answer ← receive
  if Marker.isErr answer.payload then
    let r ← parseReport answer.payload
    note Level.warning s!"Login failed for user {c.username.shown}: {reportLine r}"
    throw (.loginRefused r)
  note Level.info s!"Login as {c.username.shown} on {g.serverVersion}, connection id {g.connectionId}"
  return g

end SqlWire.Session
