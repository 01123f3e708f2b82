import SqlWire.Session
/-!
# Runs on a stream

What may be done with a stream of packets, step after step, while the network under it fails or
recovers.
-/
namespace SqlWire.Session

open Stateful

/-- A step on a stream of packets, or a change in how its transport fails. -/
inductive Step where
  | receive
  | receiveGreeting
  | send (m : Message)
  | reset
  /-- From here on reads and writes fail elsewhere, or no longer. -/
  | disturb (readFault writeFault : Option (Nat × String))

/-- Reads and writes begin to fail where these faults say. -/
def disturb (readFault writeFault : Option (Nat × String)) : Exchange Unit := modify fun s =>
  { s with transport := { s.transport with readFault, writeFault } }

/-- Takes a step, and returns the packet that it received or sent. -/
def Step.run : Step → Exchange (Option Packet)
  | .receive => do return some (← Session.receive)
  | .receiveGreeting => do return some (← Session.receiveGreeting)
  | .send m => do
    let id ← Session.send m
    return m.payload.toOption.map (Packet.mk id)
  | .reset => do
    Session.reset
    return none
  | .disturb readFault writeFault => do
    Session.disturb readFault writeFault
    return none

/-- Step after step, whatever each of them ends as. -/
def perform (steps : List Step) (s : Session) : List (Except Failure (Option Packet)) × Session :=
  runAll Step.run steps s

end SqlWire.Session
