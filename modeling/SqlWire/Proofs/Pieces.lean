import SqlWire.Proofs.Agree
/-!
# The pieces in which octets arrive

Two transports are alike if the same octets come and the same faults lie ahead; each may cut what it
delivers into pieces of its own. No exchange tells them apart, as `readExactly` gathers the pieces
before anything looks at them.
-/
namespace SqlWire

open Stateful

namespace Transport

/-- What comes, what fails and what was sent is the same; how many octets each read gets is not. -/
abbrev Alike : Transport → Transport → Prop := Agree .anyJournal

variable {t t' : Transport}

/-- A read may get any number of octets, from one up to all that it asks for and that arrive. -/
theorem exists_alike_deliver {asked n : Nat} (hpos : 1 ≤ n) (hasked : n ≤ asked) (hreach : n ≤ t.reach) :
    ∃ t' : Transport, t.Alike t' ∧ (t'.deliver asked).1 = t.incoming.take n := by
  refine ⟨{ t with offers := fun _ _ => n }, ⟨rfl, rfl, rfl, rfl, rfl, rfl⟩, ?_⟩
  have hshare : ({ t with offers := fun _ _ => n } : Transport).share asked = n := by
    cases hf : t.readFault with
    | none =>
      simp only [share]
      omega
    | some fault =>
      simp only [reach, hf] at hreach
      simp only [share]
      omega
  simp only [deliver, hshare]

end Transport

namespace Session

/-- The next id is the same and the transports are alike, whatever the journals hold. -/
abbrev Alike : Session → Session → Prop := Agree .anyJournal

/-- From both sessions a run ends in the same way, having taken and sent the same octets, with the same
id next. -/
structure SameRuns (s s' : Session) : Prop where
  readExactly : ∀ wanted,
    outcome (s.transport.readExactly wanted) = outcome (s'.transport.readExactly wanted) ∧
      (final (s.transport.readExactly wanted)).Alike (final (s'.transport.readExactly wanted))
  readPacket : outcome s.transport.readPacket = outcome s'.transport.readPacket ∧
    (final s.transport.readPacket).Alike (final s'.transport.readPacket)
  perform : ∀ steps, (perform steps s).1 = (perform steps s').1 ∧
    (perform steps s).2.Alike (perform steps s').2
  authenticate : ∀ c, outcome (authenticate c s) = outcome (authenticate c s') ∧
    (final (authenticate c s)).Alike (final (authenticate c s'))
  execute : ∀ sql, outcome (execute sql s) = outcome (execute sql s') ∧
    (final (execute sql s)).Alike (final (execute sql s'))

/-- However the octets are cut into pieces on the way, and whatever is noted of them, every run takes the
same course. -/
theorem sameRuns_of_alike {s s' : Session} (h : s.Alike s') : SameRuns s s' where
  readExactly wanted := Transport.agree_readExactly wanted _ _ h.transport
  readPacket := Transport.agree_readPacket _ _ h.transport
  perform steps := Respects.runAll agree_run steps h
  authenticate c := agree_authenticate c _ _ h
  execute sql := agree_execute sql _ _ h

/-- A packet that arrives octet by octet until the reads fail, and the same in one piece. -/
theorem sameRuns_of_alike_octet_by_octet :
    let p : Packet := ⟨0, [1, 2]⟩
    let t : Transport := { Transport.ofPeer p.frame with readFault := some (6, "reset") }
    let s := Session.start t (.fresh 0)
    let s' := Session.start { t with offers := fun _ _ => 1 } (.fresh Level.debug)
    s.Alike s' ∧ ∃ e : Failure, e.errorClass? = some .transport ∧
      (perform [.receive, .receive] s').1 = [.ok (some p), .error e] := by
  intro p t s s'
  have halike : s.Alike s' := ⟨rfl, ⟨rfl, rfl, rfl, rfl, rfl, rfl⟩, trivial⟩
  have hp : p.Fits := ⟨by decide, by decide, by decide⟩
  have hb : s.transport.arriving = p.frame ++ [] := by decide
  -- in one piece, packet by packet
  have hfirst : Course (Step.run .receive) s (.ok (some p)) _ _ _ := (course_receive hp hb).map some
  have hnone := hfirst.moves.arriving_eq hb
  obtain ⟨e, he, hany⟩ := course_receiveAny_of_short (s := final (Step.run .receive s))
    (.inl (by rw [hnone]; decide))
  have hsecond : Course (Step.run .receive) (final (Step.run .receive s)) (.error e) _ _ _ :=
    hany.bind_error.bind_error
  refine ⟨halike, e, he, ?_⟩
  rw [← ((sameRuns_of_alike halike).perform [.receive, .receive]).1]
  simp only [perform, runAll, hfirst.outcome_eq, hsecond.outcome_eq]

end Session

end SqlWire
