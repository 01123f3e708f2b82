import SqlWire.Proofs.Course
import SqlWire.Proofs.Steps
/-!
# Exchanges that only listen

Whatever the transport does, reading an answer writes nothing.
-/
namespace SqlWire.Session

open Stateful

variable {α : Type} {x : Exchange α}

/-- Nothing is written, whatever happens. -/
def Listens (x : Exchange α) : Prop := ∀ s, (final (x s)).transport.sent = s.transport.sent

theorem Takes.packets_eq_nil {id id' : Int} {taken : Bytes} {r : Except Failure α}
    {packets : List Bytes} (h : Takes x id taken r packets id') (hx : Listens x) : packets = [] := by
  obtain ⟨-, hm, -⟩ := h.ends (probe id (taken ++ [])) [] (probe_at id _)
  have hsent := hm.sent
  rw [hx] at hsent
  simpa using hsent

theorem listens_receiveAny : Listens receiveAny := by
  intro s
  rcases Frame.frame_or_short s.transport.arriving with h | ⟨p, rest, hp, h⟩
  · obtain ⟨_, -, hc⟩ := course_receiveAny_of_short h
    exact hc.moves.sent
  · exact (course_receiveAny hp h).moves.sent

theorem closed_listens : Closed (fun _ => True) Listens :=
  .of_runs trivial (fun _ _ => rfl) (fun _ _ _ => rfl)
    (fun {_ _ x _ s} hx hf => by
      cases h : outcome (x s) with
      | ok a => rw [bind_of_ok h, hf a h, hx]
      | error e => rw [bind_of_error h, final_error, hx])
    (fun _ _ => rfl) (fun _ => rfl) listens_receiveAny

end SqlWire.Session
