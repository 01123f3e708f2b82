import SqlWire.Proofs.Hostile
import SqlWire.Proofs.Recognition
import SqlWire.Proofs.Stream
/-!
# Sequence ids

One counter serves what is sent and what is received. `counted` says what each step does to it, however
the step ends; from this the ids of a stretch without errors are in a row, however long it is.
-/
namespace SqlWire.Session

open Stateful

/-! ## One step -/

/-- The transport failed, or there was nothing that could be sent. -/
def LeavesId (f : Failure) : Prop :=
  f.errorClass? = some .transport ∨ f.errorClass? = some .unsupported ∨ ∃ e, f = .unsendable e

/-- What a step from `s` does to the counter and to what was sent, by how it ends. -/
inductive Counted (s : Session) : Step → Except Failure (Option Packet) → Session → Prop where
  | received {p : Packet} {s' : Session} : p.sequence = s.sequence →
      s'.sequence = succId s.sequence → Counted s .receive (.ok (some p)) s'
  /-- A whole packet, under another id. -/
  | outOfOrder {s' : Session} (id : Int) : s'.sequence = succId s.sequence →
      Counted s .receive (.error (.outOfOrder id s.sequence)) s'
  | greeted {p : Packet} {s' : Session} : s'.sequence = succId p.sequence →
      Counted s .receiveGreeting (.ok (some p)) s'
  | sent {m : Message} {payload : Bytes} {s' : Session} : m.payload = .ok payload →
      s'.sequence = succId s.sequence →
      s'.transport.sent = (Packet.mk s.sequence payload).frame :: s.transport.sent →
      Counted s (.send m) (.ok (some ⟨s.sequence, payload⟩)) s'
  | reset {s' : Session} : s'.sequence = 0 → Counted s .reset (.ok none) s'
  | disturbed {s' : Session} (readFault writeFault : Option (Nat × String)) :
      s'.sequence = s.sequence → Counted s (.disturb readFault writeFault) (.ok none) s'
  | failed {step : Step} {f : Failure} {s' : Session} : LeavesId f → s'.sequence = s.sequence →
      s'.transport.sent = s.transport.sent → Counted s step (.error f) s'

variable {s s' : Session} {p : Packet} {rest : Bytes} {m : Message} {payload : Bytes}

/-- A step that takes octets at most, and leaves the counter. -/
theorem counted_of_failed {step : Step} {f : Failure} {b : Bytes} (hf : LeavesId f)
    (h : Course step.run s (.error f) b [] s.sequence) :
    Counted s step (outcome (step.run s)) (final (step.run s)) := by
  rw [h.outcome_eq]
  exact .failed hf h.sequence h.moves.sent

theorem counted_receive (s : Session) :
    Counted s .receive (outcome (Step.run .receive s)) (final (Step.run .receive s)) := by
  rcases Frame.frame_or_short s.transport.arriving with hshort | ⟨p, rest, hp, hb⟩
  · obtain ⟨f, hf, h⟩ := course_receiveAny_of_short hshort
    exact counted_of_failed (.inl hf) (h.bind_error.bind_error)
  · have h : Course (Step.run .receive) s _ _ _ _ := (course_receive hp hb).map some
    rw [h.outcome_eq]
    by_cases hid : p.sequence = s.sequence
    · rw [if_pos hid]
      exact .received hid h.sequence
    · rw [if_neg hid]
      exact .outOfOrder _ h.sequence

theorem counted_receiveGreeting (s : Session) :
    Counted s .receiveGreeting (outcome (Step.run .receiveGreeting s))
      (final (Step.run .receiveGreeting s)) := by
  rcases Frame.frame_or_short s.transport.arriving with hshort | ⟨p, rest, hp, hb⟩
  · obtain ⟨f, hf, h⟩ := course_receiveAny_of_short hshort
    exact counted_of_failed (.inl hf) (h.bind_error.bind_error)
  · have h : Course (Step.run .receiveGreeting) s _ _ _ _ := (course_receiveGreeting hp hb).map some
    rw [h.outcome_eq]
    exact .greeted h.sequence

theorem counted_send (m : Message) (s : Session) :
    Counted s (.send m) (outcome (Step.run (.send m) s)) (final (Step.run (.send m) s)) := by
  cases hm : m.payload with
  | error e =>
    have h := course_send_unsendable (s := s) hm
    exact counted_of_failed (.inr (.inr ⟨e, rfl⟩)) h.bind_error
  | ok payload =>
    by_cases hfit : payload.length ≤ Frame.maxPayload
    · by_cases hw : s.transport.Writable
      · have h : Course (Step.run (.send m)) s _ _ _ _ := (course_send hm hfit hw).map _
        rw [h.outcome_eq, hm]
        exact .sent hm h.sequence h.moves.sent
      · obtain ⟨reason, h⟩ := course_send_of_not_writable hm hfit hw
        exact counted_of_failed (.inl rfl) h.bind_error
    · have h := course_send_tooLong (s := s) hm (Nat.lt_of_not_le hfit)
      exact counted_of_failed (.inr (.inl rfl)) h.bind_error

theorem counted (step : Step) (s : Session) :
    Counted s step (outcome (step.run s)) (final (step.run s)) := by
  cases step with
  | receive => exact counted_receive s
  | receiveGreeting => exact counted_receiveGreeting s
  | send m => exact counted_send m s
  | reset => exact .reset rfl
  | disturb readFault writeFault => exact .disturbed readFault writeFault rfl

theorem Counted.isId {step : Step} {r : Except Failure (Option Packet)} (h : Counted s step r s')
    (hs : IsId s.sequence) : IsId s'.sequence := by
  cases h with
  | received _ hid | outOfOrder _ hid | greeted hid | sent _ hid =>
    rw [hid]
    exact isId_succId _
  | reset hid =>
    rw [hid]
    exact ⟨by decide, by decide⟩
  | disturbed _ _ hid | failed _ hid =>
    rw [hid]
    exact hs

theorem isId_perform (steps : List Step) (hs : IsId s.sequence) :
    IsId (perform steps s).2.sequence :=
  runAll_keeps (I := fun s => IsId s.sequence) (fun step s h => (counted step s).isId h) steps hs

/-! ## A stretch without errors -/

/-- The step goes on with the count. -/
def Step.Counts (step : Step) : Prop := step ≠ .reset ∧ step ≠ .receiveGreeting

/-- The packets that are received and sent take one id after another. -/
theorem sequence_of_stretch {stretch : List Step} {replies : List (Option Packet)}
    (hcounts : ∀ step ∈ stretch, step.Counts) (hok : (perform stretch s).1 = replies.map .ok)
    {i : Nat} (hp : (replies.filterMap id)[i]? = some p) : p.sequence = idAfter s.sequence i := by
  -- on the steps, of which each that has a packet takes one id
  induction stretch generalizing s replies i with
  | nil =>
    cases replies with
    | nil => cases hp
    | cons r replies => cases hok
  | cons step stretch ih =>
    cases replies with
    | nil => cases hok
    | cons r replies =>
      obtain ⟨hr, hrest⟩ := List.cons.inj hok
      have hstretch : ∀ step ∈ stretch, step.Counts := fun step h => hcounts step (.tail _ h)
      have hstep := counted step s
      rw [hr] at hstep
      -- the packet of this step, or one of a later step
      have hpacket {q : Packet} (hq : q.sequence = s.sequence)
          (hid : (final (step.run s)).sequence = succId s.sequence)
          (hp : (q :: replies.filterMap id)[i]? = some p) : p.sequence = idAfter s.sequence i := by
        cases i with
        | zero =>
          cases hp
          exact hq
        | succ i =>
          rw [ih hstretch hrest hp, hid]
          rfl
      generalize hs' : final (step.run s) = s' at hstep hpacket
      cases hstep with
      | received hq hid => exact hpacket hq hid hp
      | sent _ hid => exact hpacket rfl hid hp
      | disturbed _ _ hid =>
        rw [ih hstretch hrest hp, hs', hid]
      | greeted => exact absurd rfl (hcounts _ List.mem_cons_self).2
      | reset => exact absurd rfl (hcounts _ List.mem_cons_self).1

/-! ## Whole runs -/

/-- What steps do to the counter of a stream, wherever a run has brought it. -/
structure StepLaw (s : Session) : Prop where
  /-- What is sent is the length in three octets, the counter, and the payload. -/
  send_ok : ∀ m id s', send m s = .ok id s' → ∃ payload, m.payload = .ok payload ∧ id = s.sequence ∧
    s'.transport.sent =
      (Bytes.ofInt 3 payload.length ++ Bytes.ofInt 1 s.sequence ++ payload) :: s.transport.sent ∧
    s'.sequence = (s.sequence + 1) % 256
  send_fits : ∀ m payload, m.payload = .ok payload → payload.length ≤ Frame.maxPayload →
    s.transport.Writable → outcome (send m s) = .ok s.sequence
  send_tooLong : ∀ m payload, m.payload = .ok payload → Frame.maxPayload < payload.length →
    outcome (send m s) = .error (.tooLong payload.length)
  send_unsendable : ∀ m e, m.payload = .error e → outcome (send m s) = .error (.unsendable e)
  receive_ok : ∀ p s', receive s = .ok p s' →
    p.sequence = s.sequence ∧ s'.sequence = (s.sequence + 1) % 256
  /-- A whole packet is given or refused by its id, and the counter goes on either way. -/
  receive_whole : ∀ (p : Packet) rest, p.Fits → s.transport.arriving = p.frame ++ rest →
    (p.sequence = s.sequence → outcome (receive s) = .ok p) ∧
    (p.sequence ≠ s.sequence → FailsWith .protocol (outcome (receive s))) ∧
    (final (receive s)).sequence = (s.sequence + 1) % 256
  greeting_ok : ∀ p s', receiveGreeting s = .ok p s' → s'.sequence = (p.sequence + 1) % 256
  greeting_whole : ∀ (p : Packet) rest, p.Fits → s.transport.arriving = p.frame ++ rest →
    outcome (receiveGreeting s) = .ok p
  /-- What is no whole packet is the transport's failure. -/
  short : Frame.Short s.transport.arriving →
    FailsWith .transport (outcome (receive s)) ∧ FailsWith .transport (outcome (receiveGreeting s))
  reset : (final (reset s)).sequence = 0
  unchanged : ∀ step f s', Step.run step s = .error f s' → LeavesId f →
    s'.sequence = s.sequence ∧ s'.transport.sent = s.transport.sent

theorem unchanged_of_error {step : Step} {f : Failure} (h : step.run s = .error f s') (hf : LeavesId f) :
    s'.sequence = s.sequence ∧ s'.transport.sent = s.transport.sent := by
  have hstep := counted step s
  rw [h] at hstep
  cases hstep with
  | outOfOrder id => simp [LeavesId, Failure.errorClass?] at hf
  | failed _ hid hsent => exact ⟨hid, hsent⟩

theorem stepLaw (s : Session) : StepLaw s where
  send_ok m id s' h := by
    have hrun : Step.run (.send m) s = .ok (m.payload.toOption.map (Packet.mk id)) s' :=
      bind_eq_ok.2 ⟨id, s', h, rfl⟩
    have hstep := counted (.send m) s
    rw [hrun] at hstep
    generalize hp : m.payload.toOption.map (Packet.mk id) = p at hstep
    cases hstep with
    | @sent _ payload _ hm hid hsent =>
      rw [hm] at hp
      cases hp
      exact ⟨payload, hm, rfl, hsent, hid⟩
  send_fits m payload hm hfit hw := (course_send hm hfit hw).outcome_eq
  send_tooLong m payload hm h := (course_send_tooLong hm h).outcome_eq
  send_unsendable m e hm := (course_send_unsendable hm).outcome_eq
  receive_ok p s' h := by
    have hrun : Step.run .receive s = .ok (some p) s' := bind_eq_ok.2 ⟨p, s', h, rfl⟩
    have hstep := counted .receive s
    rw [hrun] at hstep
    cases hstep with
    | received hseq hid => exact ⟨hseq, hid⟩
  receive_whole p rest hp hb := by
    have h := course_receive hp hb
    refine ⟨fun hid => ?_, fun hid => ?_, h.sequence⟩
    · rw [h.outcome_eq, if_pos hid]
    · rw [h.outcome_eq, if_neg hid]
      exact ⟨_, rfl, rfl⟩
  greeting_ok p s' h := by
    have hrun : Step.run .receiveGreeting s = .ok (some p) s' := bind_eq_ok.2 ⟨p, s', h, rfl⟩
    have hstep := counted .receiveGreeting s
    rw [hrun] at hstep
    cases hstep with
    | greeted hid => exact hid
  greeting_whole p rest hp hb := (course_receiveGreeting hp hb).outcome_eq
  short h := by
    obtain ⟨f, hf, hany⟩ := course_receiveAny_of_short h
    have hreceive : Course receive s _ _ _ _ := hany.bind_error
    have hgreeting : Course receiveGreeting s _ _ _ _ := hany.bind_error
    exact ⟨⟨f, hreceive.outcome_eq, hf⟩, ⟨f, hgreeting.outcome_eq, hf⟩⟩
  reset := rfl
  unchanged step f s' h hf := unchanged_of_error h hf

/-- How ids are counted along a run. -/
structure InStep (s : Session) (steps : List Step) : Prop where
  isId : IsId (perform steps s).2.sequence
  law : StepLaw (perform steps s).2
  /-- Without errors, and until the count begins anew, the packets take the ids in a row. -/
  stretch : ∀ before stretch (replies : List (Option Packet)), steps = before ++ stretch →
    (∀ step ∈ stretch, step.Counts) →
    (perform stretch (perform before s).2).1 = replies.map .ok →
    ∀ (i : Nat) (p : Packet), (replies.filterMap id)[i]? = some p →
      p.sequence = ((perform before s).2.sequence + i) % 256

/-- Whatever arrives, whatever is sent, and however the transport fails and recovers between the steps,
the counter is an id, each packet sent or received has it, and it counts them modulo 256. -/
theorem inStep_of_run (hs : IsId s.sequence) (steps : List Step) : InStep s steps where
  isId := isId_perform steps hs
  law := stepLaw _
  stretch before stretch replies _ hcounts hok i p hp := by
    rw [sequence_of_stretch hcounts hok hp, idAfter_eq (isId_perform before hs)]

/-- A packet under the given id is received, and the next id is counted. -/
theorem takes_run_receive (hp : p.Fits) :
    Takes (Step.run .receive) p.sequence p.frame (.ok (some p)) [] (succId p.sequence) := by
  have h : Takes receive p.sequence p.frame _ [] _ := takes_receive hp
  rw [if_pos rfl] at h
  have h' : Takes (Step.run .receive) p.sequence (p.frame ++ []) _ _ _ :=
    h.bind (takes_pure (some p))
  rwa [List.append_nil] at h'

/-- Over the last id, with a packet in each direction, and then a packet under a wrong id. -/
theorem inStep_of_run_over_last :
    let s := probe 255 ((Packet.mk 255 [1]).frame ++ ((Packet.mk 1 [2]).frame ++ (Packet.mk 7 []).frame))
    let steps : List Step := [.receive, .send (.octets [3]), .receive]
    IsId s.sequence ∧ ∃ p q r : Packet, (perform steps s).1 = [.ok (some p), .ok (some q), .ok (some r)] ∧
      p.sequence = 255 ∧ q.sequence = 0 ∧ r.sequence = 1 ∧
      FailsWith .protocol (outcome (receive (perform steps s).2)) := by
  intro s steps
  have hp : (Packet.mk 255 [1]).Fits := ⟨by decide, by decide, by decide⟩
  have hr : (Packet.mk 1 [2]).Fits := ⟨by decide, by decide, by decide⟩
  have hsend : Takes (Step.run (.send (.octets [3]))) 0 [] _ _ _ :=
    (takes_send rfl (by decide)).bind (takes_pure _)
  -- the three steps one by one
  have hat : s.At 255 _ := probe_at 255 _
  have hat1 : (final (Step.run .receive s)).At 0 _ := (takes_run_receive hp).final_at hat
  have hat2 : (final (Step.run (.send (.octets [3])) _)).At 1 _ := hsend.final_at (b := []) hat1
  have hat3 : (perform steps s).2.At 2 _ := (takes_run_receive hr).final_at hat2
  have hreplies : (perform steps s).1 = [some ⟨255, [1]⟩, some ⟨0, [3]⟩, some ⟨1, [2]⟩].map .ok := by
    have h1 := ((takes_run_receive hp).ends s _ hat).1
    have h2 := (hsend.ends _ _ hat1).1
    have h3 := ((takes_run_receive hr).ends _ _ hat2).1
    simp only [steps, perform, runAll, h1, h2, h3]
    rfl
  have hs : IsId s.sequence := ⟨by decide, by decide⟩
  obtain ⟨-, hlaw, hstretch⟩ := inStep_of_run hs steps
  have hids := hstretch [] steps _ rfl (by simp [steps, Step.Counts]) hreplies
  refine ⟨hs, _, _, _, hreplies, hids 0 _ rfl, hids 1 _ rfl, hids 2 _ rfl, ?_⟩
  have harriving : (perform steps s).2.transport.arriving = (Packet.mk 7 []).frame ++ [] := by
    rw [Transport.arriving, hat3.reach_eq, hat3.incoming]
    rfl
  obtain ⟨-, hother, -⟩ := hlaw.receive_whole _ _ ⟨by decide, by decide, by decide⟩ harriving
  exact hother (by rw [hat3.sequence]; decide)

end SqlWire.Session
