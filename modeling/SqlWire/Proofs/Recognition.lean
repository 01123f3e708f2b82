import SqlWire.Proofs.Delimited
/-!
# What an exchange recognizes

A server answers with packets whose ids are in a row. An exchange that only receives is told by the
payloads that it takes, and by the value that it makes of them.
-/
namespace SqlWire.Session

open Stateful

/-! ## Packets in a row -/

/-- The frames of payloads under ids in a row. -/
def chain : (id : Int) → List Bytes → Bytes
  | _, [] => []
  | id, payload :: rest => (Packet.mk id payload).frame ++ chain (succId id) rest

/-- The id that is next after so many packets. -/
def idAfter : (id : Int) → (packets : Nat) → Int
  | id, 0 => id
  | id, n + 1 => idAfter (succId id) n

theorem chain_append (id : Int) (ps qs : List Bytes) :
    chain id (ps ++ qs) = chain id ps ++ chain (idAfter id ps.length) qs := by
  induction ps generalizing id with
  | nil => rfl
  | cons p ps ih => simp [chain, idAfter, ih]

theorem idAfter_add (id : Int) (m n : Nat) : idAfter id (m + n) = idAfter (idAfter id m) n := by
  induction m generalizing id with
  | zero => rw [Nat.zero_add]; rfl
  | succ m ih => rw [Nat.succ_add]; exact ih (succId id)

/-- An id that a header can hold. -/
def IsId (id : Int) : Prop := 0 ≤ id ∧ id < 256

theorem isId_succId (id : Int) : IsId (succId id) := by
  unfold IsId succId
  omega

theorem isId_idAfter {id : Int} (h : IsId id) (n : Nat) : IsId (idAfter id n) := by
  induction n generalizing id with
  | zero => exact h
  | succ n ih => exact ih (isId_succId id)

/-- Ids are counted modulo 256. -/
theorem idAfter_eq {id : Int} (h : IsId id) (n : Nat) : idAfter id n = (id + n) % 256 := by
  induction n generalizing id with
  | zero =>
    unfold IsId at h
    simp only [idAfter]
    omega
  | succ n ih =>
    rw [idAfter, ih (isId_succId id), succId]
    omega

/-- Between `s` and `s'` just the packets with these payloads were received. -/
structure Receives (s : Session) (payloads : List Bytes) (s' : Session) : Prop where
  moves : Moves s (chain s.sequence payloads) [] s'
  fits : ∀ payload ∈ payloads, payload.length ≤ Frame.maxPayload
  sequence : s'.sequence = idAfter s.sequence payloads.length

theorem Receives.of_silent {s s' : Session} (ht : s'.transport = s.transport)
    (hs : s'.sequence = s.sequence) : Receives s [] s' :=
  ⟨.of_transport_eq ht, by simp, hs⟩

theorem Receives.trans {s s1 s2 : Session} {ps qs : List Bytes} (h : Receives s ps s1)
    (h' : Receives s1 qs s2) : Receives s (ps ++ qs) s2 where
  moves := by
    rw [chain_append, ← h.sequence]
    exact h.moves.trans h'.moves
  fits payload hp := (List.mem_append.1 hp).elim (h.fits payload) (h'.fits payload)
  sequence := by rw [h'.sequence, h.sequence, List.length_append, idAfter_add]

/-! ## Grammars -/

section Grammars

variable {α β : Type} {x : Exchange α} {f : α → Exchange β} {G : List Bytes → α → Prop}

/-- The exchange writes nothing, and gives a value just where packets in a row come next whose
payloads `G` relates to it: they are what it takes. -/
structure Recognizes (x : Exchange α) (G : List Bytes → α → Prop) : Prop where
  sound : ∀ {s s' : Session} {a : α}, s.Reliable → x s = .ok a s' →
    ∃ payloads, Receives s payloads s' ∧ G payloads a
  complete : ∀ {id : Int} {payloads : List Bytes} {a : α}, IsId id →
    (∀ payload ∈ payloads, payload.length ≤ Frame.maxPayload) → G payloads a →
    Takes x id (chain id payloads) (.ok a) [] (idAfter id payloads.length)

theorem Recognizes.congr {H : List Bytes → α → Prop} (hx : Recognizes x G)
    (h : ∀ payloads a, G payloads a ↔ H payloads a) : Recognizes x H := by
  rwa [show H = G from funext fun ps => funext fun a => propext (h ps a).symm]

/-- What the second step recognizes comes behind what the first does. -/
theorem Recognizes.bind {H : α → List Bytes → β → Prop} (hx : Recognizes x G)
    (hf : ∀ ps a, G ps a → Recognizes (f a) (H a)) :
    Recognizes (x >>= f) fun payloads b =>
      ∃ ps a qs, G ps a ∧ H a qs b ∧ payloads = ps ++ qs where
  sound hs h := by
    obtain ⟨a, s1, h1, h2⟩ := bind_eq_ok.1 h
    obtain ⟨ps, hr1, hG⟩ := hx.sound hs h1
    obtain ⟨qs, hr2, hH⟩ := (hf ps a hG).sound (hr1.moves.reliable hs) h2
    exact ⟨ps ++ qs, hr1.trans hr2, ps, a, qs, hG, hH, rfl⟩
  complete := by
    rintro id _ b hid hfit ⟨ps, a, qs, hG, hH, rfl⟩
    have h1 := hx.complete hid (fun p hp => hfit p (List.mem_append_left qs hp)) hG
    have h2 := (hf ps a hG).complete (isId_idAfter hid ps.length)
      (fun p hp => hfit p (List.mem_append_right ps hp)) hH
    rw [chain_append, List.length_append, idAfter_add]
    exact h1.bind h2

theorem recognizes_pure (a : α) : Recognizes (pure a) fun ps b => ps = [] ∧ b = a where
  sound _ h := by
    cases h
    exact ⟨[], .of_silent rfl rfl, rfl, rfl⟩
  complete := by
    rintro id _ _ - - ⟨rfl, rfl⟩
    exact takes_pure _

theorem recognizes_throw (e : Failure) : Recognizes (throw e : Exchange α) fun _ _ => False where
  sound _ h := by cases h
  complete _ _ h := h.elim

theorem recognizes_note (level : Level) (message : String) :
    Recognizes (note level message) fun ps _ => ps = [] where
  sound _ h := by
    cases h
    exact ⟨[], .of_silent rfl rfl, rfl⟩
  complete := by
    rintro id _ _ - - rfl
    exact takes_note level message

/-- A second step that takes nothing only changes the value. -/
theorem Recognizes.map {g : α → β} (hx : Recognizes x G)
    (hf : ∀ a, Recognizes (f a) fun ps b => ps = [] ∧ b = g a) :
    Recognizes (x >>= f) fun ps b => ∃ a, G ps a ∧ b = g a := by
  refine (hx.bind fun _ a _ => hf a).congr fun ps b => ?_
  constructor
  · rintro ⟨qs, a, _, hG, ⟨rfl, rfl⟩, rfl⟩
    exact ⟨a, by rwa [List.append_nil], rfl⟩
  · rintro ⟨a, hG, rfl⟩
    exact ⟨ps, a, [], hG, ⟨rfl, rfl⟩, (List.append_nil ps).symm⟩

theorem recognizes_note_pure (level : Level) (message : String) (a : α) :
    Recognizes (note level message >>= fun _ => pure a) fun ps b => ps = [] ∧ b = a :=
  ((recognizes_note level message).map fun _ => recognizes_pure a).congr (by simp)

theorem recognizes_parse (d : Decoder α) (payload : Bytes) :
    Recognizes (parse d payload) fun ps a => ps = [] ∧ d.read payload = .ok a := by
  unfold parse
  cases d.read payload with
  | ok a => exact (recognizes_pure a).congr (by simp [eq_comm])
  | error e => exact (recognizes_throw _).congr (by simp)

end Grammars

end SqlWire.Session
