import SqlWire.Proofs.Contained
/-!
# Reading error packets

An error packet holds a mark, a code, a state behind a mark of its own, and a message; a server may send
no state, and the packet may end early. `read_cases` says where it ends too early to be read, and
`read_encode` and `read_withoutState` that a whole one is read as what it says. Whatever octets an error is read
from, it has the state that they name (`names_of_read`).
-/
namespace SqlWire.ErrPacket

open Decoder Stateful

variable {c : Cursor} {a x y : UInt8} {b rest : Bytes}

/-! ## Part by part -/

/-- What is read behind the state. -/
def decodeMessage (code : Nat) (state : String) : Decoder (ErrPacket String) := do
  return ⟨code, state, ← textToEnd⟩

/-- What is read behind the code. -/
def decodeState (code : Nat) : Decoder (ErrPacket String) := do
  if ← isNext stateMark then
    skip 1
    decodeMessage code (← fixedText 5)
  else decodeMessage code generalState

theorem decode_eq : decode = (do
    skip 1
    if ← hasMore then decodeState (← fixedInt 2) else decodeState 0) := rfl

theorem decode_of_code (hc : c.Inside) (hrest : c.rest = a :: x :: y :: rest) :
    decode c = decodeState (Bytes.value [x, y]) (c.advance 3) := by
  have hin : (c.advance 1).Inside := Cursor.inside_advance hc (by simp [hrest])
  have hnext : (c.advance 1).rest = x :: y :: rest := by simp [Cursor.advance, hrest]
  have hskip : skip 1 c = .ok () (c.advance 1) := reads_skip_one a c _ hc hrest
  have hmore : hasMore (c.advance 1) = .ok true (c.advance 1) := by
    rw [hasMore_eq hin, hnext]
    rfl
  have hcode : fixedInt 2 (c.advance 1) = .ok (Bytes.value [x, y]) ((c.advance 1).advance 2) :=
    reads_fixedInt (b := [x, y]) (by simp) _ _ hin hnext
  rw [decode_eq, bind_of_run hskip, bind_of_run hmore, if_pos rfl, bind_of_run hcode,
    Cursor.advance_advance]

theorem decodeMessage_eq (code : Nat) (state : String) (c : Cursor) :
    decodeMessage code state c = .ok ⟨code, state, lastText c.rest⟩ c.toEnd := rfl

theorem decodeState_of_not_leads (code : Nat) (hc : c.Inside)
    (h : Marker.leads stateMark c.rest = false) :
    decodeState code c = .ok ⟨code, generalState, lastText c.rest⟩ c.toEnd := by
  rw [decodeState, bind_of_run (isNext_eq hc stateMark), if_neg (by simp [h]), decodeMessage_eq]

/-- The mark of the state is passed over. -/
theorem decodeState_of_mark (code : Nat) (hc : c.Inside) (hrest : c.rest = stateMark :: rest) :
    decodeState code c = (fixedText 5 >>= decodeMessage code) (c.advance 1) := by
  have hmark : isNext stateMark c = .ok true c := by
    rw [isNext_eq hc, hrest]
    rfl
  have hskip : skip 1 c = .ok () (c.advance 1) := reads_skip_one stateMark c _ hc hrest
  rw [decodeState, bind_of_run hmark, if_pos rfl, bind_of_run hskip]

/-! ## Whole payloads -/

/-- The place behind the code. -/
theorem inside_afterCode : ((Cursor.start (a :: x :: y :: rest)).advance 3).Inside :=
  Cursor.inside_advance (Cursor.inside_start _) (by simp [Cursor.start])

theorem read_of_code : decode.read (a :: x :: y :: rest) =
    outcome (decodeState (Bytes.value [x, y]) ((Cursor.start (a :: x :: y :: rest)).advance 3)) := by
  rw [read_eq_outcome, decode_of_code (Cursor.inside_start _) rfl]

theorem read_of_not_leads (h : Marker.leads stateMark rest = false) :
    decode.read (a :: x :: y :: rest) = .ok ⟨Bytes.value [x, y], generalState, lastText rest⟩ := by
  rw [read_of_code, decodeState_of_not_leads _ inside_afterCode h]
  rfl

theorem read_of_state {state message : Bytes} (hstate : state.length = 5) :
    decode.read (a :: x :: y :: stateMark :: (state ++ message)) =
      .ok ⟨Bytes.value [x, y], Utf8.decode state, lastText message⟩ := by
  have hin : ((Cursor.start (a :: x :: y :: stateMark :: (state ++ message))).advance 4).Inside :=
    Cursor.inside_advance (Cursor.inside_start _) (by simp [Cursor.start])
  have htext := reads_fixedText state _ message hin rfl
  rw [hstate] at htext
  rw [read_of_code, decodeState_of_mark _ inside_afterCode rfl, Cursor.advance_advance, bind_of_run htext,
    decodeMessage_eq, outcome_ok]
  simp [Cursor.advance, Cursor.start, ← hstate]

theorem read_of_short (hb : b.length < 5) :
    decode.read (a :: x :: y :: stateMark :: b) = .error (.tooShort 5 4 (b.length + 4)) := by
  have hin : ((Cursor.start (a :: x :: y :: stateMark :: b)).advance 4).Inside :=
    Cursor.inside_advance (Cursor.inside_start _) (by simp [Cursor.start])
  have hrequire := require_of_lt hin (show _ < 5 from hb)
  rw [read_of_code, decodeState_of_mark _ inside_afterCode rfl, Cursor.advance_advance]
  have htext : (fixedText 5 >>= decodeMessage (Bytes.value [x, y]))
      ((Cursor.start (a :: x :: y :: stateMark :: b)).advance 4) = .error (.tooShort 5 4 (b.length + 4)) _ :=
    bind_eq_error.2 (.inl (bind_eq_error.2 (.inl (bind_eq_error.2 (.inl hrequire)))))
  rw [htext, outcome_error]

/-- The payload ends inside the code or inside the state. -/
def Cut (payload : Bytes) : Prop :=
  payload.length = 2 ∨ payload[3]? = some stateMark ∧ payload.length < 9

/-- A payload is read just where neither the code nor the state is cut. -/
theorem read_cases {payload : Bytes} (hne : payload ≠ []) :
    Cut payload ∧ (∃ needed offset size, decode.read payload = .error (.tooShort needed offset size)) ∨
      ¬ Cut payload ∧ ∃ p, decode.read payload = .ok p := by
  -- by the octets of the code, and by the one that stands where a state begins
  match payload with
  | [] => exact absurd rfl hne
  | [_] => exact .inr ⟨by simp [Cut], _, rfl⟩
  | [_, _] => exact .inl ⟨.inl rfl, _, _, _, rfl⟩
  | _ :: _ :: _ :: [] => exact .inr ⟨by simp [Cut], _, rfl⟩
  | _ :: _ :: _ :: z :: rest =>
    by_cases hz : z = stateMark
    · subst hz
      rcases Nat.lt_or_ge rest.length 5 with hlt | hge
      · refine .inl ⟨.inr ⟨rfl, ?_⟩, _, _, _, read_of_short hlt⟩
        simp only [List.length_cons]
        omega
      · refine .inr ⟨?_, ?_⟩
        · simp only [Cut, List.length_cons]
          omega
        · rw [← List.take_append_drop 5 rest]
          exact ⟨_, read_of_state (by simp [hge])⟩
    · refine .inr ⟨?_, _, read_of_not_leads (by simpa [Marker.leads] using hz)⟩
      simp [Cut, hz]

/-! ## What was read -/

/-- The octets of the state, if its mark stands before them. -/
def stateOctets (payload : Bytes) : Option Bytes :=
  if payload[3]? = some stateMark then some ((payload.drop 4).take 5) else none

/-- An error with a code that two octets hold, and with the state that the payload names. -/
structure Names (payload : Bytes) (p : ErrPacket String) : Prop where
  code : 0 ≤ p.errorCode ∧ p.errorCode ≤ 0xFFFF
  state : ∀ octets, stateOctets payload = some octets →
    octets.length = 5 ∧ p.sqlState = Utf8.decode octets
  general : stateOctets payload = none → p.sqlState = generalState

theorem value_code_le (x y : UInt8) :
    0 ≤ (Bytes.value [x, y] : Int) ∧ (Bytes.value [x, y] : Int) ≤ 0xFFFF := by
  have hlt : Bytes.value [x, y] < Nat.pow 256 2 := Bytes.value_lt [x, y]
  have hle : Bytes.value [x, y] ≤ 0xFFFF := Nat.le_of_lt_succ hlt
  omega

theorem names_of_read {payload : Bytes} {p : ErrPacket String} (h : decode.read payload = .ok p) :
    Names payload p := by
  -- by the octets of the code, and by the one that stands where a state begins
  match payload with
  | [] => cases h
  | [_] =>
    cases h
    have hzero : (0 : Int) ≤ 0 ∧ (0 : Int) ≤ 0xFFFF := by decide
    exact ⟨hzero, by simp [stateOctets], fun _ => rfl⟩
  | [_, _] => cases h
  | [_, x, y] =>
    cases h
    exact ⟨value_code_le x y, by simp [stateOctets], fun _ => rfl⟩
  | _ :: x :: y :: z :: rest =>
    by_cases hz : z = stateMark
    · subst hz
      rcases Nat.lt_or_ge rest.length 5 with hlt | hge
      · rw [read_of_short hlt] at h
        cases h
      · have hlen : (rest.take 5).length = 5 := List.length_take_of_le hge
        rw [← List.take_append_drop 5 rest, read_of_state hlen] at h
        cases h
        refine ⟨value_code_le x y, ?_, by simp [stateOctets]⟩
        rintro _ ⟨⟩
        exact ⟨hlen, rfl⟩
    · rw [read_of_not_leads (by simpa [Marker.leads] using hz)] at h
      cases h
      exact ⟨value_code_le x y, by simp [stateOctets, hz], fun _ => rfl⟩

/-! ## What was written -/

variable {code : Nat} {message : String}

theorem ofInt_code (code : Nat) (hcode : code ≤ 0xFFFF) :
    ∃ x y, Bytes.ofInt 2 code = [x, y] ∧ Bytes.value [x, y] = code := by
  have hlt : code < Nat.pow 256 2 := Nat.lt_of_le_of_lt hcode (by decide)
  exact ⟨_, _, rfl, Bytes.value_ofInt_of_lt hlt⟩

/-- A state is five ASCII characters. -/
def IsState (state : String) : Prop := state.toList.length = 5 ∧ ∀ c ∈ state.toList, c.toNat < 0x80

/-- An error is read as it was written, with the state that it names. -/
theorem read_encode_of_length {state : String} (hcode : code ≤ 0xFFFF)
    (hstate : (Utf8.encode state).length = 5) (hmessage : message.toList.getLast? ≠ some '\x00') :
    decode.read (encode ⟨code, state, message⟩) = .ok ⟨code, state, message⟩ := by
  obtain ⟨x, y, hxy, hvalue⟩ := ofInt_code code hcode
  have hpadded : Encoding.padded 5 state = Utf8.encode state := by
    simp [Encoding.padded, Encoding.zeros, Sendable.octets, ← hstate]
  have hread : decode.read (Marker.err :: x :: y :: stateMark ::
      (Utf8.encode state ++ Utf8.encode message)) = .ok _ := read_of_state hstate
  rw [hvalue, Utf8.decode_encode, lastText_encode hmessage] at hread
  rw [encode, hxy, hpadded]
  simpa [Encoding.toEnd, Sendable.octets] using hread

theorem IsState.length_encode {state : String} (h : IsState state) : (Utf8.encode state).length = 5 := by
  rw [Utf8.length_encode_of_ascii h.2, h.1]

theorem read_encode {state : String} (hcode : code ≤ 0xFFFF) (hstate : IsState state)
    (hmessage : message.toList.getLast? ≠ some '\x00') :
    decode.read (encode ⟨code, state, message⟩) = .ok ⟨code, state, message⟩ :=
  read_encode_of_length hcode hstate.length_encode hmessage

/-- Without a state the general one counts. -/
theorem read_withoutState (hcode : code ≤ 0xFFFF) (hmark : message.toList.head? ≠ some '#')
    (hmessage : message.toList.getLast? ≠ some '\x00') :
    decode.read (Marker.err :: (Bytes.ofInt 2 code ++ Encoding.toEnd message)) =
      .ok ⟨code, generalState, message⟩ := by
  obtain ⟨x, y, hxy, hvalue⟩ := ofInt_code code hcode
  have hleads : Marker.leads stateMark (Utf8.encode message) = false := by
    have hne := Utf8.head?_encode_ne (d := '#') (by decide) hmark
    simpa [Marker.leads, stateMark] using hne
  have hread : decode.read (Marker.err :: x :: y :: Utf8.encode message) = .ok _ :=
    read_of_not_leads hleads
  rw [hvalue, lastText_encode hmessage] at hread
  rw [hxy]
  exact hread

end SqlWire.ErrPacket
