import SqlWire.Proofs.Grammar
import SqlWire.Proofs.Login
/-!
# Answers end where they say

What ends an exchange is in the octets that it takes: the same octets end it the same way whatever
comes behind them, and fewer of them end it with a broken transport.
-/
namespace SqlWire.Session

open Stateful

variable {α : Type} {x : Exchange α}

/-! ## The law -/

/-- The transport is no part of why the exchange ended. -/
def Ended (r : Except Failure α) : Prop := ∀ f, r = .error f → f.errorClass? ≠ some .transport

/-- From `t` the exchange ends as it does from `s`, having sent the same and taken `k` octets. -/
structure SameCourse (x : Exchange α) (k : Nat) (s t : Session) : Prop where
  outcome_eq : outcome (x t) = outcome (x s)
  sequence_eq : (final (x t)).sequence = (final (x s)).sequence
  sent : ∃ packets, (final (x s)).transport.sent = packets ++ s.transport.sent ∧
    (final (x t)).transport.sent = packets ++ t.transport.sent
  consumed : (final (x t)).transport.consumed = t.transport.consumed + k
  incoming : (final (x t)).transport.incoming = t.transport.incoming.drop k

/-- From `t` the exchange takes all there is and fails for want of more. -/
structure Truncated (x : Exchange α) (t : Session) : Prop where
  failed : ∃ f, outcome (x t) = .error f ∧ f.errorClass? = some .transport
  consumed : (final (x t)).transport.consumed = t.transport.consumed + t.transport.incoming.length
  incoming : (final (x t)).transport.incoming = []

/-- If the exchange ends after `k` octets for another reason than the transport, these octets decide
all that it does, and no smaller part of them ends it. -/
def SelfDelimiting (x : Exchange α) : Prop :=
  ∀ (s t : Session) (k : Nat), s.Reliable → t.Reliable → t.sequence = s.sequence →
    Ended (outcome (x s)) → (final (x s)).transport.consumed = s.transport.consumed + k →
    (t.transport.incoming.take k = s.transport.incoming.take k → SameCourse x k s t) ∧
    ∀ j < k, t.transport.incoming = s.transport.incoming.take j → Truncated x t

theorem Delimited.selfDelimiting (hx : Delimited x) : SelfDelimiting x := by
  intro s t k hs ht hid hended hk
  obtain ⟨taken, packets, hm, h⟩ := hx.takes_of_run hs fun got wanted he => hended _ he rfl
  have hlen : taken.length = k := by
    have := hm.consumed
    omega
  subst hlen
  constructor
  · -- the same octets come first
    intro hagree
    rw [hm.incoming, List.take_left] at hagree
    have hsplit : t.transport.incoming = taken ++ t.transport.incoming.drop taken.length := by
      conv_lhs => rw [← List.take_append_drop taken.length t.transport.incoming, hagree]
    obtain ⟨ho, hm', hid'⟩ := h.ends t _ ⟨ht, hid, hsplit⟩
    exact ⟨ho, hid', ⟨packets.reverse, hm.sent, hm'.sent⟩, hm'.consumed, hm'.incoming_eq hsplit⟩
  · -- only a smaller part of them comes
    intro j hj hcut
    rw [hm.incoming, List.take_append_of_le_length (Nat.le_of_lt hj)] at hcut
    have hne : taken.take j ≠ taken := by
      intro he
      have := congrArg List.length he
      rw [List.length_take_of_le (Nat.le_of_lt hj)] at this
      omega
    obtain ⟨got, wanted, _, ho, hm'⟩ :=
      h.starves _ (List.take_prefix j taken) hne t ⟨ht, hid, hcut⟩
    exact ⟨⟨_, ho, rfl⟩, hcut ▸ hm'.consumed, hm'.incoming_eq (by rw [hcut, List.append_nil])⟩

/-! ## Every exchange -/

theorem delimited_receiveRowsOnto (n : Nat) (hanswer : Delimited receiveAnswer)
    (done : List (List Value)) : Delimited (receiveRowsOnto n done) := by
  intro id b
  -- by the number of octets to come, which every payload lowers
  induction hlen : b.length using Nat.strongRecOn generalizing id b done with
  | _ m ih =>
    rw [receiveRowsOnto_eq]
    refine (hanswer id b).bind fun payload taken rest ps id1 hb ht => ?_
    split
    · exact ((delimited_parse _ _).bind fun _ => delimited_pure _) id1 rest
    · refine (delimited_parse _ _ id1 rest).bind fun row taken' rest' ps' id2 hrest _ => ?_
      have hlt : rest'.length < m := by
        obtain ⟨ho, hm, -⟩ := ht.ends (probe id b) rest (hb ▸ probe_at id b)
        have h := length_of_receiveAnswer (eq_ok_iff.2 ⟨ho, rfl⟩)
        rw [hm.incoming_eq hb] at h
        have hr : rest'.length ≤ rest.length := by simp [hrest]
        exact Nat.lt_of_le_of_lt hr (hlen ▸ h)
      exact ih _ hlt (row :: done) id2 rest' rfl

theorem closed_delimited : Closed (fun _ => True) Delimited where
  pure := delimited_pure
  throw _ _ := delimited_throw _
  bind := Delimited.bind
  note _ := delimited_note _ _
  takeId := delimited_of_silent fun _ => ⟨_, _, _, takes_takeId⟩
  receiveAny := delimited_receiveAny
  rows := delimited_receiveRowsOnto

theorem delimited_execute (sql : Datum) : Delimited (execute sql) :=
  closed_delimited.execute trivial trivial (delimited_of_silent fun _ => ⟨_, _, _, takes_reset⟩)
    (delimited_send _)

theorem delimited_sendLogin (c : Credentials) (nonce : Bytes) : Delimited (sendLogin c nonce) := by
  rcases sendLogin_cases c nonce with ⟨login, h⟩ | ⟨e, h⟩
  · rw [h]
    exact delimited_send _
  · rw [h]
    exact delimited_throw _

theorem delimited_authenticate (c : Credentials) : Delimited (authenticate c) :=
  closed_delimited.authenticate trivial trivial c delimited_receiveGreeting fun g =>
    delimited_sendLogin c g.nonce

/-- Answers to statements and logins end where they say, and no part of one passes for one. -/
theorem selfDelimiting_execute_and_authenticate :
    (∀ sql, SelfDelimiting (execute sql)) ∧ ∀ c, SelfDelimiting (authenticate c) :=
  ⟨fun sql => (delimited_execute sql).selfDelimiting,
    fun c => (delimited_authenticate c).selfDelimiting⟩

/-- A report of success in seven octets, cut short. -/
theorem truncated_execute_of_lt_seven : ∀ j < 7,
    Truncated (execute (.text "DO 1")) (probe 3 ((chain 1 [[0, 1, 0]]).take j)) := by
  intro j hj
  have ht : Takes (execute (.text "DO 1")) 3 (chain 1 [[0, 1, 0]]) _ _ _ :=
    takes_execute ⟨rfl, by decide⟩ (.change rfl rfl) (by decide)
  obtain ⟨ho, hm, -⟩ := ht.ends (probe 3 _) [] (probe_at 3 _)
  have hended : Ended (outcome (execute (.text "DO 1") (probe 3 (chain 1 [[0, 1, 0]] ++ [])))) := by
    rw [ho]
    rintro _ ⟨⟩
  exact (selfDelimiting_execute_and_authenticate.1 (.text "DO 1")
    (probe 3 (chain 1 [[0, 1, 0]] ++ [])) (probe 3 ((chain 1 [[0, 1, 0]]).take j)) 7
    ⟨rfl, rfl⟩ ⟨rfl, rfl⟩ rfl hended hm.consumed).2 j hj rfl

end SqlWire.Session
