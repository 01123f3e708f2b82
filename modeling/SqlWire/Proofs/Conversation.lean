import SqlWire.Proofs.Calls
import SqlWire.Proofs.Listening
import SqlWire.Proofs.Login
import SqlWire.Proofs.SelfDelimiting
/-!
# Calls on one connection

Every call leaves the stream where the next answer begins, so each statement gets on one connection
the answer that it gets on a stream of its own.
-/
namespace SqlWire

open Stateful

/-! ## Statements on their own -/

namespace Session

variable {sql : Datum} {query answer : Bytes} {r : Except ServerReport (QueryResult String)}

/-- On a new stream with just these octets to come, the statement takes them all and ends as `r`. -/
def AnswersAlone (sql : Datum) (answer : Bytes) (r : Except ServerReport (QueryResult String)) : Prop :=
  ∃ t j, (start t j).At 0 answer ∧
    outcome (execute sql (start t j)) = r.mapError .queryRefused ∧
    (final (execute sql (start t j))).transport.incoming = []

/-- A statement that is too long is not sent. -/
theorem takes_execute_tooLong {id : Int} (ho : sql.octets = .ok query)
    (h : Frame.maxPayload < (statementPayload query).length) :
    Takes (execute sql) id [] (.error (.tooLong (statementPayload query).length)) [] 0 :=
  takes_reset.bind (takes_send_tooLong (Message.payload_statement ho) h).bind_error

/-- A statement that there are no octets for is not sent. -/
theorem takes_execute_unencodable {id : Int} {e : EncodeError} (ho : sql.octets = .error e) :
    Takes (execute sql) id [] (.error (.unsendable e)) [] 0 :=
  takes_reset.bind (takes_send_unsendable (Message.payload_statement_error ho)).bind_error

theorem AnswersAlone.fits (h : AnswersAlone sql answer r) (hquery : sql.octets = .ok query) :
    StatementFits sql query := by
  obtain ⟨t, j, hat, ho, -⟩ := h
  refine ⟨hquery, Nat.le_of_not_lt fun hlong => ?_⟩
  obtain ⟨ho', -, -⟩ := (takes_execute_tooLong hquery hlong).ends _ answer hat
  rw [ho] at ho'
  cases r <;> cases ho'

theorem answersAlone_of_takes {id' : Int}
    (h : Takes (execute sql) 0 answer (r.mapError .queryRefused) [requestFrame query] id') :
    AnswersAlone sql answer r := by
  have hat : (start (.ofPeer answer) (.fresh 0)).At 0 (answer ++ []) := by
    rw [List.append_nil]
    exact ⟨⟨rfl, rfl⟩, rfl, rfl⟩
  obtain ⟨ho, hm, -⟩ := h.ends _ [] hat
  exact ⟨.ofPeer answer, .fresh 0, ⟨⟨rfl, rfl⟩, rfl, rfl⟩, ho, hm.incoming_eq hat.incoming⟩

/-- What a statement does on its own it does at any id and whatever comes behind. -/
theorem AnswersAlone.takes (h : AnswersAlone sql answer r) (hquery : sql.octets = .ok query) :
    ∃ id', ∀ id, Takes (execute sql) id answer (r.mapError .queryRefused) [requestFrame query] id' := by
  -- a request starts a new count of ids, so what is behind it does not see where it began
  have hrequest (id : Int) : Takes (request sql) id [] (.ok ()) [requestFrame query] 1 :=
    takes_request (h.fits hquery)
  obtain ⟨t, j, hat, ho, hall⟩ := h
  rw [execute_eq, bind_of_ok ((hrequest 0).ends _ answer hat).1] at ho hall
  generalize hs : final (request sql (start t j)) = s at ho hall
  have hat' : s.At 1 answer := hs ▸ (hrequest 0).final_at hat
  have hr : ∀ got wanted,
      outcome ((receiveAnswer >>= receiveRest) s) ≠ .error (.endOfStream got wanted) := by
    intro got wanted he
    rw [ho] at he
    cases r <;> cases he
  obtain ⟨taken, packets, hm, ht⟩ := (closed_delimited.answer trivial trivial).takes_of_run hat'.toReliable hr
  -- nothing was left, so all that was there decided
  have htaken : taken = answer := by
    have := hm.incoming
    rw [hall, List.append_nil] at this
    exact this.symm.trans hat'.incoming
  have hpackets : packets = [] := ht.packets_eq_nil (closed_listens.answer trivial trivial)
  rw [htaken, hpackets, ho, hat'.sequence] at ht
  refine ⟨(final ((receiveAnswer >>= receiveRest) s)).sequence, fun id => ?_⟩
  rw [execute_eq]
  exact (hrequest id).bind ht

end Session

/-! ## Turns -/

/-- A call, and what the server sends for it. -/
inductive Turn where
  | answered (sql : Datum) (query answer : Bytes) (r : Except ServerReport (QueryResult String))
      (octets : sql.octets = .ok query) (alone : Session.AnswersAlone sql answer r)
  | tooLong (sql : Datum) (query : Bytes) (octets : sql.octets = .ok query)
      (long : Frame.maxPayload < (statementPayload query).length)
  | unencodable (sql : Datum) (e : EncodeError) (octets : sql.octets = .error e)
  | update (sql : Option Datum)

namespace Turn

def call : Turn → Call
  | answered sql .. | tooLong sql .. | unencodable sql .. => .query sql
  | update sql => .executeUpdate sql

/-- What the server sends. -/
def answer : Turn → Bytes
  | answered _ _ answer .. => answer
  | tooLong .. | unencodable .. | update _ => []

/-- What the client sends. -/
def packets : Turn → List Bytes
  | answered _ query .. => [Session.requestFrame query]
  | tooLong .. | unencodable .. | update _ => []

/-- What the caller gets. -/
def outcome : Turn → Except Failure Reply
  | answered _ _ _ r .. => (r.map .result).mapError .queryRefused
  | tooLong _ query .. => .error (.tooLong (statementPayload query).length)
  | unencodable _ e _ => .error (.unsendable e)
  | update sql => .error (.updateRefused (Datum.shownOption sql))

end Turn

namespace Connection

variable {c : Connection} {b rest : Bytes}

/-- The connection is open, its transport does not fail, and the octets to come are `b`. -/
structure Ready (c : Connection) (b : Bytes) : Prop where
  isOpen : c.isClosed = false
  reliable : c.session.Reliable
  incoming : c.session.transport.incoming = b

/-- A statement that does not break the stream leaves the connection open behind what it took. -/
theorem query_of_takes {sql : Datum} {r : Except Failure (QueryResult String)} {packets : List Bytes}
    {id' : Int} (h : Session.Takes (Session.execute sql) c.session.sequence b r packets id')
    (hr : ∀ f, r = .error f → f.breaksStream = false) (hc : c.Ready (b ++ rest)) :
    outcome (query sql c) = r ∧ (final (query sql c)).Ready rest ∧
      (final (query sql c)).session.transport.sent = packets.reverse ++ c.session.transport.sent := by
  obtain ⟨ho, hm, -⟩ := h.ends c.session rest ⟨hc.reliable, rfl, hc.incoming⟩
  rw [query_of_open hc.isOpen]
  cases hx : Session.execute sql c.session with
  | ok a s =>
    rw [hx] at ho hm
    exact ⟨ho, ⟨hc.isOpen, hm.reliable hc.reliable, hm.incoming_eq hc.incoming⟩, hm.sent⟩
  | error f s =>
    rw [hx] at ho hm
    have hf : f.breaksStream = false := hr f ho.symm
    -- the failures that close the connection are those that break the stream
    have hsettle : (settle f : Action (QueryResult String)) { c with session := s } =
        .error f { c with session := s } := by
      simp only [settle, hf]
      rfl
    dsimp only
    rw [hsettle]
    exact ⟨ho, ⟨hc.isOpen, hm.reliable hc.reliable, hm.incoming_eq hc.incoming⟩, hm.sent⟩

/-- A turn ends as it should and leaves the connection where the next one begins. -/
theorem call_of_turn (turn : Turn) (hc : c.Ready (turn.answer ++ rest)) :
    outcome (call turn.call c) = turn.outcome ∧ (final (call turn.call c)).Ready rest ∧
      (final (call turn.call c)).session.transport.sent =
        turn.packets.reverse ++ c.session.transport.sent := by
  cases turn with
  | answered sql query answer r octets alone =>
    obtain ⟨id', ht⟩ := alone.takes octets
    have hr : ∀ f, r.mapError Failure.queryRefused = .error f → f.breaksStream = false := by
      cases r <;> rintro _ ⟨⟩
      rfl
    obtain ⟨ho, hready, hsent⟩ := query_of_takes (ht _) hr hc
    obtain ⟨hco, hcf⟩ := call_query sql c
    rw [Turn.call, hco, hcf, ho]
    exact ⟨by cases r <;> rfl, hready, hsent⟩
  | tooLong sql query octets long =>
    obtain ⟨ho, hready, hsent⟩ :=
      query_of_takes (Session.takes_execute_tooLong octets long) (by rintro _ ⟨⟩; rfl) hc
    obtain ⟨hco, hcf⟩ := call_query sql c
    rw [Turn.call, hco, hcf, ho]
    exact ⟨rfl, hready, hsent⟩
  | unencodable sql e octets =>
    obtain ⟨ho, hready, hsent⟩ :=
      query_of_takes (Session.takes_execute_unencodable octets) (by rintro _ ⟨⟩; rfl) hc
    obtain ⟨hco, hcf⟩ := call_query sql c
    rw [Turn.call, hco, hcf, ho]
    exact ⟨rfl, hready, hsent⟩
  | update sql => exact ⟨rfl, hc, rfl⟩

/-- Turn by turn. -/
theorem converse_of_turns (turns : List Turn) (hc : c.Ready (turns.flatMap Turn.answer ++ rest)) :
    (converse (turns.map Turn.call) c).1 = turns.map Turn.outcome ∧
      (converse (turns.map Turn.call) c).2.Ready rest ∧
      (converse (turns.map Turn.call) c).2.session.transport.sent =
        (turns.flatMap Turn.packets).reverse ++ c.session.transport.sent := by
  -- on the turns, each of which leaves the connection ready for the next
  induction turns generalizing c with
  | nil => exact ⟨rfl, hc, rfl⟩
  | cons turn turns ih =>
    rw [List.flatMap_cons, List.append_assoc] at hc
    obtain ⟨ho, hready, hsent⟩ := call_of_turn turn hc
    obtain ⟨hos, hreadys, hsents⟩ := ih hready
    refine ⟨?_, hreadys, ?_⟩
    · rw [List.map_cons, List.map_cons, ← ho, ← hos]
      rfl
    · rw [List.map_cons, List.flatMap_cons, List.reverse_append, List.append_assoc, ← hsent]
      exact hsents

/-! ## After the login -/

theorem login_of_authenticate {c : Connection} {g : Greeting String} {s : Session}
    (h : Session.authenticate (credentials c.settings) c.session = .ok g s) :
    login c = .ok g { c with
      socket := true, file := true, stream := true, session := s, greeting := some g } := by
  rw [login_eq, h]

theorem ready_of_login {c₀ c : Connection} {g : Greeting String} (hr : c₀.session.Reliable)
    (h : login c₀ = .ok g c) : c.Ready c.session.transport.incoming := by
  rw [login_eq] at h
  cases hauth : Session.authenticate (credentials c₀.settings) c₀.session with
  | ok g' s =>
    rw [hauth] at h
    cases h
    obtain ⟨_, _, hm, -⟩ := (Session.delimited_authenticate _).takes_of_run hr
      (by rw [hauth]; rintro _ _ ⟨⟩)
    rw [hauth] at hm
    exact ⟨rfl, hm.reliable hr, rfl⟩
  | error f s =>
    rw [hauth] at h
    obtain ⟨_, _, -, hthrow⟩ := bind_eq_ok.1 h
    cases hthrow

/-- On a connection that logged in, statements get the answers that they get on their own: one after
another, whatever was refused, and with calls between them that send nothing. -/
theorem converse_of_login {c₀ c : Connection} {g : Greeting String} (turns : List Turn)
    (hr : c₀.session.Reliable) (hlogin : login c₀ = .ok g c)
    (hin : c.session.transport.incoming = turns.flatMap Turn.answer ++ rest) :
    (converse (turns.map Turn.call) c).1 = turns.map Turn.outcome ∧
      (converse (turns.map Turn.call) c).2.isClosed = false ∧
      (converse (turns.map Turn.call) c).2.session.transport.incoming = rest ∧
      (converse (turns.map Turn.call) c).2.session.transport.sent =
        (turns.flatMap Turn.packets).reverse ++ c.session.transport.sent := by
  obtain ⟨ho, hready, hsent⟩ := converse_of_turns turns (hin ▸ ready_of_login hr hlogin)
  exact ⟨ho, hready.isOpen, hready.incoming, hsent⟩

/-- A report of success and a refusal, with an update between them. -/
theorem converse_of_login_of_refusal :
    ∃ g c outcomes c', login (idle .initial (.ofPeer ((Packet.mk 0 Greeting.initial.encode).frame ++
        (Packet.mk 2 [0, 0, 0]).frame ++ ((Packet.mk 1 [0, 1, 0]).frame ++
          ((Packet.mk 1 [0xFF, 0x28, 0x04]).frame ++ [7])))) (.fresh 0)) = .ok g c ∧
      converse [.query (.text "DO 1"), .executeUpdate none, .query (.text "DO")] c = (outcomes, c') ∧
      outcomes = [.ok (.result (.ofChange 1 0)), .error (.updateRefused "None"),
        .error (.queryRefused ⟨0x428, "HY000", ""⟩)] ∧
      c'.isClosed = false ∧ c'.session.transport.incoming = [7] := by
  obtain ⟨g, hg⟩ : ∃ g, Greeting.decode.read (Packet.mk 0 Greeting.initial.encode).payload = .ok g :=
    ⟨_, rfl⟩
  have hin : (Session.start (.ofPeer ((Packet.mk 0 Greeting.initial.encode).frame ++
      (Packet.mk 2 [0, 0, 0]).frame ++ ((Packet.mk 1 [0, 1, 0]).frame ++
        ((Packet.mk 1 [0xFF, 0x28, 0x04]).frame ++ [7])))) (.fresh 0)).At 0 _ := ⟨⟨rfl, rfl⟩, rfl, rfl⟩
  have hp : (Packet.mk 0 Greeting.initial.encode).Fits := ⟨by decide, by decide, by decide⟩
  have hq : (Packet.mk 2 [0, 0, 0]).Fits := ⟨by decide, by decide, by decide⟩
  have hfits := Session.loginFits_of_nobody (c := credentials .initial) rfl rfl g.nonce
  have ht : Session.Takes (Session.authenticate (credentials .initial)) 0 _ _ _ _ :=
    Session.takes_authenticate hp rfl hg hfits hq rfl rfl
  obtain ⟨ho, hm, -⟩ := ht.ends _ _ hin
  have hlogin := login_of_authenticate (c := idle .initial _ (.fresh 0)) (eq_ok_iff.2 ⟨ho, rfl⟩)
  have hdone : Session.Takes (Session.execute (.text "DO 1")) 0 (Session.chain 1 [[0, 1, 0]]) _ _ _ :=
    Session.takes_execute ⟨rfl, by decide⟩ (.change rfl rfl) (by decide)
  have herror : Session.Takes (Session.receiveAnswer >>= Session.receiveRest) 1
      (Session.chain 1 [[0xFF, 0x28, 0x04]]) _ [] _ :=
    Session.takes_refusal ⟨by decide, by decide⟩ (by decide) rfl rfl
  have hrefused : Session.Takes (Session.execute (.text "DO")) 0
      (Session.chain 1 [[0xFF, 0x28, 0x04]]) (.error (.queryRefused ⟨0x428, "HY000", ""⟩))
      [Session.requestFrame (Utf8.encode "DO")] 2 := by
    rw [Session.execute_eq]
    exact (Session.takes_request ⟨rfl, by decide⟩).bind herror
  have hsuccess : Session.AnswersAlone (.text "DO 1") (Packet.mk 1 [0, 1, 0]).frame
      (.ok (.ofChange 1 0)) := Session.answersAlone_of_takes hdone
  have hrefusal : Session.AnswersAlone (.text "DO") (Packet.mk 1 [0xFF, 0x28, 0x04]).frame
      (.error ⟨0x428, "HY000", ""⟩) := Session.answersAlone_of_takes hrefused
  obtain ⟨houtcomes, hopen, hrest, -⟩ := converse_of_login
    [.answered _ _ _ _ rfl hsuccess, .update none, .answered _ _ _ _ rfl hrefusal] ⟨rfl, rfl⟩ hlogin
    (hm.incoming_eq hin.incoming)
  exact ⟨_, _, _, _, hlogin, rfl, houtcomes, hopen, hrest⟩

end Connection

end SqlWire
