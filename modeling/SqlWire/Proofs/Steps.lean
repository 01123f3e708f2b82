import SqlWire.Answer
import SqlWire.Authentication
import SqlWire.Proofs.Contained
/-!
# What holds step by step

A property that every single step of a session has, and that steps in a row keep, holds of the whole
exchanges: `Closed.execute` and `Closed.authenticate`. Which failures may be thrown is told by their
classes. Properties of single runs have what is asked for rows, too (`Closed.of_runs`).
-/
namespace SqlWire.LogRecord

/-! ## Dumps and notes -/

/-- The record dumps a packet: so it says by its first word. -/
def isDump (r : LogRecord) : Bool :=
  r.level = Level.debug && "Length: ".toList.isPrefixOf r.message.toList

theorem isDump_of_head {level : Level} {message : String} {c : Char}
    (h : message.toList.head? = some c) (hc : c ≠ 'L') : isDump ⟨level, message⟩ = false := by
  obtain ⟨cs, hcs⟩ := List.head?_eq_some_iff.1 h
  simp [isDump, hcs, List.isPrefixOf, hc.symm]

/-! The notes at the level of dumps begin with other letters. -/

section Notes

variable {level : Level}

theorem isDump_query (sql : Datum) : isDump ⟨level, s!"query: {sql.shown}"⟩ = false :=
  isDump_of_head (c := 'q') (by simp [ToString.toString]) (by decide)

theorem isDump_ok (n : Int) : isDump ⟨level, s!"OK: {n} affected rows"⟩ = false :=
  isDump_of_head (c := 'O') (by simp [ToString.toString]) (by decide)

theorem isDump_greeting (g : Greeting String) (flags : String) : isDump ⟨level,
    s!"Server greeting: version {g.serverVersion}, connection id {g.connectionId}, capabilities 0x{flags}, plugin {g.authPluginName}"⟩ =
      false :=
  isDump_of_head (c := 'S') (by simp [ToString.toString]) (by decide)

/-- This note begins with a digit. -/
theorem isDump_columns (n rows : Nat) (warnings : Int) :
    isDump ⟨level, s!"{n} columns, {rows} rows, {warnings} warnings"⟩ = false := by
  obtain ⟨c, cs, hcs⟩ := List.exists_cons_of_ne_nil (Nat.toDigits_ne_nil (n := n) (b := 10))
  have hdigit : c.isDigit = true :=
    Nat.isDigit_of_mem_toDigits (by decide) (by decide) (hcs ▸ List.mem_cons_self)
  refine isDump_of_head (c := c) (by simp [hcs]) ?_
  rintro rfl
  exact absurd hdigit (by decide)

end Notes

end SqlWire.LogRecord

namespace SqlWire.Session

open Stateful LogRecord

/-- Receiving rows is receiving a payload, and rows behind it if it is one. -/
theorem receiveRowsOnto_eq (n : Nat) (done : List (List Value)) :
    receiveRowsOnto n done = (do
      let payload ← receiveAnswer
      if Marker.isEof payload then
        let eof ← parse EofPacket.decode payload
        return (done.reverse, eof)
      else
        let row ← parse (Row.decode n) payload
        receiveRowsOnto n (row :: done)) := by
  funext s
  rw [receiveRowsOnto]
  show _ = EStateM.bind _ _ _
  unfold EStateM.bind
  cases receiveAnswer s with
  | error e s' => rfl
  | ok payload s' =>
    dsimp only
    split
    · rfl
    · unfold parse
      cases (Row.decode n).read payload <;> rfl

theorem final_parse {α : Type} (d : Decoder α) (payload : Bytes) (s : Session) :
    final (parse d payload s) = s := by
  unfold parse
  cases d.read payload <;> rfl

/-- What a payload cannot be read as is the peer's doing. -/
theorem errorClass?_malformed {e : DecodeError} (he : e ≠ .noOctet) :
    (Failure.malformed e).errorClass? = some .protocol := by
  cases e with
  | noOctet => exact absurd rfl he
  | tooShort | badPrefix => rfl

/-! ## The closure -/

/-- The steps that read, throwing a failure of a class in `C`, and steps in a row have the property. What
they note is no dump. Receiving rows has no bound, so it is asked for on its own. -/
structure Closed (C : ErrorClass → Prop) (P : ∀ {α : Type}, Exchange α → Prop) : Prop where
  pure : ∀ {α : Type} (a : α), P (pure a)
  throw : ∀ {α : Type} {e : Failure} {c : ErrorClass}, e.errorClass? = some c → C c →
    P (throw e : Exchange α)
  bind : ∀ {α β : Type} {x : Exchange α} {f : α → Exchange β}, P x → (∀ a, P (f a)) → P (x >>= f)
  note : ∀ {level message}, isDump ⟨level, message⟩ = false → P (note level message)
  takeId : P takeId
  receiveAny : P receiveAny
  rows : ∀ n, P receiveAnswer → ∀ done, P (receiveRowsOnto n done)

/-- What comes before the login. -/
def welcome : Exchange (Greeting String) := do
  let g ← parseGreeting (← receiveGreeting).payload
  noteGreeting g
  return g

/-- What the server's answer to the login of a user comes to. -/
def awaitVerdict (user : Datum) (g : Greeting String) : Exchange (Greeting String) := do
  let answer ← receive
  if Marker.isErr answer.payload then
    let r ← parseReport answer.payload
    note Level.warning s!"Login failed for user {user.shown}: {reportLine r}"
    throw (.loginRefused r)
  note Level.info s!"Login as {user.shown} on {g.serverVersion}, connection id {g.connectionId}"
  return g

/-- The login and the server's answer to it. -/
def signIn (c : Credentials) (g : Greeting String) : Exchange (Greeting String) := do
  let _ ← sendLogin c g.nonce
  awaitVerdict c.username g

theorem authenticate_eq (c : Credentials) : authenticate c = welcome >>= signIn c := by
  simp only [authenticate, welcome, signIn, awaitVerdict, bind_assoc, pure_bind]

namespace Closed

variable {C : ErrorClass → Prop} {P : ∀ {α : Type}, Exchange α → Prop}

/-- What a run of two steps has if their runs have it holds of all runs if every step has it. -/
theorem of_runs (hprotocol : C .protocol) {Q : ∀ {α : Type}, Exchange α → Session → Prop}
    (hpure : ∀ {α : Type} (a : α) s, Q (Pure.pure a) s)
    (hthrow : ∀ {α : Type} {e : Failure} {c : ErrorClass}, e.errorClass? = some c → C c →
      ∀ s, Q (MonadExcept.throw e : Exchange α) s)
    (hbind : ∀ {α β : Type} {x : Exchange α} {f : α → Exchange β} {s : Session}, Q x s →
      (∀ a, outcome (x s) = .ok a → Q (f a) (final (x s))) → Q (x >>= f) s)
    (hnote : ∀ {level message}, isDump ⟨level, message⟩ = false →
      ∀ s, Q (Session.note level message) s) (hid : ∀ s, Q Session.takeId s)
    (hany : ∀ s, Q Session.receiveAny s) : Closed C (fun x => ∀ s, Q x s) where
  pure := hpure
  throw := hthrow
  bind hx hf s := hbind (hx s) fun a _ => hf a _
  note := hnote
  takeId := hid
  receiveAny := hany
  rows n hanswer done s := by
    have hparse {α : Type} {d : Decoder α} (hd : d.Contained) (payload : Bytes) (s : Session) :
        Q (Session.parse d payload) s := by
      unfold Session.parse
      split
      · exact hpure _ s
      · next e he =>
        exact hthrow (errorClass?_malformed fun hn => hd.read_ne payload (hn ▸ he)) hprotocol s
    -- by the number of octets to come, which every payload lowers
    induction hlen : s.transport.incoming.length using Nat.strongRecOn generalizing s done with
    | _ m ih =>
      rw [receiveRowsOnto_eq]
      refine hbind (hanswer s) fun payload hpayload => ?_
      have hlt := length_of_receiveAnswer (eq_ok_iff.2 ⟨hpayload, rfl⟩)
      split
      · exact hbind (hparse EofPacket.contained_decode _ _) fun _ _ => hpure _ _
      · refine hbind (hparse (Row.contained_decodeOnto n []) _ _) fun row _ => ?_
        rw [final_parse]
        exact ih _ (hlen ▸ hlt) _ _ rfl

/-! ## One packet -/

theorem parse (h : Closed C P) (hprotocol : C .protocol) {α : Type} {d : Decoder α}
    (hd : d.Contained) (payload : Bytes) : P (parse d payload) := by
  unfold Session.parse
  split
  · exact h.pure _
  · next e he => exact h.throw (errorClass?_malformed fun hn => hd.read_ne payload (hn ▸ he)) hprotocol

theorem parseReport (h : Closed C P) (hprotocol : C .protocol) (payload : Bytes) :
    P (parseReport payload) :=
  h.bind (h.parse hprotocol ErrPacket.contained_decode _) fun _ => h.pure _

theorem receive (h : Closed C P) (hprotocol : C .protocol) : P receive :=
  h.bind h.receiveAny fun p => h.bind h.takeId fun expected => by
    split
    · exact h.pure p
    · exact h.throw rfl hprotocol

/-! ## Answers -/

section Answers

variable (h : Closed C P) (hprotocol : C .protocol) (hquery : C .query)
include h hprotocol hquery

theorem receiveAnswer : P receiveAnswer :=
  h.bind (h.receive hprotocol) fun p => by
    split
    · exact h.bind (h.parseReport hprotocol _) fun r => h.bind (h.note rfl) fun _ =>
        h.throw rfl hquery
    · exact h.pure _

theorem receiveColumnsOnto (n : Nat) (done : List Column) : P (receiveColumnsOnto done n) := by
  induction n generalizing done with
  | zero => exact h.pure _
  | succ n ih =>
    exact h.bind (h.receiveAnswer hprotocol hquery) fun payload =>
      h.bind (h.parse hprotocol ColumnPacket.contained_decode _) fun p => ih _

theorem receiveColumnsEnd (n : Nat) : P (receiveColumnsEnd n) :=
  h.bind (h.receiveAnswer hprotocol hquery) fun payload => by
    split
    · exact h.pure ()
    · exact h.throw rfl hprotocol

theorem receiveResultSet (n : Nat) : P (receiveResultSet n) :=
  h.bind (h.receiveColumnsOnto hprotocol hquery n []) fun _ =>
    h.bind (h.receiveColumnsEnd hprotocol hquery n) fun _ =>
    h.bind (h.rows n (h.receiveAnswer hprotocol hquery) []) fun _ =>
    h.bind (h.note (isDump_columns n _ _)) fun _ => h.pure _

theorem receiveRest (payload : Bytes) : P (receiveRest payload) := by
  unfold Session.receiveRest
  split
  · exact h.bind (h.parse hprotocol OkPacket.contained_decode _) fun ok =>
      h.bind (h.note (isDump_ok ok.affectedRows)) fun _ => h.pure _
  · refine h.bind (h.parse hprotocol Decoder.contained_lengthInt _) fun n => ?_
    split
    · exact h.throw rfl hprotocol
    · exact h.throw rfl hprotocol
    · exact h.receiveResultSet hprotocol hquery _

theorem answer : P (Session.receiveAnswer >>= Session.receiveRest) :=
  h.bind (h.receiveAnswer hprotocol hquery) (h.receiveRest hprotocol hquery)

theorem execute {sql : Datum} (hreset : P reset) (hsend : P (send (.statement sql))) :
    P (execute sql) :=
  h.bind hreset fun _ => h.bind hsend fun _ => h.bind (h.note (isDump_query sql)) fun _ =>
    h.answer hprotocol hquery

end Answers

/-! ## Logins -/

theorem noteGreeting (h : Closed C P) (g : Greeting String) : P (noteGreeting g) := by
  unfold Session.noteGreeting
  split
  · exact h.note (isDump_greeting g _)
  · exact h.bind (h.note rfl) fun _ => h.note (isDump_greeting g _)

section Logins

variable (h : Closed C P) (hprotocol : C .protocol) (hhandshake : C .handshake)
include h hprotocol hhandshake

theorem parseGreeting (payload : Bytes) : P (parseGreeting payload) := by
  unfold Session.parseGreeting
  split
  · exact h.bind (h.parseReport hprotocol _) fun r => h.bind (h.note rfl) fun _ =>
      h.bind (h.throw rfl hhandshake) fun _ => h.parse hprotocol Greeting.contained_decode _
  · exact h.parse hprotocol Greeting.contained_decode _

theorem welcome (hgreeting : P receiveGreeting) : P welcome :=
  h.bind hgreeting fun _ => h.bind (h.parseGreeting hprotocol hhandshake _) fun g =>
    h.bind (h.noteGreeting g) fun _ => h.pure g

theorem awaitVerdict (user : Datum) (g : Greeting String) : P (awaitVerdict user g) := by
  refine h.bind (h.receive hprotocol) fun answer => ?_
  split
  · exact h.bind (h.parseReport hprotocol _) fun r => h.bind (h.note rfl) fun _ =>
      h.bind (h.throw rfl hhandshake) fun _ => h.bind (h.note rfl) fun _ => h.pure g
  · exact h.bind (h.note rfl) fun _ => h.pure g

theorem signIn {c : Credentials} {g : Greeting String} (hsend : P (sendLogin c g.nonce)) :
    P (signIn c g) :=
  h.bind hsend fun _ => h.awaitVerdict hprotocol hhandshake c.username g

theorem authenticate (c : Credentials) (hgreeting : P receiveGreeting)
    (hsend : ∀ g : Greeting String, P (sendLogin c g.nonce)) : P (authenticate c) := by
  rw [authenticate_eq]
  exact h.bind (h.welcome hprotocol hhandshake hgreeting) fun g =>
    h.signIn hprotocol hhandshake (hsend g)

end Logins

end Closed

end SqlWire.Session
