import SqlWire.Proofs.Scramble
import SqlWire.Proofs.Twins
/-!
# Where the password shows

Two runs that differ in the password look the same from outside (`password_concealed`): nothing tells them
apart if the password is not to be proved, and otherwise only the proof does, twenty octets of one login,
and the dump of that login. Both passwords need octets for that: one that UTF-8 has none for ends the login.
-/
namespace SqlWire

open Stateful

/-! ## Lists that differ in one place -/

/-- The lists are the same, but that one has `a` where the other has `b`, in one place at most. -/
inductive SameBut {α : Type} (a b : α) : List α → List α → Prop where
  | same (l : List α) : SameBut a b l l
  | here (l : List α) : SameBut a b (a :: l) (b :: l)
  | later {l l' : List α} (x : α) : SameBut a b l l' → SameBut a b (x :: l) (x :: l')

namespace SameBut

variable {α : Type} {a b : α} {l l' : List α}

theorem length_eq (h : SameBut a b l l') : l.length = l'.length := by
  induction h with
  | same | here => rfl
  | later x _ ih => exact congrArg Nat.succ ih

theorem cases_append (h : SameBut a b l l') :
    l = l' ∨ ∃ front back, l = front ++ a :: back ∧ l' = front ++ b :: back := by
  induction h with
  | same l => exact .inl rfl
  | here l => exact .inr ⟨[], l, rfl, rfl⟩
  | later x _ ih =>
    rcases ih with rfl | ⟨front, back, rfl, rfl⟩
    · exact .inl rfl
    · exact .inr ⟨x :: front, back, rfl, rfl⟩

/-- Where neither `a` nor `b` is looked at, there is no difference. -/
theorem filter_eq {p : α → Bool} (h : SameBut a b l l') (ha : p a = false) (hb : p b = false) :
    l.filter p = l'.filter p := by
  induction h with
  | same => rfl
  | here l => simp [ha, hb]
  | later x _ ih => simp only [List.filter_cons, ih]

end SameBut

/-- One packet and one record may differ. -/
def Leeway.but (frame frame' : Bytes) (r r' : LogRecord) : Leeway where
  sent := SameBut frame frame'
  noted j j' := j.threshold = j'.threshold ∧ SameBut r r' j.records j'.records
  length_eq := SameBut.length_eq
  cons p := .later p
  note {j j'} level message h := by
    obtain ⟨hthreshold, hrecords⟩ := h
    have hkeeps : j.keeps level = j'.keeps level := by simp only [Journal.keeps, hthreshold]
    unfold Journal.note
    rw [← hkeeps]
    split
    · exact ⟨hthreshold, .later _ hrecords⟩
    · exact ⟨hthreshold, hrecords⟩

/-- Each side notes the record that is its own. -/
theorem Leeway.noted_but (frame frame' : Bytes) (j : Journal) (level : Level) (text text' : String) :
    (Leeway.but frame frame' ⟨level, text⟩ ⟨level, text'⟩).noted (j.note level text)
      (j.note level text') := by
  unfold Journal.note
  split
  · exact ⟨rfl, .here j.records⟩
  · exact ⟨rfl, .same j.records⟩

/-! ## Logins -/

namespace Session

variable {c c' : Credentials} {g : Greeting String} {s s' : Session} {user proof proof' : Bytes}

theorem username_eq (h : c.user = c'.user) : c.username = c'.username := by
  simp only [Credentials.username, h]

/-- Without a difference in what is sent there is none at all. -/
theorem authenticate_congr (huser : c.user = c'.user)
    (hpayload : ∀ nonce, c.payload nonce = c'.payload nonce) : authenticate c = authenticate c' := by
  have hsign (g : Greeting String) : signIn c g = signIn c' g := by
    simp only [signIn, sendLogin_congr (hpayload g.nonce), username_eq huser]
  rw [authenticate_eq, authenticate_eq, funext hsign]

/-- What stands around the proof is the same. -/
theorem exists_loginOf (user : Bytes) (h : proof.length = proof'.length) : ∃ front back,
    loginOf user proof = front ++ proof ++ back ∧ loginOf user proof' = front ++ proof' ++ back := by
  refine ⟨_, _, rfl, ?_⟩
  simp only [loginOf, LoginPacket.encode, h]

/-- Two logins under one id that answer the greeting `g`. They differ in the proof alone, which is as long in
one as in the other. -/
structure TwinLogins (c c' : Credentials) (g : Greeting String) (p p' : Packet) : Prop where
  sequence : p.sequence = p'.sequence
  payload : c.Answers g.nonce p.payload
  payload' : c'.Answers g.nonce p'.payload
  frames : ∃ front proof proof' back, c.Owes g.nonce proof ∧ c'.Owes g.nonce proof' ∧
    proof.length = 20 ∧ proof'.length = 20 ∧
    p.frame = front ++ proof ++ back ∧ p'.frame = front ++ proof' ++ back

theorem TwinLogins.length_frame {p p' : Packet} (h : TwinLogins c c' g p p') :
    p.frame.length = p'.frame.length := by
  obtain ⟨front, proof, proof', back, -, -, hlength, hlength', hp, hp'⟩ := h.frames
  simp only [hp, hp', List.length_append, hlength, hlength']

/-- The credentials name the user and owe a proof of twenty octets to every greeting. -/
structure Credentials.Proving (c : Credentials) (user : Bytes) : Prop where
  named : (c.user.getD (.plain "")).octets = .ok user
  owes : ∀ g : Greeting String, ∃ proof, c.Owes g.nonce proof ∧ proof.length = 20

theorem twinLogins (hnamed : (c.user.getD (.plain "")).octets = .ok user)
    (hnamed' : (c'.user.getD (.plain "")).octets = .ok user) (howes : c.Owes g.nonce proof)
    (howes' : c'.Owes g.nonce proof') (h : proof.length = 20) (h' : proof'.length = 20) (id : Int) :
    TwinLogins c c' g ⟨id, loginOf user proof⟩ ⟨id, loginOf user proof'⟩ := by
  obtain ⟨front, back, hp, hp'⟩ := exists_loginOf user (h.trans h'.symm)
  refine ⟨rfl, .intro hnamed howes, .intro hnamed' howes',
    Frame.header (front.length + 20 + back.length) id ++ front, proof, proof', back, howes, howes', h, h',
    ?_, ?_⟩
  · simp [Packet.frame, hp, h, Nat.add_assoc]
  · simp [Packet.frame, hp', h', Nat.add_assoc]

/-- The leeway that the two logins need, and their dumps. -/
inductive LoginLeeway (c c' : Credentials) : Leeway → Prop where
  | mk {g : Greeting String} {p p' : Packet} {text text' : String} : TwinLogins c c' g p p' →
      HexDump.dump p.frame = .ok text → HexDump.dump p'.frame = .ok text' →
      LoginLeeway c c' (.but p.frame p'.frame ⟨Level.debug, text⟩ ⟨Level.debug, text'⟩)

theorem agree_awaitVerdict {L : Leeway} (user : Datum) (g : Greeting String) :
    Respects (Agree L) (awaitVerdict user g) :=
  closed_agree.awaitVerdict trivial trivial user g

theorem Agree.but {frame frame' : Bytes} {r r' : LogRecord} (h : s.Agree .none s') :
    s.Agree (.but frame frame' r r') s' :=
  h.of_none .same fun j => ⟨rfl, .same j.records⟩

/-- Twin logins are sent alike, within the leeway that they need. -/
theorem TwinLogins.send {p p' : Packet} {text text' : String} (htwins : TwinLogins c c' g p p')
    (hid : p.sequence = s.sequence) (htext : HexDump.dump p.frame = .ok text)
    (htext' : HexDump.dump p'.frame = .ok text') (h : s.Agree .none s') :
    outcome (sendLogin c g.nonce s) = outcome (sendLogin c' g.nonce s') ∧
      (final (sendLogin c g.nonce s)).Agree (.but p.frame p'.frame ⟨Level.debug, text⟩ ⟨Level.debug, text'⟩)
        (final (sendLogin c' g.nonce s')) := by
  have hid' := htwins.sequence
  have hlength := htwins.length_frame
  have hj : s.journal = s'.journal := h.journal
  have hsent : s.transport.sent = s'.transport.sent := h.transport.sent
  rw [sendLogin_of_payload (Credentials.answers_iff.1 htwins.payload),
    sendLogin_of_payload (Credentials.answers_iff.1 htwins.payload')]
  obtain ⟨id, payload⟩ := p
  obtain ⟨id', payload'⟩ := p'
  cases hid
  cases hid'
  refine h.but.send rfl rfl ?_ ?_ ?_
  · simp only [Packet.length_frame] at hlength
    exact (Nat.add_left_cancel hlength).symm
  · intro one other hone hother
    cases htext.symm.trans hone
    cases htext'.symm.trans hother
    rw [← hj]
    exact Leeway.noted_but ..
  · rw [← hsent]
    exact .here _

/-- The logins end alike, and all that is different behind them are the login and its dump. -/
theorem authenticate_related (huser : c.user = c'.user) (hc : c.Proving user) (hc' : c'.Proving user)
    (h : s.Agree .none s') :
    ∃ L, LoginLeeway c c' L ∧ s.Agree L s' ∧ outcome (authenticate c s) = outcome (authenticate c' s') ∧
      (final (authenticate c s)).Agree L (final (authenticate c' s')) := by
  have hwelcome : Respects (Agree .none) welcome :=
    closed_agree.welcome trivial trivial agree_receiveGreeting
  have hexists (g : Greeting String) (id : Int) : ∃ p p' text text', p.sequence = id ∧
      TwinLogins c c' g p p' ∧ HexDump.dump p.frame = .ok text ∧ HexDump.dump p'.frame = .ok text' := by
    obtain ⟨proof, howes, hproof⟩ := hc.owes g
    obtain ⟨proof', howes', hproof'⟩ := hc'.owes g
    obtain ⟨text, htext⟩ := Packet.exists_dump ⟨id, loginOf user proof⟩
    obtain ⟨text', htext'⟩ := Packet.exists_dump ⟨id, loginOf user proof'⟩
    exact ⟨_, _, text, text', rfl, twinLogins hc.named hc'.named howes howes' hproof hproof' id, htext,
      htext'⟩
  rw [authenticate_eq, authenticate_eq]
  rcases hwelcome.cases h with ⟨g, s1, s1', hs, hs', h1⟩ | ⟨e, s1, s1', hs, hs', h1⟩
  · obtain ⟨p, p', text, text', hid, htwins, htext, htext'⟩ := hexists g s1.sequence
    refine ⟨_, .mk htwins htext htext', h.but, ?_⟩
    rw [bind_of_run hs, bind_of_run hs']
    simp only [signIn, ← username_eq huser]
    exact bind_related (htwins.send hid htext htext' h1) fun _ _ => agree_awaitVerdict _ g _
  · -- no login is sent, so any two will do
    obtain ⟨p, p', text, text', -, htwins, htext, htext'⟩ := hexists .initial 0
    refine ⟨_, .mk htwins htext htext', h.but, ?_⟩
    rw [bind_of_error (congrArg outcome hs), bind_of_error (congrArg outcome hs'), hs, hs']
    exact ⟨rfl, h1.but⟩

end Session

/-! ## From outside -/

/-- The octets are the same, but that the frame of `p` stands in one where that of `p'` stands in the other,
in one place at most. -/
def SentBut (p p' : Packet) (b b' : Bytes) : Prop :=
  b = b' ∨ ∃ earlier later, b = earlier ++ p.frame ++ later ∧ b' = earlier ++ p'.frame ++ later

/-- The records are the same, but that the dump of `p` stands in one where that of `p'` stands in the other,
in one place at most. -/
def NotedBut (p p' : Packet) (rs rs' : List LogRecord) : Prop :=
  ∃ text text', HexDump.dump p.frame = .ok text ∧ HexDump.dump p'.frame = .ok text' ∧
    SameBut ⟨Level.debug, text⟩ ⟨Level.debug, text'⟩ rs rs'

theorem Transport.sentBut {p p' : Packet} {t t' : Transport} (h : SameBut p.frame p'.frame t.sent t'.sent) :
    SentBut p p' t.sentOctets t'.sentOctets := by
  unfold sentOctets
  rcases h.cases_append with hs | ⟨front, back, hs, hs'⟩
  · exact .inl (by rw [hs])
  · refine .inr ⟨back.reverse.flatten, front.reverse.flatten, ?_, ?_⟩
    · simp [hs]
    · simp [hs']

/-- From outside the two runs look the same: every call ends alike, and what was sent and noted is related. -/
structure LookAlike (sent : Bytes → Bytes → Prop) (noted : List LogRecord → List LogRecord → Prop)
    (c c' : Connection) : Prop where
  replies : ∀ calls, (Connection.converse calls c).1 = (Connection.converse calls c').1
  isClosed : ∀ calls,
    (Connection.converse calls c).2.isClosed = (Connection.converse calls c').2.isClosed
  sent : ∀ calls, sent (Connection.converse calls c).2.session.transport.sentOctets
    (Connection.converse calls c').2.session.transport.sentOctets
  noted : ∀ calls, noted (Connection.converse calls c).2.session.journal.records
    (Connection.converse calls c').2.session.journal.records

namespace Connection

theorem Twin.lookAlike {L : Leeway} {c c' : Connection} {sent : Bytes → Bytes → Prop}
    {noted : List LogRecord → List LogRecord → Prop} (h : Twin L c c')
    (hsent : ∀ t t' : Transport, L.sent t.sent t'.sent → sent t.sentOctets t'.sentOctets)
    (hnoted : ∀ j j', L.noted j j' → noted j.records j'.records) : LookAlike sent noted c c' where
  replies calls := (twin_converse calls h).1
  isClosed calls := (twin_converse calls h).2.isClosed
  sent calls := hsent _ _ (twin_converse calls h).2.session.transport.sent
  noted calls := hnoted _ _ (twin_converse calls h).2.session.journal

section Opening

variable {start : Action (Greeting String)} (hstart : Starts start) (settings : Settings)
  (password : Option Datum) (transport : Transport) (journal : Journal)
include hstart

/-- Settings with which the same is done to log in. -/
theorem lookAlike_of_same_login (hauth : Session.authenticate (credentials settings) =
      Session.authenticate (credentials { settings with password })) :
    outcome (start (idle settings transport journal)) =
        outcome (start (idle { settings with password } transport journal)) ∧
      LookAlike Eq Eq (final (start (idle settings transport journal)))
        (final (start (idle { settings with password } transport journal))) := by
  have hsame : (Session.start transport journal).Agree .none (Session.start transport journal) :=
    ⟨rfl, ⟨rfl, rfl, rfl, rfl, rfl, rfl⟩, rfl⟩
  have hlogins : ∀ s s' : Session, s.Agree .none s' → ∃ L, L = .none ∧ s.Agree L s' ∧
      outcome (Session.authenticate (credentials settings) s) =
        outcome (Session.authenticate (credentials { settings with password }) s') ∧
      (final (Session.authenticate (credentials settings) s)).Agree L
        (final (Session.authenticate (credentials { settings with password }) s')) := by
    intro s s' h
    rw [← hauth]
    exact ⟨.none, rfl, h, Session.agree_authenticate _ s s' h⟩
  obtain ⟨L, rfl, ho, htwin⟩ := start_related hstart password (P := (· = .none)) hsame hlogins
  refine ⟨ho, htwin.lookAlike (fun t t' h => ?_) fun j j' h => congrArg Journal.records h⟩
  exact congrArg (fun sent : List Bytes => sent.reverse.flatten) h

/-- Settings with which the password is proved to log in. -/
theorem lookAlike_of_proving {user : Bytes} (hc : (credentials settings).Proving user)
    (hc' : (credentials { settings with password }).Proving user) :
    outcome (start (idle settings transport journal)) =
        outcome (start (idle { settings with password } transport journal)) ∧
      ∃ g p p', Session.TwinLogins (credentials settings) (credentials { settings with password }) g p p' ∧
        LookAlike (fun b b' => SentBut p p' b b' ∧ b.length = b'.length)
          (fun rs rs' => NotedBut p p' rs rs' ∧
            rs.filter (Level.info ≤ ·.level) = rs'.filter (Level.info ≤ ·.level))
          (final (start (idle settings transport journal)))
          (final (start (idle { settings with password } transport journal))) := by
  have hsame : (Session.start transport journal).Agree .none (Session.start transport journal) :=
    ⟨rfl, ⟨rfl, rfl, rfl, rfl, rfl, rfl⟩, rfl⟩
  obtain ⟨L, hL, ho, htwin⟩ := start_related hstart password
    (P := Session.LoginLeeway (credentials settings) (credentials { settings with password })) hsame
    fun s s' h => Session.authenticate_related rfl hc hc' h
  obtain ⟨htwins, htext, htext'⟩ := hL
  refine ⟨ho, _, _, _, htwins, htwin.lookAlike (fun t t' h => ?_) fun j j' h => ?_⟩
  · have hsent := Transport.sentBut h
    refine ⟨hsent, ?_⟩
    rcases hsent with hb | ⟨earlier, later, hb, hb'⟩
    · rw [hb]
    · simp only [hb, hb', List.length_append, htwins.length_frame]
  · exact ⟨⟨_, _, htext, htext', h.2⟩, h.2.filter_eq rfl rfl⟩

/-- Whatever the peer does, the password shows in nothing but the proof: without a proof two runs that differ
in the password look the same, and with one they send octets that differ in the twenty of the proof at most,
and note records that differ in the dump of the login at most. Both passwords must have octets to prove; a
user whose name has none sends no login with either. -/
theorem password_concealed :
    let other : Settings := { settings with password }
    other.shown = settings.shown ∧
    (settings.scramble = false →
      outcome (start (idle settings transport journal)) = outcome (start (idle other transport journal)) ∧
      LookAlike Eq Eq (final (start (idle settings transport journal)))
        (final (start (idle other transport journal)))) ∧
    ∀ (one another : Datum) (octets octets' : Bytes), settings.scramble = true →
      settings.password = some one → password = some another →
      one.octets = .ok octets → another.octets = .ok octets' → octets ≠ [] → octets' ≠ [] →
      outcome (start (idle settings transport journal)) = outcome (start (idle other transport journal)) ∧
      ((∃ e, (settings.user.getD (.plain "")).octets = .error e) ∧
          LookAlike Eq Eq (final (start (idle settings transport journal)))
            (final (start (idle other transport journal))) ∨
        ∃ g p p', Session.TwinLogins (credentials settings) (credentials other) g p p' ∧
          LookAlike (fun b b' => SentBut p p' b b' ∧ b.length = b'.length)
            (fun rs rs' => NotedBut p p' rs rs' ∧
              rs.filter (Level.info ≤ ·.level) = rs'.filter (Level.info ≤ ·.level))
            (final (start (idle settings transport journal)))
            (final (start (idle other transport journal)))) := by
  intro other
  have huser : (credentials settings).user = (credentials other).user := rfl
  refine ⟨rfl, fun hscramble => ?_, ?_⟩
  · refine lookAlike_of_same_login hstart settings password transport journal
      (Session.authenticate_congr huser fun nonce => ?_)
    rw [Session.Credentials.payload_of_owes (.nothing (.inl hscramble)),
      Session.Credentials.payload_of_owes (.nothing (.inl hscramble)), huser]
  · intro one another octets octets' hscramble hone hanother ho ho' hne hne'
    have howes (nonce : Bytes) : (credentials settings).Owes nonce _ := .scrambled hscramble hone ho
    have howes' (nonce : Bytes) : (credentials other).Owes nonce _ := .scrambled hscramble hanother ho'
    cases hnamed : (settings.user.getD (.plain "")).octets with
    | error e =>
      -- behind either proof the name fails
      have hauth := Session.authenticate_congr huser fun nonce =>
        (Session.Credentials.payload_of_unnamed (howes nonce) hnamed).trans
          (Session.Credentials.payload_of_unnamed (howes' nonce) hnamed).symm
      obtain ⟨houtcome, h⟩ := lookAlike_of_same_login hstart settings password transport journal hauth
      exact ⟨houtcome, .inl ⟨⟨e, rfl⟩, h⟩⟩
    | ok user =>
      have hproving : (credentials settings).Proving user :=
        ⟨hnamed, fun g => ⟨_, howes g.nonce, Password.length_scramble hne (Session.length_nonce_le g)⟩⟩
      have hproving' : (credentials other).Proving user :=
        ⟨hnamed, fun g => ⟨_, howes' g.nonce, Password.length_scramble hne' (Session.length_nonce_le g)⟩⟩
      obtain ⟨houtcome, h⟩ :=
        lookAlike_of_proving hstart settings password transport journal hproving hproving'
      exact ⟨houtcome, .inr h⟩

end Opening

/-- Two passwords of one letter, and a server that lets the client in. -/
theorem password_concealed_of_one_letter :
    let settings : Settings := { Settings.initial with password := some (.text "a"), scramble := true }
    let other : Settings := { settings with password := some (.text "b") }
    let transport := Transport.ofPeer ((Packet.mk 0 Greeting.initial.encode).frame ++
      (Packet.mk 2 [0, 0, 0]).frame ++ (Packet.mk 1 [0, 1, 0]).frame)
    let c := final (login (idle settings transport (.fresh Level.debug)))
    let c' := final (login (idle other transport (.fresh Level.debug)))
    outcome (login (idle settings transport (.fresh Level.debug))) =
        outcome (login (idle other transport (.fresh Level.debug))) ∧
      (converse [.query (.text "DO 1")] c).1 = (converse [.query (.text "DO 1")] c').1 ∧
      ∃ p p', SentBut p p' (converse [.query (.text "DO 1")] c).2.session.transport.sentOctets
        (converse [.query (.text "DO 1")] c').2.session.transport.sentOctets ∧
        p.frame.length = p'.frame.length := by
  intro settings other transport c c'
  obtain ⟨-, -, h⟩ := password_concealed .socket settings (some (.text "b")) transport (.fresh Level.debug)
  obtain ⟨ho, ⟨⟨_, ⟨⟩⟩, -⟩ | ⟨g, p, p', htwins, hlook⟩⟩ :=
    h (.text "a") (.text "b") _ _ rfl rfl rfl rfl rfl (by decide) (by decide)
  exact ⟨ho, hlook.replies _, p, p', (hlook.sent _).1, htwins.length_frame⟩

/-- A password that is a lone surrogate shows: it ends a login that another password gets through. -/
theorem password_shown_of_lone_surrogate :
    let settings : Settings := { Settings.initial with password := some (.text "a"), scramble := true }
    let other : Settings := { settings with password := some (.text (.loose ⟨"", 0, []⟩)) }
    let transport := Transport.ofPeer ((Packet.mk 0 Greeting.initial.encode).frame ++
      (Packet.mk 2 [0, 0, 0]).frame)
    (∃ g, outcome (login (idle settings transport (.fresh 0))) = .ok g) ∧
      outcome (login (idle other transport (.fresh 0))) =
        .error (.unsendable (.loneSurrogate ⟨"", 0, []⟩)) ∧
      (final (login (idle settings transport (.fresh 0)))).session.transport.sent ≠ [] ∧
      (final (login (idle other transport (.fresh 0)))).session.transport.sent = [] := by
  intro settings other transport
  obtain ⟨g, hg⟩ : ∃ g, Greeting.decode.read (Packet.mk 0 Greeting.initial.encode).payload = .ok g :=
    ⟨_, rfl⟩
  have hp : (Packet.mk 0 Greeting.initial.encode).Fits := ⟨by decide, by decide, by decide⟩
  have hq : (Packet.mk 2 [0, 0, 0]).Fits := ⟨by decide, by decide, by decide⟩
  have hgreeted : Session.Greeted (Session.start transport (.fresh 0)) ⟨0, Greeting.initial.encode⟩ g
      (Packet.mk 2 [0, 0, 0]).frame := ⟨hp, List.take_length, rfl, hg⟩
  have hfits : Session.LoginFits (credentials settings) g.nonce _ :=
    ⟨.intro rfl (.scrambled rfl rfl rfl), Nat.le_of_ble_eq_true rfl⟩
  have ha : Session.Answered (credentials settings) (Session.start transport (.fresh 0))
      ⟨0, Greeting.initial.encode⟩ g _ ⟨2, [0, 0, 0]⟩ [] :=
    ⟨⟨hp, by rw [List.append_nil]; exact List.take_length, rfl, hg⟩, hfits, by rintro _ _ ⟨⟩, hq⟩
  have hcourse := Session.course_authenticate_of_answered ha
  have hother := Session.course_authenticate_of_unencodable (c := credentials other) hgreeted rfl
  refine ⟨⟨g, (outcome_login _).trans hcourse.outcome_eq⟩, (outcome_login _).trans hother.outcome_eq, ?_, ?_⟩
  · rw [transport_of_login]
    exact hcourse.moves.sent ▸ List.cons_ne_nil _ _
  · rw [transport_of_login]
    exact hother.moves.sent

end Connection

end SqlWire
