import SeamlessServer.Engine.Soundness

/-!
# Engine.Streams — what an event does to a stream

`Change` lists the ways a handler changes a stream, and `changes_next` says that every event changes
every stream in these ways.  `Attributed` is what follows for the attachments of a stream: every read
has the stream's id, and a connection is disconnected with the attachment of the first call of
`TransmitDisconnect`.
-/

namespace SeamlessServer
namespace Engine

open NetworkEngine (ContextType StreamType errorNone errorSessionIsNotReady)

/-! ## Changes -/

/-- A call of `TransmitDisconnect`. -/
def Stream.request (x : Stream) (attachment : Nat) (requester : Requester) : Stream :=
  { x with
    requests := x.requests ++ [requester]
    link := if x.link = .connected then .disconnecting attachment else x.link }

@[simp] theorem Stream.request_session (x : Stream) (attachment : Nat) (requester : Requester) :
    (x.request attachment requester).session = x.session := rfl

@[simp] theorem Stream.request_posted (x : Stream) (attachment : Nat) (requester : Requester) :
    (x.request attachment requester).posted = x.posted := rfl

@[simp] theorem Stream.request_reading (x : Stream) (attachment : Nat) (requester : Requester) :
    (x.request attachment requester).reading = x.reading := rfl

/-- Nothing is read from the stream, and it has no session. -/
structure Stream.Unused (x : Stream) : Prop where
  session : x.session = none
  posted : x.posted = none
  reading : x.reading = none

/-- What an event may do to a stream. -/
inductive Change (e : EngineEvent) (t : SocketStream) : Stream → Stream → Prop
  | graceful (x : Stream) : Change e t x (x.request gracefulShutdownCode .graceful)
  | abrupt (x : Stream) : Change e t x (x.request 0 .abrupt)
  | reset {x : Stream} {attachment : Nat} : x.posted = some attachment →
      Change e t x ({ x with posted := none }.request attachment .reset)
  | accepted (x : Stream) : e = .accept t → Change e t x { x with
      link := .connected
      session := none
      streamType := some .Acceptor
      posted := some t.id
      requests := []
      issued := none }
  | connected {x : Stream} : x.Unused → Change e t x { x with link := .connected, requests := [] }
  | refused {x : Stream} (attachment : Nat) :
      x.Unused → Change e t x (x.request attachment .unknownConnector)
  | greeted {x : Stream} (connectorId : Nat) : e = .connect t connectorId → x.requests = [] →
      Change e t x { x with
      session := none
      streamType := some .Connector
      connectorId
      posted := some t.id
      issued := none }
  | attached {x : Stream} (id : Nat) : (∃ received answers, e = .packet t received answers) →
      x.session = none → x.reading.isSome = true → Change e t x { x with session := some id }
  | issued (x : Stream) (issued : Option (Nat × SessionKey)) : Change e t x { x with issued }
  | contexts (x : Stream) (contexts : List Context) : Change e t x { x with contexts }
  | began (x : Stream) : Change e t x { x with posted := none, reading := x.posted }
  | dropped (x : Stream) : Change e t x { x with reading := none, contexts := [] }
  | finished (x : Stream) :
      Change e t x { x with posted := x.reading, reading := none, contexts := [] }
  | left (x : Stream) {link : Link} : link.isLive = false →
      (link = .submitting .SessionClosed → e = .disconnect t) → Change e t x { x with link }
  | letGo (x : Stream) : (∃ accepted, e = .submitDisconnect t accepted) →
      Change e t x { x with link := .idle, connectorId := 0, session := none }

section Change

variable {e : EngineEvent} {t : SocketStream}

/-- Only a packet gives a stream a session. -/
theorem Change.session {x x' : Stream} (h : Change e t x x')
    (he : ∀ received answers, e ≠ .packet t received answers) :
    x'.session = x.session ∨ x'.session = none := by
  cases h with
  | attached id hpacket =>
      obtain ⟨received, answers, heq⟩ := hpacket
      exact absurd heq (he received answers)
  | accepted => exact .inr rfl
  | greeted => exact .inr rfl
  | letGo => exact .inr rfl
  | _ => exact .inl rfl

/-- A stream keeps its session until it is connected again or `OnDisconnect` is through. -/
theorem Change.keepsSession {x x' : Stream} {id : Nat} (h : Change e t x x')
    (hsession : x.session = some id) :
    x'.session = some id ∨ e = .accept t ∨ (∃ connectorId, e = .connect t connectorId) ∨
      ∃ accepted, e = .submitDisconnect t accepted := by
  cases h with
  | accepted he => exact .inr (.inl he)
  | greeted connectorId he => exact .inr (.inr (.inl ⟨connectorId, he⟩))
  | attached id' _ hnone =>
      rw [hsession] at hnone
      cases hnone
  | letGo he => exact .inr (.inr (.inr he))
  | _ => exact .inl hsession

/-- Only `OnDisconnect` begins to close a session. -/
theorem Change.closing {x x' : Stream} (h : Change e t x x')
    (hclosing : x'.link = .submitting .SessionClosed) :
    x.link = .submitting .SessionClosed ∨ e = .disconnect t := by
  have hrequest : ∀ (y : Stream) attachment requester,
      (y.request attachment requester).link = .submitting .SessionClosed →
        y.link = .submitting .SessionClosed := by
    intro y attachment requester hlink
    unfold Stream.request at hlink
    dsimp only at hlink
    split at hlink
    · cases hlink
    · exact hlink
  cases h with
  | graceful => exact .inl (hrequest _ _ .graceful hclosing)
  | abrupt => exact .inl (hrequest _ _ .abrupt hclosing)
  | reset => exact .inl (hrequest _ _ .reset hclosing)
  | refused => exact .inl (hrequest _ _ .unknownConnector hclosing)
  | accepted => cases hclosing
  | connected => cases hclosing
  | letGo => cases hclosing
  | left _ he => exact .inr (he hclosing)
  | _ => exact .inl hclosing

/-- The attachment a call of `TransmitDisconnect` starts the operation with. -/
def Sends (t : SocketStream) : Requester → Nat → Prop
  | .graceful, attachment => attachment = gracefulShutdownCode
  | .abrupt, attachment => attachment = 0
  | .reset, attachment => attachment = t.id
  | .unknownConnector, _ => True

/-- What holds of the attachments of a stream. -/
structure Attributed (t : SocketStream) (x : Stream) : Prop where
  posted : ∀ attachment ∈ x.posted, attachment = t.id
  reading : ∀ attachment ∈ x.reading, attachment = t.id
  fresh : x.link = .connected → x.requests = []
  winner : ∀ attachment, x.link = .disconnecting attachment →
    ∃ requester, x.requests.head? = some requester ∧ Sends t requester attachment
  unknown : x.requests.head? = some .unknownConnector → x.Unused

theorem Attributed.request {x : Stream} {attachment : Nat} {requester : Requester}
    (h : Attributed t x) (hsends : Sends t requester attachment)
    (hunknown : requester = .unknownConnector → x.Unused) :
    Attributed t (x.request attachment requester) where
  posted := h.posted
  reading := h.reading
  fresh := by
    intro hlink
    unfold Stream.request at hlink
    dsimp only at hlink
    split at hlink
    · cases hlink
    next hne => exact absurd hlink hne
  winner := by
    intro a hlink
    unfold Stream.request at hlink
    dsimp only at hlink
    split at hlink
    next hconnected =>
      cases hlink
      exact ⟨requester, by simp [Stream.request, h.fresh hconnected], hsends⟩
    next =>
      -- the first call stays the first
      obtain ⟨first, hfirst, hsends'⟩ := h.winner a hlink
      exact ⟨first, by simp [Stream.request, List.head?_append, hfirst], hsends'⟩
  unknown := by
    intro hhead
    have hunused : x.Unused := by
      cases hrequests : x.requests with
      | nil =>
          simp only [Stream.request, hrequests, List.nil_append, List.head?_cons,
            Option.some.injEq] at hhead
          exact hunknown hhead
      | cons first rest =>
          simp only [Stream.request, hrequests, List.cons_append, List.head?_cons] at hhead
          exact h.unknown (by rw [hrequests]; exact hhead)
    exact ⟨hunused.session, hunused.posted, hunused.reading⟩

theorem Change.attributed {x x' : Stream} (h : Change e t x x') (hx : Attributed t x) :
    Attributed t x' := by
  cases h with
  | graceful => exact hx.request rfl fun heq => (by cases heq)
  | abrupt => exact hx.request rfl fun heq => (by cases heq)
  -- the read that was posted ends with an error, and what it asks for is its own
  | reset hposted =>
      have hread : Attributed t { x with posted := none } :=
        ⟨fun _ hmem => (by cases hmem), hx.reading, hx.fresh, hx.winner, fun hhead =>
          ⟨(hx.unknown hhead).session, rfl, (hx.unknown hhead).reading⟩⟩
      exact hread.request (hx.posted _ hposted) fun heq => (by cases heq)
  | accepted =>
      refine ⟨fun a ha => ?_, hx.reading, fun _ => rfl, fun a ha => (by cases ha),
        fun hhead => (by cases hhead)⟩
      exact (Option.some.inj ha).symm
  | connected hunused =>
      exact ⟨hx.posted, hx.reading, fun _ => rfl, fun a ha => (by cases ha),
        fun hhead => (by cases hhead)⟩
  | refused attachment hunused => exact hx.request trivial fun _ => hunused
  | greeted connectorId _ hrequests =>
      refine ⟨fun a ha => (Option.some.inj ha).symm, hx.reading, hx.fresh, hx.winner, fun hhead => ?_⟩
      simp only [hrequests] at hhead
      cases hhead
  -- a stream that a connector was refused on reads nothing, so no session is attached to it
  | attached id _ _ hreading =>
      refine ⟨hx.posted, hx.reading, hx.fresh, hx.winner, fun hhead => ?_⟩
      rw [(hx.unknown hhead).reading] at hreading
      cases hreading
  | issued issued =>
      exact ⟨hx.posted, hx.reading, hx.fresh, hx.winner, fun hhead =>
        ⟨(hx.unknown hhead).session, (hx.unknown hhead).posted, (hx.unknown hhead).reading⟩⟩
  | contexts contexts =>
      exact ⟨hx.posted, hx.reading, hx.fresh, hx.winner, fun hhead =>
        ⟨(hx.unknown hhead).session, (hx.unknown hhead).posted, (hx.unknown hhead).reading⟩⟩
  -- what is read now was posted before
  | began =>
      exact ⟨fun _ hmem => (by cases hmem), hx.posted, hx.fresh, hx.winner, fun hhead =>
        ⟨(hx.unknown hhead).session, rfl, (hx.unknown hhead).posted⟩⟩
  | dropped =>
      exact ⟨hx.posted, fun _ hmem => (by cases hmem), hx.fresh, hx.winner, fun hhead =>
        ⟨(hx.unknown hhead).session, (hx.unknown hhead).posted, rfl⟩⟩
  | finished =>
      exact ⟨hx.reading, fun _ hmem => (by cases hmem), hx.fresh, hx.winner, fun hhead =>
        ⟨(hx.unknown hhead).session, (hx.unknown hhead).reading, rfl⟩⟩
  -- a stream that is left was live, so it is neither fresh nor asked to disconnect first
  | left hlive =>
      refine ⟨hx.posted, hx.reading, fun hlink => ?_, fun a ha => ?_, fun hhead =>
        ⟨(hx.unknown hhead).session, (hx.unknown hhead).posted, (hx.unknown hhead).reading⟩⟩
      · simp only at hlink
        rw [hlink] at hlive
        cases hlive
      · simp only at ha
        rw [ha] at hlive
        cases hlive
  | letGo =>
      exact ⟨hx.posted, hx.reading, fun hlink => (by cases hlink), fun a ha => (by cases ha),
        fun hhead => ⟨rfl, (hx.unknown hhead).posted, (hx.unknown hhead).reading⟩⟩

end Change

namespace EngineState

/-! ## What handlers leave alone -/

theorem closeSession_eq (s : EngineState) (id : Nat) :
    ∃ streams, s.closeSession id = { s with streams } := by
  unfold closeSession
  split
  · exact ⟨s.streams, rfl⟩
  · exact ⟨_, rfl⟩

theorem abortRead_eq (s : EngineState) (t : SocketStream) :
    ∃ streams, s.abortRead t = { s with streams } := by
  unfold abortRead
  dsimp only
  split
  next id _ =>
    obtain ⟨streams, hclose⟩ := (s.dropContexts t).closeSession_eq id
    exact ⟨streams, hclose⟩
  · exact ⟨_, rfl⟩

theorem reconnect_eq (s : EngineState) (t : SocketStream) :
    ∃ connectorList connecting lost,
      s.reconnect t = { s with connectorList, connecting, lost } := by
  unfold reconnect
  dsimp only
  split
  · split
    · exact ⟨s.connectorList, s.connecting, s.lost, rfl⟩
    · exact ⟨_, _, _, rfl⟩
  · exact ⟨s.connectorList, s.connecting, s.lost, rfl⟩

theorem noteAlived_eq (contexts : List Context) (s : EngineState) :
    ∃ log, s.noteAlived contexts = { s with log } := by
  unfold noteAlived
  generalize contexts.filter (·.contextType = .SessionAlived) = alived
  induction alived generalizing s with
  | nil =>
      exact ⟨s.log, rfl⟩
  | cons context alived ih =>
      obtain ⟨log, hlog⟩ := ih (s.note context.session .alived)
      exact ⟨log, hlog⟩

/-- The outcomes of a `Submit` of `OnRead`. -/
theorem flush_eq (s : EngineState) (t : SocketStream) (accepted : Bool) :
    (accepted = true ∧ ∃ log, s.flush t accepted =
      { s.setStream t { s.stream t with contexts := [] } with
        queue := s.queue ++ [(s.stream t).contexts], log }) ∨
    (accepted = false ∧ s.flush t accepted = s.abortRead t) := by
  cases accepted with
  | true => exact .inl ⟨rfl, noteAlived_eq _ _⟩
  | false => exact .inr ⟨rfl, rfl⟩

theorem submitDisconnect_eq (s : EngineState) (t : SocketStream) (accepted : Bool) :
    ∃ streams queue log, s.submitDisconnect t accepted = { s with streams, queue, log } ∧
      (queue = s.queue ∨ ∃ contextType id, (s.stream t).link = .submitting contextType ∧
        (s.stream t).session = some id ∧ queue = s.queue ++ [[⟨contextType, id, 0⟩]]) := by
  unfold submitDisconnect
  split
  next contextType id hlink hsession =>
    dsimp only
    cases accepted with
    | true =>
        split <;> exact ⟨_, _, _, rfl, .inr ⟨contextType, id, hlink, hsession, rfl⟩⟩
    | false =>
        obtain ⟨streams, hclose⟩ := s.closeSession_eq id
        simp only [sendSocketContext, Bool.false_eq_true, false_and, if_false, hclose]
        exact ⟨_, _, _, rfl, .inl rfl⟩
  next => exact ⟨s.streams, s.queue, s.log, rfl, .inl rfl⟩

theorem submitExpired_eq (s : EngineState) (index : Nat) (accepted : Bool) :
    ∃ streams queue log x, s.submitExpired index accepted =
        { s with streams, queue, log }.setWorker index x ∧
      x.openedSessions = (s.workers index).openedSessions ∧
      (x.tick = .rest ∨ x.tick = (s.workers index).tick) ∧
      (queue = s.queue ∨ ∃ id, (s.workers index).tick = .expired id ∧
        queue = s.queue ++ [[⟨.SessionClosed, id, 0⟩]]) := by
  unfold submitExpired
  split
  next id htick =>
    dsimp only
    cases accepted with
    | true => exact ⟨_, _, _, _, rfl, rfl, .inl rfl, .inr ⟨id, htick, rfl⟩⟩
    | false =>
        obtain ⟨streams, hclose⟩ := s.closeSession_eq id
        simp only [sendSocketContext, Bool.false_eq_true, if_false, hclose]
        exact ⟨_, _, _, _, rfl, rfl, .inl rfl, .inl rfl⟩
  next =>
    refine ⟨s.streams, s.queue, s.log, s.workers index, ?_, rfl, .inr rfl, .inl rfl⟩
    simp [setWorker]

/-! ## Every event -/

/-- Every stream changes as the event may change it. -/
def Changes (e : EngineEvent) (s s' : EngineState) : Prop :=
  ∀ t, Relation.ReflTransGen (Change e t) (s.stream t) (s'.stream t)

section Changes

variable {option : NetworkEngineOption} {e : EngineEvent} {s s' : EngineState} {t : SocketStream}

theorem Changes.of_streams (h : ∀ t, s'.stream t = s.stream t) : Changes e s s' := by
  intro t
  rw [h]

theorem Changes.trans {s'' : EngineState} (h : Changes e s s') (h' : Changes e s' s'') :
    Changes e s s'' :=
  fun t => (h t).trans (h' t)

theorem Changes.setStream {x : Stream} (hx : Change e t (s.stream t) x) :
    Changes e s (s.setStream t x) := by
  intro t'
  rw [stream_setStream]
  split
  next heq =>
    rw [heq]
    exact .single hx
  next => exact .refl

theorem Changes.closeSession (id : Nat) : Changes e s (s.closeSession id) := by
  unfold EngineState.closeSession
  split
  · exact .of_streams fun _ => rfl
  · exact .setStream (.graceful _)

theorem Changes.disconnectSession (id : Nat) : Changes e s (s.disconnectSession id) := by
  unfold EngineState.disconnectSession
  split
  · exact .of_streams fun _ => rfl
  · exact .setStream (.abrupt _)

theorem Changes.sendSocketContext (contextType : ContextType) (id : Nat) (accepted : Bool) :
    Changes e s (s.sendSocketContext contextType id accepted) := by
  unfold EngineState.sendSocketContext
  split
  · exact .of_streams fun _ => rfl
  · exact .closeSession id

theorem Changes.note {milestone : Milestone} {id : Nat} : Changes e s (s.note id milestone) :=
  .of_streams fun _ => rfl

theorem Changes.activate : Changes e s (s.activate option t) :=
  .of_streams fun _ => rfl

theorem Changes.onAccept : Changes (.accept t) s (s.onAccept option t) :=
  Changes.activate.trans (.setStream (.accepted _ rfl))

theorem Changes.onConnect (h : s.Sound option) (hfree : s.IsFree option t) (connectorId : Nat) :
    Changes (.connect t connectorId) s (s.onConnect option t connectorId).1 := by
  have hidle : (s.stream t).link.isLive = false := by
    rw [hfree.1]
    rfl
  have hunused : (s.stream t).Unused :=
    ⟨h.session_of_idle hfree.1, hfree.2.1, (h.streams t).reading_eq_none hidle⟩
  let s₁ := { s with connecting := s.connecting.erase connectorId }.activate option t
  have hactive : Changes (.connect t connectorId) s s₁ := .of_streams fun _ => rfl
  let s₂ := s₁.setStream t { s₁.stream t with link := .connected, requests := [] }
  have hconnected : Changes (.connect t connectorId) s s₂ :=
    hactive.trans (.setStream (.connected hunused))
  have hself : s₂.stream t = { s.stream t with link := .connected, requests := [] } :=
    (stream_setStream s₁ t t _).trans (if_pos rfl)
  unfold EngineState.onConnect
  dsimp only
  split
  · refine hconnected.trans (.setStream (.refused connectorId ?_))
    rw [hself]
    exact ⟨hunused.session, hunused.posted, hunused.reading⟩
  · refine (hconnected.trans (.of_streams fun _ => rfl)).trans (.setStream (.greeted connectorId rfl ?_))
    exact congrArg Stream.requests hself

theorem Changes.abortRead : Changes e s (s.abortRead t) := by
  have hdrop : Changes e s (s.dropContexts t) := .setStream (.dropped _)
  unfold EngineState.abortRead
  dsimp only
  split
  · exact hdrop.trans (.closeSession _)
  · exact hdrop.trans (.setStream (.graceful _))

theorem Changes.zeroRead : Changes e s (s.zeroRead t) := by
  unfold EngineState.zeroRead
  split
  · exact .of_streams fun _ => rfl
  next attachment hposted =>
    intro t'
    rw [stream_transmitDisconnect, stream_setStream, stream_setStream, if_pos rfl]
    split
    next heq =>
      subst heq
      exact .single (.reset hposted)
    next => exact .refl

theorem Changes.flush (accepted : Bool) : Changes e s (s.flush t accepted) := by
  rcases s.flush_eq t accepted with ⟨_, log, heq⟩ | ⟨_, heq⟩
  · have hcleared : Changes e s (s.setStream t { s.stream t with contexts := [] }) :=
      .setStream (.contexts _ [])
    rw [heq]
    exact hcleared.trans (.of_streams fun _ => rfl)
  · rw [heq]
    exact .abortRead

theorem Changes.loseSession (attachment : Nat) :
    Changes (.disconnect t) s (s.loseSession option t attachment) := by
  unfold EngineState.loseSession
  split
  · exact .setStream (.left _ rfl fun heq => (by cases heq))
  · split
    · split
      · exact .setStream (.left _ rfl fun heq => (by cases heq))
      next id _ _ _ y _ =>
        have habandoned : Changes (.disconnect t) s ((s.setSession id y).note id .abandoned) :=
          .of_streams fun _ => rfl
        exact habandoned.trans (.setStream (.left _ rfl fun heq => (by cases heq)))
    next id _ _ =>
      have hclosed : Changes (.disconnect t) s (s.closeOpened option t id) := .of_streams fun _ => rfl
      exact hclosed.trans (.setStream (.left _ rfl fun _ => rfl))

theorem Changes.beginDisconnect : Changes (.disconnect t) s (s.beginDisconnect option t) := by
  unfold EngineState.beginDisconnect
  split
  · have hbefore : Changes (.disconnect t) s ((s.deactivate option t).reconnect t) :=
      .of_streams (stream_reconnect _ t)
    exact hbefore.trans (.loseSession _)
  · exact .of_streams fun _ => rfl

theorem Changes.insertAbandoned : Changes e s (s.insertAbandoned option t) := by
  unfold EngineState.insertAbandoned
  split
  · exact .of_streams fun _ => rfl
  next id _ =>
    dsimp only
    refine Changes.trans (.of_streams ?_) (.setStream (.left _ rfl fun heq => (by cases heq)))
    exact fun _ => rfl

theorem Changes.submitDisconnect (accepted : Bool) :
    Changes (.submitDisconnect t accepted) s (s.submitDisconnect t accepted) := by
  unfold EngineState.submitDisconnect
  split
  next contextType id _ _ =>
    have hsent : Changes (.submitDisconnect t accepted) s
        (s.sendSocketContext contextType id accepted) :=
      .sendSocketContext contextType id accepted
    dsimp only
    split
    · exact (hsent.trans .note).trans (.setStream (.letGo _ ⟨accepted, rfl⟩))
    · exact hsent.trans (.setStream (.letGo _ ⟨accepted, rfl⟩))
  next => exact .of_streams fun _ => rfl

theorem Changes.removeExpired (index : Nat) : Changes e s (s.removeExpired index) := by
  unfold EngineState.removeExpired
  split
  next id _ =>
    cases hremove : s.removeIf id (·.changeSessionState .Wait .Closed) with
    | mk s₁ success =>
        refine .of_streams fun t => ?_
        cases success with
        | true =>
            obtain ⟨_, _, rfl⟩ := removeIf_of_success hremove
            rfl
        | false =>
            rcases removeIf_of_failure hremove with ⟨_, _, rfl⟩ | ⟨_, rfl⟩
            · rfl
            · rfl
  next => exact .of_streams fun _ => rfl

theorem Changes.submitExpired (index : Nat) (accepted : Bool) :
    Changes e s (s.submitExpired index accepted) := by
  unfold EngineState.submitExpired
  split
  next id _ =>
    have hsent : Changes e s (s.sendSocketContext .SessionClosed id accepted) :=
      .sendSocketContext .SessionClosed id accepted
    refine hsent.trans (.of_streams fun t => ?_)
    dsimp only
    split <;> rfl
  next => exact .of_streams fun _ => rfl

theorem Changes.dispatch : Changes e s s.dispatch := by
  unfold EngineState.dispatch
  split
  next => exact .of_streams fun _ => rfl
  next context hup =>
    obtain ⟨queue, chain, heq, _⟩ := takeContext_eq hup
    rw [heq]
    dsimp only
    split
    · exact .of_streams fun _ => rfl
    · exact .of_streams fun _ => rfl

theorem Changes.release : Changes e s s.release := by
  unfold EngineState.release
  split
  next => exact .of_streams fun _ => rfl
  next =>
    dsimp only
    split
    · exact .of_streams fun _ => rfl
    · exact .of_streams fun _ => rfl

theorem Changes.attach {received : Received} {answers : Answers} {id : Nat}
    (hnone : (s.stream t).session = none) (hreading : (s.stream t).reading.isSome = true)
    (hstream : ∀ t', s'.stream t' =
      if t' = t then { s.stream t with session := some id } else s.stream t') :
    Changes (.packet t received answers) s s' := by
  intro t'
  rw [hstream]
  split
  next heq =>
    subst heq
    exact .single (.attached id ⟨received, answers, rfl⟩ hnone hreading)
  next => exact .refl

theorem Changes.processSessionPacket (h : s.Sound option)
    (hnone : (s.stream t).session = none) (hreading : (s.stream t).reading.isSome = true) (received : Received) (answers : Answers) :
    Changes (.packet t received answers) s
      (s.processSessionPacket option t received answers).state := by
  rcases h.processSessionPacket_cases (t := t) received answers with
    ⟨_, hstate⟩ | ⟨_, id, _, hstate⟩ | ⟨id, key, _, ⟨_, hstate⟩ | ⟨_, issued, hstate⟩⟩ |
      ⟨id, key, _, _, _, _, _, _, hstate⟩
  · rw [hstate]
    exact .of_streams fun _ => rfl
  · rw [hstate]
    exact .of_streams fun _ => rfl
  · rw [hstate]
    exact .attach hnone hreading fun t' => stream_openSession option s t t' id key
  · have hopened : Changes (.packet t received answers) s (s.openSession option t id key) :=
      .attach hnone hreading fun t' => stream_openSession option s t t' id key
    rw [hstate]
    exact hopened.trans (.setStream (.issued _ issued))
  · rw [hstate]
    exact .attach hnone hreading fun t' => stream_revive option _ t t' id

/-- A packet of a stream that has a session. -/
theorem Changes.readSessionPacket {id : Nat} (hsession : (s.stream t).session = some id)
    (received : Received) (answers : Answers) :
    Changes e s (s.readPacket option t received answers) := by
  unfold EngineState.readPacket
  rw [hsession]
  dsimp only
  split
  · exact .of_streams fun _ => rfl
  · exact .of_streams fun _ => rfl
  · exact .abortRead
  · exact .abortRead
  · exact .abortRead
  · exact .setStream (.contexts _ _)

theorem Changes.readPacket (h : s.Sound option) (hreading : (s.stream t).reading.isSome = true)
    (received : Received) (answers : Answers) :
    Changes (.packet t received answers) s (s.readPacket option t received answers) := by
  cases hsession : (s.stream t).session with
  | some id => exact .readSessionPacket hsession received answers
  | none =>
      have hprocessed := Changes.processSessionPacket h hsession hreading received answers
      unfold EngineState.readPacket
      rw [hsession]
      dsimp only
      split
      · exact hprocessed
      · split
        · exact hprocessed
        · exact hprocessed.trans (.setStream (.contexts _ _))

theorem changes_next (h : s.Sound option) (henabled : s.Enabled option e) :
    Changes e s (s.next option e) := by
  cases e with
  | accept t => exact .onAccept
  | connect t connectorId => exact .onConnect h henabled.2.1 connectorId
  | connectFailed connectorId =>
      dsimp only [EngineState.next]
      unfold EngineState.onConnectFailed
      dsimp only
      split <;> exact .of_streams fun _ => rfl
  | register remoteAddress attachment => exact .of_streams fun _ => rfl
  | unregister connectorId =>
      dsimp only [EngineState.next]
      unfold EngineState.unregisterConnectorSocket
      split
      · exact .of_streams fun _ => rfl
      · dsimp only
        split
        · exact .of_streams fun _ => rfl
        · exact .setStream (.graceful _)
  | read t => exact .setStream (.began _)
  | zeroRead t => exact .zeroRead
  | packet t received answers => exact .readPacket h henabled.1 received answers
  | flush t accepted => exact .flush accepted
  | finishRead t => exact .setStream (.finished _)
  | abortRead t => exact .abortRead
  | disconnect t => exact .beginDisconnect
  | insertAbandoned t => exact .insertAbandoned
  | submitDisconnect t accepted => exact .submitDisconnect accepted
  | expire index id => exact .of_streams fun _ => rfl
  | removeExpired index => exact .removeExpired index
  | submitExpired index accepted => exact .submitExpired index accepted
  | idleSocket index t => exact .setStream (.graceful _)
  | idleSession index id => exact .closeSession id
  | send id => exact .of_streams fun _ => rfl
  | closeSession id => exact .closeSession id
  | disconnectSession id => exact .disconnectSession id
  | dispatch => exact .dispatch
  | release => exact .release
  | recycle id => exact .of_streams fun _ => rfl

end Changes

/-! ## Sessions and attachments -/

section Invariants

variable {option : NetworkEngineOption} {e : EngineEvent} {s s' : EngineState} {t : SocketStream}

theorem Changes.session (h : Changes e s s')
    (he : ∀ received answers, e ≠ .packet t received answers) :
    (s'.stream t).session = (s.stream t).session ∨ (s'.stream t).session = none := by
  have hchanges := h t
  generalize s'.stream t = x' at hchanges
  induction hchanges with
  | refl => exact .inl rfl
  | tail _ hchange ih =>
      rcases hchange.session he with hsame | hnone
      · rw [hsame]
        exact ih
      · exact .inr hnone

theorem Changes.keepsSession (h : Changes e s s') {id : Nat}
    (hsession : (s.stream t).session = some id) :
    (s'.stream t).session = some id ∨ e = .accept t ∨
      (∃ connectorId, e = .connect t connectorId) ∨ ∃ accepted, e = .submitDisconnect t accepted := by
  have hchanges := h t
  generalize s'.stream t = x' at hchanges
  induction hchanges with
  | refl => exact .inl hsession
  | tail _ hchange ih =>
      rcases ih with hsame | hevent
      · exact hchange.keepsSession hsame
      · exact .inr hevent

theorem Changes.closing (h : Changes e s s')
    (hclosing : (s'.stream t).link = .submitting .SessionClosed) :
    (s.stream t).link = .submitting .SessionClosed ∨ e = .disconnect t := by
  have hchanges := h t
  generalize s'.stream t = x' at hchanges hclosing
  induction hchanges with
  | refl => exact .inl hclosing
  | tail _ hchange ih =>
      rcases hchange.closing hclosing with hbefore | hevent
      · exact ih hbefore
      · exact .inr hevent

theorem Changes.attributed (h : Changes e s s') (hs : Attributed t (s.stream t)) :
    Attributed t (s'.stream t) := by
  have hchanges := h t
  generalize s'.stream t = x' at hchanges
  induction hchanges with
  | refl => exact hs
  | tail _ hchange ih => exact hchange.attributed ih

theorem attributed_of_reachable (h : (engine option).Reachable s) (t : SocketStream) :
    Attributed t (s.stream t) := by
  induction h with
  | init hs =>
      obtain rfl := hs
      exact ⟨fun _ hmem => (by cases hmem), fun _ hmem => (by cases hmem), fun _ => rfl,
        fun _ hlink => (by cases hlink), fun hhead => (by cases hhead)⟩
  | step hs hstep ih =>
      obtain ⟨henabled, rfl⟩ := hstep
      exact (changes_next (sound_of_reachable hs) henabled).attributed ih

end Invariants

end EngineState

end Engine
end SeamlessServer
