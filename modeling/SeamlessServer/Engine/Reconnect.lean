import SeamlessServer.Data.Machine
import SeamlessServer.Engine.Session

/-!
# Engine.Reconnect — how sessions are opened, lost, taken up again and closed

`engine/NetworkEngine.cpp`, `engine/NetworkEngineWorker.h` and `engine/SocketContext.h` as steps of
one state.  The threads are those of the socket workers, which execute `OnAccept`, `OnConnect`,
`OnRead`, `OnDisconnect` and `OnTick`, and the logic worker, which executes `UpdateContext`.  A
handler that touches shared state more than once is cut there, so that other threads come between:

* `OnRead` is a read, the packets in it, and its end, at which the contexts are submitted;
* `OnDisconnect` changes the state of the session, enters it in the lists, and submits;
* `OnTick` finds an abandoned session, takes it from the list, and submits;
* the worker executes the handler of a context, and then releases the context.

The events of one stream are those of one thread and do not overlap; this is the reason for
`Stream.reading`, and for the later stages of `Link`.
-/

namespace SeamlessServer
namespace Engine

open NetworkEngine (ContextType StreamType errorNone errorSessionIsNotReady)

/-! ## Packets -/

/-- `ErrorCode::SessionAuthFailed`, as found on the wire. -/
def errorSessionAuthFailed : Nat := 5

/-- The packets the engine treats on its own; all others are `data`. -/
inductive SessionPacket
  | heartbeatRq
  | heartbeatRs
  | sessionCreateRq
  | sessionCreateRs (sessionId : Nat) (sessionKey : SessionKey)
  | sessionAuthRq (sessionId : Nat) (sessionKey : SessionKey)
  | sessionAuthRs
  | sessionCloseRq
  | data
  deriving DecidableEq

/-- A packet that was read: the error code of its header, and whether `DeserializePacketBody`
succeeds. -/
structure Received where
  packet : SessionPacket
  errorCode : Nat := errorNone
  decodes : Bool := true
  deriving DecidableEq

/-- A packet that is written to a stream. -/
structure Write where
  stream : SocketStream
  packet : SessionPacket
  errorCode : Nat := errorNone
  deriving DecidableEq

/-- What the surroundings answer while a session packet is processed. -/
structure Answers where
  /-- `Pop` of the session pool. -/
  pop : Option Nat := none
  /-- The random key of `ResetSessionKey`. -/
  key : SessionKey := emptySessionKey
  /-- The content of a packet whose fields are not set. -/
  unset : Nat × SessionKey := (0, emptySessionKey)
  /-- The result of `Submit`. -/
  accepted : Bool := true
  deriving DecidableEq

namespace EngineState

section Handlers

variable (option : NetworkEngineOption) (s : EngineState)

/-! ## Disconnecting -/

/-- `TransmitDisconnect`: only the first call of a connection has an effect. -/
def transmitDisconnect (t : SocketStream) (attachment : Nat) (requester : Requester) :
    EngineState :=
  let x := s.stream t
  s.setStream t { x with
    requests := x.requests ++ [requester]
    link := if x.link = .connected then .disconnecting attachment else x.link }

/-- `SocketSession::CloseSession`. -/
def closeSession (id : Nat) : EngineState :=
  match (s.sessions id).socketStream with
  | none => s
  | some t => s.transmitDisconnect t gracefulShutdownCode .graceful

/-- `SocketSession::Disconnect`. -/
def disconnectSession (id : Nat) : EngineState :=
  match (s.sessions id).socketStream with
  | none => s
  | some t => s.transmitDisconnect t 0 .abrupt

/-- `SendSocketContext`: if the worker does not take the context, the session is closed. -/
def sendSocketContext (contextType : ContextType) (id : Nat) (accepted : Bool) : EngineState :=
  if accepted then { s with queue := s.queue ++ [[⟨contextType, id, 0⟩]] } else s.closeSession id

/-! ## Connections -/

def activate (t : SocketStream) : EngineState :=
  let x := s.workers (option.workerIndex t)
  s.setWorker (option.workerIndex t)
    { x with activatedSockets := insert t x.activatedSockets }

/-- `IoAccept` and `OnAccept`. -/
def onAccept (t : SocketStream) : EngineState :=
  let s := s.activate option t
  s.setStream t { s.stream t with
    link := .connected
    session := none
    streamType := some .Acceptor
    posted := some t.id
    requests := []
    issued := none }

/-- `RegisterConnectorSocket`. -/
def registerConnectorSocket (remoteAddress : Protocol.SocketAddress) (attachment : Nat) :
    EngineState :=
  let id := s.currentConnectorId
  { s with
    currentConnectorId := (id + 1) % 2 ^ 64
    connectorList := Function.update s.connectorList id
      (some { connectorId := id, remoteAddress, attachment })
    connecting := s.connecting ++ [id] }

/-- `UnregisterConnectorSocket`. -/
def unregisterConnectorSocket (connectorId : Nat) : EngineState :=
  match s.connectorList connectorId with
  | none => s
  | some info =>
      let s := { s with connectorList := Function.update s.connectorList connectorId none }
      match info.stream with
      | none => s
      | some t => s.transmitDisconnect t gracefulShutdownCode .graceful

/-- `OnConnect` without a stream. -/
def onConnectFailed (attachment : Nat) : EngineState :=
  let s := { s with connecting := s.connecting.erase attachment }
  match s.connectorList attachment with
  | none => s
  | some info => { s with connecting := s.connecting ++ [info.connectorId] }

/-- The packet with which `OnConnect` opens the connection of a connector. -/
def greeting (info : ConnectorInfo) : SessionPacket :=
  if info.sessionId ≠ 0 then .sessionAuthRq info.sessionId info.sessionKey else .sessionCreateRq

/-- `IoConnect` and `OnConnect`. -/
def onConnect (t : SocketStream) (attachment : Nat) : EngineState × List Write :=
  let s := { s with connecting := s.connecting.erase attachment }
  let s := s.activate option t
  let s := s.setStream t { s.stream t with link := .connected, requests := [] }
  match s.connectorList attachment with
  -- the connector was unregistered while the connection was made
  | none => (s.transmitDisconnect t attachment .unknownConnector, [])
  | some info =>
      -- `connector_id` of the entry is taken for the key
      let s := { s with
        connectorList := Function.update s.connectorList info.connectorId
          (some { info with stream := some t })
        lost := Function.update s.lost attachment none }
      (s.setStream t { s.stream t with
        session := none
        streamType := some .Connector
        connectorId := attachment
        posted := some t.id
        issued := none },
        [⟨t, greeting info, errorNone⟩])

/-! ## Session packets -/

/-- `ConcurrentMap::RemoveIf` on the list of abandoned sessions. -/
def removeIf (id : Nat) (processor : SocketSession → SocketSession × Bool) : EngineState × Bool :=
  if id ∈ s.abandonedSessionList then
    let (x, success) := processor (s.sessions id)
    let s := s.setSession id x
    if success then
      ({ s with abandonedSessionList := s.abandonedSessionList.erase id }, true)
    else
      (s, false)
  else
    (s, false)

theorem removeIf_of_success {s s' : EngineState} {id : Nat}
    {processor : SocketSession → SocketSession × Bool} (h : s.removeIf id processor = (s', true)) :
    id ∈ s.abandonedSessionList ∧ (processor (s.sessions id)).2 = true ∧
      s' = { s.setSession id (processor (s.sessions id)).1 with
        abandonedSessionList := s.abandonedSessionList.erase id } := by
  unfold removeIf at h
  split at h
  next hlisted =>
    dsimp only at h
    split at h
    next hsuccess =>
      cases h
      exact ⟨hlisted, hsuccess, rfl⟩
    next =>
      cases h
  next =>
    cases h

theorem removeIf_of_failure {s s' : EngineState} {id : Nat}
    {processor : SocketSession → SocketSession × Bool} (h : s.removeIf id processor = (s', false)) :
    (id ∈ s.abandonedSessionList ∧ (processor (s.sessions id)).2 = false ∧
        s' = s.setSession id (processor (s.sessions id)).1) ∨
      (id ∉ s.abandonedSessionList ∧ s' = s) := by
  unfold removeIf at h
  split at h
  next hlisted =>
    dsimp only at h
    split at h
    next =>
      cases h
    next hfailure =>
      cases h
      exact .inl ⟨hlisted, by simpa using hfailure, rfl⟩
  next hlisted =>
    cases h
    exact .inr ⟨hlisted, rfl⟩

theorem removeIf_success (id : Nat) (processor : SocketSession → SocketSession × Bool) :
    (s.removeIf id processor).2 =
      (decide (id ∈ s.abandonedSessionList) && (processor (s.sessions id)).2) := by
  cases h : s.removeIf id processor with
  | mk s' success =>
      cases success with
      | true =>
          obtain ⟨hlisted, hsuccess, _⟩ := removeIf_of_success h
          simp [hlisted, hsuccess]
      | false =>
          rcases removeIf_of_failure h with ⟨_, hfailure, _⟩ | ⟨hlisted, _⟩
          · simp [hfailure]
          · simp [hlisted]

/-- The stream and the session refer to each other, and the session is one of its worker. -/
def attach (t : SocketStream) (id : Nat) : EngineState :=
  let s := s.setSession id { s.sessions id with socketStream := some t }
  let s := s.setStream t { s.stream t with session := some id }
  let x := s.workers (option.workerIndex t)
  s.setWorker (option.workerIndex t) { x with openedSessions := insert id x.openedSessions }

/-- A session from the pool is opened for a stream. -/
def openSession (t : SocketStream) (id : Nat) (key : SessionKey) : EngineState :=
  let s := { s with sessionPool := s.sessionPool.erase id }
  let x := ((s.sessions id).changeSessionState .Closed .Opened).1
  (s.setSession id { x with sessionKey := key }).attach option t id

/-- An abandoned session goes on with a stream. -/
def revive (t : SocketStream) (id : Nat) : EngineState :=
  let x := s.workers (option.workerIndex t)
  (s.setWorker (option.workerIndex t)
    { x with abandonedSessions := x.abandonedSessions.erase id }).attach option t id

/-- What `ProcessSessionPacket` leaves, returns and writes.  The connector is a variable of `OnRead`
into which the entry of `_connector_list` was copied. -/
structure Processed where
  state : EngineState
  contextType : ContextType := .SessionError
  connectorInfo : ConnectorInfo := {}
  writes : List Write := []

/-- The answer to a `packet_session_auth_rs` after which a new session is asked for. -/
def startAnew (t : SocketStream) (info : ConnectorInfo) : Processed where
  state := s
  connectorInfo := { info with sessionId := 0, sessionKey := emptySessionKey }
  writes := [⟨t, .sessionCreateRq, errorNone⟩]

def processSessionAuthRs (t : SocketStream) (errorCode : Nat) (info : ConnectorInfo)
    (answers : Answers) : Processed :=
  if errorCode ≠ errorNone then
    if errorCode = errorSessionIsNotReady then
      -- ask again with the same key
      { state := s
        connectorInfo := info
        writes := [⟨t, .sessionAuthRq info.sessionId info.sessionKey, errorNone⟩] }
    else if info.sessionId ∈ s.abandonedSessionList then
      -- the old session is reported as closed, and a new one asked for
      let s := { s with
        abandonedSessionList := s.abandonedSessionList.erase info.sessionId }
      let s := s.sendSocketContext .SessionClosed info.sessionId answers.accepted
      startAnew (if answers.accepted then s.note info.sessionId .expired else s) t info
    else
      s.startAnew t info
  else
    match s.removeIf info.sessionId (·.changeSessionState .Wait .Opened) with
    | (s, false) => s.startAnew t info
    | (s, true) =>
        { state := s.revive option t info.sessionId
          contextType := .SessionAlived
          connectorInfo := info }

/-- `ProcessSessionPacket`. -/
def processSessionPacket (t : SocketStream) (received : Received) (answers : Answers) :
    Processed :=
  if ¬ received.decodes then
    { state := s }
  else
    match received.packet with
    | .sessionCreateRq =>
        match answers.pop with
        | none => { state := s }
        -- the key is made up here, and the answer carries it
        | some id =>
            { state := s.openSession option t id answers.key
              contextType := .SessionAccepted
              writes := [⟨t, .sessionCreateRs id answers.key, errorNone⟩] }
    | .sessionCreateRs sessionId sessionKey =>
        if (s.stream t).streamType ≠ some .Connector then
          { state := s }
        else
          match s.connectorList (s.stream t).connectorId with
          | none => { state := s }
          | some info =>
              match answers.pop with
              | none => { state := s, connectorInfo := info }
              | some id =>
                  let s := s.openSession option t id sessionKey
                  { state := s.setStream t
                      { s.stream t with issued := some (sessionId, sessionKey) }
                    -- what is noted is a local copy: `OnRead` throws `connectorInfo` away
                    contextType := .SessionConnected
                    connectorInfo :=
                      if option.useSessionReconnect then { info with sessionId := id, sessionKey }
                      else info }
    | .sessionAuthRq sessionId sessionKey =>
        let keyEqual := decide (sessionId ∈ s.abandonedSessionList) &&
          decide ((s.sessions sessionId).sessionKey = sessionKey)
        -- `RemoveIf` calls `ChangeSessionState` before the key is compared
        match s.removeIf sessionId (·.authenticate sessionKey) with
        | (s, false) =>
            { state := s
              -- the answer is a packet of the type of the request, with ids that were never set
              writes := [⟨t, .sessionAuthRq answers.unset.1 answers.unset.2,
                if keyEqual then errorSessionIsNotReady else errorSessionAuthFailed⟩] }
        | (s, true) => { state := s.revive option t sessionId, contextType := .SessionAlived }
    | .sessionAuthRs =>
        match s.connectorList (s.stream t).connectorId with
        | none => { state := s }
        | some info => s.processSessionAuthRs option t received.errorCode info answers
    | _ => { state := s }

/-! ## Reading -/

/-- A read begins: `IoRead` of more than zero bytes calls `OnRead`. -/
def beginRead (t : SocketStream) : EngineState :=
  let x := s.stream t
  s.setStream t { x with posted := none, reading := x.posted }

/-- `IoRead` of zero bytes. -/
def zeroRead (t : SocketStream) : EngineState :=
  match (s.stream t).posted with
  | none => s
  | some attachment =>
      (s.setStream t { s.stream t with posted := none }).transmitDisconnect t attachment .reset

/-- The contexts of the read are given up. -/
def dropContexts (t : SocketStream) : EngineState :=
  s.setStream t { s.stream t with reading := none, contexts := [] }

/-- `OnRead` closes the session, or the stream if there is none, and returns. -/
def abortRead (t : SocketStream) : EngineState :=
  let s := s.dropContexts t
  match (s.stream t).session with
  | some id => s.closeSession id
  | none => s.transmitDisconnect t gracefulShutdownCode .graceful

def prepareContext (t : SocketStream) (context : Context) : EngineState :=
  let x := s.stream t
  s.setStream t { x with contexts := x.contexts ++ [context] }

/-- One packet of a read. -/
def readPacket (t : SocketStream) (received : Received) (answers : Answers) : EngineState :=
  match (s.stream t).session with
  | none =>
      let processed := s.processSessionPacket option t received answers
      if processed.contextType = .SessionError then
        processed.state
      else
        match (processed.state.stream t).session with
        | none => processed.state
        | some id =>
            processed.state.prepareContext t
              ⟨processed.contextType, id, processed.connectorInfo.attachment⟩
  | some id =>
      match received.packet with
      | .heartbeatRq => s
      | .heartbeatRs => s
      -- a packet of the handshake closes the session
      | .sessionCreateRq => s.abortRead t
      | .sessionCreateRs _ _ => s.abortRead t
      | .sessionCloseRq => s.abortRead t
      | _ => s.prepareContext t ⟨.SessionData, id, ((s.stream t).reading).getD 0⟩

/-- The contexts of a chain that tell of a revived session. -/
def noteAlived (contexts : List Context) : EngineState :=
  (contexts.filter (·.contextType = .SessionAlived)).foldl
    (fun s context => s.note context.session .alived) s

/-- The contexts prepared so far are submitted. -/
def flush (t : SocketStream) (accepted : Bool) : EngineState :=
  let x := s.stream t
  if accepted then
    let s := s.setStream t { x with contexts := [] }
    { s with queue := s.queue ++ [x.contexts] }.noteAlived x.contexts
  else
    s.abortRead t

/-- `OnRead` posts the next read. -/
def finishRead (t : SocketStream) : EngineState :=
  let x := s.stream t
  s.setStream t { x with posted := x.reading, reading := none, contexts := [] }

/-! ## OnDisconnect -/

/-- The part about the connector: it is connected again. -/
def reconnect (t : SocketStream) : EngineState :=
  let x := s.stream t
  if x.streamType = some .Connector then
    match s.connectorList x.connectorId with
    | none => s
    | some info =>
        { s with
          connectorList := Function.update s.connectorList x.connectorId
            (some { info with stream := none })
          connecting := s.connecting ++ [x.connectorId]
          lost := Function.update s.lost x.connectorId
            (if x.requests.head? = some .graceful then none else x.issued) }
  else
    s

/-- `attachment & GRACEFUL_SHUTDOWN_CODE`. -/
def isGraceful (attachment : Nat) : Bool := attachment % 2 = 1

def closeOpened (t : SocketStream) (id : Nat) : EngineState :=
  let x := s.workers (option.workerIndex t)
  s.setWorker (option.workerIndex t) { x with openedSessions := x.openedSessions.erase id }

def deactivate (t : SocketStream) : EngineState :=
  let x := s.workers (option.workerIndex t)
  s.setWorker (option.workerIndex t)
    { x with activatedSockets := x.activatedSockets.erase t }

/-- The part about the session, up to the change of its state: it is abandoned, or it is to be
closed. -/
def loseSession (t : SocketStream) (attachment : Nat) : EngineState :=
  match (s.stream t).session with
  | none => s.setStream t { s.stream t with link := .idle }
  | some id =>
      if isGraceful attachment = false ∧ option.useSessionReconnect = true then
        match (s.sessions id).changeSessionState .Opened .Abandoned with
        | (_, false) => s.setStream t { s.stream t with link := .faulted }
        | (y, true) =>
            ((s.setSession id y).note id .abandoned).setStream t
              { s.stream t with link := .abandoning }
      else
        (s.closeOpened option t id).setStream t
          { s.stream t with link := .submitting .SessionClosed }

/-- `OnDisconnect` up to the change of the session's state. -/
def beginDisconnect (t : SocketStream) : EngineState :=
  match (s.stream t).link with
  | .disconnecting attachment =>
      ((s.deactivate option t).reconnect t).loseSession option t attachment
  | _ => s

/-- The abandoned session is entered in both lists. -/
def insertAbandoned (t : SocketStream) : EngineState :=
  match (s.stream t).session with
  | none => s
  | some id =>
      let s := { s with abandonedSessionList := insert id s.abandonedSessionList }
      let x := s.workers (option.workerIndex t)
      let s := s.setWorker (option.workerIndex t)
        { x with abandonedSessions := insert id x.abandonedSessions }
      (s.closeOpened option t id).setStream t
        { s.stream t with link := .submitting .SessionAbandoned }

/-- The context is submitted, and the stream let go. -/
def submitDisconnect (t : SocketStream) (accepted : Bool) : EngineState :=
  match (s.stream t).link, (s.stream t).session with
  | .submitting contextType, some id =>
      let s := s.sendSocketContext contextType id accepted
      let s := if accepted = true ∧ contextType = .SessionClosed then s.note id .disconnected else s
      s.setStream t { s.stream t with link := .idle, connectorId := 0, session := none }
  | _, _ => s

/-- `OnDisconnect`, if no other thread comes between. -/
def onDisconnect (t : SocketStream) (accepted : Bool) : EngineState :=
  let s := s.beginDisconnect option t
  let s := if (s.stream t).link = .abandoning then s.insertAbandoned option t else s
  s.submitDisconnect t accepted

/-! ## OnTick -/

/-- An abandoned session is found waiting, and its time is up. -/
def expire (index id : Nat) : EngineState :=
  s.setWorker index { s.workers index with tick := .expiring id }

/-- The session is taken from the list unless another thread was faster; in either case the worker
forgets it. -/
def removeExpired (index : Nat) : EngineState :=
  match (s.workers index).tick with
  | .expiring id =>
      let (s, success) := s.removeIf id (·.changeSessionState .Wait .Closed)
      let x := s.workers index
      s.setWorker index
        { x with
          abandonedSessions := x.abandonedSessions.erase id
          tick := if success then .expired id else .rest }
  | _ => s

def submitExpired (index : Nat) (accepted : Bool) : EngineState :=
  match (s.workers index).tick with
  | .expired id =>
      let s := s.sendSocketContext .SessionClosed id accepted
      let s := if accepted then s.note id .expired else s
      s.setWorker index { s.workers index with tick := .rest }
  | _ => s

/-- An idle session is closed. -/
def closeIdleSession (index id : Nat) : EngineState :=
  let s := s.closeSession id
  let x := s.workers index
  s.setWorker index { x with openedSessions := x.openedSessions.erase id }

/-! ## The logic worker -/

/-- The context whose turn it is. -/
def upcoming : Option Context :=
  match s.chain with
  | context :: _ => some context
  | [] => s.queue.head?.bind List.head?

/-- The worker takes the next context, from a new chain if the last one is finished. -/
def takeContext : EngineState :=
  match s.chain with
  | _ :: rest => { s with chain := rest }
  | [] => { s with queue := s.queue.tail, chain := (s.queue.headD []).tail }

/-- `UpdateContext` up to `Release`. -/
def dispatch : EngineState :=
  match s.upcoming with
  | none => s
  | some context =>
      let s := { s.takeContext with releasing := some context }
      if context.contextType = .SessionAbandoned then
        s.setSession context.session
          ((s.sessions context.session).changeSessionState .Abandoned .Wait).1
      else
        s

/-- `SocketContext::Release`.  The contexts of a chain share a buffer, which is given back with the
last of them. -/
def release : EngineState :=
  match s.releasing with
  | none => s
  | some context =>
      let last := s.chain.isEmpty
      let s := { s with
        releasing := none
        chain := if context.contextType = .SessionClosed then [] else s.chain }
      if last = true ∧ context.contextType = .SessionClosed then
        s.setSession context.session { s.sessions context.session with socketStream := none }
      else
        s

/-! ## The pool -/

/-- No pointer refers to the session. -/
def Unreferenced (id : Nat) : Prop :=
  (∀ t ∈ s.streams.keys,
      (s.stream t).session ≠ some id ∧ ∀ c ∈ (s.stream t).contexts, c.session ≠ id) ∧
    id ∉ s.abandonedSessionList ∧
    (∀ index < option.workerCount,
      id ∉ (s.workers index).openedSessions ∧ id ∉ (s.workers index).abandonedSessions ∧
        (s.workers index).tick ≠ .expiring id ∧ (s.workers index).tick ≠ .expired id) ∧
    (∀ chain ∈ s.queue, ∀ c ∈ chain, c.session ≠ id) ∧ (∀ c ∈ s.chain, c.session ≠ id) ∧
    ∀ c ∈ s.releasing, c.session ≠ id

instance (id : Nat) : Decidable (s.Unreferenced option id) :=
  inferInstanceAs (Decidable (_ ∧ _ ∧ _ ∧ _ ∧ _ ∧ _))

/-- The last pointer to a session is gone: it is back in its pool. -/
def recycle (id : Nat) : EngineState :=
  { s with
    sessionPool := insert id s.sessionPool
    log := Function.update s.log id [] }

/-- Nothing refers to the stream. -/
def IsFree (t : SocketStream) : Prop :=
  (s.stream t).link = .idle ∧ (s.stream t).posted = none ∧
    ∀ id ≤ option.maxSessionCount, (s.sessions id).socketStream ≠ some t

instance (t : SocketStream) : Decidable (s.IsFree option t) :=
  inferInstanceAs (Decidable (_ ∧ _ ∧ _))

end Handlers

end EngineState

/-! ## The engine as a machine -/

inductive EngineEvent
  | accept (t : SocketStream)
  | connect (t : SocketStream) (connectorId : Nat)
  | connectFailed (connectorId : Nat)
  | register (remoteAddress : Protocol.SocketAddress) (attachment : Nat)
  | unregister (connectorId : Nat)
  | read (t : SocketStream)
  | zeroRead (t : SocketStream)
  | packet (t : SocketStream) (received : Received) (answers : Answers)
  | flush (t : SocketStream) (accepted : Bool)
  | finishRead (t : SocketStream)
  | abortRead (t : SocketStream)
  | disconnect (t : SocketStream)
  | insertAbandoned (t : SocketStream)
  | submitDisconnect (t : SocketStream) (accepted : Bool)
  | expire (index id : Nat)
  | removeExpired (index : Nat)
  | submitExpired (index : Nat) (accepted : Bool)
  | idleSocket (index : Nat) (t : SocketStream)
  | idleSession (index id : Nat)
  /-- The application calls `Send`, `CloseSession` or `Disconnect` of a session it knows. -/
  | send (id : Nat)
  | closeSession (id : Nat)
  | disconnectSession (id : Nat)
  | dispatch
  | release
  | recycle (id : Nat)
  deriving DecidableEq

namespace EngineState

variable (option : NetworkEngineOption) (s : EngineState)

/-- The session exists and is not in the pool. -/
def IsUsed (id : Nat) : Prop := (0 < id ∧ id ≤ option.maxSessionCount) ∧ id ∉ s.sessionPool

instance (id : Nat) : Decidable (s.IsUsed option id) :=
  inferInstanceAs (Decidable (_ ∧ _))

/-- When an event can happen. -/
def Enabled : EngineEvent → Prop
  | .accept t => t.isAcceptor = true ∧ s.IsFree option t
  | .connect t connectorId =>
      t.isAcceptor = false ∧ s.IsFree option t ∧ connectorId ∈ s.connecting
  | .connectFailed connectorId => connectorId ∈ s.connecting
  | .register _ _ => True
  | .unregister _ => True
  | .read t => (s.stream t).posted.isSome = true ∧ (s.stream t).link.isLive = true
  | .zeroRead t => (s.stream t).posted.isSome = true
  | .packet t _ answers =>
      (s.stream t).reading.isSome = true ∧ ∀ id ∈ answers.pop, id ∈ s.sessionPool
  | .flush t _ => (s.stream t).reading.isSome = true ∧ (s.stream t).contexts ≠ []
  | .finishRead t => (s.stream t).reading.isSome = true
  | .abortRead t => (s.stream t).reading.isSome = true
  | .disconnect t =>
      (s.stream t).reading = none ∧ (s.stream t).link.isDisconnecting = true
  | .insertAbandoned t => (s.stream t).link = .abandoning
  | .submitDisconnect t _ => (s.stream t).link.isSubmitting = true
  | .expire index id =>
      index < option.workerCount ∧ (s.workers index).tick = .rest ∧
        id ∈ (s.workers index).abandonedSessions ∧ s.state id = .Wait
  | .removeExpired index => (s.workers index).tick.isExpiring = true
  | .submitExpired index _ => (s.workers index).tick.isExpired = true
  | .idleSocket index t =>
      t ∈ (s.workers index).activatedSockets ∧ (s.stream t).session = none
  | .idleSession index id => id ∈ (s.workers index).openedSessions
  | .send id => s.IsUsed option id
  | .closeSession id => s.IsUsed option id
  | .disconnectSession id => s.IsUsed option id
  | .dispatch => s.releasing = none ∧ s.upcoming.isSome = true
  | .release => s.releasing.isSome = true
  | .recycle id => s.IsUsed option id ∧ s.Unreferenced option id

/-- What an event does. -/
def next : EngineEvent → EngineState
  | .accept t => s.onAccept option t
  | .connect t connectorId => (s.onConnect option t connectorId).1
  | .connectFailed connectorId => s.onConnectFailed connectorId
  | .register remoteAddress attachment => s.registerConnectorSocket remoteAddress attachment
  | .unregister connectorId => s.unregisterConnectorSocket connectorId
  | .read t => s.beginRead t
  | .zeroRead t => s.zeroRead t
  | .packet t received answers => s.readPacket option t received answers
  | .flush t accepted => s.flush t accepted
  | .finishRead t => s.finishRead t
  | .abortRead t => s.abortRead t
  | .disconnect t => s.beginDisconnect option t
  | .insertAbandoned t => s.insertAbandoned option t
  | .submitDisconnect t accepted => s.submitDisconnect t accepted
  | .expire index id => s.expire index id
  | .removeExpired index => s.removeExpired index
  | .submitExpired index accepted => s.submitExpired index accepted
  | .idleSocket _ t => s.transmitDisconnect t gracefulShutdownCode .graceful
  | .idleSession index id => s.closeIdleSession index id
  | .send _ => s
  | .closeSession id => s.closeSession id
  | .disconnectSession id => s.disconnectSession id
  | .dispatch => s.dispatch
  | .release => s.release
  | .recycle id => s.recycle id

instance : DecidablePred (s.Enabled option) := by
  intro e
  cases e <;> dsimp only [Enabled] <;> infer_instance

end EngineState

open EngineState in
/-- A network engine and its logic worker, from `Initialize` on. -/
def engine (option : NetworkEngineOption) : Machine EngineState EngineEvent where
  init := fun s => s = initialized option
  step := fun s e s' => s.Enabled option e ∧ s' = s.next option e

end Engine
end SeamlessServer
