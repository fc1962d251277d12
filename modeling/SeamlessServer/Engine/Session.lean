import Mathlib.Data.Finset.Basic
import SeamlessServer.Data.UnorderedMap
import SeamlessServer.Engine.OnRead
import SeamlessServer.Engine.SessionPool
import SeamlessServer.Protocol.Server

/-!
# Engine.Session — sessions, streams and what a network engine keeps of them

The data of `engine/Session.h`, `engine/SocketSession.h` and `engine/SocketWorkerInfo.h`, of the
`SocketStreamExtension` of `engine/NetworkEngine.cpp`, and of the streams below them
(`network/SocketStreamBase.h`, `network/iocp/IocpSocketServer.cpp`).

Sessions and streams are objects of pools and are known here by their numbers.  Buffers and the
framing of packets are the subject of `Engine.OnRead`; a packet is taken as decoded, and a context
without its body.  Clocks are left out: whatever waits for a time may happen at any time.

Some fields are not read by any handler and only record what has happened: `Stream.requests`,
`Stream.issued`, `EngineState.lost` and `EngineState.log`.
-/

namespace SeamlessServer
namespace Engine

open NetworkEngine (ContextType StreamType)

/-! ## Streams -/

/-- `CONNECTOR_SOCKET_START_ID = UINT32_MAX / 2`. -/
def connectorSocketStartId : Nat := (2 ^ 32 - 1) / 2

/-- A stream is an object of one of the two pools of the socket server.  An accepted connection gets
a stream of the first, a `Connect` one of the second. -/
inductive SocketStream
  | acceptor (index : Nat)
  | connector (index : Nat)
  deriving DecidableEq, Repr

def SocketStream.isAcceptor : SocketStream → Bool
  | .acceptor _ => true
  | .connector _ => false

/-- `GetId()`. -/
def SocketStream.id : SocketStream → Nat
  | .acceptor index => index + 1
  | .connector index => connectorSocketStartId + index

/-- `GRACEFUL_SHUTDOWN_CODE`. -/
def gracefulShutdownCode : Nat := 1

/-- What `TransmitDisconnect` was called for. -/
inductive Requester
  /-- With `GRACEFUL_SHUTDOWN_CODE`. -/
  | graceful
  /-- `SocketSession::Disconnect`. -/
  | abrupt
  /-- `IoRead` of zero bytes. -/
  | reset
  /-- `OnConnect` for a connector that is not registered any more. -/
  | unknownConnector
  deriving DecidableEq, Repr

/-- The connection of a stream, and how far `OnDisconnect` has come with it. -/
inductive Link
  | idle
  | connected
  /-- `TransmitDisconnect` has started the operation with this attachment. -/
  | disconnecting (attachment : Nat)
  /-- The session has been put in the state `Abandoned`. -/
  | abandoning
  /-- A context of this type is about to be submitted. -/
  | submitting (contextType : ContextType)
  /-- `OnDisconnect` has thrown. -/
  | faulted
  deriving DecidableEq

def Link.isDisconnecting : Link → Bool
  | .disconnecting _ => true
  | _ => false

def Link.isSubmitting : Link → Bool
  | .submitting _ => true
  | _ => false

/-- Reads are still taken from the connection. -/
def Link.isLive : Link → Bool
  | .connected => true
  | .disconnecting _ => true
  | _ => false

/-- `SocketContext`: the session it refers to, and the attachment. -/
structure Context where
  contextType : ContextType
  session : Nat
  attachment : Nat
  deriving DecidableEq

/-! ## Sessions -/

/-- `SessionKey`: 64 bytes. -/
abbrev SessionKey := Vector UInt8 64

/-- `SessionKey::Empty()`. -/
def emptySessionKey : SessionKey := Vector.replicate 64 0

inductive SessionState
  | Opened
  | Abandoned
  | Wait
  | Closed
  deriving DecidableEq, Repr

structure SocketSession where
  sessionState : SessionState := .Closed
  sessionKey : SessionKey := emptySessionKey
  socketStream : Option SocketStream := none
  deriving DecidableEq

/-- `Session::ChangeSessionState`, a compare-exchange, with its result. -/
def SocketSession.changeSessionState (x : SocketSession) (expected desired : SessionState) :
    SocketSession × Bool :=
  if x.sessionState = expected then ({ x with sessionState := desired }, true) else (x, false)

/-- The processor of `packet_session_auth_rq`: the key is compared, and whatever comes of it the state
is changed. -/
def SocketSession.authenticate (x : SocketSession) (sessionKey : SessionKey) :
    SocketSession × Bool :=
  let keyEqual := decide (x.sessionKey = sessionKey)
  let (x, stateValid) := x.changeSessionState .Wait .Opened
  (x, keyEqual && stateValid)

section ChangeSessionState

variable (x : SocketSession) (expected desired : SessionState)

theorem SocketSession.changeSessionState_state :
    (x.changeSessionState expected desired).1.sessionState =
      if x.sessionState = expected then desired else x.sessionState := by
  unfold changeSessionState
  split <;> rfl

theorem SocketSession.changeSessionState_success :
    (x.changeSessionState expected desired).2 = decide (x.sessionState = expected) := by
  unfold changeSessionState
  split
  next h => simp [h]
  next h => simp [h]

@[simp] theorem SocketSession.changeSessionState_key :
    (x.changeSessionState expected desired).1.sessionKey = x.sessionKey := by
  unfold changeSessionState
  split <;> rfl

@[simp] theorem SocketSession.changeSessionState_stream :
    (x.changeSessionState expected desired).1.socketStream = x.socketStream := by
  unfold changeSessionState
  split <;> rfl

@[simp] theorem SocketSession.authenticate_session (sessionKey : SessionKey) :
    (x.authenticate sessionKey).1 = (x.changeSessionState .Wait .Opened).1 := rfl

theorem SocketSession.authenticate_success (sessionKey : SessionKey) :
    (x.authenticate sessionKey).2 =
      (decide (x.sessionKey = sessionKey) && decide (x.sessionState = .Wait)) := by
  rw [← changeSessionState_success x .Wait .Opened]
  rfl

end ChangeSessionState

/-- A stream with its `SocketStreamExtension`.  `stream_type` is not set before the first accepted or
connected use. -/
structure Stream where
  link : Link := .idle
  session : Option Nat := none
  connectorId : Nat := 0
  streamType : Option StreamType := none
  /-- The attachment of the read that is under way. -/
  posted : Option Nat := none
  /-- The attachment of the `OnRead` that is being executed. -/
  reading : Option Nat := none
  /-- The contexts this `OnRead` has prepared and not submitted yet. -/
  contexts : List Context := []
  /-- The calls of `TransmitDisconnect` since the stream was connected. -/
  requests : List Requester := []
  /-- The id and the key of the `packet_session_create_rs` that has opened the session. -/
  issued : Option (Nat × SessionKey) := none
  deriving DecidableEq

structure ConnectorInfo where
  connectorId : Nat := 0
  stream : Option SocketStream := none
  remoteAddress : Protocol.SocketAddress := ⟨"", 0⟩
  attachment : Nat := 0
  sessionId : Nat := 0
  sessionKey : SessionKey := emptySessionKey
  deriving DecidableEq

/-- How far `OnTick` has come with an abandoned session. -/
inductive Tick
  | rest
  /-- The session was found in the state `Wait`, and its time is up. -/
  | expiring (session : Nat)
  /-- The session has been taken from the list and put in the state `Closed`. -/
  | expired (session : Nat)
  deriving DecidableEq

def Tick.isExpiring : Tick → Bool
  | .expiring _ => true
  | _ => false

def Tick.isExpired : Tick → Bool
  | .expired _ => true
  | _ => false

/-- `SocketWorkerInfo`.  The maps from ids to sessions are sets of ids. -/
structure SocketWorkerInfo where
  activatedSockets : Finset SocketStream := ∅
  openedSessions : Finset Nat := ∅
  abandonedSessions : Finset Nat := ∅
  tick : Tick := .rest
  deriving DecidableEq

/-- The part of `NetworkEngineOption` that matters, and the number of workers. -/
structure NetworkEngineOption where
  useSessionReconnect : Bool
  maxSessionCount : Nat
  workerCount : Nat
  workerCount_pos : 0 < workerCount

/-- `GetWorkerIndex()` of a stream. -/
def NetworkEngineOption.workerIndex (option : NetworkEngineOption) (t : SocketStream) : Nat :=
  t.id % option.workerCount

/-- What happens to a session from `Pop` on, as far as it concerns its being abandoned. -/
inductive Milestone
  /-- `OnDisconnect` abandons the session. -/
  | abandoned
  /-- `SessionAlived` is submitted. -/
  | alived
  /-- `SessionClosed` is submitted for the abandoned session. -/
  | expired
  /-- `SessionClosed` is submitted by `OnDisconnect`. -/
  | disconnected
  deriving DecidableEq, Repr

/-! ## The engine and its logic worker -/

structure EngineState where
  sessions : Nat → SocketSession := fun _ => {}
  sessionPool : Finset Nat
  streams : UnorderedMap SocketStream Stream := UnorderedMap.empty
  workers : Nat → SocketWorkerInfo := fun _ => {}
  connectorList : Nat → Option ConnectorInfo := fun _ => none
  currentConnectorId : Nat := 1
  /-- The attachments of the `Connect` operations that are under way. -/
  connecting : List Nat := []
  abandonedSessionList : Finset Nat := ∅
  /-- The chains that have been submitted to the logic worker. -/
  queue : List (List Context) := []
  /-- What the worker has still to do of the chain it has taken. -/
  chain : List Context := []
  /-- The context whose handler has returned and that is to be released. -/
  releasing : Option Context := none
  /-- The credentials of a connector whose connection was lost, until it is connected again. -/
  lost : Nat → Option (Nat × SessionKey) := fun _ => none
  log : Nat → List Milestone := fun _ => []

namespace EngineState

/-- `NetworkEngine::Initialize`. -/
def initialized (option : NetworkEngineOption) : EngineState where
  sessionPool :=
    (poolSequence option.maxSessionCount GameServerConfig.sessionChunkSize 1).toFinset

section Access

variable (s : EngineState)

def stream (t : SocketStream) : Stream := (s.streams.find t).getD {}

def setStream (t : SocketStream) (x : Stream) : EngineState :=
  { s with streams := s.streams.insert t x }

def setSession (id : Nat) (x : SocketSession) : EngineState :=
  { s with sessions := Function.update s.sessions id x }

def setWorker (index : Nat) (x : SocketWorkerInfo) : EngineState :=
  { s with workers := Function.update s.workers index x }

def note (id : Nat) (milestone : Milestone) : EngineState :=
  { s with log := Function.update s.log id (s.log id ++ [milestone]) }

def state (id : Nat) : SessionState := (s.sessions id).sessionState

end Access

section Lemmas

variable (s : EngineState) (t t' : SocketStream) (x : Stream) (id id' : Nat) (y : SocketSession)
  (index : Nat) (z : SocketWorkerInfo) (milestone : Milestone)

theorem stream_setStream : (s.setStream t x).stream t' = if t' = t then x else s.stream t' := by
  by_cases h : t' = t <;> simp [stream, setStream, h]

@[simp] theorem stream_setSession : (s.setSession id y).stream t = s.stream t := rfl

@[simp] theorem stream_setWorker : (s.setWorker index z).stream t = s.stream t := rfl

@[simp] theorem stream_note : (s.note id milestone).stream t = s.stream t := rfl

theorem state_setSession :
    (s.setSession id y).state id' = if id' = id then y.sessionState else s.state id' := by
  by_cases h : id' = id <;> simp [state, setSession, h]

@[simp] theorem state_setStream : (s.setStream t x).state id = s.state id := rfl

@[simp] theorem state_setWorker : (s.setWorker index z).state id = s.state id := rfl

@[simp] theorem state_note : (s.note id' milestone).state id = s.state id := rfl

end Lemmas

end EngineState

end Engine
end SeamlessServer
