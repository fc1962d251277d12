import SeamlessServer.Engine.Attachment
import SeamlessServer.Engine.Conversation
import SeamlessServer.Engine.Pulse
import SeamlessServer.Engine.Ticking

/-!
# Engine.Heartbeats — a session is open as long as both ends are heard

The heartbeats that `NetworkEngine::OnTick` sends and `NetworkEngine::OnRead` answers.  The acceptor
asks every `session_heartbeat_interval_ms`, the connector answers, and each end closes a session of
which it has heard no heartbeat for `session_idle_timeout_ms`; other packets do not count.

* `kept_open` — if ticks and packets come in time, no tick closes the session;
* `closed_in_silence` — a session of which nothing is heard is closed within a tick of its timeout.

Each end has a clock of its own, which shows nanoseconds; the times of a session are milliseconds.
-/

namespace SeamlessServer
namespace Engine

open NetworkEngine (StreamType Operation Frame ReadState Flow errorNone packetHeartbeatRq
  packetHeartbeatRs)

/-! ## What is read of a heartbeat -/

/-- What `OnRead` does for a heartbeat of a session. -/
def heartbeatOperations : SessionPacket → List Operation
  | .heartbeatRq => [.updateHeartbeatReceivingTime, .send packetHeartbeatRs]
  | .heartbeatRs => [.updateHeartbeatReceivingTime]
  | _ => []

theorem readRound_heartbeatOperations {env : NetworkEngine.Surroundings} {attachment : Nat}
    {s : ReadState} {a : NetworkEngine.Progress} {f : Frame} {rest : List UInt8}
    (h : NetworkEngine.Reads s a (f.bytes ++ rest)) (hsession : s.session = true)
    {packet : SessionPacket} (hpacket :
      (f.packet.packetType = packetHeartbeatRq ∧ packet = .heartbeatRq) ∨
        (f.packet.packetType = packetHeartbeatRs ∧ packet = .heartbeatRs)) :
    NetworkEngine.readRound env attachment s =
      .again (((NetworkEngine.afterHeader s).operate (heartbeatOperations packet)).seek
        f.header.bodySize) := by
  rw [NetworkEngine.readRound_frame env attachment h, if_neg (not_not.2 hsession)]
  rcases hpacket with ⟨htype, rfl⟩ | ⟨htype, rfl⟩
  · rw [if_pos htype]
    rfl
  · have hne : f.packet.packetType ≠ packetHeartbeatRq := by
      rw [htype]
      decide
    rw [if_neg hne, if_pos htype]
    rfl

/-- `Session::UpdateHeartbeatReceivingTime` with the time at which it is called. -/
def SessionTimes.operate (now : Int) (x : SessionTimes) : Operation → SessionTimes
  | .updateHeartbeatReceivingTime => { x with lastHeartbeatReceivingTime := now.tdiv 1000000 }
  | _ => x

/-- The heartbeats among what is sent. -/
def NetworkEngine.Operation.heartbeat (operation : Operation) : Option SessionPacket :=
  if operation = .send packetHeartbeatRs then some .heartbeatRs else none

def SessionPacket.isHeartbeat : SessionPacket → Bool
  | .heartbeatRq => true
  | .heartbeatRs => true
  | _ => false

def SessionPacket.isCreateRs : SessionPacket → Bool
  | .sessionCreateRs _ _ => true
  | _ => false

/-! ## What opens the session of a connector -/

namespace EngineState

/-- A session is at hand for the stream of a connector. -/
structure Provides (s : EngineState) (option : NetworkEngineOption) (answers : Answers)
    (t : SocketStream) (id : Nat) : Prop where
  activated : t ∈ (s.workers (option.workerIndex t)).activatedSockets
  connector : s.connectorList (s.stream t).connectorId ≠ none
  pop : answers.pop = some id
  free : ∀ t', (s.stream t').session ≠ some id

/-- `packet_session_create_rs` attaches the session to the stream and opens it. -/
theorem attached_of_createRs {s : EngineState} {option : NetworkEngineOption} {answers : Answers}
    {t : SocketStream} {id : Nat} {packet : SessionPacket} (h : s.Provides option answers t id)
    (htype : (s.stream t).streamType = some .Connector) (hpacket : packet.isCreateRs = true) :
    let s' := (s.processSessionPacket option t ⟨packet, errorNone, true⟩ answers).state
    s'.Attached (option.workerIndex t) t id ∧
      id ∈ (s'.workers (option.workerIndex t)).openedSessions ∧
      (s'.stream t).streamType = some .Connector := by
  obtain ⟨info, hinfo⟩ := Option.ne_none_iff_exists'.1 h.connector
  cases packet with
  | sessionCreateRs sessionId sessionKey =>
      intro s'
      have hstate : s' = (s.openSession option t id sessionKey).setStream t
          { (s.openSession option t id sessionKey).stream t with
            issued := some (sessionId, sessionKey) } := by
        simp [s', processSessionPacket, htype, hinfo, h.pop]
      have hstream : ∀ t', (s'.stream t').session = (if t' = t then some id else (s.stream t').session) ∧
          (s'.stream t').streamType = (s.stream t').streamType := by
        intro t'
        rw [hstate, stream_setStream, stream_openSession, stream_openSession, if_pos rfl]
        by_cases heq : t' = t
        · subst heq
          simp
        · simp [heq]
      have hworker : s'.workers (option.workerIndex t) =
          { s.workers (option.workerIndex t) with
            openedSessions := insert id (s.workers (option.workerIndex t)).openedSessions } := by
        rw [hstate]
        exact Function.update_self _ _ _
      refine ⟨⟨?_, fun t' ht' => ?_, ?_⟩, ?_, ?_⟩
      · rw [(hstream t).1, if_pos rfl]
      · by_contra hne
        rw [(hstream t').1, if_neg hne] at ht'
        exact h.free t' ht'
      · rw [hworker]
        exact h.activated
      · rw [hworker]
        exact Finset.mem_insert_self _ _
      · rw [(hstream t).2]
        exact htype
  | _ => cases hpacket

end EngineState

/-! ## The two ends of a connection -/

namespace Heartbeats

/-- An end: the options of its engine, what its clock shows at time zero, and the worker, the stream
and the id of the session. -/
structure End where
  option : TimeoutOption
  clockStart : Nat
  worker : Nat
  stream : SocketStream
  session : Nat

/-- `utility::CurrentTick()`. -/
def End.clock (e : End) (now : Nat) : Int := e.clockStart + now

structure EndState where
  state : EngineState
  sessions : Nat → SessionTimes
  /-- The session has been opened at this end. -/
  opened : Bool
  /-- When the worker ticked last, and when the session was opened or a heartbeat of it read last. -/
  ticked : Nat
  heard : Nat

/-- A packet on its way, and when it was sent; of an answer also when the request was sent. -/
structure Posted where
  packet : SessionPacket
  time : Nat
  requested : Nat
  deriving DecidableEq

/-- The time that has passed, the two ends, the packets on their way to each, and when the last
heartbeat was sent. -/
structure State where
  now : Nat
  side : StreamType → EndState
  inbound : StreamType → List Posted
  sent : Nat

inductive Event
  | elapse (duration : Nat)
  | tick (side : StreamType)
  /-- The first packet on its way is read. -/
  | heartbeat (side : StreamType)
  | openSession
  /-- Anything else that leaves the session alone. -/
  | engine (side : StreamType)

variable (ends : StreamType → End)

section Next

variable (s : State) (side : StreamType)

/-- The session is one of those that `OnTick` goes through. -/
def IsOpen : Prop :=
  (ends side).session ∈ ((s.side side).state.workers (ends side).worker).openedSessions

instance : Decidable (IsOpen ends s side) := inferInstanceAs (Decidable (_ ∈ _))

/-- The session is attached to the stream of the end. -/
def IsAttached : Prop :=
  (s.side side).state.Attached (ends side).worker (ends side).stream (ends side).session

/-- The type of the stream of the end. -/
def streamType : Option StreamType := ((s.side side).state.stream (ends side).stream).streamType

/-- The times of the session. -/
def times : SessionTimes := (s.side side).sessions (ends side).session

/-- What `OnTick` is called with. -/
def tickTimes (connectionCreatedTime : SocketStream → Int) : TickTimes :=
  ⟨(ends side).clock s.now, connectionCreatedTime, (s.side side).sessions⟩

/-- `OnTick` of the worker. -/
def onTick (order : TickOrder ((s.side side).state.workers (ends side).worker))
    (connectionCreatedTime : SocketStream → Int) (accepted : Nat → Bool) : Ticked :=
  (s.side side).state.onTick (ends side).option (ends side).worker order
    (tickTimes ends s side connectionCreatedTime) accepted

/-- After `OnTick`. -/
def tick (x : Ticked) : State :=
  let written := x.written (ends side).stream
  { s with
    side := Function.update s.side side
      { s.side side with state := x.state, sessions := x.times.sessions, ticked := s.now }
    inbound := Function.update s.inbound side.other
      (s.inbound side.other ++ written.map fun write => ⟨write.packet, s.now, s.now⟩)
    sent := if written = [] then s.sent else s.now }

/-- A heartbeat is read, and may be answered. -/
def heartbeat (m : Posted) (rest : List Posted) : State :=
  let operations := heartbeatOperations m.packet
  let inbound := Function.update s.inbound side rest
  { s with
    side := Function.update s.side side
      { s.side side with
        sessions := Function.update (s.side side).sessions (ends side).session
          (operations.foldl (SessionTimes.operate ((ends side).clock s.now)) (times ends s side))
        heard := s.now }
    inbound := Function.update inbound side.other
      (inbound side.other ++ (operations.filterMap Operation.heartbeat).map fun packet =>
        ⟨packet, s.now, m.time⟩) }

/-- `packet_session_create_rs` is read by the connector. -/
def openSession (option : NetworkEngineOption) (answers : Answers) (m : Posted)
    (rest : List Posted) : State :=
  let time := ((ends .Connector).clock s.now).tdiv 1000000
  let processed := (s.side .Connector).state.processSessionPacket option (ends .Connector).stream
    ⟨m.packet, errorNone, true⟩ answers
  { s with
    side := Function.update s.side .Connector
      { s.side .Connector with
        state := processed.state
        sessions := Function.update (s.side .Connector).sessions (ends .Connector).session
          { times ends s .Connector with
            lastHeartbeatReceivingTime := time, lastHeartbeatSendingTime := time }
        opened := true
        heard := s.now }
    inbound := Function.update s.inbound .Connector rest }

def engine (state : EngineState) (sessions : Nat → SessionTimes) : State :=
  { s with side := Function.update s.side side { s.side side with state, sessions } }

end Next

/-- What may happen. -/
inductive Step (s : State) : Event → State → Prop
  | elapse (duration : Nat) : Step s (.elapse duration) { s with now := s.now + duration }
  | tick {side : StreamType}
      {order : TickOrder ((s.side side).state.workers (ends side).worker)}
      (connectionCreatedTime : SocketStream → Int) (accepted : Nat → Bool) :
      order.Complete →
        Step s (.tick side) (tick ends s side (onTick ends s side order connectionCreatedTime accepted))
  | heartbeat {side : StreamType} {m : Posted} {rest : List Posted} :
      (s.side side).opened = true → s.inbound side = m :: rest → m.packet.isHeartbeat = true →
        Step s (.heartbeat side) (heartbeat ends s side m rest)
  | openSession {m : Posted} {rest : List Posted} {option : NetworkEngineOption} {answers : Answers} :
      (s.side .Connector).opened = false → s.inbound .Connector = m :: rest →
      m.packet.isCreateRs = true →
      option.workerIndex (ends .Connector).stream = (ends .Connector).worker →
      (s.side .Connector).state.Provides option answers (ends .Connector).stream
        (ends .Connector).session →
        Step s .openSession (openSession ends s option answers m rest)
  | engine {side : StreamType} {state : EngineState} {sessions : Nat → SessionTimes} :
      streamType ends (engine s side state sessions) side = streamType ends s side →
      ((s.side side).opened = true → IsAttached ends (engine s side state sessions) side) →
      (IsOpen ends (engine s side state sessions) side ↔ IsOpen ends s side) →
      times ends (engine s side state sessions) side = times ends s side →
        Step s (.engine side) (engine s side state sessions)

/-- The acceptor has opened the session and sent `packet_session_create_rs`. -/
structure Initial (s : State) : Prop where
  now : s.now = 0
  sent : s.sent = 0
  ticked : ∀ side, (s.side side).ticked = 0
  heard : ∀ side, (s.side side).heard = 0
  streamType : ∀ side, streamType ends s side = some side
  accepted : (s.side .Acceptor).opened = true
  unconnected : (s.side .Connector).opened = false
  attached : IsAttached ends s .Acceptor
  isOpen : IsOpen ends s .Acceptor
  receiving : (times ends s .Acceptor).lastHeartbeatReceivingTime =
    ((ends .Acceptor).clock 0).tdiv 1000000
  sending : (times ends s .Acceptor).lastHeartbeatSendingTime =
    ((ends .Acceptor).clock 0).tdiv 1000000
  answers : s.inbound .Acceptor = []
  requests : ∃ id key, s.inbound .Connector = [⟨.sessionCreateRs id key, 0, 0⟩]

/-- Two engines that are joined by a connection with a session. -/
def machine : Machine State Event where
  init := Initial ends
  step := Step ends

/-- The ticks of each worker are at most `period` apart. -/
def Ticking (period : Nat) (s : State) : Event → Prop
  | .elapse duration => ∀ side, s.now + duration ≤ (s.side side).ticked + period
  | _ => True

/-- And every packet is read within `latency`. -/
def Timely (period latency : Nat) (s : State) : Event → Prop
  | .elapse duration => Ticking period s (.elapse duration) ∧
      ∀ side, ∀ m ∈ s.inbound side, s.now + duration ≤ m.time + latency
  | _ => True

/-! ## What holds in every run -/

/-- What an end keeps of its session. -/
structure Kept (s : State) (side : StreamType) : Prop where
  streamType : streamType ends s side = some side
  attached : (s.side side).opened = true → IsAttached ends s side
  receiving : (s.side side).opened = true →
    (times ends s side).lastHeartbeatReceivingTime =
      ((ends side).clock (s.side side).heard).tdiv 1000000

/-- What the two ends and the packets on their way are to each other. -/
structure Sound (s : State) : Prop where
  accepted : (s.side .Acceptor).opened = true
  kept : ∀ side, Kept ends s side
  sending : milliseconds (times ends s .Acceptor).lastHeartbeatSendingTime ≤
    (ends .Acceptor).clock s.sent
  answers : ∀ m ∈ s.inbound .Acceptor, m.packet = .heartbeatRs
  requests : (s.side .Connector).opened = true →
    ∀ m ∈ s.inbound .Connector, m.packet = .heartbeatRq
  greeting : (s.side .Connector).opened = false →
    (∃ m ∈ (s.inbound .Connector).head?, m.packet.isCreateRs = true) ∧
      ∀ m ∈ (s.inbound .Connector).tail, m.packet = .heartbeatRq

/-- The times alone. -/
def State.pulse (s : State) : Pulse where
  now := s.now
  ticked := fun side => (s.side side).ticked
  heard := fun side => (s.side side).heard
  greeted := (s.side .Connector).opened
  requests := (s.inbound .Connector).map Posted.time
  answers := (s.inbound .Acceptor).map fun m => (m.time, m.requested)
  sent := s.sent

section Clocks

variable {e : End} {heard now : Nat}

/-- A time of a session is that of the clock, without what is less than a millisecond. -/
theorem milliseconds_tdiv (e : End) (now : Nat) :
    milliseconds ((e.clock now).tdiv 1000000) ≤ e.clock now ∧
      e.clock now < milliseconds ((e.clock now).tdiv 1000000) + 1000000 := by
  have hnonneg : 0 ≤ e.clock now := by
    unfold End.clock
    omega
  rw [Int.tdiv_eq_ediv_of_nonneg hnonneg]
  unfold milliseconds
  omega

end Clocks

variable {ends} {s s' : State} {side : StreamType} {e : EndState}

/-- The other end keeps what it has. -/
theorem Kept.of_side (h : Kept ends s side) (hside : s'.side side = s.side side) :
    Kept ends s' side := by
  refine ⟨?_, ?_, ?_⟩
  · rw [Heartbeats.streamType, hside]
    exact h.streamType
  · rw [IsAttached, hside]
    exact h.attached
  · rw [times, hside]
    exact h.receiving

namespace Sound

theorem init (h : Initial ends s) : Sound ends s where
  accepted := h.accepted
  kept := fun side => by
    refine ⟨h.streamType side, fun hopened => ?_, fun hopened => ?_⟩
    · cases side with
      | Acceptor => exact h.attached
      | Connector =>
          rw [h.unconnected] at hopened
          cases hopened
    · cases side with
      | Acceptor =>
          rw [h.heard]
          exact h.receiving
      | Connector =>
          rw [h.unconnected] at hopened
          cases hopened
  sending := by
    rw [h.sending, h.sent]
    exact (milliseconds_tdiv _ 0).1
  answers := by simp [h.answers]
  requests := fun hopened => by
    rw [h.unconnected] at hopened
    cases hopened
  greeting := fun _ => by
    obtain ⟨id, key, hrequests⟩ := h.requests
    simp [hrequests, SessionPacket.isCreateRs]

theorem elapse (h : Sound ends s) (duration : Nat) :
    Sound ends { s with now := s.now + duration } where
  accepted := h.accepted
  kept := fun side => (h.kept side).of_side rfl
  sending := h.sending
  answers := h.answers
  requests := h.requests
  greeting := h.greeting

/-- One end changes, and still keeps what it should. -/
theorem kept_update (h : Sound ends s) {e : EndState} (hside : s'.side = Function.update s.side side e)
    (hkept : Kept ends s' side) (other : StreamType) : Kept ends s' other := by
  by_cases heq : other = side
  · subst heq
    exact hkept
  · refine (h.kept other).of_side ?_
    rw [hside, Function.update_of_ne heq]

end Sound

section Tick

variable {order : TickOrder ((s.side side).state.workers (ends side).worker)}
  (connectionCreatedTime : SocketStream → Int) (accepted : Nat → Bool)

/-- A tick at the acceptor's end asks, if it is time, and no other does. -/
theorem tick_cases (h : Sound ends s) (horder : order.Complete) :
    let x := onTick ends s side order connectionCreatedTime accepted
    Kept ends (tick ends s side x) side ∧
      ((side = .Acceptor ∧ x.written (ends side).stream =
            [⟨(ends side).stream, .heartbeatRq, errorNone⟩] ∧
          (times ends (tick ends s side x) side).lastHeartbeatSendingTime =
            ((ends side).clock s.now).tdiv 1000000) ∨
        (x.written (ends side).stream = [] ∧
          (side = .Acceptor →
            ¬ (tickTimes ends s side connectionCreatedTime).HeartbeatDue (ends side).option
                (ends side).session ∧
              (times ends (tick ends s side x) side).lastHeartbeatSendingTime =
                (times ends s side).lastHeartbeatSendingTime))) := by
  intro x
  have hside : (tick ends s side x).side side =
      { s.side side with state := x.state, sessions := x.times.sessions, ticked := s.now } :=
    Function.update_self _ _ _
  have htype := (h.kept side).streamType
  obtain ⟨hstreamType, hsilent⟩ := EngineState.streamType_onTick (ends side).option order
    (tickTimes ends s side connectionCreatedTime) accepted (ends side).stream
  have hkept : streamType ends (tick ends s side x) side = some side := by
    rw [Heartbeats.streamType, hside]
    exact hstreamType.trans htype
  by_cases hopened : (s.side side).opened = true
  · have hticks := EngineState.ticksSession_onTick (ends side).option
      (tickTimes ends s side connectionCreatedTime) accepted horder ((h.kept side).attached hopened)
    refine ⟨⟨hkept, fun _ => ?_, fun _ => ?_⟩, ?_⟩
    · rw [IsAttached, hside]
      exact hticks.attached
    · rw [times, hside]
      exact hticks.receiving.trans ((h.kept side).receiving hopened)
    · rcases hticks.sending with ⟨hacceptor, -, hwritten, hsending⟩ | ⟨hnot, hwritten, hsending⟩
      · refine .inl ⟨Option.some.inj (htype.symm.trans hacceptor), hwritten, ?_⟩
        rw [times, hside]
        exact hsending
      · refine .inr ⟨hwritten, fun hacceptor => ⟨fun hdue => hnot ⟨?_, hdue⟩, ?_⟩⟩
        · exact htype.trans (congrArg some hacceptor)
        · rw [times, hside]
          exact hsending
  · -- the connector before it has read the answer to its request
    have hconnector : side ≠ .Acceptor := by
      rintro rfl
      exact hopened h.accepted
    have hclosed : ((tick ends s side x).side side).opened ≠ true := by
      rw [hside]
      exact hopened
    refine ⟨⟨hkept, fun h => absurd h hclosed, fun h => absurd h hclosed⟩, .inr ⟨?_, ?_⟩⟩
    · refine hsilent fun hacceptor => hconnector ?_
      exact Option.some.inj (htype.symm.trans hacceptor)
    · exact fun h => absurd h hconnector

end Tick

/-! ## The times in every run -/

theorem pulse_ask {x : Ticked}
    (hwritten : x.written (ends .Acceptor).stream =
      [⟨(ends .Acceptor).stream, .heartbeatRq, errorNone⟩]) :
    (tick ends s .Acceptor x).pulse =
      { s.pulse with
        ticked := Function.update s.pulse.ticked .Acceptor s.now
        requests := s.pulse.requests ++ [s.now]
        sent := s.now } := by
  ext side : 2
  · rfl
  · cases side <;> rfl
  · cases side <;> rfl
  · rfl
  · simp [State.pulse, tick, hwritten, NetworkEngine.StreamType.other]
  · rfl
  · simp [State.pulse, tick, hwritten]

theorem pulse_tick {x : Ticked} (hwritten : x.written (ends side).stream = []) :
    (tick ends s side x).pulse =
      { s.pulse with ticked := Function.update s.pulse.ticked side s.now } := by
  have hinbound : (tick ends s side x).inbound = s.inbound := by
    simp [tick, hwritten]
  have hopened : ∀ other, ((tick ends s side x).side other).opened = (s.side other).opened := by
    intro other
    by_cases heq : other = side
    · subst heq
      simp [tick]
    · simp [tick, heq]
  ext other : 2
  · rfl
  · by_cases heq : other = side
    · subst heq
      simp [State.pulse, tick]
    · simp [State.pulse, tick, heq]
  · by_cases heq : other = side
    · subst heq
      simp [State.pulse, tick]
    · simp [State.pulse, tick, heq]
  · exact hopened .Connector
  · simp [State.pulse, hinbound]
  · simp [State.pulse, hinbound]
  · simp [State.pulse, tick, hwritten]

/-- The interval of the heartbeats, which is the acceptor's, in nanoseconds. -/
def interval (ends : StreamType → End) : Nat :=
  (ends .Acceptor).option.sessionHeartbeatIntervalMs * 1000000

/-- It is not time for a heartbeat. -/
theorem lt_of_not_heartbeatDue (h : Sound ends s) {connectionCreatedTime : SocketStream → Int}
    (hdue : ¬ (tickTimes ends s .Acceptor connectionCreatedTime).HeartbeatDue (ends .Acceptor).option
      (ends .Acceptor).session) : s.now < s.sent + interval ends := by
  have hsending := h.sending
  unfold TickTimes.HeartbeatDue tickTimes at hdue
  unfold times End.clock at hsending
  unfold End.clock at hdue
  unfold interval
  simp only [milliseconds] at hdue hsending
  omega

/-- Another request on its way to the connector. -/
theorem Sound.ask (h : Sound ends s) (hside : s'.side = Function.update s.side .Acceptor e)
    (hopened : e.opened = true) (hkept : Kept ends s' .Acceptor)
    (hsending : milliseconds (times ends s' .Acceptor).lastHeartbeatSendingTime ≤
      (ends .Acceptor).clock s'.sent)
    (hanswers : s'.inbound .Acceptor = s.inbound .Acceptor) {time : Nat}
    (hrequests : s'.inbound .Connector = s.inbound .Connector ++ [⟨.heartbeatRq, time, time⟩]) :
    Sound ends s' where
  accepted := by simp [hside, hopened]
  kept := h.kept_update hside hkept
  sending := hsending
  answers := by
    rw [hanswers]
    exact h.answers
  requests := by
    intro hconnected m hm
    rw [hrequests] at hm
    rcases List.mem_append.1 hm with hold | hnew
    · exact h.requests (by simpa [hside] using hconnected) m hold
    · rw [List.mem_singleton.1 hnew]
  greeting := by
    intro hconnected
    obtain ⟨⟨m, hhead, hcreate⟩, htail⟩ := h.greeting (by simpa [hside] using hconnected)
    obtain ⟨rest, hinbound⟩ := List.head?_eq_some_iff.1 hhead
    rw [hinbound] at htail
    rw [hrequests, hinbound]
    refine ⟨⟨m, rfl, hcreate⟩, fun m' hm' => ?_⟩
    rcases List.mem_append.1 hm' with hold | hnew
    · exact htail m' hold
    · rw [List.mem_singleton.1 hnew]

/-- A tick, as the times see it. -/
theorem sound_tick (h : Sound ends s)
    {order : TickOrder ((s.side side).state.workers (ends side).worker)} (horder : order.Complete)
    (connectionCreatedTime : SocketStream → Int) (accepted : Nat → Bool) :
    let s' := tick ends s side (onTick ends s side order connectionCreatedTime accepted)
    Sound ends s' ∧ ∃ e, Pulse.Step (interval ends) s.pulse e s'.pulse ∧
      ∀ duration, e ≠ .elapse duration := by
  obtain ⟨hkept, hcases⟩ := tick_cases connectionCreatedTime accepted h horder
  generalize onTick ends s side order connectionCreatedTime accepted = x at hkept hcases ⊢
  intro s'
  have hside : s'.side = Function.update s.side side
      { s.side side with state := x.state, sessions := x.times.sessions, ticked := s.now } := rfl
  -- only the acceptor asks, and only when its time has come
  rcases hcases with ⟨rfl, hwritten, hsending⟩ | ⟨hwritten, hacceptor⟩
  · have hrequests : s'.inbound .Connector = s.inbound .Connector ++ [⟨.heartbeatRq, s.now, s.now⟩] := by
      simp [s', tick, hwritten, NetworkEngine.StreamType.other]
    have hsent : s'.sent = s.now := by
      simp [s', tick, hwritten]
    refine ⟨h.ask hside h.accepted hkept ?_ rfl hrequests, .ask, ?_, by simp⟩
    · rw [hsending, hsent]
      exact (milliseconds_tdiv _ _).1
    · rw [pulse_ask hwritten]
      exact .ask
  · have hinbound : s'.inbound = s.inbound := by
      simp [s', tick, hwritten]
    have hsent : s'.sent = s.sent := by
      simp [s', tick, hwritten]
    have hopened : ∀ other, (s'.side other).opened = (s.side other).opened := by
      intro other
      by_cases heq : other = side
      · subst heq
        simp [hside]
      · simp [hside, heq]
    refine ⟨⟨?_, h.kept_update hside hkept, ?_, ?_, ?_, ?_⟩, .tick side, ?_, by simp⟩
    · rw [hopened]
      exact h.accepted
    · rw [hsent]
      cases side with
      | Acceptor =>
          rw [(hacceptor rfl).2]
          exact h.sending
      | Connector => exact h.sending
    · rw [hinbound]
      exact h.answers
    · rw [hopened, hinbound]
      exact h.requests
    · rw [hopened, hinbound]
      exact h.greeting
    · rw [pulse_tick hwritten]
      refine .tick fun heq => ?_
      subst heq
      exact lt_of_not_heartbeatDue h (hacceptor rfl).1

section Heartbeat

theorem operate_heartbeat (now : Int) (x : SessionTimes) {packet : SessionPacket}
    (h : packet.isHeartbeat = true) :
    (heartbeatOperations packet).foldl (SessionTimes.operate now) x =
      { x with lastHeartbeatReceivingTime := now.tdiv 1000000 } := by
  cases packet with
  | heartbeatRq => rfl
  | heartbeatRs => rfl
  | _ => cases h

variable {m : Posted} (rest : List Posted)

/-- The time of the heartbeat is kept, and nothing else of the session changes. -/
theorem kept_heartbeat (h : Kept ends s side) (hm : m.packet.isHeartbeat = true) :
    Kept ends (heartbeat ends s side m rest) side ∧
      (times ends (heartbeat ends s side m rest) side).lastHeartbeatSendingTime =
        (times ends s side).lastHeartbeatSendingTime := by
  have hside : (heartbeat ends s side m rest).side side =
      { s.side side with
        sessions := Function.update (s.side side).sessions (ends side).session
          ((heartbeatOperations m.packet).foldl
            (SessionTimes.operate ((ends side).clock s.now)) (times ends s side))
        heard := s.now } := Function.update_self _ _ _
  have htimes : times ends (heartbeat ends s side m rest) side =
      { times ends s side with
        lastHeartbeatReceivingTime := ((ends side).clock s.now).tdiv 1000000 } := by
    rw [times, hside, operate_heartbeat _ _ hm]
    exact Function.update_self _ _ _
  refine ⟨⟨?_, fun hopened => ?_, fun _ => ?_⟩, by rw [htimes]⟩
  · rw [Heartbeats.streamType, hside]
    exact h.streamType
  · rw [hside] at hopened
    rw [IsAttached, hside]
    exact h.attached hopened
  · rw [htimes, hside]

variable {rest}

/-- A heartbeat is read, as the times see it. -/
theorem sound_heartbeat (h : Sound ends s) (hopened : (s.side side).opened = true)
    (hinbound : s.inbound side = m :: rest) (hm : m.packet.isHeartbeat = true) :
    let s' := heartbeat ends s side m rest
    Sound ends s' ∧ ∃ e, Pulse.Step (interval ends) s.pulse e s'.pulse ∧
      ∀ duration, e ≠ .elapse duration := by
  intro s'
  obtain ⟨hkept, hsending⟩ := kept_heartbeat rest (h.kept side) hm
  obtain ⟨packet, time, requested⟩ := m
  cases side with
  | Connector =>
      -- the connector has a request to read, and answers it
      obtain rfl : packet = .heartbeatRq := by
        refine h.requests hopened ⟨packet, time, requested⟩ ?_
        rw [hinbound]
        exact List.mem_cons_self
      have hanswers : s'.inbound .Acceptor = s.inbound .Acceptor ++ [⟨.heartbeatRs, s.now, time⟩] :=
        rfl
      have hrequests : s'.inbound .Connector = rest := rfl
      have hrest : ∀ m ∈ rest, m ∈ s.inbound .Connector := fun m hm => by
        rw [hinbound]
        exact List.mem_cons_of_mem _ hm
      refine ⟨⟨h.accepted, h.kept_update rfl hkept, h.sending, ?_, ?_, ?_⟩, .answer, ?_, by simp⟩
      · intro m hm
        rw [hanswers] at hm
        rcases List.mem_append.1 hm with hold | hnew
        · exact h.answers m hold
        · rw [List.mem_singleton.1 hnew]
      · exact fun _ m hm => h.requests hopened m (hrest m hm)
      · intro hclosed
        exact absurd (hopened.symm.trans hclosed) (by decide)
      · have hpulse : s'.pulse =
            { s.pulse with
              heard := Function.update s.pulse.heard .Connector s.pulse.now
              requests := rest.map Posted.time
              answers := s.pulse.answers ++ [(s.pulse.now, time)] } := by
          ext side : 2
          · rfl
          · cases side <;> rfl
          · cases side <;> rfl
          · rfl
          · rfl
          · simp [State.pulse, hanswers]
          · rfl
        rw [hpulse]
        refine .answer hopened ?_
        simp [State.pulse, hinbound]
  | Acceptor =>
      -- the acceptor has an answer to read, and says nothing
      obtain rfl : packet = .heartbeatRs := by
        refine h.answers ⟨packet, time, requested⟩ ?_
        rw [hinbound]
        exact List.mem_cons_self
      have hrequests : s'.inbound .Connector = s.inbound .Connector := List.append_nil _
      refine ⟨⟨h.accepted, h.kept_update rfl hkept, ?_, ?_, hrequests ▸ h.requests,
        hrequests ▸ h.greeting⟩, .hear, ?_, by simp⟩
      · rw [hsending]
        exact h.sending
      · intro m hm
        refine h.answers m ?_
        rw [hinbound]
        exact List.mem_cons_of_mem _ hm
      · have hpulse : s'.pulse =
            { s.pulse with
              heard := Function.update s.pulse.heard .Acceptor s.pulse.now
              answers := rest.map fun m => (m.time, m.requested) } := by
          ext side : 2
          · rfl
          · cases side <;> rfl
          · cases side <;> rfl
          · rfl
          · simp [State.pulse, hrequests]
          · rfl
          · rfl
        have hanswers : s.pulse.answers =
            (time, requested) :: rest.map fun m => (m.time, m.requested) := by
          simp [State.pulse, hinbound]
        rw [hpulse]
        exact .hear hanswers

end Heartbeat

/-- The answer to the connector's request is read, as the times see it. -/
theorem sound_openSession (h : Sound ends s) {m : Posted} {rest : List Posted}
    {option : NetworkEngineOption} {answers : Answers}
    (hclosed : (s.side .Connector).opened = false) (hinbound : s.inbound .Connector = m :: rest)
    (hpacket : m.packet.isCreateRs = true)
    (hworker : option.workerIndex (ends .Connector).stream = (ends .Connector).worker)
    (hprovides : (s.side .Connector).state.Provides option answers (ends .Connector).stream
      (ends .Connector).session) :
    let s' := openSession ends s option answers m rest
    IsOpen ends s' .Connector ∧ Sound ends s' ∧
      ∃ e, Pulse.Step (interval ends) s.pulse e s'.pulse ∧ ∀ duration, e ≠ .elapse duration := by
  intro s'
  obtain ⟨hattached, hisOpen, htype⟩ :=
    EngineState.attached_of_createRs hprovides (h.kept .Connector).streamType hpacket
  rw [hworker] at hattached hisOpen
  have hkept : Kept ends s' .Connector := by
    refine ⟨htype, fun _ => hattached, fun _ => ?_⟩
    -- what the packet opens is heard of now for the first time
    simp [s', openSession, times]
  have hrest := (h.greeting hclosed).2
  rw [hinbound] at hrest
  refine ⟨hisOpen, ⟨h.accepted, h.kept_update rfl hkept, h.sending, h.answers, fun _ => hrest, ?_⟩,
    .greet, ?_, by simp⟩
  · intro hopened
    cases hopened
  · have hpulse : s'.pulse =
        { s.pulse with
          heard := Function.update s.pulse.heard .Connector s.pulse.now
          greeted := true
          requests := rest.map Posted.time } := by
      ext side : 2
      · rfl
      · cases side <;> rfl
      · cases side <;> rfl
      all_goals rfl
    have hrequests : s.pulse.requests = m.time :: rest.map Posted.time := by
      simp [State.pulse, hinbound]
    rw [hpulse]
    exact .greet hclosed hrequests

/-- Nothing of the session has changed. -/
theorem sound_engine (h : Sound ends s) {state : EngineState} {sessions : Nat → SessionTimes}
    (hstreamType : streamType ends (engine s side state sessions) side = streamType ends s side)
    (hattached : (s.side side).opened = true → IsAttached ends (engine s side state sessions) side)
    (htimes : times ends (engine s side state sessions) side = times ends s side) :
    Sound ends (engine s side state sessions) ∧ (engine s side state sessions).pulse = s.pulse := by
  have hside : ∀ other, ((engine s side state sessions).side other).opened =
      (s.side other).opened ∧ ((engine s side state sessions).side other).heard =
        (s.side other).heard ∧ ((engine s side state sessions).side other).ticked =
          (s.side other).ticked := by
    intro other
    by_cases heq : other = side
    · subst heq
      simp [engine]
    · simp [engine, heq]
  have hkept : Kept ends (engine s side state sessions) side := by
    have hold := h.kept side
    refine ⟨hstreamType.trans hold.streamType, fun hopened => ?_, fun hopened => ?_⟩
    · exact hattached ((hside side).1 ▸ hopened)
    · rw [htimes, (hside side).2.1]
      exact hold.receiving ((hside side).1 ▸ hopened)
  refine ⟨⟨?_, h.kept_update rfl hkept, ?_, h.answers, ?_, ?_⟩, ?_⟩
  · rw [(hside .Acceptor).1]
    exact h.accepted
  · cases side with
    | Acceptor =>
        rw [htimes]
        exact h.sending
    | Connector => exact h.sending
  · rw [(hside .Connector).1]
    exact h.requests
  · rw [(hside .Connector).1]
    exact h.greeting
  · ext other : 2
    · rfl
    · exact (hside other).2.2
    · exact (hside other).2.1
    · exact (hside .Connector).1
    all_goals rfl

/-- Every step keeps the ends sound, and is one of the times or no step of them at all. -/
theorem sound_step {event : Event} (h : Sound ends s) (hstep : Step ends s event s') :
    Sound ends s' ∧ (s'.pulse = s.pulse ∨ ∃ e, Pulse.Step (interval ends) s.pulse e s'.pulse ∧
      ∀ duration, e = .elapse duration → event = .elapse duration) := by
  have hother : ∀ {s' : State}, (Sound ends s' ∧ ∃ e, Pulse.Step (interval ends) s.pulse e s'.pulse ∧
      ∀ duration, e ≠ .elapse duration) →
      Sound ends s' ∧ (s'.pulse = s.pulse ∨ ∃ e, Pulse.Step (interval ends) s.pulse e s'.pulse ∧
        ∀ duration, e = .elapse duration → event = .elapse duration) := by
    rintro s' ⟨hsound, e, hpulse, hne⟩
    exact ⟨hsound, .inr ⟨e, hpulse, fun duration heq => absurd heq (hne duration)⟩⟩
  cases hstep with
  | elapse duration =>
      refine ⟨h.elapse duration, .inr ⟨.elapse duration, .elapse duration, fun _ heq => ?_⟩⟩
      cases heq
      rfl
  | tick connectionCreatedTime accepted horder =>
      exact hother (sound_tick h horder connectionCreatedTime accepted)
  | heartbeat hopened hinbound hm => exact hother (sound_heartbeat h hopened hinbound hm)
  | openSession hclosed hinbound hpacket hworker hprovides =>
      exact hother (sound_openSession h hclosed hinbound hpacket hworker hprovides).2
  | engine hstreamType hattached _ htimes =>
      obtain ⟨hsound, hpulse⟩ := sound_engine h hstreamType hattached htimes
      exact ⟨hsound, .inl hpulse⟩

/-! ## Open and closed sessions -/

/-- The timeout of the sessions of an end, in nanoseconds. -/
def timeout (ends : StreamType → End) (side : StreamType) : Nat :=
  (ends side).option.sessionIdleTimeoutMs * 1000000

/-- A session is idle when nothing has been heard of it for its timeout, or for up to a millisecond
less, since that is what its times are counted in. -/
theorem Sound.idle (h : Sound ends s) (hopened : (s.side side).opened = true)
    (connectionCreatedTime : SocketStream → Int) :
    let idle := (tickTimes ends s side connectionCreatedTime).Idle (ends side).option
      (ends side).session
    ((s.side side).heard + timeout ends side ≤ s.now → idle) ∧
      (idle → (s.side side).heard + timeout ends side < s.now + 1000000) := by
  have hreceiving := (h.kept side).receiving hopened
  obtain ⟨hle, hlt⟩ := milliseconds_tdiv (ends side) (s.side side).heard
  rw [← hreceiving] at hle hlt
  unfold times at hle hlt
  unfold TickTimes.Idle tickTimes timeout
  unfold End.clock at hle hlt ⊢
  simp only [milliseconds] at hle hlt ⊢
  omega

/-- A tick closes the session if it is idle, and only then. -/
theorem Sound.isOpen_tick (h : Sound ends s) (hopened : (s.side side).opened = true)
    {order : TickOrder ((s.side side).state.workers (ends side).worker)} (horder : order.Complete)
    (connectionCreatedTime : SocketStream → Int) (accepted : Nat → Bool) :
    IsOpen ends (tick ends s side (onTick ends s side order connectionCreatedTime accepted)) side ↔
      IsOpen ends s side ∧
        ¬ (tickTimes ends s side connectionCreatedTime).Idle (ends side).option
          (ends side).session := by
  have hticks := EngineState.ticksSession_onTick (ends side).option
    (tickTimes ends s side connectionCreatedTime) accepted horder ((h.kept side).attached hopened)
  have hside : (tick ends s side (onTick ends s side order connectionCreatedTime accepted)).side side =
      { s.side side with
        state := (onTick ends s side order connectionCreatedTime accepted).state
        sessions := (onTick ends s side order connectionCreatedTime accepted).times.sessions
        ticked := s.now } := Function.update_self _ _ _
  rw [IsOpen, hside]
  exact hticks.opened

variable (ends) in
/-- What a step means to the session of an end. -/
inductive Passes (s s' : State) (side : StreamType) : Prop
  | same (hopened : (s'.side side).opened = (s.side side).opened)
      (hisOpen : IsOpen ends s' side ↔ IsOpen ends s side)
      (hticked : (s'.side side).ticked = (s.side side).ticked)
      (hheard : (s'.side side).heard = (s.side side).heard ∨ (s'.side side).heard = s'.now)
  | ticked (hopened : (s'.side side).opened = (s.side side).opened)
      (hticked : (s'.side side).ticked = s'.now)
      (hheard : (s'.side side).heard = (s.side side).heard)
      (hkept : (s.side side).opened = true → IsOpen ends s side →
        s'.now + 1000000 ≤ (s'.side side).heard + timeout ends side → IsOpen ends s' side)
      (hclosed : (s.side side).opened = true → IsOpen ends s' side →
        s'.now ≤ (s'.side side).heard + timeout ends side)
  | opened (hisOpen : IsOpen ends s' side)
      (hticked : (s'.side side).ticked = (s.side side).ticked)
      (hheard : (s'.side side).heard = s'.now)

theorem Passes.of_side (hside : s'.side side = s.side side) : Passes ends s s' side := by
  refine .same (by rw [hside]) ?_ (by rw [hside]) (.inl (by rw [hside]))
  rw [IsOpen, hside, IsOpen]

theorem passes_step {event : Event} (h : Sound ends s) (hstep : Step ends s event s')
    (side : StreamType) : Passes ends s s' side := by
  cases hstep with
  | elapse duration => exact .of_side rfl
  | @tick other order connectionCreatedTime accepted horder =>
      by_cases heq : side = other
      · subst heq
        have hside : ∀ x, (tick ends s side x).side side =
            { s.side side with state := x.state, sessions := x.times.sessions, ticked := s.now } :=
          fun x => Function.update_self _ _ _
        refine .ticked (by rw [hside]) (by rw [hside]; rfl) (by rw [hside]) ?_ ?_
        · intro hopened hisOpen hnow
          refine (h.isOpen_tick hopened horder connectionCreatedTime accepted).2 ⟨hisOpen, fun hidle => ?_⟩
          have hlt := (h.idle hopened connectionCreatedTime).2 hidle
          rw [hside] at hnow
          exact absurd hnow (Nat.not_le.2 hlt)
        · intro hopened hisOpen
          have hbusy := ((h.isOpen_tick hopened horder connectionCreatedTime accepted).1 hisOpen).2
          rw [hside]
          by_contra hsilent
          exact hbusy ((h.idle hopened connectionCreatedTime).1 (Nat.le_of_lt (Nat.not_le.1 hsilent)))
      · exact .of_side (Function.update_of_ne heq _ _)
  | @heartbeat other m rest hopened hinbound hm =>
      by_cases heq : side = other
      · subst heq
        have hside : (heartbeat ends s side m rest).side side = _ := Function.update_self _ _ _
        refine .same (by rw [hside]) ?_ (by rw [hside]) (.inr (by rw [hside]; rfl))
        rw [IsOpen, hside, IsOpen]
      · exact .of_side (Function.update_of_ne heq _ _)
  | @openSession m rest option answers hclosed hinbound hpacket hworker hprovides =>
      by_cases heq : side = .Connector
      · subst heq
        exact .opened (sound_openSession h hclosed hinbound hpacket hworker hprovides).1 rfl rfl
      · exact .of_side (Function.update_of_ne heq _ _)
  | @engine other state sessions hstreamType hattached hisOpen htimes =>
      by_cases heq : side = other
      · subst heq
        have hside : (engine s side state sessions).side side = _ := Function.update_self _ _ _
        exact .same (by rw [hside]) hisOpen (by rw [hside]) (.inl (by rw [hside]))
      · exact .of_side (Function.update_of_ne heq _ _)

/-! ## Runs -/

variable {period latency : Nat}

/-- When the worker ticked last, the session was not idle. -/
structure Watched (ends : StreamType → End) (period : Nat) (s : State) (side : StreamType) : Prop where
  past : (s.side side).ticked ≤ s.now
  ticked : s.now ≤ (s.side side).ticked + period
  busy : (s.side side).opened = true → IsOpen ends s side →
    (s.side side).ticked ≤ (s.side side).heard + timeout ends side

/-- Time passes in no step but its own. -/
theorem now_step {event : Event} (hticking : Ticking period s event) (hstep : Step ends s event s') :
    s.now ≤ s'.now ∧ (s'.now = s.now ∨ ∀ side, s'.now ≤ (s.side side).ticked + period) := by
  cases hstep with
  | elapse duration => exact ⟨Nat.le_add_right _ _, .inr hticking⟩
  | tick | heartbeat | openSession | engine => exact ⟨Nat.le_refl _, .inl rfl⟩

theorem Watched.step {event : Event} (h : Watched ends period s side) (hsound : Sound ends s)
    (hticking : Ticking period s event) (hstep : Step ends s event s') :
    Watched ends period s' side := by
  obtain ⟨hnow, hperiod⟩ := now_step hticking hstep
  have hnext : s'.now ≤ (s.side side).ticked + period := by
    rcases hperiod with heq | hle
    · rw [heq]
      exact h.ticked
    · exact hle side
  have hpast := h.past.trans hnow
  cases passes_step hsound hstep side with
  | same hopened hisOpen hticked hheard =>
      refine ⟨hticked ▸ hpast, hticked ▸ hnext, fun hopened' hisOpen' => ?_⟩
      rw [hticked]
      rcases hheard with hheard | hheard
      · rw [hheard]
        exact h.busy (hopened ▸ hopened') (hisOpen.1 hisOpen')
      · rw [hheard]
        exact hpast.trans (Nat.le_add_right _ _)
  | ticked hopened hticked hheard _ hclosed =>
      refine ⟨hticked.le, by omega, fun hopened' hisOpen' => ?_⟩
      rw [hticked]
      exact hclosed (hopened ▸ hopened') hisOpen'
  | opened _ hticked hheard =>
      refine ⟨hticked ▸ hpast, hticked ▸ hnext, fun _ _ => ?_⟩
      rw [hticked, hheard]
      exact hpast.trans (Nat.le_add_right _ _)

theorem watched_of_ticking (h : ((machine ends).restrict (Ticking period)).Reachable s) :
    Sound ends s ∧ ∀ side, Watched ends period s side := by
  induction h with
  | init hinit =>
      refine ⟨.init hinit, fun side => ⟨?_, ?_, fun _ _ => ?_⟩⟩
      · rw [hinit.ticked, hinit.now]
      · rw [hinit.now]
        exact Nat.zero_le _
      · rw [hinit.ticked]
        exact Nat.zero_le _
  | step _ hstep ih =>
      obtain ⟨hsound, hwatched⟩ := ih
      obtain ⟨hticking, hstep⟩ := hstep
      exact ⟨(sound_step hsound hstep).1, fun side => (hwatched side).step hsound hticking hstep⟩

/-- In every run in which both ends tick at least every `period`, a session of which nothing has been
heard for longer than its timeout and a tick is closed. -/
theorem closed_in_silence (h : ((machine ends).restrict (Ticking period)).Reachable s)
    (hopened : (s.side side).opened = true)
    (hsilent : (s.side side).heard + (timeout ends side + period) < s.now) :
    ¬ IsOpen ends s side := by
  intro hisOpen
  obtain ⟨-, hwatched⟩ := watched_of_ticking h
  have hbusy := (hwatched side).busy hopened hisOpen
  have hticked := (hwatched side).ticked
  omega

/-! ## A connection -/

section Sample

/-- The defaults of `NetworkEngineOption`, and clocks that differ. -/
def sampleEnds (side : StreamType) : End where
  option := ⟨5000, 5000, 2000, 30000⟩
  clockStart := match side with
    | .Acceptor => 7000400000
    | .Connector => 91000000
  worker := 0
  stream := match side with
    | .Acceptor => .acceptor 0
    | .Connector => .connector 0
  session := 1

/-- A worker with one socket, and one session at most. -/
def sampleWorker (side : StreamType) (session : Option Nat) : SocketWorkerInfo where
  activatedSockets := {(sampleEnds side).stream}
  openedSessions := session.elim ∅ ({·})

/-- The stream is connected, and may have a session. -/
def sampleEngine (side : StreamType) (session : Option Nat) : EngineState where
  sessionPool := ∅
  streams := UnorderedMap.empty.insert (sampleEnds side).stream
    { link := .connected, session, streamType := some side }
  workers := fun _ => sampleWorker side session
  connectorList := fun _ => some {}

/-- The acceptor has opened the session and answered. -/
def sampleStart : State where
  now := 0
  side := fun side =>
    { state := sampleEngine side (if side = .Acceptor then some 1 else none)
      sessions := fun _ => { lastHeartbeatReceivingTime := 7000, lastHeartbeatSendingTime := 7000 }
      opened := side = .Acceptor
      ticked := 0
      heard := 0 }
  inbound := fun side =>
    if side = .Acceptor then [] else [⟨.sessionCreateRs 1 emptySessionKey, 0, 0⟩]
  sent := 0

theorem stream_sampleEngine (side : StreamType) (session : Option Nat) (t : SocketStream) :
    ((sampleEngine side session).stream t).session =
      if t = (sampleEnds side).stream then session else none := by
  by_cases ht : t = (sampleEnds side).stream <;> simp [sampleEngine, EngineState.stream, ht]

theorem attached_sampleEngine (side : StreamType) :
    (sampleEngine side (some 1)).Attached 0 (sampleEnds side).stream 1 where
  session := by simp [stream_sampleEngine]
  only := by
    intro t ht
    by_contra hne
    simp [stream_sampleEngine, hne] at ht
  activated := Finset.mem_singleton_self _

theorem initial_sampleStart : Initial sampleEnds sampleStart where
  now := rfl
  sent := rfl
  ticked := fun _ => rfl
  heard := fun _ => rfl
  streamType := fun side => by cases side <;> rfl
  accepted := rfl
  unconnected := rfl
  attached := attached_sampleEngine .Acceptor
  isOpen := by decide
  receiving := by decide
  sending := by decide
  answers := rfl
  requests := ⟨1, emptySessionKey, rfl⟩

/-- The only order in which such a worker can be gone through. -/
def sampleOrder (side : StreamType) (session : Option Nat) {w : SocketWorkerInfo}
    (h : w = sampleWorker side session) : TickOrder w where
  sockets := [(sampleEnds side).stream]
  opened := session.toList
  abandoned := []
  nodup_abandoned := List.nodup_nil
  mem_sockets := by simp [h, sampleWorker]
  mem_opened := by cases session <;> simp [h, sampleWorker]
  nodup_opened := by cases session <;> simp
  mem_abandoned := by simp [h, sampleWorker]

theorem complete_sampleOrder (side : StreamType) (session : Option Nat) {w : SocketWorkerInfo}
    (h : w = sampleWorker side session) : (sampleOrder side session h).Complete where
  nodup_sockets := List.nodup_singleton _
  sockets := by simp [sampleOrder, h, sampleWorker]
  opened := by cases session <;> simp [sampleOrder, h, sampleWorker]

/-- A tick of a worker with one socket. -/
def ticks (s : State) (side : StreamType) (session : Option Nat)
    (h : (s.side side).state.workers 0 = sampleWorker side session) : State :=
  tick sampleEnds s side
    (onTick sampleEnds s side (sampleOrder side session h) (fun _ => 0) fun _ => true)

def elapsed (duration : Nat) (s : State) : State := { s with now := s.now + duration }

def sampleOption : NetworkEngineOption := ⟨false, 1, 1, Nat.one_pos⟩

/-- The connector has read the answer. -/
def connected : State :=
  openSession sampleEnds (elapsed 300000000 sampleStart) sampleOption { pop := some 1 }
    ⟨.sessionCreateRs 1 emptySessionKey, 0, 0⟩ []

theorem workers_connected (side : StreamType) :
    ((elapsed 1700000000 connected).side side).state.workers 0 = sampleWorker side (some 1) := by
  cases side <;> decide

/-- The acceptor ticks, and asks. -/
def asked : State :=
  ticks (elapsed 1700000000 connected) .Acceptor (some 1) (workers_connected .Acceptor)

/-- The connector ticks. -/
def ticked : State := ticks asked .Connector (some 1) (workers_connected .Connector)

/-- The acceptor ticks after six seconds. -/
def overdue : State := ticks (elapsed 6000000000 sampleStart) .Acceptor (some 1) rfl

/-- And so does the connector, which has read nothing. -/
def unheard : State := ticks overdue .Connector none rfl

/-- The same time passes once more. -/
def silent : State := elapsed 6000000000 unheard

theorem reachable_silent : ((machine sampleEnds).restrict (Ticking 6000000000)).Reachable silent := by
  have hpassed : ((machine sampleEnds).restrict (Ticking 6000000000)).Reachable
      (elapsed 6000000000 sampleStart) :=
    .step (e := .elapse 6000000000) (.init initial_sampleStart)
      ⟨fun side => by cases side <;> decide, .elapse _⟩
  have hoverdue : ((machine sampleEnds).restrict (Ticking 6000000000)).Reachable overdue :=
    hpassed.step (e := .tick .Acceptor)
      ⟨trivial, .tick _ _ (complete_sampleOrder .Acceptor (some 1) rfl)⟩
  have hunheard : ((machine sampleEnds).restrict (Ticking 6000000000)).Reachable unheard :=
    hoverdue.step (e := .tick .Connector)
      ⟨trivial, .tick _ _ (complete_sampleOrder .Connector none rfl)⟩
  exact hunheard.step (e := .elapse 6000000000) ⟨fun side => by cases side <;> decide, .elapse _⟩

theorem closed_in_silence_silent : ¬ IsOpen sampleEnds silent .Acceptor :=
  closed_in_silence reachable_silent rfl (by decide)

end Sample

end Heartbeats

end Engine
end SeamlessServer
