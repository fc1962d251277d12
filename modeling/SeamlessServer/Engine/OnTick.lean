import SeamlessServer.Data.History
import SeamlessServer.Data.Loop
import SeamlessServer.Engine.Streams

/-!
# Engine.OnTick — what a socket worker does between its completions

`NetworkEngine::OnTick` of `engine/NetworkEngine.cpp` as one function: idle sockets and idle sessions
are closed, heartbeats are sent, and abandoned sessions whose time is up are given up.  `onTick_run`
connects it with the events of `Engine.Reconnect`, between which other threads may come.

The sockets and sessions of a worker are met in the order in which its maps are iterated.  Times are
those of `std::chrono`: `now` counts nanoseconds, and the times of a session milliseconds.
-/

namespace SeamlessServer
namespace Engine

/-- The part of `NetworkEngineOption` that `OnTick` reads. -/
structure TimeoutOption where
  socketIdleTimeoutMs : Nat
  sessionIdleTimeoutMs : Nat
  sessionHeartbeatIntervalMs : Nat
  sessionReconnectTimeoutMs : Nat

/-- The times of a `Session`, in milliseconds. -/
structure SessionTimes where
  lastHeartbeatReceivingTime : Int := 0
  lastHeartbeatSendingTime : Int := 0
  /-- `UpdateAbandonedTime` is called nowhere. -/
  abandonedTime : Int := 0

structure TickTimes where
  now : Int
  connectionCreatedTime : SocketStream → Int
  sessions : Nat → SessionTimes := fun _ => {}

/-- Milliseconds as nanoseconds. -/
def milliseconds (count : Int) : Int := count * 1000000

/-- The order in which the maps of a worker are iterated. -/
structure TickOrder (worker : SocketWorkerInfo) where
  sockets : List SocketStream
  opened : List Nat
  abandoned : List Nat
  nodup_abandoned : abandoned.Nodup
  mem_sockets : ∀ t ∈ sockets, t ∈ worker.activatedSockets
  mem_opened : ∀ id ∈ opened, id ∈ worker.openedSessions
  nodup_opened : opened.Nodup
  mem_abandoned : ∀ id, id ∈ abandoned ↔ id ∈ worker.abandonedSessions

/-- A tick in progress.  `deletedSession` is a variable of the thread and empty between two loops. -/
structure Ticked where
  state : EngineState
  times : TickTimes
  writes : List Write := []
  deletedSession : List Nat := []

/-- The logic worker is told that an abandoned session is closed. -/
def EngineState.sendExpired (s : EngineState) (id : Nat) (accepted : Bool) : EngineState :=
  let s := s.sendSocketContext .SessionClosed id accepted
  if accepted then s.note id .expired else s

namespace Ticked

section Loops

variable (option : TimeoutOption) (accepted : Nat → Bool) (x : Ticked)

/-- An activated socket is closed if it has been idle for too long, or a heartbeat is sent. -/
def tickSocket (t : SocketStream) : Ticked :=
  match (x.state.stream t).session with
  | none =>
      -- a socket that has not become a session
      if x.times.now ≥ x.times.connectionCreatedTime t + milliseconds option.socketIdleTimeoutMs then
        { x with state := x.state.transmitDisconnect t gracefulShutdownCode .graceful }
      else
        x
  | some id =>
      let times := x.times.sessions id
      -- only an acceptor sends heartbeats
      if (x.state.stream t).streamType = some .Acceptor ∧
          x.times.now ≥ milliseconds times.lastHeartbeatSendingTime +
            milliseconds option.sessionHeartbeatIntervalMs then
        { x with
          writes := x.writes ++ [⟨t, .heartbeatRq, NetworkEngine.errorNone⟩]
          times := { x.times with
            sessions := Function.update x.times.sessions id
              { times with lastHeartbeatSendingTime := x.times.now.tdiv 1000000 } } }
      else
        x

/-- An opened session is closed if it has been idle for too long. -/
def tickOpened (id : Nat) : Ticked :=
  if x.times.now ≥ milliseconds (x.times.sessions id).lastHeartbeatReceivingTime +
      milliseconds option.sessionIdleTimeoutMs then
    { x with
      deletedSession := x.deletedSession ++ [id]
      state := x.state.closeSession id }
  else
    x

/-- The loop over the abandoned sessions, with its `continue`s and its `break`.  The second test finds
nothing: only sessions in the state `Wait` come to it. -/
def tickAbandoned : List Nat → Ticked → Ticked
  | [], x => x
  | id :: rest, x =>
      let state := x.state.state id
      -- `continue`
      if state ≠ .Wait then
        tickAbandoned rest x
      else if state = .Opened ∨ state = .Closed then
        tickAbandoned rest { x with deletedSession := x.deletedSession ++ [id] }
      else if x.times.now ≥ milliseconds (x.times.sessions id).abandonedTime +
          milliseconds option.sessionReconnectTimeoutMs then
        let x := { x with deletedSession := x.deletedSession ++ [id] }
        match x.state.removeIf id (·.changeSessionState .Wait .Closed) with
        -- `break`
        | (s, false) => { x with state := s }
        | (s, true) => tickAbandoned rest { x with state := s.sendExpired id (accepted id) }
      else
        tickAbandoned rest x

def eraseOpened (index : Nat) : Ticked :=
  let worker := x.state.workers index
  { x with
    state := x.state.setWorker index
      { worker with openedSessions := worker.openedSessions \ x.deletedSession.toFinset }
    deletedSession := [] }

def eraseAbandoned (index : Nat) : Ticked :=
  let worker := x.state.workers index
  { x with
    state := x.state.setWorker index
      { worker with abandonedSessions := worker.abandonedSessions \ x.deletedSession.toFinset }
    deletedSession := [] }

end Loops

end Ticked

/-- `NetworkEngine::OnTick`.  `accepted` are the results of `Submit`. -/
def EngineState.onTick (s : EngineState) (option : TimeoutOption) (index : Nat)
    (order : TickOrder (s.workers index)) (times : TickTimes) (accepted : Nat → Bool) : Ticked :=
  let x := order.sockets.foldl (Ticked.tickSocket option) { state := s, times }
  let x := (order.opened.foldl (Ticked.tickOpened option) x).eraseOpened index
  (Ticked.tickAbandoned option accepted order.abandoned x).eraseAbandoned index

namespace EngineState

/-! ## The list of the engine -/

/-- A waiting session is taken from the list and closed. -/
def closeWaiting (s : EngineState) (id : Nat) : EngineState :=
  { s.setSession id ((s.sessions id).changeSessionState .Wait .Closed).1 with
    abandonedSessionList := s.abandonedSessionList.erase id }

section RemoveIf

variable {s : EngineState} {id : Nat}

theorem removeIf_of_mem (hwait : s.state id = .Wait) (hlisted : id ∈ s.abandonedSessionList) :
    s.removeIf id (·.changeSessionState .Wait .Closed) = (s.closeWaiting id, true) := by
  have hstate : (s.sessions id).sessionState = .Wait := hwait
  have hsuccess : ((s.sessions id).changeSessionState .Wait .Closed).2 = true := by
    simp [SocketSession.changeSessionState_success, hstate]
  unfold removeIf
  rw [if_pos hlisted]
  dsimp only
  rw [if_pos hsuccess]
  rfl

theorem removeIf_of_not_mem {processor : SocketSession → SocketSession × Bool}
    (hlisted : id ∉ s.abandonedSessionList) : s.removeIf id processor = (s, false) := by
  simp [removeIf, hlisted]

end RemoveIf

/-! ## What nothing takes back -/

/-- Chains stay in the queue and requests with the stream, and no session changes its stream. -/
structure Grows (s s' : EngineState) : Prop where
  queue : ∀ chain ∈ s.queue, chain ∈ s'.queue
  requests : ∀ t, ∀ requester ∈ (s.stream t).requests, requester ∈ (s'.stream t).requests
  socketStream : ∀ id, (s'.sessions id).socketStream = (s.sessions id).socketStream

section Grows

variable {s s' s'' : EngineState}

theorem Grows.refl (s : EngineState) : Grows s s := ⟨fun _ h => h, fun _ _ h => h, fun _ => rfl⟩

theorem Grows.trans (h : Grows s s') (h' : Grows s' s'') : Grows s s'' where
  queue := fun chain hchain => h'.queue chain (h.queue chain hchain)
  requests := fun t requester hreq => h'.requests t requester (h.requests t requester hreq)
  socketStream := fun id => (h'.socketStream id).trans (h.socketStream id)

theorem grows_transmitDisconnect (t : SocketStream) (attachment : Nat) (requester : Requester) :
    Grows s (s.transmitDisconnect t attachment requester) := by
  refine ⟨fun _ h => h, fun t' requester' hreq => ?_, fun _ => rfl⟩
  rw [stream_transmitDisconnect]
  split
  next heq =>
    subst heq
    exact List.mem_append_left _ hreq
  next => exact hreq

theorem grows_closeSession (id : Nat) : Grows s (s.closeSession id) := by
  unfold closeSession
  split
  · exact .refl s
  · exact grows_transmitDisconnect _ _ _

theorem grows_sendExpired (id : Nat) (accepted : Bool) : Grows s (s.sendExpired id accepted) := by
  cases accepted with
  | false => exact grows_closeSession id
  | true => exact ⟨fun _ h => List.mem_append_left _ h, fun _ _ h => h, fun _ => rfl⟩

theorem grows_closeWaiting (id : Nat) : Grows s (s.closeWaiting id) := by
  refine ⟨fun _ h => h, fun _ _ h => h, fun id' => ?_⟩
  by_cases heq : id' = id
  · subst heq
    simp [closeWaiting, setSession]
  · simp [closeWaiting, setSession, heq]

end Grows

/-- The logic worker is told that the session is closed; or it takes no more, and the connection of the
session is shut down. -/
def ToldClosed (s : EngineState) (accepted : Nat → Bool) (id : Nat) : Prop :=
  if accepted id = true then [⟨.SessionClosed, id, 0⟩] ∈ s.queue
  else ∀ t ∈ (s.sessions id).socketStream, Requester.graceful ∈ (s.stream t).requests

theorem ToldClosed.grows {s s' : EngineState} {accepted : Nat → Bool} {id : Nat}
    (h : s.ToldClosed accepted id) (hgrows : Grows s s') : s'.ToldClosed accepted id := by
  unfold ToldClosed at h ⊢
  split at h
  next haccepted =>
    rw [if_pos haccepted]
    exact hgrows.queue _ h
  next haccepted =>
    rw [if_neg haccepted, hgrows.socketStream]
    exact fun t ht => hgrows.requests t _ (h t ht)

theorem toldClosed_sendExpired (s : EngineState) (accepted : Nat → Bool) (id : Nat) :
    (s.sendExpired id (accepted id)).ToldClosed accepted id := by
  unfold ToldClosed
  split
  next haccepted =>
    rw [haccepted]
    exact List.mem_append_right _ List.mem_cons_self
  next haccepted =>
    rw [(grows_sendExpired id _).socketStream]
    intro t ht
    have hstream : (s.sessions id).socketStream = some t := ht
    rw [Bool.eq_false_iff.2 haccepted]
    simp [sendExpired, sendSocketContext, closeSession, hstream, stream_transmitDisconnect]

/-- Sessions and workers are left alone. -/
theorem sendExpired_eq (s : EngineState) (id : Nat) (accepted : Bool) :
    ∃ streams queue log, s.sendExpired id accepted = { s with streams, queue, log } := by
  cases accepted with
  | false =>
      obtain ⟨streams, hclose⟩ := s.closeSession_eq id
      exact ⟨streams, s.queue, s.log, hclose⟩
  | true => exact ⟨_, _, _, rfl⟩

end EngineState

namespace Ticked

variable {option : TimeoutOption} {accepted : Nat → Bool} {x y z : Ticked}

/-! ## The first two loops -/

/-- Nothing has happened to what the third loop reads. -/
structure KeepsAbandoned (x y : Ticked) : Prop where
  grows : x.state.Grows y.state
  state : ∀ id, y.state.state id = x.state.state id
  listed : y.state.abandonedSessionList = x.state.abandonedSessionList
  abandoned : ∀ index,
    (y.state.workers index).abandonedSessions = (x.state.workers index).abandonedSessions
  now : y.times.now = x.times.now
  abandonedTime : ∀ id, (y.times.sessions id).abandonedTime = (x.times.sessions id).abandonedTime

theorem KeepsAbandoned.refl (x : Ticked) : KeepsAbandoned x x :=
  ⟨.refl _, fun _ => rfl, rfl, fun _ => rfl, rfl, fun _ => rfl⟩

theorem KeepsAbandoned.trans (h : KeepsAbandoned x y) (h' : KeepsAbandoned y z) :
    KeepsAbandoned x z where
  grows := h.grows.trans h'.grows
  state := fun id => (h'.state id).trans (h.state id)
  listed := h'.listed.trans h.listed
  abandoned := fun index => (h'.abandoned index).trans (h.abandoned index)
  now := h'.now.trans h.now
  abandonedTime := fun id => (h'.abandonedTime id).trans (h.abandonedTime id)

theorem keepsAbandoned_tickSocket (option : TimeoutOption) (x : Ticked) (t : SocketStream) :
    KeepsAbandoned x (x.tickSocket option t) := by
  unfold tickSocket
  split
  next =>
    split
    · exact ⟨EngineState.grows_transmitDisconnect _ _ _, fun _ => rfl, rfl, fun _ => rfl, rfl,
        fun _ => rfl⟩
    · exact .refl x
  next id _ =>
    dsimp only
    split
    · refine ⟨.refl _, fun _ => rfl, rfl, fun _ => rfl, rfl, fun id' => ?_⟩
      -- a heartbeat changes another time of the session
      by_cases heq : id' = id
      · subst heq
        simp
      · simp [heq]
    · exact .refl x

theorem keepsAbandoned_tickOpened (option : TimeoutOption) (x : Ticked) (id : Nat) :
    KeepsAbandoned x (x.tickOpened option id) := by
  unfold tickOpened
  split
  · obtain ⟨streams, hclose⟩ := x.state.closeSession_eq id
    refine ⟨EngineState.grows_closeSession id, fun id' => ?_, ?_, fun index => ?_, rfl, fun _ => rfl⟩
    · rw [hclose]
      rfl
    · rw [hclose]
    · rw [hclose]
  · exact .refl x

theorem keepsAbandoned_eraseOpened (x : Ticked) (index : Nat) :
    KeepsAbandoned x (x.eraseOpened index) := by
  refine ⟨⟨fun _ h => h, fun _ _ h => h, fun _ => rfl⟩, fun _ => rfl, rfl, fun i => ?_, rfl,
    fun _ => rfl⟩
  by_cases heq : i = index
  · subst heq
    simp [eraseOpened, EngineState.setWorker]
  · simp [eraseOpened, EngineState.setWorker, heq]

/-! ## The third loop -/

theorem abandonedSessions_eraseAbandoned (x : Ticked) (index : Nat) :
    ((x.eraseAbandoned index).state.workers index).abandonedSessions =
      (x.state.workers index).abandonedSessions \ x.deletedSession.toFinset := by
  simp [eraseAbandoned, EngineState.setWorker]

/-- The session waits, and as far as `_abandoned_time` goes its time is up. -/
def Due (option : TimeoutOption) (x : Ticked) (id : Nat) : Prop :=
  x.state.state id = .Wait ∧
    x.times.now ≥ milliseconds (x.times.sessions id).abandonedTime +
      milliseconds option.sessionReconnectTimeoutMs

/-- The loop gives up the session. -/
def GivenUp (option : TimeoutOption) (x : Ticked) (order : List Nat) (id : Nat) : Prop :=
  Taken (x.Due option) (· ∈ x.state.abandonedSessionList) order id

theorem KeepsAbandoned.due_iff (h : KeepsAbandoned x y) (id : Nat) :
    y.Due option id ↔ x.Due option id := by
  unfold Due
  rw [h.state, h.now, h.abandonedTime]

theorem KeepsAbandoned.givenUp_iff (h : KeepsAbandoned x y) (order : List Nat) (id : Nat) :
    y.GivenUp option order id ↔ x.GivenUp option order id :=
  taken_congr (fun id' _ => h.due_iff id') fun id' _ => by rw [h.listed]

/-- What the loop does: the sessions it gives up are to be forgotten, and those of them that were in the
list of the engine are closed. -/
structure GivesUp (option : TimeoutOption) (accepted : Nat → Bool) (order : List Nat)
    (x y : Ticked) : Prop where
  grows : x.state.Grows y.state
  workers : y.state.workers = x.state.workers
  deleted : ∀ id, id ∈ y.deletedSession ↔ id ∈ x.deletedSession ∨ x.GivenUp option order id
  listed : ∀ id, id ∈ y.state.abandonedSessionList ↔
    id ∈ x.state.abandonedSessionList ∧ ¬ x.GivenUp option order id
  closed : ∀ id, x.GivenUp option order id → id ∈ x.state.abandonedSessionList →
    y.state.state id = .Closed ∧ y.state.ToldClosed accepted id
  kept : ∀ id, ¬ (x.GivenUp option order id ∧ id ∈ x.state.abandonedSessionList) →
    y.state.state id = x.state.state id

section TickAbandoned

variable {order : List Nat} {id : Nat}

/-- Nothing is done to a session that is not due. -/
theorem GivesUp.pass (h : GivesUp option accepted order x y) (hdue : ¬ x.Due option id) :
    GivesUp option accepted (id :: order) x y := by
  have hsame : ∀ id', x.GivenUp option (id :: order) id' ↔ x.GivenUp option order id' :=
    fun id' => taken_cons_of_not_due hdue
  refine ⟨h.grows, h.workers, fun id' => ?_, fun id' => ?_, fun id' => ?_, fun id' => ?_⟩
  · rw [hsame, h.deleted]
  · rw [hsame, h.listed]
  · rw [hsame]
    exact h.closed id'
  · rw [hsame]
    exact h.kept id'

/-- The loop ends with a session that is due and not in the list. -/
theorem givesUp_break (hdue : x.Due option id) (hlisted : id ∉ x.state.abandonedSessionList) :
    GivesUp option accepted (id :: order) x
      { x with deletedSession := x.deletedSession ++ [id] } := by
  have honly : ∀ id', x.GivenUp option (id :: order) id' ↔ id' = id :=
    fun id' => taken_cons_of_not_passes hdue hlisted
  refine ⟨.refl _, rfl, fun id' => ?_, fun id' => ?_, fun id' hgiven hmem => ?_, fun id' _ => rfl⟩
  · rw [honly, List.mem_append, List.mem_singleton]
  · rw [honly]
    exact ⟨fun hmem => ⟨hmem, fun heq => hlisted (heq ▸ hmem)⟩, And.left⟩
  · exact absurd ((honly id').1 hgiven ▸ hmem) hlisted

/-- A session that is due and in the list is closed. -/
def closeAbandoned (accepted : Nat → Bool) (x : Ticked) (id : Nat) : Ticked :=
  { x with
    deletedSession := x.deletedSession ++ [id]
    state := (x.state.closeWaiting id).sendExpired id (accepted id) }

section CloseAbandoned

variable (x)

theorem closeAbandoned_state (hdue : x.Due option id) (id' : Nat) :
    (x.closeAbandoned accepted id).state.state id' =
      if id' = id then .Closed else x.state.state id' := by
  unfold closeAbandoned
  obtain ⟨streams, queue, log, hsend⟩ := (x.state.closeWaiting id).sendExpired_eq id (accepted id)
  have hstate : (x.state.sessions id).sessionState = .Wait := hdue.1
  rw [hsend]
  change (x.state.setSession id _).state id' = _
  rw [EngineState.state_setSession, SocketSession.changeSessionState_state, if_pos hstate]

theorem closeAbandoned_listed :
    (x.closeAbandoned accepted id).state.abandonedSessionList =
      x.state.abandonedSessionList.erase id := by
  unfold closeAbandoned
  obtain ⟨streams, queue, log, hsend⟩ := (x.state.closeWaiting id).sendExpired_eq id (accepted id)
  rw [hsend]
  rfl

theorem closeAbandoned_workers :
    (x.closeAbandoned accepted id).state.workers = x.state.workers := by
  unfold closeAbandoned
  obtain ⟨streams, queue, log, hsend⟩ := (x.state.closeWaiting id).sendExpired_eq id (accepted id)
  rw [hsend]
  rfl

theorem grows_closeAbandoned : x.state.Grows (x.closeAbandoned accepted id).state :=
  (EngineState.grows_closeWaiting id).trans (EngineState.grows_sendExpired id _)

end CloseAbandoned

/-- The loop goes on with the rest after it has closed a session. -/
theorem GivesUp.close (hdue : x.Due option id) (hlisted : id ∈ x.state.abandonedSessionList)
    (hnew : id ∉ order) (h : GivesUp option accepted order (x.closeAbandoned accepted id) y) :
    GivesUp option accepted (id :: order) x y := by
  have hstate : ∀ id', (x.closeAbandoned accepted id).state.state id' =
      if id' = id then .Closed else x.state.state id' := x.closeAbandoned_state hdue
  have hlist : (x.closeAbandoned accepted id).state.abandonedSessionList =
      x.state.abandonedSessionList.erase id := x.closeAbandoned_listed
  have hne : ∀ id' ∈ order, id' ≠ id := fun id' hmem heq => hnew (heq ▸ hmem)
  -- the rest of the sessions are as they were
  have hrest : ∀ id', (x.closeAbandoned accepted id).GivenUp option order id' ↔
      x.GivenUp option order id' := by
    refine fun id' => taken_congr (fun b hb => ?_) fun b hb => ?_
    · unfold Due
      rw [hstate, if_neg (hne b hb)]
      rfl
    · rw [hlist, Finset.mem_erase]
      exact and_iff_right (hne b hb)
  have hsame : ∀ id', x.GivenUp option (id :: order) id' ↔ id' = id ∨ x.GivenUp option order id' :=
    fun id' => taken_cons_of_passes hdue hlisted
  have hlater : ¬ x.GivenUp option order id := fun hgiven => hnew hgiven.mem
  refine ⟨x.grows_closeAbandoned.trans h.grows, h.workers.trans x.closeAbandoned_workers,
    fun id' => ?_, fun id' => ?_, fun id' hgiven hmem => ?_, fun id' hkept => ?_⟩
  · rw [h.deleted, hrest, hsame, closeAbandoned, List.mem_append, List.mem_singleton]
    exact or_assoc
  · rw [h.listed, hrest, hsame, hlist, Finset.mem_erase, not_or]
    exact ⟨fun h' => ⟨h'.1.2, h'.1.1, h'.2⟩, fun h' => ⟨⟨h'.2.1, h'.1⟩, h'.2.2⟩⟩
  · rcases (hsame id').1 hgiven with rfl | hgiven'
    · constructor
      · rw [h.kept id' fun hboth => hlater ((hrest id').1 hboth.1), hstate, if_pos rfl]
      · exact (EngineState.toldClosed_sendExpired _ accepted id').grows h.grows
    · have hneq : id' ≠ id := hne id' hgiven'.mem
      exact h.closed id' ((hrest id').2 hgiven') (hlist ▸ Finset.mem_erase.2 ⟨hneq, hmem⟩)
  · have hneq : id' ≠ id := fun heq => hkept ⟨(hsame id').2 (.inl heq), heq ▸ hlisted⟩
    rw [h.kept id', hstate, if_neg hneq]
    rintro ⟨hgiven, hmem⟩
    rw [hlist] at hmem
    exact hkept ⟨(hsame id').2 (.inr ((hrest id').1 hgiven)), Finset.mem_of_mem_erase hmem⟩

theorem givesUp_tickAbandoned (option : TimeoutOption) (accepted : Nat → Bool) :
    ∀ (order : List Nat) (x : Ticked), order.Nodup →
      GivesUp option accepted order x (tickAbandoned option accepted order x) := by
  intro order
  induction order with
  | nil =>
      intro x _
      have hnone : ∀ id, ¬ x.GivenUp option [] id := fun _ => not_taken_nil
      exact ⟨.refl _, rfl, fun id => by simp [tickAbandoned, hnone],
        fun id => by simp [tickAbandoned, hnone], fun id hgiven => absurd hgiven (hnone id),
        fun _ _ => rfl⟩
  | cons id order ih =>
      intro x hnodup
      obtain ⟨hnew, hrest⟩ := List.nodup_cons.1 hnodup
      unfold tickAbandoned
      dsimp only
      split
      next hstate =>
        -- `continue`
        exact (ih x hrest).pass fun hdue => hstate hdue.1
      next hstate =>
        have hwait : x.state.state id = .Wait := not_not.1 hstate
        rw [if_neg (by simp [hwait])]
        split
        next htime =>
          by_cases hlisted : id ∈ x.state.abandonedSessionList
          · rw [EngineState.removeIf_of_mem hwait hlisted]
            exact (ih (x.closeAbandoned accepted id) hrest).close ⟨hwait, htime⟩ hlisted hnew
          · rw [EngineState.removeIf_of_not_mem hlisted]
            exact givesUp_break ⟨hwait, htime⟩ hlisted
        next htime =>
          exact (ih x hrest).pass fun hdue => htime hdue.2

end TickAbandoned

end Ticked

/-! ## OnTick -/

namespace EngineState

variable (option : TimeoutOption) (accepted : Nat → Bool) (s : EngineState) (index : Nat)
  (order : TickOrder (s.workers index)) (times : TickTimes)

/-- The sessions the tick gives up. -/
def GivenUp (id : Nat) : Prop :=
  Ticked.GivenUp option { state := s, times } order.abandoned id

/-- What a tick does with the abandoned sessions. -/
structure AfterTick (s' : EngineState) : Prop where
  abandoned : ∀ id, id ∈ (s'.workers index).abandonedSessions ↔
    id ∈ (s.workers index).abandonedSessions ∧ ¬ s.GivenUp option index order times id
  closed : ∀ id, s.GivenUp option index order times id → id ∈ s.abandonedSessionList →
    s'.state id = .Closed ∧ id ∉ s'.abandonedSessionList ∧ s'.ToldClosed accepted id
  kept : ∀ id, ¬ (s.GivenUp option index order times id ∧ id ∈ s.abandonedSessionList) →
    s'.state id = s.state id

/-- The third loop begins after two that change nothing it reads. -/
theorem afterTick_tickAbandoned {x : Ticked} (hbefore : Ticked.KeepsAbandoned { state := s, times } x)
    (hempty : x.deletedSession = []) :
    s.AfterTick option accepted index order times
      ((Ticked.tickAbandoned option accepted order.abandoned x).eraseAbandoned index).state := by
  have hloop := Ticked.givesUp_tickAbandoned option accepted order.abandoned x order.nodup_abandoned
  have hgiven : ∀ id, x.GivenUp option order.abandoned id ↔ s.GivenUp option index order times id :=
    fun id => hbefore.givenUp_iff order.abandoned id
  have hlisted : x.state.abandonedSessionList = s.abandonedSessionList := hbefore.listed
  refine ⟨fun id => ?_, fun id hid hmem => ?_, fun id hid => ?_⟩
  · have hold : (x.state.workers index).abandonedSessions = (s.workers index).abandonedSessions :=
      hbefore.abandoned index
    rw [Ticked.abandonedSessions_eraseAbandoned, Finset.mem_sdiff, List.mem_toFinset, hloop.deleted,
      hloop.workers, hold, hempty, hgiven]
    simp
  · rw [← hlisted] at hmem
    obtain ⟨hclosed, htold⟩ := hloop.closed id ((hgiven id).2 hid) hmem
    exact ⟨hclosed, fun hlater => ((hloop.listed id).1 hlater).2 ((hgiven id).2 hid), htold⟩
  · refine (hloop.kept id fun hboth => hid ⟨(hgiven id).1 hboth.1, ?_⟩).trans (hbefore.state id)
    exact hlisted ▸ hboth.2

theorem afterTick_onTick : s.AfterTick option accepted index order times
    (s.onTick option index order times accepted).state := by
  have hsockets := History.foldl_invariant (Ticked.KeepsAbandoned.refl { state := s, times })
    (fun y t hy => hy.trans (Ticked.keepsAbandoned_tickSocket option y t)) order.sockets
  have hopened := History.foldl_invariant hsockets
    (fun y t hy => hy.trans (Ticked.keepsAbandoned_tickOpened option y t)) order.opened
  exact s.afterTick_tickAbandoned option accepted index order times
    (hopened.trans (Ticked.keepsAbandoned_eraseOpened _ index)) rfl

/-- What is asked of a tick at which `passed` are the sessions whose reconnect timeout has passed. -/
structure Forgets (passed : Nat → Prop) (s' : EngineState) : Prop where
  resolved : ∀ id ∈ (s'.workers index).abandonedSessions, s'.state id ≠ .Opened ∧ s'.state id ≠ .Closed
  /-- The worker forgets a session whose time is up; and unless another thread has taken it from the
  list, it is closed. -/
  handled : ∀ id ∈ (s.workers index).abandonedSessions, s.state id = .Wait → passed id →
    id ∉ (s'.workers index).abandonedSessions ∧
      (id ∈ s.abandonedSessionList →
        s'.state id = .Closed ∧ id ∉ s'.abandonedSessionList ∧ s'.ToldClosed accepted id)
  kept : ∀ id ∈ (s.workers index).abandonedSessions,
    s.state id = .Abandoned ∨ (s.state id = .Wait ∧ ¬ passed id) →
      id ∈ (s'.workers index).abandonedSessions ∧ s'.state id = s.state id

/-- `OnTick` forgets what it is to forget exactly if no session it has abandoned is opened or closed,
and the loop gives up the waiting ones whose time is up. -/
theorem onTick_forgets_iff (passed : Nat → Prop) :
    s.Forgets accepted index passed (s.onTick option index order times accepted).state ↔
      (∀ id ∈ (s.workers index).abandonedSessions, s.state id ≠ .Opened ∧ s.state id ≠ .Closed) ∧
      ∀ id ∈ (s.workers index).abandonedSessions, s.state id = .Wait →
        (passed id ↔ s.GivenUp option index order times id) := by
  -- only what the tick does to the list and the states matters from here on
  have hafter := s.afterTick_onTick option accepted index order times
  generalize (s.onTick option index order times accepted).state = s' at hafter ⊢
  have hwait : ∀ {id}, s.GivenUp option index order times id → s.state id = .Wait :=
    fun hgiven => hgiven.is_due.1
  constructor
  · intro h
    refine ⟨fun id hid => ?_, fun id hid hstate => ⟨fun hpassed => ?_, fun hgiven => ?_⟩⟩
    -- an id that is given up was waiting, any other keeps its state
    · by_cases hgiven : s.GivenUp option index order times id
      · simp [hwait hgiven]
      · rw [← hafter.kept id fun hboth => hgiven hboth.1]
        exact h.resolved id ((hafter.abandoned id).2 ⟨hid, hgiven⟩)
    · by_contra hgiven
      exact (h.handled id hid hstate hpassed).1 ((hafter.abandoned id).2 ⟨hid, hgiven⟩)
    · by_contra hpassed
      exact ((hafter.abandoned id).1 (h.kept id hid (.inr ⟨hstate, hpassed⟩)).1).2 hgiven
  · rintro ⟨hresolved, htimely⟩
    refine ⟨fun id hid => ?_, fun id hid hstate hpassed => ?_, fun id hid hstate => ?_⟩
    · obtain ⟨hold, hgiven⟩ := (hafter.abandoned id).1 hid
      rw [hafter.kept id fun hboth => hgiven hboth.1]
      exact hresolved id hold
    · have hgiven := (htimely id hid hstate).1 hpassed
      exact ⟨fun hmem => ((hafter.abandoned id).1 hmem).2 hgiven, hafter.closed id hgiven⟩
    -- only waiting sessions are given up, and those in time
    · have hgiven : ¬ s.GivenUp option index order times id := by
        intro hgiven
        rcases hstate with habandoned | ⟨-, hpassed⟩
        · rw [hwait hgiven] at habandoned
          cases habandoned
        · exact hpassed ((htimely id hid (hwait hgiven)).2 hgiven)
      exact ⟨(hafter.abandoned id).2 ⟨hid, hgiven⟩, hafter.kept id fun hboth => hgiven hboth.1⟩

end EngineState

/-! ## A session taken up by another worker -/

/-- Worker 0 has abandoned session 1, which is opened again, by a stream of worker 1. -/
def revivedElsewhere : EngineState where
  sessions := fun _ => { sessionState := .Opened, socketStream := some (.acceptor 0) }
  sessionPool := ∅
  workers := Function.update (fun _ => {}) 0 { abandonedSessions := {1} }

def revivedOrder : TickOrder (revivedElsewhere.workers 0) where
  sockets := []
  opened := []
  abandoned := [1]
  nodup_abandoned := by decide
  mem_sockets := by simp
  mem_opened := by simp
  nodup_opened := by decide
  mem_abandoned := by simp [revivedElsewhere]

/-- Worker 0 keeps it, whatever time it is. -/
theorem revivedElsewhere_kept : ∃ (option : TimeoutOption) (times : TickTimes) (accepted : Nat → Bool),
    ∀ passed : Nat → Prop, ¬ revivedElsewhere.Forgets accepted 0 passed
      (revivedElsewhere.onTick option 0 revivedOrder times accepted).state := by
  refine ⟨⟨5000, 5000, 2000, 30000⟩, { now := 10 ^ 15, connectionCreatedTime := fun _ => 0 },
    fun _ => true, fun passed h => ?_⟩
  exact (h.resolved 1 (by decide)).1 rfl

/-! ## A tick as a run of the engine -/

section Run

variable {engineOption : NetworkEngineOption} {option : TimeoutOption} {accepted : Nat → Bool}
  {index : Nat} {s : EngineState}

namespace EngineState

theorem setWorker_setWorker (w w' : SocketWorkerInfo) :
    (s.setWorker index w).setWorker index w' = s.setWorker index w' := by
  simp [setWorker]

theorem setWorker_self : s.setWorker index (s.workers index) = s := by
  simp [setWorker]

@[simp] theorem workers_setWorker_self (w : SocketWorkerInfo) : (s.setWorker index w).workers index = w := by
  simp [setWorker]

theorem closeSession_setWorker (w : SocketWorkerInfo) (id : Nat) :
    (s.setWorker index w).closeSession id = (s.closeSession id).setWorker index w := by
  have hsame : (s.setWorker index w).sessions = s.sessions := rfl
  unfold closeSession
  rw [hsame]
  cases (s.sessions id).socketStream with
  | none => rfl
  | some t => rfl

theorem sendExpired_setWorker (w : SocketWorkerInfo) (id : Nat) (accepted : Bool) :
    (s.setWorker index w).sendExpired id accepted = (s.sendExpired id accepted).setWorker index w := by
  cases accepted with
  | false => exact closeSession_setWorker w id
  | true => rfl

theorem closeSession_workers (s : EngineState) (id : Nat) : (s.closeSession id).workers = s.workers := by
  obtain ⟨streams, hclose⟩ := s.closeSession_eq id
  rw [hclose]

theorem removeIf_setWorker (w : SocketWorkerInfo) (id : Nat)
    (processor : SocketSession → SocketSession × Bool) :
    (s.setWorker index w).removeIf id processor =
      ((s.removeIf id processor).1.setWorker index w, (s.removeIf id processor).2) := by
  unfold removeIf
  change (if id ∈ s.abandonedSessionList then _ else _) = _
  split
  · change (if (processor (s.sessions id)).2 = true then _ else _) = _
    dsimp only
    split <;> rfl
  · rfl

theorem submitExpired_setWorker {w : SocketWorkerInfo} {id : Nat} (accepted : Bool)
    (htick : w.tick = .expired id) :
    (s.setWorker index w).submitExpired index accepted =
      (s.sendExpired id accepted).setWorker index { w with tick := .rest } := by
  have hsend : (s.setWorker index w).sendExpired id accepted =
      (s.sendExpired id accepted).setWorker index w := sendExpired_setWorker w id accepted
  unfold submitExpired
  rw [workers_setWorker_self, htick]
  change ((s.setWorker index w).sendExpired id accepted).setWorker index
    { ((s.setWorker index w).sendExpired id accepted).workers index with tick := .rest } = _
  rw [hsend, workers_setWorker_self, setWorker_setWorker]

end EngineState

namespace Ticked

/-- A run of the engine takes the worker there. -/
def Leads (engineOption : NetworkEngineOption) (s s' : EngineState) : Prop :=
  ∃ events, (engine engineOption).Run s events s'

theorem Leads.refl (s : EngineState) : Leads engineOption s s := ⟨[], .nil s⟩

theorem Leads.trans {s s' s'' : EngineState} (h : Leads engineOption s s')
    (h' : Leads engineOption s' s'') : Leads engineOption s s'' := by
  obtain ⟨events, hrun⟩ := h
  obtain ⟨events', hrun'⟩ := h'
  exact ⟨events ++ events', hrun.trans hrun'⟩

theorem Leads.event (e : EngineEvent) (henabled : s.Enabled engineOption e) :
    Leads engineOption s (s.next engineOption e) :=
  ⟨[e], .cons ⟨henabled, rfl⟩ (.nil _)⟩

theorem tickSocket_frame (option : TimeoutOption) (x : Ticked) (t : SocketStream) :
    (x.tickSocket option t).state.workers = x.state.workers ∧
      (x.tickSocket option t).deletedSession = x.deletedSession := by
  unfold tickSocket
  split
  · split <;> exact ⟨rfl, rfl⟩
  · dsimp only
    split <;> exact ⟨rfl, rfl⟩

theorem tickOpened_workers (x : Ticked) (id : Nat) :
    (x.tickOpened option id).state.workers = x.state.workers := by
  unfold tickOpened
  split
  · exact x.state.closeSession_workers id
  · rfl

theorem leads_tickSocket (x : Ticked) {t : SocketStream}
    (ht : t ∈ (x.state.workers index).activatedSockets) :
    Leads engineOption x.state (x.tickSocket option t).state := by
  unfold tickSocket
  split
  next hsession =>
    split
    · exact Leads.event (.idleSocket index t) ⟨ht, hsession⟩
    · exact .refl _
  next =>
    dsimp only
    split
    -- heartbeats are no part of the state
    · exact .refl _
    · exact .refl _

theorem leads_sockets (engineOption : NetworkEngineOption) (option : TimeoutOption)
    (sockets : List SocketStream) (x : Ticked)
    (hsockets : ∀ t ∈ sockets, t ∈ (x.state.workers index).activatedSockets) :
    Leads engineOption x.state (sockets.foldl (tickSocket option) x).state ∧
      (sockets.foldl (tickSocket option) x).state.workers = x.state.workers ∧
      (sockets.foldl (tickSocket option) x).deletedSession = x.deletedSession := by
  induction sockets generalizing x with
  | nil => exact ⟨.refl _, rfl, rfl⟩
  | cons t sockets ih =>
      obtain ⟨hworkers, hdeleted⟩ := tickSocket_frame option x t
      obtain ⟨hleads, hworkers', hdeleted'⟩ := ih (x.tickSocket option t) fun t' ht' => by
        rw [hworkers]
        exact hsockets t' (List.mem_cons_of_mem _ ht')
      exact ⟨(x.leads_tickSocket (hsockets t List.mem_cons_self)).trans hleads,
        hworkers'.trans hworkers, hdeleted'.trans hdeleted⟩

/-! ### The sessions -/

theorem eraseOpened_of_nil {x : Ticked} (hnil : x.deletedSession = []) :
    (x.eraseOpened index).state = x.state := by
  unfold eraseOpened
  simp only [hnil, List.toFinset_nil, Finset.sdiff_empty]
  exact EngineState.setWorker_self

theorem eraseAbandoned_of_nil {x : Ticked} (hnil : x.deletedSession = []) :
    (x.eraseAbandoned index).state = x.state := by
  unfold eraseAbandoned
  simp only [hnil, List.toFinset_nil, Finset.sdiff_empty]
  exact EngineState.setWorker_self

theorem eraseOpened_tickOpened (x : Ticked) (id : Nat)
    (htime : x.times.now ≥ milliseconds (x.times.sessions id).lastHeartbeatReceivingTime +
      milliseconds option.sessionIdleTimeoutMs) :
    ((x.tickOpened option id).eraseOpened index).state =
      (x.eraseOpened index).state.closeIdleSession index id := by
  unfold tickOpened
  rw [if_pos htime]
  simp only [eraseOpened, EngineState.closeIdleSession, EngineState.closeSession_setWorker,
    EngineState.closeSession_workers, EngineState.workers_setWorker_self,
    EngineState.setWorker_setWorker]
  congr 2
  ext id'
  simp only [Finset.mem_sdiff, Finset.mem_erase, List.mem_toFinset, List.mem_append,
    List.mem_singleton]
  tauto

theorem leads_opened (engineOption : NetworkEngineOption) (option : TimeoutOption) (opened : List Nat)
    (x : Ticked) (hnodup : opened.Nodup)
    (hopened : ∀ id ∈ opened, id ∈ (x.state.workers index).openedSessions ∧ id ∉ x.deletedSession) :
    Leads engineOption (x.eraseOpened index).state
      ((opened.foldl (tickOpened option) x).eraseOpened index).state := by
  induction opened generalizing x with
  | nil => exact .refl _
  | cons id opened ih =>
      obtain ⟨hnew, hnodup'⟩ := List.nodup_cons.1 hnodup
      obtain ⟨hid, hdeleted⟩ := hopened id List.mem_cons_self
      have hrest : ∀ id' ∈ opened, id' ∈ ((x.tickOpened option id).state.workers index).openedSessions ∧
          id' ∉ (x.tickOpened option id).deletedSession := by
        intro id' hmem
        obtain ⟨hid', hdeleted'⟩ := hopened id' (List.mem_cons_of_mem _ hmem)
        have hne : id' ≠ id := fun heq => hnew (heq ▸ hmem)
        unfold tickOpened
        split
        · rw [EngineState.closeSession_workers]
          exact ⟨hid', by simp [hdeleted', hne]⟩
        · exact ⟨hid', hdeleted'⟩
      refine Leads.trans ?_ (ih (x.tickOpened option id) hnodup' hrest)
      by_cases htime : x.times.now ≥ milliseconds (x.times.sessions id).lastHeartbeatReceivingTime +
          milliseconds option.sessionIdleTimeoutMs
      · rw [eraseOpened_tickOpened x id htime]
        refine Leads.event (.idleSession index id) ?_
        simpa [EngineState.Enabled, eraseOpened] using ⟨hid, hdeleted⟩
      · unfold tickOpened
        rw [if_neg htime]
        exact .refl _

/-! ### The abandoned sessions -/

/-- A worker on which the third loop has come as far as `x`. -/
structure InLoop (engineOption : NetworkEngineOption) (index : Nat) (order : List Nat) (x : Ticked) :
    Prop where
  index_lt : index < engineOption.workerCount
  rest : (x.state.workers index).tick = .rest
  nodup : order.Nodup
  ahead : ∀ id ∈ order, id ∈ (x.state.workers index).abandonedSessions ∧ id ∉ x.deletedSession

/-- What `x` leaves to the worker when it has also got to `tick` with a session. -/
def remembering (x : Ticked) (index : Nat) (tick : Tick) : SocketWorkerInfo :=
  { x.state.workers index with
    abandonedSessions := (x.state.workers index).abandonedSessions \ x.deletedSession.toFinset
    tick }

theorem eraseAbandoned_of_rest {x : Ticked} (hrest : (x.state.workers index).tick = .rest) :
    (x.eraseAbandoned index).state = x.state.setWorker index (x.remembering index .rest) := by
  simp [eraseAbandoned, remembering, ← hrest]

/-- A waiting session is taken from the list, or it is not in the list any more. -/
theorem leads_removeExpired {x : Ticked} {id : Nat} {order : List Nat}
    (h : InLoop engineOption index (id :: order) x) (hwait : x.state.state id = .Wait)
    {s' : EngineState} {success : Bool}
    (hremove : x.state.removeIf id (·.changeSessionState .Wait .Closed) = (s', success)) :
    Leads engineOption (x.eraseAbandoned index).state
      (s'.setWorker index
        ({ x with deletedSession := x.deletedSession ++ [id] }.remembering index
          (if success then .expired id else .rest))) := by
  obtain ⟨hid, hdeleted⟩ := h.ahead id List.mem_cons_self
  have hfound : Leads engineOption (x.eraseAbandoned index).state
      ((x.eraseAbandoned index).state.next engineOption (.expire index id)) := by
    refine Leads.event _ ?_
    simpa [EngineState.Enabled, eraseAbandoned] using ⟨h.index_lt, h.rest, ⟨hid, hdeleted⟩, hwait⟩
  have hexpiring : (x.eraseAbandoned index).state.next engineOption (.expire index id) =
      x.state.setWorker index (x.remembering index (.expiring id)) := by
    simp [EngineState.next, EngineState.expire, eraseAbandoned, remembering,
      EngineState.setWorker_setWorker]
  rw [hexpiring] at hfound
  have hremoved : Leads engineOption (x.state.setWorker index (x.remembering index (.expiring id)))
      ((x.state.setWorker index (x.remembering index (.expiring id))).next engineOption
        (.removeExpired index)) := by
    refine Leads.event _ ?_
    simp [EngineState.Enabled, remembering, Tick.isExpiring]
  have herase : ((x.state.workers index).abandonedSessions \ x.deletedSession.toFinset).erase id =
      (x.state.workers index).abandonedSessions \ (x.deletedSession ++ [id]).toFinset := by
    ext id'
    simp only [Finset.mem_sdiff, Finset.mem_erase, List.mem_toFinset, List.mem_append,
      List.mem_singleton]
    tauto
  have htaken : (x.state.setWorker index (x.remembering index (.expiring id))).next engineOption
      (.removeExpired index) = s'.setWorker index
        ({ x with deletedSession := x.deletedSession ++ [id] }.remembering index
          (if success then .expired id else .rest)) := by
    simp [EngineState.next, EngineState.removeExpired, remembering, EngineState.removeIf_setWorker,
      EngineState.setWorker_setWorker, hremove, herase]
  rw [htaken] at hremoved
  exact hfound.trans hremoved

/-- The worker submits that the session is closed. -/
theorem leads_closeAbandoned {x : Ticked} {id : Nat} {order : List Nat}
    (h : InLoop engineOption index (id :: order) x) (hwait : x.state.state id = .Wait)
    (hlisted : id ∈ x.state.abandonedSessionList) :
    Leads engineOption (x.eraseAbandoned index).state
      ((x.closeAbandoned accepted id).eraseAbandoned index).state := by
  have hremoved := leads_removeExpired h hwait (EngineState.removeIf_of_mem hwait hlisted)
  rw [if_pos rfl] at hremoved
  refine hremoved.trans ?_
  have hrest : ((x.closeAbandoned accepted id).state.workers index).tick = .rest := by
    rw [closeAbandoned_workers]
    exact h.rest
  have hremembering : (x.closeAbandoned accepted id).remembering index .rest =
      { x with deletedSession := x.deletedSession ++ [id] }.remembering index .rest := by
    unfold remembering
    rw [closeAbandoned_workers]
    rfl
  let s' := (x.state.closeWaiting id).setWorker index
    ({ x with deletedSession := x.deletedSession ++ [id] }.remembering index (.expired id))
  have hsubmitted : Leads engineOption s' (s'.next engineOption (.submitExpired index (accepted id))) := by
    refine Leads.event _ ?_
    simp [s', EngineState.Enabled, remembering, Tick.isExpired]
  dsimp only [s'] at hsubmitted
  rw [EngineState.next, EngineState.submitExpired_setWorker (accepted id) rfl] at hsubmitted
  rw [eraseAbandoned_of_rest hrest, hremembering]
  exact hsubmitted

/-- A turn of the loop. -/
theorem leads_tickAbandoned (option : TimeoutOption) (accepted : Nat → Bool) (order : List Nat)
    (x : Ticked) (h : InLoop engineOption index order x) :
    Leads engineOption (x.eraseAbandoned index).state
      ((tickAbandoned option accepted order x).eraseAbandoned index).state := by
  induction order generalizing x with
  | nil => exact .refl _
  | cons id order ih =>
      obtain ⟨hnew, hnodup⟩ := List.nodup_cons.1 h.nodup
      have hpass : InLoop engineOption index order x :=
        ⟨h.index_lt, h.rest, hnodup, fun id' hid' => h.ahead id' (List.mem_cons_of_mem _ hid')⟩
      unfold tickAbandoned
      dsimp only
      split
      next => exact ih x hpass
      next hstate =>
        have hwait : x.state.state id = .Wait := not_not.1 hstate
        rw [if_neg (by simp [hwait])]
        split
        next htime =>
          by_cases hlisted : id ∈ x.state.abandonedSessionList
          · rw [EngineState.removeIf_of_mem hwait hlisted]
            refine (leads_closeAbandoned h hwait hlisted).trans (ih (x.closeAbandoned accepted id) ?_)
            refine ⟨h.index_lt, ?_, hnodup, fun id' hid' => ?_⟩
            · rw [closeAbandoned_workers]
              exact h.rest
            · have hne : id' ≠ id := fun heq => hnew (heq ▸ hid')
              obtain ⟨hahead, hdeleted⟩ := hpass.ahead id' hid'
              rw [closeAbandoned_workers]
              exact ⟨hahead, by simp [closeAbandoned, hdeleted, hne]⟩
          · -- `break`
            have hremove : x.state.removeIf id (·.changeSessionState .Wait .Closed) = (x.state, false) :=
              EngineState.removeIf_of_not_mem hlisted
            have hremoved := leads_removeExpired h hwait hremove
            rw [hremove]
            rw [if_neg Bool.false_ne_true] at hremoved
            refine hremoved.trans ?_
            rw [← eraseAbandoned_of_rest (x := { x with deletedSession := x.deletedSession ++ [id] }) h.rest]
            exact .refl _
        next => exact ih x hpass

end Ticked

/-- A tick is a run of the engine between whose events no other thread comes. -/
theorem EngineState.onTick_run (s : EngineState) (option : TimeoutOption) (index : Nat)
    (order : TickOrder (s.workers index)) (times : TickTimes) (accepted : Nat → Bool)
    (hindex : index < engineOption.workerCount) (hrest : (s.workers index).tick = .rest) :
    ∃ events, (engine engineOption).Run s events (s.onTick option index order times accepted).state := by
  obtain ⟨hsockets, hworkers, hdeleted⟩ :=
    Ticked.leads_sockets engineOption option order.sockets { state := s, times } order.mem_sockets
  unfold onTick
  dsimp only
  generalize order.sockets.foldl (Ticked.tickSocket option) { state := s, times } = x
    at hsockets hworkers hdeleted ⊢
  have hopened := Ticked.leads_opened engineOption option order.opened x order.nodup_opened fun id hid => by
      rw [hworkers, hdeleted]
      exact ⟨order.mem_opened id hid, List.not_mem_nil⟩
  rw [Ticked.eraseOpened_of_nil hdeleted] at hopened
  have hworkers' : (order.opened.foldl (Ticked.tickOpened option) x).state.workers = s.workers :=
    History.foldl_invariant (P := fun y : Ticked => y.state.workers = s.workers) hworkers
      (fun y id hy => (y.tickOpened_workers id).trans hy) order.opened
  generalize order.opened.foldl (Ticked.tickOpened option) x = y at hopened hworkers' ⊢
  have hloop : Ticked.InLoop engineOption index order.abandoned (y.eraseOpened index) := by
    refine ⟨hindex, ?_, order.nodup_abandoned, fun id hid => ?_⟩
    · simpa [Ticked.eraseOpened, hworkers'] using hrest
    · simpa [Ticked.eraseOpened, hworkers'] using (order.mem_abandoned id).1 hid
  have habandoned := Ticked.leads_tickAbandoned option accepted _ _ hloop
  rw [Ticked.eraseAbandoned_of_nil rfl] at habandoned
  exact (hsockets.trans hopened).trans habandoned

end Run

end Engine
end SeamlessServer
