import SeamlessServer.Engine.OnTick

/-!
# Engine.Ticking — a tick as one session sees it

`NetworkEngine::OnTick` goes through all sockets and sessions of a worker, and each session has to do
with one socket at most.  `EngineState.ticksSession_onTick` says what a tick means to one session:
whether a heartbeat is written to its stream, and whether it is closed.
-/

namespace SeamlessServer
namespace Engine

open NetworkEngine (errorNone)

/-! ## Two questions -/

namespace TickTimes

variable (x : TickTimes) (option : TimeoutOption) (id : Nat)

/-- It is time for a heartbeat. -/
def HeartbeatDue : Prop :=
  x.now ≥ milliseconds (x.sessions id).lastHeartbeatSendingTime +
    milliseconds option.sessionHeartbeatIntervalMs

instance : Decidable (x.HeartbeatDue option id) := inferInstanceAs (Decidable (_ ≥ _))

/-- The session has been idle for too long. -/
def Idle : Prop :=
  x.now ≥ milliseconds (x.sessions id).lastHeartbeatReceivingTime +
    milliseconds option.sessionIdleTimeoutMs

instance : Decidable (x.Idle option id) := inferInstanceAs (Decidable (_ ≥ _))

end TickTimes

namespace Ticked

variable {option : TimeoutOption} {accepted : Nat → Bool} {x y z : Ticked}
  {t t' : SocketStream} {id id' index : Nat}

/-- What has been written to a stream. -/
def written (x : Ticked) (t : SocketStream) : List Write := x.writes.filter (·.stream = t)

/-- What has been done leaves alone what the stream `t` and the session `id` are to the tick. -/
structure Leaves (t : SocketStream) (id : Nat) (x y : Ticked) : Prop where
  session : ∀ t', (y.state.stream t').session = (x.state.stream t').session
  streamType : ∀ t', (y.state.stream t').streamType = (x.state.stream t').streamType
  now : y.times.now = x.times.now
  times : y.times.sessions id = x.times.sessions id
  written : y.written t = x.written t

theorem Leaves.refl (x : Ticked) : Leaves t id x x :=
  ⟨fun _ => rfl, fun _ => rfl, rfl, rfl, rfl⟩

theorem Leaves.trans (h : Leaves t id x y) (h' : Leaves t id y z) : Leaves t id x z where
  session := fun t' => (h'.session t').trans (h.session t')
  streamType := fun t' => (h'.streamType t').trans (h.streamType t')
  now := h'.now.trans h.now
  times := h'.times.trans h.times
  written := h'.written.trans h.written

theorem stream_of_transmitDisconnect (s : EngineState) (t t' : SocketStream) (attachment : Nat)
    (requester : Requester) :
    ((s.transmitDisconnect t attachment requester).stream t').session = (s.stream t').session ∧
      ((s.transmitDisconnect t attachment requester).stream t').streamType =
        (s.stream t').streamType := by
  rw [EngineState.stream_transmitDisconnect]
  split
  next heq =>
    subst heq
    exact ⟨rfl, rfl⟩
  next => exact ⟨rfl, rfl⟩

theorem stream_of_closeSession (s : EngineState) (id : Nat) (t' : SocketStream) :
    ((s.closeSession id).stream t').session = (s.stream t').session ∧
      ((s.closeSession id).stream t').streamType = (s.stream t').streamType := by
  unfold EngineState.closeSession
  split
  · exact ⟨rfl, rfl⟩
  · exact stream_of_transmitDisconnect _ _ _ _ _

/-- The state has changed, but no stream its session or its type. -/
theorem leaves_of_state {s' : EngineState}
    (hstreams : ∀ t', (s'.stream t').session = (x.state.stream t').session ∧
      (s'.stream t').streamType = (x.state.stream t').streamType) {deletedSession : List Nat} :
    Leaves t id x { x with state := s', deletedSession } where
  session := fun t' => (hstreams t').1
  streamType := fun t' => (hstreams t').2
  now := rfl
  times := rfl
  written := rfl

/-! ### The loop over the sockets -/

/-- Another stream, which has another session. -/
theorem leaves_tickSocket (hne : t' ≠ t) (hsession : (x.state.stream t').session ≠ some id) :
    Leaves t id x (x.tickSocket option t') := by
  unfold tickSocket
  split
  next =>
    split
    · exact leaves_of_state fun _ => stream_of_transmitDisconnect _ _ _ _ _
    · exact .refl x
  next id' hid' =>
    have hother : id ≠ id' := by
      rintro rfl
      exact hsession hid'
    dsimp only
    split
    · refine ⟨fun _ => rfl, fun _ => rfl, rfl, ?_, ?_⟩
      · exact Function.update_of_ne hother _ _
      · simp [written, List.filter_append, hne]
    · exact .refl x

theorem leaves_sockets {sockets : List SocketStream}
    (hothers : ∀ t' ∈ sockets, t' ≠ t ∧ (x.state.stream t').session ≠ some id) :
    Leaves t id x (sockets.foldl (tickSocket option) x) := by
  induction sockets generalizing x with
  | nil => exact .refl x
  | cons t' sockets ih =>
      obtain ⟨hne, hsession⟩ := hothers t' List.mem_cons_self
      have hfirst : Leaves t id x (x.tickSocket option t') := leaves_tickSocket hne hsession
      refine hfirst.trans (ih fun t'' ht'' => ?_)
      rw [hfirst.session]
      exact hothers t'' (List.mem_cons_of_mem _ ht'')

variable (option) in
/-- The stream with the session. -/
theorem tickSocket_attached (hsession : (x.state.stream t).session = some id) :
    x.tickSocket option t =
      if (x.state.stream t).streamType = some .Acceptor ∧ x.times.HeartbeatDue option id then
        { x with
          writes := x.writes ++ [⟨t, .heartbeatRq, errorNone⟩]
          times := { x.times with
            sessions := Function.update x.times.sessions id
              { x.times.sessions id with
                lastHeartbeatSendingTime := x.times.now.tdiv 1000000 } } }
      else x := by
  unfold tickSocket
  split
  next hnone =>
    rw [hsession] at hnone
    cases hnone
  next id' hid' =>
    rw [hsession] at hid'
    cases hid'
    rfl

variable (option) in
theorem streamType_tickSocket (x : Ticked) (t t' : SocketStream) :
    ((x.tickSocket option t').state.stream t).streamType = (x.state.stream t).streamType := by
  unfold tickSocket
  split
  next =>
    split
    · exact (stream_of_transmitDisconnect _ _ _ _ _).2
    · rfl
  next =>
    dsimp only
    split <;> rfl

variable (option) in
/-- Nothing is written to a stream that is no acceptor's. -/
theorem written_tickSocket (htype : (x.state.stream t).streamType ≠ some .Acceptor)
    (t' : SocketStream) : (x.tickSocket option t').written t = x.written t := by
  unfold tickSocket
  split
  next =>
    split <;> rfl
  next =>
    dsimp only
    split
    next hacceptor =>
      have hne : t' ≠ t := by
        rintro rfl
        exact htype hacceptor.1
      simp [written, List.filter_append, hne]
    next => rfl

variable (option) in
/-- The loop leaves alone when heartbeats were received. -/
theorem receiving_tickSocket (x : Ticked) (t' : SocketStream) :
    (x.tickSocket option t').times.now = x.times.now ∧
      ∀ id, ((x.tickSocket option t').times.sessions id).lastHeartbeatReceivingTime =
        (x.times.sessions id).lastHeartbeatReceivingTime := by
  unfold tickSocket
  split
  next =>
    split <;> exact ⟨rfl, fun _ => rfl⟩
  next id' _ =>
    dsimp only
    split
    · refine ⟨rfl, fun id => ?_⟩
      by_cases heq : id = id'
      · subst heq
        simp
      · simp [heq]
    · exact ⟨rfl, fun _ => rfl⟩

/-! ### The loops over the sessions -/

variable (option) in
theorem leaves_tickOpened (x : Ticked) (id' : Nat) :
    Leaves t id x (x.tickOpened option id') := by
  unfold tickOpened
  split
  · exact leaves_of_state (stream_of_closeSession _ _)
  · exact .refl x

variable (option) in
/-- The sessions that have been idle for too long are to be forgotten. -/
theorem mem_deletedSession_opened (id : Nat) (opened : List Nat) (x : Ticked) :
    id ∈ (opened.foldl (tickOpened option) x).deletedSession ↔
      id ∈ x.deletedSession ∨ (id ∈ opened ∧ x.times.Idle option id) := by
  induction opened generalizing x with
  | nil => simp
  | cons id' opened ih =>
      rw [List.foldl_cons, ih]
      have htimes : (x.tickOpened option id').times = x.times := by
        unfold tickOpened
        split <;> rfl
      have hdeleted : id ∈ (x.tickOpened option id').deletedSession ↔
          id ∈ x.deletedSession ∨ (id = id' ∧ x.times.Idle option id) := by
        unfold tickOpened
        split
        next hidle =>
          rw [List.mem_append, List.mem_singleton]
          refine or_congr_right ⟨fun heq => ⟨heq, heq ▸ hidle⟩, fun h => h.1⟩
        next hidle =>
          refine ⟨.inl, fun h => h.elim (fun hmem => hmem) fun ⟨heq, hid⟩ => ?_⟩
          subst heq
          exact absurd hid hidle
      rw [hdeleted, htimes, List.mem_cons]
      tauto

theorem leaves_sendExpired (x : Ticked) (id' : Nat) (b : Bool) {deletedSession : List Nat} :
    Leaves t id x { x with state := x.state.sendExpired id' b, deletedSession } := by
  refine leaves_of_state fun t' => ?_
  cases b with
  | false => exact stream_of_closeSession _ _ _
  | true => exact ⟨rfl, rfl⟩

theorem leaves_removeIf (x : Ticked) (id' : Nat) (processor : SocketSession → SocketSession × Bool)
    {deletedSession : List Nat} :
    Leaves t id x { x with state := (x.state.removeIf id' processor).1, deletedSession } := by
  refine leaves_of_state fun _ => ?_
  unfold EngineState.removeIf
  split
  · dsimp only
    split <;> exact ⟨rfl, rfl⟩
  · exact ⟨rfl, rfl⟩

theorem leaves_eraseOpened (index : Nat) (x : Ticked) : Leaves t id x (x.eraseOpened index) :=
  ⟨fun _ => rfl, fun _ => rfl, rfl, rfl, rfl⟩

theorem leaves_eraseAbandoned (index : Nat) (x : Ticked) : Leaves t id x (x.eraseAbandoned index) :=
  ⟨fun _ => rfl, fun _ => rfl, rfl, rfl, rfl⟩

variable (option accepted) in
theorem leaves_tickAbandoned (abandoned : List Nat) (x : Ticked) :
    Leaves t id x (tickAbandoned option accepted abandoned x) := by
  induction abandoned generalizing x with
  | nil => exact .refl x
  | cons id' abandoned ih =>
      unfold tickAbandoned
      dsimp only
      split
      · exact ih x
      split
      · exact (leaves_of_state fun _ => ⟨rfl, rfl⟩).trans (ih _)
      split
      · have hremove : Leaves t id x
            { x with
              state := (x.state.removeIf id' (·.changeSessionState .Wait .Closed)).1
              deletedSession := x.deletedSession ++ [id'] } := leaves_removeIf x id' _
        split
        next s' hs' =>
          rw [hs'] at hremove
          exact hremove
        next s' hs' =>
          rw [hs'] at hremove
          exact (hremove.trans (leaves_sendExpired _ id' _)).trans (ih _)
      · exact ih x

variable (option accepted) in
/-- What follows the loop over the sockets. -/
theorem leaves_sessions (index : Nat) (opened abandoned : List Nat) (x : Ticked) :
    Leaves t id x ((tickAbandoned option accepted abandoned
      ((opened.foldl (tickOpened option) x).eraseOpened index)).eraseAbandoned index) := by
  have hopened : Leaves t id x (opened.foldl (tickOpened option) x) :=
    History.foldl_invariant (Leaves.refl x)
      (fun y id' hy => hy.trans (leaves_tickOpened option y id')) opened
  have hopening := hopened.trans (leaves_eraseOpened index _)
  exact (hopening.trans (leaves_tickAbandoned option accepted abandoned _)).trans
    (leaves_eraseAbandoned index _)

end Ticked

/-- Every socket and every opened session of the worker is met once. -/
structure TickOrder.Complete {worker : SocketWorkerInfo} (order : TickOrder worker) : Prop where
  nodup_sockets : order.sockets.Nodup
  sockets : ∀ t ∈ worker.activatedSockets, t ∈ order.sockets
  opened : ∀ id ∈ worker.openedSessions, id ∈ order.opened

namespace EngineState

/-- A stream with a session, which no other stream has. -/
structure Attached (s : EngineState) (index : Nat) (t : SocketStream) (id : Nat) : Prop where
  session : (s.stream t).session = some id
  only : ∀ t', (s.stream t').session = some id → t' = t
  activated : t ∈ (s.workers index).activatedSockets

/-- What a tick does to the session of a stream. -/
structure TicksSession (s : EngineState) (option : TimeoutOption) (index : Nat) (times : TickTimes)
    (t : SocketStream) (id : Nat) (x : Ticked) : Prop where
  attached : x.state.Attached index t id
  streamType : (x.state.stream t).streamType = (s.stream t).streamType
  receiving : (x.times.sessions id).lastHeartbeatReceivingTime =
    (times.sessions id).lastHeartbeatReceivingTime
  /-- A heartbeat is sent if it is time for one and the stream is an acceptor's. -/
  sending :
    ((s.stream t).streamType = some .Acceptor ∧ times.HeartbeatDue option id ∧
      x.written t = [⟨t, .heartbeatRq, errorNone⟩] ∧
      (x.times.sessions id).lastHeartbeatSendingTime = times.now.tdiv 1000000) ∨
    (¬ ((s.stream t).streamType = some .Acceptor ∧ times.HeartbeatDue option id) ∧
      x.written t = [] ∧ (x.times.sessions id).lastHeartbeatSendingTime =
        (times.sessions id).lastHeartbeatSendingTime)
  opened : id ∈ (x.state.workers index).openedSessions ↔
    id ∈ (s.workers index).openedSessions ∧ ¬ times.Idle option id

section OnTick

variable {s : EngineState} {option : TimeoutOption} {index : Nat}
  {order : TickOrder (s.workers index)} {times : TickTimes} {accepted : Nat → Bool}
  {t : SocketStream} {id : Nat}

variable (option order times accepted) in
/-- What a tick leaves to its worker. -/
theorem workers_onTick (id : Nat) :
    ((s.onTick option index order times accepted).state.workers index).activatedSockets =
        (s.workers index).activatedSockets ∧
      (id ∈ ((s.onTick option index order times accepted).state.workers index).openedSessions ↔
        id ∈ (s.workers index).openedSessions ∧ ¬ (id ∈ order.opened ∧ times.Idle option id)) := by
  have hsockets : ∀ y, y = order.sockets.foldl (Ticked.tickSocket option) { state := s, times } →
      y.state.workers = s.workers ∧ y.deletedSession = [] ∧ y.times.now = times.now ∧
        ∀ id, (y.times.sessions id).lastHeartbeatReceivingTime =
          (times.sessions id).lastHeartbeatReceivingTime := by
    rintro _ rfl
    refine History.foldl_invariant (P := fun y : Ticked => y.state.workers = s.workers ∧
      y.deletedSession = [] ∧ y.times.now = times.now ∧
        ∀ id, (y.times.sessions id).lastHeartbeatReceivingTime =
          (times.sessions id).lastHeartbeatReceivingTime)
      ⟨rfl, rfl, rfl, fun _ => rfl⟩ (fun y t hy => ?_) order.sockets
    obtain ⟨hworkers, hdeleted⟩ := Ticked.tickSocket_frame option y t
    obtain ⟨hnow, hreceiving⟩ := Ticked.receiving_tickSocket option y t
    exact ⟨hworkers.trans hy.1, hdeleted.trans hy.2.1, hnow.trans hy.2.2.1,
      fun id => (hreceiving id).trans (hy.2.2.2 id)⟩
  obtain ⟨hworkers, hdeleted, hnow, hreceiving⟩ := hsockets _ rfl
  unfold onTick
  dsimp only
  generalize order.sockets.foldl (Ticked.tickSocket option) { state := s, times } = y
    at hworkers hdeleted hnow hreceiving ⊢
  have hidle : y.times.Idle option id ↔ times.Idle option id := by
    unfold TickTimes.Idle
    rw [hnow, hreceiving]
  have hforget := Ticked.mem_deletedSession_opened option id order.opened y
  have hopened : (order.opened.foldl (Ticked.tickOpened option) y).state.workers = s.workers :=
    History.foldl_invariant (P := fun z : Ticked => z.state.workers = s.workers) hworkers
      (fun z id hz => (z.tickOpened_workers id).trans hz) order.opened
  generalize order.opened.foldl (Ticked.tickOpened option) y = z at hforget hopened ⊢
  have habandoned := (Ticked.givesUp_tickAbandoned option accepted order.abandoned
    (z.eraseOpened index) order.nodup_abandoned).workers
  generalize Ticked.tickAbandoned option accepted order.abandoned (z.eraseOpened index) = w
    at habandoned ⊢
  rw [hdeleted, hidle] at hforget
  simp only [Ticked.eraseAbandoned, workers_setWorker_self, habandoned, Ticked.eraseOpened, hopened,
    Finset.mem_sdiff, List.mem_toFinset, hforget]
  simp

variable (option times accepted) in
theorem ticksSession_onTick (horder : order.Complete) (hattached : s.Attached index t id) :
    s.TicksSession option index times t id (s.onTick option index order times accepted) := by
  obtain ⟨before, behind, hsockets⟩ := List.append_of_mem (horder.sockets t hattached.activated)
  have hnodup := horder.nodup_sockets
  rw [hsockets] at hnodup
  have hnew : ∀ t' ∈ before ++ behind, t' ≠ t := by
    rintro t' ht' rfl
    exact (List.nodup_cons.1 (List.nodup_middle.1 hnodup)).1 ht'
  have hothers : ∀ t' ∈ before ++ behind, t' ≠ t ∧ (s.stream t').session ≠ some id :=
    fun t' ht' => ⟨hnew t' ht', fun hsession => hnew t' ht' (hattached.only t' hsession)⟩
  -- the sockets before the stream, the stream, and all that follows
  have hbefore : Ticked.Leaves t id { state := s, times }
      (before.foldl (Ticked.tickSocket option) { state := s, times }) :=
    Ticked.leaves_sockets fun t' ht' => hothers t' (List.mem_append_left _ ht')
  obtain ⟨hactivated, hopened⟩ :=
    workers_onTick option order times accepted id
  unfold onTick at hactivated hopened ⊢
  dsimp only at hactivated hopened ⊢
  rw [hsockets, List.foldl_append, List.foldl_cons] at hactivated hopened ⊢
  generalize before.foldl (Ticked.tickSocket option) { state := s, times } = a
    at hbefore hactivated hopened ⊢
  have hsession : (a.state.stream t).session = some id :=
    (hbefore.session t).trans hattached.session
  have hbeat := Ticked.tickSocket_attached option hsession
  have hafter : Ticked.Leaves t id (a.tickSocket option t)
      ((Ticked.tickAbandoned option accepted order.abandoned ((order.opened.foldl
        (Ticked.tickOpened option) (behind.foldl (Ticked.tickSocket option)
          (a.tickSocket option t))).eraseOpened index)).eraseAbandoned index) := by
    have hbehind : Ticked.Leaves t id (a.tickSocket option t)
        (behind.foldl (Ticked.tickSocket option) (a.tickSocket option t)) := by
      refine Ticked.leaves_sockets fun t' ht' => ?_
      obtain ⟨hne, hother⟩ := hothers t' (List.mem_append_right _ ht')
      rw [hbeat]
      split <;> exact ⟨hne, (hbefore.session t').symm ▸ hother⟩
    exact hbehind.trans (Ticked.leaves_sessions option accepted index order.opened order.abandoned _)
  have hstate : (a.tickSocket option t).state = a.state := by
    rw [hbeat]
    split <;> rfl
  obtain ⟨-, hreceiving⟩ := Ticked.receiving_tickSocket option a t
  generalize (Ticked.tickAbandoned option accepted order.abandoned ((order.opened.foldl
    (Ticked.tickOpened option) (behind.foldl (Ticked.tickSocket option)
      (a.tickSocket option t))).eraseOpened index)).eraseAbandoned index = x
    at hafter hactivated hopened ⊢
  have hsessions : ∀ t', (x.state.stream t').session = (s.stream t').session := fun t' => by
    rw [hafter.session, hstate, hbefore.session]
  have htypes : ∀ t', (x.state.stream t').streamType = (s.stream t').streamType := fun t' => by
    rw [hafter.streamType, hstate, hbefore.streamType]
  refine ⟨⟨(hsessions t).trans hattached.session, fun t' ht' => ?_, ?_⟩, htypes t, ?_, ?_, ?_⟩
  · exact hattached.only t' ((hsessions t').symm.trans ht')
  · rw [hactivated]
    exact hattached.activated
  · rw [hafter.times, hreceiving, hbefore.times]
  · -- a heartbeat is sent, or nothing is
    have hdue : ((a.state.stream t).streamType = some .Acceptor ∧ a.times.HeartbeatDue option id) ↔
        (s.stream t).streamType = some .Acceptor ∧ times.HeartbeatDue option id := by
      unfold TickTimes.HeartbeatDue
      rw [hbefore.streamType, hbefore.now, hbefore.times]
    rw [hafter.written, hafter.times]
    by_cases hsend : (s.stream t).streamType = some .Acceptor ∧ times.HeartbeatDue option id
    · rw [if_pos (hdue.2 hsend)] at hbeat
      refine .inl ⟨hsend.1, hsend.2, ?_, ?_⟩
      · have hnothing : a.written t = [] := hbefore.written
        rw [hbeat]
        rw [Ticked.written] at hnothing ⊢
        simp [List.filter_append, hnothing]
      · have hnow : a.times.now = times.now := hbefore.now
        rw [hbeat, ← hnow]
        simp
    · rw [if_neg (hdue.not.2 hsend)] at hbeat
      exact .inr ⟨hsend, by rw [hbeat]; exact hbefore.written, by rw [hbeat, hbefore.times]⟩
  · rw [hopened]
    refine and_congr_right fun hid => not_congr ⟨fun h => h.2, fun h => ⟨horder.opened id hid, h⟩⟩

variable (option order times accepted t) in
/-- A tick leaves the types of streams alone, and writes nothing to a stream that is no acceptor's. -/
theorem streamType_onTick :
    ((s.onTick option index order times accepted).state.stream t).streamType =
        (s.stream t).streamType ∧
      ((s.stream t).streamType ≠ some .Acceptor →
        (s.onTick option index order times accepted).written t = []) := by
  have hsockets : ∀ y, y = order.sockets.foldl (Ticked.tickSocket option) { state := s, times } →
      (y.state.stream t).streamType = (s.stream t).streamType ∧
        ((s.stream t).streamType ≠ some .Acceptor → y.written t = []) := by
    rintro _ rfl
    refine History.foldl_invariant (P := fun y : Ticked =>
      (y.state.stream t).streamType = (s.stream t).streamType ∧
        ((s.stream t).streamType ≠ some .Acceptor → y.written t = []))
      ⟨rfl, fun _ => rfl⟩ (fun y t' hy => ?_) order.sockets
    refine ⟨(Ticked.streamType_tickSocket option y t t').trans hy.1, fun htype => ?_⟩
    rw [Ticked.written_tickSocket option (hy.1 ▸ htype)]
    exact hy.2 htype
  obtain ⟨hstreamType, hwritten⟩ := hsockets _ rfl
  unfold onTick
  dsimp only
  generalize order.sockets.foldl (Ticked.tickSocket option) { state := s, times } = y
    at hstreamType hwritten ⊢
  have hrest : Ticked.Leaves t 0 y _ :=
    Ticked.leaves_sessions option accepted index order.opened order.abandoned y
  exact ⟨(hrest.streamType t).trans hstreamType, fun htype => hrest.written.trans (hwritten htype)⟩

end OnTick

end EngineState

end Engine
end SeamlessServer
