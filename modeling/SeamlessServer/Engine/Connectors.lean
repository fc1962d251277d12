import Mathlib.Data.Finset.Card
import SeamlessServer.Engine.Authentication
import SeamlessServer.Engine.Streams

/-!
# Engine.Connectors — how many connections a connector has

A connector is connected again when its connection is lost.  The stream knows its connector by the
`connector_id` of its `SocketStreamExtension`, which outlives the connection: `OnConnect` overwrites it
only if the connector is registered, and `OnDisconnect` resets it only if the stream has a session.

* `single_connection`: a registered connector has one `Connect` under way or one stream, as long as no
  stream that was refused acts for the connector it was connected for earlier;
* `SameConnectors`: what all other handlers leave alone.
-/

namespace SeamlessServer
namespace Engine

open NetworkEngine (ContextType StreamType errorNone errorSessionIsNotReady)

/-! ## The connector of a stream -/

/-- The connector that the stream is connected for. -/
def Stream.connector (x : Stream) : Option Nat :=
  if x.link.isLive = true ∧ x.streamType = some .Connector ∧ .unknownConnector ∉ x.requests then
    some x.connectorId
  else
    none

section Connector

variable (x : Stream)

theorem Stream.connector_eq_none (h : x.link.isLive = false) : x.connector = none := by
  simp [Stream.connector, h]

theorem Stream.connector_request (attachment : Nat) {requester : Requester}
    (h : requester ≠ .unknownConnector) : (x.request attachment requester).connector = x.connector := by
  have hlive : (x.request attachment requester).link.isLive = x.link.isLive := by
    unfold Stream.request
    dsimp only
    split
    next hconnected => simp [hconnected, Link.isLive]
    next => rfl
  have hrequests : .unknownConnector ∈ (x.request attachment requester).requests ↔
      .unknownConnector ∈ x.requests := by
    simp [Stream.request, h.symm]
  unfold Stream.connector
  simp only [hlive, hrequests]
  rfl

/-- A stream that was refused serves no connector. -/
theorem Stream.connector_refused (attachment : Nat) :
    (x.request attachment .unknownConnector).connector = none := by
  simp [Stream.connector, Stream.request]

end Connector

namespace EngineState

/-! ## Connections -/

/-- The streams that are connected for the connector. -/
def serving (s : EngineState) (connectorId : Nat) : Finset SocketStream :=
  s.streams.keys.toFinset.filter fun t => (s.stream t).connector = some connectorId

/-- The `Connect` operations under way for the connector, and its streams. -/
def connections (s : EngineState) (connectorId : Nat) : Nat :=
  s.connecting.count connectorId + (s.serving connectorId).card

section Serving

variable {s s' : EngineState} {t : SocketStream} {c : Nat}

theorem mem_serving : t ∈ s.serving c ↔ (s.stream t).connector = some c := by
  unfold serving
  rw [Finset.mem_filter, List.mem_toFinset]
  constructor
  · intro h
    exact h.2
  · intro h
    refine ⟨?_, h⟩
    -- a stream without an entry has never been connected
    by_contra hkey
    have hfind : s.streams.find t = none := by
      rw [s.streams.mem_keys] at hkey
      simpa using hkey
    simp [stream, hfind, Stream.connector, Link.isLive] at h

theorem serving_congr (h : ∀ t, (s'.stream t).connector = (s.stream t).connector) :
    s'.serving c = s.serving c := by
  ext t
  rw [mem_serving, mem_serving, h]

/-- A stream is connected for a connector. -/
theorem serving_of_connected (hbefore : (s.stream t).connector = none)
    (hself : (s'.stream t).connector = some c)
    (hother : ∀ t', t' ≠ t → (s'.stream t').connector = (s.stream t').connector) (c' : Nat) :
    (s'.serving c').card = (s.serving c').card + if c' = c then 1 else 0 := by
  by_cases hc : c' = c
  · subst hc
    have hinsert : s'.serving c' = insert t (s.serving c') := by
      ext t'
      rw [Finset.mem_insert, mem_serving, mem_serving]
      by_cases ht : t' = t
      · simp [ht, hself]
      · simp [ht, hother t' ht]
    rw [hinsert, Finset.card_insert_of_notMem (by simp [mem_serving, hbefore]), if_pos rfl]
  · have hsame : s'.serving c' = s.serving c' := by
      ext t'
      rw [mem_serving, mem_serving]
      by_cases ht : t' = t
      · subst ht
        simp [hself, hbefore, Ne.symm hc]
      · rw [hother t' ht]
    rw [hsame, if_neg hc, Nat.add_zero]

/-- A stream no longer serves its connector. -/
theorem serving_of_disconnected (hself : (s'.stream t).connector = none)
    (hother : ∀ t', t' ≠ t → (s'.stream t').connector = (s.stream t').connector) (c : Nat) :
    (s.serving c).card =
      (s'.serving c).card + if (s.stream t).connector = some c then 1 else 0 := by
  cases hconnector : (s.stream t).connector with
  | none =>
      have hsame : s'.serving c = s.serving c := by
        refine serving_congr fun t' => ?_
        by_cases ht : t' = t
        · rw [ht, hself, hconnector]
        · exact hother t' ht
      simp [hsame]
  | some c' =>
      have hcard := serving_of_connected hself hconnector (fun t' ht => (hother t' ht).symm) c
      simpa [eq_comm] using hcard

end Serving

/-! ## What handlers leave alone -/

/-- The states agree on the connectors and on the streams that serve them. -/
structure SameConnectors (s s' : EngineState) : Prop where
  connecting : s'.connecting = s.connecting
  connectorList : s'.connectorList = s.connectorList
  currentConnectorId : s'.currentConnectorId = s.currentConnectorId
  connector : ∀ t, (s'.stream t).connector = (s.stream t).connector

section Frame

variable {option : NetworkEngineOption} {s s' s'' : EngineState} {t : SocketStream}

theorem SameConnectors.refl (s : EngineState) : SameConnectors s s := ⟨rfl, rfl, rfl, fun _ => rfl⟩

theorem SameConnectors.trans (h : SameConnectors s s') (h' : SameConnectors s' s'') : SameConnectors s s'' where
  connecting := h'.connecting.trans h.connecting
  connectorList := h'.connectorList.trans h.connectorList
  currentConnectorId := h'.currentConnectorId.trans h.currentConnectorId
  connector := fun t => (h'.connector t).trans (h.connector t)

theorem SameConnectors.connections (h : SameConnectors s s') (c : Nat) : s'.connections c = s.connections c := by
  unfold EngineState.connections
  rw [h.connecting, serving_congr h.connector]

theorem SameConnectors.setStream (s : EngineState) {x : Stream} (hx : x.connector = (s.stream t).connector) :
    SameConnectors s (s.setStream t x) := by
  refine ⟨rfl, rfl, rfl, fun t' => ?_⟩
  rw [stream_setStream]
  split
  next heq => rw [hx, heq]
  next => rfl

theorem SameConnectors.transmitDisconnect (s : EngineState) (t : SocketStream) (attachment : Nat)
    {requester : Requester} (h : requester ≠ .unknownConnector) :
    SameConnectors s (s.transmitDisconnect t attachment requester) :=
  .setStream s ((s.stream t).connector_request attachment h)

theorem SameConnectors.closeSession (s : EngineState) (id : Nat) : SameConnectors s (s.closeSession id) := by
  unfold EngineState.closeSession
  split
  · exact .refl s
  · exact .transmitDisconnect s _ _ (by simp)

theorem SameConnectors.disconnectSession (s : EngineState) (id : Nat) : SameConnectors s (s.disconnectSession id) := by
  unfold EngineState.disconnectSession
  split
  · exact .refl s
  · exact .transmitDisconnect s _ _ (by simp)

theorem SameConnectors.sendSocketContext (s : EngineState) (contextType : ContextType) (id : Nat)
    (accepted : Bool) : SameConnectors s (s.sendSocketContext contextType id accepted) := by
  unfold EngineState.sendSocketContext
  split
  · exact ⟨rfl, rfl, rfl, fun _ => rfl⟩
  · exact .closeSession s id

theorem SameConnectors.onAccept (h : (s.stream t).link = .idle) : SameConnectors s (s.onAccept option t) := by
  have hactive : SameConnectors s (s.activate option t) := ⟨rfl, rfl, rfl, fun _ => rfl⟩
  refine hactive.trans (.setStream _ ?_)
  have hbefore : (s.stream t).connector = none := (s.stream t).connector_eq_none (by simp [h, Link.isLive])
  exact Eq.trans (by simp [Stream.connector]) hbefore.symm

/-! ### Packets -/

theorem SameConnectors.removeIf (s : EngineState) (id : Nat)
    (processor : SocketSession → SocketSession × Bool) : SameConnectors s (s.removeIf id processor).1 := by
  unfold EngineState.removeIf
  split
  · dsimp only
    split
    · exact ⟨rfl, rfl, rfl, fun _ => rfl⟩
    · exact ⟨rfl, rfl, rfl, fun _ => rfl⟩
  · exact .refl s

theorem SameConnectors.attach (s : EngineState) (t : SocketStream) (id : Nat) :
    SameConnectors s (s.attach option t id) := by
  refine ⟨rfl, rfl, rfl, fun t' => ?_⟩
  rw [stream_attach]
  split
  next heq =>
    subst heq
    rfl
  next => rfl

theorem SameConnectors.openSession (s : EngineState) (t : SocketStream) (id : Nat) (key : SessionKey) :
    SameConnectors s (s.openSession option t id key) := by
  refine SameConnectors.trans ?_ (.attach _ t id)
  exact ⟨rfl, rfl, rfl, fun _ => rfl⟩

theorem SameConnectors.revive (s : EngineState) (t : SocketStream) (id : Nat) :
    SameConnectors s (s.revive option t id) := by
  refine SameConnectors.trans ?_ (.attach _ t id)
  exact ⟨rfl, rfl, rfl, fun _ => rfl⟩

theorem SameConnectors.processSessionAuthRs (s : EngineState) (t : SocketStream) (errorCode : Nat)
    (info : ConnectorInfo) (answers : Answers) :
    SameConnectors s (s.processSessionAuthRs option t errorCode info answers).state := by
  unfold EngineState.processSessionAuthRs
  split
  · split
    · exact .refl s
    · split
      · -- the session is closed
        dsimp only [startAnew]
        have herased : SameConnectors s { s with
            abandonedSessionList := s.abandonedSessionList.erase info.sessionId } :=
          ⟨rfl, rfl, rfl, fun _ => rfl⟩
        have hsent := herased.trans (.sendSocketContext _ .SessionClosed info.sessionId answers.accepted)
        split
        · exact hsent.trans ⟨rfl, rfl, rfl, fun _ => rfl⟩
        · exact hsent
      · exact .refl s
  · have hremoved := SameConnectors.removeIf s info.sessionId (·.changeSessionState .Wait .Opened)
    split
    next s' hremove =>
      rw [hremove] at hremoved
      exact hremoved
    next s' hremove =>
      rw [hremove] at hremoved
      exact hremoved.trans (.revive s' t info.sessionId)

theorem SameConnectors.processSessionPacket (s : EngineState) (t : SocketStream) (received : Received)
    (answers : Answers) : SameConnectors s (s.processSessionPacket option t received answers).state := by
  unfold EngineState.processSessionPacket
  split
  · exact .refl s
  · split
    · -- `packet_session_create_rq`
      split
      · exact .refl s
      · exact .openSession s t _ _
    · -- `packet_session_create_rs`
      split
      · exact .refl s
      · split
        · exact .refl s
        · split
          · exact .refl s
          · exact (SameConnectors.openSession s t _ _).trans (.setStream _ rfl)
    next sessionId sessionKey _ =>
      -- `packet_session_auth_rq`
      have hremoved := SameConnectors.removeIf s sessionId (·.authenticate sessionKey)
      dsimp only
      split
      next s' hremove =>
        rw [hremove] at hremoved
        exact hremoved
      next s' hremove =>
        rw [hremove] at hremoved
        exact hremoved.trans (.revive s' t sessionId)
    · -- `packet_session_auth_rs`
      split
      · exact .refl s
      · exact .processSessionAuthRs s t _ _ answers
    · exact .refl s

/-! ### Reading -/

theorem SameConnectors.zeroRead (s : EngineState) (t : SocketStream) : SameConnectors s (s.zeroRead t) := by
  unfold EngineState.zeroRead
  split
  · exact .refl s
  · have hread : SameConnectors s (s.setStream t { s.stream t with posted := none }) := .setStream s rfl
    exact hread.trans (.transmitDisconnect _ t _ (by simp))

theorem SameConnectors.abortRead (s : EngineState) (t : SocketStream) : SameConnectors s (s.abortRead t) := by
  have hdrop : SameConnectors s (s.dropContexts t) := .setStream s rfl
  unfold EngineState.abortRead
  dsimp only
  split
  · exact hdrop.trans (.closeSession _ _)
  · exact hdrop.trans (.transmitDisconnect _ t _ (by simp))

theorem SameConnectors.flush (s : EngineState) (t : SocketStream) (accepted : Bool) :
    SameConnectors s (s.flush t accepted) := by
  rcases s.flush_eq t accepted with ⟨_, log, heq⟩ | ⟨_, heq⟩
  · have hcleared : SameConnectors s (s.setStream t { s.stream t with contexts := [] }) := .setStream s rfl
    rw [heq]
    exact hcleared.trans ⟨rfl, rfl, rfl, fun _ => rfl⟩
  · rw [heq]
    exact .abortRead s t

theorem SameConnectors.readPacket (s : EngineState) (t : SocketStream) (received : Received)
    (answers : Answers) : SameConnectors s (s.readPacket option t received answers) := by
  unfold EngineState.readPacket
  split
  next =>
    have hprocessed : SameConnectors s (s.processSessionPacket option t received answers).state :=
      .processSessionPacket s t received answers
    dsimp only
    split
    · exact hprocessed
    · split
      · exact hprocessed
      · exact hprocessed.trans (.setStream _ rfl)
  next =>
    split
    · exact .refl s
    · exact .refl s
    · exact .abortRead s t
    · exact .abortRead s t
    · exact .abortRead s t
    · exact .setStream s rfl

/-! ### The rest of OnDisconnect, OnTick and the worker -/

theorem SameConnectors.insertAbandoned (h : (s.stream t).link = .abandoning) :
    SameConnectors s (s.insertAbandoned option t) := by
  unfold EngineState.insertAbandoned
  split
  · exact .refl s
  · dsimp only
    refine SameConnectors.trans ?_ (.setStream _ ?_)
    · exact ⟨rfl, rfl, rfl, fun _ => rfl⟩
    · exact (Stream.connector_eq_none _ rfl).trans
        ((s.stream t).connector_eq_none (by simp [h, Link.isLive])).symm

theorem SameConnectors.submitDisconnect (s : EngineState) (t : SocketStream) (accepted : Bool) :
    SameConnectors s (s.submitDisconnect t accepted) := by
  unfold EngineState.submitDisconnect
  split
  next contextType id hlink _ =>
    have hsent := SameConnectors.sendSocketContext s contextType id accepted
    have hbefore : (s.stream t).connector = none :=
      (s.stream t).connector_eq_none (by simp [hlink, Link.isLive])
    have hlast : ∀ {s' : EngineState}, SameConnectors s s' →
        SameConnectors s (s'.setStream t { s'.stream t with link := .idle, connectorId := 0, session := none }) :=
      fun h => h.trans (.setStream _ ((Stream.connector_eq_none _ rfl).trans
        ((h.connector t).trans hbefore).symm))
    dsimp only
    split
    · exact hlast (hsent.trans ⟨rfl, rfl, rfl, fun _ => rfl⟩)
    · exact hlast hsent
  next => exact .refl s

theorem SameConnectors.removeExpired (s : EngineState) (index : Nat) : SameConnectors s (s.removeExpired index) := by
  unfold EngineState.removeExpired
  split
  next id _ =>
    have hremoved := SameConnectors.removeIf s id (·.changeSessionState .Wait .Closed)
    cases hremove : s.removeIf id (·.changeSessionState .Wait .Closed) with
    | mk s' success =>
        rw [hremove] at hremoved
        exact hremoved.trans ⟨rfl, rfl, rfl, fun _ => rfl⟩
  next => exact .refl s

theorem SameConnectors.submitExpired (s : EngineState) (index : Nat) (accepted : Bool) :
    SameConnectors s (s.submitExpired index accepted) := by
  unfold EngineState.submitExpired
  split
  next id _ =>
    have hsent := SameConnectors.sendSocketContext s .SessionClosed id accepted
    dsimp only
    split
    · exact hsent.trans ⟨rfl, rfl, rfl, fun _ => rfl⟩
    · exact hsent.trans ⟨rfl, rfl, rfl, fun _ => rfl⟩
  next => exact .refl s

theorem SameConnectors.dispatch (s : EngineState) : SameConnectors s s.dispatch := by
  unfold EngineState.dispatch
  split
  · exact .refl s
  next context hup =>
    obtain ⟨queue, chain, heq, _⟩ := takeContext_eq hup
    rw [heq]
    dsimp only
    split
    · exact ⟨rfl, rfl, rfl, fun _ => rfl⟩
    · exact ⟨rfl, rfl, rfl, fun _ => rfl⟩

theorem SameConnectors.release (s : EngineState) : SameConnectors s s.release := by
  unfold EngineState.release
  split
  · exact .refl s
  · dsimp only
    split
    · exact ⟨rfl, rfl, rfl, fun _ => rfl⟩
    · exact ⟨rfl, rfl, rfl, fun _ => rfl⟩

end Frame

/-- An event in which a connector is registered, unregistered, connected or disconnected. -/
def ConcernsConnectors : EngineEvent → Prop
  | .connect _ _ => True
  | .connectFailed _ => True
  | .register _ _ => True
  | .unregister _ => True
  | .disconnect _ => True
  | _ => False

/-- All other events leave the connectors alone. -/
theorem sameConnectors_next {option : NetworkEngineOption} {s : EngineState} {e : EngineEvent}
    (henabled : s.Enabled option e) (he : ¬ ConcernsConnectors e) : SameConnectors s (s.next option e) := by
  cases e with
  | accept t => exact .onAccept henabled.2.1
  | connect t connectorId => exact absurd trivial he
  | connectFailed connectorId => exact absurd trivial he
  | register remoteAddress attachment => exact absurd trivial he
  | unregister connectorId => exact absurd trivial he
  | read t => exact .setStream s rfl
  | zeroRead t => exact .zeroRead s t
  | packet t received answers => exact .readPacket s t received answers
  | flush t accepted => exact .flush s t accepted
  | finishRead t => exact .setStream s rfl
  | abortRead t => exact .abortRead s t
  | disconnect t => exact absurd trivial he
  | insertAbandoned t => exact .insertAbandoned henabled
  | submitDisconnect t accepted => exact .submitDisconnect s t accepted
  | expire index id => exact ⟨rfl, rfl, rfl, fun _ => rfl⟩
  | removeExpired index => exact .removeExpired s index
  | submitExpired index accepted => exact .submitExpired s index accepted
  | idleSocket index t => exact .transmitDisconnect s t _ (by simp)
  | idleSession index id => exact (SameConnectors.closeSession s id).trans ⟨rfl, rfl, rfl, fun _ => rfl⟩
  | send id => exact .refl s
  | closeSession id => exact .closeSession s id
  | disconnectSession id => exact .disconnectSession s id
  | dispatch => exact .dispatch s
  | release => exact .release s
  | recycle id => exact ⟨rfl, rfl, rfl, fun _ => rfl⟩

/-! ## Accounting -/

/-- The connector that `OnDisconnect` connects again. -/
def reconnected (s : EngineState) (t : SocketStream) : Option Nat :=
  if (s.stream t).streamType = some .Connector ∧ s.connectorList (s.stream t).connectorId ≠ none then
    some (s.stream t).connectorId
  else
    none

/-- Every entry is under its own id, and every registered connector has one connection. -/
structure Accounted (s : EngineState) : Prop where
  keyed : ∀ c info, s.connectorList c = some info → info.connectorId = c
  single : ∀ c, s.connectorList c ≠ none → s.connections c = 1

/-- A new connector does not get an id that is in use; and a stream that was refused, when it is
disconnected, has not the id of a registered connector left from an earlier connection. -/
def ActsForItself (s : EngineState) : EngineEvent → Prop
  | .register _ _ => s.connections s.currentConnectorId = 0
  | .disconnect t =>
      .unknownConnector ∈ (s.stream t).requests → (s.stream t).streamType = some .Connector →
        s.connectorList (s.stream t).connectorId = none
  | _ => True

instance (s : EngineState) (e : EngineEvent) : Decidable (s.ActsForItself e) :=
  match e with
  | .register _ _ => inferInstanceAs (Decidable (s.connections s.currentConnectorId = 0))
  | .disconnect t => inferInstanceAs (Decidable (_ ∈ (s.stream t).requests → _ = _ → _ = _))
  | .accept _ | .connect _ _ | .connectFailed _ | .unregister _ | .read _ | .zeroRead _ |
    .packet _ _ _ | .flush _ _ | .finishRead _ | .abortRead _ | .insertAbandoned _ |
    .submitDisconnect _ _ | .expire _ _ | .removeExpired _ | .submitExpired _ _ |
    .idleSocket _ _ | .idleSession _ _ | .send _ | .closeSession _ | .disconnectSession _ |
    .dispatch | .release | .recycle _ =>
      instDecidableTrue

section Accounting

variable {option : NetworkEngineOption} {s s' : EngineState} {t : SocketStream}

theorem Accounted.of_sameConnectors (h : s.Accounted) (hsame : SameConnectors s s') :
    s'.Accounted where
  keyed := by
    rw [hsame.connectorList]
    exact h.keyed
  single := by
    intro c hc
    rw [hsame.connectorList] at hc
    rw [hsame.connections, h.single c hc]

theorem Accounted.registerConnectorSocket (h : s.Accounted)
    (remoteAddress : Protocol.SocketAddress) (attachment : Nat)
    (hfresh : s.connections s.currentConnectorId = 0) :
    (s.registerConnectorSocket remoteAddress attachment).Accounted := by
  let s' := s.registerConnectorSocket remoteAddress attachment
  have hconnections : ∀ c, s'.connections c =
      s.connections c + if s.currentConnectorId = c then 1 else 0 := by
    intro c
    change (s.connecting ++ [s.currentConnectorId]).count c + (s.serving c).card = _
    rw [List.count_append, List.count_singleton']
    unfold connections
    omega
  constructor
  · intro c info hc
    by_cases heq : c = s.currentConnectorId
    · subst heq
      obtain rfl := Option.some.inj ((Function.update_self _ _ s.connectorList).symm.trans hc)
      rfl
    · exact h.keyed c info ((Function.update_of_ne heq _ _).symm.trans hc)
  · intro c hc
    change s'.connections c = 1
    by_cases heq : s.currentConnectorId = c
    · rw [hconnections, if_pos heq, ← heq, hfresh]
    · rw [hconnections, if_neg heq]
      exact h.single c fun hnone =>
        hc ((Function.update_of_ne (Ne.symm heq) _ _).trans hnone)

theorem unregisterConnectorSocket_cases (s : EngineState) (connectorId : Nat) :
    let s' := s.unregisterConnectorSocket connectorId
    s'.connecting = s.connecting ∧
      s'.connectorList = Function.update s.connectorList connectorId none ∧
      s'.currentConnectorId = s.currentConnectorId ∧
      ∀ t, (s'.stream t).connector = (s.stream t).connector := by
  unfold EngineState.unregisterConnectorSocket
  split
  next hnone =>
    exact ⟨rfl, (Function.update_eq_self_iff.2 hnone.symm).symm, rfl, fun _ => rfl⟩
  next =>
    let s₁ := { s with connectorList := Function.update s.connectorList connectorId none }
    dsimp only
    split
    · exact ⟨rfl, rfl, rfl, fun _ => rfl⟩
    next t _ =>
      have hsame : SameConnectors s₁ (s₁.transmitDisconnect t gracefulShutdownCode .graceful) :=
        .transmitDisconnect s₁ t _ (by simp)
      exact ⟨rfl, rfl, rfl, hsame.connector⟩

theorem Accounted.unregisterConnectorSocket (h : s.Accounted) (connectorId : Nat) :
    (s.unregisterConnectorSocket connectorId).Accounted := by
  obtain ⟨hconnecting, hlist, _, hconnector⟩ := s.unregisterConnectorSocket_cases connectorId
  refine ⟨fun c info hc => ?_, fun c hc => ?_⟩
  · rw [hlist] at hc
    by_cases heq : c = connectorId
    · rw [heq, Function.update_self] at hc
      cases hc
    · rw [Function.update_of_ne heq] at hc
      exact h.keyed c info hc
  · rw [hlist] at hc
    have hregistered : s.connectorList c ≠ none := by
      by_cases heq : c = connectorId
      · rw [heq, Function.update_self] at hc
        exact absurd rfl hc
      · rwa [Function.update_of_ne heq] at hc
    rw [connections, hconnecting, serving_congr hconnector]
    exact h.single c hregistered

theorem Accounted.onConnectFailed (h : s.Accounted) {attachment : Nat}
    (hconnecting : attachment ∈ s.connecting) : (s.onConnectFailed attachment).Accounted := by
  unfold EngineState.onConnectFailed
  dsimp only
  split
  next hnone =>
    refine ⟨h.keyed, fun c hc => ?_⟩
    have hne : c ≠ attachment := by
      rintro rfl
      exact hc hnone
    have hcount : (s.connecting.erase attachment).count c = s.connecting.count c :=
      List.count_erase_of_ne hne
    rw [← h.single c hc]
    exact congrArg (· + (s.serving c).card) hcount
  next info hinfo =>
    -- the failed operation is replaced by a new one
    refine ⟨h.keyed, fun c hc => ?_⟩
    have hperm : (s.connecting.erase attachment ++ [info.connectorId]).count c =
        s.connecting.count c := by
      rw [h.keyed attachment info hinfo]
      have hback : (attachment :: s.connecting.erase attachment).Perm s.connecting :=
        (List.perm_cons_erase hconnecting).symm
      exact ((List.perm_append_singleton _ _).trans hback).count_eq c
    rw [← h.single c hc]
    exact congrArg (· + (s.serving c).card) hperm

/-- What `OnConnect` does: the stream is refused, or it serves the connector from now on. -/
theorem onConnect_cases (option : NetworkEngineOption) (s : EngineState) (t : SocketStream)
    (attachment : Nat) :
    let s' := (s.onConnect option t attachment).1
    s'.connecting = s.connecting.erase attachment ∧
      (∀ t', t' ≠ t → s'.stream t' = s.stream t') ∧
      ((s.connectorList attachment = none ∧ s'.connectorList = s.connectorList ∧
          (s'.stream t).connector = none) ∨
        ∃ info, s.connectorList attachment = some info ∧
          s'.connectorList =
            Function.update s.connectorList info.connectorId (some { info with stream := some t }) ∧
          (s'.stream t).connector = some attachment) := by
  intro s'
  let s₁ := { s with connecting := s.connecting.erase attachment }.activate option t
  let s₂ := s₁.setStream t { s₁.stream t with link := .connected, requests := [] }
  have hother : ∀ t', t' ≠ t → s₂.stream t' = s.stream t' := fun t' ht =>
    (stream_setStream s₁ t t' _).trans (if_neg ht)
  have hself : s₂.stream t = { s.stream t with link := .connected, requests := [] } :=
    (stream_setStream s₁ t t _).trans (if_pos rfl)
  cases hlist : s.connectorList attachment with
  | none =>
      -- no connector of this id: the stream is disconnected again
      have hs' : s' = s₂.transmitDisconnect t attachment .unknownConnector := by
        change (s.onConnect option t attachment).1 = _
        unfold EngineState.onConnect
        dsimp only
        split
        next => rfl
        next info hinfo => cases hlist.symm.trans hinfo
      rw [hs']
      refine ⟨rfl, fun t' ht => ?_, .inl ⟨rfl, rfl, ?_⟩⟩
      · rw [stream_transmitDisconnect, if_neg ht, hother t' ht]
      · rw [stream_transmitDisconnect, if_pos rfl]
        exact Stream.connector_refused _ attachment
  | some info =>
      -- the entry names the stream, and the stream is that of a connector
      let s₃ := { s₂ with
        connectorList := Function.update s₂.connectorList info.connectorId
          (some { info with stream := some t })
        lost := Function.update s₂.lost attachment none }
      have hs' : s' = s₃.setStream t { s₃.stream t with
          session := none
          streamType := some .Connector
          connectorId := attachment
          posted := some t.id
          issued := none } := by
        change (s.onConnect option t attachment).1 = _
        unfold EngineState.onConnect
        dsimp only
        split
        next hnone => cases hlist.symm.trans hnone
        next info' hinfo =>
          obtain rfl : info = info' := Option.some.inj (hlist.symm.trans hinfo)
          rfl
      have hthird : s₃.stream t = { s.stream t with link := .connected, requests := [] } := hself
      rw [hs']
      refine ⟨rfl, fun t' ht => ?_, .inr ⟨info, rfl, rfl, ?_⟩⟩
      · rw [stream_setStream, if_neg ht]
        exact hother t' ht
      · rw [stream_setStream, if_pos rfl, hthird]
        simp [Stream.connector, Link.isLive]

theorem Accounted.onConnect (h : s.Accounted) (hidle : (s.stream t).link = .idle) {attachment : Nat}
    (hconnecting : attachment ∈ s.connecting) : (s.onConnect option t attachment).1.Accounted := by
  have hbefore : (s.stream t).connector = none :=
    (s.stream t).connector_eq_none (by simp [hidle, Link.isLive])
  obtain ⟨hconnecting', hother, ⟨hnone, hlist, hself⟩ | ⟨info, hinfo, hlist, hself⟩⟩ :=
    onConnect_cases option s t attachment
  -- refused: the attempt is over, and no other connector notices
  · refine ⟨hlist ▸ h.keyed, fun c hc => ?_⟩
    rw [hlist] at hc
    have hne : c ≠ attachment := by
      rintro rfl
      exact hc hnone
    have hserving : (s.onConnect option t attachment).1.serving c = s.serving c := by
      refine serving_congr fun t' => ?_
      by_cases ht : t' = t
      · rw [ht, hself, hbefore]
      · rw [hother t' ht]
    rw [connections, hconnecting', hserving, List.count_erase_of_ne hne]
    exact h.single c hc
  · have hid : info.connectorId = attachment := h.keyed attachment info hinfo
    rw [hid] at hlist
    refine ⟨fun c info' hc => ?_, fun c hc => ?_⟩
    · rw [hlist] at hc
      by_cases heq : c = attachment
      · rw [heq, Function.update_self] at hc
        cases hc
        exact heq.symm
      · rw [Function.update_of_ne heq] at hc
        exact h.keyed c info' hc
    -- one attempt less and one stream more
    · have hregistered : s.connectorList c ≠ none := by
        by_cases heq : c = attachment
        · rw [heq, hinfo]
          simp
        · rwa [hlist, Function.update_of_ne heq] at hc
      have hserving := serving_of_connected hbefore hself (fun t' ht => by rw [hother t' ht]) c
      have hsingle := h.single c hregistered
      rw [connections, hconnecting', hserving]
      unfold connections at hsingle
      by_cases heq : c = attachment
      · subst heq
        have hpos := List.count_pos_iff.2 hconnecting
        rw [List.count_erase_self, if_pos rfl]
        omega
      · rw [List.count_erase_of_ne heq, if_neg heq]
        exact hsingle

/-! ### OnDisconnect -/

theorem reconnect_cases (s : EngineState) (t : SocketStream) :
    (s.reconnect t).connecting = s.connecting ++ (s.reconnected t).toList ∧
      ∀ c, (s.reconnect t).connectorList c = s.connectorList c ∨
        ∃ info, s.connectorList c = some info ∧
          (s.reconnect t).connectorList c = some { info with stream := none } := by
  unfold EngineState.reconnect
  dsimp only
  split
  next htype =>
    split
    next hnone =>
      have hreconnected : s.reconnected t = none := if_neg fun h => h.2 hnone
      rw [hreconnected]
      exact ⟨(List.append_nil _).symm, fun c => .inl rfl⟩
    next info hinfo =>
      have hreconnected : s.reconnected t = some (s.stream t).connectorId :=
        if_pos ⟨htype, by rw [hinfo]; simp⟩
      rw [hreconnected]
      refine ⟨rfl, fun c => ?_⟩
      by_cases heq : c = (s.stream t).connectorId
      · subst heq
        exact .inr ⟨info, hinfo, Function.update_self _ _ _⟩
      · exact .inl (Function.update_of_ne heq _ _)
  next htype =>
    have hreconnected : s.reconnected t = none := if_neg fun h => htype h.1
    rw [hreconnected]
    exact ⟨(List.append_nil _).symm, fun c => .inl rfl⟩

theorem loseSession_cases (option : NetworkEngineOption) (s : EngineState) (t : SocketStream)
    (attachment : Nat) :
    let s' := s.loseSession option t attachment
    s'.connecting = s.connecting ∧ s'.connectorList = s.connectorList ∧
      (∀ t', t' ≠ t → s'.stream t' = s.stream t') ∧ (s'.stream t).connector = none := by
  have hset : ∀ {s₁ : EngineState} {link : Link}, (∀ t', s₁.stream t' = s.stream t') →
      link.isLive = false →
      (∀ t', t' ≠ t → (s₁.setStream t { s.stream t with link }).stream t' = s.stream t') ∧
        ((s₁.setStream t { s.stream t with link }).stream t).connector = none := by
    intro s₁ link hs₁ hlive
    refine ⟨fun t' ht => ?_, ?_⟩
    · rw [stream_setStream, if_neg ht, hs₁]
    · rw [stream_setStream, if_pos rfl]
      exact Stream.connector_eq_none _ hlive
  unfold loseSession
  split
  · exact ⟨rfl, rfl, hset (fun _ => rfl) rfl⟩
  · split
    · split
      · exact ⟨rfl, rfl, hset (fun _ => rfl) rfl⟩
      · exact ⟨rfl, rfl, hset (fun _ => rfl) rfl⟩
    · exact ⟨rfl, rfl, hset (fun _ => rfl) rfl⟩

/-- What the first part of `OnDisconnect` does: the connector of the stream's extension, if it is
registered, is connected again. -/
theorem beginDisconnect_cases (option : NetworkEngineOption)
    (hlink : (s.stream t).link.isDisconnecting = true) :
    let s' := s.beginDisconnect option t
    s'.connecting = s.connecting ++ (s.reconnected t).toList ∧
      (∀ c, s'.connectorList c = s.connectorList c ∨
        ∃ info, s.connectorList c = some info ∧
          s'.connectorList c = some { info with stream := none }) ∧
      (∀ t', t' ≠ t → s'.stream t' = s.stream t') ∧ (s'.stream t).connector = none := by
  have hs' : ∃ attachment, s.beginDisconnect option t =
      ((s.deactivate option t).reconnect t).loseSession option t attachment := by
    unfold beginDisconnect
    split
    next attachment _ => exact ⟨attachment, rfl⟩
    next hother =>
      cases hstate : (s.stream t).link with
      | disconnecting attachment => exact absurd hstate (hother attachment)
      | _ => simp [hstate, Link.isDisconnecting] at hlink
  obtain ⟨attachment, hs'⟩ := hs'
  obtain ⟨hconnecting, hlist⟩ := reconnect_cases (s.deactivate option t) t
  obtain ⟨hconnecting', hlist', hother, hself⟩ :=
    loseSession_cases option ((s.deactivate option t).reconnect t) t attachment
  intro s'
  have heq : s' = _ := hs'
  rw [heq, hconnecting', hconnecting, hlist']
  refine ⟨rfl, hlist, fun t' ht => ?_, hself⟩
  rw [hother t' ht, stream_reconnect]
  rfl

/-! ### The registered connectors -/

/-- Every entry is under its own id. -/
def Keyed (s : EngineState) : Prop := ∀ c info, s.connectorList c = some info → info.connectorId = c

/-- An event in which a connector is registered or unregistered. -/
def Registers : EngineEvent → Prop
  | .register _ _ => True
  | .unregister _ => True
  | _ => False

theorem currentConnectorId_connect (option : NetworkEngineOption) (s : EngineState)
    (t : SocketStream) (attachment : Nat) :
    (s.onConnect option t attachment).1.currentConnectorId = s.currentConnectorId := by
  unfold EngineState.onConnect
  dsimp only
  split
  · rfl
  · rfl

theorem currentConnectorId_disconnect (option : NetworkEngineOption) (s : EngineState)
    (t : SocketStream) :
    (s.beginDisconnect option t).currentConnectorId = s.currentConnectorId := by
  have hlose : ∀ (s : EngineState) attachment,
      (s.loseSession option t attachment).currentConnectorId = s.currentConnectorId := by
    intro s attachment
    unfold EngineState.loseSession
    split
    · rfl
    · split
      · split
        · rfl
        · rfl
      · rfl
  unfold EngineState.beginDisconnect
  split
  · obtain ⟨connectorList, connecting, lost, hreconnect⟩ := (s.deactivate option t).reconnect_eq t
    rw [hlose, hreconnect]
    rfl
  · rfl

theorem Keyed.onConnect (option : NetworkEngineOption) (h : s.Keyed) (t : SocketStream)
    (attachment : Nat) :
    (s.onConnect option t attachment).1.Keyed ∧
      ∀ c, (s.onConnect option t attachment).1.connectorList c = none ↔
        s.connectorList c = none := by
  obtain ⟨_, _, ⟨_, hlist, _⟩ | ⟨info, hinfo, hlist, _⟩⟩ := onConnect_cases option s t attachment
  · unfold Keyed
    rw [hlist]
    exact ⟨h, fun _ => Iff.rfl⟩
  · have hid := h attachment info hinfo
    rw [hid] at hlist
    refine ⟨fun c info' hc => ?_, fun c => ?_⟩
    · rw [hlist] at hc
      by_cases heq : c = attachment
      · rw [heq, Function.update_self] at hc
        cases hc
        exact heq.symm
      · rw [Function.update_of_ne heq] at hc
        exact h c info' hc
    · rw [hlist]
      by_cases heq : c = attachment
      · rw [heq, Function.update_self, hinfo]
        simp
      · rw [Function.update_of_ne heq]

theorem Keyed.beginDisconnect (option : NetworkEngineOption) (h : s.Keyed)
    (hlink : (s.stream t).link.isDisconnecting = true) :
    (s.beginDisconnect option t).Keyed ∧
      ∀ c, (s.beginDisconnect option t).connectorList c = none ↔ s.connectorList c = none := by
  obtain ⟨_, hlist, _, _⟩ := beginDisconnect_cases option hlink
  refine ⟨fun c info hc => ?_, fun c => ?_⟩
  · rcases hlist c with hsame | ⟨info', hinfo', hreleased⟩
    · exact h c info (hsame.symm.trans hc)
    · rw [hreleased] at hc
      cases hc
      exact h c info' hinfo'
  · rcases hlist c with hsame | ⟨info', hinfo', hreleased⟩
    · rw [hsame]
    · rw [hreleased, hinfo']
      simp

/-- Connections come and go without a change to the registered connectors. -/
theorem Keyed.next (h : s.Keyed) {e : EngineEvent} (henabled : s.Enabled option e)
    (he : ¬ Registers e) :
    (s.next option e).Keyed ∧ (s.next option e).currentConnectorId = s.currentConnectorId ∧
      ∀ c, (s.next option e).connectorList c = none ↔ s.connectorList c = none := by
  by_cases hconcerns : ConcernsConnectors e
  · cases e with
    | connect t connectorId =>
        obtain ⟨hkeyed, hlist⟩ := h.onConnect option t connectorId
        exact ⟨hkeyed, currentConnectorId_connect option s t connectorId, hlist⟩
    | connectFailed connectorId =>
        have hfailed : (s.onConnectFailed connectorId).connectorList = s.connectorList ∧
            (s.onConnectFailed connectorId).currentConnectorId = s.currentConnectorId := by
          unfold EngineState.onConnectFailed
          dsimp only
          split
          · exact ⟨rfl, rfl⟩
          · exact ⟨rfl, rfl⟩
        refine ⟨fun c info hc => h c info ?_, hfailed.2, fun c => ?_⟩
        · exact (congrFun hfailed.1 c).symm.trans hc
        · exact iff_of_eq (congrArg (· = none) (congrFun hfailed.1 c))
    | disconnect t =>
        obtain ⟨hkeyed, hlist⟩ := h.beginDisconnect option henabled.2
        exact ⟨hkeyed, currentConnectorId_disconnect option s t, hlist⟩
    | register remoteAddress attachment => exact absurd trivial he
    | unregister connectorId => exact absurd trivial he
    | _ => exact absurd hconcerns id
  · have hsame := sameConnectors_next henabled hconcerns
    refine ⟨?_, hsame.currentConnectorId, fun c => by rw [hsame.connectorList]⟩
    unfold Keyed
    rw [hsame.connectorList]
    exact h

/-! ### Accounting for OnDisconnect -/

/-- A stream of a registered connector has it connected again, and nothing else is connected, unless
the stream was refused. -/
theorem ActsForItself.reconnected (hacts : s.ActsForItself (.disconnect t))
    (hlink : (s.stream t).link.isDisconnecting = true) {c : Nat} (hc : s.connectorList c ≠ none) :
    s.reconnected t = some c ↔ (s.stream t).connector = some c := by
  have hlive : (s.stream t).link.isLive = true := by
    cases hstate : (s.stream t).link <;> simp [hstate, Link.isDisconnecting, Link.isLive] at hlink ⊢
  unfold EngineState.reconnected Stream.connector
  constructor
  · intro h
    split at h
    next hboth =>
      rw [if_pos ⟨hlive, hboth.1, fun hrefused => hboth.2 (hacts hrefused hboth.1)⟩]
      exact h
    next => cases h
  · intro h
    split at h
    next hserves =>
      cases h
      rw [if_pos ⟨hserves.2.1, hc⟩]
    next => cases h

theorem Accounted.beginDisconnect (h : s.Accounted) (hacts : s.ActsForItself (.disconnect t))
    (hlink : (s.stream t).link.isDisconnecting = true) :
    (s.beginDisconnect option t).Accounted := by
  obtain ⟨hconnecting, hlist, hother, hself⟩ := beginDisconnect_cases option hlink
  refine ⟨fun c info hc => ?_, fun c hc => ?_⟩
  · rcases hlist c with hsame | ⟨info', hinfo', hreleased⟩
    · exact h.keyed c info (hsame.symm.trans hc)
    · rw [hreleased] at hc
      cases hc
      exact h.keyed c info' hinfo'
  · have hregistered : s.connectorList c ≠ none := by
      rcases hlist c with hsame | ⟨info', hinfo', _⟩
      · rwa [hsame] at hc
      · rw [hinfo']
        simp
    have hserving : (s.serving c).card = ((s.beginDisconnect option t).serving c).card +
        if (s.stream t).connector = some c then 1 else 0 :=
      serving_of_disconnected hself (fun t' ht => by rw [hother t' ht]) c
    have hcount : (s.reconnected t).toList.count c =
        if (s.stream t).connector = some c then 1 else 0 := by
      rw [← if_congr (hacts.reconnected hlink hregistered) rfl rfl]
      cases s.reconnected t with
      | none => rfl
      | some c' => simp [List.count_singleton']
    have hsingle := h.single c hregistered
    unfold connections at hsingle ⊢
    rw [hconnecting, List.count_append, hcount]
    omega

/-! ### Runs -/

theorem Accounted.next (h : s.Accounted) {e : EngineEvent} (henabled : s.Enabled option e)
    (hacts : s.ActsForItself e) : (s.next option e).Accounted := by
  by_cases he : ConcernsConnectors e
  · cases e with
    | connect t connectorId => exact h.onConnect henabled.2.1.1 henabled.2.2
    | connectFailed connectorId => exact h.onConnectFailed henabled
    | register remoteAddress attachment => exact h.registerConnectorSocket _ _ hacts
    | unregister connectorId => exact h.unregisterConnectorSocket connectorId
    | disconnect t => exact h.beginDisconnect hacts henabled.2
    | _ => exact absurd he id
  · exact h.of_sameConnectors (sameConnectors_next henabled he)

theorem accounted_of_reachable (h : ((engine option).restrict ActsForItself).Reachable s) :
    s.Accounted := by
  refine Machine.Reachable.invariant (fun s hs => ?_) (fun s e s' hs hstep => ?_) h
  · obtain rfl : s = initialized option := hs
    exact ⟨fun _ _ hc => (by cases hc), fun _ hc => absurd rfl hc⟩
  · obtain ⟨hacts, henabled, rfl⟩ := hstep
    exact hs.next henabled hacts

/-- As long as no refused stream acts for the connector of an earlier connection, every registered
connector has exactly one connection, under way or open; and a disconnected stream has only its own
connector connected again if and only if it does not act for another one. -/
theorem single_connection (h : ((engine option).restrict ActsForItself).Reachable s) :
    (∀ c, s.connectorList c ≠ none → s.connecting.count c + (s.serving c).card = 1) ∧
      ∀ t, s.Enabled option (.disconnect t) →
        (s.ActsForItself (.disconnect t) ↔
          ∀ c, s.connecting.count c < (s.next option (.disconnect t)).connecting.count c →
            (s.stream t).connector = some c) := by
  refine ⟨(accounted_of_reachable h).single, fun t henabled => ?_⟩
  -- a connection that is lost asks for one at most, that of the connector it kept the id of
  have hconnecting : (s.next option (.disconnect t)).connecting =
      s.connecting ++ (s.reconnected t).toList := (beginDisconnect_cases option henabled.2).1
  have hissued : ∀ c, s.connecting.count c < (s.next option (.disconnect t)).connecting.count c ↔
      s.reconnected t = some c := by
    intro c
    rw [hconnecting, List.count_append, Nat.lt_add_right_iff_pos, List.count_pos_iff,
      Option.mem_toList]
  simp only [hissued]
  constructor
  · intro hacts c hc
    have hregistered : s.connectorList c ≠ none := by
      unfold reconnected at hc
      split at hc
      next hboth =>
        cases hc
        exact hboth.2
      next => cases hc
    exact (hacts.reconnected henabled.2 hregistered).1 hc
  -- a stream closed for an unknown connector serves none
  · intro hown hrefused htype
    by_contra hregistered
    have hnone : (s.stream t).connector = none := by simp [Stream.connector, hrefused]
    have hsome := hown _ (if_pos ⟨htype, hregistered⟩)
    rw [hnone] at hsome
    cases hsome

end Accounting

end EngineState

/-! ## A stale connector -/

namespace Sample

/-- The first connector loses its connection before it has a session, and is connected again. -/
def reconnecting : List EngineEvent :=
  [.register ⟨"", 0⟩ 0, .connect (.connector 1) 1, .zeroRead (.connector 1),
    .disconnect (.connector 1)]

/-- Its old stream is used for a connector that has been unregistered meanwhile, and is refused, while
the first connector is connected by another stream. -/
def refusing : List EngineEvent :=
  [.register ⟨"", 0⟩ 0, .unregister 2, .connect (.connector 1) 2, .connect (.connector 3) 1]

end Sample

open EngineState Sample in
/-- The refused stream has the first connector connected a second time. -/
theorem refused_reconnects :
    let s := after (reconnecting ++ refusing)
    let s' := after (reconnecting ++ refusing ++ [.disconnect (.connector 1)])
    (engine option).Reachable s ∧ (s.stream (.connector 1)).connector = none ∧
      s.connecting = [] ∧ s'.connecting = [1] ∧ s'.connectorList 1 ≠ none ∧
      .connector 3 ∈ s'.serving 1 ∧ (engine option).Reachable s' ∧
      ¬ s'.connecting.count 1 + (s'.serving 1).card ≤ 1 := by
  intro s s'
  exact ⟨reachable_after _, by decide +kernel, by decide +kernel, by decide +kernel,
    by decide +kernel, by decide +kernel, reachable_after _, by decide +kernel⟩

open EngineState Sample in
/-- A connector that is connected for the second time, after its first stream was lost. -/
theorem single_connection_reconnected :
    let s := after (reconnecting ++ [.connect (.connector 3) 1])
    (∀ c, s.connectorList c ≠ none → s.connecting.count c + (s.serving c).card = 1) ∧
      ∀ t, s.Enabled option (.disconnect t) →
        (s.ActsForItself (.disconnect t) ↔
          ∀ c, s.connecting.count c < (s.next option (.disconnect t)).connecting.count c →
            (s.stream t).connector = some c) :=
  single_connection (reachable_restrict (by decide +kernel))

end Engine
end SeamlessServer
