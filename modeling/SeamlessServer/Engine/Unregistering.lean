import SeamlessServer.Engine.Connectors

/-!
# Engine.Unregistering — handlers that are interrupted while they deal with a connector

`OnConnect` reads the entry of `_connector_list`, changes its copy and inserts it again; when it fails,
and in `OnDisconnect`, `Connect` is called for an entry that was read before.  Here the logic worker may
come between, with `UnregisterConnectorSocket` in particular.

* `unregistered_final`: an unregistered connector is never seen again, as long as no handler has read
  its entry when it is removed;
* `resume_connect`, `resume_connectFailed`, `resume_disconnect`: without an interruption, the handlers
  do what they do in one step.
-/

namespace SeamlessServer
namespace Engine

open NetworkEngine (StreamType)

/-! ## The parts of the handlers -/

namespace EngineState

section Parts

variable (option : NetworkEngineOption) (s : EngineState) (t : SocketStream)

/-- `OnConnect` with the entry of a connector, up to `Insert`. -/
def openConnection (attachment : Nat) : EngineState :=
  let s := { s with connecting := s.connecting.erase attachment }
  let s := s.activate option t
  s.setStream t { s.stream t with link := .connected, requests := [] }

/-- The rest of `OnConnect`, with the entry that was read. -/
def insertConnector (attachment : Nat) (info : ConnectorInfo) : EngineState :=
  let s := { s with
    connectorList := Function.update s.connectorList info.connectorId
      (some { info with stream := some t })
    lost := Function.update s.lost attachment none }
  s.setStream t { s.stream t with
    session := none
    streamType := some .Connector
    connectorId := attachment
    posted := some t.id
    issued := none }

/-- The `Process` of `OnDisconnect`. -/
def processConnector (connectorId : Nat) : EngineState :=
  match s.connectorList connectorId with
  | none => s
  | some info =>
      { s with
        connectorList := Function.update s.connectorList connectorId (some { info with stream := none })
        lost := Function.update s.lost connectorId
          (if (s.stream t).requests.head? = some .graceful then none else (s.stream t).issued) }

/-- `SocketServer::Connect`. -/
def connectAgain (connectorId : Nat) : EngineState :=
  { s with connecting := s.connecting ++ [connectorId] }

/-- The part of `OnDisconnect` about the session. -/
def leaveSession : EngineState :=
  match (s.stream t).link with
  | .disconnecting attachment => s.loseSession option t attachment
  | _ => s

end Parts

end EngineState

/-! ## The engine with interruptions -/

/-- A handler that has read an entry of `_connector_list`, with what it still has to do. -/
inductive Handler
  /-- `OnConnect` before `Insert`. -/
  | insert (t : SocketStream) (attachment : Nat) (info : ConnectorInfo)
  /-- `OnConnect` without a stream before `Connect`. -/
  | connect (connectorId : Nat)
  /-- `OnDisconnect` before `Connect`. -/
  | reconnect (t : SocketStream) (connectorId : Nat)
  deriving DecidableEq

namespace Handler

def stream : Handler → Option SocketStream
  | insert t _ _ => some t
  | connect _ => none
  | reconnect t _ => some t

/-- The connector whose entry was read. -/
def connectorId : Handler → Nat
  | insert _ _ info => info.connectorId
  | connect connectorId => connectorId
  | reconnect _ connectorId => connectorId

end Handler

structure ConcurrentState where
  engine : EngineState
  handlers : List Handler := []
  /-- The connectors that `UnregisterConnectorSocket` has removed. -/
  unregistered : Finset Nat := ∅

inductive ConcurrentEvent
  /-- An event in which nothing comes between. -/
  | engine (e : EngineEvent)
  | connect (t : SocketStream) (attachment : Nat)
  | connectFailed (attachment : Nat)
  | disconnect (t : SocketStream)
  /-- A handler goes on. -/
  | resume (handler : Handler)
  deriving DecidableEq

namespace ConcurrentState

section Steps

variable (option : NetworkEngineOption) (s : ConcurrentState)

/-- No handler of the stream is being executed. -/
def Rests (t : SocketStream) : Prop := ∀ handler ∈ s.handlers, handler.stream ≠ some t

instance (t : SocketStream) : Decidable (s.Rests t) :=
  inferInstanceAs (Decidable (∀ handler ∈ s.handlers, handler.stream ≠ some t))

/-- The handlers that can be interrupted are events of their own. -/
def IsAtomic : EngineEvent → Prop
  | .connect _ _ => False
  | .connectFailed _ => False
  | .disconnect _ => False
  | .read t => s.Rests t
  | _ => True

instance (e : EngineEvent) : Decidable (s.IsAtomic e) :=
  match e with
  | .connect _ _ | .connectFailed _ | .disconnect _ => instDecidableFalse
  | .read t => inferInstanceAs (Decidable (s.Rests t))
  | .accept _ | .register _ _ | .unregister _ | .zeroRead _ | .packet _ _ _ | .flush _ _ |
    .finishRead _ | .abortRead _ | .insertAbandoned _ | .submitDisconnect _ _ | .expire _ _ |
    .removeExpired _ | .submitExpired _ _ | .idleSocket _ _ | .idleSession _ _ | .send _ |
    .closeSession _ | .disconnectSession _ | .dispatch | .release | .recycle _ =>
      instDecidableTrue

def Enabled : ConcurrentEvent → Prop
  | .engine e => s.IsAtomic e ∧ s.engine.Enabled option e
  | .connect t attachment => s.Rests t ∧ s.engine.Enabled option (.connect t attachment)
  | .connectFailed attachment => s.engine.Enabled option (.connectFailed attachment)
  | .disconnect t => s.Rests t ∧ s.engine.Enabled option (.disconnect t)
  | .resume handler => handler ∈ s.handlers

instance (e : ConcurrentEvent) : Decidable (s.Enabled option e) := by
  cases e <;> dsimp only [Enabled] <;> infer_instance

/-- The connectors removed so far. -/
def removed : EngineEvent → Finset Nat
  | .unregister connectorId =>
      if s.engine.connectorList connectorId ≠ none then insert connectorId s.unregistered
      else s.unregistered
  | _ => s.unregistered

/-- `OnConnect` up to the point after `TryGet`, and to its end if there is no entry. -/
def beginConnect (t : SocketStream) (attachment : Nat) : ConcurrentState :=
  match s.engine.connectorList attachment with
  | none => { s with engine := (s.engine.onConnect option t attachment).1 }
  | some info =>
      { s with
        engine := s.engine.openConnection option t attachment
        handlers := s.handlers ++ [.insert t attachment info] }

/-- `OnConnect` without a stream. -/
def beginConnectFailed (attachment : Nat) : ConcurrentState :=
  let engine := { s.engine with connecting := s.engine.connecting.erase attachment }
  match s.engine.connectorList attachment with
  | none => { s with engine }
  | some info => { s with engine, handlers := s.handlers ++ [.connect info.connectorId] }

/-- `OnDisconnect` up to the point after `Process`, and up to the submission if there is no entry. -/
def beginDisconnect (t : SocketStream) : ConcurrentState :=
  let engine := s.engine.deactivate option t
  match engine.reconnected t with
  | none => { s with engine := engine.leaveSession option t }
  | some connectorId =>
      { s with
        engine := engine.processConnector t connectorId
        handlers := s.handlers ++ [.reconnect t connectorId] }

/-- The rest of a handler. -/
def resume (handler : Handler) : ConcurrentState :=
  let s := { s with handlers := s.handlers.erase handler }
  match handler with
  | .insert t attachment info => { s with engine := s.engine.insertConnector t attachment info }
  | .connect connectorId => { s with engine := s.engine.connectAgain connectorId }
  | .reconnect t connectorId =>
      { s with engine := (s.engine.connectAgain connectorId).leaveSession option t }

def next : ConcurrentEvent → ConcurrentState
  | .engine e => { s with engine := s.engine.next option e, unregistered := s.removed e }
  | .connect t attachment => s.beginConnect option t attachment
  | .connectFailed attachment => s.beginConnectFailed attachment
  | .disconnect t => s.beginDisconnect option t
  | .resume handler => s.resume option handler

end Steps

end ConcurrentState

open ConcurrentState in
/-- A network engine whose handlers are interrupted between two operations on `_connector_list`. -/
def concurrentEngine (option : NetworkEngineOption) : Machine ConcurrentState ConcurrentEvent where
  init := fun s => s = { engine := EngineState.initialized option }
  step := fun s e s' => s.Enabled option e ∧ s' = s.next option e

namespace ConcurrentState

/-! ## Handlers that are not interrupted -/

section Alone

variable {option : NetworkEngineOption} {s : ConcurrentState} {t : SocketStream}

theorem resume_connect {attachment : Nat} {info : ConnectorInfo}
    (hinfo : s.engine.connectorList attachment = some info) :
    ((s.beginConnect option t attachment).resume option (.insert t attachment info)).engine =
      (s.engine.onConnect option t attachment).1 := by
  unfold beginConnect EngineState.onConnect
  rw [hinfo]
  dsimp only
  split
  next hnone => cases hinfo.symm.trans hnone
  next info' hinfo' =>
    obtain rfl : info = info' := Option.some.inj (hinfo.symm.trans hinfo')
    rfl

theorem resume_connectFailed {attachment : Nat} {info : ConnectorInfo}
    (hinfo : s.engine.connectorList attachment = some info) :
    ((s.beginConnectFailed attachment).resume option (.connect info.connectorId)).engine =
      s.engine.onConnectFailed attachment := by
  unfold beginConnectFailed EngineState.onConnectFailed
  rw [hinfo]
  dsimp only
  split
  next hnone => cases hinfo.symm.trans hnone
  next info' hinfo' =>
    obtain rfl : info = info' := Option.some.inj (hinfo.symm.trans hinfo')
    rfl

theorem resume_disconnect (hlink : (s.engine.stream t).link.isDisconnecting = true)
    {connectorId : Nat}
    (hreconnected : (s.engine.deactivate option t).reconnected t = some connectorId) :
    ((s.beginDisconnect option t).resume option (.reconnect t connectorId)).engine =
      s.engine.beginDisconnect option t := by
  have hreconnect : (s.engine.deactivate option t).reconnect t =
      ((s.engine.deactivate option t).processConnector t connectorId).connectAgain connectorId := by
    unfold EngineState.reconnected at hreconnected
    split at hreconnected
    next hboth =>
      cases hreconnected
      obtain ⟨info, hinfo⟩ := Option.ne_none_iff_exists'.1 hboth.2
      unfold EngineState.reconnect EngineState.processConnector
      dsimp only
      rw [if_pos hboth.1, hinfo]
      rfl
    next => cases hreconnected
  cases hstate : (s.engine.stream t).link with
  | disconnecting attachment =>
      have hafter : ((((s.engine.deactivate option t).processConnector t connectorId).connectAgain
          connectorId).stream t).link = .disconnecting attachment := by
        rw [← hreconnect, EngineState.stream_reconnect]
        exact hstate
      unfold beginDisconnect
      dsimp only
      rw [hreconnected]
      change EngineState.leaveSession option (((s.engine.deactivate option t).processConnector t
        connectorId).connectAgain connectorId) t = _
      unfold EngineState.leaveSession EngineState.beginDisconnect
      rw [hafter, hstate, hreconnect]
  | _ => simp [hstate, Link.isDisconnecting] at hlink

end Alone

/-! ## Unregistering -/

/-- When a connector is removed, no handler has read its entry; and no connector gets the id of a
removed one. -/
def Undisturbed (s : ConcurrentState) : ConcurrentEvent → Prop
  | .engine (.unregister connectorId) => ∀ handler ∈ s.handlers, handler.connectorId ≠ connectorId
  | .engine (.register _ _) => s.engine.currentConnectorId ∉ s.unregistered
  | _ => True

instance (s : ConcurrentState) (e : ConcurrentEvent) : Decidable (s.Undisturbed e) := by
  unfold Undisturbed
  split <;> infer_instance

/-- Nothing is left of a removed connector, save for a `Connect` that was issued before. -/
structure Final (s : ConcurrentState) : Prop where
  keyed : ∀ c info, s.engine.connectorList c = some info → info.connectorId = c
  list : ∀ c ∈ s.unregistered, s.engine.connectorList c = none
  handlers : ∀ handler ∈ s.handlers, handler.connectorId ∉ s.unregistered

section Final

variable {option : NetworkEngineOption} {s s' : ConcurrentState} {t : SocketStream}

/-- The entries are those of before, up to their streams. -/
def SameEntries (s s' : EngineState) : Prop :=
  ∀ c, s'.connectorList c = s.connectorList c ∨
    ∃ info, s.connectorList c = some info ∧
      s'.connectorList c = some { info with stream := none }

theorem Final.of_sameEntries (h : s.Final) (hentries : SameEntries s.engine s'.engine)
    (hunregistered : s'.unregistered = s.unregistered)
    (hhandlers : ∀ handler ∈ s'.handlers, handler ∈ s.handlers ∨
      s.engine.connectorList handler.connectorId ≠ none) : s'.Final where
  keyed := by
    intro c info hc
    rcases hentries c with hsame | ⟨info', hinfo', hreleased⟩
    · exact h.keyed c info (hsame.symm.trans hc)
    · rw [hreleased] at hc
      cases hc
      exact h.keyed c info' hinfo'
  list := by
    intro c hc
    rw [hunregistered] at hc
    rcases hentries c with hsame | ⟨info', hinfo', _⟩
    · rw [hsame]
      exact h.list c hc
    · cases hinfo'.symm.trans (h.list c hc)
  handlers := by
    intro handler hmem
    rw [hunregistered]
    rcases hhandlers handler hmem with hbefore | hregistered
    · exact h.handlers handler hbefore
    · exact fun hc => hregistered (h.list _ hc)

/-- A handler begins, for a connector that is registered. -/
theorem Final.of_appended (h : s.Final) (hentries : SameEntries s.engine s'.engine)
    (hunregistered : s'.unregistered = s.unregistered) {handler : Handler}
    (hhandlers : s'.handlers = s.handlers ++ [handler])
    (hregistered : s.engine.connectorList handler.connectorId ≠ none) : s'.Final := by
  refine h.of_sameEntries hentries hunregistered fun handler' hmem => ?_
  rw [hhandlers] at hmem
  rcases List.mem_append.1 hmem with hbefore | hnew
  · exact .inl hbefore
  · obtain rfl := List.mem_singleton.1 hnew
    exact .inr hregistered

/-- The id in an entry is that of a registered connector. -/
theorem Final.registered (h : s.Final) {attachment : Nat} {info : ConnectorInfo}
    (hinfo : s.engine.connectorList attachment = some info) :
    s.engine.connectorList info.connectorId ≠ none := by
  rw [h.keyed attachment info hinfo, hinfo]
  exact Option.some_ne_none info

theorem SameEntries.of_eq {s s' : EngineState} (h : s'.connectorList = s.connectorList) :
    SameEntries s s' :=
  fun c => .inl (by rw [h])

/-! ### The parts of the handlers -/

theorem leaveSession_cases (option : NetworkEngineOption) (s : EngineState) (t : SocketStream) :
    (s.leaveSession option t).connecting = s.connecting ∧
      (s.leaveSession option t).connectorList = s.connectorList := by
  unfold EngineState.leaveSession
  split
  next attachment _ =>
    obtain ⟨hconnecting, hlist, _⟩ := EngineState.loseSession_cases option s t attachment
    exact ⟨hconnecting, hlist⟩
  next => exact ⟨rfl, rfl⟩

theorem processConnector_cases (s : EngineState) (t : SocketStream) (connectorId : Nat) :
    (s.processConnector t connectorId).connecting = s.connecting ∧
      SameEntries s (s.processConnector t connectorId) := by
  unfold EngineState.processConnector
  split
  next => exact ⟨rfl, .of_eq rfl⟩
  next info hinfo =>
    refine ⟨rfl, fun c => ?_⟩
    by_cases heq : c = connectorId
    · subst heq
      exact .inr ⟨info, hinfo, Function.update_self _ _ _⟩
    · exact .inl (Function.update_of_ne heq _ _)

theorem Final.beginConnect (option : NetworkEngineOption) (h : s.Final) (t : SocketStream)
    (attachment : Nat) :
    (s.beginConnect option t attachment).Final ∧
      (s.beginConnect option t attachment).unregistered = s.unregistered ∧
      (s.beginConnect option t attachment).engine.connecting =
        s.engine.connecting.erase attachment := by
  unfold ConcurrentState.beginConnect
  split
  next hnone =>
    obtain ⟨hconnecting, _, ⟨_, hlist, _⟩ | ⟨info, hinfo, _⟩⟩ :=
      EngineState.onConnect_cases option s.engine t attachment
    · exact ⟨h.of_sameEntries (.of_eq hlist) rfl fun handler hmem => .inl hmem, rfl, hconnecting⟩
    · cases hinfo.symm.trans hnone
  next info hinfo =>
    exact ⟨h.of_appended (.of_eq rfl) rfl rfl (h.registered hinfo), rfl, rfl⟩

theorem Final.beginConnectFailed (h : s.Final) (attachment : Nat) :
    (s.beginConnectFailed attachment).Final ∧
      (s.beginConnectFailed attachment).unregistered = s.unregistered ∧
      (s.beginConnectFailed attachment).engine.connecting =
        s.engine.connecting.erase attachment := by
  unfold ConcurrentState.beginConnectFailed
  dsimp only
  split
  next => exact ⟨h.of_sameEntries (.of_eq rfl) rfl fun handler hmem => .inl hmem, rfl, rfl⟩
  next info hinfo =>
    exact ⟨h.of_appended (.of_eq rfl) rfl rfl (h.registered hinfo), rfl, rfl⟩

theorem Final.beginDisconnect (option : NetworkEngineOption) (h : s.Final) (t : SocketStream) :
    (s.beginDisconnect option t).Final ∧
      (s.beginDisconnect option t).unregistered = s.unregistered ∧
      (s.beginDisconnect option t).engine.connecting = s.engine.connecting := by
  unfold ConcurrentState.beginDisconnect
  dsimp only
  split
  next =>
    obtain ⟨hconnecting, hlist⟩ :=
      leaveSession_cases option (s.engine.deactivate option t) t
    exact ⟨h.of_sameEntries (.of_eq hlist) rfl fun handler hmem => .inl hmem, rfl, hconnecting⟩
  next connectorId hreconnected =>
    obtain ⟨hconnecting, hentries⟩ :=
      processConnector_cases (s.engine.deactivate option t) t connectorId
    refine ⟨h.of_appended hentries rfl rfl ?_, rfl, hconnecting⟩
    -- the session is reconnected only if its connector is in the list
    unfold EngineState.reconnected at hreconnected
    split at hreconnected
    next hboth =>
      cases hreconnected
      exact hboth.2
    next => cases hreconnected

/-- A handler goes on: it acts for a connector that is not among the removed ones. -/
theorem Final.resume (option : NetworkEngineOption) (h : s.Final) {handler : Handler} (hmem : handler ∈ s.handlers) :
    (s.resume option handler).Final ∧ (s.resume option handler).unregistered = s.unregistered ∧
      ∀ c ∈ s.unregistered, (s.resume option handler).engine.connecting.count c =
        s.engine.connecting.count c := by
  have hfinal := h.handlers handler hmem
  have hhandlers : ∀ handler' ∈ s.handlers.erase handler, handler' ∈ s.handlers ∨
      s.engine.connectorList handler'.connectorId ≠ none :=
    fun handler' hmem' => .inl (List.mem_of_mem_erase hmem')
  have hcount : ∀ c ∈ s.unregistered, (s.engine.connecting ++ [handler.connectorId]).count c =
      s.engine.connecting.count c := by
    intro c hc
    have hne : handler.connectorId ≠ c := by
      rintro rfl
      exact hfinal hc
    rw [List.count_append, List.count_singleton', if_neg hne, Nat.add_zero]
  cases handler with
  | connect connectorId =>
      exact ⟨h.of_sameEntries (.of_eq rfl) rfl hhandlers, rfl, hcount⟩
  | reconnect t connectorId =>
      obtain ⟨hconnecting, hlist⟩ :=
        leaveSession_cases option (s.engine.connectAgain connectorId) t
      refine ⟨h.of_sameEntries (.of_eq hlist) rfl hhandlers, rfl, fun c hc => ?_⟩
      exact (congrArg (List.count c) hconnecting).trans (hcount c hc)
  | insert t attachment info =>
      refine ⟨⟨fun c info' hc => ?_, fun c hc => ?_, fun handler' hmem' => ?_⟩, rfl, fun c _ => rfl⟩
      · by_cases heq : c = info.connectorId
        · subst heq
          obtain rfl :=
            Option.some.inj ((Function.update_self _ _ s.engine.connectorList).symm.trans hc)
          rfl
        · exact h.keyed c info' ((Function.update_of_ne heq _ _).symm.trans hc)
      · -- the entry that is inserted is that of another connector
        have hne : c ≠ info.connectorId := by
          rintro rfl
          exact hfinal hc
        exact (Function.update_of_ne hne _ _).trans (h.list c hc)
      · exact h.handlers handler' (List.mem_of_mem_erase hmem')

/-! ### The logic worker -/

theorem Final.register (option : NetworkEngineOption) (h : s.Final)
    {remoteAddress : Protocol.SocketAddress} {attachment : Nat}
    (hfresh : s.engine.currentConnectorId ∉ s.unregistered) :
    (s.next option (.engine (.register remoteAddress attachment))).Final ∧
      ∀ c ∈ s.unregistered,
        (s.next option (.engine (.register remoteAddress attachment))).engine.connecting.count c =
          s.engine.connecting.count c := by
  have hother : ∀ c ∈ s.unregistered, s.engine.currentConnectorId ≠ c := by
    rintro _ hc rfl
    exact hfresh hc
  refine ⟨⟨fun c info hc => ?_, fun c hc => ?_, h.handlers⟩, fun c hc => ?_⟩
  · by_cases heq : c = s.engine.currentConnectorId
    · subst heq
      obtain rfl :=
        Option.some.inj ((Function.update_self _ _ s.engine.connectorList).symm.trans hc)
      rfl
    · exact h.keyed c info ((Function.update_of_ne heq _ _).symm.trans hc)
  · exact (Function.update_of_ne (hother c hc).symm _ _).trans (h.list c hc)
  · change (s.engine.connecting ++ [s.engine.currentConnectorId]).count c = _
    rw [List.count_append, List.count_singleton', if_neg (hother c hc), Nat.add_zero]

theorem Final.unregister (option : NetworkEngineOption) (h : s.Final) {connectorId : Nat}
    (halone : ∀ handler ∈ s.handlers, handler.connectorId ≠ connectorId) :
    (s.next option (.engine (.unregister connectorId))).Final ∧
      (s.next option (.engine (.unregister connectorId))).engine.connecting =
        s.engine.connecting := by
  obtain ⟨hconnecting, hlist, _⟩ :=
    EngineState.unregisterConnectorSocket_cases s.engine connectorId
  have hremoved : ∀ c ∈ s.removed (.unregister connectorId), c = connectorId ∨ c ∈ s.unregistered := by
    intro c hc
    unfold removed at hc
    dsimp only at hc
    split at hc
    · exact Finset.mem_insert.1 hc
    · exact .inr hc
  refine ⟨⟨fun c info hc => ?_, fun c hc => ?_, fun handler hmem hc => ?_⟩, hconnecting⟩
  · change (s.engine.unregisterConnectorSocket connectorId).connectorList c = some info at hc
    rw [hlist] at hc
    by_cases heq : c = connectorId
    · rw [heq, Function.update_self] at hc
      cases hc
    · rw [Function.update_of_ne heq] at hc
      exact h.keyed c info hc
  · change (s.engine.unregisterConnectorSocket connectorId).connectorList c = none
    rw [hlist]
    by_cases heq : c = connectorId
    · rw [heq, Function.update_self]
    · rw [Function.update_of_ne heq]
      exact h.list c ((hremoved c hc).resolve_left heq)
  · rcases hremoved _ hc with heq | hbefore
    · exact halone handler hmem heq
    · exact h.handlers handler hmem hbefore

/-! ### Runs -/

/-- A step keeps `Final`, forgets no removed connector and issues no `Connect` for one. -/
theorem Final.next (h : s.Final) {e : ConcurrentEvent} (henabled : s.Enabled option e)
    (hundisturbed : s.Undisturbed e) :
    (s.next option e).Final ∧ s.unregistered ⊆ (s.next option e).unregistered ∧
      ∀ c ∈ s.unregistered,
        (s.next option e).engine.connecting.count c ≤ s.engine.connecting.count c := by
  cases e with
  | connect t attachment =>
      obtain ⟨hfinal, hunregistered, hconnecting⟩ := h.beginConnect option t attachment
      refine ⟨hfinal, hunregistered.ge, fun c _ => ?_⟩
      exact (congrArg (List.count c) hconnecting).trans_le (List.erase_sublist.count_le c)
  | connectFailed attachment =>
      obtain ⟨hfinal, hunregistered, hconnecting⟩ := h.beginConnectFailed attachment
      refine ⟨hfinal, hunregistered.ge, fun c _ => ?_⟩
      exact (congrArg (List.count c) hconnecting).trans_le (List.erase_sublist.count_le c)
  | disconnect t =>
      obtain ⟨hfinal, hunregistered, hconnecting⟩ := h.beginDisconnect option t
      exact ⟨hfinal, hunregistered.ge, fun c _ => (congrArg (List.count c) hconnecting).le⟩
  -- the second half of a handler finds out whether the connector is still there
  | resume handler =>
      obtain ⟨hfinal, hunregistered, hcount⟩ := h.resume option henabled
      exact ⟨hfinal, hunregistered.ge, fun c hc => (hcount c hc).le⟩
  | engine e =>
      by_cases he : EngineState.ConcernsConnectors e
      · cases e with
        | register remoteAddress attachment =>
            obtain ⟨hfinal, hcount⟩ := h.register option hundisturbed
            exact ⟨hfinal, subset_rfl, fun c hc => (hcount c hc).le⟩
        | unregister connectorId =>
            obtain ⟨hfinal, hconnecting⟩ := h.unregister option hundisturbed
            refine ⟨hfinal, ?_, fun c _ => (congrArg (List.count c) hconnecting).le⟩
            change s.unregistered ⊆ s.removed (.unregister connectorId)
            unfold removed
            dsimp only
            split
            · exact Finset.subset_insert _ _
            · exact subset_rfl
        -- these three are split into the steps above
        | connect t connectorId => exact absurd henabled.1 id
        | connectFailed connectorId => exact absurd henabled.1 id
        | disconnect t => exact absurd henabled.1 id
        | _ => exact absurd he id
      -- nothing else looks at the connectors
      · have hsame := EngineState.sameConnectors_next henabled.2 he
        have hremoved : s.removed e = s.unregistered := by
          cases e with
          | unregister connectorId => exact absurd trivial he
          | _ => rfl
        refine ⟨?_, hremoved.ge, fun c _ => (congrArg (List.count c) hsame.connecting).le⟩
        exact h.of_sameEntries (.of_eq hsame.connectorList) hremoved fun handler hmem => .inl hmem

theorem final_of_reachable (h : ((concurrentEngine option).restrict Undisturbed).Reachable s) :
    s.Final := by
  refine Machine.Reachable.invariant (fun s hs => ?_) (fun s e s' hs hstep => ?_) h
  · obtain rfl : s = { engine := EngineState.initialized option } := hs
    exact ⟨fun _ _ hc => (by cases hc), fun _ _ => rfl, fun _ hmem => (by cases hmem)⟩
  · obtain ⟨hundisturbed, henabled, rfl⟩ := hstep
    exact (hs.next henabled hundisturbed).1

/-- If no handler has read the entry of a connector when it is removed, then a removed connector is not
in the list, stays removed, and no step issues a `Connect` for it. -/
theorem unregistered_final (h : ((concurrentEngine option).restrict Undisturbed).Reachable s)
    {connectorId : Nat} (hremoved : connectorId ∈ s.unregistered) :
    s.engine.connectorList connectorId = none ∧
      ∀ e s', s.Undisturbed e → (concurrentEngine option).step s e s' →
        connectorId ∈ s'.unregistered ∧
          s'.engine.connecting.count connectorId ≤ s.engine.connecting.count connectorId := by
  have hfinal := final_of_reachable h
  refine ⟨hfinal.list connectorId hremoved, fun e s' hundisturbed hstep => ?_⟩
  obtain ⟨henabled, rfl⟩ := hstep
  obtain ⟨_, hsubset, hcount⟩ := hfinal.next henabled hundisturbed
  exact ⟨hsubset hremoved, hcount connectorId hremoved⟩

end Final

/-! ## A removal that is undone -/

namespace Interruption

/-- The engine of the samples, before its first event. -/
def initial : ConcurrentState := { engine := EngineState.initialized Sample.option }

/-- The engine after some events that can happen. -/
def after (events : List ConcurrentEvent) : ConcurrentState :=
  (Machine.replay (fun s e => s.Enabled Sample.option e) (fun s e => s.next Sample.option e)
    initial events).getD initial

theorem reachable_after (events : List ConcurrentEvent) :
    (concurrentEngine Sample.option).Reachable (after events) :=
  Machine.Reachable.replay_getD (M := concurrentEngine Sample.option)
    (fun _ _ henabled => ⟨henabled, rfl⟩) events (.init rfl)

/-- The connector is removed while `OnConnect` has a copy of its entry. -/
def undone : List ConcurrentEvent :=
  [.engine (.register ⟨"", 0⟩ 0), .connect (.connector 1) 1, .engine (.unregister 1),
    .resume (.insert (.connector 1) 1 { connectorId := 1 })]

/-- The connection is lost. -/
def lost : List ConcurrentEvent :=
  [.engine (.zeroRead (.connector 1)), .disconnect (.connector 1),
    .resume (.reconnect (.connector 1) 1)]

/-- The connector is removed after `OnConnect`. -/
def inTime : List ConcurrentEvent :=
  [.engine (.register ⟨"", 0⟩ 0), .connect (.connector 1) 1,
    .resume (.insert (.connector 1) 1 { connectorId := 1 }), .engine (.unregister 1)]

theorem reachable_inTime :
    ((concurrentEngine Sample.option).restrict Undisturbed).Reachable (after inTime) :=
  Machine.Reachable.replay_restrict (M := concurrentEngine Sample.option)
    (fun _ _ henabled => ⟨henabled, rfl⟩) (.init rfl) (by decide +kernel)

end Interruption

open Interruption in
/-- The removed connector is in the list again, and when its connection is lost it is connected
again. -/
theorem removal_undone :
    (concurrentEngine Sample.option).Reachable (after undone) ∧
      1 ∈ (after undone).unregistered ∧ (after undone).engine.connectorList 1 ≠ none ∧
      (concurrentEngine Sample.option).Reachable (after (undone ++ lost)) ∧
      (after undone).engine.connecting = [] ∧ (after (undone ++ lost)).engine.connecting = [1] :=
  ⟨reachable_after _, by decide +kernel, by decide +kernel, reachable_after _, by decide +kernel,
    by decide +kernel⟩

open Interruption in
/-- The connector is removed while its stream is connected. -/
theorem unregistered_in_time :
    let s := after inTime
    s.engine.connectorList 1 = none ∧
      ∀ e s', s.Undisturbed e → (concurrentEngine Sample.option).step s e s' →
        1 ∈ s'.unregistered ∧ s'.engine.connecting.count 1 ≤ s.engine.connecting.count 1 :=
  unregistered_final reachable_inTime (by decide +kernel)

end ConcurrentState

end Engine
end SeamlessServer
