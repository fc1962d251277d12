import SeamlessServer.Engine.Places

/-!
# Engine.Attachment — how a session comes to a stream

What connects streams, reads from them and processes their session packets keeps `Sound`.  The
outcomes of a session packet are listed once, in `Sound.processSessionPacket_cases`.
-/

namespace SeamlessServer
namespace Engine

open NetworkEngine (ContextType StreamType errorNone errorSessionIsNotReady)

/-! ## Streams -/

/-- The link of a stream after `TransmitDisconnect`. -/
theorem Link.onward (l : Link) (attachment : Nat) :
    (if l = .connected then .disconnecting attachment else l) = l ∨
      l.isLive = true ∧
        (if l = .connected then Link.disconnecting attachment else l).isLive = true := by
  by_cases h : l = .connected
  · subst h
    exact .inr ⟨rfl, rfl⟩
  · rw [if_neg h]
    exact .inl rfl

namespace StreamSound

variable {x : Stream}

/-- Without a session there are no contexts. -/
theorem contexts_eq_nil (h : StreamSound x) (hsession : x.session = none) : x.contexts = [] := by
  refine List.eq_nil_iff_forall_not_mem.2 fun c hc => ?_
  have howned := h.owned c hc
  rw [hsession] at howned
  cases howned

theorem not_tellsAlived (h : StreamSound x) (hsession : x.session = none) : ¬ x.tellsAlived := by
  intro htells
  apply htells
  rw [h.contexts_eq_nil hsession]
  rfl

theorem not_tellsAlived_of_reading (h : StreamSound x) (hreading : x.reading = none) :
    ¬ x.tellsAlived := by
  intro htells
  apply htells
  rw [h.contexts hreading]
  rfl

/-- A stream that is not read from has no contexts. -/
theorem of_contexts_nil (hcontexts : x.contexts = [])
    (hreading : x.reading.isSome = true → x.link.isLive = true) : StreamSound x where
  reading := hreading
  contexts := fun _ => hcontexts
  types := by
    intro c hc
    rw [hcontexts] at hc
    cases hc
  owned := by
    intro c hc
    rw [hcontexts] at hc
    cases hc
  alived := by
    rw [hcontexts]
    exact .inl rfl

theorem reading_eq_none (h : StreamSound x) (hlink : x.link.isLive = false) : x.reading = none := by
  by_contra hreading
  have hlive := h.reading (Option.isSome_iff_ne_none.2 hreading)
  rw [hlink] at hlive
  cases hlive

/-- A stream that is not read from may change its link and its session. -/
theorem of_not_reading (h : StreamSound x) (hreading : x.reading = none) {y : Stream}
    (hy : y.reading = x.reading) (hcontexts : y.contexts = x.contexts) : StreamSound y := by
  refine .of_contexts_nil (hcontexts.trans (h.contexts hreading)) fun hsome => ?_
  rw [hy, hreading] at hsome
  cases hsome

theorem transmitDisconnect (h : StreamSound x) (attachment : Nat) (requests : List Requester) :
    StreamSound { x with
      requests
      link := if x.link = .connected then .disconnecting attachment else x.link } where
  reading := by
    intro hreading
    have hlive := h.reading hreading
    rcases x.link.onward attachment with hsame | ⟨_, hlive'⟩
    · simpa only [hsame] using hlive
    · exact hlive'
  contexts := h.contexts
  types := h.types
  owned := h.owned
  alived := h.alived

end StreamSound

namespace EngineState

section Disconnecting

variable {option : NetworkEngineOption} {s : EngineState}

/-- Only what `TransmitDisconnect` does to the stream. -/
theorem stream_transmitDisconnect (s : EngineState) (t t' : SocketStream) (attachment : Nat)
    (requester : Requester) :
    (s.transmitDisconnect t attachment requester).stream t' =
      if t' = t then
        { s.stream t with
          requests := (s.stream t).requests ++ [requester]
          link := if (s.stream t).link = .connected then .disconnecting attachment
            else (s.stream t).link }
      else s.stream t' := by
  simp only [transmitDisconnect, stream_setStream]

theorem Sound.transmitDisconnect (h : s.Sound option) (t : SocketStream) (attachment : Nat)
    (requester : Requester) : (s.transmitDisconnect t attachment requester).Sound option :=
  h.setStream ((h.streams t).transmitDisconnect attachment _) rfl
    (fun _ => Link.onward _ attachment) fun htells => htells

theorem Sound.closeSession (h : s.Sound option) (id : Nat) : (s.closeSession id).Sound option := by
  unfold EngineState.closeSession
  split
  · exact h
  · exact h.transmitDisconnect _ _ _

theorem Sound.disconnectSession (h : s.Sound option) (id : Nat) :
    (s.disconnectSession id).Sound option := by
  unfold EngineState.disconnectSession
  split
  · exact h
  · exact h.transmitDisconnect _ _ _

end Disconnecting

section Connections

variable {option : NetworkEngineOption} {s : EngineState}

/-- A stream whose link is idle has no session. -/
theorem Sound.session_of_idle (h : s.Sound option) {t : SocketStream}
    (hidle : (s.stream t).link = .idle) : (s.stream t).session = none := by
  cases hsession : (s.stream t).session with
  | none =>
      rfl
  | some id =>
      obtain ⟨p, hp⟩ := h.placed id
      rcases hp.session t hsession with rfl | rfl
      · rcases (hp.attached t rfl).2 with hlink | hlink
        · simp [hidle, Link.isLive] at hlink
        · simp [hidle] at hlink
      · rcases (hp.leaving t rfl).2 with hlink | ⟨hlink, _⟩
        · simp [hidle] at hlink
        · simp [hidle] at hlink

/-- A stream is taken from its pool. -/
theorem Sound.connectStream (h : s.Sound option) {t : SocketStream} {x : Stream}
    (hidle : (s.stream t).link = .idle) (hsession : x.session = none)
    (hlink : x.link.isLive = true) (hcontexts : x.contexts = (s.stream t).contexts) :
    (s.setStream t x).Sound option := by
  have hnone := h.session_of_idle hidle
  have hreading : (s.stream t).reading = none := (h.streams t).reading_eq_none (by simp [hidle, Link.isLive])
  have hnil := (h.streams t).contexts hreading
  refine h.setStream (.of_contexts_nil (hcontexts.trans hnil) fun _ => hlink)
    (hsession.trans hnone.symm) (fun hsome => absurd hsession hsome) fun htells => ?_
  rw [Stream.tellsAlived, hcontexts] at htells
  exact htells

theorem Sound.activate (h : s.Sound option) (t : SocketStream) :
    (s.activate option t).Sound option :=
  h.setWorker rfl

theorem Sound.onAccept (h : s.Sound option) {t : SocketStream}
    (hidle : (s.stream t).link = .idle) : (s.onAccept option t).Sound option :=
  (h.activate t).connectStream hidle rfl rfl rfl

theorem Sound.registerConnectorSocket (h : s.Sound option) (remoteAddress : Protocol.SocketAddress)
    (attachment : Nat) : (s.registerConnectorSocket remoteAddress attachment).Sound option := by
  refine h.setConnectors fun c info hinfo => ?_
  by_cases hc : c = s.currentConnectorId
  · subst hc
    simp only [Function.update_self, Option.some.injEq] at hinfo
    subst hinfo
    rfl
  · rw [Function.update_of_ne hc] at hinfo
    exact h.connectors c info hinfo

theorem Sound.updateConnector (h : s.Sound option) {connectorId : Nat}
    {entry : Option ConnectorInfo} (hentry : ∀ info ∈ entry, info.sessionId = 0) :
    ∀ c info, Function.update s.connectorList connectorId entry c = some info →
      info.sessionId = 0 := by
  intro c info hinfo
  by_cases hc : c = connectorId
  · subst hc
    rw [Function.update_self] at hinfo
    exact hentry info hinfo
  · rw [Function.update_of_ne hc] at hinfo
    exact h.connectors c info hinfo

theorem Sound.unregisterConnectorSocket (h : s.Sound option) (connectorId : Nat) :
    (s.unregisterConnectorSocket connectorId).Sound option := by
  unfold EngineState.unregisterConnectorSocket
  split
  · exact h
  · have hremoved : { s with
        connectorList := Function.update s.connectorList connectorId none }.Sound option :=
      h.setConnectors (h.updateConnector (by simp))
    dsimp only
    split
    · exact hremoved
    · exact hremoved.transmitDisconnect _ _ _

/-- The rest of what `OnConnect` does to a stream without a session. -/
theorem Sound.connectorStream (h : s.Sound option) {t : SocketStream} {connectorId : Nat}
    {streamType : Option StreamType} {posted : Option Nat}
    {issued : Option (Nat × SessionKey)} (hnone : (s.stream t).session = none) :
    (s.setStream t { s.stream t with
      session := none, streamType, connectorId, posted, issued }).Sound option := by
  have hx := h.streams t
  exact h.setStream (.of_contexts_nil (hx.contexts_eq_nil hnone) hx.reading) hnone.symm
    (fun _ => .inl rfl) fun htells => htells

theorem Sound.onConnectFailed (h : s.Sound option) (attachment : Nat) :
    (s.onConnectFailed attachment).Sound option := by
  unfold EngineState.onConnectFailed
  dsimp only
  split
  · exact h.setConnectors h.connectors
  · exact h.setConnectors h.connectors

theorem Sound.onConnect (h : s.Sound option) {t : SocketStream} (hidle : (s.stream t).link = .idle)
    (attachment : Nat) : (s.onConnect option t attachment).1.Sound option := by
  have hnone := h.session_of_idle hidle
  have hstart : { s with connecting := s.connecting.erase attachment }.Sound option :=
    h.setConnectors h.connectors
  let x : Stream := { s.stream t with link := .connected, requests := [] }
  have hconnected := (hstart.activate t).connectStream (x := x) hidle hnone rfl rfl
  unfold EngineState.onConnect
  dsimp only
  split
  · exact hconnected.transmitDisconnect _ _ _
  next info hinfo =>
    have hzero : ∀ i ∈ some { info with stream := some t }, i.sessionId = 0 := by
      rintro i hi
      cases hi
      exact h.connectors attachment info hinfo
    -- the connector is entered again, with its stream
    refine Sound.connectorStream (hconnected.setConnectors (hconnected.updateConnector hzero)) ?_
    exact (congrArg Stream.session (stream_setStream _ t t _)).trans (by simpa using hnone)

end Connections

section Reading

variable {option : NetworkEngineOption} {s : EngineState}

theorem Sound.beginRead (h : s.Sound option) {t : SocketStream}
    (hposted : (s.stream t).posted.isSome = true) (hlive : (s.stream t).link.isLive = true) :
    (s.beginRead t).Sound option := by
  have hx := h.streams t
  refine h.setStream ⟨fun _ => hlive, fun hnone => ?_, hx.types, hx.owned, hx.alived⟩ rfl (fun _ => .inl rfl)
    fun htells => htells
  simp only at hnone
  rw [hnone] at hposted
  cases hposted

theorem Sound.zeroRead (h : s.Sound option) (t : SocketStream) :
    (s.zeroRead t).Sound option := by
  unfold EngineState.zeroRead
  split
  · exact h
  · have hx := h.streams t
    have htaken : (s.setStream t { s.stream t with posted := none }).Sound option :=
      h.setStream ⟨hx.reading, hx.contexts, hx.types, hx.owned, hx.alived⟩ rfl (fun _ => .inl rfl)
        fun htells => htells
    exact htaken.transmitDisconnect _ _ _

theorem Sound.dropContexts (h : s.Sound option) (t : SocketStream) :
    (s.dropContexts t).Sound option := by
  refine h.setStream (.of_contexts_nil rfl fun hreading => ?_) rfl (fun _ => .inl rfl) fun htells => ?_
  · cases hreading
  · exact absurd rfl htells

theorem Sound.abortRead (h : s.Sound option) (t : SocketStream) :
    (s.abortRead t).Sound option := by
  unfold EngineState.abortRead
  dsimp only
  split
  · exact (h.dropContexts t).closeSession _
  · exact (h.dropContexts t).transmitDisconnect _ _ _

theorem Sound.finishRead (h : s.Sound option) (t : SocketStream) :
    (s.finishRead t).Sound option := by
  refine h.setStream (.of_contexts_nil rfl fun hreading => ?_) rfl (fun _ => .inl rfl) fun htells => ?_
  · cases hreading
  · exact absurd rfl htells

/-- The session of a live stream is attached to it. -/
theorem Sound.attached_of_live (h : s.Sound option) {t : SocketStream} {id : Nat}
    (hsession : (s.stream t).session = some id) (hlive : (s.stream t).link.isLive = true) :
    s.PlacedAt id (.attached t) := by
  obtain ⟨p, hp⟩ := h.placed id
  rcases hp.session t hsession with rfl | rfl
  · exact hp
  · rcases (hp.leaving t rfl).2 with hlink | ⟨hlink, _⟩
    · simp [hlink, Link.isLive] at hlive
    · simp [hlink, Link.isLive] at hlive

/-- A context of the stream's session is added.  If it tells of a revived session it is the first to
do so. -/
theorem Sound.prepareContext (h : s.Sound option) {t : SocketStream} {id : Nat}
    {contextType : ContextType} {attachment : Nat}
    (hsession : (s.stream t).session = some id) (hreading : (s.stream t).reading.isSome = true)
    (htype : contextType ≠ .SessionAbandoned ∧ contextType ≠ .SessionClosed)
    (halived : contextType = .SessionAlived →
      ¬ (s.stream t).tellsAlived ∧ (s.log id).getLast? = some .abandoned) :
    (s.prepareContext t ⟨contextType, id, attachment⟩).Sound option := by
  have hx := h.streams t
  have hplaced := h.attached_of_live hsession (hx.reading hreading)
  have hstream : ∀ t', (s.prepareContext t ⟨contextType, id, attachment⟩).stream t' =
      if t' = t then { s.stream t with
        contexts := (s.stream t).contexts ++ [⟨contextType, id, attachment⟩] }
      else s.stream t' := fun t' => stream_setStream _ _ _ _
  refine h.move (fun t' => ?_) h.connectors h.ticks h.pending (h.ne_zero_of_session hsession)
    (fun other hother => ?_) (p := .attached t) ?_
  · rw [hstream]
    split
    · refine ⟨hx.reading, fun hnone => ?_, ?_, ?_, ?_⟩
      · simp only at hnone
        rw [hnone] at hreading
        cases hreading
      · intro c hc
        rcases List.mem_append.1 hc with hc | hc
        · exact hx.types c hc
        · rw [List.mem_singleton.1 hc]
          exact htype
      · intro c hc
        rcases List.mem_append.1 hc with hc | hc
        · exact hx.owned c hc
        · rw [List.mem_singleton.1 hc]
          exact hsession
      · by_cases hal : contextType = .SessionAlived
        · have hnil := not_not.1 (halived hal).1
          exact .inr ⟨⟨contextType, id, attachment⟩, by simp [List.filter_append, hnil, hal], hsession⟩
        · simpa [List.filter_append, hal] using hx.alived
    · exact h.streams t'
  · -- another session is attached to another stream
    have hne : ∀ t', (s.stream t').session = some other → t' ≠ t := by
      rintro t' ht' rfl
      exact session_ne_other hsession hother ht'
    refine ⟨Iff.rfl, fun t' ht' => ?_, fun t' ht' => ?_, Iff.rfl, fun _ => Iff.rfl, fun hm => hm, rfl,
      rfl⟩
    · rw [hstream] at ht'
      split at ht'
      next heq => rw [heq]; exact ht'
      next => exact ht'
    · rw [hstream, if_neg (hne t' ht')]
      exact ⟨ht', .inl rfl, fun htells => htells⟩
  · have hself := (hstream t).trans (if_pos rfl)
    refine ⟨hplaced.pooled, fun t' ht' => ?_, ?_, ?_, hplaced.list, hplaced.listed, hplaced.expired,
      hplaced.pending, hplaced.state, hplaced.wellFormed, hplaced.log.1, ?_⟩
    · rw [hstream] at ht'
      split at ht'
      next heq => rw [heq]; exact .inl rfl
      next => exact hplaced.session t' ht'
    · rintro t' hp
      cases hp
      rw [hself]
      exact hplaced.attached t rfl
    · rintro t' hp
      cases hp
    · intro htells
      rw [hself, Stream.tellsAlived, List.filter_append] at htells
      by_cases hal : contextType = .SessionAlived
      · exact (halived hal).2
      · refine hplaced.log.2 ?_
        simpa [hal, Stream.tellsAlived] using htells

end Reading

/-! ## Opening and reviving -/

section Attaching

variable {option : NetworkEngineOption} {s : EngineState} {t : SocketStream} {id : Nat}

theorem stream_attach (option : NetworkEngineOption) (s : EngineState) (t t' : SocketStream) (id : Nat) :
    (s.attach option t id).stream t' =
      if t' = t then { s.stream t with session := some id } else s.stream t' := by
  simp only [attach, stream_setWorker, stream_setStream, stream_setSession]

theorem state_attach (s : EngineState) (t : SocketStream) (id id' : Nat) :
    (s.attach option t id).state id' = s.state id' := by
  simp only [attach, state_setWorker, state_setStream, state_setSession]
  split
  next h => rw [h]; rfl
  next => rfl

theorem tick_attach (s : EngineState) (t : SocketStream) (id index : Nat) :
    ((s.attach option t id).workers index).tick = (s.workers index).tick := by
  by_cases h : index = option.workerIndex t
  · subst h
    simp [attach, setWorker, setStream, setSession]
  · simp [attach, setWorker, setStream, setSession, h]

/-- A session that is nowhere else is attached to a stream that is read from. -/
theorem Sound.attach (h : s.Sound option) (hid : id ≠ 0) (hclosed : s.PlacedAt id .closed)
    (hopened : s.state id = .Opened)
    (hlog : ∀ m, (s.log id).getLast? = some m → m.isClosing = false)
    (hnone : (s.stream t).session = none) (hlive : (s.stream t).link.isLive = true) :
    (s.attach option t id).Sound option := by
  have hx := h.streams t
  have htells := hx.not_tellsAlived hnone
  -- the session was nowhere and is at this stream now; where all others are has not changed
  refine h.move (p := .attached t) (fun t' => ?_) h.connectors (fun index hi => ?_) h.pending hid
    (fun other hother => ?_) ?_
  · rw [stream_attach]
    split
    · exact .of_contexts_nil (hx.contexts_eq_nil hnone) hx.reading
    · exact h.streams t'
  · rw [tick_attach] at hi
    exact h.ticks index hi
  · refine ⟨Iff.rfl, fun t' ht' => ?_, fun t' ht' => ?_, Iff.rfl, fun index => ?_, fun hm => hm,
      state_attach _ _ _ _, rfl⟩
    · rw [stream_attach] at ht'
      split at ht'
      next =>
        cases ht'
        exact absurd rfl hother
      next => exact ht'
    · have hne : t' ≠ t := by
        rintro rfl
        rw [hnone] at ht'
        cases ht'
      rw [stream_attach, if_neg hne]
      exact ⟨ht', .inl rfl, fun ht => ht⟩
    · rw [tick_attach]
  -- of what a place says about a session, all but the stream was so before
  · have hself := (stream_attach option s t t id).trans (if_pos rfl)
    refine ⟨hclosed.pooled.trans (by simp), fun t' ht' => ?_, fun t' hp => ?_, fun t' hp => ?_,
      fun hm => ?_, fun hp => ?_, fun index => ?_, fun hm => ?_, ?_, hclosed.wellFormed, hlog, ?_⟩
    · rw [stream_attach] at ht'
      split at ht'
      next heq => rw [heq]; exact .inl rfl
      next => rcases hclosed.session t' ht' with hp | hp <;> cases hp
    · cases hp
      rw [hself]
      exact ⟨rfl, .inl hlive⟩
    · cases hp
    · rcases hclosed.list hm with hp | ⟨_, hp⟩ <;> cases hp
    · cases hp
    · rw [tick_attach]
      exact (hclosed.expired index).trans (by simp)
    · cases (hclosed.pending hm).1
    · exact (state_attach _ _ _ _).trans hopened
    · intro hnew
      rw [hself] at hnew
      exact absurd hnew htells

/-- A session is taken from the pool. -/
theorem Sound.takeFromPool (h : s.Sound option) (hpool : id ∈ s.sessionPool) (key : SessionKey) :
    let x := ((s.sessions id).changeSessionState .Closed .Opened).1
    let s' := { s with sessionPool := s.sessionPool.erase id }.setSession id
      { x with sessionKey := key }
    s'.Sound option ∧ s'.PlacedAt id .closed ∧ s'.state id = .Opened ∧ s'.log id = [] := by
  intro x s'
  obtain ⟨p, hp⟩ := h.placed id
  obtain rfl := hp.pooled.1 hpool
  have hopened : s'.state id = .Opened := by
    have hx : s'.state id = x.sessionState := (state_setSession _ _ _ _).trans (if_pos rfl)
    rw [hx, SocketSession.changeSessionState_state]
    rcases hp.state with hstate | hstate
    · have hsame : (s.sessions id).sessionState = .Opened := hstate
      simp [hsame]
    · have hsame : (s.sessions id).sessionState = .Closed := hstate
      simp [hsame]
  have hplaced : s'.PlacedAt id .closed :=
    placedAt_closed (by simp [s', setSession]) (hp.session_ne (by simp) (by simp))
      (hp.not_mem_list (by simp) (by simp)) (fun index ht => by cases (hp.expired index).1 ht)
      (hp.not_pending (by simp)) (.inl hopened) hp.wellFormed
  refine ⟨h.move h.streams h.connectors h.ticks h.pending (h.ne_zero_of_pool hpool)
    (fun other hother => ?_) hplaced, hplaced, hopened, hp.log⟩
  refine .of_streams (fun _ => rfl) ?_ Iff.rfl (fun _ => Iff.rfl) (fun hm => hm) ?_ rfl
  · simp [s', setSession, hother]
  · exact (state_setSession _ _ _ _).trans (if_neg hother)

/-- A waiting session of the list is on no stream any more. -/
theorem Sound.listed_of_waiting (h : s.Sound option) (hlisted : id ∈ s.abandonedSessionList)
    (hwait : s.state id = .Wait) : s.PlacedAt id .listed := by
  obtain ⟨p, hp⟩ := h.placed id
  rcases hp.list hlisted with rfl | ⟨t, rfl⟩
  · exact hp
  · have hstate : s.state id = .Abandoned := hp.state
    rw [hwait] at hstate
    cases hstate

/-- The worker has heard of a waiting session. -/
theorem PlacedAt.not_pending_of_waiting {p : Place} (h : s.PlacedAt id p)
    (hwait : s.state id = .Wait) : id ∉ s.pendingAbandoned := by
  intro hm
  have hpending := (h.pending hm).2
  rw [hwait] at hpending
  cases hpending

/-- A session is taken from the list. -/
theorem Sound.takeFromList (h : s.Sound option) (hlisted : id ∈ s.abandonedSessionList)
    (hwait : s.state id = .Wait) :
    let s' := { s.setSession id ((s.sessions id).changeSessionState .Wait .Opened).1 with
      abandonedSessionList := s.abandonedSessionList.erase id }
    s'.Sound option ∧ s'.PlacedAt id .closed ∧ s'.state id = .Opened ∧
      (s'.log id).getLast? = some .abandoned := by
  intro s'
  have hp := h.listed_of_waiting hlisted hwait
  have hopened : s'.state id = .Opened := by
    have hx : s'.state id = ((s.sessions id).changeSessionState .Wait .Opened).1.sessionState :=
      (state_setSession _ _ _ _).trans (if_pos rfl)
    rw [hx, SocketSession.changeSessionState_state]
    exact if_pos hwait
  have hplaced : s'.PlacedAt id .closed :=
    placedAt_closed (fun hm => by cases hp.pooled.1 hm) (hp.session_ne (by simp) (by simp))
      (by simp [s']) (fun index ht => by cases (hp.expired index).1 ht)
      (hp.not_pending_of_waiting hwait) (.inl hopened) hp.wellFormed
  refine ⟨h.move h.streams h.connectors h.ticks h.pending (h.ne_zero_of_listed hlisted)
    (fun other hother => ?_) hplaced, hplaced, hopened, hp.log⟩
  refine .of_streams (fun _ => rfl) Iff.rfl ?_ (fun _ => Iff.rfl) (fun hm => hm) ?_ rfl
  · simp [s', hother]
  · exact (state_setSession _ _ _ _).trans (if_neg hother)

theorem stream_openSession (option : NetworkEngineOption) (s : EngineState)
    (t t' : SocketStream) (id : Nat) (key : SessionKey) :
    (s.openSession option t id key).stream t' =
      if t' = t then { s.stream t with session := some id } else s.stream t' :=
  stream_attach _ _ _ _ _

theorem stream_revive (option : NetworkEngineOption) (s : EngineState) (t t' : SocketStream)
    (id : Nat) :
    (s.revive option t id).stream t' =
      if t' = t then { s.stream t with session := some id } else s.stream t' :=
  stream_attach _ _ _ _ _

theorem Sound.openSession (h : s.Sound option) (hpool : id ∈ s.sessionPool) (key : SessionKey)
    (hnone : (s.stream t).session = none) (hlive : (s.stream t).link.isLive = true) :
    (s.openSession option t id key).Sound option := by
  obtain ⟨htaken, hclosed, hopened, hlog⟩ := h.takeFromPool hpool key
  refine htaken.attach (h.ne_zero_of_pool hpool) hclosed hopened ?_ hnone hlive
  intro m hm
  rw [hlog] at hm
  cases hm

theorem Sound.revive (h : s.Sound option) (hid : id ≠ 0) (hclosed : s.PlacedAt id .closed)
    (hopened : s.state id = .Opened) (hlog : (s.log id).getLast? = some .abandoned)
    (hnone : (s.stream t).session = none) (hlive : (s.stream t).link.isLive = true) :
    (s.revive option t id).Sound option ∧
      ((s.revive option t id).log id).getLast? = some .abandoned := by
  let x := s.workers (option.workerIndex t)
  let s' := s.setWorker (option.workerIndex t)
    { x with abandonedSessions := x.abandonedSessions.erase id }
  have hworker : s'.Sound option := h.setWorker rfl
  have hplaced : s'.PlacedAt id .closed := hclosed.of_agree (.setWorker rfl)
  refine ⟨hworker.attach hid hplaced hopened ?_ hnone hlive, hlog⟩
  intro m hm
  obtain rfl := Option.some.inj (hm.symm.trans hlog)
  rfl

end Attaching

/-! ## Session packets -/

section SessionPackets

variable {option : NetworkEngineOption} {s : EngineState} {t : SocketStream} {id : Nat}

/-- A connector has no session id, so the answer to its request changes nothing. -/
theorem Sound.processSessionAuthRs (h : s.Sound option) {info : ConnectorInfo}
    (hinfo : info.sessionId = 0) (errorCode : Nat) (answers : Answers) :
    (s.processSessionAuthRs option t errorCode info answers).state = s ∧
      (s.processSessionAuthRs option t errorCode info answers).contextType = .SessionError := by
  have hzero := h.not_listed_zero
  unfold EngineState.processSessionAuthRs
  simp only [hinfo, hzero, if_false]
  split
  · split
    · exact ⟨rfl, rfl⟩
    · exact ⟨rfl, rfl⟩
  · have hremove : s.removeIf 0 (·.changeSessionState .Wait .Opened) = (s, false) := by
      simp [removeIf, hzero]
    rw [hremove]
    exact ⟨rfl, rfl⟩

/-- What a session packet does: nothing; it puts a waiting session in the state `Opened` without taking
it up; it opens a session from the pool; or it takes up the abandoned session whose key it carries. -/
theorem Sound.processSessionPacket_cases (h : s.Sound option) (received : Received)
    (answers : Answers) :
    let processed := s.processSessionPacket option t received answers
    (processed.contextType = .SessionError ∧ processed.state = s) ∨
    (processed.contextType = .SessionError ∧ ∃ id ∈ s.abandonedSessionList,
      processed.state =
        s.setSession id ((s.sessions id).changeSessionState .Wait .Opened).1) ∨
    (∃ id key, answers.pop = some id ∧
      ((processed.contextType = .SessionAccepted ∧
          processed.state = s.openSession option t id key) ∨
        (processed.contextType = .SessionConnected ∧ ∃ issued,
          processed.state = (s.openSession option t id key).setStream t
            { (s.openSession option t id key).stream t with issued := issued }))) ∨
    ∃ id key, received.packet = .sessionAuthRq id key ∧ received.decodes = true ∧
      id ∈ s.abandonedSessionList ∧ s.state id = .Wait ∧ (s.sessions id).sessionKey = key ∧
      processed.contextType = .SessionAlived ∧
      processed.state =
        { s.setSession id ((s.sessions id).changeSessionState .Wait .Opened).1 with
          abandonedSessionList := s.abandonedSessionList.erase id }.revive option t id := by
  intro processed
  have hprocessed : processed = s.processSessionPacket option t received answers := rfl
  unfold EngineState.processSessionPacket at hprocessed
  split at hprocessed
  -- the packet cannot be read
  next =>
    rw [hprocessed]
    exact .inl ⟨rfl, rfl⟩
  next hdecodes =>
    split at hprocessed
    -- `packet_session_create_rq`, with the pool empty or not
    next =>
      split at hprocessed
      next =>
        rw [hprocessed]
        exact .inl ⟨rfl, rfl⟩
      next id hpop =>
        rw [hprocessed]
        exact .inr (.inr (.inl ⟨id, answers.key, hpop, .inl ⟨rfl, rfl⟩⟩))
    -- `packet_session_create_rs`, which an acceptor refuses and a connector without an entry too
    next sessionId sessionKey _ =>
      split at hprocessed
      next =>
        rw [hprocessed]
        exact .inl ⟨rfl, rfl⟩
      next =>
        split at hprocessed
        next =>
          rw [hprocessed]
          exact .inl ⟨rfl, rfl⟩
        next =>
          split at hprocessed
          next =>
            rw [hprocessed]
            exact .inl ⟨rfl, rfl⟩
          next id hpop =>
            rw [hprocessed]
            exact .inr (.inr (.inl ⟨id, sessionKey, hpop, .inr ⟨rfl, _, rfl⟩⟩))
    -- `packet_session_auth_rq`: `RemoveIf` opens the session before it looks at the key
    next sessionId sessionKey hpacket =>
      dsimp only at hprocessed
      split at hprocessed
      next s' hremove =>
        rw [hprocessed]
        rcases removeIf_of_failure hremove with ⟨hlisted, _, rfl⟩ | ⟨_, rfl⟩
        · exact .inr (.inl ⟨rfl, sessionId, hlisted, rfl⟩)
        · exact .inl ⟨rfl, rfl⟩
      next s' hremove =>
        obtain ⟨hlisted, hsuccess, rfl⟩ := removeIf_of_success hremove
        rw [SocketSession.authenticate_success] at hsuccess
        simp only [Bool.and_eq_true, decide_eq_true_eq] at hsuccess
        rw [hprocessed]
        exact .inr (.inr (.inr ⟨sessionId, sessionKey, hpacket, not_not.1 hdecodes, hlisted,
          hsuccess.2, hsuccess.1, rfl, rfl⟩))
    -- `packet_session_auth_rs`
    next =>
      split at hprocessed
      next =>
        rw [hprocessed]
        exact .inl ⟨rfl, rfl⟩
      next info hinfo =>
        rw [hprocessed]
        exact .inl (h.processSessionAuthRs (h.connectors _ info hinfo) _ _).symm
    next =>
      rw [hprocessed]
      exact .inl ⟨rfl, rfl⟩

/-- A wrong key for a session in the list. -/
theorem Sound.refuse (h : s.Sound option) (hlisted : id ∈ s.abandonedSessionList) :
    (s.setSession id ((s.sessions id).changeSessionState .Wait .Opened).1).Sound option := by
  obtain ⟨p, hp⟩ := h.placed id
  have hstate : ∀ id', (s.setSession id
      ((s.sessions id).changeSessionState .Wait .Opened).1).state id' =
        if id' = id ∧ s.state id = .Wait then .Opened else s.state id' := by
    intro id'
    rw [state_setSession, SocketSession.changeSessionState_state]
    by_cases heq : id' = id
    · subst heq
      simp [EngineState.state]
    · simp [heq]
  refine h.move h.streams h.connectors h.ticks h.pending (h.ne_zero_of_listed hlisted)
    (fun other hother => ?_) (p := p) ?_
  · refine .of_streams (fun _ => rfl) Iff.rfl Iff.rfl (fun _ => Iff.rfl) (fun hm => hm) ?_ rfl
    rw [hstate, if_neg (fun hc => hother hc.1)]
  · refine ⟨hp.pooled, hp.session, hp.attached, hp.leaving, hp.list, hp.listed, hp.expired,
      fun hm => ?_, ?_, hp.wellFormed, ?_⟩
    -- a session whose context waits is not in the state `Wait`, so the call has not changed it
    · have hpending := hp.pending hm
      refine ⟨hpending.1, ?_⟩
      rw [hstate, if_neg]
      · exact hpending.2
      · rintro ⟨_, hwait⟩
        rw [hpending.2] at hwait
        cases hwait
    -- in the list, with the stream still leaving or not
    · rcases hp.list hlisted with rfl | ⟨t', rfl⟩
      · trivial
      · have habandoned : s.state id = .Abandoned := hp.state
        refine StateFits.of_eq ?_ hp.state
        rw [hstate, if_neg]
        rintro ⟨_, hwait⟩
        rw [habandoned] at hwait
        cases hwait
    · rcases hp.list hlisted with rfl | ⟨t', rfl⟩
      · exact hp.log
      · exact hp.log

/-- One packet of a read. -/
theorem Sound.readPacket (h : s.Sound option) (hreading : (s.stream t).reading.isSome = true)
    (received : Received) {answers : Answers} (hpop : ∀ id ∈ answers.pop, id ∈ s.sessionPool) :
    (s.readPacket option t received answers).Sound option := by
  have hlive := (h.streams t).reading hreading
  unfold EngineState.readPacket
  split
  next hnone =>
    dsimp only
    -- the stream has no session: the packet has to be one that brings it one
    rcases h.processSessionPacket_cases (t := t) received answers with
      ⟨htype, hstate⟩ | ⟨htype, id, hlisted, hstate⟩ |
        ⟨id, key, hid, ⟨htype, hstate⟩ | ⟨htype, issued, hstate⟩⟩ |
        ⟨id, key, _, _, hlisted, hwait, _, htype, hstate⟩
    · rw [if_pos htype, hstate]
      exact h
    · rw [if_pos htype, hstate]
      exact h.refuse hlisted
    · have hopen := h.openSession (hpop id hid) key hnone hlive
      have hself := (stream_openSession option s t t id key).trans (if_pos rfl)
      have hsome : ((s.openSession option t id key).stream t).session = some id := by rw [hself]
      simp only [htype, hstate, hsome, reduceCtorEq, if_false]
      exact hopen.prepareContext hsome (by rw [hself]; exact hreading) (by simp) (by simp)
    · have hopen := h.openSession (hpop id hid) key hnone hlive
      have hself := (stream_openSession option s t t id key).trans (if_pos rfl)
      have hx := hopen.streams t
      let s' := (s.openSession option t id key).setStream t
        { (s.openSession option t id key).stream t with issued }
      have hissued : s'.Sound option :=
        hopen.setStream ⟨hx.reading, hx.contexts, hx.types, hx.owned, hx.alived⟩ rfl (fun _ => .inl rfl)
          fun htells => htells
      have hself' : s'.stream t = { (s.openSession option t id key).stream t with issued } :=
        (stream_setStream _ t t _).trans (if_pos rfl)
      have hsome : (s'.stream t).session = some id := by rw [hself', hself]
      have hstate' : (s.processSessionPacket option t received answers).state = s' := hstate
      simp only [htype, hstate', hsome, reduceCtorEq, if_false]
      exact hissued.prepareContext hsome (by rw [hself', hself]; exact hreading) (by simp) (by simp)
    · obtain ⟨htaken, hclosed, hopened, hlog⟩ := h.takeFromList hlisted hwait
      have hrevived := htaken.revive (t := t) (h.ne_zero_of_listed hlisted) hclosed hopened hlog hnone hlive
      have hself := (stream_revive option
        { s.setSession id ((s.sessions id).changeSessionState .Wait .Opened).1 with
          abandonedSessionList := s.abandonedSessionList.erase id } t t id).trans (if_pos rfl)
      have hsome := congrArg Stream.session hself
      rw [← hstate] at hself hsome hrevived
      simp only [htype, hsome, reduceCtorEq, if_false]
      refine hrevived.1.prepareContext hsome (by rw [hself]; exact hreading) (by simp)
        fun _ => ⟨?_, hrevived.2⟩
      rw [hself]
      exact (h.streams t).not_tellsAlived hnone
  next id hsession =>
    -- with a session: heartbeats, session packets, which close it, and data
    split
    · exact h
    · exact h
    · exact h.abortRead t
    · exact h.abortRead t
    · exact h.abortRead t
    · exact h.prepareContext hsession hreading (by simp) (by simp)

end SessionPackets

end EngineState

end Engine
end SeamlessServer
