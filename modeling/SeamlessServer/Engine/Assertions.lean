import SeamlessServer.Engine.SessionStates

/-!
# Engine.Assertions — what the worker and the sessions assert about session states

`UpdateContext` asserts that the session of a data context is `Opened`, and `GetSocketStream` that the
session is `Opened` or `Abandoned`.  The state is changed by `OnDisconnect` while data is queued, and by
the worker itself before it releases the context that tells of it.  Runs in which neither happens keep
both assertions (`assertions_hold`).
-/

namespace SeamlessServer
namespace Engine

open NetworkEngine (ContextType StreamType errorNone errorSessionIsNotReady)

namespace EngineState

/-! ## The assertions -/

/-- The assertion of `GetSocketStream`. -/
def HasStream (s : EngineState) (id : Nat) : Prop := s.state id = .Opened ∨ s.state id = .Abandoned

instance (s : EngineState) (id : Nat) : Decidable (s.HasStream id) :=
  inferInstanceAs (Decidable (_ ∨ _))

/-- The sessions whose `GetSocketStream` an event calls: by `Send`, by `TryAllocateReadBuffer`, by
`CloseSession` and `Disconnect`, and by `ReleaseReadBuffer`.  A connector has no session id, so
`packet_session_auth_rs` calls none. -/
def streamCalls (s : EngineState) : EngineEvent → List Nat
  | .packet t received _ =>
      match received.packet with
      | .heartbeatRq => (s.stream t).session.toList
      | .sessionCreateRq => (s.stream t).session.toList
      | .sessionCreateRs _ _ => (s.stream t).session.toList
      | .sessionCloseRq => (s.stream t).session.toList
      | _ => []
  | .flush t _ => (s.stream t).session.toList
  | .finishRead t => (s.stream t).session.toList
  | .abortRead t => (s.stream t).session.toList
  | .submitDisconnect t accepted => if accepted then [] else (s.stream t).session.toList
  | .submitExpired index accepted =>
      match (s.workers index).tick with
      | .expired id => if accepted then [] else [id]
      | _ => []
  | .idleSession _ id => [id]
  | .send id => [id]
  | .closeSession id => [id]
  | .disconnectSession id => [id]
  | .release =>
      match s.releasing with
      | none => []
      | some context => if s.chain.isEmpty then [context.session] else []
  -- the rest calls `GetSocketStream` for no session
  | _ => []

/-- The assertions an event comes to hold. -/
structure AssertionsHold (s : EngineState) (e : EngineEvent) : Prop where
  stream : ∀ id ∈ s.streamCalls e, s.HasStream id
  data : e = .dispatch → ∀ context ∈ s.upcoming, context.contextType = .SessionData →
    s.state context.session = .Opened

/-- No session is abandoned of which data is queued, and the worker hears of no abandoned session. -/
def Undisturbed (option : NetworkEngineOption) (s : EngineState) : EngineEvent → Prop
  | .disconnect t => Abandons option s t → ∀ context ∈ s.chain ++ s.queue.flatten,
      context.contextType = .SessionData → (s.stream t).session ≠ some context.session
  | .dispatch => ∀ context ∈ s.upcoming, context.contextType ≠ .SessionAbandoned
  | _ => True

instance (option : NetworkEngineOption) (s : EngineState) (e : EngineEvent) :
    Decidable (Undisturbed option s e) :=
  match e with
  | .disconnect t =>
      inferInstanceAs (Decidable (Abandons option s t → ∀ context ∈ _, _ = _ → _ ≠ _))
  | .dispatch => inferInstanceAs (Decidable (∀ context ∈ s.upcoming, _ ≠ _))
  | .accept _ | .connect _ _ | .connectFailed _ | .register _ _ | .unregister _ | .read _ |
    .zeroRead _ | .packet _ _ _ | .flush _ _ | .finishRead _ | .abortRead _ | .insertAbandoned _ |
    .submitDisconnect _ _ | .expire _ _ | .removeExpired _ | .submitExpired _ _ |
    .idleSocket _ _ | .idleSession _ _ | .send _ | .closeSession _ | .disconnectSession _ |
    .release | .recycle _ =>
      instDecidableTrue

/-! ## What is new after an event -/

/-- The contexts the worker has still to handle. -/
def contexts (s : EngineState) : List Context := s.chain ++ s.queue.flatten

/-- What an event adds to what the worker has before it, to the opened sessions, and to the sessions
whose time is up. -/
structure News (s s' : EngineState) : Prop where
  contexts : ∀ c ∈ s'.contexts, c ∈ s.contexts ∨
    (∃ t, (s.stream t).session = some c.session ∧
      (c.contextType = .SessionData →
        (s.stream t).link.isLive = true ∧ s'.state c.session = s.state c.session)) ∨
    ∃ index, (s.workers index).tick ≠ .rest
  releasing : ∀ c ∈ s'.releasing, c ∈ s.releasing ∨ s.upcoming = some c
  opened : ∀ index, ∀ id ∈ (s'.workers index).openedSessions,
    id ∈ (s.workers index).openedSessions ∨ ∃ t, (s'.stream t).session = some id
  ticks : ∀ index, (s'.workers index).tick ≠ .rest →
    (s.workers index).tick ≠ .rest ∨ ∃ id, s.state id = .Wait

section News

variable {option : NetworkEngineOption} {s s' : EngineState} {t : SocketStream}

/-- Nothing is new. -/
structure Quiet (s s' : EngineState) : Prop where
  contexts : ∀ c ∈ s'.contexts, c ∈ s.contexts
  releasing : ∀ c ∈ s'.releasing, c ∈ s.releasing
  opened : ∀ index, (s'.workers index).openedSessions ⊆ (s.workers index).openedSessions
  ticks : ∀ index, (s'.workers index).tick ≠ .rest → (s.workers index).tick ≠ .rest

theorem Quiet.news (h : Quiet s s') : News s s' where
  contexts := fun c hc => .inl (h.contexts c hc)
  releasing := fun c hc => .inl (h.releasing c hc)
  opened := fun index _ hid => .inl (h.opened index hid)
  ticks := fun index htick => .inl (h.ticks index htick)

theorem Quiet.trans {s'' : EngineState} (h : Quiet s s') (h' : Quiet s' s'') : Quiet s s'' where
  contexts := fun c hc => h.contexts c (h'.contexts c hc)
  releasing := fun c hc => h.releasing c (h'.releasing c hc)
  opened := fun index => (h'.opened index).trans (h.opened index)
  ticks := fun index htick => h.ticks index (h'.ticks index htick)

theorem Quiet.of_eq (hqueue : s'.queue = s.queue) (hchain : s'.chain = s.chain)
    (hreleasing : s'.releasing = s.releasing) (hworkers : s'.workers = s.workers) :
    Quiet s s' where
  contexts := by
    intro c hc
    unfold EngineState.contexts at hc ⊢
    rwa [hqueue, hchain] at hc
  releasing := by
    intro c hc
    rwa [hreleasing] at hc
  opened := by
    intro index
    rw [hworkers]
  ticks := by
    intro index htick
    rwa [hworkers] at htick

theorem News.of_eq (hqueue : s'.queue = s.queue) (hchain : s'.chain = s.chain)
    (hreleasing : s'.releasing = s.releasing) (hworkers : s'.workers = s.workers) : News s s' :=
  (Quiet.of_eq hqueue hchain hreleasing hworkers).news

theorem Quiet.setWorker {index : Nat} {x : SocketWorkerInfo}
    (hopened : x.openedSessions ⊆ (s.workers index).openedSessions)
    (htick : x.tick ≠ .rest → (s.workers index).tick ≠ .rest) : Quiet s (s.setWorker index x) where
  contexts := fun _ hc => hc
  releasing := fun _ hc => hc
  opened := by
    intro i
    by_cases hi : i = index
    · subst hi
      simpa [EngineState.setWorker] using hopened
    · simp [EngineState.setWorker, hi]
  ticks := by
    intro i
    by_cases hi : i = index
    · subst hi
      simpa [EngineState.setWorker] using htick
    · simp [EngineState.setWorker, hi]

theorem Quiet.setStream {x : Stream} : Quiet s (s.setStream t x) := .of_eq rfl rfl rfl rfl

theorem Quiet.closeSession (id : Nat) : Quiet s (s.closeSession id) := by
  obtain ⟨streams, hclose⟩ := s.closeSession_eq id
  rw [hclose]
  exact .of_eq rfl rfl rfl rfl

theorem Quiet.abortRead : Quiet s (s.abortRead t) := by
  obtain ⟨streams, habort⟩ := s.abortRead_eq t
  rw [habort]
  exact .of_eq rfl rfl rfl rfl

theorem Quiet.activate : Quiet s (s.activate option t) :=
  .setWorker (fun _ hid => hid) fun htick => htick

theorem Quiet.deactivate : Quiet s (s.deactivate option t) :=
  .setWorker (fun _ hid => hid) fun htick => htick

theorem Quiet.closeOpened (id : Nat) : Quiet s (s.closeOpened option t id) :=
  .setWorker (Finset.erase_subset _ _) fun htick => htick

theorem Quiet.beginDisconnect : Quiet s (s.beginDisconnect option t) := by
  unfold EngineState.beginDisconnect
  split
  next attachment _ =>
    have hreconnect : Quiet (s.deactivate option t) ((s.deactivate option t).reconnect t) := by
      obtain ⟨connectorList, connecting, lost, heq⟩ := (s.deactivate option t).reconnect_eq t
      rw [heq]
      exact .of_eq rfl rfl rfl rfl
    refine (Quiet.deactivate.trans hreconnect).trans ?_
    unfold EngineState.loseSession
    split
    · exact .of_eq rfl rfl rfl rfl
    next id _ =>
      split
      · split <;> exact .of_eq rfl rfl rfl rfl
      · exact (Quiet.closeOpened id).trans (.of_eq rfl rfl rfl rfl)
  next => exact .of_eq rfl rfl rfl rfl

theorem Quiet.insertAbandoned : Quiet s (s.insertAbandoned option t) := by
  unfold EngineState.insertAbandoned
  split
  · exact .of_eq rfl rfl rfl rfl
  next id _ =>
    let x := s.workers (option.workerIndex t)
    let s₁ := { s with abandonedSessionList := insert id s.abandonedSessionList }
    let s₂ := s₁.setWorker (option.workerIndex t)
      { x with abandonedSessions := insert id x.abandonedSessions }
    have h₁ : Quiet s s₁ := .of_eq rfl rfl rfl rfl
    have h₂ : Quiet s₁ s₂ := .setWorker (fun _ hid => hid) fun htick => htick
    have h₃ : Quiet s₂ (s₂.closeOpened option t id) := .closeOpened id
    exact ((h₁.trans h₂).trans h₃).trans (.of_eq rfl rfl rfl rfl)

theorem Quiet.removeExpired (index : Nat) : Quiet s (s.removeExpired index) := by
  unfold EngineState.removeExpired
  split
  next id htick =>
    cases hremove : s.removeIf id (·.changeSessionState .Wait .Closed) with
    | mk s₁ success =>
        have hsame : Quiet s s₁ ∧ s₁.workers = s.workers := by
          cases success with
          | true =>
              obtain ⟨_, _, rfl⟩ := removeIf_of_success hremove
              exact ⟨.of_eq rfl rfl rfl rfl, rfl⟩
          | false =>
              rcases removeIf_of_failure hremove with ⟨_, _, rfl⟩ | ⟨_, rfl⟩
              · exact ⟨.of_eq rfl rfl rfl rfl, rfl⟩
              · exact ⟨.of_eq rfl rfl rfl rfl, rfl⟩
        refine hsame.1.trans (.setWorker (fun _ hid => hid) fun _ => ?_)
        rw [hsame.2, htick]
        exact fun heq => by cases heq
  next => exact .of_eq rfl rfl rfl rfl

/-- A stream gets a session. -/
theorem News.attach (h : Quiet s s') (id : Nat) : News s (s'.attach option t id) where
  contexts := fun c hc => .inl (h.contexts c hc)
  releasing := fun c hc => .inl (h.releasing c hc)
  opened := by
    intro index id' hid
    by_cases hindex : index = option.workerIndex t
    · subst hindex
      have hmem : id' = id ∨ id' ∈ (s'.workers (option.workerIndex t)).openedSessions := by
        simpa [EngineState.attach, EngineState.setWorker, setStream, setSession] using hid
      rcases hmem with rfl | hmem
      · refine .inr ⟨t, ?_⟩
        rw [stream_attach, if_pos rfl]
      · exact .inl (h.opened _ hmem)
    · refine .inl (h.opened index ?_)
      simpa [EngineState.attach, EngineState.setWorker, setStream, setSession, hindex] using hid
  ticks := by
    intro index htick
    rw [tick_attach] at htick
    exact .inl (h.ticks index htick)

theorem News.openSession (id : Nat) (key : SessionKey) :
    News s (s.openSession option t id key) := by
  let s₁ := { s with sessionPool := s.sessionPool.erase id }
  let x := ((s₁.sessions id).changeSessionState .Closed .Opened).1
  have hset : Quiet s (s₁.setSession id { x with sessionKey := key }) := .of_eq rfl rfl rfl rfl
  exact .attach hset id

theorem News.revive (h : Quiet s s') (id : Nat) : News s (s'.revive option t id) := by
  let x := s'.workers (option.workerIndex t)
  have hset : Quiet s' (s'.setWorker (option.workerIndex t)
      { x with abandonedSessions := x.abandonedSessions.erase id }) :=
    .setWorker (fun _ hid => hid) fun htick => htick
  exact .attach (h.trans hset) id

/-- A stream is changed that keeps its session. -/
theorem News.setStream (h : News s s') {x : Stream} (hx : x.session = (s'.stream t).session) :
    News s (s'.setStream t x) where
  contexts := h.contexts
  releasing := h.releasing
  opened := by
    intro index id hid
    rcases h.opened index id hid with hold | ⟨t', ht'⟩
    · exact .inl hold
    · refine .inr ⟨t', ?_⟩
      rw [stream_setStream]
      split
      next heq =>
        rw [hx, ← heq]
        exact ht'
      next => exact ht'
  ticks := h.ticks

theorem Sound.news_readPacket (h : s.Sound option) (received : Received) (answers : Answers) :
    News s (s.readPacket option t received answers) := by
  have hprocessed : News s (s.processSessionPacket option t received answers).state := by
    rcases h.processSessionPacket_cases (t := t) received answers with
      ⟨_, hstate⟩ | ⟨_, id, _, hstate⟩ | ⟨id, key, _, ⟨_, hstate⟩ | ⟨_, issued, hstate⟩⟩ |
        ⟨id, key, _, _, _, _, _, _, hstate⟩
    -- only a session that is opened or taken up has anything new
    · rw [hstate]
      exact .of_eq rfl rfl rfl rfl
    · have hset : Quiet s (s.setSession id ((s.sessions id).changeSessionState .Wait .Opened).1) :=
        .of_eq rfl rfl rfl rfl
      rw [hstate]
      exact hset.news
    · rw [hstate]
      exact .openSession id key
    · rw [hstate]
      exact (News.openSession id key).setStream rfl
    · let s₁ := { s.setSession id ((s.sessions id).changeSessionState .Wait .Opened).1 with
        abandonedSessionList := s.abandonedSessionList.erase id }
      have hset : Quiet s s₁ := .of_eq rfl rfl rfl rfl
      rw [hstate]
      exact .revive hset id
  unfold EngineState.readPacket
  split
  · dsimp only
    split
    · exact hprocessed
    · split
      · exact hprocessed
      · exact hprocessed.setStream rfl
  · split
    · exact .of_eq rfl rfl rfl rfl
    · exact .of_eq rfl rfl rfl rfl
    · exact Quiet.abortRead.news
    · exact Quiet.abortRead.news
    · exact Quiet.abortRead.news
    · exact Quiet.setStream.news

/-- A chain is submitted. -/
theorem News.submit {contexts : List Context} (hqueue : s'.queue = s.queue ++ [contexts])
    (hchain : s'.chain = s.chain) (hreleasing : s'.releasing = s.releasing)
    (hworkers : ∀ index, (s'.workers index).openedSessions = (s.workers index).openedSessions ∧
      ((s'.workers index).tick ≠ .rest → (s.workers index).tick ≠ .rest))
    (hcontexts : ∀ c ∈ contexts, (∃ t, (s.stream t).session = some c.session ∧
      (c.contextType = .SessionData →
        (s.stream t).link.isLive = true ∧ s'.state c.session = s.state c.session)) ∨
      ∃ index, (s.workers index).tick ≠ .rest) : News s s' where
  contexts := by
    intro c hc
    unfold EngineState.contexts at hc ⊢
    rw [hqueue, hchain, List.flatten_concat, ← List.append_assoc] at hc
    rcases List.mem_append.1 hc with hc | hc
    · exact .inl hc
    · exact .inr (hcontexts c hc)
  releasing := by
    intro c hc
    rw [hreleasing] at hc
    exact .inl hc
  opened := by
    intro index id hid
    rw [(hworkers index).1] at hid
    exact .inl hid
  ticks := fun index htick => .inl ((hworkers index).2 htick)

theorem Sound.news_flush (h : s.Sound option) (accepted : Bool)
    (hlive : (s.stream t).link.isLive = true) : News s (s.flush t accepted) := by
  rcases s.flush_eq t accepted with ⟨_, log, heq⟩ | ⟨_, heq⟩
  · rw [heq]
    refine .submit rfl rfl rfl (fun index => ⟨rfl, fun htick => htick⟩) fun c hc => ?_
    exact .inl ⟨t, (h.streams t).owned c hc, fun _ => ⟨hlive, rfl⟩⟩
  · rw [heq]
    exact Quiet.abortRead.news

theorem Sound.news_submitDisconnect (h : s.Sound option) (accepted : Bool) :
    News s (s.submitDisconnect t accepted) := by
  obtain ⟨streams, queue, log, heq, hqueue⟩ := s.submitDisconnect_eq t accepted
  rw [heq]
  rcases hqueue with hsame | ⟨contextType, id, hlink, hsession, hsubmitted⟩
  · exact .of_eq hsame rfl rfl rfl
  · refine .submit hsubmitted rfl rfl (fun index => ⟨rfl, fun htick => htick⟩) fun c hc => ?_
    obtain rfl := List.mem_singleton.1 hc
    refine .inl ⟨t, hsession, fun hdata => ?_⟩
    rcases h.placed_of_submitting hsession hlink with ⟨rfl, _⟩ | ⟨rfl, _⟩
    · cases hdata
    · cases hdata

theorem News.submitExpired (index : Nat) (accepted : Bool) :
    News s (s.submitExpired index accepted) := by
  obtain ⟨streams, queue, log, x, heq, hopened, htick, hqueue⟩ :=
    s.submitExpired_eq index accepted
  have hworkers : ∀ i, ((s.submitExpired index accepted).workers i).openedSessions =
      (s.workers i).openedSessions ∧
        (((s.submitExpired index accepted).workers i).tick ≠ .rest →
          (s.workers i).tick ≠ .rest) := by
    -- the tick goes on, and no session is opened by it
    intro i
    rw [heq]
    by_cases hi : i = index
    · subst hi
      rcases htick with hrest | hsame
      · simp [EngineState.setWorker, hopened, hrest]
      · simp [EngineState.setWorker, hopened, hsame]
    · simp [EngineState.setWorker, hi]
  rcases hqueue with hsame | ⟨id, hexpired, hsubmitted⟩
  · refine Quiet.news ⟨fun c hc => ?_, fun c hc => ?_, fun i => ?_, fun i => (hworkers i).2⟩
    · rw [heq] at hc
      unfold EngineState.contexts at hc ⊢
      rwa [← hsame]
    · rwa [heq] at hc
    · rw [(hworkers i).1]
  · have hqueue : (s.submitExpired index accepted).queue =
        s.queue ++ [[⟨.SessionClosed, id, 0⟩]] := by
      rw [heq]
      exact hsubmitted
    refine .submit hqueue ?_ ?_ hworkers fun c _ => ?_
    · rw [heq]
      rfl
    · rw [heq]
      rfl
    -- the session has expired, so the tick was not at rest
    · refine .inr ⟨index, ?_⟩
      rw [hexpired]
      exact fun heq => by cases heq

theorem News.expire {index id : Nat} (hwait : s.state id = .Wait) :
    News s (s.expire index id) where
  contexts := fun _ hc => .inl hc
  releasing := fun _ hc => .inl hc
  opened := by
    intro i id' hid
    refine .inl ?_
    by_cases hi : i = index
    · subst hi
      simpa [EngineState.expire, EngineState.setWorker] using hid
    · simpa [EngineState.expire, EngineState.setWorker, hi] using hid
  ticks := fun _ _ => .inr ⟨id, hwait⟩

theorem News.dispatch : News s s.dispatch := by
  unfold EngineState.dispatch
  split
  next => exact .of_eq rfl rfl rfl rfl
  next context hup =>
    obtain ⟨queue, chain, heq, hcontexts⟩ := takeContext_eq hup
    have htaken : ∀ c ∈ chain ++ queue.flatten, c ∈ s.contexts := by
      intro c hc
      unfold EngineState.contexts
      rw [hcontexts]
      exact List.mem_cons_of_mem _ hc
    have hreleasing : ∀ c ∈ some context, s.upcoming = some c := by
      rintro c hc
      exact hup.trans hc
    rw [heq]
    dsimp only
    split
    · exact ⟨fun c hc => .inl (htaken c hc), fun c hc => .inr (hreleasing c hc),
        fun _ _ hid => .inl hid, fun _ htick => .inl htick⟩
    · exact ⟨fun c hc => .inl (htaken c hc), fun c hc => .inr (hreleasing c hc),
        fun _ _ hid => .inl hid, fun _ htick => .inl htick⟩

theorem Quiet.release : Quiet s s.release := by
  unfold EngineState.release
  split
  next => exact .of_eq rfl rfl rfl rfl
  next context _ =>
    dsimp only
    let chain := if context.contextType = .SessionClosed then [] else s.chain
    have hreleased : Quiet s { s with releasing := none, chain } := by
      refine ⟨fun c hc => ?_, fun c hc => (by cases hc), fun _ _ hid => hid, fun _ htick => htick⟩
      unfold EngineState.contexts at hc ⊢
      simp only [chain] at hc
      split at hc
      · exact List.mem_append_right _ hc
      · exact hc
    split
    · exact ⟨hreleased.contexts, hreleased.releasing, hreleased.opened, hreleased.ticks⟩
    · exact hreleased

theorem Sound.news_next (h : s.Sound option) {e : EngineEvent} (henabled : s.Enabled option e) :
    News s (s.next option e) := by
  cases e with
  | accept t => exact (Quiet.activate.trans .setStream).news
  | connect t connectorId =>
      let s₁ := { s with connecting := s.connecting.erase connectorId }
      have hfirst : Quiet s s₁ := .of_eq rfl rfl rfl rfl
      have hactive : Quiet s₁ (s₁.activate option t) := .activate
      refine Quiet.news ((hfirst.trans hactive).trans ?_)
      dsimp only [EngineState.next]
      unfold EngineState.onConnect
      dsimp only
      split <;> exact .of_eq rfl rfl rfl rfl
  | connectFailed connectorId =>
      dsimp only [EngineState.next]
      unfold EngineState.onConnectFailed
      dsimp only
      split <;> exact .of_eq rfl rfl rfl rfl
  | register remoteAddress attachment => exact .of_eq rfl rfl rfl rfl
  | unregister connectorId =>
      dsimp only [EngineState.next]
      unfold EngineState.unregisterConnectorSocket
      split
      · exact .of_eq rfl rfl rfl rfl
      · dsimp only
        split <;> exact .of_eq rfl rfl rfl rfl
  | read t => exact Quiet.setStream.news
  | zeroRead t =>
      dsimp only [EngineState.next]
      unfold EngineState.zeroRead
      split
      · exact .of_eq rfl rfl rfl rfl
      · exact (Quiet.setStream.trans .setStream).news
  | packet t received answers => exact h.news_readPacket received answers
  | flush t accepted => exact h.news_flush accepted ((h.streams t).reading henabled.1)
  | finishRead t => exact Quiet.setStream.news
  | abortRead t => exact Quiet.abortRead.news
  | disconnect t => exact Quiet.beginDisconnect.news
  | insertAbandoned t => exact Quiet.insertAbandoned.news
  | submitDisconnect t accepted => exact h.news_submitDisconnect accepted
  | expire index id => exact .expire henabled.2.2.2
  | removeExpired index => exact (Quiet.removeExpired index).news
  | submitExpired index accepted => exact .submitExpired index accepted
  | idleSocket index t => exact Quiet.setStream.news
  -- the loop of `OnTick` forgets the session after it has closed it
  | idleSession index id =>
      have hforgotten : Quiet (s.closeSession id) (s.closeIdleSession index id) :=
        .setWorker (Finset.erase_subset _ _) fun htick => htick
      exact ((Quiet.closeSession id).trans hforgotten).news
  | send id => exact .of_eq rfl rfl rfl rfl
  | closeSession id => exact (Quiet.closeSession id).news
  | disconnectSession id =>
      dsimp only [EngineState.next]
      unfold EngineState.disconnectSession
      split <;> exact .of_eq rfl rfl rfl rfl
  | dispatch => exact .dispatch
  | release => exact Quiet.release.news
  | recycle id => exact .of_eq rfl rfl rfl rfl

end News

/-! ## Undisturbed runs -/

section Steady

variable {option : NetworkEngineOption} {s : EngineState} {e : EngineEvent} {id : Nat}

/-- Every session that is in use is `Opened` or `Abandoned`, and `Opened` if data of it is queued; no
session waits. -/
structure Steady (option : NetworkEngineOption) (s : EngineState) : Prop where
  waits : ∀ id, s.state id ≠ .Wait
  used : ∀ id, s.IsUsed option id → s.HasStream id
  contexts : ∀ c ∈ s.contexts, s.HasStream c.session
  data : ∀ c ∈ s.contexts, c.contextType = .SessionData → s.state c.session = .Opened
  releasing : ∀ c ∈ s.releasing, s.HasStream c.session
  opened : ∀ index, ∀ id ∈ (s.workers index).openedSessions, s.HasStream id
  ticks : ∀ index, (s.workers index).tick = .rest

/-- The session of a stream. -/
theorem Sound.hasStream (h : s.Sound option) {t : SocketStream}
    (hsession : (s.stream t).session = some id) : s.HasStream id := by
  obtain ⟨p, hp⟩ := h.placed id
  rcases hp.session t hsession with rfl | rfl
  · exact .inl hp.state
  · exact .inr hp.state

theorem upcoming_mem {context : Context} (h : s.upcoming = some context) :
    context ∈ s.contexts := by
  obtain ⟨_, _, _, hcontexts⟩ := takeContext_eq h
  unfold contexts
  rw [hcontexts]
  exact List.mem_cons_self

/-- The worker hears of no abandoned session. -/
theorem Undisturbed.not_told (hcond : Undisturbed option s e) (he : e = .dispatch)
    {context : Context} (hup : s.upcoming = some context) :
    context.contextType ≠ .SessionAbandoned := by
  subst he
  exact hcond context hup

theorem Steady.hasStream_next (hsteady : Steady option s) (h : s.Sound option)
    (henabled : s.Enabled option e) (hcond : Undisturbed option s e) (hstream : s.HasStream id) :
    (s.next option e).HasStream id := by
  have hsame : (s.next option e).state id = s.state id → (s.next option e).HasStream id := by
    intro heq
    unfold HasStream
    rw [heq]
    exact hstream
  cases h.shift_next henabled id with
  | same heq => exact hsame heq
  | opened _ _ hopened => exact .inl hopened
  | refused _ hstate =>
      rcases hstate with hopened | heq
      · exact .inl hopened
      · exact hsame heq
  | revived _ hwait => exact absurd hwait (hsteady.waits id)
  | abandoned _ _ _ _ habandoned => exact .inr habandoned
  | entered _ _ heq => exact hsame heq
  | waits he hup htype => exact absurd htype (hcond.not_told he hup)
  | expired hwait => exact absurd hwait (hsteady.waits id)

theorem Steady.waits_next (hsteady : Steady option s) (h : s.Sound option)
    (henabled : s.Enabled option e) (hcond : Undisturbed option s e) (id : Nat) :
    (s.next option e).state id ≠ .Wait := by
  intro hwait
  cases h.shift_next henabled id with
  | same heq => exact hsteady.waits id (heq ▸ hwait)
  | opened _ _ hopened => rw [hopened] at hwait; cases hwait
  | refused _ hstate =>
      rcases hstate with hopened | heq
      · rw [hopened] at hwait
        cases hwait
      · exact hsteady.waits id (heq ▸ hwait)
  | revived _ hbefore => exact hsteady.waits id hbefore
  | abandoned _ _ _ _ habandoned => rw [habandoned] at hwait; cases hwait
  | entered _ _ heq => exact hsteady.waits id (heq ▸ hwait)
  | waits he hup htype => exact hcond.not_told he hup htype
  | expired hbefore => exact hsteady.waits id hbefore

/-- A session of which data is queued stays `Opened`. -/
theorem Steady.opened_next (hsteady : Steady option s) (h : s.Sound option)
    (henabled : s.Enabled option e) (hcond : Undisturbed option s e) {c : Context}
    (hc : c ∈ s.contexts) (hdata : c.contextType = .SessionData) :
    (s.next option e).state c.session = .Opened := by
  have hbefore := hsteady.data c hc hdata
  cases h.shift_next henabled c.session with
  | same heq => exact heq.trans hbefore
  | opened _ _ hopened => exact hopened
  | refused _ hstate =>
      rcases hstate with hopened | heq
      · exact hopened
      · exact heq.trans hbefore
  | revived _ _ hopened => exact hopened
  | abandoned t he hsession habandons =>
      subst he
      exact absurd hsession (hcond habandons c hc hdata)
  | entered _ _ heq => exact heq.trans hbefore
  | waits he hup htype => exact absurd htype (hcond.not_told he hup)
  | expired hwait => exact absurd hwait (hsteady.waits c.session)

/-- A session that has left the pool is open. -/
theorem Steady.used_next (hsteady : Steady option s) (h : s.Sound option)
    (henabled : s.Enabled option e) (hcond : Undisturbed option s e)
    (hused : (s.next option e).IsUsed option id) : (s.next option e).HasStream id := by
  by_cases hpool : id ∈ s.sessionPool
  · obtain ⟨p, hp⟩ := h.placed id
    obtain rfl := hp.pooled.1 hpool
    have hnowhere : ∀ t, (s.stream t).session ≠ some id := by
      intro t ht
      rcases hp.session t ht with hq | hq
      · cases hq
      · cases hq
    cases h.shift_next henabled id with
    | same _ _ hstays => exact absurd (hstays hpool) hused.2
    | opened _ _ hopened => exact .inl hopened
    | refused hlisted =>
        rcases hp.list hlisted with hq | ⟨_, hq⟩
        · cases hq
        · cases hq
    | revived _ _ hopened => exact .inl hopened
    | abandoned t _ hsession => exact absurd hsession (hnowhere t)
    | entered t hsession => exact absurd hsession (hnowhere t)
    | waits he hup htype => exact absurd htype (hcond.not_told he hup)
    | expired hwait => exact absurd hwait (hsteady.waits id)
  · exact hsteady.hasStream_next h henabled hcond (hsteady.used id ⟨hused.1, hpool⟩)

theorem Steady.next (hsteady : Steady option s) (h : s.Sound option)
    (henabled : s.Enabled option e) (hcond : Undisturbed option s e) :
    Steady option (s.next option e) := by
  have hnews := h.news_next henabled
  have hstays : ∀ {id}, s.HasStream id → (s.next option e).HasStream id :=
    hsteady.hasStream_next h henabled hcond
  refine ⟨hsteady.waits_next h henabled hcond, fun id => hsteady.used_next h henabled hcond,
    fun c hc => ?_, fun c hc hdata => ?_, fun c hc => ?_, fun index id hid => ?_, fun index => ?_⟩
  · rcases hnews.contexts c hc with hold | ⟨t, hsession, _⟩ | ⟨index, htick⟩
    · exact hstays (hsteady.contexts c hold)
    · exact hstays (h.hasStream hsession)
    · exact absurd (hsteady.ticks index) htick
  · rcases hnews.contexts c hc with hold | ⟨t, hsession, hnew⟩ | ⟨index, htick⟩
    · exact hsteady.opened_next h henabled hcond hold hdata
    · obtain ⟨hlive, hsame⟩ := hnew hdata
      exact hsame.trans (h.attached_of_live hsession hlive).state
    · exact absurd (hsteady.ticks index) htick
  · rcases hnews.releasing c hc with hold | hup
    · exact hstays (hsteady.releasing c hold)
    · exact hstays (hsteady.contexts c (upcoming_mem hup))
  · rcases hnews.opened index id hid with hold | ⟨t, hsession⟩
    · exact hstays (hsteady.opened index id hold)
    · exact (h.next henabled).hasStream hsession
  · by_contra htick
    rcases hnews.ticks index htick with hold | ⟨id, hwait⟩
    · exact hold (hsteady.ticks index)
    · exact hsteady.waits id hwait

theorem steady_of_reachable (h : ((engine option).restrict (Undisturbed option)).Reachable s) :
    Steady option s := by
  induction h with
  | init hs =>
      obtain rfl := hs
      refine ⟨fun id hwait => (by cases hwait), fun id hused => ?_, fun c hc => (by cases hc),
        fun c hc => (by cases hc), fun c hc => (by cases hc), fun _ _ hid => ?_, fun _ => rfl⟩
      · exact absurd (mem_initialized.2 hused.1) hused.2
      · simp [initialized] at hid
  | step hs hstep ih =>
      obtain ⟨hcond, henabled, rfl⟩ := hstep
      exact ih.next (sound_of_reachable hs.of_restrict) henabled hcond

/-- In undisturbed runs no assertion fails. -/
theorem assertions_hold (h : ((engine option).restrict (Undisturbed option)).Reachable s)
    {e : EngineEvent} (henabled : s.Enabled option e) : s.AssertionsHold e := by
  have hsteady := steady_of_reachable h
  have hsound := sound_of_reachable h.of_restrict
  have hsession : ∀ t, ∀ id ∈ (s.stream t).session.toList, s.HasStream id := by
    intro t id hid
    exact hsound.hasStream (Option.mem_toList.1 hid)
  -- the calls of `GetSocketStream`, and then the data that is dispatched
  refine ⟨fun id hid => ?_, fun he context hup hdata => ?_⟩
  -- the stream that calls has the session, or the session is one that is in use
  · cases e with
    | packet t received answers =>
        simp only [streamCalls] at hid
        split at hid
        · exact hsession t id hid
        · exact hsession t id hid
        · exact hsession t id hid
        · exact hsession t id hid
        · cases hid
    | flush t accepted => exact hsession t id hid
    | finishRead t => exact hsession t id hid
    | abortRead t => exact hsession t id hid
    | submitDisconnect t accepted =>
        simp only [streamCalls] at hid
        split at hid
        · cases hid
        · exact hsession t id hid
    | submitExpired index accepted =>
        -- no session expires as long as no tick is under way
        have hexpired := henabled
        simp only [Enabled, hsteady.ticks index] at hexpired
        cases hexpired
    | idleSession index id' =>
        obtain rfl := List.mem_singleton.1 hid
        exact hsteady.opened index id henabled
    | send id' =>
        obtain rfl := List.mem_singleton.1 hid
        exact hsteady.used id henabled
    | closeSession id' =>
        obtain rfl := List.mem_singleton.1 hid
        exact hsteady.used id henabled
    | disconnectSession id' =>
        obtain rfl := List.mem_singleton.1 hid
        exact hsteady.used id henabled
    | release =>
        simp only [streamCalls] at hid
        split at hid
        · cases hid
        next context hcontext =>
          split at hid
          · obtain rfl := List.mem_singleton.1 hid
            exact hsteady.releasing context hcontext
          · cases hid
    | _ => cases hid
  · subst he
    exact hsteady.data context (upcoming_mem hup) hdata

end Steady

end EngineState

namespace Sample

/-- A stream reads a packet of its session. -/
def reading (t : SocketStream) : List EngineEvent :=
  [.read t, .packet t { packet := .data } {}, .flush t true, .finishRead t]

/-- Data of the first session is queued. -/
def receiving : List EngineEvent :=
  opening (.acceptor 1) ++ handling ++ reading (.acceptor 1)

end Sample

open EngineState Sample in
/-- The peer is gone while its data is queued, and the worker comes to the data.  Or it has heard that the
session was abandoned, and releases the context. -/
theorem assertions_fail :
    let s := after (receiving ++ [.zeroRead (.acceptor 1), .disconnect (.acceptor 1)])
    let s' := after (opening (.acceptor 1) ++ losing (.acceptor 1) ++ handling ++ [.dispatch])
    (engine option).Reachable s ∧ option.useSessionReconnect = true ∧ s.Enabled option .dispatch ∧
      s.upcoming = some ⟨.SessionData, 1, 2⟩ ∧ s.state 1 = .Abandoned ∧
      ¬ s.AssertionsHold .dispatch ∧
      (engine option).Reachable s' ∧ s'.Enabled option .release ∧ s'.streamCalls .release = [1] ∧
      s'.state 1 = .Wait ∧ ¬ s'.AssertionsHold .release := by
  intro s s'
  have hup : s.upcoming = some ⟨.SessionData, 1, 2⟩ := by decide +kernel
  have habandoned : s.state 1 = .Abandoned := by decide +kernel
  have hcalls : s'.streamCalls .release = [1] := by decide +kernel
  have hwait : s'.state 1 = .Wait := by decide +kernel
  refine ⟨reachable_after _, rfl, by decide +kernel, hup, habandoned, ?_, reachable_after _,
    by decide +kernel, hcalls, hwait, ?_⟩
  -- data of a session that was abandoned meanwhile
  · intro hhold
    have hopened := hhold.data rfl _ hup rfl
    rw [habandoned] at hopened
    cases hopened
  -- a context is released whose session waits already
  · intro hhold
    have hstream := hhold.stream 1 (by rw [hcalls]; exact List.mem_singleton_self 1)
    rcases hstream with hopened | habandoned'
    · rw [hwait] at hopened
      cases hopened
    · rw [hwait] at habandoned'
      cases habandoned'

open EngineState Sample in
/-- Data is dispatched while its session is open. -/
theorem assertions_hold_receiving : (after receiving).AssertionsHold .dispatch :=
  @assertions_hold Sample.option _ (reachable_restrict (by decide +kernel)) _ (by decide +kernel)

end Engine
end SeamlessServer
