import SeamlessServer.Engine.Authentication
import SeamlessServer.Engine.Streams

/-!
# Engine.SessionStates — what an event does to the state of a session

`Shift` lists what can become of the state of a session and of its place in the list of abandoned
sessions.  It shows that nothing closes a session but the timeout: `OnDisconnect` submits
`SessionClosed` and leaves the state `Opened`, in which the session returns to its pool.  So the
sessions of the pool are closed in runs in which `OnDisconnect` always abandons (`closed_of_pooled`).
-/

namespace SeamlessServer
namespace Engine

open NetworkEngine (ContextType StreamType errorNone errorSessionIsNotReady)

/-- The connection is disconnected without the shutdown code. -/
def Link.isAbrupt : Link → Bool
  | .disconnecting attachment => !EngineState.isGraceful attachment
  | _ => false

namespace EngineState

/-- `OnDisconnect` of the stream will abandon its session. -/
def Abandons (option : NetworkEngineOption) (s : EngineState) (t : SocketStream) : Prop :=
  option.useSessionReconnect = true ∧ (s.stream t).link.isAbrupt = true

instance (option : NetworkEngineOption) (s : EngineState) (t : SocketStream) :
    Decidable (Abandons option s t) :=
  inferInstanceAs (Decidable (_ ∧ _))

/-- What an event may do to the state of a session and to its place in the list. -/
inductive Shift (option : NetworkEngineOption) (e : EngineEvent) (s s' : EngineState) (id : Nat) :
    Prop
  | same : s'.state id = s.state id → (id ∈ s'.abandonedSessionList ↔ id ∈ s.abandonedSessionList) →
      (id ∈ s.sessionPool → id ∈ s'.sessionPool) → Shift option e s s' id
  /-- A packet opens the session, which is from the pool, for a stream. -/
  | opened (t : SocketStream) : id ∈ s.sessionPool → s'.state id = .Opened →
      (s'.stream t).session = some id → Shift option e s s' id
  /-- A wrong key was given for the session. -/
  | refused : id ∈ s.abandonedSessionList → s'.state id = .Opened ∨ s'.state id = s.state id →
      id ∈ s'.abandonedSessionList → Shift option e s s' id
  /-- A packet takes up the session for a stream. -/
  | revived (t : SocketStream) : s.state id = .Wait → s'.state id = .Opened →
      (s'.stream t).session = some id → Shift option e s s' id
  | abandoned (t : SocketStream) : e = .disconnect t → (s.stream t).session = some id →
      Abandons option s t → s'.state id = .Abandoned →
        (id ∈ s'.abandonedSessionList ↔ id ∈ s.abandonedSessionList) → Shift option e s s' id
  | entered (t : SocketStream) : (s.stream t).session = some id → s'.state id = s.state id →
      id ∈ s'.abandonedSessionList → Shift option e s s' id
  /-- The worker hears that the session was abandoned. -/
  | waits {context : Context} : e = .dispatch → s.upcoming = some context →
      context.contextType = .SessionAbandoned → s.state id = .Abandoned → s'.state id = .Wait →
        (id ∈ s'.abandonedSessionList ↔ id ∈ s.abandonedSessionList) → Shift option e s s' id
  | expired : s.state id = .Wait → s'.state id = .Closed → Shift option e s s' id

section Shift

variable {option : NetworkEngineOption} {e : EngineEvent} {s s' : EngineState} {t : SocketStream}
  {id : Nat}

theorem Shift.of_eq (hsessions : s'.sessions = s.sessions)
    (hlist : s'.abandonedSessionList = s.abandonedSessionList)
    (hpool : id ∈ s.sessionPool → id ∈ s'.sessionPool) : Shift option e s s' id :=
  .same (by unfold state; rw [hsessions]) (by rw [hlist]) hpool

/-- What follows leaves the session alone. -/
theorem Shift.congr {s'' : EngineState} (h : Shift option e s s' id)
    (hstate : s''.state id = s'.state id)
    (hlist : id ∈ s''.abandonedSessionList ↔ id ∈ s'.abandonedSessionList)
    (hpool : s''.sessionPool = s'.sessionPool)
    (hsession : ∀ t, (s'.stream t).session = some id → (s''.stream t).session = some id) :
    Shift option e s s'' id := by
  cases h with
  | same hs hl hp => exact .same (hstate.trans hs) (hlist.trans hl) fun hm => hpool ▸ hp hm
  | opened t hpool hs ht => exact .opened t hpool (hstate.trans hs) (hsession t ht)
  | refused hlisted hs hl => exact .refused hlisted (hstate ▸ hs) (hlist.2 hl)
  | revived t hwait hs ht => exact .revived t hwait (hstate.trans hs) (hsession t ht)
  | abandoned t he ht hab hs hl => exact .abandoned t he ht hab (hstate.trans hs) (hlist.trans hl)
  | entered t ht hs hl => exact .entered t ht (hstate.trans hs) (hlist.2 hl)
  | waits he hup htype hs hs' hl => exact .waits he hup htype hs (hstate.trans hs') (hlist.trans hl)
  | expired hwait hs => exact .expired hwait (hstate.trans hs)

theorem Shift.closeSession (id' : Nat) : Shift option e s (s.closeSession id') id := by
  obtain ⟨streams, hclose⟩ := s.closeSession_eq id'
  rw [hclose]
  exact .of_eq rfl rfl fun hm => hm

theorem Shift.abortRead : Shift option e s (s.abortRead t) id := by
  obtain ⟨streams, habort⟩ := s.abortRead_eq t
  rw [habort]
  exact .of_eq rfl rfl fun hm => hm

theorem Shift.flush (accepted : Bool) : Shift option e s (s.flush t accepted) id := by
  rcases s.flush_eq t accepted with ⟨_, log, heq⟩ | ⟨_, heq⟩
  · rw [heq]
    exact .of_eq rfl rfl fun hm => hm
  · rw [heq]
    exact .abortRead

/-- A session that is not the one that was set. -/
theorem Shift.of_ne {id' : Nat} {x : SocketSession} (hne : id ≠ id')
    (hsessions : s'.sessions = (s.setSession id' x).sessions)
    (hlist : id ∈ s'.abandonedSessionList ↔ id ∈ s.abandonedSessionList)
    (hpool : s'.sessionPool = s.sessionPool) : Shift option e s s' id := by
  refine .same ?_ hlist fun hm => hpool ▸ hm
  unfold state
  rw [hsessions]
  exact (state_setSession s id' id x).trans (if_neg hne)

theorem state_changeSessionState (s : EngineState) (id : Nat) (expected desired : SessionState) :
    (s.setSession id ((s.sessions id).changeSessionState expected desired).1).state id =
      if s.state id = expected then desired else s.state id := by
  rw [state_setSession, if_pos rfl, SocketSession.changeSessionState_state]
  rfl

theorem state_openSession (s : EngineState) (t : SocketStream) (key : SessionKey) (id' : Nat) :
    (s.openSession option t id' key).state id =
      if id = id' ∧ s.state id = .Closed then .Opened else s.state id := by
  unfold openSession
  dsimp only
  rw [state_attach, state_setSession]
  by_cases hid : id = id'
  · subst hid
    rw [if_pos rfl, SocketSession.changeSessionState_state]
    simp [state]
  · simp [hid, state]

theorem state_revive (s : EngineState) (t : SocketStream) (id id' : Nat) :
    (s.revive option t id').state id = s.state id := by
  unfold revive
  dsimp only
  rw [state_attach, state_setWorker]

/-- A session of the pool is opened. -/
theorem Sound.shift_openSession (h : s.Sound option) (key : SessionKey) {id' : Nat}
    (hpool : id' ∈ s.sessionPool)
    (hsame : s'.sessions = (s.openSession option t id' key).sessions)
    (hlist : s'.abandonedSessionList = s.abandonedSessionList)
    (hremoved : s'.sessionPool = s.sessionPool.erase id')
    (hsession : (s'.stream t).session = some id') : Shift option e s s' id := by
  have hstate : s'.state id =
      if id = id' ∧ s.state id = .Closed then .Opened else s.state id := by
    have hopen := @state_openSession option id s t key id'
    unfold state at hopen ⊢
    rw [hsame]
    exact hopen
  by_cases hid : id = id'
  · subst hid
    obtain ⟨p, hp⟩ := h.placed id
    obtain rfl := hp.pooled.1 hpool
    refine .opened t hpool ?_ hsession
    rw [hstate]
    rcases hp.state with hopened | hclosed
    · simp [hopened]
    · simp [hclosed]
  · refine .same (by rw [hstate]; simp [hid]) (by rw [hlist]) fun hm => ?_
    rw [hremoved]
    exact Finset.mem_erase_of_ne_of_mem hid hm

theorem Sound.shift_processSessionPacket (h : s.Sound option) (received : Received)
    {answers : Answers} (hpop : ∀ id ∈ answers.pop, id ∈ s.sessionPool) :
    Shift option e s (s.processSessionPacket option t received answers).state id := by
  rcases h.processSessionPacket_cases (t := t) received answers with
    ⟨_, hstate⟩ | ⟨_, id', hlisted, hstate⟩ | ⟨id', key, hid, ⟨_, hstate⟩ | ⟨_, issued, hstate⟩⟩ |
      ⟨id', key, _, _, hlisted, hwait, _, _, hstate⟩
  -- nothing is done
  · rw [hstate]
    exact .of_eq rfl rfl fun hm => hm
  -- `RemoveIf` has changed the state and refuses all the same
  · rw [hstate]
    by_cases hid : id = id'
    · subst hid
      refine .refused hlisted ?_ hlisted
      rw [state_changeSessionState]
      split
      · exact .inl rfl
      · exact .inr rfl
    · exact .of_ne hid rfl Iff.rfl rfl
  -- a session from the pool, for either end
  · rw [hstate]
    refine h.shift_openSession key (hpop id' hid) rfl rfl rfl ?_
    rw [stream_openSession, if_pos rfl]
  · rw [hstate]
    refine h.shift_openSession key (hpop id' hid) rfl rfl rfl ?_
    rw [stream_setStream, if_pos rfl, stream_openSession, if_pos rfl]
  -- the session is taken up again
  · rw [hstate]
    by_cases hid : id = id'
    · subst hid
      refine .revived t hwait ?_ ?_
      · rw [state_revive]
        exact (state_changeSessionState s id .Wait .Opened).trans (if_pos hwait)
      · rw [stream_revive, if_pos rfl]
    · have hlist : ∀ s : EngineState,
          (s.revive option t id').abandonedSessionList = s.abandonedSessionList := fun _ => rfl
      refine .same ?_ ?_ fun hm => hm
      · rw [state_revive]
        exact (state_setSession s id' id _).trans (if_neg hid)
      · rw [hlist]
        simp [hid]

theorem Sound.shift_readPacket (h : s.Sound option) (received : Received) {answers : Answers}
    (hpop : ∀ id ∈ answers.pop, id ∈ s.sessionPool) :
    Shift option e s (s.readPacket option t received answers) id := by
  have hprocessed : Shift option e s (s.processSessionPacket option t received answers).state id :=
    h.shift_processSessionPacket received hpop
  unfold EngineState.readPacket
  split
  · dsimp only
    split
    · exact hprocessed
    · split
      · exact hprocessed
      · refine hprocessed.congr rfl Iff.rfl rfl fun t' hsession => ?_
        rw [EngineState.prepareContext, stream_setStream]
        split
        next heq =>
          subst heq
          exact hsession
        next => exact hsession
  · split
    · exact .of_eq rfl rfl fun hm => hm
    · exact .of_eq rfl rfl fun hm => hm
    · exact .abortRead
    · exact .abortRead
    · exact .abortRead
    · exact .of_eq rfl rfl fun hm => hm

theorem Sound.shift_beginDisconnect (h : s.Sound option) :
    Shift option (.disconnect t) s (s.beginDisconnect option t) id := by
  unfold EngineState.beginDisconnect
  split
  next attachment hlink =>
    -- `Reconnect` looks after the connectors and leaves the sessions alone
    have hstream : ((s.deactivate option t).reconnect t).stream t = s.stream t :=
      stream_reconnect _ t t
    obtain ⟨connectorList, connecting, lost, hreconnect⟩ := (s.deactivate option t).reconnect_eq t
    have hsessions : ((s.deactivate option t).reconnect t).sessions = s.sessions := by
      rw [hreconnect]
      rfl
    have hlist : ((s.deactivate option t).reconnect t).abandonedSessionList =
        s.abandonedSessionList := by
      rw [hreconnect]
      rfl
    have hpool : id ∈ s.sessionPool →
        id ∈ ((s.deactivate option t).reconnect t).sessionPool := by
      rw [hreconnect]
      exact fun hm => hm
    generalize (s.deactivate option t).reconnect t = s₁ at hstream hsessions hlist hpool
    unfold EngineState.loseSession
    rw [hstream]
    split
    · exact .of_eq hsessions hlist hpool
    next id' hsession =>
      split
      next habandons =>
        split
        · exact .of_eq hsessions hlist hpool
        next y hchange =>
          -- the state goes to `Abandoned` now, and the list has the session one step later
          by_cases hid : id = id'
          · subst hid
            refine .abandoned t rfl hsession ⟨habandons.2, ?_⟩ ?_ ?_
            · rw [hlink, Link.isAbrupt, habandons.1]
              rfl
            · have hopened : (s₁.sessions id).sessionState = .Opened := by
                rw [hsessions]
                exact (h.attached_of_live hsession (by rw [hlink]; rfl)).state
              have hy := (s₁.sessions id).changeSessionState_state .Opened .Abandoned
              rw [hchange, if_pos hopened] at hy
              exact (state_setSession s₁ id id y).trans ((if_pos rfl).trans hy)
            · exact iff_of_eq (congrArg (id ∈ ·) hlist)
          · refine .same ?_ (iff_of_eq (congrArg (id ∈ ·) hlist)) hpool
            refine (state_setSession s₁ id' id y).trans ((if_neg hid).trans ?_)
            unfold state
            rw [hsessions]
      next => exact .of_eq hsessions hlist hpool
  next => exact .of_eq rfl rfl fun hm => hm

theorem Shift.insertAbandoned : Shift option e s (s.insertAbandoned option t) id := by
  unfold EngineState.insertAbandoned
  split
  · exact .of_eq rfl rfl fun hm => hm
  next id' hsession =>
    by_cases hid : id = id'
    · subst hid
      exact .entered t hsession rfl (Finset.mem_insert_self id _)
    · refine .same rfl ?_ fun hm => hm
      exact (Finset.mem_insert.trans (or_iff_right hid))

theorem Shift.removeExpired (index : Nat) : Shift option e s (s.removeExpired index) id := by
  unfold EngineState.removeExpired
  split
  next id' _ =>
    cases hremove : s.removeIf id' (·.changeSessionState .Wait .Closed) with
    | mk s₁ success =>
        cases success with
        | true =>
            obtain ⟨hlisted, hsuccess, rfl⟩ := removeIf_of_success hremove
            rw [SocketSession.changeSessionState_success, decide_eq_true_eq] at hsuccess
            -- the session waited, and its time is over
            by_cases hid : id = id'
            · subst hid
              refine .expired hsuccess ?_
              exact (state_changeSessionState s id .Wait .Closed).trans (if_pos hsuccess)
            · exact .of_ne hid rfl (Finset.mem_erase.trans (and_iff_right hid)) rfl
        | false =>
            rcases removeIf_of_failure hremove with ⟨_, hfailure, rfl⟩ | ⟨_, rfl⟩
            -- another thread was faster, and the state stays as it is
            · rw [SocketSession.changeSessionState_success, decide_eq_false_iff_not] at hfailure
              rw [SocketSession.changeSessionState, if_neg hfailure, setSession_self]
              exact .of_eq rfl rfl fun hm => hm
            · exact .of_eq rfl rfl fun hm => hm
  next => exact .of_eq rfl rfl fun hm => hm

theorem Sound.shift_dispatch (h : s.Sound option) : Shift option .dispatch s s.dispatch id := by
  unfold EngineState.dispatch
  split
  next => exact .of_eq rfl rfl fun hm => hm
  next context hup =>
    obtain ⟨queue, chain, heq, hcontexts⟩ := takeContext_eq hup
    rw [heq]
    dsimp only
    split
    next htype =>
      by_cases hid : id = context.session
      -- a `SessionAbandoned` context is about a session that has not changed its state since
      · have habandoned : s.state id = .Abandoned := by
          obtain ⟨p, hp⟩ := h.placed id
          refine (hp.pending ?_).2
          simp [pendingAbandoned, hcontexts, htype, hid]
        subst hid
        refine .waits rfl hup htype habandoned ?_ Iff.rfl
        exact (state_changeSessionState s _ .Abandoned .Wait).trans (if_pos habandoned)
      · exact .of_ne hid rfl Iff.rfl rfl
    next => exact .of_eq rfl rfl fun hm => hm

theorem Shift.release : Shift option e s s.release id := by
  unfold EngineState.release
  split
  next => exact .of_eq rfl rfl fun hm => hm
  next context _ =>
    dsimp only
    split
    next =>
      refine .same ?_ Iff.rfl fun hm => hm
      rw [state_setSession]
      split
      next heq => rw [heq]; rfl
      next => rfl
    next => exact .of_eq rfl rfl fun hm => hm

theorem Sound.shift_next (h : s.Sound option) (henabled : s.Enabled option e) (id : Nat) :
    Shift option e s (s.next option e) id := by
  cases e with
  | accept t => exact .of_eq rfl rfl fun hm => hm
  | connect t connectorId =>
      dsimp only [EngineState.next]
      unfold EngineState.onConnect
      dsimp only
      split <;> exact .of_eq rfl rfl fun hm => hm
  | connectFailed connectorId =>
      dsimp only [EngineState.next]
      unfold EngineState.onConnectFailed
      dsimp only
      split <;> exact .of_eq rfl rfl fun hm => hm
  | register remoteAddress attachment => exact .of_eq rfl rfl fun hm => hm
  | unregister connectorId =>
      dsimp only [EngineState.next]
      unfold EngineState.unregisterConnectorSocket
      split
      · exact .of_eq rfl rfl fun hm => hm
      · dsimp only
        split <;> exact .of_eq rfl rfl fun hm => hm
  | read t => exact .of_eq rfl rfl fun hm => hm
  | zeroRead t =>
      dsimp only [EngineState.next]
      unfold EngineState.zeroRead
      split <;> exact .of_eq rfl rfl fun hm => hm
  | packet t received answers => exact h.shift_readPacket received henabled.2
  | flush t accepted => exact .flush accepted
  | finishRead t => exact .of_eq rfl rfl fun hm => hm
  | abortRead t => exact .abortRead
  | disconnect t => exact h.shift_beginDisconnect
  | insertAbandoned t => exact .insertAbandoned
  | submitDisconnect t accepted =>
      obtain ⟨streams, queue, log, hsubmit, _⟩ := s.submitDisconnect_eq t accepted
      dsimp only [EngineState.next]
      rw [hsubmit]
      exact .of_eq rfl rfl fun hm => hm
  | expire index id' => exact .of_eq rfl rfl fun hm => hm
  | removeExpired index => exact .removeExpired index
  | submitExpired index accepted =>
      obtain ⟨streams, queue, log, x, hsubmit, _⟩ := s.submitExpired_eq index accepted
      dsimp only [EngineState.next]
      rw [hsubmit]
      exact .of_eq rfl rfl fun hm => hm
  | idleSocket index t => exact .of_eq rfl rfl fun hm => hm
  | idleSession index id' =>
      exact (Shift.closeSession id').congr rfl Iff.rfl rfl fun _ hsession => hsession
  | send id' => exact .of_eq rfl rfl fun hm => hm
  | closeSession id' => exact .closeSession id'
  | disconnectSession id' =>
      dsimp only [EngineState.next]
      unfold EngineState.disconnectSession
      split <;> exact .of_eq rfl rfl fun hm => hm
  | dispatch => exact h.shift_dispatch
  | release => exact .release
  | recycle id' => exact .of_eq rfl rfl fun hm => Finset.mem_insert_of_mem hm

end Shift

/-! ## Sessions of the pool -/

section Pool

variable {option : NetworkEngineOption} {s : EngineState}

/-- Every `OnDisconnect` of a stream with a session abandons it. -/
def AlwaysAbandons (option : NetworkEngineOption) (s : EngineState) : EngineEvent → Prop
  | .disconnect t => (s.stream t).session = none ∨ Abandons option s t
  | _ => True

instance (e : EngineEvent) : Decidable (AlwaysAbandons option s e) :=
  match e with
  | .disconnect t => inferInstanceAs (Decidable (_ = none ∨ Abandons option s t))
  | .accept _ | .connect _ _ | .connectFailed _ | .register _ _ | .unregister _ | .read _ |
    .zeroRead _ | .packet _ _ _ | .flush _ _ | .finishRead _ | .abortRead _ | .insertAbandoned _ |
    .submitDisconnect _ _ | .expire _ _ | .removeExpired _ | .submitExpired _ _ |
    .idleSocket _ _ | .idleSession _ _ | .send _ | .closeSession _ | .disconnectSession _ |
    .dispatch | .release | .recycle _ =>
      instDecidableTrue

/-- A session that is not closed is attached to a stream or in the list, and no stream is about to
submit `SessionClosed`. -/
structure Kept (s : EngineState) : Prop where
  links : ∀ t, (s.stream t).link ≠ .submitting .SessionClosed
  sessions : ∀ id, s.state id ≠ .Closed →
    (∃ t, (s.stream t).session = some id) ∨ id ∈ s.abandonedSessionList

/-- A session stays with its stream, or it is in the list. -/
theorem Kept.session (hkept : Kept s) (h : s.Sound option) {e : EngineEvent}
    (henabled : s.Enabled option e) {t : SocketStream} {id : Nat}
    (hsession : (s.stream t).session = some id) :
    ((s.next option e).stream t).session = some id ∨ id ∈ s.abandonedSessionList := by
  rcases (changes_next h henabled).keepsSession hsession with
    hsame | rfl | ⟨connectorId, rfl⟩ | ⟨accepted, rfl⟩
  · exact .inl hsame
  · rw [h.session_of_idle henabled.2.1] at hsession
    cases hsession
  · rw [h.session_of_idle henabled.2.1.1] at hsession
    cases hsession
  · obtain ⟨contextType, hlink⟩ : ∃ contextType, (s.stream t).link = .submitting contextType := by
      have hsubmitting : (s.stream t).link.isSubmitting = true := henabled
      cases hlink : (s.stream t).link with
      | submitting contextType => exact ⟨contextType, rfl⟩
      | _ => simp [hlink, Link.isSubmitting] at hsubmitting
    rcases h.placed_of_submitting hsession hlink with ⟨rfl, _⟩ | ⟨_, _, hlisted⟩
    · exact absurd hlink (hkept.links t)
    · exact .inr hlisted

/-- An `OnDisconnect` that abandons the session does not go on to close it. -/
theorem link_beginDisconnect {t : SocketStream}
    (hdisconnecting : (s.stream t).link.isDisconnecting = true)
    (habandons : (s.stream t).session = none ∨ Abandons option s t) :
    ((s.beginDisconnect option t).stream t).link ≠ .submitting .SessionClosed := by
  unfold beginDisconnect
  split
  next attachment hlink =>
    have hstream : ((s.deactivate option t).reconnect t).stream t = s.stream t :=
      stream_reconnect _ t t
    generalize (s.deactivate option t).reconnect t = s₁ at hstream
    unfold loseSession
    rw [hstream]
    split
    · rw [stream_setStream, if_pos rfl]
      exact fun heq => by cases heq
    next id hsession =>
      have hcode : isGraceful attachment = false ∧ option.useSessionReconnect = true := by
        rcases habandons with hnone | ⟨hreconnect, habrupt⟩
        · rw [hsession] at hnone
          cases hnone
        · rw [hlink] at habrupt
          exact ⟨Bool.not_eq_true' _ ▸ habrupt, hreconnect⟩
      rw [if_pos hcode]
      split
      · rw [stream_setStream, if_pos rfl]
        exact fun heq => by cases heq
      · rw [stream_setStream, if_pos rfl]
        exact fun heq => by cases heq
  next =>
    intro hlink
    rw [hlink] at hdisconnecting
    cases hdisconnecting

theorem Kept.next (hkept : Kept s) (h : s.Sound option) {e : EngineEvent}
    (henabled : s.Enabled option e) (hcond : AlwaysAbandons option s e) :
    Kept (s.next option e) where
  links := by
    intro t hclosing
    rcases (changes_next h henabled).closing hclosing with hbefore | rfl
    · exact hkept.links t hbefore
    · exact link_beginDisconnect henabled.2 hcond hclosing
  sessions := by
    intro id hstate
    have hstays : ((∃ t, (s.stream t).session = some id) ∨ id ∈ s.abandonedSessionList) →
        (id ∈ (s.next option e).abandonedSessionList ↔ id ∈ s.abandonedSessionList) →
          (∃ t, ((s.next option e).stream t).session = some id) ∨
            id ∈ (s.next option e).abandonedSessionList := by
      rintro (⟨t, hsession⟩ | hlisted) hlist
      · rcases hkept.session h henabled hsession with hsame | hlisted
        · exact .inl ⟨t, hsame⟩
        · exact .inr (hlist.2 hlisted)
      · exact .inr (hlist.2 hlisted)
    cases h.shift_next henabled id with
    | same hsame hlist _ => exact hstays (hkept.sessions id (hsame ▸ hstate)) hlist
    | opened t _ _ hsession => exact .inl ⟨t, hsession⟩
    | refused _ _ hlisted => exact .inr hlisted
    | revived t _ _ hsession => exact .inl ⟨t, hsession⟩
    | abandoned t _ hsession _ _ hlist => exact hstays (.inl ⟨t, hsession⟩) hlist
    | entered _ _ _ hlisted => exact .inr hlisted
    | waits _ _ _ habandoned _ hlist =>
        refine hstays (hkept.sessions id ?_) hlist
        rw [habandoned]
        exact fun heq => by cases heq
    | expired _ hclosed => exact absurd hclosed hstate

theorem kept_of_reachable (h : ((engine option).restrict (AlwaysAbandons option)).Reachable s) :
    Kept s := by
  induction h with
  | init hs =>
      obtain rfl := hs
      exact ⟨fun t hlink => (by cases hlink), fun id hstate => absurd rfl hstate⟩
  | step hs hstep ih =>
      obtain ⟨hcond, henabled, rfl⟩ := hstep
      exact ih.next (sound_of_reachable hs.of_restrict) henabled hcond

/-- In runs in which `OnDisconnect` always abandons, the sessions of the pool are closed, and `Pop` is
followed by a change of the state that succeeds. -/
theorem closed_of_pooled (h : ((engine option).restrict (AlwaysAbandons option)).Reachable s)
    {id : Nat} (hpool : id ∈ s.sessionPool) :
    s.state id = .Closed ∧ ((s.sessions id).changeSessionState .Closed .Opened).2 = true := by
  obtain ⟨p, hp⟩ := (sound_of_reachable h.of_restrict).placed id
  obtain rfl := hp.pooled.1 hpool
  -- a session that is not closed serves a stream or stands in a list, so it is not in the pool
  have hclosed : s.state id = .Closed := by
    by_contra hstate
    rcases (kept_of_reachable h).sessions id hstate with ⟨t, hsession⟩ | hlisted
    · rcases hp.session t hsession with hq | hq
      · cases hq
      · cases hq
    · rcases hp.list hlisted with hq | ⟨_, hq⟩
      · cases hq
      · cases hq
  refine ⟨hclosed, ?_⟩
  rw [SocketSession.changeSessionState_success]
  exact decide_eq_true hclosed

end Pool

end EngineState

open EngineState Sample in
/-- A session is closed gracefully: its context is dispatched and released, it returns to the pool, and
is still `Opened` there. -/
theorem graceful_close_stays_opened :
    let closing := opening (.acceptor 1) ++ [.closeSession 1, .disconnect (.acceptor 1),
      .submitDisconnect (.acceptor 1) true] ++ handling ++ [.dispatch]
    let s := after (closing ++ [.release, .recycle 1])
    (engine option).Reachable s ∧ (after closing).releasing = some ⟨.SessionClosed, 1, 0⟩ ∧
      1 ∉ (after closing).sessionPool ∧ 1 ∈ s.sessionPool ∧ s.state 1 = .Opened ∧
      ((s.sessions 1).changeSessionState .Closed .Opened).2 = false := by
  intro closing s
  exact ⟨reachable_after _, by decide +kernel, by decide +kernel, by decide +kernel,
    by decide +kernel, by decide +kernel⟩

open EngineState Sample in
/-- An abandoned session whose time is up returns to the pool. -/
theorem closed_expired :
    let events := opening (.acceptor 1) ++ losing (.acceptor 1) ++ handling ++ handling ++
      [.expire 0 1, .removeExpired 0, .submitExpired 0 true] ++ handling ++ [.recycle 1]
    (after events).state 1 = .Closed ∧
      (((after events).sessions 1).changeSessionState .Closed .Opened).2 = true := by
  intro events
  have hreachable : ((engine Sample.option).restrict (AlwaysAbandons Sample.option)).Reachable
      (after events) :=
    reachable_restrict (by decide +kernel)
  exact closed_of_pooled hreachable (by decide +kernel)

end Engine
end SeamlessServer
