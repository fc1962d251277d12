import SeamlessServer.Engine.Authentication
import SeamlessServer.Engine.Streams

/-!
# Engine.Resolution — an abandoned session is taken up again or closed

The milestones of a session record what is submitted about it, step by step (`told_next`) and so over
any run between two times that it is in the pool (`Sound.log_run`).  Whatever the threads do, a session
is resolved at most once each time it is abandoned, and closed at most once (`resolved_at_most_once`).
-/

namespace SeamlessServer
namespace Engine

open NetworkEngine (ContextType StreamType errorNone errorSessionIsNotReady)

/-! ## Milestones and contexts -/

/-- The context in which the worker is told of a milestone.  That a session was abandoned is noted
before it is told. -/
def Milestone.context : Milestone → Option ContextType
  | .abandoned => none
  | .alived => some .SessionAlived
  | .expired => some .SessionClosed
  | .disconnected => some .SessionClosed

/-- What contexts tell of the end of a session's being abandoned, or of the session. -/
def tidings (id : Nat) (contexts : List Context) : List ContextType :=
  (contexts.filter fun c =>
    c.session = id ∧ (c.contextType = .SessionAlived ∨ c.contextType = .SessionClosed)).map
      Context.contextType

@[simp] theorem tidings_nil (id : Nat) : tidings id [] = [] := rfl

theorem tidings_append (id : Nat) (l l' : List Context) :
    tidings id (l ++ l') = tidings id l ++ tidings id l' := by
  simp [tidings]

namespace EngineState

/-- The contexts that are put into the queue in the course of some events. -/
def submissions (option : NetworkEngineOption) : EngineState → List EngineEvent → List Context
  | _, [] => []
  | s, e :: es =>
      (if e = .dispatch then [] else ((s.next option e).queue.drop s.queue.length).flatten) ++
        submissions option (s.next option e) es

/-- Contexts have been submitted, and what they tell of the session has been noted. -/
def Told (s s' : EngineState) (id : Nat) : Prop :=
  ∃ chains, s'.queue = s.queue ++ chains ∧
    (s'.log id).filterMap Milestone.context =
      (s.log id).filterMap Milestone.context ++ tidings id chains.flatten

section Told

variable {option : NetworkEngineOption} {s s' : EngineState} {t : SocketStream} {id : Nat}

theorem Told.of_eq (hqueue : s'.queue = s.queue) (hlog : s'.log id = s.log id) : Told s s' id :=
  ⟨[], by simp [hqueue], by simp [hlog]⟩

theorem Told.trans {s'' : EngineState} (h : Told s s' id) (h' : Told s' s'' id) :
    Told s s'' id := by
  obtain ⟨chains, hqueue, hlog⟩ := h
  obtain ⟨chains', hqueue', hlog'⟩ := h'
  refine ⟨chains ++ chains', by rw [hqueue', hqueue, List.append_assoc], ?_⟩
  rw [hlog', hlog, List.flatten_append, tidings_append, List.append_assoc]

theorem Told.closeSession (id' : Nat) : Told s (s.closeSession id') id := by
  unfold EngineState.closeSession
  split <;> exact .of_eq rfl rfl

theorem Told.abortRead : Told s (s.abortRead t) id := by
  have hdrop : Told s (s.dropContexts t) id := .of_eq rfl rfl
  unfold EngineState.abortRead
  dsimp only
  split
  · exact hdrop.trans (.closeSession _)
  · exact hdrop.trans (.of_eq rfl rfl)

/-- `SessionClosed` is submitted and noted. -/
theorem Told.sendClosed {milestone : Milestone}
    (hmilestone : milestone.context = some .SessionClosed) (id' : Nat) (accepted : Bool) :
    Told s (if accepted then (s.sendSocketContext .SessionClosed id' accepted).note id' milestone
      else s.sendSocketContext .SessionClosed id' accepted) id := by
  cases accepted with
  | false => exact .closeSession id'
  | true =>
      refine ⟨[[⟨.SessionClosed, id', 0⟩]], rfl, ?_⟩
      by_cases hid : id' = id
      · subst hid
        simp [sendSocketContext, note, tidings, hmilestone]
      · simp [sendSocketContext, note, tidings, hid, Ne.symm hid]

/-- The contexts of a read are submitted, and the revived sessions noted. -/
theorem log_noteAlived (contexts : List Context) (s : EngineState) (id : Nat) :
    ((s.noteAlived contexts).log id).filterMap Milestone.context =
      (s.log id).filterMap Milestone.context ++
        ((contexts.filter (·.contextType = .SessionAlived)).filter (·.session = id)).map
          Context.contextType := by
  unfold noteAlived
  have halived : ∀ c ∈ contexts.filter (·.contextType = .SessionAlived),
      c.contextType = .SessionAlived := by
    intro c hc
    simpa using (List.mem_filter.1 hc).2
  generalize contexts.filter (·.contextType = .SessionAlived) = alived at halived
  induction alived generalizing s with
  | nil =>
      simp
  | cons c alived ih =>
      rw [List.foldl_cons, ih _ fun c' hc' => halived c' (List.mem_cons_of_mem _ hc')]
      have htype := halived c List.mem_cons_self
      by_cases hid : c.session = id
      · subst hid
        simp [note, Milestone.context, htype]
      · simp [note, hid, Ne.symm hid]

theorem Sound.told_flush (h : s.Sound option) (accepted : Bool) :
    Told s (s.flush t accepted) id := by
  cases accepted with
  | false => exact .abortRead
  | true =>
      obtain ⟨log, hnote⟩ := noteAlived_eq (s.stream t).contexts
        { s.setStream t { s.stream t with contexts := [] } with
          queue := s.queue ++ [(s.stream t).contexts] }
      refine ⟨[(s.stream t).contexts], congrArg EngineState.queue hnote, ?_⟩
      have hlog := log_noteAlived (s.stream t).contexts
        { s.setStream t { s.stream t with contexts := [] } with
          queue := s.queue ++ [(s.stream t).contexts] } id
      refine hlog.trans ?_
      rw [List.flatten_singleton]
      have hclosed : ∀ c ∈ (s.stream t).contexts, c.contextType ≠ .SessionClosed :=
        fun c hc => ((h.streams t).types c hc).2
      refine congrArg _ (congrArg _ ?_)
      rw [List.filter_filter]
      refine List.filter_congr fun c hc => ?_
      simp [hclosed c hc]

theorem Sound.told_processSessionPacket (h : s.Sound option) (received : Received)
    (answers : Answers) : Told s (s.processSessionPacket option t received answers).state id := by
  rcases h.processSessionPacket_cases (t := t) received answers with
    ⟨_, hstate⟩ | ⟨_, id', _, hstate⟩ | ⟨id', key, _, ⟨_, hstate⟩ | ⟨_, issued, hstate⟩⟩ |
      ⟨id', key, _, _, _, _, _, _, hstate⟩ <;>
    rw [hstate] <;> exact .of_eq rfl rfl

theorem Sound.told_readPacket (h : s.Sound option) (received : Received) (answers : Answers) :
    Told s (s.readPacket option t received answers) id := by
  have hprocessed : Told s (s.processSessionPacket option t received answers).state id :=
    h.told_processSessionPacket received answers
  unfold EngineState.readPacket
  split
  · dsimp only
    split
    · exact hprocessed
    · split
      · exact hprocessed
      · exact hprocessed.trans (.of_eq rfl rfl)
  · split
    · exact .of_eq rfl rfl
    · exact .of_eq rfl rfl
    · exact .abortRead
    · exact .abortRead
    · exact .abortRead
    · exact .of_eq rfl rfl

theorem told_reconnect : Told s (s.reconnect t) id := by
  unfold EngineState.reconnect
  dsimp only
  split
  · split <;> exact .of_eq rfl rfl
  · exact .of_eq rfl rfl

theorem told_loseSession (attachment : Nat) :
    Told s (s.loseSession option t attachment) id := by
  unfold EngineState.loseSession
  split
  · exact .of_eq rfl rfl
  next id' _ =>
    split
    · split
      · exact .of_eq rfl rfl
      next y _ =>
        -- the worker is not told of it here
        refine ⟨[], by simp [setStream, setSession, EngineState.note], ?_⟩
        have hlog : ((((s.setSession id' y).note id' .abandoned).setStream t
            { s.stream t with link := .abandoning }).log id).filterMap Milestone.context =
              (s.log id).filterMap Milestone.context := by
          by_cases hid : id = id'
          · subst hid
            simp [setStream, setSession, EngineState.note, Milestone.context]
          · simp [setStream, setSession, EngineState.note, hid]
        simpa using hlog
    · exact .of_eq rfl rfl

theorem Sound.told_submitDisconnect (h : s.Sound option) (accepted : Bool) :
    Told s (s.submitDisconnect t accepted) id := by
  unfold EngineState.submitDisconnect
  split
  next contextType id' hlink hsession =>
    dsimp only
    rcases h.placed_of_submitting hsession hlink with ⟨rfl, _⟩ | ⟨rfl, _⟩
    · simp only [and_true]
      exact (Told.sendClosed rfl id' accepted).trans (.of_eq rfl rfl)
    · have hsent : Told s (s.sendSocketContext .SessionAbandoned id' accepted) id := by
        cases accepted with
        | false => exact .closeSession id'
        | true => exact ⟨[[⟨.SessionAbandoned, id', 0⟩]], rfl, by simp [sendSocketContext, tidings]⟩
      simp only [reduceCtorEq, and_false, if_false]
      exact hsent.trans (.of_eq rfl rfl)
  next => exact .of_eq rfl rfl

theorem told_submitExpired (index : Nat) (accepted : Bool) :
    Told s (s.submitExpired index accepted) id := by
  unfold EngineState.submitExpired
  split
  next id' _ =>
    dsimp only
    exact (Told.sendClosed rfl id' accepted).trans (.of_eq rfl rfl)
  next => exact .of_eq rfl rfl

/-- Whatever happens, except that the worker takes contexts or the session returns to the pool, its
milestones go on with what is submitted about it. -/
theorem Sound.told_next (h : s.Sound option) {e : EngineEvent} (hdispatch : e ≠ .dispatch)
    (hrecycle : e ≠ .recycle id) : Told s (s.next option e) id := by
  cases e with
  | accept t => exact .of_eq rfl rfl
  | connect t connectorId =>
      dsimp only [EngineState.next]
      unfold EngineState.onConnect
      dsimp only
      split <;> exact .of_eq rfl rfl
  | connectFailed connectorId =>
      dsimp only [EngineState.next]
      unfold EngineState.onConnectFailed
      dsimp only
      split <;> exact .of_eq rfl rfl
  | register remoteAddress attachment => exact .of_eq rfl rfl
  | unregister connectorId =>
      dsimp only [EngineState.next]
      -- a connector that is unregistered loses its entry at most, and its stream is asked to
      -- disconnect
      unfold EngineState.unregisterConnectorSocket
      split
      · exact .of_eq rfl rfl
      · dsimp only
        split <;> exact .of_eq rfl rfl
  | read t => exact .of_eq rfl rfl
  | zeroRead t =>
      dsimp only [EngineState.next]
      unfold EngineState.zeroRead
      split <;> exact .of_eq rfl rfl
  | packet t received answers => exact h.told_readPacket received answers
  | flush t accepted => exact h.told_flush accepted
  | finishRead t => exact .of_eq rfl rfl
  | abortRead t => exact .abortRead
  | disconnect t =>
      dsimp only [EngineState.next]
      unfold EngineState.beginDisconnect
      split
      · have hinactive : Told s (s.deactivate option t) id := .of_eq rfl rfl
        exact (hinactive.trans told_reconnect).trans (told_loseSession _)
      · exact .of_eq rfl rfl
  | insertAbandoned t =>
      dsimp only [EngineState.next]
      unfold EngineState.insertAbandoned
      split <;> exact .of_eq rfl rfl
  | submitDisconnect t accepted => exact h.told_submitDisconnect accepted
  | expire index id' => exact .of_eq rfl rfl
  | removeExpired index =>
      dsimp only [EngineState.next]
      unfold EngineState.removeExpired
      split
      next id' _ =>
        -- `RemoveIf` tells nobody: what it leaves to tell is submitted in the next step of the tick
        cases hremove : s.removeIf id' (·.changeSessionState .Wait .Closed) with
        | mk s₁ success =>
            cases success with
            | true =>
                obtain ⟨_, _, rfl⟩ := removeIf_of_success hremove
                exact .of_eq rfl rfl
            | false =>
                rcases removeIf_of_failure hremove with ⟨_, _, rfl⟩ | ⟨_, rfl⟩
                · exact .of_eq rfl rfl
                · exact .of_eq rfl rfl
      next => exact .of_eq rfl rfl
  | submitExpired index accepted => exact told_submitExpired index accepted
  | idleSocket index t => exact .of_eq rfl rfl
  | idleSession index id' => exact (Told.closeSession id').trans (.of_eq rfl rfl)
  | send id' => exact .of_eq rfl rfl
  | closeSession id' => exact .closeSession id'
  | disconnectSession id' =>
      dsimp only [EngineState.next]
      unfold EngineState.disconnectSession
      split <;> exact .of_eq rfl rfl
  | dispatch => exact absurd rfl hdispatch
  | release =>
      dsimp only [EngineState.next]
      unfold EngineState.release
      split
      next => exact .of_eq rfl rfl
      next =>
        dsimp only
        split <;> exact .of_eq rfl rfl
  | recycle id' =>
      -- another session goes back to the pool
      refine .of_eq rfl (Function.update_of_ne ?_ _ _)
      rintro rfl
      exact hrecycle rfl

theorem log_dispatch : s.dispatch.log = s.log := by
  unfold EngineState.dispatch
  split
  next => rfl
  next context hup =>
    obtain ⟨queue, chain, heq, _⟩ := takeContext_eq hup
    rw [heq]
    dsimp only
    split <;> rfl

/-- Over a run in which the session does not return to the pool, its milestones go on with what is
submitted about it. -/
theorem Sound.log_run {events : List EngineEvent} (h : s.Sound option)
    (hrun : (engine option).Run s events s') (hkept : EngineEvent.recycle id ∉ events) :
    (s'.log id).filterMap Milestone.context =
      (s.log id).filterMap Milestone.context ++ tidings id (submissions option s events) := by
  induction hrun with
  | nil s =>
      simp [submissions]
  | @cons s s₁ s' e events hstep _ ih =>
      obtain ⟨henabled, rfl⟩ := hstep
      have hsound₁ : (s.next option e).Sound option := h.next henabled
      have hrest := ih hsound₁ fun hmem => hkept (List.mem_cons_of_mem _ hmem)
      rw [hrest, submissions, tidings_append, ← List.append_assoc]
      refine congrArg (· ++ _) ?_
      by_cases hdispatch : e = .dispatch
      · -- the worker takes contexts, and nothing is noted
        subst hdispatch
        simp [EngineState.next, log_dispatch]
      · have htold : Told s (s.next option e) id :=
          h.told_next hdispatch fun heq => hkept (heq ▸ List.mem_cons_self)
        obtain ⟨chains, hqueue, hlog⟩ := htold
        rw [hlog, if_neg hdispatch, hqueue, List.drop_left]

end Told

section Resolved

variable {option : NetworkEngineOption} {s : EngineState}

theorem count_sessionClosed (milestones : List Milestone) :
    (milestones.filterMap Milestone.context).count .SessionClosed =
      milestones.countP Milestone.isClosing := by
  induction milestones with
  | nil =>
      rfl
  | cons m milestones ih =>
      cases m <;>
        simp [List.filterMap_cons, List.countP_cons, Milestone.context, Milestone.isClosing, ih]

/-- Between two times that a session is abandoned, and after the last, at most one `SessionAlived` or
`SessionClosed` is submitted for the abandoned session; and from `Pop` on at most one `SessionClosed`.
The record is that of the contexts: in a run from a state without milestones, in which the session
stays out of the pool, they are what is submitted about it, with at most one `SessionClosed`. -/
theorem resolved_at_most_once (h : (engine option).Reachable s) (id : Nat) :
    (∀ pre post, s.log id = pre ++ Milestone.abandoned :: post →
      (post.takeWhile (· ≠ Milestone.abandoned)).countP Milestone.isResolution ≤ 1) ∧
    (s.log id).countP Milestone.isClosing ≤ 1 ∧
    ∀ s₀ events, (engine option).Reachable s₀ → s₀.log id = [] → (engine option).Run s₀ events s →
      EngineEvent.recycle id ∉ events →
      tidings id (submissions option s₀ events) = (s.log id).filterMap Milestone.context ∧
        (tidings id (submissions option s₀ events)).count .SessionClosed ≤ 1 := by
  obtain ⟨p, hp⟩ := (sound_of_reachable h).placed id
  have hclosing := hp.wellFormed.countP_isClosing
  refine ⟨fun pre post hlog => hp.wellFormed.countP_isResolution hlog, hclosing, ?_⟩
  intro s₀ events h₀ hnone hrun hkept
  have htidings : (s.log id).filterMap Milestone.context = tidings id (submissions option s₀ events) := by
    simpa [hnone] using (sound_of_reachable h₀).log_run hrun hkept
  rw [← htidings, count_sessionClosed]
  exact ⟨rfl, hclosing⟩

end Resolved

end EngineState

namespace Sample

/-- The first session is abandoned, taken up again and closed. -/
def revived : List EngineEvent :=
  opening (.acceptor 1) ++ losing (.acceptor 1) ++ handling ++ handling ++
    [.accept (.acceptor 3), .read (.acceptor 3),
      .packet (.acceptor 3) { packet := .sessionAuthRq 1 key } {}, .flush (.acceptor 3) true,
      .finishRead (.acceptor 3), .closeSession 1, .disconnect (.acceptor 3),
      .submitDisconnect (.acceptor 3) true]

end Sample

open EngineState Sample in
theorem resolved_once_revived :
    (after revived).log 1 = [.abandoned, .alived, .disconnected] ∧
      (∀ pre post, (after revived).log 1 = pre ++ Milestone.abandoned :: post →
        (post.takeWhile (· ≠ Milestone.abandoned)).countP Milestone.isResolution ≤ 1) ∧
      ((after revived).log 1).countP Milestone.isClosing ≤ 1 ∧
      tidings 1 (submissions option (initialized option) revived) =
        [.SessionAlived, .SessionClosed] := by
  have hlog : (after revived).log 1 = [.abandoned, .alived, .disconnected] := by decide +kernel
  obtain ⟨hresolved, hclosing, hsubmitted⟩ :=
    resolved_at_most_once (reachable_after revived) 1
  have hrun : (engine option).Run (initialized option) revived (after revived) := by
    obtain ⟨s, hs⟩ := Option.isSome_iff_exists.1
      (by decide +kernel : (replay revived).isSome = true)
    rw [after, hs]
    exact Machine.Run.of_replay (M := engine option) (fun _ _ henabled => ⟨henabled, rfl⟩) revived hs
  obtain ⟨htidings, -⟩ := hsubmitted _ revived (.init rfl) rfl hrun (by decide)
  refine ⟨hlog, hresolved, hclosing, ?_⟩
  rw [htidings, hlog]
  rfl

end Engine
end SeamlessServer
