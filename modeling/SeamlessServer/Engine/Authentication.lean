import SeamlessServer.Engine.Reconnect

/-!
# Engine.Authentication — requests to take up an abandoned session

What `packet_session_auth_rq` does to an abandoned session.  `RemoveIf` changes the state of the
session whether the key is right or not, so a wrong key takes a waiting session out of the state
`Wait` and leaves it in the list (`attempt_survived_iff`); and no request is ever answered with a
`packet_session_auth_rs` (`request_unanswered`).
-/

namespace SeamlessServer
namespace Engine

open NetworkEngine (ContextType StreamType errorNone errorSessionIsNotReady)

/-! ## The sample engine -/

namespace Sample

/-- Two sessions, one worker, and session reconnect enabled. -/
def option : NetworkEngineOption where
  useSessionReconnect := true
  maxSessionCount := 2
  workerCount := 1
  workerCount_pos := by decide

def key : SessionKey := Vector.replicate 64 7

/-- The engine after some events, each of which can happen. -/
def replay (events : List EngineEvent) : Option EngineState :=
  Machine.replay (fun s e => s.Enabled option e) (fun s e => s.next option e)
    (EngineState.initialized option) events

/-- The engine after some events that can happen. -/
def after (events : List EngineEvent) : EngineState :=
  (replay events).getD (EngineState.initialized option)

theorem reachable_after (events : List EngineEvent) : (engine option).Reachable (after events) :=
  Machine.Reachable.replay_getD (M := engine option) (fun _ _ henabled => ⟨henabled, rfl⟩) events
    (.init rfl)

/-- The events of a run that meets a condition. -/
theorem reachable_restrict {cond : EngineState → EngineEvent → Prop}
    [∀ s e, Decidable (cond s e)] {events : List EngineEvent}
    (h : (Machine.replay (fun s e => cond s e ∧ s.Enabled option e) (fun s e => s.next option e)
      (EngineState.initialized option) events).isSome = true) :
    ((engine option).restrict cond).Reachable (after events) :=
  Machine.Reachable.replay_restrict (M := engine option) (fun _ _ henabled => ⟨henabled, rfl⟩)
    (.init rfl) h

/-- A stream is accepted, and opens the first session. -/
def opening (t : SocketStream) : List EngineEvent :=
  [.accept t, .read t, .packet t { packet := .sessionCreateRq } { pop := some 1, key },
    .flush t true, .finishRead t]

/-- The peer of a stream is gone. -/
def losing (t : SocketStream) : List EngineEvent :=
  [.zeroRead t, .disconnect t, .insertAbandoned t, .submitDisconnect t true]

/-- The worker handles a context. -/
def handling : List EngineEvent := [.dispatch, .release]

/-- The first session has been abandoned by its stream, and waits. -/
def waiting : EngineState :=
  after (opening (.acceptor 1) ++ losing (.acceptor 1) ++ handling ++ handling)

end Sample

/-! ## Attempts -/

/-- A `packet_session_auth_rq` on a stream. -/
structure Attempt where
  stream : SocketStream
  sessionId : Nat
  sessionKey : SessionKey
  answers : Answers := {}

namespace EngineState

variable (option : NetworkEngineOption)

def processAttempt (s : EngineState) (a : Attempt) : Processed :=
  s.processSessionPacket option a.stream { packet := .sessionAuthRq a.sessionId a.sessionKey }
    a.answers

/-- The engine after some attempts. -/
def attempts (s : EngineState) (l : List Attempt) : EngineState :=
  l.foldl (fun s a => (s.processAttempt option a).state) s

/-- The session is as it was: its state and its place in the list are the same, its key takes it up
again if it did before, and the timeout closes it if it did before. -/
structure Survives (s s' : EngineState) (id : Nat) : Prop where
  state : s'.state id = s.state id
  listed : id ∈ s'.abandonedSessionList ↔ id ∈ s.abandonedSessionList
  revived : ∀ a : Attempt, a.sessionId = id → a.sessionKey = (s.sessions id).sessionKey →
    (s'.processAttempt option a).contextType = (s.processAttempt option a).contextType
  closed : (s'.removeIf id (·.changeSessionState .Wait .Closed)).2 =
    (s.removeIf id (·.changeSessionState .Wait .Closed)).2

variable {option}

section Attempt

variable {s : EngineState} {a : Attempt} {id : Nat}

/-- The outcomes of a request: the session is revived, or it is refused. -/
theorem processAttempt_cases (option : NetworkEngineOption) (s : EngineState) (a : Attempt) :
    (∃ s', s.removeIf a.sessionId (·.authenticate a.sessionKey) = (s', true) ∧
      s.processAttempt option a =
        { state := s'.revive option a.stream a.sessionId, contextType := .SessionAlived }) ∨
    ∃ s' errorCode, s.removeIf a.sessionId (·.authenticate a.sessionKey) = (s', false) ∧
      s.processAttempt option a =
        { state := s'
          writes :=
            [⟨a.stream, .sessionAuthRq a.answers.unset.1 a.answers.unset.2, errorCode⟩] } := by
  simp only [processAttempt, processSessionPacket, not_true_eq_false, if_false]
  cases h : s.removeIf a.sessionId (·.authenticate a.sessionKey) with
  | mk s' success =>
      cases success with
      | true =>
          exact .inl ⟨s', rfl, rfl⟩
      | false =>
          exact .inr ⟨s', _, rfl, rfl⟩

/-- Exactly the key of a listed session that waits takes it up again. -/
theorem processAttempt_contextType :
    (s.processAttempt option a).contextType =
      if a.sessionId ∈ s.abandonedSessionList ∧ (s.sessions a.sessionId).sessionKey = a.sessionKey ∧
          s.state a.sessionId = .Wait then .SessionAlived
      else .SessionError := by
  have hsuccess := s.removeIf_success a.sessionId (·.authenticate a.sessionKey)
  rw [SocketSession.authenticate_success] at hsuccess
  rcases s.processAttempt_cases option a with ⟨s', h, heq⟩ | ⟨s', _, h, heq⟩
  · rw [h] at hsuccess
    have hall := hsuccess.symm
    simp only [Bool.and_eq_true, decide_eq_true_eq] at hall
    rw [heq]
    exact (if_pos hall).symm
  · rw [h] at hsuccess
    rw [heq, if_neg]
    rintro ⟨hlisted, hkey, hwait⟩
    have hwait' : (s.sessions a.sessionId).sessionState = .Wait := hwait
    simp [hlisted, hkey, hwait'] at hsuccess

/-- A wrong key changes nothing but the state of a waiting session. -/
theorem state_processAttempt (hkey : a.sessionKey ≠ (s.sessions a.sessionId).sessionKey) :
    (s.processAttempt option a).state =
      if a.sessionId ∈ s.abandonedSessionList then
        s.setSession a.sessionId ((s.sessions a.sessionId).changeSessionState .Wait .Opened).1
      else s := by
  rcases s.processAttempt_cases option a with ⟨s', h, heq⟩ | ⟨s', _, h, heq⟩
  · have hright := (removeIf_of_success h).2.1
    simp [SocketSession.authenticate_success, Ne.symm hkey] at hright
  · rw [heq]
    rcases removeIf_of_failure h with ⟨hlisted, _, rfl⟩ | ⟨hlisted, rfl⟩
    · simp [hlisted]
    · simp [hlisted]

/-- What a wrong key leaves of every session. -/
theorem processAttempt_session (hkey : a.sessionKey ≠ (s.sessions a.sessionId).sessionKey) :
    (((s.processAttempt option a).state.sessions id).sessionKey = (s.sessions id).sessionKey ∧
      (s.processAttempt option a).state.abandonedSessionList = s.abandonedSessionList) ∧
    (s.processAttempt option a).state.state id =
      if a.sessionId = id ∧ id ∈ s.abandonedSessionList ∧ s.state id = .Wait then .Opened
      else s.state id := by
  rw [state_processAttempt hkey]
  by_cases hlisted : a.sessionId ∈ s.abandonedSessionList
  · simp only [hlisted, if_true]
    by_cases hid : id = a.sessionId
    · subst hid
      refine ⟨⟨?_, rfl⟩, ?_⟩
      · simp [setSession]
      · rw [state_setSession, if_pos rfl, SocketSession.changeSessionState_state]
        simp [hlisted, state]
    · refine ⟨⟨?_, rfl⟩, ?_⟩
      · simp [setSession, hid]
      · simp [state_setSession, hid, Ne.symm hid]
  · simp only [hlisted, if_false, true_and]
    refine (if_neg ?_).symm
    rintro ⟨rfl, h, _⟩
    exact hlisted h

end Attempt

/-! ## Failed attempts -/

section Failed

variable {s : EngineState} {l : List Attempt} {id : Nat}

/-- Attempts with wrong keys change no key and no entry of the list, and the state of a session only
if they name it while it waits. -/
theorem attempts_failed (hkey : ∀ a ∈ l, a.sessionKey ≠ (s.sessions a.sessionId).sessionKey) :
    (((s.attempts option l).sessions id).sessionKey = (s.sessions id).sessionKey ∧
      (s.attempts option l).abandonedSessionList = s.abandonedSessionList) ∧
    (s.attempts option l).state id =
      if (∃ a ∈ l, a.sessionId = id) ∧ id ∈ s.abandonedSessionList ∧ s.state id = .Wait then .Opened
      else s.state id := by
  induction l generalizing s with
  | nil =>
      simp [attempts]
  | cons a l ih =>
      have hfirst := fun i =>
        @processAttempt_session option s a i (hkey a List.mem_cons_self)
      -- the keys are those of the start, so the remaining attempts are wrong as well
      have hrest : ∀ b ∈ l, b.sessionKey ≠
          ((s.processAttempt option a).state.sessions b.sessionId).sessionKey := by
        intro b hb
        rw [(hfirst b.sessionId).1.1]
        exact hkey b (List.mem_cons_of_mem _ hb)
      have hlater := ih hrest
      have hfold : s.attempts option (a :: l) =
          (s.processAttempt option a).state.attempts option l := rfl
      rw [hfold, hlater.1.1, hlater.1.2, hlater.2, (hfirst id).1.1, (hfirst id).1.2, (hfirst id).2]
      refine ⟨⟨rfl, rfl⟩, ?_⟩
      by_cases hwait : id ∈ s.abandonedSessionList ∧ s.state id = .Wait
      · by_cases ha : a.sessionId = id
        · simp [hwait, ha]
        · simp [hwait, ha]
      · have hnot : ∀ p : Prop, ¬ (p ∧ id ∈ s.abandonedSessionList ∧ s.state id = .Wait) :=
          fun p h => hwait h.2
        simp [hnot]

/-- Attempts with wrong keys leave a session alone exactly if it does not wait or none of them names
it. -/
theorem attempts_survived_iff (hlisted : id ∈ s.abandonedSessionList)
    (hkey : ∀ a ∈ l, a.sessionKey ≠ (s.sessions a.sessionId).sessionKey) :
    Survives option s (s.attempts option l) id ↔
      (s.state id = .Wait → ∀ a ∈ l, a.sessionId ≠ id) := by
  obtain ⟨⟨hsame, hlist⟩, hstate⟩ := @attempts_failed option s l id hkey
  constructor
  -- an attempt for the waiting session opens it although its key is wrong
  · intro h hwait a ha hid
    have hopened := h.state
    rw [hstate, if_pos ⟨⟨a, ha, hid⟩, hlisted, hwait⟩, hwait] at hopened
    cases hopened
  -- no attempt changes the state of a session that does not wait
  · intro h
    have hunchanged : (s.attempts option l).state id = s.state id := by
      rw [hstate, if_neg]
      rintro ⟨⟨a, ha, hid⟩, _, hwait⟩
      exact h hwait a ha hid
    refine ⟨hunchanged, by rw [hlist], ?_, ?_⟩
    · rintro a rfl _
      rw [processAttempt_contextType, processAttempt_contextType, hlist, hsame, hunchanged]
    · have hstate' : ((s.attempts option l).sessions id).sessionState =
          (s.sessions id).sessionState := hunchanged
      simp only [removeIf_success, SocketSession.changeSessionState_success, hlist, hstate']

end Failed

end EngineState

/-! ## A wrong key -/

open EngineState Sample in
/-- A session waits to be taken up again.  A request with another key puts it in the state `Opened`:
now its own key is refused, and no worker will close it. -/
theorem wrong_key_revokes_session :
    let wrong : Attempt := ⟨.acceptor 0, 1, emptySessionKey, {}⟩
    let right : Attempt := ⟨.acceptor 0, 1, key, {}⟩
    (engine option).Reachable waiting ∧ 1 ∈ waiting.abandonedSessionList ∧
      waiting.state 1 = .Wait ∧ (waiting.sessions 1).sessionKey = key ∧ key ≠ emptySessionKey ∧
      ¬ Survives option waiting (waiting.attempts option [wrong]) 1 ∧
      (waiting.attempts option [wrong]).state 1 = .Opened ∧
      (waiting.processAttempt option right).contextType = .SessionAlived ∧
      ((waiting.attempts option [wrong]).processAttempt option right).contextType =
        .SessionError ∧
      ∀ index, ¬ (waiting.attempts option [wrong]).Enabled option (.expire index 1) := by
  intro wrong right
  have hopened : (waiting.attempts option [wrong]).state 1 = .Opened := by decide +kernel
  refine ⟨reachable_after _, by decide +kernel, by decide +kernel, by decide +kernel, by decide,
    ?_, hopened, by decide +kernel, by decide +kernel, ?_⟩
  · intro h
    have hwait : waiting.state 1 = .Wait := by decide +kernel
    have hsame := h.state
    rw [hopened, hwait] at hsame
    cases hsame
  -- opened, the session never expires
  · rintro index ⟨_, _, _, hwait⟩
    rw [hopened] at hwait
    cases hwait

open EngineState Sample in
/-- The worker has not yet heard of the abandoned session. -/
theorem attempts_survived_abandoned :
    let s := after (opening (.acceptor 1) ++ losing (.acceptor 1))
    let wrong : Attempt := ⟨.acceptor 0, 1, emptySessionKey, {}⟩
    Survives option s (s.attempts option [wrong, wrong]) 1 := by
  intro s wrong
  refine (attempts_survived_iff (by decide +kernel) ?_).2 ?_
  · have hkey : wrong.sessionKey ≠ (s.sessions 1).sessionKey := by decide +kernel
    simpa using hkey
  · have habandoned : s.state 1 = .Abandoned := by decide +kernel
    simp [habandoned]

/-! ## Answers -/

namespace EngineState

/-- The answer the protocol has for a `packet_session_auth_rq`: one `packet_session_auth_rs` on the same
stream, without error exactly if the session was taken up again, and no request. -/
structure Answered (t : SocketStream) (processed : Processed) : Prop where
  answer : ∃ errorCode, processed.writes.filter
      (fun w => w.stream = t ∧ w.packet = .sessionAuthRs) = [⟨t, .sessionAuthRs, errorCode⟩] ∧
    (errorCode = errorNone ↔ processed.contextType = .SessionAlived)
  noRequest : ∀ w ∈ processed.writes, ∀ id sessionKey, w.packet ≠ .sessionAuthRq id sessionKey

/-- No request is answered: nothing is written if the session is taken up again, and otherwise a
request is. -/
theorem request_unanswered (option : NetworkEngineOption) (s : EngineState) (a : Attempt) :
    ¬ Answered a.stream (s.processAttempt option a) := by
  rintro ⟨⟨errorCode, hanswer, _⟩, _⟩
  rcases s.processAttempt_cases option a with ⟨s', _, heq⟩ | ⟨s', _, _, heq⟩
  · simp [heq] at hanswer
  · simp [heq] at hanswer

end EngineState

open EngineState Sample in
/-- A request for a session that is not there is answered with a request, and so is that request. -/
theorem request_echoed :
    let start := after [.accept (.acceptor 0), .read (.acceptor 0)]
    let first : Attempt := ⟨.acceptor 0, 1, key, { unset := (5, emptySessionKey) }⟩
    let second : Attempt := ⟨.acceptor 0, 5, emptySessionKey, {}⟩
    (engine option).Reachable start ∧ (start.stream (.acceptor 0)).session = none ∧
      ¬ Answered (.acceptor 0) (start.processAttempt option first) ∧
      (start.processAttempt option first).writes =
        [⟨.acceptor 0, .sessionAuthRq 5 emptySessionKey, errorSessionAuthFailed⟩] ∧
      (start.processAttempt option second).writes =
        [⟨.acceptor 0, .sessionAuthRq 0 emptySessionKey, errorSessionAuthFailed⟩] := by
  intro start first second
  have hwrites : (start.processAttempt option first).writes =
      [⟨.acceptor 0, .sessionAuthRq 5 emptySessionKey, errorSessionAuthFailed⟩] := by
    decide +kernel
  refine ⟨reachable_after _, by decide +kernel, ?_, hwrites, by decide +kernel⟩
  -- what goes back is a request, of type and contents
  rintro ⟨⟨errorCode, hanswer, _⟩, _⟩
  simp [hwrites] at hanswer

end Engine
end SeamlessServer
