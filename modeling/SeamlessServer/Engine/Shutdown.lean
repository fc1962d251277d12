import SeamlessServer.Engine.Authentication
import SeamlessServer.Engine.Streams

/-!
# Engine.Shutdown — graceful and abrupt disconnects

`OnDisconnect` tells them apart by one bit of an attachment, which is a shutdown code, or the id of the
stream if a read of zero bytes came first.  So a reset is taken as graceful on every stream with an odd
id (`toldApart_iff`).
-/

namespace SeamlessServer
namespace Engine

open NetworkEngine (ContextType StreamType errorNone errorSessionIsNotReady)

namespace EngineState

variable {option : NetworkEngineOption} {s : EngineState} {t : SocketStream} {id : Nat}
  {accepted : Bool}

/-! ## The outcomes of a disconnect -/

/-- The session has been abandoned. -/
structure IsAbandoned (option : NetworkEngineOption) (s s' : EngineState) (t : SocketStream)
    (id : Nat) : Prop where
  state : s'.state id = .Abandoned
  listed : id ∈ s'.abandonedSessionList
  worker : id ∈ (s'.workers (option.workerIndex t)).abandonedSessions
  submitted : s'.queue = s.queue ++ [[⟨.SessionAbandoned, id, 0⟩]]

/-- The session has been closed. -/
structure IsClosed (s s' : EngineState) (id : Nat) : Prop where
  state : s'.state id ≠ .Abandoned
  listed : id ∉ s'.abandonedSessionList
  submitted : s'.queue = s.queue ++ [[⟨.SessionClosed, id, 0⟩]]

/-- What the shutdown code is for: a session is abandoned if no one asked for a graceful shutdown of its
stream, and if the peer was gone first; it is closed if a graceful shutdown was asked for first. -/
structure ToldApart (option : NetworkEngineOption) (s : EngineState) (t : SocketStream) (id : Nat)
    (accepted : Bool) : Prop where
  abrupt : .graceful ∉ (s.stream t).requests →
    IsAbandoned option s (s.onDisconnect option t accepted) t id
  graceful : (s.stream t).requests.head? = some .graceful →
    IsClosed s (s.onDisconnect option t accepted) id
  reset : (s.stream t).requests.head? = some .reset →
    IsAbandoned option s (s.onDisconnect option t accepted) t id

/-! ## The steps of a disconnect -/

/-- What `OnDisconnect` does before it comes to the session. -/
theorem reconnect_spec (option : NetworkEngineOption) (s : EngineState) (t : SocketStream) :
    ((s.deactivate option t).reconnect t).sessions = s.sessions ∧
      ((s.deactivate option t).reconnect t).abandonedSessionList = s.abandonedSessionList ∧
      ((s.deactivate option t).reconnect t).queue = s.queue := by
  obtain ⟨connectorList, connecting, lost, hreconnect⟩ := (s.deactivate option t).reconnect_eq t
  rw [hreconnect]
  exact ⟨rfl, rfl, rfl⟩

theorem loseSession_of_closing {attachment : Nat} (hsession : (s.stream t).session = some id)
    (hclosing : ¬ (isGraceful attachment = false ∧ option.useSessionReconnect = true)) :
    s.loseSession option t attachment =
      (s.closeOpened option t id).setStream t
        { s.stream t with link := .submitting .SessionClosed } := by
  unfold loseSession
  split
  next hnone =>
    rw [hsession] at hnone
    cases hnone
  next id' hsome =>
    obtain rfl : id = id' := Option.some.inj (hsession.symm.trans hsome)
    exact if_neg hclosing

theorem loseSession_of_abandoning {attachment : Nat} (hsession : (s.stream t).session = some id)
    (habandoning : isGraceful attachment = false ∧ option.useSessionReconnect = true)
    (hopened : s.state id = .Opened) :
    s.loseSession option t attachment =
      ((s.setSession id { s.sessions id with sessionState := .Abandoned }).note id
        .abandoned).setStream t { s.stream t with link := .abandoning } := by
  have hchange : (s.sessions id).changeSessionState .Opened .Abandoned =
      ({ s.sessions id with sessionState := .Abandoned }, true) := if_pos hopened
  unfold loseSession
  split
  next hnone =>
    rw [hsession] at hnone
    cases hnone
  next id' hsome =>
    obtain rfl : id = id' := Option.some.inj (hsession.symm.trans hsome)
    rw [if_pos habandoning, hchange]

theorem insertAbandoned_spec (option : NetworkEngineOption)
    (hsession : (s.stream t).session = some id) :
    (s.insertAbandoned option t).sessions = s.sessions ∧
      (s.insertAbandoned option t).abandonedSessionList = insert id s.abandonedSessionList ∧
      id ∈ ((s.insertAbandoned option t).workers (option.workerIndex t)).abandonedSessions ∧
      (s.insertAbandoned option t).queue = s.queue ∧
      ((s.insertAbandoned option t).stream t).link = .submitting .SessionAbandoned ∧
      ((s.insertAbandoned option t).stream t).session = some id := by
  unfold insertAbandoned
  split
  next hnone =>
    rw [hsession] at hnone
    cases hnone
  next id' hsome =>
    obtain rfl : id = id' := Option.some.inj (hsession.symm.trans hsome)
    dsimp only
    rw [stream_setStream, if_pos rfl]
    refine ⟨rfl, rfl, ?_, rfl, rfl, hsession⟩
    simp [setStream, closeOpened, setWorker]

theorem submitDisconnect_spec {contextType : ContextType}
    (hlink : (s.stream t).link = .submitting contextType)
    (hsession : (s.stream t).session = some id) (accepted : Bool) :
    (s.submitDisconnect t accepted).sessions = s.sessions ∧
      (s.submitDisconnect t accepted).abandonedSessionList = s.abandonedSessionList ∧
      (s.submitDisconnect t accepted).workers = s.workers ∧
      (s.submitDisconnect t accepted).queue =
        if accepted then s.queue ++ [[⟨contextType, id, 0⟩]] else s.queue := by
  unfold submitDisconnect
  rw [hlink, hsession]
  dsimp only
  cases accepted with
  | true =>
      by_cases htype : contextType = .SessionClosed
      · simp only [htype, and_self, if_true]
        exact ⟨rfl, rfl, rfl, rfl⟩
      · simp only [htype, and_false, if_false]
        exact ⟨rfl, rfl, rfl, rfl⟩
  | false =>
      obtain ⟨streams, hclose⟩ := s.closeSession_eq id
      simp only [sendSocketContext, Bool.false_eq_true, false_and, if_false, hclose]
      exact ⟨rfl, rfl, rfl, rfl⟩

/-- `OnDisconnect` of a stream whose session it closes. -/
theorem onDisconnect_of_closing (option : NetworkEngineOption) {attachment : Nat}
    (hsession : (s.stream t).session = some id)
    (hlink : (s.stream t).link = .disconnecting attachment)
    (hclosing : ¬ (isGraceful attachment = false ∧ option.useSessionReconnect = true))
    (accepted : Bool) :
    (s.onDisconnect option t accepted).state id = s.state id ∧
      (s.onDisconnect option t accepted).abandonedSessionList = s.abandonedSessionList ∧
      (s.onDisconnect option t accepted).queue =
        if accepted then s.queue ++ [[⟨.SessionClosed, id, 0⟩]] else s.queue := by
  let s₁ := (s.deactivate option t).reconnect t
  obtain ⟨hsessions₁, hlist₁, hqueue₁⟩ := reconnect_spec option s t
  have hself₁ : s₁.stream t = s.stream t := stream_reconnect _ t t
  let s₂ := (s₁.closeOpened option t id).setStream t
    { s₁.stream t with link := .submitting .SessionClosed }
  -- the loss of the session decides at once, and the second half only submits
  have hbegin : s.beginDisconnect option t = s₂ := by
    unfold beginDisconnect
    rw [hlink]
    exact loseSession_of_closing ((congrArg Stream.session hself₁).trans hsession) hclosing
  have hself : s₂.stream t = { s₁.stream t with link := .submitting .SessionClosed } :=
    (stream_setStream _ t t _).trans (if_pos rfl)
  have hnot : (s₂.stream t).link ≠ .abandoning := by
    rw [hself]
    exact fun heq => by cases heq
  have hend : s.onDisconnect option t accepted = s₂.submitDisconnect t accepted := by
    unfold onDisconnect
    rw [hbegin]
    dsimp only
    rw [if_neg hnot]
  have hsession₂ : (s₂.stream t).session = some id := by
    rw [hself, hself₁]
    exact hsession
  obtain ⟨hsessions, hlist, _, hqueue⟩ :=
    submitDisconnect_spec (congrArg Stream.link hself) hsession₂ accepted
  rw [hend]
  refine ⟨?_, hlist.trans hlist₁, ?_⟩
  · exact congrArg (fun f => (f id).sessionState) (hsessions.trans hsessions₁)
  · have hqueue₂ : s₂.queue = s.queue := hqueue₁
    rw [hqueue, hqueue₂]

/-- `OnDisconnect` of a stream whose session it abandons. -/
theorem onDisconnect_of_abandoning {attachment : Nat} (hsession : (s.stream t).session = some id)
    (hlink : (s.stream t).link = .disconnecting attachment)
    (habandoning : isGraceful attachment = false ∧ option.useSessionReconnect = true)
    (hopened : s.state id = .Opened) (accepted : Bool) :
    (s.onDisconnect option t accepted).state id = .Abandoned ∧
      (s.onDisconnect option t accepted).abandonedSessionList =
        insert id s.abandonedSessionList ∧
      id ∈ ((s.onDisconnect option t accepted).workers (option.workerIndex t)).abandonedSessions ∧
      (s.onDisconnect option t accepted).queue =
        if accepted then s.queue ++ [[⟨.SessionAbandoned, id, 0⟩]] else s.queue := by
  let s₁ := (s.deactivate option t).reconnect t
  obtain ⟨hsessions₁, hlist₁, hqueue₁⟩ := reconnect_spec option s t
  have hself₁ : s₁.stream t = s.stream t := stream_reconnect _ t t
  have hopened₁ : s₁.state id = .Opened := by
    unfold state
    rw [hsessions₁]
    exact hopened
  let s₂ := ((s₁.setSession id { s₁.sessions id with sessionState := .Abandoned }).note id
    .abandoned).setStream t { s₁.stream t with link := .abandoning }
  -- here the state is changed before the session is listed, and told last of all
  have hbegin : s.beginDisconnect option t = s₂ := by
    unfold beginDisconnect
    rw [hlink]
    exact loseSession_of_abandoning ((congrArg Stream.session hself₁).trans hsession) habandoning
      hopened₁
  have hself₂ : s₂.stream t = { s₁.stream t with link := .abandoning } :=
    (stream_setStream _ t t _).trans (if_pos rfl)
  have hsession₂ : (s₂.stream t).session = some id := by
    rw [hself₂, hself₁]
    exact hsession
  let s₃ := s₂.insertAbandoned option t
  obtain ⟨hsessions₃, hlist₃, hworker₃, hqueue₃, hlink₃, hsession₃⟩ :=
    insertAbandoned_spec option hsession₂
  have hend : s.onDisconnect option t accepted = s₃.submitDisconnect t accepted := by
    unfold onDisconnect
    rw [hbegin]
    dsimp only
    rw [if_pos (congrArg Stream.link hself₂)]
  obtain ⟨hsessions, hlist, hworkers, hqueue⟩ :=
    submitDisconnect_spec hlink₃ hsession₃ accepted
  rw [hend]
  refine ⟨?_, ?_, ?_, ?_⟩
  · have hstate₂ : s₂.state id = .Abandoned := (state_setSession s₁ id id _).trans (if_pos rfl)
    exact (congrArg (fun f => (f id).sessionState) (hsessions.trans hsessions₃)).trans hstate₂
  · have hlist₂ : s₂.abandonedSessionList = s.abandonedSessionList := hlist₁
    rw [hlist, hlist₃, hlist₂]
  · rw [hworkers]
    exact hworker₃
  · have hqueue₂ : s₂.queue = s.queue := hqueue₁
    rw [hqueue, hqueue₃, hqueue₂]

/-! ## Telling them apart -/

section Outcomes

variable {attachment : Nat}

/-- The session of a connection is not in the list. -/
theorem Sound.not_listed (h : s.Sound option) (hsession : (s.stream t).session = some id)
    (hlink : (s.stream t).link = .disconnecting attachment) : id ∉ s.abandonedSessionList := by
  have hp := h.attached_of_live hsession (by rw [hlink]; rfl)
  exact hp.not_mem_list (by simp) (by simp)

theorem Sound.isClosed_iff (h : s.Sound option) (hsession : (s.stream t).session = some id)
    (hlink : (s.stream t).link = .disconnecting attachment)
    (hgraceful : isGraceful attachment = true) (accepted : Bool) :
    IsClosed s (s.onDisconnect option t accepted) id ↔ accepted = true := by
  have hopened : s.state id = .Opened :=
    (h.attached_of_live hsession (by rw [hlink]; rfl)).state
  obtain ⟨hstate, hlist, hqueue⟩ := onDisconnect_of_closing option hsession hlink
    (by simp [hgraceful]) accepted
  constructor
  · intro hclosed
    by_contra hrefused
    have hsame := hqueue.symm.trans hclosed.submitted
    simp [hrefused] at hsame
  · intro haccepted
    refine ⟨?_, ?_, ?_⟩
    · rw [hstate, hopened]
      exact fun heq => by cases heq
    · rw [hlist]
      exact h.not_listed hsession hlink
    · rw [hqueue, if_pos haccepted]

theorem Sound.isAbandoned_iff (h : s.Sound option) (hsession : (s.stream t).session = some id)
    (hlink : (s.stream t).link = .disconnecting attachment)
    (hreconnect : option.useSessionReconnect = true) (accepted : Bool) :
    IsAbandoned option s (s.onDisconnect option t accepted) t id ↔
      isGraceful attachment = false ∧ accepted = true := by
  have hopened : s.state id = .Opened :=
    (h.attached_of_live hsession (by rw [hlink]; rfl)).state
  cases hgraceful : isGraceful attachment with
  | true =>
      obtain ⟨hstate, _, _⟩ := onDisconnect_of_closing option hsession hlink
        (by simp [hgraceful]) accepted
      constructor
      · intro habandoned
        have hsame := hstate.symm.trans habandoned.state
        rw [hopened] at hsame
        cases hsame
      · rintro ⟨hfalse, _⟩
        cases hfalse
  | false =>
      obtain ⟨hstate, hlist, hworker, hqueue⟩ :=
        onDisconnect_of_abandoning hsession hlink ⟨hgraceful, hreconnect⟩ hopened accepted
      constructor
      · intro habandoned
        refine ⟨rfl, ?_⟩
        by_contra hrefused
        have hsame := hqueue.symm.trans habandoned.submitted
        simp [hrefused] at hsame
      · rintro ⟨_, haccepted⟩
        refine ⟨hstate, ?_, hworker, ?_⟩
        · rw [hlist]
          exact Finset.mem_insert_self id _
        · rw [hqueue, if_pos haccepted]

end Outcomes

/-- Graceful and abrupt disconnects are told apart if the worker takes the context, unless a peer reset
is seen on a stream with an odd id.  When `Disconnect` was called first and a graceful shutdown asked for
later, there is nothing to tell. -/
theorem toldApart_iff (h : (engine option).Reachable s)
    (hreconnect : option.useSessionReconnect = true)
    (henabled : s.Enabled option (.disconnect t)) (hsession : (s.stream t).session = some id)
    (accepted : Bool) :
    ToldApart option s t id accepted ↔
      (accepted = true ∧
        ¬ ((s.stream t).requests.head? = some .reset ∧ t.id % 2 = 1)) ∨
      ((s.stream t).requests.head? = some .abrupt ∧ .graceful ∈ (s.stream t).requests) := by
  have hsound := sound_of_reachable h
  obtain ⟨attachment, hlink⟩ : ∃ attachment, (s.stream t).link = .disconnecting attachment := by
    have hdisconnecting := henabled.2
    cases hlink : (s.stream t).link with
    | disconnecting attachment => exact ⟨attachment, rfl⟩
    | _ => simp [hlink, Link.isDisconnecting] at hdisconnecting
  have hattributed := attributed_of_reachable h t
  obtain ⟨requester, hhead, hsends⟩ := hattributed.winner attachment hlink
  have habandoned := hsound.isAbandoned_iff hsession hlink hreconnect accepted
  have hmem : requester ∈ (s.stream t).requests := List.mem_of_mem_head? hhead
  cases requester with
  | graceful =>
      obtain rfl : attachment = 1 := hsends
      have hclosed := hsound.isClosed_iff hsession hlink rfl accepted
      simp only [hhead, Option.some.injEq, reduceCtorEq, false_and, not_false_eq_true, and_true,
        or_false]
      constructor
      · intro htold
        exact hclosed.1 (htold.graceful hhead)
      · intro haccepted
        exact ⟨fun hnone => absurd hmem hnone, fun _ => hclosed.2 haccepted,
          fun hreset => (by rw [hhead] at hreset; cases hreset)⟩
  | abrupt =>
      obtain rfl : attachment = 0 := hsends
      simp only [hhead, Option.some.injEq, reduceCtorEq, false_and, not_false_eq_true, and_true,
        true_and]
      constructor
      · intro htold
        by_cases hgraceful : .graceful ∈ (s.stream t).requests
        · exact .inr hgraceful
        · exact .inl (habandoned.1 (htold.abrupt hgraceful)).2
      · intro hwhen
        refine ⟨fun hnone => ?_, fun hfirst => ?_, fun hfirst => ?_⟩
        · rcases hwhen with haccepted | hgraceful
          · exact habandoned.2 ⟨rfl, haccepted⟩
          · exact absurd hgraceful hnone
        · rw [hhead] at hfirst
          cases hfirst
        · rw [hhead] at hfirst
          cases hfirst
  | reset =>
      obtain rfl : attachment = t.id := hsends
      simp only [hhead, Option.some.injEq, reduceCtorEq, false_and, or_false, true_and]
      have hcode : isGraceful t.id = false ↔ ¬ t.id % 2 = 1 := by
        simp [isGraceful]
      constructor
      · intro htold
        obtain ⟨hgraceful, haccepted⟩ := habandoned.1 (htold.reset hhead)
        exact ⟨haccepted, hcode.1 hgraceful⟩
      · rintro ⟨haccepted, heven⟩
        have hdone := habandoned.2 ⟨hcode.2 heven, haccepted⟩
        exact ⟨fun _ => hdone, fun hfirst => (by rw [hhead] at hfirst; cases hfirst), fun _ => hdone⟩
  | unknownConnector =>
      -- such a connection never gets a session
      have hunused := hattributed.unknown hhead
      rw [hunused.session] at hsession
      cases hsession

end EngineState

open EngineState Sample in
/-- The peer of the stream with the id 1 is gone.  Nobody has asked for a graceful shutdown, and the
session is closed. -/
theorem reset_taken_as_graceful :
    let s := after (opening (.acceptor 0) ++ [.zeroRead (.acceptor 0)])
    (engine option).Reachable s ∧ option.useSessionReconnect = true ∧
      (s.stream (.acceptor 0)).session = some 1 ∧ s.Enabled option (.disconnect (.acceptor 0)) ∧
      (s.stream (.acceptor 0)).requests = [.reset] ∧ ¬ ToldApart option s (.acceptor 0) 1 true ∧
      IsClosed s (s.onDisconnect option (.acceptor 0) true) 1 := by
  intro s
  have hopened : (s.onDisconnect option (.acceptor 0) true).state 1 = .Opened := by decide +kernel
  have hrequests : (s.stream (.acceptor 0)).requests = [.reset] := by decide +kernel
  refine ⟨reachable_after _, rfl, by decide +kernel, by decide +kernel, hrequests, ?_,
    by decide +kernel, by decide +kernel, by decide +kernel⟩
  -- the odd id of the stream in the attachment reads as a graceful shutdown
  intro htold
  have habandoned := (htold.reset (by rw [hrequests]; rfl)).state
  rw [hopened] at habandoned
  cases habandoned

open EngineState Sample in
/-- The peer of the stream with the id 2 is gone. -/
theorem reset_told_apart :
    let s := after (opening (.acceptor 1) ++ [.zeroRead (.acceptor 1)])
    ToldApart option s (.acceptor 1) 1 true := by
  intro s
  exact (toldApart_iff (reachable_after _) rfl (by decide +kernel) (by decide +kernel) true).2
    (.inl ⟨rfl, by decide +kernel⟩)

end Engine
end SeamlessServer
