import SeamlessServer.Engine.Attachment
import SeamlessServer.Engine.SessionPool

/-!
# Engine.Soundness — every session of a reachable engine has its place

The steps after a session packet: contexts are submitted, streams let their sessions go, abandoned
sessions expire, the worker handles what was submitted, and sessions return to the pool.  With those
of `Engine.Attachment` they make every reachable state `Sound` (`sound_of_reachable`).
-/

namespace SeamlessServer
namespace Engine

open NetworkEngine (ContextType StreamType errorNone errorSessionIsNotReady)

namespace EngineState

/-! ## Submitting -/

section Submitting

variable {option : NetworkEngineOption} {s : EngineState} {t : SocketStream} {id : Nat}

theorem pendingAbandoned_queue (s : EngineState) (contexts : List Context) :
    { s with queue := s.queue ++ [contexts] }.pendingAbandoned =
      s.pendingAbandoned ++
        (contexts.filter (·.contextType = .SessionAbandoned)).map Context.session := by
  simp [pendingAbandoned]

/-- Contexts that tell of no abandoned session are submitted. -/
theorem Sound.submit (h : s.Sound option) {contexts : List Context}
    (htypes : ∀ c ∈ contexts, c.contextType ≠ .SessionAbandoned) :
    { s with queue := s.queue ++ [contexts] }.Sound option := by
  have hnil : contexts.filter (·.contextType = .SessionAbandoned) = [] := by
    simpa using htypes
  have hpending : { s with queue := s.queue ++ [contexts] }.pendingAbandoned =
      s.pendingAbandoned := by
    rw [pendingAbandoned_queue, hnil]
    simp
  refine h.of_agree h.streams h.connectors h.ticks (hpending ▸ h.pending) fun id => ?_
  exact .of_streams (fun _ => rfl) Iff.rfl Iff.rfl (fun _ => Iff.rfl) (fun hm => hpending ▸ hm) rfl rfl

/-- A milestone of a session that has a place where it fits. -/
theorem Sound.note (h : s.Sound option) {p : Place} {milestone : Milestone} (hid : id ≠ 0)
    (hp : s.PlacedAt id p) (hfollows : Milestone.Follows (s.log id).getLast? milestone)
    (hlog : (s.note id milestone).LogFits id p) : (s.note id milestone).Sound option := by
  have hself : (s.note id milestone).log id = s.log id ++ [milestone] := Function.update_self _ _ _
  refine h.move h.streams h.connectors h.ticks h.pending hid (fun other hother => ?_) (p := p) ?_
  · exact .of_streams (fun _ => rfl) Iff.rfl Iff.rfl (fun _ => Iff.rfl) (fun hm => hm) rfl
      (Function.update_of_ne hother _ _)
  · refine ⟨hp.pooled, hp.session, hp.attached, hp.leaving, hp.list, hp.listed, hp.expired,
      hp.pending, hp.state.of_eq rfl, ?_, hlog⟩
    rw [hself]
    exact hp.wellFormed.append hfollows

/-- `SessionAlived` is told of a session whose last milestone is that it was abandoned. -/
theorem Sound.noteAlived (h : s.Sound option) (hsession : (s.stream t).session = some id)
    (hlive : (s.stream t).link.isLive = true) (hlast : (s.log id).getLast? = some .abandoned)
    (hcontexts : (s.stream t).contexts = []) : (s.note id .alived).Sound option := by
  have hself : (s.note id .alived).log id = s.log id ++ [.alived] := Function.update_self _ _ _
  refine h.note (h.ne_zero_of_session hsession) (h.attached_of_live hsession hlive) ?_ ⟨?_, ?_⟩
  · rw [hlast]
    trivial
  · intro m hm
    rw [hself, List.getLast?_concat] at hm
    obtain rfl := Option.some.inj hm
    rfl
  · intro htells
    rw [stream_note, Stream.tellsAlived, hcontexts] at htells
    exact absurd rfl htells

/-- The contexts of a read are submitted. -/
theorem Sound.flush (h : s.Sound option) (accepted : Bool) : (s.flush t accepted).Sound option := by
  have hx := h.streams t
  unfold EngineState.flush
  dsimp only
  split
  next =>
    have hcleared : (s.setStream t { s.stream t with contexts := [] }).Sound option := by
      refine h.setStream (.of_contexts_nil rfl hx.reading) rfl (fun _ => .inl rfl) fun htells => ?_
      exact absurd rfl htells
    have hsubmitted := hcleared.submit fun c hc => (hx.types c hc).1
    have hself : (s.setStream t { s.stream t with contexts := [] }).stream t =
        { s.stream t with contexts := [] } := (stream_setStream s t t _).trans (if_pos rfl)
    unfold EngineState.noteAlived
    rcases hx.alived with halived | ⟨c, halived, hsession⟩
    · rw [halived]
      exact hsubmitted
    · -- the read began when the session was revived
      rw [halived]
      have htells : (s.stream t).tellsAlived := by
        rw [Stream.tellsAlived, halived]
        simp
      have hlive : (s.stream t).link.isLive = true := by
        refine hx.reading ?_
        by_contra hreading
        have hnone : (s.stream t).reading = none := by simpa using hreading
        exact hx.not_tellsAlived_of_reading hnone htells
      have hlast := (h.attached_of_live hsession hlive).log.2 htells
      refine hsubmitted.noteAlived (t := t) ?_ ?_ hlast ?_
      · exact (congrArg Stream.session hself).trans hsession
      · exact (congrArg (fun x => x.link.isLive) hself).trans hlive
      · exact congrArg Stream.contexts hself
  next => exact h.abortRead t

end Submitting

/-! ## Disconnecting -/

section OnDisconnect

variable {option : NetworkEngineOption} {s : EngineState} {t : SocketStream} {id : Nat}

theorem follows_of_not_closing {last : Option Milestone} {m : Milestone}
    (hlast : ∀ m, last = some m → m.isClosing = false) (hm : m = .abandoned ∨ m = .disconnected) :
    Milestone.Follows last m := by
  cases last with
  | none =>
      exact hm
  | some l =>
      have hclosing := hlast l rfl
      cases l with
      | abandoned => trivial
      | alived => exact hm
      | expired => cases hclosing
      | disconnected => cases hclosing

/-- Sessions of other streams do not notice a change of this one. -/
theorem Agree.setStream {x : Stream} (hold : (s.stream t).session ≠ some id)
    (hnew : x.session ≠ some id) : Agree s (s.setStream t x) id where
  pool := Iff.rfl
  session := by
    intro t' ht'
    rw [stream_setStream] at ht'
    split at ht'
    · exact absurd ht' hnew
    · exact ht'
  stream := by
    intro t' ht'
    have hne : t' ≠ t := by
      rintro rfl
      exact hold ht'
    rw [stream_setStream, if_neg hne]
    exact ⟨ht', .inl rfl, fun htells => htells⟩
  list := Iff.rfl
  tick := fun _ => Iff.rfl
  pending := fun hm => hm
  state := rfl
  log := rfl

theorem Sound.streams_setStream (h : s.Sound option) {x : Stream} (hx : StreamSound x)
    (t' : SocketStream) : StreamSound ((s.setStream t x).stream t') := by
  rw [stream_setStream]
  split
  · exact hx
  · exact h.streams t'

theorem Sound.reconnect (h : s.Sound option) (t : SocketStream) : (s.reconnect t).Sound option := by
  unfold EngineState.reconnect
  dsimp only
  split
  · split
    · exact h
    next info hinfo =>
      refine h.setConnectors (h.updateConnector ?_)
      rintro i hi
      cases hi
      exact h.connectors _ info hinfo
  · exact h

theorem stream_reconnect (s : EngineState) (t t' : SocketStream) :
    (s.reconnect t).stream t' = s.stream t' := by
  unfold reconnect
  dsimp only
  split
  · split <;> rfl
  · rfl

/-- The attached session becomes abandoned. -/
theorem Sound.abandon (h : s.Sound option) (hsession : (s.stream t).session = some id)
    (hlive : (s.stream t).link.isLive = true) (hreading : (s.stream t).reading = none)
    {y : SocketSession} (hy : y.sessionState = .Abandoned) :
    (((s.setSession id y).note id .abandoned).setStream t
      { s.stream t with link := .abandoning }).Sound option := by
  have hp := h.attached_of_live hsession hlive
  let x : Stream := { s.stream t with link := .abandoning }
  have hxsound : StreamSound x := (h.streams t).of_not_reading hreading rfl rfl
  let s₁ := (s.setSession id y).note id .abandoned
  have hself : (s₁.setStream t x).stream t = x := (stream_setStream _ t t x).trans (if_pos rfl)
  have hlog : s₁.log id = s.log id ++ [.abandoned] := Function.update_self _ _ _
  have hstate : s₁.state id = .Abandoned := ((state_setSession s id id y).trans (if_pos rfl)).trans hy
  change (s₁.setStream t x).Sound option
  refine h.move (h.streams_setStream hxsound) h.connectors h.ticks h.pending
    (h.ne_zero_of_session hsession) (fun other hother => ?_) (p := .leaving t) ?_
  -- another session is at another stream
  · have hne := session_ne_other hsession hother
    refine Agree.trans ?_ (Agree.setStream hne hne)
    exact .of_streams (fun _ => rfl) Iff.rfl Iff.rfl (fun _ => Iff.rfl) (fun hm => hm)
      ((state_setSession s id other y).trans (if_neg hother)) (Function.update_of_ne hother _ _)
  -- from now on the session is leaving, and no list has it yet
  · refine ⟨hp.pooled.trans (by simp), fun t' ht' => ?_, fun t' hq => ?_, fun t' hq => ?_,
      fun hm => ?_, fun hq => ?_, fun index => ?_, fun hm => ?_, hstate, ?_, ?_⟩
    · rw [stream_setStream] at ht'
      split at ht'
      next heq => rw [heq]; exact .inr rfl
      next hne =>
        rcases hp.session t' ht' with hq | hq
        · cases hq
          exact absurd rfl hne
        · cases hq
    · cases hq
    · cases hq
      rw [hself]
      exact ⟨hsession, .inl rfl⟩
    · rcases hp.list hm with hq | ⟨_, hq⟩ <;> cases hq
    · cases hq
    · exact (hp.expired index).trans (by simp)
    · cases (hp.pending hm).1
    · have hwell : Milestone.WellFormed (s₁.log id) := by
        rw [hlog]
        exact hp.wellFormed.append (follows_of_not_closing hp.log.1 (.inl rfl))
      exact hwell
    · have hlast : (s₁.log id).getLast? = some .abandoned := by
        rw [hlog, List.getLast?_concat]
      exact hlast

/-- The attached session is about to be closed. -/
theorem Sound.startClosing (h : s.Sound option) (hsession : (s.stream t).session = some id)
    (hlive : (s.stream t).link.isLive = true) (hreading : (s.stream t).reading = none) :
    (s.setStream t { s.stream t with link := .submitting .SessionClosed }).Sound option := by
  have hp := h.attached_of_live hsession hlive
  let x : Stream := { s.stream t with link := .submitting .SessionClosed }
  have hxsound : StreamSound x := (h.streams t).of_not_reading hreading rfl rfl
  have hself : (s.setStream t x).stream t = x := (stream_setStream _ t t x).trans (if_pos rfl)
  change (s.setStream t x).Sound option
  refine h.move (h.streams_setStream hxsound) h.connectors h.ticks h.pending
    (h.ne_zero_of_session hsession) (fun other hother => ?_) (p := .attached t) ?_
  · have hne := session_ne_other hsession hother
    exact Agree.setStream hne hne
  · refine ⟨hp.pooled, fun t' ht' => ?_, fun t' hq => ?_, fun t' hq => ?_, hp.list, hp.listed,
      hp.expired, hp.pending, hp.state.of_eq rfl, hp.wellFormed, hp.log.1, fun htells => ?_⟩
    · rw [stream_setStream] at ht'
      split at ht'
      next heq => rw [heq]; exact .inl rfl
      next => exact hp.session t' ht'
    · cases hq
      rw [hself]
      exact ⟨hsession, .inr rfl⟩
    · cases hq
    · rw [hself] at htells
      exact hp.log.2 htells

/-- A session whose stream is submitting has left it in one of two ways. -/
theorem Sound.placed_of_submitting (h : s.Sound option) (hsession : (s.stream t).session = some id)
    {contextType : ContextType} (hlink : (s.stream t).link = .submitting contextType) :
    (contextType = .SessionClosed ∧ s.PlacedAt id (.attached t)) ∨
      (contextType = .SessionAbandoned ∧ s.PlacedAt id (.leaving t) ∧
        id ∈ s.abandonedSessionList) := by
  obtain ⟨p, hp⟩ := h.placed id
  rcases hp.session t hsession with rfl | rfl
  · rcases (hp.attached t rfl).2 with hlive | hclosed
    · simp [hlink, Link.isLive] at hlive
    · rw [hlink] at hclosed
      cases hclosed
      exact .inl ⟨rfl, hp⟩
  · rcases (hp.leaving t rfl).2 with habandoning | ⟨habandoned, hlisted⟩
    · simp [hlink] at habandoning
    · rw [hlink] at habandoned
      cases habandoned
      exact .inr ⟨rfl, hp, hlisted⟩

/-- The session is entered in the list. -/
theorem Sound.enterList (h : s.Sound option) (hsession : (s.stream t).session = some id)
    (hlink : (s.stream t).link = .abandoning) :
    ({ s with abandonedSessionList := insert id s.abandonedSessionList }.setStream t
      { s.stream t with link := .submitting .SessionAbandoned }).Sound option := by
  obtain ⟨p, hp⟩ := h.placed id
  obtain rfl : p = .leaving t := by
    rcases hp.session t hsession with rfl | rfl
    · rcases (hp.attached t rfl).2 with hlive | hclosed
      · simp [hlink, Link.isLive] at hlive
      · simp [hlink] at hclosed
    · rfl
  have hreading := (h.streams t).reading_eq_none (by simp [hlink, Link.isLive])
  let x : Stream := { s.stream t with link := .submitting .SessionAbandoned }
  have hxsound : StreamSound x := (h.streams t).of_not_reading hreading rfl rfl
  let s₁ := { s with abandonedSessionList := insert id s.abandonedSessionList }
  have hself : (s₁.setStream t x).stream t = x := (stream_setStream _ t t x).trans (if_pos rfl)
  change (s₁.setStream t x).Sound option
  refine h.move (h.streams_setStream hxsound) h.connectors h.ticks h.pending
    (h.ne_zero_of_session hsession) (fun other hother => ?_) (p := .leaving t) ?_
  · have hne := session_ne_other hsession hother
    refine Agree.trans ?_ (Agree.setStream hne hne)
    exact .of_streams (fun _ => rfl) Iff.rfl (by simp [s₁, hother]) (fun _ => Iff.rfl)
      (fun hm => hm) rfl rfl
  · refine ⟨hp.pooled, fun t' ht' => ?_, fun t' hq => ?_, fun t' hq => ?_, fun _ => .inr ⟨t, rfl⟩,
      fun hq => ?_, hp.expired, hp.pending, hp.state.of_eq rfl, hp.wellFormed, hp.log⟩
    · rw [stream_setStream] at ht'
      split at ht'
      next heq => rw [heq]; exact .inr rfl
      next => exact hp.session t' ht'
    · cases hq
    · cases hq
      rw [hself]
      exact ⟨hsession, .inr ⟨rfl, by simp [s₁, EngineState.setStream]⟩⟩
    · cases hq

/-- The stream lets its session go. -/
theorem Sound.letGo (h : s.Sound option) (hsession : (s.stream t).session = some id)
    {contextType : ContextType} (hlink : (s.stream t).link = .submitting contextType) :
    let s' := s.setStream t { s.stream t with link := .idle, connectorId := 0, session := none }
    s'.Sound option ∧
      ((contextType = .SessionClosed ∧ s'.PlacedAt id .closed) ∨
        (contextType = .SessionAbandoned ∧ s'.PlacedAt id .listed)) := by
  intro s'
  have hreading := (h.streams t).reading_eq_none (by simp [hlink, Link.isLive])
  let x : Stream := { s.stream t with link := .idle, connectorId := 0, session := none }
  have hxsound : StreamSound x := (h.streams t).of_not_reading hreading rfl rfl
  have hagree : ∀ other, other ≠ id → Agree s s' other := by
    intro other hother
    exact Agree.setStream (session_ne_other hsession hother) (by simp)
  -- no other stream has the session
  have halone : ∀ {p : Place}, s.PlacedAt id p → p = .attached t ∨ p = .leaving t →
      ∀ t', (s'.stream t').session ≠ some id := by
    intro p hp hwhere t' ht'
    have hstream : s'.stream t' = if t' = t then x else s.stream t' := stream_setStream _ _ _ _
    rw [hstream] at ht'
    split at ht'
    · cases ht'
    next hne =>
      rcases hp.session t' ht' with rfl | rfl
      · rcases hwhere with ⟨⟨⟩⟩ | ⟨⟨⟩⟩
        exact hne rfl
      · rcases hwhere with ⟨⟨⟩⟩ | ⟨⟨⟩⟩
        exact hne rfl
  have hmove : ∀ {p : Place}, s'.PlacedAt id p → s'.Sound option := fun hp =>
    h.move (h.streams_setStream hxsound) h.connectors h.ticks h.pending
      (h.ne_zero_of_session hsession) hagree hp
  rcases h.placed_of_submitting hsession hlink with ⟨rfl, hp⟩ | ⟨rfl, hp, hlisted⟩
  · have hplaced : s'.PlacedAt id .closed :=
      placedAt_closed (fun hm => by cases hp.pooled.1 hm) (halone hp (.inl rfl))
        (hp.not_mem_list (by simp) (by simp)) (fun index ht => by cases (hp.expired index).1 ht)
        (hp.not_pending (by simp)) (.inl hp.state) hp.wellFormed
    exact ⟨hmove hplaced, .inl ⟨rfl, hplaced⟩⟩
  · have hplaced : s'.PlacedAt id .listed := by
      refine ⟨hp.pooled.trans (by simp), fun t' ht' => absurd ht' (halone hp (.inr rfl) t'),
        fun _ hq => ?_, fun _ hq => ?_, fun _ => .inl rfl, fun _ => hlisted,
        fun index => (hp.expired index).trans (by simp), fun hm => ?_, trivial, hp.wellFormed,
        hp.log⟩
      · cases hq
      · cases hq
      · cases (hp.pending hm).1
    exact ⟨hmove hplaced, .inr ⟨rfl, hplaced⟩⟩

theorem Sound.loseSession (h : s.Sound option) (hlive : (s.stream t).link.isLive = true)
    (hreading : (s.stream t).reading = none) (attachment : Nat) :
    (s.loseSession option t attachment).Sound option := by
  unfold EngineState.loseSession
  split
  next hnone =>
    exact h.setStream ((h.streams t).of_not_reading hreading rfl rfl) rfl
      (fun hsome => absurd hnone hsome) fun htells => htells
  next id hsession =>
    split
    · have hopened : (s.sessions id).sessionState = .Opened :=
        (h.attached_of_live hsession hlive).state
      split
      next hchange =>
        have hsuccess := (s.sessions id).changeSessionState_success .Opened .Abandoned
        simp [hchange, hopened] at hsuccess
      next y hchange =>
        have hy := (s.sessions id).changeSessionState_state .Opened .Abandoned
        rw [hchange, if_pos hopened] at hy
        exact h.abandon hsession hlive hreading hy
    · have hclosed : (s.closeOpened option t id).Sound option := h.setWorker rfl
      exact hclosed.startClosing hsession hlive hreading

theorem Sound.beginDisconnect (h : s.Sound option) (hreading : (s.stream t).reading = none) :
    (s.beginDisconnect option t).Sound option := by
  unfold EngineState.beginDisconnect
  split
  next attachment hlink =>
    have hinactive : (s.deactivate option t).Sound option := h.setWorker rfl
    have hstream : ((s.deactivate option t).reconnect t).stream t = s.stream t :=
      stream_reconnect _ t t
    refine (hinactive.reconnect t).loseSession ?_ ?_ attachment
    · rw [hstream, hlink]
      rfl
    · rw [hstream, hreading]
  next => exact h

theorem Sound.insertAbandoned (h : s.Sound option) (hlink : (s.stream t).link = .abandoning) :
    (s.insertAbandoned option t).Sound option := by
  unfold EngineState.insertAbandoned
  split
  · exact h
  next id hsession =>
    let x := s.workers (option.workerIndex t)
    let s₁ := s.setWorker (option.workerIndex t)
      { x with abandonedSessions := insert id x.abandonedSessions }
    have h₁ : s₁.Sound option := h.setWorker rfl
    have h₂ : (s₁.closeOpened option t id).Sound option := h₁.setWorker rfl
    exact h₂.enterList hsession hlink

/-- The worker will hear of an abandoned session. -/
theorem Sound.announce (h : s.Sound option) (hp : s.PlacedAt id .listed)
    (hstate : s.state id = .Abandoned) (hnew : id ∉ s.pendingAbandoned) :
    { s with queue := s.queue ++ [[(⟨.SessionAbandoned, id, 0⟩ : Context)]] }.Sound option := by
  have hpending :
      { s with queue := s.queue ++ [[(⟨.SessionAbandoned, id, 0⟩ : Context)]] }.pendingAbandoned =
        s.pendingAbandoned ++ [id] := pendingAbandoned_queue s _
  refine h.move h.streams h.connectors h.ticks ?_ (h.ne_zero_of_listed (hp.listed rfl))
    (fun other hother => ?_) (p := .listed) ?_
  · rw [hpending]
    refine List.Nodup.append h.pending (List.nodup_singleton id) ?_
    simpa using hnew
  · refine .of_streams (fun _ => rfl) Iff.rfl Iff.rfl (fun _ => Iff.rfl) (fun hm => ?_) rfl rfl
    rw [hpending] at hm
    rcases List.mem_append.1 hm with hm | hm
    · exact hm
    · exact absurd (List.mem_singleton.1 hm) hother
  · exact ⟨hp.pooled, hp.session, hp.attached, hp.leaving, hp.list, hp.listed, hp.expired,
      fun _ => ⟨rfl, hstate⟩, hp.state, hp.wellFormed, hp.log⟩

/-- `CloseSession` does not touch a stream that is not connected, except for the record. -/
theorem closeSession_stream (s : EngineState) (id : Nat) (t : SocketStream)
    (hlink : (s.stream t).link ≠ .connected) :
    ((s.closeSession id).stream t).session = (s.stream t).session ∧
      ((s.closeSession id).stream t).link = (s.stream t).link := by
  unfold closeSession
  split
  · exact ⟨rfl, rfl⟩
  next t' _ =>
    rw [stream_transmitDisconnect]
    split
    next heq =>
      subst heq
      exact ⟨rfl, if_neg hlink⟩
    next => exact ⟨rfl, rfl⟩

theorem Sound.submitDisconnect (h : s.Sound option) (accepted : Bool) :
    (s.submitDisconnect t accepted).Sound option := by
  unfold EngineState.submitDisconnect
  split
  next contextType id hlink hsession =>
    cases accepted with
    | false =>
        have hnot : (s.stream t).link ≠ .connected := by simp [hlink]
        obtain ⟨hsession', hlink'⟩ := closeSession_stream s id t hnot
        exact ((h.closeSession id).letGo (hsession'.trans hsession) (hlink'.trans hlink)).1
    | true =>
        rcases h.placed_of_submitting hsession hlink with ⟨rfl, hp⟩ | ⟨rfl, hp, _⟩
        · -- the session is closed: submit, let go, record
          have hsubmitted : { s with
              queue := s.queue ++ [[(⟨.SessionClosed, id, 0⟩ : Context)]] }.Sound option :=
            h.submit (by simp)
          obtain ⟨hgone, ⟨_, hclosed⟩ | ⟨hfalse, _⟩⟩ := hsubmitted.letGo (t := t) hsession hlink
          · exact hgone.note (h.ne_zero_of_session hsession) hclosed
              (follows_of_not_closing hp.log.1 (.inr rfl)) trivial
          · cases hfalse
        · obtain ⟨hgone, ⟨hfalse, _⟩ | ⟨_, hlisted⟩⟩ := h.letGo hsession hlink
          · cases hfalse
          · refine hgone.announce hlisted hp.state fun hm => ?_
            cases (hp.pending hm).1
  next => exact h

end OnDisconnect

/-! ## The timeout -/

section OnTick

variable {option : NetworkEngineOption} {s : EngineState} {index id : Nat}

/-- Only the tick of the worker itself changes. -/
theorem tick_setWorker_ite (s : EngineState) (index : Nat) (x : SocketWorkerInfo) (i : Nat) :
    ((s.setWorker index x).workers i).tick = if i = index then x.tick else (s.workers i).tick := by
  by_cases hi : i = index
  · subst hi
    simp [EngineState.setWorker]
  · simp [EngineState.setWorker, hi]

theorem Sound.expire (h : s.Sound option) (hindex : index < option.workerCount)
    (hrest : (s.workers index).tick = .rest) : (s.expire index id).Sound option := by
  have hworkers : ∀ i, ((s.expire index id).workers i).tick =
      if i = index then .expiring id else (s.workers i).tick := tick_setWorker_ite s index _
  refine h.of_agree h.streams h.connectors (fun i hi => ?_) h.pending fun other =>
    .of_streams (fun _ => rfl) Iff.rfl Iff.rfl (fun i => ?_) (fun hm => hm) rfl rfl
  · rw [hworkers] at hi
    split at hi
    next heq => exact heq ▸ hindex
    next => exact h.ticks i hi
  · rw [hworkers]
    split
    next heq => simp [heq, hrest]
    next => exact Iff.rfl

/-- A session that was found waiting is taken from the list by the worker. -/
theorem Sound.takeExpired (h : s.Sound option) (htick : (s.workers index).tick = .expiring id)
    (hlisted : id ∈ s.abandonedSessionList) (hwait : s.state id = .Wait) {x : SocketWorkerInfo}
    (hx : x.tick = .expired id) :
    ({ s.setSession id ((s.sessions id).changeSessionState .Wait .Closed).1 with
      abandonedSessionList := s.abandonedSessionList.erase id }.setWorker index x).Sound option := by
  have hp := h.listed_of_waiting hlisted hwait
  let s₁ := { s.setSession id ((s.sessions id).changeSessionState .Wait .Closed).1 with
    abandonedSessionList := s.abandonedSessionList.erase id }
  have hstate : ∀ other, s₁.state other = if other = id then .Closed else s.state other := by
    intro other
    have hnew : ((s.sessions id).changeSessionState .Wait .Closed).1.sessionState = .Closed := by
      rw [SocketSession.changeSessionState_state]
      exact if_pos hwait
    exact (state_setSession s id other _).trans (by rw [hnew])
  have hworkers : ∀ i, ((s₁.setWorker index x).workers i).tick =
      if i = index then .expired id else (s.workers i).tick := by
    intro i
    rw [tick_setWorker_ite, hx]
    rfl
  change (s₁.setWorker index x).Sound option
  refine h.move h.streams h.connectors (fun i hi => ?_) h.pending (h.ne_zero_of_listed hlisted)
    (fun other hother => ?_) (p := .expired index) ?_
  · rw [hworkers] at hi
    split at hi
    next heq => exact heq ▸ h.ticks index (by simp [htick])
    next => exact h.ticks i hi
  -- another session is not in this entry of the list, and no other worker has taken this one
  · refine .of_streams (fun _ => rfl) Iff.rfl (by simp [s₁, EngineState.setWorker, hother]) (fun i => ?_)
      (fun hm => hm) ((hstate other).trans (if_neg hother)) rfl
    rw [hworkers]
    split
    next heq => simp [heq, htick, Ne.symm hother]
    next => exact Iff.rfl
  · refine ⟨hp.pooled.trans (by simp), fun t ht => ?_, fun _ hq => ?_, fun _ hq => ?_, fun hm => ?_,
      fun hq => ?_, fun i => ?_, fun hm => ?_, (hstate id).trans (if_pos rfl), hp.wellFormed, hp.log⟩
    · exact absurd ht (hp.session_ne (by simp) (by simp) t)
    · cases hq
    · cases hq
    · simp [s₁, EngineState.setWorker] at hm
    · cases hq
    · rw [hworkers]
      split
      next heq => simp [heq]
      next hne =>
        refine (hp.expired i).trans ?_
        simp [Ne.symm hne]
    -- a waiting session has had its context dispatched
    · exact absurd hm (hp.not_pending_of_waiting hwait)

/-- The worker goes on without the session. -/
theorem Sound.giveUpExpiring (h : s.Sound option) {id : Nat}
    (htick : (s.workers index).tick = .expiring id) {x : SocketWorkerInfo} (hx : x.tick = .rest) :
    (s.setWorker index x).Sound option := by
  have hworkers : ∀ i, ((s.setWorker index x).workers i).tick =
      if i = index then .rest else (s.workers i).tick := by
    intro i
    rw [tick_setWorker_ite, hx]
  refine h.of_agree h.streams h.connectors (fun i hi => ?_) h.pending fun other =>
    .of_streams (fun _ => rfl) Iff.rfl Iff.rfl (fun i => ?_) (fun hm => hm) rfl rfl
  · rw [hworkers] at hi
    split at hi
    · exact absurd rfl hi
    · exact h.ticks i hi
  · rw [hworkers]
    split
    next heq => simp [heq, htick]
    next => exact Iff.rfl

theorem setSession_self (s : EngineState) (id : Nat) : s.setSession id (s.sessions id) = s := by
  simp [setSession]

theorem Sound.removeExpired (h : s.Sound option) : (s.removeExpired index).Sound option := by
  unfold EngineState.removeExpired
  split
  next id htick =>
    cases hremove : s.removeIf id (·.changeSessionState .Wait .Closed) with
    | mk s₁ success =>
        cases success with
        | true =>
            obtain ⟨hlisted, hsuccess, rfl⟩ := removeIf_of_success hremove
            rw [SocketSession.changeSessionState_success, decide_eq_true_eq] at hsuccess
            exact h.takeExpired htick hlisted hsuccess rfl
        | false =>
            have hsame : s₁ = s := by
              rcases removeIf_of_failure hremove with ⟨_, hfailure, rfl⟩ | ⟨_, rfl⟩
              · rw [SocketSession.changeSessionState_success, decide_eq_false_iff_not] at hfailure
                rw [SocketSession.changeSessionState, if_neg hfailure]
                exact setSession_self s id
              · rfl
            subst hsame
            exact h.giveUpExpiring htick rfl
  next => exact h

/-- The worker has submitted the closing of an expired session. -/
theorem Sound.forgetExpired (h : s.Sound option) (htick : (s.workers index).tick = .expired id) :
    let s' := s.setWorker index { s.workers index with tick := .rest }
    s'.Sound option ∧ s'.PlacedAt id .closed := by
  intro s'
  obtain ⟨p, hp⟩ := h.placed id
  obtain rfl := (hp.expired index).1 htick
  have hworkers : ∀ i, (s'.workers i).tick = if i = index then .rest else (s.workers i).tick :=
    tick_setWorker_ite s index _
  have hfree : ∀ i, (s'.workers i).tick ≠ .expired id := by
    intro i hi
    rw [hworkers] at hi
    split at hi
    next => cases hi
    next hne =>
      cases (hp.expired i).1 hi
      exact hne rfl
  have hplaced : s'.PlacedAt id .closed :=
    placedAt_closed (fun hm => by cases hp.pooled.1 hm) (hp.session_ne (by simp) (by simp))
      (hp.not_mem_list (by simp) (by simp)) hfree (hp.not_pending (by simp)) (.inr hp.state)
      hp.wellFormed
  refine ⟨h.move h.streams h.connectors (fun i hi => ?_) h.pending (h.ne_zero_of_expired htick)
    (fun other hother => ?_) hplaced, hplaced⟩
  · rw [hworkers] at hi
    split at hi
    · exact absurd rfl hi
    · exact h.ticks i hi
  · refine .of_streams (fun _ => rfl) Iff.rfl Iff.rfl (fun i => ?_) (fun hm => hm) rfl rfl
    rw [hworkers]
    split
    next heq => simp [heq, htick, Ne.symm hother]
    next => exact Iff.rfl

theorem Sound.submitExpired (h : s.Sound option) (accepted : Bool) :
    (s.submitExpired index accepted).Sound option := by
  unfold EngineState.submitExpired
  split
  next id htick =>
    obtain ⟨p, hp⟩ := h.placed id
    obtain rfl := (hp.expired index).1 htick
    cases accepted with
    | false =>
        have hworkers : (s.closeSession id).workers = s.workers := by
          unfold EngineState.closeSession
          split <;> rfl
        exact ((h.closeSession id).forgetExpired (hworkers ▸ htick)).1
    | true =>
        have hsubmitted : { s with
            queue := s.queue ++ [[(⟨.SessionClosed, id, 0⟩ : Context)]] }.Sound option :=
          h.submit (by simp)
        obtain ⟨hgone, hclosed⟩ := Sound.forgetExpired hsubmitted htick
        refine hgone.note (h.ne_zero_of_expired htick) hclosed ?_ trivial
        have hlast : (s.log id).getLast? = some .abandoned := hp.log
        have hfollows : Milestone.Follows (s.log id).getLast? .expired := by
          rw [hlast]
          trivial
        exact hfollows
  next => exact h

end OnTick

/-! ## The worker and the pool -/

section Worker

variable {option : NetworkEngineOption} {s : EngineState} {index id : Nat}

theorem Sound.closeIdleSession (h : s.Sound option) (index id : Nat) :
    (s.closeIdleSession index id).Sound option :=
  (h.closeSession id).setWorker rfl

/-- The worker takes the first of the contexts it has before it. -/
theorem takeContext_eq {context : Context} (h : s.upcoming = some context) :
    ∃ queue chain, s.takeContext = { s with queue, chain } ∧
      s.chain ++ s.queue.flatten = context :: (chain ++ queue.flatten) := by
  unfold upcoming at h
  unfold takeContext
  split
  next first rest hchain =>
    rw [hchain] at h
    cases h
    exact ⟨s.queue, rest, rfl, by simp [hchain]⟩
  next hchain =>
    refine ⟨_, _, rfl, ?_⟩
    rw [hchain] at h
    cases hqueue : s.queue with
    | nil =>
        simp [hqueue] at h
    | cons contexts queue =>
        cases contexts with
        | nil =>
            simp [hqueue] at h
        | cons first rest =>
            simp only [hqueue, List.head?_cons, Option.bind_some, Option.some.injEq] at h
            simp [hchain, h]

/-- The worker has fewer contexts before it. -/
theorem Sound.advance (h : s.Sound option) {queue : List (List Context)} {chain : List Context}
    {releasing : Option Context}
    (hsub : (chain ++ queue.flatten).Sublist (s.chain ++ s.queue.flatten)) :
    { s with queue, chain, releasing }.Sound option := by
  have hpending : { s with queue, chain, releasing }.pendingAbandoned.Sublist s.pendingAbandoned :=
    (hsub.filter _).map _
  refine h.of_agree h.streams h.connectors h.ticks (h.pending.sublist hpending) fun id => ?_
  exact .of_streams (fun _ => rfl) Iff.rfl Iff.rfl (fun _ => Iff.rfl) (fun hm => hpending.subset hm)
    rfl rfl

/-- A session of which the worker will not hear again that it was abandoned waits. -/
theorem Sound.startWaiting (h : s.Sound option) (hp : s.PlacedAt id .listed)
    (hnot : id ∉ s.pendingAbandoned) (x : SocketSession) :
    (s.setSession id x).Sound option := by
  refine h.move h.streams h.connectors h.ticks h.pending (h.ne_zero_of_listed (hp.listed rfl))
    (fun other hother => ?_) (p := .listed) ?_
  · exact .of_streams (fun _ => rfl) Iff.rfl Iff.rfl (fun _ => Iff.rfl) (fun hm => hm)
      ((state_setSession s id other x).trans (if_neg hother)) rfl
  · exact ⟨hp.pooled, hp.session, hp.attached, hp.leaving, hp.list, hp.listed, hp.expired,
      fun hm => absurd hm hnot, trivial, hp.wellFormed, hp.log⟩

theorem Sound.dispatch (h : s.Sound option) : s.dispatch.Sound option := by
  unfold EngineState.dispatch
  split
  next => exact h
  next context hup =>
    obtain ⟨queue, chain, heq, hcontexts⟩ := takeContext_eq hup
    have hsub : (chain ++ queue.flatten).Sublist (s.chain ++ s.queue.flatten) := by
      rw [hcontexts]
      exact List.sublist_cons_self _ _
    have hadvance : { s with queue, chain, releasing := some context }.Sound option :=
      h.advance hsub
    rw [heq]
    dsimp only
    split
    next htype =>
      -- this is the only context that tells that the session was abandoned
      have hpending : s.pendingAbandoned = context.session ::
          { s with queue, chain, releasing := some context }.pendingAbandoned := by
        simp [pendingAbandoned, hcontexts, htype]
      have hnodup := h.pending
      rw [hpending, List.nodup_cons] at hnodup
      obtain ⟨p, hp⟩ := h.placed context.session
      obtain ⟨rfl, _⟩ := hp.pending (hpending ▸ List.mem_cons_self)
      refine hadvance.startWaiting (hp.of_agree ?_) hnodup.1 _
      refine .of_streams (fun _ => rfl) Iff.rfl Iff.rfl (fun _ => Iff.rfl) (fun hm => ?_) rfl rfl
      rw [hpending]
      exact List.mem_cons_of_mem _ hm
    next => exact hadvance

theorem Sound.release (h : s.Sound option) : s.release.Sound option := by
  unfold EngineState.release
  split
  next => exact h
  next context _ =>
    dsimp only
    have hadvance : { s with
        releasing := none
        chain := if context.contextType = ContextType.SessionClosed then [] else s.chain }.Sound
          option := by
      refine h.advance ?_
      split
      · exact List.sublist_append_right _ _
      · exact List.Sublist.refl _
    split
    next =>
      refine hadvance.of_agree hadvance.streams hadvance.connectors hadvance.ticks hadvance.pending
        fun id => ?_
      refine .of_streams (fun _ => rfl) Iff.rfl Iff.rfl (fun _ => Iff.rfl) (fun hm => hm) ?_ rfl
      -- the stream of the session is no part of its state
      rw [state_setSession]
      split
      next heq => rw [heq]; rfl
      next => rfl
    next => exact hadvance

/-- A stream with a session is one that was used. -/
theorem mem_keys_of_session {t : SocketStream} (h : (s.stream t).session = some id) :
    t ∈ s.streams.keys := by
  cases hfind : s.streams.find t with
  | none =>
      simp [stream, hfind] at h
  | some x => exact s.streams.mem_keys_of_find hfind

/-- A session to which nothing refers is closed. -/
theorem Sound.closed_of_unreferenced (h : s.Sound option) (hpool : id ∉ s.sessionPool)
    (hfree : s.Unreferenced option id) : s.PlacedAt id .closed := by
  obtain ⟨hstreams, hlist, hworkers, _⟩ := hfree
  have hnone : ∀ t, (s.stream t).session ≠ some id := by
    intro t ht
    exact (hstreams t (mem_keys_of_session ht)).1 ht
  obtain ⟨p, hp⟩ := h.placed id
  cases p with
  | pooled => exact absurd (hp.pooled.2 rfl) hpool
  | attached t => exact absurd (hp.attached t rfl).1 (hnone t)
  | leaving t => exact absurd (hp.leaving t rfl).1 (hnone t)
  | listed => exact absurd (hp.listed rfl) hlist
  | expired index =>
      have htick := (hp.expired index).2 rfl
      have hindex := h.ticks index (by simp [htick])
      exact absurd htick (hworkers index hindex).2.2.2
  | closed => exact hp

theorem Sound.recycle (h : s.Sound option) (hused : s.IsUsed option id)
    (hfree : s.Unreferenced option id) : (s.recycle id).Sound option := by
  have hp := h.closed_of_unreferenced hused.2 hfree
  have hid : id ≠ 0 := Nat.pos_iff_ne_zero.1 hused.1.1
  have hlog : (s.recycle id).log id = [] := Function.update_self _ _ _
  refine h.move h.streams h.connectors h.ticks h.pending hid (fun other hother => ?_) (p := .pooled) ?_
  · refine .of_streams (fun _ => rfl) ?_ Iff.rfl (fun _ => Iff.rfl) (fun hm => hm) rfl
      (Function.update_of_ne hother _ _)
    simp [EngineState.recycle, hother]
  · refine ⟨by simp [EngineState.recycle], fun t ht => ?_, fun _ hq => ?_, fun _ hq => ?_,
      fun hm => ?_, fun hq => ?_, fun index => ?_, fun hm => ?_, hp.state, ?_, hlog⟩
    · exact absurd ht (hp.session_ne (by simp) (by simp) t)
    · cases hq
    · cases hq
    · exact absurd hm (hp.not_mem_list (by simp) (by simp))
    · cases hq
    · exact (hp.expired index).trans (by simp)
    · exact absurd hm (hp.not_pending (by simp))
    · rw [hlog]
      exact Milestone.wellFormed_nil

end Worker

/-! ## Runs -/

section Runs

variable {option : NetworkEngineOption} {s : EngineState}

theorem mem_initialized {id : Nat} :
    id ∈ (initialized option).sessionPool ↔ 0 < id ∧ id ≤ option.maxSessionCount := by
  have hmem : id ∈ (initialized option).sessionPool ↔
      id ∈ List.range' 1 option.maxSessionCount := by
    rw [← poolSequence_eq (by decide : 0 < GameServerConfig.sessionChunkSize)]
    simp [initialized]
  rw [hmem, List.mem_range'_1]
  omega

theorem sound_initialized (option : NetworkEngineOption) : (initialized option).Sound option := by
  have hplaced : ∀ id p, (p = .pooled ∨ p = .closed) →
      (id ∈ (initialized option).sessionPool ↔ p = .pooled) →
        (initialized option).PlacedAt id p := by
    rintro id p hp hpool
    refine ⟨hpool, fun t ht => ?_, ?_, ?_, fun hm => ?_, ?_, fun index => ?_, fun hm => ?_, ?_,
      Milestone.wellFormed_nil, ?_⟩
    · cases ht
    · rintro t rfl
      simp at hp
    · rintro t rfl
      simp at hp
    · simp [initialized] at hm
    · rintro rfl
      simp at hp
    · rcases hp with rfl | rfl <;> simp [initialized]
    · simp [initialized, pendingAbandoned] at hm
    · rcases hp with rfl | rfl <;> exact .inr rfl
    · rcases hp with rfl | rfl
      · rfl
      · trivial
  refine ⟨fun t => .of_contexts_nil rfl fun hsome => ?_, fun c info hinfo => ?_, fun index hi => ?_,
    List.nodup_nil, ?_, fun id => ?_⟩
  · cases hsome
  · cases hinfo
  · exact absurd rfl hi
  · refine hplaced 0 .closed (.inr rfl) ?_
    simp [mem_initialized]
  · by_cases hid : id ∈ (initialized option).sessionPool
    · exact ⟨.pooled, hplaced id _ (.inl rfl) (by simp [hid])⟩
    · exact ⟨.closed, hplaced id _ (.inr rfl) (by simp [hid])⟩

theorem Sound.next (h : s.Sound option) {e : EngineEvent} (henabled : s.Enabled option e) :
    (s.next option e).Sound option := by
  cases e with
  | accept t => exact h.onAccept henabled.2.1
  | connect t connectorId => exact h.onConnect henabled.2.1.1 connectorId
  | connectFailed connectorId => exact h.onConnectFailed connectorId
  | register remoteAddress attachment => exact h.registerConnectorSocket remoteAddress attachment
  | unregister connectorId => exact h.unregisterConnectorSocket connectorId
  | read t => exact h.beginRead henabled.1 henabled.2
  | zeroRead t => exact h.zeroRead t
  | packet t received answers => exact h.readPacket henabled.1 received henabled.2
  | flush t accepted => exact h.flush accepted
  | finishRead t => exact h.finishRead t
  | abortRead t => exact h.abortRead t
  | disconnect t => exact h.beginDisconnect henabled.1
  | insertAbandoned t => exact h.insertAbandoned henabled
  | submitDisconnect t accepted => exact h.submitDisconnect accepted
  | expire index id => exact h.expire henabled.1 henabled.2.1
  | removeExpired index => exact h.removeExpired
  | submitExpired index accepted => exact h.submitExpired accepted
  | idleSocket index t => exact h.transmitDisconnect t gracefulShutdownCode .graceful
  | idleSession index id => exact h.closeIdleSession index id
  | send id => exact h
  | closeSession id => exact h.closeSession id
  | disconnectSession id => exact h.disconnectSession id
  | dispatch => exact h.dispatch
  | release => exact h.release
  | recycle id => exact h.recycle henabled.1 henabled.2

/-- Every session of a reachable engine has a place. -/
theorem sound_of_reachable (h : (engine option).Reachable s) : s.Sound option := by
  refine Machine.Reachable.invariant (fun s hs => ?_) (fun s e s' hs hstep => ?_) h
  · obtain rfl : s = initialized option := hs
    exact sound_initialized option
  · obtain ⟨henabled, rfl⟩ := hstep
    exact hs.next henabled

end Runs

end EngineState

end Engine
end SeamlessServer
