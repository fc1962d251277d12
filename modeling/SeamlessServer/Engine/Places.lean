import Mathlib.Data.List.Nodup
import SeamlessServer.Engine.Reconnect

/-!
# Engine.Places — where a session is

A session that is not in the pool is attached to a stream, on its way from a stream to the list of
abandoned sessions, in that list, in the hands of an `OnTick`, or closed.  `PlacedAt` says what the
state of the engine has to do with this, and with the milestones of the session; `Sound` says that
every session has such a place.  `Sound.move` is the form of a step that concerns one session,
`Sound.of_agree` that of a step that concerns none.
-/

namespace SeamlessServer
namespace Engine

open NetworkEngine (ContextType StreamType errorNone errorSessionIsNotReady)

/-! ## Milestones -/

namespace Milestone

/-- What may come after a milestone, or at the beginning.  A `SessionAlived` that could not be
submitted is missing. -/
def Follows : Option Milestone → Milestone → Prop
  | none, m => m = .abandoned ∨ m = .disconnected
  | some .abandoned, _ => True
  | some .alived, m => m = .abandoned ∨ m = .disconnected
  | some .expired, _ => False
  | some .disconnected, _ => False

/-- A sequence of milestones of one session. -/
def WellFormed (l : List Milestone) : Prop :=
  ∀ pre m post, l = pre ++ m :: post → Follows pre.getLast? m

theorem wellFormed_nil : WellFormed [] := by
  intro pre m post h
  simp at h

theorem WellFormed.append {l : List Milestone} {m : Milestone} (h : WellFormed l)
    (hm : Follows l.getLast? m) : WellFormed (l ++ [m]) := by
  intro pre m' post heq
  rcases List.eq_nil_or_concat post with rfl | ⟨post', last, rfl⟩
  · have hlast := List.append_inj' heq rfl
    obtain ⟨rfl, hsame⟩ := hlast
    cases hsame
    exact hm
  · have heq' : l ++ [m] = (pre ++ m' :: post') ++ [last] := by simpa using heq
    exact h pre m' post' (List.append_inj' heq' rfl).1

/-- `SessionClosed` is submitted. -/
def isClosing : Milestone → Bool
  | .expired => true
  | .disconnected => true
  | _ => false

/-- An abandoned session is taken up again or closed. -/
def isResolution : Milestone → Bool
  | .alived => true
  | .expired => true
  | _ => false

/-- Nothing comes after the session is closed. -/
theorem WellFormed.eq_nil_of_isClosing {l pre post : List Milestone} {m : Milestone}
    (h : WellFormed l) (hl : l = pre ++ m :: post) (hm : m.isClosing = true) : post = [] := by
  cases post with
  | nil =>
      rfl
  | cons m' post =>
      have hfollows := h (pre ++ [m]) m' post (by simp [hl])
      rw [List.getLast?_concat] at hfollows
      cases m with
      | abandoned => cases hm
      | alived => cases hm
      | expired => exact hfollows.elim
      | disconnected => exact hfollows.elim

theorem WellFormed.countP_isClosing {l : List Milestone} (h : WellFormed l) :
    l.countP isClosing ≤ 1 := by
  have hevery : ∀ pre post, l = pre ++ post → post.countP isClosing ≤ 1 := by
    intro pre post hl
    induction post generalizing pre with
    | nil =>
        exact Nat.zero_le _
    | cons m post ih =>
        by_cases hm : m.isClosing = true
        · rw [h.eq_nil_of_isClosing hl hm, List.countP_cons, if_pos hm]
          exact Nat.le_refl 1
        · rw [List.countP_cons, if_neg hm]
          exact ih (pre ++ [m]) (by simp [hl])
  exact hevery [] l rfl

/-- Until the session is abandoned once more, at most one milestone resolves that it was abandoned. -/
theorem WellFormed.countP_isResolution {l pre post : List Milestone} (h : WellFormed l)
    (hl : l = pre ++ .abandoned :: post) :
    (post.takeWhile (· ≠ .abandoned)).countP isResolution ≤ 1 := by
  cases post with
  | nil =>
      exact Nat.zero_le _
  | cons m post =>
      have hl' : l = (pre ++ [.abandoned]) ++ m :: post := by simp [hl]
      cases m with
      | abandoned => exact Nat.zero_le _
      | alived =>
          cases post with
          | nil =>
              exact Nat.le_refl 1
          | cons m' post =>
              have hfollows := h (pre ++ [.abandoned, .alived]) m' post (by simp [hl])
              have hlast : (pre ++ [Milestone.abandoned, .alived]).getLast? = some .alived := by simp
              rw [hlast] at hfollows
              rcases hfollows with rfl | rfl
              · exact Nat.le_refl 1
              · have hl'' : l = (pre ++ [.abandoned, .alived]) ++ .disconnected :: post := by
                  simp [hl]
                rw [h.eq_nil_of_isClosing hl'' rfl]
                exact Nat.le_refl 1
      | expired =>
          rw [h.eq_nil_of_isClosing hl' rfl]
          exact Nat.le_refl 1
      | disconnected =>
          rw [h.eq_nil_of_isClosing hl' rfl]
          exact Nat.zero_le _

end Milestone

/-! ## Places -/

/-- Where a session is. -/
inductive Place
  | pooled
  | attached (t : SocketStream)
  /-- `OnDisconnect` of the stream has abandoned the session and not let it go yet. -/
  | leaving (t : SocketStream)
  | listed
  | expired (index : Nat)
  | closed

/-- The unsubmitted contexts of the stream tell of a revived session. -/
def Stream.tellsAlived (x : Stream) : Prop :=
  x.contexts.filter (·.contextType = .SessionAlived) ≠ []

/-- What holds of a stream by itself: contexts are prepared by a read, and are about the stream's
session; a read is one of a live connection; and `SessionAlived` is told at most once. -/
structure StreamSound (x : Stream) : Prop where
  reading : x.reading.isSome = true → x.link.isLive = true
  contexts : x.reading = none → x.contexts = []
  types : ∀ c ∈ x.contexts, c.contextType ≠ .SessionAbandoned ∧ c.contextType ≠ .SessionClosed
  owned : ∀ c ∈ x.contexts, x.session = some c.session
  alived : x.contexts.filter (·.contextType = .SessionAlived) = [] ∨
    ∃ c, x.contexts.filter (·.contextType = .SessionAlived) = [c] ∧ x.session = some c.session

namespace EngineState

/-- The sessions of which the worker will hear that they were abandoned. -/
def pendingAbandoned (s : EngineState) : List Nat :=
  ((s.chain ++ s.queue.flatten).filter (·.contextType = .SessionAbandoned)).map Context.session

/-- The milestones of a session, by its place. -/
def LogFits (s : EngineState) (id : Nat) : Place → Prop
  | .pooled => s.log id = []
  | .attached t =>
      (∀ m, (s.log id).getLast? = some m → m.isClosing = false) ∧
        ((s.stream t).tellsAlived → (s.log id).getLast? = some .abandoned)
  | .closed => True
  | _ => (s.log id).getLast? = some .abandoned

/-- The state of a session, by its place.  A session in the list is `Opened` if a wrong key was given
for it while it waited. -/
def StateFits (s : EngineState) (id : Nat) : Place → Prop
  | .pooled => s.state id = .Opened ∨ s.state id = .Closed
  | .attached _ => s.state id = .Opened
  | .leaving _ => s.state id = .Abandoned
  | .listed => True
  | .expired _ => s.state id = .Closed
  | .closed => s.state id = .Opened ∨ s.state id = .Closed

/-- The state of the engine as it concerns a session at a place. -/
structure PlacedAt (s : EngineState) (id : Nat) (p : Place) : Prop where
  pooled : id ∈ s.sessionPool ↔ p = .pooled
  session : ∀ t, (s.stream t).session = some id → p = .attached t ∨ p = .leaving t
  attached : ∀ t, p = .attached t → (s.stream t).session = some id ∧
    ((s.stream t).link.isLive = true ∨ (s.stream t).link = .submitting .SessionClosed)
  leaving : ∀ t, p = .leaving t → (s.stream t).session = some id ∧
    ((s.stream t).link = .abandoning ∨
      (s.stream t).link = .submitting .SessionAbandoned ∧ id ∈ s.abandonedSessionList)
  list : id ∈ s.abandonedSessionList → p = .listed ∨ ∃ t, p = .leaving t
  listed : p = .listed → id ∈ s.abandonedSessionList
  expired : ∀ index, (s.workers index).tick = .expired id ↔ p = .expired index
  pending : id ∈ s.pendingAbandoned → p = .listed ∧ s.state id = .Abandoned
  state : s.StateFits id p
  wellFormed : Milestone.WellFormed (s.log id)
  log : s.LogFits id p

structure Sound (option : NetworkEngineOption) (s : EngineState) : Prop where
  streams : ∀ t, StreamSound (s.stream t)
  connectors : ∀ c info, s.connectorList c = some info → info.sessionId = 0
  ticks : ∀ index, (s.workers index).tick ≠ .rest → index < option.workerCount
  pending : s.pendingAbandoned.Nodup
  zero : s.PlacedAt 0 .closed
  placed : ∀ id, ∃ p, s.PlacedAt id p

/-! ## What a place rules out -/

section Rules

variable {option : NetworkEngineOption} {s : EngineState} {id : Nat} {p : Place}

theorem PlacedAt.session_ne (h : s.PlacedAt id p) (hattached : ∀ t, p ≠ .attached t)
    (hleaving : ∀ t, p ≠ .leaving t) (t : SocketStream) : (s.stream t).session ≠ some id := by
  intro ht
  rcases h.session t ht with hp | hp
  · exact hattached t hp
  · exact hleaving t hp

theorem PlacedAt.not_mem_list (h : s.PlacedAt id p) (hlisted : p ≠ .listed)
    (hleaving : ∀ t, p ≠ .leaving t) : id ∉ s.abandonedSessionList := by
  intro hm
  rcases h.list hm with hp | ⟨t, hp⟩
  · exact hlisted hp
  · exact hleaving t hp

theorem PlacedAt.not_pending (h : s.PlacedAt id p) (hlisted : p ≠ .listed) :
    id ∉ s.pendingAbandoned :=
  fun hm => hlisted (h.pending hm).1

/-- A session that nothing has is closed. -/
theorem placedAt_closed (hpool : id ∉ s.sessionPool)
    (hsession : ∀ t, (s.stream t).session ≠ some id) (hlist : id ∉ s.abandonedSessionList)
    (htick : ∀ index, (s.workers index).tick ≠ .expired id) (hpending : id ∉ s.pendingAbandoned)
    (hstate : s.state id = .Opened ∨ s.state id = .Closed)
    (hwellFormed : Milestone.WellFormed (s.log id)) : s.PlacedAt id .closed where
  pooled := iff_of_false hpool (by simp)
  session := fun t ht => absurd ht (hsession t)
  attached := by
    rintro t ⟨⟩
  leaving := by
    rintro t ⟨⟩
  list := fun hm => absurd hm hlist
  listed := by
    rintro ⟨⟩
  expired := fun index => iff_of_false (htick index) (by simp)
  pending := fun hm => absurd hm hpending
  state := hstate
  wellFormed := hwellFormed
  log := trivial

/-- The id 0 is that of no session. -/
theorem Sound.ne_zero_of_session (h : s.Sound option) {t : SocketStream}
    (hsession : (s.stream t).session = some id) : id ≠ 0 := by
  rintro rfl
  exact h.zero.session_ne (by simp) (by simp) t hsession

theorem Sound.ne_zero_of_pool (h : s.Sound option) (hpool : id ∈ s.sessionPool) : id ≠ 0 := by
  rintro rfl
  cases h.zero.pooled.1 hpool

theorem Sound.not_listed_zero (h : s.Sound option) : 0 ∉ s.abandonedSessionList :=
  h.zero.not_mem_list (by simp) (by simp)

theorem Sound.ne_zero_of_listed (h : s.Sound option) (hlisted : id ∈ s.abandonedSessionList) :
    id ≠ 0 := by
  rintro rfl
  exact h.not_listed_zero hlisted

theorem Sound.ne_zero_of_expired (h : s.Sound option) {index : Nat}
    (htick : (s.workers index).tick = .expired id) : id ≠ 0 := by
  rintro rfl
  cases (h.zero.expired index).1 htick

/-- A stream with a session does not have another one. -/
theorem session_ne_other {t : SocketStream} (hsession : (s.stream t).session = some id)
    {other : Nat} (hother : other ≠ id) : (s.stream t).session ≠ some other := by
  rw [hsession]
  exact fun heq => hother (Option.some.inj heq).symm

end Rules

/-! ## What a step does not touch -/

/-- Two states agree about a session, up to the progress of a live connection. -/
structure Agree (s s' : EngineState) (id : Nat) : Prop where
  pool : id ∈ s'.sessionPool ↔ id ∈ s.sessionPool
  session : ∀ t, (s'.stream t).session = some id → (s.stream t).session = some id
  stream : ∀ t, (s.stream t).session = some id → (s'.stream t).session = some id ∧
    ((s'.stream t).link = (s.stream t).link ∨
      (s.stream t).link.isLive = true ∧ (s'.stream t).link.isLive = true) ∧
    ((s'.stream t).tellsAlived → (s.stream t).tellsAlived)
  list : id ∈ s'.abandonedSessionList ↔ id ∈ s.abandonedSessionList
  tick : ∀ index, (s'.workers index).tick = .expired id ↔ (s.workers index).tick = .expired id
  pending : id ∈ s'.pendingAbandoned → id ∈ s.pendingAbandoned
  state : s'.state id = s.state id
  log : s'.log id = s.log id

variable {option : NetworkEngineOption} {s s' : EngineState} {id : Nat} {p : Place}

theorem StateFits.of_eq (hstate : s'.state id = s.state id) (h : s.StateFits id p) :
    s'.StateFits id p := by
  cases p <;> simp only [StateFits, hstate] at h ⊢ <;> exact h

theorem PlacedAt.of_agree (h : s.PlacedAt id p) (hagree : Agree s s' id) : s'.PlacedAt id p where
  pooled := hagree.pool.trans h.pooled
  session := fun t ht => h.session t (hagree.session t ht)
  attached := by
    intro t hp
    obtain ⟨hsession, hlink⟩ := h.attached t hp
    obtain ⟨hsession', hlink', _⟩ := hagree.stream t hsession
    refine ⟨hsession', ?_⟩
    -- a stream that is left may let the session go, a stream that is attached may be asked to
    -- disconnect
    rcases hlink' with hsame | ⟨_, hlive⟩
    · rw [hsame]
      exact hlink
    · exact .inl hlive
  leaving := by
    intro t hp
    obtain ⟨hsession, hlink⟩ := h.leaving t hp
    obtain ⟨hsession', hlink', _⟩ := hagree.stream t hsession
    refine ⟨hsession', ?_⟩
    rcases hlink' with hsame | ⟨hlive, _⟩
    · rw [hsame, hagree.list]
      exact hlink
    · rcases hlink with hlink | ⟨hlink, _⟩
      · simp [hlink, Link.isLive] at hlive
      · simp [hlink, Link.isLive] at hlive
  list := fun hmem => h.list (hagree.list.1 hmem)
  listed := fun hp => hagree.list.2 (h.listed hp)
  expired := fun index => (hagree.tick index).trans (h.expired index)
  pending := by
    intro hmem
    rw [hagree.state]
    exact h.pending (hagree.pending hmem)
  state := h.state.of_eq hagree.state
  wellFormed := by
    rw [hagree.log]
    exact h.wellFormed
  log := by
    have hlog := h.log
    cases p with
    | attached t =>
        obtain ⟨hsession, _⟩ := h.attached t rfl
        refine ⟨by rw [hagree.log]; exact hlog.1, fun htells => ?_⟩
        rw [hagree.log]
        exact hlog.2 ((hagree.stream t hsession).2.2 htells)
    | pooled => exact hagree.log.trans hlog
    | leaving t => exact (congrArg List.getLast? hagree.log).trans hlog
    | listed => exact (congrArg List.getLast? hagree.log).trans hlog
    | expired index => exact (congrArg List.getLast? hagree.log).trans hlog
    | closed => trivial

/-- All streams are the same. -/
theorem Agree.of_streams (hstream : ∀ t, s'.stream t = s.stream t)
    (hpool : id ∈ s'.sessionPool ↔ id ∈ s.sessionPool)
    (hlist : id ∈ s'.abandonedSessionList ↔ id ∈ s.abandonedSessionList)
    (htick : ∀ index, (s'.workers index).tick = .expired id ↔ (s.workers index).tick = .expired id)
    (hpending : id ∈ s'.pendingAbandoned → id ∈ s.pendingAbandoned)
    (hstate : s'.state id = s.state id) (hlog : s'.log id = s.log id) : Agree s s' id where
  pool := hpool
  session := by
    intro t ht
    rwa [← hstream]
  stream := by
    intro t ht
    rw [hstream]
    exact ⟨ht, .inl rfl, fun htells => htells⟩
  list := hlist
  tick := htick
  pending := hpending
  state := hstate
  log := hlog

theorem Agree.trans {s'' : EngineState} (h : Agree s s' id) (h' : Agree s' s'' id) :
    Agree s s'' id where
  pool := h'.pool.trans h.pool
  session := fun t ht => h.session t (h'.session t ht)
  stream := by
    intro t ht
    obtain ⟨hsession, hlink, htells⟩ := h.stream t ht
    obtain ⟨hsession', hlink', htells'⟩ := h'.stream t hsession
    refine ⟨hsession', ?_, fun ht' => htells (htells' ht')⟩
    rcases hlink' with hsame | ⟨hlive, hlive'⟩
    · rw [hsame]
      exact hlink
    · rcases hlink with hsame | ⟨hfirst, _⟩
      · exact .inr ⟨hsame ▸ hlive, hlive'⟩
      · exact .inr ⟨hfirst, hlive'⟩
  list := h'.list.trans h.list
  tick := fun index => (h'.tick index).trans (h.tick index)
  pending := fun hm => h.pending (h'.pending hm)
  state := h'.state.trans h.state
  log := h'.log.trans h.log

/-- A step that concerns one session. -/
theorem Sound.move (h : s.Sound option) (hstreams : ∀ t, StreamSound (s'.stream t))
    (hconnectors : ∀ c info, s'.connectorList c = some info → info.sessionId = 0)
    (hticks : ∀ index, (s'.workers index).tick ≠ .rest → index < option.workerCount)
    (hpending : s'.pendingAbandoned.Nodup) (hid : id ≠ 0)
    (hagree : ∀ other, other ≠ id → Agree s s' other) (hplaced : s'.PlacedAt id p) :
    s'.Sound option where
  streams := hstreams
  connectors := hconnectors
  ticks := hticks
  pending := hpending
  zero := h.zero.of_agree (hagree 0 hid.symm)
  placed := by
    intro other
    by_cases hother : other = id
    · exact ⟨p, hother ▸ hplaced⟩
    · obtain ⟨q, hq⟩ := h.placed other
      exact ⟨q, hq.of_agree (hagree other hother)⟩

/-- A step that concerns no session. -/
theorem Sound.of_agree (h : s.Sound option) (hstreams : ∀ t, StreamSound (s'.stream t))
    (hconnectors : ∀ c info, s'.connectorList c = some info → info.sessionId = 0)
    (hticks : ∀ index, (s'.workers index).tick ≠ .rest → index < option.workerCount)
    (hpending : s'.pendingAbandoned.Nodup) (hagree : ∀ id, Agree s s' id) : s'.Sound option := by
  obtain ⟨p, hp⟩ := h.placed 1
  exact h.move hstreams hconnectors hticks hpending one_ne_zero (fun other _ => hagree other)
    (hp.of_agree (hagree 1))

/-! ## Steps that concern no session -/

/-- Everything but connectors, connects and the worker's sets of ids is the same. -/
structure Same (s s' : EngineState) : Prop where
  streams : s'.streams = s.streams
  sessions : s'.sessions = s.sessions
  sessionPool : s'.sessionPool = s.sessionPool
  list : s'.abandonedSessionList = s.abandonedSessionList
  queue : s'.queue = s.queue
  chain : s'.chain = s.chain
  log : s'.log = s.log

theorem Same.stream (h : Same s s') (t : SocketStream) : s'.stream t = s.stream t := by
  simp only [EngineState.stream, h.streams]

theorem Same.pendingAbandoned (h : Same s s') : s'.pendingAbandoned = s.pendingAbandoned := by
  simp only [EngineState.pendingAbandoned, h.queue, h.chain]

theorem Same.agree (h : Same s s')
    (htick : ∀ index, (s'.workers index).tick = .expired id ↔ (s.workers index).tick = .expired id) :
    Agree s s' id :=
  .of_streams h.stream (by rw [h.sessionPool]) (by rw [h.list]) htick
    (by rw [h.pendingAbandoned]; exact fun hmem => hmem)
    (by simp only [EngineState.state, h.sessions]) (by rw [h.log])

theorem Sound.same (h : s.Sound option) (hsame : Same s s')
    (hconnectors : ∀ c info, s'.connectorList c = some info → info.sessionId = 0)
    (hticks : ∀ index, (s'.workers index).tick ≠ .rest → index < option.workerCount)
    (htick : ∀ index id, (s'.workers index).tick = .expired id ↔
      (s.workers index).tick = .expired id) : s'.Sound option := by
  refine h.of_agree (fun t => ?_) hconnectors hticks ?_ fun id => hsame.agree fun i => htick i id
  · rw [hsame.stream]
    exact h.streams t
  · rw [hsame.pendingAbandoned]
    exact h.pending

theorem tick_setWorker {index : Nat} {x : SocketWorkerInfo}
    (hx : x.tick = (s.workers index).tick) (i : Nat) :
    ((s.setWorker index x).workers i).tick = (s.workers i).tick := by
  by_cases hi : i = index
  · subst hi
    simp [EngineState.setWorker, hx]
  · simp [EngineState.setWorker, hi]

/-- The worker's sets of ids do not matter. -/
theorem Agree.setWorker {index : Nat} {x : SocketWorkerInfo}
    (hx : x.tick = (s.workers index).tick) : Agree s (s.setWorker index x) id :=
  Same.agree ⟨rfl, rfl, rfl, rfl, rfl, rfl, rfl⟩ fun i => by rw [tick_setWorker hx]

theorem Sound.setWorker (h : s.Sound option) {index : Nat} {x : SocketWorkerInfo}
    (hx : x.tick = (s.workers index).tick) : (s.setWorker index x).Sound option := by
  refine h.of_agree h.streams h.connectors (fun i hi => ?_) h.pending fun id => .setWorker hx
  rw [tick_setWorker hx] at hi
  exact h.ticks i hi

/-- Connectors never have a session id. -/
theorem Sound.setConnectors (h : s.Sound option) {connectorList : Nat → Option ConnectorInfo}
    {connecting : List Nat} {currentConnectorId : Nat} {lost : Nat → Option (Nat × SessionKey)}
    (hconnectors : ∀ c info, connectorList c = some info → info.sessionId = 0) :
    { s with connectorList, connecting, currentConnectorId, lost }.Sound option :=
  h.same ⟨rfl, rfl, rfl, rfl, rfl, rfl, rfl⟩ hconnectors h.ticks fun _ _ => Iff.rfl

/-- A stream goes on without a change of its session. -/
theorem Sound.setStream (h : s.Sound option) {t : SocketStream} {x : Stream} (hx : StreamSound x)
    (hsession : x.session = (s.stream t).session)
    (hlink : x.session ≠ none → x.link = (s.stream t).link ∨
      (s.stream t).link.isLive = true ∧ x.link.isLive = true)
    (htells : x.tellsAlived → (s.stream t).tellsAlived) : (s.setStream t x).Sound option := by
  refine h.of_agree (fun t' => ?_) h.connectors h.ticks h.pending fun id => ?_
  · rw [stream_setStream]
    split
    · exact hx
    · exact h.streams t'
  · refine ⟨Iff.rfl, fun t' ht' => ?_, fun t' ht' => ?_, Iff.rfl, fun _ => Iff.rfl, fun hm => hm, rfl,
      rfl⟩
    · rw [stream_setStream] at ht'
      split at ht'
      next heq =>
        rw [heq, ← hsession]
        exact ht'
      next =>
        exact ht'
    · rw [stream_setStream]
      by_cases heq : t' = t
      · subst heq
        rw [if_pos rfl]
        have hsome : x.session = some id := hsession.trans ht'
        exact ⟨hsome, hlink (by simp [hsome]), htells⟩
      · rw [if_neg heq]
        exact ⟨ht', .inl rfl, fun ht => ht⟩

end EngineState

end Engine
end SeamlessServer
