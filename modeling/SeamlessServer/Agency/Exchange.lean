import SeamlessServer.Agency.Scenes
import SeamlessServer.Engine.Waiting

/-!
# Agency.Exchange — the throttler of an agency

An agency has one throttler for all its sessions, those of the play servers and those of the clients,
and what waits is kept under the id of a session.  `SendToSector` throttles, as do the requests to
spawn and to remove; a move is posted at once, and `Send` does not go through the throttler.
`OnSocketSessionClosed` cleans up what waits for a client, and `AgencyWorker::Update` flushes
everything.

The pools of the two engines both number from one.  As long as no two of the sessions share an id, the
throttler makes a way of its own for each client, a pair of `Lanes` (`Exchange.posts_carryAll`).
-/

namespace SeamlessServer
namespace Agency

open Engine Game Protocol Utility

/-! ## Sessions and postings -/

/-- The other end of a session. -/
inductive Peer
  | server (serverId : Nat)
  | client (userId : Nat)
  deriving DecidableEq

/-- The packets as they are written, and as a client reads them. -/
structure Codec where
  toServer : AgencyPacket → Packet
  toClient : ClientPacket → Packet
  read : Packet → Option ClientPacket

/-- How the throttler is asked to post a packet to a play server; nothing means `Send`. -/
def AgencyPacket.policy : AgencyPacket → Option PacketPostingPolicy
  | .spawnCharacterRq _ => some .Throttle
  | .characterMoveRq _ => some .Immediate
  | .removeCharacterRq _ => some .Throttle
  | .removeCharacterRs _ _ _ => none

/-- The throttler, the sessions, and what has been written to each peer. -/
structure Exchange where
  throttler : PacketThrottler GameSession
  sessions : Peer → Option GameSession
  written : Peer → List Packet

namespace Exchange

variable (g : GameServerConfig) (codec : Codec) (x : Exchange)

/-- The play servers are linked, and nothing has been posted. -/
def new (tick now : Milliseconds) (order : List Nat) (sessions : Peer → GameSession) : Exchange where
  throttler := PacketThrottler.new tick now
  sessions := fun
    | .server k => if k ∈ order then some (sessions (.server k)) else none
    | .client _ => none
  written := fun _ => []

/-- A call of the throttler; what it sends goes to whoever the session belongs to.  The packet that
announces an overflow is left out. -/
def absorb (r : Outcome GameSession) : Exchange :=
  { x with
    throttler := r.state
    written := fun p => x.written p ++ (x.sessions p).elim [] (sentPackets · r.actions) }

/-- `PostPacket`. -/
def post (p : Peer) (packet : Packet) (policy : PacketPostingPolicy) (memory : Bool × Bool) :
    Exchange :=
  match x.sessions p with
  | none => x
  | some session =>
      x.absorb (x.throttler.postPacket g.sessions session packet policy memory.1 memory.2)

/-- `Send`, for which a buffer of its own is allocated. -/
def send (p : Peer) (packet : Packet) (allocated : Bool) : Exchange :=
  if (x.sessions p).isSome ∧ allocated then
    { x with written := Function.update x.written p (x.written p ++ [packet]) }
  else
    x

/-- A posting of the agency.  The packet that `CloseSession` writes is none of a client's. -/
def carry (memory : Bool × Bool) : AgencyPosting → Exchange
  | .toServer k packet =>
      match packet.policy with
      | some policy => x.post g (.server k) (codec.toServer packet) policy memory
      | none => x.send (.server k) (codec.toServer packet) memory.1
  | .toClient u packet =>
      if packet.throttled then
        x.post g (.client u) (codec.toClient packet) .Throttle memory
      else
        x.send (.client u) (codec.toClient packet) memory.1
  | .closeSession _ => x

/-- The postings of a handler, one after the other, as long as none of them throws.  `memory` tells
which allocations succeed; those that it does not tell of do. -/
def carryAll (x : Exchange) : List AgencyPosting → List (Bool × Bool) → Exchange
  | [], _ => x
  | posting :: posts, memory =>
      (x.carry g codec (memory.headD (true, true)) posting).carryAll posts memory.tail

/-- `CleanUp` for the session of a peer. -/
def cleanUp (p : Peer) : Exchange :=
  match x.sessions p with
  | none => x
  | some session => x.absorb (x.throttler.cleanUp g.sessions session)

/-- A client is given a session. -/
def attach (u : Nat) (session : GameSession) : Exchange :=
  { x with sessions := Function.update x.sessions (.client u) (some session) }

/-- The session goes back to its pool. -/
def detach (u : Nat) : Exchange :=
  { x with sessions := Function.update x.sessions (.client u) none }

/-- `ForceFlushPacket`, which `AgencyWorker::Update` calls. -/
def forceFlush : Exchange := x.absorb x.throttler.forceFlushPacket

/-- `TryFlushPacket`, which `UpdateEveryTick` calls. -/
def tryFlush (now : Milliseconds) : Exchange := x.absorb (x.throttler.tryFlushPacket now)

/-- What waits in the throttler under the id of the session of a peer. -/
def waits (p : Peer) : List Packet := (x.sessions p).elim [] (pendingPackets g.sessions x.throttler)

/-- What a client shows that has read the packets. -/
def shows (packets : List Packet) : Scene := (packets.filterMap codec.read).foldl Scene.after {}

/-- The posting fits an empty buffer of the session, and a client reads it as it was posted. -/
def Suits : AgencyPosting → Prop
  | .toServer _ packet =>
      packetLengthSize + packetHeaderSize + (codec.toServer packet).body.length ≤
        g.intraWriteCapacity
  | .toClient _ packet =>
      packetLengthSize + packetHeaderSize + (codec.toClient packet).body.length ≤
          g.userWriteCapacity ∧
        codec.read (codec.toClient packet) = some packet
  | .closeSession _ => True

instance (posting : AgencyPosting) : Decidable (Suits g codec posting) :=
  match posting with
  | .toServer .. => inferInstanceAs (Decidable (_ ≤ _))
  | .toClient .. => inferInstanceAs (Decidable (_ ∧ _))
  | .closeSession _ => isTrue trivial

/-! ## Sessions with ids of their own -/

/-- The play servers have sessions of the one pool and the clients of the other, nobody has two of one
id, and what is in the throttler waits for one of them. -/
structure Sound : Prop where
  servers : ∀ k session, x.sessions (.server k) = some session →
    ∃ i, session = .intra i ∧ g.Exists (.intra i)
  clients : ∀ u session, x.sessions (.client u) = some session →
    ∃ i, session = .user i ∧ g.Exists (.user i)
  injective : ∀ p q session, x.sessions p = some session → x.sessions q = some session → p = q
  apart : ∀ k u i, x.sessions (.server k) = some (.intra i) → x.sessions (.client u) ≠ some (.user i)
  entries : Entries (Engine.Filled g.sessions {session | ∃ p, x.sessions p = some session}) x.throttler

variable {g codec x} {p q : Peer} {packet : Packet} {policy : PacketPostingPolicy}

namespace Sound

/-- No two sessions share an id. -/
theorem injOn (h : x.Sound g) :
    Set.InjOn g.sessions.sessionId {session | ∃ p, x.sessions p = some session} := by
  have hexists : ∀ session ∈ {session | ∃ p, x.sessions p = some session}, g.Exists session := by
    rintro session ⟨p, hp⟩
    cases p with
    | server k =>
        obtain ⟨i, rfl, hi⟩ := h.servers k session hp
        exact hi
    | client u =>
        obtain ⟨i, rfl, hi⟩ := h.clients u session hp
        exact hi
  refine (g.injOn_sessionId_iff hexists).2 ?_
  rintro ⟨i, ⟨⟨p, hp⟩, q, hq⟩ | ⟨⟨p, hp⟩, -⟩⟩
  · -- one of the play servers and one of the clients
    cases p with
    | client u =>
        obtain ⟨j, hj, -⟩ := h.clients u _ hp
        cases hj
    | server k =>
        cases q with
        | server l =>
            obtain ⟨j, hj, -⟩ := h.servers l _ hq
            cases hj
        | client u => exact h.apart k u i hp hq
  · cases p with
    | server k =>
        obtain ⟨j, hj, -⟩ := h.servers k _ hp
        cases hj
    | client u =>
        obtain ⟨j, hj, -⟩ := h.clients u _ hp
        cases hj

/-- Sessions stay, and the throttler keeps to them. -/
theorem of_entries (h : x.Sound g) {y : Exchange} (hsessions : y.sessions = x.sessions)
    (hentries : Entries (Engine.Filled g.sessions {session | ∃ p, x.sessions p = some session})
      y.throttler) : y.Sound g where
  servers := by
    rw [hsessions]
    exact h.servers
  clients := by
    rw [hsessions]
    exact h.clients
  injective := by
    rw [hsessions]
    exact h.injective
  apart := by
    rw [hsessions]
    exact h.apart
  entries := by
    rw [hsessions]
    exact hentries

/-- The session of a peer, and its write buffers. -/
theorem capacity_server (h : x.Sound g) {k : Nat} {session : GameSession}
    (hsession : x.sessions (.server k) = some session) :
    g.sessions.writeCapacity session = g.intraWriteCapacity := by
  obtain ⟨i, rfl, -⟩ := h.servers k session hsession
  rfl

theorem capacity_client (h : x.Sound g) {u : Nat} {session : GameSession}
    (hsession : x.sessions (.client u) = some session) :
    g.sessions.writeCapacity session = g.userWriteCapacity := by
  obtain ⟨i, rfl, -⟩ := h.clients u session hsession
  rfl

end Sound

@[simp] theorem sessions_absorb (r : Outcome GameSession) : (x.absorb r).sessions = x.sessions := rfl

/-- A packet that fits the buffers of the session. -/
def Fits (g : GameServerConfig) (x : Exchange) (p : Peer) (packet : Packet) : Prop :=
  ∀ session, x.sessions p = some session →
    packetLengthSize + packetHeaderSize + packet.body.length ≤ g.sessions.writeCapacity session

/-- Nothing has changed for a peer. -/
structure Same (g : GameServerConfig) (y x : Exchange) (q : Peer) : Prop where
  written : y.written q = x.written q
  sessions : y.sessions = x.sessions
  find : ∀ session, x.sessions q = some session →
    y.throttler.throttleData.find (g.sessions.sessionId session) =
      x.throttler.throttleData.find (g.sessions.sessionId session)

theorem Same.refl (g : GameServerConfig) (x : Exchange) (q : Peer) : x.Same g x q :=
  ⟨rfl, rfl, fun _ _ => rfl⟩

theorem Same.trans {y z : Exchange} (h : z.Same g y q) (h' : y.Same g x q) : z.Same g x q where
  written := h.written.trans h'.written
  sessions := h.sessions.trans h'.sessions
  find := fun session hsession =>
    (h.find session (h'.sessions ▸ hsession)).trans (h'.find session hsession)

theorem Same.waits {y : Exchange} (h : y.Same g x q) : y.waits g q = x.waits g q := by
  rw [Exchange.waits, h.sessions, Exchange.waits]
  cases hq : x.sessions q with
  | none => rfl
  | some session => exact pendingPackets_congr (h.find session hq)

/-- Nothing waits under an id without an entry. -/
theorem waits_of_find (h : ∀ session, x.sessions q = some session →
      x.throttler.throttleData.find (g.sessions.sessionId session) = none) : x.waits g q = [] := by
  rw [waits]
  cases hsession : x.sessions q with
  | none => rfl
  | some session =>
      rw [Option.elim_some, pendingPackets, PacketThrottler.pendingBuffer, h session hsession]
      rfl

/-! ## Posts -/

@[simp] theorem sessions_post (memory : Bool × Bool) :
    (x.post g p packet policy memory).sessions = x.sessions := by
  unfold post
  split <;> rfl

@[simp] theorem sessions_send (allocated : Bool) :
    (x.send p packet allocated).sessions = x.sessions := by
  unfold send
  split <;> rfl

@[simp] theorem sessions_carry (memory : Bool × Bool) (posting : AgencyPosting) :
    (x.carry g codec memory posting).sessions = x.sessions := by
  unfold carry
  split
  · split <;> simp
  · split <;> simp
  · rfl

@[simp] theorem sessions_carryAll (posts : List AgencyPosting) (memory : List (Bool × Bool))
    (x : Exchange) : (x.carryAll g codec posts memory).sessions = x.sessions := by
  induction posts generalizing x memory with
  | nil => rfl
  | cons posting posts ih => rw [carryAll, ih, sessions_carry]

section Post

variable (h : x.Sound g) (hfits : Fits g x p packet)
include h hfits

theorem sound_post (policy : PacketPostingPolicy) :
    (x.post g p packet policy (true, true)).Sound g := by
  unfold post
  cases hp : x.sessions p with
  | none => exact h
  | some session =>
      have hregular : (Op.postPacket session packet policy true true).Regular g.sessions
          {session | ∃ p, x.sessions p = some session} := ⟨⟨p, hp⟩, hfits session hp, rfl, rfl⟩
      exact h.of_entries rfl (apply_regular h.injOn h.entries hregular).1

/-- The others do not notice. -/
theorem post_other (policy : PacketPostingPolicy) (hq : q ≠ p) :
    (x.post g p packet policy (true, true)).Same g x q := by
  refine ⟨?_, sessions_post _, fun session' hother => ?_⟩
  · unfold post
    cases hp : x.sessions p with
    | none => rfl
    | some session =>
        cases hother : x.sessions q with
        | none => simp [absorb, hother]
        | some session' =>
            have hne : session' ≠ session := by
              rintro rfl
              exact hq (h.injective q p _ hother hp)
            have hsent := (Waiting.post_other h.injOn h.entries ⟨p, hp⟩ (hfits session hp) policy
              ⟨q, hother⟩ hne).1
            simp [absorb, hother, hsent]
  · unfold post
    cases hp : x.sessions p with
    | none => rfl
    | some session =>
        have hne : session' ≠ session := by
          rintro rfl
          exact hq (h.injective q p _ hother hp)
        exact (Waiting.post_other h.injOn h.entries ⟨p, hp⟩ (hfits session hp) policy ⟨q, hother⟩
          hne).2

/-- What is throttled waits, and what has waited may be sent. -/
theorem throttle_own (hp : x.sessions p ≠ none) :
    ((x.post g p packet .Throttle (true, true)).written p = x.written p ∧
        (x.post g p packet .Throttle (true, true)).waits g p = x.waits g p ++ [packet]) ∨
      ((x.post g p packet .Throttle (true, true)).written p = x.written p ++ x.waits g p ∧
        (x.post g p packet .Throttle (true, true)).waits g p = [packet]) := by
  obtain ⟨session, hsession⟩ := Option.ne_none_iff_exists'.1 hp
  simp only [post, hsession, waits, sessions_absorb, Option.elim_some]
  rcases Waiting.throttle_own h.injOn h.entries ⟨p, hsession⟩ (hfits session hsession) with
    ⟨hsent, hwaiting⟩ | ⟨hsent, hwaiting⟩
  · exact .inl ⟨by simp [absorb, hsession, hsent], hwaiting⟩
  · exact .inr ⟨by simp [absorb, hsession, hsent], hwaiting⟩

end Post

@[simp] theorem throttler_send (allocated : Bool) :
    (x.send p packet allocated).throttler = x.throttler := by
  unfold send
  split <;> rfl

theorem send_other (allocated : Bool) (hq : q ≠ p) : (x.send p packet allocated).Same g x q := by
  unfold send
  split
  · exact ⟨Function.update_of_ne hq _ _, rfl, fun _ _ => rfl⟩
  · exact ⟨rfl, rfl, fun _ _ => rfl⟩

theorem waits_send (allocated : Bool) : (x.send p packet allocated).waits g q = x.waits g q := by
  rw [waits, sessions_send, throttler_send, waits]

theorem written_send_self (hp : x.sessions p ≠ none) :
    (x.send p packet true).written p = x.written p ++ [packet] := by
  rw [send, if_pos ⟨Option.isSome_iff_ne_none.2 hp, rfl⟩]
  exact Function.update_self _ _ _

/-! ## The way to a client -/

/-- The packets of a client, those that it has been sent and those that wait. -/
def lanes (g : GameServerConfig) (codec : Codec) (x : Exchange) (u : Nat) : Lanes ClientPacket where
  sent := (x.written (.client u)).filterMap codec.read
  held := (x.waits g (.client u)).filterMap codec.read

theorem Same.lanes {y : Exchange} {u : Nat} (h : y.Same g x (.client u)) :
    y.lanes g codec u = x.lanes g codec u := by
  rw [Exchange.lanes, h.written, h.waits, Exchange.lanes]

section Carry

variable (h : x.Sound g) {posting : AgencyPosting} (hsuits : Suits g codec posting)
include h hsuits

theorem fits_of_suits :
    (∀ k packet, posting = .toServer k packet → Fits g x (.server k) (codec.toServer packet)) ∧
      ∀ u packet, posting = .toClient u packet → Fits g x (.client u) (codec.toClient packet) := by
  refine ⟨?_, ?_⟩
  · rintro k packet rfl session hsession
    rw [h.capacity_server hsession]
    exact hsuits
  · rintro u packet rfl session hsession
    rw [h.capacity_client hsession]
    exact hsuits.1

theorem sound_carry : (x.carry g codec (true, true) posting).Sound g := by
  obtain ⟨hserver, hclient⟩ := fits_of_suits h hsuits
  have hsend : ∀ (p : Peer) (packet : Packet), (x.send p packet true).Sound g := by
    intro p packet
    refine h.of_entries (sessions_send _) ?_
    rw [throttler_send]
    exact h.entries
  cases posting with
  | closeSession v => exact h
  | toServer k packet =>
      unfold carry
      dsimp only
      split
      · exact sound_post h (hserver k packet rfl) _
      · exact hsend _ _
  | toClient v packet =>
      unfold carry
      dsimp only
      split
      · exact sound_post h (hclient v packet rfl) _
      · exact hsend _ _

/-- Whom the posting is not for does not notice. -/
theorem carry_other {u : Nat} (hother : ∀ packet, posting ≠ .toClient u packet) :
    (x.carry g codec (true, true) posting).Same g x (.client u) := by
  obtain ⟨hserver, hclient⟩ := fits_of_suits h hsuits
  cases posting with
  | closeSession v => exact .refl g x _
  | toServer k packet =>
      have hne : Peer.client u ≠ .server k := by simp
      unfold carry
      dsimp only
      split
      · exact post_other h (hserver k packet rfl) _ hne
      · exact send_other _ hne
  | toClient v packet =>
      have hne : Peer.client u ≠ .client v := by
        intro heq
        cases heq
        exact hother packet rfl
      unfold carry
      dsimp only
      split
      · exact post_other h (hclient v packet rfl) _ hne
      · exact send_other _ hne

/-- A posting to a client that is there takes its way. -/
theorem posts_carry (hthere : ∀ u packet, posting = .toClient u packet →
      x.sessions (.client u) ≠ none) (u : Nat) :
    Posts (x.lanes g codec u) (received u [posting])
      ((x.carry g codec (true, true) posting).lanes g codec u) := by
  by_cases hown : ∃ packet, posting = .toClient u packet
  · obtain ⟨packet, rfl⟩ := hown
    have hfits := (fits_of_suits h hsuits).2 u packet rfl
    have hu := hthere u packet rfl
    have hread := hsuits.2
    simp only [received, List.filterMap_cons, List.filterMap_nil, if_true]
    unfold carry
    dsimp only
    split
    next hthrottled =>
      rcases throttle_own h hfits hu with ⟨hwritten, hwaits⟩ | ⟨hwritten, hwaits⟩
      · have hqueue : (x.post g (.client u) (codec.toClient packet) .Throttle (true, true)).lanes
            g codec u = (x.lanes g codec u).queue packet := by
          simp [lanes, Lanes.queue, hwritten, hwaits, hread]
        rw [hqueue]
        exact .queue hthrottled (.nil _)
      · -- the buffer was full
        have hfull : (x.post g (.client u) (codec.toClient packet) .Throttle (true, true)).lanes
            g codec u = (x.lanes g codec u).flush.queue packet := by
          simp [lanes, Lanes.queue, Lanes.flush, hwritten, hwaits, hread]
        rw [hfull]
        exact .full hthrottled (.nil _)
    next hexpress =>
      have hsent : (x.send (.client u) (codec.toClient packet) true).lanes g codec u =
          (x.lanes g codec u).express packet := by
        simp [lanes, Lanes.express, written_send_self hu, waits_send, hread]
      rw [hsent]
      exact .express (by simpa using hexpress) (.nil _)
  · have hother : ∀ packet, posting ≠ .toClient u packet := fun packet heq => hown ⟨packet, heq⟩
    rw [received_of_toServers (by simpa using hother), (carry_other h hsuits hother).lanes]
    exact .nil _

end Carry

section CarryAll

variable {posts : List AgencyPosting} (hsuits : ∀ posting ∈ posts, Suits g codec posting)
  {memory : List (Bool × Bool)} (hmemory : ∀ flags ∈ memory, flags = (true, true))
include hsuits hmemory

/-- The postings of a handler take their ways one after the other, as long as allocations succeed. -/
theorem posts_carryAll : ∀ {x : Exchange}, x.Sound g →
    (∀ u packet, .toClient u packet ∈ posts → x.sessions (.client u) ≠ none) →
      (x.carryAll g codec posts memory).Sound g ∧
        (∀ u, Posts (x.lanes g codec u) (received u posts)
          ((x.carryAll g codec posts memory).lanes g codec u)) ∧
        ∀ u, (∀ packet, .toClient u packet ∉ posts) →
          (x.carryAll g codec posts memory).Same g x (.client u) := by
  induction posts generalizing memory with
  | nil =>
      intro x h _
      exact ⟨h, fun u => .nil _, fun u _ => .refl g x _⟩
  | cons posting posts ih =>
      intro x h hthere
      have hhead : memory.headD (true, true) = (true, true) := by
        cases memory with
        | nil => rfl
        | cons flags memory => exact hmemory flags List.mem_cons_self
      have hfirst := hsuits posting List.mem_cons_self
      rw [carryAll, hhead]
      obtain ⟨hsound, hposts, hsame⟩ := ih
        (fun p hp => hsuits p (List.mem_cons_of_mem _ hp))
        (fun flags hflags => hmemory flags (List.mem_of_mem_tail hflags)) (sound_carry h hfirst)
        fun u packet hmem => by
          rw [sessions_carry]
          exact hthere u packet (List.mem_cons_of_mem _ hmem)
      refine ⟨hsound, fun u => ?_, fun u hu => ?_⟩
      · rw [← List.singleton_append, received_append]
        exact (posts_carry h hfirst
          (fun v packet heq => hthere v packet (heq ▸ List.mem_cons_self)) u).append (hposts u)
      · refine (hsame u fun packet hmem => hu packet (List.mem_cons_of_mem _ hmem)).trans ?_
        exact carry_other h hfirst fun packet heq => hu packet (heq ▸ List.mem_cons_self)

end CarryAll

/-! ## Sessions come and go, and what waits is flushed -/

/-- A client is cleaned up. -/
theorem cleanUp_spec (h : x.Sound g) (p : Peer) :
    (x.cleanUp g p).sessions = x.sessions ∧ (x.cleanUp g p).Sound g ∧
      (x.cleanUp g p).written = x.written ∧
      (∀ session, x.sessions p = some session →
        (x.cleanUp g p).throttler.throttleData.find (g.sessions.sessionId session) = none) ∧
      ∀ q, q ≠ p → (x.cleanUp g p).Same g x q := by
  unfold cleanUp
  cases hp : x.sessions p with
  | none =>
      exact ⟨rfl, h, rfl, by simp, fun q _ => .refl g x q⟩
  | some session =>
      have hwritten : (x.absorb (x.throttler.cleanUp g.sessions session)).written = x.written := by
        funext q
        cases hq : x.sessions q <;> simp [absorb, hq, Waiting.sentPackets_cleanUp]
      refine ⟨rfl, h.of_entries rfl (entries_cleanUp h.entries), hwritten, ?_, ?_⟩
      · intro session' heq
        cases heq
        exact (Waiting.find_cleanUp _ _ _ _).trans (if_pos rfl)
      · refine fun q hq => ⟨congrFun hwritten q, rfl, fun session' hother => ?_⟩
        refine (Waiting.find_cleanUp _ _ _ _).trans (if_neg fun hid => hq ?_)
        have hsession : session' = session := h.injOn ⟨q, hother⟩ ⟨p, hp⟩ hid
        exact h.injective q p session (hsession ▸ hother) hp

section Attach

variable {u i : Nat} {session : GameSession}

@[simp] theorem sessions_attach_self : (x.attach u session).sessions (.client u) = some session :=
  Function.update_self _ _ _

theorem sessions_attach_of_ne (hp : p ≠ .client u) : (x.attach u session).sessions p = x.sessions p :=
  Function.update_of_ne hp _ _

/-- Who has a session is the new client, or had it before. -/
theorem sessions_attach_cases {session' : GameSession}
    (hp : (x.attach u session).sessions p = some session') :
    (p = .client u ∧ session' = session) ∨ (p ≠ .client u ∧ x.sessions p = some session') := by
  by_cases heq : p = .client u
  · subst heq
    exact .inl ⟨rfl, (Option.some.inj (sessions_attach_self.symm.trans hp)).symm⟩
  · exact .inr ⟨heq, (sessions_attach_of_ne heq).symm.trans hp⟩

/-- Another client does not notice. -/
theorem lanes_attach_of_ne {v : Nat} (hv : v ≠ u) :
    (x.attach u session).lanes g codec v = x.lanes g codec v := by
  have hne : Peer.client v ≠ .client u := fun heq => hv (Peer.client.inj heq)
  have hsame : (x.attach u session).waits g (.client v) = x.waits g (.client v) := by
    rw [waits, sessions_attach_of_ne hne]
    rfl
  rw [lanes, hsame]
  rfl

theorem ne_of_sessions (hnew : x.sessions (.client u) = none) (hp : x.sessions p = some session) :
    p ≠ .client u := by
  rintro rfl
  rw [hnew] at hp
  cases hp

variable (h : x.Sound g) (hnew : x.sessions (.client u) = none) (hexists : g.Exists (.user i))
  (hfree : ∀ p, x.sessions p ≠ some (.user i))
  (hapart : ∀ k, x.sessions (.server k) ≠ some (.intra i))
include h hnew hexists hfree hapart

/-- A client is given a session that nobody has. -/
theorem sound_attach : (x.attach u (.user i)).Sound g where
  servers := by
    intro k session hk
    exact h.servers k session ((sessions_attach_of_ne (by simp)).symm.trans hk)
  clients := by
    intro v session hv
    rcases sessions_attach_cases hv with ⟨-, rfl⟩ | ⟨-, hv⟩
    · exact ⟨i, rfl, hexists⟩
    · exact h.clients v session hv
  injective := by
    intro p q session hp hq
    rcases sessions_attach_cases hp with ⟨rfl, rfl⟩ | ⟨-, hp⟩
    · rcases sessions_attach_cases hq with ⟨rfl, -⟩ | ⟨-, hq⟩
      · rfl
      · exact absurd hq (hfree q)
    · rcases sessions_attach_cases hq with ⟨rfl, rfl⟩ | ⟨-, hq⟩
      · exact absurd hp (hfree p)
      · exact h.injective p q session hp hq
  apart := by
    intro k v j hk hv
    rw [sessions_attach_of_ne (by simp)] at hk
    rcases sessions_attach_cases hv with ⟨-, heq⟩ | ⟨-, hv⟩
    · cases heq
      exact hapart k hk
    · exact h.apart k v j hk hv
  entries := by
    intro id data hfind
    obtain ⟨⟨p, hp⟩, hid, hbuffer⟩ := h.entries id data hfind
    exact ⟨⟨p, (sessions_attach_of_ne (ne_of_sessions hnew hp)).trans hp⟩, hid, hbuffer⟩

/-- Nothing waits under the id of a session that nobody has had. -/
theorem find_attach : x.throttler.throttleData.find (g.sessions.sessionId (.user i)) = none := by
  by_contra hsome
  obtain ⟨data, hfind⟩ := Option.ne_none_iff_exists'.1 hsome
  obtain ⟨⟨p, hp⟩, hid, -⟩ := h.entries _ data hfind
  have heq : data.session = .user i :=
    (sound_attach h hnew hexists hfree hapart).injOn
      ⟨p, (sessions_attach_of_ne (ne_of_sessions hnew hp)).trans hp⟩
      ⟨.client u, sessions_attach_self⟩ hid
  exact hfree p (heq ▸ hp)

theorem lanes_attach (v : Nat) : (x.attach u (.user i)).lanes g codec v = x.lanes g codec v := by
  by_cases hv : v = u
  · subst hv
    have hfind := find_attach h hnew hexists hfree hapart
    have hwaits : (x.attach v (.user i)).waits g (.client v) = [] := by
      refine waits_of_find fun session hsession => ?_
      cases sessions_attach_self.symm.trans hsession
      exact hfind
    rw [lanes, hwaits, lanes, waits, hnew]
    rfl
  · exact lanes_attach_of_ne hv

end Attach

section Detach

variable {u : Nat} {session : GameSession}

@[simp] theorem sessions_detach_self : (x.detach u).sessions (.client u) = none :=
  Function.update_self _ _ _

theorem sessions_detach_of_ne (hp : p ≠ .client u) : (x.detach u).sessions p = x.sessions p :=
  Function.update_of_ne hp _ _

theorem sessions_of_detach (hp : (x.detach u).sessions p = some session) :
    x.sessions p = some session :=
  (sessions_detach_of_ne (ne_of_sessions sessions_detach_self hp)).symm.trans hp

variable (hidle : ∀ session, x.sessions (.client u) = some session →
  x.throttler.throttleData.find (g.sessions.sessionId session) = none)
include hidle

/-- A client for which nothing waits gives its session back. -/
theorem sound_detach (h : x.Sound g) : (x.detach u).Sound g where
  servers := fun k session hk => h.servers k session (sessions_of_detach hk)
  clients := fun v session hv => h.clients v session (sessions_of_detach hv)
  injective := fun p q session hp hq =>
    h.injective p q session (sessions_of_detach hp) (sessions_of_detach hq)
  apart := fun k v i hk hv => h.apart k v i (sessions_of_detach hk) (sessions_of_detach hv)
  entries := by
    intro id data hfind
    obtain ⟨⟨p, hp⟩, hid, hbuffer⟩ := h.entries id data hfind
    have hne : p ≠ .client u := by
      rintro rfl
      have hnone := hidle data.session hp
      rw [hid] at hnone
      exact absurd (hnone.symm.trans hfind) (by simp)
    exact ⟨⟨p, (sessions_detach_of_ne hne).trans hp⟩, hid, hbuffer⟩

theorem lanes_detach (v : Nat) : (x.detach u).lanes g codec v = x.lanes g codec v := by
  by_cases hv : v = u
  · subst hv
    rw [lanes, waits, sessions_detach_self, lanes, waits_of_find hidle]
    rfl
  · have hne : Peer.client v ≠ .client u := fun heq => hv (Peer.client.inj heq)
    have hsame : (x.detach u).waits g (.client v) = x.waits g (.client v) := by
      rw [waits, sessions_detach_of_ne hne]
      rfl
    rw [lanes, hsame]
    rfl

end Detach

variable (codec) in
/-- A flush sends what waits. -/
theorem forceFlush_spec (h : x.Sound g) :
    x.forceFlush.Sound g ∧ (∀ p, x.forceFlush.written p = x.written p ++ x.waits g p) ∧
      ∀ u, x.forceFlush.lanes g codec u = (x.lanes g codec u).flush := by
  have hwritten : ∀ p, x.forceFlush.written p = x.written p ++ x.waits g p := by
    intro p
    cases hp : x.sessions p with
    | none => simp [forceFlush, absorb, waits, hp]
    | some session =>
        have hsent := Waiting.flush_own h.injOn h.entries ⟨p, hp⟩
        simp [forceFlush, absorb, PacketThrottler.forceFlushPacket, waits, hp, hsent]
  have hwaits : ∀ p, x.forceFlush.waits g p = [] := by
    intro p
    rw [waits]
    cases x.forceFlush.sessions p <;> rfl
  refine ⟨h.of_entries rfl (entries_empty rfl), hwritten, fun u => ?_⟩
  simp [lanes, Lanes.flush, hwritten, hwaits]

variable (codec) in
/-- So does one by the clock, or it sends nothing. -/
theorem tryFlush_spec (h : x.Sound g) (now : Milliseconds) :
    (x.tryFlush now).Sound g ∧
      ((∀ u, (x.tryFlush now).lanes g codec u = (x.lanes g codec u).flush) ∨
        ∀ u, (x.tryFlush now).lanes g codec u = x.lanes g codec u) := by
  refine ⟨h.of_entries rfl (entries_tryFlushPacket h.entries), ?_⟩
  rcases x.throttler.tryFlushPacket_cases now with ⟨hmap, hactions⟩ | ⟨hmap, hactions⟩
  · refine .inl fun u => ?_
    rw [← (forceFlush_spec codec h).2.2 u]
    refine Same.lanes ⟨?_, rfl, fun session _ => ?_⟩
    · simp [tryFlush, forceFlush, absorb, hactions, PacketThrottler.forceFlushPacket]
    · simp [tryFlush, forceFlush, absorb, hmap, PacketThrottler.forceFlushPacket]
  · refine .inr fun u => Same.lanes ⟨?_, rfl, fun session _ => ?_⟩
    · cases hu : x.sessions (.client u) <;> simp [tryFlush, absorb, hu, hactions, sentPackets]
    · simp [tryFlush, absorb, hmap]

end Exchange

end Agency
end SeamlessServer
