import SeamlessServer.Agency.Audience
import SeamlessServer.Agency.Exchange

/-!
# Agency.Delivery — what clients see of the world

`Agency.Audience` with the throttler of each agency.  `clients_see` is about runs in which ids are
given once, no client is given a session with the id of a play server's, write buffers are at hand,
and packets fit and are read as they were written: when the play servers and an agency have nothing
left to handle, what has been written to a client by the next flush shows it the objects of its
sector, the copies of those in neighbouring sectors included, and no others.
-/

namespace SeamlessServer
namespace Agency

open Engine Game Protocol Utility

/-! ## Play servers, agencies and clients -/

/-- What the engine has to give in a step: sessions for those who are new, the clock of a new
throttler, and memory. -/
structure Provision where
  sessions : Peer → GameSession
  tick : Milliseconds
  now : Milliseconds
  memory : List (Bool × Bool)

structure Delivery where
  service : Service
  /-- No step reads these. -/
  rosters : Nat → Roster
  exchanges : Nat → Exchange

inductive DeliveryEvent
  | service (e : ServiceEvent) (provision : Provision)
  /-- `OnClientData`, for a move. -/
  | clientData (agencyId userId : Nat) (position : Vector2) (direction : Direction)
      (memory : List (Bool × Bool))
  /-- `AgencyWorker::Update`. -/
  | update (agencyId : Nat)
  | updateEveryTick (agencyId : Nat) (now : Milliseconds)

namespace Delivery

variable (D : Deployment) (nonzero : ∀ x, D.owner x ≠ some 0) (g : GameServerConfig) (codec : Codec)

def new : Delivery where
  service := Service.new D
  rosters := fun _ => {}
  exchanges := fun _ => ⟨PacketThrottler.new 0 0, fun _ => none, fun _ => []⟩

/-- What the clients are posted, whatever is in between. -/
def audience (w : Delivery) : Audience where
  service := w.service
  clients := fun a => { toRoster := w.rosters a, lanes := (w.exchanges a).lanes g codec }

/-- What the agency posts. -/
def posts (s : Service) : ServiceEvent → List AgencyPosting
  | .hear agencyId now unset =>
      match s.links agencyId with
      | none => []
      | some link =>
          match link.pending with
          | [] => []
          | (source, message) :: _ =>
              (link.agency.onIntraServerData source (message.packet unset) now).posts
  | .accept agencyId =>
      match s.links agencyId with
      | none => []
      | some link => link.agency.accept.posts
  | .close agencyId userId toOwner =>
      match s.links agencyId with
      | none => []
      | some link => (link.agency.close userId toOwner).posts
  | _ => []

/-- The client that is accepted next. -/
def nextUser (s : Service) (agencyId : Nat) : Nat :=
  ((s.links agencyId).map fun link => link.agency.currentUniversalSessionId).getD 0

def exchangesAfter (w : Delivery) (provision : Provision) (e : ServiceEvent) : Nat → Exchange :=
  let posts := posts w.service e
  match e with
  | .connect agencyId order =>
      Function.update w.exchanges agencyId
        (.new provision.tick provision.now order provision.sessions)
  | .hear agencyId _ _ =>
      Function.update w.exchanges agencyId
        ((w.exchanges agencyId).carryAll g codec posts provision.memory)
  | .accept agencyId =>
      let u := nextUser w.service agencyId
      Function.update w.exchanges agencyId
        (((w.exchanges agencyId).attach u (provision.sessions (.client u))).carryAll g codec posts
          provision.memory)
  | .close agencyId userId _ =>
      Function.update w.exchanges agencyId
        ((((w.exchanges agencyId).cleanUp g (.client userId)).carryAll g codec posts
          provision.memory).detach userId)
  | .disconnect _ => w.exchanges
  | .play _ => w.exchanges

/-- The pools hand out sessions that nobody has. -/
def Provides (w : Delivery) (provision : Provision) : ServiceEvent → Prop
  | .connect _ order =>
      (∀ k ∈ order, ∃ i, provision.sessions (.server k) = .intra i ∧ g.Exists (.intra i)) ∧
        ∀ k ∈ order, ∀ l ∈ order, provision.sessions (.server k) = provision.sessions (.server l) →
          k = l
  | .accept agencyId =>
      ∃ i, provision.sessions (.client (nextUser w.service agencyId)) = .user i ∧
        g.Exists (.user i) ∧ ∀ p, (w.exchanges agencyId).sessions p ≠ some (.user i)
  | _ => True

def step (w : Delivery) : DeliveryEvent → Delivery → Prop
  | .service e provision, w' =>
      (Service.machine D nonzero).step w.service e w'.service ∧ w.Provides g provision e ∧
        w'.rosters = (fun a => ((w.audience g codec).clientsAfter (fun _ => {}) e a).toRoster) ∧
        w'.exchanges = w.exchangesAfter g codec provision e
  | .clientData agencyId userId position direction memory, w' =>
      ∃ link, w.service.links agencyId = some link ∧
        w' = { w with
          service := w.service.absorb agencyId link
            (link.agency.onClientData userId position direction)
          exchanges := Function.update w.exchanges agencyId
            ((w.exchanges agencyId).carryAll g codec
              (link.agency.onClientData userId position direction).posts memory) }
  | .update agencyId, w' =>
      w.service.links agencyId ≠ none ∧
        w' = { w with
          exchanges := Function.update w.exchanges agencyId (w.exchanges agencyId).forceFlush }
  | .updateEveryTick agencyId now, w' =>
      w.service.links agencyId ≠ none ∧
        w' = { w with
          exchanges := Function.update w.exchanges agencyId ((w.exchanges agencyId).tryFlush now) }

def machine : Machine Delivery DeliveryEvent where
  init := fun w => w = new D
  step := step D nonzero g codec

/-- A new client is given a session with another id than those of the play servers. -/
def OwnId (w : Delivery) (provision : Provision) : ServiceEvent → Prop
  | .accept agencyId =>
      ∀ k session, (w.exchanges agencyId).sessions (.server k) = some session →
        g.sessionId session ≠ g.sessionId (provision.sessions (.client (nextUser w.service agencyId)))
  | _ => True

/-- The conditions of `Audience.orderly`, ids of their own for the sessions, packets that fit and are
read as they were posted, and enough memory. -/
def orderly (w : Delivery) : DeliveryEvent → Prop
  | .service e provision =>
      (w.audience g codec).orderly (.service e) ∧ w.OwnId g provision e ∧
        (∀ posting ∈ posts w.service e, Exchange.Suits g codec posting) ∧
        ∀ flags ∈ provision.memory, flags = (true, true)
  | .clientData agencyId userId position direction memory =>
      (∀ link, w.service.links agencyId = some link →
        ∀ posting ∈ (link.agency.onClientData userId position direction).posts,
          Exchange.Suits g codec posting) ∧
        ∀ flags ∈ memory, flags = (true, true)
  | .update _ => True
  | .updateEveryTick _ _ => True

variable {D : Deployment} {nonzero : ∀ x, D.owner x ≠ some 0} {g : GameServerConfig} {codec : Codec}
  {w w' : Delivery}

/-! ## The throttlers make the ways -/

/-- Who has a session is a client of the agency, and the other way round. -/
structure Carried (g : GameServerConfig) (s : AgencyWorker) (x : Exchange) : Prop where
  sound : x.Sound g
  active : ∀ u, x.sessions (.client u) = none ↔ s.activeSessions.find u = none

theorem toServers_accept (s : AgencyWorker) (u : Nat) (packet : ClientPacket) :
    .toClient u packet ∉ s.accept.posts := by
  unfold AgencyWorker.accept AgencyWorker.onClientAccepted
  dsimp only
  split <;> simp

theorem toServers_close (s : AgencyWorker) (v : Nat) (toOwner : Bool) (u : Nat)
    (packet : ClientPacket) : .toClient u packet ∉ (s.close v toOwner).posts := by
  unfold AgencyWorker.close AgencyWorker.onClientClosed
  split
  · simp
  · dsimp only
    split <;> simp

theorem toServers_onClientData (s : AgencyWorker) (v : Nat) (position : Vector2)
    (direction : Direction) (u : Nat) (packet : ClientPacket) :
    .toClient u packet ∉ (s.onClientData v position direction).posts := by
  unfold AgencyWorker.onClientData AgencyWorker.onUserMoveReq
  split
  · simp
  · split
    · simp
    · split <;> simp

namespace Carried

variable {s : AgencyWorker} {x : Exchange} {posts : List AgencyPosting} {memory : List (Bool × Bool)}

/-- Postings to play servers only. -/
theorem toServers (h : Carried g s x) (hsuits : ∀ posting ∈ posts, Exchange.Suits g codec posting)
    (hmemory : ∀ flags ∈ memory, flags = (true, true))
    (hservers : ∀ u packet, .toClient u packet ∉ posts) :
    Carried g s (x.carryAll g codec posts memory) ∧
      (x.carryAll g codec posts memory).lanes g codec = x.lanes g codec := by
  obtain ⟨hsound, -, hsame⟩ := Exchange.posts_carryAll hsuits hmemory h.sound
    fun u packet hmem => absurd hmem (hservers u packet)
  refine ⟨⟨hsound, fun u => by rw [Exchange.sessions_carryAll, h.active]⟩, ?_⟩
  funext u
  exact (hsame u (hservers u)).lanes

/-- A packet of a play server is handled. -/
theorem hear (h : Carried g s x) {cl : Clients} (hattended : Attended s cl) {source : Nat}
    {packet : IntraPacket} {now : Milliseconds}
    (hsuits : ∀ posting ∈ (s.onIntraServerData source packet now).posts,
      Exchange.Suits g codec posting)
    (hmemory : ∀ flags ∈ memory, flags = (true, true)) :
    Carried g (s.onIntraServerData source packet now).agency
        (x.carryAll g codec (s.onIntraServerData source packet now).posts memory) ∧
      ∀ u, Posts (x.lanes g codec u) (received u (s.onIntraServerData source packet now).posts)
        ((x.carryAll g codec (s.onIntraServerData source packet now).posts memory).lanes g codec
          u) := by
  obtain ⟨hsound, hposts, -⟩ := Exchange.posts_carryAll hsuits hmemory h.sound
    fun u packet hmem => mt (h.active u).1 (hattended.receiver hmem).1
  refine ⟨⟨hsound, fun u => ?_⟩, hposts⟩
  rw [Exchange.sessions_carryAll, h.active u, (find_link_hear s source packet now u).1]

theorem accept (h : Carried g s x) {i : Nat}
    (hnew : s.activeSessions.find s.currentUniversalSessionId = none) (hexists : g.Exists (.user i))
    (hfree : ∀ p, x.sessions p ≠ some (.user i))
    (hid : ∀ k session, x.sessions (.server k) = some session →
      g.sessionId session ≠ g.sessionId (.user i))
    (hsuits : ∀ posting ∈ s.accept.posts, Exchange.Suits g codec posting)
    (hmemory : ∀ flags ∈ memory, flags = (true, true)) :
    Carried g s.accept.agency
        ((x.attach s.currentUniversalSessionId (.user i)).carryAll g codec s.accept.posts memory) ∧
      ((x.attach s.currentUniversalSessionId (.user i)).carryAll g codec s.accept.posts
        memory).lanes g codec = x.lanes g codec := by
  have hapart : ∀ k, x.sessions (.server k) ≠ some (.intra i) := by
    intro k hk
    obtain ⟨j, hj, hexists'⟩ := h.sound.servers k _ hk
    cases hj
    -- both pools number from one
    exact hid k _ hk ((GameServerConfig.getD_poolSequence hexists').trans
      (GameServerConfig.getD_poolSequence hexists).symm)
  have hunknown := (h.active _).2 hnew
  have hsound := Exchange.sound_attach h.sound hunknown hexists hfree hapart
  have hattached : Carried g s.accept.agency (x.attach s.currentUniversalSessionId (.user i)) := by
    refine ⟨hsound, fun u => ?_⟩
    rw [(AgencyWorker.accept_spec s).1, UnorderedMap.find_insert]
    by_cases hu : u = s.currentUniversalSessionId
    · subst hu
      simp [Exchange.attach]
    · simp [Exchange.attach, hu, h.active u]
  obtain ⟨hcarried, hsame⟩ := hattached.toServers hsuits hmemory (toServers_accept s)
  refine ⟨hcarried, hsame.trans (funext fun v => ?_)⟩
  exact Exchange.lanes_attach h.sound hunknown hexists hfree hapart v

theorem close (h : Carried g s x) (u : Nat) (toOwner : Bool)
    (hsuits : ∀ posting ∈ (s.close u toOwner).posts, Exchange.Suits g codec posting)
    (hmemory : ∀ flags ∈ memory, flags = (true, true)) :
    Carried g (s.close u toOwner).agency
        (((x.cleanUp g (.client u)).carryAll g codec (s.close u toOwner).posts memory).detach u) ∧
      (((x.cleanUp g (.client u)).carryAll g codec (s.close u toOwner).posts memory).detach u).lanes
          g codec =
        Function.update (x.lanes g codec) u { x.lanes g codec u with held := [] } := by
  obtain ⟨hsessions, hsound, hwritten, hnone, hothers⟩ := Exchange.cleanUp_spec h.sound (.client u)
  obtain ⟨hsound', -, hsame⟩ := Exchange.posts_carryAll hsuits hmemory hsound
    fun v packet hmem => absurd hmem (toServers_close s u toOwner v packet)
  -- `CleanUp` has dropped the buffer of the session, so that none is left when it goes back
  have hidle : ∀ session,
      ((x.cleanUp g (.client u)).carryAll g codec (s.close u toOwner).posts memory).sessions
        (.client u) = some session →
      ((x.cleanUp g (.client u)).carryAll g codec (s.close u toOwner).posts
        memory).throttler.throttleData.find (g.sessions.sessionId session) = none := by
    intro session hsession
    rw [Exchange.sessions_carryAll] at hsession
    rw [(hsame u (toServers_close s u toOwner u)).find session hsession]
    exact hnone session (hsessions ▸ hsession)
  refine ⟨⟨Exchange.sound_detach hidle hsound', fun v => ?_⟩, funext fun v => ?_⟩
  · have hfind : (s.close u toOwner).agency.activeSessions.find v =
        if v = u then none else s.activeSessions.find v := by
      cases hu : s.activeSessions.find u with
      | none =>
          rw [AgencyWorker.close_of_none hu]
          split
          next heq => rw [heq, hu]
          next => rfl
      | some session => rw [(AgencyWorker.close_spec hu toOwner).1, UnorderedMap.find_erase]
    rw [hfind]
    by_cases hv : v = u
    · subst hv
      simp [Exchange.detach]
    · simp only [Exchange.detach, if_neg hv, ← h.active v]
      rw [Function.update_of_ne fun heq => hv (Peer.client.inj heq), Exchange.sessions_carryAll,
        hsessions]
  · rw [Exchange.lanes_detach hidle, (hsame v (toServers_close s u toOwner v)).lanes]
    by_cases hv : v = u
    · subst hv
      have hwaits : (x.cleanUp g (.client v)).waits g (.client v) = [] :=
        Exchange.waits_of_find fun session hsession => hnone session (hsessions ▸ hsession)
      rw [Function.update_self, Exchange.lanes, hwaits, hwritten]
      rfl
    · rw [Function.update_of_ne hv, (hothers (.client v) fun heq => hv (Peer.client.inj heq)).lanes]

end Carried

/-- The throttlers of all agencies keep the ways of their clients apart. -/
def Keeps (g : GameServerConfig) (w : Delivery) : Prop :=
  ∀ a link, w.service.links a = some link → Carried g link.agency (w.exchanges a)

/-- One agency makes a step. -/
theorem Keeps.update (h : w.Keeps g) {a : Nat} {s : Service} {x : Exchange} (rosters : Nat → Roster)
    (hothers : ∀ b, b ≠ a → s.links b = w.service.links b)
    (hself : ∀ l, s.links a = some l → Carried g l.agency x) :
    Keeps g ⟨s, rosters, Function.update w.exchanges a x⟩ := by
  intro b l hl
  by_cases hb : b = a
  · subst hb
    simp only [Function.update_self]
    exact hself l hl
  · simp only [Function.update_of_ne hb]
    exact h b l (hothers b hb ▸ hl)

/-- A handler of an agency. -/
theorem Keeps.absorb (h : w.Keeps g) {a : Nat} {link : Link} {r : AgencyOutcome} {x : Exchange}
    (rosters : Nat → Roster) (hcarried : Carried g r.agency x) :
    Keeps g ⟨w.service.absorb a link r, rosters, Function.update w.exchanges a x⟩ := by
  refine h.update rosters (fun b hb => Function.update_of_ne hb _ _) fun l hl => ?_
  simp only [Service.absorb, Function.update_self] at hl
  split_ifs at hl
  cases hl
  exact hcarried

theorem clients_eq {cl cl' : Clients} (hroster : cl.toRoster = cl'.toRoster)
    (hlanes : cl.lanes = cl'.lanes) : cl = cl' := by
  cases cl
  cases cl'
  simp_all

/-- Who has come and entered does not depend on the ways. -/
theorem toRoster_clientsAfter (w : Audience) (lanes lanes' : Nat → Lanes ClientPacket)
    (e : ServiceEvent) (b : Nat) :
    (w.clientsAfter lanes e b).toRoster = (w.clientsAfter lanes' e b).toRoster := by
  cases e with
  | hear a now unset =>
      cases hlink : w.service.links a with
      | none => simp only [Audience.clientsAfter, hlink]
      | some link =>
          cases hpending : link.pending with
          | nil => simp only [Audience.clientsAfter, hlink, hpending]
          | cons message rest =>
              simp only [Audience.clientsAfter, hlink, hpending]
              by_cases hb : b = a
              · subst hb
                simp [Clients.hear]
              · simp [hb]
  | _ => rfl

/-- After an event of the service the ways are as `Audience` has them. -/
theorem audience_service {e : ServiceEvent} {lanes : Nat → Lanes ClientPacket}
    (hrosters : w'.rosters =
      fun a => ((w.audience g codec).clientsAfter (fun _ => {}) e a).toRoster)
    (hlanes : ∀ b, (w'.exchanges b).lanes g codec =
      ((w.audience g codec).clientsAfter lanes e b).lanes) :
    (w'.audience g codec).clients = (w.audience g codec).clientsAfter lanes e := by
  funext b
  refine clients_eq ?_ (hlanes b)
  change w'.rosters b = _
  rw [hrosters]
  exact toRoster_clientsAfter _ _ _ e b

/-- The lanes of a client of one agency, and those of the others. -/
theorem lanes_update {x : Exchange} {a : Nat} {cl : Clients}
    (h : x.lanes g codec = cl.lanes) (b : Nat) :
    (Function.update w.exchanges a x b).lanes g codec =
      (Function.update (w.audience g codec).clients a cl b).lanes := by
  by_cases hb : b = a
  · subst hb
    simpa using h
  · simp [hb, audience]

/-- A new agency has nobody to carry anything to. -/
theorem carried_new (site : Site) {order : List Nat} {provision : Provision}
    (hservers : ∀ k ∈ order, ∃ i, provision.sessions (.server k) = .intra i ∧ g.Exists (.intra i))
    (hdistinct : ∀ k ∈ order, ∀ l ∈ order,
      provision.sessions (.server k) = provision.sessions (.server l) → k = l) :
    Carried g (AgencyWorker.new site)
      (.new provision.tick provision.now order provision.sessions) := by
  have hsome : ∀ {k session},
      (Exchange.new provision.tick provision.now order provision.sessions).sessions (.server k) =
        some session → k ∈ order ∧ session = provision.sessions (.server k) := by
    intro k session hk
    simp only [Exchange.new, Option.ite_none_right_eq_some, Option.some.injEq] at hk
    exact ⟨hk.1, hk.2.symm⟩
  refine ⟨⟨?_, ?_, ?_, ?_, entries_new _ _⟩, fun u => ⟨fun _ => rfl, fun _ => rfl⟩⟩
  · intro k session hk
    obtain ⟨hmem, rfl⟩ := hsome hk
    exact hservers k hmem
  · intro u session hu
    cases hu
  · intro p q session hp hq
    cases p with
    | client u => cases hp
    | server k =>
        cases q with
        | client u => cases hq
        | server l =>
            obtain ⟨hk, rfl⟩ := hsome hp
            obtain ⟨hl, heq⟩ := hsome hq
            rw [hdistinct k hk l hl heq]
  · intro k u i _ hu
    cases hu

/-- An event of the service is one that the clients notice in the same way. -/
theorem keeps_service {e : ServiceEvent} {provision : Provision}
    (hstep : (machine D nonzero g codec).step w (.service e provision) w')
    (horderly : w.orderly g codec (.service e provision)) (h : w.Keeps g)
    (hattended : ∀ a link, w.service.links a = some link →
      Attended link.agency ((w.audience g codec).clients a)) :
    w'.Keeps g ∧ ∃ lanes, (w.audience g codec).Delivers lanes e ∧
      ∀ b, (w'.exchanges b).lanes g codec =
        ((w.audience g codec).clientsAfter lanes e b).lanes := by
  obtain ⟨service, rosters, exchanges⟩ := w'
  obtain ⟨hservice, hprovides, -, hexchanges⟩ := hstep
  obtain ⟨habstract, hown, hsuits, hmemory⟩ := horderly
  obtain rfl : exchanges = w.exchangesAfter g codec provision e := hexchanges
  cases e with
  | connect a order =>
      obtain ⟨_, _, _, _, rfl⟩ := hservice
      have hnew := carried_new ⟨D, a, nonzero⟩ hprovides.1 hprovides.2
      refine ⟨h.update rosters (fun b hb => Function.update_of_ne hb _ _) ?_, fun _ => {}, trivial,
        lanes_update rfl⟩
      intro l hl
      simp only [Service.connect, Function.update_self, Option.some.injEq] at hl
      subst hl
      exact hnew
  | disconnect a =>
      obtain rfl : service = _ := hservice
      refine ⟨fun b l hl => ?_, fun _ => {}, trivial, fun _ => rfl⟩
      by_cases hb : b = a
      · subst hb
        simp at hl
      · simp only [Function.update_of_ne hb] at hl
        exact h b l hl
  | play e =>
      -- what is posted to the agency waits there, and the agency itself does nothing yet
      refine ⟨fun b l hl => ?_, fun _ => {}, trivial, fun _ => rfl⟩
      obtain ⟨link, hlink, hagency, -⟩ := Audience.sameAgencies_play hservice b l hl
      rw [hagency]
      exact h b link hlink
  | hear a now unset =>
      obtain ⟨⟨link, hlink, hne⟩, rfl⟩ := hservice
      obtain ⟨⟨source, message⟩, rest, hpending⟩ := List.exists_cons_of_ne_nil hne
      simp only [posts, hlink, hpending] at hsuits
      obtain ⟨hcarried, hposts⟩ := (h a link hlink).hear (hattended a link hlink) hsuits hmemory
      simp only [exchangesAfter, posts, hlink, hpending, Service.hear]
      -- the lanes after the fan-out are those that the clients hear from
      generalize (w.exchanges a).carryAll g codec _ provision.memory = x at hcarried hposts ⊢
      refine ⟨h.absorb rosters hcarried, x.lanes g codec, ?_, fun b => ?_⟩
      · intro link' source' message' rest' hlink' hpending'
        cases hlink.symm.trans hlink'
        cases hpending.symm.trans hpending'
        exact hposts
      · have hafter : (w.audience g codec).clientsAfter (x.lanes g codec) (.hear a now unset) =
            Function.update (w.audience g codec).clients a (((w.audience g codec).clients a).hear
              link.agency (message.packet unset) (x.lanes g codec)) := by
          simp only [Audience.clientsAfter, audience, hlink, hpending]
        rw [hafter]
        exact lanes_update rfl b
  | accept a =>
      obtain ⟨link, hlink, rfl⟩ := hservice
      obtain ⟨i, hsession, hexists, hfree⟩ := hprovides
      have hattended := hattended a link hlink
      -- the id of the new client is not in use: the clients that are listed were numbered before
      have hnew : link.agency.activeSessions.find link.agency.currentUniversalSessionId = none := by
        by_contra hactive
        exact habstract.2 link hlink (hattended.listening.active _ hactive)
      have huser : nextUser w.service a = link.agency.currentUniversalSessionId := by
        simp [nextUser, hlink]
      rw [huser] at hsession
      simp only [OwnId, huser, hsession] at hown
      simp only [posts, hlink] at hsuits
      obtain ⟨hcarried, hlanes⟩ := (h a link hlink).accept hnew hexists hfree hown hsuits hmemory
      simp only [exchangesAfter, posts, hlink, huser, hsession]
      refine ⟨h.absorb rosters hcarried, fun _ => {}, trivial, fun b => ?_⟩
      have hafter : (w.audience g codec).clientsAfter (fun _ => {}) (.accept a) =
          Function.update (w.audience g codec).clients a
            (((w.audience g codec).clients a).accept link.agency) := by
        simp only [Audience.clientsAfter, audience, hlink]
      rw [hafter]
      exact lanes_update hlanes b
  | close a u toOwner =>
      obtain ⟨link, hlink, rfl⟩ := hservice
      simp only [posts, hlink] at hsuits
      obtain ⟨hcarried, hlanes⟩ := (h a link hlink).close u toOwner hsuits hmemory
      simp only [exchangesAfter, posts, hlink]
      exact ⟨h.absorb rosters hcarried, fun _ => {}, trivial, lanes_update hlanes⟩

/-- The throttler of one agency does something of its own. -/
theorem audience_update {x : Exchange} {a : Nat} (cl : Clients) (hroster : w.rosters a = cl.toRoster)
    (hlanes : x.lanes g codec = cl.lanes) :
    audience g codec { w with exchanges := Function.update w.exchanges a x } =
      { w.audience g codec with
        clients := Function.update (w.audience g codec).clients a cl } := by
  have hclients : (audience g codec
      { w with exchanges := Function.update w.exchanges a x }).clients =
        Function.update (w.audience g codec).clients a cl := by
    funext b
    refine clients_eq ?_ (lanes_update hlanes b)
    by_cases hb : b = a
    · subst hb
      simpa [audience] using hroster
    · simp [audience, hb]
  rw [← hclients]
  rfl

/-- A step of the throttlers is one of the ways, or nothing to them. -/
theorem audience_step {e : DeliveryEvent}
    (hstep : ((machine D nonzero g codec).restrict (orderly g codec)).step w e w')
    (h : w.Keeps g) (hattended : ∀ a link, w.service.links a = some link →
      Attended link.agency ((w.audience g codec).clients a)) :
    w'.Keeps g ∧ (w'.audience g codec = w.audience g codec ∨
      ∃ e', ((Audience.machine D nonzero).restrict Audience.orderly).step (w.audience g codec) e'
        (w'.audience g codec)) := by
  obtain ⟨horderly, hstep⟩ := hstep
  cases e with
  | update a =>
      obtain ⟨hlink, rfl⟩ := hstep
      obtain ⟨link, hlink⟩ := Option.ne_none_iff_exists'.1 hlink
      obtain ⟨hsound, hactive⟩ := h a link hlink
      obtain ⟨hflushed, -, hlanes⟩ := Exchange.forceFlush_spec codec hsound
      refine ⟨h.update w.rosters (fun _ _ => rfl) fun l hl => ?_, .inr ⟨.flush a, trivial, ?_⟩⟩
      · cases hlink.symm.trans hl
        exact ⟨hflushed, hactive⟩
      · exact audience_update ((w.audience g codec).clients a).flush rfl (funext hlanes)
  | updateEveryTick a now =>
      obtain ⟨hlink, rfl⟩ := hstep
      obtain ⟨link, hlink⟩ := Option.ne_none_iff_exists'.1 hlink
      obtain ⟨hsound, hactive⟩ := h a link hlink
      obtain ⟨hsound', hlanes⟩ := Exchange.tryFlush_spec codec hsound now
      refine ⟨h.update w.rosters (fun _ _ => rfl) fun l hl => ?_, ?_⟩
      · cases hlink.symm.trans hl
        exact ⟨hsound', hactive⟩
      -- a round whose time has not come flushes nothing
      · rcases hlanes with hflush | hnothing
        · exact .inr ⟨.flush a, trivial,
            audience_update ((w.audience g codec).clients a).flush rfl (funext hflush)⟩
        · refine .inl ((audience_update ((w.audience g codec).clients a) rfl
            (funext hnothing)).trans ?_)
          rw [Function.update_eq_self]
  | clientData a u position direction memory =>
      obtain ⟨link, hlink, rfl⟩ := hstep
      obtain ⟨hsuits, hmemory⟩ := horderly
      obtain ⟨hagency, hfault, -⟩ := link.agency.onClientData_spec u position direction
      obtain ⟨hcarried, hlanes⟩ := (h a link hlink).toServers (hsuits link hlink) hmemory
        (toServers_onClientData link.agency u position direction)
      -- the request of a client changes nothing in the agency, it only posts to a play server
      have hservice : w.service.absorb a link (link.agency.onClientData u position direction) =
          w.service := by
        unfold Service.absorb
        rw [if_pos hfault, hagency, ← hlink, Function.update_eq_self]
      refine ⟨h.absorb w.rosters (hagency.symm ▸ hcarried), .inl ?_⟩
      rw [hservice]
      refine (audience_update ((w.audience g codec).clients a) rfl hlanes).trans ?_
      rw [Function.update_eq_self]
  | service e provision =>
      obtain ⟨hkeeps, lanes, hdelivers, hlanes⟩ := keeps_service hstep horderly h hattended
      refine ⟨hkeeps, .inr ⟨.service e, horderly.1, hstep.1, lanes, hdelivers, ?_⟩⟩
      exact audience_service hstep.2.2.1 hlanes

/-! ## Runs -/

/-- In every orderly run the throttlers keep the ways apart, and the clients are posted what they are
posted in `Audience`. -/
theorem keeps_of_reachable (hD : D.Complete)
    (h : ((machine D nonzero g codec).restrict (orderly g codec)).Reachable w) :
    w.Keeps g ∧ ((Audience.machine D nonzero).restrict Audience.orderly).Reachable
      (w.audience g codec) := by
  induction h with
  | init hinit =>
      obtain rfl : _ = Delivery.new D := hinit
      refine ⟨fun a link hlink => ?_, .init rfl⟩
      cases hlink
  | step _ hstep ih =>
      obtain ⟨hkeeps, hreach⟩ := ih
      have hholds := Audience.holds_of_reachable hD hreach
      obtain ⟨hkeeps', heq | ⟨e', hstep'⟩⟩ := audience_step hstep hkeeps hholds.attended
      · exact ⟨hkeeps', heq ▸ hreach⟩
      · exact ⟨hkeeps', .step hreach hstep'⟩

/-- In every run of play servers in lock step, agencies and clients in which ids are given once, no
client's session has the id of a play server's, and packets fit: when no packet is under way between
play servers and an agency has heard everything, the packets that have been written to a client by the
next `AgencyWorker::Update` make it show exactly the objects that have a fixture in its sector, among
those that were spawned after the agency connected and for clients that were still there. -/
theorem clients_see (hD : D.Complete)
    (h : ((machine D nonzero g codec).restrict (orderly g codec)).Reachable w)
    (hflight : w.service.cluster.flight = []) {a : Nat} {link : Link}
    (hlink : w.service.links a = some link) (hpending : link.pending = []) {u : Nat}
    (hu : u ∈ (w.rosters a).entered) {session : SessionValues}
    (hsession : link.agency.activeSessions.find u = some session) {k : Nat}
    (hx : session.sectorId ∈ D.sectorsOf k) {o : Nat} (hknown : o ∉ link.known)
    (hannounced : o ∉ (w.rosters a).unannounced) :
    let shown := Exchange.shows codec ((w.exchanges a).forceFlush.written (.client u))
    shown.sectorId = some session.sectorId ∧
      (o ∈ shown.objects ↔ ∃ f, w.service.cluster.fixtureAt k session.sectorId o = some f) := by
  obtain ⟨hkeeps, hreach⟩ := keeps_of_reachable hD h
  have hshown := Audience.clients_shown hD hreach hflight hlink hpending hu hsession hx hknown
    hannounced
  have hlanes : Exchange.shows codec ((w.exchanges a).forceFlush.written (.client u)) =
      scene ((w.exchanges a).lanes g codec u) := by
    obtain ⟨-, hwritten, -⟩ := Exchange.forceFlush_spec codec (hkeeps a link hlink).sound
    rw [Exchange.shows, hwritten, List.filterMap_append]
    rfl
  rw [hlanes]
  exact hshown

/-! ## Two clients -/

section Sample

/-- Eight sessions for clients and four for play servers, which the first three of the pool go to. -/
def sampleServer : GameServerConfig :=
  { sampleConfig with intraSessionCount := 4, userSessionCount := 8 }

/-- The clients are given sessions behind those of the ids of the play servers. -/
def sampleProvision : Provision where
  sessions := fun
    | .server k => .intra (k - 2)
    | .client u => .user (u - 9100000000000001 + 3)
  tick := 10
  now := 0
  memory := []

/-- The state after an event of the service. -/
def after (codec : Codec) (w : Delivery) (e : ServiceEvent) (service : Service) : Delivery where
  service := service
  rosters := fun a => ((w.audience sampleServer codec).clientsAfter (fun _ => {}) e a).toRoster
  exchanges := w.exchangesAfter sampleServer codec sampleProvision e

/-- The agency handles the next message, if that is in order. -/
def hearing (codec : Codec) (a : Nat) (now : Milliseconds) (unset : ObjectInfo) (w : Delivery) :
    Option Delivery :=
  match w.service.links a with
  | none => none
  | some link =>
      match link.pending with
      | [] => none
      | (_, message) :: _ =>
          if ((w.audience sampleServer codec).clients a).Admits link.agency (message.packet unset) ∧
              ∀ posting ∈ posts w.service (.hear a now unset),
                Exchange.Suits sampleServer codec posting then
            some (w.after codec (.hear a now unset) (w.service.hear a now unset))
          else
            none

def hearings (codec : Codec) (a : Nat) (now : Milliseconds) (unset : ObjectInfo) :
    Nat → Delivery → Option Delivery
  | 0, w => some w
  | n + 1, w => (w.hearing codec a now unset).bind (hearings codec a now unset n)

/-- A client comes. -/
def accepting (codec : Codec) (w : Delivery) (a : Nat) : Delivery :=
  w.after codec (.accept a)
    (match w.service.links a with
    | none => w.service
    | some link => w.service.absorb a link link.agency.accept)

/-- A step of the play servers. -/
def playing (w : Delivery) (D : Deployment) (events : List Event) : Delivery :=
  { w with service := events.foldl (Service.tell D) w.service }

/-- An agency that has connected. -/
def connected (codec : Codec) : Delivery :=
  (new Cluster.threeServers).after codec (.connect 9 [2, 3, 4])
    ((Service.new Cluster.threeServers).connect Cluster.threeServers Service.threeServers_nonzero 9
      [2, 3, 4])

/-- A client comes and is spawned near the right border of sector 12. -/
def entering (codec : Codec) : Delivery :=
  ((connected codec).accepting codec 9).playing Cluster.threeServers
    [.spawn 2 9 ⟨9100000000000001, 12, ⟨4900, 2500⟩, ⟨100, 100⟩⟩ 0]

/-- Another client comes and is spawned in sector 13. -/
def joined (codec : Codec) : Delivery :=
  ((entering codec).accepting codec 9).playing Cluster.threeServers
    [.spawn 3 9 ⟨9100000000000002, 13, ⟨7500, 2500⟩, ⟨100, 100⟩⟩ 0]

/-- The first object comes into the gray zone. -/
def gathered (codec : Codec) : Delivery :=
  ((joined codec).playing Cluster.threeServers
    [.update 2 ⟨1000, 0, 1000, fun _ _ => 1000⟩, .update 3 ⟨1000, 0, 1000, fun _ _ => 1000⟩,
      .update 4 ⟨1000, 0, 1000, fun _ _ => 1000⟩]).playing Cluster.threeServers [.deliver 0 1000]

/-- What clients are posted while the agency handles some messages. -/
def postedWhile (a : Nat) (now : Milliseconds) (unset : ObjectInfo) : Nat → Service → List ClientPacket
  | 0, _ => []
  | n + 1, s =>
      (posts s (.hear a now unset)).filterMap (fun
        | .toClient _ packet => some packet
        | _ => none) ++ postedWhile a now unset n (s.hear a now unset)

/-- Packets by their place in a list. -/
def numbered (table : List ClientPacket) : Codec where
  toServer := fun _ => ⟨1, []⟩
  toClient := fun packet => ⟨2, [UInt8.ofNat (table.idxOf packet)]⟩
  read := fun packet => table[(packet.body.headD 0).toNat]?

/-- The packets that the clients are posted. -/
def sampleCodec : Codec :=
  numbered (postedWhile 9 1000 ⟨0, 0, blankFixture⟩ 28 (gathered (numbered [])).service)

/-- The agency has heard everything. -/
def seen : Delivery :=
  ((gathered sampleCodec).hearings sampleCodec 9 1000 ⟨0, 0, blankFixture⟩ 28).getD
    (gathered sampleCodec)

section Runs

variable {codec : Codec}

theorem reachable_hearing
    (h : ((machine D nonzero sampleServer codec).restrict (orderly sampleServer codec)).Reachable w)
    {a : Nat} {now : Milliseconds} {unset : ObjectInfo}
    (hheard : w.hearing codec a now unset = some w') :
    ((machine D nonzero sampleServer codec).restrict (orderly sampleServer codec)).Reachable w' := by
  unfold hearing at hheard
  split at hheard
  · cases hheard
  next link hlink =>
    split at hheard
    · cases hheard
    next source message rest hpending =>
      split_ifs at hheard with hadmits
      cases hheard
      refine .step (e := .service (.hear a now unset) sampleProvision) h ⟨⟨⟨trivial, ?_⟩, trivial,
        hadmits.2, by simp [sampleProvision]⟩, ⟨⟨link, hlink, ?_⟩, rfl⟩, trivial, rfl, rfl⟩
      · intro link' source' message' rest' hlink' hpending'
        cases hlink.symm.trans hlink'
        cases hpending.symm.trans hpending'
        exact hadmits.1
      · rw [hpending]
        exact List.cons_ne_nil _ _

theorem reachable_hearings {a : Nat} {now : Milliseconds} {unset : ObjectInfo} (n : Nat) :
    ∀ {w : Delivery},
      ((machine D nonzero sampleServer codec).restrict (orderly sampleServer codec)).Reachable w →
      w.hearings codec a now unset n = some w' →
      ((machine D nonzero sampleServer codec).restrict (orderly sampleServer codec)).Reachable w' := by
  induction n with
  | zero =>
      intro w h hheard
      cases hheard
      exact h
  | succ n ih =>
      intro w h hheard
      obtain ⟨w₁, hfirst, hrest⟩ := Option.bind_eq_some_iff.1 hheard
      exact ih (reachable_hearing h hfirst) hrest

theorem reachable_accepting
    (h : ((machine D nonzero sampleServer codec).restrict (orderly sampleServer codec)).Reachable w)
    {a : Nat} {link : Link} (hlink : w.service.links a = some link)
    (hnew : link.agency.currentUniversalSessionId ∉ (w.rosters a).accepted)
    (hprovides : w.Provides sampleServer sampleProvision (.accept a))
    (hown : w.OwnId sampleServer sampleProvision (.accept a))
    (hsuits : ∀ posting ∈ posts w.service (.accept a), Exchange.Suits sampleServer codec posting) :
    ((machine D nonzero sampleServer codec).restrict (orderly sampleServer codec)).Reachable
      (w.accepting codec a) := by
  refine .step (e := .service (.accept a) sampleProvision) h ⟨⟨⟨trivial, ?_⟩, hown, hsuits,
    by simp [sampleProvision]⟩, ⟨link, hlink, ?_⟩, hprovides, rfl, rfl⟩
  · intro link' hlink'
    cases hlink.symm.trans hlink'
    exact hnew
  · simp only [accepting, after, hlink]

theorem reachable_playing
    (h : ((machine D nonzero sampleServer codec).restrict (orderly sampleServer codec)).Reachable w)
    {events : List Event} {e : LockEvent} (hfresh : LockStep.assignsFreshId w.service.cluster e)
    (hstep : (Service.machine D nonzero).step w.service (.play e) (w.playing D events).service) :
    ((machine D nonzero sampleServer codec).restrict (orderly sampleServer codec)).Reachable
      (w.playing D events) :=
  .step (e := .service (.play e) sampleProvision) h
    ⟨⟨⟨hfresh, trivial⟩, trivial, by simp [posts], by simp [sampleProvision]⟩, hstep, trivial, rfl, rfl⟩

end Runs

theorem threeServers_covers : ∀ k, Cluster.threeServers.sectorsOf k ≠ [] → k ∈ [2, 3, 4] :=
  (Cluster.isTick_threeServers (fun _ => ⟨1000, 0, 1000, fun _ _ => 1000⟩) (fun _ => rfl)).covers

/-- The sessions of the play servers. -/
theorem sessions_servers {k : Nat} {session : GameSession}
    (h : (Exchange.new 10 0 [2, 3, 4] sampleProvision.sessions).sessions (.server k) = some session) :
    session ∈ [.intra 0, .intra 1, .intra 2] := by
  simp only [Exchange.new, Option.ite_none_right_eq_some, Option.some.injEq] at h
  obtain ⟨hk, rfl⟩ := h
  simp only [List.mem_cons, List.not_mem_nil, or_false] at hk
  rcases hk with rfl | rfl | rfl <;> decide

theorem reachable_connected :
    ((machine Cluster.threeServers Service.threeServers_nonzero sampleServer sampleCodec).restrict
      (orderly sampleServer sampleCodec)).Reachable (connected sampleCodec) := by
  refine .step (e := .service (.connect 9 [2, 3, 4]) sampleProvision) (.init rfl)
    ⟨⟨⟨trivial, trivial⟩, trivial, by simp [posts], by simp [sampleProvision]⟩,
      ⟨rfl, rfl, by decide, threeServers_covers, rfl⟩, ⟨?_, ?_⟩, rfl, rfl⟩
  · intro k hk
    simp only [List.mem_cons, List.not_mem_nil, or_false] at hk
    rcases hk with rfl | rfl | rfl
    · exact ⟨0, rfl, (by decide : 0 < 4)⟩
    · exact ⟨1, rfl, (by decide : 1 < 4)⟩
    · exact ⟨2, rfl, (by decide : 2 < 4)⟩
  · decide

theorem sessions_connected :
    ((connected sampleCodec).exchanges 9).sessions =
      (Exchange.new 10 0 [2, 3, 4] sampleProvision.sessions).sessions := rfl

theorem sessions_entering :
    ((entering sampleCodec).exchanges 9).sessions =
      Function.update (Exchange.new 10 0 [2, 3, 4] sampleProvision.sessions).sessions
        (.client 9100000000000001) (some (.user 3)) := by
  have hexchange : (entering sampleCodec).exchanges 9 = Exchange.carryAll sampleServer sampleCodec
      (((connected sampleCodec).exchanges 9).attach 9100000000000001 (.user 3)) _ [] := rfl
  rw [hexchange, Exchange.sessions_carryAll]
  rfl

theorem reachable_entering :
    ((machine Cluster.threeServers Service.threeServers_nonzero sampleServer sampleCodec).restrict
      (orderly sampleServer sampleCodec)).Reachable (entering sampleCodec) := by
  refine reachable_playing (e := .act (.spawn 2 9 ⟨9100000000000001, 12, ⟨4900, 2500⟩, ⟨100, 100⟩⟩ 0))
    (reachable_accepting reachable_connected rfl List.not_mem_nil
      ⟨3, by decide +kernel, (by decide : 3 < 8), ?_⟩ ?_ ?_) ?_ ?_
  · intro p hp
    rw [sessions_connected] at hp
    cases p with
    | server k => simpa using sessions_servers hp
    | client u => cases hp
  · intro k session hk
    have hmem := sessions_servers (sessions_connected ▸ hk)
    simp only [List.mem_cons, List.not_mem_nil, or_false] at hmem
    rcases hmem with rfl | rfl | rfl <;> decide +kernel
  · decide +kernel
  · intro id _
    exact List.not_mem_nil
  · exact ⟨rfl, ⟨by decide +kernel, Cluster.inside_chunk (by norm_num) (by norm_num), rfl⟩,
      ⟨⟨2, rfl, rfl⟩, rfl⟩, rfl⟩

theorem links_entering : ((entering sampleCodec).service.links 9).map
    (fun link => link.agency.currentUniversalSessionId) = some 9100000000000002 := by
  decide +kernel

theorem reachable_joined :
    ((machine Cluster.threeServers Service.threeServers_nonzero sampleServer sampleCodec).restrict
      (orderly sampleServer sampleCodec)).Reachable (joined sampleCodec) := by
  obtain ⟨entered, hlink, hid⟩ := Option.map_eq_some_iff.1 links_entering
  refine reachable_playing (e := .act (.spawn 3 9 ⟨9100000000000002, 13, ⟨7500, 2500⟩, ⟨100, 100⟩⟩ 0))
    (reachable_accepting reachable_entering hlink ?_ ⟨4, by decide +kernel, (by decide : 4 < 8), ?_⟩
      ?_ ?_) ?_ ?_
  · rw [hid]
    decide +kernel
  · intro p hp
    rw [sessions_entering] at hp
    cases p with
    | server k =>
        rw [Function.update_of_ne (by simp)] at hp
        simpa using sessions_servers hp
    | client u =>
        by_cases hu : u = 9100000000000001
        · subst hu
          simp at hp
        · rw [Function.update_of_ne fun heq => hu (Peer.client.inj heq)] at hp
          cases hp
  · intro k session hk
    rw [sessions_entering, Function.update_of_ne (by simp)] at hk
    have hmem := sessions_servers hk
    simp only [List.mem_cons, List.not_mem_nil, or_false] at hmem
    rcases hmem with rfl | rfl | rfl <;> decide +kernel
  · decide +kernel
  · intro id hid
    have hnext : ((entering sampleCodec).accepting sampleCodec 9).service.cluster.nextFixtureId 3 13 =
        some 3201300000000001 := by decide +kernel
    obtain rfl : 3201300000000001 = id := Option.some.inj (hnext.symm.trans hid)
    decide +kernel
  · exact ⟨rfl, ⟨by decide +kernel, Cluster.inside_chunk (by norm_num) (by norm_num), rfl⟩,
      ⟨⟨3, rfl, by decide +kernel⟩, rfl⟩, rfl⟩

theorem reachable_gathered :
    ((machine Cluster.threeServers Service.threeServers_nonzero sampleServer sampleCodec).restrict
      (orderly sampleServer sampleCodec)).Reachable (gathered sampleCodec) := by
  refine reachable_playing (e := .handle 1000) (reachable_playing (e := .tick [2, 3, 4]
    fun _ => ⟨1000, 0, 1000, fun _ _ => 1000⟩) reachable_joined trivial ?_) trivial ?_
  · exact ⟨by decide +kernel, Cluster.isTick_threeServers _ (fun _ => rfl),
      .cons ⟨⟨⟨2, rfl, by decide +kernel⟩, rfl⟩, rfl⟩ (.cons ⟨⟨⟨3, rfl, by decide +kernel⟩, rfl⟩, rfl⟩
        (.cons ⟨⟨⟨4, rfl, by decide +kernel⟩, rfl⟩, rfl⟩ (.nil _)))⟩
  · exact ⟨⟨⟨3, by decide +kernel, by decide +kernel⟩, rfl⟩, rfl⟩

theorem reachable_seen :
    ((machine Cluster.threeServers Service.threeServers_nonzero sampleServer sampleCodec).restrict
      (orderly sampleServer sampleCodec)).Reachable seen := by
  have hheard : ((gathered sampleCodec).hearings sampleCodec 9 1000 ⟨0, 0, blankFixture⟩ 28).isSome =
      true := by decide +kernel
  obtain ⟨w, hw⟩ := Option.isSome_iff_exists.1 hheard
  rw [seen, hw]
  exact reachable_hearings 28 reachable_gathered hw

/-- The client in sector 13 shows the object of the other client, which is in sector 12. -/
theorem clients_see_seen : seen.service.cluster.flight = [] ∧
    Cluster.firstId ∈ (Exchange.shows sampleCodec
      ((seen.exchanges 9).forceFlush.written (.client 9100000000000002))).objects := by
  have hflight : seen.service.cluster.flight = [] := by decide +kernel
  have hheard : (seen.service.links 9).map (fun link => (link.pending.length, link.known,
      link.agency.activeSessions.find 9100000000000002)) =
        some (0, [], some ⟨9100000000000002, 3201300000000001, 13⟩) := by decide +kernel
  obtain ⟨link, hlink, heq⟩ := Option.map_eq_some_iff.1 hheard
  simp only [Prod.mk.injEq] at heq
  obtain ⟨hpending, hknown, hsession⟩ := heq
  have hcopy : (seen.service.cluster.fixtureAt 3 13 Cluster.firstId).isSome = true := by
    decide +kernel
  have hsees := clients_see Cluster.threeServers_complete reachable_seen hflight hlink
    (List.length_eq_zero_iff.1 hpending) (by decide +kernel) hsession
    (show 13 ∈ Cluster.threeServers.sectorsOf 3 by decide) (hknown ▸ List.not_mem_nil)
    (show Cluster.firstId ∉ (seen.rosters 9).unannounced by decide +kernel)
  exact ⟨hflight, hsees.2.2 (Option.isSome_iff_exists.1 hcopy)⟩

end Sample

end Delivery

end Agency
end SeamlessServer
