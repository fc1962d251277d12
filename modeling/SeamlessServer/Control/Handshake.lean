import SeamlessServer.Control.Roster
import SeamlessServer.Game.Authority

/-!
# Control.Handshake — how servers come to be linked

Play servers and agencies as `play.cpp` and `agency.cpp` start them.  The supervisor names each
server and then tells it of the others, in its own time; a server decides from its policies whether
it is the one that connects, and the one that connects asks for the handshake.  A request may come
before the acceptor has heard of the connector, or of its own name, and is then repeated.

Nobody leaves, so nothing is closed unless a handler closes it.  `roles_and_links` says that no handler
does, that the roles of two servers fit, and that a completed handshake links both ends of one
connection.
-/

namespace SeamlessServer
namespace Control

open Protocol Game

/-! ## Servers as they are deployed -/

def supervisorAddress : SocketAddress := ⟨"127.0.0.1", 9987⟩

/-- The arguments of `Initialize` in `play.cpp`. -/
def playConfiguration (address : SocketAddress) : Configuration where
  serverType := .Play
  address := address
  supervisorAddress := supervisorAddress
  connectionConfig
    | .Play => some ⟨.All, .Not⟩
    | .Agency => some ⟨.Not, .All⟩
    | _ => none

/-- The arguments of `Initialize` in `agency.cpp`. -/
def agencyConfiguration (address : SocketAddress) : Configuration where
  serverType := .Agency
  address := address
  supervisorAddress := supervisorAddress
  connectionConfig
    | .Play => some ⟨.All, .Not⟩
    | _ => none

/-- Some play servers and agencies, the addresses they listen on and the ids the supervisor gives
them. -/
structure Deployment (ι : Type) where
  isAgency : ι → Bool
  address : ι → SocketAddress
  address_injective : Function.Injective address
  serverId : ι → Nat
  serverId_injective : Function.Injective serverId
  supervisor_lt : ∀ i, supervisorServerId < serverId i

namespace Deployment

variable {ι : Type} (D : Deployment ι)

def config (i : ι) : Configuration :=
  if D.isAgency i then agencyConfiguration (D.address i) else playConfiguration (D.address i)

def info (i : ι) : ServerInfo := ⟨(D.config i).serverType, D.serverId i, D.address i⟩

end Deployment

/-- What the supervisor tells a server, in terms of the deployment. -/
inductive News (ι : Type)
  | registered
  | joined (servers : List ι)
  | allocated (allocation : List SectorAllocationInfo)
  deriving DecidableEq

def News.packet {ι : Type} (D : Deployment ι) (i : ι) : News ι → SupervisorPacket
  | .registered => .registerMinionServerRs (D.info i)
  | .joined servers => .updateIntraServerInfoPs (servers.map D.info) []
  | .allocated allocation => .sectorAllocationPs allocation []

def News.isName {ι : Type} : News ι → Bool
  | .registered => true
  | _ => false

/-- The servers that are announced. -/
def News.servers {ι : Type} : News ι → List ι
  | .joined servers => servers
  | _ => []

/-- The handshake packets that some actions send over a session, as the other end reads them. -/
def packetsOn (session : Nat) (actions : List MinionAction) : List DataPacket :=
  actions.filterMap fun
    | .send target (.authorizeServerRq _ serverId) =>
        if target = session then some (.authorizeServerRq serverId) else none
    | .send target (.authorizeServerRs serverId error) =>
        if target = session then some (.authorizeServerRs serverId error) else none
    | _ => none

/-- A connection that has been made.  Both ends hear of it in their own time, and what they send
arrives in order. -/
structure Connection (ι : Type) where
  connector : ι
  acceptor : ι
  /-- The attachment of the connector: the id of the server it was registered for. -/
  attachment : Nat
  connected : Bool := false
  accepted : Bool := false
  toAcceptor : List DataPacket := []
  toConnector : List DataPacket := []

structure Handshakes (ι : Type) where
  server : ι → GameServer
  /-- What the supervisor has sent and the server has not handled. -/
  down : ι → List (News ι)
  /-- The server has handled its name. -/
  named : ι → Bool
  /-- The servers it has handled the announcement of. -/
  heard : ι → List ι
  /-- Every connector it has registered. -/
  registered : ι → List (SocketAddress × Nat)
  /-- The connections, under the session that both ends have for them. -/
  connection : Nat → Option (Connection ι)

namespace Handshakes

variable {ι : Type} [DecidableEq ι]

/-- A server sends over a connection it is an end of. -/
def post (i : ι) (packets : List DataPacket) (k : Connection ι) : Connection ι :=
  if k.connector = i then
    { k with toAcceptor := k.toAcceptor ++ packets }
  else if k.acceptor = i then
    { k with toConnector := k.toConnector ++ packets }
  else
    k

def registrations (actions : List MinionAction) : List (SocketAddress × Nat) :=
  actions.filterMap fun
    | .registerConnectorSocket address serverId => some (address, serverId)
    | _ => none

/-- The outcome of a handler of server `i`. -/
def perform (s : Handshakes ι) (i : ι) (result : GameServer × List MinionAction) : Handshakes ι :=
  { s with
    server := Function.update s.server i result.1
    registered := Function.update s.registered i (s.registered i ++ registrations result.2)
    connection := fun c => (s.connection c).map (post i (packetsOn c result.2)) }

def send (s : Handshakes ι) (i : ι) (news : News ι) : Handshakes ι :=
  { s with down := Function.update s.down i (s.down i ++ [news]) }

/-- Server `i` takes news off its channel. -/
def take (s : Handshakes ι) (i : ι) (news : News ι) (rest : List (News ι)) : Handshakes ι :=
  { s with
    down := Function.update s.down i rest
    named := Function.update s.named i (s.named i || news.isName)
    heard := Function.update s.heard i (s.heard i ++ news.servers) }

def setConnection (s : Handshakes ι) (c : Nat) (k : Connection ι) : Handshakes ι :=
  { s with connection := Function.update s.connection c (some k) }

/-- The announcements on their way to a server. -/
def pending (s : Handshakes ι) (i : ι) : List ι := (s.down i).flatMap News.servers

/-- The supervisor names a server once, tells it nothing before, and announces to it each server at
most once. -/
def Admits (s : Handshakes ι) (i : ι) : News ι → Prop
  | .registered => s.named i = false ∧ s.down i = []
  | .joined servers =>
      (s.named i = true ∨ s.down i ≠ []) ∧ (s.heard i ++ s.pending i ++ servers).Nodup
  | .allocated _ => s.named i = true ∨ s.down i ≠ []

inductive Event (ι : Type)
  | announce (i : ι) (news : News ι)
  | connect (i j : ι) (c : Nat)
  | receive (i : ι)
  | connected (c : Nat)
  | accepted (c : Nat)
  | request (c : Nat)
  | response (c : Nat)

section Steps

variable (D : Deployment ι) (handlers : DataHandlers)

/-- `Calls D handlers s e i s' outcome`: event `e` calls a handler of server `i`, in the state `s'` in which
what it is called for has been consumed.  Without outcome it dereferences nothing or fails an
assertion. -/
inductive Calls : Handshakes ι → Event ι → ι → Handshakes ι →
    Option (GameServer × List MinionAction) → Prop where
  | receive {s : Handshakes ι} {i : ι} {news : News ι} {rest : List (News ι)} :
      s.down i = news :: rest →
        Calls s (.receive i) i (s.take i news rest)
          (some ((s.server i).onSupervisorPacket (D.config i) 0 (news.packet D i)))
  | connected {s : Handshakes ι} {c : Nat} {k : Connection ι} :
      s.connection c = some k → k.connected = false →
        Calls s (.connected c) k.connector (s.setConnection c { k with connected := true })
          (some ((s.server k.connector).onSocketSessionConnected c k.attachment))
  | accepted {s : Handshakes ι} {c : Nat} {k : Connection ι} :
      s.connection c = some k → k.accepted = false →
        Calls s (.accepted c) k.acceptor (s.setConnection c { k with accepted := true })
          (some ((s.server k.acceptor).onSocketSessionAccepted c false))
  | request {s : Handshakes ι} {c : Nat} {k : Connection ι} {packet : DataPacket}
      {rest : List DataPacket} :
      s.connection c = some k → k.accepted = true → k.toAcceptor = packet :: rest →
        Calls s (.request c) k.acceptor (s.setConnection c { k with toAcceptor := rest })
          ((s.server k.acceptor).onSocketSessionData (D.config k.acceptor) handlers c packet)
  | response {s : Handshakes ι} {c : Nat} {k : Connection ι} {packet : DataPacket}
      {rest : List DataPacket} :
      s.connection c = some k → k.connected = true → k.toConnector = packet :: rest →
        Calls s (.response c) k.connector (s.setConnection c { k with toConnector := rest })
          ((s.server k.connector).onSocketSessionData (D.config k.connector) handlers c packet)

inductive Step : Handshakes ι → Event ι → Handshakes ι → Prop where
  | announce {s : Handshakes ι} {i : ι} {news : News ι} :
      s.Admits i news → Step s (.announce i news) (s.send i news)
  /-- A connector reaches the server that listens on its address, unless it is connected already.
  Session 0 is that of the supervisor. -/
  | connect {s : Handshakes ι} {i j : ι} {c serverId : Nat} :
      c ≠ 0 → s.connection c = none → (D.address j, serverId) ∈ s.registered i →
        (∀ c' k, s.connection c' = some k → ¬ (k.connector = i ∧ k.attachment = serverId)) →
          Step s (.connect i j c) (s.setConnection c ⟨i, j, serverId, false, false, [], []⟩)
  | call {s s' : Handshakes ι} {e : Event ι} {i : ι} {result : GameServer × List MinionAction} :
      Calls D handlers s e i s' (some result) → Step s e (s'.perform i result)

/-- Every server has connected to the supervisor. -/
def machine : Machine (Handshakes ι) (Event ι) where
  init := fun s => s =
    { server := fun i => ((GameServer.initialized (D.config i)).onSocketSessionConnected 0
        supervisorServerId).1
      down := fun _ => []
      named := fun _ => false
      heard := fun _ => []
      registered := fun _ => []
      connection := fun _ => none }
  step := Step D handlers

end Steps

end Handshakes

/-! ## Roles -/

namespace Deployment

variable {ι : Type} (D : Deployment ι)

/-- The first of two servers is the one that connects. -/
def connects (i j : ι) : Bool :=
  !D.isAgency j && (D.isAgency i || decide (D.serverId j < D.serverId i))

/-- The role that a server takes when it hears of another is the one of the deployment. -/
theorem isConnector_eq {g : GameServer} {i : ι} (hmine : g.myServerInfo = D.info i) (j : ι) :
    g.isConnector (D.config i) (D.info j).serverType (D.info j).serverId = D.connects i j := by
  cases hi : D.isAgency i <;> cases hj : D.isAgency j <;>
    simp [GameServer.isConnector, hmine, info, config, connects, playConfiguration,
      agencyConfiguration, hi, hj]

theorem connects_irrefl (i : ι) : D.connects i i = false := by
  cases hi : D.isAgency i <;> simp [connects, hi]

theorem connects_asymm {i j : ι} (h : D.connects i j = true) : D.connects j i = false := by
  cases hi : D.isAgency i <;> cases hj : D.isAgency j <;> simp [connects, hi, hj] at h ⊢
  omega

/-- Of two servers that are not both agencies, one connects. -/
theorem connects_total {i j : ι} (hne : i ≠ j) (h : ¬ (D.isAgency i = true ∧ D.isAgency j = true)) :
    D.connects i j = true ∨ D.connects j i = true := by
  have hids : D.serverId i ≠ D.serverId j := fun heq => hne (D.serverId_injective heq)
  cases hi : D.isAgency i <;> cases hj : D.isAgency j <;> simp [connects, hi, hj] at h ⊢
  omega

theorem not_connects_of_agencies {i j : ι} (hj : D.isAgency j = true) : D.connects i j = false := by
  simp [connects, hj]

theorem serverId_ne_supervisor (i : ι) : D.serverId i ≠ supervisorServerId :=
  (D.supervisor_lt i).ne'

theorem serverType_ne_supervisor (i : ι) : (D.info i).serverType ≠ .Supervisor := by
  cases hi : D.isAgency i <;>
    simp [info, config, hi, playConfiguration, agencyConfiguration]

end Deployment

/-! ## What a server knows of the others -/

section Acquaintance

variable {ι : Type} {D : Deployment ι}

/-- The servers that `i` has heard of are the ones it has entries for, each in its role. -/
structure Acquainted (D : Deployment ι) (i : ι) (heard : List ι) (g : GameServer) : Prop where
  known : ∀ j ∈ heard, (g.getServerSession (D.serverId j)).isSome = true
  entries : ∀ k server, g.getServerSession k = some server →
    k = supervisorServerId ∨ ∃ j ∈ heard, k = D.serverId j ∧
      (j ≠ i → server.serverInfo = D.info j ∧ server.isConnector = D.connects i j)

/-- What `i` knows of a server other than itself. -/
theorem Acquainted.entry {i j : ι} {heard : List ι} {g : GameServer}
    (h : Acquainted D i heard g) (hj : j ∈ heard) (hne : j ≠ i) :
    ∃ server, g.getServerSession (D.serverId j) = some server ∧
      server.serverInfo = D.info j ∧ server.isConnector = D.connects i j := by
  obtain ⟨server, hserver⟩ := Option.isSome_iff_exists.1 (h.known j hj)
  refine ⟨server, hserver, ?_⟩
  rcases h.entries _ _ hserver with hsupervisor | ⟨j', _, hid, hrole⟩
  · exact absurd hsupervisor (D.serverId_ne_supervisor j)
  · obtain rfl := D.serverId_injective hid
    exact hrole hne

theorem Acquainted.heard_of_entry {i j : ι} {heard : List ι} {g : GameServer}
    (h : Acquainted D i heard g) (hj : (g.getServerSession (D.serverId j)).isSome = true) :
    j ∈ heard := by
  obtain ⟨server, hserver⟩ := Option.isSome_iff_exists.1 hj
  rcases h.entries _ _ hserver with hsupervisor | ⟨j', hmem, hid, _⟩
  · exact absurd hsupervisor (D.serverId_ne_supervisor j)
  · exact D.serverId_injective hid ▸ hmem

/-- A record that is stored under the id of a server, with the info and the role of that server. -/
theorem Acquainted.insert {i j : ι} {heard heard' : List ι} {g g' : GameServer}
    {server : IntraServerInfo} (h : Acquainted D i heard g)
    (hheard : ∀ j', j' ∈ heard' ↔ j' ∈ heard ∨ j' = j)
    (hsessions : g'.serverSessions = g.serverSessions.insert (D.serverId j) server)
    (hrole : j ≠ i → server.serverInfo = D.info j ∧ server.isConnector = D.connects i j) :
    Acquainted D i heard' g' where
  known := by
    intro j' hj'
    rw [GameServer.getServerSession, hsessions, UnorderedMap.find_insert]
    split
    next => rfl
    next hne =>
      rcases (hheard j').1 hj' with hold | rfl
      · exact h.known j' hold
      · exact absurd rfl hne
  entries := by
    intro k other hother
    rw [GameServer.getServerSession, hsessions, UnorderedMap.find_insert] at hother
    split at hother
    next hk =>
      cases hother
      exact .inr ⟨j, (hheard j).2 (.inr rfl), hk, hrole⟩
    next =>
      rcases h.entries k other hother with hsupervisor | ⟨j', hj', hid, hrole'⟩
      · exact .inl hsupervisor
      · exact .inr ⟨j', (hheard j').2 (.inl hj'), hid, hrole'⟩

theorem Acquainted.of_sessions {i : ι} {heard : List ι} {g g' : GameServer}
    (h : Acquainted D i heard g) (hsessions : g'.serverSessions = g.serverSessions) :
    Acquainted D i heard g' := by
  have hget : g'.getServerSession = g.getServerSession := by
    funext k
    rw [GameServer.getServerSession, hsessions]
    rfl
  exact ⟨fun j hj => by rw [hget]; exact h.known j hj,
    fun k server hserver => h.entries k server (by rwa [hget] at hserver)⟩

theorem Acquainted.joinServer {i : ι} {heard : List ι} {g : GameServer}
    (h : Acquainted D i heard g) (hmine : g.myServerInfo = D.info i) (j : ι) :
    Acquainted D i (heard ++ [j]) (g.joinServer (D.config i) (D.info j)).1 := by
  have hheard : ∀ j', j' ∈ heard ++ [j] ↔ j' ∈ heard ∨ j' = j := fun j' => by simp
  unfold GameServer.joinServer
  split
  next hself =>
    refine h.insert (j := j) hheard rfl fun hne => absurd (D.serverId_injective ?_) hne
    rwa [hmine] at hself
  next hother =>
    dsimp only
    split
    · exact h.insert (j := j) hheard rfl fun _ => ⟨rfl, D.isConnector_eq hmine j⟩
    · exact h.insert (j := j) hheard rfl fun _ => ⟨rfl, D.isConnector_eq hmine j⟩

end Acquaintance

/-! ## The ends of a connection -/

/-- The session has a record, so that its data can be dispatched. -/
def HasRecord (g : GameServer) (session : Nat) : Prop :=
  ∃ id, (g.userData session).info = some (.active id) ∧ (g.activeSessions.find id).isSome = true

/-- Another server is linked over a session, and data over the session is taken for that server's. -/
structure Linked (g : GameServer) (serverId session : Nat) : Prop where
  entry : ∃ server, g.getServerSession serverId = some server ∧
    server.session = some (.socket session) ∧ server.isAuthorized = true
  record : ∃ id info, (g.userData session).info = some (.active id) ∧
    g.activeSessions.find id = some info ∧ info.isAuthorized = true
  attributed : (g.userData session).serverId = serverId
  link : g.sectorPostingManager.link serverId = some (.socket session)

/-- No record is a client's. -/
def WithoutClients (g : GameServer) : Prop :=
  ∀ id info, g.activeSessions.find id = some info → info.isClient = false

/-- What a handler leaves as it is: records stay records, and all about some servers and some
sessions is unchanged. -/
structure Keeps (serverIds sessions : Nat → Prop) (g g' : GameServer) : Prop where
  entry : ∀ k, serverIds k → g'.getServerSession k = g.getServerSession k
  link : ∀ k, serverIds k → (g.getServerSession k).isSome = true →
    g'.sectorPostingManager.link k = g.sectorPostingManager.link k
  userData : ∀ c, sessions c → g'.userData c = g.userData c
  records : ∀ id info, g.activeSessions.find id = some info →
    ∃ info', g'.activeSessions.find id = some info' ∧
      (info.isAuthorized = true → info'.isAuthorized = true)

namespace Keeps

variable {serverIds sessions : Nat → Prop} {g g' g'' : GameServer} {session : Nat}

theorem refl (g : GameServer) : Keeps serverIds sessions g g :=
  ⟨fun _ _ => rfl, fun _ _ _ => rfl, fun _ _ => rfl, fun _ info h => ⟨info, h, id⟩⟩

theorem trans (h : Keeps serverIds sessions g g') (h' : Keeps serverIds sessions g' g'') :
    Keeps serverIds sessions g g'' where
  entry := fun k hk => (h'.entry k hk).trans (h.entry k hk)
  link := fun k hk hknown =>
    (h'.link k hk (by rwa [h.entry k hk])).trans (h.link k hk hknown)
  userData := fun c hc => (h'.userData c hc).trans (h.userData c hc)
  records := by
    intro id info hinfo
    obtain ⟨info', hinfo', hkept⟩ := h.records id info hinfo
    obtain ⟨info'', hinfo'', hkept'⟩ := h'.records id info' hinfo'
    exact ⟨info'', hinfo'', fun hauthorized => hkept' (hkept hauthorized)⟩

theorem mono {serverIds' sessions' : Nat → Prop} (h : Keeps serverIds sessions g g')
    (hids : ∀ k, serverIds' k → serverIds k) (hsessions : ∀ c, sessions' c → sessions c) :
    Keeps serverIds' sessions' g g' :=
  ⟨fun k hk => h.entry k (hids k hk), fun k hk => h.link k (hids k hk),
    fun c hc => h.userData c (hsessions c hc), h.records⟩

theorem hasRecord (h : Keeps serverIds sessions g g') (hsession : sessions session)
    (hrecord : HasRecord g session) : HasRecord g' session := by
  obtain ⟨id, hid, hfound⟩ := hrecord
  obtain ⟨info, hinfo⟩ := Option.isSome_iff_exists.1 hfound
  obtain ⟨info', hinfo', _⟩ := h.records id info hinfo
  exact ⟨id, by rw [h.userData session hsession]; exact hid, by rw [hinfo']; rfl⟩

theorem linked {serverId : Nat} (h : Keeps serverIds sessions g g') (hid : serverIds serverId)
    (hsession : sessions session) (hlinked : Linked g serverId session) :
    Linked g' serverId session where
  entry := by
    rw [h.entry serverId hid]
    exact hlinked.entry
  record := by
    obtain ⟨id, info, hinfo, hfound, hauthorized⟩ := hlinked.record
    obtain ⟨info', hfound', hkept⟩ := h.records id info hfound
    exact ⟨id, info', by rw [h.userData session hsession]; exact hinfo, hfound', hkept hauthorized⟩
  attributed := by
    rw [h.userData session hsession]
    exact hlinked.attributed
  link := by
    obtain ⟨server, hserver, _⟩ := hlinked.entry
    rw [h.link serverId hid (by rw [hserver]; rfl)]
    exact hlinked.link

end Keeps

/-- What a handler of server `i` leaves when it works for the connection to `j` over a session. -/
structure HandledOver {ι : Type} (D : Deployment ι) (i j : ι) (heard : List ι) (session : Nat)
    (g g' : GameServer) : Prop where
  mine : g'.myServerInfo = g.myServerInfo
  acquainted : Acquainted D i heard g'
  clients : WithoutClients g'
  record : HasRecord g' session
  keeps : Keeps (· ≠ D.serverId j) (· ≠ session) g g'

/-! ## What the handlers do -/

section Effects

variable {ι : Type} {D : Deployment ι} {i : ι} {g : GameServer}

/-- One announcement. -/
theorem joinServer_effect (hmine : g.myServerInfo = D.info i) (j : ι) :
    let result := g.joinServer (D.config i) (D.info j)
    result.2 = (if D.connects i j = true then
        [.registerConnectorSocket (D.address j) (D.serverId j)] else []) ∧
      result.1.myServerInfo = g.myServerInfo ∧ result.1.activeSessions = g.activeSessions ∧
      Keeps (· ≠ D.serverId j) (fun _ => True) g result.1 := by
  have hkeeps : ∀ {g' : GameServer} {server : IntraServerInfo},
      g'.serverSessions = g.serverSessions.insert (D.serverId j) server →
        g'.sectorPostingManager = g.sectorPostingManager → g'.userData = g.userData →
          g'.activeSessions = g.activeSessions →
            Keeps (· ≠ D.serverId j) (fun _ => True) g g' := by
    intro g' server hsessions hmanager huser hactive
    refine ⟨fun k hk => ?_, fun k _ _ => by rw [hmanager], fun c _ => by rw [huser],
      fun id info hinfo => ⟨info, by rw [hactive]; exact hinfo, fun h => h⟩⟩
    rw [GameServer.getServerSession, hsessions, UnorderedMap.find_insert_of_ne _ hk]
    rfl
  have hrole := D.isConnector_eq hmine j
  unfold GameServer.joinServer
  split
  next hself =>
    have hij : j = i := D.serverId_injective (by rwa [hmine] at hself)
    subst hij
    rw [D.connects_irrefl]
    exact ⟨rfl, rfl, rfl, hkeeps rfl rfl rfl rfl⟩
  next hother =>
    dsimp only
    rw [hrole]
    split
    next => exact ⟨rfl, rfl, rfl, hkeeps rfl rfl rfl rfl⟩
    next => exact ⟨rfl, rfl, rfl, hkeeps rfl rfl rfl rfl⟩

/-- The calls that register connectors to some servers. -/
def Deployment.connectorsTo (D : Deployment ι) (servers : List ι) : List MinionAction :=
  servers.map fun j => .registerConnectorSocket (D.address j) (D.serverId j)

/-- A packet of announcements. -/
theorem joinServers_effect (servers : List ι) :
    ∀ {g : GameServer} {heard : List ι}, g.myServerInfo = D.info i → Acquainted D i heard g →
      let result := GameServer.forEach (GameServer.joinServer (D.config i)) g (servers.map D.info)
      result.2 = D.connectorsTo (servers.filter (D.connects i)) ∧
        result.1.myServerInfo = g.myServerInfo ∧ result.1.activeSessions = g.activeSessions ∧
        Keeps (· ∉ servers.map D.serverId) (fun _ => True) g result.1 ∧
        Acquainted D i (heard ++ servers) result.1 := by
  induction servers with
  | nil =>
      intro g heard hmine h
      refine ⟨rfl, rfl, rfl, Keeps.refl g, ?_⟩
      rw [List.append_nil]
      exact h
  | cons j servers ih =>
      intro g heard hmine h
      obtain ⟨hactions, hmine₁, hactive₁, hkeeps₁⟩ := joinServer_effect (D := D) hmine j
      obtain ⟨hmore, hmine₂, hactive₂, hkeeps₂, hknown⟩ :=
        ih (hmine₁.trans hmine) (h.joinServer hmine j)
      refine ⟨?_, hmine₂.trans hmine₁, hactive₂.trans hactive₁, ?_, ?_⟩
      · have hsplit : (GameServer.forEach (GameServer.joinServer (D.config i)) g
            ((j :: servers).map D.info)).2 = (g.joinServer (D.config i) (D.info j)).2 ++
              (GameServer.forEach (GameServer.joinServer (D.config i))
                (g.joinServer (D.config i) (D.info j)).1 (servers.map D.info)).2 := rfl
        rw [hsplit, hactions, hmore, List.filter_cons]
        split
        · rfl
        · rfl
      · refine (hkeeps₁.mono (fun k hk => ?_) fun _ h => h).trans
          (hkeeps₂.mono (fun k hk => ?_) fun _ h => h)
        · exact fun heq => hk (heq ▸ List.mem_cons_self)
        · exact fun hmem => hk (List.mem_cons_of_mem _ hmem)
      · rw [List.append_cons]
        exact hknown

/-- A new session gets a record, and nothing else changes. -/
theorem activateSession_effect (g : GameServer) (session : Nat) (hclients : WithoutClients g) :
    let g' := (g.activateSession session).1
    WithoutClients g' ∧ HasRecord g' session ∧
      Keeps (fun _ => True) (· ≠ session) g g' := by
  refine ⟨?_, ?_, ?_⟩
  · intro id info hinfo
    simp only [GameServer.activateSession, GameServer.setUserData,
      UnorderedMap.find_insert] at hinfo
    split at hinfo
    next =>
      cases hinfo
      cases hold : g.activeSessions.find g.currentUniversalSessionId with
      | none => rfl
      | some old => exact hclients _ old hold
    next => exact hclients id info hinfo
  · refine ⟨g.currentUniversalSessionId, ?_, ?_⟩
    · simp [GameServer.activateSession, GameServer.setUserData]
    · simp [GameServer.activateSession, GameServer.setUserData]
  · refine ⟨fun _ _ => rfl, fun _ _ _ => rfl, fun c hc => Function.update_of_ne hc _ _, ?_⟩
    intro id info hinfo
    by_cases hid : id = g.currentUniversalSessionId
    · subst hid
      refine ⟨{ info with
        session := some (.socket session)
        universalSessionId := g.currentUniversalSessionId }, ?_, fun h => h⟩
      simp [GameServer.activateSession, GameServer.setUserData, hinfo]
    · exact ⟨info, by simp [GameServer.activateSession, GameServer.setUserData, hid, hinfo],
        fun h => h⟩

/-- A completed handshake links one server over one session. -/
theorem authorize_effect (config : Configuration) {session id : Nat} (serverId : Nat)
    (server : IntraServerInfo) (hclients : WithoutClients g)
    (hid : (g.userData session).info = some (.active id))
    (hfound : (g.activeSessions.find id).isSome = true) :
    let g' := g.authorize config session id serverId server
    WithoutClients g' ∧ HasRecord g' session ∧ Linked g' serverId session ∧
      Keeps (· ≠ serverId) (· ≠ session) g g' := by
  obtain ⟨_, hlink, _⟩ := g.authorize_spec config session id serverId server
  -- the record of the session is found, and marked as authorised
  obtain ⟨record, hrecord⟩ := Option.isSome_iff_exists.1 hfound
  have hactive : (g.authorize config session id serverId server).activeSessions =
      g.activeSessions.insert id { record with isAuthorized := true } := by
    simp [GameServer.authorize, GameServer.listenSector, GameServer.setUserData, hrecord]
  have hsessions : (g.authorize config session id serverId server).serverSessions =
      g.serverSessions.insert serverId
        { server with session := some (.socket session), isAuthorized := true } := rfl
  have hdata : (g.authorize config session id serverId server).userData =
      Function.update g.userData session { g.userData session with serverId := serverId } := rfl
  refine ⟨?_, ?_, ⟨?_, ?_, ?_, ?_⟩, ⟨?_, ?_, ?_, ?_⟩⟩
  · intro id' info hinfo
    rw [hactive, UnorderedMap.find_insert] at hinfo
    split at hinfo
    next =>
      cases hinfo
      exact hclients id record hrecord
    next => exact hclients id' info hinfo
  · exact ⟨id, by simp [hdata, hid], by simp [hactive]⟩
  · exact ⟨_, by rw [GameServer.getServerSession, hsessions, UnorderedMap.find_insert_self],
      rfl, rfl⟩
  · exact ⟨id, { record with isAuthorized := true }, by simp [hdata, hid], by simp [hactive], rfl⟩
  · simp [hdata]
  · simp [hlink]
  -- the other servers, their links and the other sessions stay
  · intro k hk
    rw [GameServer.getServerSession, hsessions, UnorderedMap.find_insert_of_ne _ hk]
    rfl
  · intro k hk _
    rw [hlink, if_neg hk]
  · intro c hc
    rw [hdata, Function.update_of_ne hc]
  · intro id' info hinfo
    by_cases heq : id' = id
    · subst heq
      exact ⟨_, by rw [hactive, UnorderedMap.find_insert_self], fun _ => rfl⟩
    · exact ⟨info, by rw [hactive, UnorderedMap.find_insert_of_ne _ heq]; exact hinfo, fun h => h⟩

/-- A server that has heard of another asks it for the handshake when it has connected to it. -/
theorem onSocketSessionConnected_effect {heard : List ι} {j : ι} (h : Acquainted D i heard g)
    (hmine : g.myServerInfo = D.info i) (hj : j ∈ heard) (hne : j ≠ i) (session : Nat) :
    g.onSocketSessionConnected session (D.serverId j) =
      ((g.activateSession session).1,
        [.send session (.authorizeServerRq (D.info i).serverType (D.serverId i))]) := by
  obtain ⟨server, hserver, hinfo, _⟩ := h.entry hj hne
  have htype : server.serverInfo.serverType ≠ .Supervisor := by
    rw [hinfo]
    exact D.serverType_ne_supervisor j
  unfold GameServer.onSocketSessionConnected
  rw [hserver]
  dsimp only
  rw [if_neg htype, hmine]
  rfl

theorem activateSession_over {heard : List ι} (h : Acquainted D i heard g)
    (hclients : WithoutClients g) (j : ι) (session : Nat) :
    HandledOver D i j heard session g (g.activateSession session).1 := by
  obtain ⟨hclients', hrecord, hkeeps⟩ := activateSession_effect g session hclients
  exact ⟨rfl, h.of_sessions rfl, hclients', hrecord, hkeeps.mono (fun _ _ => trivial) fun _ h => h⟩

theorem authorize_over {heard : List ι} {j : ι} (session id : Nat) {server : IntraServerInfo}
    (h : Acquainted D i heard g) (hclients : WithoutClients g)
    (hid : (g.userData session).info = some (.active id))
    (hfound : (g.activeSessions.find id).isSome = true) (hj : j ∈ heard)
    (hinfo : server.serverInfo = D.info j) (hrole : server.isConnector = D.connects i j) :
    let g' := g.authorize (D.config i) session id (D.serverId j) server
    HandledOver D i j heard session g g' ∧ Linked g' (D.serverId j) session := by
  obtain ⟨hclients', hrecord, hlinked, hkeeps⟩ :=
    authorize_effect (D.config i) (D.serverId j) server hclients hid hfound
  refine ⟨⟨rfl, ?_, hclients', hrecord, hkeeps⟩, hlinked⟩
  refine h.insert (j := j) (fun j' => ?_) rfl fun _ => ⟨hinfo, hrole⟩
  exact ⟨.inl, fun hmem => hmem.elim (fun h => h) fun heq => heq ▸ hj⟩

/-- A session with a record and no client has its data dispatched by its type. -/
theorem record_of_hasRecord {session : Nat} (hclients : WithoutClients g)
    (hrecord : HasRecord g session) :
    ∃ id info, (g.userData session).info = some (.active id) ∧
      g.activeSessions.find id = some info ∧ info.isClient = false := by
  obtain ⟨id, hid, hfound⟩ := hrecord
  obtain ⟨info, hinfo⟩ := Option.isSome_iff_exists.1 hfound
  exact ⟨id, info, hid, hinfo, hclients id info hinfo⟩

/-- A server that is asked for the handshake by a server that connects to it. -/
theorem request_effect (handlers : DataHandlers) {heard : List ι} {j : ι} {session : Nat}
    (h : Acquainted D i heard g) (hclients : WithoutClients g) (hrecord : HasRecord g session)
    (hmine : j ∈ heard → g.myServerInfo = D.info i)
    (hother : g.myServerInfo.serverId ≠ D.serverId j) (hconnects : D.connects j i = true) :
    ∃ g' actions, g.onSocketSessionData (D.config i) handlers session
        (.authorizeServerRq (D.serverId j)) = some (g', actions) ∧
      HandledOver D i j heard session g g' ∧
      ((∃ serverId, actions = [.send session (.authorizeServerRs serverId .UnknownServerId)]) ∨
        (actions = [.send session (.authorizeServerRs (D.serverId i) .None)] ∧ j ∈ heard ∧
          Linked g' (D.serverId j) session)) := by
  obtain ⟨id, info, hid, hinfo, hserver⟩ := record_of_hasRecord hclients hrecord
  have hdispatch : g.onSocketSessionData (D.config i) handlers session
      (.authorizeServerRq (D.serverId j)) =
        -- the session belongs to no client, so its data goes to the handlers of servers
        g.authorizeServerRq (D.config i) session id (D.serverId j) := by
    unfold GameServer.onSocketSessionData
    rw [hid]
    dsimp only
    rw [hinfo]
    simp [hserver]
  rw [hdispatch]
  unfold GameServer.authorizeServerRq
  rw [if_neg hother]
  cases hentry : g.getServerSession (D.serverId j) with
  | none =>
      -- the server has not been announced yet: the asker is told to ask again
      exact ⟨g, _, rfl, ⟨rfl, h, hclients, hrecord, Keeps.refl g⟩, .inl ⟨_, rfl⟩⟩
  | some server =>
      have hj : j ∈ heard := h.heard_of_entry (by rw [hentry]; rfl)
      have hne : j ≠ i := by
        rintro rfl
        rw [D.connects_irrefl] at hconnects
        cases hconnects
      obtain ⟨server', hserver', hserverInfo, hrole⟩ := h.entry hj hne
      obtain rfl : server = server' := Option.some.inj (hentry.symm.trans hserver')
      -- the one that is asked is no connector, so it does not close the session
      have hacceptor : server.isConnector = false := hrole.trans (D.connects_asymm hconnects)
      obtain ⟨hover, hlinked⟩ := authorize_over session id h hclients hid
        (by rw [hinfo]; rfl) hj hserverInfo hrole
      dsimp only
      rw [if_neg (by rw [hacceptor]; exact Bool.false_ne_true), hmine hj]
      exact ⟨_, _, rfl, hover, .inr ⟨rfl, hj, hlinked⟩⟩

/-- A server that has asked for the handshake and is told to ask again. -/
theorem refusal_effect (handlers : DataHandlers) {session : Nat} (hclients : WithoutClients g)
    (hrecord : HasRecord g session) (hmine : g.myServerInfo = D.info i) (serverId : Nat) :
    g.onSocketSessionData (D.config i) handlers session
        (.authorizeServerRs serverId .UnknownServerId) =
      some (g, [.send session (.authorizeServerRq (D.info i).serverType (D.serverId i))]) := by
  obtain ⟨id, info, hid, hinfo, hserver⟩ := record_of_hasRecord hclients hrecord
  unfold GameServer.onSocketSessionData
  rw [hid]
  dsimp only
  rw [hinfo]
  simp [hserver, GameServer.authorizeServerRs, hmine]
  rfl

/-- A server that has asked for the handshake and is granted it. -/
theorem grant_effect (handlers : DataHandlers) {heard : List ι} {j : ι} {session : Nat}
    (h : Acquainted D i heard g) (hclients : WithoutClients g) (hrecord : HasRecord g session)
    (hother : g.myServerInfo.serverId ≠ D.serverId j) (hj : j ∈ heard)
    (hconnects : D.connects i j = true) :
    ∃ g', g.onSocketSessionData (D.config i) handlers session
        (.authorizeServerRs (D.serverId j) .None) = some (g', []) ∧
      HandledOver D i j heard session g g' ∧ Linked g' (D.serverId j) session := by
  obtain ⟨id, info, hid, hinfo, hserver⟩ := record_of_hasRecord hclients hrecord
  have hne : j ≠ i := by
    rintro rfl
    rw [D.connects_irrefl] at hconnects
    cases hconnects
  obtain ⟨server, hentry, hserverInfo, hrole⟩ := h.entry hj hne
  have hdispatch : g.onSocketSessionData (D.config i) handlers session
      (.authorizeServerRs (D.serverId j) .None) =
        some (g.authorize (D.config i) session id (D.serverId j) server, []) := by
    unfold GameServer.onSocketSessionData
    rw [hid]
    dsimp only
    rw [hinfo]
    simp [hserver, GameServer.authorizeServerRs, hother, hentry, hrole, hconnects]
  exact ⟨_, hdispatch, authorize_over session id h hclients hid (by rw [hinfo]; rfl) hj hserverInfo hrole⟩

theorem packetsOn_connectorsTo (c : Nat) (servers : List ι) :
    packetsOn c (D.connectorsTo servers) = [] := by
  simp [packetsOn, Deployment.connectorsTo, List.filterMap_map]

theorem closeSession_notMem_connectorsTo (session : SessionRef) (servers : List ι) :
    MinionAction.closeSession session ∉ D.connectorsTo servers := by
  simp [Deployment.connectorsTo]

theorem registrations_connectorsTo (servers : List ι) :
    Handshakes.registrations (D.connectorsTo servers) =
      servers.map fun j => (D.address j, D.serverId j) := by
  simp [Handshakes.registrations, Deployment.connectorsTo, List.filterMap_map]

/-- A server takes its name.  The counter plays no part here, and its arithmetic must not be
evaluated. -/
theorem registerMinionServerRs_eq (g : GameServer) (info : ServerInfo) :
    ∃ counter, g.registerMinionServerRs info =
      { g with
        myServerInfo := info
        loopbackSession := { g.loopbackSession with serverInfo := info }
        sectorPostingManager :=
          g.sectorPostingManager.linkSession info.serverId g.loopbackSession.session
        currentUniversalSessionId := counter
        serviceReady := true } := by
  unfold GameServer.registerMinionServerRs
  generalize (info.serverId * 1000000000000000 + 100000000000001) % 2 ^ 64 = counter
  exact ⟨counter, rfl⟩

theorem registerMinionServerRs_effect {heard : List ι} (h : Acquainted D i heard g)
    (hclients : WithoutClients g) {info : ServerInfo} {g' : GameServer}
    (hg' : g.registerMinionServerRs info = g') :
    g'.myServerInfo = info ∧ Acquainted D i heard g' ∧ WithoutClients g' ∧
      Keeps (· ≠ info.serverId) (fun _ => True) g g' := by
  obtain ⟨counter, heq⟩ := registerMinionServerRs_eq g info
  obtain rfl := heq.symm.trans hg'
  refine ⟨rfl, h.of_sessions rfl, hclients, fun _ _ => rfl, fun k hk _ => ?_, fun _ _ => rfl,
    fun id info hinfo => ⟨info, hinfo, fun h => h⟩⟩
  exact (SectorPostingManager.link_linkSession _ _ _ _).trans (if_neg hk)

/-- News of the supervisor for a server that has its name, unless the news is the name. -/
theorem onSupervisorPacket_effect {heard : List ι} (news : News ι)
    (hnamed : news = .registered ∨ g.myServerInfo = D.info i) (h : Acquainted D i heard g)
    (hclients : WithoutClients g) :
    let result := g.onSupervisorPacket (D.config i) 0 (news.packet D i)
    result.2 = D.connectorsTo (news.servers.filter (D.connects i)) ∧
      result.1.myServerInfo = D.info i ∧ Acquainted D i (heard ++ news.servers) result.1 ∧
      WithoutClients result.1 ∧
      Keeps (fun k => k ≠ D.serverId i ∧ k ∉ news.servers.map D.serverId) (fun _ => True) g
        result.1 := by
  cases news with
  -- the name of the server
  | registered =>
      have hresult : g.onSupervisorPacket (D.config i) 0 (News.registered.packet D i) =
          (g.registerMinionServerRs (D.info i), []) := by
        unfold GameServer.onSupervisorPacket News.packet
        rfl
      intro result
      rw [show result = (g.registerMinionServerRs (D.info i), []) from hresult]
      generalize hg' : g.registerMinionServerRs (D.info i) = g'
      obtain ⟨hmine, hacquainted, hclients', hkeeps⟩ :=
        registerMinionServerRs_effect h hclients hg'
      refine ⟨rfl, hmine, ?_, hclients', hkeeps.mono (fun _ hk => hk.1) fun _ h => h⟩
      rw [show (News.registered : News ι).servers = [] from rfl, List.append_nil]
      exact hacquainted
  | joined servers =>
      -- the servers that have joined: to some of them a connector is registered
      have hmine : g.myServerInfo = D.info i := hnamed.resolve_left nofun
      obtain ⟨hactions, hmine', hactive, hkeeps, hknown⟩ := joinServers_effect servers hmine h
      refine ⟨hactions, hmine'.trans hmine, hknown, ?_, hkeeps.mono (fun _ hk => hk.2) fun _ h => h⟩
      intro id info hinfo
      exact hclients id info ((congrArg (UnorderedMap.find · id) hactive).symm.trans hinfo)
  | allocated allocation =>
      -- the sectors that were allocated: links and records stay
      have hmine : g.myServerInfo = D.info i := hnamed.resolve_left nofun
      have hlink := (SectorPostingManager.allocations_spec allocation g.sectorPostingManager
        fun _ => none).1
      refine ⟨rfl, hmine, ?_, hclients, ?_⟩
      · have hservers : (News.allocated allocation : News ι).servers = [] := rfl
        rw [hservers, List.append_nil]
        exact h.of_sessions rfl
      · exact ⟨fun _ _ => rfl, fun k _ _ => hlink k, fun _ _ => rfl,
          fun id info hinfo => ⟨info, hinfo, fun h => h⟩⟩

end Effects

/-! ## The invariant -/

namespace Handshakes

variable {ι : Type} (D : Deployment ι)

/-- A server, its channel from the supervisor and the connectors it has registered. -/
structure Informed (s : Handshakes ι) (i : ι) : Prop where
  named : s.named i = true → (s.server i).myServerInfo = D.info i
  unnamed : s.named i = false → (s.server i).myServerInfo.serverId = 0 ∧ s.heard i = []
  acquainted : Acquainted D i (s.heard i) (s.server i)
  clients : WithoutClients (s.server i)
  channel : if s.named i = true then .registered ∉ s.down i
    else s.down i = [] ∨ ∃ rest, s.down i = .registered :: rest ∧ .registered ∉ rest
  once : (s.heard i ++ s.pending i).Nodup
  registered : s.registered i = registrations (D.connectorsTo ((s.heard i).filter (D.connects i)))

/-- How far the handshake over a connection is. -/
inductive Phase (s : Handshakes ι) (c : Nat) (k : Connection ι) : Prop where
  | opening : k.connected = false → k.toAcceptor = [] → k.toConnector = [] → Phase s c k
  | asked : k.connected = true → k.toAcceptor = [.authorizeServerRq (D.serverId k.connector)] →
      k.toConnector = [] → Phase s c k
  | refused (serverId : Nat) : k.connected = true → k.accepted = true → k.toAcceptor = [] →
      k.toConnector = [.authorizeServerRs serverId .UnknownServerId] → Phase s c k
  | granted : k.connected = true → k.accepted = true → k.toAcceptor = [] →
      k.toConnector = [.authorizeServerRs (D.serverId k.acceptor) .None] →
        k.connector ∈ s.heard k.acceptor →
          Linked (s.server k.acceptor) (D.serverId k.connector) c → Phase s c k
  | linked : k.connected = true → k.accepted = true → k.toAcceptor = [] → k.toConnector = [] →
      k.connector ∈ s.heard k.acceptor →
        Linked (s.server k.acceptor) (D.serverId k.connector) c →
          Linked (s.server k.connector) (D.serverId k.acceptor) c → Phase s c k

/-- A connection goes from the server that connects to the other. -/
structure Made (s : Handshakes ι) (c : Nat) (k : Connection ι) : Prop where
  connects : D.connects k.connector k.acceptor = true
  heard : k.acceptor ∈ s.heard k.connector
  attachment : k.attachment = D.serverId k.acceptor
  connectorRecord : k.connected = true → HasRecord (s.server k.connector) c
  acceptorRecord : k.accepted = true → HasRecord (s.server k.acceptor) c
  phase : Phase D s c k

structure Sound (s : Handshakes ι) : Prop where
  informed : ∀ i, Informed D s i
  made : ∀ c k, s.connection c = some k → Made D s c k
  single : ∀ c c' k k', s.connection c = some k → s.connection c' = some k' →
    k.connector = k'.connector → k.acceptor = k'.acceptor → c = c'

variable {D} {s s' : Handshakes ι} {i : ι} {c : Nat} {k : Connection ι}

theorem Made.ne (h : Made D s c k) : k.connector ≠ k.acceptor := by
  intro heq
  have hconnects := h.connects
  rw [heq, D.connects_irrefl] at hconnects
  cases hconnects

theorem Informed.named_of_heard (h : Informed D s i) {j : ι} (hj : j ∈ s.heard i) :
    s.named i = true := by
  cases hnamed : s.named i with
  | true => rfl
  | false =>
      rw [(h.unnamed hnamed).2] at hj
      exact absurd hj List.not_mem_nil

/-- No other server has the id that a server takes for its own. -/
theorem Informed.serverId_ne (h : Informed D s i) {j : ι} (hne : i ≠ j) :
    (s.server i).myServerInfo.serverId ≠ D.serverId j := by
  cases hnamed : s.named i with
  | true =>
      rw [h.named hnamed]
      exact fun heq => hne (D.serverId_injective heq)
  | false =>
      rw [(h.unnamed hnamed).1]
      exact ((Nat.zero_le _).trans_lt (D.supervisor_lt j)).ne

theorem Informed.congr (h : Informed D s i) (hserver : s'.server i = s.server i)
    (hdown : s'.down i = s.down i) (hnamed : s'.named i = s.named i)
    (hheard : s'.heard i = s.heard i) (hregistered : s'.registered i = s.registered i) :
    Informed D s' i := by
  have hpending : s'.pending i = s.pending i := by
    rw [pending, hdown]
    rfl
  refine ⟨?_, ?_, ?_, ?_, ?_, ?_, ?_⟩
  · rw [hnamed, hserver]
    exact h.named
  · rw [hnamed, hserver, hheard]
    exact h.unnamed
  · rw [hserver, hheard]
    exact h.acquainted
  · rw [hserver]
    exact h.clients
  · rw [hnamed, hdown]
    exact h.channel
  · rw [hheard, hpending]
    exact h.once
  · rw [hregistered, hheard]
    exact h.registered

/-- The connectors that a server has registered are those to the servers it connects to among those
it has heard of. -/
theorem Informed.mem_registered (h : Informed D s i) {connector : SocketAddress × Nat} :
    connector ∈ s.registered i ↔
      ∃ j ∈ s.heard i, D.connects i j = true ∧ connector = (D.address j, D.serverId j) := by
  rw [h.registered, registrations_connectorsTo, List.mem_map]
  constructor
  · rintro ⟨j, hj, rfl⟩
    obtain ⟨hheard, hconnects⟩ := List.mem_filter.1 hj
    exact ⟨j, hheard, hconnects, rfl⟩
  · rintro ⟨j, hheard, hconnects, rfl⟩
    exact ⟨j, List.mem_filter.2 ⟨hheard, hconnects⟩, rfl⟩

/-- Two servers have at most one connection. -/
theorem Sound.eq_of_ends (h : Sound D s) {c' : Nat} {k' : Connection ι} {j : ι}
    (hk : s.connection c = some k) (hk' : s.connection c' = some k')
    (hends : k.connector = i ∧ k.acceptor = j ∨ k.acceptor = i ∧ k.connector = j)
    (hends' : k'.connector = i ∧ k'.acceptor = j ∨ k'.acceptor = i ∧ k'.connector = j) :
    c = c' := by
  have hmade := (h.made c k hk).connects
  have hmade' := (h.made c' k' hk').connects
  rcases hends with ⟨rfl, rfl⟩ | ⟨rfl, rfl⟩ <;> rcases hends' with ⟨h₁, h₂⟩ | ⟨h₁, h₂⟩
  · exact h.single c c' k k' hk hk' h₁.symm h₂.symm
  · rw [h₁, h₂, D.connects_asymm hmade] at hmade'
    cases hmade'
  · rw [h₁, h₂, D.connects_asymm hmade] at hmade'
    cases hmade'
  · exact h.single c c' k k' hk hk' h₂.symm h₁.symm

/-- What the other connections need of a step: both ends keep what they have of each other. -/
theorem Made.frame (h : Made D s c k)
    (hheard : ∀ j j', j' ∈ s.heard j → j' ∈ s'.heard j)
    (hconnector : Keeps (· = D.serverId k.acceptor) (· = c) (s.server k.connector)
      (s'.server k.connector))
    (hacceptor : Keeps (fun x => k.connector ∈ s.heard k.acceptor ∧ x = D.serverId k.connector)
      (· = c) (s.server k.acceptor) (s'.server k.acceptor)) : Made D s' c k where
  connects := h.connects
  heard := hheard _ _ h.heard
  attachment := h.attachment
  connectorRecord := fun hconnected => hconnector.hasRecord rfl (h.connectorRecord hconnected)
  acceptorRecord := fun haccepted => hacceptor.hasRecord rfl (h.acceptorRecord haccepted)
  phase := by
    cases h.phase with
    | opening hconnected hrq hrs => exact .opening hconnected hrq hrs
    | asked hconnected hrq hrs => exact .asked hconnected hrq hrs
    | refused serverId hconnected haccepted hrq hrs =>
        exact .refused serverId hconnected haccepted hrq hrs
    | granted hconnected haccepted hrq hrs hknown hlinked =>
        exact .granted hconnected haccepted hrq hrs (hheard _ _ hknown)
          (hacceptor.linked ⟨hknown, rfl⟩ rfl hlinked)
    | linked hconnected haccepted hrq hrs hknown hlinked hlinked' =>
        exact .linked hconnected haccepted hrq hrs (hheard _ _ hknown)
          (hacceptor.linked ⟨hknown, rfl⟩ rfl hlinked) (hconnector.linked rfl rfl hlinked')

theorem Sound.connect (h : Sound D s) {j : ι} {serverId : Nat}
    (hregistered : (D.address j, serverId) ∈ s.registered i)
    (hfree : ∀ c' k, s.connection c' = some k → ¬ (k.connector = i ∧ k.attachment = serverId)) :
    Sound D (s.setConnection c ⟨i, j, serverId, false, false, [], []⟩) := by
  obtain ⟨j', hheard, hconnects, hconnector⟩ := (h.informed i).mem_registered.1 hregistered
  obtain ⟨haddress, rfl⟩ := Prod.mk.inj hconnector
  obtain rfl := D.address_injective haddress
  have hnew : Made D (s.setConnection c ⟨i, j, D.serverId j, false, false, [], []⟩) c
      ⟨i, j, D.serverId j, false, false, [], []⟩ :=
    ⟨hconnects, hheard, rfl, nofun, nofun, .opening rfl rfl rfl⟩
  have hfind : ∀ c' k, (s.setConnection c ⟨i, j, D.serverId j, false, false, [], []⟩).connection
      c' = some k → (c' = c ∧ k = ⟨i, j, D.serverId j, false, false, [], []⟩) ∨
        (c' ≠ c ∧ s.connection c' = some k) := by
    intro c' k hk
    simp only [setConnection] at hk
    by_cases hc' : c' = c
    · subst hc'
      rw [Function.update_self] at hk
      exact .inl ⟨rfl, (Option.some.inj hk).symm⟩
    · rw [Function.update_of_ne hc'] at hk
      exact .inr ⟨hc', hk⟩
  -- the connector was registered for this server, so a second connection for it would have the same
  -- attachment
  have hother : ∀ c' k, s.connection c' = some k → ¬ (k.connector = i ∧ k.acceptor = j) := by
    rintro c' k hk ⟨hi, hj⟩
    exact hfree c' k hk ⟨hi, by rw [(h.made c' k hk).attachment, hj]⟩
  refine ⟨fun j' => (h.informed j').congr rfl rfl rfl rfl rfl, fun c' k hk => ?_, ?_⟩
  · rcases hfind c' k hk with ⟨rfl, rfl⟩ | ⟨_, hold⟩
    · exact hnew
    · exact (h.made c' k hold).frame (fun _ _ hj => hj) (Keeps.refl _) (Keeps.refl _)
  · intro c₁ c₂ k₁ k₂ hk₁ hk₂ hconnector hacceptor
    rcases hfind c₁ k₁ hk₁ with ⟨rfl, rfl⟩ | ⟨_, hold₁⟩ <;>
      rcases hfind c₂ k₂ hk₂ with ⟨rfl, rfl⟩ | ⟨_, hold₂⟩
    · rfl
    · exact absurd ⟨hconnector.symm, hacceptor.symm⟩ (hother c₂ k₂ hold₂)
    · exact absurd ⟨hconnector, hacceptor⟩ (hother c₁ k₁ hold₁)
    · exact h.single c₁ c₂ k₁ k₂ hold₁ hold₂ hconnector hacceptor

/-! ## The invariant along a run -/

section Run

variable [DecidableEq ι]

theorem sound_initialized (handlers : DataHandlers) (hinit : (machine D handlers).init s) :
    Sound D s := by
  obtain rfl : s = _ := hinit
  refine ⟨fun i => ⟨?_, fun _ => ⟨rfl, rfl⟩, ⟨?_, ?_⟩, ?_, .inl rfl, List.nodup_nil, rfl⟩, ?_, ?_⟩
  · intro hnamed
    cases hnamed
  · intro j hj
    exact absurd hj List.not_mem_nil
  · intro k server hserver
    by_cases hk : k = supervisorServerId
    · exact .inl hk
    · simp [GameServer.initialized, GameServer.onSocketSessionConnected,
        GameServer.getServerSession, GameServer.setUserData, hk] at hserver
  · intro id info hinfo
    simp only [GameServer.initialized, GameServer.onSocketSessionConnected,
      GameServer.getServerSession, GameServer.setUserData, UnorderedMap.find_insert_self, if_true,
      UnorderedMap.find_insert] at hinfo
    split at hinfo
    · cases hinfo
      rfl
    · cases hinfo
  · intro c k hk
    cases hk
  · intro c c' k k' hk
    cases hk

theorem post_nil (i : ι) (k : Connection ι) : post i [] k = k := by
  unfold post
  split_ifs <;> simp

theorem connection_perform (s : Handshakes ι) (i : ι) {result : GameServer × List MinionAction}
    (h : packetsOn c result.2 = []) : (s.perform i result).connection c = s.connection c := by
  change (s.connection c).map (post i (packetsOn c result.2)) = s.connection c
  rw [h]
  cases s.connection c with
  | none => rfl
  | some k => exact congrArg some (post_nil i k)

theorem ends_post (i : ι) (packets : List DataPacket) (k : Connection ι) :
    (post i packets k).connector = k.connector ∧ (post i packets k).acceptor = k.acceptor := by
  unfold post
  split_ifs <;> exact ⟨rfl, rfl⟩

/-- A handler of server `i` that works for its connection to `j`. -/
theorem Sound.over (h : Sound D s) {j : ι} {k₁ : Connection ι}
    {result : GameServer × List MinionAction} (hk : s.connection c = some k)
    (hends : k.connector = i ∧ k.acceptor = j ∨ k.acceptor = i ∧ k.connector = j)
    (hconnector : k₁.connector = k.connector) (hacceptor : k₁.acceptor = k.acceptor)
    (hpackets : ∀ c', c' ≠ c → packetsOn c' result.2 = [])
    (hregistrations : registrations result.2 = [])
    (hover : HandledOver D i j (s.heard i) c (s.server i) result.1)
    (hmade : Made D ((s.setConnection c k₁).perform i result) c
      (post i (packetsOn c result.2) k₁)) :
    Sound D ((s.setConnection c k₁).perform i result) := by
  let s' := (s.setConnection c k₁).perform i result
  -- the handler answers on its own connection, and no other one changes
  have hself : s'.connection c = some (post i (packetsOn c result.2) k₁) := by
    change (Function.update s.connection c (some k₁) c).map _ = _
    rw [Function.update_self]
    rfl
  have hother : ∀ c', c' ≠ c → s'.connection c' = s.connection c' := by
    intro c' hc'
    rw [connection_perform _ _ (hpackets c' hc')]
    exact Function.update_of_ne hc' _ _
  have hserver : ∀ j', j' ≠ i → s'.server j' = s.server j' :=
    fun j' hj' => Function.update_of_ne hj' _ _
  have hserver_self : s'.server i = result.1 := Function.update_self ..
  have hregistered : s'.registered = s.registered := by
    change Function.update s.registered i (s.registered i ++ registrations result.2) = _
    rw [hregistrations, List.append_nil, Function.update_eq_self]
  have hends_of : ∀ c' k', s'.connection c' = some k' →
      ∃ k₀, s.connection c' = some k₀ ∧ k'.connector = k₀.connector ∧ k'.acceptor = k₀.acceptor := by
    intro c' k' hk'
    by_cases hc' : c' = c
    · subst hc'
      rw [hself] at hk'
      cases hk'
      obtain ⟨h₁, h₂⟩ := ends_post i (packetsOn c' result.2) k₁
      exact ⟨k, hk, h₁.trans hconnector, h₂.trans hacceptor⟩
    · exact ⟨k', (hother c' hc').symm.trans hk', rfl, rfl⟩
  -- the servers, the connections, and that there is one between any two
  refine ⟨fun j' => ?_, fun c' k' hk' => ?_, ?_⟩
  · by_cases hj' : j' = i
    · subst hj'
      have hold := h.informed j'
      refine ⟨fun hnamed => ?_, fun hnamed => ?_, ?_, ?_, hold.channel, hold.once, ?_⟩
      · rw [hserver_self, hover.mine]
        exact hold.named hnamed
      · rw [hserver_self, hover.mine]
        exact hold.unnamed hnamed
      · rw [hserver_self]
        exact hover.acquainted
      · rw [hserver_self]
        exact hover.clients
      · exact (congrFun hregistered j').trans hold.registered
    · exact (h.informed j').congr (hserver j' hj') rfl rfl rfl (congrFun hregistered j')
  · by_cases hc' : c' = c
    · subst hc'
      rw [hself] at hk'
      cases hk'
      exact hmade
    · have hk₀ := (hother c' hc').symm.trans hk'
      have hmade' := h.made c' k' hk₀
      -- a handler of `i` keeps all records but that of its peer `j`, and the peer at the end of
      -- another connection is not `j`
      have hsession : ∀ x, x = c' → x ≠ c := fun x hx => hx ▸ hc'
      refine hmade'.frame (fun _ _ hj' => hj') ?_ ?_
      · by_cases hi : k'.connector = i
        · have hpeer : k'.acceptor ≠ j := fun heq =>
            hc' (h.eq_of_ends hk hk₀ hends (.inl ⟨hi, heq⟩)).symm
          rw [hi, hserver_self]
          refine hover.keeps.mono (fun x hx => ?_) hsession
          rw [hx]
          exact fun heq => hpeer (D.serverId_injective heq)
        · rw [hserver _ hi]
          exact Keeps.refl _
      · by_cases hi : k'.acceptor = i
        · have hpeer : k'.connector ≠ j := fun heq =>
            hc' (h.eq_of_ends hk hk₀ hends (.inr ⟨hi, heq⟩)).symm
          rw [hi, hserver_self]
          refine hover.keeps.mono (fun x hx => ?_) hsession
          rw [hx.2]
          exact fun heq => hpeer (D.serverId_injective heq)
        · rw [hserver _ hi]
          exact Keeps.refl _
  · intro c₁ c₂ k₁' k₂' hk₁ hk₂ h₁ h₂
    obtain ⟨k₁₀, hold₁, hc₁, ha₁⟩ := hends_of c₁ k₁' hk₁
    obtain ⟨k₂₀, hold₂, hc₂, ha₂⟩ := hends_of c₂ k₂' hk₂
    exact h.single c₁ c₂ k₁₀ k₂₀ hold₁ hold₂ (hc₁.symm.trans (h₁.trans hc₂))
      (ha₁.symm.trans (h₂.trans ha₂))

/-- The name comes first, and a server has it after the first news. -/
theorem Informed.next (h : Informed D s i) {news : News ι} {rest : List (News ι)}
    (hdown : s.down i = news :: rest) :
    (news = .registered ∨ (s.server i).myServerInfo = D.info i) ∧ .registered ∉ rest ∧
      (s.take i news rest).named i = true := by
  have hchannel := h.channel
  have htake : (s.take i news rest).named i = (s.named i || news.isName) := Function.update_self ..
  rw [htake]
  split at hchannel
  next hnamed =>
    rw [hdown] at hchannel
    refine ⟨.inr (h.named hnamed), fun hmem => hchannel (List.mem_cons_of_mem _ hmem), ?_⟩
    rw [hnamed]
    rfl
  next =>
    rcases hchannel with hempty | ⟨rest', hfirst, hno⟩
    · rw [hdown] at hempty
      cases hempty
    · rw [hdown] at hfirst
      cases hfirst
      exact ⟨.inl rfl, hno, Bool.or_true _⟩

theorem Sound.receive (h : Sound D s) {news : News ι} {rest : List (News ι)}
    (hdown : s.down i = news :: rest) :
    Sound D ((s.take i news rest).perform i
      ((s.server i).onSupervisorPacket (D.config i) 0 (news.packet D i))) := by
  have hold := h.informed i
  obtain ⟨hfirst, hrest, hnamed⟩ := hold.next hdown
  have heffect := onSupervisorPacket_effect news hfirst hold.acquainted hold.clients
  generalize (s.server i).onSupervisorPacket (D.config i) 0 (news.packet D i) = result at heffect
  obtain ⟨hactions, hmine, hacquainted, hclients, hkeeps⟩ := heffect
  let s' := (s.take i news rest).perform i result
  -- what the supervisor says makes connectors at most, so nothing is posted on a connection
  have hconnection : ∀ c, s'.connection c = s.connection c := by
    intro c
    refine connection_perform (s.take i news rest) i ?_
    rw [hactions]
    exact packetsOn_connectorsTo c _
  have hserver : s'.server i = result.1 := Function.update_self ..
  have hheard : s'.heard i = s.heard i ++ news.servers := Function.update_self ..
  have hdown' : s'.down i = rest := Function.update_self ..
  have hregistered : s'.registered i = s.registered i ++ registrations result.2 :=
    Function.update_self ..
  have hpending : s.pending i = news.servers ++ s'.pending i := by
    rw [pending, pending, hdown, hdown']
    rfl
  have hmono : ∀ j j', j' ∈ s.heard j → j' ∈ s'.heard j := by
    intro j j' hj'
    by_cases hj : j = i
    · subst hj
      rw [hheard]
      exact List.mem_append_left _ hj'
    · rw [show s'.heard j = s.heard j from Function.update_of_ne hj _ _]
      exact hj'
  -- a server that was heard before is none of the news, since each is named once
  have hpeer : ∀ j, j ∈ s.heard i → i ≠ j →
      D.serverId j ≠ D.serverId i ∧ D.serverId j ∉ news.servers.map D.serverId := by
    intro j hj hne
    refine ⟨fun heq => hne (D.serverId_injective heq).symm, fun hmem => ?_⟩
    rw [List.mem_map_of_injective D.serverId_injective] at hmem
    have honce := hold.once
    rw [hpending] at honce
    exact (List.nodup_append.1 honce).2.2 j hj j (List.mem_append_left _ hmem) rfl
  -- the servers, the connections, and that there is one between any two
  refine ⟨fun j => ?_, fun c k hk => ?_, fun c c' k k' hk hk' => ?_⟩
  · by_cases hj : j = i
    · subst hj
      refine ⟨fun _ => ?_, fun hunnamed => ?_, ?_, ?_, ?_, ?_, ?_⟩
      · rw [hserver]
        exact hmine
      · rw [show s'.named j = true from hnamed] at hunnamed
        cases hunnamed
      · rw [hserver, hheard]
        exact hacquainted
      · rw [hserver]
        exact hclients
      · rw [if_pos (show s'.named j = true from hnamed), hdown']
        exact hrest
      · rw [hheard, List.append_assoc, ← hpending]
        exact hold.once
      · rw [hregistered, hheard, hold.registered, hactions, List.filter_append]
        simp only [registrations_connectorsTo, List.map_append]
    · exact (h.informed j).congr (Function.update_of_ne hj _ _) (Function.update_of_ne hj _ _)
        (Function.update_of_ne hj _ _) (Function.update_of_ne hj _ _)
        (Function.update_of_ne hj _ _)
  · rw [hconnection] at hk
    have hmade := h.made c k hk
    refine hmade.frame hmono ?_ ?_
    · by_cases hi : k.connector = i
      · rw [hi, hserver]
        refine hkeeps.mono (fun x hx => ?_) fun _ _ => trivial
        rw [hx]
        exact hpeer _ (hi ▸ hmade.heard) (hi ▸ hmade.ne)
      · rw [show s'.server k.connector = s.server k.connector from Function.update_of_ne hi _ _]
        exact Keeps.refl _
    · by_cases hi : k.acceptor = i
      · rw [hi, hserver]
        refine hkeeps.mono (fun x hx => ?_) fun _ _ => trivial
        rw [hx.2]
        exact hpeer _ hx.1 (hi ▸ hmade.ne.symm)
      · rw [show s'.server k.acceptor = s.server k.acceptor from Function.update_of_ne hi _ _]
        exact Keeps.refl _
  · rw [hconnection] at hk hk'
    exact h.single c c' k k' hk hk'

theorem packetsOn_of_ne {session c : Nat} (hne : c ≠ session) (packet : MinionPacket) :
    packetsOn c [.send session packet] = [] := by
  cases packet <;> simp [packetsOn, hne.symm]

/-- What the step of a handler is to keep, and that the handler closes nothing. -/
def Keeping (D : Deployment ι) (i : ι) (s' : Handshakes ι)
    (outcome : Option (GameServer × List MinionAction)) : Prop :=
  ∃ result, outcome = some result ∧ (∀ x, .closeSession x ∉ result.2) ∧
    Sound D (s'.perform i result)

theorem Sound.keeping_receive (h : Sound D s) {news : News ι} {rest : List (News ι)}
    (hdown : s.down i = news :: rest) :
    Keeping D i (s.take i news rest)
      (some ((s.server i).onSupervisorPacket (D.config i) 0 (news.packet D i))) := by
  have hold := h.informed i
  obtain ⟨hfirst, _⟩ := hold.next hdown
  obtain ⟨hactions, _⟩ := onSupervisorPacket_effect news hfirst hold.acquainted hold.clients
  refine ⟨_, rfl, fun x => ?_, h.receive hdown⟩
  rw [hactions]
  exact closeSession_notMem_connectorsTo x _

/-- The connector hears of the connection and asks. -/
theorem Sound.keeping_connected (h : Sound D s) (hk : s.connection c = some k)
    (hopening : k.connected = false) :
    Keeping D k.connector (s.setConnection c { k with connected := true })
      (some ((s.server k.connector).onSocketSessionConnected c k.attachment)) := by
  have hmade := h.made c k hk
  have hinformed := h.informed k.connector
  have hmine := hinformed.named (hinformed.named_of_heard hmade.heard)
  obtain ⟨hrq, hrs⟩ : k.toAcceptor = [] ∧ k.toConnector = [] := by
    cases hmade.phase with
    | opening _ hrq hrs => exact ⟨hrq, hrs⟩
    | asked hconnected | refused _ hconnected | granted hconnected | linked hconnected =>
        rw [hopening] at hconnected
        cases hconnected
  have hresult := onSocketSessionConnected_effect hinformed.acquainted hmine hmade.heard
    hmade.ne.symm c
  rw [← hmade.attachment] at hresult
  rw [hresult]
  have hover := activateSession_over hinformed.acquainted hinformed.clients k.acceptor c
  refine ⟨_, rfl, by simp, h.over hk (.inl ⟨rfl, rfl⟩) rfl rfl
    (fun c' hc' => packetsOn_of_ne hc' _) rfl hover ?_⟩
  have hpackets : packetsOn c [.send c (.authorizeServerRq (D.info k.connector).serverType
      (D.serverId k.connector))] = [.authorizeServerRq (D.serverId k.connector)] := by
    simp [packetsOn]
  rw [hpackets, post, if_pos rfl]
  refine ⟨hmade.connects, hmade.heard, hmade.attachment, fun _ => ?_, fun haccepted => ?_,
    .asked rfl ?_ hrs⟩
  · rw [show ((s.setConnection c _).perform k.connector _).server k.connector = _ from
      Function.update_self ..]
    exact hover.record
  · rw [show ((s.setConnection c _).perform k.connector _).server k.acceptor = _ from
      Function.update_of_ne hmade.ne.symm _ _]
    exact hmade.acceptorRecord haccepted
  · rw [hrq]
    rfl

/-- The acceptor hears of the connection. -/
theorem Sound.keeping_accepted (h : Sound D s) (hk : s.connection c = some k)
    (hpending : k.accepted = false) :
    Keeping D k.acceptor (s.setConnection c { k with accepted := true })
      (some ((s.server k.acceptor).onSocketSessionAccepted c false)) := by
  have hmade := h.made c k hk
  have hinformed := h.informed k.acceptor
  have hresult : (s.server k.acceptor).onSocketSessionAccepted c false =
      (((s.server k.acceptor).activateSession c).1, []) := rfl
  rw [hresult]
  have hover := activateSession_over hinformed.acquainted hinformed.clients k.connector c
  refine ⟨_, rfl, by simp, h.over hk (.inr ⟨rfl, rfl⟩) rfl rfl (fun _ _ => rfl) rfl hover ?_⟩
  rw [show packetsOn c [] = [] from rfl, post_nil]
  refine ⟨hmade.connects, hmade.heard, hmade.attachment, fun hconnected => ?_, fun _ => ?_, ?_⟩
  · rw [show ((s.setConnection c _).perform k.acceptor _).server k.connector = _ from
      Function.update_of_ne hmade.ne _ _]
    exact hmade.connectorRecord hconnected
  · rw [show ((s.setConnection c _).perform k.acceptor _).server k.acceptor = _ from
      Function.update_self ..]
    exact hover.record
  · cases hmade.phase with
    | opening hconnected hrq hrs => exact .opening hconnected hrq hrs
    | asked hconnected hrq hrs => exact .asked hconnected hrq hrs
    | refused _ _ haccepted | granted _ haccepted | linked _ haccepted =>
        rw [hpending] at haccepted
        cases haccepted

/-- The acceptor answers a request. -/
theorem Sound.keeping_request (h : Sound D s) (handlers : DataHandlers)
    (hk : s.connection c = some k) (haccepted : k.accepted = true) {packet : DataPacket}
    {rest : List DataPacket} (hpacket : k.toAcceptor = packet :: rest) :
    Keeping D k.acceptor (s.setConnection c { k with toAcceptor := rest })
      ((s.server k.acceptor).onSocketSessionData (D.config k.acceptor) handlers c packet) := by
  have hmade := h.made c k hk
  have hinformed := h.informed k.acceptor
  cases hmade.phase with
  | opening _ hrq | refused _ _ _ hrq | granted _ _ hrq | linked _ _ hrq =>
      rw [hrq] at hpacket
      cases hpacket
  | asked hconnected hrq hrs =>
      rw [hrq] at hpacket
      cases hpacket
      obtain ⟨g', actions, houtcome, hover, hanswer⟩ := request_effect handlers
        hinformed.acquainted hinformed.clients (hmade.acceptorRecord haccepted)
        (fun hj => hinformed.named (hinformed.named_of_heard hj))
        (hinformed.serverId_ne hmade.ne.symm) hmade.connects
      rw [houtcome]
      -- either answer goes over the same connection
      obtain ⟨serverId, error, hactions⟩ : ∃ serverId error,
          actions = [.send c (.authorizeServerRs serverId error)] := by
        rcases hanswer with ⟨serverId, hactions⟩ | ⟨hactions, _⟩
        · exact ⟨serverId, _, hactions⟩
        · exact ⟨_, _, hactions⟩
      have hpackets : packetsOn c actions = [.authorizeServerRs serverId error] := by
        simp [hactions, packetsOn]
      refine ⟨_, rfl, by simp [hactions], h.over hk (.inr ⟨rfl, rfl⟩) rfl rfl (fun c' hc' => ?_)
        (by simp [hactions, registrations]) hover ?_⟩
      · rw [hactions]
        exact packetsOn_of_ne hc' _
      have hserver : ((s.setConnection c { k with toAcceptor := [] }).perform k.acceptor
          (g', actions)).server k.acceptor = g' := Function.update_self ..
      rw [post, if_neg hmade.ne, if_pos rfl]
      refine ⟨hmade.connects, hmade.heard, hmade.attachment, fun _ => ?_, fun _ => ?_, ?_⟩
      · rw [show ((s.setConnection c _).perform k.acceptor _).server k.connector = _ from
          Function.update_of_ne hmade.ne _ _]
        exact hmade.connectorRecord hconnected
      · rw [hserver]
        exact hover.record
      · rcases hanswer with ⟨serverId', hactions'⟩ | ⟨hactions', hj, hlinked⟩
        · refine .refused serverId' hconnected haccepted rfl ?_
          simp [hrs, hactions', packetsOn]
        · refine .granted hconnected haccepted rfl ?_ hj ?_
          · simp [hrs, hactions', packetsOn]
          · rw [hserver]
            exact hlinked

/-- The connector handles an answer. -/
theorem Sound.keeping_response (h : Sound D s) (handlers : DataHandlers)
    (hk : s.connection c = some k) {packet : DataPacket}
    {rest : List DataPacket} (hpacket : k.toConnector = packet :: rest) :
    Keeping D k.connector (s.setConnection c { k with toConnector := rest })
      ((s.server k.connector).onSocketSessionData (D.config k.connector) handlers c packet) := by
  have hmade := h.made c k hk
  have hinformed := h.informed k.connector
  have hmine := hinformed.named (hinformed.named_of_heard hmade.heard)
  cases hmade.phase with
  | opening _ _ hrs | asked _ _ hrs | linked _ _ _ hrs =>
      rw [hrs] at hpacket
      cases hpacket
  | refused serverId hconnected haccepted hrq hrs =>
      -- the request is sent again
      rw [hrs] at hpacket
      cases hpacket
      have hrecord := hmade.connectorRecord hconnected
      rw [refusal_effect handlers hinformed.clients hrecord hmine]
      refine ⟨_, rfl, by simp, h.over hk (.inl ⟨rfl, rfl⟩) rfl rfl
        (fun c' hc' => packetsOn_of_ne hc' _) rfl
        ⟨rfl, hinformed.acquainted, hinformed.clients, hrecord, Keeps.refl _⟩ ?_⟩
      rw [post, if_pos rfl]
      refine ⟨hmade.connects, hmade.heard, hmade.attachment, fun _ => ?_, fun _ => ?_,
        .asked hconnected ?_ rfl⟩
      · rw [show ((s.setConnection c _).perform k.connector _).server k.connector = _ from
          Function.update_self ..]
        exact hrecord
      · rw [show ((s.setConnection c _).perform k.connector _).server k.acceptor = _ from
          Function.update_of_ne hmade.ne.symm _ _]
        exact hmade.acceptorRecord haccepted
      · simp [hrq, packetsOn]
  | granted hconnected haccepted hrq hrs hknown hlinked =>
      rw [hrs] at hpacket
      cases hpacket
      obtain ⟨g', houtcome, hover, hlinked'⟩ := grant_effect handlers hinformed.acquainted
        hinformed.clients (hmade.connectorRecord hconnected) (hinformed.serverId_ne hmade.ne)
        hmade.heard hmade.connects
      rw [houtcome]
      refine ⟨_, rfl, by simp, h.over hk (.inl ⟨rfl, rfl⟩) rfl rfl (fun _ _ => rfl) rfl hover ?_⟩
      rw [show packetsOn c [] = [] from rfl, post_nil]
      have hserver : ((s.setConnection c { k with toConnector := [] }).perform k.connector
          (g', [])).server k.connector = g' := Function.update_self ..
      have hserver' : ((s.setConnection c { k with toConnector := [] }).perform k.connector
          (g', [])).server k.acceptor = s.server k.acceptor :=
        Function.update_of_ne hmade.ne.symm _ _
      refine ⟨hmade.connects, hmade.heard, hmade.attachment, fun _ => ?_, fun _ => ?_,
        .linked hconnected haccepted hrq rfl hknown ?_ ?_⟩
      · rw [hserver]
        exact hover.record
      · rw [hserver']
        exact hmade.acceptorRecord haccepted
      · rw [hserver']
        exact hlinked
      · rw [hserver]
        exact hlinked'

/-- No handler closes a session or fails, whatever the order in which they are called. -/
theorem Sound.call (h : Sound D s) {handlers : DataHandlers} {e : Event ι}
    {outcome : Option (GameServer × List MinionAction)} (hcall : Calls D handlers s e i s' outcome) :
    Keeping D i s' outcome := by
  cases hcall with
  | receive hdown => exact h.keeping_receive hdown
  | connected hk hopening => exact h.keeping_connected hk hopening
  | accepted hk hpending => exact h.keeping_accepted hk hpending
  | request hk haccepted hpacket => exact h.keeping_request handlers hk haccepted hpacket
  | response hk hconnected hpacket => exact h.keeping_response handlers hk hpacket

theorem Informed.announce (h : Informed D s i) {news : News ι} (hadmits : s.Admits i news) :
    Informed D (s.send i news) i := by
  have hdown : (s.send i news).down i = s.down i ++ [news] := Function.update_self ..
  have hpending : (s.send i news).pending i = s.pending i ++ news.servers := by
    rw [pending, hdown, List.flatMap_append, List.flatMap_singleton]
    rfl
  refine ⟨h.named, h.unnamed, h.acquainted, h.clients, ?_, ?_, h.registered⟩
  · have hchannel := h.channel
    rw [show (s.send i news).named i = s.named i from rfl, hdown]
    split at hchannel
    next hnamed =>
      rw [if_pos hnamed]
      intro hmem
      rcases List.mem_append.1 hmem with hold | hnew
      · exact hchannel hold
      · obtain rfl := List.mem_singleton.1 hnew
        rw [hadmits.1] at hnamed
        cases hnamed
    next hunnamed =>
      rw [if_neg hunnamed]
      refine .inr ?_
      rcases hchannel with hempty | ⟨rest, hfirst, hno⟩
      · -- the first news is the name
        cases news with
        | registered => exact ⟨[], by rw [hempty]; rfl, List.not_mem_nil⟩
        | joined servers => exact absurd hempty (hadmits.1.resolve_left hunnamed)
        | allocated allocation => exact absurd hempty (Or.resolve_left hadmits hunnamed)
      · refine ⟨rest ++ [news], by rw [hfirst]; rfl, fun hmem => ?_⟩
        rcases List.mem_append.1 hmem with hold | hnew
        · exact hno hold
        · obtain rfl := List.mem_singleton.1 hnew
          have hempty := hadmits.2
          rw [hfirst] at hempty
          cases hempty
  · rw [hpending, ← List.append_assoc]
    cases news with
    | registered | allocated allocation =>
        exact (List.append_nil _).symm ▸ h.once
    | joined servers => exact hadmits.2

theorem Sound.announce (h : Sound D s) {news : News ι} (hadmits : s.Admits i news) :
    Sound D (s.send i news) := by
  refine ⟨fun j => ?_, fun c k hk => ?_, h.single⟩
  · by_cases hj : j = i
    · subst hj
      exact (h.informed j).announce hadmits
    · exact (h.informed j).congr rfl (Function.update_of_ne hj _ _) rfl rfl rfl
  · exact (h.made c k hk).frame (fun _ _ hj => hj) (Keeps.refl _) (Keeps.refl _)

theorem Sound.step (h : Sound D s) {handlers : DataHandlers} {e : Event ι}
    (hstep : Step D handlers s e s') : Sound D s' := by
  cases hstep with
  | announce hadmits => exact h.announce hadmits
  | connect _ _ hregistered hfree => exact h.connect hregistered hfree
  | call hcall =>
      obtain ⟨result, houtcome, _, hsound⟩ := h.call hcall
      cases houtcome
      exact hsound

theorem sound_of_reachable {handlers : DataHandlers}
    (hreach : (machine D handlers).Reachable s) : Sound D s :=
  Machine.Reachable.invariant (P := Sound D) (fun _ hinit => sound_initialized handlers hinit)
    (fun _ _ _ h hstep => Sound.step h hstep) hreach

/-! ## The result -/

/-- How often server `i` has registered a connector to `j`. -/
def connectorsTo (D : Deployment ι) (s : Handshakes ι) (i j : ι) : Nat :=
  (s.registered i).count (D.address j, D.serverId j)

/-- Server `i` has heard of `j`. -/
def Knows (D : Deployment ι) (s : Handshakes ι) (i j : ι) : Prop :=
  ((s.server i).getServerSession (D.serverId j)).isSome = true

theorem Informed.connectorsTo_eq (h : Informed D s i) (j : ι) :
    s.connectorsTo D i j = if j ∈ s.heard i ∧ D.connects i j = true then 1 else 0 := by
  have hinjective : Function.Injective fun j => (D.address j, D.serverId j) :=
    fun _ _ heq => D.address_injective (Prod.mk.inj heq).1
  have hnodup : (s.heard i).Nodup := (List.nodup_append.1 h.once).1
  rw [connectorsTo, h.registered, registrations_connectorsTo,
    List.count_map_of_injective _ _ hinjective]
  split_ifs with hmem
  · rw [List.count_filter hmem.2]
    exact List.count_eq_one_of_mem hnodup hmem.1
  · refine List.count_eq_zero.2 fun hfilter => hmem ?_
    exact List.mem_filter.1 hfilter

/-- In every run: two servers that are not both agencies register one connector between them when each
has heard of the other, and never more; no handler fails or closes a session; and when the response
has been handled the two ends of the connection are linked to each other over it. -/
theorem roles_and_links (D : Deployment ι) (handlers : DataHandlers) {s : Handshakes ι}
    (hreach : (machine D handlers).Reachable s) :
    (∀ i j, i ≠ j →
      (D.isAgency i = true ∧ D.isAgency j = true →
        s.connectorsTo D i j + s.connectorsTo D j i = 0) ∧
      (¬ (D.isAgency i = true ∧ D.isAgency j = true) →
        s.connectorsTo D i j + s.connectorsTo D j i ≤ 1 ∧
        (s.Knows D i j → s.Knows D j i → s.connectorsTo D i j + s.connectorsTo D j i = 1))) ∧
    (∀ e i s' outcome, Calls D handlers s e i s' outcome →
      ∃ result, outcome = some result ∧ ∀ session, .closeSession session ∉ result.2) ∧
    (∀ c k, s.connection c = some k →
      k.connected = true → k.toAcceptor = [] → k.toConnector = [] →
        Linked (s.server k.acceptor) (D.serverId k.connector) c ∧
          Linked (s.server k.connector) (D.serverId k.acceptor) c) := by
  have h := sound_of_reachable hreach
  refine ⟨fun i j hne => ⟨fun hagencies => ?_, fun hpair => ⟨?_, fun hij hji => ?_⟩⟩,
    fun e i s' outcome hcall => ?_, fun c k hk hconnected hrq hrs => ?_⟩
  -- two agencies: neither connects to the other
  · rw [(h.informed i).connectorsTo_eq, (h.informed j).connectorsTo_eq,
      D.not_connects_of_agencies hagencies.1, D.not_connects_of_agencies hagencies.2]
    simp
  · rw [(h.informed i).connectorsTo_eq, (h.informed j).connectorsTo_eq]
    -- only the one that connects registers a connector
    cases hconnects : D.connects i j with
    | true =>
        rw [D.connects_asymm hconnects]
        split_ifs <;> simp_all
    | false =>
        split_ifs <;> simp_all
  · have hi := (h.informed i).acquainted.heard_of_entry hij
    have hj := (h.informed j).acquainted.heard_of_entry hji
    rw [(h.informed i).connectorsTo_eq, (h.informed j).connectorsTo_eq]
    rcases D.connects_total hne hpair with hconnects | hconnects
    · simp [hi, hj, hconnects, D.connects_asymm hconnects]
    · simp [hi, hj, hconnects, D.connects_asymm hconnects]
  · obtain ⟨result, houtcome, hclose, _⟩ := h.call hcall
    exact ⟨result, houtcome, hclose⟩
  -- with nothing under way the handshake is over: all earlier phases have a packet on the
  -- connection
  · cases (h.made c k hk).phase with
    | opening hopening =>
        rw [hopening] at hconnected
        cases hconnected
    | asked _ hasked =>
        rw [hasked] at hrq
        cases hrq
    | refused _ _ _ _ hrefused =>
        rw [hrefused] at hrs
        cases hrs
    | granted _ _ _ hgranted =>
        rw [hgranted] at hrs
        cases hrs
    | linked _ _ _ _ _ hlinked hlinked' => exact ⟨hlinked, hlinked'⟩

end Run

/-! ## An agency that asks too early -/

section Replay

variable [DecidableEq ι]

/-- The state after an event, if it is enabled.  New connections are left out. -/
def next (D : Deployment ι) (handlers : DataHandlers) (s : Handshakes ι) :
    Event ι → Option (Handshakes ι)
  | .announce i .registered =>
      if s.named i = false ∧ s.down i = [] then some (s.send i .registered) else none
  | .announce i (.joined servers) =>
      if (s.named i = true ∨ s.down i ≠ []) ∧ (s.heard i ++ s.pending i ++ servers).Nodup then
        some (s.send i (.joined servers))
      else
        none
  | .announce i (.allocated allocation) =>
      if s.named i = true ∨ s.down i ≠ [] then some (s.send i (.allocated allocation)) else none
  | .connect _ _ _ => none
  | .receive i =>
      match s.down i with
      | [] => none
      | news :: rest =>
          some ((s.take i news rest).perform i
            ((s.server i).onSupervisorPacket (D.config i) 0 (news.packet D i)))
  | .connected c =>
      match s.connection c with
      | none => none
      | some k =>
          if k.connected = false then
            some ((s.setConnection c { k with connected := true }).perform k.connector
              ((s.server k.connector).onSocketSessionConnected c k.attachment))
          else
            none
  | .accepted c =>
      match s.connection c with
      | none => none
      | some k =>
          if k.accepted = false then
            some ((s.setConnection c { k with accepted := true }).perform k.acceptor
              ((s.server k.acceptor).onSocketSessionAccepted c false))
          else
            none
  | .request c =>
      match s.connection c with
      | none => none
      | some k =>
          match k.accepted, k.toAcceptor with
          | true, packet :: rest =>
              ((s.server k.acceptor).onSocketSessionData (D.config k.acceptor) handlers c
                packet).map
                  ((s.setConnection c { k with toAcceptor := rest }).perform k.acceptor)
          | _, _ => none
  | .response c =>
      match s.connection c with
      | none => none
      | some k =>
          match k.connected, k.toConnector with
          | true, packet :: rest =>
              ((s.server k.connector).onSocketSessionData (D.config k.connector) handlers c
                packet).map
                  ((s.setConnection c { k with toConnector := rest }).perform k.connector)
          | _, _ => none

theorem next_sound {handlers : DataHandlers} {e : Event ι} (h : s.next D handlers e = some s') :
    Step D handlers s e s' := by
  unfold next at h
  -- each announcement has a condition of its own
  split at h
  · split at h
    next hadmits =>
      cases h
      exact .announce hadmits
    next => cases h
  · split at h
    next hadmits =>
      cases h
      exact .announce hadmits
    next => cases h
  · split at h
    next hadmits =>
      cases h
      exact .announce hadmits
    next => cases h
  · cases h
  · split at h
    next => cases h
    next hdown =>
      cases h
      exact .call (.receive hdown)
  · split at h
    next => cases h
    next hk =>
      split at h
      next hopening =>
        cases h
        exact .call (.connected hk hopening)
      next => cases h
  · split at h
    next => cases h
    next hk =>
      split at h
      next hpending =>
        cases h
        exact .call (.accepted hk hpending)
      next => cases h
  · split at h
    next => cases h
    next hk =>
      split at h
      next haccepted hpacket =>
        obtain ⟨result, houtcome, rfl⟩ := Option.map_eq_some_iff.1 h
        exact .call (houtcome ▸ .request hk haccepted hpacket)
      next => cases h
  · split at h
    next => cases h
    next hk =>
      split at h
      next hconnected hpacket =>
        obtain ⟨result, houtcome, rfl⟩ := Option.map_eq_some_iff.1 h
        exact .call (houtcome ▸ .response hk hconnected hpacket)
      next => cases h

end Replay

namespace Sample

/-- A play server and an agency. -/
def deployment : Deployment Bool where
  isAgency := fun i => i
  address := fun i => ⟨"127.0.0.1", if i then 12002 else 11001⟩
  address_injective := by decide
  serverId := fun i => if i then 3 else 2
  serverId_injective := by decide
  supervisor_lt := by decide

def initial : Handshakes Bool where
  server := fun i => ((GameServer.initialized (deployment.config i)).onSocketSessionConnected 0
    supervisorServerId).1
  down := fun _ => []
  named := fun _ => false
  heard := fun _ => []
  registered := fun _ => []
  connection := fun _ => none

def run (s : Handshakes Bool) (events : List (Event Bool)) : Handshakes Bool :=
  (Machine.replay (fun s e => (s.next deployment {} e).isSome = true)
    (fun s e => (s.next deployment {} e).getD s) s events).getD s

theorem reachable_run {s : Handshakes Bool} (hs : (machine deployment {}).Reachable s)
    (events : List (Event Bool)) : (machine deployment {}).Reachable (run s events) := by
  refine Machine.Reachable.replay_getD (M := machine deployment {}) (fun s e henabled => ?_) events
    hs
  obtain ⟨s', hs'⟩ := Option.isSome_iff_exists.1 henabled
  rw [hs']
  exact next_sound hs'

/-- The agency has heard of the play server, and the play server has not even got its name. -/
def told : Handshakes Bool :=
  run initial [.announce true .registered, .announce true (.joined [false]), .receive true,
    .receive true]

def connecting : Handshakes Bool := told.setConnection 1 ⟨true, false, 2, false, false, [], []⟩

/-- The first request is refused, the second one granted. -/
def shaken : Handshakes Bool :=
  run connecting [.connected 1, .accepted 1, .request 1, .announce false .registered,
    .announce false (.joined [true]), .receive false, .receive false, .response 1, .request 1,
    .response 1]

theorem reachable_shaken : (machine deployment {}).Reachable shaken := by
  have htold : (machine deployment {}).Reachable told := reachable_run (.init rfl) _
  refine reachable_run (.step (e := .connect true false 1) htold (.connect ?_ ?_ ?_ ?_)) _
  · decide
  · rfl
  · decide +kernel
  · intro c' k hk
    cases hk

end Sample

open Sample in
theorem roles_and_links_shaken :
    (shaken.connection 1).isSome = true ∧
      Linked (shaken.server false) 3 1 ∧ Linked (shaken.server true) 2 1 := by
  have hconnection : ∃ k, shaken.connection 1 = some k ∧ k.connector = true ∧ k.acceptor = false ∧
      k.connected = true ∧ k.toAcceptor = [] ∧ k.toConnector = [] := by
    have hany : (shaken.connection 1).any (fun k => k.connector && !k.acceptor && k.connected &&
        k.toAcceptor.isEmpty && k.toConnector.isEmpty) = true := by
      decide +kernel
    obtain ⟨k, hk, hends⟩ := (Option.any_eq_true _ _).1 hany
    simp only [Bool.and_eq_true, Bool.not_eq_true', List.isEmpty_iff] at hends
    exact ⟨k, hk, hends.1.1.1.1, hends.1.1.1.2, hends.1.1.2, hends.1.2, hends.2⟩
  obtain ⟨k, hk, hconnector, hacceptor, hconnected, hrq, hrs⟩ := hconnection
  obtain ⟨_, _, hlinks⟩ := roles_and_links deployment {} reachable_shaken
  have hlinked := hlinks 1 k hk hconnected hrq hrs
  rw [hconnector, hacceptor] at hlinked
  exact ⟨by rw [hk]; rfl, hlinked⟩

end Handshakes

end Control
end SeamlessServer
