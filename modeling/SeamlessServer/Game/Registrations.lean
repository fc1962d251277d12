import SeamlessServer.Data.Handles
import SeamlessServer.Engine.Connectors
import SeamlessServer.Game.GameServer

/-!
# Game.Registrations — the connectors that a minion server has registered

A minion server registers a connector in the network engine for every server that it connects to, and
keeps the connector's id in the entry of `_server_sessions`.  The server and its engine are put
together here: the actions of the server are executed by the engine, and the engine's connections come
and go meanwhile.

* `registrations_oneToOne`: the registered connectors, apart from the supervisor's, and the entries
  that are connectors correspond to each other, as long as no server is announced as joined while it
  has such an entry;
* `joined_again_not_oneToOne`: if one is, the connector of the old entry stays registered, and no entry
  has its id.
-/

namespace SeamlessServer
namespace Game

open Engine (EngineState EngineEvent NetworkEngineOption)
open Protocol

structure RegisteringServer where
  server : GameServer
  /-- `_intra_network_engine`. -/
  engine : EngineState

inductive RegistrationEvent
  /-- A packet of the kinds that the supervisor sends. -/
  | packet (session : Nat) (packet : SupervisorPacket)
  | minion (e : MinionEvent)
  | engine (e : EngineEvent)

/-- The id of the supervisor's connector, which is registered first. -/
def supervisorConnectorId : Nat := 1

/-- What an action of the server does to the connectors; packets are sent and sessions closed without
an effect on these. -/
def performAction (s : EngineState) : MinionAction → EngineState
  | .registerConnectorSocket address serverId => s.registerConnectorSocket address serverId
  | .unregisterConnectorSocket connectorId => s.unregisterConnectorSocket connectorId
  | .send _ _ => s
  | .closeSession _ => s

namespace RegisteringServer

/-- The server after a handler whose actions the engine has executed. -/
def apply (s : RegisteringServer) (result : GameServer × List MinionAction) : RegisteringServer where
  server := result.1
  engine := result.2.foldl performAction s.engine

section Machine

variable (config : Configuration) (option : NetworkEngineOption)

/-- `GameServer::Initialize`. -/
def initialized : RegisteringServer where
  server := GameServer.initialized config
  engine := (EngineState.initialized option).registerConnectorSocket config.supervisorAddress
    supervisorServerId

inductive Step : RegisteringServer → RegistrationEvent → RegisteringServer → Prop
  | packet (s : RegisteringServer) (session : Nat) (packet : SupervisorPacket) :
      Step s (.packet session packet) (s.apply (s.server.onSupervisorPacket config session packet))
  | minion {s : RegisteringServer} {e : MinionEvent} {g : GameServer} :
      (∀ session packet, e ≠ .supervisorPacket session packet) → MinionStep config s.server e g →
        Step s (.minion e) { s with server := g }
  | engine {s : RegisteringServer} {e : EngineEvent} :
      s.engine.Enabled option e → ¬ EngineState.Registers e →
        Step s (.engine e) { s with engine := s.engine.next option e }

/-- A minion server and its network engine. -/
def machine : Machine RegisteringServer RegistrationEvent where
  init := fun s => s = initialized config option
  step := Step config option

end Machine

/-! ## The two sides -/

/-- The connector of a server, if it has an entry that is one. -/
def connectorOf (s : RegisteringServer) (serverId : Nat) : Option Nat :=
  match s.server.getServerSession serverId with
  | none => none
  | some server => if server.isConnector then some server.socketConnectorId else none

/-- The registered connectors, apart from the supervisor's. -/
def registered (s : RegisteringServer) : Set Nat :=
  {c | s.engine.connectorList c ≠ none ∧ c ≠ supervisorConnectorId}

/-- Announced as joined, the server gets a connector. -/
def Connects (config : Configuration) (g : GameServer) (info : ServerInfo) : Prop :=
  info.serverId ≠ g.myServerInfo.serverId ∧
    g.isConnector config info.serverType info.serverId = true

/-- No server that has an entry as a connector is announced as joined, unless it is announced as left
in the same packet; no server that gets a connector is announced twice in one packet; the supervisor
does not connect while its id is that of a connector; and the ids of connectors do not wrap around. -/
def AnnouncesOnce (config : Configuration) (s : RegisteringServer) : RegistrationEvent → Prop
  | .packet _ (.updateIntraServerInfoPs joined leaved) =>
      (∀ info ∈ joined, info.serverId ∈ leaved.map ServerInfo.serverId ∨
        s.connectorOf info.serverId = none) ∧
      joined.Pairwise (fun info info' => info.serverId = info'.serverId →
        ¬ Connects config s.server info) ∧
      s.engine.currentConnectorId + joined.length < 2 ^ 64
  | .minion (.connected _ attachment) =>
      (∃ server, s.server.getServerSession attachment = some server ∧
        server.serverInfo.serverType = .Supervisor) → s.connectorOf supervisorServerId = none
  | _ => True

/-- The invariant.  An entry that is no connector has no connector's id. -/
structure Registered (s : RegisteringServer) : Prop where
  keyed : s.engine.Keyed
  counter : s.server.currentConnectorId = s.engine.currentConnectorId
  low : supervisorConnectorId < s.engine.currentConnectorId
  used : ∀ c, s.engine.connectorList c ≠ none → 0 < c ∧ c < s.engine.currentConnectorId
  unset : ∀ serverId server, s.server.getServerSession serverId = some server →
    server.isConnector = false → server.socketConnectorId = 0
  supervisor : s.server.supervisorServerInfo.isConnector = false ∧
    s.server.supervisorServerInfo.socketConnectorId = 0
  loopback : s.server.loopbackSession.isConnector = false ∧
    s.server.loopbackSession.socketConnectorId = 0
  oneToOne : OneToOne s.connectorOf s.registered

section Lemmas

variable {config : Configuration} {option : NetworkEngineOption} {s s' : RegisteringServer}

theorem connectorOf_eq_some {serverId c : Nat} :
    s.connectorOf serverId = some c ↔ ∃ server, s.server.getServerSession serverId = some server ∧
      server.isConnector = true ∧ server.socketConnectorId = c := by
  unfold connectorOf
  cases s.server.getServerSession serverId with
  | none => simp
  | some server => simp

theorem connectorOf_congr (h : s'.server.serverSessions.find = s.server.serverSessions.find) :
    s'.connectorOf = s.connectorOf := by
  funext serverId
  unfold connectorOf GameServer.getServerSession
  rw [h]

/-- What an entry contributes to the connectors. -/
def contribution (server : IntraServerInfo) : Option Nat :=
  if server.isConnector then some server.socketConnectorId else none

theorem connectorOf_eq (s : RegisteringServer) (serverId : Nat) :
    s.connectorOf serverId = (s.server.getServerSession serverId).bind contribution := by
  unfold connectorOf
  cases s.server.getServerSession serverId with
  | none => rfl
  | some server => rfl

/-- An entry is overwritten. -/
theorem connectorOf_insert {serverId : Nat} {server : IntraServerInfo}
    (h : s'.server.serverSessions = s.server.serverSessions.insert serverId server) :
    s'.connectorOf = Function.update s.connectorOf serverId (contribution server) := by
  funext id
  rw [connectorOf_eq, GameServer.getServerSession, h, UnorderedMap.find_insert]
  by_cases heq : id = serverId
  · rw [if_pos heq, heq, Function.update_self]
    rfl
  · rw [if_neg heq, Function.update_of_ne heq, connectorOf_eq]
    rfl

theorem connectorOf_erase {serverId : Nat}
    (h : s'.server.serverSessions = s.server.serverSessions.erase serverId) :
    s'.connectorOf = Function.update s.connectorOf serverId none := by
  funext id
  rw [connectorOf_eq, GameServer.getServerSession, h, UnorderedMap.find_erase]
  by_cases heq : id = serverId
  · rw [if_pos heq, heq, Function.update_self]
    rfl
  · rw [if_neg heq, Function.update_of_ne heq, connectorOf_eq]
    rfl

theorem apply_forEach {α : Type} (body : GameServer → α → GameServer × List MinionAction)
    (items : List α) : ∀ (s : RegisteringServer),
      s.apply (GameServer.forEach body s.server items) =
        items.foldl (fun s a => s.apply (body s.server a)) s := by
  induction items with
  | nil =>
      intro s
      rfl
  | cons a items ih =>
      intro s
      rw [List.foldl_cons, ← ih]
      simp only [GameServer.forEach, apply, List.foldl_append]

/-- The actions of a packet are executed in the order of its rounds. -/
theorem apply_updateIntraServerInfoPs (s : RegisteringServer) (joined leaved : List ServerInfo) :
    s.apply (s.server.updateIntraServerInfoPs config joined leaved) =
      joined.foldl (fun s info => s.apply (s.server.joinServer config info))
        (leaved.foldl (fun s info => s.apply (s.server.leaveServer info)) s) := by
  rw [← apply_forEach, ← apply_forEach]
  simp only [GameServer.updateIntraServerInfoPs, apply, List.foldl_append]

/-! ## Steps that leave the connectors alone -/

/-- An entry that is no connector and has no connector's id. -/
def Plain (server : IntraServerInfo) : Prop :=
  server.isConnector = false ∧ server.socketConnectorId = 0

/-- The two states have the same engine, and the same entries as far as connectors are concerned. -/
structure SameConnectors (s s' : RegisteringServer) : Prop where
  engine : s'.engine = s.engine
  counter : s'.server.currentConnectorId = s.server.currentConnectorId
  supervisor : Plain s.server.supervisorServerInfo → Plain s'.server.supervisorServerInfo
  loopback : Plain s.server.loopbackSession → Plain s'.server.loopbackSession
  connectorOf : s'.connectorOf = s.connectorOf
  entries : ∀ serverId server, s'.server.getServerSession serverId = some server →
    Plain server ∨ ∃ server₀, s.server.getServerSession serverId = some server₀ ∧
      server.isConnector = server₀.isConnector ∧
      server.socketConnectorId = server₀.socketConnectorId

theorem Registered.of_sameConnectors (h : s.Registered) (hsame : SameConnectors s s') :
    s'.Registered where
  keyed := by
    rw [hsame.engine]
    exact h.keyed
  counter := by
    rw [hsame.engine, hsame.counter]
    exact h.counter
  low := by
    rw [hsame.engine]
    exact h.low
  used := by
    rw [hsame.engine]
    exact h.used
  unset := by
    intro serverId server hserver hplain
    rcases hsame.entries serverId server hserver with hentry | ⟨server₀, hserver₀, hconnector, hid⟩
    · exact hentry.2
    · rw [hid]
      exact h.unset serverId server₀ hserver₀ (hconnector.symm.trans hplain)
  supervisor := hsame.supervisor h.supervisor
  loopback := hsame.loopback h.loopback
  oneToOne := by
    have hregistered : s'.registered = s.registered := by
      unfold registered
      rw [hsame.engine]
    rw [hsame.connectorOf, hregistered]
    exact h.oneToOne

/-- Nothing is written to `_server_sessions`. -/
theorem SameConnectors.of_find (hengine : s'.engine = s.engine)
    (hcounter : s'.server.currentConnectorId = s.server.currentConnectorId)
    (hsupervisor : Plain s.server.supervisorServerInfo → Plain s'.server.supervisorServerInfo)
    (hloopback : Plain s.server.loopbackSession → Plain s'.server.loopbackSession)
    (hfind : s'.server.serverSessions.find = s.server.serverSessions.find) :
    SameConnectors s s' := by
  refine ⟨hengine, hcounter, hsupervisor, hloopback, connectorOf_congr hfind,
    fun serverId server hserver => .inr ⟨server, ?_, rfl, rfl⟩⟩
  exact (congrFun hfind serverId).symm.trans hserver

/-- A plain entry is written where there is no connector. -/
theorem SameConnectors.of_insert {serverId : Nat} {server : IntraServerInfo}
    (hengine : s'.engine = s.engine)
    (hcounter : s'.server.currentConnectorId = s.server.currentConnectorId)
    (hsupervisor : Plain s.server.supervisorServerInfo → Plain s'.server.supervisorServerInfo)
    (hloopback : Plain s.server.loopbackSession → Plain s'.server.loopbackSession)
    (hsessions : s'.server.serverSessions = s.server.serverSessions.insert serverId server)
    (hplain : Plain server) (hnone : s.connectorOf serverId = none) : SameConnectors s s' := by
  refine ⟨hengine, hcounter, hsupervisor, hloopback, ?_, fun id server' hserver' => ?_⟩
  · rw [connectorOf_insert hsessions]
    refine Function.update_eq_self_iff.2 ?_
    rw [hnone]
    simp [contribution, hplain.1]
  · rw [GameServer.getServerSession, hsessions, UnorderedMap.find_insert] at hserver'
    split at hserver'
    · cases hserver'
      exact .inl hplain
    · exact .inr ⟨server', hserver', rfl, rfl⟩

/-- The handshake with a server changes the session of its entry. -/
theorem SameConnectors.authorize {session id serverId : Nat} {server : IntraServerInfo}
    (hserver : s.server.getServerSession serverId = some server) :
    SameConnectors s { s with
      server := s.server.authorize config session id serverId server } := by
  refine ⟨rfl, rfl, fun h => h, fun h => h, ?_, fun id' server' hserver' => ?_⟩
  · rw [connectorOf_insert rfl]
    refine Function.update_eq_self_iff.2 ?_
    rw [connectorOf_eq, hserver]
    rfl
  · change (s.server.serverSessions.insert serverId _).find id' = some server' at hserver'
    rw [UnorderedMap.find_insert] at hserver'
    split at hserver'
    next heq =>
      cases hserver'
      exact .inr ⟨server, heq ▸ hserver, rfl, rfl⟩
    next => exact .inr ⟨server', hserver', rfl, rfl⟩

theorem SameConnectors.connected (h : s.Registered) (session attachment : Nat)
    (hcond : s.AnnouncesOnce config (.minion (.connected session attachment))) :
    SameConnectors s { s with
      server := (s.server.onSocketSessionConnected session attachment).1 } := by
  unfold GameServer.onSocketSessionConnected
  split
  · exact .of_find rfl rfl (fun h => h) (fun h => h) rfl
  next server hserver =>
    split
    next htype =>
      exact .of_insert rfl rfl (fun h => h) (fun h => h) rfl h.supervisor
        (hcond ⟨server, hserver, htype⟩)
    next => exact .of_find rfl rfl (fun h => h) (fun h => h) rfl

theorem SameConnectors.closed {session : Nat} {g : GameServer}
    (hclosed : s.server.onSocketSessionClosed session = some g) :
    SameConnectors s { s with server := g } := by
  unfold GameServer.onSocketSessionClosed at hclosed
  split at hclosed
  · cases hclosed
    exact .of_find rfl rfl (fun h => h) (fun h => h) rfl
  · split at hclosed
    · cases hclosed
    · dsimp only at hclosed
      split at hclosed
      · cases hclosed
        exact .of_find rfl rfl (fun h => h) (fun h => h) rfl
      · split at hclosed
        · split at hclosed
          · cases hclosed
            exact .of_find rfl rfl (fun h => h) (fun h => h) rfl
          · split at hclosed
            · cases hclosed
              exact .of_find rfl rfl (fun h => h) (fun h => h) rfl
            · cases hclosed
              exact .of_find rfl rfl (fun h => h) (fun h => h) rfl
        · cases hclosed

/-- What a server does apart from the supervisor's packets. -/
theorem SameConnectors.minion (h : s.Registered) {e : MinionEvent} {g : GameServer}
    (he : ∀ session packet, e ≠ .supervisorPacket session packet)
    (hcond : s.AnnouncesOnce config (.minion e)) (hstep : MinionStep config s.server e g) :
    SameConnectors s { s with server := g } := by
  cases hstep with
  | connected session attachment => exact .connected h session attachment hcond
  | accepted session user =>
      unfold GameServer.onSocketSessionAccepted
      dsimp only
      split
      · split
        · exact .of_find rfl rfl (fun h => h) (fun h => h) rfl
        · exact .of_find rfl rfl (fun h => h) (fun h => h) rfl
      · exact .of_find rfl rfl (fun h => h) (fun h => h) rfl
  | closed hclosed => exact .closed hclosed
  | supervisorPacket session packet _ => exact absurd rfl (he session packet)
  | authorizeServerRq _ _ hauthorize =>
      rcases GameServer.authorizeServerRq_cases hauthorize with ⟨server, _, hserver, rfl⟩ | ⟨_, rfl⟩
      · exact .authorize hserver
      · exact .of_find rfl rfl (fun h => h) (fun h => h) rfl
  | authorizeServerRs _ _ hauthorize =>
      rcases GameServer.authorizeServerRs_cases hauthorize with ⟨server, _, hserver, rfl⟩ | ⟨_, rfl⟩
      · exact .authorize hserver
      · exact .of_find rfl rfl (fun h => h) (fun h => h) rfl
  | derived operation => exact .of_find rfl rfl (fun h => h) (fun h => h) rfl
  | rehash serverSessions activeSessions =>
      exact .of_find rfl rfl (fun h => h) (fun h => h) (UnorderedMap.find_reorder _ _)

/-! ## Servers that leave -/

theorem apply_leaveServer (s : RegisteringServer) (info : ServerInfo) :
    (s.apply (s.server.leaveServer info)).connectorOf =
        Function.update s.connectorOf info.serverId none ∧
      (s.apply (s.server.leaveServer info)).server.myServerInfo = s.server.myServerInfo ∧
      (s.apply (s.server.leaveServer info)).engine.currentConnectorId =
        s.engine.currentConnectorId := by
  refine ⟨connectorOf_erase rfl, rfl, ?_⟩
  exact (EngineState.unregisterConnectorSocket_cases s.engine _).2.2.1

/-- The connector of the server is unregistered together with its entry. -/
theorem Registered.leaveServer (h : s.Registered) (info : ServerInfo) :
    (s.apply (s.server.leaveServer info)).Registered := by
  let connectorId := ((s.server.getServerSession info.serverId).getD {}).socketConnectorId
  let s' := s.apply (s.server.leaveServer info)
  obtain ⟨_, hlist, hcurrent, _⟩ := EngineState.unregisterConnectorSocket_cases s.engine connectorId
  obtain ⟨hconnectorOf, _, _⟩ := apply_leaveServer s info
  have hother : ∀ {c}, s'.engine.connectorList c ≠ none →
      c ≠ connectorId ∧ s'.engine.connectorList c = s.engine.connectorList c := by
    intro c hc
    change (s.engine.unregisterConnectorSocket connectorId).connectorList c ≠ none at hc
    rw [hlist] at hc
    by_cases heq : c = connectorId
    · rw [heq, Function.update_self] at hc
      exact absurd rfl hc
    · exact ⟨heq, (congrFun hlist c).trans (Function.update_of_ne heq _ _)⟩
  refine ⟨fun c server hc => ?_, h.counter.trans hcurrent.symm, h.low.trans_eq hcurrent.symm,
    fun c hc => ?_, fun id server hserver => ?_, h.supervisor, h.loopback, ?_⟩
  · obtain ⟨_, hsame⟩ := hother (c := c) (by rw [hc]; simp)
    exact h.keyed c server (hsame.symm.trans hc)
  · obtain ⟨_, hsame⟩ := hother hc
    change 0 < c ∧ c < (s.engine.unregisterConnectorSocket connectorId).currentConnectorId
    rw [hcurrent]
    exact h.used c (by rwa [← hsame])
  · change (s.server.serverSessions.erase info.serverId).find id = some server at hserver
    rw [UnorderedMap.find_erase] at hserver
    split at hserver
    · cases hserver
    · exact h.unset id server hserver
  · change OneToOne s'.connectorOf s'.registered
    rw [hconnectorOf]
    cases hconnector : s.connectorOf info.serverId with
    | none =>
        -- there is nothing to unregister
        have hzero : connectorId = 0 := by
          change ((s.server.getServerSession info.serverId).getD {}).socketConnectorId = 0
          cases hserver : s.server.getServerSession info.serverId with
          | none => rfl
          | some server =>
              refine h.unset info.serverId server hserver ?_
              by_contra his
              rw [connectorOf_eq, hserver] at hconnector
              simp [contribution, his] at hconnector
        have hunused : s.engine.connectorList connectorId = none := by
          by_contra hsome
          have hpos := (h.used connectorId hsome).1
          rw [hzero] at hpos
          exact hpos.false
        have hregistered : s'.registered = s.registered := by
          have hsame : s'.engine.connectorList = s.engine.connectorList :=
            hlist.trans (Function.update_eq_self_iff.2 hunused.symm)
          unfold registered
          rw [hsame]
        rw [hregistered, Function.update_eq_self_iff.2 hconnector.symm]
        exact h.oneToOne
    | some c =>
        obtain ⟨server, hserver, _, hc⟩ := connectorOf_eq_some.1 hconnector
        have hconnectorId : connectorId = c := by
          change ((s.server.getServerSession info.serverId).getD {}).socketConnectorId = c
          rw [hserver]
          exact hc
        have hregistered : s'.registered = s.registered \ {c} := by
          ext c'
          change (s'.engine.connectorList c' ≠ none ∧ _) ↔
            (s.engine.connectorList c' ≠ none ∧ _) ∧ c' ≠ c
          constructor
          · rintro ⟨hlive, hsupervisor⟩
            obtain ⟨hne, hsame⟩ := hother hlive
            exact ⟨⟨by rwa [← hsame], hsupervisor⟩, hconnectorId ▸ hne⟩
          · rintro ⟨⟨hlive, hsupervisor⟩, hne⟩
            refine ⟨fun hnone => hlive ?_, hsupervisor⟩
            rw [← hnone]
            exact ((congrFun hlist c').trans
              (Function.update_of_ne (hconnectorId ▸ hne) _ _)).symm
        rw [hregistered]
        exact h.oneToOne.release hconnector

/-! ## Servers that join -/

/-- The entry of a server that is no connector is plain. -/
theorem Registered.plain (h : s.Registered) {serverId : Nat} (hnone : s.connectorOf serverId = none) :
    Plain ((s.server.getServerSession serverId).getD {}) := by
  cases hserver : s.server.getServerSession serverId with
  | none => exact ⟨rfl, rfl⟩
  | some server =>
      have hconnector : server.isConnector = false := by
        by_contra his
        rw [connectorOf_eq, hserver] at hnone
        simp [contribution, his] at hnone
      exact ⟨hconnector, h.unset serverId server hserver hconnector⟩

/-- A server that is not connected to. -/
theorem SameConnectors.joinServer (h : s.Registered) {info : ServerInfo}
    (hnone : s.connectorOf info.serverId = none) (hconnects : ¬ Connects config s.server info) :
    SameConnectors s (s.apply (s.server.joinServer config info)) := by
  unfold GameServer.joinServer
  split
  next =>
    exact .of_insert rfl rfl (fun h => h) (fun h => h) rfl h.loopback hnone
  next hother =>
    dsimp only
    have hconnector : s.server.isConnector config info.serverType info.serverId = false := by
      by_contra htrue
      exact hconnects ⟨hother, by simpa using htrue⟩
    rw [if_neg (by simp [hconnector])]
    exact .of_insert rfl rfl (fun h => h) (fun h => h) rfl ⟨hconnector, (h.plain hnone).2⟩ hnone

/-- A server that is connected to: its connector gets the next id. -/
theorem apply_joinServer_of_connects (h : s.Registered) {info : ServerInfo}
    (hconnects : Connects config s.server info) :
    let s' := s.apply (s.server.joinServer config info)
    s'.engine = s.engine.registerConnectorSocket info.address info.serverId ∧
      s'.server.currentConnectorId = s.server.currentConnectorId + 1 ∧
      (∃ server : IntraServerInfo, server.isConnector = true ∧
        server.socketConnectorId = s.engine.currentConnectorId ∧
        s'.server.serverSessions = s.server.serverSessions.insert info.serverId server) ∧
      s'.server.supervisorServerInfo = s.server.supervisorServerInfo ∧
      s'.server.loopbackSession = s.server.loopbackSession := by
  unfold GameServer.joinServer
  rw [if_neg hconnects.1]
  dsimp only
  rw [if_pos hconnects.2]
  exact ⟨rfl, rfl, ⟨_, hconnects.2, h.counter, rfl⟩, rfl, rfl⟩

theorem Registered.joinServer (h : s.Registered) {info : ServerInfo}
    (hnone : s.connectorOf info.serverId = none)
    (hcurrent : s.engine.currentConnectorId + 1 < 2 ^ 64) :
    (s.apply (s.server.joinServer config info)).Registered := by
  by_cases hconnects : Connects config s.server info
  · obtain ⟨hengine, hcounter, ⟨server, hconnector, hid, hsessions⟩, hsupervisor, hloopback⟩ :=
      apply_joinServer_of_connects h hconnects
    let s' := s.apply (s.server.joinServer config info)
    let current := s.engine.currentConnectorId
    -- the counter of the connectors must not come round here
    have hnext : s'.engine.currentConnectorId = current + 1 := by
      rw [hengine]
      exact Nat.mod_eq_of_lt hcurrent
    have hlist : s'.engine.connectorList = Function.update s.engine.connectorList current
        (some { connectorId := current, remoteAddress := info.address, attachment := info.serverId }) := by
      rw [hengine]
      rfl
    have hlow : supervisorConnectorId < current := h.low
    have hfresh : s.engine.connectorList current = none := by
      by_contra hsome
      exact (h.used current hsome).2.false
    refine ⟨fun c i hc => ?_, ?_, ?_, fun c hc => ?_, fun id server' hserver' hplain => ?_,
      by rw [hsupervisor]; exact h.supervisor, by rw [hloopback]; exact h.loopback, ?_⟩
    -- each entry is under its own id
    · rw [hlist] at hc
      by_cases heq : c = current
      · rw [heq, Function.update_self] at hc
        cases hc
        exact heq.symm
      · rw [Function.update_of_ne heq] at hc
        exact h.keyed c i hc
    · exact (hcounter.trans (congrArg (· + 1) h.counter)).trans hnext.symm
    · exact hlow.trans_le ((Nat.le_succ current).trans_eq hnext.symm)
    · rw [hlist] at hc
      rw [hnext]
      by_cases heq : c = current
      · exact ⟨heq ▸ Nat.zero_lt_of_lt hlow, heq ▸ Nat.lt_succ_self c⟩
      · rw [Function.update_of_ne heq] at hc
        exact ⟨(h.used c hc).1, (h.used c hc).2.trans (Nat.lt_succ_self _)⟩
    -- a server without a connector is one that was there before
    · rw [GameServer.getServerSession, hsessions, UnorderedMap.find_insert] at hserver'
      split at hserver'
      · cases hserver'
        rw [hconnector] at hplain
        cases hplain
      · exact h.unset id server' hserver' hplain
    -- one more server and one more connector, which belong together
    · have hconnectorOf : s'.connectorOf =
          Function.update s.connectorOf info.serverId (some current) := by
        rw [connectorOf_insert hsessions]
        simp [contribution, hconnector, hid, current]
      have hregistered : s'.registered = insert current s.registered := by
        ext c
        rw [Set.mem_insert_iff]
        change (s'.engine.connectorList c ≠ none ∧ c ≠ supervisorConnectorId) ↔
          c = current ∨ (s.engine.connectorList c ≠ none ∧ c ≠ supervisorConnectorId)
        rw [hlist]
        by_cases heq : c = current
        · rw [heq, Function.update_self]
          simp [hlow.ne']
        · simp [heq]
      change OneToOne s'.connectorOf s'.registered
      rw [hconnectorOf, hregistered]
      exact h.oneToOne.acquire hnone fun hlive => hlive.1 hfresh
  · exact h.of_sameConnectors (.joinServer h hnone hconnects)

/-- What joining leaves for the servers that are announced later. -/
theorem Registered.connectorOf_joinServer (h : s.Registered) {info info' : ServerInfo}
    (hnone : s.connectorOf info.serverId = none) (hnone' : s.connectorOf info'.serverId = none)
    (hdistinct : info.serverId = info'.serverId → ¬ Connects config s.server info) :
    (s.apply (s.server.joinServer config info)).connectorOf info'.serverId = none := by
  by_cases hconnects : Connects config s.server info
  · obtain ⟨_, _, ⟨server, _, _, hsessions⟩, _, _⟩ := apply_joinServer_of_connects h hconnects
    have hne : info'.serverId ≠ info.serverId := fun heq => hdistinct heq.symm hconnects
    rw [connectorOf_insert hsessions, Function.update_of_ne hne]
    exact hnone'
  · rw [(SameConnectors.joinServer h hnone hconnects).connectorOf]
    exact hnone'

theorem myServerInfo_joinServer (g : GameServer) (info : ServerInfo) :
    (g.joinServer config info).1.myServerInfo = g.myServerInfo := by
  unfold GameServer.joinServer
  split
  · rfl
  · dsimp only
    split
    · rfl
    · rfl

theorem connects_congr {g g' : GameServer} (h : g'.myServerInfo = g.myServerInfo) (info : ServerInfo) :
    Connects config g' info ↔ Connects config g info := by
  unfold Connects GameServer.isConnector
  rw [h]

theorem currentConnectorId_joinServer (config : Configuration) (h : s.Registered) {info : ServerInfo}
    (hnone : s.connectorOf info.serverId = none) :
    (s.apply (s.server.joinServer config info)).engine.currentConnectorId ≤
      s.engine.currentConnectorId + 1 := by
  by_cases hconnects : Connects config s.server info
  · rw [(apply_joinServer_of_connects h hconnects).1]
    exact Nat.mod_le _ _
  · rw [(SameConnectors.joinServer h hnone hconnects).engine]
    exact Nat.le_succ _

/-- The loop over the servers that have joined. -/
theorem Registered.joinServers (joined : List ServerInfo) :
    ∀ {s : RegisteringServer}, s.Registered →
      (∀ info ∈ joined, s.connectorOf info.serverId = none) →
      joined.Pairwise (fun info info' => info.serverId = info'.serverId →
        ¬ Connects config s.server info) →
      s.engine.currentConnectorId + joined.length < 2 ^ 64 →
      (joined.foldl (fun s info => s.apply (s.server.joinServer config info)) s).Registered := by
  induction joined with
  | nil =>
      intro s h _ _ _
      exact h
  | cons info joined ih =>
      intro s h hnone hpairwise hbound
      obtain ⟨hhead, htail⟩ := List.pairwise_cons.1 hpairwise
      have hnone₀ := hnone info List.mem_cons_self
      rw [List.length_cons] at hbound
      refine ih (h.joinServer hnone₀ (by omega)) (fun info' hmem => ?_) (htail.imp ?_) ?_
      · exact h.connectorOf_joinServer hnone₀ (hnone info' (List.mem_cons_of_mem _ hmem))
          (hhead info' hmem)
      · intro a b hab heq hconnects
        exact hab heq ((connects_congr (myServerInfo_joinServer s.server info) a).1 hconnects)
      · have hle := currentConnectorId_joinServer config h hnone₀
        dsimp only
        omega

/-! ## The supervisor's packets -/

theorem Registered.leaveServers (leaved : List ServerInfo) :
    ∀ {s : RegisteringServer}, s.Registered →
      let s' := leaved.foldl (fun s info => s.apply (s.server.leaveServer info)) s
      s'.Registered ∧ s'.server.myServerInfo = s.server.myServerInfo ∧
        s'.engine.currentConnectorId = s.engine.currentConnectorId ∧
        ∀ serverId, serverId ∈ leaved.map ServerInfo.serverId ∨ s.connectorOf serverId = none →
          s'.connectorOf serverId = none := by
  induction leaved with
  | nil =>
      intro s h
      exact ⟨h, rfl, rfl, fun serverId hnone => hnone.resolve_left (by simp)⟩
  | cons info leaved ih =>
      intro s h
      obtain ⟨hconnectorOf, hmy, hcurrent⟩ := apply_leaveServer s info
      obtain ⟨hregistered, hmy', hcurrent', hnone⟩ := ih (h.leaveServer info)
      refine ⟨hregistered, hmy'.trans hmy, hcurrent'.trans hcurrent, fun serverId hserver => ?_⟩
      refine hnone serverId ?_
      rw [hconnectorOf]
      by_cases heq : serverId = info.serverId
      · rw [heq, Function.update_self]
        exact .inr rfl
      · rw [Function.update_of_ne heq]
        simpa [heq] using hserver

theorem Registered.updateIntraServerInfoPs (h : s.Registered) {session : Nat}
    {joined leaved : List ServerInfo}
    (hcond : s.AnnouncesOnce config (.packet session (.updateIntraServerInfoPs joined leaved))) :
    (s.apply (s.server.updateIntraServerInfoPs config joined leaved)).Registered := by
  obtain ⟨hnone, hpairwise, hbound⟩ := hcond
  obtain ⟨hregistered, hmy, hcurrent, hleft⟩ := h.leaveServers leaved
  rw [apply_updateIntraServerInfoPs]
  refine hregistered.joinServers joined (fun info hmem => hleft _ (hnone info hmem))
    (hpairwise.imp ?_) (by rwa [hcurrent])
  intro a b hab heq
  rw [connects_congr hmy]
  exact hab heq

/-- Several connectors are unregistered. -/
theorem performAction_unregister (ids : List Nat) : ∀ (s : EngineState),
    let s' := (ids.map MinionAction.unregisterConnectorSocket).foldl performAction s
    s'.currentConnectorId = s.currentConnectorId ∧
      ∀ c, s'.connectorList c = if c ∈ ids then none else s.connectorList c := by
  induction ids with
  | nil =>
      intro s
      exact ⟨rfl, fun c => by simp⟩
  | cons id ids ih =>
      intro s
      obtain ⟨_, hlist, hcurrent, _⟩ := EngineState.unregisterConnectorSocket_cases s id
      obtain ⟨hcurrent', hlist'⟩ := ih (s.unregisterConnectorSocket id)
      refine ⟨hcurrent'.trans hcurrent, fun c => (hlist' c).trans ?_⟩
      rw [hlist]
      by_cases hmem : c ∈ ids
      · simp [hmem]
      · by_cases heq : c = id
        · simp [heq]
        · simp [hmem, heq]

theorem performAction_close (sessions : List SessionRef) (s : EngineState) :
    (sessions.map MinionAction.closeSession).foldl performAction s = s := by
  induction sessions with
  | nil => rfl
  | cons session sessions ih => exact ih

/-- `Reset` unregisters the connectors of all entries. -/
theorem Registered.reset (h : s.Registered) : (s.apply s.server.reset).Registered := by
  let s' := s.apply s.server.reset
  let ids := (s.server.serverSessions.values.filter (·.socketConnectorId > 0)).map
    IntraServerInfo.socketConnectorId
  -- one call of `UnregisterConnectorSocket` for each entry with a connector
  have hengine : s'.engine =
      (ids.map MinionAction.unregisterConnectorSocket).foldl performAction s.engine := by
    change s.server.reset.2.foldl performAction s.engine = _
    unfold GameServer.reset
    rw [List.foldl_append, performAction_close, List.map_map]
    rfl
  obtain ⟨hcurrent, hlist⟩ := performAction_unregister ids s.engine
  rw [← hengine] at hcurrent hlist
  have hsessions : s'.server.serverSessions =
      UnorderedMap.empty.insert supervisorServerId s.server.supervisorServerInfo := rfl
  have hnone : ∀ serverId, s'.connectorOf serverId = none := by
    intro serverId
    rw [connectorOf_eq, GameServer.getServerSession, hsessions, UnorderedMap.find_insert]
    split
    · simp [contribution, h.supervisor.1]
    · rfl
  have hlive : ∀ c, s'.engine.connectorList c ≠ none →
      s.engine.connectorList c ≠ none ∧ s'.engine.connectorList c = s.engine.connectorList c ∧
        c ∉ ids := by
    intro c hc
    have hsame := hlist c
    split at hsame
    · exact absurd hsame hc
    next hmem => exact ⟨by rwa [← hsame], hsame, hmem⟩
  refine ⟨fun c info hc => ?_, h.counter.trans hcurrent.symm, h.low.trans_eq hcurrent.symm,
    fun c hc => ?_, fun id server hserver hplain => ?_, h.supervisor, h.loopback, ?_⟩
  · obtain ⟨_, hsame, _⟩ := hlive c (by rw [hc]; simp)
    exact h.keyed c info (hsame.symm.trans hc)
  · rw [hcurrent]
    exact h.used c (hlive c hc).1
  · rw [GameServer.getServerSession, hsessions, UnorderedMap.find_insert] at hserver
    split at hserver
    · cases hserver
      exact h.supervisor.2
    · cases hserver
  -- every connector was that of an entry, so none is left
  · have hregistered : s'.registered = ∅ := by
      refine Set.eq_empty_of_forall_notMem fun c hc => ?_
      obtain ⟨hbefore, _, hmem⟩ := hlive c hc.1
      obtain ⟨serverId, hheld⟩ := h.oneToOne.exists_key ⟨hbefore, hc.2⟩
      obtain ⟨server, hserver, _, hid⟩ := connectorOf_eq_some.1 hheld
      refine hmem (List.mem_map.2 ⟨server, List.mem_filter.2 ⟨?_, ?_⟩, hid⟩)
      · exact (UnorderedMap.mem_values _).2 ⟨serverId, hserver⟩
      · simpa [hid] using (h.used c hbefore).1
    have hconnectorOf : s'.connectorOf = fun _ => none := funext hnone
    change OneToOne s'.connectorOf s'.registered
    rw [hconnectorOf, hregistered]
    exact .empty

theorem registerMinionServerRs_spec (g : GameServer) (info : ServerInfo) :
    let g' := g.registerMinionServerRs info
    g'.currentConnectorId = g.currentConnectorId ∧
      g'.supervisorServerInfo = g.supervisorServerInfo ∧ g'.serverSessions = g.serverSessions ∧
      g'.loopbackSession = { g.loopbackSession with serverInfo := info } := by
  unfold GameServer.registerMinionServerRs
  exact ⟨rfl, rfl, rfl, rfl⟩

/-- What the supervisor's packets do to the connectors. -/
theorem Registered.packet (h : s.Registered) {session : Nat} {packet : SupervisorPacket}
    (hcond : s.AnnouncesOnce config (.packet session packet)) :
    (s.apply (s.server.onSupervisorPacket config session packet)).Registered := by
  cases packet with
  | registerMinionServerRs info =>
      obtain ⟨hcounter, hsupervisor, hsessions, hloopback⟩ :=
        registerMinionServerRs_spec s.server info
      change Registered ⟨s.server.registerMinionServerRs info, s.engine⟩
      generalize s.server.registerMinionServerRs info = g at hcounter hsupervisor hsessions hloopback ⊢
      refine h.of_sameConnectors (.of_find rfl hcounter (fun hplain => ?_) (fun hplain => ?_) ?_)
      · exact hsupervisor.symm ▸ hplain
      · exact hloopback.symm ▸ hplain
      · exact congrArg UnorderedMap.find hsessions
  | recoveryMinionServerRs error =>
      change (s.apply (s.server.recoveryMinionServerRs session error)).Registered
      unfold GameServer.recoveryMinionServerRs
      split
      · exact h.of_sameConnectors (.of_find rfl rfl (fun h => h) (fun h => h) rfl)
      · have hperform : ∀ (actions : List MinionAction) (packet : MinionPacket),
            (actions ++ [MinionAction.send session packet]).foldl performAction s.engine =
              actions.foldl performAction s.engine := by
          intro actions packet
          rw [List.foldl_append]
          rfl
        have hreset := h.reset
        unfold apply at hreset ⊢
        dsimp only
        rw [hperform]
        exact hreset
  | updateIntraServerInfoPs joined leaved => exact h.updateIntraServerInfoPs hcond
  | sectorAllocationPs allocation deallocation =>
      exact h.of_sameConnectors (.of_find rfl rfl (fun h => h) (fun h => h) rfl)

/-! ## Runs -/

theorem Registered.engine (h : s.Registered) {e : EngineEvent} (henabled : s.engine.Enabled option e)
    (he : ¬ EngineState.Registers e) :
    Registered { s with engine := s.engine.next option e } := by
  obtain ⟨hkeyed, hcurrent, hlist⟩ := h.keyed.next henabled he
  refine ⟨hkeyed, h.counter.trans hcurrent.symm, h.low.trans_eq hcurrent.symm, fun c hc => ?_,
    h.unset, h.supervisor, h.loopback, ?_⟩
  · rw [hcurrent]
    exact h.used c fun hnone => hc ((hlist c).2 hnone)
  · have hregistered : registered { s with engine := s.engine.next option e } = s.registered := by
      ext c
      exact and_congr_left' (not_congr (hlist c))
    rw [hregistered]
    exact h.oneToOne

theorem registered_initialized (config : Configuration) (option : NetworkEngineOption) :
    (initialized config option).Registered := by
  have hentry : ∀ id server, (initialized config option).server.getServerSession id = some server →
      Plain server := by
    intro id server hserver
    change (UnorderedMap.empty.insert supervisorServerId _).find id = some server at hserver
    rw [UnorderedMap.find_insert] at hserver
    split at hserver
    · cases hserver
      exact ⟨rfl, rfl⟩
    · cases hserver
  have hlist : ∀ c info, (initialized config option).engine.connectorList c = some info →
      c = supervisorConnectorId ∧ info.connectorId = c := by
    intro c info hc
    by_cases heq : c = supervisorConnectorId
    · subst heq
      cases hc
      exact ⟨rfl, rfl⟩
    · cases (Function.update_of_ne heq _ _).symm.trans hc
  have hcurrent : (initialized config option).engine.currentConnectorId =
      supervisorConnectorId + 1 := rfl
  refine ⟨fun c info hc => (hlist c info hc).2, rfl, hcurrent.ge, fun c hc => ?_,
    fun id server hserver _ => (hentry id server hserver).2, ⟨rfl, rfl⟩, ⟨rfl, rfl⟩, ?_⟩
  · obtain ⟨info, hinfo⟩ := Option.ne_none_iff_exists'.1 hc
    rw [(hlist c info hinfo).1, hcurrent]
    exact ⟨Nat.one_pos, Nat.lt_succ_self _⟩
  · have hconnectorOf : (initialized config option).connectorOf = fun _ => none := by
      funext id
      rw [connectorOf_eq]
      cases hserver : (initialized config option).server.getServerSession id with
      | none => rfl
      | some server => simp [contribution, (hentry id server hserver).1]
    have hregistered : (initialized config option).registered = ∅ := by
      refine Set.eq_empty_of_forall_notMem fun c hc => ?_
      obtain ⟨info, hinfo⟩ := Option.ne_none_iff_exists'.1 hc.1
      exact hc.2 (hlist c info hinfo).1
    rw [hconnectorOf, hregistered]
    exact .empty

theorem Registered.step {e : RegistrationEvent} (h : s.Registered)
    (hcond : s.AnnouncesOnce config e) (hstep : Step config option s e s') : s'.Registered := by
  cases hstep with
  | packet session packet => exact h.packet hcond
  | minion he hminion => exact h.of_sameConnectors (.minion h he hcond hminion)
  | engine henabled he => exact h.engine henabled he

theorem registered_of_reachable
    (h : ((machine config option).restrict (AnnouncesOnce config)).Reachable s) : s.Registered := by
  refine Machine.Reachable.invariant (P := Registered) ?_ ?_ h
  · rintro _ rfl
    exact registered_initialized config option
  · rintro s e s' hs ⟨hcond, hstep⟩
    exact hs.step hcond hstep

/-- As long as no server is announced as joined while it has an entry as a connector, the entries that
are connectors and the registered connectors, apart from the supervisor's, are in one-to-one
correspondence by `socket_connector_id`. -/
theorem registrations_oneToOne
    (h : ((machine config option).restrict (AnnouncesOnce config)).Reachable s) :
    Set.BijOn (fun serverId => ((s.server.getServerSession serverId).getD {}).socketConnectorId)
      {serverId | ∃ server, s.server.getServerSession serverId = some server ∧
        server.isConnector = true}
      {c | s.engine.connectorList c ≠ none ∧ c ≠ supervisorConnectorId} := by
  have hbij := (registered_of_reachable h).oneToOne.bijOn
  -- the keys of the bijection, in the words of the server list
  have hkeys : {serverId | (s.connectorOf serverId).isSome = true} =
      {serverId | ∃ server, s.server.getServerSession serverId = some server ∧
        server.isConnector = true} := by
    ext serverId
    change (s.connectorOf serverId).isSome = true ↔ _
    rw [Option.isSome_iff_exists]
    constructor
    · rintro ⟨c, hc⟩
      obtain ⟨server, hserver, hconnector, _⟩ := connectorOf_eq_some.1 hc
      exact ⟨server, hserver, hconnector⟩
    · rintro ⟨server, hserver, hconnector⟩
      exact ⟨_, connectorOf_eq_some.2 ⟨server, hserver, hconnector, rfl⟩⟩
  rw [hkeys] at hbij
  refine hbij.congr fun serverId hserver => ?_
  obtain ⟨server, hserver, hconnector⟩ := hserver
  have hheld : s.connectorOf serverId = some server.socketConnectorId :=
    connectorOf_eq_some.2 ⟨server, hserver, hconnector, rfl⟩
  simp [hheld, hserver]

end Lemmas

/-! ## A server that is announced again -/

namespace Sample

def config : Configuration where
  serverType := .Play
  address := ⟨"127.0.0.1", 11002⟩
  supervisorAddress := ⟨"127.0.0.1", 9987⟩
  connectionConfig
    | .Play => some ⟨.All, .Not⟩
    | .Agency => some ⟨.Not, .All⟩
    | _ => none

def option : NetworkEngineOption where
  useSessionReconnect := false
  maxSessionCount := 2
  workerCount := 1
  workerCount_pos := Nat.one_pos

def firstServer : ServerInfo := ⟨.Play, 2, ⟨"127.0.0.1", 11001⟩⟩

/-- The second play server, which has the id 3. -/
def named : RegisteringServer :=
  let s := initialized config option
  s.apply (s.server.onSupervisorPacket config 0
    (.registerMinionServerRs ⟨.Play, 3, ⟨"127.0.0.1", 11002⟩⟩))

/-- It has been told that the first one has joined. -/
def told : RegisteringServer :=
  named.apply (named.server.onSupervisorPacket config 0
    (.updateIntraServerInfoPs [firstServer] []))

/-- The first one has recovered, which is announced in the same way. -/
def toldAgain : RegisteringServer :=
  told.apply (told.server.onSupervisorPacket config 0
    (.updateIntraServerInfoPs [firstServer] []))

theorem run_told : ((machine config option).restrict (AnnouncesOnce config)).Reachable told := by
  have hnamed : ((machine config option).restrict (AnnouncesOnce config)).Reachable named :=
    .step (e := .packet 0 (.registerMinionServerRs ⟨.Play, 3, ⟨"127.0.0.1", 11002⟩⟩))
      (.init rfl) ⟨trivial, .packet _ 0 _⟩
  refine .step hnamed ⟨?_, .packet _ 0 (.updateIntraServerInfoPs [firstServer] [])⟩
  refine ⟨fun info hinfo => .inr ?_, List.pairwise_singleton _ _, by decide +kernel⟩
  rw [List.mem_singleton.1 hinfo]
  decide +kernel

theorem run_toldAgain : (machine config option).Reachable toldAgain :=
  .step run_told.of_restrict (.packet _ 0 (.updateIntraServerInfoPs [firstServer] []))

end Sample

open Sample in
/-- Two connectors to the first server are registered, and only the second one has an entry. -/
theorem joined_again_not_oneToOne :
    (machine config option).Reachable toldAgain ∧
      (toldAgain.engine.connectorList 2).map Engine.ConnectorInfo.attachment = some 2 ∧
      (toldAgain.engine.connectorList 3).map Engine.ConnectorInfo.attachment = some 2 ∧
      (toldAgain.server.getServerSession 2).map IntraServerInfo.socketConnectorId = some 3 ∧
      ¬ Set.BijOn
        (fun serverId => ((toldAgain.server.getServerSession serverId).getD {}).socketConnectorId)
        {serverId | ∃ server, toldAgain.server.getServerSession serverId = some server ∧
          server.isConnector = true}
        {c | toldAgain.engine.connectorList c ≠ none ∧ c ≠ supervisorConnectorId} := by
  refine ⟨run_toldAgain, by decide +kernel, by decide +kernel, by decide +kernel, fun hbij => ?_⟩
  have hregistered : toldAgain.engine.connectorList 2 ≠ none ∧ 2 ≠ supervisorConnectorId := by
    decide +kernel
  obtain ⟨serverId, ⟨server, hserver, hconnector⟩, hid⟩ := hbij.surjOn hregistered
  have hvalues : ∀ server ∈ toldAgain.server.serverSessions.values,
      server.isConnector = true → server.socketConnectorId ≠ 2 := by
    decide +kernel
  have hmem := (UnorderedMap.mem_values _).2 ⟨serverId, hserver⟩
  refine hvalues server hmem hconnector ?_
  simpa [hserver] using hid

open Sample in
theorem registrations_oneToOne_told :
    Set.BijOn
      (fun serverId => ((told.server.getServerSession serverId).getD {}).socketConnectorId)
      {serverId | ∃ server, told.server.getServerSession serverId = some server ∧
        server.isConnector = true}
      {c | told.engine.connectorList c ≠ none ∧ c ≠ supervisorConnectorId} :=
  registrations_oneToOne run_told

end RegisteringServer

end Game
end SeamlessServer
