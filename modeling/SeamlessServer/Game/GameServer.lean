import SeamlessServer.Data.Machine
import SeamlessServer.Data.UnorderedMap
import SeamlessServer.Game.Base
import SeamlessServer.Game.SectorPostingManager
import SeamlessServer.Protocol.Server

/-!
# Game.GameServer — the control plane of a minion server

`common/game/GameServer.cpp`: the sessions of a minion server and the packets with which it joins the
other servers.  The virtual functions of play and agency servers reach this state only through the
posting manager and are separate steps; the world of a play server is not part of it.

Records are kept under two kinds of ids.  A server has its server id, given by the supervisor; a
session has a universal id, counted by this server.  `_server_sessions` is keyed by the first,
`_active_sessions` by the second, and the posting manager by both.

A handler that dereferences a dangling or null pointer, or fails an assertion, has no outcome.
-/

namespace SeamlessServer
namespace Game

open Protocol

/-! ## Records -/

structure UniversalSessionInfo where
  universalSessionId : Nat := 0
  session : Option SessionRef := none
  isAuthorized : Bool := false
  isClient : Bool := false
  deriving DecidableEq

structure IntraServerInfo extends UniversalSessionInfo where
  serverInfo : ServerInfo := ⟨.Other 0, 0, ⟨"", 0⟩⟩
  socketConnectorId : Nat := 0
  isConnector : Bool := false
  deriving DecidableEq

inductive IntraServerConnectionPolicy
  | All
  | Conditional
  | Not
  deriving DecidableEq, Repr

inductive IntraServerSectorListeningPolicy
  | All
  | Conditional
  | Not
  deriving DecidableEq, Repr

structure IntraServerConfig where
  connectionPolicy : IntraServerConnectionPolicy
  sectorListeningPolicy : IntraServerSectorListeningPolicy
  deriving DecidableEq, Repr

/-- What a server is started with, and the two virtual predicates of its kind. -/
structure Configuration where
  serverType : ServerType
  address : SocketAddress
  supervisorAddress : SocketAddress
  connectionConfig : ServerType → Option IntraServerConfig
  checkIntraServerConnectivity : ServerType → Nat → Bool := fun _ _ => true
  checkIntraServerSectorListening : ServerType → Nat → Nat → Bool := fun _ _ _ => true

/-- The record a session points to under `UNIVERSAL_SESSION_INFO_KEY`: the member
`_supervisor_server_info`, or an entry of `_active_sessions`. -/
inductive InfoRef
  | supervisor
  | active (universalSessionId : Nat)
  deriving DecidableEq, Repr

/-- The user data of a session; `0` is an unset `SERVER_ID_KEY`. -/
structure UserData where
  info : Option InfoRef := none
  serverId : Nat := 0
  deriving DecidableEq

/-- What a minion sends to the supervisor and to its peers. -/
inductive MinionPacket
  | registerMinionServerRq (packet : RegisterMinionServerRq)
  | recoveryMinionServerRq (packet : RecoveryMinionServerRq)
  | authorizeServerRq (serverType : ServerType) (serverId : Nat)
  | authorizeServerRs (serverId : Nat) (error : ErrorCode)
  deriving DecidableEq, Repr

inductive MinionAction
  | send (session : Nat) (packet : MinionPacket)
  | closeSession (session : SessionRef)
  | registerConnectorSocket (address : SocketAddress) (serverId : Nat)
  | unregisterConnectorSocket (connectorId : Nat)
  deriving DecidableEq, Repr

structure GameServer where
  currentUniversalSessionId : Nat
  /-- The connector id the network engine returns next. -/
  currentConnectorId : Nat
  supervisorServerInfo : IntraServerInfo
  loopbackSession : IntraServerInfo
  myServerInfo : ServerInfo
  serverSessions : UnorderedMap Nat IntraServerInfo
  activeSessions : UnorderedMap Nat UniversalSessionInfo
  sectorPostingManager : SectorPostingManager
  serviceReady : Bool
  userData : Nat → UserData

namespace GameServer

section Handlers

variable (config : Configuration)

/-- The server as `GameServer::Initialize` leaves it. -/
def initialized : GameServer :=
  let supervisor : IntraServerInfo :=
    { universalSessionId := 2
      isAuthorized := true
      serverInfo := ⟨.Supervisor, supervisorServerId, config.supervisorAddress⟩ }
  { currentUniversalSessionId := 100
    -- the connector of the supervisor has taken the first id
    currentConnectorId := 2
    supervisorServerInfo := supervisor
    loopbackSession := { universalSessionId := 1, session := some .loopback, isAuthorized := true }
    myServerInfo := ⟨config.serverType, 0, config.address⟩
    serverSessions := UnorderedMap.empty.insert supervisorServerId supervisor
    activeSessions := UnorderedMap.empty
    sectorPostingManager := {}
    serviceReady := false
    userData := fun _ => {} }

variable (g : GameServer)

def getServerSession (serverId : Nat) : Option IntraServerInfo := g.serverSessions.find serverId

/-- The record behind a pointer, nothing if it has been erased. -/
def dereference : InfoRef → Option UniversalSessionInfo
  | .supervisor => some g.supervisorServerInfo.toUniversalSessionInfo
  | .active universalSessionId => g.activeSessions.find universalSessionId

def setUserData (session : Nat) (data : UserData) : GameServer :=
  { g with userData := Function.update g.userData session data }

/-! ## Connecting and accepting -/

def recoveryPacket : RecoveryMinionServerRq where
  serverInfo := g.myServerInfo
  sectors := g.sectorPostingManager.getOwnershipSectors g.myServerInfo.serverId
  intraServers := g.serverSessions.values.map IntraServerInfo.serverInfo

def registerPacket : RegisterMinionServerRq where
  serverType := g.myServerInfo.serverType
  address := g.myServerInfo.address

/-- A new entry of `_active_sessions` for a session. -/
def activateSession (session : Nat) : GameServer × Nat :=
  let id := g.currentUniversalSessionId
  let info := (g.activeSessions.find id).getD {}
  let g := { g with
    currentUniversalSessionId := (id + 1) % 2 ^ 64
    activeSessions := g.activeSessions.insert id
      { info with session := some (.socket session), universalSessionId := id } }
  (g.setUserData session { info := some (.active id) }, id)

/-- `OnSocketSessionConnected`; the attachment is the id of the server that was connected to.  The
user data of the session is empty at this point. -/
def onSocketSessionConnected (session attachment : Nat) : GameServer × List MinionAction :=
  match g.getServerSession attachment with
  -- no server of this id
  | none => (g.setUserData session {}, [.closeSession (.socket session)])
  | some server =>
      if server.serverInfo.serverType = .Supervisor then
        let supervisor := { g.supervisorServerInfo with session := some (.socket session) }
        let g := { g with
          supervisorServerInfo := supervisor
          serverSessions := g.serverSessions.insert supervisorServerId supervisor
          activeSessions := g.activeSessions.insert supervisor.universalSessionId
            supervisor.toUniversalSessionInfo }
        let packet : MinionPacket :=
          -- a server that was in service claims its id and sectors again
          if g.serviceReady then .recoveryMinionServerRq g.recoveryPacket
          else .registerMinionServerRq g.registerPacket
        (g.setUserData session { info := some .supervisor }, [.send session packet])
      else
        ((g.activateSession session).1,
          [.send session
            (.authorizeServerRq g.myServerInfo.serverType g.myServerInfo.serverId)])

/-- `OnSocketSessionAccepted`, on the engine for users or on the one for servers. -/
def onSocketSessionAccepted (session : Nat) (user : Bool) : GameServer × List MinionAction :=
  let (g, id) := g.activateSession session
  if user then
    if g.serviceReady then
      let info := (g.activeSessions.find id).getD {}
      ({ g with activeSessions := g.activeSessions.insert id { info with isClient := true } }, [])
    else
      (g, [.closeSession (.socket session)])
  else
    (g, [])

/-! ## Closing -/

def eraseActive (universalSessionId : Nat) : GameServer :=
  { g with activeSessions := g.activeSessions.erase universalSessionId }

def unsetAll (targetId : Nat) : GameServer :=
  { g with sectorPostingManager := g.sectorPostingManager.unsetAll targetId }

def onSocketSessionClosed (session : Nat) : Option GameServer :=
  match (g.userData session).info with
  | none => some g
  | some ref =>
      match g.dereference ref with
      | none => none
      | some info =>
          -- `UnsetAll` takes the universal session id for the id of a target
          let g := (g.unsetAll info.universalSessionId).eraseActive info.universalSessionId
          if info.isClient then
            some g
          else
            match info.session with
            | some (.socket owner) =>
                match g.getServerSession (g.userData owner).serverId with
                | none => some g
                | some server =>
                    -- and here the id of the server
                    let g := g.unsetAll server.serverInfo.serverId
                    if server.serverInfo.serverType = .Supervisor then
                      some { g with
                        supervisorServerInfo := { g.supervisorServerInfo with session := none } }
                    else
                      some g
            | _ => none

/-! ## Handshakes of servers -/

def isConnector (serverType : ServerType) (serverId : Nat) : Bool :=
  match config.connectionConfig serverType with
  | none => false
  | some policy =>
      match policy.connectionPolicy with
      | .Conditional => config.checkIntraServerConnectivity serverType serverId
      | .Not => false
      | .All =>
          if serverType ≠ g.myServerInfo.serverType then true
          else decide (g.myServerInfo.serverId > serverId)

/-- The sectors a server of this type is to hear of. -/
def listenedSectors (serverType : ServerType) (serverId : Nat) : List Nat :=
  match config.connectionConfig serverType with
  | none => []
  | some policy =>
      (sectorGridList.map SectorInfo.sectorId).filter fun sectorId =>
        match policy.sectorListeningPolicy with
        | .Conditional => config.checkIntraServerSectorListening serverType serverId sectorId
        | .Not => false
        | .All => true

def listenSector (serverType : ServerType) (serverId : Nat) : GameServer :=
  { g with
    sectorPostingManager := (listenedSectors config serverType serverId).foldl
      (fun m sectorId => m.addSectorListener sectorId serverId) g.sectorPostingManager }

/-- What both directions of the handshake do once the peer is known. -/
def authorize (session : Nat) (universalSessionId : Nat) (serverId : Nat)
    (server : IntraServerInfo) : GameServer :=
  let info := (g.activeSessions.find universalSessionId).getD {}
  let g := { g with
    serverSessions := g.serverSessions.insert serverId
      { server with session := some (.socket session), isAuthorized := true }
    activeSessions := g.activeSessions.insert universalSessionId { info with isAuthorized := true }
    sectorPostingManager := g.sectorPostingManager.linkSession serverId (some (.socket session)) }
  let g := g.setUserData session { g.userData session with serverId := serverId }
  g.listenSector config server.serverInfo.serverType serverId

/-- `packet_authorize_server_rq`; nothing is the failed assertion that the peer has another id. -/
def authorizeServerRq (session universalSessionId serverId : Nat) :
    Option (GameServer × List MinionAction) :=
  if g.myServerInfo.serverId = serverId then
    none
  else
    match g.getServerSession serverId with
    | none =>
        some (g, [.send session (.authorizeServerRs g.myServerInfo.serverId .UnknownServerId)])
    | some server =>
        if server.isConnector then
          some (g, [.closeSession (.socket session)])
        else
          some (g.authorize config session universalSessionId serverId server,
            [.send session (.authorizeServerRs g.myServerInfo.serverId .None)])

/-- `packet_authorize_server_rs`. -/
def authorizeServerRs (session universalSessionId serverId : Nat) (error : ErrorCode) :
    Option (GameServer × List MinionAction) :=
  if error = .UnknownServerId then
    some (g, [.send session
      (.authorizeServerRq g.myServerInfo.serverType g.myServerInfo.serverId)])
  else if g.myServerInfo.serverId = serverId then
    none
  else
    match g.getServerSession serverId with
    | none => some (g, [.closeSession (.socket session)])
    | some server =>
        if server.isConnector then
          some (g.authorize config session universalSessionId serverId server, [])
        else
          some (g, [.closeSession (.socket session)])

/-- The handshake of `packet_authorize_server_rq` completes. -/
def acceptsRq (serverId : Nat) : Bool :=
  decide (g.myServerInfo.serverId ≠ serverId) &&
    (g.getServerSession serverId).any fun server => !server.isConnector

/-- The handshake of `packet_authorize_server_rs` completes. -/
def acceptsRs (serverId : Nat) (error : ErrorCode) : Bool :=
  decide (error ≠ .UnknownServerId) && decide (g.myServerInfo.serverId ≠ serverId) &&
    (g.getServerSession serverId).any fun server => server.isConnector

/-! ## Packets of the supervisor -/

def registerMinionServerRs (info : ServerInfo) : GameServer :=
  { g with
    myServerInfo := info
    loopbackSession := { g.loopbackSession with serverInfo := info }
    sectorPostingManager :=
      g.sectorPostingManager.linkSession info.serverId g.loopbackSession.session
    currentUniversalSessionId := (info.serverId * 1000000000000000 + 100000000000001) % 2 ^ 64
    serviceReady := true }

/-- `GameServer::Reset`. -/
def reset : GameServer × List MinionAction :=
  let servers := g.serverSessions.values
  let m := servers.foldl (fun m server => m.unsetAll server.serverInfo.serverId)
    g.sectorPostingManager
  ({ g with
      activeSessions := UnorderedMap.empty
      sectorPostingManager := m.unsetAll g.myServerInfo.serverId
      serviceReady := false
      serverSessions := UnorderedMap.empty.insert supervisorServerId g.supervisorServerInfo },
    (servers.filter (·.socketConnectorId > 0)).map
        (.unregisterConnectorSocket ·.socketConnectorId) ++
      (g.activeSessions.values.filterMap UniversalSessionInfo.session).map .closeSession)

def recoveryMinionServerRs (session : Nat) (error : ErrorCode) : GameServer × List MinionAction :=
  if error = .None then
    (g, [])
  else
    let (g, actions) := g.reset
    (g, actions ++ [.send session (.registerMinionServerRq g.registerPacket)])

/-- One round of the loop over `leaved_server_info`. -/
def leaveServer (info : ServerInfo) : GameServer × List MinionAction :=
  let connectorId := ((g.getServerSession info.serverId).getD {}).socketConnectorId
  ({ g with
      serverSessions := g.serverSessions.erase info.serverId
      sectorPostingManager := g.sectorPostingManager.unsetAll info.serverId },
    [.unregisterConnectorSocket connectorId])

/-- One round of the loop over `joined_server_info`. -/
def joinServer (info : ServerInfo) : GameServer × List MinionAction :=
  if info.serverId = g.myServerInfo.serverId then
    ({ g with serverSessions := g.serverSessions.insert info.serverId g.loopbackSession }, [])
  else
    let connector := g.isConnector config info.serverType info.serverId
    let server := (g.getServerSession info.serverId).getD {}
    let server := { server with serverInfo := info, isConnector := connector }
    if connector then
      ({ g with
          currentConnectorId := g.currentConnectorId + 1
          serverSessions := g.serverSessions.insert info.serverId
            { server with socketConnectorId := g.currentConnectorId } },
        [.registerConnectorSocket info.address info.serverId])
    else
      ({ g with serverSessions := g.serverSessions.insert info.serverId server }, [])

/-- A loop that collects the actions of its rounds. -/
def forEach {α : Type} (body : GameServer → α → GameServer × List MinionAction) :
    GameServer → List α → GameServer × List MinionAction
  | g, [] => (g, [])
  | g, a :: rest =>
      let (g, actions) := body g a
      let (g, more) := forEach body g rest
      (g, actions ++ more)

def updateIntraServerInfoPs (joined leaved : List ServerInfo) : GameServer × List MinionAction :=
  let (g, actions) := forEach leaveServer g leaved
  let (g, more) := forEach (joinServer config) g joined
  (g, actions ++ more)

/-- `packet_sector_allocation_ps`; the loop over `deallocation_info` has an empty body. -/
def sectorAllocationPs (allocation : List SectorAllocationInfo) : GameServer :=
  { g with
    sectorPostingManager := allocation.foldl
      (fun m info => m.allocateSector info.sectorId info.serverInfo.serverId)
      g.sectorPostingManager }

def onSupervisorPacket (session : Nat) : SupervisorPacket → GameServer × List MinionAction
  | .registerMinionServerRs info => (g.registerMinionServerRs info, [])
  | .recoveryMinionServerRs error => g.recoveryMinionServerRs session error
  | .updateIntraServerInfoPs joined leaved => g.updateIntraServerInfoPs config joined leaved
  | .sectorAllocationPs allocation _ => (g.sectorAllocationPs allocation, [])

end Handlers

/-- A property that every round of a loop keeps. -/
theorem forEach_induction {α : Type} {body : GameServer → α → GameServer × List MinionAction}
    {P : GameServer → Prop} (hbody : ∀ g a, P g → P (body g a).1) (items : List α) :
    ∀ {g : GameServer}, P g → P (forEach body g items).1 := by
  induction items with
  | nil =>
      intro g h
      exact h
  | cons a items ih =>
      intro g h
      exact ih (hbody g a h)

/-- What a server does over a new session that it has opened: nothing if the server it connected to
has left meanwhile; else it asks another server for the handshake, or the supervisor for its
registration or recovery. -/
theorem onSocketSessionConnected_actions (g : GameServer) (session attachment : Nat) :
    let result := g.onSocketSessionConnected session attachment
    (g.getServerSession attachment = none ∧ result.2 = [.closeSession (.socket session)]) ∨
      (∃ server, g.getServerSession attachment = some server ∧
        server.serverInfo.serverType ≠ .Supervisor ∧
        result.2 = [.send session
          (.authorizeServerRq g.myServerInfo.serverType g.myServerInfo.serverId)]) ∨
      ∃ server, g.getServerSession attachment = some server ∧
        server.serverInfo.serverType = .Supervisor ∧
        result.2 = [.send session
          (if g.serviceReady then .recoveryMinionServerRq result.1.recoveryPacket
            else .registerMinionServerRq g.registerPacket)] := by
  unfold onSocketSessionConnected
  cases hserver : g.getServerSession attachment with
  | none =>
      exact .inl ⟨rfl, rfl⟩
  | some server =>
      by_cases htype : server.serverInfo.serverType = .Supervisor
      · refine .inr (.inr ⟨server, rfl, htype, ?_⟩)
        simp only [htype, if_true]
        rfl
      · refine .inr (.inl ⟨server, rfl, htype, ?_⟩)
        simp only [htype, if_false]

/-! ## Outcomes of a handshake -/

section Handshake

variable {config : Configuration} {g g' : GameServer} {session id serverId : Nat}
  {error : ErrorCode} {actions : List MinionAction}

/-- A request for a handshake changes the server only if it completes it. -/
theorem authorizeServerRq_cases
    (h : g.authorizeServerRq config session id serverId = some (g', actions)) :
    (∃ server, g.acceptsRq serverId = true ∧ g.getServerSession serverId = some server ∧
        g' = g.authorize config session id serverId server) ∨
      (g.acceptsRq serverId = false ∧ g' = g) := by
  unfold authorizeServerRq at h
  split at h
  · cases h
  next hother =>
    split at h
    next hnone =>
      cases h
      exact .inr ⟨by simp [acceptsRq, hnone], rfl⟩
    next server hserver =>
      split at h
      next hconnector =>
        cases h
        exact .inr ⟨by simp [acceptsRq, hserver, hconnector], rfl⟩
      next hconnector =>
        cases h
        exact .inl ⟨server, by simp [acceptsRq, hserver, hconnector, hother], hserver, rfl⟩

/-- So does a response. -/
theorem authorizeServerRs_cases
    (h : g.authorizeServerRs config session id serverId error = some (g', actions)) :
    (∃ server, g.acceptsRs serverId error = true ∧ g.getServerSession serverId = some server ∧
        g' = g.authorize config session id serverId server) ∨
      (g.acceptsRs serverId error = false ∧ g' = g) := by
  unfold authorizeServerRs at h
  split at h
  next hunknown =>
    cases h
    exact .inr ⟨by simp [acceptsRs, hunknown], rfl⟩
  next hknown =>
    split at h
    · cases h
    next hother =>
      split at h
      next hnone =>
        cases h
        exact .inr ⟨by simp [acceptsRs, hnone], rfl⟩
      next server hserver =>
        split at h
        next hconnector =>
          cases h
          exact .inl ⟨server, by simp [acceptsRs, hserver, hconnector, hother, hknown], hserver,
            rfl⟩
        next hconnector =>
          cases h
          exact .inr ⟨by simp [acceptsRs, hserver, hconnector], rfl⟩

end Handshake

end GameServer

/-! ## A minion server as a machine -/

/-- The posting manager as the derived servers use it. -/
inductive PostingOperation
  | linkSession (targetId session : Nat)
  | addSectorListener (sectorId targetId : Nat)
  | removeSectorListener (sectorId targetId : Nat)
  | unsetAll (targetId : Nat)
  deriving DecidableEq, Repr

def SectorPostingManager.perform (m : SectorPostingManager) :
    PostingOperation → SectorPostingManager
  | .linkSession targetId session => m.linkSession targetId (some (.socket session))
  | .addSectorListener sectorId targetId => m.addSectorListener sectorId targetId
  | .removeSectorListener sectorId targetId => m.removeSectorListener sectorId targetId
  | .unsetAll targetId => m.unsetAll targetId

inductive MinionEvent
  | connected (session attachment : Nat)
  | accepted (session : Nat) (user : Bool)
  | closed (session : Nat)
  | supervisorPacket (session : Nat) (packet : SupervisorPacket)
  | authorizeServerRq (session serverId : Nat)
  | authorizeServerRs (session serverId : Nat) (error : ErrorCode)
  | derived (operation : PostingOperation)
  | rehash (serverSessions activeSessions : List Nat)

open GameServer in
/-- One event of a minion server.  The packets of the supervisor come over the session that was
connected to it, those of the handshake over the sessions of other servers. -/
inductive MinionStep (config : Configuration) : GameServer → MinionEvent → GameServer → Prop where
  | connected (g : GameServer) (session attachment : Nat) :
      MinionStep config g (.connected session attachment)
        (g.onSocketSessionConnected session attachment).1
  | accepted (g : GameServer) (session : Nat) (user : Bool) :
      MinionStep config g (.accepted session user) (g.onSocketSessionAccepted session user).1
  | closed {g g' : GameServer} {session : Nat} :
      g.onSocketSessionClosed session = some g' → MinionStep config g (.closed session) g'
  | supervisorPacket (g : GameServer) (session : Nat) (packet : SupervisorPacket) :
      (g.userData session).info = some .supervisor →
        MinionStep config g (.supervisorPacket session packet)
          (g.onSupervisorPacket config session packet).1
  | authorizeServerRq {g g' : GameServer} {session id serverId : Nat}
      {actions : List MinionAction} :
      (g.userData session).info = some (.active id) → (g.activeSessions.find id).isSome →
        g.authorizeServerRq config session id serverId = some (g', actions) →
          MinionStep config g (.authorizeServerRq session serverId) g'
  | authorizeServerRs {g g' : GameServer} {session id serverId : Nat} {error : ErrorCode}
      {actions : List MinionAction} :
      (g.userData session).info = some (.active id) → (g.activeSessions.find id).isSome →
        g.authorizeServerRs config session id serverId error = some (g', actions) →
          MinionStep config g (.authorizeServerRs session serverId error) g'
  | derived (g : GameServer) (operation : PostingOperation) :
      MinionStep config g (.derived operation)
        { g with sectorPostingManager := g.sectorPostingManager.perform operation }
  | rehash (g : GameServer) (serverSessions activeSessions : List Nat) :
      MinionStep config g (.rehash serverSessions activeSessions)
        { g with
          serverSessions := g.serverSessions.reorder serverSessions
          activeSessions := g.activeSessions.reorder activeSessions }

/-- A minion server from its start. -/
def minion (config : Configuration) : Machine GameServer MinionEvent where
  init := fun g => g = GameServer.initialized config
  step := MinionStep config

/-! ## The posting manager along a run -/

namespace GameServer

open SectorPostingManager (Kept)

variable {config : Configuration} {g g' : GameServer} {P : SectorPostingManager → Prop}

theorem kept_foldl {α : Type} {f : SectorPostingManager → α → SectorPostingManager}
    (hf : ∀ m a, P m → P (f m a)) (items : List α) :
    ∀ {m : SectorPostingManager}, P m → P (items.foldl f m) := by
  induction items with
  | nil =>
      intro m h
      exact h
  | cons a items ih =>
      intro m h
      exact ih (hf m a h)

theorem kept_authorize (hP : Kept P) (h : P g.sectorPostingManager) (session id serverId : Nat)
    (server : IntraServerInfo) :
    P (g.authorize config session id serverId server).sectorPostingManager :=
  kept_foldl (fun _ x hm => hP.addSectorListener x serverId hm) _
    (hP.linkSession serverId (some (.socket session)) h)

theorem kept_onSocketSessionClosed (hP : Kept P) (h : P g.sectorPostingManager) {session : Nat}
    (hclosed : g.onSocketSessionClosed session = some g') : P g'.sectorPostingManager := by
  unfold onSocketSessionClosed at hclosed
  split at hclosed
  · cases hclosed
    exact h
  · split at hclosed
    · cases hclosed
    next info _ =>
      have hfirst := hP.unsetAll info.universalSessionId h
      dsimp only at hclosed
      split at hclosed
      · cases hclosed
        exact hfirst
      · split at hclosed
        · split at hclosed
          · cases hclosed
            exact hfirst
          · split at hclosed <;> cases hclosed <;> exact hP.unsetAll _ hfirst
        · cases hclosed

theorem kept_updateIntraServerInfoPs (hP : Kept P) (h : P g.sectorPostingManager)
    (joined leaved : List ServerInfo) :
    P (g.updateIntraServerInfoPs config joined leaved).1.sectorPostingManager := by
  have hleave : P (forEach leaveServer g leaved).1.sectorPostingManager :=
    forEach_induction (P := fun g => P g.sectorPostingManager)
      (fun g info hg => hP.unsetAll info.serverId hg) leaved h
  refine forEach_induction (P := fun g => P g.sectorPostingManager) (fun g info hg => ?_) joined
    hleave
  unfold joinServer
  split
  · exact hg
  · dsimp only
    split <;> exact hg

theorem kept_onSupervisorPacket (hP : Kept P) (h : P g.sectorPostingManager) (session : Nat)
    (packet : SupervisorPacket) :
    P (g.onSupervisorPacket config session packet).1.sectorPostingManager := by
  cases packet with
  | registerMinionServerRs info =>
      exact hP.linkSession _ _ h
  | recoveryMinionServerRs error =>
      unfold onSupervisorPacket recoveryMinionServerRs
      dsimp only
      split
      · exact h
      · exact hP.unsetAll _ (kept_foldl (fun _ server hm => hP.unsetAll _ hm) _ h)
  | updateIntraServerInfoPs joined leaved =>
      exact kept_updateIntraServerInfoPs hP h joined leaved
  | sectorAllocationPs allocation deallocation =>
      exact kept_foldl (fun _ info hm => hP.allocateSector _ _ hm) allocation h

theorem kept_step (hP : Kept P) {e : MinionEvent} (h : P g.sectorPostingManager)
    (hstep : MinionStep config g e g') : P g'.sectorPostingManager := by
  cases hstep with
  | connected session attachment =>
      unfold onSocketSessionConnected
      split
      · exact h
      · split <;> exact h
  | accepted session user =>
      unfold onSocketSessionAccepted
      dsimp only
      split
      · split <;> exact h
      · exact h
  | closed hclosed =>
      exact kept_onSocketSessionClosed hP h hclosed
  | supervisorPacket session packet _ =>
      exact kept_onSupervisorPacket hP h session packet
  | authorizeServerRq _ _ hauthorize =>
      rcases authorizeServerRq_cases hauthorize with ⟨server, _, _, rfl⟩ | ⟨_, rfl⟩
      · exact kept_authorize hP h _ _ _ server
      · exact h
  | authorizeServerRs _ _ hauthorize =>
      rcases authorizeServerRs_cases hauthorize with ⟨server, _, _, rfl⟩ | ⟨_, rfl⟩
      · exact kept_authorize hP h _ _ _ server
      · exact h
  | derived operation =>
      cases operation with
      | linkSession targetId session =>
          exact hP.linkSession _ _ h
      | addSectorListener sectorId targetId =>
          exact hP.addSectorListener _ _ h
      | removeSectorListener sectorId targetId =>
          exact hP.removeSectorListener sectorId targetId h
      | unsetAll targetId =>
          exact hP.unsetAll _ h
  | rehash serverSessions activeSessions =>
      exact h

theorem kept_of_reachable (hP : Kept P) (h : (minion config).Reachable g) :
    P g.sectorPostingManager := by
  refine Machine.Reachable.invariant (P := fun g => P g.sectorPostingManager) ?_ ?_ h
  · rintro _ rfl
    exact hP.empty
  · intro g e g' hg hstep
    exact kept_step hP hg hstep

end GameServer

end Game
end SeamlessServer
