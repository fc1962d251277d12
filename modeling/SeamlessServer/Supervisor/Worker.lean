import SeamlessServer.Data.Machine
import SeamlessServer.Data.UnorderedMap
import SeamlessServer.Game.Base
import SeamlessServer.Protocol.Server
import SeamlessServer.Utility.Sampling

/-!
# Supervisor.Worker — the supervisor's bookkeeping of minion servers and sectors

The handlers of `supervisor/SupervisorWorker.cpp`, each a function from the worker's state to the
state it leaves and the packets it sends.  Clock readings are arguments.

Ownership of a sector is recorded twice: `ManagedSectorInfo.ownerServerId` per sector and
`ManagedServerInfo.sectorList` per server.  The handlers below write the two records where the
source does, and only there.

The counter `_current_server_id` is a natural number: it is incremented once per registration, so
the `uint64_t` of the source does not wrap in any run that can be carried out.
-/

namespace SeamlessServer
namespace Supervisor

open Protocol Utility Game

/-- A session of the supervisor's network engine. -/
abbrev SessionId := Nat

structure ManagedSectorInfo extends SectorInfo where
  ownerServerId : Nat
  deriving DecidableEq

structure ManagedServerInfo where
  session : SessionId
  serverInfo : ServerInfo
  sectorList : List Nat
  deriving DecidableEq

/-- What a handler does to the network. -/
inductive Action
  | send (session : SessionId) (packet : SupervisorPacket)
  | disconnect (session : SessionId)
  deriving DecidableEq

structure SupervisorWorker where
  /-- `_current_server_id` is a `uint64_t`: it stays below its bound as long as fewer than `2 ^ 64`
  servers register. -/
  currentServerId : Nat
  sectorInfo : UnorderedMap Nat ManagedSectorInfo
  managedServerList : UnorderedMap Nat ManagedServerInfo
  blockedServerList : UnorderedMap Nat ServerInfo
  recoveryingServerList : UnorderedMap Nat ServerInfo
  recoveryCountdown : Countdown
  initialDelay : Option Countdown
  /-- The sessions' user data under `SessionDataKey::ServerId` (`0` when unset). -/
  serverIdOf : SessionId → Nat

/-- `MaxSectorPerPlayServer` of `Config.h`. -/
def maxSectorPerPlayServer : Nat := 50

namespace SupervisorWorker

/-! ## Construction -/

theorem sectorIds_nodup : (sectorGridList.map SectorInfo.sectorId).Nodup := by decide

/-- The constructor: every sector of the grid is known and unowned. -/
def new (now : Milliseconds) : SupervisorWorker where
  currentServerId := supervisorServerId + 1
  sectorInfo :=
    UnorderedMap.ofKeys (sectorGridList.map SectorInfo.sectorId) sectorIds_nodup fun id =>
      { Game.sectorInfo id with ownerServerId := 0 }
  managedServerList := UnorderedMap.empty
  blockedServerList := UnorderedMap.empty
  recoveryingServerList := UnorderedMap.empty
  recoveryCountdown := Countdown.start 9999999999999 now
  initialDelay := none
  serverIdOf := fun _ => 0

/-- `owner_server_id` of a sector, `0` for a sector the supervisor does not know. -/
def ownerOf (s : SupervisorWorker) (sectorId : Nat) : Nat :=
  ((s.sectorInfo.find sectorId).map ManagedSectorInfo.ownerServerId).getD 0

/-- `_sector_info[sector_id].owner_server_id = owner`; `operator[]` inserts an unknown sector. -/
def setOwner (s : SupervisorWorker) (sectorId owner : Nat) : SupervisorWorker :=
  let info := (s.sectorInfo.find sectorId).getD { ownerServerId := 0 }
  { s with sectorInfo := s.sectorInfo.insert sectorId { info with ownerServerId := owner } }

/-! ## Packets built from the whole state -/

/-- The managed servers in iteration order. -/
def managedServers (s : SupervisorWorker) : List ManagedServerInfo :=
  s.managedServerList.values

def makeUpdateIntraServerPacket (s : SupervisorWorker) : SupervisorPacket :=
  .updateIntraServerInfoPs (s.managedServers.map ManagedServerInfo.serverInfo) []

def makeSectorAllocationPacket (s : SupervisorWorker) : SupervisorPacket :=
  .sectorAllocationPs
    (s.managedServers.flatMap fun m => m.sectorList.map (SectorAllocationInfo.mk m.serverInfo)) []

def broadcastPacket (s : SupervisorWorker) (packets : List SupervisorPacket) : List Action :=
  s.managedServers.flatMap fun m => packets.map (Action.send m.session)

/-! ## Registration -/

/-- Whether an id may not be handed out. -/
def serverIdTaken (s : SupervisorWorker) (id : Nat) : Bool :=
  (s.managedServerList.find id).isSome || (s.blockedServerList.find id).isSome ||
    (s.recoveryingServerList.find id).isSome

/-- The search of `GetNextServerId` from `id` on, for a bounded number of rounds. -/
def nextServerIdFrom (s : SupervisorWorker) : Nat → Nat → Option Nat
  | 0, _ => none
  | rounds + 1, id =>
      if s.serverIdTaken id then s.nextServerIdFrom rounds (id + 1) else some id

/-- `GetNextServerId`.  One round more than there are ids in the three maps is enough
(`getNextServerId_isSome`). -/
def getNextServerId (s : SupervisorWorker) : Option Nat :=
  s.nextServerIdFrom
    (s.managedServerList.size + s.blockedServerList.size + s.recoveryingServerList.size + 1)
    s.currentServerId

def onServerRegisterMinionServerReq (s : SupervisorWorker) (session : SessionId)
    (packet : RegisterMinionServerRq) (now : Milliseconds) :
    Option (SupervisorWorker × List Action) :=
  if s.serverIdOf session ≠ 0 then
    -- a session registers once
    some (s, [.disconnect session])
  else
    match s.getNextServerId with
    | none => none
    | some serverId =>
        let info : ServerInfo := ⟨packet.serverType, serverId, packet.address⟩
        let actions :=
          [.send session (.registerMinionServerRs info),
           .send session s.makeUpdateIntraServerPacket,
           -- the new server is not on the list yet, so the broadcast does not reach it
           .send session s.makeSectorAllocationPacket] ++
            s.broadcastPacket [.updateIntraServerInfoPs [info] []]
        some
          ({ s with
              currentServerId := serverId + 1
              serverIdOf := Function.update s.serverIdOf session serverId
              managedServerList := s.managedServerList.insert serverId ⟨session, info, []⟩
              initialDelay := s.initialDelay.orElse fun _ => some (Countdown.start 2000 now) },
            actions)

/-! ## Recovery -/

/-- The checks of `OnServerRecoveryMinionServerReq`, in source order. -/
def recoveryAccepted (s : SupervisorWorker) (packet : RecoveryMinionServerRq) : Bool :=
  decide (supervisorServerId < packet.serverInfo.serverId) &&
    (s.managedServerList.find packet.serverInfo.serverId).isNone &&
    (decide (packet.serverInfo.serverType = .Play) || packet.sectors.isEmpty) &&
    packet.sectors.all (fun id =>
      match s.sectorInfo.find id with
      | none => false
      | some info => info.ownerServerId == 0) &&
    (s.blockedServerList.find packet.serverInfo.serverId).isNone

/-- The loop over `packet.intra_servers`. -/
def noteIntraServers (s : SupervisorWorker) (servers : List ServerInfo) (now : Milliseconds) :
    SupervisorWorker :=
  servers.foldl (fun s info =>
    if (s.managedServerList.find info.serverId).isNone then
      { s with
          recoveryingServerList := s.recoveryingServerList.insert info.serverId info
          recoveryCountdown := Countdown.start 30000 now }
    else
      s) s

/-- The loop over `packet.sectors`: the owner of each sector is set, the server's own
`sector_list` is not touched. -/
def claimSectors (s : SupervisorWorker) (owner : Nat) (sectors : List Nat) : SupervisorWorker :=
  sectors.foldl (fun s id => s.setOwner id owner) s

def onServerRecoveryMinionServerReq (s : SupervisorWorker) (session : SessionId)
    (packet : RecoveryMinionServerRq) (now : Milliseconds) : SupervisorWorker × List Action :=
  if s.recoveryAccepted packet then
    let serverId := packet.serverInfo.serverId
    let s := { s with recoveryingServerList := s.recoveryingServerList.erase serverId }
    let s := s.noteIntraServers packet.intraServers now
    -- `_managed_server_list[id]` inserts an entry without sectors; it is filled in below
    let s := s.claimSectors serverId packet.sectors
    let s := { s with
      managedServerList := s.managedServerList.insert serverId ⟨session, packet.serverInfo, []⟩
      serverIdOf := Function.update s.serverIdOf session serverId }
    let actions :=
      .send session (.recoveryMinionServerRs .None) ::
        s.broadcastPacket
          [.updateIntraServerInfoPs [packet.serverInfo] [],
           .sectorAllocationPs (packet.sectors.map (SectorAllocationInfo.mk packet.serverInfo)) []]
    ({ s with initialDelay := s.initialDelay.orElse fun _ => some (Countdown.start 5000 now) },
      actions)
  else
    (s, [.send session (.recoveryMinionServerRs .RecoveryFailed)])

/-! ## Closing -/

/-- `OnSocketSessionClosed`; `none` is the failed assertion that the server is managed. -/
def onSocketSessionClosed (s : SupervisorWorker) (session : SessionId) :
    Option (SupervisorWorker × List Action) :=
  let serverId := s.serverIdOf session
  if serverId = 0 then
    some (s, [])
  else
    match s.managedServerList.find serverId with
    | none => none
    | some server =>
        let s := server.sectorList.foldl (fun s id => s.setOwner id 0) s
        let s := { s with managedServerList := s.managedServerList.erase serverId }
        some (s, s.broadcastPacket
          [.sectorAllocationPs [] (server.sectorList.map (SectorAllocationInfo.mk server.serverInfo)),
           .updateIntraServerInfoPs [] [server.serverInfo]])

/-! ## Periodic update -/

/-- The expiry branch: every server still recovering is blocked and announced as left. -/
def expireRecovery (s : SupervisorWorker) (now : Milliseconds) :
    SupervisorWorker × List Action :=
  let expired := s.recoveryingServerList.keys.filterMap fun id =>
    (s.recoveryingServerList.find id).map fun info => (id, info)
  let blocked := expired.foldl (fun m entry => m.insert entry.1 entry.2) s.blockedServerList
  ({ s with
      blockedServerList := blocked
      recoveryingServerList := UnorderedMap.empty
      recoveryCountdown := Countdown.start 999999999999 now },
    s.broadcastPacket [.updateIntraServerInfoPs [] (expired.map Prod.snd)])

/-- The `for_each` over the managed servers: the first server in iteration order with the fewest
sectors, agencies left out.  The initial count is `UINT32_MAX`. -/
def leastLoadedServer (s : SupervisorWorker) : Option Nat :=
  (s.managedServerList.keys.foldl (fun (best : Nat × Option Nat) id =>
    match s.managedServerList.find id with
    | none => best
    | some server =>
        if server.serverInfo.serverType = .Agency then
          best
        else if best.1 > server.sectorList.length then
          (server.sectorList.length, some id)
        else
          best) (2 ^ 32 - 1, none)).2

/-- The allocation of one sector to the server under the key `id`. -/
def allocateSector (s : SupervisorWorker) (id : Nat) (server : ManagedServerInfo)
    (sectorId : Nat) : SupervisorWorker :=
  ({ s with
      managedServerList := s.managedServerList.insert id
        { server with sectorList := server.sectorList.insert sectorId } }).setOwner
    sectorId server.serverInfo.serverId

/-- The loop over `_sector_info`.  The flag tells whether the loop was left by `return true`,
which skips the broadcast. -/
def allocateSectors : SupervisorWorker → List Nat → List SectorAllocationInfo →
    SupervisorWorker × List SectorAllocationInfo × Bool
  | s, [], allocated => (s, allocated, false)
  | s, sectorId :: rest, allocated =>
      if s.ownerOf sectorId ≠ 0 then
        s.allocateSectors rest allocated
      else
        match s.leastLoadedServer with
        | none => (s, allocated, true)
        | some id =>
            match s.managedServerList.find id with
            | none => (s, allocated, true)
            | some server =>
                if server.sectorList.length ≥ maxSectorPerPlayServer then
                  -- the least loaded server is full, and the loop goes on to the next sector
                  s.allocateSectors rest allocated
                else
                  (s.allocateSector id server sectorId).allocateSectors rest
                    (allocated ++ [⟨server.serverInfo, sectorId⟩])

def update (s : SupervisorWorker) (now : Milliseconds) : SupervisorWorker × List Action :=
  match s.initialDelay with
  | none => (s, [])
  | some delay =>
      if delay.elapsed now then
        let expiry := if s.recoveryCountdown.elapsed now then s.expireRecovery now else (s, [])
        let (s, allocated, left) := expiry.1.allocateSectors expiry.1.sectorInfo.keys []
        if left || allocated.isEmpty then
          (s, expiry.2)
        else
          (s, expiry.2 ++ s.broadcastPacket [.sectorAllocationPs allocated []])
      else
        (s, [])

/-! ## The worker as a machine -/

/-- Two workers that differ at most in the iteration order of their maps. -/
structure Equiv (s s' : SupervisorWorker) : Prop where
  currentServerId : s.currentServerId = s'.currentServerId
  sectorInfo : s.sectorInfo.Equiv s'.sectorInfo
  managedServerList : s.managedServerList.Equiv s'.managedServerList
  blockedServerList : s.blockedServerList.Equiv s'.blockedServerList
  recoveryingServerList : s.recoveryingServerList.Equiv s'.recoveryingServerList
  recoveryCountdown : s.recoveryCountdown = s'.recoveryCountdown
  initialDelay : s.initialDelay = s'.initialDelay
  serverIdOf : s.serverIdOf = s'.serverIdOf

end SupervisorWorker

/-- The events of a supervisor.  `accepted` is the reset of a session's user data when the engine
opens it; `reorder` lets the iteration order of any map change between two handlers. -/
inductive Event
  | accepted (session : SessionId)
  | register (session : SessionId) (packet : RegisterMinionServerRq) (now : Milliseconds)
  | recovery (session : SessionId) (packet : RecoveryMinionServerRq) (now : Milliseconds)
  | closed (session : SessionId)
  | update (now : Milliseconds)
  | reorder

open SupervisorWorker in
/-- One event of the supervisor. -/
inductive Step : SupervisorWorker → Event → SupervisorWorker → Prop where
  | accepted (s : SupervisorWorker) (session : SessionId) :
      Step s (.accepted session) { s with serverIdOf := Function.update s.serverIdOf session 0 }
  | register {s s' : SupervisorWorker} {session : SessionId} {packet : RegisterMinionServerRq}
      {now : Milliseconds} {actions : List Action} :
      onServerRegisterMinionServerReq s session packet now = some (s', actions) →
        Step s (.register session packet now) s'
  | recovery (s : SupervisorWorker) (session : SessionId) (packet : RecoveryMinionServerRq)
      (now : Milliseconds) :
      Step s (.recovery session packet now)
        (onServerRecoveryMinionServerReq s session packet now).1
  | closed {s s' : SupervisorWorker} {session : SessionId} {actions : List Action} :
      onSocketSessionClosed s session = some (s', actions) → Step s (.closed session) s'
  | update (s : SupervisorWorker) (now : Milliseconds) :
      Step s (.update now) (update s now).1
  | reorder {s s' : SupervisorWorker} : s.Equiv s' → Step s .reorder s'

/-- The supervisor started at some tick. -/
def machine : Machine SupervisorWorker Event where
  init := fun s => ∃ now, s = SupervisorWorker.new now
  step := Step

end Supervisor
end SeamlessServer
