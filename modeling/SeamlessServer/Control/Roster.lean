import Mathlib.Data.Set.Insert
import SeamlessServer.Data.Channel
import SeamlessServer.Game.Links

/-!
# Control.Roster — what a minion server knows of the others

The abstract state of a minion server towards the supervisor: who it is, whether it is in service,
which servers it knows and whom it takes for the owner of each sector.  `Roster.apply` is the meaning
of the supervisor's packets in these terms, and `roster_onSupervisorPacket` says that the handlers of
`GameServer` refine it.
-/

namespace SeamlessServer
namespace Control

open Protocol Game

@[ext] structure Roster where
  info : ServerInfo
  ready : Bool
  /-- The keys of `_server_sessions`. -/
  servers : Set Nat
  /-- `owner_id` of each sector. -/
  owner : Nat → Nat

/-- The ids of some servers. -/
def idsOf (servers : List ServerInfo) : Set Nat := {k | k ∈ servers.map ServerInfo.serverId}

@[simp] theorem mem_idsOf {servers : List ServerInfo} {k : Nat} :
    k ∈ idsOf servers ↔ ∃ info ∈ servers, info.serverId = k := List.mem_map

@[simp] theorem idsOf_nil : idsOf [] = ∅ := by
  ext k
  simp

theorem idsOf_cons (info : ServerInfo) (servers : List ServerInfo) :
    idsOf (info :: servers) = insert info.serverId (idsOf servers) := by
  ext k
  simp [eq_comm]

namespace Roster

/-- The owners after some allocations. -/
def allocate (owner : Nat → Nat) (allocation : List SectorAllocationInfo) : Nat → Nat :=
  allocation.foldl (fun f info => Function.update f info.sectorId info.serverInfo.serverId) owner

open Classical in
/-- The owners after some servers are forgotten. -/
noncomputable def forget (owner : Nat → Nat) (servers : Set Nat) : Nat → Nat :=
  fun x => if owner x ∈ servers then 0 else owner x

noncomputable def apply (r : Roster) : SupervisorPacket → Roster
  | .registerMinionServerRs info => { r with info := info, ready := true }
  | .recoveryMinionServerRs error =>
      if error = .None then r
      else
        { r with
          ready := false
          servers := {supervisorServerId}
          owner := forget r.owner (insert r.info.serverId r.servers) }
  | .updateIntraServerInfoPs joined leaved =>
      { r with
        servers := r.servers \ idsOf leaved ∪ idsOf joined
        owner := forget r.owner (idsOf leaved) }
  | .sectorAllocationPs allocation _ => { r with owner := allocate r.owner allocation }

end Roster

/-! ## The roster of a minion server -/

def roster (g : GameServer) : Roster where
  info := g.myServerInfo
  ready := g.serviceReady
  servers := {k | (g.serverSessions.find k).isSome}
  owner := g.sectorPostingManager.owner

variable {config : Configuration} {g g' : GameServer}

open SectorPostingManager (OwnedRelated)

/-- What a roster rests on: servers are stored under their own id, and owned sectors are found. -/
structure Sound (g : GameServer) : Prop where
  keyed : g.Keyed
  related : g.sectorPostingManager.OwnedRelated

theorem Sound.initialized (config : Configuration) : Sound (GameServer.initialized config) :=
  ⟨GameServer.Keyed.initialized config, OwnedRelated.empty⟩

theorem Sound.onSupervisorPacket (h : Sound g) (session : Nat) (packet : SupervisorPacket) :
    Sound (g.onSupervisorPacket config session packet).1 :=
  ⟨h.keyed.onSupervisorPacket session packet,
    GameServer.kept_onSupervisorPacket OwnedRelated.kept h.related session packet⟩

theorem Sound.onSocketSessionConnected (h : Sound g) (session attachment : Nat) :
    Sound (g.onSocketSessionConnected session attachment).1 := by
  refine ⟨h.keyed.onSocketSessionConnected session attachment, ?_⟩
  rw [(g.onSocketSessionConnected_spec session attachment).1]
  exact h.related

theorem Sound.onSocketSessionClosed (h : Sound g) {session : Nat}
    (hclosed : g.onSocketSessionClosed session = some g') : Sound g' :=
  ⟨h.keyed.onSocketSessionClosed hclosed,
    GameServer.kept_onSocketSessionClosed OwnedRelated.kept h.related hclosed⟩

theorem Sound.step {e : MinionEvent} (h : Sound g) (hstep : MinionStep config g e g') : Sound g' :=
  ⟨GameServer.keyed_step h.keyed hstep,
    GameServer.kept_step OwnedRelated.kept h.related hstep⟩

/-! ## Refinement -/

theorem owner_unset {m : SectorPostingManager} (h : m.OwnedRelated) (k : Nat) :
    (m.unsetAll k).owner = Roster.forget m.owner {k} := by
  funext x
  unfold Roster.forget
  by_cases hk : k = 0
  · -- no sector is owned under the id 0
    subst hk
    rw [SectorPostingManager.owner_unsetAll]
    by_cases hx : m.owner x = 0 <;> simp [hx]
  · rw [h.owner_unsetAll hk]
    simp

open Classical in
theorem Roster.forget_forget (owner : Nat → Nat) (s t : Set Nat) :
    forget (forget owner s) t = forget owner (s ∪ t) := by
  funext x
  have hstep : forget (forget owner s) t x = if forget owner s x ∈ t then 0 else forget owner s x :=
    rfl
  by_cases hs : owner x ∈ s
  · have hfirst : forget owner s x = 0 := if_pos hs
    have hboth : forget owner (s ∪ t) x = 0 := if_pos (.inl hs)
    rw [hstep, hfirst, hboth, ite_self]
  · have hfirst : forget owner s x = owner x := if_neg hs
    rw [hstep, hfirst]
    by_cases ht : owner x ∈ t <;> simp [forget, hs, ht]

@[simp] theorem Roster.forget_empty (owner : Nat → Nat) : forget owner ∅ = owner := by
  funext x
  simp [forget]

/-- Several targets unset one after the other. -/
theorem owner_unsetTargets (targets : List Nat) :
    ∀ {m : SectorPostingManager}, m.OwnedRelated →
      (m.unsetTargets targets).OwnedRelated ∧
        (m.unsetTargets targets).owner = Roster.forget m.owner {k | k ∈ targets} := by
  induction targets with
  | nil =>
      intro m h
      refine ⟨h, ?_⟩
      simp [SectorPostingManager.unsetTargets]
  | cons k targets ih =>
      intro m h
      obtain ⟨hrelated, howner⟩ := ih (h.unsetAll k)
      refine ⟨hrelated, ?_⟩
      have hfirst := owner_unset h k
      have hsplit : {j | j ∈ k :: targets} = ({k} ∪ {j | j ∈ targets} : Set Nat) := by
        ext j
        simp
      calc
        (m.unsetTargets (k :: targets)).owner
            = Roster.forget (m.unsetAll k).owner {j | j ∈ targets} := howner
        _ = Roster.forget m.owner {j | j ∈ k :: targets} := by
              rw [hfirst, Roster.forget_forget, hsplit]

theorem owner_allocations (allocation : List SectorAllocationInfo) :
    ∀ m : SectorPostingManager,
      (allocation.foldl (fun m info => m.allocateSector info.sectorId info.serverInfo.serverId)
        m).owner = Roster.allocate m.owner allocation := by
  induction allocation with
  | nil =>
      intro m
      rfl
  | cons info allocation ih =>
      intro m
      have hfirst : (m.allocateSector info.sectorId info.serverInfo.serverId).owner =
          Function.update m.owner info.sectorId info.serverInfo.serverId := by
        funext x
        rw [SectorPostingManager.owner_allocateSector, Function.update_apply]
      rw [List.foldl_cons, ih, hfirst]
      rfl

theorem servers_leaveServer (g : GameServer) (info : ServerInfo) :
    (roster (g.leaveServer info).1).servers = (roster g).servers \ {info.serverId} := by
  ext k
  by_cases hk : k = info.serverId <;> simp [roster, GameServer.leaveServer, hk]

theorem joinServer_spec (g : GameServer) (info : ServerInfo) :
    roster (g.joinServer config info).1 =
      { roster g with servers := insert info.serverId (roster g).servers } := by
  have hinsert : ∀ (m : UnorderedMap Nat IntraServerInfo) (server : IntraServerInfo),
      {k | ((m.insert info.serverId server).find k).isSome = true} =
        (insert info.serverId {k | (m.find k).isSome = true} : Set Nat) := by
    intro m server
    ext k
    by_cases hk : k = info.serverId <;> simp [hk]
  unfold GameServer.joinServer
  split
  · simp only [roster, hinsert]
  · dsimp only
    split <;> simp only [roster, hinsert]

theorem updateIntraServerInfoPs_refines (h : Sound g) (joined leaved : List ServerInfo) :
    roster (g.updateIntraServerInfoPs config joined leaved).1 =
      (roster g).apply (.updateIntraServerInfoPs joined leaved) := by
  -- the servers that leave, one after the other
  have hleave : ∀ (leaved : List ServerInfo) (g : GameServer),
      (GameServer.forEach GameServer.leaveServer g leaved).1.myServerInfo = g.myServerInfo ∧
      (GameServer.forEach GameServer.leaveServer g leaved).1.serviceReady = g.serviceReady ∧
      (GameServer.forEach GameServer.leaveServer g leaved).1.sectorPostingManager =
        g.sectorPostingManager.unsetTargets (leaved.map ServerInfo.serverId) ∧
      (roster (GameServer.forEach GameServer.leaveServer g leaved).1).servers =
        (roster g).servers \ idsOf leaved := by
    intro leaved
    induction leaved with
    | nil =>
        intro g
        refine ⟨rfl, rfl, rfl, ?_⟩
        simp [GameServer.forEach]
    | cons info leaved ih =>
        intro g
        obtain ⟨hinfo, hready, hmanager, hservers⟩ := ih (g.leaveServer info).1
        refine ⟨hinfo, hready, hmanager, hservers.trans ?_⟩
        rw [servers_leaveServer, idsOf_cons, Set.insert_eq, Set.sdiff_sdiff]
  -- and those that join
  have hjoin : ∀ (joined : List ServerInfo) (g : GameServer),
      roster (GameServer.forEach (GameServer.joinServer config) g joined).1 =
        { roster g with servers := (roster g).servers ∪ idsOf joined } := by
    intro joined
    induction joined with
    | nil =>
        intro g
        simp [GameServer.forEach]
    | cons info joined ih =>
        intro g
        refine (ih (g.joinServer config info).1).trans ?_
        rw [joinServer_spec, idsOf_cons]
        simp [Set.insert_union, Set.union_insert]
  obtain ⟨hinfo, hready, hmanager, hservers⟩ := hleave leaved g
  refine (hjoin joined _).trans ?_
  have howner := (owner_unsetTargets (leaved.map ServerInfo.serverId) h.related).2
  refine Roster.ext hinfo hready ?_ ?_
  · exact congrArg (· ∪ idsOf joined) hservers
  · exact (congrArg SectorPostingManager.owner hmanager).trans howner

/-- The ids in the records are the keys. -/
theorem ids_serverSessions (h : g.Keyed) :
    {k | k ∈ g.serverSessions.values.map fun server => server.serverInfo.serverId} =
      (roster g).servers := by
  ext k
  simp only [roster, Set.mem_ofPred_eq, List.mem_map, UnorderedMap.mem_values,
    Option.isSome_iff_exists]
  constructor
  · rintro ⟨server, ⟨j, hj⟩, rfl⟩
    exact ⟨server, (h.servers hj).symm ▸ hj⟩
  · rintro ⟨server, hserver⟩
    exact ⟨server, ⟨k, hserver⟩, h.servers hserver⟩

/-- `Reset` forgets every server it knows and itself. -/
theorem recoveryMinionServerRs_refines (h : Sound g) (session : Nat) (error : ErrorCode) :
    roster (g.recoveryMinionServerRs session error).1 =
      (roster g).apply (.recoveryMinionServerRs error) := by
  by_cases herror : error = .None
  · simp only [GameServer.recoveryMinionServerRs, Roster.apply, herror, if_true]
  · simp only [GameServer.recoveryMinionServerRs, Roster.apply, herror, if_false]
    have htargets : ∀ (servers : List IntraServerInfo) (m : SectorPostingManager),
        servers.foldl (fun m server => m.unsetAll server.serverInfo.serverId) m =
          m.unsetTargets (servers.map fun server => server.serverInfo.serverId) := by
      intro servers m
      exact List.foldl_map.symm
    have hids := ids_serverSessions h.keyed
    refine Roster.ext rfl rfl ?_ ?_
    · ext k
      by_cases hk : k = supervisorServerId <;>
        simp [roster, GameServer.reset, UnorderedMap.find_insert, hk]
    · obtain ⟨hrelated, howner⟩ := owner_unsetTargets
        (g.serverSessions.values.map fun server => server.serverInfo.serverId) h.related
      have hlast := owner_unset hrelated g.myServerInfo.serverId
      rw [howner, Roster.forget_forget, hids] at hlast
      calc
        (roster g.reset.1).owner
            = ((g.sectorPostingManager.unsetTargets (g.serverSessions.values.map
                fun server => server.serverInfo.serverId)).unsetAll
                  g.myServerInfo.serverId).owner := by
              rw [← htargets]
              rfl
        _ = Roster.forget (roster g).owner
              (insert (roster g).info.serverId (roster g).servers) := by
              rw [hlast, Set.union_singleton]
              rfl

theorem registerMinionServerRs_refines (g : GameServer) (info : ServerInfo) :
    roster (g.registerMinionServerRs info) = (roster g).apply (.registerMinionServerRs info) := by
  unfold GameServer.registerMinionServerRs
  generalize (info.serverId * 1000000000000000 + 100000000000001) % 2 ^ 64 = counter
  rfl

/-- The handlers of the supervisor's packets refine the abstract ones. -/
theorem roster_onSupervisorPacket (config : Configuration) (h : Sound g) (session : Nat) (packet : SupervisorPacket) :
    roster (g.onSupervisorPacket config session packet).1 = (roster g).apply packet := by
  cases packet with
  | registerMinionServerRs info =>
      exact registerMinionServerRs_refines g info
  | recoveryMinionServerRs error =>
      exact recoveryMinionServerRs_refines h session error
  | updateIntraServerInfoPs joined leaved =>
      exact updateIntraServerInfoPs_refines h joined leaved
  | sectorAllocationPs allocation deallocation =>
      exact Roster.ext rfl rfl rfl (owner_allocations allocation g.sectorPostingManager)

/-! ## Sessions and requests -/

/-- The requests among some actions that go over a session. -/
def requestsOn (session : Nat) (actions : List MinionAction) : List MinionPacket :=
  actions.filterMap fun
    | .send target packet => if target = session then some packet else none
    | _ => none

theorem requestsOn_send (session : Nat) (packet : MinionPacket) :
    requestsOn session [.send session packet] = [packet] := by
  simp [requestsOn]

/-- A request that says what the sender is. -/
def Pending (r : Roster) : MinionPacket → Prop
  | .registerMinionServerRq _ => r.ready = false
  | .recoveryMinionServerRq packet =>
      r.ready = true ∧ packet.serverInfo = r.info ∧ idsOf packet.intraServers = r.servers
  | _ => True

theorem idsOf_recoveryPacket (h : g.Keyed) :
    idsOf g.recoveryPacket.intraServers = (roster g).servers := by
  rw [← ids_serverSessions h]
  ext k
  simp [GameServer.recoveryPacket]

/-- Connecting to the supervisor is no news about servers or sectors. -/
theorem roster_connect (g : GameServer) (session : Nat) :
    roster (g.onSocketSessionConnected session supervisorServerId).1 = roster g := by
  unfold GameServer.onSocketSessionConnected
  split
  · rfl
  next server hserver =>
    split
    · refine Roster.ext rfl rfl ?_ rfl
      have hknown : (g.serverSessions.find supervisorServerId).isSome = true := by
        rw [GameServer.getServerSession] at hserver
        rw [hserver]
        rfl
      ext k
      by_cases hk : k = supervisorServerId
      · simpa [roster, GameServer.setUserData, hk] using hknown
      · simp [roster, GameServer.setUserData, hk]
    · rfl

/-- Over a new session to the supervisor goes at most one request, and it is a true one. -/
theorem requests_connect (h : g.Keyed) (session : Nat) :
    requestsOn session (g.onSocketSessionConnected session supervisorServerId).2 = [] ∨
      ∃ request, requestsOn session (g.onSocketSessionConnected session supervisorServerId).2 =
        [request] ∧ Pending (roster g) request := by
  have hkeyed := h.onSocketSessionConnected session supervisorServerId
  rcases g.onSocketSessionConnected_actions session supervisorServerId with
    ⟨_, hactions⟩ | ⟨server, _, _, hactions⟩ | ⟨server, _, _, hactions⟩
  · left
    rw [hactions]
    rfl
  · right
    rw [hactions, requestsOn_send]
    exact ⟨_, rfl, trivial⟩
  · right
    rw [hactions, requestsOn_send]
    refine ⟨_, rfl, ?_⟩
    cases hready : g.serviceReady with
    | false =>
        exact hready
    | true =>
        have hids := idsOf_recoveryPacket hkeyed
        rw [roster_connect] at hids
        have hinfo := congrArg Roster.info (roster_connect g session)
        exact ⟨hready, hinfo, hids⟩

/-- Losing a session is no news about servers. -/
theorem roster_closed {session : Nat} (h : g.onSocketSessionClosed session = some g') :
    (roster g').info = (roster g).info ∧ (roster g').ready = (roster g).ready ∧
      (roster g').servers = (roster g).servers := by
  unfold GameServer.onSocketSessionClosed at h
  split at h
  · cases h
    exact ⟨rfl, rfl, rfl⟩
  · split at h
    · cases h
    · dsimp only at h
      split at h
      · cases h
        exact ⟨rfl, rfl, rfl⟩
      · split at h
        · split at h
          · cases h
            exact ⟨rfl, rfl, rfl⟩
          · split at h <;> cases h <;> exact ⟨rfl, rfl, rfl⟩
        · cases h

/-! ## Events between minion servers -/

/-- The events of a minion server that concern other minion servers and clients, over sessions other
than that to the supervisor.  All of their links stay up. -/
def Lateral (g : GameServer) (supervisorSession : Option Nat) : MinionEvent → Prop
  | .connected session attachment => supervisorSession ≠ some session ∧
      ∀ server, g.getServerSession attachment = some server →
        server.serverInfo.serverType ≠ .Supervisor
  | .accepted session _ => supervisorSession ≠ some session
  | .authorizeServerRq session _ => supervisorSession ≠ some session
  | .authorizeServerRs session _ _ => supervisorSession ≠ some session
  | .rehash _ _ => True
  | _ => False

theorem roster_authorize {session id k : Nat} {server : IntraServerInfo}
    (hserver : g.getServerSession k = some server) :
    roster (g.authorize config session id k server) = roster g := by
  have howner := (GameServer.authorize_spec config g session id k server).1
  refine Roster.ext rfl rfl ?_ howner
  ext j
  by_cases hj : j = k
  · simp only [GameServer.getServerSession] at hserver
    simp [roster, GameServer.authorize, GameServer.setUserData, GameServer.listenSector, hj, hserver]
  · simp [roster, GameServer.authorize, GameServer.setUserData, GameServer.listenSector, hj]

theorem roster_lateral {supervisorSession : Option Nat} {e : MinionEvent}
    (hlateral : Lateral g supervisorSession e) (hstep : MinionStep config g e g') :
    roster g' = roster g := by
  cases hstep with
  | connected session attachment =>
      unfold GameServer.onSocketSessionConnected
      split
      · rfl
      next server hserver =>
        rw [if_neg (hlateral.2 server hserver)]
        rfl
  | accepted session user =>
      unfold GameServer.onSocketSessionAccepted
      dsimp only
      split
      · split <;> rfl
      · rfl
  | closed _ =>
      exact hlateral.elim
  | supervisorPacket session packet _ =>
      exact hlateral.elim
  | authorizeServerRq _ _ hauthorize =>
      rcases GameServer.authorizeServerRq_cases hauthorize with ⟨server, _, hserver, rfl⟩ | ⟨_, rfl⟩
      · exact roster_authorize hserver
      · rfl
  | authorizeServerRs _ _ hauthorize =>
      rcases GameServer.authorizeServerRs_cases hauthorize with ⟨server, _, hserver, rfl⟩ | ⟨_, rfl⟩
      · exact roster_authorize hserver
      · rfl
  | derived operation =>
      exact hlateral.elim
  | rehash serverSessions activeSessions =>
      refine Roster.ext rfl rfl ?_ rfl
      simp [roster]

end Control
end SeamlessServer
