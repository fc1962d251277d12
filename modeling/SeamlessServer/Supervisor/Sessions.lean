import SeamlessServer.Game.GameServer
import SeamlessServer.Supervisor.Recovery

/-!
# Supervisor.Sessions — the sessions of managed servers

A managed server is reached over the session in its entry, and that session carries the id of the
server in its user data.  The engine hands out no session that is in use, and `OnSocketSessionData`
turns away a request over a session that has a server id, so the two agree in every run
(`bound_of_reachable`).  A packet broadcast to the managed servers then goes exactly once to each of
their sessions.
-/

namespace SeamlessServer
namespace Supervisor

open Protocol Utility Game

/-- The packets among some actions that go to a session, in order. -/
def packetsTo (session : SessionId) (actions : List Action) : List SupervisorPacket :=
  actions.filterMap fun
    | .send target packet => if target = session then some packet else none
    | .disconnect _ => none

namespace SupervisorWorker

variable {s s' : SupervisorWorker}

/-- `OnSocketSessionData`, as far as its packets are modelled. -/
def onSocketSessionData (s : SupervisorWorker) (session : SessionId) (now : Milliseconds)
    (request : MinionPacket) : Option (SupervisorWorker × List Action) :=
  if s.serverIdOf session ≠ 0 then
    some (s, [.disconnect session])
  else
    match request with
    | .registerMinionServerRq packet => s.onServerRegisterMinionServerReq session packet now
    | .recoveryMinionServerRq packet => some (s.onServerRecoveryMinionServerReq session packet now)
    | _ => some (s, [])

/-! ## Outcomes of the handlers, in full -/

/-- What an accepted recovery writes besides the ids of servers. -/
theorem recovery_serverIdOf (s : SupervisorWorker) (session : SessionId)
    (packet : RecoveryMinionServerRq) (now : Milliseconds)
    (haccepted : s.recoveryAccepted packet = true) :
    (onServerRecoveryMinionServerReq s session packet now).1.serverIdOf =
      Function.update s.serverIdOf session packet.serverInfo.serverId := by
  have hnoted : ∀ (servers : List ServerInfo) (s : SupervisorWorker),
      (s.noteIntraServers servers now).serverIdOf = s.serverIdOf := by
    intro servers
    induction servers with
    | nil =>
        intro s
        rfl
    | cons info servers ih =>
        intro s
        rw [noteIntraServers, List.foldl_cons]
        split
        · exact ih _
        · exact ih s
  unfold onServerRecoveryMinionServerReq claimSectors
  rw [if_pos haccepted]
  dsimp only
  obtain ⟨sectors, hclaim⟩ := exists_foldl_setOwner packet.serverInfo.serverId packet.sectors
    (noteIntraServers { s with recoveryingServerList :=
      s.recoveryingServerList.erase packet.serverInfo.serverId } packet.intraServers now)
  rw [hclaim]
  exact congrArg (Function.update · session packet.serverInfo.serverId) (hnoted _ _)

/-- What a close writes besides the owners of sectors. -/
theorem closed_serverIdOf {session : SessionId} {actions : List Action}
    (h : onSocketSessionClosed s session = some (s', actions)) : s'.serverIdOf = s.serverIdOf := by
  rcases closed_cases h with ⟨_, rfl, _⟩ | ⟨server, _, _, rfl, _⟩
  · rfl
  · obtain ⟨sectors, hreleased⟩ := s.exists_released (s.serverIdOf session) server
    rw [hreleased]

/-- The allocation of sectors writes the lists of sectors in the entries, nothing else. -/
theorem allocateSectors_entries (xs : List Nat) (s : SupervisorWorker)
    (allocated : List SectorAllocationInfo) :
    let s' := (s.allocateSectors xs allocated).1
    s'.serverIdOf = s.serverIdOf ∧
      ∀ k server', s'.managedServerList.find k = some server' →
        ∃ server, s.managedServerList.find k = some server ∧
          server'.session = server.session ∧ server'.serverInfo = server.serverInfo := by
  refine allocateSectors_induction (P := fun s' _ => s'.serverIdOf = s.serverIdOf ∧
    ∀ k server', s'.managedServerList.find k = some server' →
      ∃ server, s.managedServerList.find k = some server ∧
        server'.session = server.session ∧ server'.serverInfo = server.serverInfo) ?_ xs
    ⟨rfl, fun k server' h => ⟨server', h, rfl, rfl⟩⟩
  rintro s' _ id middle x ⟨hbound, hentries⟩ _ _ hmiddle _
  refine ⟨hbound, fun k server' h => ?_⟩
  rw [find_allocateSector] at h
  split at h
  next hk =>
    cases h
    exact hk ▸ hentries id middle hmiddle
  next => exact hentries k server' h

theorem update_entries (s : SupervisorWorker) (now : Milliseconds) :
    (s.update now).1.serverIdOf = s.serverIdOf ∧
      ∀ k server', (s.update now).1.managedServerList.find k = some server' →
        ∃ server, s.managedServerList.find k = some server ∧
          server'.session = server.session ∧ server'.serverInfo = server.serverInfo := by
  rcases s.update_eq now with hnone | hupdate
  · rw [hnone]
    exact ⟨rfl, fun k server' h => ⟨server', h, rfl, rfl⟩⟩
  · rw [hupdate]
    obtain ⟨hbound, hentries⟩ := allocateSectors_entries (s.afterExpiry now).1.sectorInfo.keys
      (s.afterExpiry now).1 []
    refine ⟨hbound.trans (s.serverIdOf_afterExpiry now), fun k server' h => ?_⟩
    rw [← s.managedServerList_afterExpiry now]
    exact hentries k server' h

/-! ## Sessions and their servers -/

/-- The session of a managed server carries its id. -/
def Bound (s : SupervisorWorker) : Prop :=
  ∀ ⦃k server⦄, s.managedServerList.find k = some server → s.serverIdOf server.session = k

/-- No managed server is reached over this session. -/
def Vacant (s : SupervisorWorker) (session : SessionId) : Prop :=
  ∀ ⦃k server⦄, s.managedServerList.find k = some server → server.session ≠ session

theorem Bound.vacant (h : s.Bound) (hs : s.Exclusive) {session : SessionId}
    (hsession : s.serverIdOf session = 0) : s.Vacant session := by
  rintro k server hserver rfl
  have hk := h hserver
  rw [hsession] at hk
  exact absurd hk (hs.key_pos hserver).ne

/-- A server entered over a session without one. -/
theorem Bound.enter (h : s.Bound) {session : SessionId} {n : Nat} {server : ManagedServerInfo}
    (hvacant : s.Vacant session) (hsession : server.session = session)
    (hids : s'.serverIdOf = Function.update s.serverIdOf session n)
    (hfind : ∀ k, s'.managedServerList.find k =
      if k = n then some server else s.managedServerList.find k) : s'.Bound := by
  intro k server' hk
  rw [hfind] at hk
  rw [hids]
  split at hk
  next hkn =>
    cases hk
    rw [hsession, Function.update_self, hkn]
  next => rw [Function.update_of_ne (hvacant hk), h hk]

end SupervisorWorker

open SupervisorWorker

variable {s s' : SupervisorWorker}

/-- What the engine and `OnSocketSessionData` see to: a session that is accepted is not in use, and a
recovery comes over a session without server. -/
def attended (s : SupervisorWorker) : Event → Prop
  | .accepted session => s.Vacant session
  | .recovery session _ _ => s.serverIdOf session = 0
  | _ => True

theorem bound_step {e : Event} (hex : s.Exclusive) (h : s.Bound) (hattended : attended s e)
    (hstep : Step s e s') : s'.Bound := by
  cases hstep with
  | accepted session =>
      intro k server hk
      have hne : server.session ≠ session := hattended hk
      exact (Function.update_of_ne hne _ _).trans (h hk)
  | register hregister =>
      rcases register_cases hregister with ⟨_, rfl, _⟩ | ⟨info, hzero, _, _, rfl, _⟩
      · exact h
      · exact h.enter (h.vacant hex hzero) rfl rfl fun k => UnorderedMap.find_insert _ _ _ _
  | recovery session packet now =>
      cases haccepted : s.recoveryAccepted packet with
      | false =>
          rw [recovery_eq_of_rejected s session packet now haccepted]
          exact h
      | true =>
          exact h.enter (h.vacant hex hattended) rfl
            (recovery_serverIdOf s session packet now haccepted)
            (recovery_spec_of_accepted s session packet now haccepted).2.2
  | @closed _ session _ hclosed =>
      intro k server hk
      rw [closed_serverIdOf hclosed]
      rcases closed_cases hclosed with ⟨_, rfl, _⟩ | ⟨_, _, _, rfl, _⟩
      · exact h hk
      · rw [find_released] at hk
        split at hk
        · cases hk
        · exact h hk
  | update now =>
      obtain ⟨hids, hentries⟩ := update_entries s now
      intro k server' hk
      obtain ⟨server, hserver, hsession, _⟩ := hentries k server' hk
      rw [hids, hsession]
      exact h hserver
  | reorder hequiv =>
      intro k server hk
      rw [← hequiv.serverIdOf]
      exact h ((hequiv.managedServerList k).trans hk)

theorem bound_of_reachable (hreach : (machine.restrict attended).Reachable s) : s.Bound := by
  have hinv : s.Exclusive ∧ s.Bound := by
    refine Machine.Reachable.invariant (M := machine.restrict attended)
      (P := fun s => s.Exclusive ∧ s.Bound) ?_ ?_ hreach
    · rintro s ⟨now, rfl⟩
      refine ⟨exclusive_new now, ?_⟩
      intro k server h
      cases h
    · rintro s e s' ⟨hex, hbound⟩ ⟨hattended, hstep⟩
      exact ⟨(exclusive_step hex hstep).1, bound_step hex hbound hattended hstep⟩
  exact hinv.2

/-! ## Broadcasts -/

theorem packetsTo_append (session : SessionId) (actions more : List Action) :
    packetsTo session (actions ++ more) = packetsTo session actions ++ packetsTo session more :=
  List.filterMap_append

theorem packetsTo_send_self (session : SessionId) (packets : List SupervisorPacket) :
    packetsTo session (packets.map (Action.send session)) = packets := by
  simp [packetsTo, List.filterMap_map]

theorem packetsTo_send_of_ne {session target : SessionId} (h : target ≠ session)
    (packets : List SupervisorPacket) :
    packetsTo session (packets.map (Action.send target)) = [] := by
  simp [packetsTo, List.filterMap_map, h]

/-- A broadcast reaches the session of a managed server once. -/
theorem packetsTo_broadcast (hbound : s.Bound) {k : Nat} {server : ManagedServerInfo}
    (hserver : s.managedServerList.find k = some server) (packets : List SupervisorPacket) :
    packetsTo server.session (s.broadcastPacket packets) = packets := by
  have hothers : ∀ a v, s.managedServerList.find a = some v → a ≠ k →
      packetsTo server.session (packets.map (Action.send v.session)) = [] := by
    intro a v hv hne
    refine packetsTo_send_of_ne (fun heq => hne ?_) packets
    rw [← hbound hv, heq, hbound hserver]
  calc
    packetsTo server.session (s.broadcastPacket packets)
        = s.managedServerList.values.flatMap
            (fun v => packetsTo server.session (packets.map (Action.send v.session))) := by
          simp only [packetsTo, broadcastPacket, managedServers, List.filterMap_flatMap]
    _ = packets := by
          rw [UnorderedMap.flatMap_values _ k _ hothers, hserver]
          exact packetsTo_send_self server.session packets

/-- A broadcast does not reach any other session. -/
theorem packetsTo_broadcast_of_vacant {session : SessionId} (hvacant : s.Vacant session)
    (packets : List SupervisorPacket) : packetsTo session (s.broadcastPacket packets) = [] := by
  simp only [packetsTo, broadcastPacket, managedServers, List.filterMap_flatMap,
    List.flatMap_eq_nil_iff]
  intro server hserver
  obtain ⟨k, hk⟩ := (UnorderedMap.mem_values _).1 hserver
  exact packetsTo_send_of_ne (hvacant hk) packets

theorem mem_of_mem_packetsTo_broadcast {session : SessionId} {packets : List SupervisorPacket}
    {packet : SupervisorPacket} (h : packet ∈ packetsTo session (s.broadcastPacket packets)) :
    packet ∈ packets := by
  obtain ⟨action, haction, hpacket⟩ := List.mem_filterMap.1 h
  obtain ⟨server, _, hsend⟩ := List.mem_flatMap.1 haction
  obtain ⟨packet', hmem, rfl⟩ := List.mem_map.1 hsend
  dsimp only at hpacket
  split at hpacket
  · cases hpacket
    exact hmem
  · cases hpacket

/-! ## The packets of an update -/

namespace SupervisorWorker

/-- The servers that an expiry announces as left. -/
def expired (s : SupervisorWorker) : List ServerInfo :=
  (s.recoveryingServerList.keys.filterMap fun id =>
    (s.recoveryingServerList.find id).map fun info => (id, info)).map Prod.snd

def expiryPackets (s : SupervisorWorker) (now : Milliseconds) : List SupervisorPacket :=
  if s.recoveryCountdown.elapsed now then [.updateIntraServerInfoPs [] s.expired] else []

def allocationPackets (s : SupervisorWorker) : List SupervisorPacket :=
  let result := s.allocateSectors s.sectorInfo.keys []
  if result.2.2 || result.2.1.isEmpty then [] else [.sectorAllocationPs result.2.1 []]

/-- What each managed server gets in an update. -/
def updatePackets (s : SupervisorWorker) (now : Milliseconds) : List SupervisorPacket :=
  if s.initialDelay.any (·.elapsed now) then
    s.expiryPackets now ++ (s.afterExpiry now).1.allocationPackets
  else
    []

theorem broadcastPacket_nil (s : SupervisorWorker) : s.broadcastPacket [] = [] := by
  simp [broadcastPacket]

/-- The packets of an update are broadcast, those about the allocation over the entries it has
written. -/
theorem update_actions (s : SupervisorWorker) (now : Milliseconds) :
    ∃ expiry allocation, s.updatePackets now = expiry ++ allocation ∧
      (s.update now).2 = s.broadcastPacket expiry ++ (s.update now).1.broadcastPacket allocation := by
  cases helapsed : s.initialDelay.any (·.elapsed now) with
  | false =>
      refine ⟨[], [], by simp [updatePackets, helapsed], ?_⟩
      rw [update_of_idle helapsed, broadcastPacket_nil]
      rfl
  | true =>
      refine ⟨s.expiryPackets now, (s.afterExpiry now).1.allocationPackets,
        by simp [updatePackets, helapsed], ?_⟩
      have hexpiry : (s.afterExpiry now).2 = s.broadcastPacket (s.expiryPackets now) := by
        unfold afterExpiry expiryPackets
        split
        · rfl
        · exact s.broadcastPacket_nil.symm
      have hallocation : (s.afterExpiry now).1.allocationActions =
          ((s.afterExpiry now).1.allocateSectors (s.afterExpiry now).1.sectorInfo.keys
            []).1.broadcastPacket (s.afterExpiry now).1.allocationPackets := by
        unfold allocationActions allocationPackets
        dsimp only
        split
        · exact (broadcastPacket_nil _).symm
        · rfl
      rw [update_of_elapsed helapsed, hexpiry, hallocation]

/-- An entry is still there after an update, with its session. -/
theorem exists_update_entry {k : Nat} {server : ManagedServerInfo}
    (h : s.managedServerList.find k = some server) (now : Milliseconds) :
    ∃ server', (s.update now).1.managedServerList.find k = some server' ∧
      server'.session = server.session := by
  have hmem : k ∈ (s.update now).1.managedIds := by
    rw [(update_ids s now).1]
    simp [managedIds, h]
  obtain ⟨server', hserver'⟩ := Option.isSome_iff_exists.1 hmem
  obtain ⟨server'', hserver'', hsession, _⟩ := (update_entries s now).2 k server' hserver'
  cases h.symm.trans hserver''
  exact ⟨server', hserver', hsession⟩

theorem packetsTo_update (hex : s.Exclusive) (hbound : s.Bound) {k : Nat}
    {server : ManagedServerInfo} (hserver : s.managedServerList.find k = some server)
    (now : Milliseconds) :
    packetsTo server.session (s.update now).2 = s.updatePackets now := by
  obtain ⟨expiry, allocation, hpackets, hactions⟩ := s.update_actions now
  have hbound' := bound_step (e := .update now) hex hbound trivial (Step.update s now)
  obtain ⟨server', hserver', hsession⟩ := exists_update_entry hserver now
  have hlast := packetsTo_broadcast hbound' hserver' allocation
  rw [hsession] at hlast
  rw [hpackets, hactions, packetsTo_append, packetsTo_broadcast hbound hserver, hlast]

theorem packetsTo_update_of_vacant {session : SessionId} (hvacant : s.Vacant session)
    (now : Milliseconds) : packetsTo session (s.update now).2 = [] := by
  obtain ⟨expiry, allocation, _, hactions⟩ := s.update_actions now
  have hvacant' : (s.update now).1.Vacant session := by
    intro k server' hserver'
    obtain ⟨server, hserver, hsession, _⟩ := (update_entries s now).2 k server' hserver'
    rw [hsession]
    exact hvacant hserver
  rw [hactions, packetsTo_append, packetsTo_broadcast_of_vacant hvacant,
    packetsTo_broadcast_of_vacant hvacant', List.append_nil]

end SupervisorWorker

/-! ## The answer to a recovery -/

/-- The server that recovers gets the broadcast about itself after its answer. -/
theorem packetsTo_recovery (hex : s.Exclusive) (hbound : s.Bound) {session : SessionId}
    (hsession : s.serverIdOf session = 0) (packet : RecoveryMinionServerRq) (now : Milliseconds)
    (haccepted : s.recoveryAccepted packet = true) :
    packetsTo session (onServerRecoveryMinionServerReq s session packet now).2 =
      [.recoveryMinionServerRs .None, .updateIntraServerInfoPs [packet.serverInfo] [],
       .sectorAllocationPs (packet.sectors.map (SectorAllocationInfo.mk packet.serverInfo)) []] := by
  have hbound' := bound_step (e := .recovery session packet now) hex hbound hsession
    (Step.recovery s session packet now)
  have hentered : (onServerRecoveryMinionServerReq s session packet now).1.managedServerList.find
      packet.serverInfo.serverId = some ⟨session, packet.serverInfo, []⟩ := by
    rw [(recovery_spec_of_accepted s session packet now haccepted).2.2, if_pos rfl]
  rw [recovery_actions s session packet now haccepted, packetsTo_append, packetsTo_send_self]
  exact congrArg _ (packetsTo_broadcast hbound' hentered _)

end Supervisor
end SeamlessServer
