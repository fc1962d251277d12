import Mathlib.Data.Set.Insert
import Mathlib.Order.CompletePartialOrder
import SeamlessServer.Game.Closing
import SeamlessServer.Supervisor.Ownership

/-!
# Supervisor.Recovery — managed, recovering and blocked servers

A server the supervisor knows is in one of three maps.  A recovery puts its sender among the managed
servers and every server its packet names, if it is not managed, among the recovering ones; a
countdown later those are blocked and announced as left.

The loop over `packet.intra_servers` runs before the sender is entered and does not leave anybody
out, so the supervisor itself, the sender and a blocked server are all taken for servers that have
yet to recover.  `bookkeeping_apart` says that nothing else brings the three maps into conflict.  A
minion server always names the supervisor (`names_supervisor`).
-/

namespace SeamlessServer
namespace Supervisor

open Protocol Utility Game

namespace SupervisorWorker

variable {s s' : SupervisorWorker}

def managedIds (s : SupervisorWorker) : Set Nat := {k | (s.managedServerList.find k).isSome}

def recoveringIds (s : SupervisorWorker) : Set Nat := {k | (s.recoveryingServerList.find k).isSome}

def blockedIds (s : SupervisorWorker) : Set Nat := {k | (s.blockedServerList.find k).isSome}

/-- No server is in two of the maps, and the supervisor is in none. -/
structure Apart (s : SupervisorWorker) : Prop where
  managed_recovering : Disjoint s.managedIds s.recoveringIds
  managed_blocked : Disjoint s.managedIds s.blockedIds
  recovering_blocked : Disjoint s.recoveringIds s.blockedIds
  supervisor : supervisorServerId ∉ s.managedIds ∪ s.recoveringIds ∪ s.blockedIds

/-- What the maps rely on: ids are handed out above the supervisor's, and a recovering server is
stored under its own id. -/
structure Booked (s : SupervisorWorker) : Prop where
  counter : supervisorServerId < s.currentServerId
  keyed : ∀ {k info}, s.recoveryingServerList.find k = some info → info.serverId = k

/-! ## The maps after an event -/

theorem SameOwnership.managedIds (h : SameOwnership s s') : s'.managedIds = s.managedIds := by
  ext k
  simp only [SupervisorWorker.managedIds, h.managed]

/-- The loop over `packet.intra_servers`. -/
theorem noteIntraServers_spec (servers : List ServerInfo) (now : Milliseconds) :
    ∀ s : SupervisorWorker,
      let s' := s.noteIntraServers servers now
      s'.managedServerList = s.managedServerList ∧ s'.blockedServerList = s.blockedServerList ∧
        s'.recoveringIds =
          s.recoveringIds ∪ {k | k ∈ servers.map ServerInfo.serverId ∧ k ∉ s.managedIds} ∧
        (s.Booked → s'.Booked) := by
  induction servers with
  | nil =>
      intro s
      refine ⟨rfl, rfl, ?_, id⟩
      ext k
      simp [noteIntraServers]
  | cons info servers ih =>
      intro s
      by_cases hmanaged : (s.managedServerList.find info.serverId).isNone
      -- a server that is not managed has yet to recover, and the countdown begins again
      · let s₁ : SupervisorWorker :=
          { s with
            recoveryingServerList := s.recoveryingServerList.insert info.serverId info
            recoveryCountdown := Countdown.start 30000 now }
        have hs₁ : s.noteIntraServers (info :: servers) now = s₁.noteIntraServers servers now := by
          rw [noteIntraServers, List.foldl_cons, if_pos hmanaged]
          rfl
        obtain ⟨hm, hb, hr, hbooked⟩ := ih s₁
        rw [hs₁]
        refine ⟨hm, hb, ?_, fun hs => hbooked ⟨hs.counter, ?_⟩⟩
        · rw [hr]
          ext k
          by_cases hk : k = info.serverId
          · simp [s₁, recoveringIds, managedIds, hk, Option.isNone_iff_eq_none.1 hmanaged]
          · simp [s₁, recoveringIds, managedIds, hk]
        · intro k info' hfind
          rw [UnorderedMap.find_insert] at hfind
          split at hfind
          next hk =>
            cases hfind
            exact hk.symm
          next => exact hs.keyed hfind
      -- a managed server is passed over
      · have hs₁ : s.noteIntraServers (info :: servers) now = s.noteIntraServers servers now := by
          rw [noteIntraServers, List.foldl_cons, if_neg hmanaged]
          rfl
        obtain ⟨hm, hb, hr, hbooked⟩ := ih s
        rw [hs₁]
        refine ⟨hm, hb, ?_, hbooked⟩
        rw [hr]
        ext k
        by_cases hk : k = info.serverId
        · have hk' : k ∈ s.managedIds := by
            simpa [managedIds, hk, Option.isSome_iff_ne_none] using hmanaged
          simp [hk']
        · simp [hk]

theorem recovery_ids (s : SupervisorWorker) (session : SessionId)
    (packet : RecoveryMinionServerRq) (now : Milliseconds)
    (haccepted : s.recoveryAccepted packet = true) :
    let s' := (onServerRecoveryMinionServerReq s session packet now).1
    s'.managedIds = insert packet.serverInfo.serverId s.managedIds ∧
      s'.blockedIds = s.blockedIds ∧
      s'.recoveringIds = s.recoveringIds \ {packet.serverInfo.serverId} ∪
        {k | k ∈ packet.intraServers.map ServerInfo.serverId ∧ k ∉ s.managedIds} ∧
      (s.Booked → s'.Booked) := by
  let erased : SupervisorWorker :=
    { s with
      recoveryingServerList := s.recoveryingServerList.erase packet.serverInfo.serverId }
  -- first the sender is no longer recovering, then come the servers it names and the sectors it
  -- claims
  obtain ⟨hm, hb, hr, hbooked⟩ := noteIntraServers_spec packet.intraServers now erased
  obtain ⟨sectors, hclaim⟩ := exists_foldl_setOwner packet.serverInfo.serverId packet.sectors
    (erased.noteIntraServers packet.intraServers now)
  have herased : erased.recoveringIds = s.recoveringIds \ {packet.serverInfo.serverId} := by
    ext k
    by_cases hk : k = packet.serverInfo.serverId <;> simp [erased, recoveringIds, hk]
  unfold onServerRecoveryMinionServerReq claimSectors
  rw [if_pos haccepted]
  dsimp only
  rw [hclaim]
  refine ⟨?_, ?_, ?_, fun hs => ?_⟩
  · ext k
    by_cases hk : k = packet.serverInfo.serverId <;> simp [managedIds, hm, hk, erased]
  · exact congrArg (fun m => {k | (UnorderedMap.find m k).isSome = true}) hb
  · rw [← herased]
    exact hr
  · have hbooked' := hbooked ⟨hs.counter, fun {k info} hfind => ?_⟩
    · exact ⟨hbooked'.counter, hbooked'.keyed⟩
    · rw [UnorderedMap.find_erase] at hfind
      split at hfind
      · cases hfind
      · exact hs.keyed hfind

/-- A registration hands out an id that none of the maps has. -/
theorem register_ids {session : SessionId} {packet : RegisterMinionServerRq}
    {now : Milliseconds} {actions : List Action}
    (h : onServerRegisterMinionServerReq s session packet now = some (s', actions)) :
    s' = s ∨ ∃ n, s.currentServerId ≤ n ∧ n ∉ s.managedIds ∪ s.recoveringIds ∪ s.blockedIds ∧
      s'.managedIds = insert n s.managedIds ∧ s'.recoveryingServerList = s.recoveryingServerList ∧
      s'.blockedServerList = s.blockedServerList ∧ s'.currentServerId = n + 1 := by
  rcases register_cases h with ⟨_, hs', _⟩ | ⟨info, _, hle, hfree, rfl, _⟩
  · exact .inl hs'
  · refine .inr ⟨info.serverId, hle, ?_, ?_, rfl, rfl, rfl⟩
    · simp only [serverIdTaken, Bool.or_eq_false_iff] at hfree
      simp [managedIds, recoveringIds, blockedIds, hfree]
    · ext k
      by_cases hk : k = info.serverId <;> simp [managedIds, entered, hk]

/-- A close takes the server of the session from the managed ones. -/
theorem closed_ids {session : SessionId} {actions : List Action}
    (h : onSocketSessionClosed s session = some (s', actions)) :
    s'.managedIds ⊆ s.managedIds ∧ s'.recoveryingServerList = s.recoveryingServerList ∧
      s'.blockedServerList = s.blockedServerList ∧ s'.currentServerId = s.currentServerId := by
  rcases closed_cases h with ⟨_, rfl, _⟩ | ⟨server, _, _, rfl, _⟩
  · exact ⟨subset_rfl, rfl, rfl, rfl⟩
  · obtain ⟨sectors, hreleased⟩ := s.exists_released (s.serverIdOf session) server
    refine ⟨fun k hk => ?_, by rw [hreleased], by rw [hreleased], by rw [hreleased]⟩
    have hk' : ((s.released (s.serverIdOf session) server).managedServerList.find k).isSome = true :=
      hk
    rw [find_released] at hk'
    split at hk'
    · cases hk'
    · exact hk'

/-- The allocation of sectors changes no key of any map. -/
theorem allocateSectors_ids (xs : List Nat) (s : SupervisorWorker)
    (allocated : List SectorAllocationInfo) :
    let s' := (s.allocateSectors xs allocated).1
    s'.managedIds = s.managedIds ∧ s'.recoveryingServerList = s.recoveryingServerList ∧
      s'.blockedServerList = s.blockedServerList ∧ s'.currentServerId = s.currentServerId := by
  refine allocateSectors_induction (P := fun s' _ => s'.managedIds = s.managedIds ∧
    s'.recoveryingServerList = s.recoveryingServerList ∧
    s'.blockedServerList = s.blockedServerList ∧ s'.currentServerId = s.currentServerId) ?_ xs
    ⟨rfl, rfl, rfl, rfl⟩
  rintro s' _ id server x ⟨hm, hr, hb, hc⟩ _ _ hserver _
  -- the entry that is written was there before
  have hkeys : (s'.allocateSector id server x).managedIds = s'.managedIds := by
    ext k
    by_cases hk : k = id <;>
      simp [managedIds, allocateSector, UnorderedMap.find_insert, hk, hserver]
  exact ⟨hkeys.trans hm, hr, hb, hc⟩

/-- The entries of the map of recovering servers that an expiry goes through. -/
theorem mem_expired (s : SupervisorWorker) {entry : Nat × ServerInfo} :
    entry ∈ s.recoveryingServerList.keys.filterMap (fun id =>
        (s.recoveryingServerList.find id).map fun info => (id, info)) ↔
      s.recoveryingServerList.find entry.1 = some entry.2 := by
  obtain ⟨k, info⟩ := entry
  rw [List.mem_filterMap]
  constructor
  · rintro ⟨id, _, hid⟩
    obtain ⟨info', hfind, heq⟩ := Option.map_eq_some_iff.1 hid
    cases heq
    exact hfind
  · intro hfind
    exact ⟨k, UnorderedMap.mem_keys_of_find _ hfind, by simp [hfind]⟩

theorem find_foldl_insert_isSome (entries : List (Nat × ServerInfo)) (k : Nat) :
    ∀ m : UnorderedMap Nat ServerInfo,
      ((entries.foldl (fun m entry => m.insert entry.1 entry.2) m).find k).isSome = true ↔
        (m.find k).isSome = true ∨ ∃ info, (k, info) ∈ entries := by
  induction entries with
  | nil =>
      intro m
      simp
  | cons entry entries ih =>
      intro m
      rw [List.foldl_cons, ih]
      by_cases hk : k = entry.1
      · have hentry : (k, entry.2) ∈ entry :: entries := by
          rw [hk]
          exact List.mem_cons_self
        simp only [hk, UnorderedMap.find_insert_self, Option.isSome_some, true_or, true_iff]
        rw [← hk]
        exact .inr ⟨entry.2, hentry⟩
      · have hne : ∀ info, (k, info) ≠ entry := fun info h => hk (congrArg Prod.fst h)
        simp [hk, hne]

theorem blockedIds_expireRecovery (s : SupervisorWorker) (now : Milliseconds) :
    (s.expireRecovery now).1.blockedIds = s.blockedIds ∪ s.recoveringIds := by
  ext k
  unfold expireRecovery
  refine (find_foldl_insert_isSome _ k s.blockedServerList).trans ?_
  refine or_congr .rfl ?_
  simp only [mem_expired]
  exact Option.isSome_iff_exists.symm

/-- Where the maps stand after `Update`. -/
theorem update_ids (s : SupervisorWorker) (now : Milliseconds) :
    let s' := (s.update now).1
    s'.managedIds = s.managedIds ∧ s'.currentServerId = s.currentServerId ∧
      ((s'.recoveryingServerList = s.recoveryingServerList ∧
          s'.blockedServerList = s.blockedServerList) ∨
        (s'.recoveryingServerList = UnorderedMap.empty ∧
          s'.blockedIds = s.blockedIds ∪ s.recoveringIds)) := by
  intro s'
  have hs' : s' = (s.update now).1 := rfl
  rcases s.update_eq now with hnone | hupdate
  · rw [hnone] at hs'
    rw [hs']
    exact ⟨rfl, rfl, .inl ⟨rfl, rfl⟩⟩
  · rw [hupdate] at hs'
    obtain ⟨hm, hr, hb, hc⟩ := allocateSectors_ids (s.afterExpiry now).1.sectorInfo.keys
      (s.afterExpiry now).1 []
    rw [← hs'] at hm hr hb hc
    by_cases hexpired : s.recoveryCountdown.elapsed now
    · have hafter : s.afterExpiry now = s.expireRecovery now := if_pos hexpired
      rw [hafter] at hm hr hb hc
      refine ⟨hm, hc, .inr ⟨hr, ?_⟩⟩
      rw [← blockedIds_expireRecovery s now]
      exact congrArg (fun m => {k | (UnorderedMap.find m k).isSome = true}) hb
    · have hafter : s.afterExpiry now = (s, []) := if_neg hexpired
      rw [hafter] at hm hr hb hc
      exact ⟨hm, hc, .inl ⟨hr, hb⟩⟩

/-- `Update` announces as left only servers that were recovering. -/
theorem leaved_of_update {now : Milliseconds} {session : SessionId} {joined leaved : List ServerInfo}
    (h : Action.send session (.updateIntraServerInfoPs joined leaved) ∈ (s.update now).2)
    {info : ServerInfo} (hinfo : info ∈ leaved) :
    ∃ k, s.recoveryingServerList.find k = some info := by
  rcases s.update_eq now with hnone | hupdate
  · rw [hnone] at h
    exact absurd h List.not_mem_nil
  · rw [hupdate, List.mem_append] at h
    rcases h with hexpiry | hallocation
    · by_cases hexpired : s.recoveryCountdown.elapsed now
      · have hafter : s.afterExpiry now = s.expireRecovery now := if_pos hexpired
        rw [hafter] at hexpiry
        obtain ⟨server, _, hsend⟩ := List.mem_flatMap.1 hexpiry
        cases List.mem_singleton.1 hsend
        obtain ⟨entry, hentry, rfl⟩ := List.mem_map.1 hinfo
        exact ⟨entry.1, (s.mem_expired).1 hentry⟩
      · have hafter : s.afterExpiry now = (s, []) := if_neg hexpired
        rw [hafter] at hexpiry
        exact absurd hexpiry List.not_mem_nil
    · -- the packet about the allocation announces no server
      unfold allocationActions at hallocation
      dsimp only at hallocation
      split at hallocation
      · exact absurd hallocation List.not_mem_nil
      · obtain ⟨server, _, hsend⟩ := List.mem_flatMap.1 hallocation
        cases List.mem_singleton.1 hsend

end SupervisorWorker

open SupervisorWorker

variable {s s' : SupervisorWorker}

/-! ## The condition -/

/-- A recovery that is accepted names neither the supervisor nor its sender nor a blocked server. -/
def namesNoLiveServer (s : SupervisorWorker) : Event → Prop
  | .recovery _ packet _ => s.recoveryAccepted packet = true →
      ∀ k ∈ packet.intraServers.map ServerInfo.serverId,
        k ≠ supervisorServerId ∧ k ≠ packet.serverInfo.serverId ∧ k ∉ s.blockedIds
  | _ => True

theorem apart_new (now : Milliseconds) : (SupervisorWorker.new now).Apart := by
  constructor <;>
    simp [managedIds, recoveringIds, blockedIds, SupervisorWorker.new]

theorem booked_new (now : Milliseconds) : (SupervisorWorker.new now).Booked :=
  ⟨Nat.lt_succ_self _, fun h => by cases h⟩

/-- The same keys, or fewer managed servers. -/
theorem SupervisorWorker.Apart.of_subset (h : s.Apart) (hm : s'.managedIds ⊆ s.managedIds)
    (hr : s'.recoveringIds = s.recoveringIds) (hb : s'.blockedIds = s.blockedIds) : s'.Apart where
  managed_recovering := by
    rw [hr]
    exact h.managed_recovering.mono_left hm
  managed_blocked := by
    rw [hb]
    exact h.managed_blocked.mono_left hm
  recovering_blocked := by
    rw [hr, hb]
    exact h.recovering_blocked
  supervisor := by
    rw [hr, hb]
    rintro ((hk | hk) | hk)
    · exact h.supervisor (.inl (.inl (hm hk)))
    · exact h.supervisor (.inl (.inr hk))
    · exact h.supervisor (.inr hk)

/-- A new server that none of the maps has. -/
theorem SupervisorWorker.Apart.insert {n : Nat} (h : s.Apart)
    (hn : n ∉ s.managedIds ∪ s.recoveringIds ∪ s.blockedIds) (hone : n ≠ supervisorServerId)
    (hm : s'.managedIds = Insert.insert n s.managedIds) (hr : s'.recoveringIds = s.recoveringIds)
    (hb : s'.blockedIds = s.blockedIds) : s'.Apart where
  managed_recovering := by
    rw [hm, hr, Set.disjoint_insert_left]
    exact ⟨fun hk => hn (.inl (.inr hk)), h.managed_recovering⟩
  managed_blocked := by
    rw [hm, hb, Set.disjoint_insert_left]
    exact ⟨fun hk => hn (.inr hk), h.managed_blocked⟩
  recovering_blocked := by
    rw [hr, hb]
    exact h.recovering_blocked
  supervisor := by
    rw [hm, hr, hb]
    rintro (((hk | hk) | hk) | hk)
    · exact hone hk.symm
    · exact h.supervisor (.inl (.inl hk))
    · exact h.supervisor (.inl (.inr hk))
    · exact h.supervisor (.inr hk)

/-- The recovering servers become blocked. -/
theorem SupervisorWorker.Apart.expire (h : s.Apart) (hm : s'.managedIds = s.managedIds)
    (hr : s'.recoveringIds = ∅) (hb : s'.blockedIds = s.blockedIds ∪ s.recoveringIds) :
    s'.Apart where
  managed_recovering := by
    rw [hr]
    exact Set.disjoint_empty _
  managed_blocked := by
    rw [hm, hb, Set.disjoint_union_right]
    exact ⟨h.managed_blocked, h.managed_recovering⟩
  recovering_blocked := by
    rw [hr]
    exact Set.empty_disjoint _
  supervisor := by
    rw [hm, hr, hb]
    rintro ((hk | hk) | (hk | hk))
    · exact h.supervisor (.inl (.inl hk))
    · exact hk
    · exact h.supervisor (.inr hk)
    · exact h.supervisor (.inl (.inr hk))

/-- An accepted recovery keeps the maps apart exactly if it meets the condition. -/
theorem apart_recovery_iff {session : SessionId} {packet : RecoveryMinionServerRq}
    {now : Milliseconds} (h : s.Apart) (haccepted : s.recoveryAccepted packet = true) :
    (onServerRecoveryMinionServerReq s session packet now).1.Apart ↔
      ∀ k ∈ packet.intraServers.map ServerInfo.serverId,
        k ≠ supervisorServerId ∧ k ≠ packet.serverInfo.serverId ∧ k ∉ s.blockedIds := by
  obtain ⟨hm, hb, hr, _⟩ := recovery_ids s session packet now haccepted
  have hfree : packet.serverInfo.serverId ∉ s.managedIds := by
    have hnone := (of_recoveryAccepted haccepted).2.1
    simp [managedIds, hnone]
  have hunblocked : packet.serverInfo.serverId ∉ s.blockedIds := by
    simp only [recoveryAccepted, Bool.and_eq_true] at haccepted
    simp [blockedIds, Option.isNone_iff_eq_none.1 haccepted.2]
  have hone : supervisorServerId ≠ packet.serverInfo.serverId :=
    (of_recoveryAccepted haccepted).1.ne
  have hsupervisor := h.supervisor
  simp only [Set.mem_union, not_or] at hsupervisor
  constructor
  · intro happart k hk
    -- a named server that is not managed is recovering afterwards
    have hnamed : k ∉ s.managedIds →
        k ∈ (onServerRecoveryMinionServerReq s session packet now).1.recoveringIds := by
      intro hnot
      rw [hr]
      exact .inr ⟨hk, hnot⟩
    refine ⟨?_, ?_, fun hblocked => ?_⟩
    · rintro rfl
      exact happart.supervisor (.inl (.inr (hnamed hsupervisor.1.1)))
    · rintro rfl
      refine Set.disjoint_left.1 happart.managed_recovering ?_ (hnamed hfree)
      rw [hm]
      exact Set.mem_insert _ _
    · have hnot : k ∉ s.managedIds := fun hmanaged =>
        Set.disjoint_left.1 h.managed_blocked hmanaged hblocked
      refine Set.disjoint_left.1 happart.recovering_blocked (hnamed hnot) ?_
      rw [hb]
      exact hblocked
  · intro hcond
    -- what recovers afterwards recovered before or is named, and is not the sender
    have hrecovering : ∀ k ∈ (onServerRecoveryMinionServerReq s session packet now).1.recoveringIds,
        k ≠ packet.serverInfo.serverId ∧ k ∉ s.managedIds ∧ k ∉ s.blockedIds ∧
          k ≠ supervisorServerId := by
      intro k hk
      rw [hr] at hk
      rcases hk with ⟨hk, hne⟩ | ⟨hk, hnot⟩
      · refine ⟨hne, Set.disjoint_right.1 h.managed_recovering hk,
          Set.disjoint_left.1 h.recovering_blocked hk, ?_⟩
        rintro rfl
        exact hsupervisor.1.2 hk
      · exact ⟨(hcond k hk).2.1, hnot, (hcond k hk).2.2, (hcond k hk).1⟩
    refine ⟨?_, ?_, ?_, ?_⟩
    · rw [hm, Set.disjoint_right]
      rintro k hk (rfl | hmanaged)
      · exact (hrecovering _ hk).1 rfl
      · exact (hrecovering k hk).2.1 hmanaged
    · rw [hm, hb, Set.disjoint_insert_left]
      exact ⟨hunblocked, h.managed_blocked⟩
    · rw [hb, Set.disjoint_left]
      exact fun k hk => (hrecovering k hk).2.2.1
    · rintro ((hk | hk) | hk)
      · rw [hm] at hk
        exact hk.elim hone hsupervisor.1.1
      · exact (hrecovering _ hk).2.2.2 rfl
      · rw [hb] at hk
        exact hsupervisor.2 hk

theorem booked_step {e : Event} (h : s.Booked) (hstep : Step s e s') : s'.Booked := by
  cases hstep with
  | accepted session =>
      exact ⟨h.counter, h.keyed⟩
  | register hregister =>
      rcases register_ids hregister with rfl | ⟨n, hle, _, _, hr, _, hc⟩
      · exact h
      · refine ⟨?_, by rw [hr]; exact h.keyed⟩
        rw [hc]
        exact h.counter.trans_le (hle.trans (Nat.le_succ n))
  | recovery session packet now =>
      cases haccepted : s.recoveryAccepted packet with
      | false =>
          rw [recovery_eq_of_rejected s session packet now haccepted]
          exact h
      | true =>
          exact (recovery_ids s session packet now haccepted).2.2.2 h
  | closed hclosed =>
      obtain ⟨_, hr, _, hc⟩ := closed_ids hclosed
      exact ⟨by rw [hc]; exact h.counter, by rw [hr]; exact h.keyed⟩
  | update now =>
      obtain ⟨_, hc, ⟨hr, _⟩ | ⟨hr, _⟩⟩ := update_ids s now
      · exact ⟨by rw [hc]; exact h.counter, by rw [hr]; exact h.keyed⟩
      · refine ⟨by rw [hc]; exact h.counter, ?_⟩
        rw [hr]
        intro k info hfind
        cases hfind
  | reorder hequiv =>
      refine ⟨hequiv.currentServerId ▸ h.counter, fun {k info} hfind => h.keyed ?_⟩
      exact (hequiv.recoveryingServerList k).trans hfind

/-- The supervisor does not manage itself. -/
theorem unmanaged_step {e : Event} (hbooked : s.Booked) (h : supervisorServerId ∉ s.managedIds)
    (hstep : Step s e s') : supervisorServerId ∉ s'.managedIds := by
  cases hstep with
  | accepted session =>
      exact h
  | register hregister =>
      rcases register_ids hregister with rfl | ⟨n, hle, _, hm, _⟩
      · exact h
      · rw [hm]
        rintro (hone | hold)
        · exact (hbooked.counter.trans_le hle).ne hone
        · exact h hold
  | recovery session packet now =>
      cases haccepted : s.recoveryAccepted packet with
      | false =>
          rw [recovery_eq_of_rejected s session packet now haccepted]
          exact h
      | true =>
          rw [(recovery_ids s session packet now haccepted).1]
          rintro (hone | hold)
          · exact (of_recoveryAccepted haccepted).1.ne hone
          · exact h hold
  | closed hclosed =>
      exact fun hone => h ((closed_ids hclosed).1 hone)
  | update now =>
      rw [(update_ids s now).1]
      exact h
  | reorder hequiv =>
      rw [hequiv.sameOwnership.managedIds]
      exact h

/-- From a state with the maps apart, a step keeps them apart exactly if it meets the condition. -/
theorem apart_step_iff {e : Event} (hbooked : s.Booked) (h : s.Apart) (hstep : Step s e s') :
    s'.Apart ↔ namesNoLiveServer s e := by
  cases hstep with
  | accepted session =>
      exact iff_of_true (h.of_subset subset_rfl rfl rfl) trivial
  | register hregister =>
      refine iff_of_true ?_ trivial
      rcases register_ids hregister with rfl | ⟨n, hle, hn, hm, hr, hb, _⟩
      · exact h
      -- the counter is beyond the id of the supervisor
      · have hone : n ≠ supervisorServerId := (hbooked.counter.trans_le hle).ne'
        refine h.insert hn hone hm ?_ ?_
        · rw [recoveringIds, hr, recoveringIds]
        · rw [blockedIds, hb, blockedIds]
  | recovery session packet now =>
      -- only this step can bring the maps into conflict
      cases haccepted : s.recoveryAccepted packet with
      | false =>
          rw [recovery_eq_of_rejected s session packet now haccepted]
          exact iff_of_true h (by simp [namesNoLiveServer, haccepted])
      | true =>
          rw [apart_recovery_iff h haccepted]
          simp only [namesNoLiveServer, haccepted, true_implies]
  | closed hclosed =>
      refine iff_of_true ?_ trivial
      obtain ⟨hm, hr, hb, _⟩ := closed_ids hclosed
      refine h.of_subset hm ?_ ?_
      · rw [recoveringIds, hr, recoveringIds]
      · rw [blockedIds, hb, blockedIds]
  | update now =>
      refine iff_of_true ?_ trivial
      obtain ⟨hm, _, ⟨hr, hb⟩ | ⟨hr, hb⟩⟩ := update_ids s now
      · refine h.of_subset hm.subset ?_ ?_
        · rw [recoveringIds, hr, recoveringIds]
        · rw [blockedIds, hb, blockedIds]
      -- the countdown is over: who has not recovered is blocked now
      · refine h.expire hm ?_ hb
        rw [recoveringIds, hr]
        simp
  | reorder hequiv =>
      refine iff_of_true (h.of_subset ?_ ?_ ?_) trivial
      · intro k hk
        have hsame := hequiv.managedServerList k
        simpa [managedIds, hsame] using hk
      · ext k
        have hsame := hequiv.recoveryingServerList k
        simp [recoveringIds, hsame]
      · ext k
        have hsame := hequiv.blockedServerList k
        simp [blockedIds, hsame]

/-- In every run whose accepted recoveries name neither the supervisor nor their sender nor a blocked
server, the three maps are apart and an expiry condemns no live server.  The condition is exact: after
such a run, the next step keeps the maps apart if and only if it meets it. -/
theorem bookkeeping_apart (hreach : (machine.restrict namesNoLiveServer).Reachable s) :
    s.Apart ∧
      (∀ now session joined leaved,
        Action.send session (.updateIntraServerInfoPs joined leaved) ∈ (s.update now).2 →
          ∀ info ∈ leaved, info.serverId ≠ supervisorServerId ∧ info.serverId ∉ s.managedIds) ∧
      ∀ e s', machine.step s e s' → (s'.Apart ↔ namesNoLiveServer s e) := by
  have hinv : s.Booked ∧ s.Apart := by
    refine Machine.Reachable.invariant (M := machine.restrict namesNoLiveServer)
      (P := fun s => s.Booked ∧ s.Apart) ?_ ?_ hreach
    · rintro s ⟨now, rfl⟩
      exact ⟨booked_new now, apart_new now⟩
    · rintro s e s' ⟨hbooked, happart⟩ ⟨hcond, hstep⟩
      exact ⟨booked_step hbooked hstep, (apart_step_iff hbooked happart hstep).2 hcond⟩
  obtain ⟨hbooked, happart⟩ := hinv
  refine ⟨happart, ?_, fun e s' hstep => apart_step_iff hbooked happart hstep⟩
  intro now session joined leaved hsend info hinfo
  -- an announced server was recovering under its own id
  obtain ⟨k, hfind⟩ := leaved_of_update hsend hinfo
  have hk := hbooked.keyed hfind
  have hrecovering : info.serverId ∈ s.recoveringIds := by
    simp [recoveringIds, hk, hfind]
  refine ⟨fun hone => ?_, Set.disjoint_right.1 happart.managed_recovering hrecovering⟩
  rw [hone] at hrecovering
  exact happart.supervisor (.inl (.inr hrecovering))

/-- Server 7 recovers and knows of server 9. -/
theorem bookkeeping_apart_nine :
    let packet : RecoveryMinionServerRq :=
      ⟨⟨.Play, 7, ⟨"127.0.0.1", 5000⟩⟩, [], [⟨.Play, 9, ⟨"127.0.0.1", 5001⟩⟩]⟩
    let s := (onServerRecoveryMinionServerReq (SupervisorWorker.new 0) 1 packet 0).1
    (machine.restrict namesNoLiveServer).Reachable s ∧ 9 ∈ s.recoveringIds ∧ s.Apart := by
  intro packet s
  have hreach : (machine.restrict namesNoLiveServer).Reachable s := by
    refine .step (.init ⟨0, rfl⟩) ⟨?_, Step.recovery (SupervisorWorker.new 0) 1 packet 0⟩
    intro _ k hk
    cases List.mem_singleton.1 hk
    exact ⟨by decide, by decide, by simp [blockedIds, SupervisorWorker.new]⟩
  exact ⟨hreach, rfl, (bookkeeping_apart hreach).1⟩

/-! ## The packet of a minion server -/

/-- A minion server enters the supervisor among its servers before it asks for its recovery, and
names all of them. -/
theorem names_supervisor {g : GameServer} (hkeyed : g.Keyed) {session session' attachment : Nat}
    {packet : RecoveryMinionServerRq}
    (hsend : MinionAction.send session' (.recoveryMinionServerRq packet) ∈
      (g.onSocketSessionConnected session attachment).2) :
    supervisorServerId ∈ packet.intraServers.map ServerInfo.serverId := by
  rcases g.onSocketSessionConnected_actions session attachment with
    ⟨_, hactions⟩ | ⟨server, _, _, hactions⟩ | ⟨server, hserver, htype, hactions⟩
  · rw [hactions] at hsend
    cases List.mem_singleton.1 hsend
  · rw [hactions] at hsend
    cases List.mem_singleton.1 hsend
  · rw [hactions, List.mem_singleton, MinionAction.send.injEq] at hsend
    have hpacket := hsend.2
    split at hpacket
    · cases hpacket
      -- the supervisor has just been entered
      have hentered := UnorderedMap.find_insert_self g.serverSessions supervisorServerId
        { g.supervisorServerInfo with session := some (.socket session) }
      have hvalue := (UnorderedMap.mem_values _).2 ⟨supervisorServerId, hentered⟩
      have hservers : (g.onSocketSessionConnected session attachment).1.serverSessions =
          g.serverSessions.insert supervisorServerId
            { g.supervisorServerInfo with session := some (.socket session) } := by
        unfold GameServer.onSocketSessionConnected
        rw [hserver]
        simp only [htype, if_true]
        rfl
      rw [← hservers] at hvalue
      exact List.mem_map.2 ⟨_, List.mem_map.2 ⟨_, hvalue, rfl⟩, hkeyed.supervisor⟩
    · cases hpacket

namespace Sample

open Game.GameServer.Sample

/-- The play server that registered first, as `oneServer` has it. -/
def onlyMinion : GameServer :=
  ((GameServer.initialized playConfig).onSocketSessionConnected 0
    supervisorServerId).1.registerMinionServerRs ⟨.Play, 2, ⟨"127.0.0.1", 5000⟩⟩

theorem reachable_onlyMinion : (minion playConfig).Reachable onlyMinion := by
  have hconnected : (minion playConfig).Reachable
      ((GameServer.initialized playConfig).onSocketSessionConnected 0 supervisorServerId).1 :=
    .step (.init rfl) (MinionStep.connected _ 0 supervisorServerId)
  exact .step hconnected
    (MinionStep.supervisorPacket _ 0 (.registerMinionServerRs _) (by decide +kernel))

/-- What it sends when it connects again. -/
def recoveryRq : RecoveryMinionServerRq :=
  (onlyMinion.onSocketSessionConnected 1 supervisorServerId).1.recoveryPacket

def disconnected : SupervisorWorker :=
  ((onSocketSessionClosed oneServer 1).map Prod.fst).getD oneServer

/-- The play server has come back over session 2. -/
def returned : SupervisorWorker :=
  (onServerRecoveryMinionServerReq disconnected 2 recoveryRq 3000).1

theorem reachable_returned : machine.Reachable returned := by
  have hone : machine.Reachable oneServer := .step (.init ⟨0, rfl⟩) step_oneServer
  have hclosed : Step oneServer (.closed 1) disconnected := Step.closed rfl
  have hdisconnected : machine.Reachable disconnected := .step hone hclosed
  exact .step hdisconnected (Step.recovery _ 2 recoveryRq 3000)

end Sample

/-- The only minion server loses its connection and recovers: the supervisor takes itself for a
recovering server, and announces itself as left when the countdown is over. -/
theorem supervisor_condemns_itself :
    (minion GameServer.Sample.playConfig).Reachable Sample.onlyMinion ∧
      (Sample.onlyMinion.onSocketSessionConnected 1 supervisorServerId).2 =
        [.send 1 (.recoveryMinionServerRq Sample.recoveryRq)] ∧
      machine.Reachable Sample.returned ∧ supervisorServerId ∈ Sample.returned.recoveringIds ∧
      ¬ Sample.returned.Apart ∧
      Action.send 2 (.updateIntraServerInfoPs []
        [⟨.Supervisor, supervisorServerId, ⟨"127.0.0.1", 10001⟩⟩]) ∈
          (Sample.returned.update 33001).2 := by
  have hmember : supervisorServerId ∈ Sample.returned.recoveringIds := by
    have hsome : (Sample.returned.recoveryingServerList.find supervisorServerId).isSome = true := by
      decide +kernel
    exact hsome
  refine ⟨Sample.reachable_onlyMinion, by decide +kernel, Sample.reachable_returned, hmember,
    fun h => h.supervisor (.inl (.inr hmember)), by decide +kernel⟩

end Supervisor
end SeamlessServer
