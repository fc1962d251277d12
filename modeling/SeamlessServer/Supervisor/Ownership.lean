import SeamlessServer.Supervisor.Worker

/-!
# Supervisor.Ownership — who owns a sector

The two records of sector ownership, over every run of the supervisor.

* `Exclusive` relates them in one direction: a sector listed by a server is owned by that server.
  It is an invariant of every run (`sectors_exclusively_allocated`).
* `NoOrphan` is the other direction: an owned sector is listed by its owner.  Recovery sets the
  owner of the sectors it accepts and does not list them, so this direction survives exactly as
  long as no accepted recovery claims a sector (`no_orphaned_sector`).
-/

namespace SeamlessServer
namespace Supervisor

open Protocol Utility Game

namespace SupervisorWorker

variable {s s' : SupervisorWorker}

/-! ## The two directions of the ownership record -/

/-- Managed servers are stored under their own nonzero id, and a listed sector is owned by the
server that lists it. -/
structure Exclusive (s : SupervisorWorker) : Prop where
  counter_pos : 0 < s.currentServerId
  keyed : ∀ {k m}, s.managedServerList.find k = some m → m.serverInfo.serverId = k
  key_pos : ∀ {k m}, s.managedServerList.find k = some m → 0 < k
  owned : ∀ {k m x}, s.managedServerList.find k = some m → x ∈ m.sectorList → s.ownerOf x = k

/-- An owned sector is listed by its owner. -/
def NoOrphan (s : SupervisorWorker) : Prop :=
  ∀ x, s.ownerOf x ≠ 0 →
    ∃ m, s.managedServerList.find (s.ownerOf x) = some m ∧ x ∈ m.sectorList

/-- No sector passes from one owner directly to another. -/
def OwnerStable (s s' : SupervisorWorker) : Prop :=
  ∀ x, s.ownerOf x ≠ 0 → s'.ownerOf x ≠ 0 → s'.ownerOf x = s.ownerOf x

/-! ## Frame: states with the same sectors, servers and counter -/

/-- Agreement on the ownership record. -/
structure SameOwnership (s s' : SupervisorWorker) : Prop where
  counter : s'.currentServerId = s.currentServerId
  owner : ∀ x, s'.ownerOf x = s.ownerOf x
  managed : ∀ k, s'.managedServerList.find k = s.managedServerList.find k

theorem SameOwnership.refl (s : SupervisorWorker) : SameOwnership s s :=
  ⟨rfl, fun _ => rfl, fun _ => rfl⟩

theorem SameOwnership.trans {s₁ s₂ s₃ : SupervisorWorker} (h : SameOwnership s₁ s₂)
    (h' : SameOwnership s₂ s₃) : SameOwnership s₁ s₃ :=
  ⟨h'.counter.trans h.counter, fun x => (h'.owner x).trans (h.owner x),
    fun k => (h'.managed k).trans (h.managed k)⟩

theorem SameOwnership.exclusive (h : SameOwnership s s') (hs : s.Exclusive) : s'.Exclusive where
  counter_pos := by
    rw [h.counter]
    exact hs.counter_pos
  keyed := by
    intro k m hk
    exact hs.keyed ((h.managed k).symm.trans hk)
  key_pos := by
    intro k m hk
    exact hs.key_pos ((h.managed k).symm.trans hk)
  owned := by
    intro k m x hk hx
    exact (h.owner x).trans (hs.owned ((h.managed k).symm.trans hk) hx)

theorem SameOwnership.noOrphan (h : SameOwnership s s') : s'.NoOrphan ↔ s.NoOrphan := by
  simp only [NoOrphan, h.owner, h.managed]

theorem SameOwnership.ownerStable (h : SameOwnership s s') : OwnerStable s s' := by
  intro x _ _
  exact h.owner x

theorem Equiv.sameOwnership (h : s.Equiv s') : SameOwnership s s' where
  counter := h.currentServerId.symm
  owner := by
    intro x
    simp [ownerOf, h.sectorInfo x]
  managed := fun k => (h.managedServerList k).symm

/-! ## Effect of the primitive writes -/

theorem ownerOf_setOwner (s : SupervisorWorker) (x k y : Nat) :
    (s.setOwner x k).ownerOf y = if y = x then k else s.ownerOf y := by
  by_cases h : y = x <;> simp [setOwner, ownerOf, h]

@[simp] theorem managedServerList_setOwner (s : SupervisorWorker) (x k : Nat) :
    (s.setOwner x k).managedServerList = s.managedServerList := rfl

@[simp] theorem currentServerId_setOwner (s : SupervisorWorker) (x k : Nat) :
    (s.setOwner x k).currentServerId = s.currentServerId := rfl

/-- Writing one owner to a list of sectors; both the claim of a recovery and the release of a
close are this loop. -/
theorem ownerOf_foldl_setOwner (k : Nat) (xs : List Nat) :
    ∀ (s : SupervisorWorker) (y : Nat),
      (xs.foldl (fun s x => s.setOwner x k) s).ownerOf y = if y ∈ xs then k else s.ownerOf y := by
  induction xs with
  | nil =>
      intro s y
      simp
  | cons x xs ih =>
      intro s y
      rw [List.foldl_cons, ih, ownerOf_setOwner]
      by_cases hx : y = x <;> by_cases hxs : y ∈ xs <;> simp [hx, hxs]

theorem managedServerList_foldl_setOwner (k : Nat) (xs : List Nat) :
    ∀ s : SupervisorWorker,
      (xs.foldl (fun s x => s.setOwner x k) s).managedServerList = s.managedServerList := by
  induction xs with
  | nil =>
      intro s
      rfl
  | cons x xs ih =>
      intro s
      rw [List.foldl_cons, ih, managedServerList_setOwner]

theorem currentServerId_foldl_setOwner (k : Nat) (xs : List Nat) :
    ∀ s : SupervisorWorker,
      (xs.foldl (fun s x => s.setOwner x k) s).currentServerId = s.currentServerId := by
  induction xs with
  | nil =>
      intro s
      rfl
  | cons x xs ih =>
      intro s
      rw [List.foldl_cons, ih, currentServerId_setOwner]

theorem sameOwnership_noteIntraServers (servers : List ServerInfo) (now : Milliseconds) :
    ∀ s : SupervisorWorker, SameOwnership s (s.noteIntraServers servers now) := by
  induction servers with
  | nil =>
      intro s
      exact SameOwnership.refl s
  | cons info servers ih =>
      intro s
      simp only [noteIntraServers, List.foldl_cons]
      by_cases h : (s.managedServerList.find info.serverId).isNone
      · simp only [h, if_true]
        have hnote : SameOwnership s
            { s with
              recoveryingServerList := s.recoveryingServerList.insert info.serverId info
              recoveryCountdown := Countdown.start 30000 now } :=
          ⟨rfl, fun _ => rfl, fun _ => rfl⟩
        exact hnote.trans (ih _)
      · simp only [h]
        exact ih s

/-! ## Server ids -/

theorem nextServerIdFrom_sound (s : SupervisorWorker) :
    ∀ (rounds id : Nat) {n : Nat}, s.nextServerIdFrom rounds id = some n →
      id ≤ n ∧ s.serverIdTaken n = false := by
  intro rounds
  induction rounds with
  | zero =>
      intro id n h
      simp [nextServerIdFrom] at h
  | succ rounds ih =>
      intro id n h
      by_cases htaken : s.serverIdTaken id
      · have h' : s.nextServerIdFrom rounds (id + 1) = some n := by
          simpa [nextServerIdFrom, htaken] using h
        have hn := ih (id + 1) h'
        exact ⟨by omega, hn.2⟩
      · have h' : id = n := by
          simpa [nextServerIdFrom, htaken] using h
        subst h'
        exact ⟨le_refl _, by simpa using htaken⟩

/-- A search that fails has found every id of its range taken. -/
theorem taken_of_nextServerIdFrom_eq_none (s : SupervisorWorker) :
    ∀ (rounds id : Nat), s.nextServerIdFrom rounds id = none →
      ∀ n ∈ List.range' id rounds, s.serverIdTaken n = true := by
  intro rounds
  induction rounds with
  | zero =>
      intro id _ n hn
      simp at hn
  | succ rounds ih =>
      intro id h n hn
      by_cases htaken : s.serverIdTaken id
      · have h' : s.nextServerIdFrom rounds (id + 1) = none := by
          simpa [nextServerIdFrom, htaken] using h
        rw [List.range'_succ, List.mem_cons] at hn
        rcases hn with rfl | hn
        · exact htaken
        · exact ih (id + 1) h' n hn
      · simp [nextServerIdFrom, htaken] at h

/-- `GetNextServerId` always finds an id: there are more candidates than ids in use. -/
theorem getNextServerId_isSome (s : SupervisorWorker) : ∃ n, s.getNextServerId = some n := by
  cases hget : s.getNextServerId with
  | some n =>
      exact ⟨n, rfl⟩
  | none =>
      exfalso
      have htaken := s.taken_of_nextServerIdFrom_eq_none _ _ hget
      let used := s.managedServerList.keys ++ s.blockedServerList.keys ++
        s.recoveryingServerList.keys
      have hsub : List.range' s.currentServerId (used.length + 1) ⊆ used := by
        intro n hn
        have hlen : used.length + 1 = s.managedServerList.size + s.blockedServerList.size +
            s.recoveryingServerList.size + 1 := by
          simp [used, UnorderedMap.size]
          omega
        have hn' := htaken n (by simpa [hlen] using hn)
        simp only [serverIdTaken, Bool.or_eq_true] at hn'
        simp only [used, List.mem_append, UnorderedMap.mem_keys]
        exact hn'
      have hle := (List.subperm_of_subset List.nodup_range' hsub).length_le
      simp at hle

/-! ## One event -/

/-- The state after a registration. -/
def entered (s : SupervisorWorker) (session : SessionId) (info : ServerInfo) (now : Milliseconds) :
    SupervisorWorker :=
  { s with
    currentServerId := info.serverId + 1
    serverIdOf := Function.update s.serverIdOf session info.serverId
    managedServerList := s.managedServerList.insert info.serverId ⟨session, info, []⟩
    initialDelay := s.initialDelay.orElse fun _ => some (Countdown.start 2000 now) }

/-- A registration is turned away over a session that has a server, and else hands out a free id. -/
theorem register_cases {session : SessionId} {packet : RegisterMinionServerRq}
    {now : Milliseconds} {actions : List Action}
    (h : onServerRegisterMinionServerReq s session packet now = some (s', actions)) :
    (s.serverIdOf session ≠ 0 ∧ s' = s ∧ actions = [.disconnect session]) ∨
      ∃ info : ServerInfo, s.serverIdOf session = 0 ∧
        s.currentServerId ≤ info.serverId ∧ s.serverIdTaken info.serverId = false ∧
        s' = s.entered session info now ∧
        actions = [.registerMinionServerRs info, s.makeUpdateIntraServerPacket,
            s.makeSectorAllocationPacket].map (Action.send session) ++
          s.broadcastPacket [.updateIntraServerInfoPs [info] []] := by
  unfold onServerRegisterMinionServerReq at h
  split at h
  next hbound =>
    cases h
    exact .inl ⟨hbound, rfl, rfl⟩
  next hzero =>
    cases hget : s.getNextServerId with
    | none =>
        simp [hget] at h
    | some n =>
        simp only [hget, Option.some.injEq, Prod.mk.injEq] at h
        obtain ⟨hle, htaken⟩ := s.nextServerIdFrom_sound _ _ hget
        exact .inr ⟨⟨packet.serverType, n, packet.address⟩, not_not.1 hzero, hle, htaken,
          h.1.symm, h.2.symm⟩

theorem find_of_not_taken {id : Nat} (h : s.serverIdTaken id = false) :
    s.managedServerList.find id = none := by
  simp only [serverIdTaken, Bool.or_eq_false_iff] at h
  simpa using h.1.1

/-- A registration adds a server without sectors and keeps every owner. -/
theorem register_spec {session : SessionId} {packet : RegisterMinionServerRq}
    {now : Milliseconds} {actions : List Action}
    (h : onServerRegisterMinionServerReq s session packet now = some (s', actions)) :
    SameOwnership s s' ∨
      ∃ n m, s.currentServerId ≤ n ∧ s.managedServerList.find n = none ∧
        m.serverInfo.serverId = n ∧ m.sectorList = [] ∧ s'.currentServerId = n + 1 ∧
        (∀ x, s'.ownerOf x = s.ownerOf x) ∧
        (∀ k, s'.managedServerList.find k = if k = n then some m else s.managedServerList.find k)
    := by
  rcases register_cases h with ⟨_, rfl, _⟩ | ⟨info, _, hle, hfree, rfl, _⟩
  · exact .inl (SameOwnership.refl s')
  · exact .inr ⟨info.serverId, ⟨session, info, []⟩, hle, find_of_not_taken hfree, rfl, rfl, rfl,
      fun _ => rfl, fun _ => UnorderedMap.find_insert _ _ _ _⟩

/-- An accepted recovery adds a server without sectors and makes it the owner of every sector it
claims, all of which were unowned. -/
theorem recovery_spec_of_accepted (s : SupervisorWorker) (session : SessionId)
    (packet : RecoveryMinionServerRq) (now : Milliseconds)
    (haccepted : s.recoveryAccepted packet = true) :
    let s' := (onServerRecoveryMinionServerReq s session packet now).1
    s'.currentServerId = s.currentServerId ∧
      (∀ x, s'.ownerOf x =
        if x ∈ packet.sectors then packet.serverInfo.serverId else s.ownerOf x) ∧
      (∀ k, s'.managedServerList.find k =
        if k = packet.serverInfo.serverId then some ⟨session, packet.serverInfo, []⟩
        else s.managedServerList.find k) := by
  intro s'
  let erased : SupervisorWorker :=
    { s with
      recoveryingServerList := s.recoveryingServerList.erase packet.serverInfo.serverId }
  let noted := erased.noteIntraServers packet.intraServers now
  have herased : SameOwnership s erased := ⟨rfl, fun _ => rfl, fun _ => rfl⟩
  have hnoted : SameOwnership s noted :=
    herased.trans (sameOwnership_noteIntraServers packet.intraServers now erased)
  have hs' : s' = (onServerRecoveryMinionServerReq s session packet now).1 := rfl
  simp only [onServerRecoveryMinionServerReq, haccepted, if_true] at hs'
  refine ⟨?_, ?_, ?_⟩
  · rw [hs']
    exact (currentServerId_foldl_setOwner _ _ noted).trans hnoted.counter
  · intro x
    have hclaim := ownerOf_foldl_setOwner packet.serverInfo.serverId packet.sectors noted x
    rw [hnoted.owner x] at hclaim
    rw [hs']
    exact hclaim
  · intro k
    have hclaim : (noted.claimSectors packet.serverInfo.serverId packet.sectors).managedServerList =
        noted.managedServerList := managedServerList_foldl_setOwner _ _ noted
    rw [hs', ← hnoted.managed k, ← hclaim]
    exact UnorderedMap.find_insert _ _ _ _

theorem recovery_eq_of_rejected (s : SupervisorWorker) (session : SessionId)
    (packet : RecoveryMinionServerRq) (now : Milliseconds)
    (hrejected : s.recoveryAccepted packet = false) :
    (onServerRecoveryMinionServerReq s session packet now).1 = s := by
  simp [onServerRecoveryMinionServerReq, hrejected]

/-- An accepted recovery is answered, and then everybody is told. -/
theorem recovery_actions (s : SupervisorWorker) (session : SessionId)
    (packet : RecoveryMinionServerRq) (now : Milliseconds)
    (haccepted : s.recoveryAccepted packet = true) :
    (onServerRecoveryMinionServerReq s session packet now).2 =
      [.recoveryMinionServerRs .None].map (Action.send session) ++
        (onServerRecoveryMinionServerReq s session packet now).1.broadcastPacket
          [.updateIntraServerInfoPs [packet.serverInfo] [],
           .sectorAllocationPs (packet.sectors.map (SectorAllocationInfo.mk packet.serverInfo))
             []] := by
  unfold onServerRecoveryMinionServerReq
  rw [if_pos haccepted]
  rfl

/-- What the checks of a recovery guarantee. -/
theorem of_recoveryAccepted {packet : RecoveryMinionServerRq}
    (h : s.recoveryAccepted packet = true) :
    1 < packet.serverInfo.serverId ∧
      s.managedServerList.find packet.serverInfo.serverId = none ∧
      ∀ x ∈ packet.sectors, s.ownerOf x = 0 := by
  simp only [recoveryAccepted, Bool.and_eq_true, decide_eq_true_eq, Option.isNone_iff_eq_none,
    List.all_eq_true] at h
  rcases h with ⟨⟨⟨⟨hid, hmanaged⟩, _⟩, hsectors⟩, _⟩
  refine ⟨hid, hmanaged, ?_⟩
  intro x hx
  have hx' := hsectors x hx
  cases hfind : s.sectorInfo.find x with
  | none =>
      simp [hfind] at hx'
  | some info =>
      simpa [ownerOf, hfind] using hx'

/-- The state after the session of a managed server has closed. -/
def released (s : SupervisorWorker) (id : Nat) (server : ManagedServerInfo) : SupervisorWorker :=
  let s := server.sectorList.foldl (fun s id => s.setOwner id 0) s
  { s with managedServerList := s.managedServerList.erase id }

/-- A close does nothing over a session without server; else the server is released and those that
are left are told. -/
theorem closed_cases {session : SessionId} {actions : List Action}
    (h : onSocketSessionClosed s session = some (s', actions)) :
    (s.serverIdOf session = 0 ∧ s' = s ∧ actions = []) ∨
      ∃ server, s.serverIdOf session ≠ 0 ∧
        s.managedServerList.find (s.serverIdOf session) = some server ∧
        s' = s.released (s.serverIdOf session) server ∧
        actions = (s.released (s.serverIdOf session) server).broadcastPacket
          [.sectorAllocationPs [] (server.sectorList.map (SectorAllocationInfo.mk server.serverInfo)),
           .updateIntraServerInfoPs [] [server.serverInfo]] := by
  unfold onSocketSessionClosed at h
  dsimp only at h
  split at h
  next hzero =>
    cases h
    exact .inl ⟨hzero, rfl, rfl⟩
  next hbound =>
    split at h
    · cases h
    next server hserver =>
      cases h
      exact .inr ⟨server, hbound, hserver, rfl, rfl⟩

/-- The loop over sectors in a recovery or a close writes sectors only. -/
theorem exists_foldl_setOwner (k : Nat) (xs : List Nat) :
    ∀ s : SupervisorWorker, ∃ sectorInfo,
      xs.foldl (fun s x => s.setOwner x k) s = { s with sectorInfo := sectorInfo } := by
  induction xs with
  | nil =>
      intro s
      exact ⟨s.sectorInfo, rfl⟩
  | cons x xs ih =>
      intro s
      exact ih (s.setOwner x k)

theorem exists_released (s : SupervisorWorker) (id : Nat) (server : ManagedServerInfo) :
    ∃ sectorInfo, s.released id server =
      { s with sectorInfo := sectorInfo, managedServerList := s.managedServerList.erase id } := by
  obtain ⟨sectors, hfold⟩ := exists_foldl_setOwner 0 server.sectorList s
  refine ⟨sectors, ?_⟩
  unfold released
  rw [hfold]

theorem find_released (s : SupervisorWorker) (id : Nat) (server : ManagedServerInfo) (k : Nat) :
    (s.released id server).managedServerList.find k =
      if k = id then none else s.managedServerList.find k := by
  obtain ⟨sectors, hreleased⟩ := s.exists_released id server
  rw [hreleased]
  exact UnorderedMap.find_erase _ _ _

/-- A close releases exactly the sectors the server lists, and forgets the server. -/
theorem closed_spec {session : SessionId} {actions : List Action}
    (h : onSocketSessionClosed s session = some (s', actions)) :
    (s.serverIdOf session = 0 ∧ s' = s) ∨
      ∃ m, s.serverIdOf session ≠ 0 ∧
        s.managedServerList.find (s.serverIdOf session) = some m ∧
        s'.currentServerId = s.currentServerId ∧
        (∀ x, s'.ownerOf x = if x ∈ m.sectorList then 0 else s.ownerOf x) ∧
        (∀ k, s'.managedServerList.find k =
          if k = s.serverIdOf session then none else s.managedServerList.find k) := by
  rcases closed_cases h with ⟨hzero, hs', _⟩ | ⟨server, hbound, hserver, rfl, _⟩
  · exact .inl ⟨hzero, hs'⟩
  · exact .inr ⟨server, hbound, hserver, currentServerId_foldl_setOwner 0 server.sectorList s,
      ownerOf_foldl_setOwner 0 server.sectorList s, s.find_released _ server⟩

/-! ## The allocation loop -/

theorem find_allocateSector (s : SupervisorWorker) (k : Nat) (m : ManagedServerInfo) (x j : Nat) :
    (s.allocateSector k m x).managedServerList.find j =
      if j = k then some { m with sectorList := m.sectorList.insert x }
      else s.managedServerList.find j :=
  UnorderedMap.find_insert _ _ _ _

theorem ownerOf_allocateSector (s : SupervisorWorker) (k : Nat) (m : ManagedServerInfo) (x y : Nat) :
    (s.allocateSector k m x).ownerOf y =
      if y = x then m.serverInfo.serverId else s.ownerOf y :=
  ownerOf_setOwner _ _ _ _

/-- One allocation: an unowned sector goes to a managed server and onto its list. -/
theorem allocateSector_spec {k x : Nat} {m : ManagedServerInfo} (hs : s.Exclusive)
    (hm : s.managedServerList.find k = some m) (hx : s.ownerOf x = 0) :
    (s.allocateSector k m x).Exclusive ∧
      (s.NoOrphan → (s.allocateSector k m x).NoOrphan) ∧
      ∀ y, s.ownerOf y ≠ 0 → (s.allocateSector k m x).ownerOf y = s.ownerOf y := by
  have hk : m.serverInfo.serverId = k := hs.keyed hm
  have howner : ∀ y, (s.allocateSector k m x).ownerOf y = if y = x then k else s.ownerOf y := by
    intro y
    rw [ownerOf_allocateSector, hk]
  have hfind := s.find_allocateSector k m x
  refine ⟨⟨hs.counter_pos, ?_, ?_, ?_⟩, ?_, ?_⟩
  · intro j n hj
    rw [hfind] at hj
    split_ifs at hj with hjk
    · cases hj
      exact hk.trans hjk.symm
    · exact hs.keyed hj
  · intro j n hj
    rw [hfind] at hj
    split_ifs at hj with hjk
    · subst hjk
      exact hs.key_pos hm
    · exact hs.key_pos hj
  · intro j n y hj hy
    rw [howner]
    rw [hfind] at hj
    split_ifs at hj with hjk
    · cases hj
      rcases List.mem_insert_iff.1 hy with rfl | hy
      · simp [hjk]
      · by_cases hyx : y = x
        · simp [hyx, hjk]
        · simpa [hyx, hjk] using hs.owned hm hy
    · -- a sector listed elsewhere has an owner, so it is not the unowned `x`
      have hyj := hs.owned hj hy
      have hne : y ≠ x := by
        rintro rfl
        have := hs.key_pos hj
        omega
      simpa [hne] using hyj
  · intro hno y hy
    rw [howner] at hy ⊢
    by_cases hyx : y = x
    · subst hyx
      refine ⟨{ m with sectorList := m.sectorList.insert y }, ?_, ?_⟩
      · simp [hfind]
      · exact List.mem_insert_self
    · simp only [hyx, if_false] at hy ⊢
      obtain ⟨n, hn, hyn⟩ := hno y hy
      by_cases hjk : s.ownerOf y = k
      · refine ⟨{ m with sectorList := m.sectorList.insert x }, ?_, ?_⟩
        · simp [hfind, hjk]
        · rw [hjk, hm] at hn
          cases hn
          exact List.mem_insert_of_mem hyn
      · exact ⟨n, by simpa [hfind, hjk] using hn, hyn⟩
  · intro y hy
    have hne : y ≠ x := by
      rintro rfl
      exact hy hx
    simp [howner, hne]

/-- What each allocation of a sector preserves, the loop preserves. -/
theorem allocateSectors_induction {P : SupervisorWorker → List SectorAllocationInfo → Prop}
    (hstep : ∀ ⦃s allocated id server x⦄, P s allocated → s.ownerOf x = 0 →
      s.leastLoadedServer = some id → s.managedServerList.find id = some server →
        server.sectorList.length < maxSectorPerPlayServer →
          P (s.allocateSector id server x) (allocated ++ [⟨server.serverInfo, x⟩])) :
    ∀ (xs : List Nat) {s : SupervisorWorker} {allocated : List SectorAllocationInfo},
      P s allocated → P (s.allocateSectors xs allocated).1 (s.allocateSectors xs allocated).2.1 := by
  intro xs
  induction xs with
  | nil =>
      intro s allocated h
      exact h
  | cons x xs ih =>
      intro s allocated h
      unfold allocateSectors
      split
      · exact ih h
      next hfree =>
        split
        · exact h
        next id hid =>
          split
          · exact h
          next server hserver =>
            split
            · exact ih h
            next hfull =>
              exact ih (hstep h (not_not.1 hfree) hid hserver (not_le.1 hfull))

/-- The whole loop keeps both directions of the record and every owner it finds. -/
theorem allocateSectors_spec (xs : List Nat) (s : SupervisorWorker)
    (allocated : List SectorAllocationInfo) (hs : s.Exclusive) :
    (s.allocateSectors xs allocated).1.Exclusive ∧
      (s.NoOrphan → (s.allocateSectors xs allocated).1.NoOrphan) ∧
      ∀ y, s.ownerOf y ≠ 0 → (s.allocateSectors xs allocated).1.ownerOf y = s.ownerOf y := by
  refine allocateSectors_induction (P := fun s' _ => s'.Exclusive ∧ (s.NoOrphan → s'.NoOrphan) ∧
    ∀ y, s.ownerOf y ≠ 0 → s'.ownerOf y = s.ownerOf y) ?_ xs ⟨hs, id, fun _ _ => rfl⟩
  rintro s' _ id server x ⟨hex, hno, hown⟩ hfree _ hserver _
  obtain ⟨hex', hno', hown'⟩ := allocateSector_spec hex hserver hfree
  refine ⟨hex', fun h => hno' (hno h), fun y hy => ?_⟩
  have hy' := hown y hy
  rw [hown' y (by rwa [hy']), hy']

/-! ## The parts of an update -/

/-- The state and the packets with which the allocation of sectors starts in `Update`. -/
def afterExpiry (s : SupervisorWorker) (now : Milliseconds) : SupervisorWorker × List Action :=
  if s.recoveryCountdown.elapsed now then s.expireRecovery now else (s, [])

/-- The expiry writes the maps of recovering and of blocked servers and the countdown, no other
field. -/
theorem sectorInfo_afterExpiry (s : SupervisorWorker) (now : Milliseconds) :
    (s.afterExpiry now).1.sectorInfo = s.sectorInfo := by
  unfold afterExpiry
  split <;> rfl

theorem managedServerList_afterExpiry (s : SupervisorWorker) (now : Milliseconds) :
    (s.afterExpiry now).1.managedServerList = s.managedServerList := by
  unfold afterExpiry
  split <;> rfl

theorem currentServerId_afterExpiry (s : SupervisorWorker) (now : Milliseconds) :
    (s.afterExpiry now).1.currentServerId = s.currentServerId := by
  unfold afterExpiry
  split <;> rfl

theorem serverIdOf_afterExpiry (s : SupervisorWorker) (now : Milliseconds) :
    (s.afterExpiry now).1.serverIdOf = s.serverIdOf := by
  unfold afterExpiry
  split <;> rfl

theorem ownerOf_afterExpiry (s : SupervisorWorker) (now : Milliseconds) :
    (s.afterExpiry now).1.ownerOf = s.ownerOf := by
  funext x
  rw [ownerOf, ownerOf, sectorInfo_afterExpiry]

theorem sameOwnership_afterExpiry (s : SupervisorWorker) (now : Milliseconds) :
    SameOwnership s (s.afterExpiry now).1 where
  counter := s.currentServerId_afterExpiry now
  owner := fun x => congrFun (s.ownerOf_afterExpiry now) x
  managed := fun k => by rw [managedServerList_afterExpiry]

/-- The packets about the allocation. -/
def allocationActions (s : SupervisorWorker) : List Action :=
  let result := s.allocateSectors s.sectorInfo.keys []
  if result.2.2 || result.2.1.isEmpty then []
  else result.1.broadcastPacket [.sectorAllocationPs result.2.1 []]

/-- `Update` does nothing before the initial delay is over. -/
theorem update_of_idle {now : Milliseconds} (h : s.initialDelay.any (·.elapsed now) = false) :
    s.update now = (s, []) := by
  cases hdelay : s.initialDelay with
  | none =>
      simp [update, hdelay]
  | some delay =>
      have hnot : delay.elapsed now = false := by simpa [hdelay] using h
      simp [update, hdelay, hnot]

/-- Then it expires recoveries and allocates sectors. -/
theorem update_of_elapsed {now : Milliseconds} (h : s.initialDelay.any (·.elapsed now) = true) :
    s.update now =
      (((s.afterExpiry now).1.allocateSectors (s.afterExpiry now).1.sectorInfo.keys []).1,
        (s.afterExpiry now).2 ++ (s.afterExpiry now).1.allocationActions) := by
  cases hdelay : s.initialDelay with
  | none =>
      simp [hdelay] at h
  | some delay =>
      have helapsed : delay.elapsed now = true := by simpa [hdelay] using h
      unfold update afterExpiry allocationActions
      rw [hdelay]
      simp only [helapsed, if_true]
      generalize (if s.recoveryCountdown.elapsed now then s.expireRecovery now
        else (s, ([] : List Action))) = expiry
      split_ifs <;> simp

theorem update_eq (s : SupervisorWorker) (now : Milliseconds) :
    s.update now = (s, []) ∨
      s.update now =
        (((s.afterExpiry now).1.allocateSectors (s.afterExpiry now).1.sectorInfo.keys []).1,
          (s.afterExpiry now).2 ++ (s.afterExpiry now).1.allocationActions) := by
  cases h : s.initialDelay.any (·.elapsed now) with
  | false =>
      exact .inl (update_of_idle h)
  | true =>
      exact .inr (update_of_elapsed h)

theorem update_spec (s : SupervisorWorker) (now : Milliseconds) (hs : s.Exclusive) :
    (s.update now).1.Exclusive ∧ (s.NoOrphan → (s.update now).1.NoOrphan) ∧
      ∀ y, s.ownerOf y ≠ 0 → (s.update now).1.ownerOf y = s.ownerOf y := by
  rcases s.update_eq now with hnone | hupdate
  · rw [hnone]
    exact ⟨hs, id, fun _ _ => rfl⟩
  · rw [hupdate]
    have hsame := s.sameOwnership_afterExpiry now
    obtain ⟨hex, hno, hown⟩ := allocateSectors_spec (s.afterExpiry now).1.sectorInfo.keys
      (s.afterExpiry now).1 [] (hsame.exclusive hs)
    refine ⟨hex, fun h => hno (hsame.noOrphan.2 h), fun y hy => ?_⟩
    rw [hown y (by rwa [hsame.owner y]), hsame.owner y]

end SupervisorWorker

open SupervisorWorker

/-! ## Exclusive allocation -/

theorem exclusive_new (now : Milliseconds) : (SupervisorWorker.new now).Exclusive where
  counter_pos := Nat.succ_pos _
  keyed := by
    intro k m h
    simp [SupervisorWorker.new] at h
  key_pos := by
    intro k m h
    simp [SupervisorWorker.new] at h
  owned := by
    intro k m x h
    simp [SupervisorWorker.new] at h

/-- A server added without sectors, with the owners of the sectors in `claimed` set to it. -/
theorem exclusive_of_added {s s' : SupervisorWorker} {n : Nat} {m : ManagedServerInfo}
    {claimed : List Nat} (hs : s.Exclusive) (hcounter : 0 < s'.currentServerId) (hn : 0 < n)
    (hid : m.serverInfo.serverId = n) (hlist : m.sectorList = [])
    (hclaimed : ∀ x ∈ claimed, s.ownerOf x = 0)
    (howner : ∀ x, s'.ownerOf x = if x ∈ claimed then n else s.ownerOf x)
    (hfind : ∀ k, s'.managedServerList.find k =
      if k = n then some m else s.managedServerList.find k) : s'.Exclusive where
  counter_pos := hcounter
  keyed := by
    intro k m' hk
    rw [hfind] at hk
    split_ifs at hk with hkn
    · cases hk
      exact hid.trans hkn.symm
    · exact hs.keyed hk
  key_pos := by
    intro k m' hk
    rw [hfind] at hk
    split_ifs at hk with hkn
    · exact hkn ▸ hn
    · exact hs.key_pos hk
  owned := by
    intro k m' x hk hx
    rw [hfind] at hk
    split_ifs at hk with hkn
    · cases hk
      simp [hlist] at hx
    · -- a listed sector is owned, hence not among the claimed ones
      have hxk := hs.owned hk hx
      have hnot : x ∉ claimed := by
        intro hc
        have := hs.key_pos hk
        have := hclaimed x hc
        omega
      simpa [howner, hnot] using hxk

theorem exclusive_of_closed {s s' : SupervisorWorker} {session : SessionId}
    {actions : List Action} (hs : s.Exclusive)
    (h : onSocketSessionClosed s session = some (s', actions)) : s'.Exclusive := by
  rcases closed_spec h with ⟨_, rfl⟩ | ⟨m, _, hm, hcounter, howner, hfind⟩
  · exact hs
  · refine ⟨by rw [hcounter]; exact hs.counter_pos, ?_, ?_, ?_⟩
    · intro k m' hk
      rw [hfind] at hk
      split_ifs at hk
      exact hs.keyed hk
    · intro k m' hk
      rw [hfind] at hk
      split_ifs at hk
      exact hs.key_pos hk
    · intro k m' x hk hx
      rw [hfind] at hk
      split_ifs at hk with hne
      have hxk := hs.owned hk hx
      have hnot : x ∉ m.sectorList := by
        intro hxm
        exact hne (hxk.symm.trans (hs.owned hm hxm))
      simpa [howner, hnot] using hxk

/-- Every event keeps `Exclusive` and moves no sector between two owners. -/
theorem exclusive_step {s s' : SupervisorWorker} {e : Event} (hs : s.Exclusive)
    (hstep : Step s e s') : s'.Exclusive ∧ OwnerStable s s' := by
  cases hstep with
  | accepted session =>
      have hsame : SameOwnership s
          { s with serverIdOf := Function.update s.serverIdOf session 0 } :=
        ⟨rfl, fun _ => rfl, fun _ => rfl⟩
      exact ⟨hsame.exclusive hs, hsame.ownerStable⟩
  | register h =>
      rcases register_spec h with hsame | ⟨n, m, hle, _, hid, hlist, hcounter, howner, hfind⟩
      · exact ⟨hsame.exclusive hs, hsame.ownerStable⟩
      -- a new server owns nothing, and its id is none of the old ones
      · have hpos := hs.counter_pos
        refine ⟨?_, fun x _ _ => howner x⟩
        have hclaimed : ∀ x ∈ ([] : List Nat), s.ownerOf x = 0 := by simp
        exact exclusive_of_added hs (by omega) (by omega) hid hlist hclaimed
          (by simpa using howner) hfind
  | recovery session packet now =>
      cases haccepted : s.recoveryAccepted packet with
      | false =>
          rw [recovery_eq_of_rejected s session packet now haccepted]
          exact ⟨hs, fun _ _ _ => rfl⟩
      | true =>
          obtain ⟨hpos, _, hclaimed⟩ := of_recoveryAccepted haccepted
          obtain ⟨hcounter, howner, hfind⟩ :=
            recovery_spec_of_accepted s session packet now haccepted
          have hcounter' : 0 < (onServerRecoveryMinionServerReq s session packet now).1.currentServerId := by
            rw [hcounter]
            exact hs.counter_pos
          have hn : 0 < packet.serverInfo.serverId := by omega
          refine ⟨?_, ?_⟩
          · exact exclusive_of_added hs hcounter' hn rfl rfl hclaimed howner hfind
          · intro x hx _
            -- only sectors without an owner can be claimed
            have hnot : x ∉ packet.sectors := fun hc => hx (hclaimed x hc)
            simpa [hnot] using howner x
  | closed h =>
      refine ⟨exclusive_of_closed hs h, ?_⟩
      rcases closed_spec h with ⟨_, rfl⟩ | ⟨m, _, _, _, howner, _⟩
      · exact fun _ _ _ => rfl
      -- the sectors of the server lose their owner, no other one does
      · intro x _ hx'
        rw [howner] at hx' ⊢
        split_ifs at hx' ⊢
        · exact absurd rfl hx'
        · rfl
  | update now =>
      obtain ⟨hex, _, hown⟩ := update_spec s now hs
      exact ⟨hex, fun x hx _ => hown x hx⟩
  | reorder h =>
      exact ⟨h.sameOwnership.exclusive hs, h.sameOwnership.ownerStable⟩

theorem exclusive_of_reachable {s : SupervisorWorker} (h : machine.Reachable s) :
    s.Exclusive := by
  refine Machine.Reachable.invariant ?_ ?_ h
  · rintro s ⟨now, rfl⟩
    exact exclusive_new now
  · intro s e s' hs hstep
    exact (exclusive_step hs hstep).1

/-- In every run the sector lists of the managed servers are disjoint and agree with the owner
record, and no event hands a sector from one owner to another. -/
theorem sectors_exclusively_allocated {s : SupervisorWorker} (hreach : machine.Reachable s) :
    (∀ k k' m m', s.managedServerList.find k = some m → s.managedServerList.find k' = some m' →
      k ≠ k' → List.Disjoint m.sectorList m'.sectorList) ∧
    (∀ k m, s.managedServerList.find k = some m → ∀ x ∈ m.sectorList, s.ownerOf x = k) ∧
    (∀ e s', machine.step s e s' →
      ∀ x, s.ownerOf x ≠ 0 → s'.ownerOf x ≠ 0 → s'.ownerOf x = s.ownerOf x) := by
  have hs := exclusive_of_reachable hreach
  refine ⟨?_, fun k m hk x hx => hs.owned hk hx, ?_⟩
  · -- a sector on two lists would have two owners
    intro k k' m m' hk hk' hne x hx hx'
    exact hne ((hs.owned hk hx).symm.trans (hs.owned hk' hx'))
  · intro e s' hstep
    exact (exclusive_step hs hstep).2

/-- The state in which one play server has registered over session `1`. -/
def oneServer : SupervisorWorker :=
  ((onServerRegisterMinionServerReq (SupervisorWorker.new 0) 1 ⟨.Play, ⟨"127.0.0.1", 5000⟩⟩ 0).map
    Prod.fst).getD (SupervisorWorker.new 0)

theorem step_oneServer :
    machine.step (SupervisorWorker.new 0) (.register 1 ⟨.Play, ⟨"127.0.0.1", 5000⟩⟩ 0) oneServer :=
  Step.register rfl

/-- The update after the initial delay allocates a sector, and keeps the records exclusive. -/
theorem sectors_exclusively_allocated_oneServer :
    (oneServer.update 2001).1.ownerOf 7 = 2 ∧
      ∀ k m, (oneServer.update 2001).1.managedServerList.find k = some m →
        ∀ x ∈ m.sectorList, (oneServer.update 2001).1.ownerOf x = k := by
  have hnew : machine.Reachable (SupervisorWorker.new 0) := .init ⟨0, rfl⟩
  have hreach : machine.Reachable (oneServer.update 2001).1 :=
    .step (.step hnew step_oneServer) (Step.update oneServer 2001)
  exact ⟨by decide +kernel, (sectors_exclusively_allocated hreach).2.1⟩

/-! ## Orphaned sectors -/

/-- The event is not a recovery that is accepted and claims a sector. -/
def claimsNoSector (s : SupervisorWorker) : Event → Prop
  | .recovery _ packet _ => s.recoveryAccepted packet = true → packet.sectors = []
  | _ => True

theorem ownerOf_new (now : Milliseconds) (x : Nat) : (SupervisorWorker.new now).ownerOf x = 0 := by
  by_cases h : x ∈ sectorGridList.map SectorInfo.sectorId <;>
    simp only [ownerOf, SupervisorWorker.new, UnorderedMap.find_ofKeys, h] <;> rfl

theorem noOrphan_new (now : Milliseconds) : (SupervisorWorker.new now).NoOrphan :=
  fun x hx => absurd (ownerOf_new now x) hx

/-- A server added without sectors and without claims. -/
theorem noOrphan_of_added {s s' : SupervisorWorker} {n : Nat} {m : ManagedServerInfo}
    (hs : s.NoOrphan) (hfree : s.managedServerList.find n = none)
    (howner : ∀ x, s'.ownerOf x = s.ownerOf x)
    (hfind : ∀ k, s'.managedServerList.find k =
      if k = n then some m else s.managedServerList.find k) : s'.NoOrphan := by
  intro x hx
  rw [howner] at hx ⊢
  obtain ⟨m', hm', hxm'⟩ := hs x hx
  have hne : s.ownerOf x ≠ n := by
    intro h
    rw [h, hfree] at hm'
    cases hm'
  exact ⟨m', by simpa [hfind, hne] using hm', hxm'⟩

theorem noOrphan_of_closed {s s' : SupervisorWorker} {session : SessionId}
    {actions : List Action} (hs : s.NoOrphan)
    (h : onSocketSessionClosed s session = some (s', actions)) : s'.NoOrphan := by
  rcases closed_spec h with ⟨_, rfl⟩ | ⟨m, _, hm, _, howner, hfind⟩
  · exact hs
  · intro x hx
    rw [howner] at hx ⊢
    by_cases hxm : x ∈ m.sectorList
    · simp [hxm] at hx
    · simp only [hxm, if_false] at hx ⊢
      obtain ⟨m', hm', hxm'⟩ := hs x hx
      have hne : s.ownerOf x ≠ s.serverIdOf session := by
        intro heq
        rw [heq, hm] at hm'
        cases hm'
        exact hxm hxm'
      exact ⟨m', by simpa [hfind, hne] using hm', hxm'⟩

/-- An accepted recovery with a claim leaves its first sector owned and not listed. -/
theorem not_noOrphan_of_claim {s : SupervisorWorker} {session : SessionId}
    {packet : RecoveryMinionServerRq} {now : Milliseconds}
    (haccepted : s.recoveryAccepted packet = true) (hclaim : packet.sectors ≠ []) :
    ¬ (onServerRecoveryMinionServerReq s session packet now).1.NoOrphan := by
  intro hno
  obtain ⟨x, hx⟩ := List.exists_mem_of_ne_nil _ hclaim
  obtain ⟨hpos, _, _⟩ := of_recoveryAccepted haccepted
  obtain ⟨_, howner, hfind⟩ := recovery_spec_of_accepted s session packet now haccepted
  have hx' : (onServerRecoveryMinionServerReq s session packet now).1.ownerOf x =
      packet.serverInfo.serverId := by
    simpa [hx] using howner x
  obtain ⟨m, hm, hxm⟩ := hno x (by omega)
  rw [hx', hfind] at hm
  simp only [if_true, Option.some.injEq] at hm
  subst hm
  simp at hxm

/-- From a state without orphans, a step leaves none exactly if it is not a claiming recovery. -/
theorem noOrphan_step_iff {s s' : SupervisorWorker} {e : Event} (hex : s.Exclusive)
    (hs : s.NoOrphan) (hstep : Step s e s') : s'.NoOrphan ↔ claimsNoSector s e := by
  cases hstep with
  | accepted session =>
      have hsame : SameOwnership s
          { s with serverIdOf := Function.update s.serverIdOf session 0 } :=
        ⟨rfl, fun _ => rfl, fun _ => rfl⟩
      exact iff_of_true (hsame.noOrphan.2 hs) trivial
  | register h =>
      refine iff_of_true ?_ trivial
      rcases register_spec h with hsame | ⟨n, m, _, hfree, _, _, _, howner, hfind⟩
      · exact hsame.noOrphan.2 hs
      · exact noOrphan_of_added hs hfree howner hfind
  | recovery session packet now =>
      cases haccepted : s.recoveryAccepted packet with
      | false =>
          rw [recovery_eq_of_rejected s session packet now haccepted]
          exact iff_of_true hs (by simp [claimsNoSector, haccepted])
      | true =>
          by_cases hclaim : packet.sectors = []
          · refine iff_of_true ?_ (fun _ => hclaim)
            obtain ⟨_, hfree, _⟩ := of_recoveryAccepted haccepted
            obtain ⟨_, howner, hfind⟩ :=
              recovery_spec_of_accepted s session packet now haccepted
            exact noOrphan_of_added hs hfree (by simpa [hclaim] using howner) hfind
          · refine iff_of_false (not_noOrphan_of_claim haccepted hclaim) ?_
            intro h
            exact hclaim (h haccepted)
  | closed h =>
      exact iff_of_true (noOrphan_of_closed hs h) trivial
  | update now =>
      exact iff_of_true ((update_spec s now hex).2.1 hs) trivial
  | reorder h =>
      exact iff_of_true (h.sameOwnership.noOrphan.2 hs) trivial

/-- The invariant of the runs without claiming recoveries. -/
theorem noOrphan_of_reachable {s : SupervisorWorker}
    (h : (machine.restrict claimsNoSector).Reachable s) : s.Exclusive ∧ s.NoOrphan := by
  refine Machine.Reachable.invariant (M := machine.restrict claimsNoSector)
    (P := fun s => s.Exclusive ∧ s.NoOrphan) ?_ ?_ h
  · rintro s ⟨now, rfl⟩
    exact ⟨exclusive_new now, noOrphan_new now⟩
  · rintro s e s' ⟨hex, hno⟩ ⟨hcond, hstep⟩
    exact ⟨(exclusive_step hex hstep).1, (noOrphan_step_iff hex hno hstep).2 hcond⟩

/-- A close leaves no sector with the closed server. -/
theorem ownerOf_ne_of_closed {s s' : SupervisorWorker} {session : SessionId}
    {actions : List Action} (hs : s.NoOrphan) (hbound : s.serverIdOf session ≠ 0)
    (h : onSocketSessionClosed s session = some (s', actions)) (x : Nat) :
    s'.ownerOf x ≠ s.serverIdOf session := by
  rcases closed_spec h with ⟨hzero, _⟩ | ⟨m, _, hm, _, howner, _⟩
  · exact absurd hzero hbound
  · intro hx
    rw [howner] at hx
    by_cases hxm : x ∈ m.sectorList
    · simp only [hxm, if_true] at hx
      exact hbound hx.symm
    · simp only [hxm, if_false] at hx
      obtain ⟨m', hm', hxm'⟩ := hs x (by rwa [hx])
      rw [hx, hm] at hm'
      cases hm'
      exact hxm hxm'

/-- In the runs without an accepted recovery that claims a sector, every owned sector is listed by
its owner and a close releases all of them.  The condition is exact: after such a run, the next
step keeps the record whole if and only if it meets it. -/
theorem no_orphaned_sector {s : SupervisorWorker}
    (hreach : (machine.restrict claimsNoSector).Reachable s) :
    s.NoOrphan ∧
    (∀ e s', machine.step s e s' → (s'.NoOrphan ↔ claimsNoSector s e)) ∧
    (∀ session s' actions, s.serverIdOf session ≠ 0 →
      onSocketSessionClosed s session = some (s', actions) →
      ∀ x, s'.ownerOf x ≠ s.serverIdOf session) := by
  rcases noOrphan_of_reachable hreach with ⟨hex, hno⟩
  refine ⟨hno, ?_, ?_⟩
  · intro e s' hstep
    exact noOrphan_step_iff hex hno hstep
  · intro session s' actions hbound h x
    exact ownerOf_ne_of_closed hno hbound h x

theorem no_orphaned_sector_oneServer :
    (oneServer.update 2001).1.ownerOf 7 = 2 ∧ (oneServer.update 2001).1.NoOrphan := by
  have hnew : (machine.restrict claimsNoSector).Reachable (SupervisorWorker.new 0) :=
    .init ⟨0, rfl⟩
  have hregister : (machine.restrict claimsNoSector).step (SupervisorWorker.new 0)
      (.register 1 ⟨.Play, ⟨"127.0.0.1", 5000⟩⟩ 0) oneServer := ⟨trivial, step_oneServer⟩
  have hupdate : (machine.restrict claimsNoSector).step oneServer (.update 2001)
      (oneServer.update 2001).1 := ⟨trivial, Step.update oneServer 2001⟩
  have hreach : (machine.restrict claimsNoSector).Reachable (oneServer.update 2001).1 :=
    .step (.step hnew hregister) hupdate
  exact ⟨by decide +kernel, (no_orphaned_sector hreach).1⟩

/-- The state in which server `7` has recovered sector `0` over session `1`. -/
def recovered : SupervisorWorker :=
  (onServerRecoveryMinionServerReq (SupervisorWorker.new 0) 1
    ⟨⟨.Play, 7, ⟨"127.0.0.1", 5000⟩⟩, [0], []⟩ 0).1

/-- A recovery with a claim orphans the sector, and the close of its session does not release
it. -/
theorem recovery_orphans_sector :
    machine.Reachable recovered ∧ ¬ recovered.NoOrphan ∧ recovered.serverIdOf 1 = 7 ∧
      ∃ s' actions, onSocketSessionClosed recovered 1 = some (s', actions) ∧
        machine.Reachable s' ∧ s'.ownerOf 0 = 7 := by
  have hreach : machine.Reachable recovered :=
    .step (.init ⟨0, rfl⟩) (Step.recovery (SupervisorWorker.new 0) 1
      ⟨⟨.Play, 7, ⟨"127.0.0.1", 5000⟩⟩, [0], []⟩ 0)
  have hclosed : ∃ s' actions, onSocketSessionClosed recovered 1 = some (s', actions) ∧
      s'.ownerOf 0 = 7 := ⟨_, _, rfl, by decide +kernel⟩
  obtain ⟨s', actions, hs', howner⟩ := hclosed
  refine ⟨hreach, ?_, by decide +kernel, ?_⟩
  · exact not_noOrphan_of_claim (by decide +kernel) (by simp)
  · exact ⟨s', actions, hs', .step hreach (Step.closed hs'), howner⟩

end Supervisor
end SeamlessServer
