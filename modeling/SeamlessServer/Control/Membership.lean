import SeamlessServer.Control.News

/-!
# Control.Membership — which servers a minion server knows

A minion server learns of the others by a snapshot when it registers, and by deltas afterwards.  A
recovery sends no snapshot: what the minion server knew when it lost its session is what it goes on
with.  `membership_agreement` says that its record is that of the supervisor in every run in which
the servers a recovery names are those that are managed, and no managed server is taken for a
recovering one when the recovery countdown is over.
-/

namespace SeamlessServer
namespace Control

open Protocol Utility Game Supervisor SupervisorWorker Channel Plane

variable {config : Nat → Configuration} {σ σ' : Plane} {s s' : SupervisorWorker} {r : Roster}

/-! ## Managed servers -/

/-- The ids in the snapshot of the managed servers. -/
theorem idsOf_managedServers (h : s.Exclusive) :
    idsOf (s.managedServers.map ManagedServerInfo.serverInfo) = s.managedIds := by
  ext k
  simp only [mem_idsOf, List.mem_map, managedServers, UnorderedMap.mem_values]
  constructor
  · rintro ⟨info, ⟨server, ⟨j, hj⟩, rfl⟩, rfl⟩
    rw [h.keyed hj]
    simp [managedIds, hj]
  · intro hk
    obtain ⟨server, hserver⟩ := Option.isSome_iff_exists.1 hk
    exact ⟨server.serverInfo, ⟨server, ⟨k, hserver⟩, rfl⟩, h.keyed hserver⟩

/-! ## Agreement -/

/-- Apart from the supervisor and itself, server `m` knows the managed servers. -/
def Agrees (s : SupervisorWorker) (m : Nat) (r : Roster) : Prop :=
  ∀ ⦃k⦄, k ≠ supervisorServerId → k ≠ m → (k ∈ r.servers ↔ k ∈ s.managedIds)

/-- A minion server whose recovery is accepted names the managed servers, besides the supervisor and
itself; and when the recovery countdown is over, no managed server that another one hears of counts
as recovering. -/
def keepsRoster (σ : Plane) : PlaneEvent → Prop
  | .serve c _ => ∀ i packet rest, σ.session i = some c →
      σ.up c = .recoveryMinionServerRq packet :: rest → σ.supervisor.serverIdOf c = 0 →
        σ.supervisor.recoveryAccepted packet = true →
          idsOf packet.intraServers \ {supervisorServerId, packet.serverInfo.serverId} =
            σ.supervisor.managedIds
  | .update now => σ.supervisor.initialDelay.any (·.elapsed now) = true →
      σ.supervisor.recoveryCountdown.elapsed now = true → ∀ i c m k, σ.Enrolled i c m →
        k ∈ σ.supervisor.managedIds → k ∈ σ.supervisor.recoveringIds → k = m
  | _ => True

/-- A server joins at the supervisor and at the minion server. -/
theorem Agrees.join {m n : Nat} {r' : Roster} (h : Agrees s m r) (joined : ServerInfo)
    (hn : joined.serverId = n) (hservers : r'.servers = r.servers ∪ idsOf [joined])
    (hids : s'.managedIds = insert n s.managedIds) : Agrees s' m r' := by
  intro k hone hm
  rw [hservers, hids]
  simp only [Set.mem_union, Set.mem_insert_iff, idsOf_cons, idsOf_nil, hn, Set.mem_empty_iff_false,
    or_false, h hone hm]
  exact or_comm

/-- Servers that are not managed afterwards leave. -/
theorem Agrees.leave {m : Nat} {r' : Roster} (h : Agrees s m r) (leaved : List ServerInfo)
    (hservers : r'.servers = r.servers \ idsOf leaved)
    (hids : s'.managedIds = s.managedIds \ idsOf leaved) : Agrees s' m r' := by
  intro k hone hm
  rw [hservers, hids, Set.mem_sdiff, Set.mem_sdiff, h hone hm]

/-- Packets about sectors are no news about servers. -/
theorem servers_allocationPackets (s : SupervisorWorker) (r : Roster) :
    (settled Roster.apply r s.allocationPackets).servers = r.servers := by
  unfold allocationPackets
  dsimp only
  split <;> rfl

/-- What an update tells about servers. -/
theorem servers_updatePackets (hbooked : s.Booked) (r : Roster) (now : Milliseconds) :
    (settled Roster.apply r (s.updatePackets now)).servers =
      if s.initialDelay.any (·.elapsed now) = true ∧ s.recoveryCountdown.elapsed now = true then
        r.servers \ s.recoveringIds
      else
        r.servers := by
  cases hdelay : s.initialDelay.any (·.elapsed now) with
  | false =>
      have hnone : s.updatePackets now = [] := by simp [updatePackets, hdelay]
      simp [hnone]
  | true =>
      have hpackets : s.updatePackets now =
          s.expiryPackets now ++ (s.afterExpiry now).1.allocationPackets := by
        simp [updatePackets, hdelay]
      rw [hpackets, settled_append, servers_allocationPackets]
      cases helapsed : s.recoveryCountdown.elapsed now with
      | false =>
          simp [expiryPackets, helapsed]
      | true =>
          simp [expiryPackets, helapsed, Roster.apply, idsOf_expired hbooked]

theorem agrees_update_iff {m : Nat} (hbooked : s.Booked) (hone : supervisorServerId ∉ s.managedIds)
    (h : Agrees s m r) (now : Milliseconds) :
    Agrees (s.update now).1 m (settled Roster.apply r (s.updatePackets now)) ↔
      (s.initialDelay.any (·.elapsed now) = true → s.recoveryCountdown.elapsed now = true →
        ∀ k ∈ s.managedIds, k ∈ s.recoveringIds → k = m) := by
  have hids := (update_ids s now).1
  unfold Agrees
  rw [hids, servers_updatePackets hbooked]
  by_cases hboth : s.initialDelay.any (·.elapsed now) = true ∧
      s.recoveryCountdown.elapsed now = true
  · simp only [hboth, and_self, if_true, true_implies, Set.mem_sdiff]
    constructor
    · intro hafter k hk hrecovering
      by_contra hm
      have hk' : k ≠ supervisorServerId := by
        rintro rfl
        exact hone hk
      exact ((hafter hk' hm).2 hk).2 hrecovering
    · intro hcond k hk hm
      rw [h hk hm]
      exact ⟨And.left, fun hmanaged => ⟨hmanaged, fun hr => hm (hcond k hmanaged hr)⟩⟩
  · rw [if_neg hboth]
    exact iff_of_true h fun hdelay helapsed => absurd ⟨hdelay, helapsed⟩ hboth

/-- The server that recovers will agree if it has named the managed servers. -/
theorem agrees_recovered_iff {c : Nat} {now : Milliseconds} {packet : RecoveryMinionServerRq}
    (hone : supervisorServerId ∉ s.managedIds) (haccepted : s.recoveryAccepted packet = true)
    (hservers : idsOf packet.intraServers = r.servers) :
    Agrees (s.onServerRecoveryMinionServerReq c packet now).1 packet.serverInfo.serverId
        (settled Roster.apply r
          [.recoveryMinionServerRs .None, .updateIntraServerInfoPs [packet.serverInfo] [],
           .sectorAllocationPs (packet.sectors.map (SectorAllocationInfo.mk packet.serverInfo)) []]) ↔
      idsOf packet.intraServers \ {supervisorServerId, packet.serverInfo.serverId} =
        s.managedIds := by
  have hfree : packet.serverInfo.serverId ∉ s.managedIds := by
    simp [managedIds, (of_recoveryAccepted haccepted).2.1]
  have hafter : (settled Roster.apply r
      [.recoveryMinionServerRs .None, .updateIntraServerInfoPs [packet.serverInfo] [],
       .sectorAllocationPs (packet.sectors.map (SectorAllocationInfo.mk packet.serverInfo))
         []]).servers = insert packet.serverInfo.serverId (idsOf packet.intraServers) := by
    rw [hservers]
    simp [Roster.apply, idsOf_cons]
  unfold Agrees
  rw [(recovery_ids s c packet now haccepted).1, hafter, Set.ext_iff]
  refine forall_congr' fun k => ?_
  by_cases hk : k = supervisorServerId
  · simp [hk, hone]
  · by_cases hm : k = packet.serverInfo.serverId
    · simp [hm, hfree]
    · simp only [hk, hm, ne_eq, not_false_eq_true, true_implies, Set.mem_insert_iff, false_or,
        Set.mem_sdiff, Set.mem_singleton_iff, or_self, and_true]

theorem Agrees.broadcast {e : PlaneEvent} {packets : List SupervisorPacket} {m : Nat}
    (h : Orderly σ) (hbooked : σ.supervisor.Booked)
    (hone : supervisorServerId ∉ σ.supervisor.managedIds) (hkeeps : keepsRoster σ e)
    (hbroadcast : Broadcast σ e s' packets) {i c : Nat} (henrolled : σ.Enrolled i c m)
    (hagrees : Agrees σ.supervisor m r) :
    Agrees s' m (settled Roster.apply r packets) := by
  cases hbroadcast with
  | @registered c now info _ _ hfree =>
      refine hagrees.join info rfl ?_ ?_
      · simp [settled, Roster.apply]
      · ext k
        by_cases hk : k = info.serverId <;> simp [managedIds, entered, hk]
  | @recovered c now packet rest hup hzero haccepted =>
      refine hagrees.join packet.serverInfo rfl ?_
        (recovery_ids σ.supervisor c packet now haccepted).1
      simp [settled, Roster.apply]
  | @closed c server s' actions hbound hserver hclosed =>
      rcases closed_cases hclosed with ⟨hzero, _⟩ | ⟨_, _, _, rfl, _⟩
      · exact absurd hzero hbound
      · refine hagrees.leave [server.serverInfo] ?_ ?_
        · simp [settled, Roster.apply]
        · ext k
          rw [idsOf_cons, idsOf_nil, h.exclusive.keyed hserver]
          by_cases hk : k = σ.supervisor.serverIdOf c <;> simp [managedIds, find_released, hk]
  | updated now =>
      refine (agrees_update_iff hbooked hone hagrees now).2 fun hdelay helapsed k hk hrecovering => ?_
      exact hkeeps hdelay helapsed i c m k henrolled hk hrecovering

/-- A server that registers knows nobody and gets the snapshot; one that recovers goes on with what
it knows. -/
theorem Agrees.admission {e : PlaneEvent} {answer : List SupervisorPacket} {i c m : Nat}
    (h : Orderly σ) (hone : supervisorServerId ∉ σ.supervisor.managedIds)
    (hkeeps : keepsRoster σ e) (hi : σ.session i = some c)
    (hadmission : Admission σ i c m e s' answer) :
    Agrees s' m (settled Roster.apply (roster (σ.minion i)) answer) := by
  cases hadmission with
  | @registered now packet info rest _ _ hready =>
      intro k hk hm
      have hnobody : k ∉ (roster (σ.minion i)).servers := fun hin => hk (h.fresh_now i hready hin)
      have hservers : (settled Roster.apply (roster (σ.minion i)) [.registerMinionServerRs info,
          σ.supervisor.makeUpdateIntraServerPacket,
          σ.supervisor.makeSectorAllocationPacket]).servers =
            (roster (σ.minion i)).servers ∪ σ.supervisor.managedIds := by
        rw [← idsOf_managedServers h.exclusive]
        simp [settled, Roster.apply, makeUpdateIntraServerPacket, makeSectorAllocationPacket]
      rw [hservers]
      simp [hnobody, managedIds, entered, hm]
  | @recovered now packet rest hup hzero haccepted hinfo hservers =>
      exact (agrees_recovered_iff hone haccepted hservers).2
        (hkeeps i packet rest hi hup hzero haccepted)

/-- Every managed server will agree with the supervisor. -/
def Agreement (σ : Plane) : Prop :=
  ∀ ⦃i c m⦄, σ.Enrolled i c m → Agrees σ.supervisor m (σ.outlook i c)

/-- An agreement that a step leaves shows that the step has met the condition. -/
theorem keepsRoster_of_agreement {e : PlaneEvent} (h : Orderly σ) (hbooked : σ.supervisor.Booked)
    (hone : supervisorServerId ∉ σ.supervisor.managedIds) (hagreement : Agreement σ)
    (hstep : PlaneStep config σ e σ') (hafter : Agreement σ') : keepsRoster σ e := by
  cases hstep with
  | @serve c now request rest result hopen hup hserve =>
      intro i packet rest' hi hup' hzero haccepted
      cases hup.symm.trans hup'
      have hresult : result = σ.supervisor.onServerRecoveryMinionServerReq c packet now := by
        simpa [onSocketSessionData, hzero] using hserve.symm
      subst hresult
      obtain ⟨_, _, _, _, hservers⟩ := h.served hi hopen hup hzero
      have hagrees := hafter (enrolled_recovery rest hi haccepted)
      rw [outlook_recovery h hi hopen hup hzero haccepted] at hagrees
      exact (agrees_recovered_iff hone haccepted hservers).1 hagrees
  | update now =>
      intro hdelay helapsed i c m k henrolled hk hrecovering
      have hagrees := hafter (enrolled_update henrolled now)
      rw [outlook_update h henrolled] at hagrees
      exact (agrees_update_iff hbooked hone (hagreement henrolled) now).1 hagrees hdelay helapsed k hk
        hrecovering
  | connect | receive | lose | close | lateral | reorder =>
      trivial

theorem agreement_step_iff {e : PlaneEvent} (h : Orderly σ) (hbooked : σ.supervisor.Booked)
    (hone : supervisorServerId ∉ σ.supervisor.managedIds) (hagreement : Agreement σ)
    (hstep : PlaneStep config σ e σ') : Agreement σ' ↔ keepsRoster σ e := by
  refine ⟨keepsRoster_of_agreement h hbooked hone hagreement hstep, fun hkeeps i c m henrolled => ?_⟩
  rcases told_of_step h hstep henrolled with
    ⟨hold, houtlook, hsame⟩ | ⟨hold, packets, hbroadcast, houtlook⟩ |
      ⟨hi, answer, hadmission, houtlook⟩
  · intro k hk hm
    rw [houtlook, hsame.managedIds]
    exact hagreement hold hk hm
  · rw [houtlook]
    exact (hagreement hold).broadcast h hbooked hone hkeeps hbroadcast hold
  · rw [houtlook]
    exact Agrees.admission h hone hkeeps hi hadmission

theorem agreement_of_reachable (hreach : ((plane config).restrict keepsRoster).Reachable σ) :
    Agreement σ := by
  induction hreach with
  | init hinit =>
      obtain ⟨now, rfl⟩ := hinit
      rintro i c m ⟨hi, _⟩
      cases hi
  | step hreach hstep ih =>
      obtain ⟨hbooked, hone⟩ := booked_of_reachable hreach.of_restrict
      have horderly := orderly_of_reachable hreach.of_restrict
      exact (agreement_step_iff horderly hbooked hone ih hstep.2).2 hstep.1

/-- In every run in which a minion server whose recovery is accepted names the managed servers,
besides the supervisor and itself, and in which no managed server that another one hears of counts as
recovering when the recovery countdown is over: a minion server whose channel is empty has the id
under which it is managed, and apart from the supervisor and itself it knows exactly the managed
servers.  The condition is exact: after such a run, the next step leaves every managed server in
agreement, once it has received what is on its way, if and only if it meets it. -/
theorem membership_agreement (hreach : ((plane config).restrict keepsRoster).Reachable σ) :
    (∀ i c m, σ.Enrolled i c m → σ.down c = [] →
      (σ.minion i).myServerInfo.serverId = m ∧
        {k | ((σ.minion i).serverSessions.find k).isSome} \ {supervisorServerId, m} =
          σ.supervisor.managedIds \ {m}) ∧
      ∀ e σ', (plane config).step σ e σ' → (Agreement σ' ↔ keepsRoster σ e) := by
  have horderly := orderly_of_reachable hreach.of_restrict
  obtain ⟨hbooked, hone⟩ := booked_of_reachable hreach.of_restrict
  have hagreement := agreement_of_reachable hreach
  refine ⟨fun i c m henrolled hquiet => ?_,
    fun e σ' hstep => agreement_step_iff horderly hbooked hone hagreement hstep⟩
  have hagrees := hagreement henrolled
  -- with nothing on the way the outlook of the server is its roster
  have houtlook : σ.outlook i c = roster (σ.minion i) := by
    rw [Plane.outlook, hquiet, settled_nil]
  obtain ⟨hi, server, hserver, hsession⟩ := henrolled
  have hid := ((horderly.conversation hi).enrolled hserver hsession).2
  rw [hquiet] at hid
  refine ⟨hid, ?_⟩
  rw [houtlook] at hagrees
  ext k
  by_cases hk : k = supervisorServerId
  · simp [hk, hone]
  · by_cases hm : k = m
    · simp [hm]
    · have hiff := hagrees hk hm
      simp only [roster, Set.mem_ofPred_eq] at hiff
      simp [hk, hm, hiff]

/-! ## Runs -/

/-- A test for `keepsRoster`. -/
def rosterKept (σ : Plane) : PlaneEvent → Bool
  | .serve c _ =>
      match σ.up c with
      | .recoveryMinionServerRq packet :: _ =>
          let named := packet.intraServers.map ServerInfo.serverId
          let except := [supervisorServerId, packet.serverInfo.serverId]
          named.all (fun k => k ∈ except || (σ.supervisor.managedServerList.find k).isSome) &&
            σ.supervisor.managedServerList.keys.all fun k => k ∈ named && k ∉ except
      | _ => true
  | .update now =>
      !σ.supervisor.recoveryCountdown.elapsed now ||
        σ.supervisor.managedServerList.keys.all fun k =>
          (σ.supervisor.recoveryingServerList.find k).isNone
  | _ => true

theorem keepsRoster_of_rosterKept (σ : Plane) (e : PlaneEvent) (h : rosterKept σ e = true) :
    keepsRoster σ e := by
  cases e with
  | serve c now =>
      intro i packet rest _ hup _ _
      simp only [rosterKept, hup, Bool.and_eq_true, List.all_eq_true, Bool.or_eq_true,
        decide_eq_true_eq, UnorderedMap.mem_keys] at h
      obtain ⟨hnamed, hmanaged⟩ := h
      ext k
      constructor
      · rintro ⟨hk, hnot⟩
        exact (hnamed k hk).resolve_left (by simpa using hnot)
      · intro hk
        obtain ⟨hin, hout⟩ := hmanaged k hk
        exact ⟨hin, by simpa using hout⟩
  | update now =>
      intro _ helapsed i c m k _ hk hrecovering
      simp only [rosterKept, helapsed, Bool.not_true, Bool.false_or, List.all_eq_true,
        UnorderedMap.mem_keys, Option.isNone_iff_eq_none] at h
      have hnone := h k hk
      simp [recoveringIds, hnone] at hrecovering
  | connect | receive | lose | close | lateral | reorder =>
      trivial

namespace Sample

open GameServer.Sample

/-- Two servers register, and the second one recovers after an outage. -/
def recoveredInTime : Plane :=
  after (fun _ => playConfig) rosterKept (enlist 0 0 0 ++ enlist 1 1 0 ++ [.receive 0] ++ outage 1 1 ++
    enlist 1 2 100 ++ [.receive 0, .receive 0, .receive 0, .receive 0])

/-- The first server has an outage, the second one registers meanwhile. -/
def recoveredLate : Plane :=
  after (fun _ => playConfig) (fun _ _ => true) (enlist 0 0 0 ++ outage 0 0 ++ enlist 1 1 100 ++
    enlist 0 2 200 ++ [.receive 1, .receive 1])

end Sample

/-- Two servers register, the second one loses its session and recovers: it knows the first. -/
theorem membership_agreement_recoveredInTime :
    Sample.recoveredInTime.Enrolled 1 2 3 ∧ Sample.recoveredInTime.down 2 = [] ∧
      2 ∈ Sample.recoveredInTime.supervisor.managedIds ∧
      {k | ((Sample.recoveredInTime.minion 1).serverSessions.find k).isSome} \
        {supervisorServerId, 3} = Sample.recoveredInTime.supervisor.managedIds \ {3} := by
  have hreach : ((plane fun _ => GameServer.Sample.playConfig).restrict keepsRoster).Reachable
      Sample.recoveredInTime := Sample.reachable_after _ keepsRoster_of_rosterKept _
  have henrolled : Sample.recoveredInTime.Enrolled 1 2 3 := by
    refine ⟨by decide +kernel, ⟨2, ⟨.Play, 3, ⟨"127.0.0.1", 11002⟩⟩, []⟩, ?_, rfl⟩
    decide +kernel
  have hquiet : Sample.recoveredInTime.down 2 = [] := by decide +kernel
  have hfirst : (Sample.recoveredInTime.supervisor.managedServerList.find 2).isSome = true := by
    decide +kernel
  exact ⟨henrolled, hquiet, hfirst, ((membership_agreement hreach).1 1 2 3 henrolled hquiet).2⟩

/-- A server registers while the first one has lost its session.  When the first one has recovered,
nothing is on its way, and it does not know the other server. -/
theorem recovered_server_misses_join :
    (plane fun _ => GameServer.Sample.playConfig).Reachable Sample.recoveredLate ∧
      Sample.recoveredLate.Enrolled 0 2 2 ∧ (∀ c, Sample.recoveredLate.down c = []) ∧
      {k | ((Sample.recoveredLate.minion 0).serverSessions.find k).isSome} \
        {supervisorServerId, 2} ≠ Sample.recoveredLate.supervisor.managedIds \ {2} := by
  refine ⟨?_, ?_, ?_, ?_⟩
  · have hreach : ((plane fun _ => GameServer.Sample.playConfig).restrict
        fun _ _ => True).Reachable Sample.recoveredLate :=
      Sample.reachable_after _ (fun _ _ _ => trivial) _
    exact hreach.of_restrict
  · refine ⟨by decide +kernel, ⟨2, ⟨.Play, 2, ⟨"127.0.0.1", 11002⟩⟩, []⟩, ?_, rfl⟩
    decide +kernel
  · intro c
    rcases c with _ | _ | _ | c
    · decide +kernel
    · decide +kernel
    · decide +kernel
    · rfl
  -- a recovery is not answered with the servers that registered meanwhile
  · intro h
    have hmanaged : (Sample.recoveredLate.supervisor.managedServerList.find 3).isSome = true := by
      decide +kernel
    have hunknown : ((Sample.recoveredLate.minion 0).serverSessions.find 3).isSome = false := by
      decide +kernel
    have hthree : 3 ∈ Sample.recoveredLate.supervisor.managedIds \ {2} := ⟨hmanaged, by decide⟩
    rw [← h] at hthree
    have hknown : ((Sample.recoveredLate.minion 0).serverSessions.find 3).isSome = true := hthree.1
    rw [hunknown] at hknown
    cases hknown

end Control
end SeamlessServer
