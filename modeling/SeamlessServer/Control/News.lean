import SeamlessServer.Control.Plane

/-!
# Control.News — what a managed server is told

Two servers agree once nothing is on its way between them, so an agreement is stated about the
roster a minion server will have after it has received everything (`Plane.outlook`).  `told_of_step`
says what a step of the control plane means in these terms: no news, a broadcast to the servers that
were managed before, or the answer that admits a server.
-/

namespace SeamlessServer
namespace Control

open Protocol Utility Game Supervisor SupervisorWorker Channel

variable {config : Nat → Configuration} {σ σ' : Plane}

/-- The ids that an expiry announces as left. -/
theorem idsOf_expired {s : SupervisorWorker} (h : s.Booked) : idsOf s.expired = s.recoveringIds := by
  ext k
  simp only [expired, mem_idsOf, List.mem_map, recoveringIds, Set.mem_ofPred_eq,
    Option.isSome_iff_exists]
  constructor
  · rintro ⟨info, ⟨entry, hentry, rfl⟩, rfl⟩
    have hfind := s.mem_expired.1 hentry
    exact ⟨entry.2, (h.keyed hfind).symm ▸ hfind⟩
  · rintro ⟨info, hfind⟩
    exact ⟨info, ⟨(k, info), s.mem_expired.2 hfind, rfl⟩, h.keyed hfind⟩

namespace Plane

/-- Minion server `i` is the managed server `m`, over its session `c`. -/
def Enrolled (σ : Plane) (i c m : Nat) : Prop :=
  σ.session i = some c ∧
    ∃ server, σ.supervisor.managedServerList.find m = some server ∧ server.session = c

/-- What minion server `i` will know once it has received what is on its way. -/
noncomputable def outlook (σ : Plane) (i c : Nat) : Roster :=
  settled Roster.apply (roster (σ.minion i)) (σ.down c)

end Plane

open Plane

/-! ## Who is managed after an event -/

theorem enrolled_recovery {i c : Nat} {now : Milliseconds} {packet : RecoveryMinionServerRq}
    (rest : List MinionPacket) (hi : σ.session i = some c)
    (haccepted : σ.supervisor.recoveryAccepted packet = true) :
    ((σ.take c rest).dispatch (σ.supervisor.onServerRecoveryMinionServerReq c packet now)).Enrolled
      i c packet.serverInfo.serverId := by
  have hfind := (recovery_spec_of_accepted σ.supervisor c packet now haccepted).2.2
  exact ⟨hi, ⟨c, packet.serverInfo, []⟩, (hfind _).trans (if_pos rfl), rfl⟩

theorem enrolled_update {i c m : Nat} (henrolled : σ.Enrolled i c m) (now : Milliseconds) :
    (σ.dispatch (σ.supervisor.update now)).Enrolled i c m := by
  obtain ⟨hi, server, hserver, hsession⟩ := henrolled
  obtain ⟨server', hserver', hsession'⟩ := exists_update_entry hserver now
  exact ⟨hi, server', hserver', hsession'.trans hsession⟩

theorem enrolled_close {c₀ : Nat} {result : SupervisorWorker × List Action}
    (hclosed : σ.supervisor.onSocketSessionClosed c₀ = some result) {i c m : Nat}
    (henrolled : σ.Enrolled i c m) (hm : m ≠ σ.supervisor.serverIdOf c₀) :
    ((σ.shut c₀).dispatch result).Enrolled i c m := by
  obtain ⟨s', actions⟩ := result
  obtain ⟨hi, server, hserver, hsession⟩ := henrolled
  refine ⟨hi, server, ?_, hsession⟩
  rcases closed_cases hclosed with ⟨_, rfl, _⟩ | ⟨gone, _, _, rfl, _⟩
  · exact hserver
  · exact (find_released _ _ gone m).trans ((if_neg hm).trans hserver)

/-! ## What a managed server will know -/

/-- The events with which the supervisor tells the servers it manages of a change, and what they are
told. -/
inductive Broadcast (σ : Plane) : PlaneEvent → SupervisorWorker → List SupervisorPacket → Prop where
  | registered {c : Nat} {now : Milliseconds} {info : ServerInfo} :
      σ.supervisor.serverIdOf c = 0 → σ.supervisor.currentServerId ≤ info.serverId →
        σ.supervisor.managedServerList.find info.serverId = none →
          Broadcast σ (.serve c now) (σ.supervisor.entered c info now)
            [.updateIntraServerInfoPs [info] []]
  | recovered {c : Nat} {now : Milliseconds} {packet : RecoveryMinionServerRq}
      {rest : List MinionPacket} :
      σ.up c = .recoveryMinionServerRq packet :: rest → σ.supervisor.serverIdOf c = 0 →
        σ.supervisor.recoveryAccepted packet = true →
          Broadcast σ (.serve c now) (σ.supervisor.onServerRecoveryMinionServerReq c packet now).1
            [.updateIntraServerInfoPs [packet.serverInfo] [],
             .sectorAllocationPs (packet.sectors.map (SectorAllocationInfo.mk packet.serverInfo)) []]
  | closed {c : Nat} {server : ManagedServerInfo} {s' : SupervisorWorker} {actions : List Action} :
      σ.supervisor.serverIdOf c ≠ 0 →
        σ.supervisor.managedServerList.find (σ.supervisor.serverIdOf c) = some server →
          σ.supervisor.onSocketSessionClosed c = some (s', actions) →
            Broadcast σ (.close c) s'
              [.sectorAllocationPs []
                (server.sectorList.map (SectorAllocationInfo.mk server.serverInfo)),
               .updateIntraServerInfoPs [] [server.serverInfo]]
  | updated (now : Milliseconds) :
      Broadcast σ (.update now) (σ.supervisor.update now).1 (σ.supervisor.updatePackets now)

/-- The events with which minion server `i` becomes the managed server `m` over its session `c`, and
what it gets in answer. -/
inductive Admission (σ : Plane) (i c : Nat) :
    Nat → PlaneEvent → SupervisorWorker → List SupervisorPacket → Prop where
  | registered {now : Milliseconds} {packet : RegisterMinionServerRq} {info : ServerInfo}
      {rest : List MinionPacket} :
      σ.up c = .registerMinionServerRq packet :: rest → σ.supervisor.serverIdOf c = 0 →
        (roster (σ.minion i)).ready = false → σ.supervisor.currentServerId ≤ info.serverId →
        σ.supervisor.managedServerList.find info.serverId = none →
        Admission σ i c info.serverId (.serve c now) (σ.supervisor.entered c info now)
          [.registerMinionServerRs info, σ.supervisor.makeUpdateIntraServerPacket,
           σ.supervisor.makeSectorAllocationPacket]
  | recovered {now : Milliseconds} {packet : RecoveryMinionServerRq} {rest : List MinionPacket} :
      σ.up c = .recoveryMinionServerRq packet :: rest → σ.supervisor.serverIdOf c = 0 →
        σ.supervisor.recoveryAccepted packet = true →
        packet.serverInfo = (roster (σ.minion i)).info →
        idsOf packet.intraServers = (roster (σ.minion i)).servers →
          Admission σ i c packet.serverInfo.serverId (.serve c now)
            (σ.supervisor.onServerRecoveryMinionServerReq c packet now).1
            [.recoveryMinionServerRs .None, .updateIntraServerInfoPs [packet.serverInfo] [],
             .sectorAllocationPs (packet.sectors.map (SectorAllocationInfo.mk packet.serverInfo)) []]

/-- A step leaves a managed server with what it will know, adds a broadcast to that, or admits the
server with an answer. -/
def Told (σ σ' : Plane) (e : PlaneEvent) (i c m : Nat) : Prop :=
  (σ.Enrolled i c m ∧ σ'.outlook i c = σ.outlook i c ∧
      SameOwnership σ.supervisor σ'.supervisor) ∨
    (σ.Enrolled i c m ∧ ∃ packets, Broadcast σ e σ'.supervisor packets ∧
      σ'.outlook i c = settled Roster.apply (σ.outlook i c) packets) ∨
    (σ.session i = some c ∧ ∃ answer, Admission σ i c m e σ'.supervisor answer ∧
      σ'.outlook i c = settled Roster.apply (roster (σ.minion i)) answer)

/-- A server that registers gets the snapshots after its answer. -/
theorem outlook_register (h : Orderly σ) {i c : Nat} {now : Milliseconds} {info : ServerInfo}
    {request : MinionPacket} {rest : List MinionPacket} (hi : σ.session i = some c)
    (hopen : σ.opened c = true) (hup : σ.up c = request :: rest)
    (hzero : σ.supervisor.serverIdOf c = 0) :
    ((σ.take c rest).dispatch (σ.supervisor.entered c info now,
      [.registerMinionServerRs info, σ.supervisor.makeUpdateIntraServerPacket,
        σ.supervisor.makeSectorAllocationPacket].map (Action.send c) ++
          σ.supervisor.broadcastPacket [.updateIntraServerInfoPs [info] []])).outlook i c =
      settled Roster.apply (roster (σ.minion i))
        [.registerMinionServerRs info, σ.supervisor.makeUpdateIntraServerPacket,
         σ.supervisor.makeSectorAllocationPacket] := by
  obtain ⟨hdown, _⟩ := h.served hi hopen hup hzero
  refine congrArg (settled Roster.apply _) ?_
  change σ.down c ++ packetsTo c _ = _
  rw [hdown, List.nil_append, packetsTo_answer (h.vacant hzero)]

theorem told_register (h : Orderly σ) {c₀ : Nat} {now : Milliseconds}
    {packet : RegisterMinionServerRq} {rest : List MinionPacket}
    {result : SupervisorWorker × List Action} (hopen : σ.opened c₀ = true)
    (hup : σ.up c₀ = .registerMinionServerRq packet :: rest)
    (hzero : σ.supervisor.serverIdOf c₀ = 0)
    (hregister : σ.supervisor.onServerRegisterMinionServerReq c₀ packet now = some result)
    {i c m : Nat} (henrolled : ((σ.take c₀ rest).dispatch result).Enrolled i c m) :
    Told σ ((σ.take c₀ rest).dispatch result) (.serve c₀ now) i c m := by
  obtain ⟨s', actions⟩ := result
  obtain ⟨hi, server, hserver, hsession⟩ := henrolled
  have hvacant := h.vacant hzero
  rcases register_cases hregister with ⟨_, rfl, rfl⟩ | ⟨info, _, hle, hfree, rfl, rfl⟩
  · refine .inl ⟨⟨hi, server, hserver, hsession⟩, ?_, SameOwnership.refl _⟩
    exact congrArg (settled Roster.apply _) (List.append_nil _)
  · have hfind : (σ.supervisor.entered c₀ info now).managedServerList.find m =
        if m = info.serverId then some ⟨c₀, info, []⟩
        else σ.supervisor.managedServerList.find m := UnorderedMap.find_insert _ _ _ _
    have hserver' : (σ.supervisor.entered c₀ info now).managedServerList.find m = some server :=
      hserver
    rw [hfind] at hserver'
    split at hserver'
    next hm =>
      -- the server that has registered
      cases hserver'
      subst hsession
      subst hm
      obtain ⟨_, _, hpending⟩ := h.served hi hopen hup hzero
      exact .inr (.inr ⟨hi, _, Admission.registered hup hzero hpending hle (find_of_not_taken hfree),
        outlook_register h hi hopen hup hzero⟩)
    next =>
      refine .inr (.inl ⟨⟨hi, server, hserver', hsession⟩, _,
        Broadcast.registered hzero hle (find_of_not_taken hfree), ?_⟩)
      have hne : c ≠ c₀ := by
        rw [← hsession]
        exact hvacant hserver'
      have hpackets := packetsTo_broadcast h.bound hserver' [.updateIntraServerInfoPs [info] []]
      rw [hsession] at hpackets
      refine (congrArg (settled Roster.apply _) ?_).trans (settled_append _ _ _ _)
      change σ.down c ++ packetsTo c _ = _
      rw [packetsTo_others hne, hpackets]

/-- A server that recovers goes on with what it knows. -/
theorem outlook_recovery (h : Orderly σ) {i c : Nat} {now : Milliseconds}
    {packet : RecoveryMinionServerRq} {rest : List MinionPacket} (hi : σ.session i = some c)
    (hopen : σ.opened c = true) (hup : σ.up c = .recoveryMinionServerRq packet :: rest)
    (hzero : σ.supervisor.serverIdOf c = 0)
    (haccepted : σ.supervisor.recoveryAccepted packet = true) :
    ((σ.take c rest).dispatch (σ.supervisor.onServerRecoveryMinionServerReq c packet now)).outlook
        i c =
      settled Roster.apply (roster (σ.minion i))
        [.recoveryMinionServerRs .None, .updateIntraServerInfoPs [packet.serverInfo] [],
         .sectorAllocationPs (packet.sectors.map (SectorAllocationInfo.mk packet.serverInfo)) []]
    := by
  obtain ⟨hdown, _⟩ := h.served hi hopen hup hzero
  refine congrArg (settled Roster.apply _) ?_
  change σ.down c ++ packetsTo c _ = _
  rw [hdown, List.nil_append, packetsTo_recovery h.exclusive h.bound hzero packet now haccepted]

theorem told_recovery (h : Orderly σ) {c₀ : Nat} {now : Milliseconds}
    {packet : RecoveryMinionServerRq} {rest : List MinionPacket} (hopen : σ.opened c₀ = true)
    (hup : σ.up c₀ = .recoveryMinionServerRq packet :: rest)
    (hzero : σ.supervisor.serverIdOf c₀ = 0) {i c m : Nat}
    (henrolled : ((σ.take c₀ rest).dispatch
      (σ.supervisor.onServerRecoveryMinionServerReq c₀ packet now)).Enrolled i c m) :
    Told σ ((σ.take c₀ rest).dispatch (σ.supervisor.onServerRecoveryMinionServerReq c₀ packet now))
      (.serve c₀ now) i c m := by
  obtain ⟨hi, server, hserver, hsession⟩ := henrolled
  have hvacant := h.vacant hzero
  cases haccepted : σ.supervisor.recoveryAccepted packet with
  | false =>
      have hresult : σ.supervisor.onServerRecoveryMinionServerReq c₀ packet now =
          (σ.supervisor, [.send c₀ (.recoveryMinionServerRs .RecoveryFailed)]) := by
        simp [onServerRecoveryMinionServerReq, haccepted]
      rw [hresult] at hserver ⊢
      refine .inl ⟨⟨hi, server, hserver, hsession⟩, ?_, SameOwnership.refl _⟩
      -- the refusal goes to a session without server
      have hne : c ≠ c₀ := by
        rw [← hsession]
        exact hvacant hserver
      have hnone := packetsTo_send_of_ne hne.symm [.recoveryMinionServerRs .RecoveryFailed]
      refine congrArg (settled Roster.apply _) ?_
      change σ.down c ++ packetsTo c _ = σ.down c
      exact (congrArg (σ.down c ++ ·) hnone).trans (List.append_nil _)
  | true =>
      have hstep := Step.recovery σ.supervisor c₀ packet now
      have hbound' := bound_step (e := .recovery c₀ packet now) h.exclusive h.bound hzero hstep
      obtain ⟨_, _, hfind⟩ := recovery_spec_of_accepted σ.supervisor c₀ packet now haccepted
      have hserver' : (σ.supervisor.onServerRecoveryMinionServerReq c₀ packet
          now).1.managedServerList.find m = some server := hserver
      have hentry := hserver'
      rw [hfind] at hentry
      split at hentry
      next hm =>
        cases hentry
        subst hsession
        subst hm
        obtain ⟨_, _, _, hinfo, hids⟩ := h.served hi hopen hup hzero
        exact .inr (.inr ⟨hi, _, Admission.recovered hup hzero haccepted hinfo hids,
          outlook_recovery h hi hopen hup hzero haccepted⟩)
      next =>
        refine .inr (.inl ⟨⟨hi, server, hentry, hsession⟩, _,
          Broadcast.recovered hup hzero haccepted, ?_⟩)
        have hne : c ≠ c₀ := by
          rw [← hsession]
          exact hvacant hentry
        have hpackets := packetsTo_broadcast hbound' hserver'
          [.updateIntraServerInfoPs [packet.serverInfo] [],
           .sectorAllocationPs (packet.sectors.map (SectorAllocationInfo.mk packet.serverInfo)) []]
        rw [hsession] at hpackets
        refine (congrArg (settled Roster.apply _) ?_).trans (settled_append _ _ _ _)
        change σ.down c ++ packetsTo c _ = _
        rw [recovery_actions σ.supervisor c₀ packet now haccepted, packetsTo_others hne, hpackets]

theorem outlook_close (h : Orderly σ) {c₀ : Nat} {gone : ManagedServerInfo}
    {s' : SupervisorWorker} {actions : List Action}
    (hclosed : σ.supervisor.onSocketSessionClosed c₀ = some (s', actions))
    (hbound : σ.supervisor.serverIdOf c₀ ≠ 0)
    (hgone : σ.supervisor.managedServerList.find (σ.supervisor.serverIdOf c₀) = some gone)
    {i c m : Nat} (henrolled : ((σ.shut c₀).dispatch (s', actions)).Enrolled i c m) :
    ((σ.shut c₀).dispatch (s', actions)).outlook i c =
      settled Roster.apply (σ.outlook i c)
        [.sectorAllocationPs [] (gone.sectorList.map (SectorAllocationInfo.mk gone.serverInfo)),
         .updateIntraServerInfoPs [] [gone.serverInfo]] := by
  obtain ⟨_, server, hserver, hsession⟩ := henrolled
  have hserver' : s'.managedServerList.find m = some server := hserver
  have hbound' : s'.Bound := bound_step (e := .closed c₀) h.exclusive h.bound trivial
    (Step.closed hclosed)
  rcases closed_cases hclosed with ⟨hzero, _⟩ | ⟨gone', _, hgone', rfl, hactions⟩
  · exact absurd hzero hbound
  · cases hgone.symm.trans hgone'
    have hpackets := packetsTo_broadcast hbound' hserver'
      [.sectorAllocationPs [] (gone.sectorList.map (SectorAllocationInfo.mk gone.serverInfo)),
       .updateIntraServerInfoPs [] [gone.serverInfo]]
    rw [hsession] at hpackets
    refine (congrArg (settled Roster.apply _) ?_).trans (settled_append _ _ _ _)
    change σ.down c ++ packetsTo c actions = _
    rw [hactions, hpackets]

theorem told_close (h : Orderly σ) {c₀ : Nat} {result : SupervisorWorker × List Action}
    (hclosed : σ.supervisor.onSocketSessionClosed c₀ = some result) {i c m : Nat}
    (henrolled : ((σ.shut c₀).dispatch result).Enrolled i c m) :
    Told σ ((σ.shut c₀).dispatch result) (.close c₀) i c m := by
  obtain ⟨s', actions⟩ := result
  obtain ⟨hi, server, hserver, hsession⟩ := henrolled
  have hentry : s'.managedServerList.find m = some server := hserver
  rcases closed_cases hclosed with ⟨_, rfl, rfl⟩ | ⟨gone, hbound, hgone, rfl, _⟩
  · refine .inl ⟨⟨hi, server, hserver, hsession⟩, ?_, SameOwnership.refl _⟩
    exact congrArg (settled Roster.apply _) (List.append_nil _)
  · rw [find_released] at hentry
    split at hentry
    · cases hentry
    · exact .inr (.inl ⟨⟨hi, server, hentry, hsession⟩, _,
        Broadcast.closed hbound hgone hclosed,
        outlook_close h hclosed hbound hgone ⟨hi, server, hserver, hsession⟩⟩)

theorem outlook_update (h : Orderly σ) {i c m : Nat} (henrolled : σ.Enrolled i c m)
    (now : Milliseconds) :
    (σ.dispatch (σ.supervisor.update now)).outlook i c =
      settled Roster.apply (σ.outlook i c) (σ.supervisor.updatePackets now) := by
  obtain ⟨_, server, hserver, hsession⟩ := henrolled
  have hpackets := packetsTo_update h.exclusive h.bound hserver now
  rw [hsession] at hpackets
  refine (congrArg (settled Roster.apply _) ?_).trans (settled_append _ _ _ _)
  change σ.down c ++ packetsTo c _ = _
  rw [hpackets]

theorem told_update (h : Orderly σ) (now : Milliseconds) {i c m : Nat}
    (henrolled : (σ.dispatch (σ.supervisor.update now)).Enrolled i c m) :
    Told σ (σ.dispatch (σ.supervisor.update now)) (.update now) i c m := by
  obtain ⟨hi, server', hserver', hsession'⟩ := henrolled
  obtain ⟨server, hserver, hsession, _⟩ :=
    (update_entries σ.supervisor now).2 m server' hserver'
  have hold : σ.Enrolled i c m := ⟨hi, server, hserver, hsession.symm.trans hsession'⟩
  exact .inr (.inl ⟨hold, _, Broadcast.updated now, outlook_update h hold now⟩)

/-- A request that is neither a registration nor a recovery is no news. -/
theorem told_ignored {c₀ : Nat} {now : Milliseconds} {rest : List MinionPacket}
    {actions : List Action} (hactions : ∀ c, packetsTo c actions = []) {i c m : Nat}
    (henrolled : ((σ.take c₀ rest).dispatch (σ.supervisor, actions)).Enrolled i c m) :
    Told σ ((σ.take c₀ rest).dispatch (σ.supervisor, actions)) (.serve c₀ now) i c m := by
  refine .inl ⟨henrolled, congrArg (settled Roster.apply _) ?_, SameOwnership.refl _⟩
  change σ.down c ++ packetsTo c actions = σ.down c
  rw [hactions, List.append_nil]

theorem told_serve (h : Orderly σ) {c₀ : Nat} {now : Milliseconds} {request : MinionPacket}
    {rest : List MinionPacket} {result : SupervisorWorker × List Action}
    (hopen : σ.opened c₀ = true) (hup : σ.up c₀ = request :: rest)
    (hserve : σ.supervisor.onSocketSessionData c₀ now request = some result) {i c m : Nat}
    (henrolled : ((σ.take c₀ rest).dispatch result).Enrolled i c m) :
    Told σ ((σ.take c₀ rest).dispatch result) (.serve c₀ now) i c m := by
  unfold onSocketSessionData at hserve
  split at hserve
  · cases hserve
    exact told_ignored (fun _ => rfl) henrolled
  next hzero =>
    have hzero' : σ.supervisor.serverIdOf c₀ = 0 := not_not.1 hzero
    split at hserve
    next packet => exact told_register h hopen hup hzero' hserve henrolled
    next packet =>
      cases hserve
      exact told_recovery h hopen hup hzero' henrolled
    next =>
      cases hserve
      exact told_ignored (fun _ => rfl) henrolled

/-- What happens at one minion server only is no news for a managed one. -/
theorem told_of_kept {e : PlaneEvent} {i c m : Nat} (henrolled : σ.Enrolled i c m)
    (hsupervisor : SameOwnership σ.supervisor σ'.supervisor)
    (hroster : settled Roster.apply (roster (σ'.minion i)) (σ'.down c) =
      settled Roster.apply (roster (σ.minion i)) (σ.down c)) : Told σ σ' e i c m :=
  .inl ⟨henrolled, hroster, hsupervisor⟩

theorem told_of_step {e : PlaneEvent} (h : Orderly σ) (hstep : PlaneStep config σ e σ')
    {i c m : Nat} (henrolled : σ'.Enrolled i c m) : Told σ σ' e i c m := by
  cases hstep with
  | @connect j c₀ hnone hclosed hfree hdown =>
      obtain ⟨hi, server, hserver, hsession⟩ := henrolled
      -- nobody is managed over the new session
      have hne : c ≠ c₀ := by
        rintro rfl
        have hopen := h.opened hserver
        rw [hsession, hclosed] at hopen
        cases hopen
      have hji : i ≠ j := by
        rintro rfl
        have hnew : (σ.connect i c₀).session i = some c₀ := by
          simp only [Plane.connect, Function.update_self]
        exact hne (Option.some.inj (hi.symm.trans hnew))
      have hi' : σ.session i = some c := (Function.update_of_ne hji _ _).symm.trans hi
      refine told_of_kept ⟨hi', server, hserver, hsession⟩ ⟨rfl, fun _ => rfl, fun _ => rfl⟩ ?_
      simp only [Plane.connect, Function.update_of_ne hji]
  | serve hopen hup hserve =>
      exact told_serve h hopen hup hserve henrolled
  | @receive j c₀ packet rest hj hdown =>
      obtain ⟨hi, hmanaged⟩ := henrolled
      refine told_of_kept ⟨hi, hmanaged⟩ (SameOwnership.refl _) ?_
      by_cases hji : i = j
      · -- its own packet moves from the channel into the roster
        subst hji
        cases hj.symm.trans hi
        simp only [Plane.receive, Function.update_self]
        rw [hdown, settled_cons, roster_onSupervisorPacket (config i) (h.sound i)]
      · have hne : c ≠ c₀ := by
          rintro rfl
          exact hji (h.apart hi hj)
        simp only [Plane.receive, Function.update_of_ne hji, Function.update_of_ne hne]
  | @lose j c₀ g hj _ =>
      obtain ⟨hi, hmanaged⟩ := henrolled
      have hji : i ≠ j := by
        rintro rfl
        cases (Function.update_self _ _ _).symm.trans hi
      have hi' : σ.session i = some c := (Function.update_of_ne hji _ _).symm.trans hi
      have hne : c ≠ c₀ := by
        rintro rfl
        exact hji (h.apart hi' hj)
      refine told_of_kept ⟨hi', hmanaged⟩ (SameOwnership.refl _) ?_
      simp only [Plane.lose, Function.update_of_ne hji, Function.update_of_ne hne]
  | close _ hclosed =>
      exact told_close h hclosed henrolled
  | update now =>
      exact told_update h now henrolled
  | @lateral j e g hlateral hminion =>
      refine told_of_kept henrolled (SameOwnership.refl _) ?_
      by_cases hji : i = j
      · subst hji
        simp only [Function.update_self]
        rw [roster_lateral hlateral hminion]
      · simp only [Function.update_of_ne hji]
  | reorder hequiv =>
      obtain ⟨hi, server, hserver, hsession⟩ := henrolled
      have hserver' : σ.supervisor.managedServerList.find m = some server :=
        (hequiv.managedServerList m).trans hserver
      exact told_of_kept ⟨hi, server, hserver', hsession⟩ hequiv.sameOwnership rfl

/-- A step of the control plane is a step of the supervisor, or none for it. -/
theorem supervisor_step {e : PlaneEvent} (hstep : PlaneStep config σ e σ') :
    σ'.supervisor = σ.supervisor ∨ ∃ event, Step σ.supervisor event σ'.supervisor := by
  cases hstep with
  | connect =>
      exact .inr ⟨_, Step.accepted _ _⟩
  | serve _ _ hserve =>
      unfold onSocketSessionData at hserve
      split at hserve
      · cases hserve
        exact .inl rfl
      · split at hserve
        next packet => exact .inr ⟨_, Step.register hserve⟩
        next packet =>
          cases hserve
          exact .inr ⟨_, Step.recovery _ _ _ _⟩
        next =>
          cases hserve
          exact .inl rfl
  | receive =>
      exact .inl rfl
  | lose =>
      exact .inl rfl
  | close _ hclosed =>
      exact .inr ⟨_, Step.closed hclosed⟩
  | update now =>
      exact .inr ⟨_, Step.update _ now⟩
  | lateral =>
      exact .inl rfl
  | reorder hequiv =>
      exact .inr ⟨_, Step.reorder hequiv⟩

/-- What the supervisor's maps satisfy in every run of the control plane. -/
theorem booked_of_reachable (h : (plane config).Reachable σ) :
    σ.supervisor.Booked ∧ supervisorServerId ∉ σ.supervisor.managedIds := by
  refine Machine.Reachable.invariant
    (P := fun σ => σ.supervisor.Booked ∧ supervisorServerId ∉ σ.supervisor.managedIds) ?_ ?_ h
  · rintro σ ⟨now, rfl⟩
    refine ⟨booked_new now, ?_⟩
    simp [managedIds, SupervisorWorker.new]
  · rintro σ e σ' ⟨hbooked, hone⟩ hstep
    rcases supervisor_step hstep with hsame | ⟨event, hevent⟩
    · rw [hsame]
      exact ⟨hbooked, hone⟩
    · exact ⟨booked_step hbooked hevent, unmanaged_step hbooked hone hevent⟩

end Control
end SeamlessServer
