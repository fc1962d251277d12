import SeamlessServer.Control.News
import SeamlessServer.Supervisor.Allocation

/-!
# Control.SectorOwners — whom a minion server takes for the owner of a sector

The supervisor announces owners in three ways: the sectors on the lists of its servers in the
snapshot of a registration, the new owners of an `Update` or a recovery, and with a server that has
left, implicitly, the end of what it owned.  Each of them leaves something out.  The snapshot has no
owned sector that is on no list, a recovery has no snapshot, and a server leaves with all its sectors
at the minion servers but only with those on its list at the supervisor.

`keepsOwners` says when nothing is left out that matters, and `sector_owner_agreement` that the
records then agree in every run.
-/

namespace SeamlessServer
namespace Control

open Protocol Utility Game Supervisor SupervisorWorker Channel Plane

variable {config : Nat → Configuration} {σ σ' : Plane} {s s' : SupervisorWorker} {r : Roster}

/-! ## Allocations -/

namespace Roster

theorem allocate_cons (owner : Nat → Nat) (info : SectorAllocationInfo)
    (allocation : List SectorAllocationInfo) :
    allocate owner (info :: allocation) =
      allocate (Function.update owner info.sectorId info.serverInfo.serverId) allocation := rfl

theorem allocate_of_not_mem {allocation : List SectorAllocationInfo} {x : Nat}
    (h : ∀ info ∈ allocation, info.sectorId ≠ x) (owner : Nat → Nat) :
    allocate owner allocation x = owner x := by
  induction allocation generalizing owner with
  | nil =>
      rfl
  | cons info allocation ih =>
      rw [allocate_cons, ih fun info' hinfo' => h info' (List.mem_cons_of_mem info hinfo')]
      exact Function.update_of_ne (h info List.mem_cons_self).symm _ _

/-- A sector that is allocated to one server, no matter how often. -/
theorem allocate_of_mem {allocation : List SectorAllocationInfo} {x k : Nat}
    (h : ∃ info ∈ allocation, info.sectorId = x)
    (hk : ∀ info ∈ allocation, info.sectorId = x → info.serverInfo.serverId = k)
    (owner : Nat → Nat) : allocate owner allocation x = k := by
  induction allocation generalizing owner with
  | nil =>
      obtain ⟨info, hinfo, _⟩ := h
      cases hinfo
  | cons info allocation ih =>
      rw [allocate_cons]
      by_cases hlater : ∃ info' ∈ allocation, info'.sectorId = x
      · exact ih hlater (fun info' hinfo' => hk info' (List.mem_cons_of_mem info hinfo')) _
      · -- the last word is the head's
        obtain ⟨info', hinfo', hx⟩ := h
        rcases List.mem_cons.1 hinfo' with rfl | hmem
        · rw [allocate_of_not_mem fun info'' hmem hx' => hlater ⟨info'', hmem, hx'⟩, ← hx,
            Function.update_self]
          exact hk info' List.mem_cons_self hx
        · exact absurd ⟨info', hmem, hx⟩ hlater

/-- What the owner of a sector becomes depends on its owner only. -/
theorem allocate_congr {owner owner' : Nat → Nat} {x : Nat} (h : owner x = owner' x)
    (allocation : List SectorAllocationInfo) :
    allocate owner allocation x = allocate owner' allocation x := by
  induction allocation generalizing owner owner' with
  | nil =>
      exact h
  | cons info allocation ih =>
      rw [allocate_cons, allocate_cons]
      refine ih ?_
      simp only [Function.update_apply, h]

/-- The sectors of one server. -/
theorem allocate_map (info : ServerInfo) (sectors : List Nat) (owner : Nat → Nat) (x : Nat) :
    allocate owner (sectors.map (SectorAllocationInfo.mk info)) x =
      if x ∈ sectors then info.serverId else owner x := by
  split
  next hx =>
    refine allocate_of_mem ⟨⟨info, x⟩, List.mem_map_of_mem hx, rfl⟩ (fun info' hinfo' _ => ?_) owner
    obtain ⟨y, _, rfl⟩ := List.mem_map.1 hinfo'
    rfl
  next hx =>
    refine allocate_of_not_mem (fun info' hinfo' hx' => ?_) owner
    obtain ⟨y, hy, rfl⟩ := List.mem_map.1 hinfo'
    subst hx'
    exact hx hy

end Roster

/-- A sector that is on the list of a managed server. -/
def Listed (s : SupervisorWorker) (x : Nat) : Prop :=
  ∃ k server, s.managedServerList.find k = some server ∧ x ∈ server.sectorList

open Classical in
/-- The snapshot tells the owners of the listed sectors. -/
theorem owner_snapshot (h : s.Exclusive) (r : Roster) (x : Nat) :
    (r.apply s.makeSectorAllocationPacket).owner x =
      if Listed s x then s.ownerOf x else r.owner x := by
  have hmem : ∀ info : SectorAllocationInfo,
      info ∈ s.managedServers.flatMap
          (fun m => m.sectorList.map (SectorAllocationInfo.mk m.serverInfo)) ↔
        ∃ k server, s.managedServerList.find k = some server ∧ info.sectorId ∈ server.sectorList ∧
          info.serverInfo = server.serverInfo := by
    intro info
    simp only [managedServers, List.mem_flatMap, UnorderedMap.mem_values, List.mem_map]
    constructor
    · rintro ⟨server, ⟨k, hk⟩, y, hy, rfl⟩
      exact ⟨k, server, hk, hy, rfl⟩
    · rintro ⟨k, server, hk, hx, hinfo⟩
      exact ⟨server, ⟨k, hk⟩, info.sectorId, hx, by rw [← hinfo]⟩
  change Roster.allocate r.owner _ x = _
  split
  next hlisted =>
    obtain ⟨k, server, hk, hx⟩ := hlisted
    refine Roster.allocate_of_mem ⟨⟨server.serverInfo, x⟩, (hmem _).2 ⟨k, server, hk, hx, rfl⟩, rfl⟩
      (fun info hinfo hx' => ?_) r.owner
    obtain ⟨k', server', hk', hin, hserver'⟩ := (hmem info).1 hinfo
    rw [hserver', h.keyed hk', ← h.owned hk' hin, hx']
  next hlisted =>
    refine Roster.allocate_of_not_mem (fun info hinfo hx' => ?_) r.owner
    obtain ⟨k', server', hk', hin, _⟩ := (hmem info).1 hinfo
    subst hx'
    exact hlisted ⟨k', server', hk', hin⟩

/-! ## Agreement on owners -/

/-- A server and the supervisor have the same owners. -/
def OwnersAgree (s : SupervisorWorker) (r : Roster) : Prop := ∀ x, r.owner x = s.ownerOf x

/-- What the answer to a request does not tell, the sender has right already. -/
def UpToDate (s : SupervisorWorker) (r : Roster) : MinionPacket → Prop
  | .registerMinionServerRq _ => ∀ x, ¬ Listed s x → r.owner x = s.ownerOf x
  | .recoveryMinionServerRq packet => s.recoveryAccepted packet = true →
      ∀ x, x ∉ packet.sectors → r.owner x = s.ownerOf x
  | _ => True

/-- A server that is admitted is up to date; a server of which others are told that it has left has
all its sectors on its list; and no sector is owned by a server that counts as recovering when the
recovery countdown is over. -/
def keepsOwners (σ : Plane) : PlaneEvent → Prop
  | .serve c _ => ∀ i request rest, σ.session i = some c → σ.up c = request :: rest →
      σ.supervisor.serverIdOf c = 0 → UpToDate σ.supervisor (roster (σ.minion i)) request
  | .close c => ∀ server, σ.supervisor.serverIdOf c ≠ 0 →
      σ.supervisor.managedServerList.find (σ.supervisor.serverIdOf c) = some server →
        (∃ i c' m, σ.Enrolled i c' m ∧ m ≠ σ.supervisor.serverIdOf c) →
          ∀ x, σ.supervisor.ownerOf x = σ.supervisor.serverIdOf c → x ∈ server.sectorList
  | .update now => σ.supervisor.initialDelay.any (·.elapsed now) = true →
      σ.supervisor.recoveryCountdown.elapsed now = true → (∃ i c m, σ.Enrolled i c m) →
        ∀ x, σ.supervisor.ownerOf x ≠ 0 → σ.supervisor.ownerOf x ∉ σ.supervisor.recoveringIds
  | _ => True

/-- A server that registers. -/
theorem ownersAgree_registered_iff (h : s.Exclusive) (c : Nat) (info : ServerInfo)
    (now : Milliseconds) :
    OwnersAgree (s.entered c info now) (settled Roster.apply r
        [.registerMinionServerRs info, s.makeUpdateIntraServerPacket,
         s.makeSectorAllocationPacket]) ↔
      ∀ x, ¬ Listed s x → r.owner x = s.ownerOf x := by
  have howner : ∀ x, (settled Roster.apply r [.registerMinionServerRs info,
      s.makeUpdateIntraServerPacket, s.makeSectorAllocationPacket]).owner x =
        (r.apply s.makeSectorAllocationPacket).owner x := by
    intro x
    refine Roster.allocate_congr ?_ _
    simp [makeUpdateIntraServerPacket, Roster.apply]
  refine forall_congr' fun x => ?_
  rw [howner, owner_snapshot h]
  change _ = s.ownerOf x ↔ _
  by_cases hx : Listed s x <;> simp [hx]

/-- The owners after the packets about a recovery. -/
theorem owner_recovered (packet : RecoveryMinionServerRq) (r : Roster) (x : Nat) :
    (settled Roster.apply r [.updateIntraServerInfoPs [packet.serverInfo] [],
        .sectorAllocationPs (packet.sectors.map (SectorAllocationInfo.mk packet.serverInfo))
          []]).owner x =
      if x ∈ packet.sectors then packet.serverInfo.serverId else r.owner x := by
  refine (Roster.allocate_map packet.serverInfo packet.sectors _ x).trans ?_
  simp [Roster.apply]

/-- A server that recovers. -/
theorem ownersAgree_recovered_iff {c : Nat} {now : Milliseconds} {packet : RecoveryMinionServerRq}
    (haccepted : s.recoveryAccepted packet = true) :
    OwnersAgree (s.onServerRecoveryMinionServerReq c packet now).1 (settled Roster.apply r
        [.recoveryMinionServerRs .None, .updateIntraServerInfoPs [packet.serverInfo] [],
         .sectorAllocationPs (packet.sectors.map (SectorAllocationInfo.mk packet.serverInfo)) []]) ↔
      ∀ x, x ∉ packet.sectors → r.owner x = s.ownerOf x := by
  have howner := (recovery_spec_of_accepted s c packet now haccepted).2.1
  refine forall_congr' fun x => ?_
  rw [howner]
  change (settled Roster.apply r [_, _]).owner x = _ ↔ _
  rw [owner_recovered]
  by_cases hx : x ∈ packet.sectors <;> simp [hx]

/-- A server that is told of one that has left. -/
theorem ownersAgree_closed_iff (hex : s.Exclusive) {c : Nat} {gone : ManagedServerInfo}
    {actions : List Action} (hagree : OwnersAgree s r)
    (hclosed : onSocketSessionClosed s c = some (s', actions)) (hbound : s.serverIdOf c ≠ 0)
    (hgone : s.managedServerList.find (s.serverIdOf c) = some gone) :
    OwnersAgree s' (settled Roster.apply r
        [.sectorAllocationPs [] (gone.sectorList.map (SectorAllocationInfo.mk gone.serverInfo)),
         .updateIntraServerInfoPs [] [gone.serverInfo]]) ↔
      ∀ x, s.ownerOf x = s.serverIdOf c → x ∈ gone.sectorList := by
  have howner' : ∀ x, s'.ownerOf x = if x ∈ gone.sectorList then 0 else s.ownerOf x := by
    rcases closed_spec hclosed with ⟨hzero, _⟩ | ⟨gone', _, hgone', _, howner, _⟩
    · exact absurd hzero hbound
    · cases hgone.symm.trans hgone'
      exact howner
  refine forall_congr' fun x => ?_
  have hforget : (settled Roster.apply r
      [.sectorAllocationPs [] (gone.sectorList.map (SectorAllocationInfo.mk gone.serverInfo)),
       .updateIntraServerInfoPs [] [gone.serverInfo]]).owner x =
        if s.ownerOf x = s.serverIdOf c then 0 else s.ownerOf x := by
    have hids : idsOf [gone.serverInfo] = {s.serverIdOf c} := by
      rw [idsOf_cons, idsOf_nil, hex.keyed hgone, insert_empty_eq]
    change Roster.forget r.owner (idsOf [gone.serverInfo]) x = _
    simp [Roster.forget, hids, hagree x]
  rw [hforget, howner']
  by_cases hx : x ∈ gone.sectorList
  · -- a listed sector is given up on both sides
    simp [hx, hex.owned hgone hx]
  · by_cases howned : s.ownerOf x = s.serverIdOf c
    · simp [hx, howned, hbound.symm]
    · simp [hx, howned]

/-- The owners an update announces are those it writes. -/
theorem owner_allocationPackets (s : SupervisorWorker) :
    ∃ new, (s.allocateSectors s.sectorInfo.keys []).1.ownerOf = Roster.allocate s.ownerOf new ∧
      (∀ info ∈ new, s.ownerOf info.sectorId = 0) ∧
      ∀ r, (settled Roster.apply r s.allocationPackets).owner = Roster.allocate r.owner new := by
  obtain ⟨new, hlist, howner, hunowned, hallocatable⟩ :=
    allocateSectors_owners s.sectorInfo.keys s []
  rw [List.nil_append] at hlist
  refine ⟨new, howner, hunowned, fun r => ?_⟩
  unfold allocationPackets
  dsimp only
  split
  next hnone =>
    have hnew : new = [] := by
      rcases Bool.or_eq_true_iff.1 hnone with hearly | hempty
      · -- left early: then there was nothing on the list
        by_contra hnew
        exact not_allocatable_of_left _ s [] hearly (hallocatable hnew)
      · rw [← hlist]
        exact List.isEmpty_iff.1 hempty
    rw [hnew]
    rfl
  next =>
    rw [hlist]
    rfl

theorem ownersAgree_update_iff (hbooked : s.Booked) (hagree : OwnersAgree s r)
    (now : Milliseconds) :
    OwnersAgree (s.update now).1 (settled Roster.apply r (s.updatePackets now)) ↔
      (s.initialDelay.any (·.elapsed now) = true → s.recoveryCountdown.elapsed now = true →
        ∀ x, s.ownerOf x ≠ 0 → s.ownerOf x ∉ s.recoveringIds) := by
  have hsame : r.owner = s.ownerOf := funext hagree
  cases hdelay : s.initialDelay.any (·.elapsed now) with
  | false =>
      have hnone : s.updatePackets now = [] := by simp [updatePackets, hdelay]
      rw [hnone, update_of_idle hdelay]
      exact iff_of_true hagree (by simp)
  | true =>
      have hpackets : s.updatePackets now =
          s.expiryPackets now ++ (s.afterExpiry now).1.allocationPackets := by
        simp [updatePackets, hdelay]
      obtain ⟨new, howner, hunowned, hroster⟩ := owner_allocationPackets (s.afterExpiry now).1
      rw [ownerOf_afterExpiry] at howner hunowned
      unfold OwnersAgree
      rw [update_of_elapsed hdelay, hpackets, settled_append, howner, hroster]
      cases helapsed : s.recoveryCountdown.elapsed now with
      | false =>
          have hempty : s.expiryPackets now = [] := by simp [expiryPackets, helapsed]
          rw [hempty, settled_nil, hsame]
          exact iff_of_true (fun x => rfl) (by simp)
      | true =>
          have hexpired : (settled Roster.apply r (s.expiryPackets now)).owner =
              Roster.forget s.ownerOf s.recoveringIds := by
            rw [← idsOf_expired hbooked, ← hsame]
            simp [expiryPackets, helapsed, Roster.apply]
          rw [hexpired]
          simp only [true_implies]
          refine forall_congr' fun x => ⟨fun heq hx hrecovering => hx ?_, fun hcond => ?_⟩
          · -- an owned sector is not allocated again
            have hold : ∀ info ∈ new, info.sectorId ≠ x := by
              rintro info hinfo rfl
              exact hx (hunowned info hinfo)
            rw [Roster.allocate_of_not_mem hold, Roster.allocate_of_not_mem hold] at heq
            rw [← heq]
            exact if_pos hrecovering
          · refine Roster.allocate_congr ?_ new
            by_cases hx : s.ownerOf x = 0
            · simp [Roster.forget, hx]
            · exact if_neg (hcond hx)

/-! ## Every run -/

theorem OwnersAgree.broadcast {e : PlaneEvent} {packets : List SupervisorPacket} {i c m : Nat}
    (h : Orderly σ) (hbooked : σ.supervisor.Booked) (hkeeps : keepsOwners σ e)
    (hbroadcast : Broadcast σ e s' packets) (henrolled : σ.Enrolled i c m)
    (hstays : (s'.managedServerList.find m).isSome) (hagree : OwnersAgree σ.supervisor r) :
    OwnersAgree s' (settled Roster.apply r packets) := by
  cases hbroadcast with
  | @registered c now info =>
      intro x
      refine Eq.trans ?_ (hagree x)
      simp [Roster.apply]
  | @recovered c now packet rest hup hzero haccepted =>
      intro x
      rw [owner_recovered, hagree x]
      exact ((recovery_spec_of_accepted σ.supervisor c packet now haccepted).2.1 x).symm
  | @closed c₀ server s' actions hbound hserver hclosed =>
      refine (ownersAgree_closed_iff h.exclusive hagree hclosed hbound hserver).2 ?_
      refine hkeeps server hbound hserver ⟨i, c, m, henrolled, ?_⟩
      rintro rfl
      rcases closed_cases hclosed with ⟨hzero, _⟩ | ⟨_, _, _, rfl, _⟩
      · exact hbound hzero
      · rw [find_released, if_pos rfl] at hstays
        cases hstays
  | updated now =>
      exact (ownersAgree_update_iff hbooked hagree now).2 fun hdelay helapsed =>
        hkeeps hdelay helapsed ⟨i, c, m, henrolled⟩

theorem OwnersAgree.admission {e : PlaneEvent} {answer : List SupervisorPacket} {i c m : Nat}
    (h : Orderly σ) (hkeeps : keepsOwners σ e) (hi : σ.session i = some c)
    (hadmission : Admission σ i c m e s' answer) :
    OwnersAgree s' (settled Roster.apply (roster (σ.minion i)) answer) := by
  cases hadmission with
  | @registered now packet info rest hup hzero =>
      exact (ownersAgree_registered_iff h.exclusive c info now).2 (hkeeps i _ rest hi hup hzero)
  | @recovered now packet rest hup hzero haccepted =>
      exact (ownersAgree_recovered_iff haccepted).2 (hkeeps i _ rest hi hup hzero haccepted)

/-- Every managed server will agree with the supervisor on the owners. -/
def OwnerAgreement (σ : Plane) : Prop :=
  ∀ ⦃i c m⦄, σ.Enrolled i c m → OwnersAgree σ.supervisor (σ.outlook i c)

/-- An admission that leaves the agreement was that of a server up to date. -/
theorem upToDate_of_agreement (h : Orderly σ) {i c : Nat} {now : Milliseconds}
    {request : MinionPacket} {rest : List MinionPacket} {result : SupervisorWorker × List Action}
    (hi : σ.session i = some c) (hopen : σ.opened c = true) (hup : σ.up c = request :: rest)
    (hzero : σ.supervisor.serverIdOf c = 0)
    (hserve : σ.supervisor.onSocketSessionData c now request = some result)
    (hafter : OwnerAgreement ((σ.take c rest).dispatch result)) :
    UpToDate σ.supervisor (roster (σ.minion i)) request := by
  cases request with
  | registerMinionServerRq packet =>
      obtain ⟨s', actions⟩ := result
      have hregister : σ.supervisor.onServerRegisterMinionServerReq c packet now =
          some (s', actions) := by
        simpa [onSocketSessionData, hzero] using hserve
      rcases register_cases hregister with ⟨hbound, _⟩ | ⟨info, _, _, _, rfl, rfl⟩
      · exact absurd hzero hbound
      · have hagree := @hafter i c info.serverId
          ⟨hi, ⟨c, info, []⟩, UnorderedMap.find_insert_self _ _ _, rfl⟩
        rw [outlook_register h hi hopen hup hzero] at hagree
        exact (ownersAgree_registered_iff h.exclusive c info now).1 hagree
  | recoveryMinionServerRq packet =>
      intro haccepted
      have hresult : result = σ.supervisor.onServerRecoveryMinionServerReq c packet now := by
        simpa [onSocketSessionData, hzero] using hserve.symm
      subst hresult
      have hagree := hafter (enrolled_recovery rest hi haccepted)
      rw [outlook_recovery h hi hopen hup hzero haccepted] at hagree
      exact (ownersAgree_recovered_iff haccepted).1 hagree
  | authorizeServerRq =>
      trivial
  | authorizeServerRs =>
      trivial

theorem keepsOwners_of_agreement {e : PlaneEvent} (h : Orderly σ) (hbooked : σ.supervisor.Booked)
    (hagreement : OwnerAgreement σ) (hstep : PlaneStep config σ e σ')
    (hafter : OwnerAgreement σ') : keepsOwners σ e := by
  cases hstep with
  | @serve c now request rest result hopen hup hserve =>
      intro i request' rest' hi hup' hzero
      cases hup.symm.trans hup'
      exact upToDate_of_agreement h hi hopen hup hzero hserve hafter
  | @close c result hopen hclosed =>
      obtain ⟨s', actions⟩ := result
      rintro server hbound hserver ⟨i, c', m, henrolled, hm⟩
      have hstays := enrolled_close hclosed henrolled hm
      have hagree := hafter hstays
      rw [outlook_close h hclosed hbound hserver hstays] at hagree
      exact (ownersAgree_closed_iff h.exclusive (hagreement henrolled) hclosed hbound hserver).1
        hagree
  | update now =>
      rintro hdelay helapsed ⟨i, c, m, henrolled⟩
      have hagree := hafter (enrolled_update henrolled now)
      rw [outlook_update h henrolled] at hagree
      exact (ownersAgree_update_iff hbooked (hagreement henrolled) now).1 hagree hdelay helapsed
  | connect | receive | lose | lateral | reorder =>
      trivial

theorem ownerAgreement_step_iff {e : PlaneEvent} (h : Orderly σ) (hbooked : σ.supervisor.Booked)
    (hagreement : OwnerAgreement σ) (hstep : PlaneStep config σ e σ') :
    OwnerAgreement σ' ↔ keepsOwners σ e := by
  refine ⟨keepsOwners_of_agreement h hbooked hagreement hstep, fun hkeeps i c m henrolled => ?_⟩
  rcases told_of_step h hstep henrolled with
    ⟨hold, houtlook, hsame⟩ | ⟨hold, packets, hbroadcast, houtlook⟩ |
      ⟨hi, answer, hadmission, houtlook⟩
  · intro x
    rw [houtlook, hsame.owner]
    exact hagreement hold x
  · rw [houtlook]
    obtain ⟨_, server, hserver, _⟩ := henrolled
    have hstays : (σ'.supervisor.managedServerList.find m).isSome = true := by
      rw [hserver]
      rfl
    exact (hagreement hold).broadcast h hbooked hkeeps hbroadcast hold hstays
  · rw [houtlook]
    exact OwnersAgree.admission h hkeeps hi hadmission

theorem ownerAgreement_of_reachable
    (hreach : ((plane config).restrict keepsOwners).Reachable σ) : OwnerAgreement σ := by
  induction hreach with
  | init hinit =>
      obtain ⟨now, rfl⟩ := hinit
      rintro i c m ⟨hi, _⟩
      cases hi
  | step hreach hstep ih =>
      have hbooked := (booked_of_reachable hreach.of_restrict).1
      have horderly := orderly_of_reachable hreach.of_restrict
      exact (ownerAgreement_step_iff horderly hbooked ih hstep.2).2 hstep.1

/-- In every run in which a minion server that is admitted is up to date on the sectors its answer
does not tell, a server of which others are told that it has left has all its sectors on its list, and
no sector is owned by a server that counts as recovering when the recovery countdown is over: a minion
server whose channel is empty takes for the owner of each sector whom the supervisor does.  The
condition is exact: after such a run, the next step leaves every managed server in agreement, once it
has received what is on its way, if and only if it meets it. -/
theorem sector_owner_agreement (hreach : ((plane config).restrict keepsOwners).Reachable σ) :
    (∀ i c m, σ.Enrolled i c m → σ.down c = [] →
      ∀ x, (σ.minion i).sectorPostingManager.owner x = σ.supervisor.ownerOf x) ∧
      ∀ e σ', (plane config).step σ e σ' → (OwnerAgreement σ' ↔ keepsOwners σ e) := by
  have horderly := orderly_of_reachable hreach.of_restrict
  have hbooked := (booked_of_reachable hreach.of_restrict).1
  have hagreement := ownerAgreement_of_reachable hreach
  refine ⟨fun i c m henrolled hquiet x => ?_,
    fun e σ' hstep => ownerAgreement_step_iff horderly hbooked hagreement hstep⟩
  have hagree := hagreement henrolled x
  rw [Plane.outlook, hquiet, settled_nil] at hagree
  exact hagree

/-! ## Runs -/

namespace Sample

open GameServer.Sample

def agencyConfig : Configuration :=
  { playConfig with serverType := .Agency, address := ⟨"127.0.0.1", 11001⟩ }

/-- The first server is an agency. -/
def cluster : Nat → Configuration
  | 0 => agencyConfig
  | _ => playConfig

/-- Both servers are connected. -/
def bothConnected : Plane := ((start cluster).connect 0 0).connect 1 1

/-- The agency has registered, as server 2. -/
def agencyServed : Plane := (bothConnected.next cluster [1, 0] (.serve 0 0)).getD bothConnected

/-- The play server has registered, as server 3. -/
def bothServed : Plane := (agencyServed.next cluster [1, 0] (.serve 1 0)).getD agencyServed

/-- They receive their answers; then an update allocates the sectors, and they receive that. -/
def afterUpdate : List PlaneEvent :=
  [.receive 0, .receive 0, .receive 0, .receive 0, .receive 1, .receive 1, .receive 1,
   .update 2001, .receive 0, .receive 1]

/-- Nobody is admitted or closed, and no recovery expires. -/
def undisputed (σ : Plane) : PlaneEvent → Bool
  | .serve _ _ => false
  | .close _ => false
  | .update now => !σ.supervisor.recoveryCountdown.elapsed now
  | _ => true

def sectorsAllocated : Plane :=
  (replay cluster undisputed [1, 0] bothServed afterUpdate).getD bothServed

/-- The agency loses its session, the play server leaves, and the agency recovers. -/
def recoveredUninformed : Plane :=
  after cluster (fun _ _ => true)
    (enlist 0 0 0 ++ enlist 1 1 0 ++ [.receive 0, .update 2001, .receive 0, .receive 1] ++
      outage 0 0 ++ [.receive 1, .receive 1] ++ outage 1 1 ++ enlist 0 2 3000)

end Sample

open Sample

theorem keepsOwners_of_undisputed (σ : Plane) (e : PlaneEvent) (h : undisputed σ e = true) :
    keepsOwners σ e := by
  cases e with
  | serve c now =>
      cases h
  | close c =>
      cases h
  | update now =>
      intro _ helapsed
      simp [undisputed, helapsed] at h
  | connect | receive | lose | lateral | reorder =>
      trivial

/-- As long as nobody owns anything, every server is up to date. -/
theorem keepsOwners_of_unowned {c : Nat} {now : Milliseconds}
    (howner : ∀ x, σ.supervisor.ownerOf x = 0) (hroster : ∀ i x, (roster (σ.minion i)).owner x = 0) :
    keepsOwners σ (.serve c now) := by
  intro i request rest _ _ _
  have hsame : ∀ x, (roster (σ.minion i)).owner x = σ.supervisor.ownerOf x :=
    fun x => (hroster i x).trans (howner x).symm
  cases request with
  | registerMinionServerRq packet =>
      exact fun x _ => hsame x
  | recoveryMinionServerRq packet =>
      exact fun _ x _ => hsame x
  | authorizeServerRq =>
      trivial
  | authorizeServerRs =>
      trivial

theorem reachable_sectorsAllocated :
    ((plane cluster).restrict keepsOwners).Reachable sectorsAllocated := by
  have hstart : ((plane cluster).restrict keepsOwners).Reachable (start cluster) := .init ⟨0, rfl⟩
  have hfirst : PlaneStep cluster (start cluster) (.connect 0 0) ((start cluster).connect 0 0) :=
    .connect rfl rfl (fun j hj => by cases hj) rfl
  have hsecond : PlaneStep cluster ((start cluster).connect 0 0) (.connect 1 1) bothConnected := by
    refine .connect rfl rfl (fun j hj => ?_) rfl
    rcases j with _ | j
    · cases hj
    · cases hj
  have hconnected := (hstart.step_restrict hfirst trivial).step_restrict hsecond trivial
  -- nobody owns anything until both have registered
  have hused : ∀ j c, bothConnected.session j = some c → c ∈ [1, 0] := by
    intro j c hj
    rcases j with _ | _ | j <;> cases hj <;> decide
  have hagency : PlaneStep cluster bothConnected (.serve 0 0) agencyServed := next_sound hused rfl
  have hplay : PlaneStep cluster agencyServed (.serve 1 0) bothServed := next_sound hused rfl
  have hunowned : keepsOwners bothConnected (.serve 0 0) := by
    refine keepsOwners_of_unowned (fun x => ownerOf_new 0 x) fun i x => ?_
    rcases i with _ | _ | i <;> rfl
  have hunowned' : keepsOwners agencyServed (.serve 1 0) := by
    refine keepsOwners_of_unowned (fun x => ownerOf_new 0 x) fun i x => ?_
    rcases i with _ | _ | i <;> rfl
  have hserved := (hconnected.step_restrict hagency hunowned).step_restrict hplay hunowned'
  unfold sectorsAllocated
  cases hreplay : replay cluster undisputed [1, 0] bothServed afterUpdate with
  | none =>
      exact hserved
  | some σ =>
      exact replay_reachable keepsOwners_of_undisputed afterUpdate hserved hused hreplay

/-- The agency knows that the play server owns the sector 7. -/
theorem sector_owner_agreement_sectorsAllocated :
    sectorsAllocated.Enrolled 0 0 2 ∧ sectorsAllocated.down 0 = [] ∧
      (sectorsAllocated.minion 0).sectorPostingManager.owner 7 = 3 ∧
      ∀ x, (sectorsAllocated.minion 0).sectorPostingManager.owner x =
        sectorsAllocated.supervisor.ownerOf x := by
  have henrolled : sectorsAllocated.Enrolled 0 0 2 := by
    refine ⟨by decide +kernel, ⟨0, ⟨.Agency, 2, ⟨"127.0.0.1", 11001⟩⟩, []⟩, ?_, rfl⟩
    decide +kernel
  have hquiet : sectorsAllocated.down 0 = [] := by decide +kernel
  exact ⟨henrolled, hquiet, by decide +kernel,
    (sector_owner_agreement reachable_sectorsAllocated).1 0 0 2 henrolled hquiet⟩

/-- A play server leaves while the agency has lost its session.  When the agency has recovered,
nothing is on its way, and it takes the play server for the owner of a sector that nobody owns. -/
theorem recovered_server_misses_release :
    (plane cluster).Reachable recoveredUninformed ∧ recoveredUninformed.Enrolled 0 2 2 ∧
      (∀ c, recoveredUninformed.down c = []) ∧
      (recoveredUninformed.minion 0).sectorPostingManager.owner 7 = 3 ∧
      recoveredUninformed.supervisor.ownerOf 7 = 0 := by
  have hreach : ((plane cluster).restrict fun _ _ => True).Reachable recoveredUninformed :=
    reachable_after cluster (fun _ _ _ => trivial) _
  refine ⟨hreach.of_restrict, ?_, ?_, by decide +kernel, by decide +kernel⟩
  · refine ⟨by decide +kernel, ⟨2, ⟨.Agency, 2, ⟨"127.0.0.1", 11001⟩⟩, []⟩, ?_, rfl⟩
    decide +kernel
  · intro c
    rcases c with _ | _ | _ | c
    · decide +kernel
    · decide +kernel
    · decide +kernel
    · rfl

end Control
end SeamlessServer
