import SeamlessServer.Game.Sectors
import SeamlessServer.Supervisor.Sessions

/-!
# Play.Worker — a play server and its sectors

`play/PlayWorker.cpp`, as far as the supervisor reaches it: a minion server with a world, whose
sectors follow the allocation packets.

The supervisor answers an accepted recovery with a broadcast to all managed servers, and the server
that recovers is one of them by then.  It is told about the sectors it has claimed as if they were
new, and `World::AddSector` throws for a sector that is there.  `recovery_survived_iff` says that
this is the only way in which a play server does not survive its recovery.
-/

namespace SeamlessServer
namespace Play

open Protocol Game Utility Supervisor

structure PlayWorker where
  server : GameServer
  world : World

/-- `OnSupervisorSectorAllocation`. -/
def onSupervisorSectorAllocation (w : World) (myServerId : Nat)
    (allocation deallocation : List SectorAllocationInfo) : Outcome :=
  let w := deallocation.foldl (fun w info =>
    if info.serverInfo.serverId = myServerId then w.removeSector info.sectorId else w) w
  foldOutcome (fun w info =>
    if info.serverInfo.serverId = myServerId then
      w.addSector info.serverInfo.serverId info.sectorId
    else
      { world := w }) w allocation

namespace PlayWorker

variable (config : Configuration) (p : PlayWorker)

/-- A packet of the supervisor, and the throw that ends its handler, if any. -/
def onSupervisorPacket (session : Nat) (packet : SupervisorPacket) : PlayWorker × Option Fault :=
  let server := (p.server.onSupervisorPacket config session packet).1
  match packet with
  | .sectorAllocationPs allocation deallocation =>
      let outcome := onSupervisorSectorAllocation p.world server.myServerInfo.serverId allocation
        deallocation
      (⟨server, outcome.world⟩, outcome.fault)
  | .recoveryMinionServerRs error =>
      -- `OnSupervisorResetMinionServer`, called by `Reset`
      (⟨server, if error = .None then p.world else p.world.clearSector⟩, none)
  | _ => (⟨server, p.world⟩, none)

/-- Packets in order, up to the first throw. -/
def process (session : Nat) : PlayWorker → List SupervisorPacket → PlayWorker × Option Fault
  | p, [] => (p, none)
  | p, packet :: rest =>
      match p.onSupervisorPacket config session packet with
      | (p, some fault) => (p, some fault)
      | (p, none) => process session p rest

end PlayWorker

end Play

/-! ## Sectors of a world -/

namespace Game
namespace World

variable {w : World} {x y : Nat}

/-- The world has the sector. -/
def Live (w : World) (x : Nat) : Prop := ∃ sector, w.sectors.find x = some (some sector)

theorem addSector_of_live (h : w.Live x) (serverId : Nat) :
    (w.addSector serverId x).fault = some .duplicateSector := by
  obtain ⟨sector, hsector⟩ := h
  rw [addSector, sectorAt_of_find hsector]

/-- A sector that is not there is added without fixtures. -/
theorem addSector_of_not_live (h : ¬ w.Live x) (serverId : Nat) :
    (w.addSector serverId x).fault = none ∧
      (w.addSector serverId x).world.sectors.find x = some (some (SectorSystem.new serverId x)) ∧
      ∀ y, y ≠ x → (w.addSector serverId x).world.sectors.find y = w.sectors.find y := by
  unfold addSector sectorAt
  cases hfind : w.sectors.find x with
  | none =>
      refine ⟨rfl, UnorderedMap.find_insert_self _ _ _, fun y hy => ?_⟩
      simp [setSector, hy]
  | some entry =>
      cases entry with
      | some sector =>
          exact absurd ⟨sector, hfind⟩ h
      | none =>
          refine ⟨rfl, UnorderedMap.find_insert_self _ _ _, fun y hy => ?_⟩
          simp [setSector, hy]

theorem fixtureAt_addSector (h : ¬ w.Live x) (serverId y object : Nat) :
    (w.addSector serverId x).world.fixtureAt y object = w.fixtureAt y object := by
  obtain ⟨_, hnew, hothers⟩ := addSector_of_not_live h serverId
  by_cases hy : y = x
  · subst hy
    have hnone : w.fixtureAt y object = none := by
      unfold fixtureAt
      split
      next sector hsector => exact absurd ⟨sector, hsector⟩ h
      next => rfl
    rw [hnone, fixtureAt, hnew]
    rfl
  · rw [fixtureAt, fixtureAt, hothers y hy]

theorem live_addSector_of_ne (h : ¬ w.Live x) (serverId : Nat) (hy : y ≠ x) :
    (w.addSector serverId x).world.Live y ↔ w.Live y := by
  rw [Live, (addSector_of_not_live h serverId).2.2 y hy, Live]

/-- Adding distinct sectors succeeds exactly if none of them is there, and then changes no
fixture. -/
theorem addSectors_iff (serverId : Nat) (xs : List Nat) :
    ∀ w : World, xs.Nodup →
      let outcome := foldOutcome (fun w x => w.addSector serverId x) w xs
      (outcome.fault = none ↔ ∀ x ∈ xs, ¬ w.Live x) ∧
        (outcome.fault = none → ∀ y object,
          outcome.world.fixtureAt y object = w.fixtureAt y object) := by
  induction xs with
  | nil =>
      intro w _
      exact ⟨iff_of_true rfl fun x hx => absurd hx List.not_mem_nil, fun _ _ _ => rfl⟩
  | cons x xs ih =>
      intro w hnodup
      rw [List.nodup_cons] at hnodup
      by_cases hlive : w.Live x
      · -- the loop is left at this sector
        have hfault := addSector_of_live hlive serverId
        have houtcome : (foldOutcome (fun w x => w.addSector serverId x) w (x :: xs)).fault =
            some .duplicateSector := by
          simp [foldOutcome, hfault]
        dsimp only
        rw [houtcome]
        refine ⟨iff_of_false (by simp) fun h => h x List.mem_cons_self hlive, ?_⟩
        intro h
        cases h
      · have hadd := addSector_of_not_live hlive serverId
        obtain ⟨hiff, hkeep⟩ := ih (w.addSector serverId x).world hnodup.2
        have hrest : ∀ y ∈ xs, (w.addSector serverId x).world.Live y ↔ w.Live y := by
          intro y hy
          refine live_addSector_of_ne hlive serverId ?_
          rintro rfl
          exact hnodup.1 hy
        dsimp only
        simp only [foldOutcome, hadd.1, hiff, List.forall_mem_cons]
        refine ⟨⟨fun h => ⟨hlive, fun y hy => ?_⟩, fun h y hy => ?_⟩, fun h y object => ?_⟩
        · rw [← hrest y hy]
          exact h y hy
        · rw [hrest y hy]
          exact h.2 y hy
        · exact (hkeep (hiff.2 h) y object).trans (fixtureAt_addSector hlive serverId y object)

end World
end Game

/-! ## Recovery -/

namespace Play

open Protocol Game Utility Supervisor SupervisorWorker

/-- A loop over handlers depends on the rounds only through what the body makes of them. -/
theorem foldOutcome_map {α β : Type} (f : α → β) {body : World → β → Outcome}
    {body' : World → α → Outcome} (items : List α) :
    ∀ w : World, (∀ w, ∀ a ∈ items, body w (f a) = body' w a) →
      foldOutcome body w (items.map f) = foldOutcome body' w items := by
  induction items with
  | nil =>
      intro w _
      rfl
  | cons a items ih =>
      intro w h
      have hrest := fun w => ih w fun w b hb => h w b (List.mem_cons_of_mem a hb)
      simp only [List.map_cons, foldOutcome, h w a List.mem_cons_self, hrest]

/-- The packets of an accepted recovery are processed without a throw, and no sector of the world
loses or gains a fixture. -/
def Survives (config : Configuration) (p : PlayWorker) (session : Nat)
    (packets : List SupervisorPacket) : Prop :=
  let result := p.process config session packets
  result.2 = none ∧ ∀ x object, result.1.world.fixtureAt x object = p.world.fixtureAt x object

/-- What a play server does with the three packets comes down to adding the sectors it claimed. -/
theorem process_recovery (config : Configuration) (p : PlayWorker) (session : Nat)
    (packet : RecoveryMinionServerRq)
    (hid : p.server.myServerInfo.serverId = packet.serverInfo.serverId) :
    let result := p.process config session
      [.recoveryMinionServerRs .None, .updateIntraServerInfoPs [packet.serverInfo] [],
       .sectorAllocationPs (packet.sectors.map (SectorAllocationInfo.mk packet.serverInfo)) []]
    let outcome := foldOutcome (fun w x => w.addSector packet.serverInfo.serverId x) p.world
      packet.sectors
    result.2 = outcome.fault ∧ result.1.world = outcome.world := by
  have hloop : onSupervisorSectorAllocation p.world packet.serverInfo.serverId
      (packet.sectors.map (SectorAllocationInfo.mk packet.serverInfo)) [] =
        foldOutcome (fun w x => w.addSector packet.serverInfo.serverId x) p.world
          packet.sectors :=
    foldOutcome_map _ packet.sectors p.world fun w x _ => if_pos rfl
  -- the server keeps its id through the first two packets
  have hjoined : ∀ g : GameServer, ∀ info : ServerInfo,
      (g.joinServer config info).1.myServerInfo = g.myServerInfo := by
    intro g info
    unfold GameServer.joinServer
    split
    · rfl
    · dsimp only
      split <;> rfl
  have hmine : (p.server.updateIntraServerInfoPs config [packet.serverInfo]
      []).1.myServerInfo.serverId = packet.serverInfo.serverId :=
    (congrArg ServerInfo.serverId (hjoined p.server packet.serverInfo)).trans hid
  let informed : PlayWorker :=
    ⟨(p.server.updateIntraServerInfoPs config [packet.serverInfo] []).1, p.world⟩
  have hfirst : p.process config session
      [.recoveryMinionServerRs .None, .updateIntraServerInfoPs [packet.serverInfo] [],
       .sectorAllocationPs (packet.sectors.map (SectorAllocationInfo.mk packet.serverInfo)) []] =
        informed.process config session
          [.sectorAllocationPs (packet.sectors.map (SectorAllocationInfo.mk packet.serverInfo))
            []] := rfl
  have hoc : onSupervisorSectorAllocation informed.world
      (informed.server.sectorAllocationPs
        (packet.sectors.map (SectorAllocationInfo.mk packet.serverInfo))).myServerInfo.serverId
      (packet.sectors.map (SectorAllocationInfo.mk packet.serverInfo)) [] =
        foldOutcome (fun w x => w.addSector packet.serverInfo.serverId x) p.world
          packet.sectors := by
    have hsame : (informed.server.sectorAllocationPs (packet.sectors.map
        (SectorAllocationInfo.mk packet.serverInfo))).myServerInfo.serverId =
          packet.serverInfo.serverId := hmine
    rw [hsame]
    exact hloop
  rw [hfirst]
  dsimp only [PlayWorker.process, PlayWorker.onSupervisorPacket, GameServer.onSupervisorPacket]
  rw [hoc]
  generalize foldOutcome (fun w x => w.addSector packet.serverInfo.serverId x) p.world
    packet.sectors = outcome
  cases hfault : outcome.fault with
  | none =>
      exact ⟨rfl, rfl⟩
  | some fault =>
      exact ⟨rfl, rfl⟩

/-- A play server survives an accepted recovery exactly if none of the sectors it has claimed is in
its world.  `g` is the server when it sent the request, `p` the play server when the answer comes. -/
theorem recovery_survived_iff (config : Configuration) {g : GameServer}
    (hg : (minion config).Reachable g) {s : SupervisorWorker}
    (hs : (machine.restrict attended).Reachable s) {session : Nat}
    (hsession : s.serverIdOf session = 0) (now : Milliseconds)
    (haccepted : s.recoveryAccepted g.recoveryPacket = true) {p : PlayWorker}
    (hid : p.server.myServerInfo = g.myServerInfo) (mySession : Nat) :
    Survives config p mySession
        (packetsTo session (onServerRecoveryMinionServerReq s session g.recoveryPacket now).2) ↔
      ∀ x ∈ g.recoveryPacket.sectors, ¬ p.world.Live x := by
  have hex := exclusive_of_reachable hs.of_restrict
  have hbound := bound_of_reachable hs
  -- no sector comes twice in the packet of a server
  have hnodup : g.recoveryPacket.sectors.Nodup :=
    GameServer.kept_of_reachable SectorPostingManager.RelatedNodup.kept hg g.myServerInfo.serverId
  have hmine : p.server.myServerInfo.serverId = g.recoveryPacket.serverInfo.serverId :=
    congrArg ServerInfo.serverId hid
  rw [packetsTo_recovery hex hbound hsession g.recoveryPacket now haccepted]
  obtain ⟨hfault, hworld⟩ := process_recovery config p mySession g.recoveryPacket hmine
  obtain ⟨hiff, hkeep⟩ := World.addSectors_iff g.recoveryPacket.serverInfo.serverId
    g.recoveryPacket.sectors p.world hnodup
  unfold Survives
  dsimp only
  rw [hfault, hworld, hiff]
  exact and_iff_left_of_imp fun h => hkeep (hiff.2 h)

/-! ## The second of two play servers -/

namespace Sample

open GameServer.Sample

/-- The supervisor of `GameServer.Sample.joined`: a second server has registered over session 2. -/
def twoServers : SupervisorWorker :=
  ((onServerRegisterMinionServerReq oneServer 2 ⟨.Play, ⟨"127.0.0.1", 11002⟩⟩ 0).map
    Prod.fst).getD oneServer

/-- Its sectors are allocated, then the connection is lost. -/
def released : SupervisorWorker :=
  ((onSocketSessionClosed (twoServers.update 2001).1 2).map Prod.fst).getD twoServers

theorem reachable_twoServers : (machine.restrict attended).Reachable twoServers := by
  have hregister : Step oneServer (.register 2 ⟨.Play, ⟨"127.0.0.1", 11002⟩⟩ 0) twoServers :=
    Step.register rfl
  have hnew : (machine.restrict attended).Reachable (SupervisorWorker.new 0) := .init ⟨0, rfl⟩
  exact (hnew.step_restrict step_oneServer trivial).step_restrict hregister trivial

theorem reachable_released : (machine.restrict attended).Reachable released := by
  have hclosed : Step (twoServers.update 2001).1 (.closed 2) released := Step.closed rfl
  exact (reachable_twoServers.step_restrict (Step.update twoServers 2001) trivial).step_restrict
    hclosed trivial

/-- The play server with the sectors the supervisor gave it. -/
def populated : PlayWorker :=
  (PlayWorker.process playConfig 0 ⟨joined, World.blank⟩
    (packetsTo 2 (twoServers.update 2001).2)).1

/-- The server after the allocation, and after the connection to the supervisor is lost and made
again over the session given. -/
def reconnected (g : GameServer) (session : Nat) : GameServer :=
  (((g.onSocketSessionClosed 0).getD g).onSocketSessionConnected session supervisorServerId).1

theorem reachable_joined : (minion playConfig).Reachable joined :=
  .step reachable_registered step_joined

theorem reachable_reconnected {g : GameServer} (hg : (minion playConfig).Reachable g)
    (hclosed : (g.onSocketSessionClosed 0).isSome = true) (session : Nat) :
    (minion playConfig).Reachable (reconnected g session) := by
  obtain ⟨g', hg'⟩ := Option.isSome_iff_exists.1 hclosed
  have hstep : MinionStep playConfig g (.closed 0) ((g.onSocketSessionClosed 0).getD g) := by
    refine MinionStep.closed ?_
    rw [hg']
    rfl
  exact .step (.step hg hstep) (MinionStep.connected _ session supervisorServerId)

theorem reachable_populated : (minion playConfig).Reachable populated.server := by
  have hpacket : packetsTo 2 (twoServers.update 2001).2 =
      [.sectorAllocationPs ((List.range 25).map fun x =>
        ⟨if x % 2 = 0 then ⟨.Play, 2, ⟨"127.0.0.1", 5000⟩⟩
          else ⟨.Play, 3, ⟨"127.0.0.1", 11002⟩⟩, x⟩) []] := by
    decide +kernel
  unfold populated
  rw [hpacket]
  exact .step reachable_joined
    (MinionStep.supervisorPacket _ 0 (.sectorAllocationPs _ []) (by decide +kernel))

end Sample

/-- A play server that owns twelve sectors recovers: the first of them makes `AddSector` throw. -/
theorem recovery_throws :
    (minion GameServer.Sample.playConfig).Reachable (Sample.reconnected Sample.populated.server 1) ∧
      (machine.restrict attended).Reachable Sample.released ∧ Sample.released.serverIdOf 3 = 0 ∧
      Sample.released.recoveryAccepted
        (Sample.reconnected Sample.populated.server 1).recoveryPacket = true ∧
      (Sample.reconnected Sample.populated.server 1).recoveryPacket.sectors.length = 12 ∧
      (PlayWorker.process GameServer.Sample.playConfig 1
        ⟨Sample.reconnected Sample.populated.server 1, Sample.populated.world⟩
        (packetsTo 3 (onServerRecoveryMinionServerReq Sample.released 3
          (Sample.reconnected Sample.populated.server 1).recoveryPacket 3000).2)).2 =
            some .duplicateSector ∧
      ¬ Survives GameServer.Sample.playConfig
        ⟨Sample.reconnected Sample.populated.server 1, Sample.populated.world⟩ 1
        (packetsTo 3 (onServerRecoveryMinionServerReq Sample.released 3
          (Sample.reconnected Sample.populated.server 1).recoveryPacket 3000).2) := by
  have hthrow : (PlayWorker.process GameServer.Sample.playConfig 1
      ⟨Sample.reconnected Sample.populated.server 1, Sample.populated.world⟩
      (packetsTo 3 (onServerRecoveryMinionServerReq Sample.released 3
        (Sample.reconnected Sample.populated.server 1).recoveryPacket 3000).2)).2 =
          some .duplicateSector := by
    decide +kernel
  refine ⟨Sample.reachable_reconnected Sample.reachable_populated (by decide +kernel) 1,
    Sample.reachable_released, by decide +kernel, by decide +kernel, by decide +kernel, hthrow, ?_⟩
  rintro ⟨hnone, _⟩
  rw [hthrow] at hnone
  cases hnone

/-- The same server before it owns a sector survives. -/
theorem recovery_survived_without_sectors :
    Sample.released.recoveryAccepted
        (Sample.reconnected GameServer.Sample.joined 1).recoveryPacket = true ∧
      Survives GameServer.Sample.playConfig
        ⟨Sample.reconnected GameServer.Sample.joined 1, World.blank⟩ 1
        (packetsTo 3 (onServerRecoveryMinionServerReq Sample.released 3
          (Sample.reconnected GameServer.Sample.joined 1).recoveryPacket 3000).2) := by
  have haccepted : Sample.released.recoveryAccepted
      (Sample.reconnected GameServer.Sample.joined 1).recoveryPacket = true := by
    decide +kernel
  have hnone : (Sample.reconnected GameServer.Sample.joined 1).recoveryPacket.sectors = [] := by
    decide +kernel
  have hreach := Sample.reachable_reconnected Sample.reachable_joined (by decide +kernel) 1
  refine ⟨haccepted, (recovery_survived_iff GameServer.Sample.playConfig hreach
    Sample.reachable_released (by decide +kernel) 3000 haccepted rfl 1).2 ?_⟩
  rw [hnone]
  exact fun x hx => absurd hx List.not_mem_nil

end Play

end SeamlessServer
