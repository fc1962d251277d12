import SeamlessServer.Game.Counters
import SeamlessServer.Game.SectorGrid
import SeamlessServer.Play.Worker

/-!
# Play.ObjectIds — object ids over a whole run

Play servers with their worlds, under allocation packets, spawns and all other operations.  An id is
made of the server, the sector and a counter that starts with every `SectorSystem`.  A sector that is
taken from a server and given back has a new `SectorSystem`, so what it spawns gets ids that were
assigned before.

The records of this module are read by no step: `epoch` counts how often a sector was taken from a
server, `created` and `spawns` the calls of `CreateFixture` in the current epoch and in the whole
run, and `issued` holds the ids that were assigned.
-/

namespace SeamlessServer
namespace Play

open Protocol Game Utility

/-- An id that a spawn was answered with. -/
structure Issue where
  server : Nat
  sector : Nat
  epoch : Nat
  index : Nat
  id : Nat
  deriving DecidableEq, Repr

def Issue.place (i : Issue) : Nat × Nat := (i.server, i.sector)

structure Fleet where
  worlds : Nat → World
  epoch : Nat × Nat → Nat
  created : Nat × Nat → Nat
  spawns : Nat × Nat → Nat
  issued : List Issue

inductive FleetEvent where
  | allocation (server : Nat) (allocation deallocation : List SectorAllocationInfo)
  | spawn (server source : Nat) (packet : SpawnCharacterRq) (now : Milliseconds)
  | perform (server : Nat) (op : World.Operation)

/-- The largest server id for which ids fit into 64 bits. -/
def maxServerId : Nat := 18445

/-- The packet takes the sector from the server. -/
def takes (deallocation : List SectorAllocationInfo) (server sector : Nat) : Bool :=
  deallocation.any fun info => info.serverInfo.serverId == server && info.sectorId == sector

namespace Fleet

def new : Fleet where
  worlds := fun _ => World.blank
  epoch := fun _ => 0
  created := fun _ => 0
  spawns := fun _ => 0
  issued := []

variable (s : Fleet)

/-- `OnSupervisorSectorAllocation` at a server. -/
def allocate (server : Nat) (allocation deallocation : List SectorAllocationInfo) : Fleet :=
  { s with
    worlds := Function.update s.worlds server
      (onSupervisorSectorAllocation (s.worlds server) server allocation deallocation).world
    epoch := fun place =>
      if place.1 = server ∧ takes deallocation server place.2 = true then s.epoch place + 1
      else s.epoch place
    created := fun place =>
      if place.1 = server ∧ takes deallocation server place.2 = true then 0
      else s.created place }

/-- `SpawnCharacter` at a server. -/
def spawn (server source : Nat) (packet : SpawnCharacterRq) (now : Milliseconds) : Fleet :=
  let r := (s.worlds server).spawnCharacter source packet now
  let place := (server, packet.sectorId)
  let called := if ((s.worlds server).counterAt packet.sectorId).isSome then 1 else 0
  { s with
    worlds := Function.update s.worlds server r.world
    created := Function.update s.created place (s.created place + called)
    spawns := Function.update s.spawns place (s.spawns place + called)
    issued := s.issued ++ (World.assignedId r).toList.map
      (Issue.mk server packet.sectorId (s.epoch place) (s.created place)) }

def perform (server : Nat) (op : World.Operation) : Fleet :=
  { s with worlds := Function.update s.worlds server ((s.worlds server).perform op).world }

/-- The supervisor gives and takes sectors of the grid. -/
inductive Step (s : Fleet) : FleetEvent → Fleet → Prop where
  | allocation {server : Nat} {allocation deallocation : List SectorAllocationInfo} :
      server ≤ maxServerId → (∀ info ∈ allocation, info.sectorId < sectorCount) →
      Step s (.allocation server allocation deallocation)
        (s.allocate server allocation deallocation)
  | spawn {server source : Nat} {packet : SpawnCharacterRq} {now : Milliseconds} :
      Step s (.spawn server source packet now) (s.spawn server source packet now)
  | perform {server : Nat} {op : World.Operation} : op.KeepsCounters →
      Step s (.perform server op) (s.perform server op)

def machine : Machine Fleet FleetEvent where
  init := fun s => s = new
  step := Step

/-- A server spawns in a sector only if the sector was not taken from it since it has spawned
there. -/
def SameSector (s : Fleet) : FleetEvent → Prop
  | .spawn server _ packet _ => ∀ i ∈ s.issued, i.place = (server, packet.sectorId) →
      i.epoch = s.epoch (server, packet.sectorId)
  | _ => True

end Fleet

/-! ## Allocation packets -/

theorem counterAt_deallocation (deallocation : List SectorAllocationInfo) (server y : Nat) :
    ∀ w : World, (deallocation.foldl (fun w info =>
      if info.serverInfo.serverId = server then w.removeSector info.sectorId else w) w).counterAt y =
        if takes deallocation server y = true then none else w.counterAt y := by
  induction deallocation with
  | nil =>
      intro w
      rfl
  | cons info rest ih =>
      intro w
      have hcons : takes (info :: rest) server y =
          (info.serverInfo.serverId == server && info.sectorId == y || takes rest server y) := rfl
      rw [List.foldl_cons, ih, hcons]
      -- entries for other servers are skipped
      by_cases hserver : info.serverInfo.serverId = server
      · rw [if_pos hserver, World.counterAt_removeSector]
        by_cases hy : y = info.sectorId
        · simp [hserver, hy]
        · simp [hserver, hy, Ne.symm hy]
      · simp [hserver]

/-- After a packet a sector is as it was, is gone, or has been built anew. -/
theorem counterAt_onSupervisorSectorAllocation (w : World) (server : Nat)
    (allocation deallocation : List SectorAllocationInfo) (y : Nat) :
    let w' := (onSupervisorSectorAllocation w server allocation deallocation).world
    let kept := if takes deallocation server y = true then none else w.counterAt y
    w'.counterAt y = kept ∨
      (kept = none ∧ (∃ info ∈ allocation, info.sectorId = y) ∧
        w'.counterAt y = some (World.startingId server y)) := by
  have hloop : ∀ (allocation : List SectorAllocationInfo) (w : World),
      let w' := (foldOutcome (fun w info =>
        if info.serverInfo.serverId = server then w.addSector info.serverInfo.serverId info.sectorId
        else { world := w }) w allocation).world
      w'.counterAt y = w.counterAt y ∨
        (w.counterAt y = none ∧ (∃ info ∈ allocation, info.sectorId = y) ∧
          w'.counterAt y = some (World.startingId server y)) := by
    intro allocation
    induction allocation with
    | nil =>
        exact fun w => .inl rfl
    | cons info rest ih =>
        intro w
        by_cases hserver : info.serverInfo.serverId = server
        · have hadd := World.counterAt_addSector w info.serverInfo.serverId info.sectorId y
          have hrest := ih (w.addSector info.serverInfo.serverId info.sectorId).world
          cases hfault : (w.addSector info.serverInfo.serverId info.sectorId).fault with
          | some fault =>
              -- the assertion of `AddSector` ends the loop
              simp only [foldOutcome, if_pos hserver, hfault]
              refine hadd.imp_right ?_
              rintro ⟨hy, hnone, hnew⟩
              refine ⟨hnone, ⟨info, List.mem_cons_self, hy.symm⟩, ?_⟩
              rw [hnew, hserver, hy]
          | none =>
              simp only [foldOutcome, if_pos hserver, hfault]
              rcases hadd with hsame | ⟨hy, hnone, hnew⟩
              · rw [hsame] at hrest
                refine hrest.imp_right ?_
                rintro ⟨hnone, ⟨info', hinfo', hy⟩, hnew⟩
                exact ⟨hnone, ⟨info', List.mem_cons_of_mem _ hinfo', hy⟩, hnew⟩
              · -- the sector is there from now on
                rcases hrest with hsame | ⟨hnone', _⟩
                · refine .inr ⟨hnone, ⟨info, List.mem_cons_self, hy.symm⟩, hsame.trans ?_⟩
                  rw [hnew, hserver, hy]
                · rw [hnew] at hnone'
                  cases hnone'
        · have hrest := ih w
          simp only [foldOutcome, if_neg hserver]
          refine hrest.imp_right ?_
          rintro ⟨hnone, ⟨info', hinfo', hy⟩, hnew⟩
          exact ⟨hnone, ⟨info', List.mem_cons_of_mem _ hinfo', hy⟩, hnew⟩
  have hkept := counterAt_deallocation deallocation server y w
  dsimp only
  rw [← hkept]
  exact hloop allocation _

namespace Fleet

variable {s s' : Fleet}

/-! ## Counters and ids -/

/-- The number that the ids of a sector start with, before it is cut to 64 bits. -/
def baseId (place : Nat × Nat) : Nat :=
  place.1 * 1000000000000000 + 200000000000000 + 100000000000 * place.2 + 1

theorem startingId_eq (server sector : Nat) :
    World.startingId server sector = baseId (server, sector) % 2 ^ 64 := rfl

/-- The counter of a sector counts the calls since it was built, and ids are cut to 64 bits. -/
structure Counted (s : Fleet) : Prop where
  counter : ∀ {server sector c}, (s.worlds server).counterAt sector = some c →
    c = (baseId (server, sector) + s.created (server, sector)) % 2 ^ 64 ∧
      server ≤ maxServerId ∧ sector < sectorCount
  absent : ∀ {server sector}, (s.worlds server).counterAt sector = none →
    s.created (server, sector) = 0
  created_le : ∀ place, s.created place ≤ s.spawns place
  id : ∀ i ∈ s.issued, i.id = (baseId i.place + i.index) % 2 ^ 64 ∧
    i.server ≤ maxServerId ∧ i.sector < sectorCount
  index : ∀ i ∈ s.issued, i.index < s.spawns i.place ∧
    (i.epoch = s.epoch i.place → i.index < s.created i.place)
  epoch : ∀ i ∈ s.issued, i.epoch ≤ s.epoch i.place

theorem counted_new : new.Counted where
  counter := fun h => (by cases h)
  absent := fun _ => rfl
  created_le := fun _ => le_rfl
  id := fun i hi => absurd hi List.not_mem_nil
  index := fun i hi => absurd hi List.not_mem_nil
  epoch := fun i hi => absurd hi List.not_mem_nil

theorem Counted.allocate (h : s.Counted) {server : Nat}
    {allocation deallocation : List SectorAllocationInfo} (hserver : server ≤ maxServerId)
    (hgrid : ∀ info ∈ allocation, info.sectorId < sectorCount) :
    (s.allocate server allocation deallocation).Counted := by
  have hworld : ∀ {k}, k ≠ server →
      (s.allocate server allocation deallocation).worlds k = s.worlds k :=
    fun hk => Function.update_of_ne hk _ _
  have hmine : (s.allocate server allocation deallocation).worlds server =
      (onSupervisorSectorAllocation (s.worlds server) server allocation deallocation).world :=
    Function.update_self _ _ _
  have hcreated : ∀ place, (s.allocate server allocation deallocation).created place =
      if place.1 = server ∧ takes deallocation server place.2 = true then 0
      else s.created place := fun _ => rfl
  have hepoch : ∀ place, (s.allocate server allocation deallocation).epoch place =
      if place.1 = server ∧ takes deallocation server place.2 = true then s.epoch place + 1
      else s.epoch place := fun _ => rfl
  constructor
  case counter =>
    intro k sector c hc
    rw [hcreated]
    by_cases hk : k = server
    · subst hk
      rw [hmine] at hc
      rcases counterAt_onSupervisorSectorAllocation (s.worlds k) k allocation deallocation sector
        with hkept | ⟨hnone, ⟨info, hinfo, rfl⟩, hnew⟩
      · rw [hkept] at hc
        split at hc
        next =>
          cases hc
        next htaken =>
          rw [if_neg fun hboth => htaken hboth.2]
          exact h.counter hc
      · -- a sector that is built has not been called yet
        rw [hnew] at hc
        cases hc
        have hzero : (if k = k ∧ takes deallocation k info.sectorId = true then 0
            else s.created (k, info.sectorId)) = 0 := by
          split at hnone
          next htaken =>
            rw [if_pos ⟨rfl, htaken⟩]
          next =>
            rw [h.absent hnone]
            exact ite_self 0
        rw [hzero]
        exact ⟨startingId_eq _ _, hserver, hgrid info hinfo⟩
    · rw [hworld hk] at hc
      rw [if_neg fun hboth => hk hboth.1]
      exact h.counter hc
  case absent =>
    intro k sector hc
    rw [hcreated]
    by_cases hk : k = server
    · subst hk
      rw [hmine] at hc
      by_cases htaken : takes deallocation k sector = true
      · rw [if_pos ⟨rfl, htaken⟩]
      · rw [if_neg fun hboth => htaken hboth.2]
        rcases counterAt_onSupervisorSectorAllocation (s.worlds k) k allocation deallocation sector
          with hkept | ⟨_, _, hnew⟩
        · rw [hkept, if_neg htaken] at hc
          exact h.absent hc
        · rw [hnew] at hc
          cases hc
    · rw [hworld hk] at hc
      rw [if_neg fun hboth => hk hboth.1]
      exact h.absent hc
  case created_le =>
    intro place
    rw [hcreated]
    split
    · exact Nat.zero_le _
    · exact h.created_le place
  case id =>
    exact h.id
  case index =>
    -- in a new epoch no id of the old one is current any more
    intro i hi
    refine ⟨(h.index i hi).1, fun heq => ?_⟩
    have hle := h.epoch i hi
    rw [hepoch] at heq
    rw [hcreated]
    split at heq
    · omega
    next hnot =>
      rw [if_neg hnot]
      exact (h.index i hi).2 heq
  case epoch =>
    intro i hi
    have hle := h.epoch i hi
    rw [hepoch]
    split <;> omega

/-- Nothing but the worlds has changed, and no counter there. -/
theorem Counted.congr (h : s.Counted)
    (hcounters : ∀ k x, (s'.worlds k).counterAt x = (s.worlds k).counterAt x)
    (hcreated : s'.created = s.created) (hspawns : s'.spawns = s.spawns)
    (hepoch : s'.epoch = s.epoch) (hissued : s'.issued = s.issued) : s'.Counted := by
  constructor
  case counter =>
    intro k x c hc
    rw [hcounters] at hc
    rw [hcreated]
    exact h.counter hc
  case absent =>
    intro k x hc
    rw [hcounters] at hc
    rw [hcreated]
    exact h.absent hc
  case created_le =>
    rw [hcreated, hspawns]
    exact h.created_le
  case id =>
    rw [hissued]
    exact h.id
  case index =>
    rw [hissued, hspawns, hepoch, hcreated]
    exact h.index
  case epoch =>
    rw [hissued, hepoch]
    exact h.epoch

theorem counterAt_update {server : Nat} {w : World}
    (hsame : World.SameCounters (s.worlds server) w) (k x : Nat) :
    (Function.update s.worlds server w k).counterAt x = (s.worlds k).counterAt x := by
  by_cases hk : k = server
  · rw [hk, Function.update_self]
    exact hsame x
  · rw [Function.update_of_ne hk]

/-- A spawn in a sector that is not there is answered without an id. -/
theorem spawn_of_absent {server : Nat} {packet : SpawnCharacterRq} (source : Nat)
    (now : Milliseconds) (hnone : (s.worlds server).counterAt packet.sectorId = none) :
    s.spawn server source packet now =
      { s with
        worlds := Function.update s.worlds server
          ((s.worlds server).spawnCharacter source packet now).world } := by
  have hassigned := (World.spawnCharacter_of_absent source now hnone).2
  unfold spawn
  simp [hnone, hassigned]

theorem update_add (f : Nat × Nat → Nat) (place : Nat × Nat) (n : Nat) (place' : Nat × Nat) :
    Function.update f place (f place + n) place' = f place' + if place' = place then n else 0 := by
  rw [Function.update_apply]
  split
  next heq =>
    rw [heq]
  next =>
    rfl

theorem spawns_spawn_le (s : Fleet) (server source : Nat) (packet : SpawnCharacterRq)
    (now : Milliseconds) (place : Nat × Nat) :
    (s.spawn server source packet now).spawns place ≤ s.spawns place + 1 := by
  simp only [spawn, update_add]
  split_ifs <;> omega

theorem Counted.spawn (h : s.Counted) (server source : Nat) (packet : SpawnCharacterRq)
    (now : Milliseconds) : (s.spawn server source packet now).Counted := by
  cases hcounter : (s.worlds server).counterAt packet.sectorId with
  | none =>
      -- `SpawnCharacter` finds no sector and counts nothing
      rw [spawn_of_absent source now hcounter]
      exact h.congr (counterAt_update (World.spawnCharacter_of_absent source now hcounter).1) rfl rfl
        rfl rfl
  | some c =>
      -- the sector is there, and its counter was at the first id of its place plus what it created
      obtain ⟨hc, hserver, hgrid⟩ := h.counter hcounter
      obtain ⟨hcounters, hassigned⟩ := World.spawnCharacter_of_counter source now hcounter
      have hcreated : ∀ place, (s.spawn server source packet now).created place =
          s.created place + if place = (server, packet.sectorId) then 1 else 0 := by
        intro place
        simp only [Fleet.spawn, update_add, hcounter, Option.isSome_some, if_true]
      have hspawns : ∀ place, (s.spawn server source packet now).spawns place =
          s.spawns place + if place = (server, packet.sectorId) then 1 else 0 := by
        intro place
        simp only [Fleet.spawn, update_add, hcounter, Option.isSome_some, if_true]
      have hissued : ∀ i ∈ (s.spawn server source packet now).issued, i ∈ s.issued ∨
          i = ⟨server, packet.sectorId, s.epoch (server, packet.sectorId),
            s.created (server, packet.sectorId), c⟩ := by
        intro i hi
        refine (List.mem_append.1 hi).imp_right fun hnew => ?_
        obtain ⟨id, hid, rfl⟩ := List.mem_map.1 hnew
        rw [hassigned id (Option.mem_toList.1 hid)]
      have hother : ∀ {k}, k ≠ server →
          (s.spawn server source packet now).worlds k = s.worlds k :=
        fun hk => Function.update_of_ne hk _ _
      have hmine : (s.spawn server source packet now).worlds server =
          ((s.worlds server).spawnCharacter source packet now).world := Function.update_self _ _ _
      constructor
      case counter =>
        intro k x c' hc'
        rw [hcreated]
        -- only the counter of the sector of the request has moved
        by_cases hk : k = server
        · subst hk
          rw [hmine, hcounters] at hc'
          by_cases hx : x = packet.sectorId
          · rw [if_pos hx] at hc'
            cases hc'
            rw [hx, if_pos rfl, hc]
            exact ⟨by omega, hserver, hgrid⟩
          · rw [if_neg hx] at hc'
            rw [if_neg fun heq => hx (Prod.mk.inj heq).2]
            exact h.counter hc'
        · rw [hother hk] at hc'
          rw [if_neg fun heq => hk (Prod.mk.inj heq).1]
          exact h.counter hc'
      case absent =>
        intro k x hnone
        rw [hcreated]
        by_cases hk : k = server
        · subst hk
          rw [hmine, hcounters] at hnone
          split at hnone
          · cases hnone
          next hx =>
            rw [if_neg fun heq => hx (Prod.mk.inj heq).2]
            exact h.absent hnone
        · rw [hother hk] at hnone
          rw [if_neg fun heq => hk (Prod.mk.inj heq).1]
          exact h.absent hnone
      case created_le =>
        intro place
        rw [hcreated, hspawns]
        exact Nat.add_le_add_right (h.created_le place) _
      case id =>
        intro i hi
        -- an id that was given before keeps its number, and the new one is the counter as it was
        rcases hissued i hi with hold | rfl
        · exact h.id i hold
        · exact ⟨hc, hserver, hgrid⟩
      case index =>
        intro i hi
        rw [hcreated, hspawns]
        rcases hissued i hi with hold | rfl
        · obtain ⟨hlt, hcurrent⟩ := h.index i hold
          exact ⟨by omega, fun heq => (hcurrent heq).trans_le (Nat.le_add_right _ _)⟩
        · have hle := h.created_le (server, packet.sectorId)
          simp only [Issue.place, if_true]
          exact ⟨by omega, fun _ => Nat.lt_succ_self _⟩
      case epoch =>
        intro i hi
        rcases hissued i hi with hold | rfl
        · exact h.epoch i hold
        · exact le_rfl

theorem Counted.step (h : s.Counted) {e : FleetEvent} (hstep : s.Step e s') : s'.Counted := by
  cases hstep with
  | allocation hserver hgrid =>
      exact h.allocate hserver hgrid
  | spawn =>
      exact h.spawn _ _ _ _
  | perform hop =>
      exact h.congr (counterAt_update (World.SameCounters.perform hop)) rfl rfl rfl rfl

/-! ## Runs in which no server returns to a sector it has spawned in -/

/-- The ids of a sector are assigned in the order of its counter. -/
def Ordered (s : Fleet) : Prop :=
  s.issued.Pairwise fun i j => i.place = j.place → i.index < j.index

theorem Ordered.step (h : s.Ordered) (hcounted : s.Counted) {e : FleetEvent}
    (hsame : s.SameSector e) (hstep : s.Step e s') : s'.Ordered := by
  cases hstep with
  | allocation | perform =>
      exact h
  | spawn =>
      refine List.pairwise_append.2 ⟨h, ?_, fun i hi j hj hplace => ?_⟩
      · cases World.assignedId ((s.worlds _).spawnCharacter _ _ _) with
        | none =>
            exact List.Pairwise.nil
        | some id =>
            exact List.pairwise_singleton _ _
      · -- the older id was assigned in this epoch, so its index is below the counter
        obtain ⟨id, _, rfl⟩ := List.mem_map.1 hj
        have hepoch := hsame i hi hplace
        have hlt := (hcounted.index i hi).2 (by rw [hplace]; exact hepoch)
        rw [hplace] at hlt
        exact hlt

theorem ordered_of_reachable (h : (machine.restrict SameSector).Reachable s) :
    s.Counted ∧ s.Ordered := by
  refine Machine.Reachable.invariant (M := machine.restrict SameSector)
    (P := fun s => s.Counted ∧ s.Ordered) ?_ ?_ h
  · rintro s rfl
    exact ⟨counted_new, List.Pairwise.nil⟩
  · rintro s e s' ⟨hcounted, hordered⟩ ⟨hsame, hstep⟩
    exact ⟨hcounted.step hstep, hordered.step hcounted hsame hstep⟩

/-! ## Object ids are unique -/

/-- Server, sector and index are read back from an id. -/
theorem baseId_add_inj {place place' : Nat × Nat} {index index' : Nat}
    (hplace : place.2 < sectorCount) (hplace' : place'.2 < sectorCount)
    (hindex : index < 100000000000) (hindex' : index' < 100000000000)
    (h : baseId place + index = baseId place' + index') : place = place' ∧ index = index' := by
  obtain ⟨server, sector⟩ := place
  obtain ⟨server', sector'⟩ := place'
  unfold baseId at h
  unfold sectorCount at hplace hplace'
  dsimp only at h hplace hplace'
  have hserver : server = server' := by omega
  have hsector : sector = sector' := by omega
  subst hserver hsector
  exact ⟨rfl, by omega⟩

theorem baseId_add_lt {place : Nat × Nat} {index : Nat} (hserver : place.1 ≤ maxServerId)
    (hsector : place.2 < sectorCount) (hindex : index < 100000000000) :
    baseId place + index < 2 ^ 64 := by
  unfold baseId
  unfold maxServerId at hserver
  unfold sectorCount at hsector
  omega

/-- In the runs in which no server spawns in a sector that was taken from it after it had spawned
there, all assigned ids are different, and none is cut to 64 bits.  A sector that is built anew
starts with the id that was assigned first there. -/
theorem object_ids_unique (h : (machine.restrict SameSector).Reachable s)
    (hspawns : ∀ place, s.spawns place < 100000000000) :
    (s.issued.map Issue.id).Nodup ∧
      (∀ i ∈ s.issued, i.id = i.server * 1000000000000000 + 200000000000000 +
        100000000000 * i.sector + 1 + i.index ∧ i.id < 2 ^ 64) ∧
      ∀ i ∈ s.issued, i.index = 0 → s.created i.place = 0 → ∀ source packet now id,
        packet.sectorId = i.sector →
        World.assignedId ((s.worlds i.server).spawnCharacter source packet now) = some id →
        id = i.id := by
  obtain ⟨hcounted, hordered⟩ := ordered_of_reachable h
  -- below 10^11 spawns the digits of server, sector and index do not run into each other
  have hexact : ∀ i ∈ s.issued, i.id = baseId i.place + i.index ∧ i.id < 2 ^ 64 := by
    intro i hi
    obtain ⟨hid, hserver, hsector⟩ := hcounted.id i hi
    have hindex := (hcounted.index i hi).1.trans (hspawns i.place)
    have hlt : baseId i.place + i.index < 2 ^ 64 := baseId_add_lt hserver hsector hindex
    rw [Nat.mod_eq_of_lt hlt] at hid
    exact ⟨hid, hid ▸ hlt⟩
  refine ⟨List.pairwise_map.2 ?_, hexact, ?_⟩
  · refine hordered.imp_of_mem fun {i j} hi hj hlt heq => ?_
    rw [(hexact i hi).1, (hexact j hj).1] at heq
    obtain ⟨hplace, hindex⟩ := baseId_add_inj (hcounted.id i hi).2.2 (hcounted.id j hj).2.2
      ((hcounted.index i hi).1.trans (hspawns _)) ((hcounted.index j hj).1.trans (hspawns _)) heq
    exact absurd hindex (hlt hplace).ne
  · intro i hi hfirst hnew source packet now id hsector hassigned
    -- the first id after the sector was allocated anew
    cases hcounter : (s.worlds i.server).counterAt packet.sectorId with
    | none =>
        rw [(World.spawnCharacter_of_absent source now hcounter).2] at hassigned
        cases hassigned
    | some c =>
        rw [(World.spawnCharacter_of_counter source now hcounter).2 id hassigned,
          (hcounted.counter hcounter).1, (hcounted.id i hi).1, hsector, hfirst]
        exact congrArg (fun n => (baseId i.place + n) % 2 ^ 64) hnew

/-- Play server `2` and sector `11`. -/
def sectorInfo : SectorAllocationInfo := ⟨⟨.Play, 2, ⟨"127.0.0.1", 5000⟩⟩, 11⟩

def spawnRequest (userId : Nat) : SpawnCharacterRq := ⟨userId, 11, ⟨0, 0⟩, ⟨1, 1⟩⟩

theorem sectorInfo_grid : ∀ info ∈ [sectorInfo], info.sectorId < sectorCount := by decide

/-- The server is given the sector and spawns a character there. -/
def spawned : Fleet := (new.allocate 2 [sectorInfo] []).spawn 2 1 (spawnRequest 1) 0

theorem object_ids_unique_spawned :
    ((spawned.spawn 2 1 (spawnRequest 2) 0).issued.map Issue.id).Nodup ∧
      (spawned.spawn 2 1 (spawnRequest 2) 0).issued.map Issue.id =
        [2201100000000001, 2201100000000002] := by
  have hinit : (machine.restrict SameSector).Reachable new := .init rfl
  have hallocated : (machine.restrict SameSector).Reachable (new.allocate 2 [sectorInfo] []) :=
    hinit.step_restrict (.allocation (by decide) sectorInfo_grid) trivial
  have hspawned : (machine.restrict SameSector).Reachable spawned :=
    hallocated.step_restrict .spawn fun i hi => absurd hi List.not_mem_nil
  have hsame : SameSector spawned (.spawn 2 1 (spawnRequest 2) 0) := by
    intro i hi _
    have hissued : spawned.issued = [⟨2, 11, 0, 0, 2201100000000001⟩] := by decide +kernel
    rw [hissued] at hi
    rw [List.mem_singleton.1 hi]
    rfl
  have hlt : ∀ place, (spawned.spawn 2 1 (spawnRequest 2) 0).spawns place < 100000000000 := by
    intro place
    have hfirst : spawned.spawns place ≤ 0 + 1 := spawns_spawn_le _ 2 1 (spawnRequest 1) 0 place
    have hsecond := spawns_spawn_le spawned 2 1 (spawnRequest 2) 0 place
    omega
  exact ⟨(object_ids_unique (hspawned.step_restrict .spawn hsame) hlt).1, by decide +kernel⟩

/-- The sector is taken from the server and given back. -/
def returned : Fleet := (spawned.allocate 2 [] [sectorInfo]).allocate 2 [sectorInfo] []

/-- The next character gets the id of the first one. -/
theorem object_id_repeated :
    ¬ ∀ s, machine.Reachable s → (∀ place, s.spawns place < 100000000000) →
      (s.issued.map Issue.id).Nodup := by
  intro hunique
  have hspawned : machine.Reachable spawned :=
    .step (.step (.init rfl) (.allocation (by decide) sectorInfo_grid)) .spawn
  -- the sector is taken away and given back, and its counter starts anew
  have hreturned : machine.Reachable returned :=
    .step (.step hspawned (.allocation (by decide) fun _ h => absurd h List.not_mem_nil))
      (.allocation (by decide) sectorInfo_grid)
  have hids : ((returned.spawn 2 1 (spawnRequest 2) 0).issued.map Issue.id) =
      [2201100000000001, 2201100000000001] := by
    decide +kernel
  have hlt : ∀ place, (returned.spawn 2 1 (spawnRequest 2) 0).spawns place < 100000000000 := by
    intro place
    have hfirst : returned.spawns place ≤ 0 + 1 := spawns_spawn_le _ 2 1 (spawnRequest 1) 0 place
    have hsecond := spawns_spawn_le returned 2 1 (spawnRequest 2) 0 place
    omega
  have h := hunique _ (hreturned.step (e := .spawn 2 1 (spawnRequest 2) 0) .spawn) hlt
  rw [hids] at h
  exact absurd h (by decide)

end Fleet
end Play
end SeamlessServer
