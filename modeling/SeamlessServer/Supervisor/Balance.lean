import SeamlessServer.Data.Greedy
import SeamlessServer.Supervisor.Allocation
import SeamlessServer.Supervisor.Refusal

/-!
# Supervisor.Balance — `Update` leaves no sector unowned and spreads them evenly

The loop over `_sector_info` gives each unowned sector to a server with the shortest `sector_list`,
which makes an update a `GreedyRun` on the lengths of those lists.  The two ways in which the loop
can pass over a sector do not occur: there are fewer sectors than one server may have, and with a
server that is no agency the search for the shortest list finds one.
-/

namespace SeamlessServer
namespace Supervisor

open Protocol Utility Game

namespace SupervisorWorker

variable {s s' : SupervisorWorker}

/-! ## Lists without repetition, over the sectors of the grid -/

/-- The supervisor knows the sectors of the grid and no others, and no list repeats one. -/
structure Tidy (s : SupervisorWorker) : Prop where
  known : ∀ x, (s.sectorInfo.find x).isSome = true ↔ x ∈ sectorGridList.map SectorInfo.sectorId
  lists_nodup : ∀ {k m}, s.managedServerList.find k = some m → m.sectorList.Nodup

/-- A sector with an owner is known. -/
theorem isSome_of_ownerOf {x : Nat} (h : s.ownerOf x ≠ 0) : (s.sectorInfo.find x).isSome = true := by
  cases hfind : s.sectorInfo.find x with
  | none =>
      exact absurd (by simp [ownerOf, hfind]) h
  | some info =>
      rfl

theorem isSome_setOwner (s : SupervisorWorker) (x k y : Nat) :
    ((s.setOwner x k).sectorInfo.find y).isSome = true ↔
      (s.sectorInfo.find y).isSome = true ∨ y = x := by
  by_cases h : y = x <;> simp [setOwner, h]

/-- Writing owners of known sectors makes no other sector known. -/
theorem isSome_foldl_setOwner (k : Nat) (xs : List Nat) :
    ∀ s : SupervisorWorker, (∀ x ∈ xs, (s.sectorInfo.find x).isSome = true) → ∀ y,
      ((xs.foldl (fun s x => s.setOwner x k) s).sectorInfo.find y).isSome = true ↔
        (s.sectorInfo.find y).isSome = true := by
  induction xs with
  | nil =>
      intro s _ y
      rfl
  | cons x xs ih =>
      intro s hxs y
      have hstep : ∀ z, ((s.setOwner x k).sectorInfo.find z).isSome = true ↔
          (s.sectorInfo.find z).isSome = true := by
        intro z
        rw [isSome_setOwner]
        refine or_iff_left_of_imp ?_
        rintro rfl
        exact hxs z List.mem_cons_self
      rw [List.foldl_cons, ih _ fun z hz => (hstep z).2 (hxs z (List.mem_cons_of_mem _ hz)), hstep]

theorem sectorInfo_noteIntraServers (servers : List ServerInfo) (now : Milliseconds) :
    ∀ s : SupervisorWorker, (s.noteIntraServers servers now).sectorInfo = s.sectorInfo := by
  induction servers with
  | nil =>
      intro s
      rfl
  | cons info servers ih =>
      intro s
      unfold noteIntraServers
      rw [List.foldl_cons]
      split
      · exact ih _
      · exact ih _

/-- One allocation of a known sector keeps the lists tidy. -/
theorem Tidy.allocateSector (h : s.Tidy) {k x : Nat} {m : ManagedServerInfo}
    (hm : s.managedServerList.find k = some m)
    (hx : (s.sectorInfo.find x).isSome = true) : (s.allocateSector k m x).Tidy where
  known := by
    intro y
    have hset : ((s.allocateSector k m x).sectorInfo.find y).isSome = true ↔
        (s.sectorInfo.find y).isSome = true ∨ y = x := isSome_setOwner _ x _ y
    rw [hset, ← h.known]
    refine or_iff_left_of_imp ?_
    rintro rfl
    exact hx
  lists_nodup := by
    intro j n hj
    rw [find_allocateSector] at hj
    split_ifs at hj with hjk
    · cases hj
      exact (h.lists_nodup hm).insert
    · exact h.lists_nodup hj

/-- No list is as long as it may be. -/
theorem Tidy.length_lt (h : s.Tidy) (hs : s.Exclusive) {k : Nat} {m : ManagedServerInfo}
    (hm : s.managedServerList.find k = some m) : m.sectorList.length < maxSectorPerPlayServer := by
  have hsub : m.sectorList ⊆ sectorGridList.map SectorInfo.sectorId := by
    intro x hx
    have howner : s.ownerOf x ≠ 0 := by
      rw [hs.owned hm hx]
      exact (hs.key_pos hm).ne'
    exact (h.known x).1 (isSome_of_ownerOf howner)
  calc
    m.sectorList.length
        ≤ (sectorGridList.map SectorInfo.sectorId).length :=
          ((h.lists_nodup hm).subperm hsub).length_le
    _ < maxSectorPerPlayServer := by decide

/-! ### Every event keeps the lists tidy -/

/-- A step that knows the same sectors and makes no list but an empty one. -/
theorem Tidy.of_same (h : s.Tidy)
    (hknown : ∀ x, (s'.sectorInfo.find x).isSome = true ↔ (s.sectorInfo.find x).isSome = true)
    (hlists : ∀ k m, s'.managedServerList.find k = some m →
      m.sectorList = [] ∨ s.managedServerList.find k = some m) : s'.Tidy where
  known := fun x => (hknown x).trans (h.known x)
  lists_nodup := by
    intro k m hk
    rcases hlists k m hk with hnil | hold
    · rw [hnil]
      exact List.nodup_nil
    · exact h.lists_nodup hold

theorem Tidy.afterExpiry (h : s.Tidy) (now : Milliseconds) : (s.afterExpiry now).1.Tidy := by
  refine h.of_same (fun x => ?_) fun k m hk => .inr ?_
  · rw [sectorInfo_afterExpiry]
  · rwa [managedServerList_afterExpiry] at hk

theorem isSome_recovery (session : SessionId) {packet : RecoveryMinionServerRq}
    (now : Milliseconds) (h : s.recoveryAccepted packet = true) (x : Nat) :
    (((onServerRecoveryMinionServerReq s session packet now).1).sectorInfo.find x).isSome = true ↔
      (s.sectorInfo.find x).isSome = true := by
  let erased : SupervisorWorker :=
    { s with
      recoveryingServerList := s.recoveryingServerList.erase packet.serverInfo.serverId }
  have hnoted : (erased.noteIntraServers packet.intraServers now).sectorInfo = s.sectorInfo :=
    sectorInfo_noteIntraServers packet.intraServers now erased
  have hclaimed := isSome_foldl_setOwner packet.serverInfo.serverId packet.sectors
    (erased.noteIntraServers packet.intraServers now) (fun y hy => by
      obtain ⟨info, hinfo, _⟩ := (recoveryAccepted_iff.1 h).sectors_free y hy
      rw [hnoted, hinfo]
      rfl) x
  rw [hnoted] at hclaimed
  simp only [onServerRecoveryMinionServerReq, h, if_true]
  exact hclaimed

theorem isSome_released (hs : s.Exclusive) {k : Nat} {m : ManagedServerInfo}
    (hm : s.managedServerList.find k = some m) (x : Nat) :
    ((s.released k m).sectorInfo.find x).isSome = true ↔ (s.sectorInfo.find x).isSome = true := by
  refine isSome_foldl_setOwner 0 m.sectorList s (fun y hy => isSome_of_ownerOf ?_) x
  rw [hs.owned hm hy]
  exact (hs.key_pos hm).ne'

/-! ## The search for the shortest list -/

/-- The length of a server's `sector_list`. -/
def load (s : SupervisorWorker) (id : Nat) : Nat :=
  ((s.managedServerList.find id).map fun server => server.sectorList.length).getD 0

theorem load_of_find {k : Nat} {m : ManagedServerInfo} (h : s.managedServerList.find k = some m) :
    s.load k = m.sectorList.length := by
  simp [load, h]

/-- The count that the search carries only falls, and is at most the length of every list seen. -/
theorem lessLoaded_le (s : SupervisorWorker) (best : Nat × Option Nat) (id : Nat) :
    (s.lessLoaded best id).1 ≤ best.1 ∧ (s.Eligible id → (s.lessLoaded best id).1 ≤ s.load id) := by
  unfold lessLoaded
  split
  next hnone =>
    refine ⟨Nat.le_refl _, ?_⟩
    rintro ⟨server, hserver, _⟩
    cases hnone.symm.trans hserver
  next server hserver =>
    split
    next hagency =>
      refine ⟨Nat.le_refl _, ?_⟩
      rintro ⟨server', hserver', hplay⟩
      cases hserver.symm.trans hserver'
      exact absurd hagency hplay
    next =>
      rw [load_of_find hserver]
      split
      next hless => exact ⟨Nat.le_of_lt hless, fun _ => Nat.le_refl _⟩
      next hge => exact ⟨Nat.le_refl _, fun _ => Nat.not_lt.1 hge⟩

/-- The server the search ends with has the count it ends with. -/
theorem load_of_lessLoaded (s : SupervisorWorker) (best : Nat × Option Nat) (id : Nat)
    (hbest : ∀ k, best.2 = some k → s.load k = best.1) :
    ∀ k, (s.lessLoaded best id).2 = some k → s.load k = (s.lessLoaded best id).1 := by
  intro k
  unfold lessLoaded
  split
  · exact hbest k
  next server hserver =>
    split
    · exact hbest k
    · split
      · intro hk
        cases hk
        exact load_of_find hserver
      · exact hbest k

/-- No list of a server that takes part is shorter than that of the one chosen. -/
theorem load_leastLoadedServer_le {k : Nat} (h : s.leastLoadedServer = some k) {j : Nat}
    (hj : s.Eligible j) : s.load k ≤ s.load j := by
  have hfold : ∀ (ids : List Nat) (best : Nat × Option Nat),
      (∀ i, best.2 = some i → s.load i = best.1) → (j ∈ ids ∨ best.1 ≤ s.load j) →
        (∀ i, (ids.foldl s.lessLoaded best).2 = some i →
          s.load i = (ids.foldl s.lessLoaded best).1) ∧
        (ids.foldl s.lessLoaded best).1 ≤ s.load j := by
    intro ids
    induction ids with
    | nil =>
        intro best hbest hseen
        exact ⟨hbest, hseen.resolve_left List.not_mem_nil⟩
    | cons id ids ih =>
        intro best hbest hseen
        obtain ⟨hfalls, hcovers⟩ := s.lessLoaded_le best id
        refine ih _ (s.load_of_lessLoaded best id hbest) ?_
        rcases hseen with hmem | hle
        · rcases List.mem_cons.1 hmem with rfl | hmem
          · exact .inr (hcovers hj)
          · exact .inl hmem
        · exact .inr (hfalls.trans hle)
  obtain ⟨server, hserver, _⟩ := hj
  rw [leastLoadedServer_eq] at h
  obtain ⟨hcount, hle⟩ := hfold s.managedServerList.keys (2 ^ 32 - 1, none)
    (fun _ hnone => by cases hnone) (.inl (s.managedServerList.mem_keys_of_find hserver))
  rw [hcount k h]
  exact hle

/-! ## The loop as a greedy run -/

theorem eligible_allocateSector {k : Nat} {m : ManagedServerInfo}
    (hm : s.managedServerList.find k = some m) (x j : Nat) :
    (s.allocateSector k m x).Eligible j ↔ s.Eligible j := by
  unfold Eligible
  rw [find_allocateSector]
  by_cases hjk : j = k
  · subst hjk
    simp [hm]
  · simp [hjk]

/-- A sector without an owner is on no list, so it makes one list longer. -/
theorem load_allocateSector (hs : s.Exclusive) {k x : Nat} {m : ManagedServerInfo}
    (hm : s.managedServerList.find k = some m) (hx : s.ownerOf x = 0) :
    (s.allocateSector k m x).load = Function.update s.load k (s.load k + 1) := by
  have hnot : x ∉ m.sectorList := by
    intro hmem
    have howner := hs.owned hm hmem
    have hpos := hs.key_pos hm
    omega
  funext j
  rw [Function.update_apply, load_of_find hm]
  unfold load
  rw [find_allocateSector]
  by_cases hjk : j = k
  · simp [hjk, List.insert_of_not_mem hnot]
  · simp [hjk]

/-- The servers in an allocation packet, as the receivers of a greedy run on the lengths of the
lists. -/
theorem allocateSectors_greedy (xs : List Nat) (hs : s.Exclusive) :
    (∀ j, (s.allocateSectors xs []).1.Eligible j ↔ s.Eligible j) ∧
      GreedyRun s.Eligible s.load
        ((s.allocateSectors xs []).2.1.map fun info => info.serverInfo.serverId)
        (s.allocateSectors xs []).1.load := by
  have hstart : GreedyRun s.Eligible s.load
      (([] : List SectorAllocationInfo).map fun info => info.serverInfo.serverId) s.load := .nil _
  have hloop := allocateSectors_induction (P := fun s' allocated =>
    s'.Exclusive ∧ (∀ j, s'.Eligible j ↔ s.Eligible j) ∧
      GreedyRun s.Eligible s.load (allocated.map fun info => info.serverInfo.serverId) s'.load)
    ?_ xs ⟨hs, fun _ => .rfl, hstart⟩
  · exact hloop.2
  · rintro s' allocated id server x ⟨hex, heligible, hrun⟩ hfree hid hserver _
    refine ⟨(allocateSector_spec hex hserver hfree).1, fun j => ?_, ?_⟩
    · rw [eligible_allocateSector hserver, heligible]
    · rw [load_allocateSector hex hserver hfree, List.map_append, List.map_singleton,
        hex.keyed hserver]
      exact hrun.append ((heligible id).1 (eligible_of_leastLoadedServer hid))
        fun j hj => load_leastLoadedServer_le hid ((heligible j).2 hj)

/-! ## The loop passes over no sector -/

theorem Tidy.known_allocateSector (h : s.Tidy) {id x y : Nat} {server : ManagedServerInfo}
    (hserver : s.managedServerList.find id = some server)
    (hx : (s.sectorInfo.find x).isSome = true) (hy : (s.sectorInfo.find y).isSome = true) :
    ((s.allocateSector id server x).sectorInfo.find y).isSome = true := by
  rw [(h.allocateSector hserver hx).known, ← h.known]
  exact hy

theorem tidy_allocateSectors (xs : List Nat) :
    ∀ (s : SupervisorWorker) (allocated : List SectorAllocationInfo), s.Tidy →
      (∀ x ∈ xs, (s.sectorInfo.find x).isSome = true) →
        (s.allocateSectors xs allocated).1.Tidy := by
  induction xs with
  | nil =>
      intro s allocated htidy _
      exact htidy
  | cons x xs ih =>
      intro s allocated htidy hknown
      obtain ⟨hx, hxs⟩ := List.forall_mem_cons.1 hknown
      unfold allocateSectors
      split
      · exact ih s allocated htidy hxs
      · split
        · exact htidy
        next id hid =>
          obtain ⟨server, hserver, _⟩ := eligible_of_leastLoadedServer hid
          rw [hserver]
          dsimp only
          split
          · exact ih s allocated htidy hxs
          · exact ih _ _ (htidy.allocateSector hserver hx) fun y hy =>
              htidy.known_allocateSector hserver hx (hxs y hy)

/-- With a server that takes part, every known sector the loop comes to has an owner after it. -/
theorem allocateSectors_complete (xs : List Nat) :
    ∀ (s : SupervisorWorker) (allocated : List SectorAllocationInfo), s.Exclusive → s.Tidy →
      (∃ k, s.Eligible k) → (∀ x ∈ xs, (s.sectorInfo.find x).isSome = true) →
        ∀ x ∈ xs, (s.allocateSectors xs allocated).1.ownerOf x ≠ 0 := by
  induction xs with
  | nil =>
      intro s allocated _ _ _ _ x hx
      cases hx
  | cons x xs ih =>
      intro s allocated hs htidy hsome hknown
      obtain ⟨hx, hxs⟩ := List.forall_mem_cons.1 hknown
      rw [List.forall_mem_cons]
      unfold allocateSectors
      split
      next howned =>
        -- the sector has an owner, and keeps it
        refine ⟨?_, ih s allocated hs htidy hsome hxs⟩
        rw [(allocateSectors_spec xs s allocated hs).2.2 x howned]
        exact howned
      next hfree =>
        split
        next hnone =>
          -- the search finds a server
          obtain ⟨k, m, hm, heligible⟩ := hsome
          have hshort : m.sectorList.length < 2 ^ 32 - 1 :=
            (htidy.length_lt hs hm).trans (by decide)
          obtain ⟨id, hid⟩ := exists_leastLoadedServer hm heligible hshort
          cases hnone.symm.trans hid
        next id hid =>
          obtain ⟨server, hserver, hplay⟩ := eligible_of_leastLoadedServer hid
          rw [hserver]
          dsimp only
          split
          next hfull =>
            -- its list is not full
            exact absurd (htidy.length_lt hs hserver) (Nat.not_lt.2 hfull)
          next =>
            have hs' := (allocateSector_spec hs hserver (not_not.1 hfree)).1
            have hsome' : (s.allocateSector id server x).Eligible id :=
              (eligible_allocateSector hserver x id).2 ⟨server, hserver, hplay⟩
            refine ⟨?_, ih _ _ hs' (htidy.allocateSector hserver hx) ⟨id, hsome'⟩ fun y hy =>
              htidy.known_allocateSector hserver hx (hxs y hy)⟩
            -- the sector just allocated keeps the owner it got
            have hne : (s.allocateSector id server x).ownerOf x ≠ 0 := by
              rw [ownerOf_allocateSector, if_pos rfl, hs.keyed hserver]
              exact (hs.key_pos hserver).ne'
            rw [(allocateSectors_spec xs _ _ hs').2.2 x hne]
            exact hne

/-- A sector that gets an owner in the loop is in the allocation packet with it. -/
theorem mem_of_allocated (xs : List Nat) {x : Nat} (hx : s.ownerOf x = 0)
    (hx' : (s.allocateSectors xs []).1.ownerOf x ≠ 0) :
    (s.allocateSectors xs []).1.ownerOf x ∈
      (s.allocateSectors xs []).2.1.map fun info => info.serverInfo.serverId := by
  obtain ⟨new, hnew, howner, -, -⟩ := allocateSectors_owners xs s []
  rw [List.nil_append] at hnew
  rw [hnew, howner]
  rw [howner] at hx'
  -- an update of owners by a list takes what it does not keep from the list
  have hfold : ∀ (infos : List SectorAllocationInfo) (f : Nat → Nat),
      infos.foldl (fun f info => Function.update f info.sectorId info.serverInfo.serverId) f x =
          f x ∨
        infos.foldl (fun f info => Function.update f info.sectorId info.serverInfo.serverId) f x ∈
          infos.map fun info => info.serverInfo.serverId := by
    intro infos
    induction infos with
    | nil =>
        intro f
        exact .inl rfl
    | cons info infos ih =>
        intro f
        rw [List.foldl_cons]
        rcases ih (Function.update f info.sectorId info.serverInfo.serverId) with hsame | hmem
        · by_cases heq : x = info.sectorId
          · rw [hsame, heq, Function.update_self]
            exact .inr List.mem_cons_self
          · rw [Function.update_of_ne heq] at hsame
            exact .inl hsame
        · exact .inr (List.mem_cons_of_mem _ hmem)
  exact (hfold new s.ownerOf).resolve_left fun hsame => hx' (hsame.trans hx)

end SupervisorWorker

open SupervisorWorker

theorem tidy_new (now : Milliseconds) : (SupervisorWorker.new now).Tidy where
  known := by
    intro x
    by_cases h : x ∈ sectorGridList.map SectorInfo.sectorId <;> simp [SupervisorWorker.new, h]
  lists_nodup := by
    intro k m h
    simp [SupervisorWorker.new] at h

theorem tidy_step {s s' : SupervisorWorker} {e : Event} (hs : s.Exclusive) (htidy : s.Tidy)
    (hstep : Step s e s') : s'.Tidy := by
  cases hstep with
  | accepted session =>
      exact htidy.of_same (fun _ => .rfl) fun _ _ h => .inr h
  | register h =>
      rcases register_cases h with ⟨_, rfl, _⟩ | ⟨info, _, _, _, rfl, _⟩
      · exact htidy
      -- the list of a server that is new is empty
      · refine htidy.of_same (fun _ => .rfl) fun k m hk => ?_
        have hfind : (s.managedServerList.insert info.serverId ⟨_, info, []⟩).find k = some m := hk
        rw [UnorderedMap.find_insert] at hfind
        split_ifs at hfind
        · cases hfind
          exact .inl rfl
        · exact .inr hfind
  | recovery session packet now =>
      cases haccepted : s.recoveryAccepted packet with
      | false =>
          rw [recovery_eq_of_rejected s session packet now haccepted]
          exact htidy
      | true =>
          refine htidy.of_same (isSome_recovery session now haccepted) fun k m hk => ?_
          rw [(recovery_spec_of_accepted s session packet now haccepted).2.2] at hk
          split_ifs at hk
          · cases hk
            exact .inl rfl
          · exact .inr hk
  | closed h =>
      rcases closed_cases h with ⟨_, rfl, _⟩ | ⟨server, _, hserver, rfl, _⟩
      · exact htidy
      · refine htidy.of_same (isSome_released hs hserver) fun k m hk => ?_
        rw [find_released] at hk
        split_ifs at hk
        exact .inr hk
  | update now =>
      rcases s.update_eq now with hnone | hupdate
      · rw [hnone]
        exact htidy
      -- the loop goes through the table of sectors as it is after the expiry
      · rw [hupdate]
        exact tidy_allocateSectors _ _ _ (htidy.afterExpiry now) fun x hx =>
          ((s.afterExpiry now).1.sectorInfo.mem_keys x).1 hx
  | reorder h =>
      refine htidy.of_same (fun x => ?_) fun k m hk => ?_
      · rw [h.sectorInfo x]
      · rw [← h.managedServerList k] at hk
        exact .inr hk

theorem tidy_of_reachable {s : SupervisorWorker} (h : machine.Reachable s) : s.Tidy := by
  have hboth : s.Exclusive ∧ s.Tidy := by
    refine Machine.Reachable.invariant (P := fun s => s.Exclusive ∧ s.Tidy) ?_ ?_ h
    · rintro s ⟨now, rfl⟩
      exact ⟨exclusive_new now, tidy_new now⟩
    · rintro s e s' ⟨hs, htidy⟩ hstep
      exact ⟨(exclusive_step hs hstep).1, tidy_step hs htidy hstep⟩
  exact hboth.2

/-- An update after the initial delay, with a server that is no agency, leaves no sector without an
owner and takes none from its owner; and whichever server it gives a sector has at most one sector
more than any server that is no agency. -/
theorem update_allocates {s : SupervisorWorker} (hreach : machine.Reachable s) {now : Milliseconds}
    (helapsed : s.initialDelay.any (·.elapsed now) = true) (hserver : ∃ k, s.Eligible k) :
    let s' := (s.update now).1
    (∀ x, (s'.sectorInfo.find x).isSome = true → s'.ownerOf x ≠ 0) ∧
    (∀ x, s.ownerOf x ≠ 0 → s'.ownerOf x = s.ownerOf x) ∧
    ∀ x, (s'.sectorInfo.find x).isSome = true → s.ownerOf x = 0 →
      ∃ m, s'.managedServerList.find (s'.ownerOf x) = some m ∧
        ∀ j m', s'.managedServerList.find j = some m' → m'.serverInfo.serverType ≠ .Agency →
          m.sectorList.length ≤ m'.sectorList.length + 1 := by
  intro s'
  have hex := exclusive_of_reachable hreach
  have htidy := tidy_of_reachable hreach
  have htidy' : s'.Tidy := tidy_of_reachable (hreach.step (Step.update s now))
  have hkeep := (update_spec s now hex).2.2
  -- the loop starts after the expiry of recoveries, which leaves servers and sectors as they are
  obtain ⟨u, hu⟩ : ∃ u : SupervisorWorker, u = (s.afterExpiry now).1 := ⟨_, rfl⟩
  have hsame : SameOwnership s u := hu ▸ s.sameOwnership_afterExpiry now
  have hs' : s' = (u.allocateSectors u.sectorInfo.keys []).1 := by
    rw [hu]
    exact congrArg Prod.fst (update_of_elapsed helapsed)
  have huex : u.Exclusive := hsame.exclusive hex
  have hutidy : u.Tidy := hu ▸ htidy.afterExpiry now
  have hueligible : ∃ k, u.Eligible k := by
    obtain ⟨k, m, hm, hplay⟩ := hserver
    exact ⟨k, m, (hsame.managed k).trans hm, hplay⟩
  have hcomplete : ∀ x, (s'.sectorInfo.find x).isSome = true → s'.ownerOf x ≠ 0 := by
    intro x hx
    rw [htidy'.known, ← hutidy.known] at hx
    rw [hs']
    exact allocateSectors_complete _ u [] huex hutidy hueligible
      (fun y hy => (u.sectorInfo.mem_keys y).1 hy) x ((u.sectorInfo.mem_keys x).2 hx)
  refine ⟨hcomplete, hkeep, fun x hx hfree => ?_⟩
  obtain ⟨heligible, hrun⟩ := allocateSectors_greedy u.sectorInfo.keys huex
  rw [← hs'] at heligible hrun
  have hreceived : s'.ownerOf x ∈
      (u.allocateSectors u.sectorInfo.keys []).2.1.map fun info => info.serverInfo.serverId := by
    have hx' := hcomplete x hx
    rw [hs'] at hx' ⊢
    exact mem_of_allocated _ ((hsame.owner x).trans hfree) hx'
  obtain ⟨m, hm, -⟩ := (heligible _).2 (hrun.eligible_of_mem hreceived)
  refine ⟨m, hm, fun j m' hm' hplay => ?_⟩
  have hbalanced := hrun.balanced hreceived ((heligible j).1 ⟨m', hm', hplay⟩)
  rwa [load_of_find hm, load_of_find hm'] at hbalanced

/-- The update of a supervisor with one play server gives sector 7 to it. -/
theorem update_allocates_oneServer :
    (oneServer.update 2001).1.ownerOf 7 ≠ 0 := by
  have hreach : machine.Reachable oneServer := .step (.init ⟨0, rfl⟩) step_oneServer
  have helapsed : oneServer.initialDelay.any (·.elapsed 2001) = true := by decide +kernel
  refine (update_allocates hreach helapsed ⟨2, ?_⟩).1 7 ?_
  · exact ⟨_, rfl, by decide⟩
  · decide +kernel

end Supervisor
end SeamlessServer
