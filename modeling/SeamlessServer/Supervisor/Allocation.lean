import SeamlessServer.Supervisor.Ownership

/-!
# Supervisor.Allocation — the owners that `Update` announces

The loop over `_sector_info` writes an owner and puts it on a list, and the list is broadcast after
the loop.  It is not if the loop is left early, with no server to allocate to.  That happens only
before the first allocation, since a server that has got a sector stays eligible for the next one:
so the owners in the broadcast are those that have been written (`allocateSectors_owners`,
`not_allocatable_of_left`).
-/

namespace SeamlessServer
namespace Supervisor

open Protocol Utility Game

namespace SupervisorWorker

variable {s s' : SupervisorWorker}

/-! ## The choice of a server -/

/-- One round of the `for_each` over the managed servers. -/
def lessLoaded (s : SupervisorWorker) (best : Nat × Option Nat) (id : Nat) : Nat × Option Nat :=
  match s.managedServerList.find id with
  | none => best
  | some server =>
      if server.serverInfo.serverType = .Agency then
        best
      else if best.1 > server.sectorList.length then
        (server.sectorList.length, some id)
      else
        best

theorem leastLoadedServer_eq (s : SupervisorWorker) :
    s.leastLoadedServer =
      (s.managedServerList.keys.foldl s.lessLoaded (2 ^ 32 - 1, none)).2 := rfl

/-- A server that takes part in the choice. -/
def Eligible (s : SupervisorWorker) (id : Nat) : Prop :=
  ∃ server, s.managedServerList.find id = some server ∧ server.serverInfo.serverType ≠ .Agency

theorem lessLoaded_cases (s : SupervisorWorker) (best : Nat × Option Nat) (id : Nat) :
    s.lessLoaded best id = best ∨ ((s.lessLoaded best id).2 = some id ∧ s.Eligible id) := by
  unfold lessLoaded
  split
  · exact .inl rfl
  next server hserver =>
    split
    · exact .inl rfl
    next hagency =>
      split
      · exact .inr ⟨rfl, server, hserver, hagency⟩
      · exact .inl rfl

/-- The choice is an eligible server. -/
theorem eligible_of_leastLoadedServer {k : Nat} (h : s.leastLoadedServer = some k) :
    s.Eligible k := by
  have hfold : ∀ (ids : List Nat) (best : Nat × Option Nat),
      (∀ j, best.2 = some j → s.Eligible j) →
        ∀ j, (ids.foldl s.lessLoaded best).2 = some j → s.Eligible j := by
    intro ids
    induction ids with
    | nil =>
        intro best hbest
        exact hbest
    | cons id ids ih =>
        intro best hbest
        refine ih (s.lessLoaded best id) fun j hj => ?_
        rcases s.lessLoaded_cases best id with hsame | ⟨hid, heligible⟩
        · rw [hsame] at hj
          exact hbest j hj
        · cases hid.symm.trans hj
          exact heligible
  rw [leastLoadedServer_eq] at h
  exact hfold _ _ (fun j hj => by cases hj) k h

/-- If there is an eligible server below the initial count, one is chosen. -/
theorem exists_leastLoadedServer {k : Nat} {server : ManagedServerInfo}
    (hserver : s.managedServerList.find k = some server)
    (heligible : server.serverInfo.serverType ≠ .Agency)
    (hlength : server.sectorList.length < 2 ^ 32 - 1) : ∃ id, s.leastLoadedServer = some id := by
  -- a choice once made is not taken back
  have hkept : ∀ (ids : List Nat) (best : Nat × Option Nat), best.2.isSome = true →
      (ids.foldl s.lessLoaded best).2.isSome = true := by
    intro ids
    induction ids with
    | nil =>
        intro best hbest
        exact hbest
    | cons id ids ih =>
        intro best hbest
        refine ih (s.lessLoaded best id) ?_
        rcases s.lessLoaded_cases best id with hsame | ⟨hid, _⟩
        · rw [hsame]
          exact hbest
        · rw [hid]
          rfl
  have hfold : ∀ (ids : List Nat) (best : Nat × Option Nat), k ∈ ids →
      (best.2.isSome = true ∨ server.sectorList.length < best.1) →
        (ids.foldl s.lessLoaded best).2.isSome = true := by
    intro ids
    induction ids with
    | nil =>
        intro best hk
        cases hk
    | cons id ids ih =>
        intro best hk hbest
        rw [List.foldl_cons]
        rcases hbest with hsome | hless
        · exact hkept (id :: ids) best hsome
        · by_cases hid : id = k
          · have hchosen : s.lessLoaded best id = (server.sectorList.length, some k) := by
              simp [lessLoaded, hid, hserver, heligible, hless]
            refine hkept ids _ ?_
            rw [hchosen]
            rfl
          · have hk' : k ∈ ids := (List.mem_cons.1 hk).resolve_left fun h => hid h.symm
            refine ih _ hk' ?_
            rcases s.lessLoaded_cases best id with hsame | ⟨hother, _⟩
            · rw [hsame]
              exact .inr hless
            · rw [hother]
              exact .inl rfl
  rw [leastLoadedServer_eq]
  exact Option.isSome_iff_exists.1
    (hfold _ _ (UnorderedMap.mem_keys_of_find _ hserver) (.inr hlength))

/-! ## The loop over the sectors -/

/-- A server that has been allocated to. -/
def Allocatable (s : SupervisorWorker) : Prop :=
  ∃ k server, s.managedServerList.find k = some server ∧
    server.serverInfo.serverType ≠ .Agency ∧ server.sectorList.length ≤ maxSectorPerPlayServer

theorem Allocatable.exists_leastLoadedServer (h : s.Allocatable) :
    ∃ id, s.leastLoadedServer = some id := by
  obtain ⟨k, server, hserver, heligible, hlength⟩ := h
  refine SupervisorWorker.exists_leastLoadedServer hserver heligible (hlength.trans_lt ?_)
  decide

/-- The server chosen for a sector can be chosen for the next one. -/
theorem allocatable_allocateSector {k x : Nat} {server : ManagedServerInfo}
    (heligible : server.serverInfo.serverType ≠ .Agency)
    (hlength : server.sectorList.length < maxSectorPerPlayServer) :
    (s.allocateSector k server x).Allocatable := by
  refine ⟨k, { server with sectorList := server.sectorList.insert x }, ?_, heligible, ?_⟩
  · exact UnorderedMap.find_insert_self _ _ _
  · dsimp only
    by_cases hx : x ∈ server.sectorList
    · rw [List.insert_of_mem hx]
      exact hlength.le
    · rw [List.insert_of_not_mem hx]
      exact hlength

/-- What is new on the list are the owners of sectors that had none; and whoever has been allocated a
sector could be allocated another. -/
theorem allocateSectors_owners (xs : List Nat) (s : SupervisorWorker)
    (allocated : List SectorAllocationInfo) :
    let result := s.allocateSectors xs allocated
    ∃ new, result.2.1 = allocated ++ new ∧
      result.1.ownerOf = new.foldl
        (fun f info => Function.update f info.sectorId info.serverInfo.serverId) s.ownerOf ∧
      (∀ info ∈ new, s.ownerOf info.sectorId = 0) ∧ (new ≠ [] → result.1.Allocatable) := by
  -- what the loop keeps: owners stay, so a sector that is allocated had none to begin with
  have hloop : (∀ y, s.ownerOf y ≠ 0 → (s.allocateSectors xs allocated).1.ownerOf y = s.ownerOf y) ∧
      ∃ new, (s.allocateSectors xs allocated).2.1 = allocated ++ new ∧
        (s.allocateSectors xs allocated).1.ownerOf = new.foldl
          (fun f info => Function.update f info.sectorId info.serverInfo.serverId) s.ownerOf ∧
        (∀ info ∈ new, s.ownerOf info.sectorId = 0) ∧
        (new ≠ [] → (s.allocateSectors xs allocated).1.Allocatable) := by
    refine allocateSectors_induction (P := fun s' allocated' =>
      (∀ y, s.ownerOf y ≠ 0 → s'.ownerOf y = s.ownerOf y) ∧
      ∃ new, allocated' = allocated ++ new ∧
        s'.ownerOf = new.foldl
          (fun f info => Function.update f info.sectorId info.serverInfo.serverId) s.ownerOf ∧
        (∀ info ∈ new, s.ownerOf info.sectorId = 0) ∧ (new ≠ [] → s'.Allocatable)) ?_ xs
      ⟨fun _ _ => rfl, [], (List.append_nil _).symm, rfl, by simp, by simp⟩
    rintro s' _ id server x ⟨hkept, new, rfl, howner, hunowned, _⟩ hfree hid hserver hlength
    have hfirst : s.ownerOf x = 0 := by
      by_contra hx
      exact hx ((hkept x hx).symm.trans hfree)
    have hstep : ∀ y, (s'.allocateSector id server x).ownerOf y =
        if y = x then server.serverInfo.serverId else s'.ownerOf y :=
      fun y => ownerOf_setOwner _ _ _ _
    -- the server with the fewest sectors takes this one
    obtain ⟨server', hserver', heligible⟩ := eligible_of_leastLoadedServer hid
    cases hserver.symm.trans hserver'
    refine ⟨fun y hy => ?_, new ++ [⟨server.serverInfo, x⟩], List.append_assoc _ _ _, ?_, ?_,
      fun _ => allocatable_allocateSector heligible hlength⟩
    · have hne : y ≠ x := by
        rintro rfl
        exact hy hfirst
      rw [hstep, if_neg hne]
      exact hkept y hy
    · funext y
      rw [List.foldl_append, ← howner, hstep]
      exact (Function.update_apply _ _ _ _).symm
    · intro info hinfo
      rcases List.mem_append.1 hinfo with hold | hnew
      · exact hunowned info hold
      · cases List.mem_singleton.1 hnew
        exact hfirst
  exact hloop.2

/-- The loop is left only if nobody can be allocated a sector. -/
theorem not_allocatable_of_left (xs : List Nat) :
    ∀ (s : SupervisorWorker) (allocated : List SectorAllocationInfo),
      (s.allocateSectors xs allocated).2.2 = true →
        ¬ (s.allocateSectors xs allocated).1.Allocatable := by
  induction xs with
  | nil =>
      intro s allocated h
      cases h
  | cons x xs ih =>
      intro s allocated
      unfold allocateSectors
      split
      · exact ih s allocated
      · split
        next hnone =>
          intro _ h
          obtain ⟨id, hid⟩ := h.exists_leastLoadedServer
          cases hnone.symm.trans hid
        next id hid =>
          obtain ⟨server, hserver, _⟩ := eligible_of_leastLoadedServer hid
          rw [hserver]
          dsimp only
          split
          · exact ih s allocated
          · exact ih (s.allocateSector id server x) _

end SupervisorWorker

end Supervisor
end SeamlessServer
