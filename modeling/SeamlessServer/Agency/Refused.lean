import SeamlessServer.Agency.Cache

/-!
# Agency.Refused — responses with an error code

A play server that refuses a request answers it with an error code and leaves the rest of the response
as it is.  The handlers of the agency for such responses are `OnPlayMoveCharacterRes`, which looks at
the code, and those for spawns and removals, which do not: what they do with the rest of the
response is a creation or a removal.
-/

namespace SeamlessServer
namespace Agency

open Game Protocol Utility

/-- A response to a request that was refused. -/
def IntraPacket.IsErrorResponse : IntraPacket → Prop
  | .spawnCharacterRs _ _ error => error ≠ .None
  | .removeCharacterRs _ _ _ error => error ≠ .None
  | .characterMoveRs _ error => error ≠ .None
  | _ => False

instance (packet : IntraPacket) : Decidable packet.IsErrorResponse := by
  cases packet <;> unfold IntraPacket.IsErrorResponse <;> infer_instance

/-- The cache, the objects of the clients, their session values and the listeners are the same. -/
structure Unchanged (s s' : AgencyWorker) : Prop where
  cache : ∀ x o, (s'.objectCache x).find o = (s.objectCache x).find o
  objects : ∀ o, s'.objectSessions.find o = s.objectSessions.find o
  values : ∀ u, s'.activeSessions.find u = s.activeSessions.find u
  listeners : ∀ x, s'.sectorPostingManager.listeners x = s.sectorPostingManager.listeners x

/-- A handler has changed nothing and told no client anything. -/
structure AgencyOutcome.Ignores (s : AgencyWorker) (r : AgencyOutcome) : Prop where
  unchanged : Unchanged s r.agency
  silent : ∀ userId packet, AgencyPosting.toClient userId packet ∉ r.posts

namespace AgencyWorker

variable {s : AgencyWorker}

/-- The rest of a response asks for nothing that is not so already. -/
def AsksNothing (s : AgencyWorker) (now : Milliseconds) : IntraPacket → Prop
  | .spawnCharacterRs userId info _ =>
      s.activeSessions.find userId = none ∧
        (s.objectCache info.sectorId).find info.objectId = some (stamp info.fixture now)
  | .removeCharacterRs _ sectorId objectId _ =>
      ¬ s.Cached sectorId objectId ∧ s.sectorPostingManager.sendToSector sectorId = []
  | _ => True

theorem unchanged_cache_iff (x o : Nat) (f : Fixture) :
    Unchanged s (s.cache x o f) ↔ (s.objectCache x).find o = some f := by
  have hentry : ∀ y k, ((s.cache x o f).objectCache y).find k =
      if y = x ∧ k = o then some f else (s.objectCache y).find k := by
    intro y k
    by_cases hy : y = x
    · subst hy
      simp [AgencyWorker.cache, UnorderedMap.find_insert]
    · simp [AgencyWorker.cache, hy]
  constructor
  · intro h
    rw [← h.cache, hentry, if_pos ⟨rfl, rfl⟩]
  · intro h
    refine ⟨fun y k => ?_, fun _ => rfl, fun _ => rfl, fun _ => rfl⟩
    rw [hentry]
    split
    next hkey =>
      obtain ⟨rfl, rfl⟩ := hkey
      exact h.symm
    next => rfl

theorem unchanged_uncache_iff (x o : Nat) : Unchanged s (s.uncache x o) ↔ ¬ s.Cached x o := by
  have hentry : ∀ y k, ((s.uncache x o).objectCache y).find k =
      if y = x ∧ k = o then none else (s.objectCache y).find k := by
    intro y k
    by_cases hy : y = x
    · subst hy
      simp [AgencyWorker.uncache, UnorderedMap.find_erase]
    · simp [AgencyWorker.uncache, hy]
  constructor
  · intro h hcached
    exact hcached (by rw [← h.cache, hentry, if_pos ⟨rfl, rfl⟩])
  · intro h
    refine ⟨fun y k => ?_, fun _ => rfl, fun _ => rfl, fun _ => rfl⟩
    rw [hentry]
    split
    next hkey =>
      obtain ⟨rfl, rfl⟩ := hkey
      exact (not_not.1 h).symm
    next => rfl

/-- The handler for a spawn stores the fixture, and enters the client if it is still there. -/
theorem ignores_onPlaySpawnCharacterRes_iff (source userId : Nat) (info : ObjectInfo)
    (now : Milliseconds) :
    (s.onPlaySpawnCharacterRes source userId info now).Ignores s ↔
      s.activeSessions.find userId = none ∧
        (s.objectCache info.sectorId).find info.objectId = some (stamp info.fixture now) := by
  cases hclient : s.activeSessions.find userId with
  | some session =>
      -- a client that is there is told that it has entered
      have hentered : AgencyPosting.toClient userId (.gameEnterRequestRs
          { info with fixture := stamp info.fixture now }) ∈
            (s.onPlaySpawnCharacterRes source userId info now).posts := by
        have hclient' : ∀ x o f, (s.cache x o f).activeSessions.find userId = some session :=
          fun _ _ _ => hclient
        simp only [onPlaySpawnCharacterRes, hclient']
        exact List.mem_append_right _ List.mem_cons_self
      exact iff_of_false (fun h => h.silent _ _ hentered) (fun h => by cases h.1)
  | none =>
      have hclient' : ∀ x o f, (s.cache x o f).activeSessions.find userId = none :=
        fun _ _ _ => hclient
      have houtcome : s.onPlaySpawnCharacterRes source userId info now =
          { agency := s.cache info.sectorId info.objectId (stamp info.fixture now)
            posts := [.toServer source
              (.removeCharacterRs userId info.sectorId info.objectId)] } := by
        simp only [onPlaySpawnCharacterRes, hclient']
        rfl
      rw [houtcome, ← unchanged_cache_iff]
      constructor
      · intro h
        exact ⟨rfl, h.unchanged⟩
      · rintro ⟨-, h⟩
        exact ⟨h, by simp⟩

/-- The handler for a removal forgets the object, and tells the listeners of its sector. -/
theorem ignores_onPlayRemoveCharacterRes_iff (sectorId objectId : Nat) :
    (s.onPlayRemoveCharacterRes sectorId objectId).Ignores s ↔
      ¬ s.Cached sectorId objectId ∧ s.sectorPostingManager.sendToSector sectorId = [] := by
  constructor
  · intro h
    refine ⟨(unchanged_uncache_iff _ _).1 h.unchanged, List.eq_nil_iff_forall_not_mem.2 ?_⟩
    intro userId hlistener
    exact h.silent userId (.removeObjectPs sectorId objectId) (List.mem_map_of_mem hlistener)
  · rintro ⟨huncached, hlisteners⟩
    refine ⟨(unchanged_uncache_iff _ _).2 huncached, fun userId packet hmem => ?_⟩
    obtain ⟨k, hlistener, -⟩ := List.mem_map.1 hmem
    exact List.ne_nil_of_mem hlistener hlisteners

/-- A response with an error code is ignored exactly when it asks for nothing. -/
theorem error_response_iff (source : Nat) {packet : IntraPacket} (clock : Clock)
    (h : packet.IsErrorResponse) :
    (s.handle source packet clock).Ignores s ↔
      s.AsksNothing clock.currentEpochTimestamp packet := by
  cases packet with
  | spawnCharacterRs userId info error =>
      exact ignores_onPlaySpawnCharacterRes_iff source userId info clock.currentEpochTimestamp
  | removeCharacterRs userId sectorId objectId error =>
      exact ignores_onPlayRemoveCharacterRes_iff sectorId objectId
  | characterMoveRs packet error =>
      -- of the three handlers only this one looks at the error code
      have houtcome : s.handle source (.characterMoveRs packet error) clock = { agency := s } := by
        simp only [handle, onIntraServerData, onPlayMoveCharacterRes]
        exact if_pos h
      rw [houtcome]
      exact iff_of_true ⟨⟨fun _ _ => rfl, fun _ => rfl, fun _ => rfl, fun _ => rfl⟩, by simp⟩ trivial
  | createObjectPs info => cases h
  | removeObjectPs sectorId objectId => cases h
  | objectMovePs packet => cases h
  | promoteObjectRq originSectorId info => cases h
  | objectListPs sectorId objects => cases h

end AgencyWorker

/-- The response of `SpawnCharacter` for a sector that is not there, with zeroes in the fields that are
not filled. -/
def refusedSpawn (userId : Nat) : IntraPacket :=
  .ofNotice ⟨0, 0, blankFixture⟩ (.spawnCharacterRs userId none .SectorNotFound)

/-- A refused removal of an object that is not cached is ignored, and one that is cached is forgotten. -/
theorem error_response_refusedRemove :
    let response : IntraPacket := .removeCharacterRs 1 12 7 .ObjectNotFound
    let cached := linkedAgency.cache 12 7 blankFixture
    (linkedAgency.handle 3 response ⟨1000, 1000⟩).Ignores linkedAgency ∧
      ¬ (cached.handle 3 response ⟨1000, 1000⟩).Ignores cached := by
  intro response cached
  have herror : response.IsErrorResponse := by decide
  refine ⟨(AgencyWorker.error_response_iff 3 _ herror).2 ⟨by decide, by decide⟩, fun h => ?_⟩
  exact absurd ((AgencyWorker.error_response_iff 3 _ herror).1 h).1 (by decide)

/-- A client whose spawn was refused is entered all the same. -/
theorem refusedSpawn_enters :
    (refusedSpawn 1).IsErrorResponse ∧
      ¬ (linkedAgency.accept.agency.handle 3 (refusedSpawn 1) ⟨1000, 1000⟩).Ignores
        linkedAgency.accept.agency := by
  refine ⟨by decide, fun h => ?_⟩
  exact absurd (h.unchanged.values 1) (by decide)

end Agency
end SeamlessServer
