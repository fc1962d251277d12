import SeamlessServer.Game.Sectors

/-!
# Game.Counters — the counters that object ids come from

The constructor of a `SectorSystem` sets `_current_fixture_id` to a number made of the server and the
sector, and `CreateFixture` for a spawn advances it.  No other operation of a world touches the
counter of a sector (`SameCounters.perform`).
-/

namespace SeamlessServer
namespace Game
namespace World

open Utility Protocol

variable {w w' : World} {x y : Nat}

/-- `_current_fixture_id` of a sector that is there. -/
def counterAt (w : World) (x : Nat) : Option Nat :=
  match w.sectors.find x with
  | some (some sector) => some sector.currentFixtureId
  | _ => none

theorem counterAt_of_find {sector : SectorSystem} (h : w.sectors.find x = some (some sector)) :
    w.counterAt x = some sector.currentFixtureId := by
  simp [counterAt, h]

theorem counterAt_eq_none : w.counterAt x = none ↔ ∀ sector, w.sectors.find x ≠ some (some sector) := by
  unfold counterAt
  split
  next sector hsector =>
    exact iff_of_false (by simp) fun h => h sector hsector
  next hnone =>
    exact iff_of_true rfl hnone

theorem counterAt_setSector (w : World) (x y : Nat) (sector : SectorSystem) :
    (w.setSector x sector).counterAt y =
      if y = x then some sector.currentFixtureId else w.counterAt y := by
  by_cases hy : y = x
  · simp [counterAt, setSector, hy]
  · simp [counterAt, setSector, hy]

/-- Every sector is there in both worlds or in none, with the same counter. -/
def SameCounters (w w' : World) : Prop := ∀ x, w'.counterAt x = w.counterAt x

namespace SameCounters

theorem refl (w : World) : SameCounters w w := fun _ => rfl

theorem trans {w'' : World} (h : SameCounters w w') (h' : SameCounters w' w'') :
    SameCounters w w'' := fun x => (h' x).trans (h x)

/-- `operator[]` inserts null entries only. -/
theorem sectorAt (w : World) (x : Nat) : SameCounters w (w.sectorAt x).1 := by
  intro y
  unfold World.sectorAt
  split
  next =>
    rfl
  next hnone =>
    by_cases hy : y = x
    · simp [counterAt, hy, hnone]
    · simp [counterAt, hy]

theorem setSector {sector sector' : SectorSystem} (hfind : w.sectors.find x = some (some sector))
    (hcounter : sector'.currentFixtureId = sector.currentFixtureId) :
    SameCounters w (w.setSector x sector') := by
  intro y
  rw [counterAt_setSector]
  split
  next hy =>
    rw [hy, counterAt_of_find hfind, hcounter]
  next =>
    rfl

theorem foldOutcome {α : Type} {body : World → α → Outcome}
    (hbody : ∀ w a, SameCounters w (body w a).world) (rounds : List α) :
    ∀ w, SameCounters w (foldOutcome body w rounds).world := by
  induction rounds with
  | nil =>
      exact refl
  | cons a rounds ih =>
      intro w
      cases hfault : (body w a).fault with
      | some fault =>
          simpa [Game.foldOutcome, hfault] using hbody w a
      | none =>
          simpa [Game.foldOutcome, hfault] using (hbody w a).trans (ih _)

end SameCounters

/-- A sector is found as it is, or there is none and a null entry is left behind. -/
theorem sectorAt_cases (w : World) (x : Nat) :
    (∃ w', w.sectorAt x = (w', none) ∧ SameCounters w w' ∧ w.counterAt x = none) ∨
      ∃ sector, w.sectorAt x = (w, some sector) ∧ w.sectors.find x = some (some sector) := by
  have hsame := SameCounters.sectorAt w x
  cases hat : w.sectorAt x with
  | mk w' entry =>
      cases entry with
      | none =>
          rw [hat] at hsame
          refine .inl ⟨w', rfl, hsame, counterAt_eq_none.2 fun sector hsector => ?_⟩
          rw [sectorAt_of_find hsector] at hat
          cases hat
      | some sector =>
          unfold sectorAt at hat
          split at hat
          next hfind =>
            cases hat
            exact .inr ⟨sector, rfl, hfind⟩
          next =>
            cases hat

/-! ## The operations -/

theorem SameCounters.removeCharacter (source : Nat) (packet : RemoveCharacterRq) :
    SameCounters w (w.removeCharacter source packet).world := by
  unfold World.removeCharacter
  rcases sectorAt_cases w packet.sectorId with ⟨w', hat, hsame, -⟩ | ⟨sector, hat, hfind⟩
  · rw [hat]
    exact hsame
  · rw [hat]
    dsimp only
    split
    · split
      · rw [world_forward]
        exact refl _
      · exact refl _
    · split
      · split
        · rw [world_forward]
          exact refl _
        · exact setSector hfind rfl
      · exact setSector hfind rfl

theorem SameCounters.moveObject (source : Nat) (packet : CharacterMoveRq) :
    SameCounters w (w.moveObject source packet).world := by
  unfold World.moveObject
  rcases sectorAt_cases w packet.sectorId with ⟨w', hat, hsame, -⟩ | ⟨sector, hat, hfind⟩
  · rw [hat]
    exact hsame
  · rw [hat]
    dsimp only
    split
    · split
      · rw [world_forward]
        exact refl _
      · exact refl _
    · split
      · split
        · rw [world_forward]
          exact setSector hfind rfl
        · exact setSector hfind rfl
      · exact setSector hfind rfl

theorem SameCounters.createObservingObject (info : ObjectInfo) :
    SameCounters w (w.createObservingObject info).world := by
  unfold World.createObservingObject
  rcases sectorAt_cases w info.sectorId with ⟨w', hat, hsame, -⟩ | ⟨sector, hat, hfind⟩
  · rw [hat]
    exact hsame
  · rw [hat]
    dsimp only
    split
    · exact refl _
    · split
      · exact refl _
      · exact setSector hfind rfl

theorem SameCounters.removeObservingObject (sectorId objectId : Nat) :
    SameCounters w (w.removeObservingObject sectorId objectId).world := by
  unfold World.removeObservingObject
  rcases sectorAt_cases w sectorId with ⟨w', hat, hsame, -⟩ | ⟨sector, hat, hfind⟩
  · rw [hat]
    exact hsame
  · rw [hat]
    dsimp only
    split
    · exact refl _
    · split
      · exact setSector hfind rfl
      · exact refl _

theorem SameCounters.promoteObservingObject (originSectorId : Nat) (info : ObjectInfo)
    (now : Milliseconds) :
    SameCounters w (w.promoteObservingObject originSectorId info now).world := by
  -- wherever the object is now, only its fixture was written
  unfold World.promoteObservingObject
  rcases sectorAt_cases w info.sectorId with ⟨w', hat, hsame, -⟩ | ⟨sector, hat, hfind⟩
  · rw [hat]
    exact hsame
  · rw [hat]
    dsimp only
    split
    · exact refl _
    · split_ifs <;> exact setSector hfind rfl

theorem SameCounters.updateObject (clock : Clock) (x : Nat) (w : World) (o : Nat) :
    SameCounters w (w.updateObject clock x o).world := by
  unfold World.updateObject
  split
  next sector hfind =>
    split
    · exact refl w
    · dsimp only
      split
      · exact setSector hfind rfl
      · exact setSector hfind rfl
  next =>
    exact refl w

theorem SameCounters.updateSector (clock : Clock) (w : World) (x : Nat) :
    SameCounters w (w.updateSector clock x).world := by
  unfold World.updateSector
  split
  · exact foldOutcome (fun w o => updateObject clock x w o) _ w
  · exact refl w

theorem SameCounters.update (clock : Clock) : SameCounters w (w.update clock).world :=
  foldOutcome (fun w x => updateSector clock w x) _ (w.forgetPromoted clock.tick)

/-- The operation builds and deletes no sector, and spawns nothing. -/
def Operation.KeepsCounters : Operation → Prop
  | .addSector _ _ | .removeSector _ | .clearSector | .spawnCharacter _ _ _ => False
  | _ => True

/-- All other operations leave the sectors and their counters alone. -/
theorem SameCounters.perform {op : Operation} (hop : op.KeepsCounters) :
    SameCounters w (w.perform op).world := by
  cases op with
  | addSector | removeSector | clearSector | spawnCharacter =>
      exact hop.elim
  | removeCharacter source packet =>
      exact removeCharacter source packet
  | moveObject source packet =>
      exact moveObject source packet
  | createObservingObject info =>
      exact createObservingObject info
  | removeObservingObject sectorId objectId =>
      exact removeObservingObject sectorId objectId
  | promoteObservingObject originSectorId info now =>
      exact promoteObservingObject originSectorId info now
  | getAllObjects sectorId =>
      rcases sectorAt_cases w sectorId with ⟨w', hat, hsame, -⟩ | ⟨sector, hat, -⟩
      · simpa only [World.perform, World.getAllObjects, hat] using hsame
      · simpa only [World.perform, World.getAllObjects, hat] using refl w
  | update clock =>
      exact update clock
  | rehash order =>
      -- reads do not depend on the order
      intro x
      simp [World.perform, counterAt]

/-! ## Spawns -/

/-- The id in the answer to a spawn. -/
def assignedId (r : Outcome) : Option Nat :=
  r.posts.findSome? fun
    | .toServer _ (.spawnCharacterRs _ (some info) _) => some info.objectId
    | _ => none

theorem spawnCharacter_of_absent {packet : SpawnCharacterRq} (source : Nat) (now : Milliseconds)
    (h : w.counterAt packet.sectorId = none) :
    SameCounters w (w.spawnCharacter source packet now).world ∧
      assignedId (w.spawnCharacter source packet now) = none := by
  unfold spawnCharacter
  rcases sectorAt_cases w packet.sectorId with ⟨w', hat, hsame, -⟩ | ⟨sector, hat, hfind⟩
  · rw [hat]
    exact ⟨hsame, rfl⟩
  · rw [counterAt_of_find hfind] at h
    cases h

/-- A spawn advances the counter of its sector, and assigns the id it had, if any. -/
theorem spawnCharacter_of_counter {packet : SpawnCharacterRq} {c : Nat} (source : Nat)
    (now : Milliseconds) (h : w.counterAt packet.sectorId = some c) :
    (∀ x, (w.spawnCharacter source packet now).world.counterAt x =
      if x = packet.sectorId then some ((c + 1) % 2 ^ 64) else w.counterAt x) ∧
      ∀ id, assignedId (w.spawnCharacter source packet now) = some id → id = c := by
  unfold spawnCharacter
  rcases sectorAt_cases w packet.sectorId with ⟨w', hat, -, hnone⟩ | ⟨sector, hat, hfind⟩
  · rw [hnone] at h
    cases h
  · rw [counterAt_of_find hfind] at h
    cases h
    rw [hat]
    dsimp only [SectorSystem.createFixture]
    -- the counter advances whether the id is free or not
    split
    next counted hcreated =>
      split at hcreated
      · cases hcreated
        refine ⟨fun x => counterAt_setSector _ _ x _, fun id hid => ?_⟩
        cases hid
      · cases hcreated
    next counted f hcreated =>
      split at hcreated
      · cases hcreated
      · cases hcreated
        refine ⟨fun x => counterAt_setSector _ _ x _, fun id hid => ?_⟩
        cases hid
        rfl

/-! ## Sectors that come and go -/

/-- The counter of a sector that has just been built. -/
def startingId (serverId sectorId : Nat) : Nat := (SectorSystem.new serverId sectorId).currentFixtureId

theorem counterAt_removeSector (w : World) (x y : Nat) :
    (w.removeSector x).counterAt y = if y = x then none else w.counterAt y := by
  unfold removeSector
  rcases sectorAt_cases w x with ⟨w', hat, hsame, hnone⟩ | ⟨sector, hat, -⟩
  · rw [hat]
    dsimp only
    rw [hsame y]
    split
    next hy =>
      rw [hy, hnone]
    next =>
      rfl
  · rw [hat]
    by_cases hy : y = x
    · simp [counterAt, hy]
    · simp [counterAt, hy]

/-- A sector is added where none is. -/
theorem counterAt_addSector (w : World) (serverId x y : Nat) :
    (w.addSector serverId x).world.counterAt y = w.counterAt y ∨
      (y = x ∧ w.counterAt y = none ∧
        (w.addSector serverId x).world.counterAt y = some (startingId serverId x)) := by
  unfold addSector
  rcases sectorAt_cases w x with ⟨w', hat, hsame, hnone⟩ | ⟨sector, hat, -⟩
  · rw [hat]
    dsimp only
    rw [counterAt_setSector]
    by_cases hy : y = x
    · rw [if_pos hy, hy]
      exact .inr ⟨rfl, hnone, rfl⟩
    · rw [if_neg hy]
      exact .inl (hsame y)
  · -- the assertion that there is none fails, and nothing is added
    rw [hat]
    exact .inl rfl

end World
end Game
end SeamlessServer
