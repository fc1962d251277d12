import SeamlessServer.Data.Machine
import SeamlessServer.Game.World

/-!
# Game.Sectors — the entries of `_sectors`

`World::Update` asserts that no entry of `_sectors` is null.  The other operations reach the map
through `operator[]`, which inserts a null entry under an id it does not know, and `ClearSector`
leaves nothing but null entries.

* `World.Operation` and `World.perform` are the public operations, as one machine;
* `World.Addressed` is the condition on a step under which the map stays free of null entries;
* `no_null_sector` is the guarantee for the runs that meet it.
-/

namespace SeamlessServer
namespace Game

open Utility Protocol

namespace World

/-! ## The operations -/

/-- A call of a public operation, or a change of the iteration order. -/
inductive Operation
  | addSector (serverId sectorId : Nat)
  | removeSector (sectorId : Nat)
  | clearSector
  | spawnCharacter (requestServerId : Nat) (packet : SpawnCharacterRq) (now : Milliseconds)
  | removeCharacter (requestServerId : Nat) (packet : RemoveCharacterRq)
  | moveObject (requestServerId : Nat) (packet : CharacterMoveRq)
  | createObservingObject (info : ObjectInfo)
  | removeObservingObject (sectorId objectId : Nat)
  | promoteObservingObject (originSectorId : Nat) (info : ObjectInfo) (now : Milliseconds)
  | getAllObjects (sectorId : Nat)
  | update (clock : Clock)
  | rehash (order : List Nat)

def perform (w : World) : Operation → Outcome
  | .addSector serverId sectorId => w.addSector serverId sectorId
  | .removeSector sectorId => { world := w.removeSector sectorId }
  | .clearSector => { world := w.clearSector }
  | .spawnCharacter requestServerId packet now => w.spawnCharacter requestServerId packet now
  | .removeCharacter requestServerId packet => w.removeCharacter requestServerId packet
  | .moveObject requestServerId packet => w.moveObject requestServerId packet
  | .createObservingObject info => w.createObservingObject info
  | .removeObservingObject sectorId objectId => w.removeObservingObject sectorId objectId
  | .promoteObservingObject originSectorId info now =>
      w.promoteObservingObject originSectorId info now
  | .getAllObjects sectorId =>
      match w.getAllObjects sectorId with
      | (w, none) => { world := w, fault := some .sectorNotHeld }
      | (w, some _) => { world := w }
  | .update clock => w.update clock
  | .rehash order => { world := { w with sectors := w.sectors.reorder order } }

/-- The world of a play server before its first sector. -/
def blank : World := ⟨UnorderedMap.empty, UnorderedMap.empty⟩

/-- The operations in any order.  A run goes on after a fault with what the operation has written
up to there, so nothing depends on who catches it. -/
def machine : Machine World Operation where
  init := fun w => w = blank
  step := fun w op w' => w' = (w.perform op).world

/-! ## Null entries -/

/-- `Update` meets no null sector. -/
def NoNull (w : World) : Prop := ∀ x, w.sectors.find x ≠ some none

variable {w : World} {x : Nat}

theorem NoNull.setSector (h : NoNull w) (x : Nat) (sector : SectorSystem) :
    NoNull (w.setSector x sector) := by
  intro x'
  by_cases hx : x' = x
  · subst hx
    simp [World.setSector]
  · simpa [World.setSector, hx] using h x'

theorem NoNull.foldOutcome {α : Type} {body : World → α → Outcome}
    (hbody : ∀ w a, NoNull w → NoNull (body w a).world) (rounds : List α) :
    ∀ w, NoNull w → NoNull (foldOutcome body w rounds).world := by
  induction rounds with
  | nil =>
      intro w h
      exact h
  | cons a rounds ih =>
      intro w h
      have hfirst := hbody w a h
      cases hfault : (body w a).fault with
      | some fault =>
          simpa [Game.foldOutcome, hfault] using hfirst
      | none =>
          simpa [Game.foldOutcome, hfault] using ih _ hfirst

theorem NoNull.updateObject (clock : Clock) (x : Nat) (h : NoNull w) (o : Nat) :
    NoNull (w.updateObject clock x o).world := by
  unfold World.updateObject
  split
  · split
    · exact h
    · simp only
      split
      · exact h.setSector _ _
      · exact h.setSector _ _
  · exact h

theorem NoNull.updateSector (clock : Clock) (h : NoNull w) (x : Nat) :
    NoNull (w.updateSector clock x).world := by
  unfold World.updateSector
  split
  · exact NoNull.foldOutcome (fun w o h => h.updateObject clock x o) _ _ h
  · exact h

theorem NoNull.update (h : NoNull w) (clock : Clock) : NoNull (w.update clock).world :=
  NoNull.foldOutcome (fun _ x h => h.updateSector clock x) _ _ h

/-! ## One operation -/

/-- The id an operation passes to `operator[]`.  `AddSector` fills the entry it finds. -/
def Operation.address : Operation → Option Nat
  | .removeSector sectorId => some sectorId
  | .spawnCharacter _ packet _ => some packet.sectorId
  | .removeCharacter _ packet => some packet.sectorId
  | .moveObject _ packet => some packet.sectorId
  | .createObservingObject info => some info.sectorId
  | .removeObservingObject sectorId _ => some sectorId
  | .promoteObservingObject _ info _ => some info.sectorId
  | .getAllObjects sectorId => some sectorId
  | _ => none

/-- A step addresses a sector of this server, and the sectors are cleared only if there are none. -/
structure Addressed (w : World) (op : Operation) : Prop where
  known : ∀ x, op.address = some x → x ∈ w.sectors.keys
  clear : op = .clearSector → w.sectors.keys = []

theorem NoNull.addSector (h : NoNull w) (serverId x : Nat) :
    NoNull (w.addSector serverId x).world := by
  cases hfind : w.sectors.find x with
  | none =>
      -- the null entry of `operator[]` is overwritten before the function returns
      intro x'
      by_cases hx : x' = x
      · subst hx
        simp [World.addSector, sectorAt_of_absent hfind, World.setSector]
      · simpa [World.addSector, sectorAt_of_absent hfind, World.setSector, hx] using h x'
  | some entry =>
      cases entry with
      | none =>
          exact absurd hfind (h x)
      | some sector =>
          simpa [World.addSector, sectorAt_of_find hfind] using h

section Known

variable {sector : SectorSystem}

theorem world_forward (w : World) (o : Nat) (packetTo : Nat → PlayPacket) :
    (w.forward o packetTo).world = w := by
  unfold World.forward
  split <;> rfl

theorem NoNull.removeSector (h : NoNull w) (hfind : w.sectors.find x = some (some sector)) :
    NoNull (w.removeSector x) := by
  intro x'
  by_cases hx : x' = x
  · subst hx
    simp [World.removeSector, sectorAt_of_find hfind]
  · simpa [World.removeSector, sectorAt_of_find hfind, hx] using h x'

theorem NoNull.spawnCharacter (h : NoNull w) {packet : SpawnCharacterRq}
    (hfind : w.sectors.find packet.sectorId = some (some sector)) (source : Nat)
    (now : Milliseconds) : NoNull (w.spawnCharacter source packet now).world := by
  unfold World.spawnCharacter
  rw [sectorAt_of_find hfind]
  simp only
  split
  · exact h.setSector _ _
  · exact h.setSector _ _

theorem NoNull.removeCharacter (h : NoNull w) {packet : RemoveCharacterRq}
    (hfind : w.sectors.find packet.sectorId = some (some sector)) (source : Nat) :
    NoNull (w.removeCharacter source packet).world := by
  unfold World.removeCharacter
  rw [sectorAt_of_find hfind]
  simp only
  split
  · split
    · simpa only [world_forward] using h
    · exact h
  · split
    · split
      · simpa only [world_forward] using h
      · exact h.setSector _ _
    · exact h.setSector _ _

theorem NoNull.moveObject (h : NoNull w) {packet : CharacterMoveRq}
    (hfind : w.sectors.find packet.sectorId = some (some sector)) (source : Nat) :
    NoNull (w.moveObject source packet).world := by
  unfold World.moveObject
  rw [sectorAt_of_find hfind]
  simp only
  split
  · split
    · simpa only [world_forward] using h
    · exact h
  · split
    · split
      · simpa only [world_forward] using h.setSector _ _
      · exact h.setSector _ _
    · exact h.setSector _ _

theorem NoNull.createObservingObject (h : NoNull w) {info : ObjectInfo}
    (hfind : w.sectors.find info.sectorId = some (some sector)) :
    NoNull (w.createObservingObject info).world := by
  unfold World.createObservingObject
  rw [sectorAt_of_find hfind]
  simp only
  split
  · exact h
  · split
    · exact h
    · exact h.setSector _ _

theorem NoNull.removeObservingObject (h : NoNull w)
    (hfind : w.sectors.find x = some (some sector)) (o : Nat) :
    NoNull (w.removeObservingObject x o).world := by
  unfold World.removeObservingObject
  rw [sectorAt_of_find hfind]
  simp only
  split
  · exact h
  · split
    · exact h.setSector _ _
    · exact h

theorem NoNull.promoteObservingObject (h : NoNull w) {info : ObjectInfo}
    (hfind : w.sectors.find info.sectorId = some (some sector)) (origin : Nat)
    (now : Milliseconds) : NoNull (w.promoteObservingObject origin info now).world := by
  unfold World.promoteObservingObject
  rw [sectorAt_of_find hfind]
  simp only
  split
  · exact h
  · -- the branches differ in what they post
    simp only [apply_ite Outcome.world, ite_self]
    exact h.setSector _ _

end Known

/-- An operation on a sector of this server. -/
theorem NoNull.perform (h : NoNull w) {op : Operation} (haddress : op.address = some x)
    (hx : x ∈ w.sectors.keys) : NoNull (w.perform op).world := by
  obtain ⟨entry, hfind⟩ := w.sectors.exists_find_of_mem_keys hx
  cases entry with
  | none =>
      exact absurd hfind (h x)
  | some sector =>
      cases op with
      | removeSector =>
          cases haddress
          exact h.removeSector hfind
      | spawnCharacter source packet now =>
          cases haddress
          exact h.spawnCharacter hfind source now
      | removeCharacter source packet =>
          cases haddress
          exact h.removeCharacter hfind source
      | moveObject source packet =>
          cases haddress
          exact h.moveObject hfind source
      | createObservingObject info =>
          cases haddress
          exact h.createObservingObject hfind
      | removeObservingObject x o =>
          cases haddress
          exact h.removeObservingObject hfind o
      | promoteObservingObject origin info now =>
          cases haddress
          exact h.promoteObservingObject hfind origin now
      | getAllObjects =>
          cases haddress
          simpa [World.perform, World.getAllObjects, sectorAt_of_find hfind] using h
      | _ =>
          simp [Operation.address] at haddress

/-- `operator[]` with an unknown id leaves a null entry. -/
theorem null_of_unknown (op : Operation) (haddress : op.address = some x)
    (hx : x ∉ w.sectors.keys) : (w.perform op).world.sectors.find x = some none := by
  have hfind : w.sectors.find x = none := by
    simpa [w.sectors.mem_keys] using hx
  cases op <;> cases haddress <;>
    simp [World.perform, World.removeSector, World.spawnCharacter, World.removeCharacter,
      World.moveObject, World.createObservingObject, World.removeObservingObject,
      World.promoteObservingObject, World.getAllObjects, sectorAt_of_absent hfind]

/-- From a map without null entries, a step leaves none exactly if it is addressed. -/
theorem noNull_perform_iff (h : NoNull w) (op : Operation) :
    NoNull (w.perform op).world ↔ Addressed w op := by
  cases haddress : op.address with
  | some x =>
      have hclear : op ≠ .clearSector := by
        rintro rfl
        simp [Operation.address] at haddress
      constructor
      · intro h'
        refine ⟨?_, fun hop => absurd hop hclear⟩
        intro x' hx'
        cases haddress.symm.trans hx'
        by_contra hx
        exact h' x (null_of_unknown op haddress hx)
      · intro haddressed
        exact h.perform haddress (haddressed.known x haddress)
  | none =>
      -- the operations that pass no id of their own to `operator[]`
      have hknown : ∀ x, op.address = some x → x ∈ w.sectors.keys := by
        intro x hx
        simp [haddress] at hx
      cases op with
      | addSector serverId x =>
          exact iff_of_true (h.addSector serverId x) ⟨hknown, by simp⟩
      | update clock =>
          exact iff_of_true (h.update clock) ⟨hknown, by simp⟩
      | rehash order =>
          refine iff_of_true ?_ ⟨hknown, by simp⟩
          simpa [NoNull, World.perform] using h
      | clearSector =>
          constructor
          · intro h'
            refine ⟨hknown, fun _ => ?_⟩
            rw [List.eq_nil_iff_forall_not_mem]
            intro x hx
            obtain ⟨entry, hfind⟩ := w.sectors.exists_find_of_mem_keys hx
            exact h' x (by simp [World.perform, World.clearSector, hfind])
          · intro haddressed x hx
            have hx' : x ∈ w.clearSector.sectors.keys := UnorderedMap.mem_keys_of_find _ hx
            have hkeys : w.sectors.keys = [] := haddressed.clear rfl
            have hx'' : x ∈ w.sectors.keys := hx'
            simp [hkeys] at hx''
      | _ =>
          simp [Operation.address] at haddress

/-! ## The assertion of `Update` -/

/-- A loop meets a fault only if one of its rounds does. -/
theorem fault_foldOutcome {α : Type} {body : World → α → Outcome} {P : World → Prop}
    {fault : Fault} {rounds : List α}
    (hbody : ∀ w, ∀ a ∈ rounds, P w → P (body w a).world ∧ (body w a).fault ≠ some fault) :
    ∀ w, P w → P (foldOutcome body w rounds).world ∧
      (foldOutcome body w rounds).fault ≠ some fault := by
  induction rounds with
  | nil =>
      intro w h
      exact ⟨h, by simp [Game.foldOutcome]⟩
  | cons a rounds ih =>
      intro w h
      rcases hbody w a List.mem_cons_self h with ⟨hworld, hfault⟩
      have hrest := ih (fun w b hb => hbody w b (List.mem_cons_of_mem a hb)) _ hworld
      cases hfirst : (body w a).fault with
      | some other =>
          rw [hfirst] at hfault
          simpa [Game.foldOutcome, hfirst] using And.intro hworld hfault
      | none =>
          simpa [Game.foldOutcome, hfirst] using hrest

/-- The callbacks fail for other reasons. -/
theorem fault_updateFixture (x : Nat) (f : Fixture) (clock : Clock) :
    (updateFixture x f clock).fault ≠ some .nullSector := by
  have hlocation : ∀ f location phase now,
      (onChangeFixtureLocation x f location phase now).fault ≠ some .nullSector := by
    intro f location phase now
    simp only [onChangeFixtureLocation]
    split
    · simp
    · split <;> simp
  have hphase : ∀ f phase, (onChangeFixturePhase x f phase).fault ≠ some .nullSector := by
    intro f phase
    unfold onChangeFixturePhase
    split <;> simp
  have hsettle : ∀ (change : Change) location phase, change.fault ≠ some .nullSector →
      (change.settle location phase).fault ≠ some .nullSector := by
    intro change location phase h
    unfold Change.settle
    split
    · exact h
    · simpa using h
  simp only [updateFixture]
  split
  · simp
  · split
    · simp
    · simp only [transform]
      split
      · split
        · exact hsettle _ _ _ (hlocation _ _ _ _)
        · simp
      · split
        · exact hsettle _ _ _ (hlocation _ _ _ _)
        · split
          · split
            · exact hsettle _ _ _ (hphase _ _)
            · simp
          · simp
      · simp

/-- The entries under some ids are sectors. -/
def Held (w : World) (xs : List Nat) : Prop :=
  ∀ x ∈ xs, ∃ sector, w.sectors.find x = some (some sector)

theorem Held.setSector {xs : List Nat} (h : Held w xs) (x : Nat) (sector : SectorSystem) :
    Held (w.setSector x sector) xs := by
  intro x' hx'
  by_cases hx : x' = x
  · subst hx
    exact ⟨sector, by simp [World.setSector]⟩
  · obtain ⟨sector', hfind⟩ := h x' hx'
    exact ⟨sector', by simpa [World.setSector, hx] using hfind⟩

theorem Held.updateObject {xs : List Nat} (h : Held w xs) (hx : x ∈ xs) (clock : Clock) (o : Nat) :
    Held (w.updateObject clock x o).world xs ∧
      (w.updateObject clock x o).fault ≠ some .nullSector := by
  obtain ⟨sector, hfind⟩ := h x hx
  unfold World.updateObject
  simp only [hfind]
  split
  · exact ⟨h, by simp⟩
  · refine ⟨?_, fault_updateFixture x _ clock⟩
    simp only
    split
    · exact h.setSector _ _
    · exact h.setSector _ _

theorem Held.updateSector {xs : List Nat} (h : Held w xs) (hx : x ∈ xs) (clock : Clock) :
    Held (w.updateSector clock x).world xs ∧
      (w.updateSector clock x).fault ≠ some .nullSector := by
  obtain ⟨sector, hfind⟩ := h x hx
  unfold World.updateSector
  simp only [hfind]
  exact fault_foldOutcome (P := fun w => Held w xs)
    (fun w o _ h => h.updateObject hx clock o) w h

/-- Without null entries the assertion holds in every round. -/
theorem NoNull.update_asserts (h : NoNull w) (clock : Clock) :
    (w.update clock).fault ≠ some .nullSector := by
  have hheld : Held (w.forgetPromoted clock.tick) w.sectors.keys := by
    intro x hx
    obtain ⟨entry, hfind⟩ := w.sectors.exists_find_of_mem_keys hx
    cases entry with
    | none =>
        exact absurd hfind (h x)
    | some sector =>
        exact ⟨sector, hfind⟩
  exact (fault_foldOutcome (P := fun w' => Held w' w.sectors.keys)
    (fun w' x hx h => h.updateSector hx clock) _ hheld).2

/-! ## Runs -/

theorem noNull_of_reachable (h : (machine.restrict Addressed).Reachable w) : NoNull w := by
  refine Machine.Reachable.invariant (M := machine.restrict Addressed) (P := NoNull) ?_ ?_ h
  · rintro w rfl x
    simp [blank]
  · rintro w op w' hw ⟨haddressed, rfl⟩
    exact (noNull_perform_iff hw op).2 haddressed

/-- In the runs whose operations address only sectors of this server, and that clear the sectors only
if there are none, no entry is null whenever `Update` runs, and its assertion holds.  The condition is
exact: after such a run, the next operation leaves the map free of null entries if and only if it
meets it. -/
theorem no_null_sector (h : (machine.restrict Addressed).Reachable w) :
    NoNull w ∧ (∀ clock, (w.update clock).fault ≠ some .nullSector) ∧
      ∀ op, NoNull (w.perform op).world ↔ Addressed w op := by
  have hw := noNull_of_reachable h
  exact ⟨hw, hw.update_asserts, noNull_perform_iff hw⟩

/-! ### A server with two sectors -/

theorem Addressed.of_mem {op : Operation} (haddress : op.address = some x) (h : x ∈ w.sectors.keys) :
    Addressed w op := by
  refine ⟨fun x' hx' => ?_, fun hclear => ?_⟩
  · rw [haddress] at hx'
    cases hx'
    exact h
  · rw [hclear] at haddress
    cases haddress

/-- An object of sector 7 that has come to sector 12. -/
def visitor : ObjectInfo where
  objectId := 77
  sectorId := 12
  fixture :=
    { id := 77, position := ⟨2500, 500⟩, size := ⟨100, 100⟩, direction := .Max, sectorId := 12 }

/-- The first id of server 2 in sector 12. -/
def spawnedId : Nat := 2 * 10 ^ 15 + 2 * 10 ^ 14 + 12 * 10 ^ 11 + 1

/-- Two sectors are added, a character is spawned and moved, a copy is created and promoted, and after
an update the character is removed, and the other sector. -/
def serving : List Operation :=
  [.addSector 2 12, .addSector 2 13, .spawnCharacter 9 ⟨1, 12, ⟨2500, 2500⟩, ⟨100, 100⟩⟩ 0,
    .moveObject 9 ⟨12, spawnedId, ⟨2500, 2500⟩, .Right, true⟩, .createObservingObject visitor,
    .promoteObservingObject 7 visitor 500, .update ⟨1000, 1000, 1000, fun _ _ => 1000⟩,
    .removeCharacter 9 ⟨1, 12, spawnedId, true⟩, .removeSector 13]

def served : World := serving.foldl (fun w op => (w.perform op).world) blank

theorem reachable_served : (machine.restrict Addressed).Reachable served := by
  have hadd : ∀ w : World, ∀ x, Addressed w (.addSector 2 x) := fun w x =>
    ⟨by simp [Operation.address], by simp⟩
  have hupdate : ∀ w : World, ∀ clock, Addressed w (.update clock) := fun w clock =>
    ⟨by simp [Operation.address], by simp⟩
  have hrun : (machine.restrict Addressed).Run blank serving served := by
    refine .cons ⟨hadd _ _, rfl⟩ (.cons ⟨hadd _ _, rfl⟩ (.cons ⟨.of_mem rfl ?_, rfl⟩
      (.cons ⟨.of_mem rfl ?_, rfl⟩ (.cons ⟨.of_mem rfl ?_, rfl⟩ (.cons ⟨.of_mem rfl ?_, rfl⟩
      (.cons ⟨hupdate _ _, rfl⟩ (.cons ⟨.of_mem rfl ?_, rfl⟩ (.cons ⟨.of_mem rfl ?_, rfl⟩
      (.nil _))))))))) <;>
      decide +kernel
  exact hrun.reachable (.init rfl)

theorem no_null_sector_served :
    served.sectors.keys = [12] ∧
      (served.sectors.find 12).map (·.map fun sector => sector.fixtures.keys) = some (some [77]) ∧
      NoNull served ∧ ∀ clock, (served.update clock).fault ≠ some .nullSector := by
  obtain ⟨hnone, hupdate, -⟩ := no_null_sector reachable_served
  exact ⟨by decide +kernel, by decide +kernel, hnone, hupdate⟩

/-- A packet for a sector of another server leaves a null entry, which the next update meets. -/
theorem null_sector_updated :
    let w := ((blank.addSector 2 7).world.removeObservingObject 8 1).world
    machine.Reachable w ∧ ¬ NoNull w ∧
      (w.update ⟨0, 0, 0, fun _ _ => 0⟩).fault = some .nullSector := by
  intro w
  have hreach : machine.Reachable w :=
    .step (e := .removeObservingObject 8 1) (.step (e := .addSector 2 7) (.init rfl) rfl) rfl
  refine ⟨hreach, ?_, by decide +kernel⟩
  intro h
  exact h 8 (null_of_unknown (.removeObservingObject 8 1) rfl (by decide))

end World

end Game
end SeamlessServer
