import SeamlessServer.Agency.Cache
import SeamlessServer.Game.DeadReckoning
import SeamlessServer.Game.World

/-!
# Agency.Snapshot — the list of objects that a client is given

`MakeObjectListPacket` is what a client learns about the objects that were in its sector before it came;
of those that come later it learns from the pushes.  The two are to agree: on where an object is, for
the client lets it move for the time since its position was recorded, and on how it is identified.
-/

namespace SeamlessServer

namespace Game

open Utility

namespace Fixture

/-! ## Movements that end at the same place -/

/-- A fixture that is larger than the world is kept between the same two positions, the other way
round. -/
theorem clampMovement_eq_projIcc_of_le (position movement : CoordinateUnit)
    {half worldLow worldHigh : CoordinateUnit} (hlarge : worldHigh - half ≤ worldLow + half) :
    position + clampMovement movement (position + movement - half) (position + movement + half)
      worldLow worldHigh = Set.projIcc (worldHigh - half) (worldLow + half) hlarge
        (worldLow + worldHigh - (position + movement)) := by
  rw [Set.coe_projIcc]
  unfold clampMovement
  by_cases hlow : worldLow > position + movement - half
  · by_cases hhigh : worldHigh < position + movement + half
    · -- both borders are crossed, and both corrections made
      rw [min_eq_right (by linarith), max_eq_right (by linarith)]
      simp only [hlow, hhigh, if_true]
      linarith
    · rw [min_eq_left (by linarith), max_eq_right (by linarith)]
      simp only [hlow, hhigh, if_true, if_false]
      linarith
  · by_cases hhigh : worldHigh < position + movement + half
    · rw [min_eq_right (by linarith), max_eq_left (by linarith)]
      simp only [hlow, hhigh, if_true, if_false]
      linarith
    · -- the two positions are one
      rw [min_eq_right (by linarith), max_eq_right (by linarith)]
      simp only [hlow, hhigh, if_false]
      linarith

/-- Two movements along an axis end at the same position: they are the same, or both end beyond the
same border, or only one position is left to the fixture. -/
def SameEnd (f : Fixture) (a : Axis) (way way' : CoordinateUnit) : Prop :=
  let lo := min (lowest f.size a) (highest f.size a)
  let hi := max (lowest f.size a) (highest f.size a)
  let end₁ := f.position.along a + way
  let end₂ := f.position.along a + way'
  end₁ = end₂ ∨ lo = hi ∨ (end₁ ≤ lo ∧ end₂ ≤ lo) ∨ (hi ≤ end₁ ∧ hi ≤ end₂)

instance (f : Fixture) (a : Axis) (way way' : CoordinateUnit) : Decidable (f.SameEnd a way way') :=
  inferInstanceAs (Decidable (_ ∨ _))

/-- `move_along` for a fixture that is larger than the world. -/
theorem move_along_of_le (f : Fixture) (delta : Milliseconds) (hdir : f.direction ≠ .Max) (a : Axis)
    (hlarge : highest f.size a ≤ lowest f.size a) :
    (f.move delta).position.along a =
      Set.projIcc (highest f.size a) (lowest f.size a) hlarge
        (-10000 + 15000 -
          (f.position.along a + f.way a ((delta + f.personalDeltaTime) % 2 ^ 64))) := by
  refine Eq.trans ?_ (clampMovement_eq_projIcc_of_le (f.position.along a)
    (f.way a ((delta + f.personalDeltaTime) % 2 ^ 64)) hlarge)
  cases a <;> simp only [move, hdir, if_false, toFixtureRectangle_eq, worldRect_eq] <;> rfl

/-- The reflection at the middle of the world exchanges the two borders. -/
theorem reflect_le_highest_iff (size : Size) (a : Axis) (q : CoordinateUnit) :
    -10000 + 15000 - q ≤ highest size a ↔ lowest size a ≤ q := by
  unfold lowest highest
  constructor <;> intro h <;> linarith

theorem lowest_le_reflect_iff (size : Size) (a : Axis) (q : CoordinateUnit) :
    lowest size a ≤ -10000 + 15000 - q ↔ q ≤ highest size a := by
  unfold lowest highest
  constructor <;> intro h <;> linarith

/-- The ends of two movements of a fixture, one of them with another personal delta time. -/
theorem move_along_eq_iff (f : Fixture) (personal : Nat) (hdir : f.direction ≠ .Max)
    (delta delta' : Milliseconds) (a : Axis) :
    (move { f with personalDeltaTime := personal } delta').position.along a =
        (f.move delta).position.along a ↔
      f.SameEnd a (f.way a ((delta' + personal) % 2 ^ 64))
        (f.way a ((delta + f.personalDeltaTime) % 2 ^ 64)) := by
  rcases le_total (lowest f.size a) (highest f.size a) with hfit | hlarge
  · rw [move_along f delta hdir a hfit,
      move_along { f with personalDeltaTime := personal } delta' hdir a hfit, ← Subtype.ext_iff,
      projIcc_eq_projIcc_iff]
    unfold SameEnd
    rw [min_eq_left hfit, max_eq_right hfit]
    exact Iff.rfl
  · rw [move_along_of_le f delta hdir a hlarge,
      move_along_of_le { f with personalDeltaTime := personal } delta' hdir a hlarge,
      ← Subtype.ext_iff, projIcc_eq_projIcc_iff]
    unfold SameEnd
    rw [min_eq_right hlarge, max_eq_left hlarge]
    refine or_congr sub_right_inj (or_congr_right ?_)
    rw [or_comm]
    exact or_congr
      (and_congr (lowest_le_reflect_iff _ _ _) (lowest_le_reflect_iff _ _ _))
      (and_congr (reflect_le_highest_iff _ _ _) (reflect_le_highest_iff _ _ _))

end Fixture
end Game

namespace Agency

open Game Protocol Utility History

namespace AgencyWorker

variable (s : AgencyWorker)

/-- The `object_list` of `MakeObjectListPacket`. -/
def listedObjects (sectorId : Nat) (now : Milliseconds) : List ObjectInfo :=
  (s.objectCache sectorId).keys.filterMap fun objectId =>
    ((s.objectCache sectorId).find objectId).map (listedObject objectId · now)

theorem makeObjectListPacket_eq (sectorId : Nat) (now : Milliseconds) :
    s.makeObjectListPacket sectorId now = .objectListPs sectorId (s.listedObjects sectorId now) := rfl

variable {s}

theorem mem_listedObjects {x : Nat} {now : Milliseconds} {object : ObjectInfo} :
    object ∈ s.listedObjects x now ↔
      ∃ o f, (s.objectCache x).find o = some f ∧ object = listedObject o f now := by
  unfold listedObjects
  simp only [List.mem_filterMap, Option.map_eq_some_iff]
  constructor
  · rintro ⟨o, -, f, hfind, rfl⟩
    exact ⟨o, f, hfind, rfl⟩
  · rintro ⟨o, f, hfind, rfl⟩
    exact ⟨o, UnorderedMap.mem_keys_of_find _ hfind, f, hfind, rfl⟩

/-! ## Positions -/

/-- Along an axis the client lets the object move for the elapsed time modulo `2 ^ 16`, and gets where
it gets in the whole time, the time that it was ahead by when it was cached included. -/
def JoinsAlong (f : Fixture) (elapsed : Milliseconds) (a : Axis) : Prop :=
  f.SameEnd a (f.way a (elapsed % 2 ^ 16)) (f.way a ((elapsed + f.personalDeltaTime) % 2 ^ 64))

instance (f : Fixture) (elapsed : Milliseconds) (a : Axis) : Decidable (JoinsAlong f elapsed a) :=
  inferInstanceAs (Decidable (Fixture.SameEnd ..))

/-- Within about a minute of a recording that was not ahead, nothing is lost. -/
theorem joinsAlong_of_lt {f : Fixture} {elapsed : Milliseconds} (hpersonal : f.personalDeltaTime = 0)
    (h : 0 ≤ elapsed) (hlt : elapsed < 2 ^ 16) (a : Axis) : JoinsAlong f elapsed a := by
  have hshort : elapsed % 2 ^ 16 = elapsed := Int.emod_eq_of_lt h hlt
  have hlong : (elapsed + f.personalDeltaTime) % 2 ^ 64 = elapsed := by
    rw [hpersonal, Nat.cast_zero, add_zero]
    exact Int.emod_eq_of_lt h (hlt.trans (by norm_num))
  refine .inl ?_
  rw [hshort, hlong]

/-- A client that is given an object at the time `t` gets to the position of the object, exactly when
the narrowing of the elapsed time is of no account along either axis. -/
theorem joining_position_iff {x o : Nat} {f : Fixture} (hfind : (s.objectCache x).find o = some f)
    (hdir : f.direction ≠ .Max) (t : Milliseconds) :
    ∃ objects, s.makeObjectListPacket x t = .objectListPs x objects ∧
      ∃ object ∈ objects, object.objectId = o ∧
        ((object.fixture.move 0).position = (f.move (t - f.lastTransformTime)).position ↔
          ∀ a, JoinsAlong f (t - f.lastTransformTime) a) := by
  refine ⟨_, s.makeObjectListPacket_eq x t, listedObject o f t, mem_listedObjects.2 ⟨o, f, hfind, rfl⟩,
    rfl, ?_⟩
  -- the age passes through a field of 16 bits
  have hnarrow : (0 + (((t - f.lastTransformTime) % 2 ^ 16).toNat : Int)) % 2 ^ 64 =
      (t - f.lastTransformTime) % 2 ^ 16 := by
    omega
  have halong : ∀ a, ((listedObject o f t).fixture.move 0).position.along a =
      (f.move (t - f.lastTransformTime)).position.along a ↔
        JoinsAlong f (t - f.lastTransformTime) a := by
    -- both rectangles move from the same place, so only the distances along each axis can differ
    intro a
    have hlisted : (listedObject o f t).fixture =
        { f with personalDeltaTime := ((t - f.lastTransformTime) % 2 ^ 16).toNat } := by
      simp only [listedObject, ne_eq, hdir, not_false_eq_true, if_true]
    rw [hlisted, Fixture.move_along_eq_iff f _ hdir, hnarrow]
    rfl
  constructor
  · intro heq a
    exact (halong a).1 (by rw [heq])
  · intro h
    exact Vector2.ext_along fun a => (halong a).2 (h a)

end AgencyWorker

/-- An object that is on its way to the right. -/
def walker : Fixture where
  id := 7
  position := ⟨0, 0⟩
  size := ⟨100, 100⟩
  direction := .Right
  sectorId := 12
  lastTransformTime := 1000

/-- An agency that has been told of it at the time 1000. -/
def walkerAgency : AgencyWorker := idleAgency.cache 12 7 walker

theorem joining_position_walker :
    ∃ objects, walkerAgency.makeObjectListPacket 12 2000 = .objectListPs 12 objects ∧
      ∃ object ∈ objects, object.objectId = 7 ∧
        ((object.fixture.move 0).position = (walker.move 1000).position ↔
          ∀ a, AgencyWorker.JoinsAlong walker 1000 a) :=
  AgencyWorker.joining_position_iff (s := walkerAgency) (x := 12) (o := 7) (f := walker) rfl (by decide)
    2000

/-- After 65536 milliseconds a client that joins sees the object where it set out. -/
theorem joining_position_lost : ¬ ∀ object ∈ walkerAgency.listedObjects 12 66536,
    (object.fixture.move 0).position = (walker.move (66536 - walker.lastTransformTime)).position := by
  decide +kernel

/-! ## Identification -/

/-- A fixture carries the id of its object and the sector it is announced for. -/
def Keyed (info : ObjectInfo) : Prop :=
  info.fixture.id = info.objectId ∧ info.fixture.sectorId = info.sectorId

instance (info : ObjectInfo) : Decidable (Keyed info) := inferInstanceAs (Decidable (_ ∧ _))

/-- The fixtures that an event stores carry the ids and the sectors they are stored under.  A move
keeps those of its entry; a blank entry has the id zero and the sector zero. -/
def AgencyWorker.Identifies (s : AgencyWorker) : HandlerEvent → Prop
  | .packet _ (.spawnCharacterRs _ info _) _ => Keyed info
  | .packet _ (.createObjectPs info) _ => Keyed info
  | .packet _ (.promoteObjectRq originSectorId info) _ => s.Promotes originSectorId info → Keyed info
  | .packet _ (.objectListPs sectorId objects) _ =>
      ∀ o object, lastOf objects o = some object →
        object.fixture.id = o ∧ object.fixture.sectorId = sectorId
  | e => ∀ packet, s.writtenMove e = some packet →
      s.Cached packet.sectorId packet.objectId ∨ (packet.objectId = 0 ∧ packet.sectorId = 0)

namespace AgencyWorker

variable {s : AgencyWorker}

/-- The snapshot of a sector identifies an object as its entry is identified in the cache. -/
def Identified (s : AgencyWorker) : Prop :=
  ∀ x now, ∀ object ∈ s.listedObjects x now,
    object.objectId = object.fixture.id ∧ object.sectorId = x

theorem identified_iff :
    s.Identified ↔ ∀ x o f, (s.objectCache x).find o = some f → f.id = o ∧ f.sectorId = x := by
  constructor
  · intro h x o f hfind
    have hlisted := h x 0 (listedObject o f 0) (mem_listedObjects.2 ⟨o, f, hfind, rfl⟩)
    exact ⟨hlisted.1.symm, hlisted.2⟩
  · intro h x now object hmem
    obtain ⟨o, f, hfind, rfl⟩ := mem_listedObjects.1 hmem
    exact ⟨(h x o f hfind).1.symm, (h x o f hfind).2⟩

/-- A move leaves the id and the sector of its entry. -/
theorem movedFixture_keyed (hold : s.Identified) (packet : CharacterMoveRq) (now : Milliseconds) :
    ((s.movedFixture packet now).id = packet.objectId ∧
        (s.movedFixture packet now).sectorId = packet.sectorId) ↔
      s.Cached packet.sectorId packet.objectId ∨ (packet.objectId = 0 ∧ packet.sectorId = 0) := by
  cases hfind : (s.objectCache packet.sectorId).find packet.objectId with
  | none =>
      simp [movedFixture, Cached, hfind, blankFixture, eq_comm]
  | some f =>
      have hkeyed := identified_iff.1 hold _ _ f hfind
      simp [movedFixture, Cached, hfind, hkeyed]

theorem lastOf_map_stampObject (objects : List ObjectInfo) (now : Milliseconds) (o : Nat) :
    lastOf (objects.map (stampObject now)) o = (lastOf objects o).map (stampObject now) := by
  unfold lastOf
  rw [List.filter_map, List.getLast?_map]
  rfl

theorem identifies_iff (hold : s.Identified) (e : HandlerEvent) :
    s.Identifies e ↔ ∀ x o f, s.rewrites x o e = some (some f) → f.id = o ∧ f.sectorId = x := by
  cases e with
  | elsewhere agency => simp [Identifies, writtenMove, rewrites]
  | packet source packet clock =>
      -- of the packets that write, each has to name the object and the sector it is written under
      simp only [rewrites]
      cases packet with
      | spawnCharacterRs userId info error =>
          simp only [cacheWrite, Option.bind_some, forall_entry_put]
          exact Iff.rfl
      | removeCharacterRs userId sectorId objectId error =>
          refine iff_of_true (fun packet h => by cases h) fun x o f h => ?_
          exact absurd h (forall_entry_erase _ _ x o f)
      | characterMoveRs packet error =>
          by_cases htakes : s.TakesMove packet error
          · simp only [cacheWrite, if_pos htakes, Option.bind_some, forall_entry_put,
              movedFixture_keyed hold]
            simp [Identifies, writtenMove, htakes]
          · simp [cacheWrite, htakes, Identifies, writtenMove]
      | createObjectPs info =>
          simp only [cacheWrite, Option.bind_some, forall_entry_put]
          exact Iff.rfl
      | removeObjectPs sectorId objectId =>
          refine iff_of_true (fun packet h => by cases h) fun x o f h => ?_
          exact absurd h (forall_entry_erase _ _ x o f)
      | objectMovePs packet =>
          simp only [cacheWrite, Option.bind_some, forall_entry_put, movedFixture_keyed hold]
          simp [Identifies, writtenMove]
      | promoteObjectRq originSectorId info =>
          by_cases hpromotes : s.Promotes originSectorId info
          · simp only [cacheWrite, if_pos hpromotes, Option.bind_some, forall_entry_put, Identifies]
            exact ⟨fun h => h hpromotes, fun h _ => h⟩
          · simp [cacheWrite, hpromotes, Identifies]
      | objectListPs sectorId objects =>
          -- the snapshot replaces the cache of the sector; of two entries for an object the last
          -- one counts
          simp only [cacheWrite, Option.bind_some, forall_entry_replace, Identifies,
            lastOf_map_stampObject, Option.map_eq_some_iff]
          constructor
          · rintro h o _ ⟨object, hlast, rfl⟩
            exact h o object hlast
          · intro h o object hlast
            exact h o (stampObject clock.currentTimeEpoch object) ⟨object, hlast, rfl⟩

/-- Snapshots name objects and sectors as the pushes did, all along a sequence of packets, exactly when
every fixture is stored under its own id and sector. -/
theorem snapshots_identified_iff (start : AgencyWorker) (es : List HandlerEvent) :
    (∀ before, before <+: es → (start.after before).Identified) ↔
      Each (fun before e => (start.after before).Identifies e) es := by
  refine forall_prefix_iff_each (P := fun es => (start.after es).Identified) ?_ (fun es e h => ?_) es
  · rw [identified_iff]
    rintro x o f ⟨⟩
  · have hentries := identified_iff.1 h
    rw [identified_iff, after_append_singleton, identifies_iff h,
      forall_find_next hentries fun _ _ _ _ => Iff.rfl]

end AgencyWorker

/-- What `SendCreateObservingObject` announces of an object in the sectors around its own is not
stored under its own sector. -/
theorem not_keyed_announcement {sectors : List Nat} {origin sectorId : Nat} {info info' : ObjectInfo}
    (hmem : Posting.toSector (.createObjectPs info') sectorId ∈
      World.sendCreateObservingObject sectors origin info)
    (hne : info.fixture.sectorId ≠ sectorId) : info'.sectorId = sectorId ∧ ¬ Keyed info' := by
  unfold World.sendCreateObservingObject at hmem
  simp only [List.mem_flatMap, List.mem_cons, Posting.toSector.injEq, Notice.createObjectPs.injEq,
    reduceCtorEq, List.not_mem_nil, or_false] at hmem
  obtain ⟨x, -, rfl, rfl⟩ := hmem
  exact ⟨rfl, fun h => hne h.2⟩

/-- The copies of an object that has come close to the border of its sector, as the play server of
sector 12 announces them in sector 13. -/
def observed : List HandlerEvent :=
  (World.sendCreateObservingObject [13, invalidSector, invalidSector] 12 ⟨7, 12, walker⟩).filterMap
    fun
      | .toSector notice _ => some (.packet 3 (.ofNotice ⟨0, 0, blankFixture⟩ notice) ⟨1000, 1000⟩)
      | _ => none

/-- A client that enters sector 13 is told that the observing copy there is in sector 12. -/
theorem observed_misplaced : ¬ (idleAgency.after observed).Identified := by
  intro h
  have hlisted := (AgencyWorker.identified_iff.1 h) 13 7
    { walker with lastTransformTime := 1000 } (by decide)
  exact absurd hlisted.2 (by decide)

end Agency
end SeamlessServer
