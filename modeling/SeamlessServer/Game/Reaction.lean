import SeamlessServer.Game.Cluster
import SeamlessServer.Game.Observers

/-!
# Game.Reaction — a handler seen from one object in one sector

Every handler concerns one object in one sector.  `Reaction` lists what can happen there: the
fixture before, the fixture after, the packets sent to other play servers, and the fault.
`handle_reaction` shows that the handlers of the world do nothing else; everything proved about the
cluster is proved from this list.
-/

namespace SeamlessServer
namespace Game

open Utility Protocol

/-! ## Packets to play servers -/

/-- The postings to the owners of sectors. -/
def ownerPosts (posts : List Posting) : List (PlayPacket × Nat) :=
  posts.filterMap fun
    | .toSectorOwner packet sectorId => some (packet, sectorId)
    | _ => none

/-- Packets posted to the owner of the sector they name. -/
def addressed (packets : List PlayPacket) : List (PlayPacket × Nat) :=
  packets.map fun packet => (packet, packet.sectorId)

@[simp] theorem ownerPosts_nil : ownerPosts [] = [] := rfl

@[simp] theorem ownerPosts_append (l l' : List Posting) :
    ownerPosts (l ++ l') = ownerPosts l ++ ownerPosts l' := by
  simp [ownerPosts]

@[simp] theorem addressed_nil : addressed [] = [] := rfl

@[simp] theorem addressed_append (l l' : List PlayPacket) :
    addressed (l ++ l') = addressed l ++ addressed l' := by
  simp [addressed]

/-- A notice and a packet for each of a list of sectors. -/
theorem ownerPosts_flatMap (sectors : List Nat) (notice : Nat → Notice) (packet : Nat → PlayPacket)
    (h : ∀ x, (packet x).sectorId = x) :
    ownerPosts (sectors.flatMap fun x => [.toSector (notice x) x, .toSectorOwner (packet x) x]) =
      addressed (sectors.map packet) := by
  induction sectors with
  | nil =>
      rfl
  | cons x sectors ih =>
      rw [List.flatMap_cons, ownerPosts_append, ih]
      simp [ownerPosts, addressed, h]

/-- The creation of an observing copy in a sector. -/
def createPacket (originSectorId : Nat) (info : ObjectInfo) (x : Nat) : PlayPacket :=
  .createObservingObjectRq originSectorId
    { info with sectorId := x, fixture := { info.fixture with sectorId := x } }

theorem ownerPosts_sendCreate (sectors : List Nat) (s : Nat) (info : ObjectInfo) :
    ownerPosts (World.sendCreateObservingObject sectors s info) =
      addressed ((validSectors sectors).map (createPacket s info)) :=
  ownerPosts_flatMap (validSectors sectors) _ (createPacket s info) (fun _ => rfl)

theorem ownerPosts_sendRemove (sectors : List Nat) (o : Nat) :
    ownerPosts (World.sendRemoveObservingObject sectors o) =
      addressed ((validSectors sectors).map (PlayPacket.removeObservingObjectRq · o)) :=
  ownerPosts_flatMap (validSectors sectors) _ (PlayPacket.removeObservingObjectRq · o) (fun _ => rfl)

/-- The packets of an exchange of observers. -/
def exchangePackets (info : ObjectInfo) (p : Direction) (s : Nat) (location : FixtureLocation)
    (q : Direction) (d : Nat) : List PlayPacket :=
  if s = d ∧ p = q ∧ location = .Leave then
    []
  else
    (removedSectors p s q d).map (PlayPacket.removeObservingObjectRq · info.objectId) ++
      (createdSectors p s q d).map (createPacket s info)

theorem ownerPosts_exchange (info : ObjectInfo) (p : Direction) (s : Nat)
    (location : FixtureLocation) (q : Direction) (d : Nat) :
    ownerPosts (World.exchangeObservingObject info p s location q d) =
      addressed (exchangePackets info p s location q d) := by
  unfold World.exchangeObservingObject exchangePackets removedSectors createdSectors
  split_ifs <;> simp [ownerPosts_sendRemove, ownerPosts_sendCreate]

/-- The packets of an exchange are of two kinds. -/
theorem forall_mem_exchangePackets {info : ObjectInfo} {p q : Direction} {s d : Nat}
    {location : FixtureLocation} {P : PlayPacket → Prop}
    (hremove : ∀ x, P (.removeObservingObjectRq x info.objectId))
    (hcreate : ∀ x, P (createPacket s info x)) :
    ∀ packet ∈ exchangePackets info p s location q d, P packet := by
  intro packet h
  unfold exchangePackets at h
  split_ifs at h
  · simp at h
  · rcases List.mem_append.1 h with h | h
    · rcases List.mem_map.1 h with ⟨x, _, rfl⟩
      exact hremove x
    · rcases List.mem_map.1 h with ⟨x, _, rfl⟩
      exact hcreate x

/-! ## Writes to the fixtures of a world -/

namespace World

/-- The id recorded in the sector system stored under a key, if there is one. -/
def sectorIdAt (w : World) (x : Nat) : Option Nat :=
  match w.sectors.find x with
  | some (some sector) => some sector.sectorId
  | _ => none

/-- `w'` differs from `w` in the fixture of one object in one sector, apart from counters and the
promoted objects. -/
structure Writes (w w' : World) (x o : Nat) (F : Option Fixture) : Prop where
  fixtures : ∀ x' o', w'.fixtureAt x' o' = if x' = x ∧ o' = o then F else w.fixtureAt x' o'
  sectors : w'.sectorIdAt = w.sectorIdAt
  nulls : ∀ x', w'.sectors.find x' = some none → w.sectors.find x' = some none

/-- The worlds have the same fixtures, apart from null entries. -/
structure Same (w w' : World) : Prop where
  fixtures : ∀ x o, w'.fixtureAt x o = w.fixtureAt x o
  sectors : w'.sectorIdAt = w.sectorIdAt

section Writes

variable {w : World} {x o : Nat} {sector : SectorSystem}

theorem same_of_sectors {w' : World} (h : w'.sectors = w.sectors) : Same w w' := by
  constructor
  · intro x' o'
    simp only [fixtureAt, h]
  · funext x'
    simp only [sectorIdAt, h]

/-- A sector stored back with other fixtures. -/
theorem writes_setSector {sector' : SectorSystem} {F : Option Fixture}
    (h : w.sectors.find x = some (some sector)) (hid : sector'.sectorId = sector.sectorId)
    (hF : ∀ o', sector'.getFixture o' = if o' = o then F else sector.getFixture o') :
    Writes w (w.setSector x sector') x o F := by
  constructor
  · intro x' o'
    by_cases hx : x' = x
    · subst hx
      simp [fixtureAt, setSector, h, hF]
    · simp [fixtureAt, setSector, hx]
  · funext x'
    by_cases hx : x' = x
    · subst hx
      simp [sectorIdAt, setSector, h, hid]
    · simp [sectorIdAt, setSector, hx]
  · intro x' hnull
    by_cases hx : x' = x
    · subst hx
      simp [setSector] at hnull
    · simpa [setSector, hx] using hnull

theorem writes_setFixture (h : w.sectors.find x = some (some sector)) (f : Fixture) :
    Writes w (w.setSector x (sector.setFixture o f)) x o (some f) := by
  refine writes_setSector h rfl ?_
  intro o'
  simp [SectorSystem.getFixture, SectorSystem.setFixture, UnorderedMap.find_insert]

theorem writes_removeFixture (h : w.sectors.find x = some (some sector)) :
    Writes w (w.setSector x (sector.removeFixture o)) x o none := by
  refine writes_setSector h rfl ?_
  intro o'
  simp [SectorSystem.getFixture, SectorSystem.removeFixture, UnorderedMap.find_erase]

theorem find_of_sectorIdAt {id : Nat} (h : w.sectorIdAt x = some id) :
    ∃ sector, w.sectors.find x = some (some sector) ∧ sector.sectorId = id := by
  unfold sectorIdAt at h
  split at h
  next sector hfind =>
    exact ⟨sector, hfind, by simpa using h⟩
  next =>
    simp at h

/-- A sector of another server: at most a null entry is inserted. -/
theorem sectorAt_of_sectorIdAt_none (h : w.sectorIdAt x = none) :
    ∃ w', w.sectorAt x = (w', none) ∧ Same w w' := by
  unfold sectorAt
  cases hfind : w.sectors.find x with
  | some entry =>
      cases entry with
      | none =>
          exact ⟨w, rfl, same_of_sectors rfl⟩
      | some sector =>
          simp [sectorIdAt, hfind] at h
  | none =>
      refine ⟨_, rfl, ?_, ?_⟩
      · intro x' o'
        by_cases hx : x' = x
        · subst hx
          simp [fixtureAt, hfind]
        · simp [fixtureAt, hx]
      · funext x'
        by_cases hx : x' = x
        · subst hx
          simp [sectorIdAt, hfind]
        · simp [sectorIdAt, hx]

end Writes

end World

/-- What a handler does: one write and some packets. -/
structure Effect (w : World) (r : Outcome) (x o : Nat) (F : Option Fixture)
    (packets : List PlayPacket) : Prop where
  writes : World.Writes w r.world x o F
  packets : ownerPosts r.posts = addressed packets

/-- A handler that changes no fixture and sends no packet. -/
structure Idle (w : World) (r : Outcome) : Prop where
  same : World.Same w r.world
  packets : ownerPosts r.posts = []

/-! ## The list of reactions -/

/-- The fixture after a move request. -/
def Fixture.place (f : Fixture) (packet : CharacterMoveRq) : Fixture :=
  { f with position := packet.startingPosition, direction := packet.direction }

/-- The observing copy made from the data of an object. -/
def observingCopy (info : ObjectInfo) : Fixture :=
  { info.fixture with
    isObservingFixture := true
    phase := SectorSystem.calculateCurrentPhase info.sectorId info.fixture }

/-- The owner made from the data of a promoted object. -/
def promotedOwner (info : ObjectInfo) (now : Milliseconds) : Fixture :=
  { info.fixture with
    isObservingFixture := false
    lastTransformTime := now % 2 ^ 32
    location := SectorSystem.calculateCurrentLocation info.sectorId info.fixture
    phase := HandOff.destPhase info.sectorId info.fixture }

/-- The packets an owner sends to its observers. -/
def fanOut (f : Fixture) (x : Nat) (packet : Nat → PlayPacket) : List PlayPacket :=
  if f.location = .Gray then (nearSectors x f.phase).map packet else []

/-- The handler of a packet, seen from its object in its sector: the fixture before and after, the
packets sent, and the fault. -/
inductive Reaction (now : Milliseconds) :
    PlayPacket → Option Fixture → Option Fixture → List PlayPacket → Option Fault → Prop
  | created (s : Nat) (info : ObjectInfo) :
      Reaction now (.createObservingObjectRq s info) none (some (observingCopy info)) [] none
  | objectExists (s : Nat) (info : ObjectInfo) (f : Fixture) :
      Reaction now (.createObservingObjectRq s info) (some f) (some f) [] (some .objectExists)
  | removed (x o : Nat) {f : Fixture} (hf : f.isObservingFixture = true) :
      Reaction now (.removeObservingObjectRq x o) (some f) none [] none
  | observerNotFound (x o : Nat) {F : Option Fixture}
      (hF : ∀ f, F = some f → f.isObservingFixture = false) :
      Reaction now (.removeObservingObjectRq x o) F F [] (some .observerNotFound)
  | promotedNotFound (s : Nat) (info : ObjectInfo) :
      Reaction now (.promoteObjectRq s info) none none [] (some .promotedNotFound)
  | promotedOutside (s : Nat) (info : ObjectInfo) (f : Fixture)
      (hleave : SectorSystem.calculateCurrentLocation info.sectorId info.fixture = .Leave) :
      Reaction now (.promoteObjectRq s info) (some f) (some (promotedOwner info now)) []
        (some .promotedOutside)
  | promotedNear (s : Nat) (info : ObjectInfo) (f : Fixture)
      (hloc : SectorSystem.calculateCurrentLocation info.sectorId info.fixture ≠ .Leave)
      (hnear : isNearPhase s info.fixture.phase info.fixture.sectorId
        (HandOff.destPhase info.sectorId info.fixture) = true) :
      Reaction now (.promoteObjectRq s info) (some f) (some (promotedOwner info now)) [] none
  | promotedFar (s : Nat) (info : ObjectInfo) (f : Fixture)
      (hloc : SectorSystem.calculateCurrentLocation info.sectorId info.fixture ≠ .Leave)
      (hfar : isNearPhase s info.fixture.phase info.fixture.sectorId
        (HandOff.destPhase info.sectorId info.fixture) ≠ true) :
      Reaction now (.promoteObjectRq s info) (some f) (some (promotedOwner info now))
        (exchangePackets info info.fixture.phase s
          (SectorSystem.calculateCurrentLocation info.sectorId info.fixture)
          (HandOff.destPhase info.sectorId info.fixture) info.fixture.sectorId)
        none
  -- the move is written to a copy before it is passed on
  | moveForwarded (packet : CharacterMoveRq) (x : Nat) {F : Option Fixture}
      (howner : packet.toOwner = true) (hF : ∀ f, F = some f → f.isObservingFixture = true) :
      Reaction now (.characterMoveRq packet) F (F.map (Fixture.place · packet))
        [.characterMoveRq { packet with sectorId := x }] none
  | moveOwnerUnknown (packet : CharacterMoveRq) {F : Option Fixture}
      (howner : packet.toOwner = true) (hF : ∀ f, F = some f → f.isObservingFixture = true) :
      Reaction now (.characterMoveRq packet) F (F.map (Fixture.place · packet)) []
        (some .ownerUnknown)
  | copyNotFound (packet : CharacterMoveRq) (howner : packet.toOwner = false) :
      Reaction now (.characterMoveRq packet) none none [] (some .copyNotFound)
  | copyMoved (packet : CharacterMoveRq) {f : Fixture} (howner : packet.toOwner = false)
      (hf : f.isObservingFixture = true) :
      Reaction now (.characterMoveRq packet) (some f) (some (f.place packet)) [] none
  | ownerMoved (packet : CharacterMoveRq) {f : Fixture} (hf : f.isObservingFixture = false) :
      Reaction now (.characterMoveRq packet) (some f) (some (f.place packet))
        (fanOut f packet.sectorId fun x =>
          .characterMoveRq { packet with sectorId := x, toOwner := false })
        none
  | removeForwarded (packet : RemoveCharacterRq) (x : Nat) {F : Option Fixture}
      (howner : packet.toOwner = true) (hF : ∀ f, F = some f → f.isObservingFixture = true) :
      Reaction now (.removeCharacterRq packet) F F [.removeCharacterRq { packet with sectorId := x }]
        none
  | removeOwnerUnknown (packet : RemoveCharacterRq) {F : Option Fixture}
      (howner : packet.toOwner = true) (hF : ∀ f, F = some f → f.isObservingFixture = true) :
      Reaction now (.removeCharacterRq packet) F F [] (some .ownerUnknown)
  | removeNotFound (packet : RemoveCharacterRq) (howner : packet.toOwner = false) :
      Reaction now (.removeCharacterRq packet) none none [] none
  | copyRemoved (packet : RemoveCharacterRq) {f : Fixture} (howner : packet.toOwner = false)
      (hf : f.isObservingFixture = true) :
      Reaction now (.removeCharacterRq packet) (some f) none [] none
  | ownerRemoved (packet : RemoveCharacterRq) {f : Fixture} (hf : f.isObservingFixture = false) :
      Reaction now (.removeCharacterRq packet) (some f) none
        (fanOut f packet.sectorId fun x =>
          .removeCharacterRq { packet with sectorId := x, toOwner := false })
        none

/-- The owner takes a move request over and passes it on to its observers. -/
theorem Reaction.move_owner {now : Milliseconds} {packet : CharacterMoveRq} {f : Fixture}
    {F : Option Fixture} {packets : List PlayPacket} {fault : Option Fault}
    (h : Reaction now (.characterMoveRq packet) (some f) F packets fault)
    (hf : f.isObservingFixture = false) :
    F = some (f.place packet) ∧ fault = none ∧
      packets = fanOut f packet.sectorId fun x =>
        .characterMoveRq { packet with sectorId := x, toOwner := false } := by
  cases h with
  | ownerMoved _ _ =>
      exact ⟨rfl, rfl, rfl⟩
  | moveForwarded _ x hto hF =>
      rw [hF f rfl] at hf
      cases hf
  | moveOwnerUnknown _ hto hF =>
      rw [hF f rfl] at hf
      cases hf
  | copyMoved _ hto hobs =>
      rw [hobs] at hf
      cases hf

/-- The owner is removed by a request and passes it on to its observers. -/
theorem Reaction.remove_owner {now : Milliseconds} {packet : RemoveCharacterRq} {f : Fixture}
    {F : Option Fixture} {packets : List PlayPacket} {fault : Option Fault}
    (h : Reaction now (.removeCharacterRq packet) (some f) F packets fault)
    (hf : f.isObservingFixture = false) :
    F = none ∧ fault = none ∧
      packets = fanOut f packet.sectorId fun x =>
        .removeCharacterRq { packet with sectorId := x, toOwner := false } := by
  cases h with
  | ownerRemoved _ _ =>
      exact ⟨rfl, rfl, rfl⟩
  | removeForwarded _ x hto hF =>
      rw [hF f rfl] at hf
      cases hf
  | removeOwnerUnknown _ hto hF =>
      rw [hF f rfl] at hf
      cases hf
  | copyRemoved _ hto hobs =>
      rw [hobs] at hf
      cases hf

/-- The packets to the observers are one of a kind. -/
theorem forall_mem_fanOut {f : Fixture} {x : Nat} {packetTo : Nat → PlayPacket}
    {P : PlayPacket → Prop} (h : ∀ y, P (packetTo y)) : ∀ q ∈ fanOut f x packetTo, P q := by
  intro q hq
  unfold fanOut at hq
  split_ifs at hq
  · rcases List.mem_map.1 hq with ⟨y, _, rfl⟩
    exact h y
  · simp at hq

namespace World

section Handlers

variable {w : World} {now : Milliseconds}

/-- The reaction of a packet in a sector of this server. -/
def Reacts (w : World) (now : Milliseconds) (packet : PlayPacket) (r : Outcome) : Prop :=
  ∃ F packets,
    Reaction now packet (w.fixtureAt packet.sectorId packet.objectId) F packets r.fault ∧
      Effect w r packet.sectorId packet.objectId F packets

/-- Forwarding leaves the world alone and posts the request again, or faults. -/
theorem forward_cases (w : World) (o : Nat) (packetTo : Nat → PlayPacket) :
    (∃ x, w.forward o packetTo = { world := w, posts := [.toSectorOwner (packetTo x) x] }) ∨
      w.forward o packetTo = { world := w, fault := some .ownerUnknown } := by
  unfold forward
  cases w.promotedObjectList.find o with
  | some promoted =>
      exact .inl ⟨promoted.promotedSectorId, rfl⟩
  | none =>
      exact .inr rfl

variable {sector : SectorSystem}

theorem fixtureAt_of_find {x : Nat} (h : w.sectors.find x = some (some sector)) (o : Nat) :
    w.fixtureAt x o = sector.getFixture o := by
  simp [fixtureAt, h]

/-- A handler that returns the given outcome. -/
theorem Reacts.of_eq {packet : PlayPacket} {r : Outcome} {w' : World} {posts : List Posting}
    {fault : Option Fault} {F₀ F : Option Fixture} {packets : List PlayPacket}
    (hr : r = ⟨w', posts, fault⟩) (hF₀ : w.fixtureAt packet.sectorId packet.objectId = F₀)
    (hreaction : Reaction now packet F₀ F packets fault)
    (hwrites : Writes w w' packet.sectorId packet.objectId F)
    (hposts : ownerPosts posts = addressed packets) : Reacts w now packet r := by
  subst hr hF₀
  exact ⟨F, packets, hreaction, hwrites, hposts⟩

/-- Nothing is written if the fixture stays. -/
theorem writes_refl {x o : Nat} {F : Option Fixture} (hF : w.fixtureAt x o = F) :
    Writes w w x o F := by
  refine ⟨?_, rfl, fun _ h => h⟩
  intro x' o'
  split_ifs with hxo
  · rw [hxo.1, hxo.2, hF]
  · rfl

theorem fixtureAt_of_sectorIdAt_none {x : Nat} (h : w.sectorIdAt x = none) (o : Nat) :
    w.fixtureAt x o = none := by
  unfold fixtureAt
  split
  next sector hfind =>
    simp [sectorIdAt, hfind] at h
  next =>
    rfl

theorem createObservingObject_reacts {s : Nat} {info : ObjectInfo}
    (h : w.sectors.find info.sectorId = some (some sector)) (hkey : info.fixture.id = info.objectId) :
    Reacts w now (.createObservingObjectRq s info) (w.createObservingObject info) := by
  have hfix := fixtureAt_of_find h info.objectId
  cases hf : sector.getFixture info.objectId with
  | some f =>
      rw [hf] at hfix
      refine Reacts.of_eq ?_ hfix (.objectExists s info f) (writes_refl hfix) ownerPosts_nil
      simp [createObservingObject, sectorAt_of_find h, hf]
  | none =>
      rw [hf] at hfix
      refine Reacts.of_eq ?_ hfix (.created s info) (writes_setFixture h _) ownerPosts_nil
      simp only [createObservingObject, sectorAt_of_find h, hf, hkey, observingCopy,
        PlayPacket.objectId]
      rfl

theorem removeObservingObject_reacts {x o : Nat} (h : w.sectors.find x = some (some sector)) :
    Reacts w now (.removeObservingObjectRq x o) (w.removeObservingObject x o) := by
  have hfix := fixtureAt_of_find h o
  cases hf : sector.getFixture o with
  | none =>
      rw [hf] at hfix
      refine Reacts.of_eq ?_ hfix (.observerNotFound x o (by simp)) (writes_refl hfix) ownerPosts_nil
      simp [removeObservingObject, sectorAt_of_find h, hf]
  | some f =>
      rw [hf] at hfix
      cases hobs : f.isObservingFixture with
      | true =>
          refine Reacts.of_eq ?_ hfix (.removed x o hobs) (writes_removeFixture h) ownerPosts_nil
          simp [removeObservingObject, sectorAt_of_find h, hf, hobs, PlayPacket.objectId,
            PlayPacket.sectorId]
      | false =>
          refine Reacts.of_eq ?_ hfix (.observerNotFound x o ?_) (writes_refl hfix) ownerPosts_nil
          · simp [removeObservingObject, sectorAt_of_find h, hf, hobs]
          · rintro g ⟨⟩
            exact hobs

/-- The handler computes location and phase from the fixture it has already changed. -/
theorem promoteObservingObject_of_fixture {s : Nat} {info : ObjectInfo} {f : Fixture}
    (h : w.sectors.find info.sectorId = some (some sector))
    (hf : sector.getFixture info.objectId = some f) (now : Milliseconds) :
    w.promoteObservingObject s info now =
      if SectorSystem.calculateCurrentLocation info.sectorId info.fixture = .Leave then
        ⟨w.setSector info.sectorId (sector.setFixture info.objectId (promotedOwner info now)),
          [.toSector (.promoteObjectRq s info) s], some .promotedOutside⟩
      else if isNearPhase s info.fixture.phase info.fixture.sectorId
          (HandOff.destPhase info.sectorId info.fixture) then
        ⟨w.setSector info.sectorId (sector.setFixture info.objectId (promotedOwner info now)),
          [.toSector (.promoteObjectRq s info) s], none⟩
      else
        ⟨w.setSector info.sectorId (sector.setFixture info.objectId (promotedOwner info now)),
          [.toSector (.promoteObjectRq s info) s] ++
            exchangeObservingObject info info.fixture.phase s
              (SectorSystem.calculateCurrentLocation info.sectorId info.fixture)
              (HandOff.destPhase info.sectorId info.fixture) info.fixture.sectorId, none⟩ := by
  simp only [promoteObservingObject, sectorAt_of_find h, hf]
  rfl

theorem promoteObservingObject_reacts {s : Nat} {info : ObjectInfo}
    (h : w.sectors.find info.sectorId = some (some sector)) :
    Reacts w now (.promoteObjectRq s info) (w.promoteObservingObject s info now) := by
  have hfix := fixtureAt_of_find h info.objectId
  cases hf : sector.getFixture info.objectId with
  | none =>
      rw [hf] at hfix
      refine Reacts.of_eq ?_ hfix (.promotedNotFound s info) (writes_refl hfix) ownerPosts_nil
      simp [promoteObservingObject, sectorAt_of_find h, hf]
  | some f =>
      rw [hf] at hfix
      have hwrites := writes_setFixture (o := info.objectId) h (promotedOwner info now)
      have heq := promoteObservingObject_of_fixture (s := s) h hf now
      split_ifs at heq with hleave hnear
      · exact Reacts.of_eq heq hfix (.promotedOutside s info f hleave) hwrites rfl
      · exact Reacts.of_eq heq hfix (.promotedNear s info f hleave hnear) hwrites rfl
      · refine Reacts.of_eq heq hfix (.promotedFar s info f hleave hnear) hwrites ?_
        rw [ownerPosts_append, ownerPosts_exchange]
        rfl

/-- The packets of an owner to its observers. -/
theorem ownerPosts_fanOut (f : Fixture) (x : Nat) (notice : Nat → Notice)
    (packet : Nat → PlayPacket) (hpacket : ∀ y, (packet y).sectorId = y) (notices : List Posting)
    (hnotices : ownerPosts notices = []) :
    ownerPosts (notices ++
      if f.location = .Gray then
        (nearSectors x f.phase).flatMap fun y =>
          [.toSector (notice y) y, .toSectorOwner (packet y) y]
      else
        []) = addressed (fanOut f x packet) := by
  rw [ownerPosts_append, hnotices, fanOut]
  split_ifs
  · exact ownerPosts_flatMap _ notice packet hpacket
  · rfl

theorem moveObject_reacts {source : Nat} {packet : CharacterMoveRq}
    (h : w.sectors.find packet.sectorId = some (some sector)) :
    Reacts w now (.characterMoveRq packet) (w.moveObject source packet) := by
  have hfix := fixtureAt_of_find h packet.objectId
  cases hf : sector.getFixture packet.objectId with
  | none =>
      rw [hf] at hfix
      cases howner : packet.toOwner with
      | false =>
          refine Reacts.of_eq ?_ hfix (.copyNotFound packet howner) (writes_refl hfix) ownerPosts_nil
          simp [moveObject, sectorAt_of_find h, hf, howner]
      | true =>
          have heq : w.moveObject source packet = w.forward packet.objectId fun id =>
              .characterMoveRq { packet with sectorId := id } := by
            simp [moveObject, sectorAt_of_find h, hf, howner]
          rcases forward_cases w packet.objectId fun id =>
            .characterMoveRq { packet with sectorId := id } with ⟨x, hx⟩ | hx
          · exact Reacts.of_eq (heq.trans hx) hfix (.moveForwarded packet x howner (by simp))
              (writes_refl hfix) rfl
          · exact Reacts.of_eq (heq.trans hx) hfix (.moveOwnerUnknown packet howner (by simp))
              (writes_refl hfix) rfl
  | some f =>
      rw [hf] at hfix
      have hwrites := writes_setFixture (o := packet.objectId) h (f.place packet)
      cases hobs : f.isObservingFixture with
      | false =>
          refine Reacts.of_eq ?_ hfix (.ownerMoved packet hobs) hwrites
            (ownerPosts_fanOut f packet.sectorId
              (fun y => .objectMovePs { packet with sectorId := y }) _ (fun _ => rfl)
              [.toSectorWithout source (.objectMovePs packet) packet.sectorId,
                .toServer source (.characterMoveRs packet)] rfl)
          simp [moveObject, sectorAt_of_find h, hf, hobs, Fixture.place]
      | true =>
          have hobserves : ∀ g, some f = some g → g.isObservingFixture = true := by
            rintro g ⟨⟩
            exact hobs
          cases howner : packet.toOwner with
          | false =>
              refine Reacts.of_eq ?_ hfix (.copyMoved packet howner hobs) hwrites ownerPosts_nil
              simp [moveObject, sectorAt_of_find h, hf, hobs, howner, Fixture.place]
          | true =>
              -- the copy is moved before the request is forwarded
              have heq : w.moveObject source packet =
                  (w.setSector packet.sectorId
                    (sector.setFixture packet.objectId (f.place packet))).forward packet.objectId
                      fun id => .characterMoveRq { packet with sectorId := id } := by
                simp [moveObject, sectorAt_of_find h, hf, hobs, howner, Fixture.place]
              rcases forward_cases (w.setSector packet.sectorId
                  (sector.setFixture packet.objectId (f.place packet))) packet.objectId
                  fun id => .characterMoveRq { packet with sectorId := id } with ⟨x, hx⟩ | hx
              · exact Reacts.of_eq (heq.trans hx) hfix (.moveForwarded packet x howner hobserves)
                  hwrites rfl
              · exact Reacts.of_eq (heq.trans hx) hfix (.moveOwnerUnknown packet howner hobserves)
                  hwrites rfl

theorem removeCharacter_reacts {source : Nat} {packet : RemoveCharacterRq}
    (h : w.sectors.find packet.sectorId = some (some sector)) :
    Reacts w now (.removeCharacterRq packet) (w.removeCharacter source packet) := by
  have hfix := fixtureAt_of_find h packet.objectId
  -- both a missing fixture and a copy pass the request on to the sector that is remembered
  have hforward : ∀ {F : Option Fixture}, w.fixtureAt packet.sectorId packet.objectId = F →
      packet.toOwner = true → (∀ f, F = some f → f.isObservingFixture = true) →
      Reacts w now (.removeCharacterRq packet) (w.forward packet.objectId fun id =>
        .removeCharacterRq { packet with sectorId := id }) := by
    intro F hF howner hobserves
    rcases forward_cases w packet.objectId fun id =>
      .removeCharacterRq { packet with sectorId := id } with ⟨x, hx⟩ | hx
    · exact Reacts.of_eq hx hF (.removeForwarded packet x howner hobserves) (writes_refl hF) rfl
    · exact Reacts.of_eq hx hF (.removeOwnerUnknown packet howner hobserves) (writes_refl hF) rfl
  cases hf : sector.getFixture packet.objectId with
  | none =>
      rw [hf] at hfix
      cases howner : packet.toOwner with
      | false =>
          have heq : w.removeCharacter source packet =
              ⟨w, [.reply (.removeCharacterRs packet.userId packet.sectorId packet.objectId
                .ObjectNotFound)], none⟩ := by
            simp [removeCharacter, sectorAt_of_find h, hf, howner]
          exact Reacts.of_eq heq hfix (.removeNotFound packet howner) (writes_refl hfix) rfl
      | true =>
          have heq : w.removeCharacter source packet = w.forward packet.objectId fun id =>
              .removeCharacterRq { packet with sectorId := id } := by
            simp [removeCharacter, sectorAt_of_find h, hf, howner]
          exact heq ▸ hforward hfix howner (by simp)
  | some f =>
      rw [hf] at hfix
      cases hobs : f.isObservingFixture with
      | false =>
          refine Reacts.of_eq ?_ hfix (.ownerRemoved packet hobs) (writes_removeFixture h)
            (ownerPosts_fanOut f packet.sectorId (fun y => .removeObjectPs y packet.objectId) _
              (fun _ => rfl)
              [.toServer source
                (.removeCharacterRs packet.userId packet.sectorId packet.objectId .None),
               .toSectorWithout source (.removeObjectPs packet.sectorId packet.objectId)
                packet.sectorId] rfl)
          simp [removeCharacter, sectorAt_of_find h, hf, hobs, PlayPacket.objectId,
            PlayPacket.sectorId]
      | true =>
          cases howner : packet.toOwner with
          | false =>
              refine Reacts.of_eq ?_ hfix (.copyRemoved packet howner hobs) (writes_removeFixture h)
                ownerPosts_nil
              simp [removeCharacter, sectorAt_of_find h, hf, hobs, howner, PlayPacket.objectId,
                PlayPacket.sectorId]
          | true =>
              have heq : w.removeCharacter source packet = w.forward packet.objectId fun id =>
                  .removeCharacterRq { packet with sectorId := id } := by
                simp [removeCharacter, sectorAt_of_find h, hf, hobs, howner]
              refine heq ▸ hforward hfix howner ?_
              rintro g ⟨⟩
              exact hobs

end Handlers

end World

namespace World

/-- Every handler reacts as listed. -/
theorem handle_reacts {w : World} {packet : PlayPacket} {id : Nat} (source : Nat)
    (now : Milliseconds) (h : w.sectorIdAt packet.sectorId = some id) (hkey : packet.Keyed) :
    Reacts w now packet (w.handle source packet now) := by
  rcases find_of_sectorIdAt h with ⟨sector, hfind, _⟩
  cases packet with
  | createObservingObjectRq s info =>
      exact createObservingObject_reacts hfind hkey.1
  | removeObservingObjectRq x o =>
      exact removeObservingObject_reacts hfind
  | promoteObjectRq s info =>
      exact promoteObservingObject_reacts hfind
  | characterMoveRq packet =>
      exact moveObject_reacts hfind
  | removeCharacterRq packet =>
      exact removeCharacter_reacts hfind

/-- In a sector of another server a packet has no effect. -/
theorem handle_of_sectorIdAt_none {w : World} {packet : PlayPacket} (source : Nat)
    (now : Milliseconds) (h : w.sectorIdAt packet.sectorId = none) :
    (w.handle source packet now).fault = none ∧ Idle w (w.handle source packet now) := by
  rcases sectorAt_of_sectorIdAt_none h with ⟨w', heq, hsame⟩
  cases packet with
  | createObservingObjectRq s info =>
      have heq : w.sectorAt info.sectorId = (w', none) := heq
      simp only [handle, createObservingObject, heq]
      exact ⟨trivial, hsame, rfl⟩
  | removeObservingObjectRq x o =>
      have heq : w.sectorAt x = (w', none) := heq
      simp only [handle, removeObservingObject, heq]
      exact ⟨trivial, hsame, rfl⟩
  | promoteObjectRq s info =>
      have heq : w.sectorAt info.sectorId = (w', none) := heq
      simp only [handle, promoteObservingObject, heq]
      exact ⟨trivial, hsame, rfl⟩
  | characterMoveRq packet =>
      have heq : w.sectorAt packet.sectorId = (w', none) := heq
      simp only [handle, moveObject, heq]
      exact ⟨trivial, hsame, rfl⟩
  | removeCharacterRq packet =>
      have heq : w.sectorAt packet.sectorId = (w', none) := heq
      simp only [handle, removeCharacter, heq]
      exact ⟨trivial, hsame, rfl⟩

end World

end Game
end SeamlessServer
