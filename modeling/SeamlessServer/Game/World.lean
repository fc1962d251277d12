import SeamlessServer.Game.SectorSystem
import SeamlessServer.Protocol.World

/-!
# Game.World — the handlers of a play server

`common/game/World.cpp`, together with the callbacks of `SectorSystem::Update`.  A handler takes the
world and a packet and returns the world it leaves, what it posts, and the throw or failed assertion
that ended it, if any.  A handler that ends so keeps what it has written and posted up to there.

`_sectors[id]` inserts a null entry for a sector this server does not own; such entries are kept
(`SectorSystem` is optional in the map) since `Update` asserts that there are none.
-/

namespace SeamlessServer
namespace Game

open Utility Protocol

/-! ## Outcomes -/

/-- A posting of the `SectorPostingManager`, or an answer on the requesting session. -/
inductive Posting
  | toSectorOwner (packet : PlayPacket) (sectorId : Nat)
  | toSector (notice : Notice) (sectorId : Nat)
  | toSectorWithout (ignoredTarget : Nat) (notice : Notice) (sectorId : Nat)
  | toServer (targetId : Nat) (notice : Notice)
  | reply (notice : Notice)
  deriving DecidableEq

/-- The throws and assertions of the handlers. -/
inductive Fault
  /-- `CreateFixture`: "duplicate fixture id". -/
  | duplicateFixtureId
  /-- `MoveObject` or `RemoveCharacter` for the owner, which is not known here. -/
  | ownerUnknown
  /-- `MoveObject` for a copy that is not there. -/
  | copyNotFound
  /-- `CreateObservingObject` where the object already is. -/
  | objectExists
  /-- `RemoveObservingObject` where no observing copy is. -/
  | observerNotFound
  /-- `PromoteObservingObject` where the object is not. -/
  | promotedNotFound
  /-- `PromoteObservingObject` of an object that has left the sector. -/
  | promotedOutside
  /-- `OnChangeFixtureLocation` without a sector at the position. -/
  | noDestination
  /-- `OnChangeFixturePhase` outside the gray zone. -/
  | phaseOutsideGray
  /-- `Update` at a null sector. -/
  | nullSector
  /-- `AddSector`: "duplicate sector". -/
  | duplicateSector
  /-- `GetAllObjects` of a sector that is not there. -/
  | sectorNotHeld
  deriving DecidableEq, Repr

structure PromotedObjectInfo where
  promotedSectorId : Nat
  trackingTimer : Countdown
  deriving DecidableEq

structure World where
  sectors : UnorderedMap Nat (Option SectorSystem)
  promotedObjectList : UnorderedMap Nat PromotedObjectInfo

structure Outcome where
  world : World
  posts : List Posting := []
  fault : Option Fault := none

/-- A loop over handlers, left at the first fault. -/
def foldOutcome {α : Type} (body : World → α → Outcome) : World → List α → Outcome
  | w, [] => { world := w }
  | w, a :: rest =>
      let first := body w a
      match first.fault with
      | some _ => first
      | none =>
          let others := foldOutcome body first.world rest
          { others with posts := first.posts ++ others.posts }

namespace World

/-- `_sectors[id]`. -/
def sectorAt (w : World) (id : Nat) : World × Option SectorSystem :=
  match w.sectors.find id with
  | some sector => (w, sector)
  | none => ({ w with sectors := w.sectors.insert id none }, none)

theorem sectorAt_of_find {w : World} {x : Nat} {sector : SectorSystem}
    (h : w.sectors.find x = some (some sector)) : w.sectorAt x = (w, some sector) := by
  simp [sectorAt, h]

theorem sectorAt_of_absent {w : World} {x : Nat} (h : w.sectors.find x = none) :
    w.sectorAt x = ({ w with sectors := w.sectors.insert x none }, none) := by
  simp [sectorAt, h]

def setSector (w : World) (id : Nat) (sector : SectorSystem) : World :=
  { w with sectors := w.sectors.insert id (some sector) }

/-- The fixture of an object in a sector, if there is one. -/
def fixtureAt (w : World) (sectorId objectId : Nat) : Option Fixture :=
  match w.sectors.find sectorId with
  | some (some sector) => sector.getFixture objectId
  | _ => none

/-! ## Sectors -/

def addSector (w : World) (serverId sectorId : Nat) : Outcome :=
  match w.sectorAt sectorId with
  | (w, some _) => { world := w, fault := some .duplicateSector }
  | (w, none) => { world := w.setSector sectorId (SectorSystem.new serverId sectorId) }

def removeSector (w : World) (sectorId : Nat) : World :=
  match w.sectorAt sectorId with
  | (w, none) => w
  | (w, some _) => { w with sectors := w.sectors.erase sectorId }

/-- `ClearSector` deletes the sectors and keeps their entries, with null pointers. -/
def clearSector (w : World) : World :=
  { w with sectors := w.sectors.map fun _ => none }

/-- `GetAllObjects`; nothing is the failed assertion. -/
def getAllObjects (w : World) (sectorId : Nat) : World × Option (UnorderedMap Nat Fixture) :=
  match w.sectorAt sectorId with
  | (w, none) => (w, none)
  | (w, some sector) => (w, some sector.fixtures)

/-! ## Exchange of observers -/

/-- The inner loop of the cancellation: the first entry of `sectors` equal to `sectorId` is
invalidated, unless an invalid entry comes before it. -/
def cancelIn (sectorId : Nat) : List Nat → Option (List Nat)
  | [] => none
  | newSectorId :: rest =>
      if newSectorId = invalidSector then
        none
      else if sectorId = newSectorId then
        some (invalidSector :: rest)
      else
        (cancelIn sectorId rest).map (newSectorId :: ·)

/-- The outer loop of the cancellation, left at the first invalid entry. -/
def cancelOverlap : List Nat → List Nat → List Nat × List Nat
  | [], new => ([], new)
  | sectorId :: rest, new =>
      if sectorId = invalidSector then
        (sectorId :: rest, new)
      else
        match cancelIn sectorId new with
        | some new =>
            let (rest, new) := cancelOverlap rest new
            (invalidSector :: rest, new)
        | none =>
            let (rest, new) := cancelOverlap rest new
            (sectorId :: rest, new)

def sendRemoveObservingObject (sectors : List Nat) (objectId : Nat) : List Posting :=
  (sectors.filter (· ≠ invalidSector)).flatMap fun sectorId =>
    [.toSector (.removeObjectPs sectorId objectId) sectorId,
     .toSectorOwner (.removeObservingObjectRq sectorId objectId) sectorId]

def sendCreateObservingObject (sectors : List Nat) (originSectorId : Nat) (info : ObjectInfo) :
    List Posting :=
  (sectors.filter (· ≠ invalidSector)).flatMap fun sectorId =>
    [.toSector (.createObjectPs { info with sectorId := sectorId }) sectorId,
     .toSectorOwner (.createObservingObjectRq originSectorId
       { info with sectorId := sectorId, fixture := { info.fixture with sectorId := sectorId } })
       sectorId]

/-- The arrays `prev_near_sectors` and `new_near_sectors` after the three loops of
`ExchangeObservingObject`. -/
def exchangeSectors (phase : Direction) (sectorId : Nat) (newPhase : Direction)
    (destSectorId : Nat) : List Nat × List Nat :=
  let prevNear := getNearSectors sectorId phase ++ [sectorId]
  let newNear := getNearSectors destSectorId newPhase
  let (prevNear, newNear) :=
    if phase ≠ .Max ∧ newPhase ≠ .Max then cancelOverlap prevNear newNear else (prevNear, newNear)
  (prevNear.map fun id => if id = destSectorId then invalidSector else id,
    newNear.map fun id => if id = sectorId then invalidSector else id)

def exchangeObservingObject (info : ObjectInfo) (phase : Direction) (sectorId : Nat)
    (newLocation : FixtureLocation) (newPhase : Direction) (destSectorId : Nat) : List Posting :=
  if sectorId = destSectorId ∧ phase = newPhase ∧ newLocation = .Leave then
    []
  else
    let (prevNear, newNear) := exchangeSectors phase sectorId newPhase destSectorId
    (if phase ≠ .Max then sendRemoveObservingObject prevNear info.objectId else []) ++
      (if newPhase ≠ .Max then sendCreateObservingObject newNear sectorId info else [])

/-! ## Requests of agencies -/

def spawnCharacter (w : World) (requestServerId : Nat) (packet : SpawnCharacterRq)
    (now : Milliseconds) : Outcome :=
  match w.sectorAt packet.sectorId with
  | (w, none) =>
      { world := w, posts := [.reply (.spawnCharacterRs packet.userId none .SectorNotFound)] }
  | (w, some sector) =>
      match sector.createFixture packet.position packet.size with
      | (sector, none) =>
          -- `CreateFixture` throws, after `_current_fixture_id++`
          { world := w.setSector packet.sectorId sector, fault := some .duplicateFixtureId }
      | (sector, some f) =>
          let f := { f with lastTransformTime := now }
          let info : ObjectInfo := ⟨f.id, f.sectorId, f⟩
          { world := w.setSector packet.sectorId (sector.setFixture f.id f)
            posts :=
              [.toServer requestServerId (.spawnCharacterRs packet.userId (some info) .None),
               .toSectorWithout requestServerId (.createObjectPs info) packet.sectorId] }

/-- The forwarding of a request whose object is owned elsewhere by now. -/
def forward (w : World) (objectId : Nat) (packetTo : Nat → PlayPacket) : Outcome :=
  match w.promotedObjectList.find objectId with
  | some promoted =>
      { world := w
        posts := [.toSectorOwner (packetTo promoted.promotedSectorId) promoted.promotedSectorId] }
  | none => { world := w, fault := some .ownerUnknown }

def removeCharacter (w : World) (requestServerId : Nat) (packet : RemoveCharacterRq) : Outcome :=
  match w.sectorAt packet.sectorId with
  | (w, none) =>
      { world := w
        posts := [.reply
          (.removeCharacterRs packet.userId packet.sectorId packet.objectId .SectorNotFound)] }
  | (w, some sector) =>
      let removed := w.setSector packet.sectorId (sector.removeFixture packet.objectId)
      match sector.getFixture packet.objectId with
      | none =>
          -- the object has been promoted since, or a copy is to be removed that is not there
          if packet.toOwner then
            w.forward packet.objectId fun id => .removeCharacterRq { packet with sectorId := id }
          else
            { world := w
              posts := [.reply
                (.removeCharacterRs packet.userId packet.sectorId packet.objectId
                  .ObjectNotFound)] }
      | some f =>
          if f.isObservingFixture then
            -- a copy may be meant by a request for the owner
            if packet.toOwner then
              w.forward packet.objectId fun id => .removeCharacterRq { packet with sectorId := id }
            else
              { world := removed }
          else
            -- the owner: the near sectors hear of it, and their copies go too
            { world := removed
              posts :=
                [.toServer requestServerId
                  (.removeCharacterRs packet.userId packet.sectorId packet.objectId .None),
                 .toSectorWithout requestServerId
                  (.removeObjectPs packet.sectorId packet.objectId) packet.sectorId] ++
                (if f.location = .Gray then
                  (nearSectors packet.sectorId f.phase).flatMap fun id =>
                    [.toSector (.removeObjectPs id packet.objectId) id,
                     .toSectorOwner
                      (.removeCharacterRq { packet with sectorId := id, toOwner := false }) id]
                else
                  []) }

def moveObject (w : World) (requestServerId : Nat) (packet : CharacterMoveRq) : Outcome :=
  match w.sectorAt packet.sectorId with
  | (w, none) => { world := w }
  | (w, some sector) =>
      match sector.getFixture packet.objectId with
      | none =>
          if packet.toOwner then
            w.forward packet.objectId fun id => .characterMoveRq { packet with sectorId := id }
          else
            -- `throw`; the answer behind it is never sent
            { world := w, fault := some .copyNotFound }
      | some f =>
          -- the move is written before it is known whose fixture this is
          let f := { f with position := packet.startingPosition, direction := packet.direction }
          let w := w.setSector packet.sectorId (sector.setFixture packet.objectId f)
          if f.isObservingFixture then
            if packet.toOwner then
              w.forward packet.objectId fun id => .characterMoveRq { packet with sectorId := id }
            else
              { world := w }
          else
            { world := w
              posts :=
                [.toSectorWithout requestServerId (.objectMovePs packet) packet.sectorId,
                 .toServer requestServerId (.characterMoveRs packet)] ++
                (if f.location = .Gray then
                  (nearSectors packet.sectorId f.phase).flatMap fun id =>
                    [.toSector (.objectMovePs { packet with sectorId := id }) id,
                     .toSectorOwner
                      (.characterMoveRq { packet with sectorId := id, toOwner := false }) id]
                else
                  []) }

/-! ## Packets of play servers -/

def createObservingObject (w : World) (info : ObjectInfo) : Outcome :=
  match w.sectorAt info.sectorId with
  | (w, none) => { world := w }
  | (w, some sector) =>
      match sector.getFixture info.objectId with
      | some _ => { world := w, fault := some .objectExists }
      | none =>
          match sector.getFixture info.fixture.id with
          | some _ => { world := w, fault := some .duplicateFixtureId }
          | none =>
              let f := { info.fixture with isObservingFixture := true }
              -- the phase of a copy is computed, the one in the packet is that of the owner
              let f := { f with phase := SectorSystem.calculateCurrentPhase info.sectorId f }
              { world := w.setSector info.sectorId (sector.setFixture f.id f) }

def removeObservingObject (w : World) (sectorId objectId : Nat) : Outcome :=
  match w.sectorAt sectorId with
  | (w, none) => { world := w }
  | (w, some sector) =>
      match sector.getFixture objectId with
      | none => { world := w, fault := some .observerNotFound }
      | some f =>
          if f.isObservingFixture then
            { world := w.setSector sectorId (sector.removeFixture objectId) }
          else
            { world := w, fault := some .observerNotFound }

/-- `PromoteObservingObject`; the tick is stored as a `uint32_t`. -/
def promoteObservingObject (w : World) (originSectorId : Nat) (info : ObjectInfo)
    (now : Milliseconds) : Outcome :=
  match w.sectorAt info.sectorId with
  | (w, none) => { world := w }
  | (w, some sector) =>
      match sector.getFixture info.objectId with
      | none => { world := w, fault := some .promotedNotFound }
      | some _ =>
          let f := { info.fixture with
            isObservingFixture := false
            lastTransformTime := now % 2 ^ 32 }
          let originPhase := f.phase
          let destLocation := SectorSystem.calculateCurrentLocation info.sectorId f
          let destPhase :=
            if destLocation = .In then .Max else SectorSystem.calculateCurrentPhase info.sectorId f
          let f := { f with phase := destPhase, location := destLocation }
          let w := w.setSector info.sectorId (sector.setFixture info.objectId f)
          -- agencies are told before the location is looked at, so also when that throws
          let notice : List Posting :=
            [.toSector (.promoteObjectRq originSectorId info) originSectorId]
          if destLocation = .Leave then
            { world := w, posts := notice, fault := some .promotedOutside }
          else if isNearPhase originSectorId originPhase f.sectorId destPhase then
            { world := w, posts := notice }
          else
            { world := w
              posts := notice ++
                exchangeObservingObject info originPhase originSectorId destLocation destPhase
                  f.sectorId }

/-! ## Update -/

/-- The clock readings of one `Update`: its two arguments, the reading that checks the promoted
objects, and the reading of each callback, by sector and fixture. -/
structure Clock where
  currentTime : Milliseconds
  deltaTime : Milliseconds
  tick : Milliseconds
  callbackTick : Nat → Nat → Milliseconds

/-- What the transformation of one fixture does. -/
structure Change where
  fixture : Fixture
  posts : List Posting := []
  promoted : Option PromotedObjectInfo := none
  fault : Option Fault := none

def onChangeFixturePhase (sectorId : Nat) (f : Fixture) (phase : Direction) : Change :=
  if f.location = .Gray then
    { fixture := f
      posts := exchangeObservingObject ⟨f.id, sectorId, f⟩ f.phase f.sectorId f.location phase
        sectorId }
  else
    { fixture := f, fault := some .phaseOutsideGray }

def onChangeFixtureLocation (sectorId : Nat) (f : Fixture) (location : FixtureLocation)
    (phase : Direction) (now : Milliseconds) : Change :=
  let f := { f with lastTransformTime := now }
  let info : ObjectInfo := ⟨f.id, sectorId, f⟩
  -- with the fixture as it was, so that the old phase is the one that is exchanged
  let exchange := exchangeObservingObject info f.phase sectorId location phase sectorId
  if location ≠ .Leave then
    { fixture := f, posts := exchange }
  else
    let destSectorId := getSectorByPosition f.position
    let extra :=
      if destSectorId ∈ getNearSectors sectorId phase then
        []
      else
        sendCreateObservingObject [destSectorId, invalidSector, invalidSector] sectorId info
    let left := { f with isObservingFixture := true }
    -- the assertion on `dest_sector_id`
    if destSectorId = invalidSector then
      { fixture := left, posts := exchange ++ extra, fault := some .noDestination }
    else
      let promotedInfo : ObjectInfo :=
        ⟨f.id, destSectorId,
          { f with location := location, phase := phase, sectorId := destSectorId }⟩
      { fixture := left
        posts := exchange ++ extra ++
          [.toSectorOwner (.promoteObjectRq sectorId promotedInfo) destSectorId]
        promoted := some ⟨destSectorId, Countdown.start (transformCooltime * 4) now⟩ }

/-- The assignments after a callback, which are not reached if it faults. -/
def Change.settle (change : Change) (location : FixtureLocation) (phase : Direction) : Change :=
  match change.fault with
  | some _ => change
  | none => { change with fixture := { change.fixture with location := location, phase := phase } }

/-- The `switch` of `SectorSystem::Update` for an owned fixture that has moved. -/
def transform (sectorId : Nat) (f : Fixture) (now : Milliseconds) : Change :=
  let location := SectorSystem.calculateCurrentLocation sectorId f
  let phase := SectorSystem.calculateCurrentPhase sectorId f
  match f.location with
  | .In =>
      if location ≠ f.location then
        (onChangeFixtureLocation sectorId f location phase now).settle location phase
      else
        { fixture := f }
  | .Gray =>
      if location ≠ f.location then
        let phase := if location = .In then .Max else phase
        (onChangeFixtureLocation sectorId f location phase now).settle location phase
      else if phase ≠ f.phase then
        if phase ≠ .Max then
          (onChangeFixturePhase sectorId f phase).settle f.location phase
        else
          { fixture := { f with phase := phase } }
      else
        { fixture := f }
  -- `Leave` has no case
  | _ => { fixture := f }

/-- One round of the loop of `SectorSystem::Update`. -/
def updateFixture (sectorId : Nat) (f : Fixture) (clock : Clock) : Change :=
  let f := f.move clock.deltaTime
  if f.isObservingFixture then
    { fixture := f }
  else if int64 (f.lastTransformTime + transformCooltime) > clock.currentTime then
    { fixture := f }
  else
    transform sectorId f (clock.callbackTick sectorId f.id)

/-- The same round as a step of the world, which records promoted objects. -/
def updateObject (clock : Clock) (sectorId : Nat) (w : World) (objectId : Nat) : Outcome :=
  match w.sectors.find sectorId with
  | some (some sector) =>
      match sector.getFixture objectId with
      | none => { world := w }
      | some f =>
          let change := updateFixture sectorId f clock
          let w := w.setSector sectorId (sector.setFixture objectId change.fixture)
          let w := match change.promoted with
            | none => w
            | some promoted =>
                { w with
                  promotedObjectList := w.promotedObjectList.insert change.fixture.id promoted }
          { world := w, posts := change.posts, fault := change.fault }
  | _ => { world := w, fault := some .nullSector }

/-- `SectorSystem::Update`. -/
def updateSector (clock : Clock) (w : World) (sectorId : Nat) : Outcome :=
  match w.sectors.find sectorId with
  | some (some sector) => foldOutcome (updateObject clock sectorId) w sector.fixtures.keys
  | _ => { world := w, fault := some .nullSector }

/-- The first two loops of `Update`: promoted objects whose timer has run out are forgotten. -/
def forgetPromoted (w : World) (tick : Milliseconds) : World :=
  let untracked := w.promotedObjectList.keys.filter fun id =>
    match w.promotedObjectList.find id with
    | some promoted => promoted.trackingTimer.elapsed tick
    | none => false
  { w with promotedObjectList := untracked.foldl UnorderedMap.erase w.promotedObjectList }

def update (w : World) (clock : Clock) : Outcome :=
  let w := w.forgetPromoted clock.tick
  foldOutcome (updateSector clock) w w.sectors.keys

end World

end Game
end SeamlessServer
