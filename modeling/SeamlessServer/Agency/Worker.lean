import SeamlessServer.Data.UnorderedMap
import SeamlessServer.Game.SectorPostingManager
import SeamlessServer.Protocol.World

/-!
# Agency.Worker — clients, their objects and a cache of all objects

`agency/AgencyWorker.cpp` and `agency/PacketHandler.cpp`.  An agency enters its clients into the
game, passes their requests on to the play servers, and keeps a copy of the fixtures of every sector,
from what the play servers tell it.

The user data of a client's session is kept with the session, under its universal id; a value that
is not set is read as zero.  Nicknames are left out.
-/

namespace SeamlessServer
namespace Agency

open Game Protocol Utility

/-! ## Packets -/

/-- What an agency sends to play servers. -/
inductive AgencyPacket
  | spawnCharacterRq (packet : SpawnCharacterRq)
  | characterMoveRq (packet : CharacterMoveRq)
  | removeCharacterRq (packet : RemoveCharacterRq)
  | removeCharacterRs (userId sectorId objectId : Nat)
  deriving DecidableEq

/-- What play servers send to an agency. -/
inductive IntraPacket
  | spawnCharacterRs (userId : Nat) (info : ObjectInfo) (error : ErrorCode)
  | removeCharacterRs (userId sectorId objectId : Nat) (error : ErrorCode)
  | characterMoveRs (packet : CharacterMoveRq) (error : ErrorCode)
  | createObjectPs (info : ObjectInfo)
  | removeObjectPs (sectorId objectId : Nat)
  | objectMovePs (packet : CharacterMoveRq)
  | promoteObjectRq (originSectorId : Nat) (info : ObjectInfo)
  | objectListPs (sectorId : Nat) (objects : List ObjectInfo)
  deriving DecidableEq

/-- The packet of a notice.  `unset` is what an error response carries in the fields that its sender
has not filled. -/
def IntraPacket.ofNotice (unset : ObjectInfo) : Notice → IntraPacket
  | .spawnCharacterRs userId info error => .spawnCharacterRs userId (info.getD unset) error
  | .removeCharacterRs userId sectorId objectId error =>
      .removeCharacterRs userId sectorId objectId error
  | .characterMoveRs packet => .characterMoveRs packet .None
  | .createObjectPs info => .createObjectPs info
  | .removeObjectPs sectorId objectId => .removeObjectPs sectorId objectId
  | .objectMovePs packet => .objectMovePs packet
  | .promoteObjectRq originSectorId info => .promoteObjectRq originSectorId info

/-- What an agency sends to clients. -/
inductive ClientPacket
  | gameEnterRequestRs (info : ObjectInfo)
  | characterMoveRs (packet : CharacterMoveRq)
  | createObjectPs (info : ObjectInfo)
  | removeObjectPs (sectorId objectId : Nat)
  | objectMovePs (packet : CharacterMoveRq)
  | objectListPs (sectorId : Nat) (objects : List ObjectInfo)
  deriving DecidableEq

/-! ## State -/

/-- The `AgencySessionValue`s of a session. -/
structure SessionValues where
  userId : Nat := 0
  objectId : Nat := 0
  sectorId : Nat := 0
  deriving DecidableEq

structure AgencyWorker where
  currentUniversalSessionId : Nat
  /-- The clients of `_active_sessions`. -/
  activeSessions : UnorderedMap Nat SessionValues
  /-- The client of an object, by the universal id of its session. -/
  objectSessions : UnorderedMap Nat Nat
  objectCache : Nat → UnorderedMap Nat Fixture
  sectorPostingManager : SectorPostingManager

inductive AgencyPosting
  | toServer (targetId : Nat) (packet : AgencyPacket)
  | toClient (userId : Nat) (packet : ClientPacket)
  | closeSession (userId : Nat)
  deriving DecidableEq

inductive AgencyFault
  /-- `OnPlayPromoteObjectReq`: `current_sector_id == packet.origin_sector_id`. -/
  | sectorMismatch
  /-- The record in `_object_sessions` is no longer there. -/
  | sessionGone
  deriving DecidableEq, Repr

structure AgencyOutcome where
  agency : AgencyWorker
  posts : List AgencyPosting := []
  fault : Option AgencyFault := none

/-- The sector that clients enter. -/
def initialSectorId : Nat := centerSector.sectorId

def initialCharacterPosition : Vector2 := (getSectorFixtureRectangle initialSectorId).center

/-- The fixture that `operator[]` puts under a new key. -/
def blankFixture : Fixture where
  id := 0
  position := ⟨0, 0⟩
  size := ⟨0, 0⟩
  sectorId := 0

namespace AgencyWorker

variable (s : AgencyWorker)

/-! ## The cache -/

/-- `_object_cache[sector_id][object_id] = fixture`. -/
def cache (sectorId objectId : Nat) (fixture : Fixture) : AgencyWorker :=
  { s with
    objectCache := Function.update s.objectCache sectorId
      ((s.objectCache sectorId).insert objectId fixture) }

/-- `_object_cache[sector_id].erase(object_id)`. -/
def uncache (sectorId objectId : Nat) : AgencyWorker :=
  { s with
    objectCache := Function.update s.objectCache sectorId
      ((s.objectCache sectorId).erase objectId) }

/-- A move is written into the entry of its object, a new one if there is none. -/
def cacheMove (packet : CharacterMoveRq) (now : Milliseconds) : AgencyWorker :=
  let fixture := ((s.objectCache packet.sectorId).find packet.objectId).getD blankFixture
  s.cache packet.sectorId packet.objectId
    { fixture with
      direction := packet.direction
      position := packet.startingPosition
      lastTransformTime := now }

/-- An entry as `MakeObjectListPacket` sends it. -/
def listedObject (objectId : Nat) (fixture : Fixture) (now : Milliseconds) : ObjectInfo where
  objectId := objectId
  sectorId := fixture.sectorId
  fixture :=
    { fixture with
      personalDeltaTime :=
        if fixture.direction ≠ .Max then ((now - fixture.lastTransformTime) % 2 ^ 16).toNat else 0 }

def makeObjectListPacket (sectorId : Nat) (now : Milliseconds) : ClientPacket :=
  let sectorObjects := s.objectCache sectorId
  .objectListPs sectorId <| sectorObjects.keys.filterMap fun objectId =>
    (sectorObjects.find objectId).map (listedObject objectId · now)

/-! ## Clients -/

/-- `SendToSector` for clients. -/
def sendToSector (packet : ClientPacket) (sectorId : Nat) : List AgencyPosting :=
  (s.sectorPostingManager.sendToSector sectorId).map (.toClient · packet)

/-- The request with which a client enters. -/
def spawnRequest (userId : Nat) : SpawnCharacterRq where
  userId := userId
  sectorId := initialSectorId
  position := initialCharacterPosition
  size := ⟨100, 100⟩

def onClientAccepted (userId : Nat) : AgencyOutcome :=
  match s.sectorPostingManager.getSectorOwnerSession initialSectorId with
  | none => { agency := s, posts := [.closeSession userId] }
  | some _ =>
      let m := s.sectorPostingManager.linkSession userId (some (.socket userId))
      { agency := { s with sectorPostingManager := m }
        posts := [.toServer (s.sectorPostingManager.owner initialSectorId)
          (.spawnCharacterRq (spawnRequest userId))] }

/-- `OnSocketSessionAccepted` for a client, once the service is ready. -/
def accept : AgencyOutcome :=
  let userId := s.currentUniversalSessionId
  let s := { s with
    currentUniversalSessionId := (userId + 1) % 2 ^ 64
    activeSessions := s.activeSessions.insert userId {} }
  s.onClientAccepted userId

/-- `OnClientClosed`; the field `to_owner` of the request is not initialised. -/
def onClientClosed (userId : Nat) (session : SessionValues) (toOwner : Bool) : AgencyOutcome :=
  if session.objectId = 0 then
    { agency := s }
  else
    let packet : RemoveCharacterRq :=
      ⟨session.userId, session.sectorId, session.objectId, toOwner⟩
    { agency := { s with
        sectorPostingManager := s.sectorPostingManager.unsetAll userId
        objectSessions := s.objectSessions.erase session.objectId }
      posts := (s.sectorPostingManager.sendToSectorOwner session.sectorId).map
        (.toServer · (.removeCharacterRq packet)) }

/-- `OnSocketSessionClosed` for a client. -/
def close (userId : Nat) (toOwner : Bool) : AgencyOutcome :=
  match s.activeSessions.find userId with
  | none => { agency := s }
  | some session =>
      let s := { s with sectorPostingManager := s.sectorPostingManager.unsetAll userId }
      let closed := s.onClientClosed userId session toOwner
      { closed with
        agency := { closed.agency with
          activeSessions := closed.agency.activeSessions.erase userId } }

def onUserMoveReq (userId : Nat) (session : SessionValues) (position : Vector2)
    (direction : Direction) : AgencyOutcome :=
  match s.sectorPostingManager.getSectorOwnerSession session.sectorId with
  | none => { agency := s, posts := [.closeSession userId] }
  | some _ =>
      { agency := s
        posts := [.toServer (s.sectorPostingManager.owner session.sectorId)
          (.characterMoveRq ⟨session.sectorId, session.objectId, position, direction, true⟩)] }

/-- `OnClientData` for a move request. -/
def onClientData (userId : Nat) (position : Vector2) (direction : Direction) : AgencyOutcome :=
  match s.activeSessions.find userId with
  | none => { agency := s }
  | some session =>
      if session.objectId = 0 then
        { agency := s, posts := [.closeSession userId] }
      else
        s.onUserMoveReq userId session position direction

/-! ## Play servers -/

def onPlayMoveCharacterRes (packet : CharacterMoveRq) (error : ErrorCode) (now : Milliseconds) :
    AgencyOutcome :=
  if error ≠ .None then
    { agency := s }
  else
    match s.objectSessions.find packet.objectId with
    | none => { agency := s }
    | some userId =>
        let s := s.cacheMove packet now
        match s.activeSessions.find userId with
        -- the pointer in `_object_sessions` leads to a session that has been erased
        | none => { agency := s, fault := some .sessionGone }
        | some _ =>
            { agency := s
              posts := .toClient userId (.characterMoveRs packet) ::
                (s.sectorPostingManager.sendToSectorWithout userId packet.sectorId).map
                  (.toClient · (.objectMovePs packet)) }

/-- `OnPlaySpawnCharacterRes` does not look at the error code. -/
def onPlaySpawnCharacterRes (source userId : Nat) (info : ObjectInfo) (now : Milliseconds) :
    AgencyOutcome :=
  let info := { info with fixture := { info.fixture with lastTransformTime := now } }
  let s := s.cache info.sectorId info.objectId info.fixture
  match s.activeSessions.find userId with
  -- the client has left, and the play server is sent a response
  | none =>
      { agency := s
        posts := [.toServer source (.removeCharacterRs userId info.sectorId info.objectId)] }
  | some _ =>
      let entered := { s with
        activeSessions := s.activeSessions.insert userId ⟨userId, info.objectId, info.sectorId⟩
        objectSessions := s.objectSessions.insert info.objectId userId
        sectorPostingManager := s.sectorPostingManager.addSectorListener info.sectorId userId }
      { agency := entered
        -- the sector is told before the client listens to it
        posts := s.sendToSector (.createObjectPs info) info.sectorId ++
          [.toClient userId (.gameEnterRequestRs info),
           .toClient userId (s.makeObjectListPacket info.sectorId now)] }

def onPlayRemoveCharacterRes (sectorId objectId : Nat) : AgencyOutcome :=
  let s := s.uncache sectorId objectId
  { agency := s, posts := s.sendToSector (.removeObjectPs sectorId objectId) sectorId }

/-- `OnPlayObjectListPush`, which no packet is dispatched to. -/
def onPlayObjectListPush (sectorId : Nat) (objects : List ObjectInfo) (now : Milliseconds) :
    AgencyOutcome :=
  let objects := objects.map fun object =>
    { object with fixture := { object.fixture with lastTransformTime := now } }
  let s := { s with
    objectCache := Function.update s.objectCache sectorId
      (objects.foldl (fun cache object => cache.insert object.objectId object.fixture)
        UnorderedMap.empty) }
  { agency := s, posts := s.sendToSector (.objectListPs sectorId objects) sectorId }

def onPlayObjectMovePush (packet : CharacterMoveRq) (now : Milliseconds) : AgencyOutcome :=
  let s := s.cacheMove packet now
  { agency := s, posts := s.sendToSector (.objectMovePs packet) packet.sectorId }

def onPlayObjectCreatePush (info : ObjectInfo) (now : Milliseconds) : AgencyOutcome :=
  let s := s.cache info.sectorId info.objectId { info.fixture with lastTransformTime := now }
  { agency := s, posts := s.sendToSector (.createObjectPs info) info.sectorId }

def onPlayObjectRemovePush (sectorId objectId : Nat) : AgencyOutcome :=
  let s := s.uncache sectorId objectId
  { agency := s, posts := s.sendToSector (.removeObjectPs sectorId objectId) sectorId }

/-- `OnPlayPromoteObjectReq` keeps the entry of the origin. -/
def onPlayPromoteObjectReq (originSectorId : Nat) (info : ObjectInfo) (now : Milliseconds) :
    AgencyOutcome :=
  let m := s.sectorPostingManager
  if (m.getSectorOwnerSession info.sectorId).isNone ∨
      (m.getSectorOwnerSession originSectorId).isNone then
    { agency := s }
  else
    match (s.objectCache originSectorId).find info.objectId with
    | none => { agency := s }
    | some _ =>
        let s := s.cache info.sectorId info.objectId info.fixture
        match s.objectSessions.find info.objectId with
        | none => { agency := s }
        | some userId =>
            match s.activeSessions.find userId with
            | none => { agency := s, fault := some .sessionGone }
            | some session =>
                if session.sectorId ≠ originSectorId then
                  -- the assertion that the client is in the sector of origin
                  { agency := s, fault := some .sectorMismatch }
                else
                  let m := (m.removeSectorListener originSectorId userId).addSectorListener
                    info.sectorId userId
                  { agency := { s with
                      activeSessions := s.activeSessions.insert userId
                        { session with sectorId := info.sectorId }
                      sectorPostingManager := m }
                    posts := [.toClient userId (s.makeObjectListPacket info.sectorId now)] }

/-- `OnIntraServerData`: there is no case for a list of objects. -/
def onIntraServerData (source : Nat) (packet : IntraPacket) (now : Milliseconds) : AgencyOutcome :=
  match packet with
  | .spawnCharacterRs userId info _ => s.onPlaySpawnCharacterRes source userId info now
  | .removeCharacterRs _ sectorId objectId _ => s.onPlayRemoveCharacterRes sectorId objectId
  | .characterMoveRs packet error => s.onPlayMoveCharacterRes packet error now
  | .createObjectPs info => s.onPlayObjectCreatePush info now
  | .removeObjectPs sectorId objectId => s.onPlayObjectRemovePush sectorId objectId
  | .objectMovePs packet => s.onPlayObjectMovePush packet now
  | .promoteObjectRq originSectorId info => s.onPlayPromoteObjectReq originSectorId info now
  | .objectListPs _ _ => { agency := s }

end AgencyWorker

end Agency
end SeamlessServer
