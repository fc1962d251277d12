import SeamlessServer.Game.Fixture
import SeamlessServer.Protocol.Server

/-!
# Protocol.World — packets about objects

The packets of `engine/protocol/Packet.h` that a play server receives from agencies and other play
servers, and those it sends.  Left out are fields that no play server reads: nicknames, the
`reason` of a removal, the `type` and `vital` of an object.
-/

namespace SeamlessServer
namespace Protocol

open Game

/-- `PacketObjectInfo`. -/
structure ObjectInfo where
  objectId : Nat
  sectorId : Nat
  fixture : Fixture
  deriving DecidableEq

structure SpawnCharacterRq where
  userId : Nat
  sectorId : Nat
  position : Vector2
  size : Size
  deriving DecidableEq

structure CharacterMoveRq where
  sectorId : Nat
  objectId : Nat
  startingPosition : Vector2
  direction : Direction
  toOwner : Bool
  deriving DecidableEq

structure RemoveCharacterRq where
  userId : Nat
  sectorId : Nat
  objectId : Nat
  toOwner : Bool
  deriving DecidableEq

/-- What play servers send to each other. -/
inductive PlayPacket
  | createObservingObjectRq (originSectorId : Nat) (info : ObjectInfo)
  | removeObservingObjectRq (sectorId objectId : Nat)
  | promoteObjectRq (originSectorId : Nat) (info : ObjectInfo)
  | characterMoveRq (packet : CharacterMoveRq)
  | removeCharacterRq (packet : RemoveCharacterRq)
  deriving DecidableEq

/-- What play servers send to agencies. -/
inductive Notice
  | spawnCharacterRs (userId : Nat) (info : Option ObjectInfo) (error : ErrorCode)
  | removeCharacterRs (userId sectorId objectId : Nat) (error : ErrorCode)
  | characterMoveRs (packet : CharacterMoveRq)
  | createObjectPs (info : ObjectInfo)
  | removeObjectPs (sectorId objectId : Nat)
  | objectMovePs (packet : CharacterMoveRq)
  | promoteObjectRq (originSectorId : Nat) (info : ObjectInfo)
  deriving DecidableEq

namespace PlayPacket

/-- The object a packet is about. -/
def objectId : PlayPacket → Nat
  | .createObservingObjectRq _ info => info.objectId
  | .removeObservingObjectRq _ objectId => objectId
  | .promoteObjectRq _ info => info.objectId
  | .characterMoveRq packet => packet.objectId
  | .removeCharacterRq packet => packet.objectId

/-- The sector a packet is addressed to. -/
def sectorId : PlayPacket → Nat
  | .createObservingObjectRq _ info => info.sectorId
  | .removeObservingObjectRq sectorId _ => sectorId
  | .promoteObjectRq _ info => info.sectorId
  | .characterMoveRq packet => packet.sectorId
  | .removeCharacterRq packet => packet.sectorId

def isPromote : PlayPacket → Bool
  | .promoteObjectRq _ _ => true
  | _ => false

/-- A request to move or remove an object, by an agency or passed on. -/
def isRequest : PlayPacket → Bool
  | .characterMoveRq _ => true
  | .removeCharacterRq _ => true
  | _ => false

/-- A request that is passed on to the owner. -/
def toOwner : PlayPacket → Bool
  | .characterMoveRq packet => packet.toOwner
  | .removeCharacterRq packet => packet.toOwner
  | _ => false

/-- A packet that carries a fixture carries it under the id of its object and with the sector it is
meant for. -/
def Keyed : PlayPacket → Prop
  | .createObservingObjectRq _ info =>
      info.fixture.id = info.objectId ∧ info.fixture.sectorId = info.sectorId
  | .promoteObjectRq _ info =>
      info.fixture.id = info.objectId ∧ info.fixture.sectorId = info.sectorId
  | _ => True

end PlayPacket

end Protocol
end SeamlessServer
