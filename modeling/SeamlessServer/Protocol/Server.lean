import Mathlib.Data.Nat.Notation

/-!
# Protocol.Server — control plane packets

The part of `engine/protocol/PacketEnum.h`, `PacketStruct.h` and `Packet.h` that the supervisor
and its minions exchange.  Fields that no modelled function reads or fills (`auth_key`, the
configuration packets) are left out.
-/

namespace SeamlessServer
namespace Protocol

inductive ErrorCode
  | None
  | UnknownServerId
  | SectorNotFound
  | ObjectNotFound
  | RecoveryFailed
  | SessionAuthFailed
  | SessionIsNotReady
  | SessionIsFull
  deriving DecidableEq, Repr

/-- `ServerType` is a byte on the wire and is not validated when it is decoded, so a packet may
carry a value outside the enumeration. -/
inductive ServerType
  | Supervisor
  | Agency
  | Play
  | Other (value : Nat)
  deriving DecidableEq, Repr

structure SocketAddress where
  ip : String
  port : Nat
  deriving DecidableEq, Repr

structure ServerInfo where
  serverType : ServerType
  serverId : Nat
  address : SocketAddress
  deriving DecidableEq, Repr

structure SectorAllocationInfo where
  serverInfo : ServerInfo
  sectorId : Nat
  deriving DecidableEq, Repr

structure RegisterMinionServerRq where
  serverType : ServerType
  address : SocketAddress
  deriving DecidableEq, Repr

structure RecoveryMinionServerRq where
  serverInfo : ServerInfo
  sectors : List Nat
  intraServers : List ServerInfo
  deriving DecidableEq, Repr

/-- What the supervisor sends to a minion. -/
inductive SupervisorPacket
  | registerMinionServerRs (serverInfo : ServerInfo)
  | recoveryMinionServerRs (error : ErrorCode)
  | updateIntraServerInfoPs (joined leaved : List ServerInfo)
  | sectorAllocationPs (allocation deallocation : List SectorAllocationInfo)
  deriving DecidableEq, Repr

/-- `SUPERVISOR_SERVER_ID`. -/
def supervisorServerId : Nat := 1

end Protocol
end SeamlessServer
