import SeamlessServer.Data.Machine
import SeamlessServer.Data.UnorderedMap
import SeamlessServer.Protocol.Server
import SeamlessServer.Protocol.Wire
import SeamlessServer.Utility.Sampling

/-!
# Engine.PacketThrottler — batching of packets per session

`engine/PacketThrottler.h`: packets posted to a session are collected in one write buffer and sent
together, on an immediate post, when the buffer is full, or by a flush.

Pending buffers are kept under the id of the session they were last posted to.  Sessions are
objects of an arbitrary type; `Sessions` says what the throttler uses of them.  A buffer records,
besides the fields of the source, which session each of its packets was posted to.  Nothing in the
code reads that record; the statements about delivery do.
-/

namespace SeamlessServer
namespace Engine

open Protocol Utility

/-- What the throttler needs to know of session objects. -/
structure Sessions (σ : Type) where
  /-- `GetSessionId()`. -/
  sessionId : σ → Nat
  /-- The capacity of the buffers `TryAllocateWriteBuffer` returns, a `uint32_t`. -/
  writeCapacity : σ → Nat
  writeCapacity_lt : ∀ x, writeCapacity x < 2 ^ 32

/-- A packet in a buffer, with the session it was posted to. -/
structure Posted (σ : Type) where
  session : σ
  packet : Packet
  deriving DecidableEq

structure SocketBuffer (σ : Type) where
  capacity : Nat
  length : Nat
  contents : List (Posted σ)
  deriving DecidableEq

/-- `ThrottleData`; an entry is stored only after its session has been set. -/
structure ThrottleData (σ : Type) where
  session : σ
  buffer : Option (SocketBuffer σ)

structure PacketThrottler (σ : Type) where
  throttleData : UnorderedMap Nat (ThrottleData σ)
  throttler : Throttler

inductive PacketPostingPolicy
  | Immediate
  | Throttle
  deriving DecidableEq, Repr

/-- What the throttler does to sessions.  `overflow` is the failing branch of
`TryAllocateWriteBuffer`, which notifies the peer and closes the session; `release` is the release
of the buffer stored with `owner` by a `CleanUp` of `session`. -/
inductive Action (σ : Type)
  | send (session : σ) (buffer : Option (SocketBuffer σ))
  | overflow (session : σ)
  | release (session owner : σ) (buffer : SocketBuffer σ)
  deriving DecidableEq

/-- The state a call leaves, its actions in order, and whether it threw. -/
structure Outcome (σ : Type) where
  state : PacketThrottler σ
  actions : List (Action σ)
  threw : Bool := false

variable {σ : Type}

/-- The bytes in a buffer; the throttler serialises with `ErrorCode::None`, which is `0`. -/
def SocketBuffer.bytes (buffer : SocketBuffer σ) : List UInt8 :=
  buffer.contents.flatMap fun posted => packetBytes posted.packet 0

/-- Serialisation at the end of a buffer, with `capacity - length` bytes of space. -/
def SocketBuffer.append (buffer : SocketBuffer σ) (session : σ) (packet : Packet) :
    Option (SocketBuffer σ) :=
  (serializePacket packet 0 (buffer.capacity - buffer.length)).map fun _ =>
    { buffer with
      length := buffer.length + packetSize packet
      contents := buffer.contents ++ [⟨session, packet⟩] }

namespace PacketThrottler

/-- `PacketThrottler(tick)`, constructed at the tick `now`. -/
def new (tick now : Milliseconds) : PacketThrottler σ where
  throttleData := UnorderedMap.empty
  throttler := ⟨tick, now⟩

/-! ## Posting -/

/-- A buffer as `TryAllocateWriteBuffer` hands it out. -/
def freshBuffer (S : Sessions σ) (session : σ) : SocketBuffer σ :=
  ⟨S.writeCapacity session, 0, []⟩

/-- `StorePacket` on a non-null buffer.  `allocated` tells whether its allocation succeeds.  The
result is the buffer left in the entry, the actions, and whether the call threw. -/
def storePacket (S : Sessions σ) (session : σ) (buffer : SocketBuffer σ) (packet : Packet)
    (allocated : Bool) : Option (SocketBuffer σ) × List (Action σ) × Bool :=
  match buffer.append session packet with
  | some buffer => (some buffer, [], false)
  | none =>
      if allocated then
        match (freshBuffer S session).append session packet with
        | some fresh => (some fresh, [.send session (some buffer)], false)
        -- "packet size overflow": the entry keeps the new, empty buffer
        | none => (some (freshBuffer S session), [.send session (some buffer)], true)
      else
        (none, [.send session (some buffer), .overflow session], false)

/-- The part of `PostPacket` after a buffer has been found. -/
def postInto (S : Sessions σ) (t : PacketThrottler σ) (session : σ) (buffer : SocketBuffer σ)
    (packet : Packet) (policy : PacketPostingPolicy) (allocated : Bool) : Outcome σ :=
  let id := S.sessionId session
  let (stored, actions, threw) := storePacket S session buffer packet allocated
  let keep : Outcome σ :=
    ⟨{ t with throttleData := t.throttleData.insert id ⟨session, stored⟩ }, actions, threw⟩
  if threw then
    keep
  else
    match policy with
    | .Immediate =>
        ⟨{ t with throttleData := t.throttleData.erase id }, actions ++ [.send session stored],
          false⟩
    | .Throttle => keep

/-- The buffer pending under the id of a session. -/
def pendingBuffer (S : Sessions σ) (t : PacketThrottler σ) (session : σ) :
    Option (SocketBuffer σ) :=
  (t.throttleData.find (S.sessionId session)).bind ThrottleData.buffer

/-- `PostPacket`.  The two flags tell whether the allocation in `PostPacket` and the one in
`StorePacket` succeed, if they are made. -/
def postPacket (S : Sessions σ) (t : PacketThrottler σ) (session : σ) (packet : Packet)
    (policy : PacketPostingPolicy) (allocated storeAllocated : Bool) : Outcome σ :=
  match t.pendingBuffer S session with
  | some buffer => t.postInto S session buffer packet policy storeAllocated
  | none =>
      if allocated then
        t.postInto S session (freshBuffer S session) packet policy storeAllocated
      else
        ⟨{ t with throttleData := t.throttleData.erase (S.sessionId session) },
          [.overflow session], false⟩

/-! ## Clean up and flush -/

def cleanUp (S : Sessions σ) (t : PacketThrottler σ) (session : σ) : Outcome σ :=
  match t.throttleData.find (S.sessionId session) with
  | none => ⟨t, [], false⟩
  | some data =>
      ⟨{ t with throttleData := t.throttleData.erase (S.sessionId session) },
        data.buffer.toList.map (Action.release session data.session), false⟩

/-- The loop of `ForceFlushPacket`: every entry is sent, also one without a buffer. -/
def flushActions (t : PacketThrottler σ) : List (Action σ) :=
  t.throttleData.values.map fun data => .send data.session data.buffer

def forceFlushPacket (t : PacketThrottler σ) : Outcome σ :=
  ⟨{ t with throttleData := UnorderedMap.empty }, t.flushActions, false⟩

def tryFlushPacket (t : PacketThrottler σ) (now : Milliseconds) : Outcome σ :=
  let (fired, throttler) := t.throttler.fire now
  let t := { t with throttler := throttler }
  if fired then
    t.forceFlushPacket
  else
    ⟨t, [], false⟩

end PacketThrottler

/-- The smallest packet: a header without a body. -/
def emptyPacket : Packet := ⟨0, []⟩

/-! ## Sequences of calls -/

/-- The calls of a throttler.  `rehash` lets the iteration order of the map change to any
permutation between two calls. -/
inductive Op (σ : Type)
  | postPacket (session : σ) (packet : Packet) (policy : PacketPostingPolicy)
      (allocated storeAllocated : Bool)
  | cleanUp (session : σ)
  | tryFlushPacket (now : Milliseconds)
  | forceFlushPacket
  | rehash (order : List Nat)

/-- One call. -/
def apply (S : Sessions σ) (t : PacketThrottler σ) : Op σ → Outcome σ
  | .postPacket session packet policy allocated storeAllocated =>
      t.postPacket S session packet policy allocated storeAllocated
  | .cleanUp session => t.cleanUp S session
  | .tryFlushPacket now => t.tryFlushPacket now
  | .forceFlushPacket => t.forceFlushPacket
  | .rehash order => ⟨{ t with throttleData := t.throttleData.reorder order }, [], false⟩

/-- A sequence of calls: the final state and all actions. -/
def run (S : Sessions σ) (t : PacketThrottler σ) : List (Op σ) → PacketThrottler σ × List (Action σ)
  | [] => (t, [])
  | op :: ops =>
      let first := apply S t op
      let rest := run S first.state ops
      (rest.1, first.actions ++ rest.2)

/-- The throttler as a machine over its calls. -/
def machine (S : Sessions σ) : Machine (PacketThrottler σ) (Op σ) where
  init := fun t => ∃ tick now, t = PacketThrottler.new tick now
  step := fun t op t' => t' = (apply S t op).state

end Engine
end SeamlessServer
