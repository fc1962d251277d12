import SeamlessServer.Protocol.Wire
import Mathlib.Algebra.Order.Ring.Int

/-!
# Engine.OnRead — from socket reads to chains of contexts

`NetworkEngine::OnRead` with `PrepareSocketContext`, the cursor of `memory/Buffer.h`, and the part of
the socket layer that fills a posted buffer and calls `OnRead`.

`OnRead` cuts the bytes of a buffer into packets and makes a context for each data packet.  The
contexts are stored in the reserved area of the buffer that holds their bodies; a chain of them is
submitted to the worker, and the buffer is not written again until the worker has released them.
Therefore a context is modelled together with the bytes of its body.  The bytes that do not make a
packet yet are copied to a new buffer, or stay in the old one if it can be used again.

The surroundings answer the calls that may fail.  Write buffers and the clock are left out.
-/

namespace SeamlessServer
namespace Engine
namespace NetworkEngine

open Protocol

/-! ## Packet types -/

def packetHeartbeatRq : Nat := 0
def packetHeartbeatRs : Nat := 1
def packetSessionCreateRq : Nat := 2
def packetSessionCreateRs : Nat := 3
def packetSessionAuthRq : Nat := 4
def packetSessionAuthRs : Nat := 5
def packetSessionCloseRq : Nat := 6
def packetBandwithOverflowPs : Nat := 7
def packetServerIsBusyPs : Nat := 8

/-- `ErrorCode::None`, as found on the wire. -/
def errorNone : Nat := 0

/-- `ErrorCode::SessionIsNotReady`, as found on the wire. -/
def errorSessionIsNotReady : Nat := 6

/-! ## Buffers and cursors -/

/-- `SocketBuffer`: the memory at `ptr`, as long as the capacity, how much of it is filled, and the
reference count.  What is behind `length` is left from earlier uses. -/
structure SocketBuffer where
  memory : List UInt8
  length : Nat
  ref : Nat
  deriving DecidableEq

/-- `memcpy` to an offset of the memory. -/
def writeMemory (memory : List UInt8) (offset : Nat) (bytes : List UInt8) : List UInt8 :=
  memory.take offset ++ bytes ++ memory.drop (offset + bytes.length)

/-- Conversion to `int32_t`. -/
def toInt32 (n : Int) : Int := (n + 2 ^ 31) % 2 ^ 32 - 2 ^ 31

/-- `DynamicBufferCursor`; the cursor is an `int32_t`. -/
structure DynamicBufferCursor where
  buffer : SocketBuffer
  cursor : Int
  deriving DecidableEq

namespace DynamicBufferCursor

def ofBuffer (buffer : SocketBuffer) : DynamicBufferCursor := ⟨buffer, 0⟩

/-- The bytes at `Data()`. -/
def data (c : DynamicBufferCursor) : List UInt8 := c.buffer.memory.drop c.cursor.toNat

def seek (c : DynamicBufferCursor) (byteMovement : Nat) : DynamicBufferCursor :=
  { c with cursor := toInt32 (c.cursor + toInt32 byteMovement) }

/-- `RemainBytes()`, a difference of `uint32_t`. -/
def remainBytes (c : DynamicBufferCursor) : Nat := ((c.buffer.length - c.cursor) % 2 ^ 32).toNat

/-- `Cursor()`, as a `uint32_t`. -/
def position (c : DynamicBufferCursor) : Nat := (c.cursor % 2 ^ 32).toNat

def retain (c : DynamicBufferCursor) : DynamicBufferCursor :=
  { c with buffer := { c.buffer with ref := c.buffer.ref + 1 } }

/-- `SerializePacket` to the beginning of the buffer, whose length becomes the size of the packet
even if the packet does not fit. -/
def serialize (c : DynamicBufferCursor) (packet : Packet) : DynamicBufferCursor :=
  { c with buffer := { c.buffer with
    memory := match serializePacket packet errorNone c.buffer.memory.length with
      | none => c.buffer.memory
      | some bytes => writeMemory c.buffer.memory 0 bytes
    length := packetSize packet } }

end DynamicBufferCursor

/-! ## Contexts -/

inductive ContextType
  | SessionAccepted
  | SessionConnected
  | SessionAbandoned
  | SessionAlived
  | SessionClosed
  | SessionData
  | SessionError
  deriving DecidableEq, Repr

/-- `SocketContext`, with the body its cursor points to. -/
structure SocketContext where
  contextType : ContextType
  header : PacketHeader
  body : List UInt8
  attachment : Nat
  deriving DecidableEq

/-- `sizeof(SocketContext)`: 16 bytes of the base class, 8 of the header, 16 of the cursor, 16 of the
session pointer, 8 of the attachment. -/
def socketContextSize : Nat := 64

/-- `sizeof(SocketBuffer::reserved)`. -/
def reservedSize : Nat := 8192

/-- `PrepareSocketContext`: the context and the cursor to the retained buffer, or nothing if the
reserved area has no room. -/
def prepareSocketContext (buffer : DynamicBufferCursor) (contextType : ContextType)
    (header : PacketHeader) (attachment contextSequence : Nat) :
    Option (SocketContext × DynamicBufferCursor) :=
  if socketContextSize * (contextSequence + 1) > reservedSize then
    none
  else
    some (⟨contextType, header, buffer.data.take header.bodySize, attachment⟩, buffer.retain)

/-! ## Surroundings -/

inductive StreamType
  | Connector
  | Acceptor
  deriving DecidableEq, Repr

/-- The answers to the calls that may fail.  Other threads use the session pool, the connectors and
the abandoned sessions, so an answer may be different for each session packet. -/
structure Surroundings where
  /-- The memory of the buffer that the `n`-th call of `AllocateReadBuffer` returns, if any. -/
  allocate : Nat → Option (List UInt8)
  /-- The result of the `n`-th call of `Submit`. -/
  submit : Nat → Bool
  streamType : StreamType
  /-- `struct_pack` decodes a body as a packet of the given type. -/
  decodes : Nat → List UInt8 → Bool
  /-- The session pool has a session for the `n`-th session packet. -/
  pop : Nat → Bool
  /-- The connector of the stream is still registered. -/
  connector : Nat → Bool
  /-- The attachment of the connector. -/
  connectorAttachment : Nat
  /-- The abandoned session that a `packet_session_auth_rq` asks for has its key and is opened
  again. -/
  authenticates : Nat → List UInt8 → Bool
  /-- The abandoned session of the connector is opened again. -/
  revives : Nat → Bool
  /-- The abandoned session of the connector is found, to be closed. -/
  remembers : Nat → Bool
  /-- The `packet_session_auth_rq` with the session and the key of the connector. -/
  authRq : Nat → Packet
  createRq : Packet

/-- What `OnRead` does to its surroundings. -/
inductive Operation
  | submit (chain : List SocketContext)
  | submitRefused (chain : List SocketContext)
  | transmitRead (buffer : SocketBuffer)
  | transmitWrite (buffer : SocketBuffer)
  | releaseReadBuffer (buffer : SocketBuffer)
  | send (packetType : Nat)
  | updateHeartbeatReceivingTime
  | closeSession
  | transmitDisconnect
  /-- A method is called through a session pointer that is not valid. -/
  | invalidSession
  deriving DecidableEq

/-! ## OnRead -/

/-- The variables of `OnRead`.  `chain` are the contexts from `first_context` on, `last_context` is
the last of them, if any; the counters of calls are those of the surroundings. -/
structure ReadState where
  session : Bool
  allocations : Nat
  submissions : Nat
  sessionPackets : Nat
  buffer : DynamicBufferCursor
  chain : List SocketContext := []
  contextSequence : Nat := 0
  operations : List Operation := []
  deriving DecidableEq

/-- How a round of the loop ends: the loop goes on, is left, or the function returns. -/
inductive Flow
  | again (s : ReadState)
  | leave (s : ReadState)
  | exit (s : ReadState)
  deriving DecidableEq

namespace ReadState

def operate (s : ReadState) (operations : List Operation) : ReadState :=
  { s with operations := s.operations ++ operations }

def seek (s : ReadState) (byteMovement : Nat) : ReadState :=
  { s with buffer := s.buffer.seek byteMovement }

end ReadState

section OnRead

variable (env : Surroundings) (attachment : Nat)

/-- What `ProcessSessionPacket` returns, and what it does besides opening a session. -/
structure SessionOutcome where
  contextType : ContextType := .SessionError
  /-- The packet that is written over the read buffer and sent from there. -/
  answer : Option Packet := none
  /-- The type of the packet that is sent from a write buffer. -/
  sends : Option Nat := none
  /-- The abandoned session of the connector is reported as closed. -/
  closes : Bool := false

def processSessionPacket (n : Nat) (header : PacketHeader) (body : List UInt8) : SessionOutcome :=
  if ¬ env.decodes header.packetType body then
    {}
  else if header.packetType = packetSessionCreateRq then
    if env.pop n then
      { contextType := .SessionAccepted, sends := some packetSessionCreateRs }
    else
      {}
  else if header.packetType = packetSessionCreateRs then
    if env.streamType = .Connector ∧ env.connector n ∧ env.pop n then
      { contextType := .SessionConnected }
    else
      {}
  else if header.packetType = packetSessionAuthRq then
    if env.authenticates n body then
      { contextType := .SessionAlived }
    else
      { sends := some packetSessionAuthRq }
  else if header.packetType = packetSessionAuthRs then
    if ¬ env.connector n then
      {}
    -- the connector takes up its session, or begins anew
    else if header.errorCode = errorNone then
      if env.revives n then
        { contextType := .SessionAlived }
      else
        { answer := some env.createRq }
    else if header.errorCode = errorSessionIsNotReady then
      { answer := some (env.authRq n) }
    else
      { answer := some env.createRq, closes := env.remembers n }
  else
    {}

/-- `SendSocketContext` for the abandoned session that is closed. -/
def sendSessionClosed (s : ReadState) (header : PacketHeader) : ReadState :=
  match prepareSocketContext s.buffer .SessionClosed header 0 0 with
  | none => s
  | some (context, buffer) =>
      if env.submit s.submissions then
        { s with submissions := s.submissions + 1, buffer := buffer }.operate [.submit [context]]
      else
        let released := { buffer.buffer with ref := 0 }
        { s with
          submissions := s.submissions + 1
          buffer := { buffer with buffer := released } }.operate
          [.submitRefused [context], .releaseReadBuffer released, .send packetServerIsBusyPs,
           .closeSession]

/-- A session packet that opens no session.  An answer is written over the buffer that is being
read. -/
def rejectSessionPacket (s : ReadState) (header : PacketHeader) (outcome : SessionOutcome) :
    ReadState :=
  let s := if outcome.closes then sendSessionClosed env s header else s
  match outcome.answer with
  | none => s
  | some packet =>
      let buffer := s.buffer.serialize packet
      { s with buffer := buffer }.operate [.transmitWrite buffer.buffer]

/-- A packet before there is a session.  No context comes before one that opens a session. -/
def readSessionPacket (s : ReadState) (header : PacketHeader) : Flow :=
  let outcome :=
    processSessionPacket env s.sessionPackets header (s.buffer.data.take header.bodySize)
  let s := { s with sessionPackets := s.sessionPackets + 1 }.operate
    (outcome.sends.toList.map Operation.send)
  if outcome.contextType = .SessionError then
    .again ((rejectSessionPacket env s header outcome).seek header.bodySize)
  else
    let context := prepareSocketContext s.buffer outcome.contextType header
      env.connectorAttachment s.contextSequence
    let s := { s with session := true, contextSequence := s.contextSequence + 1 }
    match context with
    | none => .exit (s.operate [.transmitDisconnect, .releaseReadBuffer s.buffer.buffer])
    | some (context, buffer) =>
        .again { s with chain := s.chain ++ [context], buffer := buffer.seek header.bodySize }

/-- The current context is linked, and the cursor goes behind the body. -/
def link (s : ReadState) (header : PacketHeader)
    (current : Option (SocketContext × DynamicBufferCursor)) : ReadState :=
  match current with
  | none => { s.seek header.bodySize with contextSequence := s.contextSequence + 1 }
  | some (context, buffer) =>
      { s with
        chain := s.chain ++ [context]
        buffer := buffer.seek header.bodySize
        contextSequence := s.contextSequence + 1 }

/-- A data packet.  If the reserved area is full the chain is submitted, and the read goes on in a new
buffer that begins with the body of the packet. -/
def readDataPacket (s : ReadState) (header : PacketHeader) : Flow :=
  match prepareSocketContext s.buffer .SessionData header attachment s.contextSequence with
  | some current => .again (link s header (some current))
  | none =>
      match env.allocate s.allocations with
      -- `packet_bandwith_overflow_ps`, and the packets that were read are lost
      | none =>
          .exit ({ s with allocations := s.allocations + 1 }.operate
            [.send packetBandwithOverflowPs, .closeSession, .releaseReadBuffer s.buffer.buffer])
      | some memory =>
          -- what is carried over begins with the body of this packet, whose header has been read
          let length := s.buffer.remainBytes
          let newBuffer : SocketBuffer :=
            ⟨writeMemory memory 0 (s.buffer.data.take length), length, 0⟩
          let s := { s with allocations := s.allocations + 1 }
          if env.submit s.submissions then
            let s := { s.operate [.submit s.chain] with
              submissions := s.submissions + 1
              chain := []
              contextSequence := 0
              buffer := .ofBuffer newBuffer }
            .again (link s header
              (prepareSocketContext s.buffer .SessionData header attachment s.contextSequence))
          else
            .exit ({ s with submissions := s.submissions + 1 }.operate
              [.submitRefused s.chain, .closeSession, .releaseReadBuffer s.buffer.buffer,
               .releaseReadBuffer newBuffer])

/-- One round of the loop. -/
def readRound (s : ReadState) : Flow :=
  if s.buffer.remainBytes > packetLengthSize then
    let packetLength := ofBytes (s.buffer.data.take packetLengthSize)
    if s.buffer.remainBytes - packetLengthSize < packetLength then
      -- the packet has not fully arrived
      .leave s
    else
      let s := s.seek packetLengthSize
      let header := deserializePacketHeader (s.buffer.data.take packetHeaderSize)
      let s := s.seek packetHeaderSize
      if s.buffer.remainBytes < header.bodySize then
        -- "packet header size mismatch"
        .exit (s.operate
          [if s.session then .closeSession else .transmitDisconnect,
           .releaseReadBuffer { s.buffer.buffer with ref := 0 }])
      else if ¬ s.session then
        readSessionPacket env s header
      else if header.packetType = packetHeartbeatRq then
        .again ((s.operate [.updateHeartbeatReceivingTime, .send packetHeartbeatRs]).seek
          header.bodySize)
      else if header.packetType = packetHeartbeatRs then
        .again ((s.operate [.updateHeartbeatReceivingTime]).seek header.bodySize)
      else if header.packetType = packetSessionCreateRq ∨
          header.packetType = packetSessionCreateRs ∨
          header.packetType = packetSessionCloseRq then
        .exit (s.operate [.closeSession, .releaseReadBuffer s.buffer.buffer])
      else
        readDataPacket env attachment s header
  else
    .leave s

/-- The loop, for a number of rounds. -/
def readLoop : Nat → ReadState → Flow
  | 0, s => .again s
  | rounds + 1, s =>
      match readRound env attachment s with
      | .again s => readLoop rounds s
      | .leave s => .leave s
      | .exit s => .exit s

/-- What follows the loop. -/
def finishRead (s : ReadState) : ReadState :=
  -- the buffer is used again if no packet was read
  if s.buffer.position ≤ packetLengthSize + packetHeaderSize then
    s.operate [.transmitRead s.buffer.buffer]
  else if ¬ s.session then
    s.operate [.invalidSession]
  else
    match env.allocate s.allocations with
    | none =>
        { s with allocations := s.allocations + 1 }.operate
          [.send packetBandwithOverflowPs, .closeSession, .releaseReadBuffer s.buffer.buffer]
    | some memory =>
        let length := s.buffer.remainBytes
        let newBuffer : SocketBuffer :=
          if length > 0 then ⟨writeMemory memory 0 (s.buffer.data.take length), length, 0⟩
          else ⟨memory, 0, 0⟩
        let s := { s with allocations := s.allocations + 1 }
        if s.chain = [] then
          s.operate [.releaseReadBuffer s.buffer.buffer, .transmitRead newBuffer]
        else if env.submit s.submissions then
          { s with submissions := s.submissions + 1 }.operate
            [.submit s.chain, .transmitRead newBuffer]
        else
          { s with submissions := s.submissions + 1 }.operate
            [.submitRefused s.chain, .releaseReadBuffer s.buffer.buffer,
             .releaseReadBuffer newBuffer, .send packetServerIsBusyPs, .closeSession]

/-- `NetworkEngine::OnRead` with the given number of rounds of its loop. -/
def onRead (rounds : Nat) (s : ReadState) : ReadState :=
  match readLoop env attachment rounds s with
  | .again s => s
  | .leave s => finishRead env s
  | .exit s => s

end OnRead

/-! ## Connections -/

/-- An accepted stream: the buffer that is posted for the next read, and the chains submitted so
far. -/
structure Connection where
  session : Bool
  allocations : Nat
  submissions : Nat
  sessionPackets : Nat
  posted : Option SocketBuffer
  submitted : List (List SocketContext)

/-- The chains among some operations. -/
def submittedChains (operations : List Operation) : List (List SocketContext) :=
  operations.filterMap fun
    | .submit chain => some chain
    | _ => none

/-- The buffer posted by some operations. -/
def postedBuffer (operations : List Operation) : Option SocketBuffer :=
  (operations.filterMap fun
    | .transmitRead buffer => some buffer
    | _ => none).getLast?

namespace Connection

variable (env : Surroundings) (attachment : Nat)

/-- `OnAccept` posts the first buffer. -/
def accept : Connection where
  session := false
  allocations := 1
  submissions := 0
  sessionPackets := 0
  posted := (env.allocate 0).map (⟨·, 0, 0⟩)
  submitted := []

/-- A read completes with the given bytes: `IocpSocketServer::IoRead`.  Every round of the loop takes a
packet from the buffer, so its length bounds the rounds. -/
def receive (c : Connection) (bytes : List UInt8) : Connection :=
  match c.posted with
  | none => c
  | some buffer =>
      if bytes = [] then
        { c with posted := none }
      else
        let buffer : SocketBuffer :=
          { buffer with
            memory := writeMemory buffer.memory buffer.length bytes
            length := buffer.length + bytes.length }
        let s := onRead env attachment (buffer.length + 1)
          { session := c.session
            allocations := c.allocations
            submissions := c.submissions
            sessionPackets := c.sessionPackets
            buffer := .ofBuffer buffer }
        { session := s.session
          allocations := s.allocations
          submissions := s.submissions
          sessionPackets := s.sessionPackets
          posted := postedBuffer s.operations
          submitted := c.submitted ++ submittedChains s.operations }

/-- The connection after some reads. -/
def afterReads (reads : List (List UInt8)) : Connection :=
  reads.foldl (receive env attachment) (accept env)

end Connection

end NetworkEngine
end Engine
end SeamlessServer
