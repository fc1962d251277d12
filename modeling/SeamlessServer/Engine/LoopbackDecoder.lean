import SeamlessServer.Engine.Framing
import SeamlessServer.Engine.Loopback

/-!
# Engine.LoopbackDecoder — the bytes of a loopback buffer

`PacketThrottler::StorePacket` writes packets one behind the other into a buffer, and
`GameServerWorker::ProcessLoopbackData` of `game/GameServer.cpp` reads them again, with a loop of its
own: it goes on while there is room for a header, passes over the length field without a look at it,
and tells `DeserializePacketHeader` how far it is to the end of the memory rather than to the end of
the packets.

* `processLoopbackData_stored` — it hands over what was stored, with all assertions met;
* `loopback_decodes` — the handlers decode the packets that were posted;
* `processLoopbackData_represents` — `Engine.Loopback` says the same without the memory.

`struct_pack` is a parameter.
-/

namespace SeamlessServer
namespace Engine
namespace Loopback

open Protocol NetworkEngine

/-- `ServerConfig::read_buffer_capacity`, which is the capacity of the buffers of the loopback session. -/
def readBufferCapacity : Nat := 65536

/-! ## Storing -/

/-- `StorePacket` into the buffer of the entry, if `SerializePacket` succeeds.  A body whose size does
not fit into a `uint32_t` would be written past the end of the memory; then nothing is defined. -/
def storePacket (buffer : NetworkEngine.SocketBuffer) (packet : Packet) :
    Option NetworkEngine.SocketBuffer :=
  match serializePacket packet errorNone (buffer.memory.length - buffer.length) with
  | none => none
  | some bytes =>
      if buffer.length + bytes.length ≤ buffer.memory.length then
        some { buffer with
          memory := writeMemory buffer.memory buffer.length bytes
          length := buffer.length + packetSize packet }
      else
        none

/-- All packets are stored in one buffer, which `TryAllocateWriteBuffer` has returned. -/
def storePackets (memory : List UInt8) (packets : List Packet) : Option NetworkEngine.SocketBuffer :=
  packets.foldlM storePacket ⟨memory, 0, 0⟩

/-! ## Processing -/

/-- The assertion of `Seek`, about the cursor behind the movement. -/
def inBuffer (c : DynamicBufferCursor) : Bool := 0 ≤ c.cursor ∧ c.cursor ≤ c.buffer.length

/-- The assertion of `DeserializePacketHeader`, with `capacity - Cursor()` as the size. -/
def headerInMemory (c : DynamicBufferCursor) : Bool :=
  ((c.buffer.memory.length - c.position : Int) % 2 ^ 32).toNat ≥ packetHeaderSize

/-- A call of `OnIntraServerData`. -/
structure LoopbackCall where
  header : PacketHeader
  buffer : DynamicBufferCursor
  deriving DecidableEq

/-- The bytes that a handler passes to `DeserializePacketBody`. -/
def LoopbackCall.body (call : LoopbackCall) : List UInt8 := call.buffer.data.take call.header.bodySize

/-- `ProcessLoopbackData` in progress: the cursor, the calls, and whether all assertions have held. -/
structure Processing where
  cursor : DynamicBufferCursor
  calls : List LoopbackCall := []
  asserted : Bool := true
  deriving DecidableEq

def processPacket (s : Processing) : Processing :=
  let atHeader := s.cursor.seek packetLengthSize
  let header := deserializePacketHeader atHeader.data
  let atBody := atHeader.seek packetHeaderSize
  let behind := atBody.seek header.bodySize
  { cursor := behind
    calls := s.calls ++ [⟨header, atBody⟩]
    asserted := s.asserted && inBuffer atHeader && headerInMemory atHeader && inBuffer atBody &&
      inBuffer behind }

/-- The loop.  On arbitrary bytes it may not come to an end. -/
def processPackets : Nat → Processing → Option Processing
  | 0, _ => none
  | fuel + 1, s =>
      if s.cursor.remainBytes ≥ packetHeaderSize then
        processPackets fuel (processPacket s)
      else
        some s

def processLoopbackData (fuel : Nat) (buffer : NetworkEngine.SocketBuffer) : Option Processing :=
  (processPackets fuel { cursor := .ofBuffer buffer }).map fun s =>
    { s with asserted := s.asserted && s.cursor.remainBytes = 0 }

/-! ## What is stored -/

theorem length_writeMemory {memory bytes : List UInt8} {offset : Nat}
    (h : offset + bytes.length ≤ memory.length) :
    (writeMemory memory offset bytes).length = memory.length := by
  simp only [writeMemory, List.length_append, List.length_take, List.length_drop]
  omega

section Storing

variable {buffer stored : NetworkEngine.SocketBuffer} {packet : Packet}

theorem storePacket_of_some (h : storePacket buffer packet = some stored) :
    packetSize packet ≤ buffer.memory.length - buffer.length ∧
      buffer.length + (packetBytes packet errorNone).length ≤ buffer.memory.length ∧
      stored = { buffer with
        memory := writeMemory buffer.memory buffer.length (packetBytes packet errorNone)
        length := buffer.length + packetSize packet } := by
  unfold storePacket serializePacket at h
  by_cases hsize : packetSize packet > buffer.memory.length - buffer.length
  · rw [if_pos hsize] at h
    cases h
  · rw [if_neg hsize] at h
    dsimp only at h
    split at h
    next hroom =>
      cases h
      exact ⟨Nat.le_of_not_lt hsize, hroom, rfl⟩
    next => cases h

theorem storePacket_of_fits
    (hfits : buffer.length + (packetBytes packet errorNone).length ≤ buffer.memory.length)
    (hcapacity : buffer.memory.length < 2 ^ 32) :
    storePacket buffer packet = some { buffer with
      memory := writeMemory buffer.memory buffer.length (packetBytes packet errorNone)
      length := buffer.length + (packetBytes packet errorNone).length } := by
  have hbytes := length_packetBytes packet errorNone
  have hsize : packetSize packet = (packetBytes packet errorNone).length := by
    rw [hbytes]
    exact packetSize_eq (by omega)
  unfold storePacket serializePacket
  rw [hsize, if_neg (by omega)]
  exact if_pos hfits

/-- A packet is stored behind the others. -/
theorem storePacket_at {content : List UInt8} (h : storePacket buffer packet = some stored)
    (hcapacity : buffer.memory.length < 2 ^ 31)
    (hat : (DynamicBufferCursor.ofBuffer buffer).At 0 content) :
    (DynamicBufferCursor.ofBuffer stored).At 0 (content ++ packetBytes packet errorNone) ∧
      stored.memory.length = buffer.memory.length := by
  obtain ⟨-, hroom, rfl⟩ := storePacket_of_some h
  have hlength : buffer.length = content.length := by
    simpa [DynamicBufferCursor.ofBuffer] using hat.length
  have hbytes := length_packetBytes packet errorNone
  have hsize : packetSize packet = (packetBytes packet errorNone).length := by
    rw [hbytes]
    exact packetSize_eq (by omega)
  refine ⟨?_, length_writeMemory hroom⟩
  rw [hsize]
  exact at_received (packetBytes packet errorNone) hat (by omega)

theorem storePackets_at {memory : List UInt8} {packets : List Packet}
    (h : storePackets memory packets = some stored) (hcapacity : memory.length < 2 ^ 31) :
    (DynamicBufferCursor.ofBuffer stored).At 0 (packets.flatMap (packetBytes · errorNone)) ∧
      stored.memory.length = memory.length := by
  induction packets using List.reverseRecOn generalizing stored with
  | nil =>
      cases h
      exact ⟨⟨rfl, rfl, ⟨memory, rfl⟩, by simp [DynamicBufferCursor.ofBuffer]⟩, rfl⟩
  | append_singleton packets packet ih =>
      unfold storePackets at h
      rw [List.foldlM_append] at h
      obtain ⟨buffer, hbuffer, hlast⟩ := Option.bind_eq_some_iff.1 h
      obtain ⟨hat, hmemory⟩ := ih hbuffer
      have hstored : storePacket buffer packet = some stored := by simpa using hlast
      obtain ⟨hat', hmemory'⟩ := storePacket_at hstored (by rw [hmemory]; exact hcapacity) hat
      refine ⟨?_, hmemory'.trans hmemory⟩
      rw [List.flatMap_append, List.flatMap_singleton]
      exact hat'

/-- Packets that fit into the memory are stored. -/
theorem storePackets_of_fits {memory : List UInt8} (hcapacity : memory.length < 2 ^ 31)
    {packets : List Packet}
    (hfits : (packets.flatMap (packetBytes · errorNone)).length ≤ memory.length) :
    ∃ stored, storePackets memory packets = some stored := by
  induction packets using List.reverseRecOn with
  | nil => exact ⟨_, rfl⟩
  | append_singleton packets packet ih =>
      rw [List.flatMap_append, List.flatMap_singleton, List.length_append] at hfits
      obtain ⟨buffer, hbuffer⟩ := ih (by omega)
      obtain ⟨hat, hmemory⟩ := storePackets_at hbuffer hcapacity
      have hlength : buffer.length = (packets.flatMap (packetBytes · errorNone)).length := by
        simpa [DynamicBufferCursor.ofBuffer] using hat.length
      have hlast : ∃ stored, storePacket buffer packet = some stored :=
        ⟨_, storePacket_of_fits (by omega) (by omega)⟩
      obtain ⟨stored, hstored⟩ := hlast
      refine ⟨stored, ?_⟩
      unfold storePackets at hbuffer ⊢
      rw [List.foldlM_append, hbuffer]
      simpa using hstored

end Storing

/-! ## What is processed -/

section Processing

variable {c : DynamicBufferCursor} {p : Nat} {content rest : List UInt8}

theorem inBuffer_of_at (h : c.At p content) : inBuffer c = true := by
  have hlength := h.length
  unfold inBuffer
  rw [h.cursor, hlength]
  exact decide_eq_true ⟨by omega, by omega⟩

/-- The bytes at the cursor go on behind those of the buffer. -/
theorem data_of_at (h : c.At p content) : ∃ stale, c.data = content ++ stale := by
  obtain ⟨stale, hmemory⟩ := h.memory
  refine ⟨stale, ?_⟩
  rw [DynamicBufferCursor.data, h.cursor, Int.toNat_natCast]
  exact hmemory

/-- Where a header is ahead, the memory has not come to its end. -/
theorem headerInMemory_of_at (h : c.At p content) (hheader : packetHeaderSize ≤ content.length)
    (hcapacity : c.buffer.memory.length < 2 ^ 31) : headerInMemory c = true := by
  obtain ⟨stale, hmemory⟩ := h.memory
  have hlength := congrArg List.length hmemory
  rw [List.length_drop, List.length_append] at hlength
  have hsize : packetHeaderSize = 8 := rfl
  unfold headerInMemory
  rw [h.position]
  exact decide_eq_true (by omega)

/-- The parts of a packet that fits into a buffer. -/
theorem packetBytes_eq {packet : Packet}
    (h : packetLengthSize + packetHeaderSize + packet.body.length < 2 ^ 32) :
    packetBytes packet errorNone =
      toBytes packetLengthSize (packetSize packet - packetLengthSize) ++
        ((⟨packet.packetType, errorNone, packet.body.length⟩ : PacketHeader).bytes ++ packet.body) := by
  have hbody : packet.body.length % 2 ^ 32 = packet.body.length := Nat.mod_eq_of_lt (by omega)
  simp only [packetBytes, hbody, List.append_assoc]

/-- The header and the body that were stored, as `OnIntraServerData` is given them. -/
def delivered (packet : Packet) : PacketHeader × List UInt8 :=
  (⟨packet.packetType, errorNone, packet.body.length⟩, packet.body)

def LoopbackCall.given (call : LoopbackCall) : PacketHeader × List UInt8 := (call.header, call.body)

/-- A round at a packet hands it over and comes to the next one. -/
theorem processPacket_at {s : Processing} {packet : Packet} (htype : packet.packetType < 2 ^ 16)
    (hcapacity : s.cursor.buffer.memory.length < 2 ^ 31)
    (h : s.cursor.At p (packetBytes packet errorNone ++ rest)) :
    ∃ call : LoopbackCall, call.given = delivered packet ∧
      (processPacket s).calls = s.calls ++ [call] ∧
      (processPacket s).asserted = s.asserted ∧
      (processPacket s).cursor.buffer = s.cursor.buffer ∧
      (processPacket s).cursor.At (p + (packetBytes packet errorNone).length) rest := by
  have hbytes := length_packetBytes packet errorNone
  have hall := h.length
  have hbound := h.bound
  rw [List.length_append] at hall
  let header : PacketHeader := ⟨packet.packetType, errorNone, packet.body.length⟩
  let lengthBytes := toBytes packetLengthSize (packetSize packet - packetLengthSize)
  have hsplit : packetBytes packet errorNone ++ rest =
      lengthBytes ++ (header.bytes ++ (packet.body ++ rest)) := by
    rw [packetBytes_eq (by omega)]
    simp only [lengthBytes, header, List.append_assoc]
  rw [hsplit] at h
  -- the length field
  have hatHeader : (s.cursor.seek packetLengthSize).At (p + packetLengthSize)
      (header.bytes ++ (packet.body ++ rest)) := by
    have hseek := h.seek
    rwa [length_toBytes] at hseek
  -- the header
  obtain ⟨stale, hdata⟩ := data_of_at hatHeader
  have hheader : deserializePacketHeader (s.cursor.seek packetLengthSize).data = header := by
    rw [hdata, List.append_assoc]
    exact deserializePacketHeader_bytes htype (by simp [header, errorNone])
      (by simp only [header]; omega) _
  have hatBody : ((s.cursor.seek packetLengthSize).seek packetHeaderSize).At
      (p + packetLengthSize + packetHeaderSize) (packet.body ++ rest) := by
    have hseek := hatHeader.seek
    rwa [length_headerBytes] at hseek
  -- the body
  have hbehind := hatBody.seek
  refine ⟨⟨header, (s.cursor.seek packetLengthSize).seek packetHeaderSize⟩, ?_, ?_, ?_, rfl, ?_⟩
  · have hbody := hatBody.data_take (n := packet.body.length) (by simp)
    rw [List.take_left] at hbody
    exact Prod.ext rfl hbody
  · simp only [processPacket, hheader]
  · have hmemory := headerInMemory_of_at hatHeader (by simp) hcapacity
    simp only [processPacket, hheader, inBuffer_of_at hatHeader, hmemory, inBuffer_of_at hatBody,
      Bool.and_true]
    rw [inBuffer_of_at hbehind, Bool.and_true]
  · simp only [processPacket, hheader]
    rw [hbytes, ← Nat.add_assoc, ← Nat.add_assoc]
    exact hbehind

/-- The loop hands over all packets and stops behind the last one. -/
theorem processPackets_at {packets : List Packet} (htype : ∀ packet ∈ packets, packet.packetType < 2 ^ 16) :
    ∀ {fuel : Nat} {s : Processing} {p : Nat}, packets.length < fuel →
      s.cursor.buffer.memory.length < 2 ^ 31 →
      s.cursor.At p (packets.flatMap (packetBytes · errorNone)) →
        ∃ s', processPackets fuel s = some s' ∧
          (∃ calls : List LoopbackCall, calls.map LoopbackCall.given = packets.map delivered ∧
            s'.calls = s.calls ++ calls) ∧
          s'.asserted = s.asserted ∧ s'.cursor.buffer = s.cursor.buffer ∧
          s'.cursor.At s.cursor.buffer.length [] := by
  induction packets with
  | nil =>
      intro fuel s p hfuel _ hat
      obtain ⟨fuel, rfl⟩ := Nat.exists_eq_succ_of_ne_zero (Nat.ne_of_gt hfuel)
      have hremain : s.cursor.remainBytes = 0 := hat.remainBytes
      have hend : s.cursor.buffer.length = p := hat.length
      refine ⟨s, ?_, ⟨[], rfl, by simp⟩, rfl, rfl, hend ▸ hat⟩
      rw [processPackets, if_neg (by rw [hremain]; decide)]
  | cons packet packets ih =>
      intro fuel s p hfuel hcapacity hat
      obtain ⟨fuel, rfl⟩ := Nat.exists_eq_succ_of_ne_zero (Nat.ne_of_gt (Nat.zero_lt_of_lt hfuel))
      rw [List.flatMap_cons] at hat
      have hmore : s.cursor.remainBytes ≥ packetHeaderSize := by
        rw [hat.remainBytes, List.length_append, length_packetBytes]
        omega
      obtain ⟨call, hcall, hcalls, hasserted, hbuffer, hnext⟩ :=
        processPacket_at (htype packet List.mem_cons_self) hcapacity hat
      obtain ⟨s', hs', ⟨calls, hgiven, hall⟩, hasserted', hbuffer', hend⟩ :=
        ih (fun packet' hmem => htype packet' (List.mem_cons_of_mem _ hmem))
          (Nat.lt_of_succ_lt_succ hfuel) (by rw [hbuffer]; exact hcapacity) hnext
      refine ⟨s', ?_, ⟨call :: calls, ?_, ?_⟩, hasserted'.trans hasserted, hbuffer'.trans hbuffer, ?_⟩
      · rw [processPackets, if_pos hmore]
        exact hs'
      · rw [List.map_cons, List.map_cons, hcall, hgiven]
      · rw [hall, hcalls, List.append_assoc, List.singleton_append]
      · rw [hbuffer] at hend
        exact hend

end Processing

/-- Everything that was stored in a buffer is handed over, and the cursor ends at its length. -/
theorem processLoopbackData_stored {memory : List UInt8} {packets : List Packet}
    {stored : NetworkEngine.SocketBuffer} (htype : ∀ packet ∈ packets, packet.packetType < 2 ^ 16)
    (hcapacity : memory.length < 2 ^ 31) (hstored : storePackets memory packets = some stored)
    {fuel : Nat} (hfuel : packets.length < fuel) :
    ∃ s, processLoopbackData fuel stored = some s ∧
      s.calls.map LoopbackCall.given = packets.map delivered ∧ s.asserted = true ∧
      s.cursor = ⟨stored, stored.length⟩ := by
  obtain ⟨hat, hmemory⟩ := storePackets_at hstored hcapacity
  obtain ⟨s, hs, ⟨calls, hgiven, hcalls⟩, hasserted, hbuffer, hend⟩ :=
    processPackets_at htype (s := { cursor := .ofBuffer stored }) hfuel (hmemory ▸ hcapacity) hat
  refine ⟨{ s with asserted := s.asserted && s.cursor.remainBytes = 0 }, ?_, ?_, ?_, ?_⟩
  · rw [processLoopbackData, hs]
    rfl
  · rw [← hgiven]
    exact congrArg _ (hcalls.trans (List.nil_append calls))
  · have hremain : s.cursor.remainBytes = 0 := hend.remainBytes
    simp [hasserted, hremain]
  · have hcursor : s.cursor.cursor = stored.length := hend.cursor
    rw [← hcursor]
    exact congrArg (DynamicBufferCursor.mk · s.cursor.cursor) hbuffer

/-! ## struct_pack -/

/-- What `struct_pack` does with the packets of the program: their `PACKET_TYPE`s, `serialize_to` on
`get_needed_size` bytes, and `deserialize_to` a packet of a given type. -/
structure StructPack (τ : Type) where
  packetType : τ → Nat
  packetType_lt : ∀ packet, packetType packet < 2 ^ 16
  serialize : τ → List UInt8
  deserialize : Nat → List UInt8 → Option τ

namespace StructPack

variable {τ : Type} (pack : StructPack τ)

/-- `deserialize_to` inverts `serialize_to`. -/
def Inverts : Prop :=
  ∀ packet, pack.deserialize (pack.packetType packet) (pack.serialize packet) = some packet

def encode (packet : τ) : Packet := ⟨pack.packetType packet, pack.serialize packet⟩

/-- `PACKET_CASE`. -/
def decode (call : LoopbackCall) : Option τ := pack.deserialize call.header.packetType call.body

end StructPack

/-- The packets stored in a buffer are handed over once each and in order, all assertions hold, the
cursor ends at the length, and what the handlers decode is what was posted. -/
theorem loopback_decodes {τ : Type} {pack : StructPack τ} (hinverts : pack.Inverts)
    {memory : List UInt8} (hcapacity : memory.length < 2 ^ 31) {packets : List τ}
    {stored : NetworkEngine.SocketBuffer}
    (hstored : storePackets memory (packets.map pack.encode) = some stored) {fuel : Nat}
    (hfuel : packets.length < fuel) :
    ∃ s, processLoopbackData fuel stored = some s ∧
      s.calls.map (fun call => (call.header, call.body)) =
        packets.map (fun packet => (⟨pack.packetType packet, errorNone, (pack.serialize packet).length⟩,
          pack.serialize packet)) ∧
      s.asserted = true ∧ s.cursor.cursor = stored.length ∧
      s.calls.map pack.decode = packets.map some := by
  have htype : ∀ packet ∈ packets.map pack.encode, packet.packetType < 2 ^ 16 := by
    intro packet hmem
    obtain ⟨packet, -, rfl⟩ := List.mem_map.1 hmem
    exact pack.packetType_lt packet
  obtain ⟨s, hs, hcalls, hasserted, hcursor⟩ :=
    processLoopbackData_stored htype hcapacity hstored (by simpa using hfuel)
  rw [List.map_map] at hcalls
  refine ⟨s, hs, hcalls, hasserted, by rw [hcursor], ?_⟩
  -- each call gets the bytes of one packet, and struct_pack inverts itself on them
  calc
    s.calls.map pack.decode
        = (s.calls.map LoopbackCall.given).map fun given => pack.deserialize given.1.packetType given.2 := by
          rw [List.map_map]
          rfl
    _ = packets.map fun packet => pack.deserialize (pack.packetType packet) (pack.serialize packet) := by
          rw [hcalls, List.map_map]
          rfl
    _ = packets.map some := List.map_congr_left fun packet _ => hinverts packet

/-! ### Two heartbeats -/

/-- `packet_heartbeat_rq`: behind a type code of four bytes stands the ping. -/
def heartbeats : StructPack UInt16 where
  packetType := fun _ => packetHeartbeatRq
  packetType_lt := fun _ => by decide
  serialize := fun ping => [1, 2, 3, 4] ++ toBytes 2 ping.toNat
  deserialize := fun packetType bytes =>
    if packetType = packetHeartbeatRq ∧ bytes.take 4 = [1, 2, 3, 4] then
      some (UInt16.ofNat (ofBytes (bytes.drop 4)))
    else
      none

theorem heartbeats_inverts : heartbeats.Inverts := by
  intro ping
  simp [heartbeats, ofBytes_toBytes]

/-- Heartbeats with the pings 7 and 300, in a buffer of the loopback session. -/
theorem loopback_decodes_heartbeats : ∃ stored,
    storePackets (List.replicate readBufferCapacity 0) ([7, 300].map heartbeats.encode) = some stored ∧
    ∃ s, processLoopbackData 3 stored = some s ∧
      s.calls.map (fun call => (call.header, call.body)) =
        [7, 300].map (fun packet => (⟨heartbeats.packetType packet, errorNone,
          (heartbeats.serialize packet).length⟩, heartbeats.serialize packet)) ∧
      s.asserted = true ∧ s.cursor.cursor = stored.length ∧
      s.calls.map heartbeats.decode = [7, 300].map some := by
  have hcapacity : (List.replicate readBufferCapacity (0 : UInt8)).length < 2 ^ 31 := by
    rw [List.length_replicate]
    decide
  have hfits : (([7, 300].map heartbeats.encode).flatMap (packetBytes · errorNone)).length ≤
      (List.replicate readBufferCapacity (0 : UInt8)).length := by
    rw [List.length_replicate]
    decide
  obtain ⟨stored, hstored⟩ := storePackets_of_fits hcapacity hfits
  exact ⟨stored, hstored, loopback_decodes heartbeats_inverts hcapacity hstored (by decide)⟩

/-! ## Without the memory -/

section Contents

variable {σ : Type} (session : σ)

/-- The same packets, appended to a buffer of the throttler's model. -/
def appendPackets (capacity : Nat) (packets : List Packet) : Option (Engine.SocketBuffer σ) :=
  packets.foldlM (fun buffer packet => buffer.append session packet) ⟨capacity, 0, []⟩

theorem appendPackets_of_stored {memory : List UInt8} {packets : List Packet}
    {stored : NetworkEngine.SocketBuffer} (hcapacity : memory.length < 2 ^ 31)
    (hstored : storePackets memory packets = some stored) :
    ∃ buffer, appendPackets session memory.length packets = some buffer ∧
      buffer.capacity = memory.length ∧ buffer.length = stored.length ∧
      buffer.contents = packets.map (⟨session, ·⟩) := by
  induction packets using List.reverseRecOn generalizing stored with
  | nil =>
      cases hstored
      exact ⟨_, rfl, rfl, rfl, rfl⟩
  | append_singleton packets packet ih =>
      unfold storePackets at hstored
      rw [List.foldlM_append] at hstored
      obtain ⟨before, hbefore, hlast⟩ := Option.bind_eq_some_iff.1 hstored
      obtain ⟨buffer, hbuffer, hcapacity', hlength, hcontents⟩ := ih hbefore
      have hmemory := (storePackets_at hbefore hcapacity).2
      have hpacket : storePacket before packet = some stored := by simpa using hlast
      obtain ⟨hsize, -, rfl⟩ := storePacket_of_some hpacket
      refine ⟨{ buffer with
        length := buffer.length + packetSize packet
        contents := buffer.contents ++ [⟨session, packet⟩] }, ?_, hcapacity', by simp [hlength], ?_⟩
      · unfold appendPackets at hbuffer ⊢
        rw [List.foldlM_append, hbuffer]
        have happend : serializePacket packet 0 (buffer.capacity - buffer.length) =
            some (packetBytes packet 0) := by
          unfold serializePacket
          rw [hcapacity', hlength, ← hmemory, if_neg (Nat.not_lt.2 hsize)]
        simp [Engine.SocketBuffer.append, happend]
      · rw [hcontents, List.map_append]
        rfl

/-- `Engine.Loopback` hands over the same headers and bodies. -/
theorem processLoopbackData_represents {memory : List UInt8} {packets : List Packet}
    {stored : NetworkEngine.SocketBuffer} (htype : ∀ packet ∈ packets, packet.packetType < 2 ^ 16)
    (hcapacity : memory.length < 2 ^ 31) (hstored : storePackets memory packets = some stored)
    {fuel : Nat} (hfuel : packets.length < fuel) :
    ∃ s buffer, processLoopbackData fuel stored = some s ∧
      appendPackets session memory.length packets = some buffer ∧
      s.calls.map LoopbackCall.given = Engine.processLoopbackData buffer := by
  obtain ⟨s, hs, hgiven, -, -⟩ := processLoopbackData_stored htype hcapacity hstored hfuel
  obtain ⟨buffer, hbuffer, -, -, hcontents⟩ := appendPackets_of_stored session hcapacity hstored
  have hat := (storePackets_at hstored hcapacity).1
  refine ⟨s, buffer, hs, hbuffer, ?_⟩
  rw [processLoopbackData_contents buffer, hgiven, hcontents, List.map_map]
  · rfl
  · intro posted hposted
    rw [hcontents] at hposted
    obtain ⟨packet, hmem, rfl⟩ := List.mem_map.1 hposted
    refine ⟨htype packet hmem, ?_⟩
    have hlength := hat.length
    have hbound := hat.bound
    have hpart : (packetBytes packet errorNone).Sublist (packets.flatMap (packetBytes · errorNone)) :=
      List.sublist_flatten_of_mem (List.mem_map_of_mem hmem)
    have hle := hpart.length_le
    rw [length_packetBytes] at hle
    change packet.body.length < 2 ^ 32
    omega

end Contents

end Loopback
end Engine
end SeamlessServer
