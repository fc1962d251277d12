import Mathlib.Data.List.Basic
import Mathlib.Data.Nat.Notation
import Mathlib.Tactic.Ring

/-!
# Protocol.Wire — packets as bytes

`engine/protocol/Protocol.h` and the header types of `Packet.h`.  A frame on the wire is

* `PACKET_LENGTH_SIZE` bytes: the length of what follows,
* `PACKET_HEADER_SIZE` bytes: packet type, error code, body size,
* the body, as `struct_pack` encodes it.

The integers are copied from memory, least significant byte first.  The encoding of a body by
`struct_pack` is taken as given: a packet is its type together with its encoded body.
-/

namespace SeamlessServer
namespace Protocol

/-! ## Integers -/

/-- The `width` low bytes of a number, least significant first. -/
def toBytes : Nat → Nat → List UInt8
  | 0, _ => []
  | width + 1, n => UInt8.ofNat n :: toBytes width (n / 256)

/-- The number a byte sequence spells, least significant first. -/
def ofBytes : List UInt8 → Nat
  | [] => 0
  | b :: bs => b.toNat + 256 * ofBytes bs

@[simp] theorem length_toBytes (width n : Nat) : (toBytes width n).length = width := by
  induction width generalizing n with
  | zero =>
      rfl
  | succ width ih =>
      simp [toBytes, ih]

theorem ofBytes_toBytes (width n : Nat) : ofBytes (toBytes width n) = n % 256 ^ width := by
  induction width generalizing n with
  | zero =>
      simp [toBytes, ofBytes, Nat.mod_one]
  | succ width ih =>
      have hbyte : (UInt8.ofNat n).toNat = n % 256 := by simp
      calc
        ofBytes (toBytes (width + 1) n)
            = n % 256 + 256 * (n / 256 % 256 ^ width) := by
              simp [toBytes, ofBytes, ih, hbyte]
        _ = n % (256 * 256 ^ width) := (Nat.mod_mul).symm
        _ = n % 256 ^ (width + 1) := by
              congr 1
              ring

/-! ## Packets -/

/-- `sizeof(PacketLengthType)`. -/
def packetLengthSize : Nat := 4

/-- `sizeof(PacketHeader)`. -/
def packetHeaderSize : Nat := 8

/-- `PacketHeader`; the two enumerations are the raw values found on the wire. -/
structure PacketHeader where
  packetType : Nat
  errorCode : Nat
  bodySize : Nat
  deriving DecidableEq, Repr

/-- A packet: its `PACKET_TYPE` and its body as `struct_pack` encodes it. -/
structure Packet where
  packetType : Nat
  body : List UInt8
  deriving DecidableEq, Repr

def PacketHeader.bytes (h : PacketHeader) : List UInt8 :=
  toBytes 2 h.packetType ++ toBytes 2 h.errorCode ++ toBytes 4 h.bodySize

/-- The `packet_size` that `SerializePacket` computes, in `uint32_t` arithmetic. -/
def packetSize (packet : Packet) : Nat :=
  (packetLengthSize + packetHeaderSize + packet.body.length % 2 ^ 32) % 2 ^ 32

/-- The bytes `SerializePacket` writes. -/
def packetBytes (packet : Packet) (errorCode : Nat) : List UInt8 :=
  let header : PacketHeader := ⟨packet.packetType, errorCode, packet.body.length % 2 ^ 32⟩
  toBytes packetLengthSize (packetSize packet - packetLengthSize) ++ header.bytes ++ packet.body

/-- `SerializePacket`: refuses a packet larger than the space it is given. -/
def serializePacket (packet : Packet) (errorCode bufferSize : Nat) : Option (List UInt8) :=
  if packetSize packet > bufferSize then
    none
  else
    some (packetBytes packet errorCode)

@[simp] theorem length_headerBytes (h : PacketHeader) : h.bytes.length = packetHeaderSize := by
  simp [PacketHeader.bytes, packetHeaderSize]

theorem length_packetBytes (packet : Packet) (errorCode : Nat) :
    (packetBytes packet errorCode).length =
      packetLengthSize + packetHeaderSize + packet.body.length := by
  simp [packetBytes, Nat.add_assoc]

/-- Below the range of `uint32_t` the computed size is the real one. -/
theorem packetSize_eq {packet : Packet}
    (h : packetLengthSize + packetHeaderSize + packet.body.length < 2 ^ 32) :
    packetSize packet = packetLengthSize + packetHeaderSize + packet.body.length := by
  have hbody : packet.body.length % 2 ^ 32 = packet.body.length := by
    apply Nat.mod_eq_of_lt
    omega
  rw [packetSize, hbody]
  exact Nat.mod_eq_of_lt h

/-! ## Decoding -/

/-- `DeserializePacketHeader`: the first bytes, as a header. -/
def deserializePacketHeader (bytes : List UInt8) : PacketHeader where
  packetType := ofBytes (bytes.take 2)
  errorCode := ofBytes ((bytes.drop 2).take 2)
  bodySize := ofBytes ((bytes.drop 4).take 4)

/-- A number that stands behind some bytes is read back. -/
theorem ofBytes_field (before rest : List UInt8) (width : Nat) {n : Nat} (h : n < 256 ^ width) :
    ofBytes (((before ++ (toBytes width n ++ rest)).drop before.length).take width) = n := by
  have hlength : width = (toBytes width n).length := by simp
  rw [List.drop_left]
  conv_lhs =>
    arg 1
    arg 1
    rw [hlength]
  rw [List.take_left, ofBytes_toBytes, Nat.mod_eq_of_lt h]

theorem deserializePacketHeader_bytes {h : PacketHeader} (htype : h.packetType < 2 ^ 16)
    (herror : h.errorCode < 2 ^ 16) (hbody : h.bodySize < 2 ^ 32) (rest : List UInt8) :
    deserializePacketHeader (h.bytes ++ rest) = h := by
  have htype' := ofBytes_field [] (toBytes 2 h.errorCode ++ (toBytes 4 h.bodySize ++ rest)) 2 htype
  have herror' := ofBytes_field (toBytes 2 h.packetType) (toBytes 4 h.bodySize ++ rest) 2 herror
  have hbody' := ofBytes_field (toBytes 2 h.packetType ++ toBytes 2 h.errorCode) rest 4 hbody
  cases h
  simp only [deserializePacketHeader, PacketHeader.bytes, PacketHeader.mk.injEq,
    List.append_assoc] at *
  refine ⟨?_, ?_, ?_⟩
  · simpa using htype'
  · simpa using herror'
  · simpa using hbody'

/-! ## One way to read -/

/-- A packet as it stands on the wire: the type and the size fit their fields. -/
structure Packet.Fits (packet : Packet) : Prop where
  type_lt : packet.packetType < 2 ^ 16
  size_lt : packetLengthSize + packetHeaderSize + packet.body.length < 2 ^ 32

/-- The bytes of a stream tell where the first packet ends, and which it is. -/
theorem packetBytes_append_inj {p q : Packet} {errorCode : Nat} {rest rest' : List UInt8}
    (herror : errorCode < 2 ^ 16) (hp : p.Fits) (hq : q.Fits)
    (h : packetBytes p errorCode ++ rest = packetBytes q errorCode ++ rest') :
    p = q ∧ rest = rest' := by
  have hlt : ∀ {packet : Packet}, packet.Fits →
      packetSize packet - packetLengthSize < 256 ^ packetLengthSize := by
    intro packet hpacket
    have hsize := hpacket.size_lt
    rw [packetSize_eq hsize]
    simp only [packetLengthSize, packetHeaderSize] at hsize ⊢
    omega
  have hfield : ∀ {packet : Packet} (more : List UInt8), packet.Fits →
      ofBytes ((packetBytes packet errorCode ++ more).take packetLengthSize) =
        packetSize packet - packetLengthSize := by
    intro packet more hpacket
    have hread := ofBytes_field [] (PacketHeader.bytes
      ⟨packet.packetType, errorCode, packet.body.length % 2 ^ 32⟩ ++ packet.body ++ more)
      packetLengthSize (hlt hpacket)
    simpa [packetBytes] using hread
  have hsize : p.body.length = q.body.length := by
    have hlength := hfield rest hp
    rw [h, hfield rest' hq, packetSize_eq hp.size_lt, packetSize_eq hq.size_lt] at hlength
    omega
  obtain ⟨hbytes, hrest⟩ := List.append_inj h (by rw [length_packetBytes, length_packetBytes, hsize])
  refine ⟨?_, hrest⟩
  -- the parts of equal length are equal
  obtain ⟨hfront, hbody⟩ := List.append_inj' hbytes hsize
  obtain ⟨_, hheader⟩ := List.append_inj hfront (by simp)
  have hdecode : ∀ {packet : Packet}, packet.Fits →
      deserializePacketHeader (PacketHeader.bytes
        ⟨packet.packetType, errorCode, packet.body.length % 2 ^ 32⟩) =
          ⟨packet.packetType, errorCode, packet.body.length % 2 ^ 32⟩ := by
    intro packet hpacket
    have hread := deserializePacketHeader_bytes
      (h := ⟨packet.packetType, errorCode, packet.body.length % 2 ^ 32⟩) hpacket.type_lt herror
      (Nat.mod_lt _ (by norm_num)) []
    rwa [List.append_nil] at hread
  have htype : p.packetType = q.packetType := by
    have hheaders := hdecode hp
    rw [hheader, hdecode hq] at hheaders
    exact (congrArg PacketHeader.packetType hheaders).symm
  cases p
  cases q
  simp only [Packet.mk.injEq]
  exact ⟨htype, hbody⟩

/-- A stream of packets can be read in one way only. -/
theorem flatMap_packetBytes_inj {errorCode : Nat} (herror : errorCode < 2 ^ 16) :
    ∀ {packets packets' : List Packet}, (∀ p ∈ packets, p.Fits) → (∀ p ∈ packets', p.Fits) →
      (packets.flatMap fun p => packetBytes p errorCode) =
        (packets'.flatMap fun p => packetBytes p errorCode) → packets = packets' := by
  have hne : ∀ (p : Packet) (rest : List UInt8), packetBytes p errorCode ++ rest ≠ [] := by
    intro p rest h
    have hlength := congrArg List.length h
    rw [List.length_append, length_packetBytes, List.length_nil] at hlength
    simp only [packetLengthSize] at hlength
    omega
  intro packets
  induction packets with
  | nil =>
      intro packets' _ _ h
      cases packets' with
      | nil =>
          rfl
      | cons q packets' =>
          exact absurd h.symm (hne _ _)
  | cons p packets ih =>
      intro packets' hp hq h
      cases packets' with
      | nil =>
          exact absurd h (hne _ _)
      | cons q packets' =>
          obtain ⟨rfl, hrest⟩ := packetBytes_append_inj herror (hp p List.mem_cons_self)
            (hq q List.mem_cons_self) h
          rw [ih (fun r hr => hp r (List.mem_cons_of_mem _ hr))
            (fun r hr => hq r (List.mem_cons_of_mem _ hr)) hrest]

end Protocol
end SeamlessServer
