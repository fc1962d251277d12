import SeamlessServer.Data.Framing
import SeamlessServer.Engine.OnRead
import Mathlib.Data.List.Induction

/-!
# Engine.Framing — reads of any size give the same contexts

A stream opens with a `packet_session_create_rq`, followed by data and heartbeat packets, and arrives
in reads of any size.
-/

namespace SeamlessServer
namespace Engine
namespace NetworkEngine

open Protocol

/-! ## Frames -/

/-- A packet as `SerializePacket` writes it.  `struct_pack` begins every body with a type code, so no
body is empty. -/
structure Frame where
  packet : Packet
  errorCode : Nat
  type_lt : packet.packetType < 2 ^ 16
  error_lt : errorCode < 2 ^ 16
  body_ne : packet.body ≠ []

namespace Frame

variable (f : Frame)

def bytes : List UInt8 := packetBytes f.packet f.errorCode

/-- The header `SerializePacket` writes. -/
def header : PacketHeader := ⟨f.packet.packetType, f.errorCode, f.packet.body.length % 2 ^ 32⟩

def isHeartbeat : Bool :=
  f.packet.packetType = packetHeartbeatRq ∨ f.packet.packetType = packetHeartbeatRs

/-- A packet that is handed to the worker once there is a session. -/
def isData : Bool :=
  ¬ (f.isHeartbeat ∨ f.packet.packetType = packetSessionCreateRq ∨
    f.packet.packetType = packetSessionCreateRs ∨ f.packet.packetType = packetSessionCloseRq)

theorem length_bytes :
    f.bytes.length = packetLengthSize + packetHeaderSize + f.packet.body.length :=
  length_packetBytes f.packet f.errorCode

variable {f}

/-- The parts of a frame that is not too long. -/
theorem bytes_eq (h : f.bytes.length < 2 ^ 31) :
    f.bytes = toBytes packetLengthSize (packetHeaderSize + f.packet.body.length) ++
      (f.header.bytes ++ f.packet.body) := by
  have hlength := f.length_bytes
  have hsize : packetSize f.packet - packetLengthSize =
      packetHeaderSize + f.packet.body.length := by
    rw [packetSize_eq (by omega)]
    omega
  simp only [bytes, packetBytes, header, hsize, List.append_assoc]

theorem bodySize_eq (h : f.bytes.length < 2 ^ 31) : f.header.bodySize = f.packet.body.length := by
  have hlength := f.length_bytes
  exact Nat.mod_eq_of_lt (by omega)

/-- The length field of a frame of which at least that much is there. -/
theorem lengthField {n : Nat} (h : f.bytes.length < 2 ^ 31) (hn : packetLengthSize ≤ n)
    (rest : List UInt8) :
    ofBytes (((f.bytes ++ rest).take n).take packetLengthSize) =
      packetHeaderSize + f.packet.body.length := by
  have hlength := f.length_bytes
  rw [List.take_take, Nat.min_eq_left hn, bytes_eq h, List.append_assoc]
  have hfield := ofBytes_field [] (f.header.bytes ++ f.packet.body ++ rest) packetLengthSize
    (n := packetHeaderSize + f.packet.body.length) (by simp only [packetLengthSize] at *; omega)
  simpa using hfield

theorem deserialize_header (rest : List UInt8) :
    deserializePacketHeader (((f.header.bytes ++ (f.packet.body ++ rest)).take packetHeaderSize)) =
      f.header := by
  have hbody : f.header.bodySize < 2 ^ 32 := Nat.mod_lt _ (by norm_num)
  have htake : (f.header.bytes ++ (f.packet.body ++ rest)).take packetHeaderSize =
      f.header.bytes ++ [] := by
    rw [List.take_append_of_le_length (by simp), List.append_nil, List.take_of_length_le (by simp)]
  rw [htake, deserializePacketHeader_bytes f.type_lt f.error_lt hbody]

end Frame

/-! ## Cursors -/

/-- The cursor stands at a position, and the given bytes follow it up to the length of the buffer. -/
structure DynamicBufferCursor.At (c : DynamicBufferCursor) (p : Nat) (content : List UInt8) : Prop where
  cursor : c.cursor = p
  length : c.buffer.length = p + content.length
  memory : ∃ stale, c.buffer.memory.drop p = content ++ stale
  bound : c.buffer.length < 2 ^ 31

namespace DynamicBufferCursor

variable {c : DynamicBufferCursor} {p : Nat} {content rest : List UInt8}

theorem toInt32_of_lt {n : Nat} (h : n < 2 ^ 31) : toInt32 n = n := by
  unfold toInt32
  omega

theorem At.remainBytes (h : c.At p content) : c.remainBytes = content.length := by
  have hlength := h.length
  have hbound := h.bound
  unfold DynamicBufferCursor.remainBytes
  rw [h.cursor]
  omega

theorem At.position (h : c.At p content) : c.position = p := by
  have hlength := h.length
  have hbound := h.bound
  unfold DynamicBufferCursor.position
  rw [h.cursor]
  omega

theorem At.data_take (h : c.At p content) {n : Nat} (hn : n ≤ content.length) :
    c.data.take n = content.take n := by
  rcases h.memory with ⟨stale, hmemory⟩
  rw [data, h.cursor, Int.toNat_natCast, hmemory, List.take_append_of_le_length hn]

theorem At.seek (h : c.At p (content ++ rest)) : (c.seek content.length).At (p + content.length) rest := by
  have hlength := h.length
  have hbound := h.bound
  rw [List.length_append] at hlength
  refine ⟨?_, by simp only [DynamicBufferCursor.seek]; omega, ?_, hbound⟩
  · have hmove : toInt32 content.length = content.length := toInt32_of_lt (by omega)
    have hsum : toInt32 ((p + content.length : Nat) : Int) = (p + content.length : Nat) :=
      toInt32_of_lt (by omega)
    rw [DynamicBufferCursor.seek, h.cursor, hmove]
    exact_mod_cast hsum
  · rcases h.memory with ⟨stale, hmemory⟩
    refine ⟨stale, ?_⟩
    have hdrop := congrArg (List.drop content.length) hmemory
    simpa [DynamicBufferCursor.seek, List.drop_drop] using hdrop

theorem At.retain (h : c.At p content) : c.retain.At p content :=
  ⟨h.cursor, h.length, h.memory, h.bound⟩

/-- A new buffer that was filled with the given bytes. -/
theorem at_newBuffer (memory : List UInt8) (ref : Nat) (h : content.length < 2 ^ 31) :
    (ofBuffer ⟨writeMemory memory 0 content, content.length, ref⟩).At 0 content := by
  refine ⟨rfl, by simp [ofBuffer], ?_, h⟩
  exact ⟨memory.drop content.length, by simp [ofBuffer, writeMemory]⟩

end DynamicBufferCursor

/-! ## Rounds -/

/-- The number of contexts a reserved area has room for. -/
def contextsPerBuffer : Nat := reservedSize / socketContextSize

/-- What a read has done so far: the chains submitted, the chain at hand, and the position of the
cursor. -/
structure Progress where
  chains : List (List SocketContext)
  chain : List SocketContext
  position : Nat

/-- A frame without a context is passed over; a context that finds the chain full begins a new buffer
with its body. -/
def Progress.next (a : Progress) (f : Frame) : Option SocketContext → Progress
  | none => { a with position := a.position + f.bytes.length }
  | some context =>
      if a.chain.length = contextsPerBuffer then
        ⟨a.chains ++ [a.chain], [context], f.packet.body.length⟩
      else
        ⟨a.chains, a.chain ++ [context], a.position + f.bytes.length⟩

/-- The state of a read that has made this progress, with the given bytes ahead. -/
structure Reads (s : ReadState) (a : Progress) (content : List UInt8) : Prop where
  cursor : s.buffer.At a.position content
  chain : s.chain = a.chain
  sequence : s.contextSequence = a.chain.length
  full : a.chain.length ≤ contextsPerBuffer
  chains : submittedChains s.operations = a.chains
  posted : ∀ buffer, .transmitRead buffer ∉ s.operations

section Rounds

variable (env : Surroundings) (attachment : Nat)

/-- The context of a frame. -/
def contextOf (f : Frame) : Option SocketContext :=
  if f.isHeartbeat then
    none
  else if f.packet.packetType = packetSessionCreateRq then
    some ⟨.SessionAccepted, f.header, f.packet.body, env.connectorAttachment⟩
  else
    some ⟨.SessionData, f.header, f.packet.body, attachment⟩

/-- Read buffers and sessions are available, and the worker takes what is submitted. -/
structure Surroundings.Generous : Prop where
  allocate : ∀ n, ∃ memory, env.allocate n = some memory
  submit : ∀ n, env.submit n = true
  pop : ∀ n, env.pop n = true

variable {env attachment}

theorem prepareSocketContext_of_room {c : DynamicBufferCursor} {p : Nat} {f : Frame}
    {rest : List UInt8} (hc : c.At p (f.packet.body ++ rest)) (hf : f.bytes.length < 2 ^ 31)
    (contextType : ContextType) (attachment sequence : Nat)
    (hroom : sequence < contextsPerBuffer) :
    prepareSocketContext c contextType f.header attachment sequence =
      some (⟨contextType, f.header, f.packet.body, attachment⟩, c.retain) := by
  have hnot : ¬ socketContextSize * (sequence + 1) > reservedSize := by
    simp only [contextsPerBuffer, socketContextSize, reservedSize] at *
    omega
  rw [prepareSocketContext, if_neg hnot, Frame.bodySize_eq hf,
    hc.data_take (by simp), List.take_left]

theorem prepareSocketContext_of_full (c : DynamicBufferCursor) (header : PacketHeader)
    (contextType : ContextType) (attachment : Nat) :
    prepareSocketContext c contextType header attachment contextsPerBuffer = none := by
  rw [prepareSocketContext, if_pos]
  decide

theorem Reads.bytes_lt {s : ReadState} {a : Progress} {f : Frame} {rest : List UInt8}
    (h : Reads s a (f.bytes ++ rest)) : f.bytes.length < 2 ^ 31 := by
  have hlength := h.cursor.length
  have hbound := h.cursor.bound
  rw [List.length_append] at hlength
  omega

/-- The state behind the header of a frame. -/
def afterHeader (s : ReadState) : ReadState := (s.seek packetLengthSize).seek packetHeaderSize

/-- The header and the body of a frame. -/
theorem Reads.afterHeader {s : ReadState} {a : Progress} {f : Frame} {rest : List UInt8}
    (h : Reads s a (f.bytes ++ rest)) :
    deserializePacketHeader ((s.seek packetLengthSize).buffer.data.take packetHeaderSize) =
        f.header ∧
      (afterHeader s).buffer.At (a.position + (packetLengthSize + packetHeaderSize))
        (f.packet.body ++ rest) := by
  have hcursor := h.cursor
  rw [Frame.bytes_eq h.bytes_lt, List.append_assoc, List.append_assoc] at hcursor
  have hlength := hcursor.seek
  rw [length_toBytes] at hlength
  have hheader := hlength.seek
  rw [length_headerBytes, Nat.add_assoc] at hheader
  refine ⟨?_, hheader⟩
  have htake := hlength.data_take (n := packetHeaderSize) (by simp)
  rw [ReadState.seek, htake, Frame.deserialize_header]

variable (env attachment) in
/-- The round of a frame goes on with its header and its body. -/
theorem readRound_frame {s : ReadState} {a : Progress} {f : Frame} {rest : List UInt8}
    (h : Reads s a (f.bytes ++ rest)) :
    readRound env attachment s =
      if ¬ s.session then readSessionPacket env (afterHeader s) f.header
      else if f.packet.packetType = packetHeartbeatRq then
        .again (((afterHeader s).operate [.updateHeartbeatReceivingTime,
          .send packetHeartbeatRs]).seek f.header.bodySize)
      else if f.packet.packetType = packetHeartbeatRs then
        .again (((afterHeader s).operate [.updateHeartbeatReceivingTime]).seek f.header.bodySize)
      else if f.packet.packetType = packetSessionCreateRq ∨
          f.packet.packetType = packetSessionCreateRs ∨
          f.packet.packetType = packetSessionCloseRq then
        .exit ((afterHeader s).operate
          [.closeSession, .releaseReadBuffer (afterHeader s).buffer.buffer])
      else
        readDataPacket env attachment (afterHeader s) f.header := by
  have hlt := h.bytes_lt
  have hlength := f.length_bytes
  have hcursor := h.cursor
  have hremain := hcursor.remainBytes
  rw [List.length_append, hlength] at hremain
  rcases h.afterHeader with ⟨hheader, hat⟩
  -- the length field counts the header and the body
  have hfield : ofBytes (s.buffer.data.take packetLengthSize) =
      packetHeaderSize + f.packet.body.length := by
    have htake := Frame.lengthField hlt le_rfl rest
    rw [List.take_take, Nat.min_self] at htake
    rw [hcursor.data_take (by rw [List.length_append, hlength]; simp only [packetLengthSize]; omega),
      htake]
  have hmore : s.buffer.remainBytes > packetLengthSize := by
    rw [hremain]
    simp only [packetHeaderSize]
    omega
  have hwhole : ¬ s.buffer.remainBytes - packetLengthSize < packetHeaderSize + f.packet.body.length := by
    rw [hremain]
    omega
  have hbody : ¬ (afterHeader s).buffer.remainBytes < f.header.bodySize := by
    rw [hat.remainBytes, Frame.bodySize_eq hlt, List.length_append]
    omega
  -- the round goes past both tests for a packet that has not fully arrived
  rw [readRound, if_pos hmore, hfield]
  simp only [hwhole, if_false, hheader]
  exact if_neg hbody

/-- Operations that neither submit nor post. -/
def Silent (operations : List Operation) : Prop :=
  submittedChains operations = [] ∧ ∀ buffer, .transmitRead buffer ∉ operations

theorem submittedChains_append (l l' : List Operation) :
    submittedChains (l ++ l') = submittedChains l ++ submittedChains l' := by
  simp [submittedChains]

section Round

variable {s : ReadState} {a : Progress} {f : Frame} {rest : List UInt8}

/-- The cursor behind the body of a frame. -/
theorem at_behind (h : Reads s a (f.bytes ++ rest)) :
    ((afterHeader s).buffer.seek f.header.bodySize).At (a.position + f.bytes.length) rest := by
  have hseek := h.afterHeader.2.seek
  rw [Frame.bodySize_eq h.bytes_lt, f.length_bytes, ← Nat.add_assoc a.position]
  exact hseek

variable (env attachment) in
theorem readRound_heartbeat (h : Reads s a (f.bytes ++ rest)) (hsession : s.session = true)
    (hf : f.isHeartbeat = true) :
    ∃ s', readRound env attachment s = .again s' ∧ Reads s' (a.next f none) rest ∧
      s'.session = true := by
  have hround := readRound_frame env attachment h
  have hbehind := at_behind h
  simp only [hsession, not_true, if_false] at hround
  have hnext : ∀ operations, Silent operations →
      Reads (((afterHeader s).operate operations).seek f.header.bodySize) (a.next f none) rest := by
    rintro operations ⟨hchains, hposted⟩
    refine ⟨hbehind, h.chain, h.sequence, h.full, ?_, ?_⟩
    · change submittedChains (s.operations ++ operations) = a.chains
      rw [submittedChains_append, hchains, List.append_nil, h.chains]
    · intro buffer hmem
      rcases List.mem_append.1 hmem with hmem | hmem
      · exact h.posted buffer hmem
      · exact hposted buffer hmem
  have htype : f.packet.packetType = packetHeartbeatRq ∨
      f.packet.packetType = packetHeartbeatRs := by
    simpa [Frame.isHeartbeat] using hf
  by_cases hrq : f.packet.packetType = packetHeartbeatRq
  · rw [if_pos hrq] at hround
    exact ⟨_, hround, hnext _ ⟨rfl, by simp⟩, hsession⟩
  · rw [if_neg hrq, if_pos (htype.resolve_left hrq)] at hround
    exact ⟨_, hround, hnext _ ⟨rfl, by simp⟩, hsession⟩

variable (attachment) in
/-- A data packet; calls are made only if it finds the chain full. -/
theorem readRound_data_of_granted (h : Reads s a (f.bytes ++ rest)) (hsession : s.session = true)
    (hf : f.isData = true) (hgranted : a.chain.length = contextsPerBuffer →
      (env.allocate s.allocations).isSome = true ∧ env.submit s.submissions = true) :
    ∃ s', readRound env attachment s = .again s' ∧
      Reads s' (a.next f (some ⟨.SessionData, f.header, f.packet.body, attachment⟩)) rest ∧
      s'.session = true := by
  have hround := readRound_frame env attachment h
  have hat := h.afterHeader.2
  have hbehind := at_behind h
  have hlt := h.bytes_lt
  have htype := hf
  simp only [Frame.isData, Frame.isHeartbeat, decide_eq_true_eq, not_or, Bool.decide_or,
    Bool.or_eq_true] at htype
  rw [if_neg (by simp [hsession]), if_neg htype.1.1, if_neg htype.1.2,
    if_neg (by simp [htype.2])] at hround
  by_cases hfull : a.chain.length = contextsPerBuffer
  · -- the chain is submitted and a new buffer begins with the body
    obtain ⟨hsome, hsubmit⟩ := hgranted hfull
    obtain ⟨memory, hmemory⟩ := Option.isSome_iff_exists.1 hsome
    have hsubmit : env.submit (afterHeader s).submissions = true := hsubmit
    have hnone : prepareSocketContext (afterHeader s).buffer .SessionData f.header attachment
        (afterHeader s).contextSequence = none := by
      have hsequence : (afterHeader s).contextSequence = contextsPerBuffer := h.sequence.trans hfull
      rw [hsequence]
      exact prepareSocketContext_of_full _ _ _ _
    have hcontent : (afterHeader s).buffer.data.take (f.packet.body ++ rest).length =
        f.packet.body ++ rest := by
      rw [hat.data_take le_rfl, List.take_length]
    have hnew : (DynamicBufferCursor.ofBuffer ⟨writeMemory memory 0 (f.packet.body ++ rest),
        (f.packet.body ++ rest).length, 0⟩).At 0 (f.packet.body ++ rest) := by
      apply DynamicBufferCursor.at_newBuffer
      have hlength := hat.length
      have hbound := hat.bound
      omega
    have hprepare := prepareSocketContext_of_room hnew hlt .SessionData attachment 0 (by decide)
    have hallocate : env.allocate (afterHeader s).allocations = some memory := hmemory
    rw [readDataPacket, hnone] at hround
    simp only [hallocate, hat.remainBytes, hcontent, hsubmit, if_true, hprepare] at hround
    refine ⟨_, hround, ?_, hsession⟩
    rw [Progress.next, if_pos hfull]
    have hseek := hnew.seek.retain
    rw [Nat.zero_add] at hseek
    refine ⟨?_, rfl, rfl, by simp [contextsPerBuffer, reservedSize, socketContextSize], ?_, ?_⟩
    · simp only [link, Frame.bodySize_eq hlt]
      exact hseek
    · change submittedChains (s.operations ++ [.submit s.chain]) = a.chains ++ [a.chain]
      rw [submittedChains_append, h.chains, h.chain]
      rfl
    · intro buffer hmem
      have hmem : .transmitRead buffer ∈ s.operations ++ [.submit s.chain] := hmem
      rcases List.mem_append.1 hmem with hmem | hmem
      · exact h.posted buffer hmem
      · simp at hmem
  · have hroom : (afterHeader s).contextSequence < contextsPerBuffer := by
      have hfull' := h.full
      have hsequence : (afterHeader s).contextSequence = a.chain.length := h.sequence
      omega
    have hprepare := prepareSocketContext_of_room hat hlt .SessionData attachment _ hroom
    rw [readDataPacket, hprepare] at hround
    refine ⟨_, hround, ?_, hsession⟩
    rw [Progress.next, if_neg hfull]
    refine ⟨hbehind.retain, ?_, ?_, ?_, h.chains, h.posted⟩
    · exact congrArg (· ++ _) h.chain
    · have hsequence : (afterHeader s).contextSequence = a.chain.length := h.sequence
      simp [link, hsequence]
    · have hfull' := h.full
      simp only [List.length_append, List.length_singleton]
      omega

variable (attachment) in
theorem readRound_data (henv : env.Generous) (h : Reads s a (f.bytes ++ rest))
    (hsession : s.session = true) (hf : f.isData = true) :
    ∃ s', readRound env attachment s = .again s' ∧
      Reads s' (a.next f (some ⟨.SessionData, f.header, f.packet.body, attachment⟩)) rest ∧
      s'.session = true :=
  readRound_data_of_granted attachment h hsession hf fun _ =>
    ⟨Option.isSome_iff_exists.2 (henv.allocate _), henv.submit _⟩

variable (attachment) in
theorem readRound_session (henv : env.Generous) (h : Reads s a (f.bytes ++ rest))
    (hsession : s.session = false) (hchain : a.chain = [])
    (hf : f.packet.packetType = packetSessionCreateRq)
    (hdecodes : env.decodes packetSessionCreateRq f.packet.body = true) :
    ∃ s', readRound env attachment s = .again s' ∧
      Reads s' (a.next f (some ⟨.SessionAccepted, f.header, f.packet.body,
        env.connectorAttachment⟩)) rest ∧
      s'.session = true := by
  have hround := readRound_frame env attachment h
  have hat := h.afterHeader.2
  have hbehind := at_behind h
  have hlt := h.bytes_lt
  have hbody : (afterHeader s).buffer.data.take f.header.bodySize = f.packet.body := by
    rw [Frame.bodySize_eq hlt, hat.data_take (by simp), List.take_left]
  have hprocess : ∀ n, processSessionPacket env n f.header f.packet.body =
      { contextType := .SessionAccepted, sends := some packetSessionCreateRs } := by
    intro n
    have htype : f.header.packetType = packetSessionCreateRq := hf
    simp [processSessionPacket, htype, hdecodes, henv.pop]
  -- this is the first context of the buffer, so there is room
  have hsequence : (afterHeader s).contextSequence = 0 := by
    have hsequence : (afterHeader s).contextSequence = a.chain.length := h.sequence
    simpa [hchain] using hsequence
  have hprepare := prepareSocketContext_of_room hat hlt .SessionAccepted env.connectorAttachment
    0 (by decide)
  rw [if_pos (by simp [hsession])] at hround
  simp only [readSessionPacket, hbody, hprocess, reduceCtorEq, if_false, Option.toList_some,
    List.map_cons, List.map_nil, ReadState.operate, hsequence, hprepare] at hround
  refine ⟨_, hround, ?_, rfl⟩
  have hroom : a.chain.length ≠ contextsPerBuffer := by
    rw [hchain]
    decide
  rw [Progress.next, if_neg hroom]
  refine ⟨hbehind.retain, ?_, ?_, ?_, ?_, ?_⟩
  · exact congrArg (· ++ _) h.chain
  · simp [hchain]
  · simp [hchain, contextsPerBuffer, reservedSize, socketContextSize]
  · change submittedChains (s.operations ++ [.send packetSessionCreateRs]) = a.chains
    rw [submittedChains_append, h.chains]
    exact List.append_nil _
  · intro buffer hmem
    have hmem : .transmitRead buffer ∈ s.operations ++ [.send packetSessionCreateRs] := hmem
    rcases List.mem_append.1 hmem with hmem | hmem
    · exact h.posted buffer hmem
    · simp at hmem

variable (env attachment) in
/-- The loop is left when no frame is complete. -/
theorem readRound_incomplete {pending : List Frame} {k : Nat}
    (hpending : ∀ f ∈ pending, f.bytes.length < 2 ^ 31)
    (hk : (Framing.split Frame.bytes pending k).complete = [])
    (h : Reads s a ((pending.flatMap Frame.bytes).take k)) :
    readRound env attachment s = .leave s := by
  have hremain := h.cursor.remainBytes
  by_cases hmore : s.buffer.remainBytes > packetLengthSize
  · rw [readRound, if_pos hmore]
    rw [hremain] at hmore
    cases pending with
    | nil =>
        simp at hmore
    | cons f rest =>
        have hkf : k < f.bytes.length := by
          by_contra hle
          simp [Framing.split, Nat.le_of_not_lt hle] at hk
        have hlength := f.length_bytes
        have hcount : (((f :: rest).flatMap Frame.bytes).take k).length = k := by
          rw [List.length_take, List.flatMap_cons, List.length_append]
          omega
        rw [hcount] at hmore hremain
        have hfield : ofBytes (s.buffer.data.take packetLengthSize) =
            packetHeaderSize + f.packet.body.length := by
          rw [h.cursor.data_take (by rw [hcount]; omega), List.flatMap_cons]
          exact Frame.lengthField (hpending f List.mem_cons_self) (by omega) _
        rw [hfield, hremain]
        exact if_pos (by omega)
  · rw [readRound, if_neg hmore]

end Round

/-! ## The loop -/

/-- The frames open a session, if there is none yet, and are data and heartbeats otherwise. -/
def Opens (env : Surroundings) : Bool → List Frame → Prop
  | _, [] => True
  | false, f :: rest =>
      (f.packet.packetType = packetSessionCreateRq ∧ env.decodes packetSessionCreateRq f.packet.body = true) ∧
        Opens env true rest
  | true, f :: rest => (f.isHeartbeat = true ∨ f.isData = true) ∧ Opens env true rest

variable (env attachment) in
/-- The progress of a frame. -/
def Progress.step (a : Progress) (f : Frame) : Progress := a.next f (contextOf env attachment f)

theorem contextOf_heartbeat {f : Frame} (h : f.isHeartbeat = true) :
    contextOf env attachment f = none := by
  simp [contextOf, h]

theorem contextOf_data {f : Frame} (h : f.isData = true) :
    contextOf env attachment f = some ⟨.SessionData, f.header, f.packet.body, attachment⟩ := by
  have htype := h
  simp only [Frame.isData, decide_eq_true_eq, not_or] at htype
  simp [contextOf, htype.1, htype.2.1]

theorem contextOf_create {f : Frame} (h : f.packet.packetType = packetSessionCreateRq) :
    contextOf env attachment f =
      some ⟨.SessionAccepted, f.header, f.packet.body, env.connectorAttachment⟩ := by
  have hnot : f.isHeartbeat = false := by
    simp only [Frame.isHeartbeat, h]
    rfl
  simp [contextOf, hnot, h]

variable (attachment) in
/-- A round reads a frame. -/
theorem readRound_step (henv : env.Generous) {s : ReadState} {a : Progress} {f : Frame}
    {frames : List Frame} {rest : List UInt8} (hopens : Opens env s.session (f :: frames))
    (hchain : s.session = false → a.chain = []) (h : Reads s a (f.bytes ++ rest)) :
    ∃ s', readRound env attachment s = .again s' ∧ Reads s' (a.step env attachment f) rest ∧
      s'.session = true ∧ Opens env true frames := by
  cases hsession : s.session with
  | false =>
      rw [hsession] at hopens
      rcases hopens with ⟨⟨htype, hdecodes⟩, hrest⟩
      rcases readRound_session attachment henv h hsession (hchain hsession) htype
        hdecodes with ⟨s', hround, hreads, hvalid⟩
      rw [Progress.step, contextOf_create htype]
      exact ⟨s', hround, hreads, hvalid, hrest⟩
  | true =>
      rw [hsession] at hopens
      rcases hopens with ⟨hheartbeat | hdata, hrest⟩
      · rcases readRound_heartbeat env attachment h hsession hheartbeat with
          ⟨s', hround, hreads, hvalid⟩
        rw [Progress.step, contextOf_heartbeat hheartbeat]
        exact ⟨s', hround, hreads, hvalid, hrest⟩
      · rcases readRound_data attachment henv h hsession hdata with
          ⟨s', hround, hreads, hvalid⟩
        rw [Progress.step, contextOf_data hdata]
        exact ⟨s', hround, hreads, hvalid, hrest⟩

variable (attachment) in
/-- The loop reads the frames that are complete and is left. -/
theorem readLoop_frames (henv : env.Generous) {pending : List Frame} {k : Nat}
    (hpending : ∀ f ∈ pending, f.bytes.length < 2 ^ 31)
    (hk : (Framing.split Frame.bytes pending k).complete = []) (fresh : List Frame) :
    ∀ (rounds : Nat) (s : ReadState) (a : Progress), fresh.length < rounds →
      Opens env s.session fresh → (s.session = false → a.chain = []) →
      Reads s a (fresh.flatMap Frame.bytes ++ (pending.flatMap Frame.bytes).take k) →
      ∃ s', readLoop env attachment rounds s = .leave s' ∧
        Reads s' (fresh.foldl (Progress.step env attachment) a)
          ((pending.flatMap Frame.bytes).take k) ∧
        s'.session = (s.session || !fresh.isEmpty) := by
  -- by induction on the frames that are complete: one round each
  induction fresh with
  | nil =>
      intro rounds s a hrounds _ _ h
      cases rounds with
      | zero =>
          simp at hrounds
      | succ rounds =>
          have hround := readRound_incomplete env attachment hpending hk h
          refine ⟨s, ?_, h, by simp⟩
          rw [readLoop, hround]
  | cons f fresh ih =>
      intro rounds s a hrounds hopens hchain h
      cases rounds with
      | zero =>
          simp at hrounds
      | succ rounds =>
          rw [List.flatMap_cons, List.append_assoc] at h
          rcases readRound_step attachment henv hopens hchain h with
            ⟨s₁, hround, h₁, hvalid, hrest⟩
          rw [← hvalid] at hrest
          rcases ih rounds s₁ _ (by simpa using hrounds) hrest (by simp [hvalid]) h₁ with
            ⟨s', hloop, h', hsession⟩
          refine ⟨s', ?_, h', ?_⟩
          · rw [readLoop, hround]
            exact hloop
          · simp [hsession, hvalid]

/-! ## What the loop leaves -/

section Progress

/-- The beginning of a read. -/
def Progress.start : Progress := ⟨[], [], 0⟩

/-- The number of contexts of some frames. -/
def contextCount (frames : List Frame) : Nat := (frames.filter fun f => !f.isHeartbeat).length

variable (env attachment) in
/-- The progress of the frames of one read. -/
def progressOf (fresh : List Frame) : Progress :=
  fresh.foldl (Progress.step env attachment) Progress.start

variable (env attachment) in
theorem progressOf_concat (fresh : List Frame) (f : Frame) :
    progressOf env attachment (fresh ++ [f]) =
      (progressOf env attachment fresh).step env attachment f := by
  simp [progressOf]

variable (env attachment) in
theorem contextOf_isSome (f : Frame) : (contextOf env attachment f).isSome = !f.isHeartbeat := by
  unfold contextOf
  split_ifs with h <;> simp [h]

variable (env attachment) in
/-- All contexts are in the chains submitted and the chain at hand, which holds those since the last
full chain. -/
theorem progressOf_spec (fresh : List Frame) :
    (progressOf env attachment fresh).chains.flatten ++ (progressOf env attachment fresh).chain =
        fresh.filterMap (contextOf env attachment) ∧
      (progressOf env attachment fresh).chain.length =
        if contextCount fresh = 0 then 0 else (contextCount fresh - 1) % contextsPerBuffer + 1 := by
  induction fresh using List.reverseRecOn with
  | nil =>
      exact ⟨rfl, rfl⟩
  | append_singleton fresh f ih =>
      rcases ih with ⟨hcontexts, hchain⟩
      rw [progressOf_concat, Progress.step]
      cases hcontext : contextOf env attachment f with
      | none =>
          have hheartbeat : f.isHeartbeat = true := by
            have hsome := contextOf_isSome env attachment f
            simpa [hcontext] using hsome
          have hcount : contextCount (fresh ++ [f]) = contextCount fresh := by
            simp [contextCount, hheartbeat]
          refine ⟨?_, ?_⟩
          · simpa [Progress.next, hcontext] using hcontexts
          · rw [hcount]
            exact hchain
      | some context =>
          have hheartbeat : f.isHeartbeat = false := by
            have hsome := contextOf_isSome env attachment f
            simpa [hcontext] using hsome.symm
          have hcount : contextCount (fresh ++ [f]) = contextCount fresh + 1 := by
            simp [contextCount, hheartbeat]
          rw [hcount, if_neg (Nat.succ_ne_zero _), Nat.add_sub_cancel]
          by_cases hfull : (progressOf env attachment fresh).chain.length = contextsPerBuffer
          · -- the chain is full exactly if the number of contexts is a multiple of its length
            rw [Progress.next, if_pos hfull]
            refine ⟨?_, ?_⟩
            · simp [hcontexts, hcontext]
            · rw [hfull] at hchain
              simp only [List.length_singleton]
              split_ifs at hchain with hzero
              · exact absurd hchain (by decide)
              · simp only [contextsPerBuffer, reservedSize, socketContextSize] at *
                omega
          · rw [Progress.next, if_neg hfull]
            refine ⟨?_, ?_⟩
            · simp [← hcontexts, hcontext]
            · rw [List.length_append, List.length_singleton, hchain]
              rw [hchain] at hfull
              split_ifs with hzero
              · simp [hzero]
              · rw [if_neg hzero] at hfull
                simp only [contextsPerBuffer, reservedSize, socketContextSize] at *
                omega

/-- The last frame of a read has a context that finds the chain full, and a body that is no longer
than the front of a frame. -/
def Lost (fresh : List Frame) : Prop :=
  ∃ before f, fresh = before ++ [f] ∧ f.isHeartbeat = false ∧
    f.packet.body.length ≤ packetLengthSize + packetHeaderSize ∧
    contextCount before ≠ 0 ∧ contextsPerBuffer ∣ contextCount before

variable (env attachment) in
/-- The chain is full exactly if the number of contexts is a positive multiple of its length. -/
theorem progressOf_full (fresh : List Frame) :
    (progressOf env attachment fresh).chain.length = contextsPerBuffer ↔
      contextCount fresh ≠ 0 ∧ contextsPerBuffer ∣ contextCount fresh := by
  rw [(progressOf_spec env attachment fresh).2, Nat.dvd_iff_mod_eq_zero]
  simp only [contextsPerBuffer, reservedSize, socketContextSize]
  split_ifs with hzero
  · simp [hzero]
  · omega

variable (env attachment) in
/-- The cursor is at the beginning of a buffer only if no frame was read or the last one is lost. -/
theorem progressOf_position (fresh : List Frame) :
    (progressOf env attachment fresh).position ≤ packetLengthSize + packetHeaderSize ↔
      fresh = [] ∨ Lost fresh := by
  induction fresh using List.reverseRecOn with
  | nil =>
      simp [progressOf, Progress.start]
  | append_singleton fresh f _ =>
      have hbody : 0 < f.packet.body.length := List.length_pos_iff.2 f.body_ne
      have hlength := f.length_bytes
      have hlost : (fresh ++ [f] = [] ∨ Lost (fresh ++ [f])) ↔
          f.isHeartbeat = false ∧ f.packet.body.length ≤ packetLengthSize + packetHeaderSize ∧
            (progressOf env attachment fresh).chain.length = contextsPerBuffer := by
        rw [progressOf_full]
        constructor
        · rintro (hnil | ⟨before, g, heq, hrest⟩)
          · simp at hnil
          · rcases List.append_inj' heq rfl with ⟨rfl, hfg⟩
            cases hfg
            exact hrest
        · intro hrest
          exact .inr ⟨fresh, f, rfl, hrest⟩
      rw [hlost, progressOf_concat, Progress.step]
      have hsome := contextOf_isSome env attachment f
      cases hcontext : contextOf env attachment f with
      | none =>
          have hheartbeat : f.isHeartbeat = true := by
            simpa [hcontext] using hsome
          simp only [Progress.next, hheartbeat, Bool.true_eq_false, false_and, iff_false]
          omega
      | some context =>
          have hheartbeat : f.isHeartbeat = false := by
            simpa [hcontext] using hsome.symm
          simp only [Progress.next, hheartbeat, true_and]
          split_ifs with hfull
          · simp [hfull]
          · simp only [hfull, and_false, iff_false]
            omega

end Progress

/-! ## After the loop -/

theorem postedBuffer_append_transmitRead (l : List Operation) (buffer : SocketBuffer) :
    postedBuffer (l ++ [.transmitRead buffer]) = some buffer := by
  simp [postedBuffer]

section Finish

variable {s : ReadState} {a : Progress} {content : List UInt8}

variable (env) in
/-- A buffer that is used again: nothing more is submitted. -/
theorem finishRead_reuse (h : Reads s a content)
    (hposition : a.position ≤ packetLengthSize + packetHeaderSize) :
    submittedChains (finishRead env s).operations = a.chains ∧
      postedBuffer (finishRead env s).operations = some s.buffer.buffer ∧
      (finishRead env s).session = s.session := by
  have hpos : s.buffer.position ≤ packetLengthSize + packetHeaderSize := by
    rw [h.cursor.position]
    exact hposition
  rw [finishRead, if_pos hpos]
  refine ⟨?_, postedBuffer_append_transmitRead _ _, rfl⟩
  simp only [ReadState.operate, submittedChains_append, h.chains]
  exact List.append_nil _

/-- Otherwise the chain is submitted, and what is left is posted in a new buffer. -/
theorem finishRead_renew_of_granted (hallocate : (env.allocate s.allocations).isSome = true)
    (hsubmit : a.chain ≠ [] → env.submit s.submissions = true) (h : Reads s a content)
    (hsession : s.session = true)
    (hposition : ¬ a.position ≤ packetLengthSize + packetHeaderSize) :
    (submittedChains (finishRead env s).operations).flatten = a.chains.flatten ++ a.chain ∧
      (∃ buffer, postedBuffer (finishRead env s).operations = some buffer ∧
        (DynamicBufferCursor.ofBuffer buffer).At 0 content) ∧
      (finishRead env s).session = true := by
  have hpos : ¬ s.buffer.position ≤ packetLengthSize + packetHeaderSize := by
    rw [h.cursor.position]
    exact hposition
  obtain ⟨memory, hmemory⟩ := Option.isSome_iff_exists.1 hallocate
  have hbound : content.length < 2 ^ 31 := by
    have hlength := h.cursor.length
    have hbound := h.cursor.bound
    omega
  -- a new buffer holds what is left, be it nothing
  have hnew : ∃ buffer : SocketBuffer, (DynamicBufferCursor.ofBuffer buffer).At 0 content ∧
      buffer = if s.buffer.remainBytes > 0 then
          ⟨writeMemory memory 0 (s.buffer.data.take s.buffer.remainBytes), s.buffer.remainBytes, 0⟩
        else ⟨memory, 0, 0⟩ := by
    refine ⟨_, ?_, rfl⟩
    have hdata : s.buffer.data.take content.length = content := by
      rw [h.cursor.data_take le_rfl, List.take_length]
    rw [h.cursor.remainBytes, hdata]
    split_ifs with hpositive
    · exact DynamicBufferCursor.at_newBuffer memory 0 hbound
    · have hnil : content = [] := List.eq_nil_of_length_eq_zero (by omega)
      subst hnil
      exact ⟨rfl, rfl, ⟨memory, rfl⟩, by simp [DynamicBufferCursor.ofBuffer]⟩
  rcases hnew with ⟨buffer, hat, hbuffer⟩
  rw [finishRead, if_neg hpos, if_neg (by simp [hsession])]
  simp only [hmemory, ← hbuffer]
  by_cases hchain : s.chain = []
  · rw [if_pos hchain]
    refine ⟨?_, ⟨buffer, ?_, hat⟩, hsession⟩
    · simp only [ReadState.operate, submittedChains_append, h.chains, ← h.chain, hchain]
      simp [submittedChains]
    · simp [ReadState.operate, postedBuffer]
  · rw [if_neg hchain, hsubmit (h.chain ▸ hchain), if_pos rfl]
    refine ⟨?_, ⟨buffer, ?_, hat⟩, hsession⟩
    · simp only [ReadState.operate, submittedChains_append, h.chains, ← h.chain]
      simp [submittedChains]
    · simp [ReadState.operate, postedBuffer]

theorem finishRead_renew (henv : env.Generous) (h : Reads s a content) (hsession : s.session = true)
    (hposition : ¬ a.position ≤ packetLengthSize + packetHeaderSize) :
    (submittedChains (finishRead env s).operations).flatten = a.chains.flatten ++ a.chain ∧
      (∃ buffer, postedBuffer (finishRead env s).operations = some buffer ∧
        (DynamicBufferCursor.ofBuffer buffer).At 0 content) ∧
      (finishRead env s).session = true :=
  finishRead_renew_of_granted (Option.isSome_iff_exists.2 (henv.allocate _))
    (fun _ => henv.submit _) h hsession hposition

end Finish

/-! ## Connections -/

theorem opens_append (b : Bool) (frames frames' : List Frame) :
    Opens env b (frames ++ frames') ↔
      Opens env b frames ∧ Opens env (b || !frames.isEmpty) frames' := by
  have htrue : ∀ frames : List Frame,
      Opens env true (frames ++ frames') ↔ Opens env true frames ∧ Opens env true frames' := by
    intro frames
    induction frames with
    | nil =>
        simp [Opens]
    | cons f frames ih =>
        simp [Opens, ih, and_assoc]
  cases frames with
  | nil =>
      simp [Opens]
  | cons f frames =>
      cases b <;> simp [Opens, htrue, and_assoc]

variable (env attachment) in
/-- The connection has submitted the contexts of the frames that are done, and holds the first `k`
bytes of the others. -/
structure InSync (c : Connection) (done pending : List Frame) (k : Nat) : Prop where
  posted : ∃ buffer, c.posted = some buffer ∧
    (DynamicBufferCursor.ofBuffer buffer).At 0 ((pending.flatMap Frame.bytes).take k)
  session : c.session = !done.isEmpty
  submitted : c.submitted.flatten = done.filterMap (contextOf env attachment)

theorem inSync_accept (henv : env.Generous) (frames : List Frame) :
    InSync env attachment (Connection.accept env) [] frames 0 := by
  rcases henv.allocate 0 with ⟨memory, hmemory⟩
  refine ⟨⟨⟨memory, 0, 0⟩, by simp [Connection.accept, hmemory], ?_⟩, rfl, rfl⟩
  exact ⟨rfl, by simp [DynamicBufferCursor.ofBuffer], ⟨memory, by simp [DynamicBufferCursor.ofBuffer]⟩,
    by simp [DynamicBufferCursor.ofBuffer]⟩

/-- The bytes of a read behind those of a posted buffer. -/
theorem at_received {buffer : SocketBuffer} {content : List UInt8} (bytes : List UInt8)
    (h : (DynamicBufferCursor.ofBuffer buffer).At 0 content)
    (hbound : content.length + bytes.length < 2 ^ 31) :
    (DynamicBufferCursor.ofBuffer
      { buffer with
        memory := writeMemory buffer.memory buffer.length bytes
        length := buffer.length + bytes.length }).At 0 (content ++ bytes) := by
  have hlength : buffer.length = content.length := by
    simpa [DynamicBufferCursor.ofBuffer] using h.length
  rcases h.memory with ⟨stale, hmemory⟩
  have hmemory : buffer.memory = content ++ stale := by
    simpa [DynamicBufferCursor.ofBuffer] using hmemory
  refine ⟨rfl, by simp [DynamicBufferCursor.ofBuffer, hlength], ?_, ?_⟩
  · refine ⟨stale.drop bytes.length, ?_⟩
    simp [DynamicBufferCursor.ofBuffer, writeMemory, hlength, hmemory, List.append_assoc]
  · simpa [DynamicBufferCursor.ofBuffer, hlength] using hbound

theorem length_le_flatMap (frames : List Frame) :
    frames.length ≤ (frames.flatMap Frame.bytes).length := by
  induction frames with
  | nil =>
      simp
  | cons f frames ih =>
      have hlength := f.length_bytes
      rw [List.flatMap_cons, List.length_append, List.length_cons, hlength]
      simp only [packetLengthSize]
      omega

/-- The state in which `OnRead` begins when some bytes were received behind those of a buffer. -/
def Connection.entering (c : Connection) (buffer : SocketBuffer) (bytes : List UInt8) : ReadState where
  session := c.session
  allocations := c.allocations
  submissions := c.submissions
  sessionPackets := c.sessionPackets
  buffer := .ofBuffer { buffer with
    memory := writeMemory buffer.memory buffer.length bytes
    length := buffer.length + bytes.length }

/-- The connection after a call of `OnRead`. -/
def Connection.behind (c : Connection) (s : ReadState) : Connection where
  session := s.session
  allocations := s.allocations
  submissions := s.submissions
  sessionPackets := s.sessionPackets
  posted := postedBuffer s.operations
  submitted := c.submitted ++ submittedChains s.operations

theorem Connection.flatten_submitted_behind (c : Connection) (s : ReadState) :
    (c.behind s).submitted.flatten =
      c.submitted.flatten ++ (submittedChains s.operations).flatten :=
  List.flatten_append

theorem Connection.receive_eq {c : Connection} {buffer : SocketBuffer} {bytes : List UInt8}
    (hposted : c.posted = some buffer) (hbytes : bytes ≠ []) :
    c.receive env attachment bytes = c.behind
      (onRead env attachment (buffer.length + bytes.length + 1) (c.entering buffer bytes)) := by
  simp only [Connection.receive, hposted, hbytes, if_false]
  rfl

/-- A read of some frames and of a part of another begins with these ahead, and the rounds suffice,
since every frame takes some bytes of the buffer. -/
theorem Connection.reads_entering (c : Connection) {buffer : SocketBuffer} {content bytes : List UInt8}
    (hat : (DynamicBufferCursor.ofBuffer buffer).At 0 content) {fresh : List Frame}
    {rest : List UInt8} (hcontent : content ++ bytes = fresh.flatMap Frame.bytes ++ rest)
    (hbound : content.length + bytes.length < 2 ^ 31) :
    Reads (c.entering buffer bytes) Progress.start (fresh.flatMap Frame.bytes ++ rest) ∧
      fresh.length < buffer.length + bytes.length + 1 := by
  have hreceived := at_received bytes hat hbound
  rw [hcontent] at hreceived
  refine ⟨⟨hreceived, rfl, rfl, by simp [Progress.start], rfl, by simp [Connection.entering]⟩, ?_⟩
  have hlength := hreceived.length
  have hle := length_le_flatMap fresh
  simp only [DynamicBufferCursor.ofBuffer, List.length_append] at hlength
  omega

/-- The connection after a read whose loop ended in a state. -/
def Connection.ofRead (env : Surroundings) (c : Connection) (s : ReadState) : Connection where
  session := (finishRead env s).session
  allocations := (finishRead env s).allocations
  submissions := (finishRead env s).submissions
  sessionPackets := (finishRead env s).sessionPackets
  posted := postedBuffer (finishRead env s).operations
  submitted := c.submitted ++ submittedChains (finishRead env s).operations

/-- The loop of a read goes through the frames that are complete. -/
theorem InSync.ofRead (henv : env.Generous) {c : Connection} {done pending : List Frame} {k : Nat}
    (h : InSync env attachment c done pending k) (hopens : Opens env (!done.isEmpty) pending)
    {bytes : List UInt8} (hbytes : bytes ≠ [])
    (hnext : (pending.flatMap Frame.bytes).take (k + bytes.length) =
      (pending.flatMap Frame.bytes).take k ++ bytes)
    (hk : ((pending.flatMap Frame.bytes).take k).length = k)
    (hbound : k + bytes.length < 2 ^ 31) (hframes : ∀ f ∈ pending, f.bytes.length < 2 ^ 31) :
    let after := Framing.split Frame.bytes pending (k + bytes.length)
    ∃ s, c.receive env attachment bytes = c.ofRead env s ∧
      Reads s (progressOf env attachment after.complete)
        ((after.pending.flatMap Frame.bytes).take after.left) ∧
      s.session = !(done ++ after.complete).isEmpty := by
  intro after
  rcases h.posted with ⟨buffer, hposted, hat⟩
  have hitems : pending = after.complete ++ after.pending :=
    (Framing.complete_append_pending Frame.bytes pending (k + bytes.length)).symm
  have hcontent : (pending.flatMap Frame.bytes).take k ++ bytes =
      after.complete.flatMap Frame.bytes ++ (after.pending.flatMap Frame.bytes).take after.left := by
    rw [← hnext]
    exact Framing.take_flatMap pending (k + bytes.length)
  obtain ⟨hstart, hrounds⟩ := c.reads_entering hat hcontent (by rw [hk]; exact hbound)
  have hsession : (c.entering buffer bytes).session = !done.isEmpty := h.session
  rw [hitems, opens_append, ← hsession] at hopens
  have hpending : ∀ f ∈ after.pending, f.bytes.length < 2 ^ 31 := by
    intro f hf
    exact hframes f (by rw [hitems]; simp [hf])
  rcases readLoop_frames attachment henv hpending
    (Framing.split_pending Frame.bytes pending (k + bytes.length)) after.complete
    (buffer.length + bytes.length + 1) (c.entering buffer bytes) Progress.start hrounds hopens.1
    (fun _ => rfl) hstart with ⟨s, hloop, hs, hvalid⟩
  refine ⟨s, ?_, hs, ?_⟩
  · rw [Connection.receive_eq hposted hbytes, onRead, hloop]
    rfl
  · rw [hvalid, hsession]
    cases done <;> cases after.complete <;> rfl

/-- A read: what is complete is submitted, unless the last frame is lost. -/
theorem InSync.receive (henv : env.Generous) {c : Connection} {done pending : List Frame} {k : Nat}
    (h : InSync env attachment c done pending k) (hopens : Opens env (!done.isEmpty) pending)
    {bytes : List UInt8} (hbytes : bytes ≠ [])
    (hnext : (pending.flatMap Frame.bytes).take (k + bytes.length) =
      (pending.flatMap Frame.bytes).take k ++ bytes)
    (hk : ((pending.flatMap Frame.bytes).take k).length = k)
    (hbound : k + bytes.length < 2 ^ 31) (hframes : ∀ f ∈ pending, f.bytes.length < 2 ^ 31) :
    let after := Framing.split Frame.bytes pending (k + bytes.length)
    (¬ Lost after.complete →
      InSync env attachment (c.receive env attachment bytes) (done ++ after.complete) after.pending
        after.left) ∧
      (Lost after.complete → (c.receive env attachment bytes).submitted.flatten ≠
        (done ++ after.complete).filterMap (contextOf env attachment)) := by
  intro after
  rcases h.ofRead henv hopens hbytes hnext hk hbound hframes with ⟨s, hreceive, hs, hvalid⟩
  have hs : Reads s (progressOf env attachment after.complete)
      ((after.pending.flatMap Frame.bytes).take after.left) := hs
  have hspec := progressOf_spec env attachment after.complete
  have hposition := progressOf_position env attachment after.complete
  rw [hreceive, List.filterMap_append, ← hspec.1]
  constructor
  · intro hlost
    by_cases hfresh : after.complete = []
    · -- the buffer goes on as it is
      rcases finishRead_reuse env hs (hposition.2 (.inl hfresh)) with
        ⟨hchains, hposted', hkept⟩
      rw [hfresh] at hs hchains
      refine ⟨⟨_, hposted', ⟨rfl, hs.cursor.length, hs.cursor.memory, hs.cursor.bound⟩⟩,
        hkept.trans hvalid, ?_⟩
      simp [Connection.ofRead, hchains, h.submitted, hfresh, progressOf, Progress.start]
    · have hopen : s.session = true := by
        rw [hvalid]
        simp [after, hfresh]
      rcases finishRead_renew henv hs hopen (fun hle => (hposition.1 hle).elim hfresh hlost) with
        ⟨hchains, hposted', hkept⟩
      refine ⟨hposted', hkept.trans (hopen.symm.trans hvalid), ?_⟩
      simp only [Connection.ofRead, List.flatten_append, h.submitted, hchains,
        List.filterMap_append, hspec.1]
  · intro hlost heq
    rcases finishRead_reuse env hs (hposition.2 (.inr hlost)) with ⟨hchains, _, _⟩
    -- the chain at hand is not empty
    have hcount : contextCount after.complete ≠ 0 := by
      rcases hlost with ⟨before, f, hfresh, hheartbeat, _⟩
      simp [hfresh, contextCount, hheartbeat]
    have hlength := hspec.2
    rw [if_neg hcount] at hlength
    simp only [Connection.ofRead, List.flatten_append, h.submitted, hchains,
      ← List.append_assoc] at heq
    rw [List.self_eq_append_right] at heq
    rw [heq] at hlength
    simp at hlength

end Rounds

/-! ## Streams -/

/-- The packets a peer sends on a new connection. -/
structure PacketStream where
  create : Frame
  rest : List Frame
  opens : create.packet.packetType = packetSessionCreateRq
  kinds : ∀ f ∈ rest, f.isHeartbeat = true ∨ f.isData = true

namespace PacketStream

variable (stream : PacketStream) (reads : List (List UInt8))

def frames : List Frame := stream.create :: stream.rest

/-- The bytes received in the first `n` reads. -/
def received (n : Nat) : Nat := (reads.take n).flatten.length

/-- The state of the stream after the first `n` reads. -/
def after (n : Nat) : Framing.Split Frame :=
  Framing.split Frame.bytes stream.frames (received reads n)

/-- The packets that the `n`-th read completes. -/
def completedBy (n : Nat) : List Frame :=
  (stream.after reads (n + 1)).complete.drop (stream.after reads n).complete.length

/-- The stream is cut into reads.  A read takes what is there when it is made, and no more than fits
behind the bytes that are left from earlier reads. -/
structure Cut (capacity : Nat) : Prop where
  bytes : reads.flatten = stream.frames.flatMap Frame.bytes
  nonempty : ∀ read ∈ reads, read ≠ []
  fits : ∀ n (h : n < reads.length), (stream.after reads n).left + (reads.get ⟨n, h⟩).length ≤ capacity
  packets : ∀ f ∈ stream.frames, f.bytes.length ≤ capacity

/-- The contexts of the packets: one that opens the session, then the data packets. -/
def contexts (env : Surroundings) (attachment : Nat) : List Frame → List SocketContext
  | [] => []
  | create :: rest =>
      ⟨.SessionAccepted, create.header, create.packet.body, env.connectorAttachment⟩ ::
        (rest.filter Frame.isData).map fun f =>
          ⟨.SessionData, f.header, f.packet.body, attachment⟩

section Reads

variable {stream reads} {env : Surroundings} {attachment capacity n : Nat}

/-- The state after one more read. -/
theorem after_succ (h : n < reads.length) :
    stream.after reads (n + 1) =
      let next := Framing.split Frame.bytes (stream.after reads n).pending
        ((stream.after reads n).left + (reads.get ⟨n, h⟩).length)
      ⟨(stream.after reads n).complete ++ next.complete, next.pending, next.left⟩ :=
  Framing.after_succ Frame.bytes stream.frames h

theorem completedBy_eq (h : n < reads.length) :
    stream.completedBy reads n = (Framing.split Frame.bytes (stream.after reads n).pending
      ((stream.after reads n).left + (reads.get ⟨n, h⟩).length)).complete :=
  Framing.completedBy_eq Frame.bytes stream.frames h

theorem opens_frames (hdecodes : env.decodes packetSessionCreateRq stream.create.packet.body = true) :
    Opens env false stream.frames := by
  have hrest : ∀ frames : List Frame, (∀ f ∈ frames, f.isHeartbeat = true ∨ f.isData = true) →
      Opens env true frames := by
    intro frames
    induction frames with
    | nil =>
        intro _
        exact trivial
    | cons f frames ih =>
        intro h
        exact ⟨h f List.mem_cons_self, ih fun g hg => h g (List.mem_cons_of_mem _ hg)⟩
  exact ⟨⟨stream.opens, hdecodes⟩, hrest _ stream.kinds⟩

/-- The contexts of the packets that are complete. -/
theorem contexts_eq (n : Nat) :
    contexts env attachment (stream.after reads n).complete =
      (stream.after reads n).complete.filterMap (contextOf env attachment) := by
  have hprefix := Framing.complete_append_pending Frame.bytes stream.frames
    (received reads n)
  have hrest : ∀ frames : List Frame, (∀ f ∈ frames, f.isHeartbeat = true ∨ f.isData = true) →
      frames.filterMap (contextOf env attachment) =
        (frames.filter Frame.isData).map fun f =>
          ⟨.SessionData, f.header, f.packet.body, attachment⟩ := by
    intro frames
    induction frames with
    | nil =>
        intro _
        rfl
    | cons f frames ih =>
        intro h
        have ih := ih fun g hg => h g (List.mem_cons_of_mem _ hg)
        cases hdata : f.isData with
        | true =>
            simp [contextOf_data hdata, hdata, ih]
        | false =>
            have hheartbeat : f.isHeartbeat = true :=
              (h f List.mem_cons_self).resolve_right (by simp [hdata])
            simp [contextOf_heartbeat hheartbeat, hdata, ih]
  change (stream.after reads n).complete ++ (stream.after reads n).pending = stream.frames at hprefix
  cases hcomplete : (stream.after reads n).complete with
  | nil =>
      rfl
  | cons f frames =>
      rw [hcomplete, PacketStream.frames, List.cons_append, List.cons.injEq] at hprefix
      rcases hprefix with ⟨rfl, hprefix⟩
      rw [contexts, List.filterMap_cons, contextOf_create stream.opens, hrest]
      intro f hf
      exact stream.kinds f (by rw [← hprefix]; simp [hf])

/-- A read takes the bytes that follow those already received. -/
theorem Cut.read_eq (hcut : stream.Cut reads capacity) (h : n < reads.length) :
    let before := stream.after reads n
    (before.pending.flatMap Frame.bytes).take (before.left + (reads.get ⟨n, h⟩).length) =
        (before.pending.flatMap Frame.bytes).take before.left ++ reads.get ⟨n, h⟩ ∧
      ((before.pending.flatMap Frame.bytes).take before.left).length = before.left :=
  Framing.next_piece hcut.bytes h

/-- One read of a connection that is in step with the stream. -/
theorem Cut.receive (henv : env.Generous)
    (hdecodes : env.decodes packetSessionCreateRq stream.create.packet.body = true) (hcapacity : capacity < 2 ^ 31)
    (hcut : stream.Cut reads capacity) (h : n < reads.length) {c : Connection}
    (hsync : InSync env attachment c (stream.after reads n).complete (stream.after reads n).pending
      (stream.after reads n).left) :
    (¬ Lost (stream.completedBy reads n) →
      InSync env attachment (c.receive env attachment (reads.get ⟨n, h⟩))
        (stream.after reads (n + 1)).complete (stream.after reads (n + 1)).pending
        (stream.after reads (n + 1)).left) ∧
      (Lost (stream.completedBy reads n) →
        (c.receive env attachment (reads.get ⟨n, h⟩)).submitted.flatten ≠
          (stream.after reads (n + 1)).complete.filterMap (contextOf env attachment)) := by
  have hitems := Framing.complete_append_pending Frame.bytes stream.frames
    (received reads n)
  have hopens := opens_frames hdecodes
  rw [← hitems, opens_append, Bool.false_or] at hopens
  rcases hcut.read_eq h with ⟨hnext, hleft⟩
  have hframes : ∀ f ∈ (stream.after reads n).pending, f.bytes.length < 2 ^ 31 := by
    intro f hf
    have hmem : f ∈ stream.frames := by
      rw [← hitems]
      exact List.mem_append_right _ hf
    exact (hcut.packets f hmem).trans_lt hcapacity
  have hread := hsync.receive henv hopens.2 (hcut.nonempty _ (List.get_mem _ _)) hnext hleft
    ((hcut.fits n h).trans_lt hcapacity) hframes
  rw [completedBy_eq h, after_succ h]
  exact hread

theorem afterReads_succ (h : n < reads.length) :
    Connection.afterReads env attachment (reads.take (n + 1)) =
      (Connection.afterReads env attachment (reads.take n)).receive env attachment
        (reads.get ⟨n, h⟩) := by
  rw [Framing.take_succ h, Connection.afterReads, List.foldl_append]
  rfl

/-- Up to the first packet that is lost the connection is in step with the stream. -/
theorem Cut.inSync (attachment : Nat) (henv : env.Generous)
    (hdecodes : env.decodes packetSessionCreateRq stream.create.packet.body = true) (hcapacity : capacity < 2 ^ 31)
    (hcut : stream.Cut reads capacity) (n : Nat) (hn : n ≤ reads.length)
    (hlost : ∀ m < n, ¬ Lost (stream.completedBy reads m)) :
    InSync env attachment (Connection.afterReads env attachment (reads.take n))
      (stream.after reads n).complete (stream.after reads n).pending
      (stream.after reads n).left := by
  induction n with
  | zero =>
      have hafter : stream.after reads 0 = ⟨[], stream.frames, 0⟩ := by
        apply Framing.split_eq
        · rfl
        · simp [received]
        · have hpositive : 0 < stream.create.bytes.length := by
            rw [Frame.length_bytes]
            simp [packetLengthSize]
          simp [Framing.split, PacketStream.frames, Nat.not_le.2 hpositive]
      rw [hafter]
      exact inSync_accept henv stream.frames
  | succ n ih =>
      have hsync := ih (by omega) fun m hm => hlost m (by omega)
      rw [afterReads_succ hn]
      exact (hcut.receive henv hdecodes hcapacity hn hsync).1 (hlost n (Nat.lt_succ_self n))

/-- After the reads of the whole stream all packets are complete. -/
theorem Cut.after_length (hcut : stream.Cut reads capacity) :
    (stream.after reads reads.length).complete = stream.frames :=
  Framing.after_length hcut.bytes

/-- A read that loses a packet is not made up for in the state it leaves. -/
theorem Cut.not_delivered (attachment : Nat) (henv : env.Generous)
    (hdecodes : env.decodes packetSessionCreateRq stream.create.packet.body = true) (hcapacity : capacity < 2 ^ 31)
    (hcut : stream.Cut reads capacity) (h : n < reads.length)
    (hbefore : ∀ m < n, ¬ Lost (stream.completedBy reads m))
    (hlost : Lost (stream.completedBy reads n)) :
    (Connection.afterReads env attachment (reads.take (n + 1))).submitted.flatten ≠
      contexts env attachment (stream.after reads (n + 1)).complete := by
  have hsync := hcut.inSync attachment henv hdecodes hcapacity n h.le hbefore
  rw [afterReads_succ h, contexts_eq]
  exact (hcut.receive henv hdecodes hcapacity h hsync).2 hlost

/-- In the states after each read, the last of which has the whole stream, what was submitted is one
`SessionAccepted` and the data packets that are complete, each once and in order, if and only if no
read loses a packet. -/
theorem framing_iff (attachment : Nat) (henv : env.Generous)
    (hdecodes : env.decodes packetSessionCreateRq stream.create.packet.body = true) (hcapacity : capacity < 2 ^ 31)
    (hcut : stream.Cut reads capacity) :
    (stream.after reads reads.length).complete = stream.frames ∧
      ((∀ n ≤ reads.length,
          (Connection.afterReads env attachment (reads.take n)).submitted.flatten =
            contexts env attachment (stream.after reads n).complete) ↔
        ∀ n < reads.length, ¬ Lost (stream.completedBy reads n)) := by
  refine ⟨hcut.after_length, ?_, ?_⟩
  · intro hdelivered n
    -- the first read that loses a packet leaves a state with one context too few
    induction n using Nat.strong_induction_on with
    | _ n ih =>
        intro hn hlost
        exact hcut.not_delivered attachment henv hdecodes hcapacity hn (fun m hm => ih m hm (hm.trans hn)) hlost
          (hdelivered (n + 1) hn)
  · intro hkept n hn
    have hsync := hcut.inSync attachment henv hdecodes hcapacity n hn
      fun m hm => hkept m (hm.trans_le hn)
    rw [contexts_eq]
    exact hsync.submitted

end Reads

/-! ## Samples -/

section Samples

/-- Surroundings in which every call succeeds. -/
def generous : Surroundings where
  allocate := fun _ => some []
  submit := fun _ => true
  streamType := .Acceptor
  decodes := fun _ _ => true
  pop := fun _ => true
  connector := fun _ => false
  connectorAttachment := 0
  authenticates := fun _ _ => false
  revives := fun _ => false
  remembers := fun _ => false
  authRq := fun _ => ⟨packetSessionAuthRq, []⟩
  createRq := ⟨packetSessionCreateRq, []⟩

theorem generous_generous : generous.Generous :=
  ⟨fun _ => ⟨[], rfl⟩, fun _ => rfl, fun _ => rfl⟩

/-- A packet whose only field is a byte, behind the type code. -/
def byteFrame (packetType : Nat) (h : packetType < 2 ^ 16) : Frame where
  packet := ⟨packetType, [1, 2, 3, 4, 0]⟩
  errorCode := 0
  type_lt := h
  error_lt := by decide
  body_ne := List.cons_ne_nil _ _

/-- `packet_start_skill_rq`, a data packet. -/
def startSkill : Frame := byteFrame 19 (by decide)

/-- A session and a number of data packets. -/
def skills (count : Nat) : PacketStream where
  create := byteFrame 2 (by decide)
  rest := List.replicate count startSkill
  opens := rfl
  kinds := by
    intro f hf
    rw [(List.mem_replicate.1 hf).2]
    exact .inr (by decide)

/-- The whole stream in one read. -/
def wholeRead (count : Nat) : List (List UInt8) := [(skills count).frames.flatMap Frame.bytes]

theorem length_skills (count : Nat) :
    ((skills count).frames.flatMap Frame.bytes).length = 17 * (count + 1) := by
  have hskill : startSkill.bytes.length = 17 := by decide
  have hcreate : (byteFrame 2 (by decide)).bytes.length = 17 := by decide
  simp [skills, frames, List.length_flatMap, hskill, hcreate]
  ring

theorem cut_wholeRead (count : Nat) (h : count < 3000) : (skills count).Cut (wholeRead count) 65536 := by
  have hlength := length_skills count
  refine ⟨by simp [wholeRead], ?_, ?_, ?_⟩
  · intro read hread
    rw [List.mem_singleton.1 hread]
    apply List.ne_nil_of_length_pos
    omega
  · intro n hn
    have hzero : n = 0 := by simpa [wholeRead] using hn
    subst hzero
    have hleft : ((skills count).after (wholeRead count) 0).left = 0 := by
      have hcount := Framing.length_complete_add_left Frame.bytes (skills count).frames
        (received (wholeRead count) 0)
      have hreceived : received (wholeRead count) 0 = 0 := rfl
      rw [hreceived] at hcount
      exact (Nat.add_eq_zero_iff.1 hcount).2
    rw [hleft]
    simp only [wholeRead, List.get_eq_getElem, List.getElem_singleton]
    omega
  · intro f hf
    have hsize : f.bytes.length = 17 := by
      rcases List.mem_cons.1 hf with rfl | hf
      · rfl
      · rw [(List.mem_replicate.1 hf).2]
        decide
    omega

theorem completedBy_wholeRead {count : Nat} (h : count < 3000) :
    (skills count).completedBy (wholeRead count) 0 = (skills count).frames := by
  have hlength : ((skills count).after (wholeRead count) 1).complete = (skills count).frames :=
    (cut_wholeRead count h).after_length
  have hnone : ((skills count).after (wholeRead count) 0).complete = [] := by
    have hcount := Framing.length_complete_add_left Frame.bytes (skills count).frames
      (received (wholeRead count) 0)
    have hreceived : received (wholeRead count) 0 = 0 := rfl
    rw [hreceived] at hcount
    have hle := length_le_flatMap ((skills count).after (wholeRead count) 0).complete
    have hzero : (((skills count).after (wholeRead count) 0).complete.flatMap Frame.bytes).length = 0 :=
      (Nat.add_eq_zero_iff.1 hcount).1
    exact List.eq_nil_of_length_eq_zero (by omega)
  rw [completedBy, hlength, hnone]
  rfl

theorem contextCount_skills (count : Nat) : contextCount (skills count).frames = count + 1 := by
  have hskill : startSkill.isHeartbeat = false := by decide
  have hcreate : (byteFrame 2 (by decide)).isHeartbeat = false := by decide
  simp [contextCount, skills, frames, hskill, hcreate]

/-- A session and 128 data packets in one read. -/
theorem lost_skills : Lost (skills 128).frames := by
  refine ⟨(skills 127).frames, startSkill, ?_, by decide, by decide, ?_, ?_⟩
  · simp only [skills, frames, List.cons_append]
    rw [List.replicate_succ']
  · rw [contextCount_skills]
    decide
  · rw [contextCount_skills]
    decide

theorem not_lost_skills : ¬ Lost (skills 1).frames := by
  rintro ⟨before, f, heq, _, _, hpositive, hdvd⟩
  have hcount := contextCount_skills 1
  rw [heq] at hcount
  have hle : contextCount before ≤ contextCount (before ++ [f]) := by
    simp [contextCount]
  rw [hcount] at hle
  have hge := Nat.le_of_dvd (Nat.pos_of_ne_zero hpositive) hdvd
  simp only [contextsPerBuffer, reservedSize, socketContextSize] at hge
  omega

theorem framing_iff_one :
    (skills 1).Cut (wholeRead 1) 65536 ∧
      (Connection.afterReads generous 7 (wholeRead 1)).submitted.flatten =
        contexts generous 7 (skills 1).frames := by
  have hcut := cut_wholeRead 1 (by decide)
  rcases framing_iff 7 generous_generous rfl (by decide) hcut with ⟨hall, hiff⟩
  refine ⟨hcut, ?_⟩
  rw [← hall]
  refine hiff.2 ?_ 1 le_rfl
  intro n hn
  have hzero : n = 0 := by simpa [wholeRead] using hn
  rw [hzero, completedBy_wholeRead (by decide)]
  exact not_lost_skills

/-- The 128-th data packet that comes in the same read as the session is not submitted. -/
theorem data_packet_lost :
    ¬ ∀ (env : Surroundings) (attachment capacity : Nat) (stream : PacketStream)
        (reads : List (List UInt8)), env.Generous →
        env.decodes packetSessionCreateRq stream.create.packet.body = true → capacity < 2 ^ 31 →
        stream.Cut reads capacity →
        (Connection.afterReads env attachment reads).submitted.flatten =
          contexts env attachment stream.frames := by
  intro h
  have hcut := cut_wholeRead 128 (by decide)
  have hlost := hcut.not_delivered (n := 0) 7 generous_generous rfl (by decide)
    (by decide) (by simp) (by rw [completedBy_wholeRead (by decide)]; exact lost_skills)
  have hall : ((skills 128).after (wholeRead 128) (0 + 1)).complete = (skills 128).frames :=
    hcut.after_length
  rw [hall] at hlost
  exact hlost (h generous 7 65536 (skills 128) (wholeRead 128) generous_generous rfl (by decide) hcut)

end Samples

end PacketStream

end NetworkEngine
end Engine
end SeamlessServer
