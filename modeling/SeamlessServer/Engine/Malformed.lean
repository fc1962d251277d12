import SeamlessServer.Engine.Framing
import Mathlib.Logic.Relation

/-!
# Engine.Malformed — reads of arbitrary bytes

What a peer sends need not be a stream of frames.  A frame carries its length twice, in the length
field and as the body size of its header; `OnRead` compares the first with the bytes at hand, and the
second with the bytes behind the header.  Neither comparison relates the two, and a length field below
the size of a header lets the cursor run past the end of the buffer.

* `in_bounds_iff` — the rounds that read inside the buffer and advance;
* `grammar_iff` — the rounds that take exactly a frame;
* `invalid_session_iff` — the reads that call a method through an absent session.

Each is stated over the rounds of the loop that a read reaches, for every content of the buffer,
whatever the surroundings answer.
-/

namespace SeamlessServer
namespace Engine
namespace NetworkEngine

open Protocol
open PacketStream (generous)

/-! ## A round in parts -/

namespace ReadState

variable (s : ReadState)

/-- The length field at the cursor. -/
def packetLength : Nat := ofBytes (s.buffer.data.take packetLengthSize)

/-- The header behind the length field. -/
def header : PacketHeader :=
  deserializePacketHeader ((s.seek packetLengthSize).buffer.data.take packetHeaderSize)

/-- As many bytes as the length field says are at hand. -/
def Complete : Prop :=
  packetLengthSize < s.buffer.remainBytes ∧
    s.packetLength ≤ s.buffer.remainBytes - packetLengthSize

/-- As many bytes as the header says are behind it. -/
def BodyFits : Prop := s.header.bodySize ≤ (afterHeader s).buffer.remainBytes

instance : Decidable s.Complete := inferInstanceAs (Decidable (_ ∧ _))

instance : Decidable s.BodyFits := inferInstanceAs (Decidable (_ ≤ _))

end ReadState

section Rounds

variable (env : Surroundings) (attachment : Nat)

/-- A packet whose body is there, from the state behind its header. -/
def readPacket (s : ReadState) (header : PacketHeader) : Flow :=
  if ¬ s.session then
    readSessionPacket env s header
  else if header.packetType = packetHeartbeatRq then
    .again ((s.operate [.updateHeartbeatReceivingTime, .send packetHeartbeatRs]).seek
      header.bodySize)
  else if header.packetType = packetHeartbeatRs then
    .again ((s.operate [.updateHeartbeatReceivingTime]).seek header.bodySize)
  else if header.packetType = packetSessionCreateRq ∨
      header.packetType = packetSessionCreateRs ∨
      header.packetType = packetSessionCloseRq then
    .exit (s.operate [.closeSession, .releaseReadBuffer s.buffer.buffer])
  else
    readDataPacket env attachment s header

/-- A round leaves the loop, returns, or reads a packet. -/
theorem readRound_eq (s : ReadState) :
    readRound env attachment s =
      if s.Complete then
        if s.BodyFits then
          readPacket env attachment (afterHeader s) s.header
        else
          .exit ((afterHeader s).operate
            [if s.session then .closeSession else .transmitDisconnect,
             .releaseReadBuffer { (afterHeader s).buffer.buffer with ref := 0 }])
      else
        .leave s := by
  by_cases hmore : s.buffer.remainBytes > packetLengthSize
  · rw [readRound, if_pos hmore]
    by_cases hlength : s.buffer.remainBytes - packetLengthSize < s.packetLength
    · have hnot : ¬ s.Complete := fun h => absurd h.2 (Nat.not_le.2 hlength)
      rw [if_neg hnot]
      exact if_pos hlength
    · have hcomplete : s.Complete := ⟨hmore, Nat.not_lt.1 hlength⟩
      rw [if_pos hcomplete]
      refine (if_neg hlength).trans ?_
      by_cases hbody : s.BodyFits
      · rw [if_pos hbody]
        exact if_neg (Nat.not_lt.2 hbody)
      · rw [if_neg hbody]
        exact if_pos (Nat.not_le.1 hbody)
  · have hnot : ¬ s.Complete := fun h => hmore h.1
    rw [readRound, if_neg hmore, if_neg hnot]

/-! ## Where a packet ends -/

/-- The reserved area has room for one more context. -/
def hasRoom (s : ReadState) : Bool := socketContextSize * (s.contextSequence + 1) ≤ reservedSize

/-- The rest of the buffer, from the body on, is copied to a new one. -/
def switches (s : ReadState) (header : PacketHeader) : Bool :=
  s.session && !hasRoom s && !(header.packetType = packetHeartbeatRq ||
    header.packetType = packetHeartbeatRs)

/-- What `ProcessSessionPacket` makes of a packet. -/
def sessionOutcome (s : ReadState) (header : PacketHeader) : SessionOutcome :=
  processSessionPacket env s.sessionPackets header (s.buffer.data.take header.bodySize)

/-- The loop goes on behind the packet. -/
def goesOn (s : ReadState) (header : PacketHeader) : Bool :=
  if ¬ s.session then
    (sessionOutcome env s header).contextType = .SessionError || hasRoom s
  else if header.packetType = packetHeartbeatRq ∨ header.packetType = packetHeartbeatRs then
    true
  else if header.packetType = packetSessionCreateRq ∨
      header.packetType = packetSessionCreateRs ∨
      header.packetType = packetSessionCloseRq then
    false
  else
    hasRoom s || ((env.allocate s.allocations).isSome && env.submit s.submissions)

/-- The length of the buffer in which the loop goes on. -/
def lengthAfter (s : ReadState) (header : PacketHeader) : Nat :=
  if switches s header then
    s.buffer.remainBytes
  else if s.session then
    s.buffer.buffer.length
  else
    match (sessionOutcome env s header).answer with
    | none => s.buffer.buffer.length
    | some packet => packetSize packet

/-- The state in which the loop goes on behind a packet. -/
structure Behind (s : ReadState) (header : PacketHeader) (s' : ReadState) : Prop where
  cursor : s'.buffer.cursor =
    toInt32 ((if switches s header then 0 else s.buffer.cursor) + toInt32 header.bodySize)
  length : s'.buffer.buffer.length = lengthAfter env s header
  session : s'.session =
    (s.session || !decide ((sessionOutcome env s header).contextType = .SessionError))
  operations : ∃ more, s'.operations = s.operations ++ more ∧ .invalidSession ∉ more

/-- The session or the stream is closed, and nothing is handed to the worker. -/
structure Closes (s s' : ReadState) : Prop where
  operations : ∃ more, s'.operations = s.operations ++ more ∧
    (.closeSession ∈ more ∨ .transmitDisconnect ∈ more) ∧ submittedChains more = [] ∧
    .invalidSession ∉ more

variable {env attachment}

variable {s : ReadState} {header : PacketHeader}

theorem prepareSocketContext_eq (c : DynamicBufferCursor) (contextType : ContextType) (n : Nat) :
    prepareSocketContext c contextType header n s.contextSequence =
      if hasRoom s then
        some (⟨contextType, header, c.data.take header.bodySize, n⟩, c.retain)
      else
        none := by
  by_cases hroom : socketContextSize * (s.contextSequence + 1) > reservedSize
  · simp [prepareSocketContext, hasRoom, hroom, Nat.not_le.2 hroom]
  · simp [prepareSocketContext, hasRoom, hroom, Nat.not_lt.1 hroom]

/-- A packet that opens a session is not answered over the read buffer. -/
theorem answer_of_opens {n : Nat} {body : List UInt8}
    (h : (processSessionPacket env n header body).contextType ≠ .SessionError) :
    (processSessionPacket env n header body).answer = none := by
  revert h
  unfold processSessionPacket
  split_ifs <;> simp

variable (env) in
/-- Rejecting a packet keeps the cursor; an answer sets the length of the buffer. -/
theorem rejectSessionPacket_spec (s : ReadState) (header : PacketHeader)
    (outcome : SessionOutcome) :
    (rejectSessionPacket env s header outcome).buffer.cursor = s.buffer.cursor ∧
      (rejectSessionPacket env s header outcome).buffer.buffer.length =
        (match outcome.answer with
        | none => s.buffer.buffer.length
        | some packet => packetSize packet) ∧
      (rejectSessionPacket env s header outcome).session = s.session ∧
      ∃ more, (rejectSessionPacket env s header outcome).operations = s.operations ++ more ∧
        .invalidSession ∉ more := by
  have hclosed : (sendSessionClosed env s header).buffer.cursor = s.buffer.cursor ∧
      (sendSessionClosed env s header).buffer.buffer.length = s.buffer.buffer.length ∧
      (sendSessionClosed env s header).session = s.session ∧
      ∃ more, (sendSessionClosed env s header).operations = s.operations ++ more ∧
        .invalidSession ∉ more := by
    unfold sendSessionClosed prepareSocketContext
    split
    · exact ⟨rfl, rfl, rfl, [], by simp⟩
    · rename_i h
      split at h
      · cases h
      · cases h
        split
        · exact ⟨rfl, rfl, rfl, _, rfl, by simp⟩
        · exact ⟨rfl, rfl, rfl, _, rfl, by simp⟩
  -- the state in which the answer is written
  obtain ⟨s₁, hs₁, hcursor, hlength, hsession, more, hmore, hinvalid⟩ : ∃ s₁ : ReadState,
      (if outcome.closes then sendSessionClosed env s header else s) = s₁ ∧
      s₁.buffer.cursor = s.buffer.cursor ∧ s₁.buffer.buffer.length = s.buffer.buffer.length ∧
      s₁.session = s.session ∧
      ∃ more, s₁.operations = s.operations ++ more ∧ .invalidSession ∉ more := by
    by_cases hcloses : outcome.closes
    · exact ⟨_, if_pos hcloses, hclosed⟩
    · exact ⟨_, if_neg hcloses, rfl, rfl, rfl, [], by simp⟩
  unfold rejectSessionPacket
  simp only [hs₁]
  cases outcome.answer with
  | none =>
      exact ⟨hcursor, hlength, hsession, more, hmore, hinvalid⟩
  | some packet =>
      refine ⟨hcursor, rfl, hsession, more ++ [.transmitWrite (s₁.buffer.serialize packet).buffer],
        ?_, by simpa using hinvalid⟩
      simp [ReadState.operate, hmore, List.append_assoc]

/-- Every packet ends in one of two ways. -/
def Outcomes (env : Surroundings) (s : ReadState) (header : PacketHeader) (flow : Flow) : Prop :=
  (goesOn env s header = true ∧ ∃ s', flow = .again s' ∧ Behind env s header s') ∨
    (goesOn env s header = false ∧ ∃ s', flow = .exit s' ∧ Closes s s')

/-- A packet that opens a session gets a context, if there is room for one. -/
theorem readSessionPacket_of_opens {s₁ : ReadState} {outcome : SessionOutcome}
    (houtcome : outcome = sessionOutcome env s header)
    (hs₁ : s₁ = { s with sessionPackets := s.sessionPackets + 1 }.operate
      (outcome.sends.toList.map Operation.send)) (herror : ¬ outcome.contextType = .SessionError) :
    readSessionPacket env s header =
      match prepareSocketContext s₁.buffer outcome.contextType header
        env.connectorAttachment s.contextSequence with
      | none => .exit ({ s₁ with session := true, contextSequence := s₁.contextSequence + 1 }.operate
          [.transmitDisconnect, .releaseReadBuffer s₁.buffer.buffer])
      | some (context, buffer) =>
          .again { s₁ with
            session := true
            contextSequence := s₁.contextSequence + 1
            chain := s₁.chain ++ [context]
            buffer := buffer.seek header.bodySize } := by
  subst hs₁ houtcome
  exact if_neg herror

theorem readSessionPacket_outcomes (hsession : s.session = false) :
    Outcomes env s header (readSessionPacket env s header) := by
  have hswitches : switches s header = false := by
    simp [switches, hsession]
  set outcome := sessionOutcome env s header with houtcome
  set s₁ := { s with sessionPackets := s.sessionPackets + 1 }.operate
    (outcome.sends.toList.map Operation.send) with hs₁
  have hsends : .invalidSession ∉ outcome.sends.toList.map Operation.send := by
    simp
  by_cases herror : outcome.contextType = .SessionError
  · -- rejected: the loop goes on without a session
    obtain ⟨hcursor, hlength, hvalid, more, hmore, hinvalid⟩ :=
      rejectSessionPacket_spec env s₁ header outcome
    refine .inl ⟨by simp [goesOn, hsession, ← houtcome, herror], _,
      if_pos herror, ?_, ?_, ?_, outcome.sends.toList.map Operation.send ++ more, ?_, ?_⟩
    · simp only [ReadState.seek, DynamicBufferCursor.seek, hswitches]
      exact congrArg (fun c => toInt32 (c + _)) hcursor
    · have hafter : lengthAfter env s header =
          match outcome.answer with
          | none => s.buffer.buffer.length
          | some packet => packetSize packet := by
        simp [lengthAfter, hswitches, hsession, ← houtcome]
      rw [hafter]
      exact hlength
    · exact (hvalid.trans hsession).trans (by simp [← houtcome, herror, hsession])
    · exact hmore.trans (List.append_assoc _ _ _)
    · simpa using hinvalid
  · rw [readSessionPacket_of_opens houtcome hs₁ herror, prepareSocketContext_eq]
    by_cases hroom : hasRoom s
    · -- accepted: the context of the new session begins the chain
      rw [if_pos hroom]
      have hanswer : outcome.answer = none := answer_of_opens herror
      refine .inl ⟨by simp [goesOn, hsession, hroom], _, rfl, ?_, ?_, ?_,
        outcome.sends.toList.map Operation.send, rfl, hsends⟩
      · simp [DynamicBufferCursor.seek, DynamicBufferCursor.retain, hswitches, hs₁,
          ReadState.operate]
      · simp [lengthAfter, hswitches, hsession, ← houtcome, hanswer, DynamicBufferCursor.seek,
          DynamicBufferCursor.retain, hs₁, ReadState.operate]
      · simp [← houtcome, herror]
    · rw [if_neg hroom]
      refine .inr ⟨by simp [goesOn, hsession, ← houtcome, herror, hroom], _, rfl,
        outcome.sends.toList.map Operation.send ++
          [.transmitDisconnect, .releaseReadBuffer s₁.buffer.buffer], ?_, ?_, ?_, ?_⟩
      · simp [ReadState.operate, hs₁]
      · exact .inr (by simp)
      · rw [submittedChains_append]
        cases outcome.sends <;> rfl
      · simp

theorem readDataPacket_outcomes (hsession : s.session = true)
    (hheartbeat : ¬ (header.packetType = packetHeartbeatRq ∨ header.packetType = packetHeartbeatRs))
    (hcontrol : ¬ (header.packetType = packetSessionCreateRq ∨
      header.packetType = packetSessionCreateRs ∨ header.packetType = packetSessionCloseRq)) :
    Outcomes env s header (readDataPacket env attachment s header) := by
  have hgoesOn : goesOn env s header =
      (hasRoom s || ((env.allocate s.allocations).isSome && env.submit s.submissions)) := by
    simp [goesOn, hsession, hheartbeat, hcontrol]
  have hswitches : switches s header = !hasRoom s := by
    simp only [not_or] at hheartbeat
    simp [switches, hsession, hheartbeat]
  rw [readDataPacket, prepareSocketContext_eq]
  by_cases hroom : hasRoom s
  · rw [if_pos hroom]
    refine .inl ⟨by simp [hgoesOn, hroom], _, rfl, ?_, ?_, ?_, [], by simp [link], by simp⟩
    · simp [link, DynamicBufferCursor.seek, DynamicBufferCursor.retain, hswitches, hroom]
    · simp [link, lengthAfter, DynamicBufferCursor.seek, DynamicBufferCursor.retain, hswitches,
        hroom, hsession]
    · simp [link, hsession]
  · rw [if_neg hroom]
    cases hallocate : env.allocate s.allocations with
    | none =>
        refine .inr ⟨by simp [hgoesOn, hroom, hallocate], _, rfl,
          [.send packetBandwithOverflowPs, .closeSession, .releaseReadBuffer s.buffer.buffer], rfl,
          by simp, rfl, by simp⟩
    | some memory =>
        cases hsubmit : env.submit s.submissions with
        | false =>
            simp only [hsubmit]
            exact .inr ⟨by simp [hgoesOn, hroom, hsubmit], _, rfl, _, rfl, by simp, rfl, by simp⟩
        | true =>
            -- the context of the packet is the first in the new buffer
            simp only [hsubmit, if_true]
            refine .inl ⟨by simp [hgoesOn, hallocate, hsubmit], _, rfl, ?_, ?_, ?_,
              [.submit s.chain], ?_, by simp⟩
            · simp [link, prepareSocketContext, socketContextSize, reservedSize, hswitches, hroom,
                DynamicBufferCursor.seek, DynamicBufferCursor.retain, DynamicBufferCursor.ofBuffer]
            · simp [link, prepareSocketContext, socketContextSize, reservedSize, hswitches, hroom,
                DynamicBufferCursor.seek, DynamicBufferCursor.retain, DynamicBufferCursor.ofBuffer,
                lengthAfter]
            · simp [link, prepareSocketContext, socketContextSize, reservedSize, ReadState.operate,
                hsession]
            · simp [link, prepareSocketContext, socketContextSize, reservedSize, ReadState.operate]

variable (env attachment) in
theorem readPacket_outcomes (s : ReadState) (header : PacketHeader) :
    Outcomes env s header (readPacket env attachment s header) := by
  cases hsession : s.session with
  | false =>
      rw [readPacket, if_pos (by simp [hsession])]
      exact readSessionPacket_outcomes hsession
  | true =>
      rw [readPacket, if_neg (by simp [hsession])]
      by_cases hheartbeat : header.packetType = packetHeartbeatRq ∨
          header.packetType = packetHeartbeatRs
      · have hgoesOn : goesOn env s header = true := by
          simp [goesOn, hsession, hheartbeat]
        have hswitches : switches s header = false := by
          rcases hheartbeat with h | h <;> simp [switches, h]
        have hbehind : ∀ more, .invalidSession ∉ more →
            Behind env s header ((s.operate more).seek header.bodySize) := by
          intro more hmore
          refine ⟨?_, ?_, ?_, more, rfl, hmore⟩
          · simp [ReadState.seek, ReadState.operate, DynamicBufferCursor.seek, hswitches]
          · simp [ReadState.seek, ReadState.operate, DynamicBufferCursor.seek, hswitches,
              lengthAfter, hsession]
          · simp [ReadState.seek, ReadState.operate, hsession]
        by_cases hrq : header.packetType = packetHeartbeatRq
        · rw [if_pos hrq]
          exact .inl ⟨hgoesOn, _, rfl, hbehind _ (by simp)⟩
        · rw [if_neg hrq, if_pos (hheartbeat.resolve_left hrq)]
          exact .inl ⟨hgoesOn, _, rfl, hbehind _ (by simp)⟩
      · rw [if_neg (fun h => hheartbeat (.inl h)), if_neg (fun h => hheartbeat (.inr h))]
        by_cases hcontrol : header.packetType = packetSessionCreateRq ∨
            header.packetType = packetSessionCreateRs ∨ header.packetType = packetSessionCloseRq
        · rw [if_pos hcontrol]
          exact .inr ⟨by simp [goesOn, hsession, hheartbeat, hcontrol], _, rfl, _, rfl, by simp,
            rfl, by simp⟩
        · rw [if_neg hcontrol]
          exact readDataPacket_outcomes hsession hheartbeat hcontrol

/-! ## Rounds in bounds -/

/-- The bytes a round reads, as offsets into the buffer and lengths.  The body is read by
`ProcessSessionPacket`, by the copy to a new buffer, or by the worker. -/
def roundReads (s : ReadState) : List (Int × Nat) :=
  if packetLengthSize < s.buffer.remainBytes then
    (s.buffer.cursor, packetLengthSize) ::
      if s.Complete then
        ((s.seek packetLengthSize).buffer.cursor, packetHeaderSize) ::
          if s.BodyFits then [((afterHeader s).buffer.cursor, s.header.bodySize)] else []
      else
        []
  else
    []

variable (env attachment) in
/-- A round reads only bytes below the length of the buffer.  If the loop goes on, the cursor is inside
the buffer and has advanced by the size of a frame without body; when the rest was copied to a new
buffer, so many bytes less are ahead. -/
structure InBounds (s : ReadState) : Prop where
  reads : ∀ r ∈ roundReads s, 0 ≤ r.1 ∧ r.1 + r.2 ≤ s.buffer.buffer.length
  cursor : ∀ s', readRound env attachment s = .again s' →
    0 ≤ s'.buffer.cursor ∧ s'.buffer.cursor ≤ s'.buffer.buffer.length
  advance : ∀ s', readRound env attachment s = .again s' →
    if switches (afterHeader s) s.header then
      s'.buffer.remainBytes + (packetLengthSize + packetHeaderSize) ≤ s.buffer.remainBytes
    else
      s.buffer.cursor + (packetLengthSize + packetHeaderSize : Nat) ≤ s'.buffer.cursor

/-- Where the body of the packet begins in the buffer in which the loop goes on. -/
def bodyStart (s : ReadState) : Int :=
  if switches (afterHeader s) s.header then
    0
  else
    s.buffer.cursor + (packetLengthSize + packetHeaderSize : Nat)

variable (env) in
/-- A frame that is taken has a whole header below the range of `int32_t`, and if the loop goes on, it
does so behind the body, inside the buffer and below that range. -/
structure Fits (s : ReadState) : Prop where
  header : s.Complete → packetLengthSize + packetHeaderSize ≤ s.buffer.remainBytes ∧
    s.buffer.cursor + packetLengthSize < 2 ^ 31
  body : s.Complete → s.BodyFits →
    s.buffer.cursor + (packetLengthSize + packetHeaderSize : Nat) < 2 ^ 31
  behind : s.Complete → s.BodyFits → goesOn env (afterHeader s) s.header = true →
    bodyStart s + s.header.bodySize < 2 ^ 31 ∧
      bodyStart s + s.header.bodySize ≤ lengthAfter env (afterHeader s) s.header

/-- The cursor as an `int32_t` inside a buffer with a `uint32_t` length. -/
structure Inside (s : ReadState) : Prop where
  nonneg : 0 ≤ s.buffer.cursor
  lt : s.buffer.cursor < 2 ^ 31
  le : s.buffer.cursor ≤ s.buffer.buffer.length
  length : s.buffer.buffer.length < 2 ^ 32

theorem toInt32_bounds (n : Int) : -2 ^ 31 ≤ toInt32 n ∧ toInt32 n < 2 ^ 31 := by
  unfold toInt32
  omega

theorem toInt32_eq_iff (n m : Int) : toInt32 n = m ↔
    -2 ^ 31 ≤ m ∧ m < 2 ^ 31 ∧ (n - m) % 2 ^ 32 = 0 := by
  unfold toInt32
  omega

theorem Inside.remainBytes (h : Inside s) :
    (s.buffer.remainBytes : Int) = s.buffer.buffer.length - s.buffer.cursor := by
  have hnonneg := h.nonneg
  have hle := h.le
  have hlength := h.length
  unfold DynamicBufferCursor.remainBytes
  omega

theorem cursor_seek (s : ReadState) {n : Nat} (h : n < 2 ^ 31) :
    (s.seek n).buffer.cursor = toInt32 (s.buffer.cursor + n) := by
  simp [ReadState.seek, DynamicBufferCursor.seek, DynamicBufferCursor.toInt32_of_lt h]

theorem cursor_afterHeader (s : ReadState) :
    (afterHeader s).buffer.cursor =
      toInt32 (toInt32 (s.buffer.cursor + packetLengthSize) + packetHeaderSize) := by
  rw [afterHeader, cursor_seek _ (by decide), cursor_seek _ (by decide)]

/-- A round in which the loop goes on has taken a packet. -/
theorem of_readRound_again {s' : ReadState} (h : readRound env attachment s = .again s') :
    s.Complete ∧ s.BodyFits ∧ goesOn env (afterHeader s) s.header = true ∧
      Behind env (afterHeader s) s.header s' := by
  rw [readRound_eq] at h
  by_cases hcomplete : s.Complete
  · by_cases hbody : s.BodyFits
    · rw [if_pos hcomplete, if_pos hbody] at h
      rcases readPacket_outcomes env attachment (afterHeader s) s.header
        with ⟨hgoesOn, s₁, hs₁, hbehind⟩ | ⟨_, s₁, hs₁, _⟩
      · cases hs₁.symm.trans h
        exact ⟨hcomplete, hbody, hgoesOn, hbehind⟩
      · cases hs₁.symm.trans h
    · rw [if_pos hcomplete, if_neg hbody] at h
      cases h
  · rw [if_neg hcomplete] at h
    cases h

variable (env attachment) in
theorem exists_again (hcomplete : s.Complete) (hbody : s.BodyFits)
    (hgoesOn : goesOn env (afterHeader s) s.header = true) :
    ∃ s', readRound env attachment s = .again s' ∧ Behind env (afterHeader s) s.header s' := by
  rw [readRound_eq, if_pos hcomplete, if_pos hbody]
  rcases readPacket_outcomes env attachment (afterHeader s) s.header
    with ⟨_, s', hs', hbehind⟩ | ⟨hnot, _⟩
  · exact ⟨s', hs', hbehind⟩
  · rw [hgoesOn] at hnot
    cases hnot

theorem remainBytes_lt (c : DynamicBufferCursor) : c.remainBytes < 2 ^ 32 := by
  unfold DynamicBufferCursor.remainBytes
  omega

theorem length_afterHeader (s : ReadState) :
    (afterHeader s).buffer.buffer.length = s.buffer.buffer.length := rfl

theorem lengthAfter_lt (h : s.buffer.buffer.length < 2 ^ 32) :
    lengthAfter env (afterHeader s) header < 2 ^ 32 := by
  unfold lengthAfter
  split_ifs
  · exact remainBytes_lt _
  · exact h
  · split
    · exact h
    · exact Nat.mod_lt _ (by norm_num)

/-- The bytes behind the header of a frame that has one. -/
theorem Inside.remainBytes_afterHeader (h : Inside s)
    (hheader : packetLengthSize + packetHeaderSize ≤ s.buffer.remainBytes) :
    (afterHeader s).buffer.remainBytes + (packetLengthSize + packetHeaderSize) =
      s.buffer.remainBytes := by
  have hremain := h.remainBytes
  have hnonneg := h.nonneg
  have hlength := h.length
  have hafter := cursor_afterHeader s
  simp only [packetLengthSize, packetHeaderSize, toInt32] at *
  unfold DynamicBufferCursor.remainBytes at *
  rw [hafter, length_afterHeader]
  omega

/-- Where the loop goes on, as an `int32_t`. -/
theorem Behind.cursor_eq {s' : ReadState} (h : Behind env (afterHeader s) s.header s') :
    s'.buffer.cursor = toInt32 (bodyStart s + s.header.bodySize) := by
  have hafter := cursor_afterHeader s
  have hcursor := h.cursor
  unfold bodyStart
  cases hswitches : switches (afterHeader s) s.header with
  | true =>
      simp only [hswitches, if_true, toInt32] at hcursor ⊢
      omega
  | false =>
      simp only [hswitches, hafter, toInt32, packetLengthSize, packetHeaderSize] at hcursor ⊢
      simp only [Bool.false_eq_true, if_false] at hcursor ⊢
      omega

theorem bodyStart_nonneg (h : 0 ≤ s.buffer.cursor) : 0 ≤ bodyStart s := by
  unfold bodyStart
  split <;> omega

theorem Behind.cursor_of_lt {s' : ReadState} (h : Behind env (afterHeader s) s.header s')
    (hnonneg : 0 ≤ s.buffer.cursor) (hlt : bodyStart s + s.header.bodySize < 2 ^ 31) :
    s'.buffer.cursor = bodyStart s + s.header.bodySize := by
  have hstart := bodyStart_nonneg hnonneg
  rw [h.cursor_eq, toInt32_eq_iff]
  exact ⟨by omega, hlt, by simp⟩

/-- The end of a body that fits is in the range of the length. -/
theorem Inside.bodyEnd_lt (h : Inside s) (hheader : packetLengthSize + packetHeaderSize ≤
    s.buffer.remainBytes) (hfits : s.BodyFits) :
    0 ≤ bodyStart s + s.header.bodySize ∧ bodyStart s + s.header.bodySize < 2 ^ 32 := by
  have hremain := h.remainBytes
  have hnonneg := h.nonneg
  have hlength := h.length
  have hafter := h.remainBytes_afterHeader hheader
  have hfits' : s.header.bodySize ≤ (afterHeader s).buffer.remainBytes := hfits
  unfold bodyStart
  split <;> omega

/-- From a cursor inside the buffer, a round in bounds has a frame that fits. -/
theorem Inside.fits (h : Inside s) (hbounds : InBounds env attachment s) : Fits env s := by
  have hremain := h.remainBytes
  have hnonneg := h.nonneg
  have hlength := h.length
  have hreads := hbounds.reads
  have hheader : s.Complete →
      packetLengthSize + packetHeaderSize ≤ s.buffer.remainBytes ∧
        s.buffer.cursor + packetLengthSize < 2 ^ 31 := by
    intro hcomplete
    have hread := hreads ((s.seek packetLengthSize).buffer.cursor, packetHeaderSize)
      (by simp [roundReads, hcomplete.1, hcomplete])
    have hlt := h.lt
    rw [cursor_seek _ (by decide)] at hread
    simp only [toInt32, packetLengthSize, packetHeaderSize] at hread ⊢
    omega
  refine ⟨hheader, ?_, ?_⟩
  · intro hcomplete hfits
    have hread := hreads ((afterHeader s).buffer.cursor, s.header.bodySize)
      (by simp [roundReads, hcomplete.1, hcomplete, hfits])
    have hheader' := hheader hcomplete
    rw [cursor_afterHeader] at hread
    simp only [toInt32, packetLengthSize, packetHeaderSize] at hread hheader' ⊢
    omega
  · intro hcomplete hfits hgoesOn
    obtain ⟨s', hagain, hbehind⟩ := exists_again env attachment hcomplete hfits hgoesOn
    obtain ⟨hnonneg', hle'⟩ := hbounds.cursor s' hagain
    rw [hbehind.length] at hle'
    rw [hbehind.cursor_eq] at hnonneg' hle'
    -- below the range of `uint32_t`, a position that wraps is negative
    obtain ⟨hpos, hlt'⟩ := h.bodyEnd_lt (hheader hcomplete).1 hfits
    simp only [toInt32] at hnonneg' hle'
    omega

/-- The cursor behind a frame that fits. -/
theorem Fits.cursor_eq (hfits : Fits env s) {s' : ReadState}
    (hagain : readRound env attachment s = .again s') (h : Inside s) :
    s'.buffer.cursor = bodyStart s + s.header.bodySize ∧
      s'.buffer.cursor ≤ s'.buffer.buffer.length := by
  obtain ⟨hcomplete, hbody, hgoesOn, hbehind⟩ := of_readRound_again hagain
  obtain ⟨hlt, hle⟩ := hfits.behind hcomplete hbody hgoesOn
  have hcursor := hbehind.cursor_of_lt h.nonneg hlt
  refine ⟨hcursor, ?_⟩
  rw [hcursor, hbehind.length]
  exact hle

/-- Behind a frame that fits, the cursor is inside again. -/
theorem Inside.again (h : Inside s) (hfits : Fits env s) {s' : ReadState}
    (hagain : readRound env attachment s = .again s') : Inside s' := by
  obtain ⟨hcomplete, hbody, _, hbehind⟩ := of_readRound_again hagain
  obtain ⟨hcursor, hle⟩ := hfits.cursor_eq hagain h
  obtain ⟨hpos, _⟩ := h.bodyEnd_lt (hfits.header hcomplete).1 hbody
  refine ⟨by omega, ?_, hle, ?_⟩
  · rw [hbehind.cursor_eq]
    exact (toInt32_bounds _).2
  · rw [hbehind.length]
    exact lengthAfter_lt h.length

variable (attachment) in
theorem Fits.inBounds (hfits : Fits env s) (h : Inside s) : InBounds env attachment s := by
  have hremain := h.remainBytes
  have hnonneg := h.nonneg
  have hlength := h.length
  refine ⟨?_, ?_, ?_⟩
  -- the reads of the round: the length, the header and the body, as far as the packet is there
  · intro r hr
    by_cases hmore : packetLengthSize < s.buffer.remainBytes
    · by_cases hcomplete : s.Complete
      · obtain ⟨hheader, hlt⟩ := hfits.header hcomplete
        have hlengthField : (s.seek packetLengthSize).buffer.cursor =
            s.buffer.cursor + packetLengthSize := by
          rw [cursor_seek _ (by decide), toInt32_eq_iff]
          exact ⟨by omega, hlt, by simp⟩
        by_cases hbody : s.BodyFits
        · have hlt' := hfits.body hcomplete hbody
          have hafter := h.remainBytes_afterHeader hheader
          have hbody' : s.header.bodySize ≤ (afterHeader s).buffer.remainBytes := hbody
          have hbodyField : (afterHeader s).buffer.cursor =
              s.buffer.cursor + (packetLengthSize + packetHeaderSize : Nat) := by
            rw [cursor_afterHeader, ← cursor_seek _ (by decide), hlengthField, toInt32_eq_iff]
            push_cast
            push_cast at hlt'
            exact ⟨by omega, by omega, by simp [add_assoc]⟩
          simp only [roundReads, hmore, if_true, hcomplete, hbody, hlengthField, hbodyField,
            List.mem_cons, List.not_mem_nil, or_false] at hr
          rcases hr with rfl | rfl | rfl <;> simp only <;> omega
        · simp only [roundReads, hmore, if_true, hcomplete, hbody, if_false, hlengthField,
            List.mem_cons, List.not_mem_nil, or_false] at hr
          rcases hr with rfl | rfl <;> simp only <;> omega
      · simp only [roundReads, hmore, if_true, hcomplete, if_false, List.mem_singleton] at hr
        subst hr
        simp only
        omega
    · simp [roundReads, hmore] at hr
  · intro s' hagain
    have hinside := h.again hfits hagain
    exact ⟨hinside.nonneg, hinside.le⟩
  -- the next round begins behind the body
  · intro s' hagain
    obtain ⟨hcomplete, hbody, _, hbehind⟩ := of_readRound_again hagain
    obtain ⟨hcursor, hle⟩ := hfits.cursor_eq hagain h
    have hinside := (h.again hfits hagain).remainBytes
    have hafter := h.remainBytes_afterHeader (hfits.header hcomplete).1
    have hlength' := hbehind.length
    cases hswitches : switches (afterHeader s) s.header with
    | true =>
        simp only [bodyStart, hswitches, if_true] at hcursor
        simp only [lengthAfter, hswitches, if_true] at hlength'
        simp only [if_true]
        omega
    | false =>
        simp only [bodyStart, hswitches, Bool.false_eq_true, if_false] at hcursor
        simp only [Bool.false_eq_true, if_false]
        omega

/-! ## Reads in bounds -/

variable (env attachment) in
/-- The rounds of a read: the states at which the loop begins another round. -/
def Iterates : ReadState → ReadState → Prop :=
  Relation.ReflTransGen fun s s' => readRound env attachment s = .again s'

/-- A cursor at the beginning of a buffer is inside. -/
theorem inside_start (hcursor : s.buffer.cursor = 0) (hlength : s.buffer.buffer.length < 2 ^ 32) :
    Inside s :=
  ⟨by omega, by omega, by omega, hlength⟩

theorem Inside.iterates {s₀ : ReadState} (h : Inside s₀) (hiterates : Iterates env attachment s₀ s)
    (hfits : ∀ s, Iterates env attachment s₀ s → Fits env s) : Inside s := by
  induction hiterates with
  | refl =>
      exact h
  | tail hprefix hagain ih =>
      exact ih.again (hfits _ hprefix) hagain

/-- Before there is a session the cursor rises, afterwards the bytes ahead become fewer. -/
def roundsLeft (s : ReadState) : Nat :=
  if s.session then s.buffer.remainBytes else 2 ^ 32 + (2 ^ 31 - s.buffer.cursor).toNat

theorem Fits.roundsLeft_lt (hfits : Fits env s) (h : Inside s) {s' : ReadState}
    (hagain : readRound env attachment s = .again s') : roundsLeft s' < roundsLeft s := by
  obtain ⟨hcomplete, hbody, _, hbehind⟩ := of_readRound_again hagain
  have hadvance := (hfits.inBounds attachment h).advance s' hagain
  have hinside := h.again hfits hagain
  have hremain := h.remainBytes
  have hremain' := hinside.remainBytes
  have hlt := remainBytes_lt s'.buffer
  have hlt' := hinside.lt
  have hsession := hbehind.session
  have hsame : (afterHeader s).session = s.session := rfl
  rw [hsame] at hsession
  cases hvalid : s.session with
  | true =>
      -- the length of the buffer changes only with the buffer
      rw [hvalid, Bool.true_or] at hsession
      have hlength := hbehind.length
      simp only [roundsLeft, hvalid, hsession, if_true]
      cases hswitches : switches (afterHeader s) s.header with
      | true =>
          simp only [hswitches, if_true, packetLengthSize, packetHeaderSize] at hadvance
          omega
      | false =>
          simp only [hswitches, Bool.false_eq_true, if_false, packetLengthSize,
            packetHeaderSize] at hadvance
          simp only [lengthAfter, hswitches, hsame, hvalid, Bool.false_eq_true, if_false, if_true,
            length_afterHeader] at hlength
          omega
  | false =>
      have hswitches : switches (afterHeader s) s.header = false := by
        simp [switches, hsame, hvalid]
      simp only [hswitches, Bool.false_eq_true, if_false, packetLengthSize,
        packetHeaderSize] at hadvance
      cases hvalid' : s'.session with
      | true =>
          simp only [roundsLeft, hvalid, hvalid', if_true, Bool.false_eq_true, if_false]
          omega
      | false =>
          simp only [roundsLeft, hvalid, hvalid', Bool.false_eq_true, if_false]
          omega

/-- The loop ends if every frame it takes fits. -/
theorem readLoop_ends : ∀ (rounds : Nat) (s : ReadState), roundsLeft s < rounds → Inside s →
    (∀ s', Iterates env attachment s s' → Fits env s') →
    ∀ s', readLoop env attachment rounds s ≠ .again s' := by
  intro rounds
  induction rounds with
  | zero =>
      intro s hrounds
      simp at hrounds
  | succ rounds ih =>
      intro s hrounds h hfits s'
      rw [readLoop]
      cases hround : readRound env attachment s with
      | leave s₁ =>
          simp
      | exit s₁ =>
          simp
      | again s₁ =>
          have hfits₀ := hfits s .refl
          have hless := hfits₀.roundsLeft_lt h hround
          exact ih s₁ (by omega) (h.again hfits₀ hround)
            (fun s₂ h₂ => hfits s₂ (.head hround h₂)) s'

/-- Every round of a read stays in bounds and advances if and only if every frame it takes has a whole
header and, where the loop goes on, ends inside the buffer; all below the range of `int32_t`.  In that
case the loop ends. -/
theorem in_bounds_iff (env : Surroundings) (attachment : Nat) (s₀ : ReadState)
    (hcursor : s₀.buffer.cursor = 0) (hlength : s₀.buffer.buffer.length < 2 ^ 32) :
    ((∀ s, Iterates env attachment s₀ s → InBounds env attachment s) ↔
      ∀ s, Iterates env attachment s₀ s → Fits env s) ∧
    ((∀ s, Iterates env attachment s₀ s → Fits env s) →
      ∃ rounds, ∀ s, readLoop env attachment rounds s₀ ≠ .again s) := by
  have hstart := inside_start hcursor hlength
  refine ⟨⟨?_, ?_⟩, ?_⟩
  · intro hbounds
    -- the cursor stays inside the memory, by induction along the rounds
    have hinside : ∀ s, Iterates env attachment s₀ s → Inside s := by
      intro s hiterates
      induction hiterates with
      | refl =>
          exact hstart
      | tail hprefix hagain ih =>
          exact ih.again (ih.fits (hbounds _ hprefix)) hagain
    intro s hiterates
    exact (hinside s hiterates).fits (hbounds s hiterates)
  · intro hfits s hiterates
    exact (hfits s hiterates).inBounds attachment (hstart.iterates hiterates hfits)
  -- a round that reads inside the memory moves the position on
  · intro hfits
    exact ⟨roundsLeft s₀ + 1, readLoop_ends _ s₀ (Nat.lt_succ_self _) hstart hfits⟩

/-- A read of the given bytes into a buffer of 32 zeros. -/
def readOf (session : Bool) (bytes : List UInt8) : ReadState where
  session := session
  allocations := 0
  submissions := 0
  sessionPackets := 0
  buffer := .ofBuffer ⟨writeMemory (List.replicate 32 0) 0 bytes, bytes.length, 0⟩

/-- A `packet_heartbeat_rs` without body. -/
def heartbeat : List UInt8 := [8, 0, 0, 0, 1, 0, 0, 0, 0, 0, 0, 0]

/-- Behind a heartbeat without body, the loop is left. -/
theorem iterates_heartbeat (h : Iterates generous 0 (readOf true heartbeat) s) :
    s = readOf true heartbeat ∨ (s.Complete → False) := by
  rcases Relation.ReflTransGen.cases_head h with rfl | ⟨s₁, hround, hrest⟩
  · exact .inl rfl
  · have hlast : ¬ s₁.Complete := by
      have hs₁ : readRound generous 0 (readOf true heartbeat) =
          .again (((afterHeader (readOf true heartbeat)).operate
            [.updateHeartbeatReceivingTime]).seek 0) := by
        decide +kernel
      cases hround.symm.trans hs₁
      decide +kernel
    rcases Relation.ReflTransGen.cases_head hrest with rfl | ⟨s₂, hround', _⟩
    · exact .inr hlast
    · exact absurd (of_readRound_again hround').1 hlast

theorem in_bounds_heartbeat :
    (∀ s, Iterates generous 0 (readOf true heartbeat) s → InBounds generous 0 s) ∧
      ∃ rounds, ∀ s, readLoop generous 0 rounds (readOf true heartbeat) ≠ .again s := by
  have hfits : ∀ s, Iterates generous 0 (readOf true heartbeat) s → Fits generous s := by
    intro s hs
    rcases iterates_heartbeat hs with rfl | hlast
    · exact ⟨fun _ => by decide +kernel, fun _ _ => by decide +kernel,
        fun _ _ _ => by decide +kernel⟩
    · exact ⟨fun h => (hlast h).elim, fun h => (hlast h).elim, fun h => (hlast h).elim⟩
  have hiff := in_bounds_iff generous 0 (readOf true heartbeat) rfl (by decide)
  exact ⟨hiff.1.2 hfits, hiff.2 hfits⟩

/-- Five zeros are taken for a frame of length zero.  Its header is read behind the end of the buffer,
and the bytes that remain are counted from there. -/
theorem short_frame_out_of_bounds :
    (¬ ∀ s, Iterates generous 0 (readOf true [0, 0, 0, 0, 0]) s → InBounds generous 0 s) ∧
      ∃ s, readRound generous 0 (readOf true [0, 0, 0, 0, 0]) = .again s ∧
        s.buffer.cursor = 12 ∧ s.buffer.buffer.length = 5 ∧
        s.buffer.remainBytes = 2 ^ 32 - 7 := by
  refine ⟨?_, _, rfl, by decide +kernel, by decide +kernel, by decide +kernel⟩
  intro hbounds
  have hread := (hbounds _ .refl).reads (4, 8) (by decide +kernel)
  have hlength : (readOf true [0, 0, 0, 0, 0]).buffer.buffer.length = 5 := rfl
  rw [hlength] at hread
  simp at hread

/-! ## Rounds by the grammar -/

/-- The bytes the loop has moved on by. -/
def consumed (s s' : ReadState) : Int :=
  if switches (afterHeader s) s.header then
    (packetLengthSize + packetHeaderSize : Nat) + s'.buffer.cursor
  else
    s'.buffer.cursor - s.buffer.cursor

variable (env attachment) in
/-- A round takes a packet only if its two lengths agree, and then exactly that packet; a frame whose
lengths disagree closes the session or the stream. -/
structure Parses (s : ReadState) : Prop where
  taken : ∀ s', readRound env attachment s = .again s' →
    s.packetLength = packetHeaderSize + s.header.bodySize ∧
      consumed s s' = (packetLengthSize + s.packetLength : Nat)
  refused : s.Complete → s.packetLength ≠ packetHeaderSize + s.header.bodySize →
    ∃ s', readRound env attachment s = .exit s' ∧ Closes s s'

variable (env) in
/-- A packet behind which the loop goes on has two lengths that agree, and ends below the range of
`int32_t`. -/
def Agrees (s : ReadState) : Prop :=
  s.Complete → s.BodyFits → goesOn env (afterHeader s) s.header = true →
    s.packetLength = packetHeaderSize + s.header.bodySize ∧
      bodyStart s + s.header.bodySize < 2 ^ 31

variable (attachment) in
/-- A round that takes a frame and does not go on returns. -/
theorem exists_exit (hcomplete : s.Complete)
    (hnot : ¬ (s.BodyFits ∧ goesOn env (afterHeader s) s.header = true)) :
    ∃ s', readRound env attachment s = .exit s' ∧ Closes s s' := by
  rw [readRound_eq, if_pos hcomplete]
  by_cases hbody : s.BodyFits
  · rw [if_pos hbody]
    rcases readPacket_outcomes env attachment (afterHeader s) s.header
      with ⟨hgoesOn, _⟩ | ⟨_, s', hs', ⟨more, hmore, hcloses⟩⟩
    · exact absurd ⟨hbody, hgoesOn⟩ hnot
    · exact ⟨s', hs', ⟨more, hmore, hcloses⟩⟩
  · rw [if_neg hbody]
    refine ⟨_, rfl, ⟨_, rfl, ?_, ?_, ?_⟩⟩
    · cases s.session <;> simp
    · cases s.session <;> rfl
    · cases s.session <;> simp

theorem parses_iff (hnonneg : 0 ≤ s.buffer.cursor) :
    Parses env attachment s ↔ Agrees env s := by
  constructor
  · intro hparses hcomplete hbody hgoesOn
    obtain ⟨s', hagain, hbehind⟩ := exists_again env attachment hcomplete hbody hgoesOn
    obtain ⟨hlengths, hconsumed⟩ := hparses.taken s' hagain
    refine ⟨hlengths, ?_⟩
    have hcursor := hbehind.cursor_eq
    have hbounds := toInt32_bounds (bodyStart s + s.header.bodySize)
    rw [hlengths] at hconsumed
    unfold consumed at hconsumed
    unfold bodyStart at hcursor hbounds ⊢
    by_cases hswitches : switches (afterHeader s) s.header = true
    · rw [if_pos hswitches] at hconsumed hcursor hbounds ⊢
      omega
    · rw [if_neg hswitches] at hconsumed hcursor hbounds ⊢
      omega
  · intro hagrees
    refine ⟨?_, ?_⟩
    · intro s' hagain
      obtain ⟨hcomplete, hbody, hgoesOn, hbehind⟩ := of_readRound_again hagain
      obtain ⟨hlengths, hlt⟩ := hagrees hcomplete hbody hgoesOn
      refine ⟨hlengths, ?_⟩
      have hcursor := hbehind.cursor_of_lt hnonneg hlt
      rw [hlengths]
      unfold consumed
      unfold bodyStart at hcursor
      by_cases hswitches : switches (afterHeader s) s.header = true
      · rw [if_pos hswitches] at hcursor ⊢
        omega
      · rw [if_neg hswitches] at hcursor ⊢
        omega
    · intro hcomplete hdisagree
      apply exists_exit attachment hcomplete
      rintro ⟨hbody, hgoesOn⟩
      exact hdisagree (hagrees hcomplete hbody hgoesOn).1

/-- Every round of a read takes exactly a frame, or closes at the first frame whose lengths disagree,
if and only if the lengths agree for every packet behind which the loop goes on. -/
theorem grammar_iff (env : Surroundings) (attachment : Nat) (s₀ : ReadState)
    (hcursor : s₀.buffer.cursor = 0) :
    (∀ s, Iterates env attachment s₀ s → Parses env attachment s) ↔
      ∀ s, Iterates env attachment s₀ s → Agrees env s := by
  -- either side keeps the cursor from wrapping
  have hnonneg : ∀ {s s' : ReadState}, 0 ≤ s.buffer.cursor → Agrees env s →
      readRound env attachment s = .again s' → 0 ≤ s'.buffer.cursor := by
    intro s s' hs hagrees hagain
    obtain ⟨hcomplete, hbody, hgoesOn, hbehind⟩ := of_readRound_again hagain
    obtain ⟨_, hlt⟩ := hagrees hcomplete hbody hgoesOn
    have hstart := bodyStart_nonneg hs
    rw [hbehind.cursor_of_lt hs hlt]
    omega
  constructor
  · intro hparses
    have hstart : ∀ s, Iterates env attachment s₀ s → 0 ≤ s.buffer.cursor := by
      intro s hiterates
      induction hiterates with
      | refl =>
          omega
      | tail hprefix hagain ih =>
          exact hnonneg ih ((parses_iff ih).1 (hparses _ hprefix)) hagain
    intro s hiterates
    exact (parses_iff (hstart s hiterates)).1 (hparses s hiterates)
  · intro hagrees
    have hstart : ∀ s, Iterates env attachment s₀ s → 0 ≤ s.buffer.cursor := by
      intro s hiterates
      induction hiterates with
      | refl =>
          omega
      | tail hprefix hagain ih =>
          exact hnonneg ih (hagrees _ hprefix) hagain
    intro s hiterates
    exact (parses_iff (hstart s hiterates)).2 (hagrees s hiterates)

theorem grammar_heartbeat :
    (readOf true heartbeat).buffer.cursor = 0 ∧
      ∀ s, Iterates generous 0 (readOf true heartbeat) s → Parses generous 0 s := by
  refine ⟨rfl, (grammar_iff generous 0 (readOf true heartbeat) rfl).2 ?_⟩
  intro s hs
  rcases iterates_heartbeat hs with rfl | hlast
  · exact fun _ _ _ => by decide +kernel
  · exact fun h => (hlast h).elim

/-- A length field that is one too large.  The packet is taken without the byte it leaves over. -/
def slackHeartbeat : List UInt8 := [9, 0, 0, 0, 1, 0, 0, 0, 0, 0, 0, 0, 0]

theorem slack_frame_taken :
    (¬ ∀ s, Iterates generous 0 (readOf true slackHeartbeat) s → Parses generous 0 s) ∧
      ∃ s, readRound generous 0 (readOf true slackHeartbeat) = .again s ∧
        s.buffer.cursor = 12 ∧ (readOf true slackHeartbeat).packetLength = 9 ∧
        (readOf true slackHeartbeat).header.bodySize = 0 := by
  refine ⟨?_, _, rfl, by decide +kernel, by decide +kernel, by decide +kernel⟩
  intro hparses
  have htaken := ((hparses _ .refl).taken _ rfl).1
  revert htaken
  decide +kernel

/-! ## Reads without a session -/

variable (env) in
/-- The state behind a session packet that is rejected. -/
def rejected (s : ReadState) : ReadState :=
  let outcome := sessionOutcome env (afterHeader s) s.header
  (rejectSessionPacket env
    ({ afterHeader s with sessionPackets := s.sessionPackets + 1 }.operate
      (outcome.sends.toList.map Operation.send)) s.header outcome).seek s.header.bodySize

variable (env) in
/-- The packet at the cursor is there and opens no session. -/
structure Rejects (s s' : ReadState) : Prop where
  session : s.session = false
  complete : s.Complete
  body : s.BodyFits
  error : (sessionOutcome env (afterHeader s) s.header).contextType = .SessionError
  next : s' = rejected env s

variable (attachment) in
theorem Rejects.readRound_eq {s' : ReadState} (h : Rejects env s s') :
    readRound env attachment s = .again s' ∧ s'.session = false := by
  have hsession : (afterHeader s).session = false := h.session
  have hsession' : ¬ (afterHeader s).session = true := by
    simp [hsession]
  have hround : readRound env attachment s = .again s' := by
    rw [NetworkEngine.readRound_eq, if_pos h.complete, if_pos h.body, readPacket, if_pos hsession',
      h.next]
    exact if_pos h.error
  refine ⟨hround, ?_⟩
  obtain ⟨_, _, _, hbehind⟩ := of_readRound_again hround
  simp [hbehind.session, h.error, hsession]

/-- The loop goes on without a session only behind a packet that is rejected. -/
theorem rejects_of_again {s' : ReadState} (hround : readRound env attachment s = .again s')
    (hsession' : s'.session = false) : Rejects env s s' := by
  obtain ⟨hcomplete, hbody, _, hbehind⟩ := of_readRound_again hround
  have hvalid := hbehind.session
  rw [hsession'] at hvalid
  have hor : (afterHeader s).session = false ∧
      (sessionOutcome env (afterHeader s) s.header).contextType = .SessionError := by
    simpa using hvalid.symm
  have hrejects : Rejects env s (rejected env s) := ⟨hor.1, hcomplete, hbody, hor.2, rfl⟩
  cases hround.symm.trans (hrejects.readRound_eq attachment).1
  exact hrejects

variable (env attachment) in
/-- No round calls a method through an absent session. -/
theorem readRound_operations (hs : .invalidSession ∉ s.operations) :
    match readRound env attachment s with
    | .again s' => .invalidSession ∉ s'.operations
    | .leave s' => s' = s ∧ ¬ s.Complete
    | .exit s' => .invalidSession ∉ s'.operations := by
  by_cases hcomplete : s.Complete
  · by_cases hgoesOn : s.BodyFits ∧ goesOn env (afterHeader s) s.header = true
    · obtain ⟨s', hround, hbehind⟩ := exists_again env attachment hcomplete hgoesOn.1 hgoesOn.2
      obtain ⟨more, hmore, hinvalid⟩ := hbehind.operations
      simp only [hround, hmore, List.mem_append, not_or]
      exact ⟨hs, hinvalid⟩
    · obtain ⟨s', hround, more, hmore, _, _, hinvalid⟩ :=
        exists_exit attachment hcomplete hgoesOn
      simp only [hround, hmore, List.mem_append, not_or]
      exact ⟨hs, hinvalid⟩
  · rw [NetworkEngine.readRound_eq, if_neg hcomplete]
    exact ⟨rfl, hcomplete⟩

variable (env attachment) in
/-- The loop as a whole.  Left without a session, it has rejected every packet. -/
theorem readLoop_operations (rounds : Nat) : ∀ s : ReadState, .invalidSession ∉ s.operations →
    match readLoop env attachment rounds s with
    | .again s' => .invalidSession ∉ s'.operations
    | .leave s' => .invalidSession ∉ s'.operations ∧ (s'.session = false →
        Relation.ReflTransGen (Rejects env) s s' ∧ ¬ s'.Complete)
    | .exit s' => .invalidSession ∉ s'.operations := by
  induction rounds with
  | zero =>
      intro s hs
      exact hs
  | succ rounds ih =>
      intro s hs
      have hround := readRound_operations env attachment hs
      rw [readLoop]
      cases hflow : readRound env attachment s with
      | leave s₁ =>
          rw [hflow] at hround
          obtain ⟨rfl, hcomplete⟩ := hround
          exact ⟨hs, fun _ => ⟨.refl, hcomplete⟩⟩
      | exit s₁ =>
          rw [hflow] at hround
          exact hround
      | again s₁ =>
          rw [hflow] at hround
          have hrest := ih s₁ hround
          simp only
          cases hloop : readLoop env attachment rounds s₁ with
          | again s' =>
              rw [hloop] at hrest
              exact hrest
          | exit s' =>
              rw [hloop] at hrest
              exact hrest
          | leave s' =>
              rw [hloop] at hrest
              refine ⟨hrest.1, fun hsession' => ?_⟩
              obtain ⟨hrejected, hcomplete⟩ := hrest.2 hsession'
              -- a session that was opened would stay open
              have hsession₁ : s₁.session = false := by
                rcases Relation.ReflTransGen.cases_head hrejected with rfl | ⟨s₂, hrejects, _⟩
                · exact hsession'
                · exact hrejects.session
              exact ⟨.head (rejects_of_again hflow hsession₁) hrejected, hcomplete⟩

variable (attachment) in
/-- The loop passes over packets that are rejected. -/
theorem readLoop_rejected {s₀ : ReadState} (h : Relation.ReflTransGen (Rejects env) s₀ s)
    (hsession : s₀.session = false) :
    s.session = false ∧ ∃ n, ∀ rounds,
      readLoop env attachment (n + rounds) s₀ = readLoop env attachment rounds s := by
  induction h using Relation.ReflTransGen.head_induction_on with
  | refl =>
      exact ⟨hsession, 0, fun rounds => by rw [Nat.zero_add]⟩
  | head hrejects _ ih =>
      obtain ⟨hround, hsession'⟩ := hrejects.readRound_eq attachment
      obtain ⟨hlast, n, hn⟩ := ih hsession'
      refine ⟨hlast, n + 1, fun rounds => ?_⟩
      rw [Nat.add_right_comm, readLoop, hround]
      exact hn rounds

/-- The code behind the loop calls a method through an absent session exactly if there is none and the
cursor is behind the first header. -/
theorem finishRead_operations (hs : .invalidSession ∉ s.operations) :
    .invalidSession ∈ (finishRead env s).operations ↔
      s.session = false ∧ packetLengthSize + packetHeaderSize < s.buffer.position := by
  unfold finishRead
  by_cases hposition : s.buffer.position ≤ packetLengthSize + packetHeaderSize
  · rw [if_pos hposition]
    simp [ReadState.operate, hs, Nat.not_lt.2 hposition]
  · rw [if_neg hposition]
    cases hsession : s.session with
    | false =>
        rw [if_pos (by simp)]
        simpa [ReadState.operate] using Nat.not_le.1 hposition
    | true =>
        rw [if_neg (by simp)]
        split
        · simp [ReadState.operate, hs]
        · simp only
          split_ifs <;> simp [ReadState.operate, hs]

/-- A read on a stream without a session calls no method through it if and only if the packets at the
front are not all rejected, or they are and end within the first header. -/
theorem invalid_session_iff (env : Surroundings) (attachment : Nat) (s₀ : ReadState)
    (hsession : s₀.session = false) (hoperations : s₀.operations = []) :
    (∀ rounds, .invalidSession ∉ (onRead env attachment rounds s₀).operations) ↔
      ∀ s, Relation.ReflTransGen (Rejects env) s₀ s → ¬ s.Complete →
        s.buffer.position ≤ packetLengthSize + packetHeaderSize := by
  have hstart : .invalidSession ∉ s₀.operations := by
    simp [hoperations]
  constructor
  -- the chain of rejected packets is what the loop runs through until the rest is too short
  · intro hvalid s hrejected hcomplete
    by_contra hposition
    obtain ⟨hlast, n, hn⟩ := readLoop_rejected attachment hrejected hsession
    have hleave : readLoop env attachment (n + 1) s₀ = .leave s := by
      rw [hn, readLoop, NetworkEngine.readRound_eq, if_neg hcomplete]
    have hloop := readLoop_operations env attachment (n + 1) s₀ hstart
    rw [hleave] at hloop
    apply hvalid (n + 1)
    rw [onRead, hleave]
    exact (finishRead_operations hloop.1).2 ⟨hlast, Nat.not_le.1 hposition⟩
  -- the loop reports the session at its end only, at the packets it has rejected
  · intro hrejected rounds hinvalid
    have hloop := readLoop_operations env attachment rounds s₀ hstart
    unfold onRead at hinvalid
    cases hflow : readLoop env attachment rounds s₀ with
    | again s =>
        rw [hflow] at hloop hinvalid
        exact hloop hinvalid
    | exit s =>
        rw [hflow] at hloop hinvalid
        exact hloop hinvalid
    | leave s =>
        rw [hflow] at hloop hinvalid
        obtain ⟨hlast, hposition⟩ := (finishRead_operations hloop.1).1 hinvalid
        obtain ⟨hchain, hcomplete⟩ := hloop.2 hlast
        exact absurd (hrejected s hchain hcomplete) (Nat.not_le.2 hposition)

/-- A `packet_session_create_rq`, which opens a session. -/
def createSession : List UInt8 := [9, 0, 0, 0, 2, 0, 0, 0, 1, 0, 0, 0, 0]

theorem invalid_session_create :
    (readOf false createSession).session = false ∧ ∀ rounds, .invalidSession ∉
      (onRead generous 0 rounds (readOf false createSession)).operations := by
  refine ⟨rfl, (invalid_session_iff generous 0 (readOf false createSession) rfl rfl).2 ?_⟩
  intro s hrejected hcomplete
  rcases Relation.ReflTransGen.cases_head hrejected with rfl | ⟨s₁, hrejects, _⟩
  · exact absurd (by decide +kernel) hcomplete
  · exact absurd hrejects.error (by decide +kernel)

/-- A `packet_start_skill_rq` on a stream that has not asked for a session. -/
def strayPacket : List UInt8 := [9, 0, 0, 0, 19, 0, 0, 0, 1, 0, 0, 0, 0]

/-- One packet with a body is enough: it is rejected, and the code behind the loop asks the absent
session for a buffer. -/
theorem stray_packet_uses_session :
    (onRead generous 0 2 (readOf false strayPacket)).operations = [.invalidSession] ∧
      ¬ ∀ rounds, .invalidSession ∉
        (onRead generous 0 rounds (readOf false strayPacket)).operations := by
  have hread : (onRead generous 0 2 (readOf false strayPacket)).operations =
      [.invalidSession] := by
    decide +kernel
  refine ⟨hread, ?_⟩
  intro hvalid
  apply hvalid 2
  simp [hread]

end Rounds

end NetworkEngine
end Engine
end SeamlessServer
