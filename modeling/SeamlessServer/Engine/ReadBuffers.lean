import SeamlessServer.Engine.Malformed
import SeamlessServer.Engine.Returns
import Mathlib.Data.List.Nodup

/-!
# Engine.ReadBuffers — what becomes of the buffers of a read

`OnRead` holds the buffer of the completed read and those it allocates on the way.  Each exit gives
up what is held at that point: by `TransmitRead`, by `ReleaseReadBuffer`, or by `Submit`, after which
the worker holds the buffer until the last context of its chain is released.

The operations of `OnRead` do not say which buffer they are applied to, so the rounds of the loop are
accompanied by a ledger of the buffers by name.

* `disposed_once` — every buffer has one entry in the ledger, and one that is submitted comes back once,
  by the release of its last context, if no IO thread takes it before the worker has left it.
-/

namespace SeamlessServer
namespace Engine
namespace NetworkEngine

open Protocol

/-! ## The ledger -/

/-- A buffer that `OnRead` holds: the one of the completed read, or the one that a call of
`TryAllocateReadBuffer` returned. -/
inductive HeldBuffer
  | completed
  | allocated (call : Nat)
  deriving DecidableEq, Repr

/-- How a buffer is given up; a submitted one has a reference count, and the chain of the contexts in
its reserved area. -/
inductive Disposal
  | transmitRead (buffer : SocketBuffer)
  | releaseReadBuffer (buffer : SocketBuffer)
  | submit (ref : Nat) (chain : List SocketContext)
  deriving DecidableEq

def Disposal.operation : Disposal → Operation
  | transmitRead buffer => .transmitRead buffer
  | releaseReadBuffer buffer => .releaseReadBuffer buffer
  | submit _ chain => .submit chain

def Disposal.isTransmitRead : Disposal → Bool
  | transmitRead _ => true
  | _ => false

/-- A buffer is given up. -/
def Operation.disposes : Operation → Bool
  | submit _ => true
  | transmitRead _ => true
  | releaseReadBuffer _ => true
  | _ => false

/-- A new buffer with the bytes that remain behind the cursor. -/
def remainder (c : DynamicBufferCursor) (memory : List UInt8) : SocketBuffer :=
  ⟨writeMemory memory 0 (c.data.take c.remainBytes), c.remainBytes, 0⟩

section Ledger

variable (env : Surroundings) (attachment : Nat)

/-- The buffers given up at a packet, from the state behind its header. -/
def packetLedger (s : ReadState) (header : PacketHeader) (held : HeldBuffer) :
    List (HeldBuffer × Disposal) :=
  if header.packetType = packetHeartbeatRq ∨ header.packetType = packetHeartbeatRs then
    []
  else if header.packetType = packetSessionCreateRq ∨
      header.packetType = packetSessionCreateRs ∨
      header.packetType = packetSessionCloseRq then
    [(held, .releaseReadBuffer s.buffer.buffer)]
  else if hasRoom s then
    []
  else
    match env.allocate s.allocations with
    | none => [(held, .releaseReadBuffer s.buffer.buffer)]
    | some memory =>
        if env.submit s.submissions then
          [(held, .submit s.buffer.buffer.ref s.chain)]
        else
          [(held, .releaseReadBuffer s.buffer.buffer),
           (.allocated s.allocations, .releaseReadBuffer (remainder s.buffer memory))]

/-- The buffers given up in a round. -/
def roundLedger (s : ReadState) (held : HeldBuffer) : List (HeldBuffer × Disposal) :=
  if s.Complete then
    if s.BodyFits then
      packetLedger env (afterHeader s) s.header held
    else
      -- "packet header size mismatch"
      [(held, .releaseReadBuffer { s.buffer.buffer with ref := 0 })]
  else
    []

/-- The buffer of the cursor behind a packet. -/
def heldAfter (s : ReadState) (held : HeldBuffer) : HeldBuffer :=
  if switches (afterHeader s) s.header then .allocated s.allocations else held

/-- The buffers given up behind the loop. -/
def finishLedger (s : ReadState) (held : HeldBuffer) : List (HeldBuffer × Disposal) :=
  if s.buffer.position ≤ packetLengthSize + packetHeaderSize then
    [(held, .transmitRead s.buffer.buffer)]
  else
    match env.allocate s.allocations with
    | none => [(held, .releaseReadBuffer s.buffer.buffer)]
    | some memory =>
        if s.chain = [] then
          [(held, .releaseReadBuffer s.buffer.buffer),
           (.allocated s.allocations, .transmitRead (remainder s.buffer memory))]
        else if env.submit s.submissions then
          [(held, .submit s.buffer.buffer.ref s.chain),
           (.allocated s.allocations, .transmitRead (remainder s.buffer memory))]
        else
          [(held, .releaseReadBuffer s.buffer.buffer),
           (.allocated s.allocations, .releaseReadBuffer (remainder s.buffer memory))]

/-- The buffers given up by `OnRead` from a round of its loop on. -/
def loopLedger : Nat → ReadState → HeldBuffer → List (HeldBuffer × Disposal)
  | 0, _, _ => []
  | rounds + 1, s, held =>
      roundLedger env s held ++
        match readRound env attachment s with
        | .again s' => loopLedger rounds s' (heldAfter s held)
        | .leave s' => finishLedger env s' held
        | .exit _ => []

/-- The buffers that the calls of `TryAllocateReadBuffer` from the `n`-th up to the `m`-th return. -/
def allocatedIn (n m : Nat) : List HeldBuffer :=
  ((List.range' n (m - n)).filter fun call => (env.allocate call).isSome).map HeldBuffer.allocated

end Ledger

/-! ## Invariants of the loop -/

/-- There is a session, and the contexts of the chain are counted as often as the buffer is
retained. -/
structure Counted (s : ReadState) : Prop where
  session : s.session = true
  ref : s.buffer.buffer.ref = s.chain.length
  sequence : s.contextSequence = s.chain.length
  data : ∀ k ∈ s.chain, k.contextType = .SessionData

section Disposed

variable (env : Surroundings)

/-- Every buffer that is held at first or allocated from then on has one entry in the ledger. -/
structure Disposed (s s' : ReadState) (held : HeldBuffer) (ledger : List (HeldBuffer × Disposal)) :
    Prop where
  operations : s'.operations.filter Operation.disposes =
    s.operations.filter Operation.disposes ++ ledger.map fun e => e.2.operation
  allocations : s.allocations ≤ s'.allocations
  once : (ledger.map Prod.fst).Perm (held :: allocatedIn env s.allocations s'.allocations)
  transmits : (ledger.filter fun e => e.2.isTransmitRead).length ≤ 1
  submits : ∀ name ref chain, (name, Disposal.submit ref chain) ∈ ledger →
    ref = chain.length ∧ chain ≠ [] ∧ ∀ k ∈ chain, k.contextType = .SessionData

/-- The loop goes on in the same buffer, or in a new one when the old one has been submitted. -/
structure Continues (s s' : ReadState) (held held' : HeldBuffer)
    (ledger : List (HeldBuffer × Disposal)) : Prop where
  counted : Counted s'
  operations : s'.operations.filter Operation.disposes =
    s.operations.filter Operation.disposes ++ ledger.map fun e => e.2.operation
  buffers : (s'.allocations = s.allocations ∧ held' = held ∧ ledger = []) ∨
    (s'.allocations = s.allocations + 1 ∧ held' = .allocated s.allocations ∧
      (env.allocate s.allocations).isSome = true ∧
      ledger = [(held, .submit s.chain.length s.chain)] ∧ s.chain ≠ [] ∧
      ∀ k ∈ s.chain, k.contextType = .SessionData)

end Disposed

section Rounds

variable {env : Surroundings} {attachment : Nat} {s s' s'' : ReadState} {header : PacketHeader}
  {held held' : HeldBuffer} {ledger ledger' : List (HeldBuffer × Disposal)}

theorem allocatedIn_self (n : Nat) : allocatedIn env n n = [] := by
  simp [allocatedIn]

/-- One call more in front. -/
theorem allocatedIn_cons {n m : Nat} (h : n < m) :
    allocatedIn env n m =
      (if (env.allocate n).isSome then [.allocated n] else []) ++ allocatedIn env (n + 1) m := by
  have hcount : m - n = (m - (n + 1)) + 1 := by omega
  rw [allocatedIn, hcount, List.range'_succ, List.filter_cons]
  split_ifs <;> rfl

theorem allocatedIn_succ (n : Nat) :
    allocatedIn env n (n + 1) = if (env.allocate n).isSome then [.allocated n] else [] := by
  rw [allocatedIn_cons (Nat.lt_succ_self n), allocatedIn_self, List.append_nil]

/-- The names of the buffers of a call differ. -/
theorem nodup_held (n m : Nat) : (HeldBuffer.completed :: allocatedIn env n m).Nodup := by
  refine List.nodup_cons.2 ⟨by simp [allocatedIn], ?_⟩
  refine List.Nodup.map (fun call call' h => HeldBuffer.allocated.inj h) ?_
  exact (List.nodup_range' 1).filter _

/-- What was given up before comes in front. -/
theorem Continues.disposed (h : Continues env s s' held held' ledger)
    (hrest : Disposed env s' s'' held' ledger') : Disposed env s s'' held (ledger ++ ledger') := by
  have hoperations : s''.operations.filter Operation.disposes =
      s.operations.filter Operation.disposes ++ (ledger ++ ledger').map fun e => e.2.operation := by
    rw [hrest.operations, h.operations, List.map_append, List.append_assoc]
  rcases h.buffers with ⟨hcalls, rfl, rfl⟩ | ⟨hcalls, rfl, hsome, rfl, hchain, hdata⟩
  · refine ⟨hoperations, hcalls ▸ hrest.allocations, ?_, hrest.transmits, hrest.submits⟩
    rw [← hcalls]
    exact hrest.once
  · -- the new buffer is the first of those allocated from here on
    have hle := hrest.allocations
    refine ⟨hoperations, by omega, ?_, hrest.transmits, ?_⟩
    · rw [allocatedIn_cons (by omega), if_pos hsome, ← hcalls]
      exact hrest.once.cons held
    · intro name ref chain hmem
      rcases List.mem_cons.1 hmem with heq | hmem
      · cases heq
        exact ⟨rfl, hchain, hdata⟩
      · exact hrest.submits name ref chain hmem

/-- One buffer is given up, and no other one is held. -/
theorem disposed_single {disposal : Disposal} {more : List Operation}
    (hoperations : s'.operations = s.operations ++ more)
    (hmore : more.filter Operation.disposes = [disposal.operation])
    (hcalls : s.allocations ≤ s'.allocations)
    (hnone : allocatedIn env s.allocations s'.allocations = [])
    (hsubmit : ∀ ref chain, disposal ≠ .submit ref chain) :
    Disposed env s s' held [(held, disposal)] := by
  refine ⟨?_, hcalls, ?_, ?_, ?_⟩
  · rw [hoperations, List.filter_append, hmore]
    rfl
  · rw [hnone]
    exact .refl _
  · exact (List.length_filter_le _ _).trans le_rfl
  · intro name ref chain hmem
    cases List.mem_singleton.1 hmem
    exact absurd rfl (hsubmit ref chain)

/-- The buffer of the cursor and the one that was just allocated are given up, the latter not by
`Submit`. -/
theorem disposed_pair {first second : Disposal} {more : List Operation}
    (hoperations : s'.operations = s.operations ++ more)
    (hmore : more.filter Operation.disposes = [first.operation, second.operation])
    (hcalls : s'.allocations = s.allocations + 1)
    (hsome : (env.allocate s.allocations).isSome = true)
    (htransmits : first.isTransmitRead = false)
    (hfirst : ∀ ref chain, first = .submit ref chain →
      ref = chain.length ∧ chain ≠ [] ∧ ∀ k ∈ chain, k.contextType = .SessionData)
    (hsecond : ∀ ref chain, second ≠ .submit ref chain) :
    Disposed env s s' held [(held, first), (.allocated s.allocations, second)] := by
  refine ⟨?_, by omega, ?_, ?_, ?_⟩
  · rw [hoperations, List.filter_append, hmore]
    rfl
  · rw [hcalls, allocatedIn_succ, if_pos hsome]
    exact .refl _
  · rw [List.filter_cons_of_neg (by simp [htransmits])]
    exact (List.length_filter_le _ _).trans le_rfl
  · intro name ref chain hmem
    rcases List.mem_cons.1 hmem with heq | hmem
    · cases heq
      exact hfirst ref chain rfl
    · cases List.mem_singleton.1 hmem
      exact absurd rfl (hsecond ref chain)

end Rounds

/-! ## What a round gives up -/

section Round

variable {env : Surroundings} {attachment : Nat} {s s' : ReadState} {header : PacketHeader}
  {held : HeldBuffer}

/-- An empty reserved area has room. -/
theorem chain_ne_nil (h : Counted s) (hroom : ¬ hasRoom s = true) : s.chain ≠ [] := by
  intro hnil
  apply hroom
  simp [hasRoom, h.sequence, hnil, socketContextSize, reservedSize]

theorem Counted.afterHeader (h : Counted s) : Counted (afterHeader s) :=
  ⟨h.session, h.ref, h.sequence, h.data⟩

/-- A packet without a context. -/
theorem continues_seek {more : List Operation} (h : Counted s) (hmore : more.filter Operation.disposes = [])
    (n : Nat) : Continues env s ((s.operate more).seek n) held held [] := by
  refine ⟨⟨h.session, h.ref, h.sequence, h.data⟩, ?_, .inl ⟨rfl, rfl, rfl⟩⟩
  show (s.operations ++ more).filter Operation.disposes = _
  rw [List.filter_append, hmore]
  rfl

variable (env attachment) in
/-- A packet gives buffers up as in the ledger. -/
theorem readPacket_ledger (header : PacketHeader) (held : HeldBuffer) (h : Counted s) :
    match readPacket env attachment s header with
    | .again s' => Continues env s s' held
        (if switches s header then .allocated s.allocations else held)
        (packetLedger env s header held)
    | .leave _ => False
    | .exit s' => Disposed env s s' held (packetLedger env s header held) := by
  rw [readPacket, if_neg (by simp [h.session]), packetLedger]
  by_cases hheartbeat : header.packetType = packetHeartbeatRq ∨ header.packetType = packetHeartbeatRs
  · -- heartbeats
    have hswitches : switches s header = false := by
      rcases hheartbeat with htype | htype <;> simp [switches, htype]
    rw [if_pos hheartbeat, hswitches]
    by_cases hrq : header.packetType = packetHeartbeatRq
    · rw [if_pos hrq]
      exact continues_seek h rfl _
    · rw [if_neg hrq, if_pos (hheartbeat.resolve_left hrq)]
      exact continues_seek h rfl _
  · rw [if_neg hheartbeat, if_neg fun heq => hheartbeat (.inl heq),
      if_neg fun heq => hheartbeat (.inr heq)]
    by_cases hcontrol : header.packetType = packetSessionCreateRq ∨
        header.packetType = packetSessionCreateRs ∨ header.packetType = packetSessionCloseRq
    · -- the session is closed
      rw [if_pos hcontrol, if_pos hcontrol]
      exact disposed_single rfl rfl le_rfl (allocatedIn_self _) (by simp)
    · rw [if_neg hcontrol, if_neg hcontrol, readDataPacket, prepareSocketContext_eq]
      by_cases hroom : hasRoom s = true
      · -- the context is appended to the chain
        have hswitches : switches s header = false := by simp [switches, hroom]
        rw [if_pos hroom, if_pos hroom, hswitches]
        refine ⟨⟨h.session, ?_, ?_, ?_⟩, (List.append_nil _).symm, .inl ⟨rfl, rfl, rfl⟩⟩
        · simp [link, DynamicBufferCursor.seek, DynamicBufferCursor.retain, h.ref]
        · simp [link, h.sequence]
        · intro k hk
          rcases List.mem_append.1 hk with hk | hk
          · exact h.data k hk
          · rw [List.mem_singleton.1 hk]
      · rw [if_neg hroom, if_neg hroom]
        cases hallocate : env.allocate s.allocations with
        | none =>
            refine disposed_single rfl rfl (Nat.le_succ _) ?_ (by simp)
            exact (allocatedIn_succ _).trans (by simp [hallocate])
        | some memory =>
            have hsome : (env.allocate s.allocations).isSome = true := by simp [hallocate]
            cases hsubmit : env.submit s.submissions with
            | false =>
                -- neither buffer is of use any more
                simp only [hsubmit]
                exact disposed_pair rfl rfl rfl hsome rfl (by simp) (by simp)
            | true =>
                -- the loop goes on in the new buffer, with one context
                have hswitches : switches s header = true := by
                  simp only [not_or] at hheartbeat
                  simp [switches, h.session, hroom, hheartbeat]
                simp only [hsubmit, if_true, hswitches, h.ref]
                refine ⟨⟨h.session, ?_, ?_, ?_⟩, ?_, .inr ⟨?_, rfl, hsome, rfl, chain_ne_nil h hroom,
                  h.data⟩⟩
                all_goals
                  simp [link, prepareSocketContext, socketContextSize, reservedSize,
                    DynamicBufferCursor.seek, DynamicBufferCursor.retain,
                    DynamicBufferCursor.ofBuffer, ReadState.operate, List.filter_append,
                    Operation.disposes, Disposal.operation]

variable (env attachment) in
/-- A round gives buffers up as in the ledger. -/
theorem readRound_ledger (held : HeldBuffer) (h : Counted s) :
    match readRound env attachment s with
    | .again s' => Continues env s s' held (heldAfter s held) (roundLedger env s held)
    | .leave s' => s' = s ∧ roundLedger env s held = []
    | .exit s' => Disposed env s s' held (roundLedger env s held) := by
  rw [readRound_eq, roundLedger]
  by_cases hcomplete : s.Complete
  · rw [if_pos hcomplete, if_pos hcomplete]
    by_cases hbody : s.BodyFits
    · rw [if_pos hbody, if_pos hbody]
      have hpacket := readPacket_ledger env attachment s.header held h.afterHeader
      cases hround : readPacket env attachment (afterHeader s) s.header with
      | again s' =>
          rw [hround] at hpacket
          exact ⟨hpacket.counted, hpacket.operations, hpacket.buffers⟩
      | leave s' =>
          rw [hround] at hpacket
          exact hpacket.elim
      | exit s' =>
          rw [hround] at hpacket
          exact ⟨hpacket.operations, hpacket.allocations, hpacket.once, hpacket.transmits,
            hpacket.submits⟩
    · rw [if_neg hbody, if_neg hbody, if_pos h.session]
      exact disposed_single rfl rfl le_rfl (allocatedIn_self _) (by simp)
  · rw [if_neg hcomplete, if_neg hcomplete]
    exact ⟨rfl, rfl⟩

/-- With nothing ahead, the new buffer is empty. -/
theorem remainder_eq (c : DynamicBufferCursor) (memory : List UInt8) :
    (if c.remainBytes > 0 then ⟨writeMemory memory 0 (c.data.take c.remainBytes), c.remainBytes, 0⟩
      else ⟨memory, 0, 0⟩) = remainder c memory := by
  by_cases hmore : c.remainBytes > 0
  · exact if_pos hmore
  · have hzero : c.remainBytes = 0 := Nat.eq_zero_of_not_pos hmore
    simp [remainder, hzero, writeMemory]

variable (env) in
/-- What follows the loop gives up what is held. -/
theorem finishRead_ledger (held : HeldBuffer) (h : Counted s) :
    Disposed env s (finishRead env s) held (finishLedger env s held) := by
  unfold finishRead finishLedger
  by_cases hposition : s.buffer.position ≤ packetLengthSize + packetHeaderSize
  · -- no packet was read
    rw [if_pos hposition, if_pos hposition]
    exact disposed_single rfl rfl le_rfl (allocatedIn_self _) (by simp)
  · rw [if_neg hposition, if_neg hposition, if_neg (by simp [h.session])]
    cases hallocate : env.allocate s.allocations with
    | none =>
        refine disposed_single rfl rfl (Nat.le_succ _) ?_ (by simp)
        exact (allocatedIn_succ _).trans (by simp [hallocate])
    | some memory =>
        have hsome : (env.allocate s.allocations).isSome = true := by simp [hallocate]
        simp only [remainder_eq]
        by_cases hchain : s.chain = []
        · -- heartbeats only
          rw [if_pos hchain, if_pos hchain]
          exact disposed_pair rfl rfl rfl hsome rfl (by simp) (by simp)
        · rw [if_neg hchain, if_neg hchain]
          cases hsubmit : env.submit s.submissions with
          | true =>
              refine disposed_pair rfl rfl rfl hsome rfl ?_ (by simp)
              intro ref chain heq
              cases heq
              exact ⟨h.ref, hchain, h.data⟩
          | false =>
              exact disposed_pair rfl rfl rfl hsome rfl (by simp) (by simp)

/-! ## The loop -/

variable (env attachment) in
/-- From any round on: if the loop ends, everything that is held or allocated is given up once. -/
theorem onRead_ledger (rounds : Nat) : ∀ (s : ReadState) (held : HeldBuffer), Counted s →
    (∀ s', readLoop env attachment rounds s ≠ .again s') →
    Disposed env s (onRead env attachment rounds s) held (loopLedger env attachment rounds s held) := by
  induction rounds with
  | zero =>
      intro s held _ hends
      exact absurd rfl (hends s)
  | succ rounds ih =>
      intro s held h hends
      have hround := readRound_ledger env attachment held h
      rw [onRead, loopLedger]
      rw [readLoop] at hends ⊢
      cases hflow : readRound env attachment s with
      | again s₁ =>
          rw [hflow] at hround
          simp only [hflow] at hends ⊢
          exact hround.disposed (ih s₁ _ hround.counted hends)
      | leave s₁ =>
          rw [hflow] at hround
          obtain ⟨rfl, hnone⟩ := hround
          rw [hnone]
          exact finishRead_ledger env held h
      | exit s₁ =>
          rw [hflow] at hround
          simp only [List.append_nil]
          exact hround

end Round

/-! ## Frames with two lengths -/

/-- The header behind a length field. -/
def headerOf (bytes : List UInt8) : PacketHeader :=
  deserializePacketHeader ((bytes.drop packetLengthSize).take packetHeaderSize)

/-- Frames that follow each other in a buffer.  The length field of a frame need not agree with the
body size in its header: either may be the larger one. -/
inductive Frames : List UInt8 → Prop
  /-- Less is there than the length field says, or no length field. -/
  | incomplete {rest : List UInt8} :
      rest.length ≤ packetLengthSize ∨
        rest.length - packetLengthSize < ofBytes (rest.take packetLengthSize) → Frames rest
  /-- Less is there than the body size says. -/
  | mismatch {front rest : List UInt8} : front.length = packetLengthSize + packetHeaderSize →
      rest.length < (headerOf front).bodySize → Frames (front ++ rest)
  /-- A frame with its body, and any number in the length field. -/
  | frame {front body rest : List UInt8} : front.length = packetLengthSize + packetHeaderSize →
      body.length = (headerOf front).bodySize → Frames rest → Frames (front ++ (body ++ rest))

section Frames

variable {env : Surroundings} {attachment : Nat} {s s' : ReadState} {header : PacketHeader}
  {p : Nat} {front body rest content : List UInt8}

/-- Well-formed frames, with something behind them. -/
theorem frames_packets (frames : List Frame) (hframes : ∀ f ∈ frames, f.bytes.length < 2 ^ 31)
    (hrest : Frames rest) : Frames (frames.flatMap Frame.bytes ++ rest) := by
  induction frames with
  | nil =>
      exact hrest
  | cons f frames ih =>
      have hlt := hframes f List.mem_cons_self
      have hfront : (toBytes packetLengthSize (packetHeaderSize + f.packet.body.length) ++
          f.header.bytes).length = packetLengthSize + packetHeaderSize := by
        simp
      have hheader : headerOf (toBytes packetLengthSize (packetHeaderSize + f.packet.body.length) ++
          f.header.bytes) = f.header := by
        have hbody : f.header.bodySize < 2 ^ 32 := Nat.mod_lt _ (by norm_num)
        rw [headerOf, List.drop_left' (length_toBytes _ _), List.take_of_length_le (by simp)]
        simpa using deserializePacketHeader_bytes f.type_lt f.error_lt hbody []
      have hrest := ih fun g hg => hframes g (List.mem_cons_of_mem f hg)
      have hframe := Frames.frame hfront (by rw [hheader, Frame.bodySize_eq hlt]) hrest
      rw [List.flatMap_cons, Frame.bytes_eq hlt]
      simpa only [List.append_assoc] using hframe

/-- Behind a length field and a header. -/
theorem at_afterHeader (h : s.buffer.At p (front ++ rest))
    (hfront : front.length = packetLengthSize + packetHeaderSize) :
    s.header = headerOf front ∧
      (afterHeader s).buffer.At (p + (packetLengthSize + packetHeaderSize)) rest := by
  have hfield : (front.take packetLengthSize).length = packetLengthSize := by
    rw [List.length_take, hfront]
    rfl
  have hheader : (front.drop packetLengthSize).length = packetHeaderSize := by
    rw [List.length_drop, hfront]
    rfl
  rw [← List.take_append_drop packetLengthSize front, List.append_assoc] at h
  have hbehind := h.seek
  rw [hfield] at hbehind
  have hafter := hbehind.seek
  rw [hheader, Nat.add_assoc] at hafter
  refine ⟨?_, hafter⟩
  have htake := hbehind.data_take (n := packetHeaderSize) (by simp [hheader])
  rw [ReadState.header, ReadState.seek, htake, headerOf, List.take_append_of_le_length hheader.ge]

/-- Behind a body. -/
theorem at_readPacket (h : s.buffer.At p (body ++ rest)) (hsize : body.length = header.bodySize)
    (hsession : s.session = true) (hpacket : readPacket env attachment s header = .again s') :
    ∃ p', s'.buffer.At p' rest := by
  have hbehind := h.seek
  rw [readPacket, if_neg (by simp [hsession]), ← hsize] at hpacket
  split_ifs at hpacket
  · cases hpacket
    exact ⟨_, hbehind⟩
  · cases hpacket
    exact ⟨_, hbehind⟩
  · rw [readDataPacket, prepareSocketContext_eq] at hpacket
    by_cases hroom : hasRoom s = true
    · -- the same buffer, retained once more
      rw [if_pos hroom] at hpacket
      cases hpacket
      refine ⟨p + body.length, ?_⟩
      simp only [link, ← hsize]
      exact hbehind.retain
    · rw [if_neg hroom] at hpacket
      cases hallocate : env.allocate s.allocations with
      | none =>
          simp [hallocate] at hpacket
      | some memory =>
          cases hsubmit : env.submit s.submissions with
          | false =>
              simp [hallocate, hsubmit] at hpacket
          | true =>
              -- a new buffer that begins with the body
              have hcontent : s.buffer.data.take (body ++ rest).length = body ++ rest := by
                rw [h.data_take le_rfl, List.take_length]
              have hlt : (body ++ rest).length < 2 ^ 31 := by
                have hlength := h.length
                have hbound := h.bound
                omega
              have hnew := DynamicBufferCursor.at_newBuffer memory 0 hlt
              simp only [hallocate, hsubmit, if_true, h.remainBytes, hcontent,
                prepareSocketContext, socketContextSize, reservedSize, link, ← hsize,
                Flow.again.injEq] at hpacket
              subst hpacket
              exact ⟨_, hnew.seek.retain⟩

/-- Behind a round there are fewer frames. -/
theorem Frames.again (hframes : Frames content) (h : s.buffer.At p content)
    (hsession : s.session = true) (hround : readRound env attachment s = .again s') :
    ∃ p' content', s'.buffer.At p' content' ∧ Frames content' ∧ content'.length < content.length ∧
      s'.session = true := by
  obtain ⟨hcomplete, hbody, _, hbehind⟩ := of_readRound_again hround
  have hsession' : s'.session = true := by
    rw [hbehind.session]
    exact Bool.or_eq_true_iff.2 (.inl hsession)
  cases hframes with
  | incomplete hrest =>
      -- the loop is left here
      obtain ⟨hmore, hlength⟩ := hcomplete
      rw [h.remainBytes] at hmore hlength
      rw [ReadState.packetLength, h.data_take hmore.le] at hlength
      omega
  | mismatch hfront hrest =>
      -- the size of the body is refused
      obtain ⟨hheader, hat⟩ := at_afterHeader h hfront
      rw [ReadState.BodyFits, hheader, hat.remainBytes] at hbody
      omega
  | @frame front body rest hfront hsize hrest =>
      obtain ⟨hheader, hat⟩ := at_afterHeader h hfront
      rw [readRound_eq, if_pos hcomplete, if_pos hbody, hheader] at hround
      obtain ⟨p', hat'⟩ := at_readPacket hat hsize hsession hround
      refine ⟨p', rest, hat', hrest, ?_, hsession'⟩
      rw [List.length_append, List.length_append, hfront]
      simp only [packetLengthSize]
      omega

/-- Every round takes some bytes, so the loop ends. -/
theorem Frames.readLoop_ends : ∀ (rounds : Nat) (s : ReadState) (p : Nat) (content : List UInt8),
    content.length < rounds → Frames content → s.buffer.At p content → s.session = true →
    ∀ s', readLoop env attachment rounds s ≠ .again s' := by
  intro rounds
  induction rounds with
  | zero =>
      intro s p content hrounds
      omega
  | succ rounds ih =>
      intro s p content hrounds hframes h hsession s'
      rw [readLoop]
      cases hround : readRound env attachment s with
      | leave s₁ =>
          simp
      | exit s₁ =>
          simp
      | again s₁ =>
          obtain ⟨p₁, content₁, h₁, hframes₁, hless, hsession₁⟩ := hframes.again h hsession hround
          exact ih s₁ p₁ content₁ (by omega) hframes₁ h₁ hsession₁ s'

end Frames

/-! ## A call of OnRead -/

open PacketStream (generous startSkill)
open Returns (LeftAlone idle initial_idle phase)

/-- The call of `OnRead` for a buffer, on a stream with a valid session. -/
def entering (allocations submissions sessionPackets : Nat) (buffer : SocketBuffer) : ReadState where
  session := true
  allocations := allocations
  submissions := submissions
  sessionPackets := sessionPackets
  buffer := .ofBuffer buffer

/-- For frames, well-formed or not, the loop ends.  When it ends, the operations that give buffers up
are those of the ledger, in which the completed buffer and each allocated one has exactly one entry; at
most one of them is posted again.  The chain of a submitted one is what an IO thread prepares and
submits, with as many references as contexts; and as long as the IO threads leave a buffer alone while
the worker stands at a context of it, the contexts of every submitted chain are dispatched in turn and
the release of the last one, and no other, returns the buffer. -/
theorem disposed_once (env : Surroundings) (attachment allocations submissions sessionPackets : Nat)
    (buffer : SocketBuffer) (href : buffer.ref = 0) :
    let s := entering allocations submissions sessionPackets buffer
    (∀ bytes, s.buffer.At 0 bytes → Frames bytes →
      ∀ s', readLoop env attachment (bytes.length + 1) s ≠ .again s') ∧
    (∀ rounds, (∀ s', readLoop env attachment rounds s ≠ .again s') →
      Disposed env s (onRead env attachment rounds s) .completed
          (loopLedger env attachment rounds s .completed) ∧
        (HeldBuffer.completed ::
          allocatedIn env s.allocations (onRead env attachment rounds s).allocations).Nodup ∧
        ∀ name ref chain,
          (name, Disposal.submit ref chain) ∈ loopLedger env attachment rounds s .completed →
          ∀ t b, t.filling b = some [] → t.worker.refs b = 0 →
            ∃ t', Returns.machine.Run t
                ((chain.map SocketContext.contextType).map (.prepare b) ++ [.submit b]) t' ∧
              t'.worker.refs b = ref ∧ t'.log b = t.log b ++ [.submitted chain.length] ∧
              t'.worker.contexts = t.worker.contexts ++ [⟨b, 0⟩]) ∧
    ∀ t, (Returns.machine.restrict LeftAlone).Reachable t →
      (∀ b, phase b (t.log b) ≠ none) ∧
        ∃ n t', Returns.machine.Run t (List.replicate n .work) t' ∧ t'.work = none ∧
          ∀ b, t.log b <+: t'.log b ∧ phase b (t'.log b) = some .rest := by
  intro s
  have hcounted : Counted s := ⟨rfl, href, rfl, by simp [s, entering]⟩
  refine ⟨fun bytes h hframes => hframes.readLoop_ends _ s 0 bytes (Nat.lt_succ_self _) h rfl,
    fun rounds hends => ?_, fun t ht => Returns.returned_in_turn ht⟩
  have hdisposed := onRead_ledger env attachment rounds s .completed hcounted hends
  refine ⟨hdisposed, nodup_held _ _, ?_⟩
  intro name ref chain hmem t b hfilling hrefs
  obtain ⟨rfl, hchain, hdata⟩ := hdisposed.submits name ref chain hmem
  -- OnRead prepares data contexts only, so no session is closed by the chain
  have hopen : .SessionClosed ∉ chain.map SocketContext.contextType := by
    intro hclosed
    obtain ⟨k, hk, heq⟩ := List.mem_map.1 hclosed
    simp [hdata k hk] at heq
  have hne : chain.map SocketContext.contextType ≠ [] := by simpa using hchain
  simpa using Returns.submit_run hfilling hrefs hne hopen

/-- Two data packets and the beginning of a third. -/
def skillBytes : List UInt8 :=
  [startSkill, startSkill].flatMap Frame.bytes ++ startSkill.bytes.take 3

/-- A buffer that was filled with them. -/
def skillBuffer : SocketBuffer := ⟨skillBytes, skillBytes.length, 0⟩

/-- The contexts of the two packets. -/
def skillChain : List SocketContext :=
  List.replicate 2 ⟨.SessionData, startSkill.header, startSkill.packet.body, 7⟩

/-- The buffer of the read is submitted with two contexts, and the worker has come to the second one. -/
theorem disposed_skills :
    let s := entering 0 0 0 skillBuffer
    let rounds := skillBytes.length + 1
    (∀ s', readLoop generous 7 rounds s ≠ .again s') ∧
      Disposed generous s (onRead generous 7 rounds s) .completed
        (loopLedger generous 7 rounds s .completed) ∧
      (loopLedger generous 7 rounds s .completed).map Prod.fst = [.completed, .allocated 0] ∧
      (∃ t', Returns.machine.Run (idle.take 0)
          [.prepare 0 .SessionData, .prepare 0 .SessionData, .submit 0] t' ∧
        t'.worker.refs 0 = 2 ∧ t'.log 0 = [.submitted 2]) ∧
      ∃ t, (Returns.machine.restrict LeftAlone).Reachable t ∧
        t.log 0 = [.submitted 2, .dispatched ⟨0, 0⟩] ∧
        ∃ n t', Returns.machine.Run t (List.replicate n .work) t' ∧ t'.work = none ∧
          t.log 0 <+: t'.log 0 ∧ phase 0 (t'.log 0) = some .rest := by
  intro s rounds
  obtain ⟨hends, hdisposed, hreturned⟩ := disposed_once generous 7 0 0 0 skillBuffer rfl
  have hat : s.buffer.At 0 skillBytes :=
    ⟨rfl, by simp [s, entering, skillBuffer, DynamicBufferCursor.ofBuffer],
      ⟨[], by simp [s, entering, skillBuffer, DynamicBufferCursor.ofBuffer]⟩, by decide⟩
  have hframes : Frames skillBytes :=
    frames_packets _ (by simpa using (by decide : startSkill.bytes.length < 2 ^ 31))
      (.incomplete (by decide))
  have hloop := hends skillBytes hat hframes
  obtain ⟨hledger, -, hsubmitted⟩ := hdisposed rounds hloop
  have hmem : (HeldBuffer.completed, Disposal.submit 2 skillChain) ∈
      loopLedger generous 7 rounds s .completed := by decide +kernel
  obtain ⟨t', hrun, hrefs, hlog, -⟩ := hsubmitted _ _ _ hmem (idle.take 0) 0 rfl rfl
  have hreached : ∃ t, (Returns.machine.restrict LeftAlone).Run idle
      [.take 0, .prepare 0 .SessionData, .prepare 0 .SessionData, .submit 0, .work, .work, .work,
        .work] t ∧ t.log 0 = [.submitted 2, .dispatched ⟨0, 0⟩] :=
    ⟨_, .cons ⟨by simp [LeftAlone, idle, NetworkEngineWorker.Worker.reads], .take rfl⟩
      (.cons ⟨trivial, .prepare _ rfl (by decide)⟩ (.cons ⟨trivial, .prepare _ rfl (by decide)⟩
      (.cons ⟨trivial, .submit rfl (by decide)⟩ (.cons ⟨trivial, .work rfl⟩
      (.cons ⟨trivial, .work rfl⟩ (.cons ⟨trivial, .work rfl⟩ (.cons ⟨trivial, .work rfl⟩
      (.nil _)))))))), rfl⟩
  obtain ⟨t, hreach, htlog⟩ := hreached
  have ht := hreach.reachable (.init initial_idle)
  obtain ⟨-, n, t'', hwork, hdone, hrest⟩ := hreturned t ht
  exact ⟨hloop, hledger, by decide +kernel, ⟨t', hrun, hrefs, hlog⟩, t, ht, htlog, n, t'', hwork,
    hdone, hrest 0⟩

end NetworkEngine
end Engine
end SeamlessServer
