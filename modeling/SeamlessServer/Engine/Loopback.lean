import SeamlessServer.Engine.PacketThrottler

/-!
# Engine.Loopback — packets that a server sends to itself

`LoopbackSocketSession` of `engine/SocketSession.h`, `GameServerWorker::ProcessLoopbackData` and
`GameServerWorker::UpdateEveryTick`.  `Send` appends a buffer to `_packet_list`;
`ProcessLoopbackPacket` goes through the list, hands each buffer to `ProcessLoopbackData`, and clears
the list.  The handlers of the packets post packets in turn.

* `processLoopbackData_contents` — the packets of a buffer reach the handlers in order;
* `delivers_iff` — the runs in which no buffer leaves the list before it is processed.

The range-`for` holds the iterators of its beginning, so it does not come to the buffers that are
appended meanwhile.  (Beyond the reserved capacity a `push_back` would invalidate the iterators as
well; that is a `Send` during the loop, too.)  What the handlers do is arbitrary.
-/

namespace SeamlessServer
namespace Engine

open Protocol Utility

/-! ## ProcessLoopbackData -/

/-- The loop of `ProcessLoopbackData`: the headers and bodies that `OnIntraServerData` is given. -/
def loopbackPackets : Nat → List UInt8 → List (PacketHeader × List UInt8)
  | 0, _ => []
  | rounds + 1, bytes =>
      if packetHeaderSize ≤ bytes.length then
        let atHeader := bytes.drop packetLengthSize
        let header := deserializePacketHeader atHeader
        let atBody := atHeader.drop packetHeaderSize
        (header, atBody.take header.bodySize) ::
          loopbackPackets rounds (atBody.drop header.bodySize)
      else
        []

variable {σ : Type}

def processLoopbackData (buffer : SocketBuffer σ) : List (PacketHeader × List UInt8) :=
  loopbackPackets (buffer.bytes.length + 1) buffer.bytes

/-- The fields of the packet fit into its header. -/
structure Encodable (packet : Packet) : Prop where
  packetType : packet.packetType < 2 ^ 16
  body : packet.body.length < 2 ^ 32

theorem loopbackPackets_flatMap {packets : List Packet} (h : ∀ p ∈ packets, Encodable p) :
    ∀ rounds, packets.length < rounds →
      loopbackPackets rounds (packets.flatMap (packetBytes · 0)) =
        packets.map fun p => (⟨p.packetType, 0, p.body.length⟩, p.body) := by
  induction packets with
  | nil =>
      intro rounds hrounds
      cases rounds with
      | zero =>
          rfl
      | succ rounds =>
          simp [loopbackPackets, packetHeaderSize]
  | cons p packets ih =>
      intro rounds hrounds
      cases rounds with
      | zero =>
          simp at hrounds
      | succ rounds =>
          obtain ⟨htype, hbody⟩ := h p List.mem_cons_self
          -- the length field is as wide as the body is long, and the header is read back as it was
          -- written
          have hmod : p.body.length % 2 ^ 32 = p.body.length := Nat.mod_eq_of_lt hbody
          let rest := packets.flatMap (packetBytes · 0)
          let header : PacketHeader := ⟨p.packetType, 0, p.body.length⟩
          have hatHeader : ((packetBytes p 0) ++ rest).drop packetLengthSize =
              header.bytes ++ (p.body ++ rest) := by
            have hlength : (toBytes packetLengthSize (packetSize p - packetLengthSize)).length =
                packetLengthSize := length_toBytes _ _
            simp only [packetBytes, hmod, List.append_assoc]
            rw [List.drop_left' hlength]
          have hheader : deserializePacketHeader (header.bytes ++ (p.body ++ rest)) = header :=
            deserializePacketHeader_bytes htype (by simp [header]) hbody _
          have hatBody : (header.bytes ++ (p.body ++ rest)).drop packetHeaderSize =
              p.body ++ rest := List.drop_left' (length_headerBytes header)
          have hmore : packetHeaderSize ≤ ((packetBytes p 0) ++ rest).length := by
            rw [List.length_append, length_packetBytes]
            simp only [packetLengthSize, packetHeaderSize]
            omega
          have hih := ih (fun q hq => h q (List.mem_cons_of_mem p hq)) rounds (by
            simpa using hrounds)
          calc
            loopbackPackets (rounds + 1) (packetBytes p 0 ++ rest)
                = (header, (p.body ++ rest).take p.body.length) ::
                    loopbackPackets rounds ((p.body ++ rest).drop p.body.length) := by
                  rw [loopbackPackets, if_pos hmore]
                  simp only [hatHeader, hheader, hatBody]
                  rfl
            _ = (header, p.body) :: loopbackPackets rounds rest := by
                  rw [List.take_left, List.drop_left]
            _ = _ := by
                  rw [hih]
                  rfl

/-- Every packet takes up bytes. -/
theorem length_le_flatMap (packets : List Packet) :
    packets.length ≤ (packets.flatMap (packetBytes · 0)).length := by
  induction packets with
  | nil =>
      exact Nat.le_refl 0
  | cons p packets ih =>
      rw [List.flatMap_cons, List.length_append, length_packetBytes, List.length_cons]
      simp only [packetLengthSize]
      omega

/-- The packets posted to a buffer are handed over one by one, in order. -/
theorem processLoopbackData_contents (buffer : SocketBuffer σ)
    (h : ∀ posted ∈ buffer.contents, Encodable posted.packet) :
    processLoopbackData buffer = buffer.contents.map fun posted =>
      (⟨posted.packet.packetType, 0, posted.packet.body.length⟩, posted.packet.body) := by
  have hbytes : buffer.bytes = (buffer.contents.map Posted.packet).flatMap (packetBytes · 0) := by
    rw [List.flatMap_map]
    rfl
  have hrounds : (buffer.contents.map Posted.packet).length < buffer.bytes.length + 1 := by
    rw [hbytes]
    exact Nat.lt_succ_of_le (length_le_flatMap _)
  have hencodable : ∀ p ∈ buffer.contents.map Posted.packet, Encodable p := by
    intro p hp
    obtain ⟨posted, hposted, rfl⟩ := List.mem_map.1 hp
    exact h posted hposted
  rw [processLoopbackData]
  nth_rewrite 2 [hbytes]
  rw [loopbackPackets_flatMap hencodable _ hrounds, List.map_map]
  rfl

/-! ## The session and the worker -/

/-- A pointer in `_packet_list`, with the number of the `Send` that appended it. -/
structure Pending (σ : Type) where
  number : Nat
  buffer : Option (SocketBuffer σ)
  deriving DecidableEq

/-- The packet throttler and the loopback session of a worker; the numbers of calls of `Send` and the
calls of `ProcessLoopbackData` are kept for the statements only.  A packet that does not fit into an
empty buffer is an exception, which nothing catches. -/
structure LoopbackWorker (σ : Type) where
  throttler : PacketThrottler σ
  packetList : List (Pending σ) := []
  sends : Nat := 0
  processed : List (Pending σ) := []
  threw : Bool := false

/-- What the handler of each packet of each buffer of a call calls the throttler for. -/
abbrev Behaviour (σ : Type) := Nat → Nat → List (Op σ)

section Worker

variable [DecidableEq σ] (S : Sessions σ) (loopback : σ)

/-- The buffer pool of the loopback session never refuses. -/
def Op.granted : Op σ → Op σ
  | .postPacket session packet policy allocated storeAllocated =>
      .postPacket session packet policy (allocated || session = loopback)
        (storeAllocated || session = loopback)
  | op => op

/-- The buffers passed to `Send` of the loopback session. -/
def sentTo (actions : List (Action σ)) : List (Option (SocketBuffer σ)) :=
  actions.filterMap fun
    | .send session buffer => if session = loopback then some buffer else none
    | _ => none

namespace LoopbackWorker

def send (w : LoopbackWorker σ) (buffers : List (Option (SocketBuffer σ))) : LoopbackWorker σ :=
  { w with
    packetList := w.packetList ++ buffers.mapIdx fun i buffer => ⟨w.sends + i, buffer⟩
    sends := w.sends + buffers.length }

/-- A call of the throttler. -/
def call (w : LoopbackWorker σ) (op : Op σ) : LoopbackWorker σ :=
  let outcome := apply S w.throttler (op.granted loopback)
  { w.send (sentTo loopback outcome.actions) with
    throttler := outcome.state
    threw := outcome.threw }

/-- Calls one after the other, up to one that throws. -/
def calls (w : LoopbackWorker σ) : List (Op σ) → LoopbackWorker σ
  | [] => w
  | op :: ops =>
      let w := w.call S loopback op
      if w.threw then w else calls w ops

def setProcessed (w : LoopbackWorker σ) (processed : List (Pending σ)) : LoopbackWorker σ :=
  { w with processed := processed }

/-- What the handlers call for, for a pointer in the list. -/
def bufferOps (behaviour : Behaviour σ) (i : Nat) (pending : Pending σ) : List (Op σ) :=
  match pending.buffer with
  | none => []
  | some buffer =>
      (List.range (processLoopbackData buffer).length).flatMap (behaviour i)

/-- The range-`for` of `ProcessLoopbackPacket` over the pointers that it found. -/
def processBuffers (behaviour : Behaviour σ) :
    Nat → List (Pending σ) → LoopbackWorker σ → LoopbackWorker σ
  | _, [], w => w
  | i, pending :: rest, w =>
      let w := (w.setProcessed (w.processed ++ [pending])).calls S loopback
        (bufferOps behaviour i pending)
      if w.threw then w else processBuffers behaviour (i + 1) rest w

def processLoopbackPacket (behaviour : Behaviour σ) (w : LoopbackWorker σ) : LoopbackWorker σ :=
  let w := processBuffers S loopback behaviour 0 w.packetList w
  if w.threw then w else { w with packetList := [] }

/-- `UpdateEveryTick`, behind that of the server. -/
def updateEveryTick (now : Milliseconds) (behaviour : Behaviour σ) (w : LoopbackWorker σ) :
    LoopbackWorker σ :=
  processLoopbackPacket S loopback behaviour (w.call S loopback (.tryFlushPacket now))

end LoopbackWorker

/-- What the worker does: a call of the throttler outside of `ProcessLoopbackPacket`, or a tick. -/
inductive LoopbackEvent (σ : Type)
  | call (op : Op σ)
  | updateEveryTick (now : Milliseconds) (behaviour : Behaviour σ)

def LoopbackWorker.next (w : LoopbackWorker σ) : LoopbackEvent σ → LoopbackWorker σ
  | .call op => w.call S loopback op
  | .updateEveryTick now behaviour => w.updateEveryTick S loopback now behaviour

/-- A worker, until an exception ends it. -/
def loopbackMachine : Machine (LoopbackWorker σ) (LoopbackEvent σ) where
  init := fun w => ∃ throttler, w = ⟨throttler, [], 0, [], false⟩
  step := fun w e w' => w.threw = false ∧ w' = w.next S loopback e

/-! ## The condition -/

/-- The buffer that `PostPacket` writes to has room for the packet. -/
def fits (t : PacketThrottler σ) (session : σ) (packet : Packet) : Bool :=
  let buffer := (t.pendingBuffer S session).getD (PacketThrottler.freshBuffer S session)
  packetSize packet ≤ buffer.capacity - buffer.length

/-- The throttler has an entry of the session. -/
def hasEntry (t : PacketThrottler σ) (session : σ) : Bool :=
  t.throttleData.values.any (·.session = session)

/-- The call reaches `Send` of the loopback session: an immediate post to it, a post to it that does
not fit behind those that are pending, or a flush of its entry. -/
def Op.reachesSend (t : PacketThrottler σ) : Op σ → Bool
  | .postPacket session packet policy _ _ =>
      session = loopback && (policy = .Immediate || !fits S t session packet)
  | .tryFlushPacket now => (t.throttler.fire now).1 && hasEntry t loopback
  | .forceFlushPacket => hasEntry t loopback
  | _ => false

/-- One of the calls throws. -/
def throws : PacketThrottler σ → List (Op σ) → Bool
  | _, [] => false
  | t, op :: ops =>
      (apply S t (op.granted loopback)).threw || throws (apply S t (op.granted loopback)).state ops

/-- No call reaches `Send` of the loopback session. -/
def silent : PacketThrottler σ → List (Op σ) → Bool
  | _, [] => true
  | t, op :: ops =>
      !op.reachesSend S loopback t && silent (apply S t (op.granted loopback)).state ops

/-- The calls of the handlers, for the pointers in a list. -/
def handlerOps (behaviour : Behaviour σ) : Nat → List (Pending σ) → List (Op σ)
  | _, [] => []
  | i, pending :: rest =>
      LoopbackWorker.bufferOps behaviour i pending ++ handlerOps behaviour (i + 1) rest

/-- While the buffers that are in the list behind the flush are processed, no handler's call reaches
`Send` of the loopback session, or one of them throws. -/
def Harmless (w : LoopbackWorker σ) : LoopbackEvent σ → Prop
  | .call _ => True
  | .updateEveryTick now behaviour =>
      let flushed := w.call S loopback (.tryFlushPacket now)
      let ops := handlerOps behaviour 0 flushed.packetList
      throws S loopback flushed.throttler ops = true ∨
        silent S loopback flushed.throttler ops = true

end Worker

/-- Every buffer is processed once, in the order of `Send`, and those that have left the list have been
processed. -/
structure LoopbackWorker.Kept (w : LoopbackWorker σ) : Prop where
  processed : w.processed.map (·.number) = List.range w.processed.length
  packetList : ∃ k ≤ w.processed.length,
    w.packetList.map (·.number) = List.range' k (w.sends - k)

/-! ## What a call of the throttler sends -/

section Sends

variable {S : Sessions σ} {loopback : σ} {t : PacketThrottler σ}

theorem fits_iff {session : σ} {packet : Packet} :
    fits S t session packet = true ↔
      (((t.pendingBuffer S session).getD (PacketThrottler.freshBuffer S session)).append session
        packet).isSome = true := by
  simp only [fits, SocketBuffer.append, serializePacket, Option.isSome_map, decide_eq_true_eq]
  split_ifs with h
  · simpa using h
  · simpa using h

/-- A post to the loopback session always finds a buffer. -/
theorem postPacket_granted (packet : Packet) (policy : PacketPostingPolicy) :
    t.postPacket S loopback packet policy true true =
      t.postInto S loopback
        ((t.pendingBuffer S loopback).getD (PacketThrottler.freshBuffer S loopback)) packet policy
        true := by
  unfold PacketThrottler.postPacket
  cases t.pendingBuffer S loopback <;> rfl

variable [DecidableEq σ]

theorem sentTo_postPacket_loopback (packet : Packet) (policy : PacketPostingPolicy) :
    sentTo loopback (t.postPacket S loopback packet policy true true).actions = [] ↔
      fits S t loopback packet = true ∧ policy = .Throttle := by
  rw [postPacket_granted, fits_iff]
  unfold PacketThrottler.postInto PacketThrottler.storePacket
  cases happend : ((t.pendingBuffer S loopback).getD
      (PacketThrottler.freshBuffer S loopback)).append loopback packet with
  | some stored =>
      cases policy with
      | Immediate =>
          simp [sentTo]
      | Throttle =>
          simp [sentTo]
  | none =>
      -- the pending buffer is sent whatever follows
      cases (PacketThrottler.freshBuffer S loopback).append loopback packet with
      | none =>
          simp [sentTo]
      | some fresh =>
          cases policy with
          | Immediate =>
              simp [sentTo]
          | Throttle =>
              simp [sentTo]

/-- A post to another session sends to that one only. -/
theorem sentTo_postPacket_other {session : σ} (hsession : session ≠ loopback) (packet : Packet)
    (policy : PacketPostingPolicy) (allocated storeAllocated : Bool) :
    sentTo loopback
      (t.postPacket S session packet policy allocated storeAllocated).actions = [] := by
  have hinto : ∀ buffer, sentTo loopback
      (t.postInto S session buffer packet policy storeAllocated).actions = [] := by
    intro buffer
    unfold PacketThrottler.postInto PacketThrottler.storePacket
    cases buffer.append session packet with
    | some stored =>
        cases policy <;> simp [sentTo, hsession]
    | none =>
        cases storeAllocated with
        | false =>
            cases policy <;> simp [sentTo, hsession]
        | true =>
            cases (PacketThrottler.freshBuffer S session).append session packet with
            | none =>
                simp [sentTo, hsession]
            | some fresh =>
                cases policy <;> simp [sentTo, hsession]
  unfold PacketThrottler.postPacket
  split
  · exact hinto _
  · split
    · exact hinto _
    · simp [sentTo]

theorem sentTo_flushActions :
    sentTo loopback t.flushActions = [] ↔ hasEntry t loopback = false := by
  simp [sentTo, PacketThrottler.flushActions, hasEntry, List.filterMap_eq_nil_iff]

/-- A call sends to the loopback session if and only if it reaches its `Send`. -/
theorem sentTo_eq_nil_iff (op : Op σ) :
    sentTo loopback (apply S t (op.granted loopback)).actions = [] ↔
      op.reachesSend S loopback t = false := by
  cases op with
  | postPacket session packet policy allocated storeAllocated =>
      by_cases hsession : session = loopback
      · subst hsession
        have hgranted : (Op.postPacket session packet policy allocated storeAllocated).granted
            session = .postPacket session packet policy true true := by
          simp [Op.granted]
        rw [hgranted, apply, sentTo_postPacket_loopback]
        cases policy with
        | Immediate =>
            simp [Op.reachesSend]
        | Throttle =>
            simp [Op.reachesSend]
      · refine iff_of_true (sentTo_postPacket_other hsession _ _ _ _) ?_
        simp [Op.reachesSend, hsession]
  | cleanUp session =>
      refine iff_of_true ?_ rfl
      simp only [Op.granted, apply, PacketThrottler.cleanUp]
      split
      · rfl
      · simp [sentTo]
  | tryFlushPacket now =>
      simp only [Op.granted, apply, PacketThrottler.tryFlushPacket, Op.reachesSend]
      cases (t.throttler.fire now).1 with
      | false =>
          simp [sentTo]
      | true =>
          simp only [if_true, Bool.true_and]
          exact sentTo_flushActions
  | forceFlushPacket =>
      exact sentTo_flushActions
  | rehash order =>
      exact iff_of_true rfl rfl

end Sends

namespace LoopbackWorker

/-! ## Where the buffers are -/

/-- The numbers of the pointers in `_packet_list`. -/
def queued (w : LoopbackWorker σ) : List Nat := w.packetList.map (·.number)

/-- The numbers of the buffers that were processed. -/
def done (w : LoopbackWorker σ) : List Nat := w.processed.map (·.number)

/-- What was processed is a beginning of what was sent, and the list is the rest. -/
structure Settled (w : LoopbackWorker σ) : Prop where
  length : w.processed.length ≤ w.sends
  done : w.done = List.range w.processed.length
  queued : w.queued = List.range' w.processed.length (w.sends - w.processed.length)

/-- A buffer has left the list unprocessed. -/
def Lost (w : LoopbackWorker σ) : Prop := ∃ j < w.sends, j ∉ w.done ∧ j ∉ w.queued

variable {w : LoopbackWorker σ}

theorem Settled.kept (h : w.Settled) : w.Kept := ⟨h.done, _, Nat.le_refl _, h.queued⟩

theorem Lost.not_kept (h : w.Lost) : ¬ w.Kept := by
  rintro ⟨hdone, k, hk, hqueued⟩
  obtain ⟨j, hj, hunprocessed, hunqueued⟩ := h
  have hlength : w.processed.length ≤ j := by
    by_contra hlt
    refine hunprocessed ?_
    rw [LoopbackWorker.done, hdone]
    exact List.mem_range.2 (Nat.not_le.1 hlt)
  refine hunqueued ?_
  rw [LoopbackWorker.queued, hqueued, List.mem_range'_1]
  omega

/-- A worker that has lost nothing: its buffers are where they belong, or an exception has ended a
tick. -/
def Intact (w : LoopbackWorker σ) : Prop := w.Settled ∨ w.threw = true ∧ w.Kept

theorem Intact.kept (h : w.Intact) : w.Kept := h.elim Settled.kept And.right

/-- An exception ends the run, so until then the buffers are where they belong. -/
theorem Intact.settled (h : w.Intact) (hrunning : w.threw = false) : w.Settled := by
  refine h.resolve_right fun hended => ?_
  rw [hended.1] at hrunning
  cases hrunning

/-- Later sends do not bring an earlier buffer back. -/
theorem not_mem_queued_append {j : Nat} (hj : j < w.sends) (hqueued : j ∉ w.queued) (n : Nat) :
    j ∉ w.queued ++ List.range' w.sends n := by
  simp only [List.mem_append, List.mem_range'_1, not_or]
  exact ⟨hqueued, by omega⟩

theorem send_queued (buffers : List (Option (SocketBuffer σ))) :
    (w.send buffers).queued = w.queued ++ List.range' w.sends buffers.length := by
  simp only [queued, send, List.map_append, List.append_cancel_left_eq]
  refine List.ext_getElem (by simp) fun i hi hi' => ?_
  simp

/-- The list grows behind what it is. -/
theorem Settled.queued_append (h : w.Settled) (n : Nat) :
    w.queued ++ List.range' w.sends n =
      List.range' w.processed.length (w.sends + n - w.processed.length) := by
  have hsends : w.sends = w.processed.length + (w.sends - w.processed.length) :=
    (Nat.add_sub_cancel' h.length).symm
  calc
    w.queued ++ List.range' w.sends n
        = List.range' w.processed.length (w.sends - w.processed.length) ++
            List.range' (w.processed.length + (w.sends - w.processed.length)) n := by
          rw [h.queued, ← hsends]
    _ = List.range' w.processed.length (w.sends - w.processed.length + n) := List.range'_append_1
    _ = _ := by
          congr 1
          omega

theorem Settled.length_packetList (h : w.Settled) :
    w.packetList.length = w.sends - w.processed.length := by
  calc
    w.packetList.length
        = w.queued.length := (List.length_map _).symm
    _ = w.sends - w.processed.length := by rw [h.queued, List.length_range']

/-- The first pointers of the list are processed next. -/
theorem Settled.processed_take (h : w.Settled) (m : Nat) :
    (w.processed ++ w.packetList.take m).map (·.number) =
      List.range (w.processed ++ w.packetList.take m).length := by
  have htaken : (w.packetList.take m).map (·.number) =
      List.range' w.processed.length (min m (w.sends - w.processed.length)) := by
    rw [List.map_take]
    show w.queued.take m = _
    rw [h.queued]
    refine List.ext_getElem (by simp) fun i hi hi' => ?_
    simp
  have hdone : w.processed.map (·.number) = List.range' 0 w.processed.length := by
    rw [← List.range_eq_range']
    exact h.done
  rw [List.map_append, htaken, hdone, List.length_append, List.length_take, h.length_packetList,
    List.range_eq_range', ← List.range'_append_1, Nat.zero_add]

/-! ### Calls of the throttler -/

variable [DecidableEq σ] {S : Sessions σ} {loopback : σ}

variable (S loopback) in
/-- What a call leaves in the list. -/
theorem call_queued (op : Op σ) : ∃ n, (w.call S loopback op).queued = w.queued ++
      List.range' w.sends n ∧ (w.call S loopback op).sends = w.sends + n ∧
      (n = 0 ↔ op.reachesSend S loopback w.throttler = false) :=
  ⟨_, send_queued _, rfl, List.length_eq_zero_iff.trans (sentTo_eq_nil_iff op)⟩

theorem calls_of_threw {op : Op σ} (ops : List (Op σ))
    (h : (w.call S loopback op).threw = true) :
    w.calls S loopback (op :: ops) = w.call S loopback op := if_pos h

theorem calls_of_running {op : Op σ} (ops : List (Op σ))
    (h : (w.call S loopback op).threw = false) :
    w.calls S loopback (op :: ops) = (w.call S loopback op).calls S loopback ops :=
  if_neg (by simp [h])

variable (S loopback) in
/-- What calls leave in the list. -/
theorem calls_queued (ops : List (Op σ)) :
    ∀ w : LoopbackWorker σ, ∃ n, (w.calls S loopback ops).queued = w.queued ++
      List.range' w.sends n ∧ (w.calls S loopback ops).sends = w.sends + n ∧
      (throws S loopback w.throttler ops = false →
        (n = 0 ↔ silent S loopback w.throttler ops = true)) := by
  induction ops with
  | nil =>
      intro w
      exact ⟨0, by simp [calls], rfl, fun _ => iff_of_true rfl rfl⟩
  | cons op ops ih =>
      intro w
      obtain ⟨n, hqueued, hsends, hsilent⟩ := call_queued (w := w) S loopback op
      cases hthrew : (w.call S loopback op).threw with
      | true =>
          rw [calls_of_threw ops hthrew]
          refine ⟨n, hqueued, hsends, fun hnot => ?_⟩
          have hfirst := (Bool.or_eq_false_iff.1 hnot).1
          cases hthrew.symm.trans hfirst
      | false =>
          obtain ⟨m, hqueued', hsends', hsilent'⟩ := ih (w.call S loopback op)
          rw [calls_of_running ops hthrew]
          refine ⟨n + m, ?_, ?_, fun hnot => ?_⟩
          · calc
              ((w.call S loopback op).calls S loopback ops).queued
                  = w.queued ++ (List.range' w.sends n ++ List.range' (w.sends + n) m) := by
                    rw [hqueued', hqueued, hsends, List.append_assoc]
              _ = w.queued ++ List.range' w.sends (n + m) := by rw [List.range'_append_1]
          · rw [hsends', hsends, Nat.add_assoc]
          · have hrest := hsilent' (Bool.or_eq_false_iff.1 hnot).2
            calc
              n + m = 0
                  ↔ n = 0 ∧ m = 0 := Nat.add_eq_zero_iff
              _ ↔ op.reachesSend S loopback w.throttler = false ∧
                    silent S loopback (w.call S loopback op).throttler ops = true := by
                    rw [hsilent, hrest]
              _ ↔ silent S loopback w.throttler (op :: ops) = true := by
                    simp [silent, call]

variable (S loopback) in
/-- Calls end with an exception if and only if one of them throws. -/
theorem calls_threw (ops : List (Op σ)) :
    ∀ w : LoopbackWorker σ, w.threw = false →
      (w.calls S loopback ops).threw = throws S loopback w.throttler ops := by
  induction ops with
  | nil =>
      intro w hw
      exact hw
  | cons op ops ih =>
      intro w hw
      have hfirst : (w.call S loopback op).threw =
          (apply S w.throttler (op.granted loopback)).threw := rfl
      cases hthrew : (w.call S loopback op).threw with
      | true =>
          rw [calls_of_threw ops hthrew, hthrew, throws, ← hfirst, hthrew, Bool.true_or]
      | false =>
          rw [calls_of_running ops hthrew, ih _ hthrew, throws, ← hfirst, hthrew, Bool.false_or]
          rfl

/-- Calls do not look at what was processed. -/
theorem calls_processed (ops : List (Op σ)) :
    ∀ (w : LoopbackWorker σ) (processed : List (Pending σ)),
      (w.setProcessed processed).calls S loopback ops =
        (w.calls S loopback ops).setProcessed processed := by
  induction ops with
  | nil =>
      intro w processed
      rfl
  | cons op ops ih =>
      intro w processed
      have hcall : (w.setProcessed processed).call S loopback op =
          (w.call S loopback op).setProcessed processed := rfl
      cases hthrew : (w.call S loopback op).threw with
      | true =>
          rw [calls_of_threw ops hthrew]
          exact calls_of_threw ops hthrew
      | false =>
          have hthrew' : ((w.setProcessed processed).call S loopback op).threw = false := hthrew
          rw [calls_of_running ops hthrew, calls_of_running ops hthrew', hcall]
          exact ih (w.call S loopback op) processed

theorem calls_append (ops ops' : List (Op σ)) :
    ∀ w : LoopbackWorker σ, w.threw = false → w.calls S loopback (ops ++ ops') =
      if (w.calls S loopback ops).threw then w.calls S loopback ops
      else (w.calls S loopback ops).calls S loopback ops' := by
  induction ops with
  | nil =>
      intro w hw
      simp [calls, hw]
  | cons op ops ih =>
      intro w hw
      rw [List.cons_append]
      cases hthrew : (w.call S loopback op).threw with
      | true =>
          rw [calls_of_threw _ hthrew, calls_of_threw ops hthrew, if_pos hthrew]
      | false =>
          rw [calls_of_running _ hthrew, calls_of_running ops hthrew]
          exact ih (w.call S loopback op) hthrew

/-! ### A tick -/

variable (S loopback) in
/-- The loop makes the handlers' calls, and has processed all pointers that it found unless one
threw. -/
theorem processBuffers_eq (behaviour : Behaviour σ) (rest : List (Pending σ)) :
    ∀ (i : Nat) (w : LoopbackWorker σ), w.threw = false → ∃ m,
      processBuffers S loopback behaviour i rest w =
        (w.calls S loopback (handlerOps behaviour i rest)).setProcessed
          (w.processed ++ rest.take m) ∧
      ((w.calls S loopback (handlerOps behaviour i rest)).threw = false → m = rest.length) := by
  induction rest with
  | nil =>
      intro i w hw
      refine ⟨0, ?_, fun _ => rfl⟩
      simp [processBuffers, handlerOps, calls, setProcessed]
  | cons pending rest ih =>
      intro i w hw
      let marked := w.setProcessed (w.processed ++ [pending])
      have hmarked : marked.calls S loopback (bufferOps behaviour i pending) =
          (w.calls S loopback (bufferOps behaviour i pending)).setProcessed
            (w.processed ++ [pending]) := calls_processed _ w _
      have hround : processBuffers S loopback behaviour i (pending :: rest) w =
          if (marked.calls S loopback (bufferOps behaviour i pending)).threw then
            marked.calls S loopback (bufferOps behaviour i pending)
          else
            processBuffers S loopback behaviour (i + 1) rest
              (marked.calls S loopback (bufferOps behaviour i pending)) := rfl
      have hmarkedThrew : (marked.calls S loopback (bufferOps behaviour i pending)).threw =
          (w.calls S loopback (bufferOps behaviour i pending)).threw := by
        rw [hmarked]
        rfl
      rw [hround, hmarkedThrew, handlerOps, calls_append _ _ w hw, hmarked]
      cases hthrew : (w.calls S loopback (bufferOps behaviour i pending)).threw with
      | true =>
          -- the buffer counts as processed: its handler was called before the exception
          refine ⟨1, ?_, fun h => ?_⟩
          · rw [if_pos rfl, if_pos rfl]
            rfl
          · rw [if_pos rfl, hthrew] at h
            cases h
      | false =>
          obtain ⟨m, hrest, hall⟩ := ih (i + 1)
            ((w.calls S loopback (bufferOps behaviour i pending)).setProcessed
              (w.processed ++ [pending])) hthrew
          rw [calls_processed] at hrest hall
          refine ⟨m + 1, ?_, fun h => ?_⟩
          · rw [if_neg (by simp), if_neg (by simp), hrest]
            simp [setProcessed]
          · rw [if_neg (by simp)] at h
            rw [List.length_cons, hall h]

/-- A flush does not throw. -/
theorem call_tryFlush_threw (now : Milliseconds) :
    (w.call S loopback (.tryFlushPacket now)).threw = false := by
  simp only [call, Op.granted, apply, PacketThrottler.tryFlushPacket]
  split <;> rfl

variable (S loopback) in
/-- What a tick does, from the state behind the flush on. -/
theorem updateEveryTick_eq (now : Milliseconds) (behaviour : Behaviour σ) :
    let flushed := w.call S loopback (.tryFlushPacket now)
    let called := flushed.calls S loopback (handlerOps behaviour 0 flushed.packetList)
    ∃ m, w.updateEveryTick S loopback now behaviour =
        (if called.threw then called else { called with packetList := [] }).setProcessed
          (flushed.processed ++ flushed.packetList.take m) ∧
      (called.threw = false → m = flushed.packetList.length) := by
  intro flushed called
  obtain ⟨m, heq, hall⟩ := processBuffers_eq S loopback behaviour
    flushed.packetList 0 flushed (call_tryFlush_threw now)
  refine ⟨m, ?_, hall⟩
  have htick : w.updateEveryTick S loopback now behaviour =
      if (processBuffers S loopback behaviour 0 flushed.packetList flushed).threw then
        processBuffers S loopback behaviour 0 flushed.packetList flushed
      else
        { processBuffers S loopback behaviour 0 flushed.packetList flushed with
          packetList := [] } := rfl
  have hthrew : (processBuffers S loopback behaviour 0 flushed.packetList flushed).threw =
      called.threw := by
    rw [heq]
    rfl
  rw [htick, hthrew, heq]
  split <;> rfl

/-! ### Steps -/

theorem Settled.call (h : w.Settled) (op : Op σ) : (w.call S loopback op).Settled := by
  obtain ⟨n, hqueued, hsends, _⟩ := call_queued (w := w) S loopback op
  refine ⟨?_, h.done, ?_⟩
  · rw [hsends]
    exact h.length.trans (Nat.le_add_right _ _)
  · rw [hqueued, hsends]
    exact h.queued_append n

/-- A tick that ends with an exception leaves everything in the list that was not processed. -/
theorem Settled.kept_of_threw (h : w.Settled) (ops : List (Op σ)) (m : Nat) :
    ((w.calls S loopback ops).setProcessed (w.processed ++ w.packetList.take m)).Kept := by
  obtain ⟨n, hqueued, hsends, _⟩ := calls_queued S loopback ops w
  refine ⟨h.processed_take m, w.processed.length, ?_, ?_⟩
  · show w.processed.length ≤ (w.processed ++ w.packetList.take m).length
    simp
  · show (w.calls S loopback ops).queued = _
    rw [hqueued, h.queued_append, ← hsends]
    rfl

/-- A tick whose handlers send nothing leaves everything processed. -/
theorem Settled.cleared (h : w.Settled) {ops : List (Op σ)}
    (hthrows : throws S loopback w.throttler ops = false)
    (hsilent : silent S loopback w.throttler ops = true) :
    (({ w.calls S loopback ops with packetList := [] } : LoopbackWorker σ).setProcessed
      (w.processed ++ w.packetList.take w.packetList.length)).Settled := by
  obtain ⟨n, _, hsends, hnone⟩ := calls_queued S loopback ops w
  have hn : n = 0 := (hnone hthrows).2 hsilent
  have hlength : (w.processed ++ w.packetList.take w.packetList.length).length = w.sends := by
    rw [List.length_append, List.take_length, h.length_packetList]
    exact Nat.add_sub_cancel' h.length
  have hsame : (w.calls S loopback ops).sends = w.sends := by rw [hsends, hn, Nat.add_zero]
  refine ⟨?_, h.processed_take _, ?_⟩
  · show (w.processed ++ _).length ≤ (w.calls S loopback ops).sends
    rw [hlength, hsame]
  · show [] = List.range' (w.processed ++ _).length
      ((w.calls S loopback ops).sends - (w.processed ++ _).length)
    rw [hlength, hsame, Nat.sub_self]
    rfl

/-- A buffer that the handlers send is cleared with the list. -/
theorem Settled.lost (h : w.Settled) {ops : List (Op σ)}
    (hthrows : throws S loopback w.throttler ops = false)
    (hsends : silent S loopback w.throttler ops = false) (m : Nat) :
    (({ w.calls S loopback ops with packetList := [] } : LoopbackWorker σ).setProcessed
      (w.processed ++ w.packetList.take m)).Lost := by
  obtain ⟨n, _, hsent, hnone⟩ := calls_queued S loopback ops w
  have hn : n ≠ 0 := by
    intro hzero
    rw [(hnone hthrows).1 hzero] at hsends
    cases hsends
  refine ⟨w.sends, ?_, fun hdone => ?_, List.not_mem_nil⟩
  · show w.sends < (w.calls S loopback ops).sends
    omega
  · -- the numbers processed are those of earlier sends
    have hnumbers := h.processed_take m
    have hlength : (w.processed ++ w.packetList.take m).length ≤ w.sends := by
      have hsum := h.length
      rw [List.length_append, List.length_take, h.length_packetList]
      omega
    have hnumber : w.sends ∈ (w.processed ++ w.packetList.take m).map (·.number) := hdone
    rw [hnumbers] at hnumber
    exact absurd (List.mem_range.1 hnumber) (Nat.not_lt.2 hlength)

variable (S loopback) in
/-- What an event does to a worker that has lost nothing. -/
theorem Settled.next (h : w.Settled) (e : LoopbackEvent σ) :
    (Harmless S loopback w e → (w.next S loopback e).Intact) ∧
      (¬ Harmless S loopback w e → (w.next S loopback e).Lost) := by
  cases e with
  | call op =>
      exact ⟨fun _ => .inl (h.call op), fun hnot => absurd trivial hnot⟩
  | updateEveryTick now behaviour =>
      let flushed := w.call S loopback (.tryFlushPacket now)
      let ops := handlerOps behaviour 0 flushed.packetList
      have hflushed : flushed.Settled := h.call _
      have hrunning : flushed.threw = false := call_tryFlush_threw now
      obtain ⟨m, htick, hall⟩ := updateEveryTick_eq (w := w) S loopback now
        behaviour
      have hthrew := calls_threw S loopback ops flushed hrunning
      show (throws S loopback flushed.throttler ops = true ∨
          silent S loopback flushed.throttler ops = true → Intact (w.updateEveryTick S loopback now
            behaviour)) ∧ (¬ (throws S loopback flushed.throttler ops = true ∨
          silent S loopback flushed.throttler ops = true) → Lost (w.updateEveryTick S loopback now
            behaviour))
      rw [htick]
      cases hthrows : throws S loopback flushed.throttler ops with
      | true =>
          -- the `clear` behind the loop is not reached
          rw [hthrows] at hthrew
          rw [if_pos hthrew]
          refine ⟨fun _ => .inr ⟨hthrew, hflushed.kept_of_threw ops m⟩, fun hnot => ?_⟩
          exact absurd (.inl rfl) hnot
      | false =>
          rw [hthrows] at hthrew
          rw [if_neg (by simp [flushed, ops, hthrew]), hall hthrew]
          cases hsilent : silent S loopback flushed.throttler ops with
          | true =>
              refine ⟨fun _ => .inl (hflushed.cleared hthrows hsilent), fun hnot => ?_⟩
              exact absurd (.inr rfl) hnot
          | false =>
              refine ⟨fun hharmless => ?_, fun _ => hflushed.lost hthrows hsilent _⟩
              simp at hharmless

/-- What has left the list unprocessed does not come back. -/
theorem Lost.call (h : w.Lost) (op : Op σ) : (w.call S loopback op).Lost := by
  obtain ⟨j, hj, hdone, hqueued⟩ := h
  obtain ⟨n, happended, hsends, _⟩ := call_queued (w := w) S loopback op
  refine ⟨j, ?_, hdone, ?_⟩
  · omega
  · rw [happended]
    exact not_mem_queued_append hj hqueued n

theorem Lost.tick (h : w.Lost) (ops : List (Op σ)) (m : Nat) :
    ((if (w.calls S loopback ops).threw then w.calls S loopback ops
      else { w.calls S loopback ops with packetList := [] }).setProcessed
        (w.processed ++ w.packetList.take m)).Lost := by
  obtain ⟨j, hj, hdone, hqueued⟩ := h
  obtain ⟨n, happended, hsends, _⟩ := calls_queued S loopback ops w
  have hdone' : j ∉ (w.processed ++ w.packetList.take m).map (·.number) := by
    rw [List.map_append, List.mem_append, not_or, List.map_take]
    exact ⟨hdone, fun hmem => hqueued (List.mem_of_mem_take hmem)⟩
  have hlater : j < (w.calls S loopback ops).sends := by omega
  split
  · refine ⟨j, hlater, hdone', ?_⟩
    show j ∉ (w.calls S loopback ops).queued
    rw [happended]
    exact not_mem_queued_append hj hqueued n
  · exact ⟨j, hlater, hdone', List.not_mem_nil⟩

theorem Lost.next (h : w.Lost) (e : LoopbackEvent σ) : (w.next S loopback e).Lost := by
  cases e with
  | call op =>
      exact h.call op
  | updateEveryTick now behaviour =>
      obtain ⟨m, htick, _⟩ := updateEveryTick_eq (w := w) S loopback now
        behaviour
      show Lost (w.updateEveryTick S loopback now behaviour)
      rw [htick]
      exact (h.call _).tick _ m

/-! ### Runs -/

variable {w' : LoopbackWorker σ} {events : List (LoopbackEvent σ)}

/-- A run loses nothing if its ticks are harmless, and otherwise it has lost a buffer at its end. -/
theorem run_intact_or_lost (hrun : (loopbackMachine S loopback).Run w events w') :
    w.Intact →
      ((loopbackMachine S loopback).restrict (Harmless S loopback)).Run w events w' ∧ w'.Intact ∨
        w'.Lost := by
  induction hrun with
  | nil w =>
      intro h
      exact .inl ⟨.nil w, h⟩
  | @cons w w₁ w' e events hstep hrest ih =>
      intro h
      obtain ⟨hrunning, rfl⟩ := hstep
      have hsettled := h.settled hrunning
      by_cases hharmless : Harmless S loopback w e
      · have hnext := (hsettled.next S loopback e).1 hharmless
        refine (ih hnext).imp_left fun hkept => ⟨?_, hkept.2⟩
        exact .cons ⟨hharmless, hrunning, rfl⟩ hkept.1
      · have hlost := (hsettled.next S loopback e).2 hharmless
        refine .inr (hrest.invariant (P := Lost) ?_ hlost)
        rintro u e _ u' hu ⟨_, rfl⟩
        exact hu.next e

end LoopbackWorker

section Runs

variable [DecidableEq σ] {S : Sessions σ} {loopback : σ}

variable (S loopback) in
/-- No buffer leaves the list before it is processed, and the next tick processes the list, unless an
exception ends it. -/
structure LoopbackWorker.Delivers (w : LoopbackWorker σ) : Prop where
  kept : w.Kept
  next : ∀ now behaviour, (w.updateEveryTick S loopback now behaviour).threw = false →
    ∀ j ∈ w.queued, j ∈ (w.updateEveryTick S loopback now behaviour).done

/-- The next tick always processes the list. -/
theorem LoopbackWorker.mem_done_tick {w : LoopbackWorker σ} {now : Milliseconds}
    {behaviour : Behaviour σ} (h : (w.updateEveryTick S loopback now behaviour).threw = false)
    {j : Nat} (hj : j ∈ w.queued) : j ∈ (w.updateEveryTick S loopback now behaviour).done := by
  let flushed := w.call S loopback (.tryFlushPacket now)
  obtain ⟨m, htick, hall⟩ := updateEveryTick_eq (w := w) S loopback now
    behaviour
  obtain ⟨n, hqueued, _⟩ := call_queued (w := w) S loopback
    (.tryFlushPacket now)
  have hmem : j ∈ flushed.queued := by
    rw [hqueued]
    exact List.mem_append_left _ hj
  rw [htick] at h ⊢
  have hrunning : (flushed.calls S loopback
      (handlerOps behaviour 0 flushed.packetList)).threw = false := by
    by_contra hthrew
    rw [if_pos (by simpa using hthrew)] at h
    exact hthrew h
  rw [hall hrunning, List.take_length]
  show j ∈ (flushed.processed ++ flushed.packetList).map (·.number)
  rw [List.map_append]
  exact List.mem_append_right _ hmem

/-- Whatever the handlers do: every buffer passed to `Send` of the loopback session is processed once
and in order before it leaves the list, if and only if the ticks of the run are harmless. -/
theorem delivers_iff (throttler : PacketThrottler σ) {events : List (LoopbackEvent σ)}
    {w : LoopbackWorker σ}
    (hrun : (loopbackMachine S loopback).Run ⟨throttler, [], 0, [], false⟩ events w) :
    w.Delivers S loopback ↔ ((loopbackMachine S loopback).restrict (Harmless S loopback)).Run
      ⟨throttler, [], 0, [], false⟩ events w := by
  have hinit : LoopbackWorker.Intact ⟨throttler, [], 0, [], false⟩ :=
    .inl ⟨Nat.le_refl 0, rfl, rfl⟩
  constructor
  · intro hdelivers
    rcases LoopbackWorker.run_intact_or_lost hrun hinit with h | hlost
    · exact h.1
    · exact absurd hdelivers.kept hlost.not_kept
  · intro hharmless
    refine ⟨(hharmless.invariant (P := LoopbackWorker.Intact) ?_ hinit).kept,
      fun _ _ h _ hj => LoopbackWorker.mem_done_tick h hj⟩
    rintro u e _ u' hu ⟨hcond, hrunning, rfl⟩
    exact ((hu.settled hrunning).next S loopback e).1 hcond

/-! ### Two packets -/

/-- Sessions with small write buffers; session 0 is the loopback. -/
def smallBuffers : Sessions Nat := ⟨id, fun _ => 64, fun _ => by decide⟩

def newWorker : LoopbackWorker Nat := ⟨.new 30 0, [], 0, [], false⟩

/-- A packet is posted at once, and its handler posts another one. -/
def postingEvents (policy : PacketPostingPolicy) : List (LoopbackEvent Nat) :=
  [.call (.postPacket 0 ⟨20, [1, 2]⟩ .Immediate true true),
    .updateEveryTick 10 fun _ _ => [.postPacket 0 ⟨21, [3]⟩ policy true true]]

theorem run_posting (policy : PacketPostingPolicy) :
    (loopbackMachine smallBuffers 0).Run newWorker (postingEvents policy)
      ((postingEvents policy).foldl (LoopbackWorker.next smallBuffers 0) newWorker) :=
  .cons ⟨rfl, rfl⟩ (.cons ⟨by decide +kernel, rfl⟩ (.nil _))

/-- A throttled post waits in the throttler. -/
theorem delivers_throttled :
    ((postingEvents .Throttle).foldl (LoopbackWorker.next smallBuffers 0) newWorker).Delivers
      smallBuffers 0 := by
  refine (delivers_iff _ (run_posting .Throttle)).2 ?_
  exact .cons ⟨trivial, rfl, rfl⟩ (.cons ⟨.inr (by decide +kernel), by decide +kernel, rfl⟩ (.nil _))

/-- An immediate post appends its buffer to the list that is being processed, which is then
cleared. -/
theorem posted_while_processing_lost :
    let w := (postingEvents .Immediate).foldl (LoopbackWorker.next smallBuffers 0) newWorker
    (loopbackMachine smallBuffers 0).Run newWorker (postingEvents .Immediate) w ∧
      w.sends = 2 ∧ w.done = [0] ∧ w.queued = [] ∧ ¬ w.Kept := by
  intro w
  have hsends : w.sends = 2 := by decide +kernel
  have hdone : w.done = [0] := by decide +kernel
  have hqueued : w.queued = [] := by decide +kernel
  refine ⟨run_posting .Immediate, hsends, hdone, hqueued, ?_⟩
  refine LoopbackWorker.Lost.not_kept ⟨1, ?_, ?_, ?_⟩
  · rw [hsends]
    decide
  · rw [hdone]
    decide
  · rw [hqueued]
    exact List.not_mem_nil

end Runs

end Engine
end SeamlessServer
