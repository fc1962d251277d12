import SeamlessServer.Engine.Framing
import SeamlessServer.Engine.Ordering

/-!
# Engine.Parcels — the packets in the buffers of the throttler

`Engine.Ordering` follows the bytes that the throttler hands to `Send`.  They are whole packets, and
since a stream of packets can be read in one way only, the packets come in the order of the posts as
well.
-/

namespace SeamlessServer
namespace Engine

open Protocol Utility PacketThrottler

/-! ## Packets that are posted -/

/-- A packet that a handler posts: it is none of the engine's own, and `struct_pack` begins the body
with a type code. -/
def Postable (p : Packet) : Prop :=
  p.packetType < 2 ^ 16 ∧ p.body ≠ [] ∧
    p.packetType ∉ [NetworkEngine.packetHeartbeatRq, NetworkEngine.packetHeartbeatRs,
      NetworkEngine.packetSessionCreateRq, NetworkEngine.packetSessionCreateRs,
      NetworkEngine.packetSessionCloseRq]

instance (p : Packet) : Decidable (Postable p) := inferInstanceAs (Decidable (_ ∧ _ ∧ _))

/-- The throttler serialises with `ErrorCode::None`. -/
def frameOf (p : Packet) (h : Postable p) : NetworkEngine.Frame where
  packet := p
  errorCode := NetworkEngine.errorNone
  type_lt := h.1
  error_lt := by decide
  body_ne := h.2.1

def framesOf (packets : List Packet) : List NetworkEngine.Frame :=
  packets.filterMap fun p => if h : Postable p then some (frameOf p h) else none

theorem mem_framesOf {packets : List Packet} {f : NetworkEngine.Frame} (hf : f ∈ framesOf packets) :
    f.packet ∈ packets ∧ f.isData = true := by
  obtain ⟨p, hp, hsome⟩ := List.mem_filterMap.1 hf
  split_ifs at hsome with hpostable
  cases hsome
  refine ⟨hp, ?_⟩
  have htype := hpostable.2.2
  simp only [List.mem_cons, List.not_mem_nil, or_false, not_or] at htype
  simp [NetworkEngine.Frame.isData, NetworkEngine.Frame.isHeartbeat, frameOf, htype]

theorem errorCode_framesOf {packets : List Packet} {f : NetworkEngine.Frame}
    (hf : f ∈ framesOf packets) : f.errorCode = NetworkEngine.errorNone := by
  obtain ⟨p, _, hsome⟩ := List.mem_filterMap.1 hf
  split_ifs at hsome
  cases hsome
  rfl

section Frames

variable {packets : List Packet} (h : ∀ p ∈ packets, Postable p)

include h

theorem map_packet_framesOf : (framesOf packets).map (·.packet) = packets := by
  induction packets with
  | nil =>
      rfl
  | cons p packets ih =>
      have hrest := ih fun q hq => h q (List.mem_cons_of_mem _ hq)
      rw [framesOf, List.filterMap_cons, dif_pos (h p List.mem_cons_self)]
      exact congrArg (p :: ·) hrest

theorem bytes_framesOf :
    (framesOf packets).flatMap NetworkEngine.Frame.bytes =
      packets.flatMap fun p => packetBytes p 0 := by
  induction packets with
  | nil =>
      rfl
  | cons p packets ih =>
      have hrest := ih fun q hq => h q (List.mem_cons_of_mem _ hq)
      rw [framesOf, List.filterMap_cons, dif_pos (h p List.mem_cons_self)]
      exact congrArg (packetBytes p 0 ++ ·) hrest

end Frames

/-! ## Packets in buffers -/

variable {σ : Type} {S : Sessions σ} {t : PacketThrottler σ}

def SocketBuffer.packets (b : SocketBuffer σ) : List Packet := b.contents.map Posted.packet

theorem SocketBuffer.bytes_eq (b : SocketBuffer σ) :
    b.bytes = b.packets.flatMap fun p => packetBytes p 0 := by
  simp [bytes, packets, List.flatMap_map]

/-- The packets waiting for a session. -/
def pendingPackets (S : Sessions σ) (t : PacketThrottler σ) (x : σ) : List Packet :=
  (t.pendingBuffer S x).elim [] SocketBuffer.packets

theorem pendingBytes_eq (x : σ) :
    pendingBytes S t x = (pendingPackets S t x).flatMap fun p => packetBytes p 0 := by
  cases hpending : t.pendingBuffer S x with
  | none =>
      simp [pendingBytes, pendingPackets, hpending]
  | some b =>
      simpa [pendingBytes, pendingPackets, hpending] using b.bytes_eq

section Sent

variable [DecidableEq σ]

/-- The packets an action hands to a session's `Send`. -/
def Action.packetsTo (x : σ) : Action σ → List Packet
  | .send y (some b) => if y = x then b.packets else []
  | _ => []

def sentPackets (x : σ) (actions : List (Action σ)) : List Packet :=
  actions.flatMap (Action.packetsTo x)

/-- The packets a call posts to a session. -/
def Op.packetsTo (x : σ) : Op σ → List Packet
  | .postPacket y p _ _ _ => if y = x then [p] else []
  | _ => []

theorem sentBytes_eq (x : σ) (actions : List (Action σ)) :
    sentBytes x actions = (sentPackets x actions).flatMap fun p => packetBytes p 0 := by
  rw [sentBytes, sentPackets, List.flatMap_assoc]
  refine congrArg (actions.flatMap ·) (funext fun a => ?_)
  cases a with
  | send y b =>
      cases b with
      | none =>
          rfl
      | some b =>
          by_cases hy : y = x
          · simpa [Action.sentTo, Action.packetsTo, hy] using b.bytes_eq
          · simp [Action.sentTo, Action.packetsTo, hy]
  | overflow y =>
      rfl
  | release y z b =>
      rfl

theorem postedTo_eq (x : σ) (op : Op σ) :
    op.postedTo x = (op.packetsTo x).flatMap fun p => packetBytes p 0 := by
  cases op with
  | postPacket y p policy ok storeOk =>
      by_cases hy : y = x <;> simp [Op.postedTo, Op.packetsTo, hy]
  | _ =>
      rfl

end Sent

/-! ## Whatever is in a buffer was posted -/

section Carried

variable (Good : Packet → Prop)

/-- The call posts only such packets. -/
def Op.Posts : Op σ → Prop
  | .postPacket _ p _ _ _ => Good p
  | _ => True

/-- A buffer that is handed to `Send` has only such packets. -/
def Action.Carries : Action σ → Prop
  | .send _ (some b) => ∀ p ∈ b.packets, Good p
  | _ => True

/-- The buffer of the entry has only such packets. -/
def Stocked (_ : Nat) (data : ThrottleData σ) : Prop :=
  ∀ b, data.buffer = some b → ∀ p ∈ b.packets, Good p

variable {Good} {x : σ} {b b' : SocketBuffer σ} {p : Packet}

theorem packets_append (h : b.append x p = some b') : b'.packets = b.packets ++ [p] := by
  rcases SocketBuffer.append_eq_some h with ⟨_, rfl⟩
  simp [SocketBuffer.packets]

theorem carried_append (hb : ∀ q ∈ b.packets, Good q) (hp : Good p) (h : b.append x p = some b') :
    ∀ q ∈ b'.packets, Good q := by
  rw [packets_append h]
  intro q hq
  rcases List.mem_append.1 hq with hold | hnew
  · exact hb q hold
  · rwa [List.mem_singleton.1 hnew]

variable (Good) in
theorem carried_fresh (S : Sessions σ) (x : σ) : ∀ q ∈ (freshBuffer S x).packets, Good q := by
  simp [SocketBuffer.packets, freshBuffer]

theorem carried_storePacket (hb : ∀ q ∈ b.packets, Good q) (hp : Good p) (ok : Bool) :
    (∀ b', (storePacket S x b p ok).1 = some b' → ∀ q ∈ b'.packets, Good q) ∧
      ∀ a ∈ (storePacket S x b p ok).2.1, a.Carries Good := by
  rcases storePacket_cases S x b p ok with ⟨b', h, heq⟩ | ⟨_, _, b', h, heq⟩ | ⟨_, _, _, heq⟩ |
    ⟨_, _, heq⟩
  · simpa [heq] using carried_append hb hp h
  · have hb' := carried_append (carried_fresh Good S x) hp h
    simpa [heq, Action.Carries] using ⟨hb', hb⟩
  · simpa [heq, Action.Carries] using ⟨carried_fresh Good S x, hb⟩
  · simpa [heq, Action.Carries] using hb

theorem carried_postInto (ht : Entries (Stocked Good) t) (hb : ∀ q ∈ b.packets, Good q)
    (hp : Good p) (policy : PacketPostingPolicy) (ok : Bool) :
    Entries (Stocked Good) (t.postInto S x b p policy ok).state ∧
      ∀ a ∈ (t.postInto S x b p policy ok).actions, a.Carries Good := by
  obtain ⟨hstored, hactions⟩ := carried_storePacket (S := S) (x := x) hb hp ok
  refine ⟨entries_postInto ht hstored, ?_⟩
  rcases postInto_cases S t x b p policy ok with ⟨_, heq⟩ | ⟨_, _, _, heq⟩
  · simpa [heq] using hactions
  · intro a ha
    rw [heq, List.mem_append, List.mem_singleton] at ha
    rcases ha with ha | rfl
    · exact hactions a ha
    · -- the buffer just stored is the one that is sent
      cases hbuf : (storePacket S x b p ok).1 with
      | none => trivial
      | some b' => exact hstored b' hbuf

theorem carried_flushActions (ht : Entries (Stocked Good) t) :
    ∀ a ∈ t.flushActions, a.Carries Good := by
  intro a ha
  rcases mem_flushActions.1 ha with ⟨k, data, hk, rfl⟩
  cases hbuf : data.buffer with
  | none => trivial
  | some b => exact ht k data hk b hbuf

/-- One call: what is kept and what is sent was kept before or is posted. -/
theorem carried_apply (ht : Entries (Stocked Good) t) {op : Op σ} (hop : op.Posts Good) :
    Entries (Stocked Good) (apply S t op).state ∧
      ∀ a ∈ (apply S t op).actions, a.Carries Good := by
  cases op with
  | postPacket x p policy ok storeOk =>
      rcases postPacket_cases S t x p policy ok storeOk with ⟨b, hpending, heq⟩ | ⟨_, _, heq⟩ |
        ⟨_, _, heq⟩
      · obtain ⟨data, hfind, hbuf⟩ := pendingBuffer_eq_some hpending
        simpa [apply, heq] using carried_postInto ht (ht _ data hfind b hbuf) hop policy storeOk
      · simpa [apply, heq] using carried_postInto ht (carried_fresh Good S x) hop policy storeOk
      · have hmap : (apply S t (.postPacket x p policy ok storeOk)).state.throttleData =
            t.throttleData.erase (S.sessionId x) := by
          simp [apply, heq]
        exact ⟨entries_erase ht hmap, by simp [apply, heq, Action.Carries]⟩
  | cleanUp x =>
      refine ⟨entries_cleanUp ht, ?_⟩
      intro a ha
      cases hfind : t.throttleData.find (S.sessionId x) with
      | none =>
          simp [apply, cleanUp, hfind] at ha
      | some data =>
          rcases (by simpa [apply, cleanUp, hfind] using ha :
            ∃ b, data.buffer = some b ∧ Action.release x data.session b = a) with ⟨b, _, rfl⟩
          trivial
  | tryFlushPacket now =>
      refine ⟨entries_tryFlushPacket ht, ?_⟩
      rcases t.tryFlushPacket_cases now with ⟨_, heq⟩ | ⟨_, heq⟩
      · simpa [apply, heq] using carried_flushActions ht
      · simp [apply, heq]
  | forceFlushPacket =>
      exact ⟨entries_empty rfl, carried_flushActions ht⟩
  | rehash order =>
      exact ⟨entries_rehash ht, by simp [apply]⟩

end Carried

/-! ## Order of the packets -/

/-- A packet that is posted to a session and fits its write buffers. -/
structure Parcel (S : Sessions σ) (x : σ) (p : Packet) : Prop where
  postable : Postable p
  size_le : packetLengthSize + packetHeaderSize + p.body.length ≤ S.writeCapacity x

theorem Parcel.fits {x : σ} {p : Packet} (h : Parcel S x p) : p.Fits :=
  ⟨h.postable.1, h.size_le.trans_lt (S.writeCapacity_lt x)⟩

theorem parcel_of_wellFormed {x : σ} {b : SocketBuffer σ} (hb : b.WellFormed S x)
    (hpostable : ∀ p ∈ b.packets, Postable p) : ∀ p ∈ b.packets, Parcel S x p := by
  intro p hp
  refine ⟨hpostable p hp, ?_⟩
  -- the packet is no longer than the buffer that it is in
  obtain ⟨before, behind, hpackets⟩ := List.append_of_mem hp
  have hbytes := b.bytes_eq
  rw [hpackets, List.flatMap_append, List.flatMap_cons] at hbytes
  calc
    packetLengthSize + packetHeaderSize + p.body.length
        = (packetBytes p 0).length := (length_packetBytes p 0).symm
    _ ≤ b.bytes.length := by
          rw [hbytes, List.length_append, List.length_append]
          omega
    _ = b.length := hb.length.symm
    _ ≤ S.writeCapacity x := hb.capacity ▸ hb.bounded

/-- What is pending for a session are parcels for it. -/
theorem parcel_pendingPackets {U : Set σ} {x : σ} (hinj : Set.InjOn S.sessionId U) (hx : x ∈ U)
    (hfilled : Entries (Filled S U) t) (hpostable : Entries (Stocked Postable) t) :
    ∀ p ∈ pendingPackets S t x, Parcel S x p := by
  cases hpending : t.pendingBuffer S x with
  | none =>
      simp [pendingPackets, hpending]
  | some b =>
      obtain ⟨data, hfind, hbuf⟩ := pendingBuffer_eq_some hpending
      have hfill := hfilled _ data hfind
      have hsession : data.session = x := hinj hfill.mem hx hfill.id
      obtain ⟨b', hb', hwell⟩ := hfill.buffer
      have hsame : b' = b := by simpa [hbuf] using hb'.symm
      subst hsame
      simpa [pendingPackets, hpending] using
        parcel_of_wellFormed (hsession ▸ hwell) (hpostable _ data hfind b' hbuf)

section Order

variable [DecidableEq σ] {U : Set σ} {x : σ}

/-- What is sent to a session are parcels for it. -/
theorem parcel_sentPackets {actions : List (Action σ)} (hcarries : ∀ a ∈ actions, a.Carries Postable)
    (hbounded : ∀ a ∈ actions, a.Bounded S) : ∀ p ∈ sentPackets x actions, Parcel S x p := by
  intro p hp
  obtain ⟨a, ha, hmem⟩ := List.mem_flatMap.1 hp
  cases a with
  | send y b =>
      obtain ⟨b', rfl, hwell⟩ := hbounded _ ha
      by_cases hy : y = x
      · subst hy
        have hmem : p ∈ b'.packets := by simpa [Action.packetsTo] using hmem
        exact parcel_of_wellFormed hwell (hcarries _ ha) p hmem
      · simp [Action.packetsTo, hy] at hmem
  | overflow y =>
      cases hmem
  | release y z b =>
      cases hmem

theorem parcel_packetsTo {op : Op σ} (hregular : op.Regular S U) (hposts : op.Posts Postable) :
    ∀ p ∈ op.packetsTo x, Parcel S x p := by
  intro p hp
  cases op with
  | postPacket y q policy ok storeOk =>
      by_cases hy : y = x
      · subst hy
        have hp : p = q := by simpa [Op.packetsTo] using hp
        subst hp
        exact ⟨hposts, hregular.2.1⟩
      · simp [Op.packetsTo, hy] at hp
  | _ =>
      cases hp

/-- The throttler holds buffers of its sessions, with packets that were posted. -/
structure Regular (S : Sessions σ) (U : Set σ) (t : PacketThrottler σ) : Prop where
  filled : Entries (Filled S U) t
  stocked : Entries (Stocked Postable) t

/-- One regular call moves packets from pending to sent and appends what it posts. -/
theorem Regular.apply (hinj : Set.InjOn S.sessionId U) (hx : x ∈ U) (ht : Regular S U t) {op : Op σ}
    (hregular : op.Regular S U) (hposts : op.Posts Postable) :
    Regular S U (apply S t op).state ∧
      (∀ p ∈ sentPackets x (Engine.apply S t op).actions, Parcel S x p) ∧
      sentPackets x (Engine.apply S t op).actions ++
          pendingPackets S (Engine.apply S t op).state x =
        pendingPackets S t x ++ op.packetsTo x := by
  obtain ⟨hfilled, hbounded, horder⟩ := apply_regular hinj ht.filled hregular
  obtain ⟨hstocked, hcarries⟩ := carried_apply (S := S) ht.stocked hposts
  have hsent := parcel_sentPackets (x := x) hcarries hbounded
  refine ⟨⟨hfilled, hstocked⟩, hsent, ?_⟩
  -- the bytes are the same, and can be read in one way only
  have hbytes := horder x hx
  rw [sentBytes_eq, pendingBytes_eq, pendingBytes_eq, postedTo_eq, ← List.flatMap_append,
    ← List.flatMap_append] at hbytes
  refine flatMap_packetBytes_inj (by decide) ?_ ?_ hbytes
  · intro p hp
    rcases List.mem_append.1 hp with hp | hp
    · exact (hsent p hp).fits
    · exact (parcel_pendingPackets hinj hx hfilled hstocked p hp).fits
  · intro p hp
    rcases List.mem_append.1 hp with hp | hp
    · exact (parcel_pendingPackets hinj hx ht.filled ht.stocked p hp).fits
    · exact (parcel_packetsTo hregular hposts p hp).fits

end Order

end Engine
end SeamlessServer
