import SeamlessServer.Data.Machine
import SeamlessServer.Engine.Parcels
import SeamlessServer.Engine.Replies

/-!
# Engine.Conversation — two engines joined by a connection

A connector and an acceptor, each with the throttler of its worker, its read buffers, and the bytes
that the other end has written and it has not received yet.  Either worker calls its throttler, the
acceptor sends heartbeats, and either engine reads as many bytes as it happens to get, in any order.

* `conversation_delivers` — what was posted at one end is submitted at the other, in order.
-/

namespace SeamlessServer
namespace Engine

open Protocol Utility
open NetworkEngine (Frame StreamType Connection Surroundings SocketContext ContextType)

/-! ## The two ends -/

def NetworkEngine.StreamType.other : StreamType → StreamType
  | .Connector => .Acceptor
  | .Acceptor => .Connector

@[simp] theorem NetworkEngine.StreamType.other_other (side : StreamType) :
    side.other.other = side := by
  cases side <;> rfl

@[simp] theorem NetworkEngine.StreamType.other_ne (side : StreamType) : side.other ≠ side := by
  cases side <;> decide

namespace Conversation

/-- The type of the packet with which an end begins. -/
def greeting : StreamType → Nat
  | .Connector => NetworkEngine.packetSessionCreateRq
  | .Acceptor => NetworkEngine.packetSessionCreateRs

/-- The context by which a worker is told of its session. -/
def told : StreamType → ContextType
  | .Connector => .SessionConnected
  | .Acceptor => .SessionAccepted

/-- An end: the surroundings of its engine, the attachment of its stream and the capacity of its read
buffers; the sessions that its throttler serves, and the one of this connection. -/
structure End (σ : Type) where
  env : Surroundings
  attachment : Nat
  readCapacity : Nat
  sessions : Sessions σ
  served : Set σ
  session : σ

/-- Both engines get what they ask for, the connector stays registered, and a packet that fits a write
buffer fits a read buffer of the other end. -/
structure Joined {σ : Type} (ends : StreamType → End σ) : Prop where
  generous : ∀ side, (ends side).env.Generous
  streamType : ∀ side, (ends side).env.streamType = side
  registered : ∀ n, (ends .Connector).env.connector n = true
  distinct : ∀ side, Set.InjOn (ends side).sessions.sessionId (ends side).served
  session : ∀ side, (ends side).session ∈ (ends side).served
  capacity : ∀ side, (ends side).readCapacity < 2 ^ 31
  fits : ∀ side, (ends side).sessions.writeCapacity (ends side).session ≤
    (ends side.other).readCapacity

/-- The state of an end.  Nothing in the code reads the last three fields: the number of bytes
received, the packets written to the stream and the packets posted to the session. -/
structure EndState (σ : Type) where
  connection : Connection
  inbound : List UInt8
  throttler : PacketThrottler σ
  received : Nat
  written : List Frame
  posted : List Packet

abbrev State (σ : Type) := StreamType → EndState σ

/-! ## Steps -/

inductive Event (σ : Type)
  | call (side : StreamType) (op : Op σ)
  | heartbeat (f : Frame)
  | read (side : StreamType) (count : Nat) (replies : List Frame)

section Steps

variable {σ : Type} [DecidableEq σ] (ends : StreamType → End σ) (s : State σ)

/-- The worker of an end calls its throttler, and the stream takes what is sent to the session. -/
def call (side : StreamType) (op : Op σ) : State σ :=
  let outcome := apply (ends side).sessions (s side).throttler op
  fun side' =>
    if side' = side then
      { s side' with
        throttler := outcome.state
        written := (s side').written ++ framesOf (sentPackets (ends side).session outcome.actions)
        posted := (s side').posted ++ op.packetsTo (ends side).session }
    else
      { s side' with
        inbound := (s side').inbound ++ sentBytes (ends side).session outcome.actions }

/-- The engine of an end writes some packets. -/
def write (side : StreamType) (frames : List Frame) : State σ := fun side' =>
  if side' = side then
    { s side' with written := (s side').written ++ frames }
  else
    { s side' with inbound := (s side').inbound ++ frames.flatMap Frame.bytes }

/-- A read completes with the next bytes that are there, and is answered. -/
def read (side : StreamType) (count : Nat) (replies : List Frame) : State σ :=
  let bytes := (s side).inbound.take count
  write (Function.update s side
    { s side with
      connection := (s side).connection.receive (ends side).env (ends side).attachment bytes
      inbound := (s side).inbound.drop count
      received := (s side).received + count }) side replies

/-- A packet that fits the write buffers of an end. -/
def Writable (side : StreamType) (f : Frame) : Prop :=
  f.bytes.length ≤ (ends side).sessions.writeCapacity (ends side).session

instance (side : StreamType) (f : Frame) : Decidable (Writable ends side f) :=
  inferInstanceAs (Decidable (_ ≤ _))

/-- `OnConnect` writes a `packet_session_create_rq`, and both ends have posted a buffer for the first
read.  Nothing is pending for the sessions. -/
structure Initial : Prop where
  connection : ∀ side, (s side).connection = Connection.accept (ends side).env
  greets : ∃ f : Frame, f.packet.packetType = greeting .Connector ∧
    (ends .Acceptor).env.decodes (greeting .Connector) f.packet.body = true ∧
    Writable ends .Connector f ∧ (s .Connector).written = [f] ∧ (s .Acceptor).inbound = f.bytes
  silent : (s .Acceptor).written = [] ∧ (s .Connector).inbound = []
  received : ∀ side, (s side).received = 0
  posted : ∀ side, (s side).posted = []
  regular : ∀ side, Regular (ends side).sessions (ends side).served (s side).throttler
  pending : ∀ side,
    (s side).throttler.pendingBuffer (ends side).sessions (ends side).session = none

/-- A worker knows a session only after it was opened, and `OnTick` sends heartbeats only then.  A
read fills no more than the rest of the posted buffer; its answers are of the types that `OnRead`
sends, and `struct_pack` decodes what it has encoded. -/
inductive Step : Event σ → State σ → Prop
  | call {side : StreamType} {op : Op σ} :
      op.Regular (ends side).sessions (ends side).served → op.Posts Postable →
      (op.packetsTo (ends side).session ≠ [] → (s side).connection.session = true) →
      Step (.call side op) (call ends s side op)
  | heartbeat {f : Frame} :
      f.packet.packetType = NetworkEngine.packetHeartbeatRq → Writable ends .Acceptor f →
      (s .Acceptor).connection.session = true →
      Step (.heartbeat f) (write s .Acceptor [f])
  | read {side : StreamType} {count : Nat} {replies : List Frame}
      {buffer : NetworkEngine.SocketBuffer} :
      (s side).connection.posted = some buffer → 0 < count → count ≤ (s side).inbound.length →
      buffer.length + count ≤ (ends side).readCapacity →
      replies.map (·.packet.packetType) = (s side).connection.answers (ends side).env
        (ends side).attachment ((s side).inbound.take count) →
      (∀ f ∈ replies, Writable ends side f) →
      (∀ f ∈ replies, (ends side.other).env.decodes f.packet.packetType f.packet.body = true) →
      Step (.read side count replies) (read ends s side count replies)

def machine : Machine (State σ) (Event σ) where
  init := Initial ends
  step := Step ends

/-- The packets that a read completes. -/
def completedBy (side : StreamType) (count : Nat) : List Frame :=
  let before := Framing.split Frame.bytes (s side.other).written (s side).received
  (Framing.split Frame.bytes before.pending (before.left + count)).complete

/-- A read that ends with a packet that is lost. -/
def Loses : Event σ → Prop
  | .read side count _ => NetworkEngine.Lost (completedBy s side count)
  | _ => False

end Steps

/-! ## What an end writes -/

/-- A stream begins with the greeting of its end, and goes on with data and heartbeats. -/
def Greets (env : Surroundings) (side : StreamType) : List Frame → Prop
  | [] => True
  | f :: frames => f.packet.packetType = greeting side ∧
      env.decodes (greeting side) f.packet.body = true ∧ ∀ g ∈ frames, g.passes = true

section Greets

variable {env : Surroundings} {side : StreamType} {frames more : List Frame} {f : Frame}

theorem Greets.append (h : Greets env side frames) (hne : frames ≠ [])
    (hmore : ∀ g ∈ more, g.passes = true) : Greets env side (frames ++ more) := by
  cases frames with
  | nil =>
      exact absurd rfl hne
  | cons f frames =>
      refine ⟨h.1, h.2.1, fun g hg => ?_⟩
      rcases List.mem_append.1 hg with hg | hg
      · exact h.2.2 g hg
      · exact hmore g hg

theorem Greets.of_append (h : Greets env side (frames ++ more)) : Greets env side frames := by
  cases frames with
  | nil =>
      trivial
  | cons f frames =>
      exact ⟨h.1, h.2.1, fun g hg => h.2.2 g (List.mem_append_left _ hg)⟩

/-- The other end opens a session with the greeting. -/
theorem Greets.speaks (h : Greets env side frames) (hstream : env.streamType = side.other)
    (hregistered : side.other = .Connector → ∀ n, env.connector n = true) :
    NetworkEngine.Speaks env false frames := by
  cases frames with
  | nil =>
      trivial
  | cons f frames =>
      obtain ⟨htype, hdecodes, hrest⟩ := h
      refine ⟨⟨by rw [htype]; exact hdecodes, ?_⟩, hrest⟩
      cases side with
      | Connector =>
          exact .inl htype
      | Acceptor =>
          exact .inr ⟨htype, hstream, hregistered rfl⟩

theorem not_isData_of_isHeartbeat (h : f.isHeartbeat = true) : f.isData = false := by
  simp [Frame.isData, h]

/-- The packets of an open session are answered by heartbeats. -/
theorem isHeartbeat_of_answers (hfresh : ∀ g ∈ frames, g.passes = true)
    (hanswers : more.map (·.packet.packetType) = frames.flatMap Frame.answers) :
    ∀ g ∈ more, g.isHeartbeat = true := by
  intro g hg
  have hmem : g.packet.packetType ∈ frames.flatMap Frame.answers := by
    rw [← hanswers]
    exact List.mem_map.2 ⟨g, hg, rfl⟩
  obtain ⟨f, hf, htype⟩ := List.mem_flatMap.1 hmem
  have hcreate := (NetworkEngine.not_create_of_passes (hfresh f hf)).1
  rw [Frame.answers] at htype
  split_ifs at htype with hrq
  · simp [Frame.isHeartbeat, List.mem_singleton.1 htype]
  · cases htype

theorem passes_of_isHeartbeat (h : f.isHeartbeat = true) : f.passes = true := by
  simp [Frame.passes, h]

end Greets

/-! ## The invariant -/

section Invariant

variable {σ : Type}

/-- What an end has written: the data packets, with what is pending, are what was posted.  The
acceptor is silent until it has a session. -/
structure Sends (side : StreamType) (e : End σ) (env : Surroundings) (r : EndState σ) : Prop where
  regular : Regular e.sessions e.served r.throttler
  order : (r.written.filter Frame.isData).map (·.packet) ++
    pendingPackets e.sessions r.throttler e.session = r.posted
  errorNone : ∀ f ∈ r.written, f.isData = true → f.errorCode = NetworkEngine.errorNone
  greets : Greets env side r.written
  size : ∀ f ∈ r.written, f.bytes.length ≤ e.sessions.writeCapacity e.session
  silent : r.written = [] ↔ side = .Acceptor ∧ r.connection.session = false
  opened : r.posted ≠ [] → r.connection.session = true

/-- What an end has received of what was written. -/
structure Receives (e : End σ) (r : EndState σ) (written : List Frame) : Prop where
  received_le : r.received ≤ (written.flatMap Frame.bytes).length
  inbound : r.inbound = (written.flatMap Frame.bytes).drop r.received
  follows : NetworkEngine.Follows e.env e.attachment r.connection
    (Framing.split Frame.bytes written r.received).complete
    (Framing.split Frame.bytes written r.received).pending
    (Framing.split Frame.bytes written r.received).left

theorem bytes_ne_nil (f : Frame) : f.bytes ≠ [] := by
  intro h
  have hlength := f.length_bytes
  rw [h, List.length_nil] at hlength
  simp only [packetLengthSize] at hlength
  omega

/-- More is written. -/
theorem Receives.more {e : End σ} {r r' : EndState σ} {written : List Frame}
    (h : Receives e r written) {frames : List Frame} (hconnection : r'.connection = r.connection)
    (hreceived : r'.received = r.received)
    (hinbound : r'.inbound = r.inbound ++ frames.flatMap Frame.bytes) :
    Receives e r' (written ++ frames) := by
  have hle := h.received_le
  have hcount := Framing.length_complete_add_left Frame.bytes written r.received
  have hitems := congrArg (fun l => (l.flatMap Frame.bytes).length)
    (Framing.complete_append_pending Frame.bytes written r.received)
  simp only [List.flatMap_append, List.length_append] at hitems
  refine ⟨?_, ?_, ?_⟩
  · rw [hreceived, List.flatMap_append, List.length_append]
    omega
  · rw [hinbound, h.inbound, hreceived, List.flatMap_append, List.drop_append_of_le_length hle]
  · rw [hconnection, hreceived, Framing.split_append bytes_ne_nil hle]
    exact h.follows.more (by omega) frames

/-- The next bytes are read. -/
theorem Receives.read {e : End σ} {r : EndState σ} {written : List Frame} {count : Nat}
    {buffer : NetworkEngine.SocketBuffer} (h : Receives e r written) (henv : e.env.Generous)
    (hcapacity : e.readCapacity < 2 ^ 31) (hspeaks : NetworkEngine.Speaks e.env false written)
    (hsize : ∀ f ∈ written, f.bytes.length ≤ e.readCapacity)
    (hposted : r.connection.posted = some buffer) (hcount : 0 < count)
    (hthere : count ≤ r.inbound.length) (hroom : buffer.length + count ≤ e.readCapacity) :
    let before := Framing.split Frame.bytes written r.received
    let fresh := (Framing.split Frame.bytes before.pending (before.left + count)).complete
    let bytes := r.inbound.take count
    (Framing.split Frame.bytes written (r.received + count)).complete = before.complete ++ fresh ∧
      (¬ NetworkEngine.Lost fresh →
        Receives e
            { r with
              connection := r.connection.receive e.env e.attachment bytes
              inbound := r.inbound.drop count
              received := r.received + count } written ∧
          r.connection.answers e.env e.attachment bytes = fresh.flatMap Frame.answers) := by
  intro before fresh bytes
  have hle := h.received_le
  have hinbound := h.inbound
  have hnext := Framing.next_take Frame.bytes (m := count) written hle
  rw [← hinbound] at hnext
  have hlength : bytes.length = count := by
    rw [List.length_take, Nat.min_eq_left hthere]
  have hsplit : Framing.split Frame.bytes written (r.received + count) = _ :=
    Framing.split_add written r.received count
  have hitems := Framing.complete_append_pending Frame.bytes written r.received
  have hpending := hspeaks
  rw [← hitems, NetworkEngine.speaks_append, Bool.false_or] at hpending
  have hframes : ∀ f ∈ before.pending, f.bytes.length < 2 ^ 31 := by
    intro f hf
    have hmem : f ∈ written := by
      rw [← hitems]
      exact List.mem_append_right _ hf
    exact (hsize f hmem).trans_lt hcapacity
  -- the posted buffer holds what is left
  obtain ⟨buffer', hposted', hat⟩ := h.follows.posted
  have hsame : buffer' = buffer := by simpa [hposted] using hposted'.symm
  subst hsame
  have hheld : buffer'.length = before.left := by
    have hbuffer := hat.length
    rw [hnext.2, Nat.zero_add] at hbuffer
    exact hbuffer
  have hbound : before.left + bytes.length < 2 ^ 31 := by
    omega
  have hne : bytes ≠ [] := List.ne_nil_of_length_pos (by omega)
  have hread := h.follows.receive henv hpending.2 hne hnext.1 hnext.2 hbound hframes
  rw [hlength] at hread
  refine ⟨by rw [hsplit], fun hlost => ?_⟩
  obtain ⟨hfollows, hanswers⟩ := hread hlost
  refine ⟨⟨?_, ?_, ?_⟩, hanswers⟩
  · rw [hinbound, List.length_drop] at hthere
    simp only
    omega
  · simp only [hinbound, List.drop_drop]
  · simp only [hsplit]
    exact hfollows

section Sends

variable {side : StreamType} {e : End σ} {env : Surroundings} {r r' : EndState σ}

/-- No data is written, and a session stays. -/
theorem Sends.more (h : Sends side e env r) {frames : List Frame}
    (hthrottler : r'.throttler = r.throttler) (hposted : r'.posted = r.posted)
    (hwritten : r'.written = r.written ++ frames) (hdata : ∀ f ∈ frames, f.isData = false)
    (hgreets : Greets env side r'.written)
    (hsize : ∀ f ∈ frames, f.bytes.length ≤ e.sessions.writeCapacity e.session)
    (hsilent : r'.written = [] ↔ side = .Acceptor ∧ r'.connection.session = false)
    (hsession : r.connection.session = true → r'.connection.session = true) :
    Sends side e env r' := by
  have hnone : frames.filter Frame.isData = [] :=
    List.filter_eq_nil_iff.2 fun f hf => by simp [hdata f hf]
  refine ⟨hthrottler ▸ h.regular, ?_, ?_, hgreets, ?_, hsilent, ?_⟩
  · rw [hwritten, List.filter_append, hnone, List.append_nil, hthrottler, hposted]
    exact h.order
  · intro f hf hisData
    rw [hwritten] at hf
    rcases List.mem_append.1 hf with hf | hf
    · exact h.errorNone f hf hisData
    · simp [hdata f hf] at hisData
  · intro f hf
    rw [hwritten] at hf
    rcases List.mem_append.1 hf with hf | hf
    · exact h.size f hf
    · exact hsize f hf
  · intro hne
    exact hsession (h.opened (hposted ▸ hne))

/-- An end that is not silent goes on with heartbeats. -/
theorem Sends.heartbeats (h : Sends side e env r) {frames : List Frame}
    (hthrottler : r'.throttler = r.throttler) (hposted : r'.posted = r.posted)
    (hwritten : r'.written = r.written ++ frames) (hne : r.written ≠ [])
    (hframes : ∀ f ∈ frames, f.isHeartbeat = true)
    (hsize : ∀ f ∈ frames, f.bytes.length ≤ e.sessions.writeCapacity e.session)
    (hsession : r'.connection.session = false → r.connection.session = false) :
    Sends side e env r' := by
  have hopen : ¬ (side = .Acceptor ∧ r.connection.session = false) := fun hsilent =>
    hne (h.silent.2 hsilent)
  refine h.more hthrottler hposted hwritten
    (fun f hf => not_isData_of_isHeartbeat (hframes f hf)) ?_ hsize ?_ ?_
  · rw [hwritten]
    exact h.greets.append hne fun f hf => passes_of_isHeartbeat (hframes f hf)
  · refine iff_of_false (by simp [hwritten, hne]) fun hsilent => ?_
    exact hopen ⟨hsilent.1, hsession hsilent.2⟩
  · intro htrue
    cases hafter : r'.connection.session with
    | true =>
        rfl
    | false =>
        rw [hsession hafter] at htrue
        cases htrue

/-- A call of the throttler. -/
theorem Sends.call [DecidableEq σ] (h : Sends side e env r)
    (hdistinct : Set.InjOn e.sessions.sessionId e.served) (hmem : e.session ∈ e.served) {op : Op σ}
    (hregular : op.Regular e.sessions e.served) (hposts : op.Posts Postable)
    (hknown : op.packetsTo e.session ≠ [] → r.connection.session = true)
    (hthrottler : r'.throttler = (apply e.sessions r.throttler op).state)
    (hwritten : r'.written =
      r.written ++ framesOf (sentPackets e.session (apply e.sessions r.throttler op).actions))
    (hposted : r'.posted = r.posted ++ op.packetsTo e.session)
    (hconnection : r'.connection = r.connection) :
    Sends side e env r' ∧
      (framesOf (sentPackets e.session (apply e.sessions r.throttler op).actions)).flatMap
          Frame.bytes =
        sentBytes e.session (apply e.sessions r.throttler op).actions := by
  obtain ⟨hregular', hparcels, horder⟩ := h.regular.apply hdistinct hmem hregular hposts
  have hpostable : ∀ p ∈ sentPackets e.session (apply e.sessions r.throttler op).actions,
      Postable p := fun p hp => (hparcels p hp).postable
  have hframes := map_packet_framesOf hpostable
  have hbytes := bytes_framesOf hpostable
  generalize hsent : sentPackets e.session (apply e.sessions r.throttler op).actions = sent at *
  have hdata : ∀ f ∈ framesOf sent, f.isData = true := fun f hf => (mem_framesOf hf).2
  have hopened : r'.posted ≠ [] → r'.connection.session = true := by
    intro hne
    rw [hconnection]
    by_cases hold : r.posted = []
    · exact hknown fun hnone => hne (by rw [hposted, hold, hnone, List.append_nil])
    · exact h.opened hold
  have hnext : (r'.written.filter Frame.isData).map (·.packet) ++
      pendingPackets e.sessions r'.throttler e.session = r'.posted := by
    rw [hwritten, hthrottler, hposted, List.filter_append, List.filter_eq_self.2 hdata,
      List.map_append, hframes, List.append_assoc, horder, ← List.append_assoc, h.order]
  -- a silent end has posted nothing yet, so there is nothing to be sent
  have hsilent : r.written = [] → sent = [] := by
    intro hnone
    have hclosed : r'.connection.session = false := by
      rw [hconnection]
      exact (h.silent.1 hnone).2
    have hposted' : r'.posted = [] := by
      by_contra hne
      rw [hopened hne] at hclosed
      cases hclosed
    rw [hposted', hwritten, hnone, List.nil_append, List.filter_eq_self.2 hdata, hframes] at hnext
    exact (List.append_eq_nil_iff.1 hnext).1
  refine ⟨⟨hthrottler ▸ hregular', hnext, ?_, ?_, ?_, ?_, hopened⟩, ?_⟩
  · intro f hf hisData
    rw [hwritten] at hf
    rcases List.mem_append.1 hf with hf | hf
    · exact h.errorNone f hf hisData
    · exact errorCode_framesOf hf
  · by_cases hnone : r.written = []
    · rw [hwritten, hnone, hsilent hnone]
      trivial
    · rw [hwritten]
      exact h.greets.append hnone fun f hf => by simp [Frame.passes, hdata f hf]
  · intro f hf
    rw [hwritten] at hf
    rcases List.mem_append.1 hf with hf | hf
    · exact h.size f hf
    · rw [f.length_bytes]
      exact (hparcels f.packet (mem_framesOf hf).1).size_le
  · rw [hconnection, ← h.silent, hwritten, List.append_eq_nil_iff]
    exact ⟨And.left, fun hnone => ⟨hnone, by rw [hsilent hnone]; rfl⟩⟩
  · rw [hbytes, sentBytes_eq, hsent]

/-- The answers of a read. -/
theorem Sends.read (h : Sends side e env r) {written done fresh replies : List Frame}
    (hgreets : Greets e.env side.other written) (hparts : ∃ rest, written = done ++ fresh ++ rest)
    (hbefore : r.connection.session = !done.isEmpty)
    (hafter : r'.connection.session = !(done ++ fresh).isEmpty)
    (hthrottler : r'.throttler = r.throttler) (hposted : r'.posted = r.posted)
    (hwritten : r'.written = r.written ++ replies)
    (hanswers : replies.map (·.packet.packetType) = fresh.flatMap Frame.answers)
    (hsize : ∀ f ∈ replies, f.bytes.length ≤ e.sessions.writeCapacity e.session)
    (hdecodes : ∀ f ∈ replies, env.decodes f.packet.packetType f.packet.body = true) :
    Sends side e env r' := by
  obtain ⟨rest, rfl⟩ := hparts
  have hsession : r'.connection.session = false → r.connection.session = false := by
    rw [hbefore, hafter]
    cases done <;> simp
  -- whatever follows the greeting is answered by heartbeats
  have hpasses : ∀ f more, done ++ fresh ++ rest = f :: more → ∀ g ∈ more, g.passes = true := by
    intro f more heq
    rw [heq] at hgreets
    exact hgreets.2.2
  cases done with
  | cons f done =>
      have hheartbeats := isHeartbeat_of_answers
        (fun g hg => hpasses f _ rfl g (by simp [hg])) hanswers
      refine h.heartbeats hthrottler hposted hwritten ?_ hheartbeats hsize hsession
      intro hnone
      have hclosed := (h.silent.1 hnone).2
      simp [hbefore] at hclosed
  | nil =>
      cases fresh with
      | nil =>
          have hnone : replies = [] := by simpa using hanswers
          rw [hnone, List.append_nil] at hwritten
          have hsame : r'.connection.session = r.connection.session := by
            rw [hbefore, hafter]
            rfl
          have hnothing : r'.written = r.written ++ [] := by rw [hwritten, List.append_nil]
          exact h.more hthrottler hposted hnothing (by simp) (hwritten ▸ h.greets) (by simp)
            (by rw [hwritten, hsame]; exact h.silent) (by rw [hsame]; exact id)
      | cons f fresh =>
          have htype : f.packet.packetType = greeting side.other := hgreets.1
          have hfresh : ∀ g ∈ fresh, g.passes = true := fun g hg => hpasses f _ rfl g (by simp [hg])
          cases side with
          | Connector =>
              -- the response is not answered
              have hanswer : f.answers = [] := by
                rw [Frame.answers, htype]
                decide
              rw [List.flatMap_cons, hanswer, List.nil_append] at hanswers
              refine h.heartbeats hthrottler hposted hwritten ?_
                (isHeartbeat_of_answers hfresh hanswers) hsize hsession
              intro hnone
              cases (h.silent.1 hnone).1
          | Acceptor =>
              have hanswer : f.answers = [NetworkEngine.packetSessionCreateRs] := by
                rw [Frame.answers, htype]
                decide
              have hsilent : r.written = [] := h.silent.2 ⟨rfl, by rw [hbefore]; rfl⟩
              have hopen : r'.connection.session = true := by
                rw [hafter]
                rfl
              rw [hsilent, List.nil_append] at hwritten
              cases replies with
              | nil =>
                  rw [List.flatMap_cons, hanswer] at hanswers
                  cases hanswers
              | cons g replies =>
                  rw [List.flatMap_cons, hanswer, List.map_cons, List.singleton_append,
                    List.cons.injEq] at hanswers
                  obtain ⟨hg, hreplies⟩ := hanswers
                  have hgreeting : g.packet.packetType = greeting .Acceptor := hg
                  have hheartbeats := isHeartbeat_of_answers hfresh hreplies
                  refine h.more hthrottler hposted (by rw [hsilent, hwritten]; rfl) ?_ ?_ hsize ?_ ?_
                  · intro g' hg'
                    rcases List.mem_cons.1 hg' with rfl | hg'
                    · simp [Frame.isData, hg]
                    · exact not_isData_of_isHeartbeat (hheartbeats g' hg')
                  · rw [hwritten]
                    exact ⟨hgreeting, by rw [← hgreeting]; exact hdecodes g List.mem_cons_self,
                      fun g' hg' => passes_of_isHeartbeat (hheartbeats g' hg')⟩
                  · simp [hwritten, hopen]
                  · exact fun _ => hopen

end Sends

/-! ## Runs -/

variable {ends : StreamType → End σ} {s s' : State σ}

variable (ends s) in
def Invariant : Prop :=
  ∀ side, Sends side (ends side) (ends side.other).env (s side) ∧
    Receives (ends side) (s side) (s side.other).written

/-- At the beginning nothing is received. -/
theorem receives_initial {e : End σ} {r : EndState σ} {written : List Frame} (henv : e.env.Generous)
    (hconnection : r.connection = Connection.accept e.env) (hreceived : r.received = 0)
    (hinbound : r.inbound = written.flatMap Frame.bytes) : Receives e r written := by
  have hsplit : Framing.split Frame.bytes written 0 = ⟨[], written, 0⟩ :=
    Framing.split_append (n := 0) bytes_ne_nil
      (Nat.zero_le (([] : List Frame).flatMap Frame.bytes).length) written
  refine ⟨by simp [hreceived], by simp [hinbound, hreceived], ?_⟩
  rw [hconnection, hreceived, hsplit]
  exact NetworkEngine.follows_accept henv written

theorem invariant_initial (hjoined : Joined ends) (h : Initial ends s) : Invariant ends s := by
  obtain ⟨f, htype, hdecodes, hwritable, hwritten, hinbound⟩ := h.greets
  have hdata : f.isData = false := by
    simp [Frame.isData, htype, greeting]
  have hclosed : ∀ side, (s side).connection.session = false := by
    intro side
    rw [h.connection side]
    rfl
  have hpending : ∀ side, pendingPackets (ends side).sessions (s side).throttler
      (ends side).session = [] := by
    intro side
    simp [pendingPackets, h.pending side]
  intro side
  cases side with
  | Connector =>
      refine ⟨⟨h.regular _, ?_, ?_, ?_, ?_, ?_, ?_⟩, ?_⟩
      · simp [hwritten, hdata, hpending, h.posted]
      · simp [hwritten, hdata]
      · rw [hwritten]
        exact ⟨htype, hdecodes, by simp⟩
      · rw [hwritten]
        exact fun g hg => List.mem_singleton.1 hg ▸ hwritable
      · simp [hwritten]
      · simp [h.posted]
      · exact receives_initial (hjoined.generous _) (h.connection _) (h.received _)
          (by rw [StreamType.other, h.silent.1, h.silent.2]; rfl)
  | Acceptor =>
      refine ⟨⟨h.regular _, ?_, ?_, ?_, ?_, ?_, ?_⟩, ?_⟩
      · simp [h.silent.1, hpending, h.posted]
      · simp [h.silent.1]
      · rw [h.silent.1]
        trivial
      · simp [h.silent.1]
      · simp [h.silent.1, hclosed]
      · simp [h.posted]
      · exact receives_initial (hjoined.generous _) (h.connection _) (h.received _)
          (by rw [StreamType.other, hwritten, hinbound]; simp)

/-- One end sends, and the other has received what it had received before. -/
theorem invariant_of_sends {side : StreamType} {frames : List Frame} (h : Invariant ends s)
    (hsends : Sends side (ends side) (ends side.other).env (s' side))
    (hwritten : (s' side).written = (s side).written ++ frames)
    (hreceives : Receives (ends side) (s' side) (s side.other).written)
    (hother : s' side.other = { s side.other with
      inbound := (s side.other).inbound ++ frames.flatMap Frame.bytes }) : Invariant ends s' := by
  have hwritten' : (s' side.other).written = (s side.other).written := by rw [hother]
  have hboth : ∀ side', side' = side ∨ side' = side.other := by
    intro side'
    cases side <;> cases side' <;> simp [StreamType.other]
  intro side'
  rcases hboth side' with rfl | rfl
  · rw [hwritten']
    exact ⟨hsends, hreceives⟩
  · obtain ⟨hsends', hreceives'⟩ := h side.other
    rw [StreamType.other_other] at hsends' hreceives' ⊢
    rw [hwritten, hother]
    exact ⟨⟨hsends'.regular, hsends'.order, hsends'.errorNone, hsends'.greets, hsends'.size,
      hsends'.silent, hsends'.opened⟩, hreceives'.more rfl rfl rfl⟩

/-- Every step that loses no packet keeps the invariant. -/
theorem invariant_step [DecidableEq σ] (hjoined : Joined ends) {event : Event σ}
    (h : Invariant ends s) (hstep : Step ends s event s') (hloses : ¬ Loses s event) : Invariant ends s' := by
  cases hstep with
  | @call side op hregular hposts hknown =>
      obtain ⟨hsends, hreceives⟩ := h side
      have hwritten : (call ends s side op side).written = (s side).written ++
          framesOf (sentPackets (ends side).session
            (apply (ends side).sessions (s side).throttler op).actions) := by
        simp [call]
      obtain ⟨hsends', hbytes⟩ := hsends.call (hjoined.distinct side) (hjoined.session side)
        hregular hposts hknown (by simp [call]) hwritten (by simp [call]) (by simp [call])
      refine invariant_of_sends h hsends' hwritten ?_ ?_
      · exact ⟨by simpa [call] using hreceives.received_le, by simpa [call] using hreceives.inbound,
          by simpa [call] using hreceives.follows⟩
      · rw [hbytes]
        simp [call]
  | @heartbeat f htype hwritable hsession =>
      obtain ⟨hsends, hreceives⟩ := h .Acceptor
      -- a heartbeat is sent at the acceptor only, which has written since it answered the connector
      have hheartbeat : f.isHeartbeat = true := by simp [Frame.isHeartbeat, htype]
      have hne : (s .Acceptor).written ≠ [] := by
        intro hnone
        rw [(hsends.silent.1 hnone).2] at hsession
        cases hsession
      have hwritten : (write s .Acceptor [f] .Acceptor).written = (s .Acceptor).written ++ [f] := by
        simp [write]
      refine invariant_of_sends h (hsends.heartbeats ?_ ?_ hwritten hne (by simpa using hheartbeat)
        (fun g hg => List.mem_singleton.1 hg ▸ hwritable) ?_) hwritten ?_ ?_
      · simp [write]
      · simp [write]
      · simp [write]
      · exact ⟨by simpa [write] using hreceives.received_le,
          by simpa [write] using hreceives.inbound, by simpa [write] using hreceives.follows⟩
      · simp [write]
  | @read side count replies buffer hposted hcount hthere hroom hanswers hsize hdecodes =>
      obtain ⟨hsends, hreceives⟩ := h side
      obtain ⟨hsends', _⟩ := h side.other
      rw [StreamType.other_other] at hsends'
      -- what comes in was written by the other end, as its greeting and then data and heartbeats
      have hspeaks : NetworkEngine.Speaks (ends side).env false (s side.other).written :=
        hsends'.greets.speaks (by rw [hjoined.streamType, StreamType.other_other]) (by
          intro hconnector n
          rw [StreamType.other_other] at hconnector
          subst hconnector
          exact hjoined.registered n)
      have hwithin : ∀ f ∈ (s side.other).written, f.bytes.length ≤ (ends side).readCapacity := by
        intro f hf
        have hfits := hjoined.fits side.other
        rw [StreamType.other_other] at hfits
        exact (hsends'.size f hf).trans hfits
      obtain ⟨hcomplete, hread⟩ := hreceives.read (hjoined.generous side) (hjoined.capacity side)
        hspeaks hwithin hposted hcount hthere hroom
      obtain ⟨hreceives', hreplies⟩ := hread hloses
      -- the frames read so far and those still to come are all that was written
      have hitems := Framing.complete_append_pending Frame.bytes (s side.other).written
        ((s side).received + count)
      rw [hcomplete] at hitems
      have hafter := hreceives'.follows.session
      simp only [hcomplete] at hafter
      have hwritten : (read ends s side count replies side).written =
          (s side).written ++ replies := by
        simp [read, write]
      refine invariant_of_sends h (hsends.read hsends'.greets ⟨_, hitems.symm⟩
        hreceives.follows.session ?_ ?_ ?_ hwritten (hanswers.trans hreplies) hsize hdecodes)
        hwritten ?_ ?_
      · simpa [read, write] using hafter
      · simp [read, write]
      · simp [read, write]
      · exact ⟨by simpa [read, write] using hreceives'.received_le,
          by simpa [read, write] using hreceives'.inbound,
          by simpa [read, write] using hreceives'.follows⟩
      · simp [read, write, Function.update_of_ne]

/-- The context of a packet that the throttler of the other end has sent. -/
def dataContext (attachment : Nat) (p : Packet) : SocketContext :=
  ⟨.SessionData, ⟨p.packetType, NetworkEngine.errorNone, p.body.length % 2 ^ 32⟩, p.body,
    attachment⟩

/-- What was posted at the other end was submitted at this one, is on its way or is pending there.
An end is told of its session first; it has room to go on while there is something on its way. -/
structure Delivers (ends : StreamType → End σ) (s : State σ) (side : StreamType)
    (opening : List SocketContext) (delivered flying : List Packet) : Prop where
  posted : (s side.other).posted = delivered ++ flying ++
    pendingPackets (ends side.other).sessions (s side.other).throttler (ends side.other).session
  submitted : (s side).connection.submitted.flatten =
    opening ++ delivered.map (dataContext (ends side).attachment)
  opening : opening.map SocketContext.contextType =
    if (s side).connection.session then [told side] else []
  closed : (s side).connection.session = false → delivered = []
  arrived : (s side).inbound = [] → flying = []
  room : (s side).inbound ≠ [] → ∃ buffer, (s side).connection.posted = some buffer ∧
    buffer.length < (ends side).readCapacity

/-- The context of the packet that opens the session. -/
def openingOf (env : Surroundings) (side : StreamType) : List Frame → List SocketContext
  | [] => []
  | f :: _ => [⟨told side, f.header, f.packet.body, env.connectorAttachment⟩]

/-- The contexts of what the other end says. -/
theorem filterMap_contextAt {env env' : Surroundings} {side : StreamType} {frames : List Frame}
    (attachment : Nat) (h : Greets env' side.other frames) :
    frames.filterMap (NetworkEngine.contextAt env attachment) =
      openingOf env side frames ++ NetworkEngine.dataContexts attachment frames := by
  cases frames with
  | nil =>
      rfl
  | cons f frames =>
      obtain ⟨htype, _, hpasses⟩ := h
      have hrest : frames.filterMap (NetworkEngine.contextAt env attachment) =
          NetworkEngine.dataContexts attachment frames := by
        rw [← NetworkEngine.filterMap_contextOf env attachment hpasses]
        exact List.filterMap_congr fun g hg => NetworkEngine.contextAt_of_passes (hpasses g hg)
      have hfirst : NetworkEngine.contextAt env attachment f =
          some ⟨told side, f.header, f.packet.body, env.connectorAttachment⟩ ∧ f.isData = false := by
        cases side with
        | Connector =>
            have htype : f.packet.packetType = NetworkEngine.packetSessionCreateRs := htype
            refine ⟨?_, by simp [Frame.isData, htype]⟩
            rw [NetworkEngine.contextAt, if_pos htype]
            rfl
        | Acceptor =>
            have htype : f.packet.packetType = NetworkEngine.packetSessionCreateRq := htype
            have hnot : f.packet.packetType ≠ NetworkEngine.packetSessionCreateRs := by
              rw [htype]
              decide
            refine ⟨?_, by simp [Frame.isData, htype]⟩
            rw [NetworkEngine.contextAt, if_neg hnot, NetworkEngine.contextOf_create htype]
            rfl
      rw [List.filterMap_cons, hfirst.1, hrest]
      simp [openingOf, NetworkEngine.dataContexts, hfirst.2]

/-- What the invariant says of one direction. -/
theorem Invariant.delivers (h : Invariant ends s) (hjoined : Joined ends) (side : StreamType) :
    ∃ opening delivered flying, Delivers ends s side opening delivered flying := by
  obtain ⟨_, hreceives⟩ := h side
  obtain ⟨hsends, _⟩ := h side.other
  rw [StreamType.other_other] at hsends
  have hfits := hjoined.fits side.other
  rw [StreamType.other_other] at hfits
  have hitems := Framing.complete_append_pending Frame.bytes (s side.other).written (s side).received
  have hcount := Framing.length_complete_add_left Frame.bytes (s side.other).written
    (s side).received
  have hnone := Framing.split_pending Frame.bytes (s side.other).written (s side).received
  have hle := hreceives.received_le
  have hinbound := hreceives.inbound
  have hsession := hreceives.follows.session
  have hsubmitted := hreceives.follows.submitted
  obtain ⟨buffer, hposted, hat⟩ := hreceives.follows.posted
  generalize (Framing.split Frame.bytes (s side.other).written (s side).received).complete =
    complete at *
  generalize (Framing.split Frame.bytes (s side.other).written (s side).received).pending =
    pending at *
  generalize (Framing.split Frame.bytes (s side.other).written (s side).received).left = left at *
  have hgreets : Greets (ends side).env side.other complete := (hitems ▸ hsends.greets).of_append
  have htotal : ((s side.other).written.flatMap Frame.bytes).length =
      (complete.flatMap Frame.bytes).length + (pending.flatMap Frame.bytes).length := by
    rw [← hitems, List.flatMap_append, List.length_append]
  refine ⟨openingOf (ends side).env side complete, (complete.filter Frame.isData).map (·.packet),
    (pending.filter Frame.isData).map (·.packet), ?_, ?_, ?_, ?_, ?_, ?_⟩
  · rw [← hsends.order, ← hitems, List.filter_append, List.map_append]
  · rw [hsubmitted, filterMap_contextAt _ hgreets, NetworkEngine.dataContexts, List.map_map]
    refine congrArg _ (List.map_congr_left fun f hf => ?_)
    obtain ⟨hmem, hdata⟩ := List.mem_filter.1 hf
    have herror := hsends.errorNone f (hitems ▸ List.mem_append_left _ hmem) hdata
    simp [dataContext, Frame.header, herror]
  · rw [hsession]
    cases complete <;> simp [openingOf]
  · intro hclosed
    rw [hsession] at hclosed
    cases complete with
    | nil =>
        rfl
    | cons f complete =>
        cases hclosed
  · intro hempty
    have hlength := congrArg List.length (hinbound.symm.trans hempty)
    rw [List.length_drop, List.length_nil] at hlength
    cases pending with
    | nil =>
        rfl
    | cons f pending =>
        -- all bytes are there, so the packet is complete
        rw [List.flatMap_cons, List.length_append] at htotal
        rw [Framing.split, if_pos (by omega)] at hnone
        cases hnone
  · intro hne
    refine ⟨buffer, hposted, ?_⟩
    have hlength := hat.length
    have hdrop := List.length_pos_iff.2 (hinbound ▸ hne)
    rw [List.length_drop] at hdrop
    cases pending with
    | nil =>
        rw [List.flatMap_nil, List.length_nil] at htotal
        omega
    | cons f pending =>
        have hsize := hsends.size f (hitems ▸ List.mem_append_right _ List.mem_cons_self)
        have hpart : left < f.bytes.length := by
          by_contra hwhole
          rw [Framing.split, if_pos (by omega)] at hnone
          cases hnone
        rw [List.length_take] at hlength
        simp only [NetworkEngine.DynamicBufferCursor.ofBuffer] at hlength
        omega

end Invariant

/-- In every run in which no read loses a packet, at both ends: what was posted at the other end is
submitted here, on its way, or pending there, in this order and each packet once; the worker is
told of its session before; nothing is on its way when nothing is left to be read, and a read can
complete until then. -/
theorem conversation_delivers {σ : Type} [DecidableEq σ] {ends : StreamType → End σ}
    (hjoined : Joined ends) {s : State σ}
    (h : ((machine ends).restrict fun s event => ¬ Loses s event).Reachable s) (side : StreamType) :
    ∃ opening delivered flying, Delivers ends s side opening delivered flying := by
  have hinvariant : Invariant ends s := by
    refine Machine.Reachable.invariant (P := Invariant ends) ?_ ?_ h
    · exact fun s hs => invariant_initial hjoined hs
    · exact fun s event s' hs hstep => invariant_step hjoined hs hstep.2 hstep.1
  exact hinvariant.delivers hjoined side

/-- A read loses a packet only if it completes more packets than a buffer has contexts. -/
theorem not_lost_of_length_le {fresh : List Frame}
    (h : fresh.length ≤ NetworkEngine.contextsPerBuffer) : ¬ NetworkEngine.Lost fresh := by
  rintro ⟨before, f, rfl, _, _, hpositive, hdvd⟩
  have hle := Nat.le_of_dvd (Nat.pos_of_ne_zero hpositive) hdvd
  have hcount : NetworkEngine.contextCount before ≤ before.length := List.length_filter_le _ _
  rw [List.length_append, List.length_singleton] at h
  omega

/-! ### A packet from a connector to an acceptor -/

def sampleSessions : Sessions Unit where
  sessionId := fun _ => 1
  writeCapacity := fun _ => 65536
  writeCapacity_lt := fun _ => by decide

def sampleEnds (side : StreamType) : End Unit where
  env := { NetworkEngine.PacketStream.generous with streamType := side, connector := fun _ => true }
  attachment := 7
  readCapacity := 65536
  sessions := sampleSessions
  served := Set.univ
  session := ()

def request : Frame := (NetworkEngine.PacketStream.skills 0).create

def response : Frame := NetworkEngine.PacketStream.byteFrame 3 (by decide)

def sampleStart (side : StreamType) : EndState Unit where
  connection := Connection.accept (sampleEnds side).env
  inbound := if side = .Acceptor then request.bytes else []
  throttler := PacketThrottler.new 0 0
  received := 0
  written := if side = .Connector then [request] else []
  posted := []

def skill : Packet := ⟨19, [1, 2, 3, 4, 0]⟩

def afterRequest : State Unit := read sampleEnds sampleStart .Acceptor 17 [response]

def afterResponse : State Unit := read sampleEnds afterRequest .Connector 17 []

def afterPost : State Unit :=
  call sampleEnds afterResponse .Connector (.postPacket () skill .Immediate true true)

def afterData : State Unit := read sampleEnds afterPost .Acceptor 17 []

theorem joined_sampleEnds : Joined sampleEnds where
  generous := fun _ => ⟨fun _ => ⟨[], rfl⟩, fun _ => rfl, fun _ => rfl⟩
  streamType := fun _ => rfl
  registered := fun _ => rfl
  distinct := fun _ _ _ _ _ _ => rfl
  session := fun _ => trivial
  capacity := fun side => by cases side <;> decide
  fits := fun _ => le_rfl

theorem initial_sampleStart : Initial sampleEnds sampleStart where
  connection := fun _ => rfl
  greets := ⟨request, rfl, rfl, by decide, rfl, rfl⟩
  silent := ⟨rfl, rfl⟩
  received := fun _ => rfl
  posted := fun _ => rfl
  regular := fun _ => ⟨entries_new 0 0, entries_new 0 0⟩
  pending := fun _ => rfl

/-- The request, the response, and a packet that is posted and read. -/
theorem reachable_sample :
    ((machine sampleEnds).restrict fun s event => ¬ Loses s event).Reachable afterData := by
  have hrequest : Step sampleEnds sampleStart (.read .Acceptor 17 [response]) afterRequest :=
    .read rfl (by decide) (by decide) (by decide) (by decide) (by decide) (by decide)
  have hresponse : Step sampleEnds afterRequest (.read .Connector 17 []) afterResponse :=
    .read rfl (by decide) (by decide) (by decide) (by decide) (by decide) (by decide)
  have hpost : Step sampleEnds afterResponse
      (.call .Connector (.postPacket () skill .Immediate true true)) afterPost :=
    .call ⟨trivial, by decide, rfl, rfl⟩ (by decide : Postable skill) (fun _ => by decide)
  have hdata : Step sampleEnds afterPost (.read .Acceptor 17 []) afterData :=
    .read rfl (by decide) (by decide) (by decide) (by decide) (by decide) (by decide)
  have hkept : ∀ side count replies (s : State Unit),
      (completedBy s side count).length ≤ NetworkEngine.contextsPerBuffer →
        ¬ Loses s (.read side count replies) :=
    fun _ _ _ _ hle => not_lost_of_length_le hle
  have hstart : ((machine sampleEnds).restrict fun s event => ¬ Loses s event).Reachable
      sampleStart := .init initial_sampleStart
  exact (((hstart.step_restrict hrequest (hkept _ _ _ _ (by decide))).step_restrict hresponse
    (hkept _ _ _ _ (by decide))).step_restrict hpost not_false).step_restrict hdata
    (hkept _ _ _ _ (by decide))

theorem conversation_delivers_sample :
    (afterData .Acceptor).connection.submitted.flatten.map (·.body) =
        [request.packet.body, skill.body] ∧
      ∃ opening delivered flying,
        Delivers sampleEnds afterData .Acceptor opening delivered flying :=
  ⟨by decide, conversation_delivers joined_sampleEnds reachable_sample .Acceptor⟩

end Conversation
end Engine
end SeamlessServer
