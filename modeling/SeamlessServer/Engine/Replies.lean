import SeamlessServer.Engine.CloseRequest

/-!
# Engine.Replies — reads at both ends of a connection

`Engine.Framing` follows an accepted stream up to the contexts that are submitted.  A connector is
told of its session by `packet_session_create_rs` instead of `packet_session_create_rq`, and both ends
answer some of the packets while they read.  Here both ends are followed, with their answers.
-/

namespace SeamlessServer
namespace Engine
namespace NetworkEngine

open Protocol

/-! ## Answers -/

/-- The types of the packets that some operations send. -/
def sentTypes (operations : List Operation) : List Nat :=
  operations.filterMap fun
    | .send packetType => some packetType
    | _ => none

@[simp] theorem sentTypes_append (l l' : List Operation) :
    sentTypes (l ++ l') = sentTypes l ++ sentTypes l' := by
  simp [sentTypes]

/-- The types of the packets that answer a frame. -/
def Frame.answers (f : Frame) : List Nat :=
  if f.packet.packetType = packetHeartbeatRq then [packetHeartbeatRs]
  else if f.packet.packetType = packetSessionCreateRq then [packetSessionCreateRs]
  else []

/-- The types of the packets that a connection sends while it reads some bytes. -/
def Connection.answers (env : Surroundings) (attachment : Nat) (c : Connection)
    (bytes : List UInt8) : List Nat :=
  match c.posted with
  | none => []
  | some buffer =>
      if bytes = [] then []
      else
        sentTypes (onRead env attachment (buffer.length + bytes.length + 1)
          (c.entering buffer bytes)).operations

/-! ## What either end may read -/

/-- The packet opens a session: at an acceptor the request, at a connector the response. -/
structure Frame.Opening (env : Surroundings) (f : Frame) : Prop where
  decodes : env.decodes f.packet.packetType f.packet.body = true
  kind : f.packet.packetType = packetSessionCreateRq ∨
    f.packet.packetType = packetSessionCreateRs ∧ env.streamType = .Connector ∧
      ∀ n, env.connector n = true

/-- The frames open a session, if there is none yet, and are data and heartbeats otherwise. -/
def Speaks (env : Surroundings) : Bool → List Frame → Prop
  | true, frames => ∀ f ∈ frames, f.passes = true
  | false, [] => True
  | false, f :: frames => f.Opening env ∧ ∀ g ∈ frames, g.passes = true

section Ends

variable (env : Surroundings) (attachment : Nat)

/-- The context of a frame at either end. -/
def contextAt (f : Frame) : Option SocketContext :=
  if f.packet.packetType = packetSessionCreateRs then
    some ⟨.SessionConnected, f.header, f.packet.body, env.connectorAttachment⟩
  else
    contextOf env attachment f

/-- The progress of a frame at either end. -/
def Progress.stepAt (a : Progress) (f : Frame) : Progress := a.next f (contextAt env attachment f)

variable {env attachment} {f : Frame} {frames : List Frame}

theorem speaks_append {b : Bool} {more : List Frame} :
    Speaks env b (frames ++ more) ↔
      Speaks env b frames ∧ Speaks env (b || !frames.isEmpty) more := by
  cases b with
  | true =>
      simp [Speaks, or_imp, forall_and]
  | false =>
      cases frames with
      | nil =>
          simp [Speaks]
      | cons f frames =>
          simp [Speaks, or_imp, forall_and, and_assoc]

/-- Behind the first packet there are only data and heartbeats. -/
theorem Speaks.passes {b : Bool} (h : Speaks env b (f :: frames)) :
    ∀ g ∈ frames, g.passes = true := by
  cases b with
  | true =>
      exact fun g hg => h g (List.mem_cons_of_mem _ hg)
  | false =>
      exact h.2

/-- What passes is of none of the types that open a session. -/
theorem not_create_of_passes (h : f.passes = true) :
    f.packet.packetType ≠ packetSessionCreateRq ∧ f.packet.packetType ≠ packetSessionCreateRs := by
  rcases Bool.or_eq_true_iff.1 h with hheartbeat | hdata
  · simp only [Frame.isHeartbeat, decide_eq_true_eq] at hheartbeat
    rcases hheartbeat with htype | htype <;> rw [htype] <;> decide
  · simp only [Frame.isData, decide_eq_true_eq, not_or] at hdata
    exact ⟨hdata.2.1, hdata.2.2.1⟩

theorem contextAt_of_passes (h : f.passes = true) :
    contextAt env attachment f = contextOf env attachment f := by
  rw [contextAt, if_neg (not_create_of_passes h).2]

variable (env attachment) in
theorem contextAt_isSome (f : Frame) : (contextAt env attachment f).isSome = !f.isHeartbeat := by
  by_cases hcreate : f.packet.packetType = packetSessionCreateRs
  · have hnot : f.isHeartbeat = false := by
      simp only [Frame.isHeartbeat, hcreate]
      decide
    simp [contextAt, hcreate, hnot]
  · rw [contextAt, if_neg hcreate, contextOf_isSome]

/-! ## Rounds -/

variable (attachment) in
/-- A session packet that opens a session. -/
theorem processSessionPacket_opening (henv : env.Generous) (h : f.Opening env) (n : Nat) :
    ∃ contextType, contextType ≠ .SessionError ∧
      contextAt env attachment f =
        some ⟨contextType, f.header, f.packet.body, env.connectorAttachment⟩ ∧
      ∃ sends : Option Nat, sends.toList = f.answers ∧
        processSessionPacket env n f.header f.packet.body =
          { contextType := contextType, sends := sends } := by
  have hdecodes : env.decodes f.header.packetType f.packet.body = true := h.decodes
  rcases h.kind with htype | ⟨htype, hstream, hconnector⟩
  · have hheader : f.header.packetType = packetSessionCreateRq := htype
    have hnot : f.packet.packetType ≠ packetSessionCreateRs := by rw [htype]; decide
    refine ⟨.SessionAccepted, by decide, ?_, some packetSessionCreateRs, ?_, ?_⟩
    · rw [contextAt, if_neg hnot, contextOf_create htype]
    · simp [Frame.answers, htype, packetSessionCreateRq, packetHeartbeatRq]
    · rw [hheader] at hdecodes
      simp [processSessionPacket, hheader, hdecodes, henv.pop]
  · have hheader : f.header.packetType = packetSessionCreateRs := htype
    refine ⟨.SessionConnected, by decide, ?_, none, ?_, ?_⟩
    · rw [contextAt, if_pos htype]
    · simp [Frame.answers, htype, packetSessionCreateRs, packetSessionCreateRq, packetHeartbeatRq]
    · rw [hheader] at hdecodes
      have hne : packetSessionCreateRs ≠ packetSessionCreateRq := by decide
      simp [processSessionPacket, hheader, hdecodes, henv.pop, hstream, hconnector, hne]

variable {s s' : ReadState} {a : Progress} {rest : List UInt8}

variable (attachment) in
/-- The round of the packet that opens the session. -/
theorem readRound_opening (henv : env.Generous) (h : Reads s a (f.bytes ++ rest))
    (hsession : s.session = false) (hchain : a.chain = []) (hf : f.Opening env) :
    ∃ s', readRound env attachment s = .again s' ∧ Reads s' (a.stepAt env attachment f) rest ∧
      s'.session = true ∧ sentTypes s'.operations = sentTypes s.operations ++ f.answers := by
  have hround := readRound_frame env attachment h
  have hat := h.afterHeader.2
  have hbehind := at_behind h
  have hlt := h.bytes_lt
  have hbody : (afterHeader s).buffer.data.take f.header.bodySize = f.packet.body := by
    rw [Frame.bodySize_eq hlt, hat.data_take (by simp), List.take_left]
  obtain ⟨contextType, hvalid, hcontext, sends, hsends, hprocess⟩ :=
    processSessionPacket_opening attachment henv hf (afterHeader s).sessionPackets
  have hsequence : (afterHeader s).contextSequence = 0 := by
    have hsequence : (afterHeader s).contextSequence = a.chain.length := h.sequence
    simpa [hchain] using hsequence
  have hprepare := prepareSocketContext_of_room hat hlt contextType env.connectorAttachment 0
    (by decide)
  rw [if_pos (by simp [hsession])] at hround
  simp only [readSessionPacket, hbody, hprocess, hvalid, if_false, ReadState.operate, hsequence,
    hprepare] at hround
  refine ⟨_, hround, ?_, rfl, ?_⟩
  · -- nothing but an answer was added to the operations
    have hsilent : submittedChains (sends.toList.map Operation.send) = [] ∧
        ∀ buffer, .transmitRead buffer ∉ sends.toList.map Operation.send := by
      cases sends <;> simp [submittedChains]
    have hroom : a.chain.length ≠ contextsPerBuffer := by
      rw [hchain]
      decide
    rw [Progress.stepAt, hcontext, Progress.next, if_neg hroom]
    refine ⟨hbehind.retain, ?_, ?_, ?_, ?_, ?_⟩
    · exact congrArg (· ++ _) h.chain
    · simp [hchain]
    · simp [hchain, contextsPerBuffer, reservedSize, socketContextSize]
    · change submittedChains (s.operations ++ sends.toList.map Operation.send) = a.chains
      rw [submittedChains_append, h.chains, hsilent.1, List.append_nil]
    · intro buffer hmem
      rcases List.mem_append.1 hmem with hmem | hmem
      · exact h.posted buffer hmem
      · exact hsilent.2 buffer hmem
  · change sentTypes (s.operations ++ sends.toList.map Operation.send) = _
    rw [sentTypes_append, ← hsends]
    cases sends <;> rfl

/-- A data packet is not answered. -/
theorem sentTypes_readDataPacket {header : PacketHeader}
    (h : readDataPacket env attachment s header = .again s') :
    sentTypes s'.operations = sentTypes s.operations := by
  have hlink : ∀ (t : ReadState) current,
      (link t header current).operations = t.operations := by
    intro t current
    cases current <;> rfl
  unfold readDataPacket at h
  split at h
  · cases h
    rw [hlink]
  · split at h
    · cases h
    · -- a full chain was submitted
      dsimp only at h
      split_ifs at h with hsubmit
      cases h
      rw [hlink]
      simp [ReadState.operate, sentTypes]

variable (env attachment) in
/-- The round of a packet of an open session is answered if it is a `packet_heartbeat_rq`. -/
theorem readRound_answers (h : Reads s a (f.bytes ++ rest)) (hsession : s.session = true)
    (hpasses : f.passes = true) (hround : readRound env attachment s = .again s') :
    sentTypes s'.operations = sentTypes s.operations ++ f.answers := by
  obtain ⟨hcreate, _⟩ := not_create_of_passes hpasses
  rw [readRound_frame env attachment h, if_neg (by simp [hsession])] at hround
  split_ifs at hround with hrq hrs hsessions
  · cases hround
    simp [ReadState.seek, ReadState.operate, afterHeader, Frame.answers, hrq, sentTypes]
  · cases hround
    simp [ReadState.seek, ReadState.operate, afterHeader, Frame.answers, hrs, sentTypes,
      packetHeartbeatRs, packetHeartbeatRq, packetSessionCreateRq]
  · rw [sentTypes_readDataPacket hround, Frame.answers, if_neg hrq, if_neg hcreate, List.append_nil]
    rfl

variable (attachment) in
/-- A round reads a frame and answers it. -/
theorem readRound_speaks (henv : env.Generous) (hspeaks : Speaks env s.session (f :: frames))
    (hchain : s.session = false → a.chain = []) (h : Reads s a (f.bytes ++ rest)) :
    ∃ s', readRound env attachment s = .again s' ∧ Reads s' (a.stepAt env attachment f) rest ∧
      s'.session = true ∧ sentTypes s'.operations = sentTypes s.operations ++ f.answers := by
  cases hsession : s.session with
  | false =>
      rw [hsession] at hspeaks
      exact readRound_opening attachment henv h hsession (hchain hsession) hspeaks.1
  | true =>
      rw [hsession] at hspeaks
      have hpasses := hspeaks f List.mem_cons_self
      rw [Progress.stepAt, contextAt_of_passes hpasses]
      rcases Bool.or_eq_true_iff.1 hpasses with hheartbeat | hdata
      · obtain ⟨s', hround, hreads, hvalid⟩ :=
          readRound_heartbeat env attachment h hsession hheartbeat
        rw [contextOf_heartbeat hheartbeat]
        exact ⟨s', hround, hreads, hvalid,
          readRound_answers env attachment h hsession hpasses hround⟩
      · obtain ⟨s', hround, hreads, hvalid⟩ := readRound_data attachment henv h hsession hdata
        rw [contextOf_data hdata]
        exact ⟨s', hround, hreads, hvalid,
          readRound_answers env attachment h hsession hpasses hround⟩

variable (attachment) in
/-- The loop reads the frames that are complete, answers them in order, and is left. -/
theorem readLoop_speaks (henv : env.Generous) {pending : List Frame} {k : Nat}
    (hpending : ∀ f ∈ pending, f.bytes.length < 2 ^ 31)
    (hk : (Framing.split Frame.bytes pending k).complete = []) (fresh : List Frame) :
    ∀ (rounds : Nat) (s : ReadState) (a : Progress), fresh.length < rounds →
      Speaks env s.session fresh → (s.session = false → a.chain = []) →
      Reads s a (fresh.flatMap Frame.bytes ++ (pending.flatMap Frame.bytes).take k) →
      ∃ s', readLoop env attachment rounds s = .leave s' ∧
        Reads s' (fresh.foldl (Progress.stepAt env attachment) a)
          ((pending.flatMap Frame.bytes).take k) ∧
        s'.session = (s.session || !fresh.isEmpty) ∧
        sentTypes s'.operations = sentTypes s.operations ++ fresh.flatMap Frame.answers := by
  induction fresh with
  | nil =>
      intro rounds s a hrounds _ _ h
      cases rounds with
      | zero =>
          simp at hrounds
      | succ rounds =>
          have hround := readRound_incomplete env attachment hpending hk h
          refine ⟨s, ?_, h, by simp, by simp⟩
          rw [readLoop, hround]
  | cons f fresh ih =>
      intro rounds s a hrounds hspeaks hchain h
      cases rounds with
      | zero =>
          simp at hrounds
      | succ rounds =>
          rw [List.flatMap_cons, List.append_assoc] at h
          obtain ⟨s₁, hround, h₁, hvalid, hanswers₁⟩ :=
            readRound_speaks attachment henv hspeaks hchain h
          have hrest : Speaks env s₁.session fresh := by
            rw [hvalid]
            exact hspeaks.passes
          obtain ⟨s', hloop, h', hsession, hanswers⟩ := ih rounds s₁ _ (by simpa using hrounds)
            hrest (by simp [hvalid]) h₁
          refine ⟨s', ?_, h', ?_, ?_⟩
          · rw [readLoop, hround]
            exact hloop
          · simp [hsession, hvalid]
          · rw [hanswers, hanswers₁, List.flatMap_cons, List.append_assoc]

/-! ## What the loop leaves -/

namespace Progress

/-- All contexts, those in the chains submitted and those in the chain at hand. -/
def contexts (a : Progress) : List SocketContext := a.chains.flatten ++ a.chain

theorem contexts_next (a : Progress) (f : Frame) (context : Option SocketContext) :
    (a.next f context).contexts = a.contexts ++ context.toList := by
  cases context with
  | none =>
      simp [contexts, next]
  | some context =>
      by_cases hfull : a.chain.length = contextsPerBuffer <;> simp [contexts, next, hfull]

variable (env attachment) in
theorem contexts_foldl (fresh : List Frame) : ∀ a : Progress,
    (fresh.foldl (stepAt env attachment) a).contexts =
      a.contexts ++ fresh.filterMap (contextAt env attachment) := by
  induction fresh with
  | nil =>
      intro a
      simp
  | cons f fresh ih =>
      intro a
      rw [List.foldl_cons, ih, stepAt, contexts_next]
      cases hcontext : contextAt env attachment f <;> simp [hcontext]

/-- As many contexts in the chain at hand, and the cursor at the same position. -/
structure Alike (a b : Progress) : Prop where
  chain : a.chain.length = b.chain.length
  position : a.position = b.position

theorem Alike.next {a b : Progress} (h : a.Alike b) (f : Frame)
    {context context' : Option SocketContext} (hsome : context.isSome = context'.isSome) : (a.next f context).Alike (b.next f context') := by
  cases context with
  | none =>
      cases context' with
      | none =>
          exact ⟨h.chain, congrArg (· + _) h.position⟩
      | some _ =>
          cases hsome
  | some context =>
      cases context' with
      | none =>
          cases hsome
      | some _ =>
          by_cases hfull : a.chain.length = contextsPerBuffer
          · have hfull' : b.chain.length = contextsPerBuffer := h.chain ▸ hfull
            constructor <;> simp [Progress.next, hfull, hfull']
          · have hfull' : ¬ b.chain.length = contextsPerBuffer := h.chain ▸ hfull
            constructor <;> simp [Progress.next, hfull', h.chain, h.position]

variable (env attachment) in
/-- Which context a frame has does not matter to the buffers. -/
theorem alike_foldl (fresh : List Frame) : ∀ {a b : Progress}, a.Alike b →
    (fresh.foldl (stepAt env attachment) a).Alike (fresh.foldl (step env attachment) b) := by
  induction fresh with
  | nil =>
      intro a b h
      exact h
  | cons f fresh ih =>
      intro a b h
      exact ih (h.next f (by rw [contextAt_isSome, contextOf_isSome]))

end Progress

variable (env attachment) in
/-- The progress of the frames of one read at either end. -/
def progressAt (fresh : List Frame) : Progress :=
  fresh.foldl (Progress.stepAt env attachment) Progress.start

variable (env attachment) in
theorem contexts_progressAt (fresh : List Frame) :
    (progressAt env attachment fresh).contexts = fresh.filterMap (contextAt env attachment) :=
  Progress.contexts_foldl env attachment fresh Progress.start

variable (env attachment) in
theorem progressAt_position (fresh : List Frame) :
    (progressAt env attachment fresh).position ≤ packetLengthSize + packetHeaderSize ↔
      fresh = [] ∨ Lost fresh := by
  have halike := Progress.alike_foldl env attachment fresh (a := Progress.start) ⟨rfl, rfl⟩
  rw [progressAt, halike.position]
  exact progressOf_position env attachment fresh

/-- Nothing is sent behind the loop. -/
theorem sentTypes_finishRead (henv : env.Generous)
    (h : s.session = true ∨ s.buffer.position ≤ packetLengthSize + packetHeaderSize) :
    sentTypes (finishRead env s).operations = sentTypes s.operations := by
  by_cases hposition : s.buffer.position ≤ packetLengthSize + packetHeaderSize
  · rw [finishRead, if_pos hposition]
    simp [ReadState.operate, sentTypes]
  · obtain ⟨memory, hmemory⟩ := henv.allocate s.allocations
    have hsession : s.session = true := h.resolve_right hposition
    rw [finishRead, if_neg hposition, if_neg (by simp [hsession])]
    simp only [hmemory, henv.submit, if_true]
    split <;> simp [ReadState.operate, sentTypes]

/-! ## Connections -/

variable (env attachment) in
/-- The connection has submitted the contexts of the frames that are done, and holds the first `k`
bytes of the others. -/
structure Follows (c : Connection) (done pending : List Frame) (k : Nat) : Prop where
  posted : ∃ buffer, c.posted = some buffer ∧
    (DynamicBufferCursor.ofBuffer buffer).At 0 ((pending.flatMap Frame.bytes).take k)
  session : c.session = !done.isEmpty
  submitted : c.submitted.flatten = done.filterMap (contextAt env attachment)

theorem follows_accept (henv : env.Generous) (frames : List Frame) :
    Follows env attachment (Connection.accept env) [] frames 0 := by
  have hsync : InSync env attachment (Connection.accept env) [] frames 0 :=
    inSync_accept henv frames
  exact ⟨hsync.posted, hsync.session, rfl⟩

variable {c : Connection} {done pending : List Frame} {k : Nat}

/-- More frames may follow what is there. -/
theorem Follows.more (h : Follows env attachment c done pending k)
    (hk : k ≤ (pending.flatMap Frame.bytes).length) (more : List Frame) :
    Follows env attachment c done (pending ++ more) k := by
  refine ⟨?_, h.session, h.submitted⟩
  rw [List.flatMap_append, List.take_append_of_le_length hk]
  exact h.posted

/-- A read: what is complete is submitted and answered, unless the last frame is lost. -/
theorem Follows.receive (henv : env.Generous) (h : Follows env attachment c done pending k)
    (hspeaks : Speaks env (!done.isEmpty) pending) {bytes : List UInt8} (hbytes : bytes ≠ [])
    (hnext : (pending.flatMap Frame.bytes).take (k + bytes.length) =
      (pending.flatMap Frame.bytes).take k ++ bytes)
    (hk : ((pending.flatMap Frame.bytes).take k).length = k)
    (hbound : k + bytes.length < 2 ^ 31) (hframes : ∀ f ∈ pending, f.bytes.length < 2 ^ 31) :
    let after := Framing.split Frame.bytes pending (k + bytes.length)
    ¬ Lost after.complete →
      Follows env attachment (c.receive env attachment bytes) (done ++ after.complete)
          after.pending after.left ∧
        c.answers env attachment bytes = after.complete.flatMap Frame.answers := by
  intro after hlost
  obtain ⟨buffer, hposted, hat⟩ := h.posted
  have hitems : pending = after.complete ++ after.pending :=
    (Framing.complete_append_pending Frame.bytes pending (k + bytes.length)).symm
  have hcontent : (pending.flatMap Frame.bytes).take k ++ bytes =
      after.complete.flatMap Frame.bytes ++ (after.pending.flatMap Frame.bytes).take after.left := by
    rw [← hnext]
    exact Framing.take_flatMap pending (k + bytes.length)
  obtain ⟨hstart, hrounds⟩ := c.reads_entering hat hcontent (by rw [hk]; exact hbound)
  have hentering : (c.entering buffer bytes).session = !done.isEmpty := h.session
  rw [hitems, speaks_append, ← hentering] at hspeaks
  have hpending : ∀ f ∈ after.pending, f.bytes.length < 2 ^ 31 := by
    intro f hf
    exact hframes f (by rw [hitems]; exact List.mem_append_right _ hf)
  obtain ⟨s, hloop, hs, hvalid, hanswers⟩ := readLoop_speaks attachment henv hpending
    (Framing.split_pending Frame.bytes pending (k + bytes.length)) after.complete
    (buffer.length + bytes.length + 1) (c.entering buffer bytes) Progress.start hrounds hspeaks.1
    (fun _ => rfl) hstart
  have hread : onRead env attachment (buffer.length + bytes.length + 1) (c.entering buffer bytes) =
      finishRead env s := by
    rw [onRead, hloop]
  have hreceive : c.receive env attachment bytes = c.behind (finishRead env s) := by
    rw [Connection.receive_eq hposted hbytes, hread]
  have hkept : s.session = !(done ++ after.complete).isEmpty := by
    rw [hvalid, hentering]
    cases done <;> cases after.complete <;> rfl
  have hcontexts := contexts_progressAt env attachment after.complete
  have hposition := progressAt_position env attachment after.complete
  have hs : Reads s (progressAt env attachment after.complete)
    ((after.pending.flatMap Frame.bytes).take after.left) := hs
  have hsends : c.answers env attachment bytes =
      sentTypes (finishRead env s).operations := by
    simp only [Connection.answers, hposted, hbytes, if_false, hread]
  rw [hreceive, hsends]
  by_cases hfresh : after.complete = []
  · -- the buffer goes on as it is
    have hsmall := hposition.2 (.inl hfresh)
    obtain ⟨hchains, hposted', hsession⟩ := finishRead_reuse env hs hsmall
    have hcursor := hs.cursor
    rw [hfresh] at hcursor hchains
    refine ⟨⟨⟨_, hposted', ⟨rfl, hcursor.length, hcursor.memory, hcursor.bound⟩⟩,
      hsession.trans hkept, ?_⟩, ?_⟩
    · rw [Connection.flatten_submitted_behind, hchains, h.submitted, hfresh, List.append_nil]
      exact List.append_nil _
    · rw [sentTypes_finishRead henv (.inr (by rw [hs.cursor.position]; exact hsmall)), hanswers]
      rfl
  · have hopen : s.session = true := by
      rw [hkept]
      simp [hfresh]
    obtain ⟨hchains, hposted', hsession⟩ :=
      finishRead_renew henv hs hopen fun hle => (hposition.1 hle).elim hfresh hlost
    refine ⟨⟨hposted', hsession.trans (hopen.symm.trans hkept), ?_⟩, ?_⟩
    · rw [Connection.flatten_submitted_behind, h.submitted, hchains, List.filterMap_append]
      exact congrArg _ hcontexts
    · rw [sentTypes_finishRead henv (.inl hopen), hanswers]
      rfl

end Ends

end NetworkEngine
end Engine
end SeamlessServer
