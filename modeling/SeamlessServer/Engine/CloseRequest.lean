import SeamlessServer.Engine.Malformed

/-!
# Engine.CloseRequest — what a close request leaves undelivered

`OnRead` returns at a `packet_session_close_rq`, as at any packet that opens a session, from the middle
of its loop.  The contexts of the packets before it in the same read are in the chain at hand, which
only the code behind the loop submits.  Calls that fail end a read in the same way.

* `delivered_iff` — the streams on an open session whose data packets are all submitted.
-/

namespace SeamlessServer
namespace Engine
namespace NetworkEngine

open Protocol

/-! ## Data packets -/

/-- The loop goes on behind the packet if there is a session. -/
def Frame.passes (f : Frame) : Bool := f.isHeartbeat || f.isData

/-- The contexts of the data packets among some packets. -/
def dataContexts (attachment : Nat) (frames : List Frame) : List SocketContext :=
  (frames.filter Frame.isData).map fun f => ⟨.SessionData, f.header, f.packet.body, attachment⟩

section DataContexts

variable {env : Surroundings} {attachment : Nat} {frames : List Frame} {f : Frame}

variable (attachment) in
theorem dataContexts_append (frames frames' : List Frame) :
    dataContexts attachment (frames ++ frames') =
      dataContexts attachment frames ++ dataContexts attachment frames' := by
  simp [dataContexts]

theorem dataContexts_eq_nil_iff :
    dataContexts attachment frames = [] ↔ ∀ f ∈ frames, f.isData = false := by
  simp [dataContexts]

/-- A packet that passes is one or the other. -/
theorem isData_of_passes (h : f.passes = true) : f.isData = !f.isHeartbeat := by
  unfold Frame.passes at h
  cases hheartbeat : f.isHeartbeat with
  | true =>
      simp [Frame.isData, hheartbeat]
  | false =>
      simpa [hheartbeat] using h

variable (env attachment) in
theorem filterMap_contextOf (h : ∀ f ∈ frames, f.passes = true) :
    frames.filterMap (contextOf env attachment) = dataContexts attachment frames := by
  induction frames with
  | nil =>
      rfl
  | cons f frames ih =>
      have hrest := ih fun g hg => h g (List.mem_cons_of_mem f hg)
      have hdata := isData_of_passes (h f List.mem_cons_self)
      rw [List.filterMap_cons, hrest]
      cases hheartbeat : f.isHeartbeat with
      | true =>
          simp [contextOf_heartbeat hheartbeat, dataContexts, hdata, hheartbeat]
      | false =>
          rw [hheartbeat] at hdata
          simp [contextOf_data hdata, dataContexts, hdata]

variable (attachment) in
theorem contextCount_eq (h : ∀ f ∈ frames, f.passes = true) :
    contextCount frames = (dataContexts attachment frames).length := by
  have hsame : frames.filter (fun f => !f.isHeartbeat) = frames.filter Frame.isData :=
    List.filter_congr fun f hf => (isData_of_passes (h f hf)).symm
  simp [contextCount, dataContexts, hsame]

end DataContexts

/-! ## Calls that may fail -/

/-- The calls made by a read, which begins when `allocations` and `submissions` calls were made: one of
each for every chain that the loop submits. -/
structure Called (allocations submissions : Nat) (s : ReadState) : Prop where
  allocations : s.allocations = allocations + (submittedChains s.operations).length
  submissions : s.submissions = submissions + (submittedChains s.operations).length

/-- The calls succeed by which the loop submits its chains from the `n`-th up to the `m`-th. -/
def Granted (env : Surroundings) (allocations submissions n m : Nat) : Prop :=
  ∀ i, n ≤ i → i < m →
    (env.allocate (allocations + i)).isSome = true ∧ env.submit (submissions + i) = true

section Calls

variable {env : Surroundings} {attachment A U : Nat} {s s' : ReadState} {header : PacketHeader}

/-- Operations other than `Submit` leave the number of chains as it is. -/
theorem Called.operate (h : Called A U s) (hallocations : s'.allocations = s.allocations)
    (hsubmissions : s'.submissions = s.submissions)
    (hchains : submittedChains s'.operations = submittedChains s.operations) : Called A U s' := by
  refine ⟨?_, ?_⟩
  · rw [hallocations, hchains]
    exact h.allocations
  · rw [hsubmissions, hchains]
    exact h.submissions

theorem submittedChains_silent {operations more : List Operation} (h : submittedChains more = []) :
    submittedChains (operations ++ more) = submittedChains operations := by
  rw [submittedChains_append, h, List.append_nil]

/-- A packet behind which the loop goes on. -/
theorem Called.readPacket (h : Called A U s) (hsession : s.session = true)
    (hpacket : readPacket env attachment s header = .again s') : Called A U s' := by
  rw [NetworkEngine.readPacket, if_neg (by simp [hsession])] at hpacket
  split_ifs at hpacket
  · cases hpacket
    exact h.operate rfl rfl (submittedChains_silent rfl)
  · cases hpacket
    exact h.operate rfl rfl (submittedChains_silent rfl)
  · rw [readDataPacket, prepareSocketContext_eq] at hpacket
    by_cases hroom : hasRoom s = true
    · rw [if_pos hroom] at hpacket
      cases hpacket
      exact h.operate rfl rfl rfl
    · rw [if_neg hroom] at hpacket
      cases hallocate : env.allocate s.allocations with
      | none =>
          simp [hallocate] at hpacket
      | some memory =>
          cases hsubmit : env.submit s.submissions with
          | false =>
              simp [hallocate, hsubmit] at hpacket
          | true =>
              -- one buffer was allocated and one chain submitted
              simp only [hallocate, hsubmit, if_true, Flow.again.injEq] at hpacket
              subst hpacket
              have hchains : submittedChains (s.operations ++ [.submit s.chain]) =
                  submittedChains s.operations ++ [s.chain] := by
                rw [submittedChains_append]
                rfl
              have hallocations := h.allocations
              have hsubmissions := h.submissions
              refine ⟨?_, ?_⟩
              · simp [link, prepareSocketContext, socketContextSize, reservedSize,
                  ReadState.operate, hchains, hallocations, Nat.add_assoc]
              · simp [link, prepareSocketContext, socketContextSize, reservedSize,
                  ReadState.operate, hchains, hsubmissions, Nat.add_assoc]

theorem Called.again (h : Called A U s) (hsession : s.session = true)
    (hround : readRound env attachment s = .again s') : Called A U s' := by
  obtain ⟨hcomplete, hbody, _, _⟩ := of_readRound_again hround
  rw [readRound_eq, if_pos hcomplete, if_pos hbody] at hround
  have hafter : Called A U (afterHeader s) := h.operate rfl rfl rfl
  exact hafter.readPacket hsession hround

theorem granted_self (n : Nat) : Granted env A U n n := fun i hle hlt => absurd hlt (by omega)

theorem granted_succ (n : Nat) : Granted env A U n (n + 1) ↔
    (env.allocate (A + n)).isSome = true ∧ env.submit (U + n) = true := by
  constructor
  · intro h
    exact h n le_rfl (Nat.lt_succ_self n)
  · intro h i hle hlt
    obtain rfl : i = n := by omega
    exact h

theorem granted_trans {n m k : Nat} (hnm : n ≤ m) (hmk : m ≤ k) :
    Granted env A U n k ↔ Granted env A U n m ∧ Granted env A U m k := by
  constructor
  · intro h
    exact ⟨fun i hle hlt => h i hle (by omega), fun i hle hlt => h i (by omega) hlt⟩
  · rintro ⟨hfirst, hsecond⟩ i hle hlt
    rcases Nat.lt_or_ge i m with him | hmi
    · exact hfirst i hle him
    · exact hsecond i hmi hlt

end Calls

/-! ## The loop on an open session -/

section Progress

variable (env : Surroundings) (attachment : Nat)

/-- The contexts a read has made. -/
def Progress.count (a : Progress) : Nat := a.chains.flatten.length + a.chain.length

theorem Progress.count_step (a : Progress) (f : Frame) :
    (a.step env attachment f).count = a.count + if f.isHeartbeat then 0 else 1 := by
  have hsome := contextOf_isSome env attachment f
  unfold Progress.step Progress.count Progress.next
  cases hcontext : contextOf env attachment f with
  | none =>
      have hheartbeat : f.isHeartbeat = true := by simpa [hcontext] using hsome
      simp [hheartbeat]
  | some context =>
      have hheartbeat : f.isHeartbeat = false := by simpa [hcontext] using hsome.symm
      by_cases hfull : a.chain.length = contextsPerBuffer
      · simp [hfull, hheartbeat]
      · simp [hfull, hheartbeat, Nat.add_assoc]

/-- A chain is submitted exactly at a context that finds it full. -/
theorem Progress.chains_step (a : Progress) (f : Frame) :
    (a.step env attachment f).chains.length = a.chains.length +
      if f.isHeartbeat = false ∧ a.chain.length = contextsPerBuffer then 1 else 0 := by
  have hsome := contextOf_isSome env attachment f
  unfold Progress.step Progress.next
  cases hcontext : contextOf env attachment f with
  | none =>
      have hheartbeat : f.isHeartbeat = true := by simpa [hcontext] using hsome
      simp [hheartbeat]
  | some context =>
      have hheartbeat : f.isHeartbeat = false := by simpa [hcontext] using hsome.symm
      by_cases hfull : a.chain.length = contextsPerBuffer
      · simp [hfull, hheartbeat]
      · simp [hfull]

theorem Progress.chains_le_foldl (frames : List Frame) : ∀ a : Progress,
    a.chains.length ≤ (frames.foldl (Progress.step env attachment) a).chains.length := by
  induction frames with
  | nil =>
      intro a
      exact le_rfl
  | cons f frames ih =>
      intro a
      have hstep := a.chains_step env attachment f
      exact le_trans (by omega) (ih (a.step env attachment f))

/-- The chains that the loop submits for some packets. -/
def overflows (fresh : List Frame) : Nat := (contextCount fresh - 1) / contextsPerBuffer

theorem length_chains_progressOf (fresh : List Frame) :
    (progressOf env attachment fresh).chains.length = overflows fresh := by
  induction fresh using List.reverseRecOn with
  | nil =>
      rfl
  | append_singleton fresh f ih =>
      have hfull := progressOf_full env attachment fresh
      rw [progressOf_concat, Progress.chains_step, ih]
      cases hheartbeat : f.isHeartbeat with
      | true =>
          simp [overflows, contextCount, hheartbeat]
      | false =>
          have hcount : contextCount (fresh ++ [f]) = contextCount fresh + 1 := by
            simp [contextCount, hheartbeat]
          simp only [overflows, hcount, true_and]
          by_cases hlast : (progressOf env attachment fresh).chain.length = contextsPerBuffer
          · -- the count is a positive multiple of the size of a chain
            obtain ⟨hpositive, hdvd⟩ := hfull.1 hlast
            rw [if_pos hlast]
            simp only [contextsPerBuffer, reservedSize, socketContextSize] at hdvd ⊢
            omega
          · have hnot := mt hfull.2 hlast
            rw [if_neg hlast]
            simp only [contextsPerBuffer, reservedSize, socketContextSize] at hnot ⊢
            omega

end Progress

section Rounds

variable {env : Surroundings} {attachment A U : Nat} {s : ReadState} {a : Progress} {f : Frame}
  {header : PacketHeader} {content rest : List UInt8}

theorem not_mem_append {operations more : List Operation}
    (h : ∀ buffer, .transmitRead buffer ∉ operations) (hmore : ∀ buffer, .transmitRead buffer ∉ more) :
    ∀ buffer, Operation.transmitRead buffer ∉ operations ++ more := by
  intro buffer hmem
  rcases List.mem_append.1 hmem with hmem | hmem
  · exact h buffer hmem
  · exact hmore buffer hmem

theorem postedBuffer_eq_none {operations : List Operation}
    (h : ∀ buffer, .transmitRead buffer ∉ operations) : postedBuffer operations = none := by
  unfold postedBuffer
  rw [List.getLast?_eq_none_iff, List.filterMap_eq_nil_iff]
  intro operation hmem
  cases operation with
  | transmitRead buffer =>
      exact absurd hmem (h buffer)
  | _ =>
      rfl

/-- A read ends where the chain cannot be submitted. -/
theorem readDataPacket_refused
    (hnone : prepareSocketContext s.buffer .SessionData header attachment s.contextSequence = none)
    (hrefused : ¬ ((env.allocate s.allocations).isSome = true ∧ env.submit s.submissions = true)) :
    ∃ s' more, readDataPacket env attachment s header = .exit s' ∧
      s'.operations = s.operations ++ more ∧ Silent more := by
  rw [readDataPacket, hnone]
  cases hallocate : env.allocate s.allocations with
  | none =>
      exact ⟨_, _, rfl, rfl, rfl, by simp⟩
  | some memory =>
      have hsubmit : env.submit s.submissions = false := by
        simpa [hallocate] using hrefused
      simp only [hsubmit]
      exact ⟨_, _, rfl, rfl, rfl, by simp⟩

/-- The round of a packet that passes, unless a call fails. -/
theorem readRound_passes (h : Reads s a (f.bytes ++ rest)) (hsession : s.session = true)
    (hcalled : Called A U s) (hf : f.passes = true) :
    (Granted env A U a.chains.length (a.step env attachment f).chains.length ∧
      ∃ s', readRound env attachment s = .again s' ∧ Reads s' (a.step env attachment f) rest ∧
        s'.session = true ∧ Called A U s') ∨
    (¬ Granted env A U a.chains.length (a.step env attachment f).chains.length ∧
      a.chain.length = contextsPerBuffer ∧
      ∃ s', readRound env attachment s = .exit s' ∧ submittedChains s'.operations = a.chains ∧
        ∀ buffer, .transmitRead buffer ∉ s'.operations) := by
  have hchains := a.chains_step env attachment f
  cases hheartbeat : f.isHeartbeat with
  | true =>
      -- no call is made
      obtain ⟨s', hround, hreads, hvalid⟩ :=
        readRound_heartbeat env attachment h hsession hheartbeat
      rw [if_neg (by simp [hheartbeat]), Nat.add_zero] at hchains
      refine .inl ⟨by rw [hchains]; exact granted_self _, s', hround, ?_, hvalid,
        hcalled.again hsession hround⟩
      rw [Progress.step, contextOf_heartbeat hheartbeat]
      exact hreads
  | false =>
      have hdata : f.isData = true := by rw [isData_of_passes hf, hheartbeat]; rfl
      have hallocations : s.allocations = A + a.chains.length := by
        rw [hcalled.allocations, h.chains]
      have hsubmissions : s.submissions = U + a.chains.length := by
        rw [hcalled.submissions, h.chains]
      have hcalls : a.chain.length = contextsPerBuffer →
          (Granted env A U a.chains.length (a.step env attachment f).chains.length ↔
            (env.allocate s.allocations).isSome = true ∧ env.submit s.submissions = true) := by
        intro hfull
        rw [hchains, if_pos ⟨hheartbeat, hfull⟩, granted_succ, hallocations, hsubmissions]
      by_cases hgranted :
          Granted env A U a.chains.length (a.step env attachment f).chains.length
      · obtain ⟨s', hround, hreads, hvalid⟩ := readRound_data_of_granted attachment h hsession hdata
          fun hfull => (hcalls hfull).1 hgranted
        refine .inl ⟨hgranted, s', hround, ?_, hvalid, hcalled.again hsession hround⟩
        rw [Progress.step, contextOf_data hdata]
        exact hreads
      · -- without a call there is nothing to fail
        have hfull : a.chain.length = contextsPerBuffer := by
          by_contra hroom
          rw [if_neg fun hboth => hroom hboth.2, Nat.add_zero] at hchains
          apply hgranted
          rw [hchains]
          exact granted_self _
        have hround := readRound_frame env attachment h
        have htype := hdata
        simp only [Frame.isData, Frame.isHeartbeat, decide_eq_true_eq, not_or, Bool.decide_or,
          Bool.or_eq_true] at htype
        rw [if_neg (by simp [hsession]), if_neg htype.1.1, if_neg htype.1.2,
          if_neg (by simp [htype.2])] at hround
        have hnone : prepareSocketContext (afterHeader s).buffer .SessionData f.header attachment
            (afterHeader s).contextSequence = none := by
          have hsequence : (afterHeader s).contextSequence = contextsPerBuffer :=
            h.sequence.trans hfull
          rw [hsequence]
          exact prepareSocketContext_of_full _ _ _ _
        have hrefused : ¬ ((env.allocate (afterHeader s).allocations).isSome = true ∧
            env.submit (afterHeader s).submissions = true) :=
          fun hboth => hgranted ((hcalls hfull).2 hboth)
        obtain ⟨s', more, hexit, hmore, hsilent⟩ := readDataPacket_refused hnone hrefused
        have hmore : s'.operations = s.operations ++ more := hmore
        refine .inr ⟨hgranted, hfull, s', hround.trans hexit, ?_, ?_⟩
        · rw [hmore, submittedChains_silent hsilent.1, h.chains]
        · rw [hmore]
          exact not_mem_append h.posted hsilent.2

/-- The loop passes the packets, unless a call fails. -/
theorem readLoop_passes (fresh : List Frame) : ∀ (s : ReadState) (a : Progress),
    (∀ f ∈ fresh, f.passes = true) → s.session = true → Called A U s →
    Reads s a (fresh.flatMap Frame.bytes ++ rest) →
    (Granted env A U a.chains.length
        (fresh.foldl (Progress.step env attachment) a).chains.length ∧
      ∃ s', (∀ rounds, readLoop env attachment (fresh.length + rounds) s =
          readLoop env attachment rounds s') ∧
        Reads s' (fresh.foldl (Progress.step env attachment) a) rest ∧
        s'.session = true ∧ Called A U s') ∨
    (¬ Granted env A U a.chains.length
        (fresh.foldl (Progress.step env attachment) a).chains.length ∧
      ∃ s', (∀ rounds, readLoop env attachment (fresh.length + rounds) s = .exit s') ∧
        (submittedChains s'.operations).flatten.length < a.count + contextCount fresh ∧
        ∀ buffer, .transmitRead buffer ∉ s'.operations) := by
  induction fresh with
  | nil =>
      intro s a _ hsession hcalled h
      refine .inl ⟨granted_self _, s, fun rounds => ?_, h, hsession, hcalled⟩
      rw [List.length_nil, Nat.zero_add]
  | cons f fresh ih =>
      intro s a hpasses hsession hcalled h
      have hf := hpasses f List.mem_cons_self
      have hrest : ∀ g ∈ fresh, g.passes = true := fun g hg => hpasses g (List.mem_cons_of_mem f hg)
      have hrounds : ∀ rounds, (f :: fresh).length + rounds = (fresh.length + rounds) + 1 := by
        intro rounds
        rw [List.length_cons]
        omega
      have hcount : contextCount (f :: fresh) =
          (if f.isHeartbeat then 0 else 1) + contextCount fresh := by
        cases hheartbeat : f.isHeartbeat <;> simp [contextCount, hheartbeat, Nat.add_comm]
      have hstep := a.chains_step env attachment f
      have hle := Progress.chains_le_foldl env attachment fresh (a.step env attachment f)
      rw [List.foldl_cons, granted_trans (by omega) hle]
      rw [List.flatMap_cons, List.append_assoc] at h
      rcases readRound_passes h hsession hcalled hf with
        ⟨hgranted, s₁, hround, h₁, hsession₁, hcalled₁⟩ | ⟨hrefused, hfull, s₁, hround, hchains, hposted⟩
      · have hloop : ∀ rounds, readLoop env attachment ((f :: fresh).length + rounds) s =
            readLoop env attachment (fresh.length + rounds) s₁ := by
          intro rounds
          rw [hrounds, readLoop, hround]
        rcases ih s₁ _ hrest hsession₁ hcalled₁ h₁ with
          ⟨hlater, s', hpass, h'⟩ | ⟨hlater, s', hexit, hless, hposted⟩
        · exact .inl ⟨⟨hgranted, hlater⟩, s', fun rounds => (hloop rounds).trans (hpass rounds), h'⟩
        · refine .inr ⟨fun hboth => hlater hboth.2, s',
            fun rounds => (hloop rounds).trans (hexit rounds), ?_, hposted⟩
          rw [Progress.count_step] at hless
          omega
      · -- the full chain is dropped
        refine .inr ⟨fun hboth => hrefused hboth.1, s₁, fun rounds => ?_, ?_, hposted⟩
        · rw [hrounds, readLoop, hround]
        · rw [hchains, Progress.count, hfull]
          simp only [contextsPerBuffer, reservedSize, socketContextSize]
          omega

/-- What follows the loop, when its calls fail: the chain at hand is dropped. -/
theorem finishRead_refused (h : Reads s a content) (hsession : s.session = true)
    (hposition : ¬ a.position ≤ packetLengthSize + packetHeaderSize)
    (hrefused : ¬ ((env.allocate s.allocations).isSome = true ∧
      (a.chain ≠ [] → env.submit s.submissions = true))) :
    submittedChains (finishRead env s).operations = a.chains ∧
      ∀ buffer, .transmitRead buffer ∉ (finishRead env s).operations := by
  have hpos : ¬ s.buffer.position ≤ packetLengthSize + packetHeaderSize := by
    rw [h.cursor.position]
    exact hposition
  have hsilent : ∀ more, Silent more →
      submittedChains (s.operations ++ more) = a.chains ∧
        ∀ buffer, Operation.transmitRead buffer ∉ s.operations ++ more := by
    intro more hmore
    exact ⟨(submittedChains_silent hmore.1).trans h.chains, not_mem_append h.posted hmore.2⟩
  rw [finishRead, if_neg hpos, if_neg (by simp [hsession])]
  cases hallocate : env.allocate s.allocations with
  | none =>
      exact hsilent _ ⟨rfl, by simp⟩
  | some memory =>
      simp only [hallocate, Option.isSome_some, true_and, Classical.not_imp] at hrefused
      obtain ⟨hchain, hsubmit⟩ := hrefused
      rw [← h.chain] at hchain
      have hsubmit : env.submit s.submissions = false := by simpa using hsubmit
      simp only [hchain, if_false, hsubmit]
      exact hsilent _ ⟨rfl, by simp⟩

/-- The calls that are made behind the loop. -/
theorem finishRead_calls (h : Reads s a content) (hsession : s.session = true)
    (hposition : ¬ a.position ≤ packetLengthSize + packetHeaderSize)
    (hallocate : (env.allocate s.allocations).isSome = true) :
    (finishRead env s).allocations = s.allocations + 1 ∧
      (finishRead env s).submissions = s.submissions + if a.chain = [] then 0 else 1 := by
  have hpos : ¬ s.buffer.position ≤ packetLengthSize + packetHeaderSize := by
    rw [h.cursor.position]
    exact hposition
  obtain ⟨memory, hmemory⟩ := Option.isSome_iff_exists.1 hallocate
  rw [finishRead, if_neg hpos, if_neg (by simp [hsession]), ← h.chain]
  simp only [hmemory]
  split_ifs <;> exact ⟨rfl, rfl⟩

end Rounds

/-! ## A read on an open session -/

/-- The calls of `TryAllocateReadBuffer` by a read of some packets. -/
def readAllocations (fresh : List Frame) : Nat := if fresh = [] then 0 else overflows fresh + 1

/-- The calls of `Submit` by a read of some packets. -/
def readSubmissions (fresh : List Frame) : Nat :=
  if contextCount fresh = 0 then 0 else overflows fresh + 1

/-- A read that completes these packets goes to its end: none of them closes the session, the last one
is not lost, and the calls succeed, which are counted from `allocations` and `submissions` on. -/
structure GoesThrough (env : Surroundings) (allocations submissions : Nat) (fresh : List Frame) :
    Prop where
  passes : ∀ f ∈ fresh, f.passes = true
  kept : ¬ Lost fresh
  allocate : ∀ i < readAllocations fresh, (env.allocate (allocations + i)).isSome = true
  submit : ∀ i < readSubmissions fresh, env.submit (submissions + i) = true

section Read

variable {env : Surroundings} {attachment A U : Nat} {s : ReadState} {fresh : List Frame}
  {content : List UInt8}

variable (env attachment) in
theorem count_progressOf (fresh : List Frame) :
    (progressOf env attachment fresh).count = contextCount fresh := by
  induction fresh using List.reverseRecOn with
  | nil =>
      rfl
  | append_singleton fresh f ih =>
      rw [progressOf_concat, Progress.count_step, ih]
      cases hheartbeat : f.isHeartbeat <;> simp [contextCount, hheartbeat]

variable (env attachment) in
/-- The chain at hand is not empty once there is a context. -/
theorem chain_progressOf (fresh : List Frame) :
    (progressOf env attachment fresh).chain = [] ↔ contextCount fresh = 0 := by
  have hspec := (progressOf_spec env attachment fresh).2
  rw [← List.length_eq_zero_iff, hspec]
  split_ifs with hzero
  · simp [hzero]
  · simp [hzero]

/-- The calls of a read that completes a packet: those of the loop, and those behind it. -/
theorem goesThrough_iff (hpasses : ∀ f ∈ fresh, f.passes = true) (hne : fresh ≠ []) :
    GoesThrough env A U fresh ↔ ¬ Lost fresh ∧ Granted env A U 0 (overflows fresh) ∧
      (env.allocate (A + overflows fresh)).isSome = true ∧
      (contextCount fresh ≠ 0 → env.submit (U + overflows fresh) = true) := by
  have hallocations : readAllocations fresh = overflows fresh + 1 := if_neg hne
  constructor
  · intro h
    have hallocate := h.allocate
    have hsubmit := h.submit
    rw [hallocations] at hallocate
    refine ⟨h.kept, fun i _ hi => ⟨hallocate i (by omega), hsubmit i ?_⟩,
      hallocate _ (Nat.lt_succ_self _), fun hcount => hsubmit _ ?_⟩
    · -- the loop submits a chain only if there is a context
      have hcount : contextCount fresh ≠ 0 := by
        intro hzero
        simp [overflows, hzero] at hi
      rw [readSubmissions, if_neg hcount]
      omega
    · rw [readSubmissions, if_neg hcount]
      exact Nat.lt_succ_self _
  · rintro ⟨hkept, hgranted, hallocate, hsubmit⟩
    refine ⟨hpasses, hkept, fun i hi => ?_, fun i hi => ?_⟩
    · rw [hallocations] at hi
      rcases Nat.lt_succ_iff_lt_or_eq.1 hi with hlt | rfl
      · exact (hgranted i (Nat.zero_le i) hlt).1
      · exact hallocate
    · unfold readSubmissions at hi
      split_ifs at hi with hcount
      · omega
      · rcases Nat.lt_succ_iff_lt_or_eq.1 hi with hlt | rfl
        · exact (hgranted i (Nat.zero_le i) hlt).2
        · exact hsubmit hcount

/-- What a read has done that went to its end. -/
structure Delivered (attachment A U : Nat) (fresh : List Frame) (content : List UInt8)
    (s : ReadState) : Prop where
  submitted : (submittedChains s.operations).flatten = dataContexts attachment fresh
  posted : ∃ buffer, postedBuffer s.operations = some buffer ∧
    (DynamicBufferCursor.ofBuffer buffer).At 0 content
  session : s.session = true
  allocations : s.allocations = A + readAllocations fresh
  submissions : s.submissions = U + readSubmissions fresh

/-- What a read has done that did not: the contexts made last are not submitted, and if there are none,
no buffer is posted either. -/
structure Dropped (attachment : Nat) (fresh : List Frame) (s : ReadState) : Prop where
  submitted : dataContexts attachment fresh ≠ [] →
    (submittedChains s.operations).flatten.length < (dataContexts attachment fresh).length
  posted : dataContexts attachment fresh = [] →
    (submittedChains s.operations).flatten = [] ∧ postedBuffer s.operations = none

variable (attachment) in
/-- A read that ended at some packet, with contexts in the chain at hand. -/
theorem dropped_of_front {front : List Frame} (back : List Frame)
    (hfront : ∀ f ∈ front, f.passes = true)
    (hless : (submittedChains s.operations).flatten.length < contextCount front ∨
      (submittedChains s.operations).flatten = [])
    (hposted : ∀ buffer, .transmitRead buffer ∉ s.operations) :
    Dropped attachment (front ++ back) s := by
  rw [contextCount_eq attachment hfront] at hless
  have hlength := congrArg List.length (dataContexts_append attachment front back)
  rw [List.length_append] at hlength
  refine ⟨fun hdata => ?_, fun hnone => ⟨?_, postedBuffer_eq_none hposted⟩⟩
  · rcases hless with hless | hnil
    · omega
    · rw [hnil]
      exact List.length_pos_iff.2 hdata
  · have hzero : (dataContexts attachment (front ++ back)).length = 0 := by
      rw [hnone]
      rfl
    rcases hless with hless | hnil
    · omega
    · exact hnil

variable (env attachment) in
/-- The chains that the loop has submitted are fewer contexts than were made. -/
theorem chains_progressOf_lt (fresh : List Frame) :
    (progressOf env attachment fresh).chains.flatten.length < contextCount fresh ∨
      (progressOf env attachment fresh).chains.flatten = [] := by
  have hcount := count_progressOf env attachment fresh
  unfold Progress.count at hcount
  rcases Nat.eq_zero_or_pos (progressOf env attachment fresh).chain.length with hzero | hpositive
  · right
    have hnone := (chain_progressOf env attachment fresh).1 (List.length_eq_zero_iff.1 hzero)
    exact List.eq_nil_of_length_eq_zero (by omega)
  · left
    omega

variable (env attachment) in
/-- A packet that does not pass ends the read. -/
theorem readRound_closes {a : Progress} {f : Frame} {rest : List UInt8}
    (h : Reads s a (f.bytes ++ rest)) (hsession : s.session = true) (hf : f.passes = false) :
    ∃ s', readRound env attachment s = .exit s' ∧ submittedChains s'.operations = a.chains ∧
      ∀ buffer, .transmitRead buffer ∉ s'.operations := by
  have hround := readRound_frame env attachment h
  obtain ⟨hheartbeat, hdata⟩ := Bool.or_eq_false_iff.1 hf
  have hcontrol : f.packet.packetType = packetSessionCreateRq ∨
      f.packet.packetType = packetSessionCreateRs ∨
      f.packet.packetType = packetSessionCloseRq := by
    by_contra hnot
    simp only [not_or] at hnot
    simp [Frame.isData, hheartbeat, hnot] at hdata
  have hheartbeat : f.packet.packetType ≠ packetHeartbeatRq ∧
      f.packet.packetType ≠ packetHeartbeatRs := by
    simpa [Frame.isHeartbeat] using hheartbeat
  rw [if_neg (by simp [hsession]), if_neg hheartbeat.1, if_neg hheartbeat.2, if_pos hcontrol] at hround
  refine ⟨_, hround, ?_, ?_⟩
  · exact (submittedChains_silent rfl).trans h.chains
  · exact not_mem_append h.posted (by simp)

/-- The first packet that does not pass, if there is one. -/
theorem passes_or_exists (fresh : List Frame) :
    (∀ f ∈ fresh, f.passes = true) ∨ ∃ front f back, fresh = front ++ f :: back ∧
      (∀ g ∈ front, g.passes = true) ∧ f.passes = false := by
  induction fresh with
  | nil =>
      exact .inl (by simp)
  | cons f fresh ih =>
      cases hf : f.passes with
      | false =>
          exact .inr ⟨[], f, fresh, rfl, by simp, hf⟩
      | true =>
          rcases ih with hall | ⟨front, g, back, rfl, hfront, hg⟩
          · exact .inl (List.forall_mem_cons.2 ⟨hf, hall⟩)
          · exact .inr ⟨f :: front, g, back, rfl, List.forall_mem_cons.2 ⟨hf, hfront⟩, hg⟩

/-- Behind a loop that passed all packets. -/
theorem finishRead_open (hpasses : ∀ f ∈ fresh, f.passes = true)
    (h : Reads s (progressOf env attachment fresh) content) (hsession : s.session = true)
    (hcalled : Called A U s) (hgranted : Granted env A U 0 (overflows fresh)) :
    (GoesThrough env A U fresh → Delivered attachment A U fresh content (finishRead env s)) ∧
      (¬ GoesThrough env A U fresh → Dropped attachment fresh (finishRead env s)) := by
  have hposition := progressOf_position env attachment fresh
  have hspec := (progressOf_spec env attachment fresh).1
  rw [filterMap_contextOf env attachment hpasses] at hspec
  have hchains := length_chains_progressOf env attachment fresh
  have hallocations : s.allocations = A + overflows fresh := by
    rw [hcalled.allocations, h.chains, hchains]
  have hsubmissions : s.submissions = U + overflows fresh := by
    rw [hcalled.submissions, h.chains, hchains]
  have hlost : (submittedChains (finishRead env s).operations =
      (progressOf env attachment fresh).chains) → contextCount fresh ≠ 0 →
      Dropped attachment fresh (finishRead env s) := by
    intro heq hcount
    have hless := chains_progressOf_lt env attachment fresh
    rw [contextCount_eq attachment hpasses] at hless hcount
    refine ⟨fun hdata => ?_, fun hnone => absurd (by simp [hnone]) hcount⟩
    rw [heq]
    rcases hless with hless | hnil
    · exact hless
    · rw [hnil]
      exact List.length_pos_iff.2 hdata
  by_cases hne : fresh = []
  · -- no packet was completed
    obtain ⟨hsubmitted, hposted, hkept⟩ := finishRead_reuse env h (hposition.2 (.inl hne))
    subst hne
    have hpos : s.buffer.position ≤ packetLengthSize + packetHeaderSize := by
      rw [h.cursor.position]
      exact Nat.zero_le _
    refine ⟨fun _ => ⟨?_, ⟨_, hposted, rfl, h.cursor.length, h.cursor.memory, h.cursor.bound⟩,
      hkept.trans hsession, ?_, ?_⟩, fun hnot => absurd ?_ hnot⟩
    · rw [hsubmitted]
      rfl
    · rw [finishRead, if_pos hpos]
      exact hallocations
    · rw [finishRead, if_pos hpos]
      exact hsubmissions
    · exact ⟨by simp, by rintro ⟨before, f, heq, _⟩; simp at heq, by simp [readAllocations],
        by simp [readSubmissions, contextCount]⟩
  · rw [goesThrough_iff hpasses hne]
    by_cases hkept : Lost fresh
    · -- the new buffer is posted with the contexts in it
      refine ⟨fun hboth => absurd hkept hboth.1, fun _ => ?_⟩
      obtain ⟨hsubmitted, _, _⟩ := finishRead_reuse env h (hposition.2 (.inr hkept))
      apply hlost hsubmitted
      obtain ⟨before, f, rfl, hheartbeat, _⟩ := hkept
      simp [contextCount, hheartbeat]
    · have hrenew : ¬ (progressOf env attachment fresh).position ≤
          packetLengthSize + packetHeaderSize := fun hle => (hposition.1 hle).elim hne hkept
      have hchain := chain_progressOf env attachment fresh
      rw [← hallocations, ← hsubmissions]
      constructor
      · rintro ⟨_, _, hallocate, hsubmit⟩
        obtain ⟨hsubmitted, hposted, hvalid⟩ := finishRead_renew_of_granted hallocate
          (fun hmore => hsubmit (mt hchain.2 hmore)) h hsession hrenew
        obtain ⟨hcalls, hcalls'⟩ := finishRead_calls h hsession hrenew hallocate
        refine ⟨hsubmitted.trans hspec, hposted, hvalid, ?_, ?_⟩
        · rw [hcalls, hallocations, readAllocations, if_neg hne, Nat.add_assoc]
        · rw [hcalls', hsubmissions, readSubmissions]
          by_cases hcount : contextCount fresh = 0
          · simp [hchain.2 hcount, hcount, overflows]
          · rw [if_neg (mt hchain.1 hcount), if_neg hcount, Nat.add_assoc]
      · intro hnot
        have hrefused : ¬ ((env.allocate s.allocations).isSome = true ∧
            ((progressOf env attachment fresh).chain ≠ [] → env.submit s.submissions = true)) := by
          rintro ⟨hallocate, hsubmit⟩
          exact hnot ⟨hkept, hgranted, hallocate, fun hcount => hsubmit (mt hchain.1 hcount)⟩
        obtain ⟨hsubmitted, hposted⟩ := finishRead_refused h hsession hrenew hrefused
        have hless := chains_progressOf_lt env attachment fresh
        rw [← hsubmitted] at hless
        simpa using dropped_of_front attachment [] hpasses hless hposted

variable (env attachment) in
/-- A read, from the first round of its loop on. -/
theorem onRead_open {pending : List Frame} {k rounds : Nat}
    (hpending : ∀ f ∈ pending, f.bytes.length < 2 ^ 31)
    (hk : (Framing.split Frame.bytes pending k).complete = [])
    (h : Reads s Progress.start
      (fresh.flatMap Frame.bytes ++ (pending.flatMap Frame.bytes).take k))
    (hsession : s.session = true) (hcalled : Called A U s) (hrounds : fresh.length < rounds) :
    (GoesThrough env A U fresh → Delivered attachment A U fresh
        ((pending.flatMap Frame.bytes).take k) (onRead env attachment rounds s)) ∧
      (¬ GoesThrough env A U fresh →
        Dropped attachment fresh (onRead env attachment rounds s)) := by
  obtain ⟨more, rfl⟩ := Nat.exists_eq_add_of_lt hrounds
  rcases passes_or_exists fresh with hpasses | ⟨front, f, back, rfl, hfront, hf⟩
  · rcases readLoop_passes fresh s Progress.start hpasses hsession hcalled h with
      ⟨hgranted, s₁, hloop, h₁, hsession₁, hcalled₁⟩ | ⟨hrefused, s₁, hloop, hless, hposted⟩
    · -- the loop is left behind the last of them
      have hgranted : Granted env A U 0 (overflows fresh) := by
        rw [← length_chains_progressOf env attachment fresh]
        exact hgranted
      have hend : onRead env attachment (fresh.length + more + 1) s = finishRead env s₁ := by
        rw [onRead, Nat.add_assoc, hloop, readLoop,
          readRound_incomplete env attachment hpending hk h₁]
      rw [hend]
      exact finishRead_open hpasses h₁ hsession₁ hcalled₁ hgranted
    · -- a call failed on the way
      have hend : onRead env attachment (fresh.length + more + 1) s = s₁ := by
        rw [onRead, Nat.add_assoc, hloop]
      have hdropped := dropped_of_front attachment [] hpasses
        (.inl (by simpa [Progress.count, Progress.start] using hless)) hposted
      rw [List.append_nil] at hdropped
      rw [hend]
      refine ⟨fun hthrough => absurd ?_ hrefused, fun _ => hdropped⟩
      have hne : fresh ≠ [] := by
        rintro rfl
        exact hrefused (granted_self _)
      have hgranted := ((goesThrough_iff hpasses hne).1 hthrough).2.1
      rw [← length_chains_progressOf env attachment fresh] at hgranted
      exact hgranted
  · -- the session is closed at a packet
    have hnot : ¬ GoesThrough env A U (front ++ f :: back) := by
      intro hthrough
      have hpasses := hthrough.passes f (by simp)
      rw [hf] at hpasses
      cases hpasses
    refine ⟨fun hthrough => absurd hthrough hnot, fun _ => ?_⟩
    rw [List.flatMap_append, List.append_assoc, List.flatMap_cons, List.append_assoc] at h
    have hlength : (front ++ f :: back).length + more + 1 =
        front.length + (back.length + more + 1 + 1) := by
      simp only [List.length_append, List.length_cons]
      omega
    rw [hlength]
    rcases readLoop_passes front s Progress.start hfront hsession hcalled h with
      ⟨_, s₁, hloop, h₁, hsession₁, _⟩ | ⟨_, s₁, hloop, hless, hposted⟩
    · obtain ⟨s₂, hexit, hchains, hposted⟩ :=
        readRound_closes env attachment h₁ hsession₁ hf
      have hend : onRead env attachment (front.length + (back.length + more + 1 + 1)) s = s₂ := by
        rw [onRead, hloop, readLoop, hexit]
      rw [hend]
      refine dropped_of_front attachment _ hfront ?_ hposted
      rw [hchains]
      exact chains_progressOf_lt env attachment front
    · have hend : onRead env attachment (front.length + (back.length + more + 1 + 1)) s = s₁ := by
        rw [onRead, hloop]
      rw [hend]
      exact dropped_of_front attachment _ hfront
        (.inl (by simpa [Progress.count, Progress.start] using hless)) hposted

end Read

/-! ## Connections with an open session -/

/-- The session is open, and a buffer with the given bytes is posted. -/
structure Opened (c : Connection) (content : List UInt8) : Prop where
  session : c.session = true
  posted : ∃ buffer, c.posted = some buffer ∧ (DynamicBufferCursor.ofBuffer buffer).At 0 content

section Connections

variable {env : Surroundings} {attachment : Nat} {c : Connection}

variable (env attachment) in
/-- A read goes through, and the connection goes on, or it ends the connection or drops contexts. -/
theorem Opened.receive {pending : List Frame} {k : Nat}
    (h : Opened c ((pending.flatMap Frame.bytes).take k)) {bytes : List UInt8} (hbytes : bytes ≠ [])
    (hnext : (pending.flatMap Frame.bytes).take (k + bytes.length) =
      (pending.flatMap Frame.bytes).take k ++ bytes)
    (hk : ((pending.flatMap Frame.bytes).take k).length = k)
    (hbound : k + bytes.length < 2 ^ 31) (hframes : ∀ f ∈ pending, f.bytes.length < 2 ^ 31) :
    let after := Framing.split Frame.bytes pending (k + bytes.length)
    let fresh := after.complete
    let c' := c.receive env attachment bytes
    (GoesThrough env c.allocations c.submissions fresh →
      Opened c' ((after.pending.flatMap Frame.bytes).take after.left) ∧
        c'.submitted.flatten = c.submitted.flatten ++ dataContexts attachment fresh ∧
        c'.allocations = c.allocations + readAllocations fresh ∧
        c'.submissions = c.submissions + readSubmissions fresh) ∧
    (¬ GoesThrough env c.allocations c.submissions fresh →
      (dataContexts attachment fresh ≠ [] → c'.submitted.flatten.length <
        c.submitted.flatten.length + (dataContexts attachment fresh).length) ∧
      (dataContexts attachment fresh = [] →
        c'.submitted.flatten = c.submitted.flatten ∧ c'.posted = none)) := by
  intro after fresh c'
  obtain ⟨buffer, hposted, hat⟩ := h.posted
  -- what is in the buffer and what comes in are some whole frames and the beginning of the next one
  have hitems : pending = fresh ++ after.pending :=
    (Framing.complete_append_pending Frame.bytes pending (k + bytes.length)).symm
  have hcontent : (pending.flatMap Frame.bytes).take k ++ bytes =
      fresh.flatMap Frame.bytes ++ (after.pending.flatMap Frame.bytes).take after.left := by
    rw [← hnext]
    exact Framing.take_flatMap pending (k + bytes.length)
  obtain ⟨hstart, hrounds⟩ := c.reads_entering hat hcontent (by rw [hk]; exact hbound)
  have hpending : ∀ f ∈ after.pending, f.bytes.length < 2 ^ 31 := by
    intro f hf
    exact hframes f (by rw [hitems]; simp [hf])
  have hcalled : Called c.allocations c.submissions (c.entering buffer bytes) := ⟨rfl, rfl⟩
  -- the loop reads the whole frames, and what it is left with decides about the read
  have hread := onRead_open env attachment hpending
    (Framing.split_pending Frame.bytes pending (k + bytes.length)) hstart h.session hcalled hrounds
  have hafter : c' = c.behind (onRead env attachment (buffer.length + bytes.length + 1)
      (c.entering buffer bytes)) := Connection.receive_eq hposted hbytes
  rw [hafter]
  refine ⟨fun hthrough => ?_, fun hnot => ?_⟩
  · obtain ⟨hsubmitted, hposted', hsession, hallocations, hsubmissions⟩ := hread.1 hthrough
    refine ⟨⟨hsession, hposted'⟩, ?_, hallocations, hsubmissions⟩
    rw [Connection.flatten_submitted_behind, hsubmitted]
  · obtain ⟨hless, hnone⟩ := hread.2 hnot
    refine ⟨fun hdata => ?_, fun hdata => ⟨?_, (hnone hdata).2⟩⟩
    · rw [Connection.flatten_submitted_behind, List.length_append]
      exact Nat.add_lt_add_left (hless hdata) _
    · rw [Connection.flatten_submitted_behind, (hnone hdata).1, List.append_nil]

/-- Nothing is received any more. -/
theorem receive_of_ended (h : c.posted = none) (bytes : List UInt8) :
    c.receive env attachment bytes = c := by
  rw [Connection.receive, h]

end Connections

/-! ## Streams on an open session -/

/-- The packets a peer sends on an open session.  They may be of any kind; the last one asks for the end
of the session. -/
structure ClosingStream where
  before : List Frame
  close : Frame
  closes : close.packet.packetType = packetSessionCloseRq

namespace ClosingStream

variable (stream : ClosingStream) (reads : List (List UInt8))

def frames : List Frame := stream.before ++ [stream.close]

/-- The state of the stream after the first `n` reads. -/
def after (n : Nat) : Framing.Split Frame := Framing.after Frame.bytes stream.frames reads n

/-- The packets that the `n`-th read completes. -/
def completedBy (n : Nat) : List Frame := Framing.completedBy Frame.bytes stream.frames reads n

/-- The stream is cut into reads, each of which fits behind the bytes that are left from earlier ones. -/
structure Cut (capacity : Nat) : Prop where
  bytes : reads.flatten = stream.frames.flatMap Frame.bytes
  nonempty : ∀ read ∈ reads, read ≠ []
  fits : ∀ n (h : n < reads.length), (stream.after reads n).left + (reads.get ⟨n, h⟩).length ≤ capacity
  packets : ∀ f ∈ stream.frames, f.bytes.length ≤ capacity

/-- The calls of `TryAllocateReadBuffer` in the first `n` reads, if these go through. -/
def allocationsBefore (n : Nat) : Nat :=
  ((List.range n).map fun m => readAllocations (stream.completedBy reads m)).sum

/-- The calls of `Submit` in the first `n` reads, if these go through. -/
def submissionsBefore (n : Nat) : Nat :=
  ((List.range n).map fun m => readSubmissions (stream.completedBy reads m)).sum

section Connection

variable (env : Surroundings) (attachment : Nat) (c : Connection)

/-- The connection after the first `n` reads. -/
def connection (n : Nat) : Connection := (reads.take n).foldl (Connection.receive env attachment) c

/-- The `n`-th read goes to its end, if those before it do. -/
def ReadGoesThrough (n : Nat) : Prop :=
  GoesThrough env (c.allocations + stream.allocationsBefore reads n)
    (c.submissions + stream.submissionsBefore reads n) (stream.completedBy reads n)

/-- The session is open after the first `n` reads, and what they completed has been submitted. -/
structure InStep (n : Nat) : Prop where
  opened : Opened (connection reads env attachment c n)
    (((stream.after reads n).pending.flatMap Frame.bytes).take (stream.after reads n).left)
  submitted : (connection reads env attachment c n).submitted.flatten =
    c.submitted.flatten ++ dataContexts attachment (stream.after reads n).complete
  allocations : (connection reads env attachment c n).allocations =
    c.allocations + stream.allocationsBefore reads n
  submissions : (connection reads env attachment c n).submissions =
    c.submissions + stream.submissionsBefore reads n

end Connection

section Reads

variable {stream reads} {env : Surroundings} {attachment capacity n : Nat} {c : Connection}

theorem complete_succ (h : n < reads.length) :
    (stream.after reads (n + 1)).complete =
      (stream.after reads n).complete ++ stream.completedBy reads n :=
  Framing.complete_succ Frame.bytes stream.frames h

theorem allocationsBefore_succ (n : Nat) : stream.allocationsBefore reads (n + 1) =
    stream.allocationsBefore reads n + readAllocations (stream.completedBy reads n) := by
  simp [allocationsBefore, List.range_succ]

theorem submissionsBefore_succ (n : Nat) : stream.submissionsBefore reads (n + 1) =
    stream.submissionsBefore reads n + readSubmissions (stream.completedBy reads n) := by
  simp [submissionsBefore, List.range_succ]

theorem connection_succ (h : n < reads.length) :
    connection reads env attachment c (n + 1) =
      (connection reads env attachment c n).receive env attachment (reads.get ⟨n, h⟩) := by
  rw [connection, Framing.take_succ h, List.foldl_append]
  rfl

/-- After the reads of the whole stream all packets are complete. -/
theorem Cut.after_length (hcut : stream.Cut reads capacity) :
    (stream.after reads reads.length).complete = stream.frames :=
  Framing.after_length hcut.bytes

/-- What a read does to a connection that is in step. -/
theorem InStep.receive (h : stream.InStep reads env attachment c n) (hcapacity : capacity < 2 ^ 31)
    (hcut : stream.Cut reads capacity) (hn : n < reads.length) :
    (stream.ReadGoesThrough reads env c n → stream.InStep reads env attachment c (n + 1)) ∧
      (¬ stream.ReadGoesThrough reads env c n →
        (dataContexts attachment (stream.completedBy reads n) ≠ [] →
          (connection reads env attachment c (n + 1)).submitted.flatten ≠ c.submitted.flatten ++
            dataContexts attachment (stream.after reads (n + 1)).complete) ∧
        (dataContexts attachment (stream.completedBy reads n) = [] →
          (connection reads env attachment c (n + 1)).submitted.flatten = c.submitted.flatten ++
              dataContexts attachment (stream.after reads (n + 1)).complete ∧
            (connection reads env attachment c (n + 1)).posted = none)) := by
  have hitems : (stream.after reads n).complete ++ (stream.after reads n).pending = stream.frames :=
    Framing.complete_append_pending Frame.bytes stream.frames (reads.take n).flatten.length
  obtain ⟨hnext, hleft⟩ := Framing.next_piece hcut.bytes hn
  have hcompleted := Framing.completedBy_eq Frame.bytes stream.frames hn
  have hafter := Framing.after_succ Frame.bytes stream.frames hn
  have hframes : ∀ f ∈ (stream.after reads n).pending, f.bytes.length < 2 ^ 31 := by
    intro f hf
    have hmem : f ∈ stream.frames := by
      rw [← hitems]
      exact List.mem_append_right _ hf
    exact (hcut.packets f hmem).trans_lt hcapacity
  obtain ⟨hthrough, hdropped⟩ := h.opened.receive env attachment
    (hcut.nonempty _ (List.get_mem reads ⟨n, hn⟩)) hnext hleft
    ((hcut.fits n hn).trans_lt hcapacity) hframes
  rw [after, ← hcompleted, ← completedBy, ← connection_succ hn, h.allocations, h.submissions, h.submitted]
    at hthrough hdropped
  rw [complete_succ hn, dataContexts_append, ← List.append_assoc]
  refine ⟨fun hgoes => ?_, fun hnot => ⟨fun hdata heq => ?_, fun hdata => ?_⟩⟩
  · obtain ⟨hopened, hsubmitted, hallocations, hsubmissions⟩ := hthrough hgoes
    refine ⟨?_, ?_, ?_, ?_⟩
    · rw [after, hafter]
      exact hopened
    · rw [complete_succ hn, dataContexts_append, ← List.append_assoc]
      exact hsubmitted
    · rw [allocationsBefore_succ, ← Nat.add_assoc]
      exact hallocations
    · rw [submissionsBefore_succ, ← Nat.add_assoc]
      exact hsubmissions
  · -- too few contexts were submitted
    have hless := (hdropped hnot).1 hdata
    rw [heq, List.length_append] at hless
    exact absurd hless (lt_irrefl _)
  · obtain ⟨hsubmitted, hposted⟩ := (hdropped hnot).2 hdata
    rw [hdata, List.append_nil]
    exact ⟨hsubmitted, hposted⟩

/-- Before the first read. -/
theorem after_zero : stream.after reads 0 = ⟨[], stream.frames, 0⟩ := by
  apply Framing.split_eq
  · rfl
  · simp
  · cases hframes : stream.frames with
    | nil =>
        rfl
    | cons f frames =>
        have hpositive : 0 < f.bytes.length := by
          rw [Frame.length_bytes]
          simp [packetLengthSize]
        simp [Framing.split, Nat.not_le.2 hpositive]

/-- Up to the first read that does not go through the connection is in step. -/
theorem inStep_of_goesThrough (hopened : Opened c []) (hcapacity : capacity < 2 ^ 31)
    (hcut : stream.Cut reads capacity) (hn : n ≤ reads.length)
    (hgoes : ∀ m < n, stream.ReadGoesThrough reads env c m) :
    stream.InStep reads env attachment c n := by
  induction n with
  | zero =>
      refine ⟨?_, ?_, rfl, rfl⟩
      · rw [after_zero]
        exact hopened
      · rw [after_zero]
        exact (List.append_nil _).symm
  | succ n ih =>
      have hstep := ih (by omega) fun m hm => hgoes m (by omega)
      exact (hstep.receive hcapacity hcut hn).1 (hgoes n (Nat.lt_succ_self n))

/-- A connection without a posted buffer stays as it is. -/
theorem connection_of_ended {m : Nat} (hended : (connection reads env attachment c m).posted = none)
    (hmn : m ≤ n) (hn : n ≤ reads.length) :
    connection reads env attachment c n = connection reads env attachment c m := by
  induction n, hmn using Nat.le_induction with
  | base =>
      rfl
  | succ n hmn ih =>
      have hsame := ih (by omega)
      rw [connection_succ hn, hsame]
      exact receive_of_ended hended _

variable (attachment) in
theorem dataContexts_ne_nil {frames : List Frame} :
    dataContexts attachment frames ≠ [] ↔ ∃ f ∈ frames, f.isData = true := by
  rw [ne_eq, dataContexts_eq_nil_iff]
  simp

/-- The connection has ended, and what was completed so far has been submitted. -/
structure Ended (stream : ClosingStream) (reads : List (List UInt8)) (env : Surroundings)
    (attachment : Nat) (c : Connection) (n : Nat) : Prop where
  posted : (connection reads env attachment c n).posted = none
  submitted : (connection reads env attachment c n).submitted.flatten =
    c.submitted.flatten ++ dataContexts attachment (stream.after reads n).complete
  stopped : ∃ m < n, ¬ stream.ReadGoesThrough reads env c m

/-- If reads go to their end up to the last one that completes a data packet, the connection is in step,
or it has ended with no data packet to come. -/
theorem inStep_or_ended (hopened : Opened c []) (hcapacity : capacity < 2 ^ 31)
    (hcut : stream.Cut reads capacity)
    (hgoes : ∀ n < reads.length, (∃ f ∈ stream.completedBy reads n, f.isData = true) →
      ∀ m ≤ n, stream.ReadGoesThrough reads env c m) (hn : n ≤ reads.length) :
    stream.InStep reads env attachment c n ∨ Ended stream reads env attachment c n := by
  induction n with
  | zero =>
      exact .inl (inStep_of_goesThrough hopened hcapacity hcut hn (by simp))
  | succ n ih =>
      have hnone : (∃ m ≤ n, ¬ stream.ReadGoesThrough reads env c m) →
          dataContexts attachment (stream.completedBy reads n) = [] := by
        rintro ⟨m, hm, hnot⟩
        by_contra hdata
        exact hnot (hgoes n hn ((dataContexts_ne_nil attachment).1 hdata) m hm)
      rcases ih (by omega) with hstep | hended
      · by_cases hthrough : stream.ReadGoesThrough reads env c n
        · exact .inl ((hstep.receive hcapacity hcut hn).1 hthrough)
        · -- the read ends the connection
          obtain ⟨hsubmitted, hposted⟩ := ((hstep.receive hcapacity hcut hn).2 hthrough).2
            (hnone ⟨n, le_rfl, hthrough⟩)
          exact .inr ⟨hposted, hsubmitted, n, Nat.lt_succ_self n, hthrough⟩
      · obtain ⟨m, hm, hnot⟩ := hended.stopped
        have hsame := connection_of_ended hended.posted (Nat.le_succ n) hn
        refine .inr ⟨by rw [hsame]; exact hended.posted, ?_, m, by omega, hnot⟩
        rw [hsame, hended.submitted, complete_succ hn, dataContexts_append,
          hnone ⟨m, hm.le, hnot⟩, List.append_nil]

/-- In the states after each read, the last of which has the whole stream, what was submitted are the
data packets that are complete, each once and in order, if and only if the reads go to their end up to
the last one that completes a data packet. -/
theorem delivered_iff (env : Surroundings) (attachment : Nat) (hopened : Opened c [])
    (hcapacity : capacity < 2 ^ 31) (hcut : stream.Cut reads capacity) :
    (stream.after reads reads.length).complete = stream.frames ∧
      ((∀ n ≤ reads.length, (connection reads env attachment c n).submitted.flatten =
          c.submitted.flatten ++ dataContexts attachment (stream.after reads n).complete) ↔
        ∀ n < reads.length, (∃ f ∈ stream.completedBy reads n, f.isData = true) →
          ∀ m ≤ n, stream.ReadGoesThrough reads env c m) := by
  refine ⟨hcut.after_length, ?_, ?_⟩
  · intro hdelivered n hn hdata m
    rw [← dataContexts_ne_nil attachment] at hdata
    -- the first read that does not go through ends the connection, or leaves contexts out
    induction m using Nat.strong_induction_on with
    | _ m ih =>
        intro hmn
        by_contra hnot
        have hm : m < reads.length := by omega
        have hstep : stream.InStep reads env attachment c m :=
          inStep_of_goesThrough hopened hcapacity hcut hm.le fun k hk => ih k hk (by omega)
        obtain ⟨hfew, hended⟩ := (hstep.receive hcapacity hcut hm).2 hnot
        by_cases hnone : dataContexts attachment (stream.completedBy reads m) = []
        · have hlt : m ≠ n := by
            rintro rfl
            exact hdata hnone
          have hsame := connection_of_ended (hended hnone).2 (n := n) (by omega) hn.le
          have hsame' := connection_of_ended (hended hnone).2 (n := n + 1) (by omega) hn
          have hbefore := hdelivered n hn.le
          have hafter := hdelivered (n + 1) hn
          rw [hsame', ← hsame, hbefore, complete_succ hn, dataContexts_append,
            ← List.append_assoc, List.self_eq_append_right] at hafter
          exact hdata hafter
        · exact hfew hnone (hdelivered (m + 1) hm)
  · intro hgoes n hn
    rcases inStep_or_ended hopened hcapacity hcut hgoes hn with hstep | hended
    · exact hstep.submitted
    · exact hended.submitted

end Reads

/-! ### A data packet and a close request -/

open PacketStream (generous generous_generous byteFrame startSkill)

def skillAndClose : ClosingStream where
  before := [startSkill]
  close := byteFrame 6 (by decide)
  closes := rfl

/-- A connection with an open session, between two packets. -/
def openConnection : Connection where
  session := true
  allocations := 0
  submissions := 0
  sessionPackets := 0
  posted := some ⟨[], 0, 0⟩
  submitted := []

theorem opened_openConnection : Opened openConnection [] :=
  ⟨rfl, _, rfl, rfl, rfl, ⟨[], rfl⟩, by decide⟩

/-- A read for each packet. -/
def apart : List (List UInt8) := [startSkill.bytes, (byteFrame 6 (by decide)).bytes]

/-- Both packets in one read. -/
def together : List (List UInt8) := [startSkill.bytes ++ (byteFrame 6 (by decide)).bytes]

theorem cut_apart : skillAndClose.Cut apart 65536 := by
  refine ⟨by decide, by decide, ?_, by decide⟩
  intro n hn
  have hcases : n = 0 ∨ n = 1 := by
    simp only [apart, List.length_cons, List.length_nil] at hn
    omega
  have hfirst : (skillAndClose.after apart 0).left + (apart.get ⟨0, by decide⟩).length ≤ 65536 := by
    decide
  have hsecond : (skillAndClose.after apart 1).left + (apart.get ⟨1, by decide⟩).length ≤ 65536 := by
    decide
  rcases hcases with rfl | rfl
  · exact hfirst
  · exact hsecond

theorem cut_together : skillAndClose.Cut together 65536 := by
  refine ⟨by decide, by decide, ?_, by decide⟩
  intro n hn
  have hfirst : (skillAndClose.after together 0).left +
      (together.get ⟨0, by decide⟩).length ≤ 65536 := by
    decide
  obtain rfl : n = 0 := by simpa [together] using hn
  exact hfirst

theorem delivered_apart :
    skillAndClose.Cut apart 65536 ∧
      (connection apart generous 7 openConnection 2).submitted.flatten =
        dataContexts 7 skillAndClose.frames := by
  obtain ⟨hall, hiff⟩ := delivered_iff generous 7 opened_openConnection (by decide) cut_apart
  refine ⟨cut_apart, ?_⟩
  rw [← hall]
  refine hiff.2 ?_ 2 le_rfl
  intro n hn hdata m hm
  -- only the first read completes a data packet
  have hfirst : skillAndClose.completedBy apart 0 = [startSkill] := rfl
  have hsecond : skillAndClose.completedBy apart 1 = [skillAndClose.close] := rfl
  have hzero : n = 0 := by
    by_contra hpositive
    simp only [apart, List.length_cons, List.length_nil] at hn
    obtain rfl : n = 1 := by omega
    obtain ⟨f, hf, hdata⟩ := hdata
    rw [hsecond, List.mem_singleton] at hf
    subst hf
    exact absurd hdata (by decide)
  obtain rfl : m = 0 := by omega
  rw [ReadGoesThrough, hfirst]
  refine ⟨by decide, ?_, fun _ _ => rfl, fun _ _ => rfl⟩
  rintro ⟨before, f, heq, _, _, hpositive, _⟩
  cases before with
  | nil =>
      exact hpositive rfl
  | cons g before =>
      simp at heq

/-- When the close request comes in the same read, the data packet is not submitted. -/
theorem data_before_close_dropped :
    ¬ ∀ (env : Surroundings) (attachment capacity : Nat) (stream : ClosingStream)
        (reads : List (List UInt8)) (c : Connection), env.Generous → Opened c [] →
        capacity < 2 ^ 31 → stream.Cut reads capacity →
        (connection reads env attachment c reads.length).submitted.flatten =
          c.submitted.flatten ++ dataContexts attachment stream.frames := by
  intro h
  have hall := h generous 7 65536 skillAndClose together openConnection generous_generous
    opened_openConnection (by decide) cut_together
  revert hall
  decide +kernel

end ClosingStream

end NetworkEngine
end Engine
end SeamlessServer
