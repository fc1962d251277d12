import SeamlessServer.Network.Acceptor

/-!
# Network.AcceptSlots — the accept slots of the acceptor thread

`Start` arms `parallel_acceptor_count` accepts.  From then on every one of these slots is an armed
accept, is counted by `hang_acceptor_count`, or belongs to the accept that the thread has in its
hands.  The slot of a stranded accept is lost, and with the last slot the thread goes idle.
-/

namespace SeamlessServer
namespace Network
namespace Acceptor

variable {s : Acceptor}

/-! ## Accept slots -/

/-- The accepts that were armed, and that nobody has dequeued or will dequeue. -/
def armed (s : Acceptor) : Nat := s.pending.length + s.stranded.length

theorem acceptSocket_slots {r : AcceptEx} (hr : r.Documented) :
    (s.acceptSocket r).1.armed = s.armed + (if (s.acceptSocket r).2 = true then 1 else 0) ∧
      (s.acceptSocket r).1.hangAcceptorCount = s.hangAcceptorCount := by
  rcases acceptSocket_cases (s := s) hr with ⟨-, heq⟩ | ⟨t, pool, -, heq⟩
  · rw [heq]
    exact ⟨rfl, rfl⟩
  · rw [heq]
    refine ⟨?_, rfl⟩
    unfold armed arm
    by_cases hqueued : r.Queued
    · simp only [if_pos hqueued, if_true, List.length_cons]
      omega
    · simp only [if_neg hqueued, if_true, List.length_cons]
      omega

/-- Every accept slot is armed, hanging, or owed by the thread. -/
structure Slots (config : SocketServerConfig) (s : Acceptor) : Prop where
  total : ∀ owed, s.phase.owed = some owed →
    s.armed + s.hangAcceptorCount + owed = config.parallelAcceptorCount
  retrying : ∀ outcome, s.phase = .retrying outcome → 0 < s.hangAcceptorCount

theorem owed_retryHead (outcome : Completion) :
    (s.retryHead outcome).phase.owed = some outcome.streams.length := by
  unfold retryHead
  split <;> rfl

namespace Slots

variable {config : SocketServerConfig} {s' : Acceptor}

theorem new : Slots config (new config) where
  total := by
    intro owed howed
    cases howed
    exact Nat.zero_add _
  retrying := fun _ h => (by cases h)

/-- The loop over `hang_acceptor_count` is entered only while accepts hang. -/
theorem retryHead {outcome : Completion}
    (h : s.armed + s.hangAcceptorCount + outcome.streams.length = config.parallelAcceptorCount) :
    (s.retryHead outcome).Slots config := by
  constructor
  case total =>
    intro owed howed
    rw [owed_retryHead] at howed
    cases howed
    exact h
  case retrying =>
    intro outcome' hphase
    unfold Acceptor.retryHead at hphase ⊢
    by_cases hpos : 0 < s.hangAcceptorCount
    · exact hpos
    · simp [hpos] at hphase

/-- A phase that is no retry, with the slots it owes. -/
theorem of_owed (owed : Nat) (howed : s.phase.owed = some owed)
    (hretrying : ∀ outcome, s.phase ≠ .retrying outcome)
    (htotal : s.armed + s.hangAcceptorCount + owed = config.parallelAcceptorCount) :
    s.Slots config where
  total := by
    intro owed' howed'
    rw [howed] at howed'
    cases howed'
    exact htotal
  retrying := fun outcome h => absurd h (hretrying outcome)

/-- The thread has ended. -/
theorem of_ended (h : s.phase.owed = none) : s.Slots config where
  total := by
    intro owed howed
    rw [h] at howed
    cases howed
  retrying := by
    intro outcome hphase
    rw [hphase] at h
    cases h

theorem startRound (h : s.Slots config) {left : Nat} {r : AcceptEx}
    (hphase : s.phase = .starting (left + 1)) (hr : r.Documented) :
    (s.startRound left r).Slots config := by
  have htotal := h.total (left + 1) (by rw [hphase]; rfl)
  obtain ⟨harmed, hhang⟩ := acceptSocket_slots (s := s) hr
  by_cases haccepted : (s.acceptSocket r).2 = true
  · rw [if_pos haccepted] at harmed
    have hphase' : (s.startRound left r).phase = .starting left := if_pos haccepted
    refine of_owed left (by rw [hphase']; rfl) (fun outcome => ?_) ?_
    · rw [hphase']
      exact fun h => (by cases h)
    · change (s.acceptSocket r).1.armed + (s.acceptSocket r).1.hangAcceptorCount + left = _
      omega
  · have hphase' : (s.startRound left r).phase = .stopped := if_neg haccepted
    exact of_ended (by rw [hphase']; rfl)

theorem dequeue (h : s.Slots config) {t : StreamId} {outcome : Completion} (lastError : Nat)
    (hphase : s.phase = .head) (ht : t ∈ s.pending) (houtcome : outcome.streams = [t]) :
    ({ s with pending := s.pending.erase t, lastError }.retryHead outcome).Slots config := by
  have htotal := h.total 0 (by rw [hphase]; rfl)
  have hlength := List.length_erase_of_mem ht
  have hpos := List.length_pos_of_mem ht
  refine retryHead ?_
  rw [houtcome]
  unfold armed at htotal ⊢
  simp only [List.length_cons, List.length_nil]
  omega

theorem retryRound (h : s.Slots config) {outcome : Completion} {r : AcceptEx}
    (hphase : s.phase = .retrying outcome) (hr : r.Documented) :
    (s.retryRound outcome r).Slots config := by
  have htotal := h.total outcome.streams.length (by rw [hphase]; rfl)
  have hpos := h.retrying outcome hphase
  obtain ⟨harmed, hhang⟩ := acceptSocket_slots (s := s) hr
  rw [retryRound_eq]
  by_cases haccepted : (s.acceptSocket r).2 = true
  · -- a hanging accept has become an armed one
    rw [if_pos haccepted] at harmed ⊢
    refine retryHead ?_
    change (s.acceptSocket r).1.armed + ((s.acceptSocket r).1.hangAcceptorCount - 1) + _ = _
    omega
  · rw [if_neg haccepted] at harmed ⊢
    refine of_owed outcome.streams.length rfl (fun _ h => (by cases h)) ?_
    change (s.acceptSocket r).1.armed + (s.acceptSocket r).1.hangAcceptorCount + _ = _
    omega

theorem check (h : s.Slots config) {outcome : Completion} (hphase : s.phase = .checking outcome) :
    (s.check outcome).Slots config := by
  have htotal := h.total outcome.streams.length (by rw [hphase]; rfl)
  cases outcome with
  | accepted t =>
      exact of_owed 1 rfl (fun _ h => (by cases h)) htotal
  | failed t =>
      by_cases herror : s.lastError ∈ toleratedErrors
      · -- a stranded accept still counts as armed
        have heq : s.check (.failed t) =
            { s with stranded := t :: s.stranded, phase := .head } := if_pos herror
        rw [heq]
        refine of_owed 0 rfl (fun _ h => (by cases h)) ?_
        unfold armed at htotal ⊢
        simp only [Completion.streams, List.length_cons, List.length_nil] at htotal ⊢
        omega
      · have heq : s.check (.failed t) = { s with phase := .handling t } := if_neg herror
        rw [heq]
        exact of_owed 1 rfl (fun _ h => (by cases h)) htotal
  | timeout =>
      by_cases herror : s.lastError ∈ toleratedErrors
      · have heq : s.check .timeout = { s with phase := .head } := if_pos herror
        rw [heq]
        exact of_owed 0 rfl (fun _ h => (by cases h)) htotal
      · have heq : s.check .timeout = { s with phase := .crashed } := if_neg herror
        rw [heq]
        exact of_ended rfl

theorem rearm (h : s.Slots config) {r : AcceptEx} (hphase : s.phase = .rearming)
    (hr : r.Documented) : (s.rearm r).Slots config := by
  have htotal := h.total 1 (by rw [hphase]; rfl)
  obtain ⟨harmed, hhang⟩ := acceptSocket_slots (s := s) hr
  refine of_owed 0 rfl (fun _ h => (by cases h)) ?_
  change (s.acceptSocket r).1.armed + (if (s.acceptSocket r).2 = true then
    (s.acceptSocket r).1.hangAcceptorCount else (s.acceptSocket r).1.hangAcceptorCount + 1) + 0 = _
  -- the accept that was handled is armed again, or hangs
  split at harmed
  next haccepted =>
    rw [if_pos haccepted]
    omega
  next haccepted =>
    rw [if_neg haccepted]
    omega

/-- An io worker or a holder of a stream changes nothing that counts. -/
theorem congr (h : s.Slots config) (hphase : s'.phase = s.phase)
    (hpending : s'.pending = s.pending) (hstranded : s'.stranded = s.stranded)
    (hhang : s'.hangAcceptorCount = s.hangAcceptorCount) : s'.Slots config := by
  constructor
  case total =>
    unfold armed
    rw [hphase, hpending, hstranded, hhang]
    exact h.total
  case retrying =>
    rw [hphase, hhang]
    exact h.retrying

/-- Every step keeps the number of slots. -/
theorem step (h : s.Slots config) {e : AcceptorEvent} (hstep : s.Step e s') :
    s'.Slots config := by
  cases hstep with
  | startAccept hphase hr =>
      exact h.startRound hphase hr
  | started hphase =>
      exact of_owed 0 rfl (fun _ h => (by cases h)) (h.total 0 (by rw [hphase]; rfl))
  | timeout hphase =>
      exact retryHead (h.total 0 (by rw [hphase]; rfl))
  | completed hphase ht =>
      exact h.dequeue s.lastError hphase ht rfl
  | failed hphase ht _ =>
      exact h.dequeue _ hphase ht rfl
  | retry hphase hr =>
      exact h.retryRound hphase hr
  | check hphase =>
      exact h.check hphase
  | ioAccept hphase =>
      exact of_owed 1 rfl (fun _ h => (by cases h)) (h.total 1 (by rw [hphase]; rfl))
  | rearm hphase hr =>
      exact h.rearm hphase hr
  | onAccept | retain | release | disconnect =>
      exact h.congr rfl rfl rfl rfl

end Slots

theorem slots_of_reachable {config : SocketServerConfig} {s : Acceptor}
    (h : (machine config).Reachable s) : s.Slots config :=
  h.invariant (fun _ hinit => hinit ▸ Slots.new) fun _ _ _ hs hstep => hs.step hstep

/-- The slots at the head of the loop: those of stranded accepts are lost. -/
theorem slots_at_head {config : SocketServerConfig} {s : Acceptor}
    (h : (machine config).Reachable s) (hhead : s.phase = .head) :
    s.pending.length + s.hangAcceptorCount + s.stranded.length = config.parallelAcceptorCount := by
  have htotal := (slots_of_reachable h).total 0 (by rw [hhead]; rfl)
  unfold armed at htotal
  omega

/-- A thread that has lost its last slot. -/
structure Idle (s : Acceptor) : Prop where
  pending : s.pending = []
  hanging : s.hangAcceptorCount = 0
  phase : s.phase = .head ∨ s.phase = .checking .timeout ∨ s.phase = .crashed

/-- The acceptor thread goes on with timeouts for good. -/
theorem Idle.step {e : AcceptorEvent} {s' : Acceptor} (h : s.Idle) (hstep : s.Step e s') :
    s'.Idle := by
  obtain ⟨hpending, hhanging, hphase⟩ := h
  cases hstep with
  | startAccept hat | started hat | retry hat | ioAccept hat | rearm hat =>
      -- none of these is where the thread is
      rw [hat] at hphase
      rcases hphase with h | h | h <;> cases h
  | timeout =>
      refine ⟨hpending, hhanging, .inr (.inl ?_)⟩
      simp [retryHead, hhanging]
  | completed _ ht | failed _ ht =>
      rw [hpending] at ht
      cases ht
  | @check outcome hat =>
      rw [hat] at hphase
      rcases hphase with h | h | h
      · cases h
      · cases h
        by_cases herror : s.lastError ∈ toleratedErrors
        · have heq : s.check .timeout = { s with phase := .head } := if_pos herror
          rw [heq]
          exact ⟨hpending, hhanging, .inl rfl⟩
        · have heq : s.check .timeout = { s with phase := .crashed } := if_neg herror
          rw [heq]
          exact ⟨hpending, hhanging, .inr (.inr rfl)⟩
      · cases h
  | onAccept | retain | release | disconnect =>
      exact ⟨hpending, hhanging, hphase⟩

theorem Idle.run {config : SocketServerConfig} {s s' : Acceptor} {es : List AcceptorEvent}
    (hrun : (machine config).Run s es s') (h : s.Idle) : s'.Idle :=
  hrun.invariant (fun _ _ _ _ hs hstep => Idle.step hs hstep) h

/-- A thread at the head of the loop is idle if all its slots were stranded. -/
theorem Idle.of_stranded {config : SocketServerConfig} {s : Acceptor}
    (h : (machine config).Reachable s) (hhead : s.phase = .head)
    (hstranded : s.stranded.length = config.parallelAcceptorCount) : s.Idle := by
  have htotal := slots_at_head h hhead
  exact ⟨List.length_eq_zero_iff.1 (by omega), by omega, .inl hhead⟩

/-! ## Accept slots are conserved -/

/-- At the head of the loop every slot is a pending or a hanging accept if and only if the steps of
the run were conserving. -/
theorem accept_slots_iff {config : SocketServerConfig} {s : Acceptor} {es : List AcceptorEvent}
    (h : (machine config).Run (new config) es s) (hhead : s.phase = .head) :
    s.pending.length + s.hangAcceptorCount = config.parallelAcceptorCount ↔
      ((machine config).restrict Conserving).Run (new config) es s := by
  rw [conserving_iff h rfl, ← List.length_eq_zero_iff]
  have htotal := slots_at_head (h.reachable (.init rfl)) hhead
  omega

/-- One slot and one stream: after a connection the slot hangs until the stream is free again. -/
theorem accept_slots_iff_hanging :
    ∃ s, s.phase = .head ∧ s.pending = [] ∧ s.hangAcceptorCount = 1 ∧
      ((machine ⟨1, 1⟩).restrict Conserving).Run (new ⟨1, 1⟩)
        [.startAccept ⟨1, 0⟩, .started, .completed 1, .check, .ioAccept, .rearm ⟨1, 0⟩] s := by
  have hrun : ∃ s, s.phase = .head ∧ s.pending = [] ∧ s.hangAcceptorCount = 1 ∧
      (machine ⟨1, 1⟩).Run (new ⟨1, 1⟩)
        [.startAccept ⟨1, 0⟩, .started, .completed 1, .check, .ioAccept, .rearm ⟨1, 0⟩] s := by
    refine ⟨_, ?_, ?_, ?_, .cons (.startAccept rfl (by decide)) <| .cons (.started rfl) <|
      .cons (.completed rfl (by decide)) <| .cons (.check rfl) <| .cons (.ioAccept rfl) <|
      .cons (.rearm rfl (by decide)) (.nil _)⟩ <;> rfl
  obtain ⟨s, hhead, hpending, hhanging, hrun⟩ := hrun
  refine ⟨s, hhead, hpending, hhanging, (accept_slots_iff hrun hhead).1 ?_⟩
  rw [hpending, hhanging]
  rfl

/-- An accept that fails with `ERROR_NETNAME_DELETED` takes the only slot with it. -/
theorem accept_slot_lost :
    ¬ ∀ config s, (machine config).Reachable s → s.phase = .head →
      s.pending.length + s.hangAcceptorCount = config.parallelAcceptorCount := by
  intro h
  have hreachable : ∃ s, s.phase = .head ∧ s.pending = [] ∧ s.hangAcceptorCount = 0 ∧
      (machine ⟨1, 1⟩).Reachable s := by
    refine ⟨_, ?_, ?_, ?_, .step (.step (.step (.step (.init rfl)
      (.startAccept (r := ⟨1, 0⟩) rfl (by decide))) (.started rfl))
      (.failed (t := 1) rfl (by decide) (by decide : 64 ∈ toleratedErrors))) (.check rfl)⟩ <;> rfl
  obtain ⟨s, hhead, hpending, hhanging, hreachable⟩ := hreachable
  have htotal := h ⟨1, 1⟩ s hreachable hhead
  rw [hpending, hhanging] at htotal
  cases htotal

end Acceptor
end Network
end SeamlessServer
