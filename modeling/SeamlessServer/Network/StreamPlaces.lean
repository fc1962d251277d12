import Mathlib.Data.List.Nodup
import SeamlessServer.Network.Acceptor

/-!
# Network.StreamPlaces — every acceptor stream is in one place

The reference count of a stream is the number of accepts that keep it plus the number of references
that its connection has left, and an accept has its stream for itself.  So a stream is free,
attached to an accept, connected, or stranded, and the last of these is what a run must not do.
-/

namespace SeamlessServer
namespace Network
namespace Acceptor

variable {s : Acceptor}

/-! ## References -/

/-- The accepts that keep the stream. -/
def waiting (s : Acceptor) (t : StreamId) : Nat :=
  s.pending.count t + s.phase.inHand.count t + s.stranded.count t

/-- The references of a stream whose accept was handled. -/
def linked (s : Acceptor) (t : StreamId) : Nat := s.posted.count t + s.connections.count t + s.held t

theorem connected_iff {t : StreamId} : s.Connected t ↔ 0 < s.linked t := by
  unfold Connected linked
  rw [← List.count_pos_iff, ← List.count_pos_iff]
  omega

/-- The reference counts are right, and an accept has its stream for itself. -/
structure Sound (members : Set StreamId) (s : Acceptor) : Prop where
  pool : s.pool.Sound members
  references : ∀ t, s.pool.references t = s.waiting t + s.linked t
  alone : ∀ t, 0 < s.waiting t → s.pool.references t = 1
  posted : ∀ t, s.posted.count t ≤ 1
  connections : ∀ t, s.connections.count t ≤ 1

namespace Sound

variable {members : Set StreamId} {s' : Acceptor} {t : StreamId}

theorem new (config : SocketServerConfig) : Sound {t | t ∈ config.streams} (new config) where
  pool := by
    have hall : config.streams.Nodup := List.nodup_range'
    have hsound := RefPool.Sound.new (List.pairwise_reverse.2 (hall.imp Ne.symm))
    simp only [List.mem_reverse] at hsound
    exact hsound
  references := fun t => rfl
  alone := fun t ht => absurd ht (by simp [waiting, Acceptor.new, Phase.inHand])
  posted := fun t => Nat.zero_le _
  connections := fun t => Nat.zero_le _

/-- An accept is moved on. -/
theorem congr (h : s.Sound members) (hpool : s'.pool = s.pool)
    (hwaiting : ∀ t, s'.waiting t = s.waiting t) (hposted : s'.posted = s.posted)
    (hconnections : s'.connections = s.connections) (hheld : s'.held = s.held) :
    s'.Sound members := by
  have hlinked : ∀ t, s'.linked t = s.linked t := by
    intro t
    unfold linked
    rw [hposted, hconnections, hheld]
  constructor
  case pool =>
    rw [hpool]
    exact h.pool
  case references =>
    intro t
    rw [hpool, hwaiting t, hlinked t]
    exact h.references t
  case alone =>
    intro t ht
    rw [hpool]
    exact h.alone t (hwaiting t ▸ ht)
  case posted =>
    rw [hposted]
    exact h.posted
  case connections =>
    rw [hconnections]
    exact h.connections

theorem linked_of_waiting (h : s.Sound members) (ht : 0 < s.waiting t) :
    s.waiting t = 1 ∧ s.linked t = 0 := by
  have hone := h.alone t ht
  rw [h.references t] at hone
  omega

/-- A free stream has neither an accept nor a connection. -/
theorem of_free (h : s.Sound members) (ht : t ∈ s.pool.free) :
    s.waiting t = 0 ∧ s.linked t = 0 := by
  have hzero := h.pool.references_of_free ht
  rw [h.references t] at hzero
  omega

theorem references_pos (h : s.Sound members) (ht : 0 < s.linked t) :
    0 < s.pool.references t := by
  rw [h.references t]
  omega

/-- A stream is popped for an accept. -/
theorem arm (h : s.Sound members) {pool : RefPool StreamId} {r : AcceptEx}
    (hpop : s.pool.pop = some (t, pool)) : (s.arm t pool r).Sound members := by
  obtain ⟨hfree, hreferences⟩ := RefPool.pop_eq_some.1 hpop
  obtain ⟨hwaiting, hlinked⟩ := h.of_free (hfree ▸ List.mem_cons_self : t ∈ s.pool.free)
  have hadd : ∀ j, (s.arm t pool r).waiting j = s.waiting j + if j = t then 1 else 0 := by
    intro j
    unfold waiting Acceptor.arm
    by_cases hqueued : r.Queued
    · simp only [if_pos hqueued, List.count_cons, beq_iff_eq, @eq_comm _ t j]
      omega
    · simp only [if_neg hqueued, List.count_cons, beq_iff_eq, @eq_comm _ t j]
      omega
  constructor
  case pool =>
    exact h.pool.pop_retain hpop
  case references =>
    intro j
    rw [hadd j]
    change (pool.retain t).references j = _ + s.linked j
    rw [RefPool.references_retain, hreferences, h.references j]
    omega
  case alone =>
    -- the stream was free, so the accept has the first reference to it
    intro j hj
    rw [hadd j] at hj
    change (pool.retain t).references j = 1
    rw [RefPool.references_retain, hreferences]
    by_cases heq : j = t
    · rw [heq, if_pos rfl, h.references t, hwaiting, hlinked]
    · rw [if_neg heq] at hj ⊢
      exact h.alone j hj
  case posted =>
    exact h.posted
  case connections =>
    exact h.connections

theorem acceptSocket (h : s.Sound members) {r : AcceptEx} (hr : r.Documented) :
    (s.acceptSocket r).1.Sound members := by
  rcases acceptSocket_cases (s := s) hr with ⟨-, heq⟩ | ⟨t, pool, hpop, heq⟩
  · rw [heq]
    exact h
  · rw [heq]
    exact h.arm hpop

/-- `IoAccept` turns an accept into a connection. -/
theorem ioAccept (h : s.Sound members) (hphase : s.phase = .handling t) :
    (s.ioAccept t).Sound members := by
  have hwaits : 0 < s.waiting t := by
    unfold waiting
    rw [hphase]
    simp only [Phase.inHand, List.count_cons_self]
    omega
  obtain ⟨hone, hlinked⟩ := h.linked_of_waiting hwaits
  have hposted : s.posted.count t = 0 := by
    unfold linked at hlinked
    omega
  have hconnections : s.connections.count t = 0 := by
    unfold linked at hlinked
    omega
  have hwaiting : ∀ j, s.waiting j = (s.ioAccept t).waiting j + if j = t then 1 else 0 := by
    intro j
    unfold waiting
    rw [hphase]
    simp only [Acceptor.ioAccept, Phase.inHand, List.count_cons, List.count_nil, beq_iff_eq,
      @eq_comm _ t j]
    omega
  have hadd : ∀ j, (s.ioAccept t).linked j = s.linked j + if j = t then 2 else 0 := by
    intro j
    unfold linked
    simp only [Acceptor.ioAccept, List.count_cons, beq_iff_eq, @eq_comm _ t j]
    split <;> omega
  -- one reference moves from the accept to the posted context, and the connection has a new one
  constructor
  case pool =>
    exact h.pool.retain (h.alone t hwaits ▸ Nat.one_pos)
  case references =>
    intro j
    rw [hadd j]
    change (s.pool.retain t).references j = _
    rw [RefPool.references_retain, h.references j, hwaiting j]
    split <;> omega
  case alone =>
    intro j hj
    change (s.pool.retain t).references j = 1
    rw [RefPool.references_retain]
    by_cases heq : j = t
    · -- its accept is not waiting any more
      have hgone := hwaiting t
      rw [if_pos rfl, hone] at hgone
      rw [heq] at hj
      omega
    · have hsame := hwaiting j
      rw [if_neg heq] at hsame ⊢
      exact h.alone j (by omega)
  case posted =>
    intro j
    have hj := h.posted j
    simp only [Acceptor.ioAccept, List.count_cons, beq_iff_eq]
    split
    next heq =>
      rw [← heq, hposted]
    next =>
      exact hj
  case connections =>
    intro j
    have hj := h.connections j
    simp only [Acceptor.ioAccept, List.count_cons, beq_iff_eq]
    split
    next heq =>
      rw [← heq, hconnections]
    next =>
      exact hj

/-- A holder of the stream gives up its reference. -/
theorem unlink (h : s.Sound members) (ht : 0 < s.linked t)
    (hpool : s'.pool = s.pool.release t) (hwaiting : ∀ j, s'.waiting j = s.waiting j)
    (hlinked : ∀ j, s.linked j = s'.linked j + if j = t then 1 else 0)
    (hposted : ∀ j, s'.posted.count j ≤ s.posted.count j)
    (hconnections : ∀ j, s'.connections.count j ≤ s.connections.count j) :
    s'.Sound members := by
  constructor
  case pool =>
    rw [hpool]
    exact h.pool.release (h.references_pos ht)
  case references =>
    intro j
    rw [hpool, RefPool.references_release, h.references j, hwaiting j, hlinked j]
    omega
  case alone =>
    -- an accept whose stream is linked is not waiting
    intro j hj
    rw [hwaiting j] at hj
    have hne : j ≠ t := by
      rintro rfl
      have hnone := (h.linked_of_waiting hj).2
      omega
    rw [hpool, RefPool.references_release, if_neg hne]
    exact h.alone j hj
  case posted =>
    exact fun j => (hposted j).trans (h.posted j)
  case connections =>
    exact fun j => (hconnections j).trans (h.connections j)

theorem onAccept (h : s.Sound members) (ht : t ∈ s.posted) : (s.onAccept t).Sound members := by
  refine h.unlink (connected_iff.1 (.inl ht)) rfl (fun _ => rfl) (fun j => ?_)
    (fun j => (List.erase_sublist).count_le j) (fun _ => le_rfl)
  have hpos := List.count_pos_iff.2 ht
  unfold linked
  simp only [Acceptor.onAccept, List.count_erase, beq_iff_eq, @eq_comm _ t j]
  split
  next heq =>
    rw [heq]
    omega
  next =>
    omega

theorem disconnect (h : s.Sound members) (ht : t ∈ s.connections) :
    (s.disconnect t).Sound members := by
  refine h.unlink (connected_iff.1 (.inr (.inl ht))) rfl (fun _ => rfl) (fun j => ?_)
    (fun _ => le_rfl) (fun j => (List.erase_sublist).count_le j)
  have hpos := List.count_pos_iff.2 ht
  unfold linked
  simp only [Acceptor.disconnect, List.count_erase, beq_iff_eq, @eq_comm _ t j]
  split
  next heq =>
    rw [heq]
    omega
  next =>
    omega

theorem release (h : s.Sound members) (ht : 0 < s.held t) : (s.release t).Sound members := by
  refine h.unlink (connected_iff.1 (.inr (.inr ht))) rfl (fun _ => rfl) (fun j => ?_)
    (fun _ => le_rfl) (fun _ => le_rfl)
  unfold linked
  simp only [Acceptor.release, Function.update_apply]
  split
  next heq =>
    rw [heq]
    omega
  next =>
    omega

theorem retain (h : s.Sound members) (ht : s.Connected t) : (s.retain t).Sound members := by
  have hpos := connected_iff.1 ht
  constructor
  case pool =>
    exact h.pool.retain (h.references_pos hpos)
  case references =>
    intro j
    change (s.pool.retain t).references j = s.waiting j + (s.retain t).linked j
    rw [RefPool.references_retain, h.references j]
    unfold linked
    simp only [Acceptor.retain, Function.update_apply]
    split
    next heq =>
      rw [heq]
      omega
    next =>
      omega
  case alone =>
    intro j hj
    have hne : j ≠ t := by
      rintro rfl
      have hnone := (h.linked_of_waiting hj).2
      omega
    change (s.pool.retain t).references j = 1
    rw [RefPool.references_retain, if_neg hne]
    exact h.alone j hj
  case posted =>
    exact h.posted
  case connections =>
    exact h.connections

end Sound

/-- What keeps the failure branch harmless is only that it is never taken: `ReleaseReadBuffer` brings
the stream back to the pool, and `AcceptSocket` pushes it once more. -/
theorem Sound.acceptSocket_socketError {members : Set StreamId} (h : s.Sound members)
    {t : StreamId} {pool : RefPool StreamId} {r : AcceptEx} (hpop : s.pool.pop = some (t, pool))
    (hresult : r.result = socketError) (herror : r.lastError ≠ wsaIoPending) :
    (s.acceptSocket r).2 = false ∧ (s.acceptSocket r).1.pool.free.count t = 2 := by
  have hfalse : wsaOperationResult r.result r.lastError = false := by
    simp [wsaOperationResult, hresult, herror]
  have heq : s.acceptSocket r =
      ({ s with pool := ((pool.retain t).release t).push t, lastError := r.lastError }, false) := by
    unfold Acceptor.acceptSocket transmitAccept
    simp [hpop, hfalse]
  have hfree : t ∈ s.pool.free := by
    rw [(RefPool.pop_eq_some.1 hpop).1]
    exact List.mem_cons_self
  -- the context has the only reference, so that its release brings the stream back
  have hone : (pool.retain t).references t = 1 := by
    rw [RefPool.references_retain, (RefPool.pop_eq_some.1 hpop).2, h.pool.references_of_free hfree,
      if_pos rfl]
  rw [heq]
  exact ⟨rfl, (h.pool.pop_retain hpop).count_release_push hone⟩

theorem waiting_of_inHand {s' : Acceptor} (hpending : s'.pending = s.pending)
    (hstranded : s'.stranded = s.stranded) (hinHand : s'.phase.inHand = s.phase.inHand)
    (t : StreamId) : s'.waiting t = s.waiting t := by
  unfold waiting
  rw [hpending, hstranded, hinHand]

theorem inHand_retryHead (outcome : Completion) :
    (s.retryHead outcome).phase.inHand = outcome.streams := by
  unfold retryHead
  split <;> rfl

/-- A dequeued accept is in the hands of the acceptor thread. -/
theorem waiting_dequeue {t : StreamId} {outcome : Completion} (lastError : Nat)
    (hphase : s.phase = .head) (ht : t ∈ s.pending) (houtcome : outcome.streams = [t])
    (j : StreamId) :
    ({ s with pending := s.pending.erase t, lastError }.retryHead outcome).waiting j =
      s.waiting j := by
  have hpos := List.count_pos_iff.2 ht
  unfold waiting
  rw [inHand_retryHead, houtcome, hphase]
  simp only [retryHead, Phase.inHand, List.count_erase, List.count_cons, List.count_nil,
    beq_iff_eq]
  split
  next heq =>
    rw [← heq]
    omega
  next =>
    omega

theorem Sound.check {members : Set StreamId} {outcome : Completion} (h : s.Sound members)
    (hphase : s.phase = .checking outcome) : (s.check outcome).Sound members := by
  have hinHand : s.phase.inHand = outcome.streams := by
    rw [hphase]
    rfl
  rcases check_cases (s := s) outcome with ⟨phase, hphase', heq, -⟩ | ⟨t, rfl, -, heq⟩
  · rw [heq]
    exact h.congr rfl (waiting_of_inHand rfl rfl (hphase'.trans hinHand.symm)) rfl rfl rfl
  · rw [heq]
    refine h.congr rfl (fun j => ?_) rfl rfl rfl
    unfold waiting
    rw [hinHand]
    simp only [Phase.inHand, Completion.streams, List.count_cons, List.count_nil]
    omega

theorem Sound.retryRound {members : Set StreamId} {outcome : Completion} {r : AcceptEx}
    (h : s.Sound members) (hphase : s.phase = .retrying outcome) (hr : r.Documented) :
    (s.retryRound outcome r).Sound members := by
  have hinHand : (s.acceptSocket r).1.phase.inHand = outcome.streams := by
    rw [phase_acceptSocket hr, hphase]
    rfl
  rw [retryRound_eq]
  split
  next =>
    refine (h.acceptSocket hr).congr rfl (waiting_of_inHand rfl rfl ?_) rfl rfl rfl
    rw [hinHand]
    exact inHand_retryHead outcome
  next =>
    exact (h.acceptSocket hr).congr rfl (waiting_of_inHand rfl rfl hinHand.symm) rfl rfl rfl

/-- Every step keeps the reference counts. -/
theorem Sound.step {members : Set StreamId} {e : AcceptorEvent} {s' : Acceptor}
    (h : s.Sound members) (hstep : s.Step e s') : s'.Sound members := by
  cases hstep with
  | startAccept hphase hr =>
      refine (h.acceptSocket hr).congr rfl (waiting_of_inHand rfl rfl ?_) rfl rfl rfl
      rw [phase_acceptSocket hr, hphase]
      simp only [startRound]
      split <;> rfl
  | started hphase =>
      refine h.congr rfl (waiting_of_inHand rfl rfl ?_) rfl rfl rfl
      rw [hphase]
      rfl
  | timeout hphase =>
      refine h.congr rfl (waiting_of_inHand rfl rfl ?_) rfl rfl rfl
      rw [inHand_retryHead, hphase]
      rfl
  | completed hphase ht =>
      exact h.congr rfl (waiting_dequeue s.lastError hphase ht rfl) rfl rfl rfl
  | failed hphase ht _ =>
      exact h.congr rfl (waiting_dequeue _ hphase ht rfl) rfl rfl rfl
  | retry hphase hr =>
      exact h.retryRound hphase hr
  | check hphase =>
      exact h.check hphase
  | ioAccept hphase =>
      exact h.ioAccept hphase
  | rearm hphase hr =>
      refine (h.acceptSocket hr).congr rfl (waiting_of_inHand rfl rfl ?_) rfl rfl rfl
      rw [phase_acceptSocket hr, hphase]
      rfl
  | onAccept ht =>
      exact h.onAccept ht
  | retain ht =>
      exact h.retain ht
  | release ht =>
      exact h.release ht
  | disconnect ht =>
      exact h.disconnect ht

theorem sound_of_reachable {config : SocketServerConfig} {s : Acceptor}
    (h : (machine config).Reachable s) : s.Sound {t | t ∈ config.streams} :=
  h.invariant (fun _ hinit => hinit ▸ Sound.new config) fun _ _ _ hs hstep => hs.step hstep

/-! ## Every stream is in one place -/

/-- The accepts that are pending, with those that the acceptor thread has dequeued but is not done
with. -/
def accepts (s : Acceptor) : List StreamId := s.pending ++ s.phase.inHand

/-- Every stream of the pool is free once, attached to one accept, or connected, and no accepts or
connections share a stream. -/
structure OnePlace (config : SocketServerConfig) (s : Acceptor) : Prop where
  place : ∀ t ∈ config.streams,
    (s.pool.free.count t = 1 ∧ t ∉ s.accepts ∧ ¬ s.Connected t) ∨
      (t ∉ s.pool.free ∧ s.accepts.count t = 1 ∧ ¬ s.Connected t) ∨
      (t ∉ s.pool.free ∧ t ∉ s.accepts ∧ s.Connected t)
  accepts : s.accepts.Nodup
  connections : s.connections.Nodup
  separate : ∀ t ∈ s.accepts, ¬ s.Connected t

theorem count_accepts (t : StreamId) :
    s.waiting t = s.accepts.count t + s.stranded.count t := by
  unfold waiting accepts
  rw [List.count_append]

/-- Accepts and connections share no stream, whatever is stranded. -/
theorem Sound.separate {members : Set StreamId} (h : s.Sound members) {t : StreamId}
    (ht : t ∈ s.accepts) : ¬ s.Connected t := by
  have hpos := List.count_pos_iff.2 ht
  rw [connected_iff, (h.linked_of_waiting (by rw [count_accepts]; omega)).2]
  exact Nat.lt_irrefl 0

theorem Sound.nodup_accepts {members : Set StreamId} (h : s.Sound members) :
    s.accepts.Nodup := by
  refine List.nodup_iff_count_le_one.2 fun t => ?_
  by_cases hpos : 0 < s.waiting t
  · have hone := (h.linked_of_waiting hpos).1
    rw [count_accepts] at hone
    omega
  · rw [count_accepts] at hpos
    omega

/-- A stranded accept keeps its stream from every other place. -/
theorem Sound.onePlace_iff {config : SocketServerConfig}
    (h : s.Sound {t | t ∈ config.streams}) : s.OnePlace config ↔ s.stranded = [] := by
  constructor
  case mp =>
    intro hplace
    by_contra hne
    obtain ⟨t, ht⟩ := List.exists_mem_of_ne_nil _ hne
    have hpos := List.count_pos_iff.2 ht
    have hwaits : 0 < s.waiting t := by
      rw [count_accepts]
      omega
    obtain ⟨hone, hlinked⟩ := h.linked_of_waiting hwaits
    rw [count_accepts] at hone
    obtain ⟨hmember, hnot⟩ := h.pool.not_free (h.alone t hwaits ▸ Nat.one_pos)
    -- its only reference is that of the stranded accept
    rcases hplace.place t hmember with ⟨hfree, -⟩ | ⟨-, haccept, -⟩ | ⟨-, -, hconnected⟩
    · rw [List.count_eq_zero.2 hnot] at hfree
      cases hfree
    · omega
    · rw [connected_iff, hlinked] at hconnected
      exact Nat.lt_irrefl 0 hconnected
  case mpr =>
    intro hnone
    refine ⟨fun t ht => ?_, h.nodup_accepts,
      List.nodup_iff_count_le_one.2 h.connections, fun t => h.separate⟩
    have hreferences := h.references t
    rw [count_accepts, hnone, List.count_nil] at hreferences
    -- who has the references tells the place
    by_cases hzero : s.pool.references t = 0
    · refine .inl ⟨h.pool.count_free ht hzero, ?_, ?_⟩
      · rw [← List.count_pos_iff]
        omega
      · rw [connected_iff]
        omega
    · have hnot := (h.pool.not_free (Nat.pos_of_ne_zero hzero)).2
      by_cases haccept : t ∈ s.accepts
      · have hpos := List.count_pos_iff.2 haccept
        have hle := List.nodup_iff_count_le_one.1 h.nodup_accepts t
        exact .inr (.inl ⟨hnot, by omega, h.separate haccept⟩)
      · refine .inr (.inr ⟨hnot, haccept, ?_⟩)
        rw [← List.count_pos_iff] at haccept
        rw [connected_iff]
        omega

/-- Every stream is in one place if and only if the steps of the run were conserving. -/
theorem one_place_iff {config : SocketServerConfig} {s : Acceptor} {es : List AcceptorEvent}
    (h : (machine config).Run (new config) es s) :
    s.OnePlace config ↔ ((machine config).restrict Conserving).Run (new config) es s := by
  rw [conserving_iff h rfl]
  exact (sound_of_reachable (h.reachable (.init rfl))).onePlace_iff

/-- The only stream is connected while its slot hangs. -/
theorem one_place_iff_connected :
    ∃ s, s.OnePlace ⟨1, 1⟩ ∧ s.Connected 1 ∧
      (machine ⟨1, 1⟩).Run (new ⟨1, 1⟩)
        [.startAccept ⟨1, 0⟩, .started, .completed 1, .check, .ioAccept, .rearm ⟨1, 0⟩] s := by
  have hrun : ∃ s, s.stranded = [] ∧ s.Connected 1 ∧
      (machine ⟨1, 1⟩).Run (new ⟨1, 1⟩)
        [.startAccept ⟨1, 0⟩, .started, .completed 1, .check, .ioAccept, .rearm ⟨1, 0⟩] s := by
    refine ⟨_, ?_, ?_, .cons (.startAccept rfl (by decide)) <| .cons (.started rfl) <|
      .cons (.completed rfl (by decide)) <| .cons (.check rfl) <| .cons (.ioAccept rfl) <|
      .cons (.rearm rfl (by decide)) (.nil _)⟩
    · rfl
    · exact .inl List.mem_cons_self
  obtain ⟨s, hstranded, hconnected, hrun⟩ := hrun
  exact ⟨s, (one_place_iff hrun).2 ((conserving_iff hrun rfl).2 hstranded), hconnected, hrun⟩

/-- `AcceptEx` fails with `WSAENOBUFS`: the popped stream is in no place. -/
theorem one_place_lost :
    ¬ ∀ config s, (machine config).Reachable s → s.OnePlace config := by
  intro h
  have hreachable : ∃ s, s.pool.free = [] ∧ s.accepts = [] ∧ ¬ s.Connected 1 ∧
      (machine ⟨1, 1⟩).Reachable s := by
    refine ⟨_, ?_, ?_, ?_, .step (.init rfl)
      (.startAccept (r := ⟨0, 10055⟩) rfl (by decide))⟩
    · rfl
    · rfl
    · rintro (h | h | h) <;> cases h
  obtain ⟨s, hfree, haccepts, hconnected, hreachable⟩ := hreachable
  rcases (h ⟨1, 1⟩ s hreachable).place 1 (by decide) with ⟨h, -⟩ | ⟨-, h, -⟩ | ⟨-, -, h⟩
  · rw [hfree] at h
    cases h
  · rw [haccepts] at h
    cases h
  · exact hconnected h

end Acceptor
end Network
end SeamlessServer
