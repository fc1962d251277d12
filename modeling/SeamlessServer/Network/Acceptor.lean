import Mathlib.Data.List.Range
import SeamlessServer.Data.Machine
import SeamlessServer.Data.RefPool

/-!
# Network.Acceptor — the acceptor thread and its pool of streams

`IocpSocketServer::Start` arms `parallel_acceptor_count` accepts, and `AcceptorMain` arms one for
every accept it has handled.  A stream of `_acceptor_socket_pool` is popped for an accept, is kept
by the context of the accept, by the connection and by the copies of its `TransferStreamPtr`, and
goes back to the pool with the last of these references.

An accept is stranded if its context will not be handled any more, although it holds its stream.
There are two ways to this.  `AcceptEx` answers `FALSE` when it fails, which `WSAOperationResult`
does not take for a failure, and `AcceptorMain` goes on with its loop after an accept that was
dequeued with a tolerated error.

The model is that of a release build, in which asserts are compiled out.
-/

namespace SeamlessServer
namespace Network

/-! ## The sockets API -/

def socketError : Int := -1

def waitTimeout : Nat := 258

def wsaIoPending : Nat := 997

/-- `ERROR_DUP_NAME`, `WAIT_TIMEOUT`, `ERROR_NETNAME_DELETED`, `ERROR_NETWORK_UNREACHABLE` and
`ERROR_IO_PENDING`. -/
def toleratedErrors : List Nat := [52, waitTimeout, 64, 1231, wsaIoPending]

/-- What a call of `AcceptEx` returns, and the last error of the thread after it. -/
structure AcceptEx where
  result : Int
  lastError : Nat
  deriving DecidableEq, Repr

/-- `AcceptEx` returns a `BOOL`. -/
def AcceptEx.Documented (r : AcceptEx) : Prop := r.result = 1 ∨ r.result = 0

/-- The system has taken the accept and will complete it. -/
def AcceptEx.Queued (r : AcceptEx) : Prop := r.result ≠ 0 ∨ r.lastError = wsaIoPending

instance (r : AcceptEx) : Decidable r.Documented := by
  unfold AcceptEx.Documented
  infer_instance

instance (r : AcceptEx) : Decidable r.Queued := by
  unfold AcceptEx.Queued
  infer_instance

def wsaOperationResult (result : Int) (lastError : Nat) : Bool :=
  if result = socketError then lastError = wsaIoPending else true

/-- A `BOOL` is no `SOCKET_ERROR`, so no failure of `AcceptEx` is noticed. -/
theorem wsaOperationResult_acceptEx {r : AcceptEx} (hr : r.Documented) :
    wsaOperationResult r.result r.lastError = true := by
  unfold wsaOperationResult socketError
  rcases hr with h | h <;> rw [h] <;> rfl

/-! ## The acceptor -/

/-- A stream of `_acceptor_socket_pool`, by its id. -/
abbrev StreamId := Nat

structure SocketServerConfig where
  maxAcceptableSocketCount : Nat
  parallelAcceptorCount : Nat
  deriving DecidableEq, Repr

/-- The ids of the streams that the pool is filled with. -/
def SocketServerConfig.streams (config : SocketServerConfig) : List StreamId :=
  List.range' 1 config.maxAcceptableSocketCount

/-- What `GetQueuedCompletionStatus` has brought. -/
inductive Completion where
  | timeout
  | accepted (t : StreamId)
  | failed (t : StreamId)
  deriving DecidableEq, Repr

def Completion.streams : Completion → List StreamId
  | .timeout => []
  | .accepted t | .failed t => [t]

/-- Where the starting thread, and after it the acceptor thread, is. -/
inductive Phase where
  | starting (left : Nat)
  | stopped
  | head
  | retrying (outcome : Completion)
  | checking (outcome : Completion)
  | handling (t : StreamId)
  | rearming
  | crashed
  deriving DecidableEq, Repr

/-- The streams of dequeued accepts that the acceptor thread is not done with. -/
def Phase.inHand : Phase → List StreamId
  | .retrying outcome | .checking outcome => outcome.streams
  | .handling t => [t]
  | _ => []

/-- The accepts that the thread has yet to arm or to count as hanging, while it runs. -/
def Phase.owed : Phase → Option Nat
  | .starting left => some left
  | .head => some 0
  | .retrying outcome | .checking outcome => some outcome.streams.length
  | .handling _ | .rearming => some 1
  | .stopped | .crashed => none

structure Acceptor where
  phase : Phase
  pool : RefPool StreamId
  pending : List StreamId
  stranded : List StreamId
  posted : List StreamId
  connections : List StreamId
  held : StreamId → Nat
  hangAcceptorCount : Nat
  lastError : Nat

inductive AcceptorEvent where
  | startAccept (r : AcceptEx)
  | started
  | timeout
  | completed (t : StreamId)
  | failed (t : StreamId) (lastError : Nat)
  | retry (r : AcceptEx)
  | check
  | ioAccept
  | rearm (r : AcceptEx)
  | onAccept (t : StreamId)
  | retain (t : StreamId)
  | release (t : StreamId)
  | disconnect (t : StreamId)
  deriving DecidableEq, Repr

namespace Acceptor

variable (s : Acceptor)

/-- The pool is a stack, filled in the order of the ids. -/
def new (config : SocketServerConfig) : Acceptor where
  phase := .starting config.parallelAcceptorCount
  pool := { free := config.streams.reverse, references := fun _ => 0 }
  pending := []
  stranded := []
  posted := []
  connections := []
  held := fun _ => 0
  hangAcceptorCount := 0
  lastError := 0

def transmitAccept (t : StreamId) (r : AcceptEx) : Acceptor × Bool :=
  let s := { s with pool := s.pool.retain t, lastError := r.lastError }
  if wsaOperationResult r.result r.lastError then
    if r.Queued then
      ({ s with pending := t :: s.pending }, true)
    else
      -- the context keeps its reference, and no completion brings it back
      ({ s with stranded := t :: s.stranded }, true)
  else
    -- `ReleaseReadBuffer`; the stream goes back to the pool by itself
    ({ s with pool := s.pool.release t }, false)

def acceptSocket (r : AcceptEx) : Acceptor × Bool :=
  match s.pool.pop with
  | none => (s, false)
  | some (t, pool) =>
      let (s', transmitted) := { s with pool }.transmitAccept t r
      if transmitted then
        (s', true)
      else
        ({ s' with pool := s'.pool.push t }, false)

/-- A round of the loop in `Start`. -/
def startRound (left : Nat) (r : AcceptEx) : Acceptor :=
  let (s', accepted) := s.acceptSocket r
  { s' with phase := if accepted then .starting left else .stopped }

/-- The head of the loop over `hang_acceptor_count`. -/
def retryHead (outcome : Completion) : Acceptor :=
  { s with phase := if 0 < s.hangAcceptorCount then .retrying outcome else .checking outcome }

/-- A round of the loop over `hang_acceptor_count`. -/
def retryRound (outcome : Completion) (r : AcceptEx) : Acceptor :=
  let (s', accepted) := s.acceptSocket r
  if accepted then
    { s' with hangAcceptorCount := s'.hangAcceptorCount - 1 }.retryHead outcome
  else
    { s' with phase := .checking outcome }

/-- The rest of the iteration, up to `IoAccept`.  A failed completion whose error is not tolerated
passes the assert, and a timeout leaves no context to go on with. -/
def check : Completion → Acceptor
  | .accepted t => { s with phase := .handling t }
  | .failed t =>
      if s.lastError ∈ toleratedErrors then
        -- `continue`, with the dequeued context neither armed again nor counted
        { s with stranded := t :: s.stranded, phase := .head }
      else
        { s with phase := .handling t }
  | .timeout =>
      if s.lastError ∈ toleratedErrors then
        { s with phase := .head }
      else
        { s with phase := .crashed }

/-- `IoAccept`, which retains the stream for the connection, and the post to an io worker. -/
def ioAccept (t : StreamId) : Acceptor :=
  { s with
    pool := s.pool.retain t
    connections := t :: s.connections
    posted := t :: s.posted
    phase := .rearming }

def rearm (r : AcceptEx) : Acceptor :=
  let (s', accepted) := s.acceptSocket r
  { s' with
    hangAcceptorCount := if accepted then s'.hangAcceptorCount else s'.hangAcceptorCount + 1
    phase := .head }

/-- The end of the accept in `IoMain`: the context gives up its reference. -/
def onAccept (t : StreamId) : Acceptor :=
  { s with posted := s.posted.erase t, pool := s.pool.release t }

/-- A copy of a `TransferStreamPtr` is made. -/
def retain (t : StreamId) : Acceptor :=
  { s with held := Function.update s.held t (s.held t + 1), pool := s.pool.retain t }

/-- A copy of a `TransferStreamPtr` is released. -/
def release (t : StreamId) : Acceptor :=
  { s with held := Function.update s.held t (s.held t - 1), pool := s.pool.release t }

/-- `IoDisconnect`, which releases the stream for the connection. -/
def disconnect (t : StreamId) : Acceptor :=
  { s with connections := s.connections.erase t, pool := s.pool.release t }

/-- An accept has been completed with the stream, and a reference to it is left. -/
def Connected (t : StreamId) : Prop := t ∈ s.posted ∨ t ∈ s.connections ∨ 0 < s.held t

/-- A step of the acceptor thread, of an io worker or of a holder of a stream.  Accepts complete in
any order, and a reference is copied from another one. -/
inductive Step (s : Acceptor) : AcceptorEvent → Acceptor → Prop where
  | startAccept {left : Nat} {r : AcceptEx} : s.phase = .starting (left + 1) → r.Documented →
      Step s (.startAccept r) (s.startRound left r)
  | started : s.phase = .starting 0 → Step s .started { s with phase := .head }
  | timeout : s.phase = .head →
      Step s .timeout ({ s with lastError := waitTimeout }.retryHead .timeout)
  | completed {t : StreamId} : s.phase = .head → t ∈ s.pending →
      Step s (.completed t) ({ s with pending := s.pending.erase t }.retryHead (.accepted t))
  | failed {t : StreamId} {lastError : Nat} : s.phase = .head → t ∈ s.pending →
      lastError ∈ toleratedErrors →
      Step s (.failed t lastError)
        ({ s with pending := s.pending.erase t, lastError }.retryHead (.failed t))
  | retry {outcome : Completion} {r : AcceptEx} : s.phase = .retrying outcome → r.Documented →
      Step s (.retry r) (s.retryRound outcome r)
  | check {outcome : Completion} : s.phase = .checking outcome →
      Step s .check (s.check outcome)
  | ioAccept {t : StreamId} : s.phase = .handling t → Step s .ioAccept (s.ioAccept t)
  | rearm {r : AcceptEx} : s.phase = .rearming → r.Documented → Step s (.rearm r) (s.rearm r)
  | onAccept {t : StreamId} : t ∈ s.posted → Step s (.onAccept t) (s.onAccept t)
  | retain {t : StreamId} : s.Connected t → Step s (.retain t) (s.retain t)
  | release {t : StreamId} : 0 < s.held t → Step s (.release t) (s.release t)
  | disconnect {t : StreamId} : t ∈ s.connections → Step s (.disconnect t) (s.disconnect t)

def machine (config : SocketServerConfig) : Machine Acceptor AcceptorEvent where
  init := fun s => s = new config
  step := Step

/-- The step strands no accept: `AcceptEx` queues the accept of a popped stream, and no accept is
dequeued with a failure that the loop goes on after. -/
def Conserving (s : Acceptor) : AcceptorEvent → Prop
  | .startAccept r | .retry r | .rearm r => s.pool.free ≠ [] → r.Queued
  | .check => ∀ t, s.phase = .checking (.failed t) → s.lastError ∉ toleratedErrors
  | _ => True

/-! ## What the parts of an iteration do -/

/-- The context of an accept keeps the stream, whether the accept is queued or not. -/
def arm (t : StreamId) (pool : RefPool StreamId) (r : AcceptEx) : Acceptor :=
  { s with
    pool := pool.retain t
    lastError := r.lastError
    pending := if r.Queued then t :: s.pending else s.pending
    stranded := if r.Queued then s.stranded else t :: s.stranded }

variable {s}

/-- An accept is armed whenever a stream is free: its failure branch is never taken. -/
theorem acceptSocket_cases {r : AcceptEx} (hr : r.Documented) :
    (s.pool.free = [] ∧ s.acceptSocket r = (s, false)) ∨
      ∃ t pool, s.pool.pop = some (t, pool) ∧ s.acceptSocket r = (s.arm t pool r, true) := by
  unfold acceptSocket
  cases hpop : s.pool.pop with
  | none =>
      exact .inl ⟨RefPool.pop_eq_none.1 hpop, rfl⟩
  | some taken =>
      obtain ⟨t, pool⟩ := taken
      refine .inr ⟨t, pool, rfl, ?_⟩
      by_cases hqueued : r.Queued
      · simp [transmitAccept, wsaOperationResult_acceptEx hr, arm, hqueued]
      · simp [transmitAccept, wsaOperationResult_acceptEx hr, arm, hqueued]

theorem phase_acceptSocket {r : AcceptEx} (hr : r.Documented) :
    (s.acceptSocket r).1.phase = s.phase := by
  rcases acceptSocket_cases (s := s) hr with ⟨-, heq⟩ | ⟨t, pool, -, heq⟩
  · rw [heq]
  · rw [heq]
    rfl

theorem retryRound_eq (outcome : Completion) (r : AcceptEx) :
    s.retryRound outcome r =
      if (s.acceptSocket r).2 = true then
        { (s.acceptSocket r).1 with
          hangAcceptorCount := (s.acceptSocket r).1.hangAcceptorCount - 1 }.retryHead outcome
      else
        { (s.acceptSocket r).1 with phase := .checking outcome } := rfl

theorem check_cases (outcome : Completion) :
    (∃ phase, phase.inHand = outcome.streams ∧ s.check outcome = { s with phase } ∧
        ∀ t, outcome = .failed t → s.lastError ∉ toleratedErrors) ∨
      ∃ t, outcome = .failed t ∧ s.lastError ∈ toleratedErrors ∧
        s.check outcome = { s with stranded := t :: s.stranded, phase := .head } := by
  cases outcome with
  | accepted t =>
      exact .inl ⟨.handling t, rfl, rfl, fun _ h => (by cases h)⟩
  | timeout =>
      by_cases herror : s.lastError ∈ toleratedErrors
      · exact .inl ⟨.head, rfl, if_pos herror, fun _ h => (by cases h)⟩
      · exact .inl ⟨.crashed, rfl, if_neg herror, fun _ h => (by cases h)⟩
  | failed t =>
      by_cases herror : s.lastError ∈ toleratedErrors
      · exact .inr ⟨t, rfl, herror, if_pos herror⟩
      · exact .inl ⟨.handling t, rfl, if_neg herror, fun _ _ => herror⟩

/-! ## Stranded accepts -/

theorem stranded_acceptSocket {r : AcceptEx} (hr : r.Documented) :
    ((s.acceptSocket r).1.stranded.length = s.stranded.length ∧
        (s.pool.free ≠ [] → r.Queued)) ∨
      ((s.acceptSocket r).1.stranded.length = s.stranded.length + 1 ∧
        ¬ (s.pool.free ≠ [] → r.Queued)) := by
  rcases acceptSocket_cases (s := s) hr with ⟨hfree, heq⟩ | ⟨t, pool, hpop, heq⟩
  · rw [heq]
    exact .inl ⟨rfl, fun hne => absurd hfree hne⟩
  · have hne : s.pool.free ≠ [] := by
      rw [(RefPool.pop_eq_some.1 hpop).1]
      exact List.cons_ne_nil _ _
    rw [heq]
    by_cases hqueued : r.Queued
    · exact .inl ⟨by simp [arm, hqueued], fun _ => hqueued⟩
    · exact .inr ⟨by simp [arm, hqueued], fun hall => hqueued (hall hne)⟩

/-- A step that does not conserve strands one accept, and no other step strands any. -/
theorem stranded_step {e : AcceptorEvent} {s' : Acceptor} (hstep : s.Step e s') :
    (s'.stranded.length = s.stranded.length ∧ s.Conserving e) ∨
      (s'.stranded.length = s.stranded.length + 1 ∧ ¬ s.Conserving e) := by
  cases hstep with
  | startAccept _ hr =>
      exact stranded_acceptSocket hr
  | retry _ hr =>
      rw [retryRound_eq]
      split
      next =>
        exact stranded_acceptSocket hr
      next =>
        exact stranded_acceptSocket hr
  | rearm _ hr =>
      exact stranded_acceptSocket hr
  -- the only other place where a dequeued accept is dropped
  | @check outcome hphase =>
      rcases check_cases (s := s) outcome with ⟨phase, -, heq, herror⟩ | ⟨t, rfl, herror, heq⟩
      · refine .inl ⟨by rw [heq], fun t hfailed => ?_⟩
        rw [hphase] at hfailed
        exact herror t (Phase.checking.inj hfailed)
      · rw [heq]
        exact .inr ⟨rfl, fun hconserving => hconserving t hphase herror⟩
  | started | timeout | completed | failed | ioAccept | onAccept | retain | release | disconnect =>
      exact .inl ⟨rfl, trivial⟩

/-- A run strands no accept if and only if its steps are conserving. -/
theorem conserving_iff {config : SocketServerConfig} {s s' : Acceptor} {es : List AcceptorEvent}
    (h : (machine config).Run s es s') (hs : s.stranded = []) :
    ((machine config).restrict Conserving).Run s es s' ↔ s'.stranded = [] := by
  have hiff := (h.restrict_iff Conserving (fun s => s.stranded.length)
    (fun hstep hcond => ?_) (fun hstep hcond => ?_)).2
  · rw [hiff, hs, List.length_nil, List.length_eq_zero_iff]
  · rcases stranded_step hstep with ⟨hlength, -⟩ | ⟨-, hbroken⟩
    · exact hlength
    · exact absurd hcond hbroken
  · rcases stranded_step hstep with ⟨-, hkept⟩ | ⟨hlength, -⟩
    · exact absurd hkept hcond
    · rw [hlength]
      exact Nat.lt_succ_self _

end Acceptor
end Network
end SeamlessServer
