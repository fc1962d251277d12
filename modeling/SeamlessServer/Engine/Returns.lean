import SeamlessServer.Engine.Dispatch
import Mathlib.Data.List.Count

/-!
# Engine.Returns — the read buffers between the IO threads and the worker

A read buffer is taken from the pool by an IO thread, which prepares contexts in its reserved area and
submits them as a chain, or gives the buffer back.  The worker comes to the contexts of the chain, and
the last `Release` gives the buffer back.  `ReleaseReadBuffer` pushes the buffer into the pool before
the rest of `Release` and before `context->next` is read.

* `sound_of_reachable` — with IO threads that leave a buffer alone as long as the worker stands at a
  context of it, every buffer is submitted, dispatched and returned in turn.
* `drains` — the worker comes to the end of what was submitted.
-/

namespace SeamlessServer
namespace Engine
namespace Returns

open NetworkEngine (ContextType)
open NetworkEngineWorker (ContextPlace StoredContext Worker Point entry behind)

/-! ## The buffers and their users -/

/-- What happens to a read buffer: it is submitted with a number of contexts, a handler is called for a
context, and the `Release` of a context gives the buffer back. -/
inductive Record
  | submitted (count : Nat)
  | dispatched (c : ContextPlace)
  | returned (c : ContextPlace)
  deriving DecidableEq

/-- The worker, the pool with the buffers that it can still allocate, the buffers in the hands of IO
threads with the types of the contexts prepared in them, whether the worker is behind the `Push` of
`ReleaseReadBuffer` but still in `Release`, and what has happened to each buffer. -/
structure State where
  worker : Worker
  pool : Nat → Bool
  filling : Nat → Option (List ContextType)
  pushed : Bool := false
  log : Nat → List Record

inductive Event
  | work
  | take (b : Nat)
  | prepare (b : Nat) (contextType : ContextType)
  | submit (b : Nat)
  | giveBack (b : Nat)
  deriving DecidableEq

namespace State

variable (s : State)

def record (b : Nat) (r : Record) : Nat → List Record := Function.update s.log b (s.log b ++ [r])

/-- `ReleaseReadBuffer` in the `Release` of a context. -/
def push (c : ContextPlace) (b : Nat) : State :=
  { s with
    worker := { s.worker with
      refs := Function.update s.worker.refs b 0
      returned := s.worker.returned ++ [b] }
    pool := Function.update s.pool b true
    pushed := true
    log := s.record b (.returned c) }

/-- `session.Release()`, and what follows `Release`. -/
def leave (c : ContextPlace) (contextType : ContextType) : State :=
  { s with
    worker := { s.worker.finishRelease c false with point := behind c contextType }
    pushed := false }

/-- One step of the worker. -/
def work : Option State :=
  match s.worker.point with
  | .dispatch c =>
      s.worker.work.map fun w =>
        { s with
          worker := w
          log :=
            if (s.worker.memory c).networkSubject = .Socket then s.record c.buffer (.dispatched c)
            else s.log }
  | .finish c contextType true =>
      match s.pushed, (s.worker.memory c).buffer with
      | false, some b => some (s.push c b)
      | _, _ => some (s.leave c contextType)
  | _ => s.worker.work.map fun w => { s with worker := w }

/-- `AllocateReadBuffer`. -/
def take (b : Nat) : State :=
  { s with
    pool := Function.update s.pool b false
    filling := Function.update s.filling b (some []) }

/-- `PrepareSocketContext` behind the given contexts, and `last_context->next = current_context`. -/
def prepare (b : Nat) (types : List ContextType) (contextType : ContextType) : State :=
  let linked : ContextPlace → StoredContext := fun c =>
    if c.buffer = b ∧ c.sequence + 1 = types.length then
      { s.worker.memory c with next := some ⟨b, types.length⟩ }
    else
      s.worker.memory c
  { s with
    worker := { s.worker with
      memory := Function.update linked ⟨b, types.length⟩ ⟨.Socket, contextType, true, some b, none⟩
      refs := Function.update s.worker.refs b (s.worker.refs b + 1) }
    filling := Function.update s.filling b (some (types ++ [contextType])) }

/-- `Submit` of the first context. -/
def submit (b : Nat) (types : List ContextType) : State :=
  { s with
    worker := { s.worker with contexts := s.worker.contexts ++ [⟨b, 0⟩] }
    filling := Function.update s.filling b none
    log := s.record b (.submitted types.length) }

/-- `ReleaseReadBuffer` by an IO thread. -/
def giveBack (b : Nat) : State :=
  { s with
    worker := { s.worker with refs := Function.update s.worker.refs b 0 }
    pool := Function.update s.pool b true
    filling := Function.update s.filling b none }

end State

/-- Nothing is put behind a `SessionClosed` context: `OnDisconnect` submits it alone. -/
inductive Step (s : State) : Event → State → Prop
  | work {s' : State} : s.work = some s' → Step s .work s'
  | take {b : Nat} : s.pool b = true → Step s (.take b) (s.take b)
  | prepare {b : Nat} {types : List ContextType} (contextType : ContextType) :
      s.filling b = some types → .SessionClosed ∉ types →
      Step s (.prepare b contextType) (s.prepare b types contextType)
  | submit {b : Nat} {types : List ContextType} :
      s.filling b = some types → types ≠ [] → Step s (.submit b) (s.submit b types)
  | giveBack {b : Nat} {types : List ContextType} :
      s.filling b = some types → Step s (.giveBack b) (s.giveBack b)

/-- All buffers are in the pool, and the worker waits. -/
structure Initial (s : State) : Prop where
  point : s.worker.point = .chains
  contexts : s.worker.contexts = []
  refs : ∀ b, s.worker.refs b = 0
  pool : ∀ b, s.pool b = true
  filling : ∀ b, s.filling b = none
  pushed : s.pushed = false
  log : ∀ b, s.log b = []

/-- The worker and the IO threads. -/
def machine : Machine State Event where
  init := Initial
  step := Step

/-- No IO thread takes a buffer while the worker stands at a context of it. -/
def LeftAlone (s : State) : Event → Prop
  | .take b => ∀ c, s.worker.reads = some c → c.buffer ≠ b
  | _ => True

/-! ## The life of a buffer -/

/-- A buffer rests, or is submitted with a number of contexts, of which some have been dispatched. -/
inductive Phase
  | rest
  | submitted (count next : Nat)
  deriving DecidableEq

/-- A buffer is submitted with its contexts, these are dispatched one after the other, and the release
of the last one gives the buffer back. -/
def Phase.next (b : Nat) : Phase → Record → Option Phase
  | .rest, .submitted (count + 1) => some (.submitted (count + 1) 0)
  | .submitted count i, .dispatched c =>
      if i < count ∧ c = ⟨b, i⟩ then some (.submitted count (i + 1)) else none
  | .submitted count i, .returned c =>
      if i = count ∧ c = ⟨b, count - 1⟩ then some .rest else none
  | _, _ => none

/-- The phase behind the records of a buffer, unless they are out of turn. -/
def phase (b : Nat) (log : List Record) : Option Phase := log.foldlM (Phase.next b) .rest

theorem phase_append (b : Nat) (log : List Record) (r : Record) :
    phase b (log ++ [r]) = (phase b log).bind fun p => p.next b r := by
  simp [phase, List.foldlM_append]

/-! ## One buffer -/

/-- What a state says about one buffer. -/
structure View where
  memory : Nat → StoredContext
  refs : Int
  pool : Bool
  filling : Option (List ContextType)
  waiting : Nat
  point : Option (Point × Bool)
  phase : Option Phase

/-- The worker's place, if it is at a context of the buffer. -/
def State.pointAt (s : State) (b : Nat) : Option (Point × Bool) :=
  if s.worker.reads.map ContextPlace.buffer = some b then some (s.worker.point, s.pushed) else none

def State.view (s : State) (b : Nat) : View where
  memory := fun i => s.worker.memory ⟨b, i⟩
  refs := s.worker.refs b
  pool := s.pool b
  filling := s.filling b
  waiting := s.worker.contexts.count ⟨b, 0⟩
  point := s.pointAt b
  phase := phase b (s.log b)

/-- The context at a place of a chain. -/
def stored (b : Nat) (types : List ContextType) (i : Nat) : StoredContext :=
  ⟨.Socket, types.getD i .SessionData, true, some b,
    if i + 1 < types.length then some ⟨b, i + 1⟩ else none⟩

/-- Contexts of these types lie in the reserved area, of which those in front of the `i`-th have been
released; only the last one may close the session. -/
structure Chain (b : Nat) (types : List ContextType) (i : Nat) (memory : Nat → StoredContext) :
    Prop where
  stored : ∀ j, i ≤ j → j < types.length → memory j = stored b types j
  closed : ∀ j, j + 1 < types.length → types.getD j .SessionData ≠ .SessionClosed

/-- The buffer lies in the pool. -/
structure Pooled (v : View) : Prop where
  pool : v.pool = true
  filling : v.filling = none
  waiting : v.waiting = 0
  refs : v.refs = 0
  phase : v.phase = some .rest

/-- The buffer is kept for the contexts from the `i`-th on, those from the `gone`-th on have their
share in it, and those in front of the `next`-th have been dispatched. -/
structure Held (b : Nat) (v : View) (types : List ContextType) (waiting i gone next : Nat) : Prop where
  chain : Chain b types i v.memory
  refs : v.refs + gone = types.length
  pool : v.pool = false
  filling : v.filling = none
  waiting : v.waiting = waiting
  phase : v.phase = some (.submitted types.length next)

/-- Where a buffer can be, by the place of the worker. -/
inductive Fits (b : Nat) (v : View) : Prop
  | pooled (h : Pooled v) (hpoint : v.point = none)
  | filling (types : List ContextType) (hchain : Chain b types 0 v.memory)
      (hrefs : v.refs = types.length) (hpool : v.pool = false) (hfilling : v.filling = some types)
      (hwaiting : v.waiting = 0) (hphase : v.phase = some .rest) (hpoint : v.point = none)
  | waiting (types : List ContextType) (hne : types ≠ []) (h : Held b v types 1 0 0 0)
      (hpoint : v.point = none)
  | dispatch (types : List ContextType) (i : Nat) (hi : i < types.length) (h : Held b v types 0 i i i)
      (hpoint : v.point = some (.dispatch ⟨b, i⟩, false))
  | release (types : List ContextType) (i : Nat) (hi : i < types.length)
      (h : Held b v types 0 i i (i + 1))
      (hpoint : v.point = some (.release ⟨b, i⟩ (types.getD i .SessionData), false))
  | finish (types : List ContextType) (i : Nat) (hi : i + 1 < types.length)
      (h : Held b v types 0 i (i + 1) (i + 1))
      (hpoint : v.point = some (.finish ⟨b, i⟩ (types.getD i .SessionData) false, false))
  | push (types : List ContextType) (i : Nat) (hi : i + 1 = types.length)
      (h : Held b v types 0 i (i + 1) (i + 1))
      (hpoint : v.point = some (.finish ⟨b, i⟩ (types.getD i .SessionData) true, false))
  | leave (i : Nat) (contextType : ContextType) (h : Pooled v) (hnext : (v.memory i).next = none)
      (hpoint : v.point = some (.finish ⟨b, i⟩ contextType true, true))
  | advance (types : List ContextType) (i : Nat) (hi : i + 1 < types.length)
      (h : Held b v types 0 (i + 1) (i + 1) (i + 1)) (hnext : (v.memory i).next = some ⟨b, i + 1⟩)
      (hpoint : v.point = some (.advance ⟨b, i⟩, false))
  | last (i : Nat) (h : Pooled v) (hnext : (v.memory i).next = none)
      (hpoint : v.point = some (.advance ⟨b, i⟩, false))

/-- Every buffer is where it can be. -/
structure Sound (s : State) : Prop where
  heads : ∀ c ∈ s.worker.contexts, c.sequence = 0
  pushed : s.worker.point = .chains → s.pushed = false
  fits : ∀ b, Fits b (s.view b)

/-! ### Where the worker is -/

section Fits

variable {b i : Nat} {v : View} {c : ContextPlace} {contextType : ContextType} {pushed : Bool}
  {types : List ContextType}

/-- The worker is not at the buffer, which is in the pool. -/
theorem Fits.of_pool (h : Fits b v) (hpool : v.pool = true) (hpoint : v.point = none) : Pooled v := by
  cases h with
  | pooled h _ =>
      exact h
  | filling _ _ _ hheld =>
      simp [hheld] at hpool
  | waiting _ _ h =>
      simp [h.pool] at hpool
  | _ =>
      simp_all

/-- The buffer is in the hands of an IO thread. -/
theorem Fits.of_filling (h : Fits b v) (hfilling : v.filling = some types) :
    Chain b types 0 v.memory ∧ v.refs = types.length ∧ v.pool = false ∧ v.waiting = 0 ∧
      v.phase = some .rest ∧ v.point = none := by
  cases h with
  | filling types' hchain hrefs hpool hfilling' hwaiting hphase hpoint =>
      obtain rfl : types' = types := Option.some.inj (hfilling'.symm.trans hfilling)
      exact ⟨hchain, hrefs, hpool, hwaiting, hphase, hpoint⟩
  | pooled h | leave _ _ h | last _ h =>
      simp [h.filling] at hfilling
  | waiting _ _ h | dispatch _ _ _ h | release _ _ _ h | finish _ _ _ h | push _ _ _ h
  | advance _ _ _ h =>
      simp [h.filling] at hfilling

theorem Fits.of_waiting (h : Fits b v) (hwaiting : 0 < v.waiting) :
    ∃ types, types ≠ [] ∧ Held b v types 1 0 0 0 ∧ v.point = none := by
  cases h with
  | waiting types hne h hpoint =>
      exact ⟨types, hne, h, hpoint⟩
  | filling _ _ _ _ _ hnone =>
      omega
  | pooled h | leave _ _ h | last _ h | dispatch _ _ _ h | release _ _ _ h | finish _ _ _ h
  | push _ _ _ h | advance _ _ _ h =>
      have hnone := h.waiting
      omega

theorem Fits.at_dispatch (h : Fits b v) (hpoint : v.point = some (.dispatch c, pushed)) :
    ∃ types i, i < types.length ∧ Held b v types 0 i i i ∧ c = ⟨b, i⟩ ∧ pushed = false := by
  cases h with
  | dispatch types i hi h hat =>
      cases hat.symm.trans hpoint
      exact ⟨types, i, hi, h, rfl, rfl⟩
  | _ =>
      simp_all

theorem Fits.at_release (h : Fits b v) (hpoint : v.point = some (.release c contextType, pushed)) :
    ∃ types i, i < types.length ∧ Held b v types 0 i i (i + 1) ∧ c = ⟨b, i⟩ ∧
      contextType = types.getD i .SessionData ∧ pushed = false := by
  cases h with
  | release types i hi h hat =>
      cases hat.symm.trans hpoint
      exact ⟨types, i, hi, h, rfl, rfl, rfl⟩
  | _ =>
      simp_all

theorem Fits.at_finish (h : Fits b v)
    (hpoint : v.point = some (.finish c contextType false, pushed)) :
    ∃ types i, i + 1 < types.length ∧ Held b v types 0 i (i + 1) (i + 1) ∧ c = ⟨b, i⟩ ∧
      contextType = types.getD i .SessionData ∧ pushed = false := by
  cases h with
  | finish types i hi h hat =>
      cases hat.symm.trans hpoint
      exact ⟨types, i, hi, h, rfl, rfl, rfl⟩
  | _ =>
      simp_all

theorem Fits.at_last_finish (h : Fits b v)
    (hpoint : v.point = some (.finish c contextType true, pushed)) :
    (pushed = false ∧ ∃ types i, i + 1 = types.length ∧ Held b v types 0 i (i + 1) (i + 1) ∧
        c = ⟨b, i⟩ ∧ contextType = types.getD i .SessionData) ∨
      (pushed = true ∧ Pooled v ∧ ∃ i, c = ⟨b, i⟩ ∧ (v.memory i).next = none) := by
  cases h with
  | push types i hi h hat =>
      cases hat.symm.trans hpoint
      exact .inl ⟨rfl, types, i, hi, h, rfl, rfl⟩
  | leave i contextType h hnext hat =>
      cases hat.symm.trans hpoint
      exact .inr ⟨rfl, h, i, rfl, hnext⟩
  | _ =>
      simp_all

theorem Fits.at_advance (h : Fits b v) (hpoint : v.point = some (.advance c, pushed)) :
    pushed = false ∧
      ((∃ types i, i + 1 < types.length ∧ Held b v types 0 (i + 1) (i + 1) (i + 1) ∧ c = ⟨b, i⟩ ∧
          (v.memory i).next = some ⟨b, i + 1⟩) ∨
        (Pooled v ∧ ∃ i, c = ⟨b, i⟩ ∧ (v.memory i).next = none)) := by
  cases h with
  | advance types i hi h hnext hat =>
      cases hat.symm.trans hpoint
      exact ⟨rfl, .inl ⟨types, i, hi, h, rfl, hnext⟩⟩
  | last i h hnext hat =>
      cases hat.symm.trans hpoint
      exact ⟨rfl, .inr ⟨h, i, rfl, hnext⟩⟩
  | _ =>
      simp_all

end Fits

/-! ### The worker -/

/-- The steps up to the end of the chain at which the worker is. -/
def State.rank (s : State) : Nat :=
  match s.worker.point with
  | .chains => 0
  | .dispatch c => 5 * (s.worker.refs c.buffer).toNat
  | .release c _ => 5 * (s.worker.refs c.buffer).toNat - 1
  | .finish c _ _ => 5 * (s.worker.refs c.buffer).toNat + if s.pushed then 2 else 3
  | .advance c => 5 * (s.worker.refs c.buffer).toNat + 1

/-- The worker has come closer to the end. -/
def State.Before (s' s : State) : Prop :=
  Prod.Lex (· < ·) (· < ·) (s'.worker.contexts.length, s'.rank) (s.worker.contexts.length, s.rank)

section Work

variable {s s' : State} {b i : Nat} {c : ContextPlace} {contextType : ContextType}

theorem pointAt_self (hreads : s.worker.reads = some ⟨b, i⟩) :
    s.pointAt b = some (s.worker.point, s.pushed) := by
  simp [State.pointAt, hreads]

/-- A step at the contexts of one buffer. -/
theorem Sound.of_one (h : Sound s) (heads : ∀ c ∈ s'.worker.contexts, c.sequence = 0)
    (hpushed : s'.worker.point = .chains → s'.pushed = false)
    (hother : ∀ b', b' ≠ b → s'.view b' = s.view b') (hfits : Fits b (s'.view b)) : Sound s' := by
  refine ⟨heads, hpushed, fun b' => ?_⟩
  by_cases hb : b' = b
  · rw [hb]
    exact hfits
  · rw [hother b' hb]
    exact h.fits b'

theorem Sound.work_chains (h : Sound s) (hpoint : s.worker.point = .chains)
    (hwork : s.work = some s') : Sound s' ∧ s'.Before s := by
  cases hcontexts : s.worker.contexts with
  | nil =>
      simp [State.work, Worker.work, hpoint, hcontexts] at hwork
  | cons c contexts =>
      simp only [State.work, Worker.work, hpoint, hcontexts, Option.map_some,
        Option.some.injEq] at hwork
      subst hwork
      obtain ⟨b, i⟩ := c
      obtain rfl : i = 0 := h.heads ⟨b, i⟩ (by simp [hcontexts])
      have hcount : (s.view b).waiting = contexts.count ⟨b, 0⟩ + 1 := by
        simp [State.view, hcontexts]
      obtain ⟨types, hne, hheld, -⟩ := (h.fits b).of_waiting (by omega)
      have hone := hheld.waiting
      refine ⟨h.of_one (b := b) ?_ (by simp) (fun b' hb => ?_) ?_, ?_⟩
      · intro k hk
        exact h.heads k (by simp [hcontexts, show k ∈ contexts from hk])
      · simp [State.view, State.pointAt, Worker.reads, hpoint, hcontexts, Ne.symm hb]
      · refine .dispatch types 0 (List.length_pos_iff.2 hne) ?_ ?_
        · refine ⟨hheld.chain, hheld.refs, hheld.pool, hheld.filling, ?_, hheld.phase⟩
          simp only [State.view]
          omega
        · simp [State.view, State.pointAt, Worker.reads, h.pushed hpoint]
      · exact Prod.Lex.left _ _ (by simp [hcontexts])

theorem Sound.work_dispatch (h : Sound s) (hpoint : s.worker.point = .dispatch c)
    (hwork : s.work = some s') : Sound s' ∧ s'.Before s := by
  obtain ⟨b, i⟩ := c
  have hreads : s.worker.reads = some ⟨b, i⟩ := by simp [Worker.reads, hpoint]
  obtain ⟨types, i, hi, hheld, hc, hpushed⟩ :=
    (h.fits b).at_dispatch (by simpa [State.view, hpoint] using pointAt_self hreads)
  cases hc
  have hstored : s.worker.memory ⟨b, i⟩ = stored b types i := hheld.chain.stored i le_rfl hi
  have hsubject : (s.worker.memory ⟨b, i⟩).networkSubject = .Socket := by rw [hstored, stored]
  simp only [State.work, Worker.work, hpoint, hsubject, Option.map_some, Option.some.injEq,
    if_true] at hwork
  subst hwork
  refine ⟨h.of_one (b := b) h.heads (by simp [Worker.call]) (fun b' hb => ?_) ?_, ?_⟩
  · simp [State.view, State.pointAt, Worker.reads, hpoint, State.record, Function.update_of_ne hb,
      Worker.call, Ne.symm hb]
  · refine .release types i hi ⟨hheld.chain, hheld.refs, hheld.pool, hheld.filling, hheld.waiting,
      ?_⟩ ?_
    · have hphase : phase b (s.log b) = some (.submitted types.length i) := hheld.phase
      simp [State.view, State.record, phase_append, hphase, Phase.next, hi]
    · simp [State.view, State.pointAt, Worker.reads, Worker.call, hstored, stored, hpushed]
  · have hrefs : s.worker.refs b + i = types.length := hheld.refs
    refine Prod.Lex.right _ ?_
    simp only [State.rank, hpoint, Worker.call]
    omega

theorem Sound.work_release (h : Sound s) (hpoint : s.worker.point = .release c contextType)
    (hwork : s.work = some s') : Sound s' ∧ s'.Before s := by
  obtain ⟨b, i⟩ := c
  have hreads : s.worker.reads = some ⟨b, i⟩ := by simp [Worker.reads, hpoint]
  obtain ⟨types, i, hi, hheld, hc, rfl, hpushed⟩ :=
    (h.fits b).at_release (by simpa [State.view, hpoint] using pointAt_self hreads)
  cases hc
  have hstored : s.worker.memory ⟨b, i⟩ = stored b types i := hheld.chain.stored i le_rfl hi
  have hrefs : s.worker.refs b + i = types.length := hheld.refs
  simp only [State.work, Worker.work, hpoint, hstored, stored, Option.map_some,
    Option.some.injEq] at hwork
  subst hwork
  refine ⟨h.of_one (b := b) h.heads (by simp) (fun b' hb => ?_) ?_, ?_⟩
  · simp [State.view, State.pointAt, Worker.reads, hpoint, Function.update_of_ne hb,
      Worker.decrement, Ne.symm hb]
  · -- the share of the context is given up, at the last one of the chain with the buffer
    by_cases hmore : i + 1 < types.length
    · have hpositive : ¬ s.worker.refs b - 1 ≤ 0 := by omega
      refine .finish types i hmore ⟨hheld.chain, ?_, hheld.pool, hheld.filling, hheld.waiting,
        hheld.phase⟩ ?_
      · simp only [State.view, Worker.decrement, Function.update_self]
        omega
      · simp [State.view, State.pointAt, Worker.reads, hpositive, hpushed]
    · have hzero : s.worker.refs b - 1 ≤ 0 := by omega
      refine .push types i (by omega) ⟨hheld.chain, ?_, hheld.pool, hheld.filling, hheld.waiting,
        hheld.phase⟩ ?_
      · simp only [State.view, Worker.decrement, Function.update_self]
        omega
      · simp [State.view, State.pointAt, Worker.reads, hzero, hpushed]
  · refine Prod.Lex.right _ ?_
    simp only [State.rank, hpoint, hpushed, Worker.decrement, Function.update_self,
      Bool.false_eq_true, if_false]
    omega

/-- Behind `Release`, with more contexts to come. -/
theorem Sound.work_finish (h : Sound s) (hpoint : s.worker.point = .finish c contextType false)
    (hwork : s.work = some s') : Sound s' ∧ s'.Before s := by
  obtain ⟨b, i⟩ := c
  have hreads : s.worker.reads = some ⟨b, i⟩ := by simp [Worker.reads, hpoint]
  obtain ⟨types, i, hi, hheld, hc, rfl, hpushed⟩ :=
    (h.fits b).at_finish (by simpa [State.view, hpoint] using pointAt_self hreads)
  cases hc
  have hstored : s.worker.memory ⟨b, i⟩ = stored b types i :=
    hheld.chain.stored i le_rfl (by omega)
  have hopen : types.getD i .SessionData ≠ .SessionClosed := hheld.chain.closed i hi
  simp only [State.work, Worker.work, hpoint, Option.map_some, Option.some.injEq, behind,
    if_neg hopen, Worker.finishRelease] at hwork
  subst hwork
  refine ⟨h.of_one (b := b) h.heads (by simp) (fun b' hb => ?_) ?_, ?_⟩
  · have hplace : ∀ j, (⟨b', j⟩ : ContextPlace) ≠ ⟨b, i⟩ := fun j heq =>
      hb (congrArg ContextPlace.buffer heq)
    simp [State.view, State.pointAt, Worker.reads, hpoint, Function.update_of_ne (hplace _),
      Ne.symm hb]
  · refine .advance types i hi ⟨⟨fun j hj hlt => ?_, hheld.chain.closed⟩, hheld.refs, hheld.pool,
      hheld.filling, hheld.waiting, hheld.phase⟩ ?_ ?_
    · have hplace : (⟨b, j⟩ : ContextPlace) ≠ ⟨b, i⟩ := by
        simp only [ne_eq, ContextPlace.mk.injEq, true_and]
        omega
      simp only [State.view, Function.update_of_ne hplace]
      exact hheld.chain.stored j (by omega) hlt
    · simp [State.view, hstored, stored, hi]
    · simp [State.view, State.pointAt, Worker.reads, hpushed]
  · exact Prod.Lex.right _ (by simp [State.rank, hpoint, hpushed])

/-- The last `Release` of a chain pushes the buffer into the pool, and goes on. -/
theorem Sound.work_last_finish (h : Sound s) (hpoint : s.worker.point = .finish c contextType true)
    (hwork : s.work = some s') : Sound s' ∧ s'.Before s := by
  obtain ⟨b, i⟩ := c
  have hreads : s.worker.reads = some ⟨b, i⟩ := by simp [Worker.reads, hpoint]
  rcases (h.fits b).at_last_finish (by simpa [State.view, hpoint] using pointAt_self hreads) with
    ⟨hpushed, types, i, hi, hheld, hc, rfl⟩ | ⟨hpushed, hpooled, i, hc, hnext⟩
  · -- `ReleaseReadBuffer`
    cases hc
    have hstored : s.worker.memory ⟨b, i⟩ = stored b types i :=
      hheld.chain.stored i le_rfl (by omega)
    simp only [State.work, hpoint, hpushed, hstored, stored, Option.some.injEq] at hwork
    subst hwork
    refine ⟨h.of_one (b := b) h.heads (by simp [State.push, hpoint]) (fun b' hb => ?_) ?_, ?_⟩
    · simp [State.view, State.pointAt, Worker.reads, hpoint, State.push, State.record,
        Function.update_of_ne hb, Ne.symm hb]
    · have hphase : phase b (s.log b) = some (.submitted types.length (i + 1)) := hheld.phase
      refine .leave i (types.getD i .SessionData) ⟨?_, hheld.filling, hheld.waiting, ?_, ?_⟩ ?_ ?_
      · simp [State.view, State.push]
      · simp [State.view, State.push]
      · simp [State.view, State.push, State.record, phase_append, hphase, Phase.next, ← hi]
      · simp [State.view, State.push, hstored, stored, ← hi]
      · simp [State.view, State.pointAt, Worker.reads, State.push, hpoint]
    · refine Prod.Lex.right _ ?_
      simp only [State.rank, State.push, hpoint, hpushed, Function.update_self,
        Bool.false_eq_true, if_true, if_false]
      omega
  · -- the rest of `Release`
    cases hc
    simp only [State.work, hpoint, hpushed, Option.some.injEq] at hwork
    subst hwork
    have hpooled' : Pooled ((s.leave ⟨b, i⟩ contextType).view b) :=
      ⟨hpooled.pool, hpooled.filling, hpooled.waiting, hpooled.refs, hpooled.phase⟩
    refine ⟨h.of_one (b := b) h.heads (fun _ => rfl) (fun b' hb => ?_) ?_, ?_⟩
    · have hplace : ∀ j, (⟨b', j⟩ : ContextPlace) ≠ ⟨b, i⟩ := fun j heq =>
        hb (congrArg ContextPlace.buffer heq)
      by_cases hclosed : contextType = .SessionClosed
      · simp [State.view, State.pointAt, Worker.reads, hpoint, State.leave, behind, hclosed,
          Worker.finishRelease, Function.update_of_ne (hplace _), Ne.symm hb]
      · simp [State.view, State.pointAt, Worker.reads, hpoint, State.leave, behind, hclosed,
          Worker.finishRelease, Function.update_of_ne (hplace _), Ne.symm hb]
    · by_cases hclosed : contextType = .SessionClosed
      · -- `context = nullptr; continue`
        refine .pooled hpooled' ?_
        simp [State.view, State.pointAt, Worker.reads, State.leave, behind, hclosed]
      · refine .last i hpooled' ?_ ?_
        · simpa [State.view, State.leave, Worker.finishRelease] using hnext
        · simp [State.view, State.pointAt, Worker.reads, State.leave, behind, hclosed]
    · have hrefs : s.worker.refs b = 0 := hpooled.refs
      refine Prod.Lex.right _ ?_
      by_cases hclosed : contextType = .SessionClosed
      · simp [State.rank, State.leave, behind, hclosed, hpoint, hpushed]
      · simp [State.rank, State.leave, behind, hclosed, hpoint, hpushed, hrefs,
          Worker.finishRelease]

theorem Sound.work_advance (h : Sound s) (hpoint : s.worker.point = .advance c)
    (hwork : s.work = some s') : Sound s' ∧ s'.Before s := by
  obtain ⟨b, i⟩ := c
  have hreads : s.worker.reads = some ⟨b, i⟩ := by simp [Worker.reads, hpoint]
  obtain ⟨hpushed, hplace⟩ :=
    (h.fits b).at_advance (by simpa [State.view, hpoint] using pointAt_self hreads)
  simp only [State.work, Worker.work, hpoint, Option.map_some, Option.some.injEq] at hwork
  rcases hplace with ⟨types, i, hi, hheld, hc, hnext⟩ | ⟨hpooled, i, hc, hnext⟩
  · cases hc
    have hentry : entry (s.worker.memory ⟨b, i⟩).next = .dispatch ⟨b, i + 1⟩ := by
      rw [show (s.worker.memory ⟨b, i⟩).next = some ⟨b, i + 1⟩ from hnext]
      rfl
    rw [hentry] at hwork
    subst hwork
    refine ⟨h.of_one (b := b) h.heads (by simp) (fun b' hb => ?_) ?_, ?_⟩
    · simp [State.view, State.pointAt, Worker.reads, hpoint, Ne.symm hb]
    · refine .dispatch types (i + 1) hi ⟨hheld.chain, hheld.refs, hheld.pool, hheld.filling,
        hheld.waiting, hheld.phase⟩ ?_
      simp [State.view, State.pointAt, Worker.reads, hpushed]
    · exact Prod.Lex.right _ (by simp [State.rank, hpoint])
  · cases hc
    have hentry : entry (s.worker.memory ⟨b, i⟩).next = .chains := by
      rw [show (s.worker.memory ⟨b, i⟩).next = none from hnext]
      rfl
    rw [hentry] at hwork
    subst hwork
    refine ⟨h.of_one (b := b) h.heads (fun _ => hpushed) (fun b' hb => ?_) ?_, ?_⟩
    · simp [State.view, State.pointAt, Worker.reads, hpoint, Ne.symm hb]
    · refine .pooled ⟨hpooled.pool, hpooled.filling, hpooled.waiting, hpooled.refs,
        hpooled.phase⟩ ?_
      simp [State.view, State.pointAt, Worker.reads]
    · exact Prod.Lex.right _ (by simp [State.rank, hpoint])

theorem Sound.work (h : Sound s) (hwork : s.work = some s') : Sound s' ∧ s'.Before s := by
  cases hpoint : s.worker.point with
  | chains =>
      exact h.work_chains hpoint hwork
  | dispatch c =>
      exact h.work_dispatch hpoint hwork
  | release c contextType =>
      exact h.work_release hpoint hwork
  | finish c contextType last =>
      cases last with
      | false =>
          exact h.work_finish hpoint hwork
      | true =>
          exact h.work_last_finish hpoint hwork
  | advance c =>
      exact h.work_advance hpoint hwork

end Work

/-! ### The IO threads -/

section Threads

variable {s s' : State} {b : Nat} {types : List ContextType} {contextType : ContextType}

theorem pointAt_none (halone : ∀ c, s.worker.reads = some c → c.buffer ≠ b) :
    s.pointAt b = none := by
  cases hreads : s.worker.reads with
  | none =>
      simp [State.pointAt, hreads]
  | some c =>
      simp [State.pointAt, hreads, halone c hreads]

theorem Sound.take (h : Sound s) (hpool : s.pool b = true)
    (halone : ∀ c, s.worker.reads = some c → c.buffer ≠ b) : Sound (s.take b) := by
  have hpoint : (s.view b).point = none := pointAt_none halone
  have hpooled : Pooled (s.view b) := (h.fits b).of_pool hpool hpoint
  refine h.of_one (b := b) h.heads h.pushed (fun b' hb => ?_) ?_
  · simp [State.view, State.pointAt, State.take, Function.update_of_ne hb]
  · exact .filling [] ⟨by simp, by simp⟩ hpooled.refs (by simp [State.view, State.take])
      (by simp [State.view, State.take]) hpooled.waiting hpooled.phase hpoint

/-- One context more in a buffer. -/
theorem Sound.prepare (h : Sound s) (hfilling : s.filling b = some types)
    (hopen : .SessionClosed ∉ types) : Sound (s.prepare b types contextType) := by
  obtain ⟨hchain, hrefs, hpool, hwaiting, hphase, hpoint⟩ := (h.fits b).of_filling hfilling
  refine h.of_one (b := b) h.heads h.pushed (fun b' hb => ?_) ?_
  · simp [State.view, State.pointAt, Worker.reads, State.prepare, hb]
  · refine .filling (types ++ [contextType]) ⟨fun j _ hj => ?_, fun j hj => ?_⟩ ?_ hpool
      (by simp [State.view, State.prepare]) hwaiting hphase hpoint
    · -- the new context, the one that is linked to it, and those in front
      rw [List.length_append, List.length_singleton] at hj
      by_cases hnew : j = types.length
      · simp [State.view, State.prepare, hnew, stored]
      · have hplace : (⟨b, j⟩ : ContextPlace) ≠ ⟨b, types.length⟩ := by
          simpa using hnew
        have hfirst : s.worker.memory ⟨b, j⟩ = stored b types j :=
          hchain.stored j (Nat.zero_le j) (by omega)
        have hget : (types ++ [contextType])[j]? = types[j]? :=
          List.getElem?_append_left (by omega)
        by_cases hlinked : j + 1 = types.length
        · simp [State.view, State.prepare, Function.update_of_ne hplace, hlinked, hfirst, stored,
            hget]
        · have hmore : j + 1 < types.length := by omega
          have hmore' : j + 1 < types.length + 1 := by omega
          simp [State.view, State.prepare, Function.update_of_ne hplace, hlinked, hfirst, stored,
            hget, hmore, hmore']
    · rw [List.length_append, List.length_singleton] at hj
      have hlt : j < types.length := by omega
      rw [List.getD_eq_getElem?_getD, List.getElem?_append_left hlt, List.getElem?_eq_getElem hlt]
      exact fun heq => hopen (heq ▸ List.getElem_mem hlt)
    · have hrefs' : s.worker.refs b = types.length := hrefs
      simp [State.view, State.prepare, hrefs']

theorem Sound.submit (h : Sound s) (hfilling : s.filling b = some types) (hne : types ≠ []) :
    Sound (s.submit b types) := by
  obtain ⟨hchain, hrefs, hpool, hwaiting, hphase, hpoint⟩ := (h.fits b).of_filling hfilling
  refine h.of_one (b := b) ?_ h.pushed (fun b' hb => ?_) ?_
  · intro c hc
    rcases List.mem_append.1 hc with hc | hc
    · exact h.heads c hc
    · rw [List.mem_singleton.1 hc]
  · have hplace : (⟨b, 0⟩ : ContextPlace) ≠ ⟨b', 0⟩ := fun heq =>
      hb (congrArg ContextPlace.buffer heq).symm
    simp [State.view, State.pointAt, Worker.reads, State.submit, State.record,
      Function.update_of_ne hb, hplace]
  · refine .waiting types hne ⟨hchain, (add_zero _).trans hrefs, hpool, ?_, ?_, ?_⟩ hpoint
    · simp [State.view, State.submit]
    · have hnone : s.worker.contexts.count ⟨b, 0⟩ = 0 := hwaiting
      simp [State.view, State.submit, hnone]
    · have hrest : phase b (s.log b) = some .rest := hphase
      obtain ⟨count, hcount⟩ := Nat.exists_eq_succ_of_ne_zero fun hzero =>
        hne (List.length_eq_zero_iff.1 hzero)
      simp [State.view, State.submit, State.record, phase_append, hrest, hcount, Phase.next]

theorem Sound.giveBack (h : Sound s) (hfilling : s.filling b = some types) :
    Sound (s.giveBack b) := by
  obtain ⟨-, -, -, hwaiting, hphase, hpoint⟩ := (h.fits b).of_filling hfilling
  refine h.of_one (b := b) h.heads h.pushed (fun b' hb => ?_) ?_
  · simp [State.view, State.pointAt, Worker.reads, State.giveBack, Function.update_of_ne hb]
  · exact .pooled ⟨by simp [State.view, State.giveBack], by simp [State.view, State.giveBack],
      hwaiting, by simp [State.view, State.giveBack], hphase⟩ hpoint

end Threads

/-! ### Runs -/

section Runs

variable {s s' : State} {b : Nat} {e : Event}

theorem Sound.step (h : Sound s) (hstep : Step s e s') (halone : LeftAlone s e) : Sound s' := by
  cases hstep with
  | work hwork =>
      exact (h.work hwork).1
  | take hpool =>
      exact h.take hpool halone
  | prepare contextType hfilling hopen =>
      exact h.prepare hfilling hopen
  | submit hfilling hne =>
      exact h.submit hfilling hne
  | giveBack hfilling =>
      exact h.giveBack hfilling

theorem Initial.sound (h : Initial s) : Sound s := by
  refine ⟨by simp [h.contexts], fun _ => h.pushed, fun b => .pooled ⟨h.pool b, h.filling b, ?_,
    h.refs b, ?_⟩ ?_⟩
  · simp [State.view, h.contexts]
  · simp [State.view, h.log b, phase]
  · simp [State.view, State.pointAt, Worker.reads, h.point]

theorem sound_of_reachable (h : (machine.restrict LeftAlone).Reachable s) : Sound s := by
  refine Machine.Reachable.invariant (fun s hs => ?_) (fun s e s' hs hstep => ?_) h
  · exact Initial.sound hs
  · exact hs.step hstep.2 hstep.1

/-- The records of a buffer are in turn. -/
theorem Sound.phase_ne_none (h : Sound s) : phase b (s.log b) ≠ none := by
  show (s.view b).phase ≠ none
  cases h.fits b with
  | pooled h | leave _ _ h | last _ h =>
      simp [h.phase]
  | filling _ _ _ _ _ _ hphase =>
      simp [hphase]
  | waiting _ _ h | dispatch _ _ _ h | release _ _ _ h | finish _ _ _ h | push _ _ _ h
  | advance _ _ _ h =>
      simp [h.phase]

/-- When the worker has nothing left to do, every buffer that was submitted has been returned. -/
theorem Sound.phase_of_done (h : Sound s) (hpoint : s.worker.point = .chains)
    (hcontexts : s.worker.contexts = []) : phase b (s.log b) = some .rest := by
  have hnone : (s.view b).point = none := by
    simp [State.view, State.pointAt, Worker.reads, hpoint]
  have hzero : (s.view b).waiting = 0 := by simp [State.view, hcontexts]
  show (s.view b).phase = some .rest
  cases h.fits b with
  | pooled h | leave _ _ h | last _ h =>
      exact h.phase
  | filling _ _ _ _ _ _ hphase =>
      exact hphase
  | waiting _ _ h =>
      simp [h.waiting] at hzero
  | dispatch _ _ _ _ hat | release _ _ _ _ hat | finish _ _ _ _ hat | push _ _ _ _ hat
  | advance _ _ _ _ _ hat =>
      simp [hat] at hnone

/-! ### The worker comes to an end -/

theorem done_of_work (h : s.work = none) : s.worker.point = .chains ∧ s.worker.contexts = [] := by
  unfold State.work Worker.work at h
  cases hpoint : s.worker.point with
  | chains =>
      cases hcontexts : s.worker.contexts with
      | nil =>
          exact ⟨rfl, rfl⟩
      | cons c contexts =>
          simp [hpoint, hcontexts] at h
  | dispatch c =>
      cases hsubject : (s.worker.memory c).networkSubject <;> simp [hpoint, hsubject] at h
  | release c contextType =>
      simp only [hpoint] at h
      split at h <;> simp at h
  | finish c contextType last =>
      cases last with
      | false =>
          simp [hpoint] at h
      | true =>
          simp only [hpoint] at h
          split at h <;> simp at h
  | advance c =>
      simp [hpoint] at h

/-- Records are only added. -/
theorem log_work (h : s.work = some s') : s.log b <+: s'.log b := by
  have hrecord : ∀ b' r, s.log b <+: s.record b' r b := by
    intro b' r
    by_cases hb : b = b'
    · subst hb
      simp [State.record]
    · simp [State.record, Function.update_of_ne hb]
  unfold State.work at h
  cases hpoint : s.worker.point with
  | dispatch c =>
      simp only [hpoint, Option.map_eq_some_iff] at h
      obtain ⟨w, -, rfl⟩ := h
      by_cases hsubject : (s.worker.memory c).networkSubject = .Socket
      · simpa only [if_pos hsubject] using hrecord _ _
      · simp only [if_neg hsubject]
        exact List.prefix_refl _
  | finish c contextType last =>
      cases last with
      | false =>
          simp only [hpoint, Option.map_eq_some_iff] at h
          obtain ⟨w, -, rfl⟩ := h
          exact List.prefix_refl _
      | true =>
          simp only [hpoint] at h
          split at h <;> cases h
          · exact hrecord _ _
          · exact List.prefix_refl _
  | chains | release c contextType | advance c =>
      simp only [hpoint, Option.map_eq_some_iff] at h
      obtain ⟨w, -, rfl⟩ := h
      exact List.prefix_refl _

/-- Left to itself, the worker comes to the end of all that was submitted. -/
theorem drains (s : State) (h : Sound s) :
    ∃ n s', machine.Run s (List.replicate n .work) s' ∧ s'.work = none ∧ Sound s' ∧
      ∀ b, s.log b <+: s'.log b := by
  cases hwork : s.work with
  | none =>
      exact ⟨0, s, .nil s, hwork, h, fun b => List.prefix_refl _⟩
  | some s₁ =>
      obtain ⟨hsound, hbefore⟩ := h.work hwork
      obtain ⟨n, s', hrun, hdone, hsound', hlog⟩ := drains s₁ hsound
      exact ⟨n + 1, s', .cons (.work hwork) hrun, hdone, hsound',
        fun b => (log_work hwork).trans (hlog b)⟩
termination_by (s.worker.contexts.length, s.rank)
decreasing_by exact hbefore

/-- With IO threads that leave the buffers alone, the records of every buffer are in turn, and those
that are submitted come back. -/
theorem returned_in_turn (h : (machine.restrict LeftAlone).Reachable s) :
    (∀ b, phase b (s.log b) ≠ none) ∧
      ∃ n s', machine.Run s (List.replicate n .work) s' ∧ s'.work = none ∧
        ∀ b, s.log b <+: s'.log b ∧ phase b (s'.log b) = some .rest := by
  have hsound := sound_of_reachable h
  obtain ⟨n, s', hrun, hdone, hsound', hlog⟩ := drains s hsound
  obtain ⟨hpoint, hcontexts⟩ := done_of_work hdone
  exact ⟨fun b => hsound.phase_ne_none, n, s', hrun, hdone,
    fun b => ⟨hlog b, hsound'.phase_of_done hpoint hcontexts⟩⟩

/-! ### A chain -/

/-- An IO thread prepares contexts one behind the other. -/
theorem prepare_run (more : List ContextType) (types : List ContextType)
    (hfilling : s.filling b = some types) (hopen : .SessionClosed ∉ types ++ more) :
    ∃ s', machine.Run s (more.map (.prepare b)) s' ∧ s'.filling b = some (types ++ more) ∧
      s'.worker.refs b = s.worker.refs b + more.length ∧ s'.log b = s.log b ∧
      s'.worker.contexts = s.worker.contexts := by
  induction more generalizing s types with
  | nil =>
      exact ⟨s, .nil s, by simpa using hfilling, by simp, rfl, rfl⟩
  | cons contextType more ih =>
      have hnext : (s.prepare b types contextType).filling b = some (types ++ [contextType]) := by
        simp [State.prepare]
      obtain ⟨s', hrun, hfilling', hrefs, hlog, hcontexts⟩ :=
        ih (types ++ [contextType]) hnext (by simpa using hopen)
      have hopen' : .SessionClosed ∉ types := fun hmem =>
        hopen (List.mem_append_left _ hmem)
      refine ⟨s', .cons (.prepare contextType hfilling hopen') hrun, by simpa using hfilling', ?_, hlog,
        hcontexts⟩
      rw [hrefs]
      simp only [State.prepare, Function.update_self, List.length_cons]
      push_cast
      ring

/-- A chain is prepared and submitted: its contexts are counted. -/
theorem submit_run {types : List ContextType} (hfilling : s.filling b = some [])
    (hrefs : s.worker.refs b = 0) (hne : types ≠ []) (hopen : .SessionClosed ∉ types) :
    ∃ s', machine.Run s (types.map (.prepare b) ++ [.submit b]) s' ∧
      s'.worker.refs b = types.length ∧ s'.log b = s.log b ++ [.submitted types.length] ∧
      s'.worker.contexts = s.worker.contexts ++ [⟨b, 0⟩] := by
  obtain ⟨s₁, hrun, hfilling₁, hrefs₁, hlog, hcontexts⟩ :=
    prepare_run types [] hfilling (by simpa using hopen)
  refine ⟨s₁.submit b types, hrun.append (.submit (by simpa using hfilling₁) hne), ?_, ?_, ?_⟩
  · simp [State.submit, hrefs₁, hrefs]
  · simp [State.submit, State.record, hlog]
  · simp [State.submit, hcontexts]

end Runs

/-! ## A buffer that is taken too early -/

/-- Before the first read. -/
def idle : State where
  worker := ⟨fun _ => ⟨.Socket, .SessionData, false, none, none⟩, fun _ => 0, fun _ => true, [],
    .chains, [], []⟩
  pool := fun _ => true
  filling := fun _ => none
  log := fun _ => []

theorem initial_idle : Initial idle :=
  ⟨rfl, rfl, fun _ => rfl, fun _ => rfl, fun _ => rfl, rfl, fun _ => rfl⟩

/-- The buffer of a chain of one context is taken again before `context->next` is read, and has got two
contexts by then.  The worker goes on with the second one and releases it, so that the `Release` of the
first one gives the buffer back, with the second one still to come. -/
theorem returned_by_first :
    ∃ s, machine.Reachable s ∧
      s.log 0 = [.submitted 1, .dispatched ⟨0, 0⟩, .returned ⟨0, 0⟩, .dispatched ⟨0, 1⟩,
        .submitted 2, .dispatched ⟨0, 0⟩, .returned ⟨0, 0⟩] ∧
      phase 0 (s.log 0) = none ∧ (s.worker.memory ⟨0, 0⟩).next = some ⟨0, 1⟩ := by
  have hrun : ∃ s, machine.Run idle
      [.take 0, .prepare 0 .SessionData, .submit 0, .work, .work, .work, .work, .work,
        .take 0, .prepare 0 .SessionData, .prepare 0 .SessionData, .work, .work, .work, .work, .work,
        .submit 0, .work, .work, .work, .work] s ∧
      s.log 0 = [.submitted 1, .dispatched ⟨0, 0⟩, .returned ⟨0, 0⟩, .dispatched ⟨0, 1⟩,
        .submitted 2, .dispatched ⟨0, 0⟩, .returned ⟨0, 0⟩] ∧
      (s.worker.memory ⟨0, 0⟩).next = some ⟨0, 1⟩ := by
    refine ⟨_, .cons (.take rfl) (.cons (.prepare _ rfl (by decide)) (.cons (.submit rfl (by decide))
      (.cons (.work rfl) (.cons (.work rfl) (.cons (.work rfl) (.cons (.work rfl) (.cons (.work rfl)
      (.cons (.take rfl) (.cons (.prepare _ rfl (by decide)) (.cons (.prepare _ rfl (by decide))
      (.cons (.work rfl) (.cons (.work rfl) (.cons (.work rfl) (.cons (.work rfl) (.cons (.work rfl)
      (.cons (.submit rfl (by decide)) (.cons (.work rfl) (.cons (.work rfl) (.cons (.work rfl)
      (.cons (.work rfl) (.nil _))))))))))))))))))))), rfl, rfl⟩
  obtain ⟨s, hrun, hlog, hnext⟩ := hrun
  exact ⟨s, hrun.reachable (.init initial_idle), hlog, by rw [hlog]; decide, hnext⟩

end Returns
end Engine
end SeamlessServer
