import Mathlib.Algebra.Order.Group.Multiset
import Mathlib.Tactic.Abel
import SeamlessServer.Data.Machine

/-!
# Concurrent.LinearWorkQueue — the queue of a logic worker

`concurrent/LinearWorkQueue.h` and the loop of `LinearWorker::WorkerMain` that empties it.  Two bounded
queues change roles: producers push into the submission queue, the worker pops from the fetch queue
until it is empty and then exchanges the two pointers.  Nothing keeps a producer from pushing into a
queue whose pointer it has read before the exchange.

* `conserved`: no value is lost or popped twice, whatever the threads do;
* `pops_in_order`: the values of a producer are popped in the order in which they were pushed, unless
  a push overtakes an earlier one of the same producer;
* `noOvertaking_of_timely`: that takes a push into the fetch queue after the worker has found it empty.
-/

namespace SeamlessServer
namespace Concurrent

universe u v

/-! ## Bounded queues -/

/-- `atomic_queue::AtomicQueue`, each of whose operations is one step. -/
structure AtomicQueue (T : Type u) (capacity : Nat) where
  items : List T
  bounded : items.length ≤ capacity

namespace AtomicQueue

variable {T : Type u} {capacity : Nat}

def empty : AtomicQueue T capacity := ⟨[], Nat.zero_le capacity⟩

/-- `try_push`; nothing if the queue is full. -/
def tryPush (q : AtomicQueue T capacity) (value : T) : Option (AtomicQueue T capacity) :=
  if h : q.items.length < capacity then
    some ⟨q.items ++ [value], by rw [List.length_append]; exact h⟩
  else
    none

/-- `try_pop`; nothing if the queue is empty. -/
def tryPop : AtomicQueue T capacity → Option (T × AtomicQueue T capacity)
  | ⟨[], _⟩ => none
  | ⟨value :: rest, h⟩ => some (value, ⟨rest, Nat.le_of_succ_le h⟩)

theorem items_of_tryPush {q q' : AtomicQueue T capacity} {value : T}
    (h : q.tryPush value = some q') : q'.items = q.items ++ [value] := by
  unfold tryPush at h
  split at h
  · cases h
    rfl
  · cases h

theorem items_of_tryPop {q q' : AtomicQueue T capacity} {value : T}
    (h : q.tryPop = some (value, q')) : q.items = value :: q'.items := by
  rcases q with ⟨_ | ⟨first, rest⟩, hbounded⟩
  · cases h
  · cases h
    rfl

theorem items_of_tryPop_none {q : AtomicQueue T capacity} (h : q.tryPop = none) : q.items = [] := by
  rcases q with ⟨_ | ⟨first, rest⟩, hbounded⟩
  · rfl
  · cases h

end AtomicQueue

/-! ## The two queues -/

/-- One of the two underlying queues. -/
inductive Side
  | first
  | second
  deriving DecidableEq, Repr

namespace Side

def other : Side → Side
  | first => second
  | second => first

@[simp]
theorem other_other (q : Side) : q.other.other = q := by
  cases q <;> rfl

@[simp]
theorem other_ne (q : Side) : q.other ≠ q := by
  cases q <;> simp [other]

@[simp]
theorem ne_other (q : Side) : q ≠ q.other := (other_ne q).symm

theorem eq_or_eq_other (q d : Side) : q = d ∨ q = d.other := by
  cases q <;> cases d <;> simp [other]

end Side

/-- A pushed value, with its producer and the number of values pushed before it. -/
structure Item (P : Type u) (T : Type v) where
  producer : P
  ticket : Nat
  value : T
  deriving DecidableEq

/-- Where the worker is in its loop. -/
inductive Phase
  /-- Before the exchange. -/
  | start
  /-- `_submission_queue` has been written, and its old value is kept for the second write. -/
  | swapping (submission : Side)
  /-- Before the first step of `TryPop`. -/
  | fetching
  /-- `_fetch_queue` has been read. -/
  | popping (q : Side)
  deriving DecidableEq, Repr

structure LinearWorkQueue (P : Type u) (T : Type v) (capacity : Nat) where
  queue : Side → AtomicQueue (Item P T) capacity := fun _ => .empty
  submissionQueue : Side := .first
  fetchQueue : Side := .second
  /-- The producers that are between the two steps of `TryPush`, with the pointer they have read. -/
  pushing : P → Option (T × Side) := fun _ => none
  worker : Phase := .start
  /-- The values of the pushes that succeeded, and the values that were popped. -/
  pushed : List (Item P T) := []
  popped : List (Item P T) := []

inductive Event (P : Type u) (T : Type v)
  | readSubmissionQueue (p : P) (value : T)
  | push (p : P)
  | writeSubmissionQueue
  | writeFetchQueue
  | readFetchQueue
  | pop

namespace LinearWorkQueue

variable {P : Type u} {T : Type v} {capacity : Nat} [DecidableEq P]

/-- The second step of `TryPush`, and what `TryPush` returns. -/
def push (s : LinearWorkQueue P T capacity) (p : P) (value : T) (q : Side) :
    LinearWorkQueue P T capacity × Bool :=
  let item : Item P T := ⟨p, s.pushed.length, value⟩
  let s := { s with pushing := Function.update s.pushing p none }
  match (s.queue q).tryPush item with
  | none => (s, false)
  | some contents =>
      ({ s with
          queue := Function.update s.queue q contents
          pushed := s.pushed ++ [item] },
        true)

/-- The second step of `TryPop`.  The loop of the worker goes on until it fails. -/
def pop (s : LinearWorkQueue P T capacity) (q : Side) : LinearWorkQueue P T capacity :=
  match (s.queue q).tryPop with
  | none => { s with worker := .start }
  | some (item, contents) =>
      { s with
        queue := Function.update s.queue q contents
        popped := s.popped ++ [item]
        worker := .fetching }

/-- One step of a thread, nothing if the thread is elsewhere. -/
def next (s : LinearWorkQueue P T capacity) :
    Event P T → Option (LinearWorkQueue P T capacity)
  | .readSubmissionQueue p value =>
      match s.pushing p with
      -- a producer takes the pointer first and pushes to it later
      | none =>
          some { s with pushing := Function.update s.pushing p (some (value, s.submissionQueue)) }
      | some _ => none
  | .push p => (s.pushing p).map fun (value, q) => (s.push p value q).1
  | .writeSubmissionQueue =>
      -- `LockSubmissionQueue` swaps the two pointers in two writes
      match s.worker with
      | .start =>
          some { s with
            submissionQueue := s.fetchQueue
            worker := .swapping s.submissionQueue }
      | _ => none
  | .writeFetchQueue =>
      match s.worker with
      | .swapping submission => some { s with fetchQueue := submission, worker := .fetching }
      | _ => none
  | .readFetchQueue =>
      match s.worker with
      | .fetching => some { s with worker := .popping s.fetchQueue }
      | _ => none
  | .pop =>
      match s.worker with
      | .popping q => some (s.pop q)
      | _ => none

variable (P T capacity) in
/-- Any number of producers and the worker, interleaved in any way. -/
def machine : Machine (LinearWorkQueue P T capacity) (Event P T) where
  init := fun s => s = {}
  step := fun s e s' => s.next e = some s'

/-- What a step can do. -/
inductive Step (s : LinearWorkQueue P T capacity) :
    Event P T → LinearWorkQueue P T capacity → Prop where
  | readSubmissionQueue {p : P} (value : T) :
      s.pushing p = none →
        Step s (.readSubmissionQueue p value)
          { s with pushing := Function.update s.pushing p (some (value, s.submissionQueue)) }
  | push {p : P} {value : T} {q : Side} :
      s.pushing p = some (value, q) → Step s (.push p) (s.push p value q).1
  | writeSubmissionQueue :
      s.worker = .start →
        Step s .writeSubmissionQueue
          { s with submissionQueue := s.fetchQueue, worker := .swapping s.submissionQueue }
  | writeFetchQueue {submission : Side} :
      s.worker = .swapping submission →
        Step s .writeFetchQueue { s with fetchQueue := submission, worker := .fetching }
  | readFetchQueue :
      s.worker = .fetching → Step s .readFetchQueue { s with worker := .popping s.fetchQueue }
  | pop {q : Side} : s.worker = .popping q → Step s .pop (s.pop q)

theorem step_of_next {s s' : LinearWorkQueue P T capacity} {e : Event P T}
    (h : s.next e = some s') : s.Step e s' := by
  cases e with
  | push p =>
      rcases Option.map_eq_some_iff.1 h with ⟨⟨value, q⟩, hpushing, rfl⟩
      exact .push hpushing
  | readSubmissionQueue p value =>
      unfold next at h
      dsimp only at h
      split at h <;> cases h
      next hpushing => exact .readSubmissionQueue value hpushing
  | writeSubmissionQueue =>
      unfold next at h
      dsimp only at h
      split at h <;> cases h
      next hworker => exact .writeSubmissionQueue hworker
  | writeFetchQueue =>
      unfold next at h
      dsimp only at h
      split at h <;> cases h
      next hworker => exact .writeFetchQueue hworker
  | readFetchQueue =>
      unfold next at h
      dsimp only at h
      split at h <;> cases h
      next hworker => exact .readFetchQueue hworker
  | pop =>
      unfold next at h
      dsimp only at h
      split at h <;> cases h
      next hworker => exact .pop hworker

/-! ## No value is lost -/

section Conservation

variable {s s' : LinearWorkQueue P T capacity} {e : Event P T}

/-- The values in the two queues. -/
def contents (s : LinearWorkQueue P T capacity) : Multiset (Item P T) :=
  (s.queue .first).items + (s.queue .second).items

omit [DecidableEq P] in
theorem contents_eq (s : LinearWorkQueue P T capacity) (q : Side) :
    s.contents = ((s.queue q).items : Multiset (Item P T)) + (s.queue q.other).items := by
  cases q with
  | first =>
      rfl
  | second =>
      exact add_comm _ _

/-- A step adds a value to a queue, takes the first value out of one, or leaves the queues as they
are. -/
theorem next_cases (h : s.next e = some s') :
    (s'.queue = s.queue ∧ s'.pushed = s.pushed ∧ s'.popped = s.popped) ∨
      (∃ q item, (s'.queue q).items = (s.queue q).items ++ [item] ∧
        s'.queue q.other = s.queue q.other ∧ s'.pushed = s.pushed ++ [item] ∧
        s'.popped = s.popped) ∨
      ∃ q item, (s.queue q).items = item :: (s'.queue q).items ∧
        s'.queue q.other = s.queue q.other ∧ s'.pushed = s.pushed ∧
        s'.popped = s.popped ++ [item] := by
  cases step_of_next h with
  | readSubmissionQueue value hpushing =>
      exact .inl ⟨rfl, rfl, rfl⟩
  | @push p value q hpushing =>
      unfold push
      dsimp only
      split
      next =>
        exact .inl ⟨rfl, rfl, rfl⟩
      next contents hpush =>
        have hself : Function.update s.queue q contents q = contents := Function.update_self ..
        exact .inr (.inl ⟨q, _, (congrArg AtomicQueue.items hself).trans
          (AtomicQueue.items_of_tryPush hpush), Function.update_of_ne (Side.other_ne q) _ _, rfl,
            rfl⟩)
  | writeSubmissionQueue hworker =>
      exact .inl ⟨rfl, rfl, rfl⟩
  | writeFetchQueue hworker =>
      exact .inl ⟨rfl, rfl, rfl⟩
  | readFetchQueue hworker =>
      exact .inl ⟨rfl, rfl, rfl⟩
  | @pop q hworker =>
      unfold pop
      split
      next =>
        exact .inl ⟨rfl, rfl, rfl⟩
      next item contents hpop =>
        have hself : Function.update s.queue q contents q = contents := Function.update_self ..
        refine .inr (.inr ⟨q, item, ?_, Function.update_of_ne (Side.other_ne q) _ _, rfl, rfl⟩)
        rw [AtomicQueue.items_of_tryPop hpop]
        exact congrArg (fun q : AtomicQueue _ _ => item :: q.items) hself.symm

/-- What was pushed was popped or is in one of the queues. -/
def Conserved (s : LinearWorkQueue P T capacity) : Prop :=
  (s.pushed : Multiset (Item P T)) = (s.popped : Multiset (Item P T)) + s.contents

theorem Conserved.next (h : s.Conserved) (hstep : s.next e = some s') : s'.Conserved := by
  unfold Conserved at h ⊢
  rcases next_cases hstep with ⟨hqueue, hpushed, hpopped⟩ |
    ⟨q, item, hitems, hother, hpushed, hpopped⟩ | ⟨q, item, hitems, hother, hpushed, hpopped⟩
  · rw [hpushed, hpopped, h, contents, contents, hqueue]
  · rw [hpushed, hpopped, s'.contents_eq q, hitems, hother, ← Multiset.coe_add,
      ← Multiset.coe_add, h, s.contents_eq q]
    abel
  · have hcons : ((item :: (s'.queue q).items : List (Item P T)) : Multiset (Item P T)) =
        ([item] : List (Item P T)) + ((s'.queue q).items : Multiset (Item P T)) :=
      (Multiset.coe_add [item] _).symm
    rw [hpushed, hpopped, h, s.contents_eq q, s'.contents_eq q, hitems, hother, hcons,
      ← Multiset.coe_add]
    abel

def values (items : List (Item P T)) : Multiset T := (items.map Item.value : List T)

/-- At every moment the values of the successful pushes are those that were popped and those in the two
queues, and a push that fails changes none of these. -/
theorem conserved (h : (machine P T capacity).Reachable s) :
    values s.pushed = values s.popped +
        (values (s.queue .first).items + values (s.queue .second).items) ∧
      ∀ p value q, (s.push p value q).2 = false →
        (s.push p value q).1.pushed = s.pushed ∧ (s.push p value q).1.popped = s.popped ∧
          (s.push p value q).1.queue = s.queue := by
  constructor
  -- every move keeps the items, and the values with them
  · have hconserved : s.Conserved := by
      refine Machine.Reachable.invariant (P := Conserved) ?_ ?_ h
      · rintro _ rfl
        rfl
      · exact fun s e s' hs hstep => hs.next hstep
    have hmap := congrArg (Multiset.map Item.value) hconserved
    simpa [values, contents] using hmap
  · intro p value q hfailed
    unfold push at hfailed ⊢
    dsimp only at hfailed ⊢
    split at hfailed
    · exact ⟨rfl, rfl, rfl⟩
    · cases hfailed

end Conservation

/-! ## The order of a producer's values -/

section Order

variable {s s' : LinearWorkQueue P T capacity} {e : Event P T}

def valuesOf (p : P) (items : List (Item P T)) : List (Item P T) :=
  items.filter fun item => decide (item.producer = p)

theorem valuesOf_append (p : P) (items items' : List (Item P T)) :
    valuesOf p (items ++ items') = valuesOf p items ++ valuesOf p items' :=
  List.filter_append ..

/-- The values of every producer are popped in the order in which they were pushed. -/
def InOrder (s : LinearWorkQueue P T capacity) : Prop :=
  ∀ p, valuesOf p s.popped <+: valuesOf p s.pushed

omit [DecidableEq P] in
/-- The queue that the worker empties, or that it empties next. -/
def drained (s : LinearWorkQueue P T capacity) : Side :=
  match s.worker with
  | .start => s.submissionQueue
  | .swapping submission => submission
  | .fetching => s.fetchQueue
  | .popping _ => s.fetchQueue

/-- How the pointers and the worker's copy of one agree. -/
def Aligned (s : LinearWorkQueue P T capacity) : Prop :=
  match s.worker with
  | .start => s.fetchQueue = s.submissionQueue.other
  | .swapping submission =>
      s.submissionQueue = submission.other ∧ s.fetchQueue = submission.other
  | .fetching => s.submissionQueue = s.fetchQueue.other
  | .popping q => q = s.fetchQueue ∧ s.submissionQueue = s.fetchQueue.other

/-- If the producers stopped, the worker would pop their values in order. -/
def Sorted (s : LinearWorkQueue P T capacity) : Prop :=
  ∀ p, valuesOf p s.pushed =
    valuesOf p s.popped ++ valuesOf p (s.queue s.drained).items ++
      valuesOf p (s.queue s.drained.other).items

/-- A push into the queue that is emptied first does not overtake a value of its producer in the other
one. -/
def NoOvertaking (s : LinearWorkQueue P T capacity) : Event P T → Prop
  | .push p => ∀ value, s.pushing p = some (value, s.drained) →
      (s.queue s.drained).items.length < capacity →
        ∀ item ∈ (s.queue s.drained.other).items, item.producer ≠ p
  | _ => True

theorem Aligned.next (h : s.Aligned) (hstep : s.next e = some s') : s'.Aligned := by
  unfold Aligned at h
  cases step_of_next hstep with
  | readSubmissionQueue value hpushing =>
      exact h
  | push hpushing =>
      unfold LinearWorkQueue.push
      dsimp only
      split
      · exact h
      · exact h
  | writeSubmissionQueue hworker =>
      rw [hworker] at h
      exact ⟨h, h⟩
  | writeFetchQueue hworker =>
      rw [hworker] at h
      exact h.1
  | readFetchQueue hworker =>
      rw [hworker] at h
      exact ⟨rfl, h⟩
  | pop hworker =>
      rw [hworker] at h
      unfold LinearWorkQueue.pop
      split
      · -- the emptied queue is the next one to be pushed into
        change s.fetchQueue = s.submissionQueue.other
        rw [h.2, Side.other_other]
      · exact h.2

theorem Sorted.of_same (h : s.Sorted) (hqueue : s'.queue = s.queue) (hpushed : s'.pushed = s.pushed)
    (hpopped : s'.popped = s.popped) (hdrained : s'.drained = s.drained) : s'.Sorted := by
  intro p
  rw [hqueue, hpushed, hpopped, hdrained]
  exact h p

/-- A push that overtakes nothing. -/
theorem Sorted.push (h : s.Sorted) {p : P} {value : T} {q : Side}
    (hpushing : s.pushing p = some (value, q)) (hover : s.NoOvertaking (.push p)) :
    (s.push p value q).1.Sorted := by
  unfold LinearWorkQueue.push
  dsimp only
  split
  next =>
    exact h.of_same rfl rfl rfl rfl
  next contents hpush =>
    have hlength : (s.queue q).items.length < capacity := by
      by_contra hfull
      simp [AtomicQueue.tryPush, hfull] at hpush
    let item : Item P T := ⟨p, s.pushed.length, value⟩
    have hitems : contents.items = (s.queue q).items ++ [item] :=
      AtomicQueue.items_of_tryPush hpush
    intro p'
    change valuesOf p' (s.pushed ++ [item]) = valuesOf p' s.popped ++
      valuesOf p' (Function.update s.queue q contents s.drained).items ++
      valuesOf p' (Function.update s.queue q contents s.drained.other).items
    rcases Side.eq_or_eq_other q s.drained with hq | hq
    · -- the new value comes before those of the other queue, of which none is this producer's
      rw [hq] at hitems
      rw [hq, Function.update_self, Function.update_of_ne (Side.other_ne _), hitems,
        valuesOf_append, valuesOf_append, h p']
      by_cases hp : p = p'
      · subst hp
        have hnone : valuesOf p (s.queue s.drained.other).items = [] := by
          refine List.filter_eq_nil_iff.2 fun i hi => ?_
          simpa using hover value (hq ▸ hpushing) (hq ▸ hlength) i hi
        simp [hnone]
      · have hnone : valuesOf p' [item] = [] := by simp [valuesOf, item, hp]
        simp [hnone]
    · rw [hq] at hitems
      rw [hq, Function.update_self, Function.update_of_ne (Side.ne_other _), hitems,
        valuesOf_append, valuesOf_append, h p']
      simp only [List.append_assoc]

theorem Sorted.pop (h : s.Sorted) (haligned : s.Aligned) {q : Side} (hworker : s.worker = .popping q) :
    (s.pop q).Sorted := by
  unfold Aligned at haligned
  rw [hworker] at haligned
  have hdrained : s.drained = q := by
    simp [drained, hworker, haligned.1]
  unfold LinearWorkQueue.pop
  split
  next hpop =>
    -- the queues change roles
    have hitems := AtomicQueue.items_of_tryPop_none hpop
    intro p
    have horder := h p
    rw [hdrained, hitems] at horder
    change valuesOf p s.pushed = valuesOf p s.popped ++ valuesOf p (s.queue s.submissionQueue).items ++
      valuesOf p (s.queue s.submissionQueue.other).items
    rw [haligned.2, Side.other_other, ← haligned.1, hitems, horder]
    simp [valuesOf]
  next item contents hpop =>
    have hitems := AtomicQueue.items_of_tryPop hpop
    intro p
    have horder := h p
    rw [hdrained, hitems] at horder
    change valuesOf p s.pushed = valuesOf p (s.popped ++ [item]) ++
      valuesOf p (Function.update s.queue q contents s.fetchQueue).items ++
      valuesOf p (Function.update s.queue q contents s.fetchQueue.other).items
    rw [← haligned.1, Function.update_self, Function.update_of_ne (Side.other_ne q), horder,
      valuesOf_append, ← List.singleton_append, valuesOf_append]
    simp only [List.append_assoc]

theorem Sorted.next (h : s.Sorted) (haligned : s.Aligned) (hover : s.NoOvertaking e)
    (hstep : s.next e = some s') : s'.Sorted := by
  cases step_of_next hstep with
  | readSubmissionQueue value hpushing =>
      exact h.of_same rfl rfl rfl rfl
  | push hpushing =>
      exact h.push hpushing hover
  | writeSubmissionQueue hworker =>
      exact h.of_same rfl rfl rfl (by simp [drained, hworker])
  | writeFetchQueue hworker =>
      exact h.of_same rfl rfl rfl (by simp [drained, hworker])
  | readFetchQueue hworker =>
      exact h.of_same rfl rfl rfl (by simp [drained, hworker])
  | pop hworker =>
      exact h.pop haligned hworker

theorem Sorted.inOrder (h : s.Sorted) : s.InOrder := by
  intro p
  rw [h p, List.append_assoc]
  exact List.prefix_append _ _

theorem aligned_and_sorted
    (h : ((machine P T capacity).restrict NoOvertaking).Reachable s) : s.Aligned ∧ s.Sorted := by
  refine Machine.Reachable.invariant (P := fun s => s.Aligned ∧ s.Sorted) ?_ ?_ h
  · rintro _ rfl
    exact ⟨rfl, fun _ => rfl⟩
  · rintro s e s' ⟨haligned, hsorted⟩ ⟨hover, hstep⟩
    exact ⟨haligned.next hstep, hsorted.next haligned hover hstep⟩

/-- In every run without overtaking, the values of every producer are popped in the order of its
pushes. -/
theorem pops_in_order (h : ((machine P T capacity).restrict NoOvertaking).Reachable s) :
    s.InOrder :=
  (aligned_and_sorted h).2.inOrder

/-! ### Late pushes -/

/-- No value is pushed into the fetch queue after the worker has found it empty and before it exchanges
the pointers. -/
def Timely (s : LinearWorkQueue P T capacity) : Event P T → Prop
  | .push p => s.worker = .start → ∀ value, s.pushing p ≠ some (value, s.fetchQueue)
  | _ => True

/-- What holds if no push is late. -/
structure Prompt (s : LinearWorkQueue P T capacity) : Prop where
  empty : s.worker = .start → (s.queue s.fetchQueue).items = []
  /-- A producer that has read the pointer to the queue that is emptied first has pushed nothing into
  the other one. -/
  pushing : ∀ p value, s.pushing p = some (value, s.drained) →
    ∀ item ∈ (s.queue s.drained.other).items, item.producer ≠ p

omit [DecidableEq P] in
theorem Prompt.noOvertaking (h : s.Prompt) (e : Event P T) : s.NoOvertaking e := by
  cases e with
  | push p => exact fun value hpushing _ => h.pushing p value hpushing
  | _ => trivial

theorem Prompt.push (h : s.Prompt) {p : P} {value : T} {q : Side}
    (hpushing : s.pushing p = some (value, q)) (htimely : s.Timely (.push p)) :
    (s.push p value q).1.Prompt := by
  have hothers : ∀ {p' value'}, Function.update s.pushing p none p' = some (value', s.drained) →
      p' ≠ p ∧ s.pushing p' = some (value', s.drained) := by
    intro p' value' hp'
    by_cases heq : p' = p
    · subst heq
      rw [Function.update_self] at hp'
      cases hp'
    · rw [Function.update_of_ne heq] at hp'
      exact ⟨heq, hp'⟩
  unfold LinearWorkQueue.push
  dsimp only
  split
  next =>
    exact ⟨h.empty, fun p' value' hp' => h.pushing p' value' (hothers hp').2⟩
  next contents hpush =>
    refine ⟨fun hworker => ?_, fun p' value' hp' item hitem => ?_⟩
    · have hq : s.fetchQueue ≠ q := by
        rintro rfl
        exact htimely hworker value hpushing
      change (Function.update s.queue q contents s.fetchQueue).items = []
      rw [Function.update_of_ne hq]
      exact h.empty hworker
    · rcases hothers hp' with ⟨hne, hold⟩
      have hmem : item ∈ (Function.update s.queue q contents s.drained.other).items := hitem
      by_cases hq : s.drained.other = q
      · rw [hq, Function.update_self, AtomicQueue.items_of_tryPush hpush] at hmem
        rcases List.mem_append.1 hmem with hmem | hmem
        · exact h.pushing p' value' hold item (hq ▸ hmem)
        · rw [List.mem_singleton.1 hmem]
          exact hne.symm
      · rw [Function.update_of_ne hq] at hmem
        exact h.pushing p' value' hold item hmem

theorem Prompt.next (h : s.Prompt) (haligned : s.Aligned) (htimely : s.Timely e)
    (hstep : s.next e = some s') : s'.Prompt := by
  unfold Aligned at haligned
  cases step_of_next hstep with
  | @readSubmissionQueue p value hnone =>
      refine ⟨h.empty, fun p' value' hp' => ?_⟩
      by_cases heq : p' = p
      · -- the pointer that is read is that of the other queue, unless the fetch queue is empty
        subst heq
        have hread : s.submissionQueue = s.drained := by
          have hsome := (Function.update_self p' _ s.pushing).symm.trans hp'
          simp only [Option.some.injEq, Prod.mk.injEq] at hsome
          exact hsome.2
        have hstart : s.worker = .start := by
          cases hworker : s.worker with
          | start => rfl
          | swapping submission =>
              simp [hworker, drained] at haligned hread
              simp [haligned.1] at hread
          | fetching =>
              simp [hworker, drained] at haligned hread
              simp [haligned] at hread
          | popping q =>
              simp [hworker, drained] at haligned hread
              simp [haligned.2] at hread
        have hempty := h.empty hstart
        simp only [hstart] at haligned
        intro item hitem
        change item ∈ (s.queue s.drained.other).items at hitem
        rw [← hread, ← haligned, hempty] at hitem
        cases hitem
      · exact h.pushing p' value' ((Function.update_of_ne heq _ _).symm.trans hp')
  | push hpushing =>
      exact h.push hpushing htimely
  | writeSubmissionQueue hworker =>
      refine ⟨by simp, ?_⟩
      have hpushing := h.pushing
      simp only [drained, hworker] at hpushing
      exact hpushing
  | writeFetchQueue hworker =>
      refine ⟨by simp, ?_⟩
      have hpushing := h.pushing
      simp only [drained, hworker] at hpushing
      exact hpushing
  | readFetchQueue hworker =>
      refine ⟨by simp, ?_⟩
      have hpushing := h.pushing
      simp only [drained, hworker] at hpushing
      exact hpushing
  | @pop q hworker =>
      rw [hworker] at haligned
      have hpushing := h.pushing
      simp only [drained, hworker] at hpushing
      unfold LinearWorkQueue.pop
      split
      next hpop =>
        have hitems := AtomicQueue.items_of_tryPop_none hpop
        rw [haligned.1] at hitems
        refine ⟨fun _ => hitems, fun p value _ item hitem => ?_⟩
        change item ∈ (s.queue s.submissionQueue.other).items at hitem
        rw [haligned.2, Side.other_other, hitems] at hitem
        cases hitem
      next item contents hpop =>
        refine ⟨by simp, fun p value hp i hi => ?_⟩
        change i ∈ (Function.update s.queue q contents s.fetchQueue.other).items at hi
        rw [haligned.1, Function.update_of_ne (Side.other_ne _)] at hi
        exact hpushing p value hp i hi

/-- A push overtakes another one only after a late push. -/
theorem noOvertaking_of_timely
    (h : ((machine P T capacity).restrict Timely).Reachable s) :
    ((machine P T capacity).restrict NoOvertaking).Reachable s := by
  have hruns : ((machine P T capacity).restrict NoOvertaking).Reachable s ∧ s.Aligned ∧
      s.Prompt := by
    refine Machine.Reachable.invariant (M := (machine P T capacity).restrict Timely)
      (P := fun s => ((machine P T capacity).restrict NoOvertaking).Reachable s ∧ s.Aligned ∧
        s.Prompt) ?_ ?_ h
    · rintro _ rfl
      exact ⟨.init rfl, rfl, fun _ => rfl, by simp⟩
    · rintro s e s' ⟨hreach, haligned, hprompt⟩ ⟨htimely, hstep⟩
      exact ⟨hreach.step_restrict hstep (hprompt.noOvertaking e), haligned.next hstep,
        hprompt.next haligned htimely hstep⟩
  exact hruns.1

end Order

/-! ## A late push -/

namespace Sample

/-- The producer 0 has read the submission queue and pushes only after the worker has exchanged the
queues and found the new fetch queue empty.  Its next value goes into the other queue. -/
def lateEvents : List (Event Nat Nat) :=
  [.readSubmissionQueue 0 10, .writeSubmissionQueue, .writeFetchQueue, .readFetchQueue, .pop, .push 0,
    .readSubmissionQueue 0 20, .push 0]

/-- The worker then empties that queue. -/
def roundEvents : List (Event Nat Nat) :=
  [.writeSubmissionQueue, .writeFetchQueue, .readFetchQueue, .pop]

/-- Two values pushed in time, one of which has been popped. -/
def timelyEvents : List (Event Nat Nat) :=
  [.readSubmissionQueue 0 10, .push 0, .readSubmissionQueue 0 20, .push 0] ++ roundEvents

/-- The state after some events that can happen. -/
def after (events : List (Event Nat Nat)) : LinearWorkQueue Nat Nat 65536 :=
  events.foldl (fun s e => (s.next e).getD s) {}

theorem step_next {cond : LinearWorkQueue Nat Nat 65536 → Event Nat Nat → Prop}
    {s : LinearWorkQueue Nat Nat 65536} {e : Event Nat Nat}
    (h : ((machine Nat Nat 65536).restrict cond).Reachable s) (henabled : (s.next e).isSome = true)
    (hcond : cond s e) : ((machine Nat Nat 65536).restrict cond).Reachable ((s.next e).getD s) := by
  refine h.step_restrict ?_ hcond
  cases hnext : s.next e with
  | none =>
      rw [hnext] at henabled
      cases henabled
  | some s' =>
      exact hnext

theorem reachable_next {s : LinearWorkQueue Nat Nat 65536}
    (hs : (machine Nat Nat 65536).Reachable s) (e : Event Nat Nat) :
    (machine Nat Nat 65536).Reachable ((s.next e).getD s) := by
  cases hnext : s.next e with
  | none =>
      exact hs
  | some s' =>
      exact hs.step hnext

/-- Every run of events ends in a reachable state. -/
theorem reachable_after (events : List (Event Nat Nat)) :
    ∀ {s : LinearWorkQueue Nat Nat 65536}, (machine Nat Nat 65536).Reachable s →
      (machine Nat Nat 65536).Reachable (events.foldl (fun s e => (s.next e).getD s) s) := by
  induction events with
  | nil =>
      intro s hs
      exact hs
  | cons e events ih =>
      intro s hs
      exact ih (reachable_next hs e)

theorem reachable_late :
    (machine Nat Nat 65536).Reachable (after (lateEvents ++ roundEvents)) :=
  reachable_after _ (.init rfl)

theorem run_timely :
    ((machine Nat Nat 65536).restrict NoOvertaking).Reachable (after timelyEvents) := by
  have hinit : ((machine Nat Nat 65536).restrict NoOvertaking).Reachable {} := .init rfl
  have hfirst := step_next hinit (e := .readSubmissionQueue 0 10) rfl trivial
  have hpushed := step_next hfirst (e := .push 0) rfl fun _ _ _ => by decide +kernel
  have hsecond := step_next hpushed (e := .readSubmissionQueue 0 20) rfl trivial
  have hboth := step_next hsecond (e := .push 0) rfl fun _ _ _ => by decide +kernel
  exact step_next (step_next (step_next (step_next hboth (e := .writeSubmissionQueue) rfl trivial)
    (e := .writeFetchQueue) rfl trivial) (e := .readFetchQueue) rfl trivial) (e := .pop) rfl trivial

end Sample

/-- The second value is popped first. -/
theorem late_push_overtaken :
    (machine Nat Nat 65536).Reachable (Sample.after (Sample.lateEvents ++ Sample.roundEvents)) ∧
      (Sample.after (Sample.lateEvents ++ Sample.roundEvents)).popped = [⟨0, 1, 20⟩] ∧
      (Sample.after (Sample.lateEvents ++ Sample.roundEvents)).pushed = [⟨0, 0, 10⟩, ⟨0, 1, 20⟩] ∧
      ¬ (Sample.after (Sample.lateEvents ++ Sample.roundEvents)).InOrder := by
  refine ⟨Sample.reachable_late, by decide +kernel, by decide +kernel, fun h => ?_⟩
  have hprefix := h 0
  revert hprefix
  decide +kernel

theorem pops_in_order_timely :
    (Sample.after Sample.timelyEvents).popped = [⟨0, 0, 10⟩] ∧
      (Sample.after Sample.timelyEvents).InOrder :=
  ⟨by decide +kernel, pops_in_order Sample.run_timely⟩

/-- Also after a late push nothing is lost. -/
theorem conserved_late :
    let s := Sample.after (Sample.lateEvents ++ Sample.roundEvents)
    values s.pushed = values s.popped +
      (values (s.queue .first).items + values (s.queue .second).items) :=
  (conserved Sample.reachable_late).1

end LinearWorkQueue

end Concurrent
end SeamlessServer
