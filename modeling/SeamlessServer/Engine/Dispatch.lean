import SeamlessServer.Data.Machine
import SeamlessServer.Engine.OnRead

/-!
# Engine.Dispatch — the worker's loop over the submitted chains

`NetworkEngineWorker::UpdateContext` with `SocketContext::Release`.  A context lies in the reserved
area of the buffer that it keeps alive, so the buffer that is given back by the last `Release` takes
the context with it.  The worker is cut into steps between which IO threads may use the buffers that
are free; each step reads the fields of at most one context.

* `covered_iff` — when the worker reads only contexts whose buffer is still held.
-/

namespace SeamlessServer
namespace Engine
namespace NetworkEngineWorker

open NetworkEngine (ContextType)

/-! ## Contexts in memory -/

inductive NetworkSubject
  | Socket
  | Mysql
  | Redis
  deriving DecidableEq, Repr

/-- The address of a context: a buffer and a place in its reserved area. -/
structure ContextPlace where
  buffer : Nat
  sequence : Nat
  deriving DecidableEq

/-- The fields of a `SocketContext` that the loop reads; `session` says whether the pointer is
valid. -/
structure StoredContext where
  networkSubject : NetworkSubject
  contextType : ContextType
  session : Bool
  buffer : Option Nat
  next : Option ContextPlace

namespace StoredContext

/-- The worker leaves the chain behind the context. -/
def closes (k : StoredContext) : Bool :=
  k.networkSubject = .Socket && k.contextType = .SessionClosed

/-- `Release` gives up the context's share in its buffer. -/
def releases (k : StoredContext) : Bool := k.networkSubject = .Socket && k.session

end StoredContext

/-! ## The worker -/

/-- Where the worker is: at the head of the `for` loop, at the `switch`, at `Release`, behind the
decrement in `Release`, or at `context = context->next`. -/
inductive Point
  | chains
  | dispatch (c : ContextPlace)
  | release (c : ContextPlace) (contextType : ContextType)
  | finish (c : ContextPlace) (contextType : ContextType) (last : Bool)
  | advance (c : ContextPlace)

/-- The memory, the reference counts and the buffers that IO threads may use, the worker's chains to
come and its place, the contexts it has called a handler for and the buffers it has given to
`ReleaseReadBuffer`. -/
structure Worker where
  memory : ContextPlace → StoredContext
  refs : Nat → Int
  free : Nat → Bool
  contexts : List ContextPlace
  point : Point := .chains
  dispatched : List ContextPlace := []
  returned : List Nat := []

/-- `while (context != nullptr)`. -/
def entry : Option ContextPlace → Point
  | none => .chains
  | some c => .dispatch c

/-- What follows `Release`. -/
def behind (c : ContextPlace) (contextType : ContextType) : Point :=
  if contextType = .SessionClosed then .chains else .advance c

namespace Worker

/-- A callback of the `switch`. -/
def call (s : Worker) (c : ContextPlace) : Worker :=
  { s with
    dispatched := s.dispatched ++ [c]
    point := .release c (s.memory c).contextType }

/-- `RefCounter::Release`.  At zero the buffer can be used again. -/
def decrement (s : Worker) (b : Nat) : Worker :=
  { s with
    refs := Function.update s.refs b (s.refs b - 1)
    free := if s.refs b - 1 ≤ 0 then Function.update s.free b true else s.free }

/-- `Release` behind the decrement: the last one gives the buffer back, and the session pointer is
released. -/
def finishRelease (s : Worker) (c : ContextPlace) (last : Bool) : Worker :=
  let s :=
    match last, (s.memory c).buffer with
    | true, some b => { s with refs := Function.update s.refs b 0, returned := s.returned ++ [b] }
    | _, _ => s
  { s with memory := Function.update s.memory c { s.memory c with session := false } }

theorem memory_finishRelease (s : Worker) (c : ContextPlace) (last : Bool) :
    (s.finishRelease c last).memory =
      Function.update s.memory c { s.memory c with session := false } := by
  unfold finishRelease
  split <;> rfl

theorem contexts_finishRelease (s : Worker) (c : ContextPlace) (last : Bool) :
    (s.finishRelease c last).contexts = s.contexts := by
  unfold finishRelease
  split <;> rfl

theorem free_finishRelease (s : Worker) (c : ContextPlace) (last : Bool) :
    (s.finishRelease c last).free = s.free := by
  unfold finishRelease
  split <;> rfl

/-- One step of `UpdateContext`, until it returns. -/
def work (s : Worker) : Option Worker :=
  match s.point with
  | .chains =>
      match s.contexts with
      | [] => none
      | c :: contexts => some { s with point := .dispatch c, contexts := contexts }
  | .dispatch c =>
      -- the `switch` has one case
      match (s.memory c).networkSubject with
      | .Socket => some (s.call c)
      | _ => some { s with point := .advance c }
  | .release c contextType =>
      match (s.memory c).session, (s.memory c).buffer with
      | true, some b =>
          some { s.decrement b with point := .finish c contextType (s.refs b - 1 ≤ 0) }
      | _, _ => some { s with point := behind c contextType }
  | .finish c contextType last =>
      some { s.finishRelease c last with point := behind c contextType }
  -- `context->next` is read after the release
  | .advance c => some { s with point := entry (s.memory c).next }

/-- The context of which the next step reads fields. -/
def reads (s : Worker) : Option ContextPlace :=
  match s.point with
  | .chains => none
  | .dispatch c => some c
  | .release c _ => some c
  | .finish c _ _ => some c
  | .advance c => some c

/-- What the next step reads lies in a buffer that is still held. -/
def Covered (s : Worker) : Prop := ∀ c, s.reads = some c → 0 < s.refs c.buffer

/-- An IO thread fills the reserved area of a free buffer and counts its contexts. -/
def reuse (s : Worker) (b : Nat) (contents : Nat → StoredContext) (count : Int) : Worker :=
  { s with
    memory := fun c => if c.buffer = b then contents c.sequence else s.memory c
    refs := Function.update s.refs b count }

/-- The worker on its own, for a number of steps. -/
def alone : Nat → Worker → Option Worker
  | 0, s => some s
  | n + 1, s => s.work.bind (alone n)

end Worker

/-! ## Submitted chains -/

section Chains

variable (m : ContextPlace → StoredContext)

/-- The contexts follow each other. -/
def Linked : List ContextPlace → Prop
  | [] => True
  | c :: rest => (m c).next = rest.head? ∧ Linked rest

/-- The contexts of a chain that the worker comes to. -/
def visited : List ContextPlace → List ContextPlace
  | [] => []
  | c :: rest => c :: if (m c).closes then [] else visited rest

/-- The contexts of a chain whose share in the buffer the worker does not give up. -/
def spared : List ContextPlace → List ContextPlace
  | [] => []
  | c :: rest =>
      (if (m c).releases then [] else [c]) ++ if (m c).closes then rest else spared rest

end Chains

/-- The number of contexts stored in a buffer, as counted by `PrepareSocketContext`. -/
def storedIn (places : List ContextPlace) (b : Nat) : Nat := places.countP (·.buffer = b)

/-- `UpdateContext` is called for the chains. -/
structure Loaded (chains : List (List ContextPlace)) (s : Worker) : Prop where
  point : s.point = .chains
  heads : s.contexts.map some = chains.map List.head?
  linked : ∀ chain ∈ chains, Linked s.memory chain
  nodup : chains.flatten.Nodup
  buffer : ∀ c ∈ chains.flatten, (s.memory c).buffer = some c.buffer
  refs : ∀ c ∈ chains.flatten, s.refs c.buffer = storedIn chains.flatten c.buffer
  free : ∀ c ∈ chains.flatten, s.free c.buffer = false

inductive Event
  | worker
  | reuse (b : Nat) (contents : Nat → StoredContext) (count : Int)

def Event.isWorker : Event → Bool
  | worker => true
  | reuse _ _ _ => false

inductive Step (s : Worker) : Event → Worker → Prop
  | worker {s' : Worker} : s.work = some s' → Step s .worker s'
  | reuse {b : Nat} (contents : Nat → StoredContext) (count : Int) :
      s.free b = true → Step s (.reuse b contents count) (s.reuse b contents count)

/-- The worker and the IO threads. -/
def machine (chains : List (List ContextPlace)) : Machine Worker Event where
  init := Loaded chains
  step := Step

/-! ## The worker on its own -/

namespace Worker

variable {s s' : Worker} {c : ContextPlace}

/-- Left to itself, the worker reads only what is held. -/
def Safe (s : Worker) : Prop := ∀ n s', alone n s = some s' → s'.Covered

theorem safe_of_done (hwork : s.work = none) (hpoint : s.point = .chains) : Safe s := by
  intro n s' halone c hreads
  cases n with
  | zero =>
      cases halone
      simp [reads, hpoint] at hreads
  | succ n =>
      simp [alone, hwork] at halone

theorem safe_iff_of_work (hwork : s.work = some s') : Safe s ↔ s.Covered ∧ Safe s' := by
  constructor
  · intro h
    refine ⟨h 0 s rfl, fun n t halone => h (n + 1) t ?_⟩
    simpa [alone, hwork] using halone
  · rintro ⟨hcovered, hsafe⟩ n t halone
    cases n with
    | zero =>
        cases halone
        exact hcovered
    | succ n =>
        exact hsafe n t (by simpa [alone, hwork] using halone)

theorem covered_iff_of_reads (hreads : s.reads = some c) : s.Covered ↔ 0 < s.refs c.buffer := by
  simp [Covered, hreads]

/-- The state behind a context that keeps its buffer: the handler is called, and the share in the
buffer given up. -/
def after (s : Worker) (c : ContextPlace) : Worker :=
  let k := s.memory c
  { s with
    memory := if k.releases then Function.update s.memory c { k with session := false } else s.memory
    refs := if k.releases then Function.update s.refs c.buffer (s.refs c.buffer - 1) else s.refs
    dispatched := if k.networkSubject = .Socket then s.dispatched ++ [c] else s.dispatched
    point := if k.closes then .chains else entry k.next }

/-- The worker goes on behind `Release`. -/
def leave (s : Worker) (c : ContextPlace) (contextType : ContextType) : Worker :=
  { s with
    point := if contextType = .SessionClosed then .chains else entry (s.memory c).next }

theorem safe_behind {contextType : ContextType} (hheld : 0 < s.refs c.buffer) :
    Safe { s with point := behind c contextType } ↔ Safe (s.leave c contextType) := by
  by_cases hclosed : contextType = .SessionClosed
  · -- `context = nullptr; continue`
    rw [leave, behind, if_pos hclosed, if_pos hclosed]
  · have hwork : work { s with point := .advance c } = some (s.leave c contextType) := by
      simp [work, leave, hclosed]
    rw [behind, if_neg hclosed, safe_iff_of_work hwork, covered_iff_of_reads (c := c) rfl]
    exact and_iff_right hheld

/-- `Release` gives a share up: behind the decrement the buffer must still be held. -/
theorem safe_release {contextType : ContextType} (hpoint : s.point = .release c contextType)
    (hsession : (s.memory c).session = true) (hbuffer : (s.memory c).buffer = some c.buffer)
    (hheld : 0 < s.refs c.buffer) :
    Safe s ↔ 1 < s.refs c.buffer ∧ Safe (leave { s with
      memory := Function.update s.memory c { s.memory c with session := false }
      refs := Function.update s.refs c.buffer (s.refs c.buffer - 1) } c contextType) := by
  have hwork : s.work = some { s.decrement c.buffer with
      point := .finish c contextType (s.refs c.buffer - 1 ≤ 0) } := by
    simp [work, hpoint, hsession, hbuffer]
  have hreads : s.reads = some c := by simp [reads, hpoint]
  rw [safe_iff_of_work hwork, covered_iff_of_reads hreads, and_iff_right hheld]
  by_cases hmore : 1 < s.refs c.buffer
  · -- others hold the buffer
    have hpositive : ¬ s.refs c.buffer - 1 ≤ 0 := by omega
    have hfinish : work { s.decrement c.buffer with point := .finish c contextType false } =
        some { s with
          memory := Function.update s.memory c { s.memory c with session := false }
          refs := Function.update s.refs c.buffer (s.refs c.buffer - 1)
          point := behind c contextType } := by
      simp [work, decrement, finishRelease, hpositive]
    rw [decide_eq_false hpositive, safe_iff_of_work hfinish, covered_iff_of_reads (c := c) rfl,
      safe_behind (s := { s with
        memory := Function.update s.memory c { s.memory c with session := false }
        refs := Function.update s.refs c.buffer (s.refs c.buffer - 1) })]
    · refine and_congr_left fun _ => iff_of_true ?_ hmore
      simpa [decrement] using hmore
    · simpa using hmore
  · -- the rest of `Release` reads the context of a free buffer
    refine iff_of_false (fun hsafe => hmore ?_) fun h => hmore h.1
    have hcovered := (covered_iff_of_reads (c := c) rfl).1 (hsafe 0 _ rfl)
    simp only [decrement, Function.update_self] at hcovered
    omega

/-- The worker comes to a context: the buffer must be held before and after its release. -/
theorem safe_visit (hpoint : s.point = .dispatch c) (hbuffer : (s.memory c).buffer = some c.buffer) :
    Safe s ↔ 0 < s.refs c.buffer ∧ ((s.memory c).releases = true → 1 < s.refs c.buffer) ∧
      Safe (s.after c) := by
  have hreads : s.reads = some c := by simp [reads, hpoint]
  by_cases hsubject : (s.memory c).networkSubject = .Socket
  · -- the handler is called
    have hwork : s.work = some (s.call c) := by
      simp [work, hpoint, hsubject]
    rw [safe_iff_of_work hwork, covered_iff_of_reads hreads]
    refine and_congr_right fun hheld => ?_
    cases hsession : (s.memory c).session with
    | false =>
        -- `Release` does nothing
        have hreleases : (s.memory c).releases = false := by
          simp [StoredContext.releases, hsession]
        have hrelease : (s.call c).work =
            some { s.call c with point := behind c (s.memory c).contextType } := by
          simp [work, call, hsession]
        have hafter : (s.call c).leave c (s.memory c).contextType = s.after c := by
          simp [leave, call, after, hreleases, hsubject, StoredContext.closes]
        rw [safe_iff_of_work hrelease, covered_iff_of_reads (c := c) rfl,
          safe_behind (s := s.call c) hheld, hafter]
        exact and_congr (iff_of_true hheld (by simp [hreleases])) Iff.rfl
    | true =>
        have hreleases : (s.memory c).releases = true := by
          simp [StoredContext.releases, hsession, hsubject]
        rw [safe_release (s := s.call c) (c := c) rfl hsession hbuffer hheld]
        refine and_congr (by simp [hreleases, call]) (iff_of_eq (congrArg Safe ?_))
        simp [leave, call, after, hreleases, hsubject, StoredContext.closes]
  · -- the context is passed over
    have hreleases : (s.memory c).releases = false := by
      simp [StoredContext.releases, hsubject]
    have hcloses : (s.memory c).closes = false := by
      simp [StoredContext.closes, hsubject]
    have hwork : s.work = some { s with point := .advance c } := by
      cases hother : (s.memory c).networkSubject with
      | Socket =>
          exact absurd hother hsubject
      | Mysql =>
          simp [work, hpoint, hother]
      | Redis =>
          simp [work, hpoint, hother]
    have hadvance : work { s with point := .advance c } = some (s.after c) := by
      simp [work, after, hreleases, hcloses, hsubject]
    rw [safe_iff_of_work hwork, safe_iff_of_work hadvance, covered_iff_of_reads hreads,
      covered_iff_of_reads (c := c) rfl]
    simp [hreleases]

end Worker

/-! ## The condition -/

section Counts

variable (m : ContextPlace → StoredContext)

/-- The shares in a buffer that contexts give up. -/
def releasesIn (places : List ContextPlace) (b : Nat) : Nat :=
  places.countP fun c => (m c).releases && c.buffer = b

/-- The buffer of every context is held when the worker comes to it and behind its release. -/
def Enough : (Nat → Int) → List ContextPlace → Prop
  | _, [] => True
  | refs, c :: rest =>
      0 < refs c.buffer ∧ ((m c).releases = true → 1 < refs c.buffer) ∧
        Enough (if (m c).releases then Function.update refs c.buffer (refs c.buffer - 1) else refs)
          rest

variable {m}

theorem releasesIn_cons (c : ContextPlace) (rest : List ContextPlace) (b : Nat) :
    releasesIn m (c :: rest) b =
      releasesIn m rest b + if (m c).releases = true ∧ c.buffer = b then 1 else 0 := by
  simp [releasesIn, List.countP_cons]

theorem releasesIn_append (places places' : List ContextPlace) (b : Nat) :
    releasesIn m (places ++ places') b = releasesIn m places b + releasesIn m places' b :=
  List.countP_append

theorem exists_of_releasesIn {places : List ContextPlace} {b : Nat}
    (h : 0 < releasesIn m places b) : ∃ c ∈ places, c.buffer = b := by
  obtain ⟨c, hc, hb⟩ := List.countP_pos_iff.1 h
  exact ⟨c, hc, by simpa using (Bool.and_eq_true_iff.1 hb).2⟩

/-- A buffer stays held if and only if it has more shares than are given up. -/
theorem enough_iff (places : List ContextPlace) :
    ∀ refs : Nat → Int, Enough m refs places ↔
      ∀ c ∈ places, (releasesIn m places c.buffer : Int) < refs c.buffer := by
  induction places with
  | nil =>
      intro refs
      simp [Enough]
  | cons c rest ih =>
      intro refs
      unfold Enough
      rw [ih]
      have hrefs : ∀ b, (if (m c).releases then
          Function.update refs c.buffer (refs c.buffer - 1) else refs) b =
          refs b - if (m c).releases = true ∧ c.buffer = b then 1 else 0 := by
        intro b
        by_cases hreleases : (m c).releases = true
        · by_cases hb : c.buffer = b
          · subst hb
            simp [hreleases]
          · simp [hreleases, hb, Function.update_of_ne (Ne.symm hb)]
        · simp [hreleases]
      constructor
      · -- the first context gives up at most one share, which the later ones do not count
        rintro ⟨hheld, hmore, hrest⟩ c' hc'
        rw [releasesIn_cons]
        rcases List.mem_cons.1 hc' with rfl | hc'
        · -- other contexts of the buffer come later, or none does
          rcases Nat.eq_zero_or_pos (releasesIn m rest c'.buffer) with hzero | hpos
          · by_cases hreleases : (m c').releases = true
            · simpa [hzero, hreleases] using hmore hreleases
            · simpa [hzero, hreleases] using hheld
          · obtain ⟨c'', hc'', hb⟩ := exists_of_releasesIn hpos
            have hlater := hrest c'' hc''
            rw [hrefs, hb] at hlater
            push_cast
            split_ifs at hlater ⊢ <;> omega
        · have hlater := hrest c' hc'
          rw [hrefs] at hlater
          push_cast
          split_ifs at hlater ⊢ <;> omega
      · intro h
        have hfirst := h c List.mem_cons_self
        rw [releasesIn_cons] at hfirst
        push_cast at hfirst
        refine ⟨?_, fun hreleases => ?_, fun c' hc' => ?_⟩
        · split_ifs at hfirst <;> omega
        · rw [if_pos ⟨hreleases, rfl⟩] at hfirst
          omega
        · have hlater := h c' (List.mem_cons_of_mem c hc')
          rw [releasesIn_cons] at hlater
          rw [hrefs]
          push_cast at hlater
          split_ifs at hlater ⊢ <;> omega

/-- The contexts stored in a buffer either give up their share or are spared. -/
theorem storedIn_chain (b : Nat) (chain : List ContextPlace) :
    storedIn chain b = releasesIn m (visited m chain) b + storedIn (spared m chain) b := by
  induction chain with
  | nil =>
      rfl
  | cons c rest ih =>
      have hfirst : storedIn (c :: rest) b = storedIn rest b + if c.buffer = b then 1 else 0 := by
        simp [storedIn, List.countP_cons]
      have hspared : ∀ places, storedIn ((if (m c).releases then [] else [c]) ++ places) b =
          storedIn places b + if (m c).releases = false ∧ c.buffer = b then 1 else 0 := by
        intro places
        cases (m c).releases with
        | false =>
            simp [storedIn, List.countP_cons]
        | true =>
            simp [storedIn]
      rw [hfirst, visited, spared, releasesIn_cons, hspared]
      cases (m c).closes with
      | false =>
          rw [ih]
          cases (m c).releases <;> simp <;> split_ifs <;> omega
      | true =>
          -- the contexts behind a close are spared, and nothing is visited after it
          cases (m c).releases <;> simp [releasesIn, Nat.add_comm]

theorem storedIn_chains (b : Nat) (chains : List (List ContextPlace)) :
    storedIn chains.flatten b = releasesIn m (chains.flatMap (visited m)) b +
      storedIn (chains.flatMap (spared m)) b := by
  induction chains with
  | nil =>
      rfl
  | cons chain chains ih =>
      have happend : ∀ places places', storedIn (places ++ places') b =
          storedIn places b + storedIn places' b := fun _ _ => List.countP_append
      rw [List.flatten_cons, List.flatMap_cons, List.flatMap_cons, happend, happend,
        releasesIn_append, ih, storedIn_chain (m := m) b chain]
      omega

end Counts

/-! ## Chains to come -/

/-- The worker has the rest of a chain before it, and other chains after it; they are in memory as
they were submitted. -/
structure Ahead (m : ContextPlace → StoredContext) (s : Worker) (rest : List ContextPlace)
    (chains : List (List ContextPlace)) : Prop where
  point : s.point = entry rest.head?
  heads : s.contexts.map some = chains.map List.head?
  linked : Linked m rest
  linkedChains : ∀ chain ∈ chains, Linked m chain
  nodup : (rest ++ chains.flatten).Nodup
  memory : ∀ c ∈ rest ++ chains.flatten, s.memory c = m c
  buffer : ∀ c ∈ rest ++ chains.flatten, (m c).buffer = some c.buffer

section Ahead

variable {m : ContextPlace → StoredContext} {s : Worker} {c : ContextPlace}
  {rest chain : List ContextPlace} {chains : List (List ContextPlace)}

theorem Loaded.ahead (h : Loaded chains s) : Ahead s.memory s [] chains :=
  ⟨h.point, h.heads, trivial, h.linked, h.nodup, fun _ _ => rfl, h.buffer⟩

/-- The `for` loop goes on with the next chain. -/
theorem Ahead.next_chain (h : Ahead m s [] (chain :: chains)) :
    ∃ s', s.work = some s' ∧ s'.refs = s.refs ∧ Ahead m s' chain chains := by
  have hheads := h.heads
  cases hcontexts : s.contexts with
  | nil =>
      simp [hcontexts] at hheads
  | cons first contexts =>
      simp only [hcontexts, List.map_cons, List.cons.injEq] at hheads
      refine ⟨{ s with point := .dispatch first, contexts := contexts }, ?_, rfl, ?_⟩
      · have hpoint : s.point = .chains := h.point
        simp [Worker.work, hpoint, hcontexts]
      · exact ⟨by rw [← hheads.1]; rfl, hheads.2, h.linkedChains chain List.mem_cons_self,
          fun chain' hchain' => h.linkedChains chain' (List.mem_cons_of_mem _ hchain'), h.nodup,
          h.memory, h.buffer⟩

/-- Behind a context, the chain goes on as it was submitted. -/
theorem Ahead.after (h : Ahead m s (c :: rest) chains) :
    Ahead m (s.after c) (if (m c).closes then [] else rest) chains := by
  have hmemory : s.memory c = m c := h.memory c (by simp)
  have hnodup : c ∉ rest ++ chains.flatten ∧ (rest ++ chains.flatten).Nodup :=
    List.nodup_cons.1 h.nodup
  have hsame : ∀ c' ∈ rest ++ chains.flatten, (s.after c).memory c' = m c' := by
    intro c' hc'
    have hne : c' ≠ c := by
      rintro rfl
      exact hnodup.1 hc'
    have hbefore : (s.after c).memory c' = s.memory c' := by
      unfold Worker.after
      dsimp only
      split_ifs
      · exact Function.update_of_ne hne _ _
      · rfl
    rw [hbefore]
    exact h.memory c' (List.mem_cons_of_mem c hc')
  cases hcloses : (m c).closes with
  | true =>
      -- the rest of the chain is dropped
      have hsub : ∀ c' ∈ ([] : List ContextPlace) ++ chains.flatten, c' ∈ rest ++ chains.flatten :=
        fun c' hc' => List.mem_append_right rest hc'
      refine ⟨by simp [Worker.after, hmemory, hcloses, entry], h.heads, trivial, h.linkedChains,
        ?_, fun c' hc' => hsame c' (hsub c' hc'),
        fun c' hc' => h.buffer c' (List.mem_cons_of_mem c (hsub c' hc'))⟩
      exact hnodup.2.sublist (List.sublist_append_right rest _)
  | false =>
      refine ⟨?_, h.heads, h.linked.2, h.linkedChains, hnodup.2, hsame,
        fun c' hc' => h.buffer c' (List.mem_cons_of_mem c hc')⟩
      simp [Worker.after, hmemory, hcloses, h.linked.1]

theorem Ahead.safe_visit (h : Ahead m s (c :: rest) chains) :
    s.Safe ↔ 0 < s.refs c.buffer ∧ ((m c).releases = true → 1 < s.refs c.buffer) ∧
      (s.after c).Safe := by
  have hmemory : s.memory c = m c := h.memory c (by simp)
  rw [← hmemory]
  refine Worker.safe_visit h.point ?_
  rw [hmemory]
  exact h.buffer c (by simp)

/-- One chain, given what is known about those after it. -/
theorem Ahead.safe_iff_of_chains (hchains : ∀ s, Ahead m s [] chains →
      (s.Safe ↔ Enough m s.refs (chains.flatMap (visited m))))
    (h : Ahead m s rest chains) :
    s.Safe ↔ Enough m s.refs (visited m rest ++ chains.flatMap (visited m)) := by
  induction rest generalizing s with
  | nil =>
      exact hchains s h
  | cons c rest ih =>
      have hrefs : (s.after c).refs =
          if (m c).releases then Function.update s.refs c.buffer (s.refs c.buffer - 1)
          else s.refs := by
        rw [← h.memory c (by simp)]
        rfl
      have hafter := h.after
      rw [h.safe_visit, visited, List.cons_append, Enough]
      refine and_congr_right fun _ => and_congr_right fun _ => ?_
      rw [← hrefs]
      cases hcloses : (m c).closes with
      | true =>
          -- the closed session's chain is not followed further
          rw [hcloses] at hafter
          exact hchains (s.after c) hafter
      | false =>
          rw [hcloses] at hafter
          exact ih hafter

/-- Left to itself, the worker reads only what is held if and only if there are enough shares. -/
theorem Ahead.safe_iff_enough (h : Ahead m s rest chains) :
    s.Safe ↔ Enough m s.refs (visited m rest ++ chains.flatMap (visited m)) := by
  -- on the chains to come; `Ahead.safe_iff_of_chains` goes through the one that is begun
  induction chains generalizing s rest with
  | nil =>
      refine h.safe_iff_of_chains fun t ht => iff_of_true ?_ trivial
      have hcontexts : t.contexts = [] := by simpa using ht.heads
      have hpoint : t.point = .chains := ht.point
      exact Worker.safe_of_done (by simp [Worker.work, hpoint, hcontexts]) hpoint
  | cons chain chains ih =>
      refine h.safe_iff_of_chains fun t ht => ?_
      obtain ⟨t', hwork, hrefs, hahead⟩ := ht.next_chain
      have hpoint : t.point = .chains := ht.point
      have hcovered : t.Covered := by
        intro c hreads
        simp [Worker.reads, hpoint] at hreads
      rw [Worker.safe_iff_of_work hwork, and_iff_right hcovered, ih hahead, hrefs,
        List.flatMap_cons]

end Ahead

theorem visited_subset {m : ContextPlace → StoredContext} {chain : List ContextPlace} :
    visited m chain ⊆ chain := by
  induction chain with
  | nil =>
      exact List.Subset.refl _
  | cons c rest ih =>
      intro c' hc'
      rw [visited] at hc'
      rcases List.mem_cons.1 hc' with rfl | hc'
      · exact List.mem_cons_self
      · split at hc'
        · cases hc'
        · exact List.mem_cons_of_mem c (ih hc')

section Loaded

variable {s s' : Worker} {chains : List (List ContextPlace)}

/-- A buffer is held throughout if and only if one of its contexts is spared. -/
theorem Loaded.safe_iff_spared (h : Loaded chains s) :
    s.Safe ↔ ∀ c ∈ chains.flatMap (visited s.memory),
      ∃ c' ∈ chains.flatMap (spared s.memory), c'.buffer = c.buffer := by
  rw [h.ahead.safe_iff_enough]
  show Enough s.memory s.refs (chains.flatMap (visited s.memory)) ↔ _
  rw [enough_iff]
  refine forall_congr' fun c => forall_congr' fun hc => ?_
  have hstored : c ∈ chains.flatten := by
    obtain ⟨chain, hchain, hvisited⟩ := List.mem_flatMap.1 hc
    exact List.mem_flatten.2 ⟨chain, hchain, visited_subset hvisited⟩
  have hcount := storedIn_chains (m := s.memory) c.buffer chains
  rw [h.refs c hstored]
  calc
    (releasesIn s.memory (chains.flatMap (visited s.memory)) c.buffer : Int) <
          storedIn chains.flatten c.buffer
        ↔ 0 < storedIn (chains.flatMap (spared s.memory)) c.buffer := by omega
    _ ↔ ∃ c' ∈ chains.flatMap (spared s.memory), c'.buffer = c.buffer := by
        simp [storedIn, List.countP_pos_iff]

/-! ## IO threads in between -/

/-- The worker reads only the submitted contexts, which lie in buffers that no IO thread may use. -/
structure Kept (places : List ContextPlace) (s : Worker) : Prop where
  reads : ∀ c, s.reads = some c → c ∈ places
  contexts : ∀ c ∈ s.contexts, c ∈ places
  next : ∀ c ∈ places, ∀ c', (s.memory c).next = some c' → c' ∈ places
  buffer : ∀ c ∈ places, (s.memory c).buffer = some c.buffer
  free : ∀ c ∈ places, s.free c.buffer = false

theorem Linked.next_mem {m : ContextPlace → StoredContext} {chain : List ContextPlace}
    (h : Linked m chain) {c c' : ContextPlace} (hc : c ∈ chain) (hnext : (m c).next = some c') :
    c' ∈ chain := by
  induction chain with
  | nil =>
      cases hc
  | cons first rest ih =>
      rcases List.mem_cons.1 hc with rfl | hc
      · exact List.mem_cons_of_mem c (List.mem_of_head? (h.1.symm.trans hnext))
      · exact List.mem_cons_of_mem first (ih h.2 hc)

theorem Loaded.kept (h : Loaded chains s) : Kept chains.flatten s := by
  refine ⟨fun c hreads => ?_, fun c hc => ?_, fun c hc c' hnext => ?_, h.buffer, h.free⟩
  · simp [Worker.reads, h.point] at hreads
  · have hhead : some c ∈ chains.map List.head? := by
      rw [← h.heads]
      exact List.mem_map_of_mem hc
    obtain ⟨chain, hchain, hfirst⟩ := List.mem_map.1 hhead
    exact List.mem_flatten.2 ⟨chain, hchain, List.mem_of_head? hfirst⟩
  · obtain ⟨chain, hchain, hc⟩ := List.mem_flatten.1 hc
    exact List.mem_flatten.2 ⟨chain, hchain, (h.linked chain hchain).next_mem hc hnext⟩

/-- The worker goes from a context to one that was submitted. -/
theorem Kept.reads_entry {places : List ContextPlace} {t : Worker} (h : Kept places s)
    {c c' : ContextPlace} (hc : c ∈ places) (hpoint : t.point = entry (s.memory c).next)
    (hreads : t.reads = some c') : c' ∈ places := by
  cases hnext : (s.memory c).next with
  | none =>
      simp [Worker.reads, hpoint, hnext, entry] at hreads
  | some c'' =>
      simp only [Worker.reads, hpoint, hnext, entry, Option.some.injEq] at hreads
      subst hreads
      exact h.next c hc _ hnext

theorem reads_behind {t : Worker} {c c' : ContextPlace} {contextType : ContextType}
    (hpoint : t.point = behind c contextType) (hreads : t.reads = some c') : c' = c := by
  unfold behind at hpoint
  split at hpoint
  · simp [Worker.reads, hpoint] at hreads
  · simpa [Worker.reads, hpoint, eq_comm] using hreads

/-- A step that writes session pointers only. -/
theorem Kept.of_frame {places : List ContextPlace} (h : Kept places s)
    (hcontexts : s'.contexts = s.contexts)
    (hnext : ∀ c, (s'.memory c).next = (s.memory c).next)
    (hbuffer : ∀ c, (s'.memory c).buffer = (s.memory c).buffer) (hfree : s'.free = s.free)
    (hreads : ∀ c, s'.reads = some c → c ∈ places) : Kept places s' := by
  refine ⟨hreads, fun c hc => ?_, fun c hc c' hc' => ?_, fun c hc => ?_, fun c hc => ?_⟩
  · rw [hcontexts] at hc
    exact h.contexts c hc
  · rw [hnext] at hc'
    exact h.next c hc c' hc'
  · rw [hbuffer]
    exact h.buffer c hc
  · rw [hfree]
    exact h.free c hc

/-- On its own and safe, the worker gives no buffer up. -/
theorem Kept.work {places : List ContextPlace} (h : Kept places s) (hsafe : s.Safe)
    (hwork : s.work = some s') : Kept places s' := by
  have hsafe' : s'.Safe := ((Worker.safe_iff_of_work hwork).1 hsafe).2
  unfold Worker.work at hwork
  cases hpoint : s.point with
  | chains =>
      simp only [hpoint] at hwork
      cases hcontexts : s.contexts with
      | nil =>
          simp [hcontexts] at hwork
      | cons c contexts =>
          simp only [hcontexts, Option.some.injEq] at hwork
          subst hwork
          refine ⟨fun c' hreads => ?_, fun c' hc' => ?_, h.next, h.buffer, h.free⟩
          · cases hreads
            exact h.contexts c (by simp [hcontexts])
          · exact h.contexts c' (by simp [hcontexts, hc'])
  | dispatch c =>
      have hc : c ∈ places := h.reads c (by simp [Worker.reads, hpoint])
      simp only [hpoint] at hwork
      split at hwork
      · -- the handler is called
        cases hwork
        refine h.of_frame rfl (fun _ => rfl) (fun _ => rfl) rfl fun c' hreads => ?_
        cases hreads
        exact hc
      · cases hwork
        refine h.of_frame rfl (fun _ => rfl) (fun _ => rfl) rfl fun c' hreads => ?_
        cases hreads
        exact hc
  | release c contextType =>
      have hc : c ∈ places := h.reads c (by simp [Worker.reads, hpoint])
      simp only [hpoint, h.buffer c hc] at hwork
      cases hsession : (s.memory c).session with
      | false =>
          simp only [hsession, Option.some.injEq] at hwork
          subst hwork
          refine h.of_frame rfl (fun _ => rfl) (fun _ => rfl) rfl fun c' hreads => ?_
          rw [reads_behind (c := c) rfl hreads]
          exact hc
      | true =>
          simp only [hsession, Option.some.injEq] at hwork
          subst hwork
          -- behind the decrement the context is read again, so the buffer is still held
          have hheld := (Worker.covered_iff_of_reads (c := c) rfl).1 (hsafe' 0 _ rfl)
          simp only [Worker.decrement, Function.update_self] at hheld
          refine h.of_frame rfl (fun _ => rfl) (fun _ => rfl) (if_neg (by omega))
            fun c' hreads => ?_
          cases hreads
          exact hc
  | finish c contextType last =>
      have hc : c ∈ places := h.reads c (by simp [Worker.reads, hpoint])
      simp only [hpoint, Option.some.injEq] at hwork
      subst hwork
      have hfields : ∀ c', ((s.finishRelease c last).memory c').next = (s.memory c').next ∧
          ((s.finishRelease c last).memory c').buffer = (s.memory c').buffer := by
        intro c'
        rw [Worker.memory_finishRelease]
        by_cases hsame : c' = c
        · subst hsame
          simp
        · simp [Function.update_of_ne hsame]
      refine h.of_frame (Worker.contexts_finishRelease s c last) (fun c' => (hfields c').1)
        (fun c' => (hfields c').2) (Worker.free_finishRelease s c last) fun c' hreads => ?_
      rw [reads_behind (c := c) rfl hreads]
      exact hc
  | advance c =>
      have hc : c ∈ places := h.reads c (by simp [Worker.reads, hpoint])
      simp only [hpoint, Option.some.injEq] at hwork
      subst hwork
      exact h.of_frame rfl (fun _ => rfl) (fun _ => rfl) rfl fun c' hreads =>
        h.reads_entry hc rfl hreads

end Loaded

/-- The states are the same but for what IO threads have done to free buffers in the first. -/
structure Agree (s t : Worker) : Prop where
  point : s.point = t.point
  contexts : s.contexts = t.contexts
  dispatched : s.dispatched = t.dispatched
  free : s.free = t.free
  memory : ∀ c, t.free c.buffer = false → s.memory c = t.memory c
  refs : ∀ b, t.free b = false → s.refs b = t.refs b

section Agree

variable {s s' t : Worker} {places : List ContextPlace}

theorem Agree.refl (s : Worker) : Agree s s := ⟨rfl, rfl, rfl, rfl, fun _ _ => rfl, fun _ _ => rfl⟩

theorem Agree.reuse (h : Agree s t) {b : Nat} (hfree : s.free b = true)
    (contents : Nat → StoredContext) (count : Int) : Agree (s.reuse b contents count) t := by
  have hother : ∀ b', t.free b' = false → b' ≠ b := by
    rintro b' hb' rfl
    rw [h.free, hb'] at hfree
    cases hfree
  refine ⟨h.point, h.contexts, h.dispatched, h.free, fun c hc => ?_, fun b' hb' => ?_⟩
  · exact (if_neg (hother c.buffer hc)).trans (h.memory c hc)
  · exact (Function.update_of_ne (hother b' hb') _ _).trans (h.refs b' hb')

/-- A decrement in both. -/
theorem Agree.decrement (h : Agree s t) {b : Nat} (hb : t.free b = false) :
    Agree (s.decrement b) (t.decrement b) := by
  have hrefs := h.refs b hb
  have hfree : (s.decrement b).free = (t.decrement b).free := by
    simp only [Worker.decrement, hrefs, h.free]
  have hkept : ∀ b', (t.decrement b).free b' = false → t.free b' = false := by
    intro b' hb'
    simp only [Worker.decrement] at hb'
    split_ifs at hb'
    · by_cases hsame : b' = b
      · rwa [hsame]
      · rwa [Function.update_of_ne hsame] at hb'
    · exact hb'
  refine ⟨h.point, h.contexts, h.dispatched, hfree, fun c hc => h.memory c (hkept _ hc),
    fun b' hb' => ?_⟩
  have hsame := h.refs b' (hkept b' hb')
  by_cases heq : b' = b
  · subst heq
    simp [Worker.decrement, hsame]
  · simp [Worker.decrement, Function.update_of_ne heq, hsame]

/-- The rest of a `Release` in both. -/
theorem Agree.finishRelease (h : Agree s t) {c : ContextPlace} (hc : t.free c.buffer = false)
    (hbuffer : (t.memory c).buffer = some c.buffer) (last : Bool) :
    Agree (s.finishRelease c last) (t.finishRelease c last) := by
  have hmemory := h.memory c hc
  refine ⟨?_, ?_, ?_, ?_, fun c' hc' => ?_, fun b hb => ?_⟩
  · cases last <;> simp [Worker.finishRelease, hmemory, hbuffer, h.point]
  · rw [Worker.contexts_finishRelease, Worker.contexts_finishRelease, h.contexts]
  · cases last <;> simp [Worker.finishRelease, hmemory, hbuffer, h.dispatched]
  · rw [Worker.free_finishRelease, Worker.free_finishRelease, h.free]
  · rw [Worker.free_finishRelease] at hc'
    rw [Worker.memory_finishRelease, Worker.memory_finishRelease, hmemory]
    by_cases hsame : c' = c
    · simp [hsame]
    · simp [Function.update_of_ne hsame, h.memory c' hc']
  · rw [Worker.free_finishRelease] at hb
    have hrefs := h.refs b hb
    cases last with
    | false =>
        simpa [Worker.finishRelease] using hrefs
    | true =>
        by_cases hsame : b = c.buffer
        · simp [Worker.finishRelease, hmemory, hbuffer, hsame]
        · simp [Worker.finishRelease, hmemory, hbuffer, Function.update_of_ne hsame, hrefs]

theorem Agree.at_point (h : Agree s t) (point : Point) :
    Agree { s with point := point } { t with point := point } :=
  ⟨rfl, h.contexts, h.dispatched, h.free, h.memory, h.refs⟩

/-- The worker does the same whatever IO threads have done in between. -/
theorem Agree.work (h : Agree s t) (hkept : Kept places t) (hwork : s.work = some s') :
    ∃ t', t.work = some t' ∧ Agree s' t' := by
  -- the worker looks at places that no IO thread can write to
  have hread : ∀ c, s.reads = some c → c ∈ places ∧ s.memory c = t.memory c := by
    intro c hreads
    have hc : c ∈ places := hkept.reads c (by simpa only [Worker.reads, h.point] using hreads)
    exact ⟨hc, h.memory c (hkept.free c hc)⟩
  unfold Worker.work at hwork ⊢
  rw [← h.point]
  cases hpoint : s.point with
  | chains =>
      simp only [hpoint] at hwork
      rw [← h.contexts]
      cases hcontexts : s.contexts with
      | nil =>
          simp [hcontexts] at hwork
      | cons c contexts =>
          simp only [hcontexts, Option.some.injEq] at hwork
          subst hwork
          exact ⟨_, rfl, rfl, rfl, h.dispatched, h.free, h.memory, h.refs⟩
  | dispatch c =>
      obtain ⟨_, hmemory⟩ := hread c (by simp [Worker.reads, hpoint])
      simp only [hpoint, hmemory] at hwork ⊢
      split at hwork
      · cases hwork
        refine ⟨_, rfl, ?_, h.contexts, ?_, h.free, h.memory, h.refs⟩
        · simp [Worker.call, hmemory]
        · simp [Worker.call, h.dispatched]
      · cases hwork
        exact ⟨_, rfl, h.at_point _⟩
  | release c contextType =>
      obtain ⟨hc, hmemory⟩ := hread c (by simp [Worker.reads, hpoint])
      -- `Release` gives up one reference and frees the buffer if it was the last
      simp only [hpoint, hmemory, hkept.buffer c hc] at hwork ⊢
      cases hsession : (t.memory c).session with
      | false =>
          simp only [hsession, Option.some.injEq] at hwork
          subst hwork
          exact ⟨_, rfl, h.at_point _⟩
      | true =>
          simp only [hsession, Option.some.injEq] at hwork
          subst hwork
          refine ⟨_, rfl, ?_⟩
          rw [h.refs c.buffer (hkept.free c hc)]
          exact (h.decrement (hkept.free c hc)).at_point _
  | finish c contextType last =>
      obtain ⟨hc, _⟩ := hread c (by simp [Worker.reads, hpoint])
      simp only [hpoint, Option.some.injEq] at hwork
      subst hwork
      exact ⟨_, rfl, (h.finishRelease (hkept.free c hc) (hkept.buffer c hc) last).at_point _⟩
  -- the `next` of a context that was released just before
  | advance c =>
      obtain ⟨_, hmemory⟩ := hread c (by simp [Worker.reads, hpoint])
      simp only [hpoint, hmemory, Option.some.injEq] at hwork
      subst hwork
      exact ⟨_, rfl, h.at_point _⟩

end Agree

/-! ## Runs -/

section Runs

variable {s s' : Worker} {chains : List (List ContextPlace)}

/-- A worker on its own is a run in which no buffer is used again. -/
theorem run_alone {n : Nat} {t : Worker} (h : Worker.alone n s = some t) :
    (machine chains).Run s (List.replicate n .worker) t := by
  induction n generalizing s with
  | zero =>
      cases h
      exact .nil _
  | succ n ih =>
      rw [Worker.alone] at h
      obtain ⟨s₁, hfirst, hrest⟩ := Option.bind_eq_some_iff.1 h
      exact .cons (.worker hfirst) (ih hrest)

/-- A run keeps to what the worker does on its own. -/
theorem Agree.run {places : List ContextPlace} {events : List Event}
    (hrun : (machine chains).Run s events s') :
    ∀ {t : Worker}, Agree s t → Kept places t → t.Safe →
      ∃ t', Worker.alone (events.countP Event.isWorker) t = some t' ∧ Agree s' t' ∧
        Kept places t' ∧ t'.Safe := by
  induction hrun with
  | nil s =>
      intro t hagree hkept hsafe
      exact ⟨t, rfl, hagree, hkept, hsafe⟩
  | cons hstep _ ih =>
      intro t hagree hkept hsafe
      cases hstep with
      | worker hwork =>
          obtain ⟨t₁, hwork₁, hagree₁⟩ := hagree.work hkept hwork
          have hsafe₁ := ((Worker.safe_iff_of_work hwork₁).1 hsafe).2
          obtain ⟨t', halone, hend⟩ := ih hagree₁ (hkept.work hsafe hwork₁) hsafe₁
          refine ⟨t', ?_, hend⟩
          rw [List.countP_cons_of_pos rfl, Worker.alone, hwork₁]
          exact halone
      | reuse contents count hfree =>
          obtain ⟨t', halone, hend⟩ := ih (hagree.reuse hfree contents count) hkept hsafe
          refine ⟨t', ?_, hend⟩
          rw [List.countP_cons_of_neg (by simp [Event.isWorker])]
          exact halone

/-- The worker reads only contexts whose buffer is held, and what IO threads do never changes which
contexts it dispatches, if and only if every buffer with a context that it comes to has a context that
is spared. -/
theorem covered_iff (h : Loaded chains s) :
    (∀ events s', (machine chains).Run s events s' → s'.Covered ∧
        ∃ t, Worker.alone (events.countP Event.isWorker) s = some t ∧
          s'.dispatched = t.dispatched) ↔
      ∀ c ∈ chains.flatMap (visited s.memory),
        ∃ c' ∈ chains.flatMap (spared s.memory), c'.buffer = c.buffer := by
  rw [← h.safe_iff_spared]
  constructor
  · intro hcovered n t halone
    exact (hcovered _ t (run_alone halone)).1
  · intro hsafe events s' hrun
    obtain ⟨t, halone, hagree, hkept, hsafe'⟩ := Agree.run hrun (.refl s) h.kept hsafe
    refine ⟨fun c hreads => ?_, t, halone, hagree.dispatched⟩
    have hreads' : t.reads = some c := by simpa only [Worker.reads, hagree.point] using hreads
    rw [hagree.refs c.buffer (hkept.free c (hkept.reads c hreads'))]
    exact hsafe' 0 t rfl c hreads'

end Runs

/-! ### One context, and a session that is closed -/

/-- The data context of a read with one packet. -/
def single : Worker where
  memory := fun c => ⟨.Socket, .SessionData, true, some c.buffer, none⟩
  refs := fun _ => 1
  free := fun b => b ≠ 0
  contexts := [⟨0, 0⟩]

/-- The buffer again, with two contexts that are being linked. -/
def linkedAgain (sequence : Nat) : StoredContext :=
  ⟨.Socket, .SessionData, true, some 0, if sequence = 0 then some ⟨0, 1⟩ else none⟩

/-- `Release` gives the buffer back and reads on; when the buffer is used again before `context->next`
is read, the worker goes on with a context that was not submitted. -/
theorem released_context_read :
    Loaded [[⟨0, 0⟩]] single ∧
      (∃ s', (machine [[⟨0, 0⟩]]).Run single (List.replicate 3 .worker) s' ∧ ¬ s'.Covered) ∧
      ∃ s', (machine [[⟨0, 0⟩]]).Run single
          (List.replicate 4 .worker ++ [.reuse 0 linkedAgain 2, .worker, .worker]) s' ∧
        s'.dispatched = [⟨0, 0⟩, ⟨0, 1⟩] ∧ Worker.alone 6 single = none := by
  have hloaded : Loaded [[⟨0, 0⟩]] single :=
    ⟨rfl, rfl, by simp [Linked, single], by decide, by simp [single], by simp [single, storedIn],
      by simp [single]⟩
  refine ⟨hloaded, ⟨_, run_alone rfl, fun hcovered => ?_⟩, ?_⟩
  · exact absurd (hcovered ⟨0, 0⟩ rfl) (by decide)
  · have hrun : ∃ s', (machine [[⟨0, 0⟩]]).Run single
        (List.replicate 4 .worker ++ [.reuse 0 linkedAgain 2, .worker, .worker]) s' ∧
          s'.dispatched = [⟨0, 0⟩, ⟨0, 1⟩] :=
      ⟨_, (run_alone (n := 4) rfl).trans
        (.cons (.reuse linkedAgain 2 rfl) (.cons (.worker rfl) (.cons (.worker rfl) (.nil _)))), rfl⟩
    obtain ⟨s', hrun, hdispatched⟩ := hrun
    exact ⟨s', hrun, hdispatched, rfl⟩

/-- A `SessionClosed` context with a data context behind it. -/
def closedFirst : Worker where
  memory := fun c =>
    if c.sequence = 0 then ⟨.Socket, .SessionClosed, true, some c.buffer, some ⟨c.buffer, 1⟩⟩
    else ⟨.Socket, .SessionData, true, some c.buffer, none⟩
  refs := fun _ => 2
  free := fun b => b ≠ 0
  contexts := [⟨0, 0⟩]

theorem covered_closedFirst :
    Loaded [[⟨0, 0⟩, ⟨0, 1⟩]] closedFirst ∧
      ∀ events s', (machine [[⟨0, 0⟩, ⟨0, 1⟩]]).Run closedFirst events s' → s'.Covered ∧
        ∃ t, Worker.alone (events.countP Event.isWorker) closedFirst = some t ∧
          s'.dispatched = t.dispatched := by
  have hloaded : Loaded [[⟨0, 0⟩, ⟨0, 1⟩]] closedFirst :=
    ⟨rfl, rfl, by simp [Linked, closedFirst], by decide, by simp [closedFirst],
      by simp [closedFirst, storedIn], by simp [closedFirst]⟩
  refine ⟨hloaded, (covered_iff hloaded).2 ?_⟩
  simp [visited, spared, closedFirst, StoredContext.closes, StoredContext.releases]

end NetworkEngineWorker
end Engine
end SeamlessServer
