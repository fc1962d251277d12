import Mathlib.Algebra.Order.Ring.Int
import Mathlib.Data.List.Nodup
import Mathlib.Data.List.Range
import SeamlessServer.Data.Machine

/-!
# Memory.ObjectPool — a pool of objects with a sequence of ids

`common/memory/ObjectPool.h`.  The constructor allocates the objects in chunks and numbers them in the
order they are allocated; an object that is asked for when the pool is empty may be allocated on the
heap, takes the next number, and is deleted when it is pushed.  Free objects are a stack, whether the
pool is shared between threads or not.

An object is known by its address: its place in a chunk, or what `new` has returned, which is no
address of an object that is still there.  Which objects are held, and the ids that `Initialize` was
given, are not part of the pool.
-/

namespace SeamlessServer
namespace Memory

/-- The address of an object. -/
inductive BlockRef
  | pooled (chunk index : Nat)
  | heap (address : Nat)
  deriving DecidableEq

def BlockRef.isHeap : BlockRef → Bool
  | .pooled _ _ => false
  | .heap _ => true

/-- `ObjectBlock`, with the id that its initializer was given. -/
structure ObjectBlock where
  sequence : UInt64
  isHeapAllocation : Bool

structure ObjectPool where
  /-- `_pool`; objects are pushed and popped at the back. -/
  pool : List BlockRef := []
  objectSequence : UInt64
  blocks : BlockRef → Option ObjectBlock := fun _ => none
  held : List BlockRef := []
  /-- The ids of all objects that were ever created, in order. -/
  created : List UInt64 := []

namespace ObjectPool

variable (p : ObjectPool)

/-! ## Construction -/

/-- `Initializer::Initialize(block, sequence++, ...)`. -/
def initializeObject (x : BlockRef) (isHeapAllocation : Bool) : ObjectPool :=
  { p with
    blocks := Function.update p.blocks x (some ⟨p.objectSequence, isHeapAllocation⟩)
    objectSequence := p.objectSequence + 1
    created := p.created ++ [p.objectSequence] }

def pushObject (x : BlockRef) : ObjectPool := { p with pool := p.pool ++ [x] }

def allocateChunk (chunk chunkSize : Nat) : ObjectPool :=
  (List.range chunkSize).foldl
    (fun p index => (p.initializeObject (.pooled chunk index) false).pushObject (.pooled chunk index)) p

/-- The loop of the constructor, from `size` on.  In `uint32_t` it may not come to an end. -/
def allocateChunks (poolSize chunkSize : UInt32) :
    Nat → Nat → UInt32 → ObjectPool → Option ObjectPool
  | 0, _, _, _ => none
  | fuel + 1, chunk, size, p =>
      if size < poolSize then
        let allocationSize := if size + chunkSize > poolSize then poolSize - size else chunkSize
        allocateChunks poolSize chunkSize fuel (chunk + 1) (size + chunkSize)
          (p.allocateChunk chunk allocationSize.toNat)
      else
        some p

def construct (poolSize chunkSize : UInt32) (startSequence : UInt64) (fuel : Nat) :
    Option ObjectPool :=
  allocateChunks poolSize chunkSize fuel 0 0 { objectSequence := startSequence }

/-! ## `Push` and `Pop` -/

def push (x : BlockRef) : ObjectPool :=
  match p.blocks x with
  | none => p
  | some block =>
      let p := { p with held := p.held.erase x }
      if block.isHeapAllocation then
        { p with blocks := Function.update p.blocks x none }
      else
        p.pushObject x

/-- `Pop`; `address` is what `new` returns.  A null pointer leaves the pool as it is. -/
def pop (mustAllocation : Bool) (address : Nat) : ObjectPool :=
  match p.pool.getLast? with
  | some x => { p with pool := p.pool.dropLast, held := x :: p.held }
  | none =>
      if mustAllocation then
        let p := p.initializeObject (.heap address) true
        { p with held := .heap address :: p.held }
      else
        p

inductive PoolCall
  | pop (mustAllocation : Bool) (address : Nat)
  | push (x : BlockRef)
  deriving DecidableEq

/-- Objects that are held are pushed, and `new` returns no address in use. -/
def Allows : PoolCall → Prop
  | .pop _ address => p.blocks (.heap address) = none
  | .push x => x ∈ p.held

def next : PoolCall → ObjectPool
  | .pop mustAllocation address => p.pop mustAllocation address
  | .push x => p.push x

/-- Any calls on a pool as it was constructed. -/
def pooling (start : ObjectPool) : Machine ObjectPool PoolCall where
  init := fun p => p = start
  step := fun p call p' => p.Allows call ∧ p' = p.next call

/-! ## Ids -/

/-- Consecutive ids, modulo `2 ^ 64`. -/
def idsFrom (start : UInt64) (n : Nat) : List UInt64 :=
  (List.range n).map fun i => start + UInt64.ofNat i

theorem idsFrom_succ (start : UInt64) (n : Nat) :
    idsFrom start (n + 1) = idsFrom start n ++ [start + UInt64.ofNat n] := by
  simp [idsFrom, List.range_succ]

@[simp] theorem length_idsFrom (start : UInt64) (n : Nat) : (idsFrom start n).length = n := by
  simp [idsFrom]

/-- Consecutive ids are distinct until the counter comes round. -/
theorem nodup_idsFrom_iff (start : UInt64) (n : Nat) : (idsFrom start n).Nodup ↔ n ≤ 2 ^ 64 := by
  rw [idsFrom, List.nodup_map_iff_inj_on List.nodup_range]
  constructor
  · intro h
    by_contra hn
    have hround : start + UInt64.ofNat 0 = start + UInt64.ofNat (2 ^ 64) := rfl
    have hsame := h 0 (List.mem_range.2 (by omega)) (2 ^ 64) (List.mem_range.2 (by omega)) hround
    exact absurd hsame (by decide)
  · intro hn i hi j hj heq
    have hi' := List.mem_range.1 hi
    have hj' := List.mem_range.1 hj
    have hmod := congrArg UInt64.toNat ((UInt64.add_right_inj start).1 heq)
    simp only [UInt64.toNat_ofNat'] at hmod
    omega

/-! ## Invariant -/

/-- Free and held objects are there, each once; free ones belong to chunks; and the ids go on from the
first one. -/
structure Sound (start : UInt64) (p : ObjectPool) : Prop where
  nodup : (p.pool ++ p.held).Nodup
  there : ∀ x ∈ p.pool ++ p.held, ∃ block, p.blocks x = some block ∧ block.isHeapAllocation = x.isHeap
  pooled : ∀ x ∈ p.pool, x.isHeap = false
  ids : p.created = idsFrom start p.created.length
  sequence : p.objectSequence = start + UInt64.ofNat p.created.length

namespace Sound

variable {start : UInt64} {p : ObjectPool}

/-- The next object takes the next id. -/
theorem ids_append (h : Sound start p) :
    p.created ++ [p.objectSequence] = idsFrom start (p.created ++ [p.objectSequence]).length := by
  rw [List.length_append, List.length_singleton, idsFrom_succ, ← h.ids, h.sequence]

theorem sequence_succ (h : Sound start p) :
    p.objectSequence + 1 = start + UInt64.ofNat (p.created ++ [p.objectSequence]).length := by
  rw [List.length_append, List.length_singleton, UInt64.ofNat_add, ← UInt64.add_assoc, ← h.sequence]
  rfl

/-- A new object of a chunk is free. -/
theorem create (h : Sound start p) {chunk index : Nat}
    (hnew : BlockRef.pooled chunk index ∉ p.pool ++ p.held) :
    Sound start ((p.initializeObject (.pooled chunk index) false).pushObject (.pooled chunk index)) := by
  have hperm : (p.pool ++ [BlockRef.pooled chunk index] ++ p.held).Perm
      (BlockRef.pooled chunk index :: (p.pool ++ p.held)) := by
    rw [List.append_assoc, List.singleton_append]
    exact List.perm_middle
  refine ⟨?_, fun x hx => ?_, fun x hx => ?_, h.ids_append, h.sequence_succ⟩
  · exact hperm.nodup_iff.2 (List.nodup_cons.2 ⟨hnew, h.nodup⟩)
  · by_cases heq : x = .pooled chunk index
    · subst heq
      exact ⟨⟨p.objectSequence, false⟩, by simp [initializeObject, pushObject], rfl⟩
    · have hold : x ∈ p.pool ++ p.held :=
        (List.mem_cons.1 (hperm.mem_iff.1 hx)).resolve_left heq
      obtain ⟨block, hblock, hheap⟩ := h.there x hold
      exact ⟨block, by simpa [initializeObject, pushObject, heq] using hblock, hheap⟩
  · rcases List.mem_append.1 hx with hold | hlast
    · exact h.pooled x hold
    · rw [List.mem_singleton.1 hlast]
      rfl

/-- An object goes from the top of the stack to its holder. -/
theorem take (h : Sound start p) {x : BlockRef} (hx : p.pool.getLast? = some x) :
    Sound start { p with pool := p.pool.dropLast, held := x :: p.held } := by
  have hpool : p.pool = p.pool.dropLast ++ [x] := by
    obtain ⟨rest, hrest⟩ := List.getLast?_eq_some_iff.1 hx
    rw [hrest, List.dropLast_concat]
  have hperm : (p.pool.dropLast ++ x :: p.held) = p.pool ++ p.held := by
    conv_rhs => rw [hpool, List.append_assoc, List.singleton_append]
  refine ⟨?_, ?_, fun y hy => ?_, h.ids, h.sequence⟩
  · change (p.pool.dropLast ++ x :: p.held).Nodup
    rw [hperm]
    exact h.nodup
  · change ∀ y ∈ p.pool.dropLast ++ x :: p.held, _
    rw [hperm]
    exact h.there
  · exact h.pooled y (List.dropLast_subset _ hy)

/-- An object that `new` returns is held. -/
theorem allocate (h : Sound start p) {address : Nat} (hnew : p.blocks (.heap address) = none)
    (hempty : p.pool = []) :
    Sound start { p.initializeObject (.heap address) true with held := .heap address :: p.held } := by
  have hunheld : BlockRef.heap address ∉ p.held := by
    intro hmem
    obtain ⟨block, hblock, -⟩ := h.there _ (List.mem_append_right _ hmem)
    rw [hnew] at hblock
    cases hblock
  refine ⟨?_, fun x hx => ?_, fun x hx => ?_, h.ids_append, h.sequence_succ⟩
  · have hnodup := h.nodup
    rw [hempty, List.nil_append] at hnodup
    simpa [initializeObject, hempty] using ⟨hunheld, hnodup⟩
  · by_cases heq : x = .heap address
    · subst heq
      exact ⟨⟨p.objectSequence, true⟩, by simp [initializeObject], rfl⟩
    · have hold : x ∈ p.pool ++ p.held := by
        simpa [initializeObject, heq] using hx
      obtain ⟨block, hblock, hheap⟩ := h.there x hold
      exact ⟨block, by simpa [initializeObject, heq] using hblock, hheap⟩
  · exact h.pooled x hx

theorem pop (h : Sound start p) (mustAllocation : Bool) {address : Nat}
    (hnew : p.blocks (.heap address) = none) : Sound start (p.pop mustAllocation address) := by
  unfold ObjectPool.pop
  split
  next x hx => exact h.take hx
  next hempty =>
    split
    · exact h.allocate hnew (List.getLast?_eq_none_iff.1 hempty)
    · exact h

theorem push (h : Sound start p) {x : BlockRef} (hx : x ∈ p.held) : Sound start (p.push x) := by
  obtain ⟨block, hblock, hheap⟩ := h.there x (List.mem_append_right _ hx)
  have hheld : p.held.Perm (x :: p.held.erase x) := List.perm_cons_erase hx
  have hperm : (p.pool ++ p.held).Perm (x :: (p.pool ++ p.held.erase x)) :=
    (hheld.append_left p.pool).trans List.perm_middle
  have hnodup : (x :: (p.pool ++ p.held.erase x)).Nodup := hperm.nodup_iff.1 h.nodup
  unfold ObjectPool.push
  rw [hblock]
  dsimp only
  split
  next hdelete =>
    -- an object of the heap is deleted
    refine ⟨(List.nodup_cons.1 hnodup).2, fun y hy => ?_, h.pooled, h.ids, h.sequence⟩
    have hne : y ≠ x := fun heq => (List.nodup_cons.1 hnodup).1 (heq ▸ hy)
    obtain ⟨block', hblock', hheap'⟩ := h.there y (hperm.mem_iff.2 (List.mem_cons_of_mem _ hy))
    exact ⟨block', by simpa [hne] using hblock', hheap'⟩
  next hkeep =>
    have hback : (p.pool ++ [x] ++ p.held.erase x).Perm (p.pool ++ p.held) := by
      rw [List.append_assoc, List.singleton_append]
      exact List.perm_middle.trans hperm.symm
    refine ⟨hback.nodup_iff.2 h.nodup, fun y hy => h.there y (hback.mem_iff.1 hy), fun y hy => ?_, h.ids,
      h.sequence⟩
    rcases List.mem_append.1 hy with hold | hlast
    · exact h.pooled y hold
    · rw [List.mem_singleton.1 hlast, ← hheap]
      exact Bool.eq_false_iff.2 hkeep

theorem reachable (h : Sound start p) {p' : ObjectPool} (hrun : (pooling p).Reachable p') :
    Sound start p' := by
  refine Machine.Reachable.invariant (P := Sound start) ?_ (fun q call q' hq hstep => ?_) hrun
  · rintro q rfl
    exact h
  · obtain ⟨hallows, rfl⟩ := hstep
    cases call with
    | pop mustAllocation address => exact hq.pop mustAllocation hallows
    | push x => exact hq.push hallows

end Sound

/-! ## The constructor -/

/-- The ids of the free objects. -/
def ids (p : ObjectPool) : List UInt64 :=
  p.pool.filterMap fun x => (p.blocks x).map ObjectBlock.sequence

/-- A pool in construction: the chunks before `chunk` are there, and `index` objects of that one. -/
structure Built (start : UInt64) (count chunk index : Nat) (p : ObjectPool) : Prop where
  sound : Sound start p
  held : p.held = []
  length : p.pool.length = count
  created : p.created.length = count
  ids : p.ids = p.created
  places : ∀ x ∈ p.pool, ∃ c i, x = .pooled c i ∧ (c < chunk ∨ (c = chunk ∧ i < index))

namespace Built

variable {start : UInt64} {count chunk index : Nat} {p : ObjectPool}

theorem empty (start : UInt64) : Built start 0 0 0 { objectSequence := start } := by
  refine ⟨⟨List.nodup_nil, by simp, by simp, rfl, ?_⟩, rfl, rfl, rfl, rfl, by simp⟩
  exact (UInt64.add_zero start).symm

theorem create (h : Built start count chunk index p) :
    Built start (count + 1) chunk (index + 1)
      ((p.initializeObject (.pooled chunk index) false).pushObject (.pooled chunk index)) := by
  have hnew : BlockRef.pooled chunk index ∉ p.pool := by
    intro hmem
    obtain ⟨c, i, heq, hplace⟩ := h.places _ hmem
    cases heq
    omega
  have hids : (p.pool.filterMap fun x => ((Function.update p.blocks (.pooled chunk index)
      (some ⟨p.objectSequence, false⟩)) x).map ObjectBlock.sequence) = p.created := by
    refine Eq.trans (List.filterMap_congr fun x hx => ?_) h.ids
    have hne : x ≠ .pooled chunk index := fun heq => hnew (heq ▸ hx)
    rw [Function.update_of_ne hne]
  refine ⟨h.sound.create (by simpa [h.held] using hnew), h.held, ?_, ?_, ?_, fun x hx => ?_⟩
  · simp [pushObject, initializeObject, h.length]
  · simp [pushObject, initializeObject, h.created]
  · simp only [ObjectPool.ids, pushObject, initializeObject, List.filterMap_append, hids]
    simp
  · rcases List.mem_append.1 hx with hold | hlast
    · obtain ⟨c, i, heq, hplace⟩ := h.places x hold
      exact ⟨c, i, heq, by omega⟩
    · exact ⟨chunk, index, List.mem_singleton.1 hlast, by omega⟩

/-- A chunk adds its objects. -/
theorem allocateChunk (h : Built start count chunk 0 p) (n : Nat) :
    Built start (count + n) (chunk + 1) 0 (p.allocateChunk chunk n) := by
  have hfold : Built start (count + n) chunk n (p.allocateChunk chunk n) := by
    induction n with
    | zero => exact h
    | succ n ih =>
        unfold ObjectPool.allocateChunk at ih ⊢
        rw [List.range_succ, List.foldl_concat]
        exact ih.create
  refine ⟨hfold.sound, hfold.held, hfold.length, hfold.created, hfold.ids, fun x hx => ?_⟩
  obtain ⟨c, i, heq, hplace⟩ := hfold.places x hx
  exact ⟨c, i, heq, by omega⟩

end Built

/-- The loop of the constructor stays within `uint32_t`. -/
def NoWrap (poolSize chunkSize : UInt32) : Prop :=
  ∀ size < poolSize, chunkSize.toNat ∣ size.toNat → size.toNat + chunkSize.toNat < 2 ^ 32

/-- From `size` on the loop adds what is missing, the last chunk cut off at the size of the pool. -/
theorem allocateChunks_built {start : UInt64} {poolSize chunkSize : UInt32} (hchunk : 0 < chunkSize)
    (hwrap : NoWrap poolSize chunkSize) :
    ∀ fuel chunk size p, poolSize.toNat - size.toNat < fuel → chunkSize.toNat ∣ size.toNat →
      Built start (min size.toNat poolSize.toNat) chunk 0 p →
        ∃ p' chunk', allocateChunks poolSize chunkSize fuel chunk size p = some p' ∧
          Built start poolSize.toNat chunk' 0 p' := by
  have hpos : 0 < chunkSize.toNat := UInt32.lt_iff_toNat_lt.1 hchunk
  intro fuel
  induction fuel with
  | zero =>
      intro chunk size p hfuel hdvd hbuilt
      omega
  | succ fuel ih =>
      intro chunk size p hfuel hdvd hbuilt
      unfold allocateChunks
      by_cases hsize : size < poolSize
      · have hlt : size.toNat < poolSize.toNat := UInt32.lt_iff_toNat_lt.1 hsize
        -- `size += chunk_size` must not wrap
        have hnext : (size + chunkSize).toNat = size.toNat + chunkSize.toNat := by
          rw [UInt32.toNat_add, Nat.mod_eq_of_lt (hwrap size hsize hdvd)]
        have hrest : (poolSize - size).toNat = poolSize.toNat - size.toNat :=
          UInt32.toNat_sub_of_le _ _ (UInt32.le_iff_toNat_le.2 hlt.le)
        have hadded : min (size + chunkSize).toNat poolSize.toNat =
            min size.toNat poolSize.toNat +
              (if size + chunkSize > poolSize then poolSize - size else chunkSize).toNat := by
          -- the last chunk is cut off
          by_cases hlast : size + chunkSize > poolSize
          · have hcut : poolSize.toNat < (size + chunkSize).toNat := UInt32.lt_iff_toNat_lt.1 hlast
            rw [if_pos hlast, hrest]
            omega
          · have hfits : (size + chunkSize).toNat ≤ poolSize.toNat := by
              have := UInt32.lt_iff_toNat_lt.not.1 hlast
              omega
            rw [if_neg hlast]
            omega
        rw [if_pos hsize]
        refine ih (chunk + 1) (size + chunkSize) _ (by omega) ?_ ?_
        · rw [hnext]
          exact Nat.dvd_add hdvd (Nat.dvd_refl _)
        · rw [hadded]
          exact hbuilt.allocateChunk _
      · have hle : poolSize.toNat ≤ size.toNat := by
          have := UInt32.lt_iff_toNat_lt.not.1 hsize
          omega
        rw [if_neg hsize]
        rw [min_eq_right hle] at hbuilt
        exact ⟨p, chunk, rfl, hbuilt⟩

/-- No object is held twice or while it is free, objects of the heap are never free, and the ids of all
objects ever created are distinct until the counter comes round. -/
structure OneHolder (p : ObjectPool) : Prop where
  held : p.held.Nodup
  apart : ∀ x ∈ p.held, x ∉ p.pool
  pooled : ∀ x ∈ p.pool, x.isHeap = false
  created : p.created.Nodup ↔ p.created.length ≤ 2 ^ 64

theorem Sound.oneHolder {start : UInt64} {p : ObjectPool} (h : Sound start p) : OneHolder p := by
  obtain ⟨-, hheld, hapart⟩ := List.nodup_append.1 h.nodup
  refine ⟨hheld, fun x hx hfree => hapart x hfree x hx rfl, h.pooled, ?_⟩
  conv_lhs => rw [h.ids]
  exact nodup_idsFrom_iff start _

/-- The constructor creates the objects of the pool with consecutive ids, and they have one holder each
from then on. -/
theorem constructed_pool {poolSize chunkSize : UInt32} (start : UInt64) (hchunk : 0 < chunkSize)
    (hwrap : NoWrap poolSize chunkSize) {fuel : Nat} (hfuel : poolSize.toNat < fuel) :
    ∃ p, construct poolSize chunkSize start fuel = some p ∧
      p.pool.Nodup ∧ p.pool.length = poolSize.toNat ∧ p.ids = idsFrom start poolSize.toNat ∧
      p.created = idsFrom start poolSize.toNat ∧ (idsFrom start poolSize.toNat).Nodup ∧
      ∀ p', (pooling p).Reachable p' → OneHolder p' := by
  have hempty : Built start (min (0 : UInt32).toNat poolSize.toNat) 0 0 { objectSequence := start } := by
    have hzero : min (0 : UInt32).toNat poolSize.toNat = 0 := Nat.zero_min _
    rw [hzero]
    exact Built.empty start
  -- what a chunk adds is built upon what the chunks before it have left
  obtain ⟨p, chunk, hresult, hbuilt⟩ := allocateChunks_built hchunk hwrap fuel 0 0
    { objectSequence := start } (by rwa [UInt32.toNat_zero, Nat.sub_zero]) (Nat.dvd_zero _) hempty
  have hcreated : p.created = idsFrom start poolSize.toNat := by
    rw [hbuilt.sound.ids, hbuilt.created]
  have hsmall : poolSize.toNat ≤ 2 ^ 64 := by
    have := poolSize.toNat_lt
    omega
  refine ⟨p, hresult, ?_, hbuilt.length, hbuilt.ids.trans hcreated, hcreated,
    (nodup_idsFrom_iff start _).2 hsmall, fun p' hrun => (hbuilt.sound.reachable hrun).oneHolder⟩
  exact (List.nodup_append.1 hbuilt.sound.nodup).1

theorem constructed_five :
    ∃ p, construct 5 2 1 6 = some p ∧ p.pool.Nodup ∧ p.pool.length = 5 ∧ p.ids = idsFrom 1 5 ∧
      p.created = idsFrom 1 5 ∧ (idsFrom 1 5).Nodup ∧ ∀ p', (pooling p).Reachable p' → OneHolder p' := by
  have hwrap : NoWrap 5 2 := by
    intro size hsize _
    have hlt : size.toNat < 5 := UInt32.lt_iff_toNat_lt.1 hsize
    change size.toNat + 2 < 2 ^ 32
    omega
  exact constructed_pool 1 (by decide) hwrap (by decide)

/-- From a pool without objects any number of objects can be allocated. -/
theorem reachable_allocations (start : UInt64) (n : Nat) :
    ∃ p, (pooling { objectSequence := start }).Reachable p ∧ p.pool = [] ∧ p.created.length = n ∧
      ∀ address, n ≤ address → p.blocks (.heap address) = none := by
  induction n with
  | zero => exact ⟨{ objectSequence := start }, .init rfl, rfl, rfl, fun _ _ => rfl⟩
  | succ n ih =>
      obtain ⟨p, hreach, hempty, hlength, hfree⟩ := ih
      have hpop : p.pop true n =
          { p.initializeObject (.heap n) true with held := .heap n :: p.held } := by
        simp [ObjectPool.pop, hempty, initializeObject]
      refine ⟨p.pop true n, .step hreach (e := .pop true n) ⟨hfree n (Nat.le_refl n), rfl⟩, ?_, ?_, ?_⟩
      · rw [hpop]
        exact hempty
      · rw [hpop]
        simp [initializeObject, hlength]
      · intro address haddress
        have hne : BlockRef.heap address ≠ .heap n := fun heq => by
          cases heq
          omega
        rw [hpop]
        simpa [initializeObject, hne] using hfree address (by omega)

/-- A pool without objects of its own that has allocated `2 ^ 64 + 1` objects has given an id twice. -/
theorem ids_come_round : construct 0 1 1 1 = some { objectSequence := 1 } ∧
    ∃ p, (pooling { objectSequence := 1 }).Reachable p ∧ ¬ p.created.Nodup := by
  refine ⟨rfl, ?_⟩
  obtain ⟨p, hreach, -, hlength, -⟩ := reachable_allocations 1 (2 ^ 64 + 1)
  have hsound : Sound 1 p := (Built.empty 1).sound.reachable hreach
  refine ⟨p, hreach, fun hnodup => ?_⟩
  have hbound := hsound.oneHolder.created.1 hnodup
  omega

end ObjectPool
end Memory
end SeamlessServer
