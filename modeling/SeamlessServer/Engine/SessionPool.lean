import SeamlessServer.Engine.PacketThrottler

/-!
# Engine.SessionPool — the session objects of a game server and their ids

`memory/SharedObjectPool.h` numbers the objects of one pool in the order in which it constructs
them.  A `GameServer` has two network engines, each with a session pool of its own, and one
loopback session that belongs to no pool.
-/

namespace SeamlessServer
namespace Engine

/-! ## Numbering of a pool -/

/-- The loop of the `SharedObjectPool` constructor: the sequence numbers given to the blocks of
the chunks allocated from `size` on. -/
def allocateChunks (poolSize chunkSize : Nat) : Nat → Nat → Nat → List Nat
  | 0, _, _ => []
  | rounds + 1, size, sequence =>
      if size < poolSize then
        let allocationSize := if size + chunkSize > poolSize then poolSize - size else chunkSize
        List.range' sequence allocationSize ++
          allocateChunks poolSize chunkSize rounds (size + chunkSize) (sequence + allocationSize)
      else
        []

/-- The ids of a pool in construction order; `start_sequence` defaults to `1`. -/
def poolSequence (poolSize chunkSize : Nat) (startSequence : Nat) : List Nat :=
  allocateChunks poolSize chunkSize poolSize 0 startSequence

theorem allocateChunks_eq {poolSize chunkSize : Nat} (hchunk : 0 < chunkSize) :
    ∀ rounds size sequence, poolSize ≤ size + rounds →
      allocateChunks poolSize chunkSize rounds size sequence =
        List.range' sequence (poolSize - size) := by
  intro rounds
  induction rounds with
  | zero =>
      intro size sequence h
      have hzero : poolSize - size = 0 := by omega
      simp [allocateChunks, hzero]
  | succ rounds ih =>
      intro size sequence h
      by_cases hsize : size < poolSize
      · -- the chunk at hand, then the rest of the loop from the next chunk on
        let n := if size + chunkSize > poolSize then poolSize - size else chunkSize
        have hrest : poolSize - size = n + (poolSize - (size + chunkSize)) := by
          simp only [n]
          split_ifs <;> omega
        calc
          allocateChunks poolSize chunkSize (rounds + 1) size sequence
              = List.range' sequence n ++
                  allocateChunks poolSize chunkSize rounds (size + chunkSize) (sequence + n) := by
                simp [allocateChunks, hsize, n]
          _ = List.range' sequence n ++
                List.range' (sequence + n) (poolSize - (size + chunkSize)) := by
                rw [ih (size + chunkSize) (sequence + n) (by omega)]
          _ = List.range' sequence (poolSize - size) := by
                rw [hrest, List.range'_append_1]
      · have hzero : poolSize - size = 0 := by omega
        simp [allocateChunks, hsize, hzero]

/-- A pool numbers its objects consecutively, whatever the chunk size. -/
theorem poolSequence_eq {poolSize chunkSize : Nat} (hchunk : 0 < chunkSize) (start : Nat) :
    poolSequence poolSize chunkSize start = List.range' start poolSize := by
  simpa [poolSequence] using allocateChunks_eq hchunk poolSize 0 start (by omega)

/-! ## The sessions of a game server -/

/-- A session object of a game server: the one at an index of one of the two pools, or the
loopback session. -/
inductive GameSession
  | intra (index : Nat)
  | user (index : Nat)
  | loopback
  deriving DecidableEq, Repr

/-- The configuration a game server's sessions are created from.  `LoopbackSocketSession` never
calls `Session::Initialize`, so its id is whatever the uninitialised field holds. -/
structure GameServerConfig where
  intraSessionCount : Nat
  userSessionCount : Nat
  loopbackSessionId : Nat
  intraWriteCapacity : Nat
  userWriteCapacity : Nat
  loopbackCapacity : Nat
  /-- Every kind of write buffer holds at least a frame with an empty body. -/
  frame_le : 12 ≤ intraWriteCapacity ∧ 12 ≤ userWriteCapacity ∧ 12 ≤ loopbackCapacity
  capacity_lt : intraWriteCapacity < 2 ^ 32 ∧ userWriteCapacity < 2 ^ 32 ∧ loopbackCapacity < 2 ^ 32

namespace GameServerConfig

/-- The chunk size `NetworkEngine::Initialize` passes to its session pool. -/
def sessionChunkSize : Nat := 64

variable (g : GameServerConfig)

/-- The session objects that exist. -/
def Exists : GameSession → Prop
  | .intra index => index < g.intraSessionCount
  | .user index => index < g.userSessionCount
  | .loopback => True

def sessionId : GameSession → Nat
  | .intra index => (poolSequence g.intraSessionCount sessionChunkSize 1).getD index 0
  | .user index => (poolSequence g.userSessionCount sessionChunkSize 1).getD index 0
  | .loopback => g.loopbackSessionId

def writeCapacity : GameSession → Nat
  | .intra _ => g.intraWriteCapacity
  | .user _ => g.userWriteCapacity
  | .loopback => g.loopbackCapacity

/-- The sessions as the throttler sees them. -/
def sessions : Sessions GameSession where
  sessionId := g.sessionId
  writeCapacity := g.writeCapacity
  writeCapacity_lt := by
    intro x
    cases x with
    | intra _ => exact g.capacity_lt.1
    | user _ => exact g.capacity_lt.2.1
    | loopback => exact g.capacity_lt.2.2

theorem frame_le_writeCapacity (x : GameSession) : 12 ≤ g.writeCapacity x := by
  cases x with
  | intra _ => exact g.frame_le.1
  | user _ => exact g.frame_le.2.1
  | loopback => exact g.frame_le.2.2

/-- Both pools number from one. -/
theorem getD_poolSequence {count index : Nat} (h : index < count) :
    (poolSequence count sessionChunkSize 1).getD index 0 = index + 1 := by
  rw [poolSequence_eq (by decide)]
  simp [List.getD, h, Nat.add_comm]

/-- Two different sessions of the set share an id: the same index in both pools, or the loopback
session with the id of a pooled one. -/
def Collides (U : Set GameSession) : Prop :=
  ∃ index, (.intra index ∈ U ∧ .user index ∈ U) ∨
    (.loopback ∈ U ∧ g.loopbackSessionId = index + 1 ∧ (.intra index ∈ U ∨ .user index ∈ U))

theorem injOn_sessionId_iff {U : Set GameSession} (hU : ∀ x ∈ U, g.Exists x) :
    Set.InjOn g.sessionId U ↔ ¬ g.Collides U := by
  have hintra : ∀ {i}, .intra i ∈ U → g.sessionId (.intra i) = i + 1 :=
    fun h => getD_poolSequence (hU _ h)
  have huser : ∀ {i}, .user i ∈ U → g.sessionId (.user i) = i + 1 :=
    fun h => getD_poolSequence (hU _ h)
  have hloop : g.sessionId .loopback = g.loopbackSessionId := rfl
  constructor
  · intro hinj hcollides
    -- the pools count from the same number, so that equal ids are equal indices
    rcases hcollides with ⟨i, ⟨hi, hi'⟩ | ⟨hl, hid, hi | hi⟩⟩
    · have : GameSession.intra i = .user i :=
        hinj hi hi' ((hintra hi).trans (huser hi').symm)
      cases this
    · have : GameSession.loopback = .intra i := hinj hl hi (by simp [hloop, hintra hi, hid])
      cases this
    · have : GameSession.loopback = .user i := hinj hl hi (by simp [hloop, huser hi, hid])
      cases this
  -- within a pool ids differ, and two sessions of different kinds with one id collide
  · intro hno x hx y hy hxy
    cases x with
    | intra i =>
        cases y with
        | intra j =>
            have : i = j := by simpa [hintra hx, hintra hy] using hxy
            rw [this]
        | user j =>
            have : i = j := by simpa [hintra hx, huser hy] using hxy
            subst this
            exact absurd ⟨i, .inl ⟨hx, hy⟩⟩ hno
        | loopback =>
            rw [hintra hx, hloop] at hxy
            exact absurd ⟨i, .inr ⟨hy, hxy.symm, .inl hx⟩⟩ hno
    | user i =>
        cases y with
        | intra j =>
            have : i = j := by simpa [huser hx, hintra hy] using hxy
            subst this
            exact absurd ⟨i, .inl ⟨hy, hx⟩⟩ hno
        | user j =>
            have : i = j := by simpa [huser hx, huser hy] using hxy
            rw [this]
        | loopback =>
            rw [huser hx, hloop] at hxy
            exact absurd ⟨i, .inr ⟨hy, hxy.symm, .inr hx⟩⟩ hno
    | loopback =>
        cases y with
        | intra j =>
            rw [hintra hy, hloop] at hxy
            exact absurd ⟨j, .inr ⟨hx, hxy, .inl hy⟩⟩ hno
        | user j =>
            rw [huser hy, hloop] at hxy
            exact absurd ⟨j, .inr ⟨hx, hxy, .inr hy⟩⟩ hno
        | loopback =>
            rfl

end GameServerConfig

/-- A server with one session in each pool and the default buffer sizes. -/
def sampleConfig : GameServerConfig where
  intraSessionCount := 1
  userSessionCount := 1
  loopbackSessionId := 99
  intraWriteCapacity := 65536
  userWriteCapacity := 65536
  loopbackCapacity := 65536
  frame_le := by decide
  capacity_lt := by decide

end Engine
end SeamlessServer
