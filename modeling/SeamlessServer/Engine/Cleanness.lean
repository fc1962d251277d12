import SeamlessServer.Engine.Posting
import SeamlessServer.Engine.SessionPool

/-!
# Engine.Cleanness — absent and empty buffers

`StorePacket` leaves an entry without a buffer when its allocation fails, and an entry with an empty
one when the packet exceeds every buffer.  No such buffer is sent exactly as long as every post
finds room (`throttler_sends_no_empty_buffer`).
-/

namespace SeamlessServer
namespace Engine

open Protocol Utility PacketThrottler

variable {σ : Type} {S : Sessions σ} {t : PacketThrottler σ}

/-- The buffer is there and not empty. -/
def Sendable (b : Option (SocketBuffer σ)) : Prop :=
  ∃ b', b = some b' ∧ 0 < b'.length

/-- No absent and no empty buffer is handed to `Send`. -/
def Action.Clean : Action σ → Prop
  | .send _ b => Sendable b
  | _ => True

/-- The post finds room: in the pending buffer, or in a fresh one that is available.  A post that
finds no pending buffer and gets none is dropped, which is fine too. -/
def HasRoom (S : Sessions σ) (t : PacketThrottler σ) (x : σ) (p : Packet)
    (allocated storeAllocated : Bool) : Prop :=
  match t.pendingBuffer S x with
  | none => allocated = true → 0 < packetSize p ∧ packetSize p ≤ S.writeCapacity x
  | some b => b.capacity - b.length < packetSize p →
      storeAllocated = true ∧ packetSize p ≤ S.writeCapacity x

/-- The condition on a call: if it is a post, it finds room. -/
def findsRoom (S : Sessions σ) (t : PacketThrottler σ) : Op σ → Prop
  | .postPacket x p _ allocated storeAllocated => HasRoom S t x p allocated storeAllocated
  | _ => True

theorem clean_flushActions_iff :
    (∀ a ∈ t.flushActions, a.Clean) ↔ Entries (fun _ data => Sendable data.buffer) t := by
  constructor
  · intro h k data hk
    exact h _ (mem_flushActions.2 ⟨k, data, hk, rfl⟩)
  · intro h a ha
    rcases mem_flushActions.1 ha with ⟨k, data, hk, rfl⟩
    exact h k data hk

theorem find_postInto_of_kept {x : σ} {t' : PacketThrottler σ} {data : ThrottleData σ}
    (h : t'.throttleData = t.throttleData.insert (S.sessionId x) data) :
    t'.throttleData.find (S.sessionId x) = some data := by
  simp [h]

/-- A post into a buffer does nothing unclean, now or at the next flush, exactly if the stored
buffer and all buffers sent on the way are sendable. -/
theorem clean_postInto_iff {x : σ} {b : SocketBuffer σ} {p : Packet}
    {policy : PacketPostingPolicy} {ok : Bool}
    (ht : Entries (fun _ data => Sendable data.buffer) t) :
    ((∀ a ∈ (t.postInto S x b p policy ok).actions, a.Clean) ∧
      Entries (fun _ data => Sendable data.buffer) (t.postInto S x b p policy ok).state) ↔
    (∀ a ∈ (storePacket S x b p ok).2.1, a.Clean) ∧ Sendable (storePacket S x b p ok).1 := by
  rcases postInto_cases S t x b p policy ok with ⟨hmap, hactions⟩ | ⟨_, _, hmap, hactions⟩
  · rw [hactions]
    constructor
    · rintro ⟨hclean, hentries⟩
      exact ⟨hclean, hentries _ _ (find_postInto_of_kept hmap)⟩
    · rintro ⟨hclean, hstored⟩
      exact ⟨hclean, entries_insert ht hmap hstored⟩
  · rw [hactions]
    constructor
    · rintro ⟨hclean, _⟩
      exact ⟨fun a ha => hclean a (List.mem_append_left _ ha),
        hclean _ (List.mem_append_right _ (List.mem_singleton.2 rfl))⟩
    · rintro ⟨hclean, hstored⟩
      refine ⟨?_, entries_erase ht hmap⟩
      intro a ha
      rcases List.mem_append.1 ha with ha | ha
      · exact hclean a ha
      · rw [List.mem_singleton.1 ha]
        exact hstored

/-- Storing into a pending, hence non-empty buffer. -/
theorem clean_storePacket_iff {x : σ} {b : SocketBuffer σ} (hb : 0 < b.length) (p : Packet)
    (ok : Bool) :
    ((∀ a ∈ (storePacket S x b p ok).2.1, a.Clean) ∧ Sendable (storePacket S x b p ok).1) ↔
      (b.capacity - b.length < packetSize p → ok = true ∧ packetSize p ≤ S.writeCapacity x) := by
  have hsend : Action.Clean (.send x (some b)) := ⟨b, rfl, hb⟩
  rcases storePacket_cases S x b p ok with ⟨b', h, heq⟩ | ⟨hnone, hok, b', h, heq⟩ |
    ⟨hnone, hok, h, heq⟩ | ⟨hnone, hok, heq⟩
  · rcases SocketBuffer.append_eq_some h with ⟨hle, rfl⟩
    refine iff_of_true ⟨by simp [heq], ?_⟩ (fun hlt => absurd hle (not_le.2 hlt))
    exact ⟨_, by rw [heq], Nat.add_pos_left hb _⟩
  · rcases SocketBuffer.append_eq_some h with ⟨hle, rfl⟩
    have hlt := SocketBuffer.append_eq_none.1 hnone
    refine iff_of_true ⟨by simpa [heq] using hsend, ?_⟩ (fun _ => ⟨hok, hle⟩)
    refine ⟨_, by rw [heq], ?_⟩
    simp only [freshBuffer]
    omega
  · -- the packet exceeds every buffer: the entry is left with an empty one
    have hlt := SocketBuffer.append_eq_none.1 hnone
    have hfresh := SocketBuffer.append_eq_none.1 h
    refine iff_of_false ?_ ?_
    · rintro ⟨_, b', hb', hpos⟩
      rw [heq] at hb'
      cases hb'
      exact absurd hpos (lt_irrefl 0)
    · intro hcond
      exact absurd (hcond hlt).2 (not_le.2 hfresh)
  · -- the pool is exhausted: the entry is left without a buffer
    have hlt := SocketBuffer.append_eq_none.1 hnone
    refine iff_of_false ?_ ?_
    · rintro ⟨_, b', hb', _⟩
      rw [heq] at hb'
      cases hb'
    · intro hcond
      have := (hcond hlt).1
      rw [hok] at this
      cases this

/-- Storing into a fresh buffer. -/
theorem clean_storePacket_fresh_iff (x : σ) (p : Packet) (ok : Bool) :
    ((∀ a ∈ (storePacket S x (freshBuffer S x) p ok).2.1, a.Clean) ∧
      Sendable (storePacket S x (freshBuffer S x) p ok).1) ↔
      0 < packetSize p ∧ packetSize p ≤ S.writeCapacity x := by
  have hempty : ¬ Action.Clean (.send x (some (freshBuffer S x))) := by
    rintro ⟨b', hb', hpos⟩
    cases hb'
    exact absurd hpos (lt_irrefl 0)
  have hrefused : (freshBuffer S x).append x p = none →
      ¬ (0 < packetSize p ∧ packetSize p ≤ S.writeCapacity x) := by
    intro hnone hcond
    exact absurd hcond.2 (not_le.2 (SocketBuffer.append_eq_none.1 hnone))
  rcases storePacket_cases S x (freshBuffer S x) p ok with ⟨b', h, heq⟩ | ⟨hnone, _, _, _, heq⟩ |
    ⟨hnone, _, _, heq⟩ | ⟨hnone, _, heq⟩
  · rcases SocketBuffer.append_eq_some h with ⟨hle, rfl⟩
    constructor
    · rintro ⟨_, b', hb', hpos⟩
      rw [heq] at hb'
      cases hb'
      exact ⟨by simpa [freshBuffer] using hpos, hle⟩
    · rintro ⟨hpos, _⟩
      exact ⟨by simp [heq], _, by rw [heq], by simpa [freshBuffer] using hpos⟩
  -- in the other cases the fresh buffer is sent before anything is written to it
  · exact iff_of_false (fun h => hempty (h.1 _ (by simp [heq]))) (hrefused hnone)
  · exact iff_of_false (fun h => hempty (h.1 _ (by simp [heq]))) (hrefused hnone)
  · exact iff_of_false (fun h => hempty (h.1 _ (by simp [heq]))) (hrefused hnone)

/-- From a state whose pending buffers are all sendable, a call followed by a flush is clean exactly
if the call finds room. -/
theorem clean_apply_iff (ht : Entries (fun _ data => Sendable data.buffer) t) (op : Op σ) :
    ((∀ a ∈ (apply S t op).actions, a.Clean) ∧
      Entries (fun _ data => Sendable data.buffer) (apply S t op).state) ↔ findsRoom S t op := by
  cases op with
  | postPacket x p policy ok storeOk =>
      -- there is a pending buffer, or a new one, or no memory for one
      rcases postPacket_cases S t x p policy ok storeOk with ⟨b, hpending, heq⟩ |
        ⟨hpending, hok, heq⟩ | ⟨hpending, hok, heq⟩
      · rcases pendingBuffer_eq_some hpending with ⟨data, hfind, hbuf⟩
        have hb : 0 < b.length := by
          rcases ht _ data hfind with ⟨b', hb', hpos⟩
          have : b' = b := by simpa [hb'] using hbuf
          exact this ▸ hpos
        simpa [apply, heq, findsRoom, HasRoom, hpending] using
          (clean_postInto_iff (S := S) ht).trans (clean_storePacket_iff hb p storeOk)
      · subst hok
        simpa [apply, heq, findsRoom, HasRoom, hpending] using
          (clean_postInto_iff (S := S) ht).trans (clean_storePacket_fresh_iff x p storeOk)
      · have hmap : (apply S t (.postPacket x p policy ok storeOk)).state.throttleData =
            t.throttleData.erase (S.sessionId x) := by
          simp [apply, heq]
        refine iff_of_true ⟨by simp [apply, heq, Action.Clean], entries_erase ht hmap⟩ ?_
        simp [findsRoom, HasRoom, hpending, hok]
  -- everything that is no post sends what was sendable before
  | cleanUp x =>
      refine iff_of_true ⟨?_, entries_cleanUp ht⟩ trivial
      intro a ha
      cases hfind : t.throttleData.find (S.sessionId x) with
      | none =>
          simp [apply, cleanUp, hfind] at ha
      | some data =>
          rcases (by simpa [apply, cleanUp, hfind] using ha :
            ∃ b, data.buffer = some b ∧ Action.release x data.session b = a) with ⟨b, _, rfl⟩
          trivial
  | tryFlushPacket now =>
      refine iff_of_true ⟨?_, entries_tryFlushPacket ht⟩ trivial
      rcases t.tryFlushPacket_cases now with ⟨_, heq⟩ | ⟨_, heq⟩
      · simpa [apply, heq] using clean_flushActions_iff.2 ht
      · simp [apply, heq]
  | forceFlushPacket =>
      exact iff_of_true ⟨clean_flushActions_iff.2 ht, entries_empty rfl⟩ trivial
  | rehash order =>
      exact iff_of_true ⟨by simp [apply], entries_rehash ht⟩ trivial

/-- The invariant of the runs in which every post finds room. -/
theorem sendable_of_reachable {t : PacketThrottler σ}
    (h : ((machine S).restrict (findsRoom S)).Reachable t) :
    Entries (fun _ data => Sendable data.buffer) t := by
  refine Machine.Reachable.invariant ?_ ?_ h
  · rintro t ⟨tick, now, rfl⟩
    exact entries_new tick now
  · rintro t op t' ht ⟨hroom, rfl⟩
    exact ((clean_apply_iff ht op).2 hroom).2

/-- In every run whose posts find room, no call sends an absent or empty buffer.  The condition is
exact: after such a run, a call and the flush after it are clean if and only if the call meets
it. -/
theorem throttler_sends_no_empty_buffer
    (hreach : ((machine S).restrict (findsRoom S)).Reachable t) (op : Op σ) :
    (findsRoom S t op → ∀ a ∈ (apply S t op).actions, a.Clean) ∧
    ((∀ a ∈ (run S t [op, .forceFlushPacket]).2, a.Clean) ↔ findsRoom S t op) := by
  have ht := sendable_of_reachable hreach
  refine ⟨fun hroom => ((clean_apply_iff ht op).2 hroom).1, ?_⟩
  have hrun : (run S t [op, .forceFlushPacket]).2 =
      (apply S t op).actions ++ (apply S t op).state.flushActions := by
    simp [run, apply, forceFlushPacket]
  rw [← clean_apply_iff ht op, ← clean_flushActions_iff, hrun]
  simp only [List.mem_append, or_imp, forall_and]

theorem throttler_sends_no_empty_buffer_sample :
    findsRoom sampleConfig.sessions (PacketThrottler.new 0 0)
        (.postPacket (.intra 0) emptyPacket .Throttle true false) ∧
      ∀ a ∈ (apply sampleConfig.sessions
        (apply sampleConfig.sessions (PacketThrottler.new 0 0)
          (.postPacket (.intra 0) emptyPacket .Throttle true false)).state
        .forceFlushPacket).actions, a.Clean := by
  have hroom : findsRoom sampleConfig.sessions (PacketThrottler.new 0 0)
      (.postPacket (.intra 0) emptyPacket .Throttle true false) := by
    intro _
    decide
  have hreach : ((machine sampleConfig.sessions).restrict
      (findsRoom sampleConfig.sessions)).Reachable
      (apply sampleConfig.sessions (PacketThrottler.new 0 0)
        (.postPacket (.intra 0) emptyPacket .Throttle true false)).state :=
    .step (.init ⟨0, 0, rfl⟩) ⟨hroom, rfl⟩
  exact ⟨hroom, (throttler_sends_no_empty_buffer hreach .forceFlushPacket).1 trivial⟩

/-- Sessions whose write buffers hold a single frame without a body. -/
def tightSessions : Sessions Unit where
  sessionId := fun _ => 1
  writeCapacity := fun _ => 12
  writeCapacity_lt := fun _ => by decide

/-- The second packet does not fit and the pool is exhausted: the immediate post sends a null
buffer.  A packet larger than any buffer: the throttler sends an empty buffer, throws, and sends
another empty buffer at the next flush. -/
theorem throttler_sends_empty_buffer :
    (run tightSessions (PacketThrottler.new 0 0)
      [.postPacket () emptyPacket .Throttle true true,
       .postPacket () emptyPacket .Immediate true false]).2 =
      [.send () (some ⟨12, 12, [⟨(), emptyPacket⟩]⟩), .overflow (), .send () none] ∧
    (run tightSessions (PacketThrottler.new 0 0)
      [.postPacket () ⟨0, [1]⟩ .Throttle true true, .forceFlushPacket]).2 =
      [.send () (some ⟨12, 0, []⟩), .send () (some ⟨12, 0, []⟩)] := by
  refine ⟨?_, ?_⟩ <;> decide +kernel

end Engine
end SeamlessServer
