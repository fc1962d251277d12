import SeamlessServer.Engine.Parcels

/-!
# Engine.Waiting — one call, as one session sees it

What waits in the throttler under the id of a session, and what a call sends to the session, as lists
of packets.  With distinct ids a post to one session is none of another's business
(`Waiting.post_other`); to its own it is one more packet that waits, and all that waited before it may
be sent (`Waiting.throttle_own`).
-/

namespace SeamlessServer
namespace Engine

open Protocol Utility PacketThrottler

variable {σ : Type} {S : Sessions σ} {t : PacketThrottler σ}

theorem pendingPackets_congr {t' : PacketThrottler σ} {x : σ}
    (h : t'.throttleData.find (S.sessionId x) = t.throttleData.find (S.sessionId x)) :
    pendingPackets S t' x = pendingPackets S t x := by
  rw [pendingPackets, pendingBuffer, h, pendingPackets, pendingBuffer]

theorem packets_fresh (S : Sessions σ) (x : σ) : (freshBuffer S x).packets = [] := rfl

theorem sentPackets_of_other [DecidableEq σ] {x y : σ} (hne : y ≠ x) {actions : List (Action σ)}
    (h : ∀ a ∈ actions, ∃ b, a = .send x b) : sentPackets y actions = [] := by
  rw [sentPackets, List.flatMap_eq_nil_iff]
  intro a ha
  obtain ⟨b, rfl⟩ := h a ha
  cases b with
  | none => rfl
  | some b => exact if_neg hne.symm

namespace Waiting

variable {x y : σ} {p : Packet} {U : Set σ}

/-- A post of a packet that fits, with successful allocations, is one into a well-formed buffer with
what has waited. -/
theorem post_eq (hinj : Set.InjOn S.sessionId U) (ht : Entries (Filled S U) t) (hx : x ∈ U)
    (policy : PacketPostingPolicy) :
    ∃ b, b.WellFormed S x ∧ b.packets = pendingPackets S t x ∧
      t.postPacket S x p policy true true = t.postInto S x b p policy true := by
  rcases postPacket_cases S t x p policy true true with ⟨b, hpending, heq⟩ | ⟨hpending, _, heq⟩ |
    ⟨_, hok, _⟩
  · obtain ⟨data, hfind, hbuf⟩ := pendingBuffer_eq_some hpending
    have hfilled := ht _ data hfind
    obtain ⟨b', hb', hwf⟩ := hfilled.buffer
    have hsession : data.session = x := hinj hfilled.mem hx hfilled.id
    obtain rfl : b' = b := Option.some.inj (hb'.symm.trans hbuf)
    exact ⟨b', hsession ▸ hwf, by simp [pendingPackets, hpending], heq⟩
  · exact ⟨freshBuffer S x, wellFormed_fresh S x, by simp [pendingPackets, hpending, packets_fresh], heq⟩
  · cases hok

section Post

variable [DecidableEq σ]

/-- A post is none of another session's business. -/
theorem post_other (hinj : Set.InjOn S.sessionId U) (ht : Entries (Filled S U) t) (hx : x ∈ U)
    (hfit : packetLengthSize + packetHeaderSize + p.body.length ≤ S.writeCapacity x)
    (policy : PacketPostingPolicy) (hy : y ∈ U) (hne : y ≠ x) :
    sentPackets y (t.postPacket S x p policy true true).actions = [] ∧
      (t.postPacket S x p policy true true).state.throttleData.find (S.sessionId y) =
        t.throttleData.find (S.sessionId y) := by
  have hid : S.sessionId y ≠ S.sessionId x := fun h => hne (hinj hy hx h)
  obtain ⟨b, hb, -, heq⟩ := post_eq hinj ht hx (p := p) policy
  obtain ⟨b', sent, hstore, -⟩ := storePacket_regular hb hfit
  rw [heq]
  rcases postInto_cases S t x b p policy true with ⟨hmap, hactions⟩ | ⟨_, _, hmap, hactions⟩
  · refine ⟨sentPackets_of_other hne fun a ha => ?_, ?_⟩
    · rw [hactions, hstore] at ha
      obtain ⟨c, _, rfl⟩ := List.mem_map.1 ha
      exact ⟨_, rfl⟩
    · rw [hmap, UnorderedMap.find_insert_of_ne _ hid]
  · refine ⟨sentPackets_of_other hne fun a ha => ?_, ?_⟩
    · rw [hactions, hstore] at ha
      rcases List.mem_append.1 ha with hfirst | hlast
      · obtain ⟨c, _, rfl⟩ := List.mem_map.1 hfirst
        exact ⟨_, rfl⟩
      · exact ⟨_, List.mem_singleton.1 hlast⟩
    · rw [hmap, UnorderedMap.find_erase_of_ne _ hid]

/-- A packet that is throttled waits behind the others, or they are sent. -/
theorem throttle_own (hinj : Set.InjOn S.sessionId U) (ht : Entries (Filled S U) t) (hx : x ∈ U)
    (hfit : packetLengthSize + packetHeaderSize + p.body.length ≤ S.writeCapacity x) :
    (sentPackets x (t.postPacket S x p .Throttle true true).actions = [] ∧
        pendingPackets S (t.postPacket S x p .Throttle true true).state x = pendingPackets S t x ++ [p]) ∨
      (sentPackets x (t.postPacket S x p .Throttle true true).actions = pendingPackets S t x ∧
        pendingPackets S (t.postPacket S x p .Throttle true true).state x = [p]) := by
  obtain ⟨b, hb, hpackets, heq⟩ := post_eq hinj ht hx (p := p) .Throttle
  rw [heq, ← hpackets]
  rcases postInto_cases S t x b p .Throttle true with ⟨hmap, hactions⟩ | ⟨_, hpolicy, _⟩
  · have hwaiting : pendingPackets S (t.postInto S x b p .Throttle true).state x =
        (storePacket S x b p true).1.elim [] SocketBuffer.packets := by
      simp [pendingPackets, pendingBuffer_insert hmap]
    rw [hwaiting, hactions]
    rcases storePacket_cases S x b p true with ⟨b', happend, hstore⟩ | ⟨_, _, b', happend, hstore⟩ |
      ⟨_, _, hfull, _⟩ | ⟨_, hok, _⟩
    · rw [hstore]
      exact .inl ⟨rfl, packets_append happend⟩
    · -- the buffer was full
      rw [hstore]
      exact .inr ⟨by simp [sentPackets, Action.packetsTo], packets_append happend⟩
    · rw [SocketBuffer.append_eq_none, packetSize_of_fits hfit] at hfull
      have hroom : ¬ S.writeCapacity x - 0 < packetLengthSize + packetHeaderSize + p.body.length := by
        omega
      exact absurd hfull hroom
    · cases hok
  · cases hpolicy

end Post

/-- What waits for a session is sent by a flush. -/
theorem flush_own [DecidableEq σ] (hinj : Set.InjOn S.sessionId U) (ht : Entries (Filled S U) t)
    (hx : x ∈ U) : sentPackets x t.flushActions = pendingPackets S t x := by
  have hothers : ∀ y, y ≠ x → ∀ b, Action.packetsTo x (.send y b) = [] := by
    intro y hy b
    cases b with
    | none => rfl
    | some b => exact if_neg hy
  rw [sentPackets, flatMap_flushActions hinj ht hx _ hothers, pendingPackets]
  simp only [Action.packetsTo, if_true]

/-- A clean up drops what waits under the id of the session, and nothing else. -/
theorem find_cleanUp (S : Sessions σ) (t : PacketThrottler σ) (x : σ) (k : Nat) :
    (t.cleanUp S x).state.throttleData.find k =
      if k = S.sessionId x then none else t.throttleData.find k := by
  rw [← UnorderedMap.find_erase]
  cases hfind : t.throttleData.find (S.sessionId x) with
  | none =>
      have hsame : (t.cleanUp S x).state = t := by simp [PacketThrottler.cleanUp, hfind]
      rw [hsame, UnorderedMap.find_erase]
      split
      next hid => rw [hid, hfind]
      next => rfl
  | some data =>
      simp [PacketThrottler.cleanUp, hfind]

/-- Nothing is sent by it. -/
theorem sentPackets_cleanUp [DecidableEq σ] (S : Sessions σ) (t : PacketThrottler σ) (x y : σ) :
    sentPackets y (t.cleanUp S x).actions = [] := by
  unfold PacketThrottler.cleanUp
  split
  · rfl
  · rw [sentPackets, List.flatMap_map, List.flatMap_eq_nil_iff]
    exact fun _ _ => rfl

end Waiting

end Engine
end SeamlessServer
