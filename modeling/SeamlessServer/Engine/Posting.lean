import SeamlessServer.Engine.PacketThrottler

/-!
# Engine.Posting — what one call does to the throttler

One description of a post, `storePacket_cases` for the buffer and `postInto_cases` for the map, and
one rule that carries a property of all entries of the map through every call.  The statements
about delivery are proved from these and do not look into the code again.
-/

namespace SeamlessServer
namespace Engine

open Protocol Utility

variable {σ : Type} {S : Sessions σ} {t : PacketThrottler σ}

/-! ## What a post does -/

theorem SocketBuffer.append_eq_some {b b' : SocketBuffer σ} {x : σ} {p : Packet}
    (h : b.append x p = some b') :
    packetSize p ≤ b.capacity - b.length ∧
      b' = ⟨b.capacity, b.length + packetSize p, b.contents ++ [⟨x, p⟩]⟩ := by
  by_cases hfit : packetSize p > b.capacity - b.length
  · simp [SocketBuffer.append, serializePacket, hfit] at h
  · have hb' : b' = ⟨b.capacity, b.length + packetSize p, b.contents ++ [⟨x, p⟩]⟩ := by
      simpa [SocketBuffer.append, serializePacket, hfit] using h.symm
    exact ⟨not_lt.1 hfit, hb'⟩

theorem SocketBuffer.append_eq_none {b : SocketBuffer σ} {x : σ} {p : Packet} :
    b.append x p = none ↔ b.capacity - b.length < packetSize p := by
  simp [SocketBuffer.append, serializePacket]

namespace PacketThrottler

/-- The four ways out of `StorePacket`. -/
theorem storePacket_cases (S : Sessions σ) (x : σ) (b : SocketBuffer σ) (p : Packet) (ok : Bool) :
    (∃ b', b.append x p = some b' ∧ storePacket S x b p ok = (some b', [], false)) ∨
    (b.append x p = none ∧ ok = true ∧ ∃ b', (freshBuffer S x).append x p = some b' ∧
      storePacket S x b p ok = (some b', [.send x (some b)], false)) ∨
    (b.append x p = none ∧ ok = true ∧ (freshBuffer S x).append x p = none ∧
      storePacket S x b p ok = (some (freshBuffer S x), [.send x (some b)], true)) ∨
    (b.append x p = none ∧ ok = false ∧
      storePacket S x b p ok = (none, [.send x (some b), .overflow x], false)) := by
  cases happend : b.append x p with
  | some b' =>
      exact .inl ⟨b', rfl, by simp [storePacket, happend]⟩
  | none =>
      cases ok with
      | false =>
          exact .inr (.inr (.inr ⟨rfl, rfl, by simp [storePacket, happend]⟩))
      | true =>
          cases hfresh : (freshBuffer S x).append x p with
          | some b' =>
              exact .inr (.inl ⟨rfl, rfl, b', rfl, by simp [storePacket, happend, hfresh]⟩)
          | none =>
              exact .inr (.inr (.inl ⟨rfl, rfl, rfl, by simp [storePacket, happend, hfresh]⟩))

/-- The two ways out of a post that found a buffer: the entry is kept, or it is sent and
erased. -/
theorem postInto_cases (S : Sessions σ) (t : PacketThrottler σ) (x : σ) (b : SocketBuffer σ)
    (p : Packet) (policy : PacketPostingPolicy) (ok : Bool) :
    ((t.postInto S x b p policy ok).state.throttleData =
        t.throttleData.insert (S.sessionId x) ⟨x, (storePacket S x b p ok).1⟩ ∧
      (t.postInto S x b p policy ok).actions = (storePacket S x b p ok).2.1) ∨
    ((storePacket S x b p ok).2.2 = false ∧ policy = .Immediate ∧
      (t.postInto S x b p policy ok).state.throttleData =
        t.throttleData.erase (S.sessionId x) ∧
      (t.postInto S x b p policy ok).actions =
        (storePacket S x b p ok).2.1 ++ [.send x (storePacket S x b p ok).1]) := by
  rcases hstore : storePacket S x b p ok with ⟨stored, actions, threw⟩
  cases threw with
  | true =>
      exact .inl (by simp [postInto, hstore])
  | false =>
      cases policy with
      | Immediate =>
          exact .inr (by simp [postInto, hstore])
      | Throttle =>
          exact .inl (by simp [postInto, hstore])

/-- A post either goes into a buffer, the pending one or a fresh one, or is dropped. -/
theorem postPacket_cases (S : Sessions σ) (t : PacketThrottler σ) (x : σ) (p : Packet)
    (policy : PacketPostingPolicy) (ok storeOk : Bool) :
    (∃ b, t.pendingBuffer S x = some b ∧
      t.postPacket S x p policy ok storeOk = t.postInto S x b p policy storeOk) ∨
    (t.pendingBuffer S x = none ∧ ok = true ∧
      t.postPacket S x p policy ok storeOk = t.postInto S x (freshBuffer S x) p policy storeOk) ∨
    (t.pendingBuffer S x = none ∧ ok = false ∧
      t.postPacket S x p policy ok storeOk =
        ⟨{ t with throttleData := t.throttleData.erase (S.sessionId x) }, [.overflow x], false⟩)
    := by
  cases hpending : t.pendingBuffer S x with
  | some b =>
      exact .inl ⟨b, rfl, by simp [postPacket, hpending]⟩
  | none =>
      cases ok with
      | true =>
          exact .inr (.inl ⟨rfl, rfl, by simp [postPacket, hpending]⟩)
      | false =>
          exact .inr (.inr ⟨rfl, rfl, by simp [postPacket, hpending]⟩)

/-- A flush by the clock is a flush or does nothing to the map. -/
theorem tryFlushPacket_cases (t : PacketThrottler σ) (now : Milliseconds) :
    ((t.tryFlushPacket now).state.throttleData = UnorderedMap.empty ∧
      (t.tryFlushPacket now).actions = t.flushActions) ∨
    ((t.tryFlushPacket now).state.throttleData = t.throttleData ∧
      (t.tryFlushPacket now).actions = []) := by
  cases hfire : (t.throttler.fire now).1 with
  | true =>
      exact .inl (by simp [tryFlushPacket, hfire, forceFlushPacket, flushActions])
  | false =>
      exact .inr (by simp [tryFlushPacket, hfire])

theorem mem_flushActions {a : Action σ} :
    a ∈ t.flushActions ↔
      ∃ k data, t.throttleData.find k = some data ∧ a = .send data.session data.buffer := by
  simp only [flushActions, List.mem_map, UnorderedMap.mem_values]
  constructor
  · rintro ⟨data, ⟨k, hk⟩, rfl⟩
    exact ⟨k, data, hk, rfl⟩
  · rintro ⟨k, data, hk, rfl⟩
    exact ⟨data, ⟨k, hk⟩, rfl⟩

theorem pendingBuffer_eq_some {x : σ} {b : SocketBuffer σ} (h : t.pendingBuffer S x = some b) :
    ∃ data, t.throttleData.find (S.sessionId x) = some data ∧ data.buffer = some b :=
  Option.bind_eq_some_iff.1 h

end PacketThrottler

open PacketThrottler

/-! ## Entries of the map

An invariant of the throttler says the same of every entry of its map.  This section carries such
an invariant through every call once. -/

/-- Every entry of the map has the property. -/
def Entries (P : Nat → ThrottleData σ → Prop) (t : PacketThrottler σ) : Prop :=
  ∀ k data, t.throttleData.find k = some data → P k data

variable {P : Nat → ThrottleData σ → Prop}

theorem entries_new (tick now : Milliseconds) :
    Entries P (PacketThrottler.new tick now : PacketThrottler σ) := by
  intro k data h
  simp [PacketThrottler.new] at h

theorem entries_insert {t' : PacketThrottler σ} {id : Nat} {data : ThrottleData σ}
    (ht : Entries P t) (h : t'.throttleData = t.throttleData.insert id data) (hdata : P id data) :
    Entries P t' := by
  intro k data' hk
  rw [h, UnorderedMap.find_insert] at hk
  split_ifs at hk with hkid
  · cases hk
    exact hkid ▸ hdata
  · exact ht k data' hk

theorem entries_erase {t' : PacketThrottler σ} {id : Nat} (ht : Entries P t)
    (h : t'.throttleData = t.throttleData.erase id) : Entries P t' := by
  intro k data hk
  rw [h, UnorderedMap.find_erase] at hk
  split_ifs at hk with hkid
  exact ht k data hk

theorem entries_empty {t' : PacketThrottler σ} (h : t'.throttleData = UnorderedMap.empty) :
    Entries P t' := by
  intro k data hk
  simp [h] at hk

theorem entries_postInto {x : σ} {b : SocketBuffer σ} {p : Packet} {policy : PacketPostingPolicy}
    {ok : Bool} (ht : Entries P t)
    (hstored : P (S.sessionId x) ⟨x, (storePacket S x b p ok).1⟩) :
    Entries P (t.postInto S x b p policy ok).state := by
  rcases postInto_cases S t x b p policy ok with ⟨hmap, _⟩ | ⟨_, _, hmap, _⟩
  · exact entries_insert ht hmap hstored
  · exact entries_erase ht hmap

theorem entries_cleanUp {x : σ} (ht : Entries P t) : Entries P (t.cleanUp S x).state := by
  cases hfind : t.throttleData.find (S.sessionId x) with
  | none =>
      simpa [cleanUp, hfind] using ht
  | some data =>
      have hmap : (t.cleanUp S x).state.throttleData =
          t.throttleData.erase (S.sessionId x) := by
        simp [cleanUp, hfind]
      exact entries_erase ht hmap

theorem entries_tryFlushPacket {now : Milliseconds} (ht : Entries P t) :
    Entries P (t.tryFlushPacket now).state := by
  rcases t.tryFlushPacket_cases now with ⟨hmap, _⟩ | ⟨hmap, _⟩
  · exact entries_empty hmap
  · intro k data hk
    rw [hmap] at hk
    exact ht k data hk

theorem entries_rehash {order : List Nat} (ht : Entries P t) :
    Entries P (apply S t (.rehash order)).state := by
  intro k data hk
  exact ht k data (by simpa [apply] using hk)

end Engine
end SeamlessServer
