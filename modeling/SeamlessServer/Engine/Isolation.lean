import SeamlessServer.Engine.Posting
import SeamlessServer.Engine.SessionPool

/-!
# Engine.Isolation — a packet reaches only the session it was posted to

Pending buffers are kept under `GetSessionId()`.  Over a set of sessions the throttler keeps them
apart exactly if their ids are distinct (`throttled_packets_isolated_iff`); the two session pools
of a game server both number from one, so its sessions do not all have distinct ids.
-/

namespace SeamlessServer
namespace Engine

open Protocol Utility PacketThrottler

variable {σ : Type} {S : Sessions σ} {t : PacketThrottler σ}

/-- Every packet in the buffer was posted to the session. -/
def SocketBuffer.PostedOnlyTo (b : SocketBuffer σ) (x : σ) : Prop :=
  ∀ posted ∈ b.contents, posted.session = x

/-- No packet of another session is sent to a session or discarded on its behalf. -/
def Action.Isolated : Action σ → Prop
  | .send x (some b) => b.PostedOnlyTo x
  | .send _ none => True
  | .overflow _ => True
  | .release x _ b => b.PostedOnlyTo x

/-- The call concerns only sessions of the set. -/
def Op.Over (U : Set σ) : Op σ → Prop
  | .postPacket x _ _ _ _ => x ∈ U
  | .cleanUp x => x ∈ U
  | _ => True

/-- The entry under `k` belongs to a session of the set with id `k`, and so do its packets. -/
structure Keyed (S : Sessions σ) (U : Set σ) (k : Nat) (data : ThrottleData σ) : Prop where
  mem : data.session ∈ U
  id : S.sessionId data.session = k
  own : ∀ b, data.buffer = some b → b.PostedOnlyTo data.session

theorem postedOnlyTo_append {b b' : SocketBuffer σ} {x : σ} {p : Packet}
    (hb : b.PostedOnlyTo x) (h : b.append x p = some b') : b'.PostedOnlyTo x := by
  rcases SocketBuffer.append_eq_some h with ⟨_, rfl⟩
  intro posted hposted
  rcases List.mem_append.1 hposted with hold | hnew
  · exact hb posted hold
  · rw [List.mem_singleton.1 hnew]

theorem postedOnlyTo_fresh (S : Sessions σ) (x : σ) : (freshBuffer S x).PostedOnlyTo x := by
  intro posted hposted
  simp [freshBuffer] at hposted

theorem isolated_storePacket {x : σ} {b : SocketBuffer σ} (p : Packet) (ok : Bool)
    (hb : b.PostedOnlyTo x) :
    (∀ b', (storePacket S x b p ok).1 = some b' → b'.PostedOnlyTo x) ∧
      ∀ a ∈ (storePacket S x b p ok).2.1, a.Isolated := by
  rcases storePacket_cases S x b p ok with ⟨b', h, heq⟩ | ⟨_, _, b', h, heq⟩ | ⟨_, _, _, heq⟩ |
    ⟨_, _, heq⟩
  · simpa [heq] using postedOnlyTo_append hb h
  · have hb' := postedOnlyTo_append (postedOnlyTo_fresh S x) h
    simpa [heq, Action.Isolated] using ⟨hb', hb⟩
  · simpa [heq, Action.Isolated] using ⟨postedOnlyTo_fresh S x, hb⟩
  · simpa [heq, Action.Isolated] using hb

theorem isolated_postInto {U : Set σ} {x : σ} {b : SocketBuffer σ} (p : Packet)
    (policy : PacketPostingPolicy) (ok : Bool) (ht : Entries (Keyed S U) t) (hx : x ∈ U)
    (hb : b.PostedOnlyTo x) :
    Entries (Keyed S U) (t.postInto S x b p policy ok).state ∧
      ∀ a ∈ (t.postInto S x b p policy ok).actions, a.Isolated := by
  rcases isolated_storePacket (S := S) p ok hb with ⟨hstored, hactions⟩
  refine ⟨entries_postInto ht ⟨hx, rfl, hstored⟩, ?_⟩
  rcases postInto_cases S t x b p policy ok with ⟨_, heq⟩ | ⟨_, _, _, heq⟩
  · simpa [heq] using hactions
  · intro a ha
    rw [heq, List.mem_append, List.mem_singleton] at ha
    rcases ha with ha | rfl
    · exact hactions a ha
    · -- the buffer just stored is the one that is sent
      cases hbuf : (storePacket S x b p ok).1 with
      | none => trivial
      | some b' => exact hstored b' hbuf

theorem isolated_flushActions {U : Set σ} (ht : Entries (Keyed S U) t) :
    ∀ a ∈ t.flushActions, a.Isolated := by
  intro a ha
  rcases mem_flushActions.1 ha with ⟨k, data, hk, rfl⟩
  cases hbuf : data.buffer with
  | none => trivial
  | some b => exact (ht k data hk).own b hbuf

/-- With distinct ids, one call keeps the entries apart and does nothing across sessions. -/
theorem isolated_apply {U : Set σ} (hinj : Set.InjOn S.sessionId U) {op : Op σ}
    (ht : Entries (Keyed S U) t) (hop : op.Over U) :
    Entries (Keyed S U) (apply S t op).state ∧ ∀ a ∈ (apply S t op).actions, a.Isolated := by
  cases op with
  | postPacket x p policy ok storeOk =>
      rcases postPacket_cases S t x p policy ok storeOk with ⟨b, hpending, heq⟩ | ⟨_, _, heq⟩ |
        ⟨_, _, heq⟩
      · rcases pendingBuffer_eq_some hpending with ⟨data, hfind, hbuf⟩
        have hkeyed := ht _ data hfind
        have hsession : data.session = x := hinj hkeyed.mem hop hkeyed.id
        have hb : b.PostedOnlyTo x := hsession ▸ hkeyed.own b hbuf
        simpa [apply, heq] using isolated_postInto p policy storeOk ht hop hb
      · simpa [apply, heq] using
          isolated_postInto p policy storeOk ht hop (postedOnlyTo_fresh S x)
      · have hmap : (apply S t (.postPacket x p policy ok storeOk)).state.throttleData =
            t.throttleData.erase (S.sessionId x) := by
          simp [apply, heq]
        exact ⟨entries_erase ht hmap, by simp [apply, heq, Action.Isolated]⟩
  | cleanUp x =>
      refine ⟨entries_cleanUp ht, ?_⟩
      intro a ha
      cases hfind : t.throttleData.find (S.sessionId x) with
      | none =>
          simp [apply, cleanUp, hfind] at ha
      | some data =>
          have hkeyed := ht _ data hfind
          have hsession : data.session = x := hinj hkeyed.mem hop hkeyed.id
          rcases (by simpa [apply, cleanUp, hfind] using ha :
            ∃ b, data.buffer = some b ∧ Action.release x data.session b = a) with ⟨b, hbuf, rfl⟩
          exact hsession ▸ hkeyed.own b hbuf
  | tryFlushPacket now =>
      refine ⟨entries_tryFlushPacket ht, ?_⟩
      rcases t.tryFlushPacket_cases now with ⟨_, heq⟩ | ⟨_, heq⟩
      · simpa [apply, heq] using isolated_flushActions ht
      · simp [apply, heq]
  | forceFlushPacket =>
      exact ⟨entries_empty rfl, isolated_flushActions ht⟩
  | rehash order =>
      exact ⟨entries_rehash ht, by simp [apply]⟩

theorem isolated_run {U : Set σ} (hinj : Set.InjOn S.sessionId U) (ops : List (Op σ)) :
    ∀ t : PacketThrottler σ, Entries (Keyed S U) t → (∀ op ∈ ops, op.Over U) →
      ∀ a ∈ (run S t ops).2, a.Isolated := by
  induction ops with
  | nil =>
      intro t _ _ a ha
      simp [run] at ha
  | cons op ops ih =>
      intro t ht hops a ha
      rcases isolated_apply hinj ht (hops op (by simp)) with ⟨ht', hactions⟩
      have ha' : a ∈ (apply S t op).actions ∨ a ∈ (run S (apply S t op).state ops).2 := by
        simpa [run] using ha
      rcases ha' with ha' | ha'
      · exact hactions a ha'
      · exact ih _ ht' (fun op' hop' => hops op' (by simp [hop'])) a ha'

/-- Two sessions with one id: cleaning up the second discards what was posted to the first. -/
theorem not_isolated_of_same_id {x y : σ} (hxy : x ≠ y) (hid : S.sessionId x = S.sessionId y)
    (hfit : 12 ≤ S.writeCapacity x) (tick now : Milliseconds) :
    ∃ a ∈ (run S (PacketThrottler.new tick now)
      [.postPacket x emptyPacket .Throttle true true, .cleanUp y]).2, ¬ a.Isolated := by
  let b : SocketBuffer σ := ⟨S.writeCapacity x, 12, [⟨x, emptyPacket⟩]⟩
  have hsize : packetSize emptyPacket = 12 := by decide
  have happend : (freshBuffer S x).append x emptyPacket = some b := by
    simp [SocketBuffer.append, serializePacket, freshBuffer, hsize, b, not_lt.2 hfit]
  have hpost : (run S (PacketThrottler.new tick now)
      [.postPacket x emptyPacket .Throttle true true, .cleanUp y]).2 = [.release y x b] := by
    simp [run, apply, postPacket, pendingBuffer, PacketThrottler.new, postInto, storePacket,
      happend, cleanUp, ← hid]
  refine ⟨.release y x b, by simp [hpost], ?_⟩
  intro hisolated
  exact hxy (hisolated ⟨x, emptyPacket⟩ (by simp [b]))

/-- Over a set of sessions of a game server, every call sequence delivers and discards packets only
on behalf of the session they were posted to, if and only if no two of the sessions share an
id. -/
theorem throttled_packets_isolated_iff (g : GameServerConfig) (U : Set GameSession)
    (hU : ∀ x ∈ U, g.Exists x) :
    (∀ tick now ops, (∀ op ∈ ops, op.Over U) →
      ∀ a ∈ (run g.sessions (PacketThrottler.new tick now) ops).2, a.Isolated) ↔
    ¬ g.Collides U := by
  rw [← g.injOn_sessionId_iff hU]
  constructor
  · intro h x hx y hy hid
    by_contra hxy
    rcases not_isolated_of_same_id (S := g.sessions) hxy hid (g.frame_le_writeCapacity x) 0 0 with
      ⟨a, ha, hnot⟩
    refine hnot (h 0 0 _ ?_ a ha)
    simp [Op.Over, hx, hy]
  · intro hinj tick now ops hops
    exact isolated_run hinj ops _ (entries_new tick now) hops

theorem throttled_packets_isolated_iff_sample :
    sampleConfig.Exists (.intra 0) ∧ sampleConfig.Exists .loopback ∧
      ∀ a ∈ (run sampleConfig.sessions (PacketThrottler.new 0 0)
        [.postPacket (.intra 0) emptyPacket .Throttle true true,
         .postPacket .loopback emptyPacket .Throttle true true, .forceFlushPacket]).2,
        a.Isolated := by
  let U : Set GameSession := fun x => x = .intra 0 ∨ x = .loopback
  have hU : ∀ x ∈ U, sampleConfig.Exists x := by
    rintro x (rfl | rfl)
    · exact Nat.one_pos
    · trivial
  have hfree : ¬ sampleConfig.Collides U := by
    rintro ⟨index, ⟨_, huser⟩ | ⟨_, hid, hintra | huser⟩⟩
    · rcases huser with huser | huser <;> cases huser
    · rcases hintra with hintra | hintra <;> cases hintra
      exact absurd hid (by decide)
    · rcases huser with huser | huser <;> cases huser
  refine ⟨Nat.one_pos, trivial,
    (throttled_packets_isolated_iff sampleConfig U hU).2 hfree 0 0 _ ?_⟩
  intro op hop
  simp only [List.mem_cons, List.not_mem_nil, or_false] at hop
  rcases hop with rfl | rfl | rfl
  · exact .inl rfl
  · exact .inr rfl
  · trivial

/-- The first intra session and the first user session both have id `1`: a flush hands the packet
posted to the one to the other, and a clean up of the one discards the packet of the other. -/
theorem throttled_packet_reaches_other_session :
    sampleConfig.Exists (.intra 0) ∧ sampleConfig.Exists (.user 0) ∧
    (run sampleConfig.sessions (PacketThrottler.new 0 0)
      [.postPacket (.intra 0) emptyPacket .Throttle true true,
       .postPacket (.user 0) emptyPacket .Throttle true true, .forceFlushPacket]).2 =
      [.send (.user 0)
        (some ⟨65536, 24, [⟨.intra 0, emptyPacket⟩, ⟨.user 0, emptyPacket⟩]⟩)] ∧
    (run sampleConfig.sessions (PacketThrottler.new 0 0)
      [.postPacket (.intra 0) emptyPacket .Throttle true true, .cleanUp (.user 0)]).2 =
      [.release (.user 0) (.intra 0) ⟨65536, 12, [⟨.intra 0, emptyPacket⟩]⟩] := by
  refine ⟨Nat.one_pos, Nat.one_pos, ?_, ?_⟩ <;> decide +kernel

end Engine
end SeamlessServer
