import SeamlessServer.Engine.Posting
import SeamlessServer.Engine.SessionPool

/-!
# Engine.Ordering — order and completeness of delivery

With distinct ids and successful allocations, what was sent to a session followed by what is pending
for it is what was posted to it (`throttler_preserves_order`).  The bytes of a buffer move from
pending to sent as a whole, so the step lemma `apply_regular` is an equation between byte lists.
-/

namespace SeamlessServer
namespace Engine

open Protocol Utility PacketThrottler

variable {σ : Type} {S : Sessions σ} {t : PacketThrottler σ}

/-- The bytes waiting for a session. -/
def pendingBytes (S : Sessions σ) (t : PacketThrottler σ) (x : σ) : List UInt8 :=
  (t.pendingBuffer S x).elim [] SocketBuffer.bytes

section Order

variable [DecidableEq σ]

/-- The bytes an action hands to a session's `Send`. -/
def Action.sentTo (x : σ) : Action σ → List UInt8
  | .send y (some b) => if y = x then b.bytes else []
  | _ => []

def sentBytes (x : σ) (actions : List (Action σ)) : List UInt8 :=
  actions.flatMap (Action.sentTo x)

/-- The serialised packet a call posts to a session. -/
def Op.postedTo (x : σ) : Op σ → List UInt8
  | .postPacket y p _ _ _ => if y = x then packetBytes p 0 else []
  | _ => []

def postedBytes (x : σ) (ops : List (Op σ)) : List UInt8 :=
  ops.flatMap (Op.postedTo x)

end Order

/-- A post to a session of the set of a packet that fits an empty buffer, with successful
allocations; or a flush. -/
def Op.Regular (S : Sessions σ) (U : Set σ) : Op σ → Prop
  | .postPacket x p _ allocated storeAllocated =>
      x ∈ U ∧ packetLengthSize + packetHeaderSize + p.body.length ≤ S.writeCapacity x ∧
        allocated = true ∧ storeAllocated = true
  | .cleanUp _ => False
  | _ => True

/-- The length of a buffer counts its bytes and is within its capacity, which is that of the
session's pool. -/
structure SocketBuffer.WellFormed (S : Sessions σ) (x : σ) (b : SocketBuffer σ) : Prop where
  capacity : b.capacity = S.writeCapacity x
  length : b.length = b.bytes.length
  bounded : b.length ≤ b.capacity

/-- The entry under `k` belongs to a session of the set with id `k` and holds a buffer. -/
structure Filled (S : Sessions σ) (U : Set σ) (k : Nat) (data : ThrottleData σ) : Prop where
  mem : data.session ∈ U
  id : S.sessionId data.session = k
  buffer : ∃ b, data.buffer = some b ∧ b.WellFormed S data.session

theorem wellFormed_fresh (S : Sessions σ) (x : σ) : (freshBuffer S x).WellFormed S x :=
  ⟨rfl, rfl, Nat.zero_le _⟩

theorem bytes_append {b b' : SocketBuffer σ} {x : σ} {p : Packet}
    (h : b.append x p = some b') : b'.bytes = b.bytes ++ packetBytes p 0 := by
  rcases SocketBuffer.append_eq_some h with ⟨_, rfl⟩
  simp [SocketBuffer.bytes]

/-- A packet that fits an empty buffer has the size it is said to have. -/
theorem packetSize_of_fits {x : σ} {p : Packet}
    (hfit : packetLengthSize + packetHeaderSize + p.body.length ≤ S.writeCapacity x) :
    packetSize p = packetLengthSize + packetHeaderSize + p.body.length :=
  packetSize_eq (lt_of_le_of_lt hfit (S.writeCapacity_lt x))

theorem wellFormed_append {b b' : SocketBuffer σ} {x : σ} {p : Packet} (hb : b.WellFormed S x)
    (hfit : packetLengthSize + packetHeaderSize + p.body.length ≤ S.writeCapacity x)
    (h : b.append x p = some b') : b'.WellFormed S x := by
  have hbytes := bytes_append h
  rcases SocketBuffer.append_eq_some h with ⟨hle, hb'⟩
  have hbounded := hb.bounded
  refine ⟨?_, ?_, ?_⟩
  · simpa [hb'] using hb.capacity
  · calc
      b'.length = b.length + packetSize p := by simp [hb']
      _ = b.bytes.length + (packetBytes p 0).length := by
            rw [hb.length, packetSize_of_fits hfit, length_packetBytes]
      _ = b'.bytes.length := by rw [hbytes, List.length_append]
  · simp only [hb']
    omega

/-- With successful allocations `StorePacket` puts the packet after everything stored so far,
sending what was stored if it makes no room otherwise. -/
theorem storePacket_regular {x : σ} {b : SocketBuffer σ} {p : Packet} (hb : b.WellFormed S x)
    (hfit : packetLengthSize + packetHeaderSize + p.body.length ≤ S.writeCapacity x) :
    ∃ (b' : SocketBuffer σ) (sent : List (SocketBuffer σ)),
      storePacket S x b p true = (some b', sent.map (fun b => .send x (some b)), false) ∧
      b'.WellFormed S x ∧ (∀ b ∈ sent, b.WellFormed S x) ∧
      sent.flatMap SocketBuffer.bytes ++ b'.bytes = b.bytes ++ packetBytes p 0 := by
  rcases storePacket_cases S x b p true with ⟨b', h, heq⟩ | ⟨_, _, b', h, heq⟩ | ⟨_, _, h, _⟩ |
    ⟨_, hok, _⟩
  · exact ⟨b', [], by simpa using heq, wellFormed_append hb hfit h, by simp,
      by simpa using bytes_append h⟩
  · refine ⟨b', [b], by simpa using heq, wellFormed_append (wellFormed_fresh S x) hfit h, ?_, ?_⟩
    · simpa using hb
    · simpa [SocketBuffer.bytes, freshBuffer] using bytes_append h
  · -- a packet that fits an empty buffer is not refused by a fresh one
    rw [SocketBuffer.append_eq_none, packetSize_of_fits hfit] at h
    have : ¬ S.writeCapacity x - 0 < packetLengthSize + packetHeaderSize + p.body.length := by
      omega
    exact absurd h this
  · cases hok

/-- Every buffer handed to `Send` is well formed. -/
def Action.Bounded (S : Sessions σ) : Action σ → Prop
  | .send x b => ∃ b', b = some b' ∧ b'.WellFormed S x
  | _ => True

theorem pendingBuffer_insert {t' : PacketThrottler σ} {x y : σ} {stored : Option (SocketBuffer σ)}
    (h : t'.throttleData = t.throttleData.insert (S.sessionId y) ⟨y, stored⟩) :
    t'.pendingBuffer S x =
      if S.sessionId x = S.sessionId y then stored else t.pendingBuffer S x := by
  by_cases hid : S.sessionId x = S.sessionId y <;> simp [pendingBuffer, h, hid]

theorem pendingBuffer_erase {t' : PacketThrottler σ} {x y : σ}
    (h : t'.throttleData = t.throttleData.erase (S.sessionId y)) :
    t'.pendingBuffer S x =
      if S.sessionId x = S.sessionId y then none else t.pendingBuffer S x := by
  by_cases hid : S.sessionId x = S.sessionId y <;> simp [pendingBuffer, h, hid]

theorem pendingBytes_congr {t' : PacketThrottler σ} {x : σ}
    (h : t'.pendingBuffer S x = t.pendingBuffer S x) :
    pendingBytes S t' x = pendingBytes S t x := by
  simp [pendingBytes, h]

theorem bounded_flushActions {U : Set σ} (ht : Entries (Filled S U) t) :
    ∀ a ∈ t.flushActions, a.Bounded S := by
  intro a ha
  rcases mem_flushActions.1 ha with ⟨k, data, hk, rfl⟩
  exact (ht k data hk).buffer

section Order

variable [DecidableEq σ] {U : Set σ}

theorem sentBytes_send_self (x : σ) (sent : List (SocketBuffer σ)) :
    sentBytes x (sent.map fun b => .send x (some b)) = sent.flatMap SocketBuffer.bytes := by
  simp [sentBytes, List.flatMap_map, Action.sentTo]

theorem sentBytes_send_other {x y : σ} (hxy : x ≠ y) (sent : List (SocketBuffer σ)) :
    sentBytes x (sent.map fun b => .send y (some b)) = [] := by
  simp [sentBytes, List.flatMap_map, Action.sentTo, hxy.symm]

theorem sentBytes_append (x : σ) (as bs : List (Action σ)) :
    sentBytes x (as ++ bs) = sentBytes x as ++ sentBytes x bs := by
  simp [sentBytes]

omit [DecidableEq σ] in
/-- What a flush does to one session is what it does with the buffer pending for it. -/
theorem flatMap_flushActions {β : Type*} (hinj : Set.InjOn S.sessionId U)
    (ht : Entries (Filled S U) t) {x : σ} (hx : x ∈ U) (f : Action σ → List β)
    (hf : ∀ y, y ≠ x → ∀ b, f (.send y b) = []) :
    t.flushActions.flatMap f = (t.pendingBuffer S x).elim [] fun b => f (.send x (some b)) := by
  have hvalues := t.throttleData.flatMap_values (S.sessionId x)
    (fun data => f (.send data.session data.buffer)) (by
      intro k data hk hne
      refine hf _ ?_ _
      rintro rfl
      exact hne (ht k data hk).id.symm)
  have hflush : t.flushActions.flatMap f =
      t.throttleData.values.flatMap fun data => f (.send data.session data.buffer) := by
    rw [flushActions, List.flatMap_map]
  rw [hflush, hvalues]
  cases hfind : t.throttleData.find (S.sessionId x) with
  | none =>
      simp [pendingBuffer, hfind]
  | some data =>
      have hfilled := ht _ data hfind
      rcases hfilled.buffer with ⟨b, hb, _⟩
      have hsession : data.session = x := hinj hfilled.mem hx hfilled.id
      simp [pendingBuffer, hfind, hb, hsession]

/-- A flush sends a session exactly what was pending for it. -/
theorem sentBytes_flushActions (hinj : Set.InjOn S.sessionId U) (ht : Entries (Filled S U) t)
    {x : σ} (hx : x ∈ U) : sentBytes x t.flushActions = pendingBytes S t x := by
  have hothers : ∀ y, y ≠ x → ∀ b, Action.sentTo x (.send y b) = [] := by
    intro y hy b
    cases b with
    | none => rfl
    | some b => exact if_neg hy
  rw [sentBytes, flatMap_flushActions hinj ht hx _ hothers, pendingBytes]
  simp only [Action.sentTo, if_true]

/-- A post into a well-formed buffer, seen from any session of the set. -/
theorem postInto_regular (hinj : Set.InjOn S.sessionId U) (ht : Entries (Filled S U) t)
    {x : σ} (hx : x ∈ U) {b : SocketBuffer σ} (hb : b.WellFormed S x)
    (hpending : b.bytes = pendingBytes S t x) {p : Packet}
    (hfit : packetLengthSize + packetHeaderSize + p.body.length ≤ S.writeCapacity x)
    (policy : PacketPostingPolicy) :
    Entries (Filled S U) (t.postInto S x b p policy true).state ∧
      (∀ a ∈ (t.postInto S x b p policy true).actions, a.Bounded S) ∧
      ∀ y ∈ U, sentBytes y (t.postInto S x b p policy true).actions ++
          pendingBytes S (t.postInto S x b p policy true).state y =
        pendingBytes S t y ++ if x = y then packetBytes p 0 else [] := by
  rcases storePacket_regular hb hfit with ⟨b', sent, hstore, hb', hsent, hbytes⟩
  have hentry : Filled S U (S.sessionId x) ⟨x, (storePacket S x b p true).1⟩ :=
    ⟨hx, rfl, b', by simp [hstore], hb'⟩
  have hbounded : ∀ a ∈ sent.map (fun b => Action.send x (some b)), a.Bounded S := by
    intro a ha
    rcases List.mem_map.1 ha with ⟨c, hc, rfl⟩
    exact ⟨c, rfl, hsent c hc⟩
  refine ⟨entries_postInto ht hentry, ?_⟩
  -- the buffer is kept, or sent at once: by the policy, or since it is full
  rcases postInto_cases S t x b p policy true with ⟨hmap, hactions⟩ | ⟨_, _, hmap, hactions⟩
  · simp only [hstore] at hmap hactions
    refine ⟨by simpa [hactions] using hbounded, ?_⟩
    intro y hy
    by_cases hxy : x = y
    · subst hxy
      have hafter : pendingBytes S (t.postInto S x b p policy true).state x = b'.bytes := by
        simp [pendingBytes, pendingBuffer_insert hmap]
      simpa [hactions, hafter, sentBytes_send_self, ← hpending] using hbytes
    -- two sessions of the set do not share an entry
    · have hid : S.sessionId y ≠ S.sessionId x := fun h => hxy (hinj hx hy h.symm)
      have hafter := pendingBytes_congr (t := t)
        (by simp [pendingBuffer_insert hmap, hid] :
          (t.postInto S x b p policy true).state.pendingBuffer S y = t.pendingBuffer S y)
      simp [hactions, hafter, hxy, sentBytes_send_other (Ne.symm hxy)]
  · simp only [hstore] at hmap hactions
    have hlast : Action.Bounded S (.send x (some b')) := ⟨b', rfl, hb'⟩
    refine ⟨?_, ?_⟩
    · intro a ha
      rw [hactions, List.mem_append, List.mem_singleton] at ha
      rcases ha with ha | rfl
      · exact hbounded a ha
      · exact hlast
    · intro y hy
      by_cases hxy : x = y
      · subst hxy
        have hafter : pendingBytes S (t.postInto S x b p policy true).state x = [] := by
          simp [pendingBytes, pendingBuffer_erase hmap]
        have hsend : sentBytes x [.send x (some b')] = b'.bytes := by
          simp [sentBytes, Action.sentTo]
        simpa [hactions, hafter, sentBytes_append, sentBytes_send_self, hsend, ← hpending]
          using hbytes
      · have hid : S.sessionId y ≠ S.sessionId x := fun h => hxy (hinj hx hy h.symm)
        have hafter := pendingBytes_congr (t := t)
          (by simp [pendingBuffer_erase hmap, hid] :
            (t.postInto S x b p policy true).state.pendingBuffer S y = t.pendingBuffer S y)
        have hsend : sentBytes y [.send x (some b')] = [] := by
          simp [sentBytes, Action.sentTo, hxy]
        simp [hactions, hafter, hxy, sentBytes_append, sentBytes_send_other (Ne.symm hxy), hsend]

/-- One regular call moves bytes from pending to sent and appends what it posts. -/
theorem apply_regular (hinj : Set.InjOn S.sessionId U) (ht : Entries (Filled S U) t) {op : Op σ}
    (hop : op.Regular S U) :
    Entries (Filled S U) (apply S t op).state ∧
      (∀ a ∈ (apply S t op).actions, a.Bounded S) ∧
      ∀ y ∈ U, sentBytes y (apply S t op).actions ++ pendingBytes S (apply S t op).state y =
        pendingBytes S t y ++ op.postedTo y := by
  cases op with
  | postPacket x p policy ok storeOk =>
      rcases hop with ⟨hx, hfit, rfl, rfl⟩
      rcases postPacket_cases S t x p policy true true with ⟨b, hpending, heq⟩ |
        ⟨hpending, _, heq⟩ | ⟨_, hok, _⟩
      -- the entry under the id is that of the session itself
      · rcases pendingBuffer_eq_some hpending with ⟨data, hfind, hbuf⟩
        have hfilled := ht _ data hfind
        rcases hfilled.buffer with ⟨b₀, hb₀, hwf⟩
        have hsession : data.session = x := hinj hfilled.mem hx hfilled.id
        have hb : b.WellFormed S x := by
          have : b₀ = b := by simpa [hb₀] using hbuf
          exact this ▸ hsession ▸ hwf
        have hbytes : b.bytes = pendingBytes S t x := by simp [pendingBytes, hpending]
        simpa [apply, heq, Op.postedTo] using postInto_regular hinj ht hx hb hbytes hfit policy
      · have hbytes : (freshBuffer S x).bytes = pendingBytes S t x := by
          simp [pendingBytes, hpending, freshBuffer, SocketBuffer.bytes]
        simpa [apply, heq, Op.postedTo] using
          postInto_regular hinj ht hx (wellFormed_fresh S x) hbytes hfit policy
      · cases hok
  -- `CleanUp` is no regular call
  | cleanUp x =>
      exact hop.elim
  | tryFlushPacket now =>
      refine ⟨entries_tryFlushPacket ht, ?_⟩
      -- the round flushes everything, or its time has not come
      rcases t.tryFlushPacket_cases now with ⟨hmap, heq⟩ | ⟨hmap, heq⟩
      · refine ⟨by simpa [apply, heq] using bounded_flushActions ht, ?_⟩
        intro y hy
        have hnone : pendingBytes S (t.tryFlushPacket now).state y = [] := by
          simp [pendingBytes, pendingBuffer, hmap]
        simp [apply, heq, hnone, Op.postedTo, sentBytes_flushActions hinj ht hy]
      · refine ⟨by simp [apply, heq], ?_⟩
        intro y _
        simp [apply, heq, sentBytes, pendingBytes, pendingBuffer, hmap, Op.postedTo]
  | forceFlushPacket =>
      refine ⟨entries_empty rfl, bounded_flushActions ht, ?_⟩
      intro y hy
      have hnone : pendingBytes S t.forceFlushPacket.state y = [] := by
        simp [pendingBytes, pendingBuffer, forceFlushPacket]
      have hsent : sentBytes y t.forceFlushPacket.actions = pendingBytes S t y :=
        sentBytes_flushActions hinj ht hy
      simp [apply, hnone, hsent, Op.postedTo]
  -- the order of the table is of no account to one session
  | rehash order =>
      refine ⟨entries_rehash ht, by simp [apply], ?_⟩
      intro y _
      simp [apply, sentBytes, pendingBytes, pendingBuffer, Op.postedTo]

/-- The run lemma: what was pending, followed by what is posted, is what is sent and what stays
pending. -/
theorem run_regular (hinj : Set.InjOn S.sessionId U) (ops : List (Op σ)) :
    ∀ t : PacketThrottler σ, Entries (Filled S U) t → (∀ op ∈ ops, op.Regular S U) →
      Entries (Filled S U) (run S t ops).1 ∧ (∀ a ∈ (run S t ops).2, a.Bounded S) ∧
        ∀ y ∈ U, sentBytes y (run S t ops).2 ++ pendingBytes S (run S t ops).1 y =
          pendingBytes S t y ++ postedBytes y ops := by
  induction ops with
  | nil =>
      intro t ht _
      exact ⟨ht, by simp [run], by simp [run, sentBytes, postedBytes]⟩
  | cons op ops ih =>
      intro t ht hops
      rcases apply_regular hinj ht (hops op (by simp)) with ⟨ht', hbounded, hstep⟩
      rcases ih (apply S t op).state ht' (fun op' hop' => hops op' (by simp [hop'])) with
        ⟨hentries, hbounded', hrest⟩
      refine ⟨hentries, ?_, ?_⟩
      · intro a ha
        rcases List.mem_append.1 ha with ha | ha
        · exact hbounded a ha
        · exact hbounded' a ha
      · intro y hy
        calc
          sentBytes y (run S t (op :: ops)).2 ++ pendingBytes S (run S t (op :: ops)).1 y
              = sentBytes y (apply S t op).actions ++
                  (sentBytes y (run S (apply S t op).state ops).2 ++
                    pendingBytes S (run S (apply S t op).state ops).1 y) := by
                simp [run, sentBytes_append]
          _ = sentBytes y (apply S t op).actions ++
                (pendingBytes S (apply S t op).state y ++ postedBytes y ops) := by
                rw [hrest y hy]
          _ = pendingBytes S t y ++ (op.postedTo y ++ postedBytes y ops) := by
                rw [← List.append_assoc, hstep y hy, List.append_assoc]
          _ = pendingBytes S t y ++ postedBytes y (op :: ops) := by
                simp [postedBytes]

/-- For every sequence of regular calls over sessions with distinct ids: what was sent to a session
followed by what is pending for it is what was posted to it; a flush leaves nothing pending; and
every buffer sent or pending is within its capacity. -/
theorem throttler_preserves_order (S : Sessions σ) (U : Set σ) (hinj : Set.InjOn S.sessionId U)
    (tick now : Milliseconds) (ops : List (Op σ)) (hops : ∀ op ∈ ops, op.Regular S U) :
    (∀ x ∈ U, sentBytes x (run S (PacketThrottler.new tick now) ops).2 ++
        pendingBytes S (run S (PacketThrottler.new tick now) ops).1 x = postedBytes x ops) ∧
    (∀ x, (run S (PacketThrottler.new tick now) ops).1.forceFlushPacket.state.pendingBuffer S x =
      none) ∧
    (∀ x b, .send x (some b) ∈ (run S (PacketThrottler.new tick now) ops).2 →
      b.length = b.bytes.length ∧ b.length ≤ b.capacity) ∧
    (∀ x ∈ U, ∀ b, (run S (PacketThrottler.new tick now) ops).1.pendingBuffer S x = some b →
      b.length = b.bytes.length ∧ b.length ≤ b.capacity) := by
  -- over distinct ids every entry of the map belongs to its session
  rcases run_regular hinj ops (PacketThrottler.new tick now) (entries_new tick now) hops with
    ⟨hentries, hbounded, horder⟩
  refine ⟨?_, ?_, ?_, ?_⟩
  · intro x hx
    simpa [pendingBytes, pendingBuffer, PacketThrottler.new] using horder x hx
  · intro x
    simp [pendingBuffer, forceFlushPacket]
  · intro x b hb
    rcases hbounded _ hb with ⟨b', hb', hwf⟩
    cases hb'
    exact ⟨hwf.length, hwf.bounded⟩
  · intro x _ b hpending
    rcases pendingBuffer_eq_some hpending with ⟨data, hfind, hbuf⟩
    rcases (hentries _ data hfind).buffer with ⟨b', hb', hwf⟩
    have : b' = b := by simpa [hb'] using hbuf
    subst this
    exact ⟨hwf.length, hwf.bounded⟩

/-- Two packets to one session, the second posted for immediate sending, and one to another. -/
theorem throttler_preserves_order_sample :
    sentBytes (.intra 0) (run sampleConfig.sessions (PacketThrottler.new 0 0)
      [.postPacket (.intra 0) emptyPacket .Throttle true true,
       .postPacket .loopback emptyPacket .Throttle true true,
       .postPacket (.intra 0) ⟨1, [7]⟩ .Immediate true true]).2 ++
      pendingBytes sampleConfig.sessions (run sampleConfig.sessions (PacketThrottler.new 0 0)
        [.postPacket (.intra 0) emptyPacket .Throttle true true,
         .postPacket .loopback emptyPacket .Throttle true true,
         .postPacket (.intra 0) ⟨1, [7]⟩ .Immediate true true]).1 (.intra 0) =
      packetBytes emptyPacket 0 ++ packetBytes ⟨1, [7]⟩ 0 := by
  let U : Set GameSession := fun x => x = .intra 0 ∨ x = .loopback
  have hinj : Set.InjOn sampleConfig.sessions.sessionId U := by
    rintro x (rfl | rfl) y (rfl | rfl) h
    · rfl
    · exact absurd h (by decide)
    · exact absurd h (by decide)
    · rfl
  refine (throttler_preserves_order sampleConfig.sessions U hinj 0 0 _ ?_).1 (.intra 0) (.inl rfl)
  intro op hop
  simp only [List.mem_cons, List.not_mem_nil, or_false] at hop
  rcases hop with rfl | rfl | rfl
  · exact ⟨.inl rfl, by decide, rfl, rfl⟩
  · exact ⟨.inr rfl, by decide, rfl, rfl⟩
  · exact ⟨.inl rfl, by decide, rfl, rfl⟩

end Order

end Engine
end SeamlessServer
