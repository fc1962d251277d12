import SeamlessServer.Game.LockStep

/-!
# Game.Coherence — observing copies move with the owner

All copies of an object integrate the same movement, so they stay together if they start together.
`Motion` is the part of a fixture that the movement reads and writes.

* `Coherent` is the invariant of a view: once the packets under way are handled, all copies have one
  motion;
* `Swept` is what becomes of it in the middle of a tick, when some sectors are updated and some are
  not;
* `replica_coherence` is the result for lock-step runs.
-/

namespace SeamlessServer
namespace Game

open Utility Protocol

/-! ## Motions -/

/-- What `Fixture::Move` reads and writes. -/
@[ext]
structure Motion where
  position : Vector2
  size : Size
  force : CoordinateUnit
  direction : Direction
  personalDeltaTime : Nat

def Fixture.motion (f : Fixture) : Motion :=
  ⟨f.position, f.size, f.force, f.direction, f.personalDeltaTime⟩

namespace Motion

/-- The movement of any fixture with this motion. -/
def move (m : Motion) (deltaTime : Milliseconds) : Motion :=
  Fixture.motion <| Fixture.move
    { id := 0, position := m.position, size := m.size, force := m.force, direction := m.direction,
      sectorId := 0, personalDeltaTime := m.personalDeltaTime } deltaTime

/-- The motion after a move request. -/
def place (packet : CharacterMoveRq) (m : Motion) : Motion :=
  { m with position := packet.startingPosition, direction := packet.direction }

end Motion

theorem Fixture.motion_move (f : Fixture) (deltaTime : Milliseconds) :
    (f.move deltaTime).motion = f.motion.move deltaTime := by
  by_cases h : f.direction = .Max
  · simp [Fixture.move, Fixture.motion, Motion.move, h]
  · simp [Fixture.move, Fixture.motion, Motion.move, Fixture.toFixtureRectangle, h]

theorem Fixture.motion_place (f : Fixture) (packet : CharacterMoveRq) :
    (f.place packet).motion = f.motion.place packet := rfl

/-! ## Packets and motions -/

/-- The motion of the copy in a sector after a packet. -/
def settle (x : Nat) (m : Option Motion) (q : PlayPacket) : Option Motion :=
  if q.sectorId = x then
    match q with
    | .createObservingObjectRq _ info => some info.fixture.motion
    | .removeObservingObjectRq _ _ => none
    | .promoteObjectRq _ info => some info.fixture.motion
    | .characterMoveRq packet => m.map (Motion.place packet)
    | .removeCharacterRq _ => none
  else
    m

/-- The packet brings no other motion than the given one. -/
def Carries (m : Motion) : PlayPacket → Prop
  | .createObservingObjectRq _ info => info.fixture.motion = m
  | .promoteObjectRq _ info => info.fixture.motion = m
  | .characterMoveRq _ => False
  | _ => True

theorem settle_of_ne {x : Nat} {q : PlayPacket} (h : q.sectorId ≠ x) (m : Option Motion) :
    settle x m q = m := if_neg h

/-- Packets that carry the motion leave no other one behind. -/
theorem foldl_settle_of_carries {m : Motion} {packets : List PlayPacket}
    (h : ∀ q ∈ packets, Carries m q) (x : Nat) :
    ∀ M : Option Motion, (∀ m', M = some m' → m' = m) →
      ∀ m', packets.foldl (settle x) M = some m' → m' = m := by
  induction packets with
  | nil =>
      intro M hM
      exact hM
  | cons q packets ih =>
      intro M hM
      refine ih (fun p hp => h p (List.mem_cons_of_mem _ hp)) _ ?_
      have hq := h q List.mem_cons_self
      by_cases hx : q.sectorId = x
      · cases q with
        | createObservingObjectRq s info =>
            intro m' hm'
            rw [settle, if_pos hx] at hm'
            exact (Option.some.inj hm').symm.trans hq
        | promoteObjectRq s info =>
            intro m' hm'
            rw [settle, if_pos hx] at hm'
            exact (Option.some.inj hm').symm.trans hq
        | characterMoveRq packet =>
            exact hq.elim
        | removeObservingObjectRq y o =>
            intro m' hm'
            rw [settle, if_pos hx] at hm'
            cases hm'
        | removeCharacterRq packet =>
            intro m' hm'
            rw [settle, if_pos hx] at hm'
            cases hm'
      · rw [settle_of_ne hx]
        exact hM

/-- The copy an owner tells its movement takes it over. -/
theorem foldl_settle_fanOut (packet : CharacterMoveRq) (sectors : List Nat) (x : Nat) :
    ∀ M : Option Motion,
      (sectors.map fun y => PlayPacket.characterMoveRq
        { packet with sectorId := y, toOwner := false }).foldl (settle x) M =
      if x ∈ sectors then M.map (Motion.place packet) else M := by
  have hplace : ∀ y, Motion.place { packet with sectorId := y, toOwner := false } =
      Motion.place packet := fun _ => rfl
  have htwice : Motion.place packet ∘ Motion.place packet = Motion.place packet := rfl
  induction sectors with
  | nil =>
      intro M
      rfl
  | cons y sectors ih =>
      intro M
      rw [List.map_cons, List.foldl_cons, ih]
      by_cases hy : y = x
      · subst hy
        simp only [settle, PlayPacket.sectorId, if_true, hplace, Option.map_map, htwice,
          List.mem_cons, true_or]
        split_ifs <;> rfl
      · have hne : (PlayPacket.characterMoveRq
            { packet with sectorId := y, toOwner := false }).sectorId ≠ x := hy
        rw [settle_of_ne hne]
        simp [Ne.symm hy]

/-- A round leaves the motion alone, and what it sends carries it. -/
theorem Round.motion {x : Nat} {f f' : Fixture} {packets : List PlayPacket} {fault : Option Fault}
    (h : Round x f f' packets fault) :
    f'.motion = f.motion ∧ ∀ q ∈ packets, Carries f.motion q := by
  refine ⟨?_, h.forall_mem (fun _ => trivial) (fun _ _ _ => rfl) (fun _ _ _ => rfl)⟩
  cases h <;> rfl

/-- A handler that does not fault settles the motion of its copy. -/
theorem Reaction.motion {now : Milliseconds} {q : PlayPacket} {F F' : Option Fixture}
    {packets : List PlayPacket} (h : Reaction now q F F' packets none) (hto : q.toOwner = false) :
    F'.map Fixture.motion = settle q.sectorId (F.map Fixture.motion) q := by
  unfold settle
  rw [if_pos rfl]
  cases h with
  | removeForwarded packet x howner hF =>
      have hfalse : packet.toOwner = false := hto
      rw [howner] at hfalse
      cases hfalse
  | moveForwarded packet x howner hF =>
      have hfalse : packet.toOwner = false := hto
      rw [howner] at hfalse
      cases hfalse
  | _ =>
      rfl

/-! ## Views between two ticks -/

/-- All copies have the given motion once the packets under way are handled. -/
structure Coherent (m : Motion) (v : View) : Prop where
  settled : ∀ x m', v.queue.foldl (settle x) ((v.copies x).map Fixture.motion) = some m' → m' = m
  promoted : ∀ q ∈ v.queue, q.isPromote = true → Carries m q

section View

variable {D : Deployment} {L : Placement} {v v' : View} {m : Motion}

theorem Coherent.motion (h : Coherent m v) (hqueue : v.queue = []) {x : Nat} {f : Fixture}
    (hf : v.copies x = some f) : f.motion = m := by
  have hsettled := h.settled x f.motion
  rw [hqueue, hf] at hsettled
  exact hsettled rfl

/-- Copies with one motion, and packets that carry it. -/
theorem coherent_of_carries (hcopies : ∀ x f, v.copies x = some f → f.motion = m)
    (hqueue : ∀ q ∈ v.queue, Carries m q) : Coherent m v := by
  refine ⟨?_, fun q hq _ => hqueue q hq⟩
  intro x
  refine foldl_settle_of_carries hqueue x _ ?_
  intro m' hm'
  rcases Option.map_eq_some_iff.1 hm' with ⟨f, hf, rfl⟩
  exact hcopies x f hf

/-- An owner that is told to move tells all observers. -/
theorem Held.coherent_move (hD : D.Complete) {s : Nat} {f : Fixture} (hheld : Held v s f)
    (hqueue : v.queue = []) (h : Coherent m v) (packet : CharacterMoveRq) :
    Coherent (m.place packet)
      (v.write s (some (f.place packet)) (D.sent (Game.fanOut f s fun x =>
        .characterMoveRq { packet with sectorId := x, toOwner := false }))) := by
  have hothers : others v.copies (some s) = {x | x ∈ nearSectors s f.phase} := by
    have hruns := hheld.replica.runs
    rw [hqueue] at hruns
    exact hruns
  rw [hheld.sent_fanOut hD fun _ => rfl]
  constructor
  · intro x m'
    simp only [View.write, hqueue, List.nil_append, foldl_settle_fanOut]
    by_cases hx : x = s
    · -- the owner itself is in no near sector
      subst hx
      rw [if_neg fun hmem => ne_of_mem_nearSectors hheld.onGrid hmem rfl, Function.update_self]
      rintro ⟨⟩
      rw [Fixture.motion_place, h.motion hqueue hheld.copy]
    · rw [Function.update_of_ne hx]
      cases hf : v.copies x with
      | none =>
          split_ifs <;> rintro ⟨⟩
      | some g =>
          have hmem : x ∈ others v.copies (some s) := ⟨fun heq => hx (Option.some.inj heq).symm, g, hf⟩
          rw [hothers] at hmem
          rw [if_pos (show x ∈ nearSectors s f.phase from hmem)]
          rintro ⟨⟩
          rw [h.motion hqueue hf]
  · intro q hq hpromote
    simp only [View.write, hqueue, List.nil_append] at hq
    rcases List.mem_map.1 hq with ⟨x, _, rfl⟩
    cases hpromote

/-- The first packet about an object is handled. -/
theorem Coherent.deliver (hD : D.Complete) {lossless : Prop} {b : Bool} (h : Coherent m v)
    (hshape : Shape lossless v b) {q : PlayPacket} {rest packets : List PlayPacket}
    {F : Option Fixture} {fault : Option Fault} {now : Milliseconds} (hqueue : v.queue = q :: rest)
    (hto : q.toOwner = false)
    (hreaction : Reaction now q (v.copies q.sectorId) F packets fault) :
    Coherent m ({ v with queue := rest }.write q.sectorId F (D.sent packets)) := by
  rcases hshape.deliver hD hqueue hto hreaction with ⟨rfl, _⟩
  -- only promotions cause packets, and these carry the motion of the promotion
  have hcarries : ∀ p ∈ packets, Carries m p := by
    rcases packet_cases q with ⟨e, hedit⟩ | hpromote | hrequest
    · have hpromote : q.isPromote = false := by
        cases q <;> first | rfl | cases hedit
      rcases hshape.replica hqueue hpromote with ⟨owner, pending, T, hreplica⟩
      rcases hreplica.deliver hedit hreaction with ⟨rfl, _⟩
      simp
    · have hmotion := h.promoted q (by simp [hqueue]) hpromote
      generalize v.copies q.sectorId = F₀ at hreaction
      cases hreaction with
      | promotedFar s info f _ _ =>
          exact forall_mem_exchangePackets (fun _ => trivial) (fun _ => hmotion)
      | promotedNear s info f _ _ =>
          simp
      | _ =>
          cases hpromote
    · rw [hto] at hrequest
      cases hrequest
  have hsent : ∀ p ∈ D.sent packets, Carries m p := by
    intro p hp
    exact hcarries p (D.mem_sent.1 hp).1
  constructor
  · intro x
    simp only [View.write, List.foldl_append]
    refine foldl_settle_of_carries hsent x _ ?_
    have hsettled := h.settled x
    rw [hqueue, List.foldl_cons] at hsettled
    by_cases hx : q.sectorId = x
    · subst hx
      rw [Function.update_self, hreaction.motion hto]
      exact hsettled
    · rw [settle_of_ne hx] at hsettled
      rw [Function.update_of_ne (Ne.symm hx)]
      exact hsettled
  · intro p hp hpromote
    rcases List.mem_append.1 hp with hp | hp
    · exact h.promoted p (by simp [hqueue, show p ∈ rest from hp]) hpromote
    · exact hsent p hp

/-- The acts of a lock-step run between two ticks. -/
theorem Coherent.step (hD : D.Complete) {act : View.Act} {fault : Option Fault} (h : Coherent m v)
    (hemitted : Emitted L v) (hact : Direct L v act)
    (hquiet : v.queue = [] ∨ ∃ early q, act = .deliver early q)
    (hround : ∀ x deltaTime, act ≠ .round x deltaTime) (hstep : View.Step D v act v' fault) :
    ∃ m', Coherent m' v' := by
  cases hstep with
  | @spawned x f hx hnone =>
      -- nothing is under way when a client asks, so the owner alone decides
      have hqueue := hquiet.resolve_right (by simp)
      have hblank := (hemitted.blank hact.1).1
      refine ⟨f.motion, coherent_of_carries ?_ (by simp [View.write, hqueue])⟩
      -- the id is fresh: the new owner is the only fixture of the object
      intro y g hg
      by_cases hy : y = x
      · subst hy
        have hg : some f = some g := by
          simpa [View.write] using hg
        cases hg
        rfl
      · simp [View.write, hy, hblank.copies] at hg
  | spawnRefused hsome =>
      rw [(hemitted.blank hact.1).1.copies] at hsome
      cases hsome
  | @moveRequested packet now F packets _ hx hreaction =>
      have hqueue := hquiet.resolve_right (by simp)
      rcases hemitted.shape.held_of_owns hact.1 with ⟨_, f, hheld⟩
      have hheld : Held v packet.sectorId f := hheld
      rw [hheld.copy] at hreaction
      rcases hreaction.move_owner hheld.owns with ⟨rfl, rfl, rfl⟩
      exact ⟨_, hheld.coherent_move hD hqueue h packet⟩
  | @removeRequested packet now F packets _ hx hreaction =>
      have hqueue := hquiet.resolve_right (by simp)
      rcases hemitted.shape.held_of_owns hact.1 with ⟨_, f, hheld⟩
      have hheld : Held v packet.sectorId f := hheld
      rw [hheld.copy] at hreaction
      rcases hreaction.remove_owner hheld.owns with ⟨rfl, rfl, rfl⟩
      -- the copies that are left still move as the owner did
      refine ⟨m, coherent_of_carries ?_ ?_⟩
      · intro y g hg
        by_cases hy : y = packet.sectorId
        · simp [View.write, hy] at hg
        · exact h.motion hqueue (by simpa [View.write, hy] using hg)
      · intro q hq
        simp only [View.write, hqueue, List.nil_append] at hq
        exact forall_mem_fanOut (fun _ => trivial) q (D.mem_sent.1 hq).1
  | @delivered early rest q now F packets _ hqueue hx hreaction =>
      -- in lock step the first packet is the one that is delivered
      have hearly : early = [] := hact
      subst hearly
      rw [List.nil_append] at hqueue
      exact ⟨m, h.deliver hD hemitted.shape hqueue (hemitted.noRequest q (by simp [hqueue])) hreaction⟩
  | @dropped early rest q hqueue hx =>
      have hearly : early = [] := hact
      subst hearly
      rw [List.nil_append] at hqueue
      have hto := hemitted.noRequest q (by simp [hqueue])
      exact absurd (hD.holds (hemitted.shape.onGrid hqueue hto)) hx
  | round hx hf h =>
      exact absurd rfl (hround _ _)

end View

/-! ## Views during a tick -/

/-- The copies in the sectors of `V` have been updated, the others have not. -/
structure Swept (m : Motion) (deltaTime : Milliseconds) (V : Set Nat) (v : View) : Prop where
  updated : ∀ x ∈ V, ∀ f, v.copies x = some f → f.motion = m.move deltaTime
  waiting : ∀ x ∉ V, ∀ f, v.copies x = some f → f.motion = m
  queue : ∀ q ∈ v.queue, Carries (m.move deltaTime) q

section Swept

variable {D : Deployment} {v : View} {m : Motion} {deltaTime : Milliseconds} {V : Set Nat} {x : Nat}

/-- A sector without a copy counts as updated. -/
theorem Swept.absent (h : Swept m deltaTime V v) (hx : v.copies x = none) :
    Swept m deltaTime (insert x V) v := by
  refine ⟨?_, fun y hy => h.waiting y fun hmem => hy (.inr hmem), h.queue⟩
  rintro y (rfl | hy) f hf
  · rw [hx] at hf
    cases hf
  · exact h.updated y hy f hf

theorem Swept.round (h : Swept m deltaTime V v) (hx : x ∉ V) {f f' : Fixture}
    {packets : List PlayPacket} {fault : Option Fault} (hf : v.copies x = some f)
    (hround : Round x (f.move deltaTime) f' packets fault) :
    Swept m deltaTime (insert x V) (v.write x (some f') (D.sent packets)) := by
  have hmove : (f.move deltaTime).motion = m.move deltaTime := by
    rw [Fixture.motion_move, h.waiting x hx f hf]
  rcases hround.motion with ⟨hmotion, hcarries⟩
  rw [hmove] at hmotion hcarries
  refine ⟨?_, ?_, ?_⟩
  · rintro y hy g hg
    by_cases hyx : y = x
    · subst hyx
      have hg : some f' = some g := by
        simpa [View.write] using hg
      cases hg
      exact hmotion
    · exact h.updated y (hy.resolve_left hyx) g (by simpa [View.write, hyx] using hg)
  · intro y hy g hg
    have hyx : y ≠ x := fun heq => hy (.inl heq)
    exact h.waiting y (fun hmem => hy (.inr hmem)) g (by simpa [View.write, hyx] using hg)
  · intro q hq
    rcases List.mem_append.1 hq with hq | hq
    · exact h.queue q hq
    · exact hcarries q (D.mem_sent.1 hq).1

end Swept

namespace Cluster

/-- A cluster during a tick; the sectors that are done may differ from object to object. -/
structure Sweeping (D : Deployment) (m : Nat → Motion) (deltaTime : Milliseconds)
    (V : Nat → Set Nat) (c : Cluster) : Prop where
  sound : Sound D c
  views : ∀ o, Swept (m o) deltaTime (V o) (c.view D o)

section Sweeping

variable {D : Deployment} {c : Cluster} {m : Nat → Motion} {V : Nat → Set Nat} {k : Nat}
  {clock : World.Clock}

theorem Sweeping.updateObject (h : Sweeping D m clock.deltaTime V c) {x : Nat}
    (hx : x ∈ D.sectorsOf k) {o : Nat} (hnot : x ∉ V o) :
    Sweeping D m clock.deltaTime (Function.update V o (insert x (V o)))
      (c.absorb D k ((c.worlds k).updateObject clock x o)) := by
  have hcopies := view_copies (c := c) hx o
  rcases World.updateObject_effect (h.sound.sectorIdAt hx) with
    ⟨hnone, _, hidle⟩ | ⟨f, f', packets, hf, hround, heffect⟩
  · refine ⟨h.sound.absorb_idle hidle, ?_⟩
    intro o'
    rw [view_absorb_idle hidle]
    by_cases ho : o' = o
    · subst ho
      rw [Function.update_self]
      exact (h.views o').absent (hcopies.trans hnone)
    · rw [Function.update_of_ne ho]
      exact h.views o'
  · have hat := h.sound.fixtures k x o f hf
    have hmoved : (f.move clock.deltaTime).At x o := by
      constructor
      · rw [Fixture.move_id, hat.id]
      · rw [Fixture.move_sectorId, hat.sectorId]
    have habout : ∀ q ∈ packets, About o q := hmoved.id ▸ hround.about
    refine ⟨h.sound.absorb heffect habout ?_, ?_⟩
    · rintro g ⟨⟩
      exact hround.fixtureAt hmoved
    · intro o'
      rw [view_absorb hx heffect habout]
      by_cases ho : o' = o
      · subst ho
        rw [if_pos rfl, Function.update_self]
        exact (h.views o').round hnot (hcopies.trans hf) hround
      · rw [if_neg ho, Function.update_of_ne ho]
        exact h.views o'

/-- The loop over the fixtures of a sector. -/
theorem Sweeping.updateSector {V : Set Nat} (h : Sweeping D m clock.deltaTime (fun _ => V) c)
    {x : Nat} (hx : x ∈ D.sectorsOf k) (hnot : x ∉ V)
    (hfault : ((c.worlds k).updateSector clock x).fault = none) :
    Sweeping D m clock.deltaTime (fun _ => insert x V)
      (c.absorb D k ((c.worlds k).updateSector clock x)) := by
  rcases World.find_of_sectorIdAt (h.sound.sectorIdAt hx) with ⟨sector, hfind, _⟩
  have heq : (c.worlds k).updateSector clock x =
      foldOutcome (World.updateObject clock x) (c.worlds k) sector.fixtures.keys := by
    simp [World.updateSector, hfind]
  rw [heq] at hfault ⊢
  -- an object is waiting as long as it is in the list and not done
  have hloop := foldOutcome_complete (D := D) (k := k) (c := c)
    (P := fun done c => Sweeping D m clock.deltaTime
      (fun o => if o ∈ sector.fixtures.keys ∧ o ∉ done then V else insert x V) c) ?_ hfault ?_
  · have hall : (fun o => if o ∈ sector.fixtures.keys ∧ o ∉ sector.fixtures.keys then V
        else insert x V) = fun _ => insert x V := by
      funext o
      rw [if_neg fun hboth => hboth.2 hboth.1]
    rw [hall] at hloop
    exact hloop
  · intro c done o rest hsplit _ h
    have hmem : o ∈ sector.fixtures.keys := by simp [hsplit]
    have hdone : o ∉ done := by
      have hnodup := sector.fixtures.nodup
      rw [hsplit, List.nodup_append] at hnodup
      intro ho
      exact hnodup.2.2 o ho o List.mem_cons_self rfl
    have hV : (if o ∈ sector.fixtures.keys ∧ o ∉ done then V else insert x V) = V :=
      if_pos ⟨hmem, hdone⟩
    have hnext := h.updateObject hx (o := o) (by rw [hV]; exact hnot)
    rw [hV] at hnext
    convert hnext using 1
    funext o'
    by_cases ho : o' = o
    · subst ho
      simp
    · simp [ho]
  · refine ⟨h.sound, ?_⟩
    intro o
    by_cases hmem : o ∈ sector.fixtures.keys
    · simpa [hmem] using h.views o
    · simp only [hmem, false_and, if_false]
      refine (h.views o).absent ?_
      rw [view_copies hx, World.fixtureAt_of_find hfind]
      cases hf : sector.getFixture o with
      | none =>
          rfl
      | some f =>
          exact absurd (sector.fixtures.mem_keys_of_find hf) hmem

/-- The loop over the sectors of a server. -/
theorem Sweeping.update {V : Set Nat} (h : Sweeping D m clock.deltaTime (fun _ => V) c)
    (hnull : (c.worlds k).NoNull) (hnot : ∀ x ∈ D.sectorsOf k, x ∉ V)
    (hfault : ((c.worlds k).update clock).fault = none) :
    Sweeping D m clock.deltaTime (fun _ => V ∪ {x | x ∈ D.sectorsOf k})
      (c.absorb D k ((c.worlds k).update clock)) := by
  -- first the records of promotions that have expired go, and then the sectors have their rounds
  let w := (c.worlds k).forgetPromoted clock.tick
  let c₁ := c.absorb D k { world := w }
  have hw : c₁.worlds k = w := worlds_absorb_self
  have hidle : Idle (c.worlds k) { world := w } := ⟨World.forgetPromoted_same _ _, rfl⟩
  have heq : c.absorb D k ((c.worlds k).update clock) =
      c₁.absorb D k (foldOutcome (World.updateSector clock) (c₁.worlds k) w.sectors.keys) := by
    rw [hw]
    exact absorb_append (r := { world := w }) rfl
  have hkeys : ∀ x, x ∈ w.sectors.keys ↔ x ∈ D.sectorsOf k := by
    intro x
    constructor
    · intro hx
      rcases w.sectors.exists_find_of_mem_keys hx with ⟨entry, hentry⟩
      have hfind : (c.worlds k).sectors.find x = some entry := hentry
      cases entry with
      | none =>
          exact absurd hfind (hnull x)
      | some sector =>
          by_contra hmem
          have hnone := h.sound.sectors k x
          simp [World.sectorIdAt, hfind, hmem] at hnone
    · intro hx
      rcases World.find_of_sectorIdAt (h.sound.sectorIdAt hx) with ⟨sector, hfind, _⟩
      exact w.sectors.mem_keys_of_find hfind
  have hfault' : (foldOutcome (World.updateSector clock) (c₁.worlds k) w.sectors.keys).fault =
      none := by
    rw [hw]
    exact hfault
  rw [heq]
  have hloop := foldOutcome_complete (D := D)
    (P := fun done c => Sweeping D m clock.deltaTime (fun _ => V ∪ {x | x ∈ done}) c) ?_ hfault' ?_
  · have hset : V ∪ {x | x ∈ w.sectors.keys} = V ∪ {x | x ∈ D.sectorsOf k} := by
      ext x
      simp [hkeys]
    rw [hset] at hloop
    exact hloop
  -- one more sector: it was not swept before, since no key comes twice
  · intro c done x rest hsplit hfault h
    have hx : x ∈ D.sectorsOf k := (hkeys x).1 (by simp [hsplit])
    have hwaiting : x ∉ V ∪ {y | y ∈ done} := by
      rintro (hV | hdone)
      · exact hnot x hx hV
      · have hnodup := w.sectors.nodup
        rw [hsplit, List.nodup_append] at hnodup
        exact hnodup.2.2 x hdone x List.mem_cons_self rfl
    have hset : V ∪ {y | y ∈ done ++ [x]} = insert x (V ∪ {y | y ∈ done}) := by
      ext y
      simp only [Set.mem_union, Set.mem_ofPred_eq, List.mem_append, List.mem_singleton,
        Set.mem_insert_iff]
      tauto
    rw [hset]
    exact h.updateSector hx hwaiting hfault
  · refine ⟨h.sound.absorb_idle hidle, ?_⟩
    intro o
    rw [view_absorb_idle hidle]
    simpa using h.views o

end Sweeping

end Cluster

/-! ## Lock-step runs -/

namespace LockStep

open Cluster

/-- Updates are made of all servers at once. -/
def wholeTicks : LockEvent → Prop
  | .act (.update _ _) => False
  | _ => True

/-- The same, and no spawn is given an id that was assigned before. -/
def inStep (c : Cluster) (e : LockEvent) : Prop := wholeTicks e ∧ assignsFreshId c e

variable {D : Deployment} {c c' : Cluster}

/-- The updates of a tick, one server after the other. -/
theorem sweeping_tick (hD : D.Complete) {m : Nat → Motion} {clock : Nat → World.Clock}
    {deltaTime : Milliseconds} (hclock : ∀ k, (clock k).deltaTime = deltaTime) (order : List Nat) :
    ∀ (done : List Nat) (c : Cluster), (done ++ order).Nodup → EmissionHolds D chunkPlacement c →
      Sweeping D m deltaTime (fun _ => {x | ∃ k ∈ done, x ∈ D.sectorsOf k}) c →
      (Cluster.machine D).Run c (order.map fun k => .update k (clock k)) c' →
      Sweeping D m deltaTime (fun _ => {x | ∃ k ∈ done ++ order, x ∈ D.sectorsOf k}) c' := by
  induction order with
  | nil =>
      intro done c _ _ h hrun
      cases hrun
      simpa using h
  | cons k order ih =>
      intro done c hnodup hholds h hrun
      cases hrun with
      | @cons _ c₁ _ _ _ hstep hrun =>
          have hholds₁ : EmissionHolds D chunkPlacement c₁ :=
            hholds.step hD chunkPlacement_lossless (e := .update k (clock k)) ⟨trivial, hstep⟩
          have hc₁ : c₁ = c.absorb D k ((c.worlds k).update (clock k)) := hstep.2
          have hfault : ((c.worlds k).update (clock k)).fault = none := by
            apply fault_of_halted (D := D) (c := c)
            rw [← hc₁]
            exact hholds₁.ordered.halted k
          -- a sector has one server
          have hnot : ∀ x ∈ D.sectorsOf k, x ∉ {x | ∃ k ∈ done, x ∈ D.sectorsOf k} := by
            rintro x hx ⟨k', hk', hx'⟩
            have howner := (D.mem_sectorsOf.1 hx).2
            rw [(D.mem_sectorsOf.1 hx').2] at howner
            cases howner
            exact (List.nodup_append.1 hnodup).2.2 k hk' k List.mem_cons_self rfl
          have hdelta := hclock k
          subst hdelta
          have h₁ := h.update (hholds.noNull k) hnot hfault
          rw [← hc₁] at h₁
          have hset : {x | ∃ k' ∈ done, x ∈ D.sectorsOf k'} ∪ {x | x ∈ D.sectorsOf k} =
              {x | ∃ k' ∈ done ++ [k], x ∈ D.sectorsOf k'} := by
            ext x
            simp only [Set.mem_union, Set.mem_ofPred_eq, List.mem_append, List.mem_singleton]
            constructor
            · rintro (⟨k', hk', hx⟩ | hx)
              · exact ⟨k', .inl hk', hx⟩
              · exact ⟨k, .inr rfl, hx⟩
            · rintro ⟨k', hk' | rfl, hx⟩
              · exact .inl ⟨k', hk', hx⟩
              · exact .inr hx
          rw [hset] at h₁
          simpa using ih (done ++ [k]) c₁ (by simpa using hnodup) hholds₁ h₁ hrun

/-- A tick moves all copies by one step. -/
theorem coherent_tick (hD : D.Complete) (hholds : EmissionHolds D chunkPlacement c)
    (hflight : c.flight = []) (h : ∀ o, ∃ m, Coherent m (c.view D o)) {order : List Nat}
    {clock : Nat → World.Clock} (htick : IsTick D order clock)
    (hrun : (Cluster.machine D).Run c (order.map fun k => .update k (clock k)) c') :
    ∀ o, ∃ m, Coherent m (c'.view D o) := by
  choose m hm using h
  rcases htick.deltaTime with ⟨deltaTime, hclock⟩
  have hstart : Sweeping D m deltaTime (fun _ => {x | ∃ k ∈ ([] : List Nat), x ∈ D.sectorsOf k}) c := by
    refine ⟨hholds.holding.sound, ?_⟩
    intro o
    have hqueue := view_queue (D := D) hflight o
    refine ⟨by simp, fun x _ f hf => (hm o).motion hqueue hf, by simp [hqueue]⟩
  have hend := sweeping_tick hD hclock order [] c htick.nodup hholds hstart hrun
  intro o
  refine ⟨(m o).move deltaTime, coherent_of_carries ?_ (hend.views o).queue⟩
  intro x f hf
  rcases exists_fixtureAt_of_view hf with ⟨k, _, hat⟩
  have hx := (hend.sound.view_fixtureAt hat).1
  exact (hend.views o).updated x ⟨k, htick.covers k (List.ne_nil_of_mem hx), hx⟩ f hf

/-- The other steps of a lock-step run. -/
theorem coherent_step (hD : D.Complete) (hholds : EmissionHolds D chunkPlacement c)
    (h : ∀ o, ∃ m, Coherent m (c.view D o)) {e : Event} (hemission : c.emission D chunkPlacement e)
    (hquiet : c.flight = [] ∨ ∃ now, e = .deliver 0 now)
    (hupdate : ∀ k clock, e ≠ .update k clock) (hstep : (Cluster.machine D).step c e c') :
    ∀ o, ∃ m, Coherent m (c'.view D o) := by
  have hholding : Holding D (fun _ v => ∃ m, Coherent m v) (fun _ => True) c :=
    ⟨hholds.holding.sound, h, fun _ _ _ => trivial⟩
  refine (hholding.step (.inl trivial) ?_ hstep).views
  intro o act v v' fault hpermits hv hcoherent hview
  rcases hcoherent with ⟨m, hm⟩
  have hround : ∀ x deltaTime, act ≠ .round x deltaTime := by
    rintro x deltaTime rfl
    cases e with
    | update k clock =>
        exact hupdate k clock rfl
    | spawn k agency packet now =>
        cases hpermits.2
    | move k agency packet =>
        cases hpermits.2
    | remove k agency packet =>
        cases hpermits.2
    | deliver index now =>
        rcases hpermits with ⟨_, _, _, hact⟩
        cases hact
    | rehashSectors k order =>
        exact hpermits
    | rehashFixtures k x order =>
        exact hpermits
  rcases hv with rfl | ⟨x, deltaTime, hact⟩
  · refine ⟨hm.step hD (hholds.holding.views o)
      (direct_of_emission hholds.holding.sound hemission hpermits (.inl rfl)) ?_ hround hview,
      fun _ _ => trivial⟩
    rcases hquiet with hflight | ⟨now, rfl⟩
    · exact .inl (view_queue hflight o)
    · rcases hpermits with ⟨e, _, _, hact⟩
      exact .inr ⟨_, _, hact⟩
  · exact absurd hact (hround x deltaTime)

/-- Every view is coherent in every state of a lock-step run. -/
theorem coherent_views (hD : D.Complete) (h : ((machine D).restrict inStep).Reachable c) :
    ∀ o, ∃ m, Coherent m (c.view D o) := by
  induction h with
  | init h =>
      have h : _ = Cluster.new D := h
      subst h
      refine (@Holding.new D (fun _ v => ∃ m, Coherent m v) (fun _ => True) ?_).views
      intro o
      exact ⟨⟨⟨0, 0⟩, ⟨0, 0⟩, 0, .Max, 0⟩, coherent_of_carries (by simp) (by simp)⟩
  | @step c c' e hreachable hstep ih =>
      have hholds := emissionHolds hD (hreachable.mono fun _ _ hinStep => hinStep.2)
      rcases hstep with ⟨hinStep, hstep⟩
      cases e with
      | act e =>
          rcases hstep with ⟨hflight, hadmissible, hstep⟩
          refine coherent_step hD hholds ih (emission_of_admissible hadmissible hinStep.2)
            (.inl hflight) ?_ hstep
          rintro k clock rfl
          exact hinStep.1
      | tick order clock =>
          exact coherent_tick hD hholds hstep.1 ih hstep.2.1 hstep.2.2
      | handle now =>
          refine coherent_step hD hholds ih (e := .deliver 0 now) rfl (.inr ⟨now, rfl⟩) ?_ hstep
          rintro k clock ⟨⟩

end LockStep

namespace Cluster

variable {D : Deployment} {c : Cluster}

/-- Observing copies of the object have the position and the direction of the owner. -/
def Together (c : Cluster) (o : Nat) : Prop :=
  ∀ k x f k' x' g, c.fixtureAt k x o = some f → f.isObservingFixture = true →
    c.fixtureAt k' x' o = some g → g.isObservingFixture = false →
    f.position = g.position ∧ f.direction = g.direction

/-- Between two steps of a lock-step run of whole ticks that assigns no id twice, every observing copy
has an owner, with the same position and direction. -/
theorem replica_coherence (hD : D.Complete)
    (h : ((LockStep.machine D).restrict LockStep.inStep).Reachable c) (hflight : c.flight = [])
    (o : Nat) :
    c.Together o ∧ ∀ k x f, c.fixtureAt k x o = some f → f.isObservingFixture = true →
      ∃ k' x' g, c.fixtureAt k' x' o = some g ∧ g.isObservingFixture = false := by
  -- the packets of a run in step arrive in the order of emission
  have hfresh := h.mono fun _ _ hinStep => hinStep.2
  have hsound := (LockStep.emissionHolds hD hfresh).holding.sound
  rcases LockStep.coherent_views hD h o with ⟨m, hm⟩
  have hmotion : ∀ {k x f}, c.fixtureAt k x o = some f → f.motion = m := by
    intro k x f hf
    exact hm.motion (view_queue hflight o) (hsound.view_fixtureAt hf).2
  constructor
  · intro k x f k' x' g hf _ hg _
    have heq : f.motion = g.motion := (hmotion hf).trans (hmotion hg).symm
    exact ⟨congrArg Motion.position heq, congrArg Motion.direction heq⟩
  · intro k x f hf _
    -- at rest the view of an object is that of one owner and its copies, or empty
    rcases shape_of_quiet hD hfresh hflight o with ⟨_, s, g, hheld⟩ | ⟨_, hnone⟩
    · rcases exists_fixtureAt_of_view hheld.copy with ⟨k', _, hg⟩
      exact ⟨k', s, g, hg, hheld.owns⟩
    · have hcopy := (hsound.view_fixtureAt hf).2
      rw [hnone] at hcopy
      cases hcopy

/-! ## Samples -/

/-- A clock that shows the same time everywhere. -/
def clockAt (currentTime deltaTime : Milliseconds) : Nat → World.Clock :=
  fun _ => ⟨currentTime, deltaTime, currentTime, fun _ _ => currentTime⟩

/-- The object in the gray zone of sector 12 is told to go up and goes up. -/
def climbEvents : List LockEvent :=
  grayEvents ++
    [.act (.move 2 9 ⟨12, firstId, ⟨4900, 2500⟩, .Up, true⟩), .handle 1000,
     .tick [2, 3, 4] (clockAt 1500 500)]

/-- The cluster after these events. -/
def climbed : Cluster :=
  [Event.move 2 9 ⟨12, firstId, ⟨4900, 2500⟩, .Up, true⟩, .deliver 0 1000,
   .update 2 (clockAt 1500 500 2), .update 3 (clockAt 1500 500 3),
   .update 4 (clockAt 1500 500 4)].foldl (next threeServers) grayZone

theorem reachable_climbed :
    ((LockStep.machine threeServers).restrict LockStep.inStep).Reachable climbed := by
  have hrun : ((LockStep.machine threeServers).restrict LockStep.inStep).Run
      (Cluster.new threeServers) climbEvents climbed := by
    refine .cons ⟨⟨trivial, ?_⟩, rfl, ⟨by decide +kernel,
        inside_chunk (by norm_num) (by norm_num), rfl⟩, ⟨2, rfl, rfl⟩, rfl⟩
      (.cons ⟨⟨trivial, trivial⟩, ?_, isTick_threeServers _ (fun _ => rfl),
          .cons ⟨⟨2, rfl, ?_⟩, rfl⟩ (.cons ⟨⟨3, rfl, ?_⟩, rfl⟩
            (.cons ⟨⟨4, rfl, ?_⟩, rfl⟩ (.nil _)))⟩
        (.cons ⟨⟨trivial, trivial⟩, ⟨3, ?_, ?_⟩, rfl⟩
          (.cons ⟨⟨trivial, trivial⟩, ?_,
              ⟨?_, inside_chunk (by norm_num) (by norm_num)⟩, ⟨2, rfl, ?_⟩, rfl⟩
            (.cons ⟨⟨trivial, trivial⟩, ⟨3, ?_, ?_⟩, rfl⟩
              (.cons ⟨⟨trivial, trivial⟩, ?_, isTick_threeServers _ (fun _ => rfl),
                .cons ⟨⟨2, rfl, ?_⟩, rfl⟩ (.cons ⟨⟨3, rfl, ?_⟩, rfl⟩
                  (.cons ⟨⟨4, rfl, ?_⟩, rfl⟩ (.nil _)))⟩
                (.nil _))))))
    · intro id _
      exact List.not_mem_nil
    all_goals decide +kernel
  exact hrun.reachable (.init rfl)

theorem replica_coherence_climbed :
    climbed.flight = [] ∧
      (climbed.fixtureAt 3 13 firstId).map Fixture.isObservingFixture = some true ∧
      climbed.Together firstId := by
  have hflight : climbed.flight = [] := by decide +kernel
  exact ⟨hflight, by decide +kernel,
    (replica_coherence threeServers_complete reachable_climbed hflight firstId).1⟩

/-! ## Ids that are assigned twice -/

/-- An object in the gray zone of sector 16 is observed in sector 17; then its id is assigned again in
sector 0. -/
def apartEvents : List LockEvent :=
  [.act (.spawn 2 9 ⟨1, 16, ⟨-100, -2500⟩, ⟨100, 100⟩⟩ 0),
   .tick [2, 226981421219475] (clockAt 1000 0),
   .handle 1000,
   .act (.spawn 226981421219475 9 ⟨1, 0, ⟨-7500, 12500⟩, ⟨100, 100⟩⟩ 1000)]

/-- The cluster after these events. -/
def apart : Cluster :=
  [Event.spawn 2 9 ⟨1, 16, ⟨-100, -2500⟩, ⟨100, 100⟩⟩ 0, .update 2 (clockAt 1000 0 2),
   .update 226981421219475 (clockAt 1000 0 226981421219475), .deliver 0 1000,
   .spawn 226981421219475 9 ⟨1, 0, ⟨-7500, 12500⟩, ⟨100, 100⟩⟩ 1000].foldl
    (next collidingDeployment) (Cluster.new collidingDeployment)

theorem isTick_collidingDeployment (currentTime deltaTime : Milliseconds) :
    LockStep.IsTick collidingDeployment [2, 226981421219475] (clockAt currentTime deltaTime) := by
  refine ⟨by decide, ?_, deltaTime, fun _ => rfl⟩
  intro k hk
  rcases List.exists_mem_of_ne_nil _ hk with ⟨x, hx⟩
  have howner := (collidingDeployment.mem_sectorsOf.1 hx).2
  unfold collidingDeployment at howner
  simp only at howner
  split_ifs at howner <;> cases howner <;> simp

theorem reachable_apart :
    ((LockStep.machine collidingDeployment).restrict
      fun _ e => LockStep.wholeTicks e).Reachable apart := by
  have hrun : ((LockStep.machine collidingDeployment).restrict
      fun _ e => LockStep.wholeTicks e).Run (Cluster.new collidingDeployment) apartEvents apart := by
    refine .cons ⟨trivial, rfl, ⟨?_, inside_chunk (by norm_num) (by norm_num), rfl⟩,
        ⟨2, rfl, rfl⟩, rfl⟩
      (.cons ⟨trivial, ?_, isTick_collidingDeployment _ _,
          .cons ⟨⟨2, rfl, ?_⟩, rfl⟩ (.cons ⟨⟨226981421219475, rfl, ?_⟩, rfl⟩ (.nil _))⟩
        (.cons ⟨trivial, ⟨2, ?_, ?_⟩, rfl⟩
          (.cons ⟨trivial, ?_, ⟨?_, inside_chunk (by norm_num) (by norm_num), rfl⟩,
            ⟨226981421219475, rfl, ?_⟩, rfl⟩ (.nil _)))) <;>
      decide +kernel
  exact hrun.reachable (.init rfl)

/-- Without the restriction an observing copy may be away from a fixture that owns its id. -/
theorem copy_apart_in_lock_step :
    ¬ ∀ (D : Deployment), D.Complete → ∀ c : Cluster,
      ((LockStep.machine D).restrict fun _ e => LockStep.wholeTicks e).Reachable c →
      c.flight = [] → ∀ o, c.Together o := by
  intro h
  -- one id was given out twice: the copy is that of another object than the owner
  have hcopy : (apart.fixtureAt 2 17 collidingId).map
      (fun f => (f.isObservingFixture, f.position)) = some (true, ⟨-100, -2500⟩) := by
    decide +kernel
  have howner : (apart.fixtureAt 226981421219475 0 collidingId).map
      (fun f => (f.isObservingFixture, f.position)) = some (false, ⟨-7500, 12500⟩) := by
    decide +kernel
  rcases Option.map_eq_some_iff.1 hcopy with ⟨f, hf, hfeq⟩
  rcases Option.map_eq_some_iff.1 howner with ⟨g, hg, hgeq⟩
  have htogether := (h collidingDeployment collidingDeployment_complete apart reachable_apart
    (by decide +kernel) collidingId _ _ f _ _ g hf (congrArg Prod.fst hfeq) hg
    (congrArg Prod.fst hgeq)).1
  rw [show f.position = ⟨-100, -2500⟩ from congrArg Prod.snd hfeq,
    show g.position = ⟨-7500, 12500⟩ from congrArg Prod.snd hgeq] at htogether
  exact absurd htogether (by decide +kernel)

end Cluster

end Game
end SeamlessServer
