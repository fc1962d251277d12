import SeamlessServer.Game.Coherence

/-!
# Game.MoveRequests — move requests as clients write them

The starting position and the direction byte of a `packet_character_move_rq` come from the client.
The agency fills in the sector and the object and passes both on, and `World::MoveObject` stores
them: neither looks at them.  They are read by the next `Fixture::Move`, which takes the force of
the direction from a table of nine entries and keeps the fixture inside the world when it moves it.

* `Exposed` is the cluster of `Game.Cluster` with the direction bytes that were stored;
* `holds_of_reachable` says that requests with the byte of a direction, which start inside the world
  if that direction is `Max`, never break a server, wherever else they start;
* `safe_iff` says that no other request is safe.
-/

namespace SeamlessServer
namespace Game

open Utility Protocol

/-! ## Tables -/

/-- `PhaseForce`. -/
def phaseForceTable : List Indexer2 :=
  [⟨1, 0⟩, ⟨1, 1⟩, ⟨0, 1⟩, ⟨-1, 1⟩, ⟨-1, 0⟩, ⟨-1, -1⟩, ⟨0, -1⟩, ⟨1, -1⟩, ⟨0, 0⟩]

/-- The enumerator a byte stands for. -/
def Direction.ofByte (b : UInt8) : Option Direction :=
  [Direction.Up, .UpRight, .Right, .DownRight, .Down, .DownLeft, .Left, .UpLeft, .Max][b.toNat]?

/-- The table has an entry for the bytes of the directions, which is their force. -/
theorem phaseForceTable_eq (b : UInt8) :
    phaseForceTable[b.toNat]? = (Direction.ofByte b).map phaseForce := by
  have htable : phaseForceTable =
      [Direction.Up, .UpRight, .Right, .DownRight, .Down, .DownLeft, .Left, .UpLeft, .Max].map
        phaseForce := rfl
  rw [htable, List.getElem?_map]
  rfl

/-- The subscripts of `PhaseGrid` in `CalculateCurrentPhase`. -/
def phaseGridIndex (sectorId : Nat) (f : Fixture) : Indexer2 :=
  ⟨2 - truncate |SectorSystem.clampRatio
      ((f.position.y - (SectorSystem.basePosition sectorId).y) / SectorSystem.directionRatio.y)|,
    truncate |SectorSystem.clampRatio
      ((f.position.x - (SectorSystem.basePosition sectorId).x) / SectorSystem.directionRatio.x)|⟩

/-- The subscripts lie in a table of three by three. -/
def Indexer2.InPhaseGrid (index : Indexer2) : Prop :=
  (0 ≤ index.row ∧ index.row < 3) ∧ 0 ≤ index.column ∧ index.column < 3

/-- The comparisons of `CalculateCurrentPhase` keep the subscripts in the table wherever the fixture
is. -/
theorem phaseGridIndex_inPhaseGrid {x : Nat} (hx : x < sectorCount) (f : Fixture) :
    (phaseGridIndex x f).InPhaseGrid := by
  have hratio : SectorSystem.directionRatio = ⟨5000 / 3, 5000 / 3⟩ := by
    norm_num [SectorSystem.directionRatio, sectorSize, chunkSize]
  simp only [Indexer2.InPhaseGrid, phaseGridIndex, hratio, basePosition_eq hx, truncate_clampRatio]
  -- one case for each third of either axis
  rcases third_cases (f.position.x - leftOf x) with ⟨hcolumn, _⟩ | ⟨hcolumn, _⟩ | ⟨hcolumn, _⟩ <;>
    rcases third_cases (f.position.y - downOf x) with ⟨hrow, _⟩ | ⟨hrow, _⟩ | ⟨hrow, _⟩ <;>
    rw [hcolumn, hrow] <;> decide

/-! ## Requests -/

/-- `packet_character_move_rq` as it arrives. -/
structure RawMoveRq where
  sectorId : Nat
  objectId : Nat
  startingPosition : Vector2
  direction : UInt8
  toOwner : Bool

namespace RawMoveRq

/-- `PacketHandler::OnUserMoveReq` of an agency, for the sector and the object of the session. -/
def onUserMoveReq (currentSectorId objectId : Nat) (packet : RawMoveRq) : RawMoveRq :=
  { packet with sectorId := currentSectorId, objectId := objectId, toOwner := true }

/-- The request with a direction.  A byte that stands for none is kept in `Exposed.stored`, and
`Max` stands in its place. -/
def decode (packet : RawMoveRq) : CharacterMoveRq where
  sectorId := packet.sectorId
  objectId := packet.objectId
  startingPosition := packet.startingPosition
  direction := (Direction.ofByte packet.direction).getD .Max
  toOwner := packet.toOwner

/-- The byte stands for a direction, and a fixture that will not move starts inside the world. -/
def Harmless (packet : RawMoveRq) : Prop :=
  ∃ direction, Direction.ofByte packet.direction = some direction ∧
    (direction = .Max → Fixture.Inside packet.startingPosition ⟨100, 100⟩)

end RawMoveRq

/-! ## The machine -/

/-- The objects with a fixture in a world. -/
def World.objectIds (w : World) : List Nat :=
  w.sectors.keys.flatMap fun x =>
    match w.sectors.find x with
    | some (some sector) => sector.fixtures.keys
    | _ => []

theorem World.mem_objectIds {w : World} {x o : Nat} {f : Fixture} (h : w.fixtureAt x o = some f) :
    o ∈ w.objectIds := by
  unfold fixtureAt at h
  split at h
  next sector hfind =>
    refine List.mem_flatMap.2 ⟨x, (w.sectors.mem_keys x).2 (by simp [hfind]), ?_⟩
    rw [hfind]
    exact (sector.fixtures.mem_keys o).2 (by
      simpa [SectorSystem.getFixture] using Option.isSome_of_mem h)
  next =>
    cases h

/-- A cluster whose requests are written by clients. -/
structure Exposed where
  cluster : Cluster
  /-- The direction byte of the last request for an object, which all its copies store once the
  request has reached them.  Objects are spawned with `Max`. -/
  stored : Nat → UInt8
  /-- The objects a request has placed, until the server of the owner is updated. -/
  pending : List Nat
  /-- `PhaseForce` was indexed out of range. -/
  overrun : Bool

/-- A client's request handled by a server, for the sector and the object of its session; an update;
the handling of the packet posted first; and the other requests. -/
inductive MoveEvent
  | request (server agency currentSectorId objectId : Nat) (packet : RawMoveRq)
  | update (server : Nat) (clock : World.Clock)
  | handle (now : Milliseconds)
  | other (e : Event)

/-- The step of the cluster. -/
def MoveEvent.event : MoveEvent → Event
  | .request k agency x o packet => .move k agency (packet.onUserMoveReq x o).decode
  | .update k clock => .update k clock
  | .handle now => .deliver 0 now
  | .other e => e

/-- A move request, by an agency or passed on. -/
def isMove : PlayPacket → Bool
  | .characterMoveRq _ => true
  | _ => false

namespace Exposed

/-- An update of the server moves a copy whose direction byte has no entry in `PhaseForce`. -/
def overruns (s : Exposed) (k : Nat) : Bool :=
  (s.cluster.worlds k).objectIds.any fun o => (phaseForceTable[(s.stored o).toNat]?).isNone

/-- The server holds the owner of the object. -/
def ownsSome (s : Exposed) (k o : Nat) : Bool :=
  (List.range sectorCount).any fun x => s.cluster.owns k x o

def next (D : Deployment) (s : Exposed) (e : MoveEvent) : Exposed :=
  let cluster := s.cluster.next D e.event
  match e with
  | .request _ _ _ o packet =>
      { s with
        cluster
        stored := Function.update s.stored o packet.direction
        pending := s.pending ++ [o] }
  | .update k _ =>
      if s.overruns k then
        { s with overrun := true }
      else
        { s with cluster, pending := s.pending.filter fun o => !s.ownsSome k o }
  | .handle _ => { s with cluster }
  | .other _ => { s with cluster }

/-- Requests are handled by the server of the owner, spawns by that of the sector, and packets in
the order they were posted.  An update follows when the copies have been told of the requests.
Agencies spawn objects of one chunk inside the world. -/
def Admissible (D : Deployment) (s : Exposed) : MoveEvent → Prop
  | .request k _ x o _ => s.cluster.owns k x o = true
  | .update _ _ => ∀ e ∈ s.cluster.flight, isMove e.packet = false
  | .handle _ => True
  | .other (.spawn k _ packet _) =>
      packet.sectorId ∈ D.sectorsOf k ∧ Fixture.Inside packet.position ⟨100, 100⟩ ∧
        packet.size = ⟨100, 100⟩
  | .other (.remove k _ packet) => s.cluster.owns k packet.sectorId packet.objectId = true
  | .other (.rehashSectors _ _) => True
  | .other (.rehashFixtures _ _ _) => True
  | .other _ => False

def machine (D : Deployment) : Machine Exposed MoveEvent where
  init := fun s => s = ⟨Cluster.new D, fun _ => 8, [], false⟩
  step := fun s e s' =>
    s.overrun = false ∧ s.Admissible D e ∧ s.cluster.Enabled e.event ∧ s' = s.next D e

/-- Requests are harmless, and no spawn is given an id that was assigned before. -/
def harmless (s : Exposed) : MoveEvent → Prop
  | .request _ _ _ _ packet => packet.Harmless
  | .other e => s.cluster.assignsFreshId e
  | _ => True

/-- Updates and the handling of what they post. -/
def ticks (_ : Exposed) : MoveEvent → Prop
  | .update _ _ => True
  | .handle _ => True
  | _ => False

/-- The rectangle of the fixture lies inside `WorldRect`. -/
structure InsideWorldRect (f : Fixture) : Prop where
  left : worldRect.left ≤ f.toFixtureRectangle.left
  right : f.toFixtureRectangle.right ≤ worldRect.right
  down : worldRect.down ≤ f.toFixtureRectangle.down
  up : f.toFixtureRectangle.up ≤ worldRect.up

theorem insideWorldRect_iff (f : Fixture) :
    InsideWorldRect f ↔ Fixture.Inside f.position f.size := by
  rw [← Fixture.within_worldRect_iff]
  constructor
  · intro h
    exact ⟨h.left, h.right, h.down, h.up⟩
  · intro h
    exact ⟨h.left, h.right, h.down, h.up⟩

/-- No table was indexed out of range, no server has thrown or failed an assertion, and the owner of
the object lies inside the world once its server was updated. -/
structure Safe (s : Exposed) (o : Nat) : Prop where
  phaseForce : s.overrun = false
  sectorGrid : ∀ k x, (s.cluster.worlds k).sectorIdAt x ≠ none → x < sectorCount
  phaseGrid : ∀ k x, (s.cluster.worlds k).sectorIdAt x ≠ none →
    ∀ f, (phaseGridIndex x f).InPhaseGrid
  halted : ∀ k, s.cluster.halted k = none
  inside : o ∉ s.pending → ∀ k x f, s.cluster.fixtureAt k x o = some f →
    f.isObservingFixture = false → InsideWorldRect f

end Exposed

/-! ## Copies on their way into the world -/

/-- A copy that the next movement puts inside the world; once the request has arrived, the owner is
there. -/
structure Guided (arrived : Prop) (f : Fixture) : Prop where
  size : f.size = ⟨100, 100⟩
  still : f.direction = .Max → Fixture.Inside f.position ⟨100, 100⟩
  owner : arrived → f.isObservingFixture = false → Fixture.Inside f.position ⟨100, 100⟩

/-- A packet that leaves such copies behind; `told` says that no request is under way. -/
def GuidedPacket (told : Prop) : PlayPacket → Prop
  | .createObservingObjectRq _ info =>
      info.fixture.size = ⟨100, 100⟩ ∧ Fixture.Inside info.fixture.position ⟨100, 100⟩
  | .promoteObjectRq _ info =>
      info.fixture.size = ⟨100, 100⟩ ∧ Fixture.Inside info.fixture.position ⟨100, 100⟩
  | .characterMoveRq packet =>
      ¬ told ∧ (packet.direction = .Max → Fixture.Inside packet.startingPosition ⟨100, 100⟩)
  | _ => True

theorem guided_of_inside {arrived : Prop} {f : Fixture} (hsize : f.size = ⟨100, 100⟩)
    (h : Fixture.Inside f.position ⟨100, 100⟩) : Guided arrived f :=
  ⟨hsize, fun _ => h, fun _ _ => h⟩

theorem Guided.mono {arrived arrived' : Prop} (h : arrived' → arrived) {f : Fixture}
    (hf : Guided arrived f) : Guided arrived' f :=
  ⟨hf.size, hf.still, fun harrived => hf.owner (h harrived)⟩

theorem GuidedPacket.mono {told told' : Prop} (h : told' → told) {q : PlayPacket}
    (hq : GuidedPacket told q) : GuidedPacket told' q := by
  cases q with
  | characterMoveRq packet =>
      exact ⟨fun htold => hq.1 (h htold), hq.2⟩
  | _ =>
      exact hq

theorem guidedPacket_of_no_move {told told' : Prop} {q : PlayPacket} (hmove : isMove q = false)
    (hq : GuidedPacket told q) : GuidedPacket told' q := by
  cases q with
  | characterMoveRq packet =>
      cases hmove
  | _ =>
      exact hq

/-- Requests reach copies only while the owner may be outside. -/
theorem inherited_guided {arrived told : Prop} (h : arrived → told) :
    Inherited (Guided arrived) (GuidedPacket told) where
  created := fun _ _ hq => guided_of_inside hq.1 hq.2
  promoted := fun _ _ _ hq => guided_of_inside hq.1 hq.2
  announced := fun _ _ _ hq => hq
  placed := fun _ _ hq hf => ⟨hf.size, hq.2, fun harrived => (hq.1 (h harrived)).elim⟩
  passed := fun _ _ _ hq => hq
  unobserved := fun _ _ => trivial
  removed := fun _ => trivial

/-- A movement ends inside the world. -/
theorem Guided.move {arrived : Prop} {f : Fixture} (h : Guided arrived f)
    (deltaTime : Milliseconds) : Fixture.Inside (f.move deltaTime).position ⟨100, 100⟩ := by
  by_cases hdirection : f.direction = .Max
  · simpa [Fixture.move, hdirection] using h.still hdirection
  · rw [← h.size]
    exact Fixture.inside_move hdirection (by rw [h.size]; norm_num) (by rw [h.size]; norm_num)

/-- From there an object of one chunk finds the sector it is in. -/
theorem Guided.lands {arrived : Prop} {f : Fixture} (h : Guided arrived f)
    (deltaTime : Milliseconds) : Lands True (f.move deltaTime) := by
  have hinside := h.move deltaTime
  refine ⟨chunkPlacement.inWorld hinside, ⟨?_, ?_⟩, fun _ => chunkPlacement_lossless _ hinside⟩ <;>
    rw [Fixture.move_size, h.size] <;> norm_num

/-- A round leaves copies inside the world and tells of such copies. -/
theorem Round.guided {arrived told : Prop} {x : Nat} {f f' : Fixture} {packets : List PlayPacket}
    {fault : Option Fault} (h : Round x f f' packets fault) (hsize : f.size = ⟨100, 100⟩)
    (hinside : Fixture.Inside f.position ⟨100, 100⟩) :
    Guided arrived f' ∧ ∀ p ∈ packets, GuidedPacket told p := by
  refine ⟨?_, h.forall_mem (fun _ => trivial) (fun _ _ _ => ⟨hsize, hinside⟩)
    fun _ _ _ => ⟨hsize, hinside⟩⟩
  cases h <;> exact guided_of_inside hsize hinside

section Views

variable {D : Deployment} {c c' : Cluster}

theorem guided_step {arrived told : Prop} (h : arrived → told) {v v' : View} {act : View.Act}
    {fault : Option Fault} (hv : Throughout (Guided arrived) (GuidedPacket told) v)
    (hact : Brings (Guided arrived) (GuidedPacket told) act) (hstep : View.Step D v act v' fault) :
    Throughout (Guided arrived) (GuidedPacket told) v' := by
  refine hv.step (inherited_guided h) hact ?_ hstep
  intro x f f' deltaTime packets fault _ hf hround
  have hguided := hv.copies x f hf
  exact hround.guided (by rw [Fixture.move_size, hguided.size]) (hguided.move deltaTime)

/-- Steps that bring guided copies and packets keep all copies and packets guided. -/
theorem Cluster.Ordered.guided (hD : D.Complete) (h : Ordered D True c) {A T : Nat → Prop}
    (hAT : ∀ o, A o → T o)
    (hviews : ∀ o, Throughout (Guided (A o)) (GuidedPacket (T o)) (c.view D o)) {e : Event}
    (hemission : c.inEmission D e)
    (hbrings : ∀ o act, c.Permits o e act → Brings (Guided (A o)) (GuidedPacket (T o)) act)
    (hstep : (machine D).step c e c') :
    Ordered D True c' ∧
      ∀ o, Throughout (Guided (A o)) (GuidedPacket (T o)) (c'.view D o) := by
  refine h.step (R := fun o v => Throughout (Guided (A o)) (GuidedPacket (T o)) v) hD
    trivial hviews hemission ?_ ?_ hstep
  · intro k clock _ o v x f hv hf
    exact (hv.copies x f hf).lands clock.deltaTime
  · intro o act v v' fault hpermits _ hv hact
    exact guided_step (hAT o) hv (hbrings o act hpermits) hact

/-- An update that does not fault makes one round for every fixture of its server. -/
theorem Cluster.fixtureAt_update {k : Nat} {clock : World.Clock}
    (h : (c.next D (.update k clock)).halted k = none) (x o : Nat) :
    (c.next D (.update k clock)).fixtureAt k x o =
      (c.fixtureAt k x o).map fun f => (World.updateFixture x f clock).fixture := by
  have hfault : ((c.worlds k).update clock).fault = none := fault_of_halted (c := c) (D := D) h
  have hworld := World.update_fixtureAt hfault x o
  rw [next, fixtureAt_absorb, if_pos rfl, hworld]
  rfl

theorem World.updateFixture_position (x : Nat) (f : Fixture) (clock : World.Clock) :
    (World.updateFixture x f clock).fixture.position = (f.move clock.deltaTime).position := by
  rcases World.updateFixture_isRound x f clock with ⟨packets, hround, _⟩
  exact congrArg Motion.position hround.motion.1

/-- A move request at the owner, in the view of the object. -/
theorem Cluster.Sound.view_move (h : Sound D c) {k : Nat} (agency : Nat) {packet : CharacterMoveRq}
    (howns : c.owns k packet.sectorId packet.objectId = true) :
    ∃ f packets, (c.view D packet.objectId).copies packet.sectorId = some f ∧
      f.isObservingFixture = false ∧
      (∀ p ∈ packets, ∃ y, p = .characterMoveRq { packet with sectorId := y, toOwner := false }) ∧
      (c.next D (.move k agency packet)).view D packet.objectId =
        (c.view D packet.objectId).write packet.sectorId (some (f.place packet))
          (D.sent packets) := by
  rcases h.handle_cases (.characterMoveRq packet) trivial k agency 0 with
    ⟨hx, _⟩ | ⟨hx, F, packets, hreaction, heffect, habout, _⟩
  · exact absurd (h.mem_sectorsOf howns) hx
  · rcases isOwner_of_owns ((view_owns hx _).trans howns) with ⟨f, hf, hobs⟩
    have hcopy : (c.view D packet.objectId).copies
        (PlayPacket.characterMoveRq packet).sectorId = some f := hf
    have hview := view_absorb hx heffect habout packet.objectId
    rw [if_pos (show packet.objectId = (PlayPacket.characterMoveRq packet).objectId from rfl)]
      at hview
    simp only [PlayPacket.objectId, hcopy] at hreaction
    rcases hreaction.move_owner hobs with ⟨rfl, _, rfl⟩
    exact ⟨f, _, hf, hobs, forall_mem_fanOut fun y => ⟨y, rfl⟩, hview⟩

/-- A live object has an owner when nothing is under way. -/
theorem Cluster.Ordered.owner_of_quiet (h : Ordered D True c) (hflight : c.flight = []) {o : Nat}
    (hlive : (c.view D o).live = true) :
    ∃ k x f, c.fixtureAt k x o = some f ∧ f.isObservingFixture = false := by
  have hshape := (h.inShape o).shape
  rw [hlive] at hshape
  cases hshape with
  | held x f hheld =>
      rcases exists_fixtureAt_of_view hheld.copy with ⟨k, _, hf⟩
      exact ⟨k, x, f, hf, hheld.owns⟩
  | moving x info before after hmoving =>
      have hnil := hmoving.queue
      rw [view_queue hflight] at hnil
      simp at hnil

/-- What is under way is handled to the end with a property of an object that deliveries keep. -/
theorem Cluster.Ordered.handled_with (hD : D.Complete) (h : Ordered D True c) {o : Nat}
    {R : View → Prop} (hR : R (c.view D o)) (hlive : (c.view D o).live = true)
    (hkept : ∀ v early q v' fault, R v → View.Step D v (.deliver early q) v' fault → R v')
    (now : Milliseconds) :
    ∃ n c', (machine D).Run c (List.replicate n (.deliver 0 now)) c' ∧ c'.flight = [] ∧
      Ordered D True c' ∧ R (c'.view D o) ∧
      ∃ k x f, c'.fixtureAt k x o = some f ∧ f.isObservingFixture = false := by
  rcases h.handled hD trivial now with ⟨n, c', hrun, hflight⟩
  -- nothing is known of the other objects, and nothing is asked
  let Q : Nat → View → Prop := fun o' v => o' = o → R v ∧ v.live = true
  have hend : Ordered D True c' ∧ ∀ o', Q o' (c'.view D o') := by
    refine hrun.invariant (P := fun c => Ordered D True c ∧ ∀ o', Q o' (c.view D o')) ?_ ⟨h, ?_⟩
    · intro c e he c' hc hstep
      cases List.eq_of_mem_replicate he
      have hemission : c.inEmission D (.deliver 0 now) := rfl
      refine hc.1.step hD trivial hc.2 hemission (by simp) ?_ hstep
      rintro o' act v v' fault ⟨envelope, _, _, rfl⟩ _ hQ hact ho
      rcases hQ ho with ⟨hR, hlive⟩
      refine ⟨hkept _ _ _ _ _ hR hact, ?_⟩
      cases hact <;> exact hlive
    · rintro o' rfl
      exact ⟨hR, hlive⟩
  rcases hend.2 o rfl with ⟨hR', hlive'⟩
  exact ⟨n, c', hrun, hflight, hend.1, hR', hend.1.owner_of_quiet hflight hlive'⟩

end Views

namespace Exposed

variable {D : Deployment} {s s' : Exposed}

/-! ## Harmless requests -/

/-- Every object is in shape, its copies and packets are guided, and every stored byte is that of a
direction. -/
structure Holds (D : Deployment) (s : Exposed) : Prop where
  ordered : Cluster.Ordered D True s.cluster
  views : ∀ o, Throughout (Guided (o ∉ s.pending)) (GuidedPacket (o ∉ s.pending))
    (s.cluster.view D o)
  stored : ∀ o, Direction.ofByte (s.stored o) ≠ none
  overrun : s.overrun = false

theorem Holds.init : Holds D ⟨Cluster.new D, fun _ => 8, [], false⟩ := by
  have hholding : Cluster.Holding D
      (fun _ v => InShape True v ∧ Throughout (Guided True) (GuidedPacket True) v)
      (fun _ => False) (Cluster.new D) :=
    Cluster.Holding.new fun _ => ⟨Cluster.inShape_empty True, by simp, by simp⟩
  refine ⟨⟨hholding.sound, fun o => (hholding.views o).1, Cluster.halted_of_faults hholding.faults,
    Cluster.noNull_new⟩, ?_, fun _ => show Direction.ofByte 8 ≠ none by decide, rfl⟩
  intro o
  have hview := (hholding.views o).2
  exact ⟨fun x f hf => (hview.copies x f hf).mono fun _ => trivial,
    fun q hq => (hview.queue q hq).mono fun _ => trivial⟩

theorem Holds.safe (h : Holds D s) (o : Nat) : s.Safe o := by
  have hgrid : ∀ k x, (s.cluster.worlds k).sectorIdAt x ≠ none → x < sectorCount := by
    intro k x hx
    rw [h.ordered.sound.sectors] at hx
    split_ifs at hx with hmem
    · exact (D.mem_sectorsOf.1 hmem).1
    · exact absurd rfl hx
  refine ⟨h.overrun, hgrid, fun k x hx => phaseGridIndex_inPhaseGrid (hgrid k x hx),
    h.ordered.halted, ?_⟩
  intro harrived k x f hf hobs
  have hguided := (h.views o).copies x f (h.ordered.sound.view_fixtureAt hf).2
  rw [insideWorldRect_iff, hguided.size]
  exact hguided.owner harrived hobs

/-- With the bytes of directions no table is left. -/
theorem Holds.overruns (h : Holds D s) (k : Nat) : s.overruns k = false := by
  rw [Exposed.overruns, List.any_eq_false]
  intro o _
  rw [phaseForceTable_eq, Option.isNone_map]
  simpa using h.stored o

/-- The event as a step of the cluster. -/
theorem inEmission_of_admissible {e : MoveEvent} (h : s.Admissible D e) (hharmless : s.harmless e) :
    s.cluster.inEmission D e.event := by
  cases e with
  | request k agency x o packet =>
      exact h
  | update k clock =>
      exact trivial
  | handle now =>
      rfl
  | other e =>
      cases e with
      | spawn k agency packet now =>
          exact ⟨h.1, hharmless⟩
      | remove k agency packet =>
          exact h
      | rehashSectors k order =>
          exact trivial
      | rehashFixtures k x order =>
          exact trivial
      | _ =>
          exact h.elim

/-- Spawned objects and harmless requests are guided. -/
theorem brings_of_harmless {e : MoveEvent} (h : s.Admissible D e) (hharmless : s.harmless e)
    {A T : Nat → Prop}
    (htold : ∀ k agency x o packet, e = .request k agency x o packet → ¬ T o) (o : Nat)
    (act : View.Act) (hpermits : s.cluster.Permits o e.event act) :
    Brings (Guided (A o)) (GuidedPacket (T o)) act := by
  cases e with
  | request k agency x o' packet =>
      rcases hpermits with ⟨rfl, rfl⟩
      rcases hharmless with ⟨direction, hbyte, hstill⟩
      refine ⟨htold k agency x _ packet rfl, ?_⟩
      have hdirection : (packet.onUserMoveReq x o').decode.direction = direction := by
        simp [RawMoveRq.decode, RawMoveRq.onUserMoveReq, hbyte]
      rw [hdirection]
      exact hstill
  | update k clock =>
      rcases hpermits with ⟨x, rfl⟩
      exact trivial
  | handle now =>
      rcases hpermits with ⟨e, _, _, rfl⟩
      exact trivial
  | other e =>
      cases e with
      | spawn k agency packet now =>
          rcases hpermits with ⟨_, rfl⟩
          exact guided_of_inside h.2.2 h.2.1
      | remove k agency packet =>
          rcases hpermits with ⟨_, rfl⟩
          exact trivial
      | rehashSectors k order =>
          exact hpermits.elim
      | rehashFixtures k x order =>
          exact hpermits.elim
      | _ =>
          exact h.elim

/-- The owner of an object is in one sector of one server. -/
theorem Holds.owner_unique (h : Holds D s) {k k' x x' o : Nat}
    (howns : s.cluster.owns k x o = true) (howns' : s.cluster.owns k' x' o = true) : k' = k := by
  have hx := h.ordered.sound.mem_sectorsOf howns
  have hx' := h.ordered.sound.mem_sectorsOf howns'
  rcases (h.ordered.inShape o).shape.held_of_owns ((Cluster.view_owns hx o).trans howns) with
    ⟨_, f, hheld⟩
  have hsector := hheld.owns_iff.1 ((Cluster.view_owns hx' o).trans howns')
  subst hsector
  exact Option.some.inj ((D.mem_sectorsOf.1 hx').2.symm.trans (D.mem_sectorsOf.1 hx).2)

/-- An update puts the owners its server holds inside the world. -/
theorem Holds.update (hD : D.Complete) (h : Holds D s) {k : Nat} {clock : World.Clock}
    (hmoves : ∀ e ∈ s.cluster.flight, isMove e.packet = false)
    (henabled : s.cluster.Enabled (.update k clock)) :
    Holds D (s.next D (.update k clock)) := by
  let c' := s.cluster.next D (.update k clock)
  have hnext : s.next D (.update k clock) =
      { s with cluster := c', pending := s.pending.filter fun o => !s.ownsSome k o } := by
    simp [next, h.overruns, MoveEvent.event, c']
  have hqueue : ∀ o, ∀ q ∈ (s.cluster.view D o).queue, isMove q = false := by
    intro o q hq
    rcases List.mem_map.1 (List.mem_filter.1 hq).1 with ⟨e, he, rfl⟩
    exact hmoves e he
  rcases h.ordered.guided hD (A := fun o => o ∉ s.pending) (T := fun _ => True)
    (fun _ _ => trivial)
    (fun o => ⟨(h.views o).copies,
      fun q hq => guidedPacket_of_no_move (hqueue o q hq) ((h.views o).queue q hq)⟩)
    (e := .update k clock) trivial
    (by
      rintro o act ⟨x, rfl⟩
      exact trivial)
    ⟨henabled, rfl⟩ with ⟨hordered, hviews⟩
  rw [hnext]
  refine ⟨hordered, ?_, h.stored, h.overrun⟩
  intro o
  refine ⟨?_, fun q hq => ((hviews o).queue q hq).mono fun _ => trivial⟩
  intro x f' hf'
  have hguided := (hviews o).copies x f' hf'
  refine ⟨hguided.size, hguided.still, ?_⟩
  intro harrived hobs
  by_cases ho : o ∈ s.pending
  · -- the owner was in a sector of the server and has moved
    have howned : s.ownsSome k o = true := by
      simpa [ho] using harrived
    rcases List.any_eq_true.1 howned with ⟨x₀, _, howns⟩
    rcases Cluster.exists_fixtureAt_of_view hf' with ⟨k', _, hfixture⟩
    by_cases hk : k' = k
    · subst hk
      rw [Cluster.fixtureAt_update (hordered.halted k')] at hfixture
      rcases Option.map_eq_some_iff.1 hfixture with ⟨f, hf, rfl⟩
      rw [World.updateFixture_position]
      exact ((h.views o).copies x f (h.ordered.sound.view_fixtureAt hf).2).move clock.deltaTime
    · have hsame : s.cluster.fixtureAt k' x o = some f' := by
        rw [← hfixture]
        change _ = (s.cluster.absorb D k _).fixtureAt k' x o
        rw [Cluster.fixtureAt_absorb, if_neg hk]
      have howns' : s.cluster.owns k' x o = true := by
        simp [Cluster.owns, hsame, hobs]
      exact absurd (h.owner_unique howns howns') hk
  · exact hguided.owner ho hobs

/-- Every other step keeps the owners where they are, or waits for the next update. -/
theorem Holds.step (hD : D.Complete) (h : Holds D s) {e : MoveEvent}
    (hstep : ((machine D).restrict harmless).step s e s') : Holds D s' := by
  rcases hstep with ⟨hharmless, hoverrun, hadmissible, henabled, rfl⟩
  have hemission := inEmission_of_admissible hadmissible hharmless
  cases e with
  | update k clock =>
      exact h.update hD hadmissible henabled
  | request k agency x o packet =>
      -- from now on the owner of the object may be outside
      let pending := s.pending ++ [o]
      have hpending : ∀ {o'}, o' ∉ pending → o' ∉ s.pending := fun hnot hmem =>
        hnot (List.mem_append_left _ hmem)
      have hbrings := brings_of_harmless (D := D) (s := s) hadmissible hharmless
        (A := fun o' => o' ∉ pending) (T := fun o' => o' ∉ pending) (by
          rintro _ _ _ _ _ ⟨⟩ hnot
          exact hnot (List.mem_append_right _ List.mem_cons_self))
      rcases h.ordered.guided hD (fun _ => id)
        (fun o' => ⟨fun x f hf => ((h.views o').copies x f hf).mono hpending,
          fun q hq => ((h.views o').queue q hq).mono hpending⟩)
        hemission hbrings ⟨henabled, rfl⟩ with ⟨hordered, hviews⟩
      refine ⟨hordered, hviews, ?_, hoverrun⟩
      intro o'
      rcases hharmless with ⟨direction, hbyte, _⟩
      by_cases ho : o' = o
      · subst ho
        simp [next, hbyte]
      · simpa [next, ho] using h.stored o'
  | handle now =>
      have hbrings := brings_of_harmless (D := D) (s := s) hadmissible hharmless
        (A := fun o => o ∉ s.pending) (T := fun o => o ∉ s.pending) (by
          rintro _ _ _ _ _ ⟨⟩)
      rcases h.ordered.guided hD (fun _ => id) h.views hemission hbrings ⟨henabled, rfl⟩ with
        ⟨hordered, hviews⟩
      exact ⟨hordered, hviews, h.stored, h.overrun⟩
  | other e =>
      have hbrings := brings_of_harmless (D := D) (s := s) hadmissible hharmless
        (A := fun o => o ∉ s.pending) (T := fun o => o ∉ s.pending) (by
          rintro _ _ _ _ _ ⟨⟩)
      rcases h.ordered.guided hD (fun _ => id) h.views hemission hbrings ⟨henabled, rfl⟩ with
        ⟨hordered, hviews⟩
      exact ⟨hordered, hviews, h.stored, h.overrun⟩

theorem holds_of_reachable (hD : D.Complete)
    (h : ((machine D).restrict harmless).Reachable s) : Holds D s := by
  refine Machine.Reachable.invariant (M := (machine D).restrict harmless) (P := Holds D) ?_ ?_ h
  · rintro s rfl
    exact Holds.init
  · intro s e s' h hstep
    exact h.step hD hstep

/-! ## Other requests -/

/-- A copy of an object that will not move, whose owner is at the given position. -/
structure Parked (position : Vector2) (f : Fixture) : Prop where
  size : f.size = ⟨100, 100⟩
  owner : f.isObservingFixture = false → f.direction = .Max ∧ f.position = position

def ParkedPacket (position : Vector2) : PlayPacket → Prop
  | .createObservingObjectRq _ info => info.fixture.size = ⟨100, 100⟩
  | .promoteObjectRq _ _ => False
  | .characterMoveRq packet => packet.direction = .Max ∧ packet.startingPosition = position
  | _ => True

theorem inherited_parked (position : Vector2) :
    Inherited (Parked position) (ParkedPacket position) where
  created := fun _ _ hsize => ⟨hsize, by rintro ⟨⟩⟩
  promoted := fun _ _ _ h => h.elim
  announced := fun _ _ _ h => h.elim
  placed := fun _ _ hq hf => ⟨hf.size, fun _ => hq⟩
  passed := fun _ _ _ hq => hq
  unobserved := fun _ _ => trivial
  removed := fun _ => trivial

/-- The handling of packets leaves the owner where it is. -/
theorem parked_deliver {position : Vector2} {v v' : View} {early : List PlayPacket} {q : PlayPacket}
    {fault : Option Fault} (h : Throughout (Parked position) (ParkedPacket position) v)
    (hstep : View.Step D v (.deliver early q) v' fault) :
    Throughout (Parked position) (ParkedPacket position) v' := by
  have hact : Brings (Parked position) (ParkedPacket position) (.deliver early q) := trivial
  refine h.step (inherited_parked position) hact ?_ hstep
  rintro _ _ _ _ _ _ ⟨⟩

/-- After a request with direction `Max`, made while nothing is under way, the owner is parked. -/
theorem Holds.parked (h : Holds D s) (hquiet : s.cluster.flight = []) {k : Nat} (agency : Nat)
    {packet : CharacterMoveRq}
    (howns : s.cluster.owns k packet.sectorId packet.objectId = true)
    (hdirection : packet.direction = .Max) :
    Throughout (Parked packet.startingPosition) (ParkedPacket packet.startingPosition)
      ((s.cluster.next D (.move k agency packet)).view D packet.objectId) := by
  rcases h.ordered.sound.view_move agency howns with ⟨f, packets, hf, _, hpackets, hview⟩
  have hviews := h.views packet.objectId
  have hmem := h.ordered.sound.mem_sectorsOf howns
  rcases (h.ordered.inShape packet.objectId).shape.held_of_owns
    ((Cluster.view_owns hmem _).trans howns) with ⟨_, g, hheld⟩
  rw [hview]
  refine throughout_write ?_ ?_ ?_ ?_ D
  · -- the other copies are not the owner
    intro y hy g hg
    refine ⟨(hviews.copies y g hg).size, fun hobs => absurd ?_ hy⟩
    exact hheld.owns_iff.1 (by simp [View.owns, hg, hobs])
  · simp [Cluster.view_queue hquiet]
  · rintro _ ⟨⟩
    exact ⟨(hviews.copies _ f hf).size, fun _ => ⟨hdirection, rfl⟩⟩
  · intro p hp
    rcases hpackets p hp with ⟨y, rfl⟩
    exact ⟨hdirection, rfl⟩

/-- Deliveries are steps of the exposed cluster. -/
theorem run_handles {now : Milliseconds} {n : Nat} (hoverrun : s.overrun = false) :
    ∀ {c c' : Cluster}, (Cluster.machine D).Run c (List.replicate n (.deliver 0 now)) c' →
      ((machine D).restrict ticks).Run { s with cluster := c } (List.replicate n (.handle now))
        { s with cluster := c' } := by
  induction n with
  | zero =>
      intro c c' h
      cases h
      exact .nil _
  | succ n ih =>
      intro c c' h
      cases h with
      | cons hstep hrun =>
          refine .cons ⟨trivial, hoverrun, trivial, hstep.1, rfl⟩ ?_
          have hnext := ih hrun
          rw [hstep.2] at hnext
          exact hnext

theorem not_safe_of_overruns {k o : Nat} (h : s.overruns k = true) (clock : World.Clock) :
    ¬ (s.next D (.update k clock)).Safe o := by
  intro hsafe
  have hoverrun := hsafe.phaseForce
  simp [next, h] at hoverrun

/-- A clock by which the cooltime of a fixture is not over. -/
def coolingClock (f : Fixture) : World.Clock :=
  ⟨int64 (f.lastTransformTime + transformCooltime) - 1, 0, 0, fun _ _ => 0⟩

/-- An owner that does not move stays outside in an update within the cooltime. -/
theorem not_safe_of_outside {k x o : Nat} {f : Fixture} (hx : x < sectorCount)
    (hf : s.cluster.fixtureAt k x o = some f) (hobs : f.isObservingFixture = false)
    (hdirection : f.direction = .Max) (houtside : ¬ Fixture.Inside f.position f.size) :
    ¬ (s.next D (.update k (coolingClock f))).Safe o := by
  cases hoverruns : s.overruns k with
  | true =>
      exact not_safe_of_overruns hoverruns _
  | false =>
      intro hsafe
      have howned : s.ownsSome k o = true :=
        List.any_eq_true.2 ⟨x, List.mem_range.2 hx, by simp [Cluster.owns, hf, hobs]⟩
      simp only [next, hoverruns, MoveEvent.event] at hsafe
      have hfixture := Cluster.fixtureAt_update (hsafe.halted k) x o
      have hupdated : (World.updateFixture x f (coolingClock f)).fixture = f := by
        simp [World.updateFixture, Fixture.move, coolingClock, hdirection, hobs]
      rw [hf, Option.map_some, hupdated] at hfixture
      have hinside := hsafe.inside (by simp [howned]) k x f hfixture hobs
      exact houtside ((insideWorldRect_iff f).1 hinside)

/-- Any other request breaks a server at the next update, or leaves the object outside. -/
theorem Holds.exists_unsafe (hD : D.Complete) (h : Holds D s) (hquiet : s.cluster.flight = [])
    {k x o : Nat} (howns : s.cluster.owns k x o = true) (agency : Nat) {packet : RawMoveRq}
    (hharmless : ¬ packet.Harmless) :
    ∃ es s', ((machine D).restrict ticks).Run (s.next D (.request k agency x o packet)) es s' ∧
      ¬ s'.Safe o := by
  let request := (packet.onUserMoveReq x o).decode
  let c₁ := s.cluster.next D (.move k agency request)
  let s₁ : Exposed := s.next D (.request k agency x o packet)
  have hmem := h.ordered.sound.mem_sectorsOf howns
  have hlive : (c₁.view D o).live = true :=
    ((h.ordered.inShape o).shape.held_of_owns ((Cluster.view_owns hmem o).trans howns)).1
  have hordered : Cluster.Ordered D True c₁ :=
    (h.ordered.step (R := fun _ _ => True) (e := .move k agency request) hD trivial
      (fun _ => trivial) howns (by simp) (by simp)
      ⟨⟨k, rfl, h.ordered.halted k⟩, rfl⟩).1
  have hparked : Direction.ofByte packet.direction = some .Max →
      Throughout (Parked packet.startingPosition) (ParkedPacket packet.startingPosition)
        (c₁.view D o) := by
    intro hbyte
    have hdirection : request.direction = .Max := by
      simp [request, RawMoveRq.decode, RawMoveRq.onUserMoveReq, hbyte]
    have howned : s.cluster.owns k request.sectorId request.objectId = true := howns
    exact h.parked hquiet agency howned hdirection
  -- the packets of the request are handled before the next update
  rcases hordered.handled_with hD (R := fun v => Direction.ofByte packet.direction = some .Max →
      Throughout (Parked packet.startingPosition) (ParkedPacket packet.startingPosition) v)
    hparked hlive (fun v early q v' fault hR hstep hbyte => parked_deliver (hR hbyte) hstep) 0 with
    ⟨n, c₂, hrun, hflight, hordered₂, hparked₂, k₂, x₂, f, hf, hobs⟩
  let s₂ : Exposed := { s₁ with cluster := c₂ }
  have hrun₂ : ((machine D).restrict ticks).Run s₁ (List.replicate n (.handle 0)) s₂ :=
    run_handles (s := s₁) h.overrun hrun
  have hstep : ∀ clock, ((machine D).restrict ticks).step s₂ (.update k₂ clock)
      (s₂.next D (.update k₂ clock)) := by
    intro clock
    refine ⟨trivial, h.overrun, ?_, ⟨k₂, rfl, hordered₂.halted k₂⟩, rfl⟩
    intro e he
    have hempty : s₂.cluster.flight = [] := hflight
    rw [hempty] at he
    cases he
  have hstored : s₂.stored o = packet.direction := by
    simp [s₂, s₁, next]
  cases hdirection : Direction.ofByte packet.direction with
  -- the byte is behind the end of `PhaseForce`, or the owner is parked outside the world
  | none =>
      have hoverruns : s₂.overruns k₂ = true := by
        refine List.any_eq_true.2 ⟨o, World.mem_objectIds hf, ?_⟩
        rw [hstored, phaseForceTable_eq, hdirection]
        rfl
      exact ⟨_, _, hrun₂.append (hstep ⟨0, 0, 0, fun _ _ => 0⟩),
        not_safe_of_overruns hoverruns _⟩
  | some direction =>
      have hmax : direction = .Max := by
        by_contra hmoves
        exact hharmless ⟨direction, hdirection, fun hmax => absurd hmax hmoves⟩
      subst hmax
      rcases hordered₂.sound.view_fixtureAt hf with ⟨hx, hcopy⟩
      have hparked := (hparked₂ hdirection).copies x₂ f hcopy
      rcases hparked.owner hobs with ⟨hfdirection, hposition⟩
      refine ⟨_, _, hrun₂.append (hstep (coolingClock f)),
        not_safe_of_outside (D.mem_sectorsOf.1 hx).1 hf hobs hfdirection ?_⟩
      rw [hposition, hparked.size]
      exact fun hinside => hharmless ⟨.Max, hdirection, fun _ => hinside⟩

/-- For a request to move an owned object, made while nothing is under way, whatever updates follow:
they are safe if and only if the direction byte is that of a direction, and the starting position
is inside the world in case it is `Max`. -/
theorem safe_iff (hD : D.Complete) (h : ((machine D).restrict harmless).Reachable s)
    (hquiet : s.cluster.flight = []) {k x o : Nat} (howns : s.cluster.owns k x o = true)
    (agency : Nat) (packet : RawMoveRq) :
    (∀ es s', ((machine D).restrict ticks).Run (s.next D (.request k agency x o packet)) es s' →
        s'.Safe o) ↔
      packet.Harmless := by
  have hholds := holds_of_reachable hD h
  constructor
  · intro hsafe
    -- what a harmful request has written stays until the next update of the server
    by_contra hharmless
    rcases hholds.exists_unsafe hD hquiet howns agency hharmless with ⟨es, s', hrun, hunsafe⟩
    exact hunsafe (hsafe es s' hrun)
  · intro hharmless es s' hrun
    -- the request is a step of the run, and updates keep what it keeps
    have hstep : ((machine D).restrict harmless).step s (.request k agency x o packet)
        (s.next D (.request k agency x o packet)) :=
      ⟨hharmless, hholds.overrun, howns, ⟨k, rfl, hholds.ordered.halted k⟩, rfl⟩
    refine (hrun.invariant (P := Holds D) ?_ (hholds.step hD hstep)).safe o
    intro s e _ s' h hstep
    refine h.step hD ⟨?_, hstep.2⟩
    cases e with
    | update k clock =>
        exact trivial
    | handle now =>
        exact trivial
    | _ =>
        exact hstep.1.elim

/-! ## Samples -/

open Cluster (threeServers firstId threeServers_complete)

/-- A spawn in the middle of sector 12. -/
def spawned : Exposed :=
  Exposed.next threeServers ⟨Cluster.new threeServers, fun _ => 8, [], false⟩
    (.other (.spawn 2 9 ⟨1, 12, ⟨2500, 2500⟩, ⟨100, 100⟩⟩ 0))

theorem reachable_spawned : ((machine threeServers).restrict harmless).Reachable spawned := by
  have hinit : ((machine threeServers).restrict harmless).Reachable
      ⟨Cluster.new threeServers, fun _ => 8, [], false⟩ := .init rfl
  refine hinit.step (e := .other (.spawn 2 9 ⟨1, 12, ⟨2500, 2500⟩, ⟨100, 100⟩⟩ 0))
    ⟨?_, rfl, ⟨by decide +kernel, ?_, rfl⟩, ⟨2, rfl, rfl⟩, rfl⟩
  · intro id _
    exact List.not_mem_nil
  · exact Cluster.inside_chunk (by norm_num) (by norm_num)

/-- A request that starts far outside the world, to the right. -/
def farRequest : RawMoveRq := ⟨0, 0, ⟨100000, -100000⟩, 2, false⟩

theorem safe_iff_spawned :
    (∀ es s', ((machine threeServers).restrict ticks).Run
        (spawned.next threeServers (.request 2 9 12 firstId farRequest)) es s' →
        s'.Safe firstId) ↔
      farRequest.Harmless :=
  safe_iff threeServers_complete reachable_spawned (by decide +kernel) (by decide +kernel) 9
    farRequest

/-- The first byte behind `Max`. -/
def strayRequest : RawMoveRq := ⟨0, 0, ⟨2500, 2500⟩, 9, false⟩

/-- The next update reads `PhaseForce` behind its end. -/
theorem phaseForce_overrun :
    ¬ ∀ (D : Deployment), D.Complete → ∀ s : Exposed,
      ((machine D).restrict harmless).Reachable s → s.cluster.flight = [] →
        ∀ k x o, s.cluster.owns k x o = true → ∀ agency packet es s',
          ((machine D).restrict ticks).Run (s.next D (.request k agency x o packet)) es s' →
            s'.Safe o := by
  intro h
  let s₁ : Exposed := spawned.next threeServers (.request 2 9 12 firstId strayRequest)
  -- the update looks the direction byte 9 up in a table of nine entries
  have hoverruns : s₁.overruns 2 = true := by
    decide +kernel
  have hflight : s₁.cluster.flight = [] := by
    decide +kernel
  have hhalted : s₁.cluster.halted 2 = none := by
    decide +kernel
  have hrun : ((machine threeServers).restrict ticks).Run s₁
      [.update 2 ⟨1000, 16, 1000, fun _ _ => 1000⟩]
      (s₁.next threeServers (.update 2 ⟨1000, 16, 1000, fun _ _ => 1000⟩)) := by
    refine .cons ⟨trivial, rfl, ?_, ⟨2, rfl, hhalted⟩, rfl⟩ (.nil _)
    intro e he
    rw [hflight] at he
    cases he
  exact not_safe_of_overruns hoverruns _
    (h threeServers threeServers_complete spawned reachable_spawned (by decide +kernel) 2 12
      firstId (by decide +kernel) 9 strayRequest _ _ hrun)

end Exposed

end Game
end SeamlessServer
