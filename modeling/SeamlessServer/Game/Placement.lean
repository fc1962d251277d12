import SeamlessServer.Game.View

/-!
# Game.Placement — where objects are

`Throughout` is a property that all copies and packets of an object have, with the rule by which
handlers and rounds keep it.

A `Placement` describes the positions and sizes objects may have: inside the world, of positive
extent, and not left by movement.  Objects that start at such places and are sent to such places
stay there, together with all their copies and with the packets that carry them.
-/

namespace SeamlessServer
namespace Game

open Utility Protocol

/-! ## Properties of copies and packets -/

/-- A property of fixtures and one of packets: what a packet leaves in its sector, and what is sent
on in answer to it, has them again. -/
structure Inherited (P : Fixture → Prop) (Q : PlayPacket → Prop) : Prop where
  created : ∀ s info, Q (.createObservingObjectRq s info) → P (observingCopy info)
  promoted : ∀ s info now, Q (.promoteObjectRq s info) → P (promotedOwner info now)
  announced : ∀ s info y, Q (.promoteObjectRq s info) → Q (createPacket s info y)
  placed : ∀ packet f, Q (.characterMoveRq packet) → P f → P (f.place packet)
  passed : ∀ packet y b, Q (.characterMoveRq packet) →
    Q (.characterMoveRq { packet with sectorId := y, toOwner := b })
  unobserved : ∀ y o, Q (.removeObservingObjectRq y o)
  removed : ∀ packet, Q (.removeCharacterRq packet)

/-- All copies and packets of an object have the properties. -/
structure Throughout (P : Fixture → Prop) (Q : PlayPacket → Prop) (v : View) : Prop where
  copies : ∀ x f, v.copies x = some f → P f
  queue : ∀ q ∈ v.queue, Q q

/-- What comes from outside has the properties. -/
def Brings (P : Fixture → Prop) (Q : PlayPacket → Prop) : View.Act → Prop
  | .spawn _ f => P f
  | .request packet => Q packet
  | _ => True

section Throughout

variable {P : Fixture → Prop} {Q : PlayPacket → Prop}

/-- Handlers keep the properties. -/
theorem Inherited.reaction (hPQ : Inherited P Q) {now : Milliseconds} {q : PlayPacket}
    {F F' : Option Fixture} {packets : List PlayPacket} {fault : Option Fault}
    (h : Reaction now q F F' packets fault) (hq : Q q) (hF : ∀ f, F = some f → P f) :
    (∀ f, F' = some f → P f) ∧ ∀ p ∈ packets, Q p := by
  -- a move is written to the fixture that is there, whether it is the owner or not
  have hplace : ∀ {request : CharacterMoveRq}, Q (.characterMoveRq request) →
      ∀ f, F.map (Fixture.place · request) = some f → P f := by
    intro request hrequest f hf
    rcases Option.map_eq_some_iff.1 hf with ⟨g, hg, rfl⟩
    exact hPQ.placed request g hrequest (hF g hg)
  cases h with
  | created s info =>
      refine ⟨?_, by simp⟩
      rintro f ⟨⟩
      exact hPQ.created s info hq
  | promotedOutside s info g _ =>
      refine ⟨?_, by simp⟩
      rintro f ⟨⟩
      exact hPQ.promoted s info now hq
  | promotedNear s info g _ _ =>
      refine ⟨?_, by simp⟩
      rintro f ⟨⟩
      exact hPQ.promoted s info now hq
  | promotedFar s info g _ _ =>
      refine ⟨?_, forall_mem_exchangePackets (fun y => hPQ.unobserved y _)
        fun y => hPQ.announced s info y hq⟩
      rintro f ⟨⟩
      exact hPQ.promoted s info now hq
  | moveForwarded packet x _ _ =>
      refine ⟨hplace hq, ?_⟩
      intro p hp
      rw [List.mem_singleton.1 hp]
      exact hPQ.passed packet x packet.toOwner hq
  | moveOwnerUnknown packet _ _ =>
      exact ⟨hplace hq, by simp⟩
  | copyMoved packet _ _ =>
      exact ⟨hplace hq, by simp⟩
  | ownerMoved packet _ =>
      exact ⟨hplace hq, forall_mem_fanOut fun y => hPQ.passed packet y false hq⟩
  | removeForwarded packet x _ _ =>
      refine ⟨hF, ?_⟩
      intro p hp
      rw [List.mem_singleton.1 hp]
      exact hPQ.removed _
  | ownerRemoved packet _ =>
      exact ⟨by simp, forall_mem_fanOut fun y => hPQ.removed _⟩
  | objectExists s info f =>
      exact ⟨hF, by simp⟩
  | observerNotFound x o _ =>
      exact ⟨hF, by simp⟩
  | removeOwnerUnknown packet _ _ =>
      exact ⟨hF, by simp⟩
  | _ =>
      exact ⟨by simp, by simp⟩

/-- A write in a sector, whatever was there. -/
theorem throughout_write {v : View} {x : Nat} {F : Option Fixture} {packets : List PlayPacket}
    (hcopies : ∀ y ≠ x, ∀ f, v.copies y = some f → P f) (hqueue : ∀ q ∈ v.queue, Q q)
    (hF : ∀ f, F = some f → P f) (hpackets : ∀ p ∈ packets, Q p) (D : Deployment) :
    Throughout P Q (v.write x F (D.sent packets)) := by
  constructor
  · intro y f hf
    by_cases hy : y = x
    · subst hy
      exact hF f (by simpa [View.write] using hf)
    · exact hcopies y hy f (by simpa [View.write, hy] using hf)
  · intro p hp
    rcases List.mem_append.1 hp with hp | hp
    · exact hqueue p hp
    · exact hpackets p (D.mem_sent.1 hp).1

theorem Throughout.write {v : View} (h : Throughout P Q v) {x : Nat} {F : Option Fixture}
    {packets : List PlayPacket} (hF : ∀ f, F = some f → P f) (hpackets : ∀ p ∈ packets, Q p)
    (D : Deployment) : Throughout P Q (v.write x F (D.sent packets)) :=
  throughout_write (fun y _ => h.copies y) h.queue hF hpackets D

theorem Throughout.pop {v : View} (h : Throughout P Q v) {early rest : List PlayPacket}
    {q : PlayPacket} (hqueue : v.queue = early ++ q :: rest) :
    Throughout P Q { v with queue := early ++ rest } := by
  refine ⟨h.copies, ?_⟩
  intro p hp
  refine h.queue p ?_
  rw [hqueue]
  rcases List.mem_append.1 hp with hp | hp <;> simp [hp]

/-- Every act keeps the properties, if the rounds do. -/
theorem Throughout.step (hPQ : Inherited P Q) {D : Deployment} {v v' : View} {act : View.Act}
    {fault : Option Fault} (h : Throughout P Q v) (hact : Brings P Q act)
    (hround : ∀ x f f' deltaTime packets fault, act = .round x deltaTime → v.copies x = some f →
      Round x (f.move deltaTime) f' packets fault → P f' ∧ ∀ p ∈ packets, Q p)
    (hstep : View.Step D v act v' fault) : Throughout P Q v' := by
  cases hstep with
  | @spawned x f hx hnone =>
      have hwrite : Throughout P Q (v.write x (some f) (D.sent [])) := by
        refine h.write ?_ (by simp) D
        rintro g ⟨⟩
        exact hact
      exact ⟨hwrite.copies, hwrite.queue⟩
  | spawnRefused hsome =>
      exact ⟨h.copies, h.queue⟩
  | moveRequested hx hreaction =>
      rcases hPQ.reaction hreaction hact (h.copies _) with ⟨hF, hpackets⟩
      exact h.write hF hpackets D
  | @removeRequested packet _ F packets _ hx hreaction =>
      rcases hPQ.reaction hreaction hact (h.copies _) with ⟨hF, hpackets⟩
      have hwrite := h.write (x := packet.sectorId) hF hpackets D
      exact ⟨hwrite.copies, hwrite.queue⟩
  | delivered hqueue hx hreaction =>
      rcases hPQ.reaction hreaction (h.queue _ (by simp [hqueue])) (h.copies _) with
        ⟨hF, hpackets⟩
      exact (h.pop hqueue).write hF hpackets D
  | dropped hqueue hx =>
      exact h.pop hqueue
  | @round x f f' deltaTime packets _ hx hf hmoved =>
      rcases hround x f f' deltaTime packets _ rfl hf hmoved with ⟨hF, hpackets⟩
      refine h.write ?_ hpackets D
      rintro g ⟨⟩
      exact hF

end Throughout

/-! ## Placements -/

/-- Positions and sizes that keep a fixture inside the world. -/
structure Placement where
  position : Vector2 → Prop
  size : Size → Prop
  inWorld : ∀ {p : Vector2}, position p → InWorld p
  extended : ∀ {z : Size}, size z → 0 < z.x ∧ 0 < z.y
  move : ∀ {f : Fixture} (delta : Milliseconds), position f.position → size f.size →
    position (f.move delta).position

/-- Every position has a sector. -/
def Placement.Lossless (L : Placement) : Prop :=
  ∀ p, L.position p → getSectorByPosition p ≠ invalidSector

def Placement.Fits (L : Placement) (f : Fixture) : Prop := L.position f.position ∧ L.size f.size

def Placement.FitsPacket (L : Placement) : PlayPacket → Prop
  | .createObservingObjectRq _ info => L.Fits info.fixture
  | .promoteObjectRq _ info => L.Fits info.fixture
  | .characterMoveRq packet => L.position packet.startingPosition
  | _ => True

/-- All copies and packets of an object are placed well. -/
structure Placed (L : Placement) (v : View) : Prop where
  copies : ∀ x f, v.copies x = some f → L.Fits f
  queue : ∀ q ∈ v.queue, L.FitsPacket q

section Fits

variable {L : Placement}

/-- What is placed well stays so in the hands of others. -/
theorem Placement.inherited (L : Placement) : Inherited L.Fits L.FitsPacket where
  created := fun _ _ h => h
  promoted := fun _ _ _ h => h
  announced := fun _ _ _ h => h
  placed := fun _ _ hposition h => ⟨hposition, h.2⟩
  passed := fun _ _ _ h => h
  unobserved := fun _ _ => trivial
  removed := fun _ => trivial

theorem Round.fits {x : Nat} {f f' : Fixture} {packets : List PlayPacket} {fault : Option Fault}
    (h : Round x f f' packets fault) (hf : L.Fits f) :
    L.Fits f' ∧ ∀ p ∈ packets, L.FitsPacket p := by
  refine ⟨?_, h.forall_mem (fun _ => trivial) (fun _ _ _ => hf) (fun _ _ _ => hf)⟩
  cases h <;> exact hf

/-- What the acts must carry for the view to stay well placed. -/
def Placement.FitsAct (L : Placement) : View.Act → Prop
  | .spawn _ f => L.Fits f
  | .request packet => L.FitsPacket packet
  | _ => True

theorem Placed.step {D : Deployment} {v v' : View} {act : View.Act} {fault : Option Fault}
    (h : Placed L v) (hact : L.FitsAct act) (hstep : View.Step D v act v' fault) : Placed L v' := by
  have hthroughout : Throughout L.Fits L.FitsPacket v := ⟨h.copies, h.queue⟩
  have hbrings : Brings L.Fits L.FitsPacket act := by
    cases act <;> exact hact
  have hstepped := hthroughout.step L.inherited hbrings ?_ hstep
  · exact ⟨hstepped.copies, hstepped.queue⟩
  · intro x f f' deltaTime packets fault _ hf hround
    have hfits := h.copies x f hf
    refine hround.fits ⟨L.move deltaTime hfits.1 hfits.2, ?_⟩
    rw [Fixture.move_size]
    exact hfits.2

/-- A place of the world at which a movement may end. -/
structure Lands (lossless : Prop) (f : Fixture) : Prop where
  inWorld : InWorld f.position
  extended : Extended f
  sector : lossless → getSectorByPosition f.position ≠ invalidSector

/-- Objects that are placed well move to such places. -/
theorem Placed.lands {v : View} (h : Placed L v) {x : Nat} {f : Fixture} (hf : v.copies x = some f)
    (deltaTime : Milliseconds) : Lands L.Lossless (f.move deltaTime) := by
  have hfits := h.copies x f hf
  have hposition := L.move deltaTime hfits.1 hfits.2
  rcases L.extended hfits.2 with ⟨hx, hy⟩
  refine ⟨L.inWorld hposition, ⟨?_, ?_⟩, fun hall => hall _ hposition⟩
  · rwa [Fixture.move_size]
  · rwa [Fixture.move_size]

end Fits

/-! ## The placement of the world -/

/-- The corrected end of a movement lies between the borders unless the fixture is twice as large as
the world. -/
theorem clampMovement_between (position movement : CoordinateUnit)
    {half worldLow worldHigh : CoordinateUnit} (hhalf : 0 ≤ half) (hfit : half ≤ worldHigh - worldLow) :
    worldLow ≤
        position + Fixture.clampMovement movement (position + movement - half)
          (position + movement + half) worldLow worldHigh ∧
      position + Fixture.clampMovement movement (position + movement - half)
          (position + movement + half) worldLow worldHigh ≤ worldHigh := by
  unfold Fixture.clampMovement
  split_ifs <;> constructor <;> linarith

/-- Sizes for which a movement cannot leave the world. -/
structure Contained (z : Size) : Prop where
  x : 0 < z.x ∧ z.x ≤ 50000
  y : 0 < z.y ∧ z.y ≤ 50000

theorem inWorld_move {f : Fixture} (delta : Milliseconds) (hposition : InWorld f.position)
    (hsize : Contained f.size) : InWorld (f.move delta).position := by
  by_cases hdir : f.direction = .Max
  · simpa [Fixture.move, hdir] using hposition
  · have hhalf : ∀ q : ℚ, q * (1 / 2) = q / 2 := fun q => by ring
    have hhalf' : ∀ q : ℚ, q * (1 - 1 / 2) = q / 2 := fun q => by ring
    have hx : f.size.x / 2 ≤ (15000 : ℚ) - -10000 := by linarith [hsize.x.2]
    have hy : f.size.y / 2 ≤ (15000 : ℚ) - -10000 := by linarith [hsize.y.2]
    have hx0 : 0 ≤ f.size.x / 2 := by linarith [hsize.x.1]
    have hy0 : 0 ≤ f.size.y / 2 := by linarith [hsize.y.1]
    let timeRatio : CoordinateUnit := ((delta + f.personalDeltaTime) % 2 ^ 64 : Int) / 1000
    have hclampx := clampMovement_between f.position.x
      (f.force * timeRatio * (phaseForce f.direction).column) hx0 hx
    have hclampy := clampMovement_between f.position.y
      (f.force * timeRatio * (phaseForce f.direction).row) hy0 hy
    constructor <;>
      simp only [Fixture.move, hdir, if_false, Fixture.toFixtureRectangle,
        FixtureRectangle.ofPosition, worldRect_eq, hhalf, hhalf'] <;>
      first
      | exact hclampx.1
      | exact hclampx.2
      | exact hclampy.1
      | exact hclampy.2

/-- Objects of positive size at positions inside the world. -/
def worldPlacement : Placement where
  position := InWorld
  size := Contained
  inWorld := id
  extended := fun h => ⟨h.x.1, h.y.1⟩
  move := fun delta hposition hsize => inWorld_move delta hposition hsize

/-- Objects of one chunk that lie inside the world as a whole. -/
def chunkPlacement : Placement where
  position := fun p => Fixture.Inside p ⟨100, 100⟩
  size := fun z => z = ⟨100, 100⟩
  inWorld := by
    intro p h
    have h₁ := h.left
    have h₂ := h.right
    have h₃ := h.down
    have h₄ := h.up
    norm_num at h₁ h₂ h₃ h₄
    constructor <;> linarith
  extended := by
    rintro z rfl
    norm_num
  move := by
    intro f delta hposition hsize
    by_cases hdir : f.direction = .Max
    · simpa [Fixture.move, hdir] using hposition
    · rw [← hsize]
      exact Fixture.inside_move hdir (by rw [hsize]; norm_num) (by rw [hsize]; norm_num)

/-- Such objects are nowhere on the border, so there is always a sector at their position. -/
theorem chunkPlacement_lossless : chunkPlacement.Lossless := by
  intro p h hinvalid
  have hright := h.right
  have hup := h.up
  norm_num at hright hup
  rcases getSectorByPosition_spec (chunkPlacement.inWorld h) with ⟨_, hborder | hborder⟩ | hin
  · linarith
  · linarith
  · have hlt := hin.lt
    rw [hinvalid] at hlt
    exact absurd hlt (by decide)

end Game
end SeamlessServer
