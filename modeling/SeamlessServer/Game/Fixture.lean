import SeamlessServer.Game.SectorGrid
import SeamlessServer.Utility.Sampling

/-!
# Game.Fixture — objects and their movement

`common/game/coordinate/Fixture.h`.  A fixture is one copy of an object in one sector: either the
copy that owns the object, or an observing copy.
-/

namespace SeamlessServer
namespace Game

open Utility

/-- `FixtureRectangleOverlap`: closed rectangles, degenerate ones never overlap. -/
def fixtureRectangleOverlap (r₁ r₂ : FixtureRectangle) : Bool :=
  if r₁.up = r₁.down ∨ r₁.left = r₁.right ∨ r₂.up = r₂.down ∨ r₂.left = r₂.right then
    false
  else if r₁.left > r₂.right ∨ r₂.left > r₁.right then
    false
  else if r₁.down > r₂.up ∨ r₂.down > r₁.up then
    false
  else
    true

/-- One rectangle lies inside another. -/
structure FixtureRectangle.Within (r outer : FixtureRectangle) : Prop where
  left : outer.left ≤ r.left
  right : r.right ≤ outer.right
  down : outer.down ≤ r.down
  up : r.up ≤ outer.up

/-- `Fixture`; `user_data` is never read. -/
structure Fixture where
  id : Nat
  position : Vector2
  size : Size
  force : CoordinateUnit := forceConstant
  direction : Direction := .Up
  location : FixtureLocation := .In
  isObservingFixture : Bool := false
  phase : Direction := .Max
  sectorId : Nat
  lastTransformTime : Int := 0
  personalDeltaTime : Nat := 0
  deriving DecidableEq

namespace Fixture

def toFixtureRectangle (f : Fixture) : FixtureRectangle :=
  FixtureRectangle.ofPosition f.position f.size (1 / 2)

theorem toFixtureRectangle_eq (f : Fixture) :
    f.toFixtureRectangle =
      ⟨f.position.y + f.size.y / 2, f.position.y - f.size.y / 2, f.position.x - f.size.x / 2,
        f.position.x + f.size.x / 2⟩ := by
  simp only [toFixtureRectangle, FixtureRectangle.ofPosition, FixtureRectangle.mk.injEq]
  refine ⟨?_, ?_, ?_, ?_⟩ <;> ring

/-- The correction of a movement along one axis that keeps `[low, high]` inside
`[worldLow, worldHigh]`: first against the low border, then against the high one. -/
def clampMovement (movement low high worldLow worldHigh : CoordinateUnit) : CoordinateUnit :=
  let movement₁ := if worldLow > low then movement + (worldLow - low) else movement
  if worldHigh < high then movement₁ - (high - worldHigh) else movement₁

/-- `Fixture::Move`.  The sum of `delta_time` and `personal_delta_time` is taken in `uint64_t`. -/
def move (f : Fixture) (deltaTime : Milliseconds) : Fixture :=
  if f.direction = .Max then
    f
  else
    let timeRatio : CoordinateUnit :=
      ((deltaTime + f.personalDeltaTime) % 2 ^ 64 : Int) / 1000
    let x := f.force * timeRatio * (phaseForce f.direction).column
    let y := f.force * timeRatio * (phaseForce f.direction).row
    let after := toFixtureRectangle { f with position := ⟨f.position.x + x, f.position.y + y⟩ }
    { f with
      position :=
        ⟨f.position.x + clampMovement x after.left after.right worldRect.left worldRect.right,
          f.position.y + clampMovement y after.down after.up worldRect.down worldRect.up⟩
      personalDeltaTime := 0 }

/-! ## What a move does not touch -/

section Frame

variable (f : Fixture) (delta : Milliseconds)

@[simp] theorem move_id : (f.move delta).id = f.id := by
  by_cases h : f.direction = .Max <;> simp [move, h]

@[simp] theorem move_size : (f.move delta).size = f.size := by
  by_cases h : f.direction = .Max <;> simp [move, h]

@[simp] theorem move_location : (f.move delta).location = f.location := by
  by_cases h : f.direction = .Max <;> simp [move, h]

@[simp] theorem move_phase : (f.move delta).phase = f.phase := by
  by_cases h : f.direction = .Max <;> simp [move, h]

@[simp] theorem move_isObservingFixture :
    (f.move delta).isObservingFixture = f.isObservingFixture := by
  by_cases h : f.direction = .Max <;> simp [move, h]

@[simp] theorem move_sectorId : (f.move delta).sectorId = f.sectorId := by
  by_cases h : f.direction = .Max <;> simp [move, h]

@[simp] theorem move_lastTransformTime :
    (f.move delta).lastTransformTime = f.lastTransformTime := by
  by_cases h : f.direction = .Max <;> simp [move, h]

end Frame

/-! ## Staying inside the world -/

/-- The corrected end of a movement along one axis. -/
theorem clampMovement_spec (position movement : CoordinateUnit)
    {half worldLow worldHigh : CoordinateUnit} (hfit : half + half ≤ worldHigh - worldLow) :
    worldLow + half ≤
        position + clampMovement movement (position + movement - half) (position + movement + half)
          worldLow worldHigh ∧
      position + clampMovement movement (position + movement - half) (position + movement + half)
          worldLow worldHigh ≤ worldHigh - half := by
  unfold clampMovement
  -- if both borders were crossed the fixture would be larger than the world
  split_ifs <;> constructor <;> linarith

/-- The rectangle of the fixture lies inside the world. -/
structure Inside (position : Vector2) (size : Size) : Prop where
  left : -10000 + size.x / 2 ≤ position.x
  right : position.x ≤ 15000 - size.x / 2
  down : -10000 + size.y / 2 ≤ position.y
  up : position.y ≤ 15000 - size.y / 2

theorem within_worldRect_iff (f : Fixture) :
    f.toFixtureRectangle.Within worldRect ↔ Inside f.position f.size := by
  rw [toFixtureRectangle_eq, worldRect_eq]
  constructor
  · rintro ⟨h₁, h₂, h₃, h₄⟩
    constructor <;> linarith
  · rintro ⟨h₁, h₂, h₃, h₄⟩
    constructor <;> simp only <;> linarith

/-- A movement in any direction ends inside the world, wherever it starts. -/
theorem inside_move {f : Fixture} {delta : Milliseconds} (hdir : f.direction ≠ .Max)
    (hx : f.size.x ≤ 25000) (hy : f.size.y ≤ 25000) : Inside (f.move delta).position f.size := by
  have hhalf : ∀ q : ℚ, q * (1 / 2) = q / 2 := fun q => by ring
  have hhalf' : ∀ q : ℚ, q * (1 - 1 / 2) = q / 2 := fun q => by ring
  have hx' : f.size.x / 2 + f.size.x / 2 ≤ (15000 : ℚ) - -10000 := by linarith
  have hy' : f.size.y / 2 + f.size.y / 2 ≤ (15000 : ℚ) - -10000 := by linarith
  let timeRatio : CoordinateUnit := ((delta + f.personalDeltaTime) % 2 ^ 64 : Int) / 1000
  have hclampx :=
    clampMovement_spec f.position.x (f.force * timeRatio * (phaseForce f.direction).column) hx'
  have hclampy :=
    clampMovement_spec f.position.y (f.force * timeRatio * (phaseForce f.direction).row) hy'
  constructor <;>
    simp only [move, hdir, if_false, toFixtureRectangle, FixtureRectangle.ofPosition, worldRect_eq,
      hhalf, hhalf'] <;>
    first
    | exact hclampx.1
    | exact hclampx.2
    | exact hclampy.1
    | exact hclampy.2

end Fixture

end Game
end SeamlessServer
