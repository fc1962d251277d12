import Mathlib.Data.Rat.Floor
import Mathlib.Data.Fintype.OfMap

/-!
# Game.Base — coordinates, directions and the sector grid tables

The data of `common/game/coordinate/Base.h`.  `CoordinateUnit` is exact: the source computes in
`float`, the development in `ℚ`.  Identifiers are natural numbers; `invalidSector` is the
all-ones `uint64_t` the source uses as "no sector".
-/

namespace SeamlessServer
namespace Game

/-! ## Coordinates -/

abbrev CoordinateUnit := ℚ

structure Vector2 where
  x : CoordinateUnit
  y : CoordinateUnit
  deriving DecidableEq

abbrev Size := Vector2

structure FixtureRectangle where
  up : CoordinateUnit
  down : CoordinateUnit
  left : CoordinateUnit
  right : CoordinateUnit
  deriving DecidableEq

/-- The rectangle of a given size around an anchor (`0` is the left lower corner, `1/2` the
center). -/
def FixtureRectangle.ofPosition (position : Vector2) (size : Size)
    (anchorPoint : CoordinateUnit) : FixtureRectangle :=
  { up := position.y + size.y * (1 - anchorPoint)
    down := position.y - size.y * anchorPoint
    left := position.x - size.x * anchorPoint
    right := position.x + size.x * (1 - anchorPoint) }

def FixtureRectangle.leftDown (r : FixtureRectangle) : Vector2 :=
  ⟨r.left, r.down⟩

def FixtureRectangle.center (r : FixtureRectangle) : Vector2 :=
  ⟨r.left + (r.right - r.left) / 2, r.down + (r.up - r.down) / 2⟩

structure Indexer2 where
  row : Int
  column : Int
  deriving DecidableEq

/-! ## Enumerations -/

inductive Direction
  | Up
  | UpRight
  | Right
  | DownRight
  | Down
  | DownLeft
  | Left
  | UpLeft
  | Max
  deriving DecidableEq, Repr

instance : Fintype Direction :=
  Fintype.ofList
    [.Up, .UpRight, .Right, .DownRight, .Down, .DownLeft, .Left, .UpLeft, .Max]
    (by intro d; cases d <;> simp)

inductive FixtureLocation
  | In
  | Gray
  | Leave
  | Max
  deriving DecidableEq, Repr

/-! ## Constants -/

/-- `INVALID_SECTOR = UINT64_MAX`. -/
def invalidSector : Nat := 2 ^ 64 - 1

structure SectorInfo where
  sectorId : Nat := invalidSector
  gridIndex : Indexer2 := ⟨0, 0⟩
  deriving DecidableEq

def chunkSize : CoordinateUnit := 100

def sectorSize : Size := ⟨50 * chunkSize, 50 * chunkSize⟩

def sectorGrayZoneChunk : CoordinateUnit := 10

def forceConstant : CoordinateUnit := 500

def sectorGridWidth : Int := 5

def sectorGridHeight : Int := 5

/-! ## Tables -/

def sectorGrid : List (List SectorInfo) :=
  [[⟨0, ⟨0, 0⟩⟩, ⟨1, ⟨0, 1⟩⟩, ⟨2, ⟨0, 2⟩⟩, ⟨3, ⟨0, 3⟩⟩, ⟨4, ⟨0, 4⟩⟩],
   [⟨5, ⟨1, 0⟩⟩, ⟨6, ⟨1, 1⟩⟩, ⟨7, ⟨1, 2⟩⟩, ⟨8, ⟨1, 3⟩⟩, ⟨9, ⟨1, 4⟩⟩],
   [⟨10, ⟨2, 0⟩⟩, ⟨11, ⟨2, 1⟩⟩, ⟨12, ⟨2, 2⟩⟩, ⟨13, ⟨2, 3⟩⟩, ⟨14, ⟨2, 4⟩⟩],
   [⟨15, ⟨3, 0⟩⟩, ⟨16, ⟨3, 1⟩⟩, ⟨17, ⟨3, 2⟩⟩, ⟨18, ⟨3, 3⟩⟩, ⟨19, ⟨3, 4⟩⟩],
   [⟨20, ⟨4, 0⟩⟩, ⟨21, ⟨4, 1⟩⟩, ⟨22, ⟨4, 2⟩⟩, ⟨23, ⟨4, 3⟩⟩, ⟨24, ⟨4, 4⟩⟩]]

def sectorGridList : List SectorInfo := sectorGrid.flatten

/-- Array access `SectorGridList[sector_id]`; the source never passes an id off the grid. -/
def sectorInfo (sectorId : Nat) : SectorInfo :=
  sectorGridList.getD sectorId {}

/-- Array access `SectorGrid[row][column]`, after the caller's range check. -/
def sectorGridAt (row column : Int) : SectorInfo :=
  (sectorGrid.getD row.toNat []).getD column.toNat {}

def centerSector : SectorInfo := sectorGridAt 2 2

/-- `SectorNearDirectionGrid`: the directions in which a phase has neighbours. -/
def sectorNearDirectionGrid : Direction → List Direction
  | .Up => [.Max, .Up, .Max]
  | .UpRight => [.Up, .UpRight, .Right]
  | .Right => [.Max, .Right, .Max]
  | .DownRight => [.Right, .DownRight, .Down]
  | .Down => [.Max, .Down, .Max]
  | .DownLeft => [.Down, .DownLeft, .Left]
  | .Left => [.Max, .Left, .Max]
  | .UpLeft => [.Left, .UpLeft, .Up]
  | .Max => [.Max, .Max, .Max]

def phaseForce : Direction → Indexer2
  | .Up => ⟨1, 0⟩
  | .UpRight => ⟨1, 1⟩
  | .Right => ⟨0, 1⟩
  | .DownRight => ⟨-1, 1⟩
  | .Down => ⟨-1, 0⟩
  | .DownLeft => ⟨-1, -1⟩
  | .Left => ⟨0, -1⟩
  | .UpLeft => ⟨1, -1⟩
  | .Max => ⟨0, 0⟩

def phaseGrid : List (List Direction) :=
  [[.UpLeft, .Up, .UpRight],
   [.Left, .Max, .Right],
   [.DownLeft, .Down, .DownRight]]

/-- `static_cast<int>`: truncation toward zero. -/
def truncate (q : ℚ) : Int :=
  if q < 0 then -⌊-q⌋ else ⌊q⌋

theorem truncate_of_nonneg {q : ℚ} (h : 0 ≤ q) : truncate q = ⌊q⌋ := by
  simp [truncate, not_lt.2 h]

end Game
end SeamlessServer
