import SeamlessServer.Data.UnorderedMap
import SeamlessServer.Game.Fixture

/-!
# Game.SectorSystem — the fixtures of one sector

`common/game/coordinate/SectorSystem.cpp`, up to `Update`, which calls back into the world and is
modelled there.  `World::AddSector` is the only caller of the constructor and passes the rectangle
of the sector and the constants of `Base.h`, so the geometric fields are functions of the sector
id.
-/

namespace SeamlessServer
namespace Game

open Utility

/-- `TransformCooltime`. -/
def transformCooltime : Int := 1000

/-- A sum in `int64_t`. -/
def int64 (n : Int) : Int := n.bmod (2 ^ 64)

structure SectorSystem where
  sectorId : Nat
  fixtures : UnorderedMap Nat Fixture
  currentFixtureId : Nat

namespace SectorSystem

/-- The constructor; ids start at a number made of the server and the sector. -/
def new (serverId sectorId : Nat) : SectorSystem where
  sectorId := sectorId
  fixtures := UnorderedMap.empty
  currentFixtureId :=
    (serverId * 1000000000000000 + 200000000000000 + 100000000000 * sectorId + 1) % 2 ^ 64

/-! ## Geometry -/

/-- `_base_position`. -/
def basePosition (sectorId : Nat) : Vector2 := (getSectorFixtureRectangle sectorId).leftDown

/-- `_inner_box_position`. -/
def innerBoxPosition (sectorId : Nat) : Vector2 :=
  ⟨(basePosition sectorId).x + chunkSize * sectorGrayZoneChunk,
    (basePosition sectorId).y + chunkSize * sectorGrayZoneChunk⟩

/-- `_inner_box`. -/
def innerBox : Size :=
  ⟨sectorSize.x - chunkSize * sectorGrayZoneChunk * 2,
    sectorSize.y - chunkSize * sectorGrayZoneChunk * 2⟩

/-- `_direction_ratio`. -/
def directionRatio : Size := ⟨sectorSize.x / 3, sectorSize.y / 3⟩

def calculateCurrentLocation (sectorId : Nat) (f : Fixture) : FixtureLocation :=
  if fixtureRectangleOverlap
      (FixtureRectangle.ofPosition (innerBoxPosition sectorId) innerBox 0)
      f.toFixtureRectangle then
    .In
  else if fixtureRectangleOverlap
      (FixtureRectangle.ofPosition (basePosition sectorId) sectorSize 0)
      f.toFixtureRectangle then
    .Gray
  else
    .Leave

/-- The two comparisons of `CalculateCurrentPhase` on one axis. -/
def clampRatio (ratio : CoordinateUnit) : CoordinateUnit :=
  let ratio := if ratio < 0 then 0 else ratio
  if ratio > 2 then 2 else ratio

def calculateCurrentPhase (sectorId : Nat) (f : Fixture) : Direction :=
  let x := clampRatio ((f.position.x - (basePosition sectorId).x) / directionRatio.x)
  let y := clampRatio ((f.position.y - (basePosition sectorId).y) / directionRatio.y)
  (phaseGrid.getD (2 - truncate |y|).toNat []).getD (truncate |x|).toNat .Max

/-! ## Fixtures -/

def getFixture (sector : SectorSystem) (id : Nat) : Option Fixture := sector.fixtures.find id

/-- A write through the pointer stored under a key of `_fixtures`, or a new entry. -/
def setFixture (sector : SectorSystem) (id : Nat) (f : Fixture) : SectorSystem :=
  { sector with fixtures := sector.fixtures.insert id f }

def removeFixture (sector : SectorSystem) (id : Nat) : SectorSystem :=
  { sector with fixtures := sector.fixtures.erase id }

/-- `CreateFixture(position, size)`: takes the next id; `none` is "duplicate fixture id".  The
counter advances in either case. -/
def createFixture (sector : SectorSystem) (position : Vector2) (size : Size) :
    SectorSystem × Option Fixture :=
  let id := sector.currentFixtureId
  let sector := { sector with currentFixtureId := (id + 1) % 2 ^ 64 }
  match sector.getFixture id with
  | some _ => (sector, none)
  | none =>
      let f : Fixture := { id, position, size, direction := .Max, sectorId := sector.sectorId }
      (sector.setFixture id f, some f)

end SectorSystem

end Game
end SeamlessServer
