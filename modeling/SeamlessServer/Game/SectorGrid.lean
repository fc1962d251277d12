import SeamlessServer.Game.Base

/-!
# Game.SectorGrid — positions, sectors and neighbours

`common/game/coordinate/SectorGrid.h`.  The sectors form a grid of five by five; a *phase* is the
direction in which an object leans inside its sector, and `getNearSectors` lists the sectors that
observe an object with that phase.
-/

namespace SeamlessServer
namespace Game

/-- `GetSectorFixtureRectangle`. -/
def getSectorFixtureRectangle (sectorId : Nat) : FixtureRectangle :=
  let index := (sectorInfo sectorId).gridIndex
  FixtureRectangle.ofPosition
    ⟨(index.column - centerSector.gridIndex.column : Int) * sectorSize.x,
      (centerSector.gridIndex.row - index.row : Int) * sectorSize.y⟩
    sectorSize 0

/-- `GetSectorByPosition`. -/
def getSectorByPosition (position : Vector2) : Nat :=
  let x := position.x + centerSector.gridIndex.column * sectorSize.x
  let y := position.y + centerSector.gridIndex.row * sectorSize.y
  let row := sectorGridHeight - truncate (y / sectorSize.y) - 1
  let column := truncate (x / sectorSize.x)
  if row ≥ sectorGridHeight ∨ row < 0 ∨ column ≥ sectorGridWidth ∨ column < 0 then
    invalidSector
  else
    (sectorGridAt row column).sectorId

/-- `GetNextSector`. -/
def getNextSector (baseSectorId : Nat) (direction : Direction) : Nat :=
  let index := (sectorInfo baseSectorId).gridIndex
  let row := index.row - (phaseForce direction).row
  let column := index.column + (phaseForce direction).column
  if row < 0 ∨ row ≥ sectorGridHeight ∨ column < 0 ∨ column ≥ sectorGridWidth then
    invalidSector
  else
    (sectorGridAt row column).sectorId

/-- The valid entries of `GetNearSectors`, in order. -/
def nearSectors (baseSectorId : Nat) (direction : Direction) : List Nat :=
  ((sectorNearDirectionGrid direction).filter (· ≠ .Max)).map (getNextSector baseSectorId)
    |>.filter (· ≠ invalidSector)

/-- `GetNearSectors`: the array of three, filled from the front. -/
def getNearSectors (baseSectorId : Nat) (direction : Direction) : List Nat :=
  let sectors := nearSectors baseSectorId direction
  sectors ++ List.replicate (3 - sectors.length) invalidSector

/-- `IsNearPhase`.  The entry `Direction::Max` of a row of the table is looked up like any other
and yields the sector itself. -/
def isNearPhase (originSectorId : Nat) (originPhase : Direction) (destSectorId : Nat)
    (destPhase : Direction) : Bool :=
  (sectorNearDirectionGrid originPhase).any
      (fun phase => getNextSector originSectorId phase == destSectorId) &&
    (sectorNearDirectionGrid destPhase).any
      (fun phase => getNextSector destSectorId phase == originSectorId)

def worldRect : FixtureRectangle :=
  FixtureRectangle.ofPosition (getSectorFixtureRectangle centerSector.sectorId).center
    ⟨sectorSize.x * sectorGridWidth, sectorSize.y * sectorGridWidth⟩ (1 / 2)

/-- The number of sectors of the grid. -/
def sectorCount : Nat := 25

/-! ## Closed forms -/

theorem worldRect_eq : worldRect = ⟨15000, -10000, -10000, 15000⟩ := by
  decide +kernel

/-- The rectangle of a sector by its row and column. -/
theorem getSectorFixtureRectangle_eq {s : Nat} (hs : s < sectorCount) :
    getSectorFixtureRectangle s =
      ⟨(3 - (s / 5 : Nat)) * 5000, (2 - (s / 5 : Nat)) * 5000,
        ((s % 5 : Nat) - 2) * 5000, ((s % 5 : Nat) - 1) * 5000⟩ := by
  have hall : ∀ s < sectorCount, getSectorFixtureRectangle s =
      ⟨(3 - (s / 5 : Nat)) * 5000, (2 - (s / 5 : Nat)) * 5000,
        ((s % 5 : Nat) - 2) * 5000, ((s % 5 : Nat) - 1) * 5000⟩ := by
    decide +kernel
  exact hall s hs

/-- The sectors that observe a phase: the box spanned by the sector and its neighbour in that
direction, the sector itself left out. -/
theorem mem_nearSectors {s x : Nat} {p : Direction} (hs : s < sectorCount) :
    x ∈ nearSectors s p ↔
      x < sectorCount ∧ x ≠ s ∧
        (((x / 5 : Nat) : Int) = (s / 5 : Nat) ∨
          ((x / 5 : Nat) : Int) = (s / 5 : Nat) - (phaseForce p).row) ∧
        (((x % 5 : Nat) : Int) = (s % 5 : Nat) ∨
          ((x % 5 : Nat) : Int) = (s % 5 : Nat) + (phaseForce p).column) := by
  -- the neighbours on the one hand, the sectors of the box on the other
  have hnear : ∀ s < sectorCount, ∀ p, ∀ x ∈ nearSectors s p, x < sectorCount ∧ x ≠ s ∧
      (((x / 5 : Nat) : Int) = (s / 5 : Nat) ∨
        ((x / 5 : Nat) : Int) = (s / 5 : Nat) - (phaseForce p).row) ∧
      (((x % 5 : Nat) : Int) = (s % 5 : Nat) ∨
        ((x % 5 : Nat) : Int) = (s % 5 : Nat) + (phaseForce p).column) := by
    decide +kernel
  have hbox : ∀ s < sectorCount, ∀ p, ∀ x < sectorCount, (x ≠ s ∧
      (((x / 5 : Nat) : Int) = (s / 5 : Nat) ∨
        ((x / 5 : Nat) : Int) = (s / 5 : Nat) - (phaseForce p).row) ∧
      (((x % 5 : Nat) : Int) = (s % 5 : Nat) ∨
        ((x % 5 : Nat) : Int) = (s % 5 : Nat) + (phaseForce p).column)) → x ∈ nearSectors s p := by
    decide +kernel
  constructor
  · intro hx
    exact hnear s hs p x hx
  · rintro ⟨hlt, hx⟩
    exact hbox s hs p x hlt hx

theorem nearSectors_max (s : Nat) : nearSectors s .Max = [] := rfl

theorem nodup_nearSectors {s : Nat} (hs : s < sectorCount) (p : Direction) :
    (nearSectors s p).Nodup := by
  have hall : ∀ s < sectorCount, ∀ p, (nearSectors s p).Nodup := by
    decide +kernel
  exact hall s hs p

theorem lt_of_mem_nearSectors {s x : Nat} {p : Direction} (hs : s < sectorCount)
    (h : x ∈ nearSectors s p) : x < sectorCount :=
  ((mem_nearSectors hs).1 h).1

theorem ne_of_mem_nearSectors {s x : Nat} {p : Direction} (hs : s < sectorCount)
    (h : x ∈ nearSectors s p) : x ≠ s :=
  ((mem_nearSectors hs).1 h).2.1

/-- `IsNearPhase` on two different sectors: each observes the other. -/
theorem isNearPhase_iff {s d : Nat} {p q : Direction} (hs : s < sectorCount) (hd : d < sectorCount)
    (hne : s ≠ d) : isNearPhase s p d q = true ↔ d ∈ nearSectors s p ∧ s ∈ nearSectors d q := by
  -- the entry `Direction::Max` leads to the sector itself, the others to its neighbours
  have hself : ∀ s < sectorCount, getNextSector s .Max = s := by
    decide +kernel
  have hvalid : ∀ s < sectorCount, s ≠ invalidSector := by
    decide
  have hall : ∀ s < sectorCount, ∀ p, ∀ d < sectorCount, s ≠ d →
      ((sectorNearDirectionGrid p).any (fun phase => getNextSector s phase == d) = true ↔
        d ∈ nearSectors s p) := by
    intro s hs p d hd hne
    simp only [nearSectors, List.any_eq_true, beq_iff_eq, List.mem_filter, List.mem_map,
      decide_eq_true_eq]
    constructor
    · rintro ⟨phase, hphase, rfl⟩
      refine ⟨⟨phase, ⟨hphase, ?_⟩, rfl⟩, hvalid _ hd⟩
      rintro rfl
      exact hne (hself s hs).symm
    · rintro ⟨⟨phase, ⟨hphase, _⟩, rfl⟩, _⟩
      exact ⟨phase, hphase, rfl⟩
  simp only [isNearPhase, Bool.and_eq_true, hall s hs p d hd hne, hall d hd q s hs hne.symm]

end Game
end SeamlessServer
