import SeamlessServer.Game.Geometry

/-!
# Game.SectorLookup — sectors by position and by rectangle

`GetSectorByPosition` shifts a position into the positive quadrant, divides by the size of a sector
and truncates; `GetSectorFixtureRectangle` counts sectors from the centre.  Truncation is toward
zero, so that the quotients between `-1` and `0`, just outside the left and the lower border of the
world, count as the first column and the last row.

* `lookup_iff`: the sector that is looked up is the one whose rectangle contains the position,
  unless the position lies in this fringe;
* `inverts_iff`: the lookup inverts the rectangles at a position if and only if it is not in the
  fringe.
-/

namespace SeamlessServer
namespace Game

/-- The position lies in the rectangle, its upper and its right border left out. -/
structure FixtureRectangle.Contains (r : FixtureRectangle) (position : Vector2) : Prop where
  left : r.left ≤ position.x
  right : position.x < r.right
  down : r.down ≤ position.y
  up : position.y < r.up

/-- What `GetSectorByPosition` finds at a position are the rectangles around it. -/
structure Inverts (position : Vector2) : Prop where
  sector : ∀ s < sectorCount,
    getSectorByPosition position = s ↔ (getSectorFixtureRectangle s).Contains position
  invalid : getSectorByPosition position = invalidSector ↔
    ∀ s < sectorCount, ¬ (getSectorFixtureRectangle s).Contains position

/-- To the left of the world or below it by less than the size of a sector, and not above it or to
its right. -/
structure Fringe (position : Vector2) : Prop where
  left : worldRect.left - sectorSize.x < position.x
  right : position.x < worldRect.right
  down : worldRect.down - sectorSize.y < position.y
  up : position.y < worldRect.up
  outside : position.x < worldRect.left ∨ position.y < worldRect.down

/-! ## Truncation -/

theorem truncate_of_neg {q : ℚ} (h : q < 0) : truncate q = ⌈q⌉ := by
  rw [truncate, if_pos h, Int.floor_neg, neg_neg]

theorem truncate_nonneg_iff {q : ℚ} : 0 ≤ truncate q ↔ -1 < q := by
  by_cases h : q < 0
  · have hceil : (0 : Int) ≤ ⌈q⌉ ↔ (-1 : Int) < ⌈q⌉ := by omega
    rw [truncate_of_neg h, hceil, Int.lt_ceil, Int.cast_neg, Int.cast_one]
  · have hnonneg : 0 ≤ q := not_lt.1 h
    rw [truncate_of_nonneg hnonneg]
    exact iff_of_true (Int.floor_nonneg.2 hnonneg) (by linarith)

theorem truncate_lt_iff {q : ℚ} {n : Int} (hn : 0 < n) : truncate q < n ↔ q < n := by
  by_cases h : q < 0
  · have hpos : (0 : ℚ) < n := by exact_mod_cast hn
    rw [truncate_of_neg h]
    refine iff_of_true ?_ (by linarith)
    exact lt_of_le_of_lt (Int.ceil_le.2 (by exact_mod_cast h.le)) hn
  · rw [truncate_of_nonneg (not_lt.1 h), Int.floor_lt]

/-! ## Columns and rows -/

section Lookup

variable {s : Nat} {position : Vector2}

/-- The quotients that `GetSectorByPosition` truncates. -/
def columnRatio (position : Vector2) : ℚ := (position.x + 10000) / 5000

def rowRatio (position : Vector2) : ℚ := (position.y + 10000) / 5000

/-- Both quotients lead to the grid. -/
def OnGrid (position : Vector2) : Prop :=
  (-1 < columnRatio position ∧ columnRatio position < 5) ∧
    -1 < rowRatio position ∧ rowRatio position < 5

theorem onGrid_iff :
    OnGrid position ↔
      (0 ≤ truncate (columnRatio position) ∧ truncate (columnRatio position) < 5) ∧
        0 ≤ truncate (rowRatio position) ∧ truncate (rowRatio position) < 5 := by
  simp only [OnGrid, truncate_nonneg_iff, truncate_lt_iff (n := 5) (by omega)]
  norm_num

theorem lookup_of_onGrid (h : OnGrid position) :
    getSectorByPosition position =
      ((4 - truncate (rowRatio position)) * 5 + truncate (columnRatio position)).toNat := by
  obtain ⟨⟨hc, hc'⟩, hr, hr'⟩ := onGrid_iff.1 h
  have heq := getSectorByPosition_eq position
  unfold columnRatio rowRatio at *
  rw [heq]
  dsimp only
  rw [if_neg (by omega), sectorGridAt_sectorId (by omega) (by omega) hc hc']
  congr 1
  ring

theorem lookup_of_not_onGrid (h : ¬ OnGrid position) :
    getSectorByPosition position = invalidSector := by
  rw [onGrid_iff] at h
  have heq := getSectorByPosition_eq position
  unfold columnRatio rowRatio at *
  rw [heq]
  dsimp only
  rw [if_pos (by omega)]

theorem lookup_lt_of_onGrid (h : OnGrid position) : getSectorByPosition position < sectorCount := by
  obtain ⟨⟨hc, hc'⟩, hr, hr'⟩ := onGrid_iff.1 h
  rw [lookup_of_onGrid h]
  simp only [sectorCount]
  omega

/-- The column and the row that are looked up. -/
theorem lookup_iff (hs : s < sectorCount) :
    getSectorByPosition position = s ↔
      truncate (columnRatio position) = (s % 5 : Nat) ∧
        truncate (rowRatio position) = 4 - (s / 5 : Nat) := by
  simp only [sectorCount] at hs
  by_cases h : OnGrid position
  · obtain ⟨⟨hc, hc'⟩, hr, hr'⟩ := onGrid_iff.1 h
    rw [lookup_of_onGrid h]
    omega
  · -- `INVALID_SECTOR` is no sector, and no sector has such a column and row
    have hgrid := fun hin => h (onGrid_iff.2 hin)
    rw [lookup_of_not_onGrid h]
    simp only [invalidSector]
    constructor
    · intro heq
      omega
    · rintro ⟨hc, hr⟩
      exact absurd ⟨⟨by omega, by omega⟩, by omega, by omega⟩ hgrid

/-- The column and the row whose rectangle the position lies in. -/
theorem contains_iff (hs : s < sectorCount) :
    (getSectorFixtureRectangle s).Contains position ↔
      ⌊columnRatio position⌋ = (s % 5 : Nat) ∧ ⌊rowRatio position⌋ = 4 - ((s / 5 : Nat) : Int) := by
  have hfive : (0 : ℚ) < 5000 := by norm_num
  rw [Int.floor_eq_iff, Int.floor_eq_iff, columnRatio, rowRatio, le_div_iff₀ hfive,
    div_lt_iff₀ hfive, le_div_iff₀ hfive, div_lt_iff₀ hfive, getSectorFixtureRectangle_eq hs]
  simp only [Int.cast_sub, Int.cast_natCast, Int.cast_ofNat]
  constructor
  · rintro ⟨h₁, h₂, h₃, h₄⟩
    exact ⟨⟨by linarith, by linarith⟩, by linarith, by linarith⟩
  · rintro ⟨⟨h₁, h₂⟩, h₃, h₄⟩
    constructor <;> simp only <;> linarith

/-- Where both quotients are not negative, truncation is the floor. -/
theorem contains_iff_lookup (hc : 0 ≤ columnRatio position) (hr : 0 ≤ rowRatio position)
    (hs : s < sectorCount) :
    (getSectorFixtureRectangle s).Contains position ↔ getSectorByPosition position = s := by
  rw [contains_iff hs, lookup_iff hs, truncate_of_nonneg hc, truncate_of_nonneg hr]

theorem nonneg_of_contains (hs : s < sectorCount)
    (h : (getSectorFixtureRectangle s).Contains position) :
    0 ≤ columnRatio position ∧ 0 ≤ rowRatio position := by
  obtain ⟨hc, hr⟩ := (contains_iff hs).1 h
  simp only [sectorCount] at hs
  exact ⟨Int.floor_nonneg.1 (by omega), Int.floor_nonneg.1 (by omega)⟩

theorem fringe_iff :
    Fringe position ↔ OnGrid position ∧ (columnRatio position < 0 ∨ rowRatio position < 0) := by
  have hfive : (0 : ℚ) < 5000 := by norm_num
  have hsize : sectorSize = ⟨5000, 5000⟩ := by norm_num [sectorSize, chunkSize]
  simp only [OnGrid, columnRatio, rowRatio, lt_div_iff₀ hfive, div_lt_iff₀ hfive]
  constructor
  · rintro ⟨h₁, h₂, h₃, h₄, h₅⟩
    simp only [worldRect_eq, hsize] at h₁ h₂ h₃ h₄ h₅
    refine ⟨⟨⟨by linarith, by linarith⟩, by linarith, by linarith⟩, ?_⟩
    exact h₅.imp (fun h => by linarith) (fun h => by linarith)
  · rintro ⟨⟨⟨h₁, h₂⟩, h₃, h₄⟩, h₅⟩
    constructor <;> simp only [worldRect_eq, hsize] <;> try linarith
    exact h₅.imp (fun h => by linarith) (fun h => by linarith)

/-- Outside the fringe the lookup finds the rectangle around the position. -/
theorem inverts_of_not_fringe (h : ¬ Fringe position) : Inverts position := by
  have hsector : ∀ s < sectorCount,
      getSectorByPosition position = s ↔ (getSectorFixtureRectangle s).Contains position := by
    intro s hs
    constructor
    · intro heq
      have hgrid : OnGrid position := by
        by_contra hnot
        rw [lookup_of_not_onGrid hnot] at heq
        simp only [invalidSector, sectorCount] at heq hs
        omega
      -- a sector is found, so outside the fringe no quotient is negative
      have hnonneg : ¬ (columnRatio position < 0 ∨ rowRatio position < 0) := fun hneg =>
        h (fringe_iff.2 ⟨hgrid, hneg⟩)
      push Not at hnonneg
      exact (contains_iff_lookup hnonneg.1 hnonneg.2 hs).2 heq
    · intro hin
      obtain ⟨hc, hr⟩ := nonneg_of_contains hs hin
      exact (contains_iff_lookup hc hr hs).1 hin
  refine ⟨hsector, ?_⟩
  constructor
  · intro heq s hs hin
    have hfound := (hsector s hs).2 hin
    rw [heq] at hfound
    simp only [invalidSector, sectorCount] at hfound hs
    omega
  · intro hnone
    by_contra hvalid
    have hgrid : OnGrid position := by
      by_contra hnot
      exact hvalid (lookup_of_not_onGrid hnot)
    have hlt := lookup_lt_of_onGrid hgrid
    exact hnone _ hlt ((hsector _ hlt).1 rfl)

/-- In the fringe the lookup finds a sector although the position is outside the world. -/
theorem not_inverts_of_fringe (h : Fringe position) : ¬ Inverts position := by
  intro hinverts
  obtain ⟨hgrid, hneg⟩ := fringe_iff.1 h
  have hlt := lookup_lt_of_onGrid hgrid
  -- in a rectangle both quotients would not be negative
  obtain ⟨hc, hr⟩ := nonneg_of_contains hlt ((hinverts.sector _ hlt).1 rfl)
  rcases hneg with hneg | hneg <;> linarith

end Lookup

/-- `GetSectorByPosition` inverts the rectangles of the sectors exactly outside the fringe. -/
theorem inverts_iff (position : Vector2) : Inverts position ↔ ¬ Fringe position :=
  ⟨fun hinverts hfringe => not_inverts_of_fringe hfringe hinverts, inverts_of_not_fringe⟩

/-- To the left of the world, the first column is found. -/
theorem left_of_world_found :
    getSectorByPosition ⟨-12000, 0⟩ = 10 ∧ ¬ Inverts ⟨-12000, 0⟩ := by
  have hfound : getSectorByPosition ⟨-12000, 0⟩ = 10 := by decide +kernel
  refine ⟨hfound, fun hinverts => ?_⟩
  have hleft := ((hinverts.sector 10 (by decide)).1 hfound).left
  revert hleft
  decide +kernel

end Game
end SeamlessServer
