import SeamlessServer.Game.SectorSystem

/-!
# Game.Geometry — locations and phases in closed form

The tables and comparisons of the source, reduced to arithmetic on the row and column of a sector,
and the facts on which the hand-off of an object between two sectors rests:

* an object that has left a sector has a phase there, and the sector at its position is another
  one, at which it has not left (`HandOff`);
* if the two sectors observe each other, the observers of the object stay the same up to exchanging
  the two (`HandOff.near`); if not, the old sector is not among the new observers
  (`HandOff.far`).
-/

namespace SeamlessServer
namespace Game

open SectorSystem

/-! ## Rows, columns and thirds -/

/-- The left border of a sector. -/
def leftOf (s : Nat) : ℚ := (((s % 5 : Nat) : Int) - 2 : Int) * 5000

/-- The lower border of a sector. -/
def downOf (s : Nat) : ℚ := (2 - ((s / 5 : Nat) : Int) : Int) * 5000

theorem basePosition_eq {s : Nat} (hs : s < sectorCount) :
    basePosition s = ⟨leftOf s, downOf s⟩ := by
  simp only [basePosition, getSectorFixtureRectangle_eq hs, FixtureRectangle.leftDown, leftOf,
    downOf]
  push_cast
  rfl

/-- The third of a sector in which an offset from its border lies, as a step of the phase. -/
def third (offset : ℚ) : Int :=
  if offset < 5000 / 3 then -1 else if offset < 10000 / 3 then 0 else 1

theorem truncate_clampRatio (offset : ℚ) :
    truncate |clampRatio (offset / (5000 / 3))| = third offset + 1 := by
  have hscale : offset / (5000 / 3) = offset * (3 / 5000) := by ring
  have hfloor : ∀ {q : ℚ} {n : Int}, 0 ≤ q → (n : ℚ) ≤ q → q < n + 1 →
      truncate |q| = n := by
    intro q n hq hlow hhigh
    rw [abs_of_nonneg hq, truncate_of_nonneg hq]
    exact Int.floor_eq_iff.2 ⟨hlow, hhigh⟩
  unfold third clampRatio
  rw [hscale]
  -- below, inside and above the sector, then the three thirds
  by_cases hneg : offset * (3 / 5000) < 0
  · have h₁ : offset < 5000 / 3 := by linarith
    simp only [hneg, h₁, if_true]
    norm_num [truncate]
  · simp only [hneg, if_false]
    have hnonneg : 0 ≤ offset * (3 / 5000) := not_lt.1 hneg
    by_cases habove : offset * (3 / 5000) > 2
    · have h₁ : ¬ offset < 5000 / 3 := by linarith
      have h₂ : ¬ offset < 10000 / 3 := by linarith
      simp only [habove, h₁, h₂, if_true, if_false]
      norm_num [truncate]
    · simp only [habove, if_false]
      by_cases h₁ : offset < 5000 / 3
      · simp only [h₁, if_true]
        exact hfloor hnonneg (by push_cast; linarith) (by push_cast; linarith)
      · by_cases h₂ : offset < 10000 / 3
        · simp only [h₁, h₂, if_true, if_false]
          exact hfloor hnonneg (by push_cast; linarith) (by push_cast; linarith)
        · simp only [h₁, h₂, if_false]
          exact hfloor hnonneg (by push_cast; linarith) (by push_cast; linarith)

theorem third_cases (offset : ℚ) :
    (third offset = -1 ∧ offset < 5000 / 3) ∨
    (third offset = 0 ∧ 5000 / 3 ≤ offset ∧ offset < 10000 / 3) ∨
    (third offset = 1 ∧ 10000 / 3 ≤ offset) := by
  unfold third
  by_cases h₁ : offset < 5000 / 3
  · exact .inl (by simp [h₁])
  · by_cases h₂ : offset < 10000 / 3
    · exact .inr (.inl (by simp [h₁, h₂, not_lt.1 h₁]))
    · exact .inr (.inr (by simp [h₁, h₂, not_lt.1 h₂]))

/-- The phase by the thirds of the two offsets. -/
theorem phaseForce_calculateCurrentPhase {s : Nat} (hs : s < sectorCount) (f : Fixture) :
    phaseForce (calculateCurrentPhase s f) =
      ⟨third (f.position.y - downOf s), third (f.position.x - leftOf s)⟩ := by
  have hratio : directionRatio = ⟨5000 / 3, 5000 / 3⟩ := by
    norm_num [directionRatio, sectorSize, chunkSize]
  simp only [calculateCurrentPhase, hratio, basePosition_eq hs, truncate_clampRatio]
  rcases third_cases (f.position.x - leftOf s) with ⟨hx, _⟩ | ⟨hx, _⟩ | ⟨hx, _⟩ <;>
    rcases third_cases (f.position.y - downOf s) with ⟨hy, _⟩ | ⟨hy, _⟩ | ⟨hy, _⟩ <;>
    rw [hx, hy] <;> rfl

/-- A phase leads at most one row and one column away. -/
theorem phaseForce_bounds (p : Direction) :
    (-1 ≤ (phaseForce p).row ∧ (phaseForce p).row ≤ 1) ∧
      -1 ≤ (phaseForce p).column ∧ (phaseForce p).column ≤ 1 := by
  cases p <;> decide

/-! ## Locations -/

/-- Positive extent on both axes. -/
structure Extended (f : Fixture) : Prop where
  x : 0 < f.size.x
  y : 0 < f.size.y

section Location

variable {s : Nat} {f : Fixture}

/-- Proper rectangles overlap if their projections on both axes do. -/
theorem fixtureRectangleOverlap_iff {r₁ r₂ : FixtureRectangle} (hy₁ : r₁.down < r₁.up)
    (hx₁ : r₁.left < r₁.right) (hy₂ : r₂.down < r₂.up) (hx₂ : r₂.left < r₂.right) :
    fixtureRectangleOverlap r₁ r₂ = true ↔
      (r₁.left ≤ r₂.right ∧ r₂.left ≤ r₁.right) ∧ (r₁.down ≤ r₂.up ∧ r₂.down ≤ r₁.up) := by
  have hproper : ¬ (r₁.up = r₁.down ∨ r₁.left = r₁.right ∨ r₂.up = r₂.down ∨
      r₂.left = r₂.right) := by
    rintro (h | h | h | h) <;> linarith
  unfold fixtureRectangleOverlap
  rw [if_neg hproper]
  by_cases h₁ : r₁.left > r₂.right ∨ r₂.left > r₁.right
  · rw [if_pos h₁]
    refine iff_of_false Bool.false_ne_true ?_
    rintro ⟨⟨ha, hb⟩, _⟩
    rcases h₁ with h | h <;> linarith
  · rw [if_neg h₁]
    by_cases h₂ : r₁.down > r₂.up ∨ r₂.down > r₁.up
    · rw [if_pos h₂]
      refine iff_of_false Bool.false_ne_true ?_
      rintro ⟨_, ha, hb⟩
      rcases h₂ with h | h <;> linarith
    · rw [if_neg h₂]
      push Not at h₁ h₂
      exact iff_of_true rfl ⟨h₁, h₂⟩

/-- Overlap of the fixture with a box of positive size at a corner. -/
theorem overlap_iff (hf : Extended f) (corner : Vector2) (box : Size) (hx : 0 < box.x)
    (hy : 0 < box.y) :
    fixtureRectangleOverlap (FixtureRectangle.ofPosition corner box 0) f.toFixtureRectangle = true ↔
      (corner.x ≤ f.position.x + f.size.x / 2 ∧ f.position.x - f.size.x / 2 ≤ corner.x + box.x) ∧
      (corner.y ≤ f.position.y + f.size.y / 2 ∧ f.position.y - f.size.y / 2 ≤ corner.y + box.y) := by
  have hfx := hf.x
  have hfy := hf.y
  have hhalf : ∀ q : ℚ, q * (1 - 1 / 2) = q / 2 := fun q => by ring
  rw [fixtureRectangleOverlap_iff] <;>
    simp only [FixtureRectangle.ofPosition, Fixture.toFixtureRectangle, hhalf, mul_zero, sub_zero,
      mul_one, mul_one_div]
  all_goals linarith

/-- The rectangle meets that of the sector. -/
def Meets (s : Nat) (f : Fixture) : Prop :=
  (leftOf s ≤ f.position.x + f.size.x / 2 ∧ f.position.x - f.size.x / 2 ≤ leftOf s + 5000) ∧
  (downOf s ≤ f.position.y + f.size.y / 2 ∧ f.position.y - f.size.y / 2 ≤ downOf s + 5000)

theorem calculateCurrentLocation_cases (s : Nat) (f : Fixture) :
    calculateCurrentLocation s f = .In ∨ calculateCurrentLocation s f = .Gray ∨
      calculateCurrentLocation s f = .Leave := by
  unfold calculateCurrentLocation
  split_ifs <;> simp

/-- The rectangle meets the inner box of the sector. -/
def MeetsInner (s : Nat) (f : Fixture) : Prop :=
  (leftOf s + 1000 ≤ f.position.x + f.size.x / 2 ∧ f.position.x - f.size.x / 2 ≤ leftOf s + 4000) ∧
  (downOf s + 1000 ≤ f.position.y + f.size.y / 2 ∧ f.position.y - f.size.y / 2 ≤ downOf s + 4000)

theorem MeetsInner.meets (h : MeetsInner s f) : Meets s f := by
  rcases h with ⟨⟨h₁, h₂⟩, h₃, h₄⟩
  refine ⟨⟨?_, ?_⟩, ?_, ?_⟩ <;> linarith

theorem overlap_sector_iff (hs : s < sectorCount) (hf : Extended f) :
    fixtureRectangleOverlap (FixtureRectangle.ofPosition (basePosition s) sectorSize 0)
      f.toFixtureRectangle = true ↔ Meets s f := by
  have hsize : sectorSize = ⟨5000, 5000⟩ := by norm_num [sectorSize, chunkSize]
  rw [basePosition_eq hs, hsize]
  exact overlap_iff hf ⟨leftOf s, downOf s⟩ ⟨5000, 5000⟩ (by norm_num) (by norm_num)

theorem overlap_innerBox_iff (hs : s < sectorCount) (hf : Extended f) :
    fixtureRectangleOverlap (FixtureRectangle.ofPosition (innerBoxPosition s) innerBox 0)
      f.toFixtureRectangle = true ↔ MeetsInner s f := by
  have hinner : innerBox = ⟨3000, 3000⟩ := by
    norm_num [innerBox, sectorSize, chunkSize, sectorGrayZoneChunk]
  have hcorner : innerBoxPosition s = ⟨leftOf s + 1000, downOf s + 1000⟩ := by
    norm_num [innerBoxPosition, basePosition_eq hs, chunkSize, sectorGrayZoneChunk]
  have hfar : ∀ q : ℚ, q + 1000 + 3000 = q + 4000 := fun q => by ring
  rw [hcorner, hinner,
    overlap_iff hf ⟨leftOf s + 1000, downOf s + 1000⟩ ⟨3000, 3000⟩ (by norm_num) (by norm_num)]
  simp only [hfar, MeetsInner]

theorem location_eq_in_iff (hs : s < sectorCount) (hf : Extended f) :
    calculateCurrentLocation s f = .In ↔ MeetsInner s f := by
  rw [← overlap_innerBox_iff hs hf, calculateCurrentLocation]
  split_ifs <;> simp_all

theorem location_eq_leave_iff (hs : s < sectorCount) (hf : Extended f) :
    calculateCurrentLocation s f = .Leave ↔ ¬ Meets s f := by
  have hinner := overlap_innerBox_iff hs hf
  have houter := overlap_sector_iff hs hf
  unfold calculateCurrentLocation
  by_cases h₁ : MeetsInner s f
  · simp [hinner.2 h₁, h₁.meets]
  · by_cases h₂ : Meets s f
    · simp [mt hinner.1 h₁, houter.2 h₂, h₂]
    · simp [mt hinner.1 h₁, mt houter.1 h₂, h₂]

/-- Outside the inner box the phase is one of the eight directions. -/
theorem phase_ne_max (hs : s < sectorCount) (hf : Extended f)
    (h : calculateCurrentLocation s f ≠ .In) : calculateCurrentPhase s f ≠ .Max := by
  intro hmax
  have hforce := phaseForce_calculateCurrentPhase hs f
  rw [hmax] at hforce
  have hy : third (f.position.y - downOf s) = 0 := (Indexer2.mk.inj hforce).1.symm
  have hx : third (f.position.x - leftOf s) = 0 := (Indexer2.mk.inj hforce).2.symm
  have hfx := hf.x
  have hfy := hf.y
  -- the middle third lies inside the inner box
  have hmeets : MeetsInner s f := by
    rcases third_cases (f.position.x - leftOf s) with ⟨h', _⟩ | ⟨_, hx₁, hx₂⟩ | ⟨h', _⟩
    · omega
    · rcases third_cases (f.position.y - downOf s) with ⟨h', _⟩ | ⟨_, hy₁, hy₂⟩ | ⟨h', _⟩
      · omega
      · refine ⟨⟨?_, ?_⟩, ?_, ?_⟩ <;> linarith
      · omega
    · omega
  exact h ((location_eq_in_iff hs hf).2 hmeets)

end Location

/-! ## The sector at a position -/

/-- The position lies in the half-open rectangle of the sector. -/
structure InSector (d : Nat) (position : Vector2) : Prop where
  lt : d < sectorCount
  left : leftOf d ≤ position.x
  right : position.x < leftOf d + 5000
  down : downOf d ≤ position.y
  up : position.y < downOf d + 5000

/-- The position lies in the world, its borders included. -/
structure InWorld (position : Vector2) : Prop where
  left : -10000 ≤ position.x
  right : position.x ≤ 15000
  down : -10000 ≤ position.y
  up : position.y ≤ 15000

theorem sectorGridAt_sectorId {row column : Int} (hr : 0 ≤ row) (hr' : row < 5) (hc : 0 ≤ column)
    (hc' : column < 5) : (sectorGridAt row column).sectorId = (row * 5 + column).toNat := by
  have hall : ∀ r < 5, ∀ c < 5, (sectorGridAt (r : Nat) (c : Nat)).sectorId = r * 5 + c := by
    decide
  have h := hall row.toNat (by omega) column.toNat (by omega)
  rw [Int.toNat_of_nonneg hr, Int.toNat_of_nonneg hc] at h
  omega

/-- The lookup in numbers; rows are counted from the top. -/
theorem getSectorByPosition_eq (position : Vector2) :
    getSectorByPosition position =
      let c := truncate ((position.x + 10000) / 5000)
      let r := truncate ((position.y + 10000) / 5000)
      if 5 - r - 1 ≥ 5 ∨ 5 - r - 1 < 0 ∨ c ≥ 5 ∨ c < 0 then invalidSector
      else (sectorGridAt (5 - r - 1) c).sectorId := by
  have hcenter : centerSector.gridIndex = ⟨2, 2⟩ := by decide
  have hsize : sectorSize = ⟨5000, 5000⟩ := by norm_num [sectorSize, chunkSize]
  simp only [getSectorByPosition, hcenter, hsize, sectorGridHeight, sectorGridWidth]
  norm_num

/-- Inside the world, the sector at a position is found or the position is on the upper or right
border. -/
theorem getSectorByPosition_spec {position : Vector2} (h : InWorld position) :
    (getSectorByPosition position = invalidSector ∧ (position.x = 15000 ∨ position.y = 15000)) ∨
      InSector (getSectorByPosition position) position := by
  let c : Int := ⌊(position.x + 10000) / 5000⌋
  let r : Int := ⌊(position.y + 10000) / 5000⌋
  have hx : 0 ≤ (position.x + 10000) / 5000 := by
    have := h.left
    apply div_nonneg <;> linarith
  have hy : 0 ≤ (position.y + 10000) / 5000 := by
    have := h.down
    apply div_nonneg <;> linarith
  have hc₀ : 0 ≤ c := Int.floor_nonneg.2 hx
  have hr₀ : 0 ≤ r := Int.floor_nonneg.2 hy
  have hc₁ : (c : ℚ) ≤ (position.x + 10000) / 5000 := Int.floor_le _
  have hc₂ : (position.x + 10000) / 5000 < c + 1 := Int.lt_floor_add_one _
  have hr₁ : (r : ℚ) ≤ (position.y + 10000) / 5000 := Int.floor_le _
  have hr₂ : (position.y + 10000) / 5000 < r + 1 := Int.lt_floor_add_one _
  rw [le_div_iff₀ (by norm_num)] at hc₁ hr₁
  rw [div_lt_iff₀ (by norm_num)] at hc₂ hr₂
  have hget : getSectorByPosition position =
      if 5 - r - 1 ≥ 5 ∨ 5 - r - 1 < 0 ∨ c ≥ 5 ∨ c < 0 then invalidSector
      else (sectorGridAt (5 - r - 1) c).sectorId := by
    rw [getSectorByPosition_eq]
    simp only [truncate_of_nonneg hx, truncate_of_nonneg hy, c, r]
  by_cases hout : 5 - r - 1 ≥ 5 ∨ 5 - r - 1 < 0 ∨ c ≥ 5 ∨ c < 0
  · -- off the grid although inside the world: only on the upper or right border
    refine .inl ⟨by rw [hget, if_pos hout], ?_⟩
    have hright := h.right
    have hup := h.up
    rcases hout with hout | hout | hout | hout
    · omega
    · have : (5 : ℚ) ≤ r := by exact_mod_cast (by omega : (5 : Int) ≤ r)
      exact .inr (by linarith)
    · have : (5 : ℚ) ≤ c := by exact_mod_cast hout
      exact .inl (by linarith)
    · omega
  · push Not at hout
    rcases hout with ⟨_, hrow, hcol, _⟩
    have hd : getSectorByPosition position = ((4 - r) * 5 + c).toNat := by
      rw [hget, if_neg (by omega), sectorGridAt_sectorId (by omega) (by omega) hc₀ hcol]
      congr 1
      ring
    have hmod : ((((4 - r) * 5 + c).toNat % 5 : Nat) : Int) = c := by omega
    have hdiv : ((((4 - r) * 5 + c).toNat / 5 : Nat) : Int) = 4 - r := by omega
    refine .inr ?_
    rw [hd]
    refine ⟨by simp only [sectorCount]; omega, ?_, ?_, ?_, ?_⟩ <;>
      simp only [leftOf, downOf, hmod, hdiv] <;> push_cast <;> linarith

/-! ## Hand-off -/

/-- A fixture that has left the sector `s`, together with the sector `d` at its position. -/
structure HandOff (s d : Nat) (f : Fixture) : Prop where
  extended : Extended f
  source : s < sectorCount
  leave : calculateCurrentLocation s f = .Leave
  dest : InSector d f.position

namespace HandOff

variable {s d : Nat} {f : Fixture}

theorem not_meets (h : HandOff s d f) : ¬ Meets s f :=
  (location_eq_leave_iff h.source h.extended).1 h.leave

theorem meets_dest (h : HandOff s d f) : Meets d f := by
  have hx := h.extended.x
  have hy := h.extended.y
  have h₁ := h.dest.left
  have h₂ := h.dest.right
  have h₃ := h.dest.down
  have h₄ := h.dest.up
  refine ⟨⟨?_, ?_⟩, ?_, ?_⟩ <;> linarith

theorem ne (h : HandOff s d f) : d ≠ s := by
  rintro rfl
  exact h.not_meets h.meets_dest

/-- The object has not left the sector at its position. -/
theorem location_dest (h : HandOff s d f) : calculateCurrentLocation d f ≠ .Leave := by
  rw [ne_eq, location_eq_leave_iff h.dest.lt h.extended, not_not]
  exact h.meets_dest

theorem phase_source (h : HandOff s d f) : calculateCurrentPhase s f ≠ .Max := by
  apply phase_ne_max h.source h.extended
  rw [h.leave]
  decide

/-- The step of the phase at `s` along an axis, seen from the column or row of `d`. -/
theorem third_of_offset {a b : Int} {x left left' : ℚ} (hleft : left' = left + (b - a) * 5000)
    (hlow : left' ≤ x) (hhigh : x < left' + 5000) :
    (a < b → third (x - left) = 1) ∧ (b < a → third (x - left) = -1) := by
  constructor
  · intro hab
    have hab' : (a : ℚ) + 1 ≤ b := by exact_mod_cast hab
    rcases third_cases (x - left) with ⟨_, h⟩ | ⟨_, _, h⟩ | ⟨h, _⟩
    · linarith
    · linarith
    · exact h
  · intro hab
    have hab' : (b : ℚ) + 1 ≤ a := by exact_mod_cast hab
    rcases third_cases (x - left) with ⟨h, _⟩ | ⟨_, h, _⟩ | ⟨_, h⟩
    · exact h
    · linarith
    · linarith

/-- The phase at `s` along the columns points to the column of `d`. -/
theorem column (h : HandOff s d f) :
    (s % 5 < d % 5 → (phaseForce (calculateCurrentPhase s f)).column = 1) ∧
      (d % 5 < s % 5 → (phaseForce (calculateCurrentPhase s f)).column = -1) := by
  have hleft : leftOf d = leftOf s + (((d % 5 : Nat) : Int) - ((s % 5 : Nat) : Int)) * 5000 := by
    simp only [leftOf]
    push_cast
    ring
  have hthird := third_of_offset hleft h.dest.left h.dest.right
  rw [phaseForce_calculateCurrentPhase h.source]
  exact ⟨fun hlt => hthird.1 (by exact_mod_cast hlt), fun hlt => hthird.2 (by exact_mod_cast hlt)⟩

/-- The phase at `s` along the rows points to the row of `d`; rows are counted downwards. -/
theorem row (h : HandOff s d f) :
    (s / 5 < d / 5 → (phaseForce (calculateCurrentPhase s f)).row = -1) ∧
      (d / 5 < s / 5 → (phaseForce (calculateCurrentPhase s f)).row = 1) := by
  have hdown : downOf d = downOf s + (((s / 5 : Nat) : Int) - ((d / 5 : Nat) : Int)) * 5000 := by
    simp only [downOf]
    push_cast
    ring
  have hthird := third_of_offset hdown h.dest.down h.dest.up
  rw [phaseForce_calculateCurrentPhase h.source]
  exact ⟨fun hlt => hthird.2 (by exact_mod_cast hlt), fun hlt => hthird.1 (by exact_mod_cast hlt)⟩

/-- In one column the two sectors see the same third. -/
theorem column_eq (h : HandOff s d f) (hcol : s % 5 = d % 5) :
    (phaseForce (calculateCurrentPhase s f)).column =
      (phaseForce (calculateCurrentPhase d f)).column := by
  rw [phaseForce_calculateCurrentPhase h.source, phaseForce_calculateCurrentPhase h.dest.lt]
  simp only [leftOf, hcol]

theorem row_eq (h : HandOff s d f) (hrow : s / 5 = d / 5) :
    (phaseForce (calculateCurrentPhase s f)).row =
      (phaseForce (calculateCurrentPhase d f)).row := by
  rw [phaseForce_calculateCurrentPhase h.source, phaseForce_calculateCurrentPhase h.dest.lt]
  simp only [downOf, hrow]

/-- The phase the new owner records: none inside the inner box. -/
def destPhase (d : Nat) (f : Fixture) : Direction :=
  if calculateCurrentLocation d f = .In then .Max else calculateCurrentPhase d f

/-- If the new owner's phase has an observer, it is the computed phase. -/
theorem destPhase_eq_of_mem {d x : Nat} {f : Fixture} (hmem : x ∈ nearSectors d (destPhase d f)) :
    destPhase d f = calculateCurrentPhase d f := by
  unfold destPhase at hmem ⊢
  split_ifs at hmem ⊢
  · simp [nearSectors_max] at hmem
  · rfl

/-- A new owner next to the old one was among its observers. -/
theorem mem_nearSectors_of_adjacent (h : HandOff s d f)
    (hrow : ((s / 5 : Nat) : Int) - 1 ≤ (d / 5 : Nat) ∧ ((d / 5 : Nat) : Int) ≤ (s / 5 : Nat) + 1)
    (hcolumn : ((s % 5 : Nat) : Int) - 1 ≤ (d % 5 : Nat) ∧
      ((d % 5 : Nat) : Int) ≤ (s % 5 : Nat) + 1) :
    d ∈ nearSectors s (calculateCurrentPhase s f) := by
  rw [mem_nearSectors h.source]
  refine ⟨h.dest.lt, h.ne, ?_, ?_⟩
  · rcases lt_trichotomy (s / 5) (d / 5) with hlt | heq | hgt
    · have := h.row.1 hlt
      omega
    · left
      omega
    · have := h.row.2 hgt
      omega
  · rcases lt_trichotomy (s % 5) (d % 5) with hlt | heq | hgt
    · have := h.column.1 hlt
      omega
    · left
      omega
    · have := h.column.2 hgt
      omega

/-- An old sector among the new observers observes the new owner in turn. -/
theorem mem_nearSectors_of_mem (h : HandOff s d f) (hmem : s ∈ nearSectors d (destPhase d f)) :
    d ∈ nearSectors s (calculateCurrentPhase s f) := by
  have hphase := destPhase_eq_of_mem hmem
  rw [hphase, mem_nearSectors h.dest.lt] at hmem
  rcases hmem with ⟨_, _, hrow, hcol⟩
  have hbounds := phaseForce_bounds (calculateCurrentPhase d f)
  exact h.mem_nearSectors_of_adjacent ⟨by omega, by omega⟩ ⟨by omega, by omega⟩

/-- Two lines that reach each other span the same pair of lines. -/
theorem span_eq {x s d a b : Int} (hd : d = s ∨ d = s - a) (hs : s = d ∨ s = d - b)
    (heq : s = d → a = b) : (x = d ∨ x = d - b) ↔ (x = s ∨ x = s - a) := by
  by_cases h : s = d
  · rw [heq h, h]
  · omega

/-- Two sectors that observe each other span the same box with their phases. -/
theorem near (h : HandOff s d f)
    (hnear : isNearPhase s (calculateCurrentPhase s f) d (destPhase d f) = true) (x : Nat) :
    x ∈ nearSectors d (destPhase d f) ↔
      (x = s ∨ x ∈ nearSectors s (calculateCurrentPhase s f)) ∧ x ≠ d := by
  rcases (isNearPhase_iff h.source h.dest.lt h.ne.symm).1 hnear with ⟨hd, hs⟩
  have hphase := destPhase_eq_of_mem hs
  rw [hphase] at hs ⊢
  rw [mem_nearSectors h.source] at hd
  rw [mem_nearSectors h.dest.lt] at hs
  rw [mem_nearSectors h.dest.lt, mem_nearSectors h.source]
  rcases hd with ⟨hdlt, _, hdrow, hdcol⟩
  rcases hs with ⟨hslt, _, hsrow, hscol⟩
  -- the rows spanned from `d` are those spanned from `s`, and the columns likewise
  have hrow := span_eq (x := ((x / 5 : Nat) : Int)) hdrow hsrow
    (fun heq => h.row_eq (by exact_mod_cast heq))
  have hcol := span_eq (x := ((x % 5 : Nat) : Int))
    (a := -(phaseForce (calculateCurrentPhase s f)).column)
    (b := -(phaseForce (calculateCurrentPhase d f)).column)
    (by simpa only [sub_neg_eq_add] using hdcol) (by simpa only [sub_neg_eq_add] using hscol)
    (fun heq => by rw [h.column_eq (by exact_mod_cast heq)])
  simp only [sub_neg_eq_add] at hcol
  rw [hrow, hcol]
  constructor
  · rintro ⟨hlt, hne, hr, hc⟩
    by_cases hxs : x = s
    · exact ⟨.inl hxs, hne⟩
    · exact ⟨.inr ⟨hlt, hxs, hr, hc⟩, hne⟩
  · rintro ⟨rfl | ⟨hlt, _, hr, hc⟩, hne⟩
    · exact ⟨hslt, hne, .inl rfl, .inl rfl⟩
    · exact ⟨hlt, hne, hr, hc⟩

/-- Without mutual observation the old sector is not among the new observers. -/
theorem far (h : HandOff s d f)
    (hfar : isNearPhase s (calculateCurrentPhase s f) d (destPhase d f) ≠ true) :
    s ∉ nearSectors d (destPhase d f) := by
  intro hmem
  exact hfar ((isNearPhase_iff h.source h.dest.lt h.ne.symm).2 ⟨h.mem_nearSectors_of_mem hmem, hmem⟩)

end HandOff

end Game
end SeamlessServer
