import SeamlessServer.Game.Geometry

/-!
# Game.GrayZone — which sectors observe an object, and which one takes it over

The gray zone of a sector is a band of `sectorGrayZoneChunk` chunks along its border, while phases
are thirds of the sector.  That the two fit together rests on the numbers alone: an object that is
smaller than the band cannot reach beyond a border from outside the outer third.

* `gray_zone_covers`: a sector that such an object reaches into observes it;
* `hand_off_geometry`: an object that has left its sector is taken over by the sector at its
  position, and if the two observe each other its observers stay the same.
-/

namespace SeamlessServer
namespace Game

open SectorSystem

/-- The position lies in the rectangle, borders included. -/
structure FixtureRectangle.Encloses (r : FixtureRectangle) (position : Vector2) : Prop where
  left : r.left ≤ position.x
  right : position.x ≤ r.right
  down : r.down ≤ position.y
  up : position.y ≤ r.up

/-- The width of the gray zone. -/
def grayZoneWidth : CoordinateUnit := sectorGrayZoneChunk * chunkSize

/-- A fixture smaller than the gray zone is wide. -/
structure Slim (f : Fixture) : Prop extends Extended f where
  width : f.size.x < grayZoneWidth
  height : f.size.y < grayZoneWidth

theorem grayZoneWidth_eq : grayZoneWidth = 1000 := by
  norm_num [grayZoneWidth, sectorGrayZoneChunk, chunkSize]

/-! ## One axis -/

/-- A short interval around a point of a sector reaches at most the next one, and then its middle is
in the outer third and the interval outside the inner box. -/
theorem reach_cases {x left w : ℚ} {k : Int} (hw : w < 1000) (hlow : left ≤ x)
    (hhigh : x ≤ left + 5000) (hfrom : left + k * 5000 ≤ x + w / 2)
    (hto : x - w / 2 ≤ left + k * 5000 + 5000) :
    k = 0 ∨ (k = 1 ∧ third (x - left) = 1 ∧ left + 4000 < x - w / 2) ∨
      (k = -1 ∧ third (x - left) = -1 ∧ x + w / 2 < left + 1000) := by
  have hupper : k < 2 := by
    have : (k : ℚ) < 2 := by linarith
    exact_mod_cast this
  have hlower : -2 < k := by
    have : (-2 : ℚ) < k := by linarith
    exact_mod_cast this
  -- the sectors next to this one, and this one itself
  obtain rfl | rfl | rfl : k = -1 ∨ k = 0 ∨ k = 1 := by omega
  · push_cast at hto
    refine .inr (.inr ⟨rfl, ?_, by linarith⟩)
    rcases third_cases (x - left) with ⟨h, _⟩ | ⟨_, h, _⟩ | ⟨_, h⟩
    · exact h
    · linarith
    · linarith
  · exact .inl rfl
  · push_cast at hfrom
    refine .inr (.inl ⟨rfl, ?_, by linarith⟩)
    rcases third_cases (x - left) with ⟨_, h⟩ | ⟨_, _, h⟩ | ⟨h, _⟩
    · linarith
    · linarith
    · exact h

/-! ## Both axes -/

section Coverage

variable {s n : Nat} {f : Fixture}

theorem overlap_getSectorFixtureRectangle_iff (hn : n < sectorCount) (hf : Extended f) :
    fixtureRectangleOverlap (getSectorFixtureRectangle n) f.toFixtureRectangle = true ↔
      Meets n f := by
  rw [← overlap_sector_iff hn hf]
  simp [basePosition, getSectorFixtureRectangle, FixtureRectangle.ofPosition,
    FixtureRectangle.leftDown]

theorem encloses_iff {position : Vector2} (hs : s < sectorCount) :
    (getSectorFixtureRectangle s).Encloses position ↔
      (leftOf s ≤ position.x ∧ position.x ≤ leftOf s + 5000) ∧
        downOf s ≤ position.y ∧ position.y ≤ downOf s + 5000 := by
  rw [getSectorFixtureRectangle_eq hs]
  simp only [leftOf, downOf, Int.cast_sub, Int.cast_natCast, Int.cast_ofNat]
  constructor
  · rintro ⟨h₁, h₂, h₃, h₄⟩
    exact ⟨⟨by linarith, by linarith⟩, by linarith, by linarith⟩
  · rintro ⟨⟨h₁, h₂⟩, h₃, h₄⟩
    constructor <;> simp only <;> linarith

/-- Where another sector lies that the fixture reaches, along the columns and along the rows. -/
theorem columns_cases (hs : s < sectorCount) (hf : Slim f)
    (hposition : (getSectorFixtureRectangle s).Encloses f.position) (hmeets : Meets n f) :
    n % 5 = s % 5 ∨
      (((n % 5 : Nat) : Int) = (s % 5 : Nat) + third (f.position.x - leftOf s) ∧
        ¬ MeetsInner s f) := by
  obtain ⟨⟨hlow, hhigh⟩, _⟩ := (encloses_iff hs).1 hposition
  have hwidth := hf.width
  rw [grayZoneWidth_eq] at hwidth
  have hleft : leftOf n = leftOf s + ((((n % 5 : Nat) : Int) - (s % 5 : Nat) : Int) : ℚ) * 5000 := by
    simp only [leftOf]
    push_cast
    ring
  rcases hmeets with ⟨⟨h₁, h₂⟩, _⟩
  rw [hleft] at h₁ h₂
  rcases reach_cases hwidth hlow hhigh h₁ h₂ with h | ⟨h, hthird, hfar⟩ | ⟨h, hthird, hfar⟩
  · left
    omega
  · right
    refine ⟨by omega, fun hinner => ?_⟩
    linarith [hinner.1.2]
  · right
    refine ⟨by omega, fun hinner => ?_⟩
    linarith [hinner.1.1]

theorem rows_cases (hs : s < sectorCount) (hf : Slim f)
    (hposition : (getSectorFixtureRectangle s).Encloses f.position) (hmeets : Meets n f) :
    n / 5 = s / 5 ∨
      (((n / 5 : Nat) : Int) = (s / 5 : Nat) - third (f.position.y - downOf s) ∧
        ¬ MeetsInner s f) := by
  obtain ⟨_, hlow, hhigh⟩ := (encloses_iff hs).1 hposition
  have hheight := hf.height
  rw [grayZoneWidth_eq] at hheight
  have hdown : downOf n = downOf s + ((((s / 5 : Nat) : Int) - (n / 5 : Nat) : Int) : ℚ) * 5000 := by
    simp only [downOf]
    push_cast
    ring
  rcases hmeets with ⟨_, h₁, h₂⟩
  rw [hdown] at h₁ h₂
  rcases reach_cases hheight hlow hhigh h₁ h₂ with h | ⟨h, hthird, hfar⟩ | ⟨h, hthird, hfar⟩
  · left
    omega
  · right
    refine ⟨by omega, fun hinner => ?_⟩
    linarith [hinner.2.2]
  · right
    refine ⟨by omega, fun hinner => ?_⟩
    linarith [hinner.2.1]

/-- The fixture meets the sector its position lies in. -/
theorem meets_of_encloses (hs : s < sectorCount) (hf : Extended f)
    (hposition : (getSectorFixtureRectangle s).Encloses f.position) : Meets s f := by
  obtain ⟨⟨h₁, h₂⟩, h₃, h₄⟩ := (encloses_iff hs).1 hposition
  have hx := hf.x
  have hy := hf.y
  refine ⟨⟨?_, ?_⟩, ?_, ?_⟩ <;> linarith

theorem ne_invalidSector (hn : n < sectorCount) : n ≠ invalidSector := by
  simp only [sectorCount, invalidSector] at hn ⊢
  omega

/-- The array of three: the neighbours, and `INVALID_SECTOR` if there are fewer. -/
theorem mem_getNearSectors_iff (p : Direction) :
    n ∈ getNearSectors s p ↔
      n ∈ nearSectors s p ∨ ((nearSectors s p).length < 3 ∧ n = invalidSector) := by
  rw [getNearSectors, List.mem_append, List.mem_replicate, Nat.sub_ne_zero_iff_lt]

theorem mem_getNearSectors (hn : n < sectorCount) (p : Direction) :
    n ∈ getNearSectors s p ↔ n ∈ nearSectors s p := by
  simp [mem_getNearSectors_iff, ne_invalidSector hn]

/-- An object smaller than the gray zone is observed by every other sector that it reaches into, and
one outside the inner box has a phase. -/
theorem gray_zone_covers (hs : s < sectorCount) (f : Fixture) (hf : Slim f)
    (hposition : (getSectorFixtureRectangle s).Encloses f.position) :
    (∀ n < sectorCount, n ≠ s →
      fixtureRectangleOverlap (getSectorFixtureRectangle n) f.toFixtureRectangle = true →
        calculateCurrentLocation s f = .Gray ∧
          n ∈ getNearSectors s (calculateCurrentPhase s f)) ∧
      (calculateCurrentLocation s f ≠ .In → calculateCurrentPhase s f ≠ .Max) := by
  refine ⟨?_, phase_ne_max hs hf.toExtended⟩
  intro n hn hne hoverlap
  have hmeets := (overlap_getSectorFixtureRectangle_iff hn hf.toExtended).1 hoverlap
  have hcolumns := columns_cases hs hf hposition hmeets
  have hrows := rows_cases hs hf hposition hmeets
  constructor
  -- a rectangle that meets another sector leaves the inner part, along one axis at least
  · have hinner : ¬ MeetsInner s f := by
      rcases hcolumns with hcolumn | ⟨_, hinner⟩
      · rcases hrows with hrow | ⟨_, hinner⟩
        · -- the same column and row would be the same sector
          exact absurd (by omega) hne
        · exact hinner
      · exact hinner
    have hin : calculateCurrentLocation s f ≠ .In := mt (location_eq_in_iff hs hf.toExtended).1 hinner
    -- its position still lies in the sector, so it has not left
    have hleave : calculateCurrentLocation s f ≠ .Leave := fun h =>
      (location_eq_leave_iff hs hf.toExtended).1 h (meets_of_encloses hs hf.toExtended hposition)
    rcases calculateCurrentLocation_cases s f with h | h | h
    · exact absurd h hin
    · exact h
    · exact absurd h hleave
  · -- the phase points where the other sector lies, along each axis or not at all
    rw [mem_getNearSectors hn, mem_nearSectors hs, phaseForce_calculateCurrentPhase hs]
    refine ⟨hn, hne, ?_, ?_⟩
    · exact hrows.imp (fun h => by exact_mod_cast h) (fun h => h.1)
    · exact hcolumns.imp (fun h => by exact_mod_cast h) (fun h => h.1)

end Coverage

/-- A character of the size that agencies spawn, at the corner of the sectors 12, 13, 7 and 8. -/
def atCorner : Fixture where
  id := 2201200000000001
  position := ⟨4990, 4980⟩
  size := ⟨100, 100⟩
  sectorId := 12

theorem gray_zone_covers_corner :
    calculateCurrentLocation 12 atCorner = .Gray ∧
      8 ∈ getNearSectors 12 (calculateCurrentPhase 12 atCorner) := by
  have hslim : Slim atCorner :=
    ⟨⟨by norm_num [atCorner], by norm_num [atCorner]⟩, by norm_num [atCorner, grayZoneWidth_eq],
      by norm_num [atCorner, grayZoneWidth_eq]⟩
  have hposition : (getSectorFixtureRectangle 12).Encloses atCorner.position :=
    (encloses_iff (by decide)).2 (by norm_num [atCorner, leftOf, downOf])
  exact (gray_zone_covers (by decide) atCorner hslim hposition).1 8 (by decide) (by decide)
    (by decide +kernel)

/-! ## The sector that takes over -/

section Takeover

variable {s d : Nat} {f : Fixture}

/-- The position of a fixture inside the world lies in the rectangle of the sector found there. -/
theorem inSector_of_within (hf : Extended f) (hwithin : f.toFixtureRectangle.Within worldRect) :
    InSector (getSectorByPosition f.position) f.position := by
  have hinside := (Fixture.within_worldRect_iff f).1 hwithin
  have hx := hf.x
  have hy := hf.y
  have hworld : InWorld f.position :=
    ⟨by linarith [hinside.left], by linarith [hinside.right], by linarith [hinside.down],
      by linarith [hinside.up]⟩
  rcases getSectorByPosition_spec hworld with ⟨_, hborder | hborder⟩ | hsector
  · linarith [hinside.right]
  · linarith [hinside.up]
  · exact hsector

/-- A neighbour on the grid is at most one row and one column away. -/
theorem adjacent_of_getNextSector (hs : s < sectorCount) {p : Direction}
    (h : getNextSector s p = d) (hd : d < sectorCount) :
    (((s / 5 : Nat) : Int) - 1 ≤ (d / 5 : Nat) ∧ ((d / 5 : Nat) : Int) ≤ (s / 5 : Nat) + 1) ∧
      ((s % 5 : Nat) : Int) - 1 ≤ (d % 5 : Nat) ∧ ((d % 5 : Nat) : Int) ≤ (s % 5 : Nat) + 1 := by
  have hall : ∀ s < sectorCount, ∀ p, getNextSector s p < sectorCount →
      (((s / 5 : Nat) : Int) - 1 ≤ (getNextSector s p / 5 : Nat) ∧
        ((getNextSector s p / 5 : Nat) : Int) ≤ (s / 5 : Nat) + 1) ∧
      ((s % 5 : Nat) : Int) - 1 ≤ (getNextSector s p % 5 : Nat) ∧
        ((getNextSector s p % 5 : Nat) : Int) ≤ (s % 5 : Nat) + 1 := by
    decide +kernel
  subst h
  exact hall s hs p hd

/-- Sectors that observe each other have as many observers. -/
theorem HandOff.near_length (h : HandOff s d f)
    (hnear : isNearPhase s (calculateCurrentPhase s f) d (HandOff.destPhase d f) = true) :
    (nearSectors d (HandOff.destPhase d f)).length =
      (nearSectors s (calculateCurrentPhase s f)).length := by
  have hd := ((isNearPhase_iff h.source h.dest.lt h.ne.symm).1 hnear).1
  have hnodup := nodup_nearSectors h.source (calculateCurrentPhase s f)
  have hs : s ∉ (nearSectors s (calculateCurrentPhase s f)).erase d := fun hmem =>
    ne_of_mem_nearSectors h.source (List.mem_of_mem_erase hmem) rfl
  -- the lists hold no sector twice, so that their members count
  have hperm : (nearSectors d (HandOff.destPhase d f)).Perm
      (s :: (nearSectors s (calculateCurrentPhase s f)).erase d) := by
    refine (List.perm_ext_iff_of_nodup (nodup_nearSectors h.dest.lt _)
      (List.nodup_cons.2 ⟨hs, hnodup.erase d⟩)).2 fun x => ?_
    rw [h.near hnear, List.mem_cons, hnodup.mem_erase_iff]
    constructor
    · rintro ⟨rfl | hx, hne⟩
      · exact .inl rfl
      · exact .inr ⟨hne, hx⟩
    · rintro (rfl | ⟨hne, hx⟩)
      · exact ⟨.inl rfl, h.ne.symm⟩
      · exact ⟨.inr hx, hne⟩
  rw [hperm.length_eq, List.length_cons, List.length_erase_of_mem hd,
    Nat.sub_add_cancel (List.length_pos_of_mem hd)]

/-- An object that has left its sector: the sector at its position is another one and has it, was
among the observers if it is a neighbour, and if both observe each other then the observers stay the
same but for the two of them. -/
theorem hand_off_geometry (hs : s < sectorCount) (f : Fixture) (hf : Extended f)
    (hwithin : f.toFixtureRectangle.Within worldRect)
    (hleave : calculateCurrentLocation s f = .Leave) :
    let p := calculateCurrentPhase s f
    let d := getSectorByPosition f.position
    let q := calculateCurrentPhase d f
    d < sectorCount ∧ d ≠ s ∧ calculateCurrentLocation d f ≠ .Leave ∧
      (∀ direction, direction ≠ .Max → getNextSector s direction = d → d ∈ getNearSectors s p) ∧
      (calculateCurrentLocation d f = .Gray → s ∈ getNearSectors d q →
        {x | x ∈ getNearSectors d q} = insert s ({x | x ∈ getNearSectors s p} \ {d})) := by
  intro p d q
  have h : HandOff s d f := ⟨hf, hs, hleave, inSector_of_within hf hwithin⟩
  refine ⟨h.dest.lt, h.ne, h.location_dest, ?_, ?_⟩
  · intro direction _ hnext
    obtain ⟨hrow, hcolumn⟩ := adjacent_of_getNextSector hs hnext h.dest.lt
    exact (mem_getNearSectors h.dest.lt p).2 (h.mem_nearSectors_of_adjacent hrow hcolumn)
  · intro hgray hmem
    have hphase : HandOff.destPhase d f = q := by
      rw [HandOff.destPhase, hgray, if_neg (by decide)]
    have hmem' : s ∈ nearSectors d (HandOff.destPhase d f) := by
      rw [hphase]
      exact (mem_getNearSectors hs q).1 hmem
    have hnear : isNearPhase s p d (HandOff.destPhase d f) = true :=
      (isNearPhase_iff hs h.dest.lt h.ne.symm).2 ⟨h.mem_nearSectors_of_mem hmem', hmem'⟩
    -- both arrays are filled up with as many `INVALID_SECTOR`s
    have hlength := h.near_length hnear
    have hsame := h.near hnear
    rw [hphase] at hlength hsame
    ext x
    simp only [Set.mem_ofPred_eq, Set.mem_insert_iff, Set.mem_sdiff, Set.mem_singleton_iff,
      mem_getNearSectors_iff, hsame, hlength]
    have hsd : s ≠ d := h.ne.symm
    have hd : d ≠ invalidSector := ne_invalidSector h.dest.lt
    constructor
    · rintro (⟨rfl | hx, hne⟩ | ⟨hlen, rfl⟩)
      · exact .inl rfl
      · exact .inr ⟨.inl hx, hne⟩
      · exact .inr ⟨.inr ⟨hlen, rfl⟩, hd.symm⟩
    · rintro (rfl | ⟨hx | ⟨hlen, rfl⟩, hne⟩)
      · exact .inl ⟨.inl rfl, hsd⟩
      · exact .inl ⟨.inr hx, hne⟩
      · exact .inr ⟨hlen, rfl⟩

/-- A character that has gone from sector 12 to the upper left part of sector 13. -/
def gone : Fixture where
  id := 2201200000000001
  position := ⟨5060, 4000⟩
  size := ⟨100, 100⟩
  sectorId := 12

theorem hand_off_geometry_gone :
    getSectorByPosition gone.position ≠ 12 ∧
      {x | x ∈ getNearSectors (getSectorByPosition gone.position)
          (calculateCurrentPhase (getSectorByPosition gone.position) gone)} =
        insert 12 ({x | x ∈ getNearSectors 12 (calculateCurrentPhase 12 gone)} \
          {getSectorByPosition gone.position}) := by
  have hf : Extended gone := ⟨by norm_num [gone], by norm_num [gone]⟩
  have hwithin : gone.toFixtureRectangle.Within worldRect :=
    (Fixture.within_worldRect_iff gone).2 (by constructor <;> norm_num [gone])
  have h := hand_off_geometry (by decide) gone hf hwithin
    (show calculateCurrentLocation 12 gone = .Leave by decide +kernel)
  exact ⟨h.2.1, h.2.2.2.2 (by decide +kernel) (by decide +kernel)⟩

end Takeover

end Game
end SeamlessServer
