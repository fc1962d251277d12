import SeamlessServer.Data.Clamp
import SeamlessServer.Game.Fixture

/-!
# Game.DeadReckoning — movements cut into ticks

`Fixture::Move` is called once per tick by the play servers, by clients for their own character, and
once for the whole time since the last packet when a client takes over a cached fixture.  All of
them are to arrive at the same position.

Along one axis a movement is one step of a walk between two borders, which are half the size of the
fixture away from those of the world (`move_along`), so that a sequence of movements in one direction
is a walk with steps of one sign.
-/

namespace SeamlessServer
namespace Game

open Utility

/-! ## Axes -/

inductive Axis
  | horizontal
  | vertical
  deriving DecidableEq

def Vector2.along (v : Vector2) : Axis → CoordinateUnit
  | .horizontal => v.x
  | .vertical => v.y

def Indexer2.along (i : Indexer2) : Axis → Int
  | .horizontal => i.column
  | .vertical => i.row

theorem Vector2.ext_along {v w : Vector2} (h : ∀ a, v.along a = w.along a) : v = w := by
  have hx : v.x = w.x := h .horizontal
  have hy : v.y = w.y := h .vertical
  cases v
  cases w
  cases hx
  cases hy
  rfl

namespace Fixture

/-- The lowest position at which a fixture lies inside the world. -/
def lowest (size : Size) (a : Axis) : CoordinateUnit := -10000 + size.along a / 2

def highest (size : Size) (a : Axis) : CoordinateUnit := 15000 - size.along a / 2

theorem inside_iff {position : Vector2} {size : Size} :
    Inside position size ↔
      ∀ a, position.along a ∈ Set.Icc (lowest size a) (highest size a) := by
  constructor
  · intro h a
    cases a with
    | horizontal => exact ⟨h.left, h.right⟩
    | vertical => exact ⟨h.down, h.up⟩
  · intro h
    exact ⟨(h .horizontal).1, (h .horizontal).2, (h .vertical).1, (h .vertical).2⟩

theorem Inside.fits {position : Vector2} {size : Size} (h : Inside position size) (a : Axis) :
    lowest size a ≤ highest size a :=
  (inside_iff.1 h a).1.trans (inside_iff.1 h a).2

/-- How far a fixture gets along an axis, without borders. -/
def way (f : Fixture) (a : Axis) (time : Milliseconds) : CoordinateUnit :=
  f.force * (time / 1000) * (phaseForce f.direction).along a

theorem way_add (f : Fixture) (a : Axis) (time time' : Milliseconds) :
    f.way a (time + time') = f.way a time + f.way a time' := by
  simp only [way]
  push_cast
  ring

theorem way_zero (f : Fixture) (a : Axis) : f.way a 0 = 0 := by
  simp [way]

theorem way_sum (f : Fixture) (a : Axis) (times : List Milliseconds) :
    (times.map (f.way a)).sum = f.way a times.sum := by
  induction times with
  | nil =>
      exact (way_zero f a).symm
  | cons time times ih =>
      rw [List.map_cons, List.sum_cons, List.sum_cons, ih, way_add]

/-- Later movements lead in the direction of the first. -/
theorem oneWay_way (f : Fixture) (a : Axis) {times : List Milliseconds}
    (h : ∀ time ∈ times, 0 ≤ time) : OneWay (times.map (f.way a)) := by
  have hway : ∀ time, f.way a time = f.force * (phaseForce f.direction).along a * (time / 1000) := by
    intro time
    simp only [way]
    ring
  have htime : ∀ time ∈ times, (0 : ℚ) ≤ (time : ℚ) / 1000 := by
    intro time hmem
    have hnonneg : (0 : ℚ) ≤ time := by exact_mod_cast h time hmem
    positivity
  unfold OneWay
  simp only [List.forall_mem_map, hway]
  -- the sign is that of the force along the axis
  rcases le_total 0 (f.force * (phaseForce f.direction).along a) with hsign | hsign
  · exact .inl fun time hmem => mul_nonneg hsign (htime time hmem)
  · exact .inr fun time hmem => mul_nonpos_of_nonpos_of_nonneg hsign (htime time hmem)

/-! ## One movement -/

/-- The corrected end of a movement along one axis is the closest position inside the world. -/
theorem clampMovement_eq_projIcc (position movement : CoordinateUnit)
    {half worldLow worldHigh : CoordinateUnit} (hfit : worldLow + half ≤ worldHigh - half) :
    position + clampMovement movement (position + movement - half) (position + movement + half)
      worldLow worldHigh = Set.projIcc (worldLow + half) (worldHigh - half) hfit
        (position + movement) := by
  rw [Set.coe_projIcc]
  unfold clampMovement
  by_cases hlow : worldLow > position + movement - half
  · -- the other border is not crossed as well, since the fixture fits between them
    have hhigh : ¬ worldHigh < position + movement + half := by linarith
    rw [min_eq_right (by linarith), max_eq_left (by linarith)]
    simp only [hlow, hhigh, if_true, if_false]
    linarith
  · by_cases hhigh : worldHigh < position + movement + half
    · rw [min_eq_left (by linarith), max_eq_right hfit]
      simp only [hlow, hhigh, if_true, if_false]
      linarith
    · rw [min_eq_right (by linarith), max_eq_right (by linarith)]
      simp only [hlow, hhigh, if_false]

theorem move_along (f : Fixture) (delta : Milliseconds) (hdir : f.direction ≠ .Max) (a : Axis)
    (hfit : lowest f.size a ≤ highest f.size a) :
    (f.move delta).position.along a =
      Set.projIcc (lowest f.size a) (highest f.size a) hfit
        (f.position.along a + f.way a ((delta + f.personalDeltaTime) % 2 ^ 64)) := by
  refine Eq.trans ?_ (clampMovement_eq_projIcc (f.position.along a)
    (f.way a ((delta + f.personalDeltaTime) % 2 ^ 64)) hfit)
  cases a <;> simp only [move, hdir, if_false, toFixtureRectangle_eq, worldRect_eq] <;> rfl

@[simp] theorem move_force (f : Fixture) (delta : Milliseconds) :
    (f.move delta).force = f.force := by
  by_cases h : f.direction = .Max <;> simp [move, h]

@[simp] theorem move_direction (f : Fixture) (delta : Milliseconds) :
    (f.move delta).direction = f.direction := by
  by_cases h : f.direction = .Max <;> simp [move, h]

theorem move_personalDeltaTime {f : Fixture} (hdir : f.direction ≠ .Max) (delta : Milliseconds) :
    (f.move delta).personalDeltaTime = 0 := by
  simp [move, hdir]

theorem way_move (f : Fixture) (delta : Milliseconds) : (f.move delta).way = f.way := by
  funext a time
  simp only [way, move_force, move_direction]

/-- The time of a movement is taken modulo `2 ^ 64`. -/
theorem way_mod_of_lt (f : Fixture) (a : Axis) {time : Milliseconds} (h : 0 ≤ time)
    (hlt : time < 2 ^ 64) : f.way a (time % 2 ^ 64) = f.way a time := by
  rw [Int.emod_eq_of_lt h hlt]

/-- A movement leaves a fixture of the same size inside the world. -/
theorem inside_move_of_inside {f : Fixture} {size : Size} (hdir : f.direction ≠ .Max)
    (hsize : f.size = size) (h : Inside f.position size) (delta : Milliseconds) :
    Inside (f.move delta).position size := by
  subst hsize
  refine inside_move hdir ?_ ?_
  · linarith [h.left, h.right]
  · linarith [h.down, h.up]

/-! ## Movements one after the other -/

section Sequence

variable {size : Size} {a : Axis} {step : Milliseconds → CoordinateUnit}

/-- Without a personal delta time, movements are a walk along each axis. -/
theorem foldl_move_along (hfit : lowest size a ≤ highest size a) (deltas : List Milliseconds) :
    ∀ {f : Fixture}, f.direction ≠ .Max → f.personalDeltaTime = 0 → f.size = size →
      f.way a = step → ∀ hinside : Inside f.position size, (∀ delta ∈ deltas, 0 ≤ delta) →
        deltas.sum < 2 ^ 64 →
          (deltas.foldl move f).position.along a =
            (deltas.map step).foldl
              (fun y m => Set.projIcc (lowest size a) (highest size a) hfit (y + m))
              ⟨f.position.along a, inside_iff.1 hinside a⟩ := by
  induction deltas with
  | nil =>
      intros
      rfl
  | cons delta deltas ih =>
      intro f hdir hpersonal hsize hway hinside hnonneg hsum
      have hdelta : 0 ≤ delta := hnonneg delta List.mem_cons_self
      have hrest : ∀ delta' ∈ deltas, 0 ≤ delta' := fun delta' hmem =>
        hnonneg delta' (List.mem_cons_of_mem _ hmem)
      have hrestSum : 0 ≤ deltas.sum := List.sum_nonneg hrest
      rw [List.sum_cons] at hsum
      -- the rest is a walk from where the first movement has ended
      have hmoved := inside_move_of_inside hdir hsize hinside delta
      have hfirst : (f.move delta).position.along a =
          Set.projIcc (lowest size a) (highest size a) hfit (f.position.along a + step delta) := by
        subst hsize
        rw [move_along f delta hdir a hfit, hpersonal, Nat.cast_zero, add_zero,
          way_mod_of_lt f a hdelta (by linarith), hway]
      calc
        ((delta :: deltas).foldl move f).position.along a
            = (deltas.map step).foldl
                (fun y m => Set.projIcc (lowest size a) (highest size a) hfit (y + m))
                ⟨(f.move delta).position.along a, inside_iff.1 hmoved a⟩ := by
              rw [List.foldl_cons]
              exact ih (by rwa [move_direction]) (move_personalDeltaTime hdir delta)
                ((move_size f delta).trans hsize) ((congrFun (way_move f delta) a).trans hway)
                hmoved hrest (by linarith)
        _ = ((delta :: deltas).map step).foldl
              (fun y m => Set.projIcc (lowest size a) (highest size a) hfit (y + m))
              ⟨f.position.along a, inside_iff.1 hinside a⟩ := by
              rw [List.map_cons, List.foldl_cons]
              congr 2
              exact Subtype.ext hfirst

/-- Movements of a fixture without a personal delta time end where one movement of the whole
duration does. -/
theorem foldl_move_along_eq (hfit : lowest size a ≤ highest size a) {deltas : List Milliseconds}
    {f : Fixture} (hdir : f.direction ≠ .Max) (hpersonal : f.personalDeltaTime = 0)
    (hsize : f.size = size) (hinside : Inside f.position size)
    (hnonneg : ∀ delta ∈ deltas, 0 ≤ delta) (hsum : deltas.sum < 2 ^ 64) :
    (deltas.foldl move f).position.along a =
      Set.projIcc (lowest size a) (highest size a) hfit
        (f.position.along a + f.way a deltas.sum) := by
  rw [foldl_move_along hfit deltas hdir hpersonal hsize rfl hinside hnonneg hsum,
    foldl_projIcc hfit _ _ (oneWay_way f a hnonneg), way_sum]

/-- A first movement, which uses up the personal delta time, and further ones. -/
theorem foldl_move_cons {f : Fixture} (hdir : f.direction ≠ .Max)
    (hinside : Inside f.position f.size) {delta : Milliseconds} {deltas : List Milliseconds}
    (hnonneg : ∀ delta' ∈ delta :: deltas, 0 ≤ delta')
    (hsum : (delta :: deltas).sum + f.personalDeltaTime < 2 ^ 64) :
    ((delta :: deltas).foldl move f).position = (f.move (delta :: deltas).sum).position := by
  refine Vector2.ext_along fun a => ?_
  have hfit := hinside.fits a
  have hdelta : 0 ≤ delta := hnonneg delta List.mem_cons_self
  have hrest : ∀ delta' ∈ deltas, 0 ≤ delta' := fun delta' hmem =>
    hnonneg delta' (List.mem_cons_of_mem _ hmem)
  have hrestSum : 0 ≤ deltas.sum := List.sum_nonneg hrest
  have hpersonal : (0 : Milliseconds) ≤ f.personalDeltaTime := Int.natCast_nonneg _
  rw [List.sum_cons] at hsum ⊢
  have hfirst := move_along f delta hdir a hfit
  rw [way_mod_of_lt f a (by linarith) (by linarith)] at hfirst
  have htotal := move_along f (delta + deltas.sum) hdir a hfit
  rw [way_mod_of_lt f a (by linarith) (by linarith)] at htotal
  -- the personal delta time is spent in the first movement, so there are two in one direction
  have htimes : ∀ time ∈ [delta + f.personalDeltaTime, deltas.sum], 0 ≤ time := by
    simp only [List.forall_mem_cons]
    exact ⟨by linarith, hrestSum, by simp⟩
  have hsign := (oneWay_way f a htimes).sum_tail
  rw [List.map_singleton, List.sum_singleton] at hsign
  calc
    ((delta :: deltas).foldl move f).position.along a
        = Set.projIcc (lowest f.size a) (highest f.size a) hfit
            ((f.move delta).position.along a + f.way a deltas.sum) := by
          rw [List.foldl_cons, foldl_move_along_eq hfit (by rwa [move_direction])
            (move_personalDeltaTime hdir delta) (move_size f delta)
            (inside_move_of_inside hdir rfl hinside delta) hrest (by linarith), way_move]
    _ = Set.projIcc (lowest f.size a) (highest f.size a) hfit
          (f.position.along a + f.way a (delta + f.personalDeltaTime) + f.way a deltas.sum) := by
          rw [hfirst]
          exact congrArg Subtype.val
            (projIcc_projIcc_add hfit ⟨_, inside_iff.1 hinside a⟩ hsign)
    _ = (f.move (delta + deltas.sum)).position.along a := by
          rw [htotal, add_assoc, ← way_add, add_right_comm]

end Sequence

/-- A fixture without direction does not move. -/
theorem foldl_move_of_max (deltas : List Milliseconds) :
    ∀ {f : Fixture}, f.direction = .Max → deltas.foldl move f = f := by
  induction deltas with
  | nil =>
      intro f _
      rfl
  | cons delta deltas ih =>
      intro f hdir
      have hfirst : f.move delta = f := by simp [move, hdir]
      rw [List.foldl_cons, hfirst]
      exact ih hdir

/-! ## Dead reckoning -/

/-- Dead reckoning does not depend on the tick, as long as the time in milliseconds fits into the
`uint64_t` in which the personal delta time is added to it; and a movement ends inside the world. -/
theorem tick_independent :
    (∀ (f : Fixture), f.toFixtureRectangle.Within worldRect → ∀ (deltas : List Milliseconds),
      (∀ delta ∈ deltas, 0 ≤ delta) → (deltas ≠ [] ∨ f.personalDeltaTime = 0) →
        deltas.sum + f.personalDeltaTime < 2 ^ 64 →
          (deltas.foldl move f).position = (f.move deltas.sum).position) ∧
    ∀ (f : Fixture) (delta : Milliseconds), f.direction ≠ .Max →
      f.size.x ≤ worldRect.right - worldRect.left → f.size.y ≤ worldRect.up - worldRect.down →
        (f.move delta).toFixtureRectangle.Within worldRect := by
  constructor
  · intro f hwithin deltas hnonneg hsteps hsum
    have hinside := (within_worldRect_iff f).1 hwithin
    by_cases hdir : f.direction = .Max
    · have htotal : f.move deltas.sum = f := by simp [move, hdir]
      rw [foldl_move_of_max deltas hdir, htotal]
    · cases deltas with
      | nil =>
          -- a movement of no time stays where it is, since the fixture is inside the world
          have hpersonal : f.personalDeltaTime = 0 := hsteps.resolve_left fun h => h rfl
          refine Vector2.ext_along fun a => ?_
          rw [List.foldl_nil, List.sum_nil, move_along f 0 hdir a (hinside.fits a), hpersonal]
          have hstay : f.way a ((0 + ((0 : Nat) : Int)) % 2 ^ 64) = 0 := way_zero f a
          rw [hstay, add_zero, Set.projIcc_of_mem _ (inside_iff.1 hinside a)]
      | cons delta deltas =>
          exact foldl_move_cons hdir hinside hnonneg hsum
  · intro f delta hdir hx hy
    rw [worldRect_eq] at hx hy
    rw [within_worldRect_iff, move_size]
    exact inside_move hdir (by linarith) (by linarith)

/-- A character on its way to the right, with the given time to make up for. -/
def walking (personalDeltaTime : Nat) : Fixture where
  id := 2201100000000001
  position := ⟨0, 0⟩
  size := ⟨100, 100⟩
  direction := .Right
  sectorId := 12
  personalDeltaTime

theorem within_walking (personalDeltaTime : Nat) :
    (walking personalDeltaTime).toFixtureRectangle.Within worldRect :=
  (within_worldRect_iff _).2 ⟨by norm_num [walking], by norm_num [walking], by norm_num [walking],
    by norm_num [walking]⟩

theorem tick_independent_walking :
    ([100, 30000, 200].foldl move (walking 40)).position = ((walking 40).move 30300).position ∧
      ((walking 40).move 30300).toFixtureRectangle.Within worldRect := by
  constructor
  · exact tick_independent.1 (walking 40) (within_walking 40) [100, 30000, 200] (by decide)
      (.inl (by decide)) (by decide)
  · refine tick_independent.2 (walking 40) 30300 (by decide) ?_ ?_ <;>
      norm_num [walking, worldRect_eq]

/-- The sum of both times wraps around: a movement of one millisecond does not happen at all, while a
movement of no time goes to the border. -/
theorem tick_dependent_overflow :
    ¬ ∀ f : Fixture, f.toFixtureRectangle.Within worldRect → ∀ deltas : List Milliseconds,
      (∀ delta ∈ deltas, 0 ≤ delta) → deltas ≠ [] →
        (deltas.foldl move f).position = (f.move deltas.sum).position := by
  intro h
  have hsame := h (walking (2 ^ 64 - 1)) (within_walking _) [0, 1] (by decide) (by decide)
  revert hsame
  decide +kernel

end Fixture

end Game
end SeamlessServer
