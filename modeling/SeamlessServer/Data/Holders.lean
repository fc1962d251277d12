import Mathlib.Data.Finset.Card
import Mathlib.Data.Finset.Update
import Mathlib.Logic.Function.Basic

/-!
# Holders — how many handles point to an object

Finitely many handles exist, and each points to one object or to none.  `holders` counts those that
point to an object; an operation that lets one handle point elsewhere, or makes a handle or takes one
away, changes the counts of two objects at most, which its balance says (`holders_update`,
`holders_insert`, `holders_erase`).
-/

namespace SeamlessServer

universe u v

variable {η : Type u} {ι : Type v} [DecidableEq ι]

/-- The number of handles that point to an object. -/
def holders (live : Finset η) (ptr : η → Option ι) (i : ι) : Nat :=
  (live.filter fun h => ptr h = some i).card

/-- What one handle counts for. -/
def points (target : Option ι) (i : ι) : Nat := if target = some i then 1 else 0

@[simp] theorem points_none (i : ι) : points (none : Option ι) i = 0 := rfl

theorem points_le_one (target : Option ι) (i : ι) : points target i ≤ 1 := by
  unfold points
  split <;> omega

@[simp] theorem holders_empty (ptr : η → Option ι) (i : ι) : holders ∅ ptr i = 0 := rfl

variable [DecidableEq η] {live : Finset η} {ptr : η → Option ι} {h : η}

/-- The count apart from one handle. -/
theorem holders_eq_add_points (hmem : h ∈ live) (i : ι) :
    holders live ptr i = holders (live.erase h) ptr i + points (ptr h) i := by
  unfold holders points
  rw [Finset.filter_erase]
  by_cases hptr : ptr h = some i
  · have hin : h ∈ live.filter fun h => ptr h = some i := Finset.mem_filter.2 ⟨hmem, hptr⟩
    rw [if_pos hptr, Finset.card_erase_add_one hin]
  · have hout : h ∉ live.filter fun h => ptr h = some i := fun hin =>
      hptr (Finset.mem_filter.1 hin).2
    rw [if_neg hptr, Finset.erase_eq_of_notMem hout, Nat.add_zero]

/-- Handles other than the one that is changed count as before. -/
theorem holders_update_of_notMem (hnot : h ∉ live) (target : Option ι) (i : ι) :
    holders live (Function.update ptr h target) i = holders live ptr i := by
  unfold holders
  congr 1
  refine Finset.filter_congr fun k hk => ?_
  have hne : k ≠ h := fun heq => hnot (heq ▸ hk)
  rw [Function.update_of_ne hne]

/-- A handle points elsewhere. -/
theorem holders_update (hmem : h ∈ live) (target : Option ι) (i : ι) :
    holders live (Function.update ptr h target) i + points (ptr h) i =
      holders live ptr i + points target i := by
  have hnot : h ∉ live.erase h := Finset.notMem_erase h live
  calc
    holders live (Function.update ptr h target) i + points (ptr h) i
        = holders (live.erase h) (Function.update ptr h target) i + points target i +
            points (ptr h) i := by
          rw [holders_eq_add_points hmem, Function.update_self]
    _ = holders (live.erase h) ptr i + points (ptr h) i + points target i := by
          rw [holders_update_of_notMem hnot]
          omega
    _ = holders live ptr i + points target i := by
          rw [← holders_eq_add_points hmem]

/-- A new handle. -/
theorem holders_insert (hnew : h ∉ live) (target : Option ι) (i : ι) :
    holders (insert h live) (Function.update ptr h target) i = holders live ptr i + points target i := by
  rw [holders_eq_add_points (Finset.mem_insert_self h live), Finset.erase_insert hnew,
    holders_update_of_notMem hnew, Function.update_self]

/-- A handle that points to nothing is taken away. -/
theorem holders_erase (hmem : h ∈ live) (hptr : ptr h = none) (i : ι) :
    holders (live.erase h) ptr i = holders live ptr i := by
  rw [holders_eq_add_points hmem, hptr, points_none, Nat.add_zero]

/-- What a handle points to is held. -/
theorem points_le_holders (hmem : h ∈ live) (i : ι) : points (ptr h) i ≤ holders live ptr i := by
  rw [holders_eq_add_points hmem]
  exact Nat.le_add_left _ _

end SeamlessServer
