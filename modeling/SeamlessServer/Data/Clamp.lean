import Mathlib.Algebra.Order.BigOperators.Group.List
import Mathlib.Order.Interval.Set.ProjIcc

/-!
# Clamp — walks that are cut off at two borders

A walk whose position is projected onto `[lo, hi]` after every step does in general not end at the
projected sum of its steps, since what is cut off at one border is missing on the way back.  Steps
of one sign never come back: `foldl_projIcc` is the closed form of such a walk.
-/

namespace SeamlessServer

universe u

/-- Two points are projected onto the same point if they lie beyond the same border, or if there is
only one point between the borders, or if they are equal. -/
theorem projIcc_eq_projIcc_iff {α : Type u} [LinearOrder α] {lo hi : α} (h : lo ≤ hi) (x y : α) :
    Set.projIcc lo hi h x = Set.projIcc lo hi h y ↔
      x = y ∨ lo = hi ∨ (x ≤ lo ∧ y ≤ lo) ∨ (hi ≤ x ∧ hi ≤ y) := by
  rw [Subtype.ext_iff, Set.coe_projIcc, Set.coe_projIcc]
  constructor
  · intro heq
    by_contra hapart
    simp only [not_or, not_and, not_le] at hapart
    obtain ⟨hne, hborders, hlow, hhigh⟩ := hapart
    grind
  · rintro (rfl | rfl | ⟨hx, hy⟩ | ⟨hx, hy⟩)
    · rfl
    · grind
    · rw [min_eq_right (hx.trans h), max_eq_left hx, min_eq_right (hy.trans h), max_eq_left hy]
    · rw [min_eq_left hx, min_eq_left hy]

variable {α : Type u} [AddCommGroup α] [LinearOrder α]

/-- All steps lead in one direction. -/
def OneWay (steps : List α) : Prop := (∀ m ∈ steps, 0 ≤ m) ∨ ∀ m ∈ steps, m ≤ 0

theorem OneWay.tail {m : α} {steps : List α} (h : OneWay (m :: steps)) : OneWay steps :=
  h.imp (fun hall n hn => hall n (List.mem_cons_of_mem _ hn))
    (fun hall n hn => hall n (List.mem_cons_of_mem _ hn))

variable [IsOrderedAddMonoid α] {lo hi : α}

/-- The rest of the way has the sign of the first step. -/
theorem OneWay.sum_tail {m : α} {steps : List α} (h : OneWay (m :: steps)) :
    (0 ≤ m ∧ 0 ≤ steps.sum) ∨ (m ≤ 0 ∧ steps.sum ≤ 0) := by
  refine h.imp (fun hall => ⟨hall m List.mem_cons_self, ?_⟩)
    (fun hall => ⟨hall m List.mem_cons_self, ?_⟩)
  · exact List.sum_nonneg fun n hn => hall n (List.mem_cons_of_mem _ hn)
  · simpa using List.sum_le_card_nsmul steps 0 fun n hn => hall n (List.mem_cons_of_mem _ hn)

/-- A step on in the same direction from where the last one was cut off. -/
theorem projIcc_projIcc_add (h : lo ≤ hi) (x : Set.Icc lo hi) {m n : α}
    (hsign : (0 ≤ m ∧ 0 ≤ n) ∨ (m ≤ 0 ∧ n ≤ 0)) :
    Set.projIcc lo hi h (Set.projIcc lo hi h (x + m) + n) = Set.projIcc lo hi h (x + m + n) := by
  by_cases hmem : (x : α) + m ∈ Set.Icc lo hi
  · rw [Set.projIcc_of_mem h hmem]
  · -- a border was crossed, and the second step leads further away from it
    rcases hsign with ⟨hm, hn⟩ | ⟨hm, hn⟩
    · have hbeyond : hi ≤ x + m := by
        by_contra hin
        exact hmem ⟨x.2.1.trans (le_add_of_nonneg_right hm), (not_le.1 hin).le⟩
      rw [Set.projIcc_of_right_le h hbeyond,
        Set.projIcc_of_right_le h (le_add_of_nonneg_right hn),
        Set.projIcc_of_right_le h (hbeyond.trans (le_add_of_nonneg_right hn))]
    · have hbeyond : x + m ≤ lo := by
        by_contra hin
        exact hmem ⟨(not_le.1 hin).le, (add_le_of_nonpos_right hm).trans x.2.2⟩
      rw [Set.projIcc_of_le_left h hbeyond,
        Set.projIcc_of_le_left h (add_le_of_nonpos_right hn),
        Set.projIcc_of_le_left h ((add_le_of_nonpos_right hn).trans hbeyond)]

/-- A walk in one direction that is cut off after every step ends where one step would. -/
theorem foldl_projIcc (h : lo ≤ hi) (steps : List α) :
    ∀ x : Set.Icc lo hi, OneWay steps →
      steps.foldl (fun y m => Set.projIcc lo hi h (y + m)) x =
        Set.projIcc lo hi h (x + steps.sum) := by
  induction steps with
  | nil =>
      intro x _
      simp
  | cons m steps ih =>
      intro x hsteps
      calc
        (m :: steps).foldl (fun y m => Set.projIcc lo hi h (y + m)) x
            = Set.projIcc lo hi h (Set.projIcc lo hi h (x + m) + steps.sum) := by
              rw [List.foldl_cons, ih _ hsteps.tail]
        _ = Set.projIcc lo hi h (x + m + steps.sum) :=
              projIcc_projIcc_add h x hsteps.sum_tail
        _ = Set.projIcc lo hi h (x + (m :: steps).sum) := by
              rw [List.sum_cons, add_assoc]

end SeamlessServer
