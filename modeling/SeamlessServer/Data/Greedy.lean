import Mathlib.Logic.Function.Basic

/-!
# Greedy — handing out units to whoever has least

Every unit goes to an eligible receiver that has no more than any other eligible one.  Whoever has
received a unit is then never ahead of anybody eligible by more than that unit
(`GreedyRun.balanced`), whatever the loads were at the start.
-/

namespace SeamlessServer

universe u

variable {ι : Type u} [DecidableEq ι]

/-- The receivers of the units, in order, with the loads before and after. -/
inductive GreedyRun (eligible : ι → Prop) : (ι → Nat) → List ι → (ι → Nat) → Prop where
  | nil (load : ι → Nat) : GreedyRun eligible load [] load
  | cons {load load' : ι → Nat} {i : ι} {receivers : List ι} :
      eligible i → (∀ j, eligible j → load i ≤ load j) →
        GreedyRun eligible (Function.update load i (load i + 1)) receivers load' →
          GreedyRun eligible load (i :: receivers) load'

namespace GreedyRun

variable {eligible : ι → Prop} {load load' : ι → Nat} {receivers : List ι}

theorem eligible_of_mem (h : GreedyRun eligible load receivers load') {i : ι}
    (hi : i ∈ receivers) : eligible i := by
  induction h with
  | nil load =>
      cases hi
  | cons helig _ _ ih =>
      rcases List.mem_cons.1 hi with rfl | hi
      · exact helig
      · exact ih hi

/-- A run goes on with the next unit. -/
theorem append (h : GreedyRun eligible load receivers load') {i : ι} (helig : eligible i)
    (hleast : ∀ j, eligible j → load' i ≤ load' j) :
    GreedyRun eligible load (receivers ++ [i]) (Function.update load' i (load' i + 1)) := by
  induction h with
  | nil load =>
      exact .cons helig hleast (.nil _)
  | cons hfirst hfirst' _ ih =>
      exact .cons hfirst hfirst' (ih hleast)

/-- A unit of load more for `i` leaves nobody with less. -/
theorem le_update_succ (load : ι → Nat) (i j : ι) :
    load j ≤ Function.update load i (load i + 1) j := by
  rw [Function.update_apply]
  split
  next h => rw [h]; exact Nat.le_succ _
  next => exact Nat.le_refl _

/-- Who is ahead by at most a unit stays so, and so does everyone who receives. -/
theorem ahead (h : GreedyRun eligible load receivers load') {i : ι}
    (hi : (∀ j, eligible j → load i ≤ load j + 1) ∨ i ∈ receivers) :
    ∀ j, eligible j → load' i ≤ load' j + 1 := by
  induction h with
  | nil load =>
      -- without a unit there is no receiver
      rcases hi with hahead | hmem
      · exact hahead
      · cases hmem
  | @cons load load' k receivers helig hleast _ ih =>
      by_cases hik : i = k
      · -- the receiver of this unit had least, so it is now one ahead at most
        refine ih (.inl fun j hj => ?_)
        calc
          Function.update load k (load k + 1) i
              = load k + 1 := by rw [hik, Function.update_self]
          _ ≤ load j + 1 := Nat.succ_le_succ (hleast j hj)
          _ ≤ Function.update load k (load k + 1) j + 1 :=
                Nat.succ_le_succ (le_update_succ load k j)
      · rcases hi with hahead | hmem
        · -- somebody else receives, which puts nobody further behind
          refine ih (.inl fun j hj => ?_)
          calc
            Function.update load k (load k + 1) i
                = load i := Function.update_of_ne hik _ _
            _ ≤ load j + 1 := hahead j hj
            _ ≤ Function.update load k (load k + 1) j + 1 :=
                  Nat.succ_le_succ (le_update_succ load k j)
        · exact ih (.inr ((List.mem_cons.1 hmem).resolve_left hik))

/-- A receiver has at most one unit more than anyone eligible. -/
theorem balanced (h : GreedyRun eligible load receivers load') {i j : ι} (hi : i ∈ receivers)
    (hj : eligible j) : load' i ≤ load' j + 1 :=
  h.ahead (.inr hi) j hj

end GreedyRun

end SeamlessServer
