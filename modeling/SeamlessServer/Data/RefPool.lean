import Mathlib.Data.List.Count
import Mathlib.Data.Set.Basic
import Mathlib.Logic.Function.Basic

/-!
# RefPool — a pool of objects that count their references

The free objects are a stack.  An object comes back to it by itself when its last reference is
released.  `Sound` says that the stack holds exactly the objects without a reference, each once, so
an object that is also pushed by hand is in the stack twice (`Sound.count_release_push`).
-/

namespace SeamlessServer

universe u

/-- A stack of free objects and the reference counts of all objects. -/
structure RefPool (ι : Type u) where
  free : List ι
  references : ι → Nat

namespace RefPool

variable {ι : Type u} (p : RefPool ι) (i : ι)

def push : RefPool ι := { p with free := i :: p.free }

/-- Takes the top of the stack. -/
def pop : Option (ι × RefPool ι) :=
  match p.free with
  | [] => none
  | i :: rest => some (i, { p with free := rest })

section Stack

variable {p i}

@[simp] theorem free_push : (p.push i).free = i :: p.free := rfl

theorem pop_eq_none : p.pop = none ↔ p.free = [] := by
  unfold pop
  cases p.free <;> simp

theorem pop_eq_some {p' : RefPool ι} :
    p.pop = some (i, p') ↔ p.free = i :: p'.free ∧ p'.references = p.references := by
  obtain ⟨free', references'⟩ := p'
  unfold pop
  cases p.free with
  | nil =>
      simp
  | cons j rest =>
      simp only [Option.some.injEq, Prod.mk.injEq, RefPool.mk.injEq, List.cons.injEq]
      exact ⟨fun h => ⟨⟨h.1, h.2.1⟩, h.2.2.symm⟩, fun h => ⟨h.1.1, h.1.2, h.2.symm⟩⟩

end Stack

variable [DecidableEq ι]

def retain : RefPool ι :=
  { p with references := Function.update p.references i (p.references i + 1) }

/-- One reference less, and back to the stack with the last one. -/
def release : RefPool ι :=
  let p' : RefPool ι :=
    { p with references := Function.update p.references i (p.references i - 1) }
  if p.references i - 1 = 0 then p'.push i else p'

section Counts

variable {p i} {j : ι}

@[simp] theorem free_retain : (p.retain i).free = p.free := rfl

theorem references_retain :
    (p.retain i).references j = p.references j + if j = i then 1 else 0 := by
  by_cases h : j = i
  · rw [h]
    simp [retain]
  · simp [retain, h]

theorem references_release :
    (p.release i).references j = p.references j - if j = i then 1 else 0 := by
  have hupdate : (p.release i).references =
      Function.update p.references i (p.references i - 1) := by
    unfold release
    split <;> rfl
  rw [hupdate]
  by_cases h : j = i
  · rw [h]
    simp
  · simp [h]

theorem free_release :
    (p.release i).free = if p.references i - 1 = 0 then i :: p.free else p.free := by
  unfold release
  split <;> rfl

end Counts

/-- The stack holds the members without a reference, each once, and nothing else. -/
structure Sound (members : Set ι) (p : RefPool ι) : Prop where
  count_free : ∀ {i}, i ∈ members → p.references i = 0 → p.free.count i = 1
  not_free : ∀ {i}, 0 < p.references i → i ∈ members ∧ i ∉ p.free
  member : ∀ {i}, i ∈ p.free → i ∈ members

namespace Sound

variable {members : Set ι} {p p' : RefPool ι} {i : ι}

/-- All members are free at first. -/
theorem new {all : List ι} (hall : all.Nodup) :
    Sound {i | i ∈ all} { free := all, references := fun _ => 0 } where
  count_free := fun hi _ => hall.count.trans (if_pos hi)
  not_free := fun h => absurd h (Nat.lt_irrefl 0)
  member := fun hi => hi

theorem references_of_free (h : Sound members p) (hi : i ∈ p.free) : p.references i = 0 := by
  by_contra hne
  exact (h.not_free (Nat.pos_of_ne_zero hne)).2 hi

/-- A free object is taken from the stack and gets its first reference. -/
theorem pop_retain (h : Sound members p) (hpop : p.pop = some (i, p')) :
    Sound members (p'.retain i) := by
  obtain ⟨hfree, hreferences⟩ := pop_eq_some.1 hpop
  have hi : i ∈ p.free := by
    rw [hfree]
    exact List.mem_cons_self
  have hcount : ∀ j, p.free.count j = p'.free.count j + if j = i then 1 else 0 := by
    intro j
    rw [hfree, List.count_cons]
    simp only [beq_iff_eq, @eq_comm _ i j]
  -- the stack held it once
  have honce : p'.free.count i = 0 := by
    have hone := h.count_free (h.member hi) (h.references_of_free hi)
    rw [hcount i, if_pos rfl] at hone
    omega
  constructor
  case count_free =>
    intro j hj hzero
    rw [references_retain, hreferences] at hzero
    by_cases heq : j = i
    · rw [if_pos heq] at hzero
      omega
    · have hone := h.count_free hj (by omega)
      rw [hcount j, if_neg heq] at hone
      simpa using hone
  case not_free =>
    intro j hj
    rw [references_retain, hreferences] at hj
    by_cases heq : j = i
    · rw [heq]
      exact ⟨h.member hi, List.count_eq_zero.1 honce⟩
    · rw [if_neg heq] at hj
      obtain ⟨hmember, hnot⟩ := h.not_free hj
      exact ⟨hmember, fun hin => hnot (hfree ▸ List.mem_cons_of_mem _ hin)⟩
  case member =>
    intro j hj
    exact h.member (hfree ▸ List.mem_cons_of_mem _ hj)

/-- An object in use gets another reference. -/
theorem retain (h : Sound members p) (hi : 0 < p.references i) : Sound members (p.retain i) := by
  constructor
  case count_free =>
    intro j hj hzero
    rw [references_retain] at hzero
    exact h.count_free hj (by omega)
  case not_free =>
    intro j hj
    by_cases heq : j = i
    · rw [heq]
      exact h.not_free hi
    · rw [references_retain, if_neg heq] at hj
      exact h.not_free hj
  case member =>
    exact h.member

/-- An object in use loses a reference. -/
theorem release (h : Sound members p) (hi : 0 < p.references i) : Sound members (p.release i) := by
  obtain ⟨hmember, hnot⟩ := h.not_free hi
  constructor
  case count_free =>
    intro j hj hzero
    rw [references_release] at hzero
    rw [free_release]
    -- the object itself may have come back
    by_cases heq : j = i
    · rw [heq] at hzero ⊢
      rw [if_pos (by simpa using hzero), List.count_cons_self, List.count_eq_zero.2 hnot]
    · rw [if_neg heq] at hzero
      have hone := h.count_free hj hzero
      split
      next =>
        rw [List.count_cons_of_ne (Ne.symm heq)]
        exact hone
      next =>
        exact hone
  case not_free =>
    intro j hj
    rw [references_release] at hj
    rw [free_release]
    by_cases heq : j = i
    · rw [heq] at hj ⊢
      rw [if_pos rfl] at hj
      rw [if_neg (by omega)]
      exact ⟨hmember, hnot⟩
    · rw [if_neg heq] at hj
      obtain ⟨hj', hnot'⟩ := h.not_free hj
      refine ⟨hj', ?_⟩
      split
      next =>
        exact List.not_mem_cons_of_ne_of_not_mem heq hnot'
      next =>
        exact hnot'
  case member =>
    intro j hj
    rw [free_release] at hj
    split at hj
    next =>
      rcases List.mem_cons.1 hj with rfl | hin
      · exact hmember
      · exact h.member hin
    next =>
      exact h.member hj

/-- An object that has come back by itself and is pushed as well is in the stack twice. -/
theorem count_release_push (h : Sound members p) (hi : p.references i = 1) :
    ((p.release i).push i).free.count i = 2 := by
  have hnot : i ∉ p.free := (h.not_free (by omega)).2
  rw [free_push, free_release, if_pos (by omega), List.count_cons_self, List.count_cons_self,
    List.count_eq_zero.2 hnot]

end Sound

end RefPool

end SeamlessServer
