import Mathlib.Data.Set.Function
import Mathlib.Logic.Function.Basic

/-!
# Handles — a table that holds handles to resources

A table gives some of its keys a handle, and a registry has a set of live handles.  `OneToOne` says
that every live handle is held under one key and every held one is live.

Where every handle knows its key as well, the two tables are each other's inverse (`Mirrored`).
-/

namespace SeamlessServer

universe u v

variable {κ : Type u} {α : Type v}

/-- The keys with a handle and the live handles are in one-to-one correspondence. -/
structure OneToOne (held : κ → Option α) (live : Set α) : Prop where
  mem_live : ∀ {k a}, held k = some a → a ∈ live
  injective : ∀ {k k' a}, held k = some a → held k' = some a → k = k'
  exists_key : ∀ {a}, a ∈ live → ∃ k, held k = some a

namespace OneToOne

variable {held : κ → Option α} {live : Set α} {k : κ} {a : α}

theorem empty : OneToOne (fun _ : κ => (none : Option α)) ∅ where
  mem_live := fun h => (by cases h)
  injective := fun h => (by cases h)
  exists_key := fun h => h.elim

/-- The correspondence as a bijection. -/
theorem bijOn [Inhabited α] (h : OneToOne held live) :
    Set.BijOn (fun k => (held k).getD default) {k | (held k).isSome = true} live := by
  refine ⟨fun k hk => ?_, fun k hk k' hk' heq => ?_, fun a ha => ?_⟩
  · obtain ⟨a, ha⟩ := Option.isSome_iff_exists.1 hk
    change (held k).getD default ∈ live
    rw [ha]
    exact h.mem_live ha
  · obtain ⟨a, ha⟩ := Option.isSome_iff_exists.1 hk
    obtain ⟨a', ha'⟩ := Option.isSome_iff_exists.1 hk'
    simp only [ha, ha', Option.getD_some] at heq
    exact h.injective ha (heq ▸ ha')
  · obtain ⟨k, hk⟩ := h.exists_key ha
    exact ⟨k, by simp [hk], by simp [hk]⟩

section Mutation

variable [DecidableEq κ]

/-- A key gets a new handle. -/
theorem acquire (h : OneToOne held live) (hk : held k = none) (ha : a ∉ live) :
    OneToOne (Function.update held k (some a)) (insert a live) := by
  -- an entry is the new one, or an old one under another key
  have hcases : ∀ {k' a'}, Function.update held k (some a) k' = some a' →
      (k' = k ∧ a' = a) ∨ (k' ≠ k ∧ held k' = some a') := by
    intro k' a' hk'
    by_cases heq : k' = k
    · rw [heq, Function.update_self] at hk'
      cases hk'
      exact .inl ⟨heq, rfl⟩
    · rw [Function.update_of_ne heq] at hk'
      exact .inr ⟨heq, hk'⟩
  refine ⟨fun hk' => ?_, fun hk₁ hk₂ => ?_, fun ha' => ?_⟩
  · rcases hcases hk' with ⟨_, rfl⟩ | ⟨_, hold⟩
    · exact Set.mem_insert _ _
    · exact Set.mem_insert_of_mem _ (h.mem_live hold)
  · rcases hcases hk₁ with ⟨rfl, rfl⟩ | ⟨_, hold₁⟩
    · rcases hcases hk₂ with ⟨rfl, _⟩ | ⟨_, hold₂⟩
      · rfl
      · exact absurd (h.mem_live hold₂) ha
    · rcases hcases hk₂ with ⟨_, rfl⟩ | ⟨_, hold₂⟩
      · exact absurd (h.mem_live hold₁) ha
      · exact h.injective hold₁ hold₂
  · rcases Set.mem_insert_iff.1 ha' with rfl | hold
    · exact ⟨k, Function.update_self _ _ _⟩
    · obtain ⟨k', hk'⟩ := h.exists_key hold
      have hne : k' ≠ k := by
        rintro rfl
        rw [hk] at hk'
        cases hk'
      exact ⟨k', (Function.update_of_ne hne _ _).trans hk'⟩

/-- A handle is given up together with its entry. -/
theorem release (h : OneToOne held live) (hk : held k = some a) :
    OneToOne (Function.update held k none) (live \ {a}) := by
  have hcases : ∀ {k' a'}, Function.update held k none k' = some a' → k' ≠ k ∧ held k' = some a' := by
    intro k' a' hk'
    by_cases heq : k' = k
    · rw [heq, Function.update_self] at hk'
      cases hk'
    · rw [Function.update_of_ne heq] at hk'
      exact ⟨heq, hk'⟩
  refine ⟨fun hk' => ?_, fun hk₁ hk₂ => ?_, fun ha' => ?_⟩
  · obtain ⟨hne, hold⟩ := hcases hk'
    refine ⟨h.mem_live hold, fun heq => hne (h.injective hold ?_)⟩
    rw [Set.mem_singleton_iff.1 heq]
    exact hk
  · exact h.injective (hcases hk₁).2 (hcases hk₂).2
  · obtain ⟨k', hk'⟩ := h.exists_key ha'.1
    have hne : k' ≠ k := by
      rintro rfl
      rw [hk] at hk'
      cases hk'
      exact ha'.2 rfl
    exact ⟨k', (Function.update_of_ne hne _ _).trans hk'⟩

end Mutation

end OneToOne

/-! ## Handles that know their key -/

/-- A key has a handle exactly if the handle has the key. -/
def Mirrored (held : κ → Option α) (ref : α → Option κ) : Prop :=
  ∀ k a, held k = some a ↔ ref a = some k

namespace Mirrored

variable {held : κ → Option α} {ref : α → Option κ} {k : κ} {a : α}

theorem oneToOne (h : Mirrored held ref) : OneToOne held {a | (ref a).isSome = true} where
  mem_live := fun hk => Option.isSome_iff_exists.2 ⟨_, (h _ _).1 hk⟩
  injective := fun hk hk' => Option.some.inj (((h _ _).1 hk).symm.trans ((h _ _).1 hk'))
  exists_key := fun ha => (Option.isSome_iff_exists.1 ha).imp fun _ hk => (h _ _).2 hk

/-- Without live handles the table is empty. -/
theorem held_eq_none (h : Mirrored held ref) (hnone : ∀ a, ref a = none) (k : κ) : held k = none := by
  cases hk : held k with
  | none =>
      rfl
  | some a =>
      have href := (h k a).1 hk
      rw [hnone a] at href
      cases href

section Mutation

variable [DecidableEq κ] [DecidableEq α]

theorem link (h : Mirrored held ref) (hk : held k = none) (ha : ref a = none) :
    Mirrored (Function.update held k (some a)) (Function.update ref a (some k)) := by
  intro k' a'
  by_cases hk' : k' = k
  · subst hk'
    by_cases ha' : a' = a
    · simp [ha']
    · -- neither the new key nor an old handle
      rw [Function.update_self, Function.update_of_ne ha', ← h, hk]
      exact iff_of_false (fun heq => ha' (Option.some.inj heq).symm) (by simp)
  · by_cases ha' : a' = a
    · subst ha'
      rw [Function.update_self, Function.update_of_ne hk', h, ha]
      exact iff_of_false (by simp) fun heq => hk' (Option.some.inj heq).symm
    · rw [Function.update_of_ne hk', Function.update_of_ne ha']
      exact h k' a'

theorem unlink (h : Mirrored held ref) (hk : held k = some a) :
    Mirrored (Function.update held k none) (Function.update ref a none) := by
  intro k' a'
  by_cases hk' : k' = k
  · subst hk'
    by_cases ha' : a' = a
    · simp [ha']
    · -- the key had one handle only
      rw [Function.update_self, Function.update_of_ne ha', ← h, hk]
      exact iff_of_false (by simp) fun heq => ha' (Option.some.inj heq).symm
  · by_cases ha' : a' = a
    · subst ha'
      rw [Function.update_self, Function.update_of_ne hk', h, (h k a').1 hk]
      exact iff_of_false (fun heq => hk' (Option.some.inj heq).symm) (by simp)
    · rw [Function.update_of_ne hk', Function.update_of_ne ha']
      exact h k' a'

end Mutation

end Mirrored

end SeamlessServer
