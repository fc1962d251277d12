import Mathlib.Data.List.Infix

/-!
# Data.Loop — loops that break

A loop over a list that passes over what is not due, takes what is, and stops after the first thing it
has taken that does not let it go on.
-/

namespace SeamlessServer

variable {α : Type} {due due' passes passes' : α → Prop} {order : List α} {a b : α}

/-- `a` is due, and the loop comes to its turn. -/
def Taken (due passes : α → Prop) (order : List α) (a : α) : Prop :=
  ∃ before, before ++ [a] <+: order ∧ due a ∧ ∀ b ∈ before, due b → passes b

theorem Taken.is_due (h : Taken due passes order a) : due a := by
  obtain ⟨_, _, hdue, _⟩ := h
  exact hdue

theorem Taken.mem (h : Taken due passes order a) : a ∈ order := by
  obtain ⟨before, hprefix, _⟩ := h
  exact hprefix.subset (List.mem_append_right _ List.mem_cons_self)

theorem not_taken_nil : ¬ Taken due passes [] a := fun h => absurd h.mem List.not_mem_nil

/-- The first turn, and what follows it. -/
theorem taken_cons :
    Taken due passes (b :: order) a ↔
      (a = b ∧ due b) ∨ (Taken due passes order a ∧ (due b → passes b)) := by
  constructor
  · rintro ⟨before, hprefix, hdue, hpass⟩
    cases before with
    | nil =>
        obtain rfl : a = b := (List.cons_prefix_cons.1 hprefix).1
        exact .inl ⟨rfl, hdue⟩
    | cons c before =>
        obtain ⟨rfl, hrest⟩ := List.cons_prefix_cons.1 hprefix
        exact .inr ⟨⟨before, hrest, hdue, fun d hd => hpass d (List.mem_cons_of_mem _ hd)⟩,
          hpass c List.mem_cons_self⟩
  · rintro (⟨rfl, hdue⟩ | ⟨⟨before, hrest, hdue, hpass⟩, hb⟩)
    · exact ⟨[], List.cons_prefix_cons.2 ⟨rfl, List.nil_prefix⟩, hdue, by simp⟩
    · refine ⟨b :: before, List.cons_prefix_cons.2 ⟨rfl, hrest⟩, hdue, fun c hc => ?_⟩
      rcases List.mem_cons.1 hc with rfl | hc
      · exact hb
      · exact hpass c hc

theorem taken_cons_of_not_due (hb : ¬ due b) :
    Taken due passes (b :: order) a ↔ Taken due passes order a := by
  rw [taken_cons]
  constructor
  · rintro (⟨-, hdue⟩ | ⟨htaken, -⟩)
    · exact absurd hdue hb
    · exact htaken
  · exact fun htaken => .inr ⟨htaken, fun hdue => absurd hdue hb⟩

theorem taken_cons_of_passes (hb : due b) (hpass : passes b) :
    Taken due passes (b :: order) a ↔ a = b ∨ Taken due passes order a := by
  rw [taken_cons]
  constructor
  · rintro (⟨heq, -⟩ | ⟨htaken, -⟩)
    · exact .inl heq
    · exact .inr htaken
  · rintro (heq | htaken)
    · exact .inl ⟨heq, hb⟩
    · exact .inr ⟨htaken, fun _ => hpass⟩

/-- The loop breaks. -/
theorem taken_cons_of_not_passes (hb : due b) (hpass : ¬ passes b) :
    Taken due passes (b :: order) a ↔ a = b := by
  rw [taken_cons]
  constructor
  · rintro (⟨heq, -⟩ | ⟨-, hgo⟩)
    · exact heq
    · exact absurd (hgo hb) hpass
  · exact fun heq => .inl ⟨heq, hb⟩

/-- What is taken depends on what is in the list only. -/
theorem taken_congr (hdue : ∀ b ∈ order, due b ↔ due' b)
    (hpass : ∀ b ∈ order, passes b ↔ passes' b) :
    Taken due passes order a ↔ Taken due' passes' order a := by
  induction order with
  | nil => exact iff_of_false not_taken_nil not_taken_nil
  | cons b order ih =>
      rw [taken_cons, taken_cons, hdue b List.mem_cons_self, hpass b List.mem_cons_self,
        ih (fun c hc => hdue c (List.mem_cons_of_mem _ hc))
          (fun c hc => hpass c (List.mem_cons_of_mem _ hc))]

end SeamlessServer
