import Mathlib.Data.Set.Insert
import Mathlib.Data.List.Nodup

/-!
# EditScript — scripts that maintain a set

A script inserts, erases and visits elements of a set.  It *runs* from one set to another if every
insertion meets an absent element and every erasure and visit a present one.  Queues of update
messages for a replicated set are such scripts: that a queue runs says that none of its messages
will fail, and where the set ends up.

* `Runs` is defined by recursion over the script;
* `runs_append` composes scripts;
* `runs_erase_insert` is the exchange of one part of a set for another.
-/

namespace SeamlessServer

universe u

/-- One edit of a set. -/
inductive Edit (α : Type u)
  | insert (a : α)
  | erase (a : α)
  | visit (a : α)

namespace Edit

variable {α : Type u} {C M T : Set α}

/-- The element an edit is about. -/
def target : Edit α → α
  | .insert a => a
  | .erase a => a
  | .visit a => a

/-- The script is applicable from the first set on and ends in the second. -/
def Runs : Set α → List (Edit α) → Set α → Prop
  | C, [], T => C = T
  | C, .insert a :: script, T => a ∉ C ∧ Runs (Insert.insert a C) script T
  | C, .erase a :: script, T => a ∈ C ∧ Runs (C \ {a}) script T
  | C, .visit a :: script, T => a ∈ C ∧ Runs C script T

theorem Runs.nil (C : Set α) : Runs C [] C := rfl

/-- The edit meets the set it expects. -/
def Applicable : Edit α → Set α → Prop
  | .insert a, C => a ∉ C
  | .erase a, C => a ∈ C
  | .visit a, C => a ∈ C

/-- The set after an edit. -/
def after : Edit α → Set α → Set α
  | .insert a, C => Insert.insert a C
  | .erase a, C => C \ {a}
  | .visit _, C => C

theorem runs_cons {edit : Edit α} {script : List (Edit α)} :
    Runs C (edit :: script) T ↔ edit.Applicable C ∧ Runs (edit.after C) script T := by
  cases edit <;> exact Iff.rfl

/-- Scripts compose. -/
theorem runs_append (script script' : List (Edit α)) :
    ∀ C, Runs C (script ++ script') T ↔ ∃ M, Runs C script M ∧ Runs M script' T := by
  induction script with
  | nil =>
      intro C
      constructor
      · intro h
        exact ⟨C, rfl, h⟩
      · rintro ⟨M, rfl, h⟩
        exact h
  | cons edit script ih =>
      intro C
      cases edit with
      | insert a =>
          simp only [List.cons_append, Runs, ih]
          constructor
          · rintro ⟨ha, M, h, h'⟩
            exact ⟨M, ⟨ha, h⟩, h'⟩
          · rintro ⟨M, ⟨ha, h⟩, h'⟩
            exact ⟨ha, M, h, h'⟩
      | erase a =>
          simp only [List.cons_append, Runs, ih]
          constructor
          · rintro ⟨ha, M, h, h'⟩
            exact ⟨M, ⟨ha, h⟩, h'⟩
          · rintro ⟨M, ⟨ha, h⟩, h'⟩
            exact ⟨ha, M, h, h'⟩
      | visit a =>
          simp only [List.cons_append, Runs, ih]
          constructor
          · rintro ⟨ha, M, h, h'⟩
            exact ⟨M, ⟨ha, h⟩, h'⟩
          · rintro ⟨M, ⟨ha, h⟩, h'⟩
            exact ⟨ha, M, h, h'⟩

theorem Runs.append {script script' : List (Edit α)} (h : Runs C script M)
    (h' : Runs M script' T) : Runs C (script ++ script') T :=
  (runs_append script script' C).2 ⟨M, h, h'⟩

/-- A script ends in one set only. -/
theorem Runs.unique {script : List (Edit α)} :
    ∀ {C : Set α}, Runs C script T → Runs C script M → T = M := by
  induction script with
  | nil =>
      rintro C rfl rfl
      rfl
  | cons edit script ih =>
      intro C h h'
      exact ih (runs_cons.1 h).2 (runs_cons.1 h').2

/-- An element that no edit is about can be added throughout. -/
theorem Runs.frame {script : List (Edit α)} {a : α} :
    ∀ {C : Set α}, (∀ edit ∈ script, edit.target ≠ a) → Runs C script T →
      Runs (Insert.insert a C) script (Insert.insert a T) := by
  induction script with
  | nil =>
      rintro C _ rfl
      exact rfl
  | cons edit script ih =>
      intro C hapart h
      have hrest := fun {C : Set α} => ih (C := C) fun e he => hapart e (List.mem_cons_of_mem _ he)
      have hne : edit.target ≠ a := hapart edit List.mem_cons_self
      cases edit with
      | insert b =>
          refine ⟨?_, ?_⟩
          · rintro (hb | hb)
            · exact hne hb
            · exact h.1 hb
          · rw [Set.insert_comm]
            exact hrest h.2
      | erase b =>
          refine ⟨.inr h.1, ?_⟩
          have hset : Insert.insert a C \ {b} = Insert.insert a (C \ {b}) := by
            ext c
            simp only [Set.mem_sdiff, Set.mem_insert_iff, Set.mem_singleton_iff]
            constructor
            · rintro ⟨hc | hc, hcb⟩
              · exact .inl hc
              · exact .inr ⟨hc, hcb⟩
            · rintro (hc | ⟨hc, hcb⟩)
              · exact ⟨.inl hc, fun hcb => hne (hcb.symm.trans hc)⟩
              · exact ⟨.inr hc, hcb⟩
          rw [hset]
          exact hrest h.2
      | visit b =>
          exact ⟨.inr h.1, hrest h.2⟩

/-- Inserting new elements, each once. -/
theorem runs_insert (as : List α) :
    ∀ C : Set α, as.Nodup → (∀ a ∈ as, a ∉ C) →
      Runs C (as.map Edit.insert) (C ∪ {a | a ∈ as}) := by
  induction as with
  | nil =>
      intro C _ _
      simp [Runs]
  | cons a as ih =>
      intro C hnodup hnew
      have hrest := ih (Insert.insert a C) (List.nodup_cons.1 hnodup).2 (by
        intro b hb
        have hba : b ≠ a := by
          rintro rfl
          exact (List.nodup_cons.1 hnodup).1 hb
        simp [hba, hnew b (List.mem_cons_of_mem _ hb)])
      refine ⟨hnew a List.mem_cons_self, ?_⟩
      have hset : Insert.insert a C ∪ {b | b ∈ as} = C ∪ {b | b ∈ a :: as} := by
        ext b
        simp only [Set.mem_union, Set.mem_insert_iff, Set.mem_ofPred_eq, List.mem_cons]
        tauto
      exact hset ▸ hrest

/-- Erasing present elements, each once. -/
theorem runs_erase (as : List α) :
    ∀ C : Set α, as.Nodup → (∀ a ∈ as, a ∈ C) →
      Runs C (as.map Edit.erase) (C \ {a | a ∈ as}) := by
  induction as with
  | nil =>
      intro C _ _
      change C = C \ {a | a ∈ []}
      ext b
      simp
  | cons a as ih =>
      intro C hnodup hold
      have hrest := ih (C \ {a}) (List.nodup_cons.1 hnodup).2 (by
        intro b hb
        have hba : b ≠ a := by
          rintro rfl
          exact (List.nodup_cons.1 hnodup).1 hb
        exact ⟨hold b (List.mem_cons_of_mem _ hb), hba⟩)
      refine ⟨hold a List.mem_cons_self, ?_⟩
      have hset : (C \ {a}) \ {b | b ∈ as} = C \ {b | b ∈ a :: as} := by
        ext b
        simp only [Set.mem_sdiff, Set.mem_singleton_iff, Set.mem_ofPred_eq, List.mem_cons]
        tauto
      exact hset ▸ hrest

/-- Visiting present elements changes nothing. -/
theorem runs_visit (as : List α) (h : ∀ a ∈ as, a ∈ C) : Runs C (as.map Edit.visit) C := by
  induction as with
  | nil =>
      exact rfl
  | cons a as ih =>
      exact ⟨h a List.mem_cons_self, ih fun b hb => h b (List.mem_cons_of_mem _ hb)⟩

/-- Erasing one part and inserting another. -/
theorem runs_erase_insert {as bs : List α} (has : as.Nodup) (hbs : bs.Nodup)
    (hold : ∀ a ∈ as, a ∈ C) (hnew : ∀ b ∈ bs, b ∈ C → b ∈ as)
    (hT : ∀ x, x ∈ T ↔ (x ∈ C ∧ x ∉ as) ∨ x ∈ bs) :
    Runs C (as.map Edit.erase ++ bs.map Edit.insert) T := by
  have hinsert := runs_insert bs (C \ {a | a ∈ as}) hbs (by
    rintro b hb ⟨hbC, hbas⟩
    exact hbas (hnew b hb hbC))
  have hset : C \ {a | a ∈ as} ∪ {b | b ∈ bs} = T := by
    ext x
    simp only [Set.mem_union, Set.mem_sdiff, Set.mem_ofPred_eq, hT]
  exact (runs_erase as C has hold).append (hset ▸ hinsert)

/-! ## Sets that lack elements -/

/-- An edit, if there is one, is made to a set that may lack some of the elements it is meant for: a
visit may add what it visits. -/
structure Applied (edit : Option (Edit α)) (C C' : Set α) : Prop where
  of_mem : ∀ a ∈ C', (a ∈ C ∧ edit ≠ some (.erase a)) ∨ edit = some (.insert a) ∨
    edit = some (.visit a)
  mem : ∀ a, (a ∈ C ∧ edit ≠ some (.erase a)) ∨ edit = some (.insert a) → a ∈ C'

namespace Applied

variable {edit : Edit α} {C' : Set α}

theorem eq_of_none (h : Applied none C C') : C' = C := by
  ext a
  constructor
  · intro ha
    rcases h.of_mem a ha with ⟨hC, _⟩ | hnone | hnone
    · exact hC
    · cases hnone
    · cases hnone
  · intro ha
    exact h.mem a (.inl ⟨ha, fun hnone => by cases hnone⟩)

/-- Nothing comes in that is not there. -/
theorem subset_after (h : Applied (some edit) C C') (hC : C ⊆ M) (happlicable : edit.Applicable M) :
    C' ⊆ edit.after M := by
  intro a ha
  rcases h.of_mem a ha with ⟨hold, hkept⟩ | hinsert | hvisit
  · have hM := hC hold
    cases edit with
    | insert b =>
        exact .inr hM
    | erase b =>
        exact ⟨hM, fun heq => hkept (by rw [Set.mem_singleton_iff.1 heq])⟩
    | visit b =>
        exact hM
  · cases hinsert
    exact .inl rfl
  · -- what is visited is there
    cases hvisit
    exact happlicable

/-- Nothing is missing that was not missing before. -/
theorem after_subset (h : Applied (some edit) C C') (hC : M ⊆ C) : edit.after M ⊆ C' := by
  intro a ha
  cases edit with
  | insert b =>
      rcases ha with rfl | ha
      · exact h.mem a (.inr rfl)
      · exact h.mem a (.inl ⟨hC ha, fun herase => by cases herase⟩)
  | erase b =>
      refine h.mem a (.inl ⟨hC ha.1, ?_⟩)
      rintro ⟨⟩
      exact ha.2 rfl
  | visit b =>
      exact h.mem a (.inl ⟨hC ha, fun herase => by cases herase⟩)

end Applied

end Edit

end SeamlessServer
