import Mathlib.Data.List.Induction

/-!
# History — what of the past still stands

A history is a list of events, the latest last.  `Since set clear es` says that an event of the
history sets something and that no later one clears it; whether an event sets or clears may depend on
the events before it.  It is the past-time operator by which one reads a cell of a store off the
events alone: a cell that every event sets, clears or leaves as it is holds exactly a `Since`
(`since_of_latch`).
-/

namespace SeamlessServer

universe u v

namespace History

variable {ε : Type u} {σ : Type v}

/-- Some event sets and none after it clears. -/
def Since (set clear : List ε → ε → Prop) (es : List ε) : Prop :=
  ∃ before e after, es = before ++ e :: after ∧ set before e ∧
    ∀ mid e' rest, after = mid ++ e' :: rest → ¬ clear (before ++ e :: mid) e'

/-- The event `a` occurs and none after it clears. -/
def Stands (a : ε) (clear : ε → Prop) (es : List ε) : Prop :=
  ∃ before after, es = before ++ a :: after ∧ ∀ e ∈ after, ¬ clear e

/-- Every event meets a condition on the events before it. -/
def Each (p : List ε → ε → Prop) (es : List ε) : Prop :=
  ∀ before e after, es = before ++ e :: after → p before e

variable {set clear : List ε → ε → Prop}

/-- An event of a longer history is its latest one, or lies in what was there before. -/
theorem split_append_singleton {es before after : List ε} {e a : ε}
    (h : es ++ [e] = before ++ a :: after) :
    (es = before ∧ e = a ∧ after = []) ∨ ∃ mid, after = mid ++ [e] ∧ es = before ++ a :: mid := by
  rcases List.eq_nil_or_concat after with rfl | ⟨mid, last, rfl⟩
  · obtain ⟨hes, hlast⟩ := List.append_inj' h rfl
    cases hlast
    exact .inl ⟨hes, rfl, rfl⟩
  · rw [List.concat_eq_append, ← List.cons_append, ← List.append_assoc] at h
    obtain ⟨hes, hlast⟩ := List.append_inj' h rfl
    cases hlast
    exact .inr ⟨mid, List.concat_eq_append, hes⟩

theorem not_since_nil : ¬ Since set clear [] := by
  rintro ⟨before, e, after, hes, -⟩
  simp at hes

/-- The rule by which a `Since` unfolds over the latest event. -/
theorem since_append_singleton (es : List ε) (e : ε) :
    Since set clear (es ++ [e]) ↔ set es e ∨ (Since set clear es ∧ ¬ clear es e) := by
  constructor
  · rintro ⟨before, a, after, hes, hset, hclear⟩
    rcases split_append_singleton hes with ⟨rfl, rfl, rfl⟩ | ⟨after, rfl, rfl⟩
    · -- the latest event is the one that sets
      exact .inl hset
    · -- an earlier event sets, and the latest one is among those that do not clear
      refine .inr ⟨⟨before, a, after, rfl, hset, ?_⟩, ?_⟩
      · intro mid e' rest hmid
        exact hclear mid e' (rest ++ [e]) (by simp [hmid])
      · exact hclear after e [] (by simp)
  · rintro (hset | ⟨⟨before, a, after, rfl, hset, hclear⟩, hlast⟩)
    · exact ⟨es, e, [], rfl, hset, by simp⟩
    · refine ⟨before, a, after ++ [e], by simp, hset, ?_⟩
      intro mid e' rest hmid
      rcases split_append_singleton hmid with ⟨rfl, rfl, rfl⟩ | ⟨rest, rfl, hafter⟩
      · exact hlast
      · exact hclear mid e' rest hafter

theorem not_stands_nil {a : ε} {clear : ε → Prop} : ¬ Stands a clear [] := by
  rintro ⟨before, after, hes, -⟩
  simp at hes

theorem stands_iff_since (a : ε) (clear : ε → Prop) (es : List ε) :
    Stands a clear es ↔ Since (fun _ e => e = a) (fun _ e => clear e) es := by
  constructor
  · rintro ⟨before, after, hes, hclear⟩
    refine ⟨before, a, after, hes, rfl, ?_⟩
    rintro mid e' rest rfl
    exact hclear e' (by simp)
  · rintro ⟨before, e, after, hes, rfl, hclear⟩
    refine ⟨before, after, hes, fun e' he' => ?_⟩
    obtain ⟨mid, rest, hmid⟩ := List.append_of_mem he'
    exact hclear mid e' rest hmid

theorem stands_append_singleton {a : ε} {clear : ε → Prop} (es : List ε) (e : ε) :
    Stands a clear (es ++ [e]) ↔ e = a ∨ (Stands a clear es ∧ ¬ clear e) := by
  simp only [stands_iff_since, since_append_singleton]

theorem each_nil (p : List ε → ε → Prop) : Each p [] := by
  intro before e after hes
  simp at hes

theorem each_append_singleton {p : List ε → ε → Prop} (es : List ε) (e : ε) :
    Each p (es ++ [e]) ↔ Each p es ∧ p es e := by
  constructor
  · intro h
    refine ⟨?_, h es e [] rfl⟩
    rintro before a after rfl
    exact h before a (after ++ [e]) (by simp)
  · rintro ⟨hes, he⟩ before a after hsplit
    rcases split_append_singleton hsplit with ⟨rfl, rfl, rfl⟩ | ⟨after, rfl, hes'⟩
    · exact he
    · exact hes before a after hes'

/-- Among histories of one kind, a property that a history keeps exactly as long as its events meet a
condition holds all along exactly when all events meet it. -/
theorem forall_prefix_iff_each_of {P : List ε → Prop} {p q : List ε → ε → Prop} (hnil : P [])
    (hstep : ∀ es e, Each q es → q es e → P es → (P (es ++ [e]) ↔ p es e)) {es : List ε}
    (hkind : Each q es) : (∀ before, before <+: es → P before) ↔ Each p es := by
  induction es using List.reverseRecOn with
  | nil =>
      refine iff_of_true (fun before hbefore => ?_) (each_nil p)
      rwa [List.prefix_nil.1 hbefore]
  | append_singleton es e ih =>
      obtain ⟨hes, he⟩ := (each_append_singleton es e).1 hkind
      rw [each_append_singleton, ← ih hes]
      constructor
      · intro h
        have hshort : ∀ before, before <+: es → P before := fun before hbefore =>
          h before (hbefore.trans (List.prefix_append es [e]))
        have hlast := hstep es e hes he (hshort es (List.prefix_refl es))
        exact ⟨hshort, hlast.1 (h _ (List.prefix_refl _))⟩
      · rintro ⟨hshort, hcond⟩ before hbefore
        rcases List.prefix_concat_iff.1 hbefore with rfl | hbefore
        · exact (hstep es e hes he (hshort es (List.prefix_refl es))).2 hcond
        · exact hshort before hbefore

theorem forall_prefix_iff_each {P : List ε → Prop} {p : List ε → ε → Prop} (hnil : P [])
    (hstep : ∀ es e, P es → (P (es ++ [e]) ↔ p es e)) (es : List ε) :
    (∀ before, before <+: es → P before) ↔ Each p es :=
  forall_prefix_iff_each_of (q := fun _ _ => True) hnil (fun es e _ _ h => hstep es e h)
    (fun _ _ _ _ => trivial)

theorem each_congr {p q : List ε → ε → Prop} (h : ∀ es e, p es e ↔ q es e) (es : List ε) :
    Each p es ↔ Each q es :=
  ⟨fun hp before e after hes => (h before e).1 (hp before e after hes),
    fun hq before e after hes => (h before e).2 (hq before e after hes)⟩

/-! ## Cells of a store -/

section Latch

variable {next : σ → ε → σ} {start : σ} {Q : σ → Prop}

/-- A cell is empty at the start, and every event sets it, clears it or leaves it as it is: it is full
after a history exactly when an event set it and none has cleared it since. -/
theorem since_of_latch (hstart : ¬ Q start)
    (hstep : ∀ (es : List ε) (e : ε), Q (next (es.foldl next start) e) ↔
      set es e ∨ (Q (es.foldl next start) ∧ ¬ clear es e)) (es : List ε) :
    Q (es.foldl next start) ↔ Since set clear es := by
  induction es using List.reverseRecOn with
  | nil =>
      exact iff_of_false hstart not_since_nil
  | append_singleton es e ih =>
      rw [List.foldl_append, List.foldl_cons, List.foldl_nil, since_append_singleton, hstep, ih]

theorem stands_of_latch {a : ε} {clear : ε → Prop} (hstart : ¬ Q start)
    (hstep : ∀ (es : List ε) (e : ε), Q (next (es.foldl next start) e) ↔
      e = a ∨ (Q (es.foldl next start) ∧ ¬ clear e)) (es : List ε) :
    Q (es.foldl next start) ↔ Stands a clear es := by
  rw [stands_iff_since]
  exact since_of_latch hstart hstep es

/-- What every event keeps holds after a history. -/
theorem foldl_invariant {P : σ → Prop} (hstart : P start) (hstep : ∀ s e, P s → P (next s e))
    (es : List ε) : P (es.foldl next start) := by
  induction es using List.reverseRecOn with
  | nil =>
      exact hstart
  | append_singleton es e ih =>
      rw [List.foldl_append, List.foldl_cons, List.foldl_nil]
      exact hstep _ _ ih

end Latch

end History

end SeamlessServer
