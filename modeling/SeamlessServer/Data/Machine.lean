import Mathlib.Logic.Relation

/-!
# Machine — labelled transition systems and their invariants

A machine has initial states and labelled steps.  Everything that is proved "in every reachable
state" goes through the one induction `Machine.Reachable.invariant`.

`Machine.restrict` cuts a machine down to the steps that meet a condition on the state before the
step and on the label.  It is the shape in which a conditional guarantee is stated: the
restricted machine keeps an invariant that the full one may break.
-/

namespace SeamlessServer

universe u v

/-- A labelled transition system. -/
structure Machine (σ : Type u) (ε : Type v) where
  init : σ → Prop
  step : σ → ε → σ → Prop

namespace Machine

variable {σ : Type u} {ε : Type v} {M : Machine σ ε}

/-- The states a run can reach. -/
inductive Reachable (M : Machine σ ε) : σ → Prop where
  | init {s : σ} : M.init s → Reachable M s
  | step {s s' : σ} {e : ε} : Reachable M s → M.step s e s' → Reachable M s'

/-- A property of the initial states that every step preserves holds in every reachable state. -/
theorem Reachable.invariant {P : σ → Prop}
    (hinit : ∀ s, M.init s → P s)
    (hstep : ∀ s e s', P s → M.step s e s' → P s') :
    ∀ {s : σ}, M.Reachable s → P s := by
  intro s h
  induction h with
  | init h =>
      exact hinit _ h
  | step _ hs ih =>
      exact hstep _ _ _ ih hs

/-- The machine whose steps are those of `M` that meet `cond`. -/
def restrict (M : Machine σ ε) (cond : σ → ε → Prop) : Machine σ ε where
  init := M.init
  step := fun s e s' => cond s e ∧ M.step s e s'

/-- Fewer conditions reach more states. -/
theorem Reachable.mono {cond cond' : σ → ε → Prop} (hcond : ∀ s e, cond s e → cond' s e) {s : σ}
    (h : (M.restrict cond).Reachable s) : (M.restrict cond').Reachable s := by
  induction h with
  | init h =>
      exact .init h
  | step _ hs ih =>
      exact .step ih ⟨hcond _ _ hs.1, hs.2⟩

/-- A run under a condition goes on with a step that meets it. -/
theorem Reachable.step_restrict {cond : σ → ε → Prop} {s s' : σ} {e : ε}
    (h : (M.restrict cond).Reachable s) (hstep : M.step s e s') (hcond : cond s e) :
    (M.restrict cond).Reachable s' :=
  .step h ⟨hcond, hstep⟩

/-- A run under a condition is a run. -/
theorem Reachable.of_restrict {cond : σ → ε → Prop} {s : σ} (h : (M.restrict cond).Reachable s) :
    M.Reachable s := by
  induction h with
  | init h =>
      exact .init h
  | step _ hs ih =>
      exact .step ih hs.2

/-! ## Runs -/

/-- A finite run from `s` to `s'` under the given labels. -/
inductive Run (M : Machine σ ε) : σ → List ε → σ → Prop where
  | nil (s : σ) : Run M s [] s
  | cons {s s₁ s' : σ} {e : ε} {es : List ε} :
      M.step s e s₁ → Run M s₁ es s' → Run M s (e :: es) s'

theorem Run.reachable {s s' : σ} {es : List ε} (h : M.Run s es s') :
    M.Reachable s → M.Reachable s' := by
  induction h with
  | nil s =>
      intro hs
      exact hs
  | cons hstep _ ih =>
      intro hs
      exact ih (Reachable.step hs hstep)

/-- A run goes on with a step. -/
theorem Run.append {s s' s'' : σ} {es : List ε} {e : ε} (h : M.Run s es s')
    (hstep : M.step s' e s'') : M.Run s (es ++ [e]) s'' := by
  induction h with
  | nil s =>
      exact .cons hstep (.nil _)
  | cons hfirst _ ih =>
      exact .cons hfirst (ih hstep)

/-- Runs one after the other. -/
theorem Run.trans {s s' s'' : σ} {es es' : List ε} (h : M.Run s es s') (h' : M.Run s' es' s'') :
    M.Run s (es ++ es') s'' := by
  induction h with
  | nil s =>
      exact h'
  | cons hfirst _ ih =>
      exact .cons hfirst (ih h')

/-- What every step of a run keeps holds at its end. -/
theorem Run.invariant {P : σ → Prop} {s s' : σ} {es : List ε} (h : M.Run s es s')
    (hstep : ∀ s, ∀ e ∈ es, ∀ s', P s → M.step s e s' → P s') : P s → P s' := by
  induction h with
  | nil s =>
      intro hs
      exact hs
  | cons hfirst _ ih =>
      intro hs
      exact ih (fun s e he s' => hstep s e (List.mem_cons_of_mem _ he) s')
        (hstep _ _ List.mem_cons_self _ hs hfirst)

/-- A run meets a condition if and only if its steps leave a measure as it is that the steps
meeting the condition keep and all others make grow. -/
theorem Run.restrict_iff (cond : σ → ε → Prop) (measure : σ → Nat)
    (hkeep : ∀ {s e s'}, M.step s e s' → cond s e → measure s' = measure s)
    (hgrow : ∀ {s e s'}, M.step s e s' → ¬ cond s e → measure s < measure s')
    {s s' : σ} {es : List ε} (h : M.Run s es s') :
    measure s ≤ measure s' ∧ ((M.restrict cond).Run s es s' ↔ measure s' = measure s) := by
  have hmono : ∀ {s e s'}, M.step s e s' → measure s ≤ measure s' := by
    intro s e s' hstep
    by_cases hcond : cond s e
    · exact Nat.le_of_eq (hkeep hstep hcond).symm
    · exact Nat.le_of_lt (hgrow hstep hcond)
  induction h with
  | nil s =>
      exact ⟨Nat.le_refl _, fun _ => rfl, fun _ => .nil s⟩
  | @cons s s₁ s' e es hfirst _ ih =>
      refine ⟨Nat.le_trans (hmono hfirst) ih.1, fun hrun => ?_, fun heq => ?_⟩
      · -- a run of the restricted machine keeps the measure, step by step
        exact hrun.invariant (fun t e _ t' ht hstep => (hkeep hstep.2 hstep.1).trans ht) rfl
      · have hsame : measure s₁ = measure s :=
          Nat.le_antisymm (Nat.le_trans ih.1 (Nat.le_of_eq heq)) (hmono hfirst)
        have hcond : cond s e := Classical.byContradiction fun hne =>
          absurd hsame (Nat.ne_of_gt (hgrow hfirst hne))
        exact .cons ⟨hcond, hfirst⟩ (ih.2.2 (heq.trans hsame.symm))

/-! ## Replay -/

section Replay

variable (guard : σ → ε → Prop) [∀ s, DecidablePred (guard s)] (next : σ → ε → σ)

/-- The run of a deterministic machine through the given labels, each of which passes the guard. -/
def replay : σ → List ε → Option σ
  | s, [] => some s
  | s, e :: es => if guard s e then replay (next s e) es else none

variable {guard next}

theorem Run.of_replay (hstep : ∀ s e, guard s e → M.step s e (next s e)) (es : List ε) :
    ∀ {s s' : σ}, Machine.replay guard next s es = some s' → M.Run s es s' := by
  induction es with
  | nil =>
      intro s s' h
      cases h
      exact .nil s
  | cons e es ih =>
      intro s s' h
      unfold Machine.replay at h
      split at h
      next hguard =>
        exact .cons (hstep s e hguard) (ih h)
      next =>
        cases h

theorem Reachable.replay (hstep : ∀ s e, guard s e → M.step s e (next s e)) (es : List ε) {s s' : σ}
    (hs : M.Reachable s) (h : Machine.replay guard next s es = some s') : M.Reachable s' :=
  (Run.of_replay hstep es h).reachable hs

/-- A run under a stricter guard is a run. -/
theorem replay_mono {guard' : σ → ε → Prop} [∀ s e, Decidable (guard' s e)]
    (hguard : ∀ s e, guard s e → guard' s e) (es : List ε) :
    ∀ {s s' : σ}, replay guard next s es = some s' → replay guard' next s es = some s' := by
  induction es with
  | nil =>
      intro s s' h
      exact h
  | cons e es ih =>
      intro s s' h
      unfold replay at h ⊢
      split at h
      next hmet =>
        rw [if_pos (hguard s e hmet)]
        exact ih h
      next =>
        cases h

/-- A replay ends in a reachable state, or where it began. -/
theorem Reachable.replay_getD (hstep : ∀ s e, guard s e → M.step s e (next s e)) (es : List ε) {s : σ}
    (hs : M.Reachable s) : M.Reachable ((Machine.replay guard next s es).getD s) := by
  cases h : Machine.replay guard next s es with
  | none =>
      exact hs
  | some s' =>
      exact Reachable.replay hstep es hs h

/-- The labels of a run that meets a condition. -/
theorem Reachable.replay_restrict {cond : σ → ε → Prop} [∀ s e, Decidable (cond s e)]
    (hstep : ∀ s e, guard s e → M.step s e (next s e)) {es : List ε} {s : σ}
    (hs : (M.restrict cond).Reachable s)
    (h : (Machine.replay (fun s e => cond s e ∧ guard s e) next s es).isSome = true) :
    (M.restrict cond).Reachable ((Machine.replay guard next s es).getD s) := by
  obtain ⟨s', hs'⟩ := Option.isSome_iff_exists.1 h
  rw [replay_mono (fun _ _ hmet => hmet.2) es hs']
  exact Reachable.replay (M := M.restrict cond) (fun s e hmet => ⟨hmet.1, hstep s e hmet.2⟩) es hs
    hs'

end Replay

end Machine

end SeamlessServer
