import SeamlessServer.Data.EditScript
import SeamlessServer.Game.Geometry
import SeamlessServer.Game.World

/-!
# Game.Observers — which observers an exchange removes and creates

`ExchangeObservingObject` cancels sectors that appear among the old and the new observers.  Its
loops stop at invalid entries, so they may miss some of the common sectors; those are removed and
created again.  Either way the removals followed by the creations lead from the old observers to
the new ones (`exchange_runs`).
-/

namespace SeamlessServer
namespace Game

open World

/-- The valid entries of an array of sectors. -/
def validSectors (sectors : List Nat) : List Nat := sectors.filter (· ≠ invalidSector)

@[simp] theorem validSectors_nil : validSectors [] = [] := rfl

@[simp] theorem validSectors_append (l l' : List Nat) :
    validSectors (l ++ l') = validSectors l ++ validSectors l' := by
  simp [validSectors]

theorem validSectors_cons_invalid (l : List Nat) :
    validSectors (invalidSector :: l) = validSectors l := by
  simp [validSectors]

theorem validSectors_cons {x : Nat} (hx : x ≠ invalidSector) (l : List Nat) :
    validSectors (x :: l) = x :: validSectors l := by
  simp [validSectors, hx]

theorem ne_invalid_of_lt {x : Nat} (hx : x < sectorCount) : x ≠ invalidSector := by
  simp only [sectorCount] at hx
  simp only [invalidSector]
  omega

theorem validSectors_getNearSectors (s : Nat) (p : Direction) :
    validSectors (getNearSectors s p) = nearSectors s p := by
  have hpad : validSectors (List.replicate (3 - (nearSectors s p).length) invalidSector) = [] := by
    simp [validSectors]
  have hvalid : validSectors (nearSectors s p) = nearSectors s p := by
    simp [validSectors, nearSectors]
  simp only [getNearSectors, validSectors_append, hpad, hvalid, List.append_nil]

/-- Invalidating one sector in an array. -/
theorem validSectors_invalidate (x : Nat) (l : List Nat) :
    validSectors (l.map fun id => if id = x then invalidSector else id) =
      (validSectors l).filter (· ≠ x) := by
  induction l with
  | nil =>
      rfl
  | cons a l ih =>
      by_cases hax : a = x
      · subst hax
        have hmap : (a :: l).map (fun id => if id = a then invalidSector else id) =
            invalidSector :: l.map (fun id => if id = a then invalidSector else id) := by
          simp
        rw [hmap, validSectors_cons_invalid, ih]
        by_cases hinvalid : a = invalidSector
        · rw [hinvalid, validSectors_cons_invalid]
        · simp [validSectors_cons hinvalid]
      · have hmap : (a :: l).map (fun id => if id = x then invalidSector else id) =
            a :: l.map (fun id => if id = x then invalidSector else id) := by
          simp [hax]
        rw [hmap]
        by_cases hinvalid : a = invalidSector
        · rw [hinvalid, validSectors_cons_invalid, validSectors_cons_invalid, ih]
        · simp [validSectors_cons hinvalid, ih, hax]

/-! ## The cancellation -/

/-- A successful inner loop replaces one entry. -/
theorem cancelIn_spec {x : Nat} {new new' : List Nat} (h : cancelIn x new = some new') :
    ∃ l l', new = l ++ x :: l' ∧ new' = l ++ invalidSector :: l' := by
  induction new generalizing new' with
  | nil =>
      simp [cancelIn] at h
  | cons a new ih =>
      by_cases hinvalid : a = invalidSector
      · simp [cancelIn, hinvalid] at h
      · by_cases hxa : x = a
        · have h' : new' = invalidSector :: new := by
            simpa [cancelIn, hinvalid, hxa, eq_comm] using h
          exact ⟨[], new, by simp [hxa], h'⟩
        · have h' : ∃ rest, cancelIn x new = some rest ∧ a :: rest = new' := by
            simpa [cancelIn, hinvalid, hxa] using h
          rcases h' with ⟨rest, hrest, rfl⟩
          rcases ih hrest with ⟨l, l', rfl, rfl⟩
          exact ⟨a :: l, l', rfl, rfl⟩

/-- What the two loops do to arrays without repeated entries: some common sectors disappear from
both, nothing else changes. -/
structure Cancelled (prev new prev' new' : List Nat) (common : List Nat) : Prop where
  mem_prev : ∀ x ∈ common, x ∈ validSectors prev
  mem_new : ∀ x ∈ common, x ∈ validSectors new
  prev_iff : ∀ x, x ∈ validSectors prev' ↔ x ∈ validSectors prev ∧ x ∉ common
  new_iff : ∀ x, x ∈ validSectors new' ↔ x ∈ validSectors new ∧ x ∉ common
  prev_nodup : (validSectors prev').Nodup
  new_nodup : (validSectors new').Nodup

theorem cancelled_refl {prev new : List Nat} (hprev : (validSectors prev).Nodup)
    (hnew : (validSectors new).Nodup) : Cancelled prev new prev new [] :=
  ⟨by simp, by simp, by simp, by simp, hprev, hnew⟩

/-- A sector that is in both arrays is struck from the second one. -/
theorem validSectors_cancelIn {a : Nat} {new new' : List Nat} (ha : a ≠ invalidSector)
    (hnew : (validSectors new).Nodup) (h : cancelIn a new = some new') :
    a ∈ validSectors new ∧ (validSectors new').Nodup ∧
      ∀ x, x ∈ validSectors new' ↔ x ∈ validSectors new ∧ x ≠ a := by
  rcases cancelIn_spec h with ⟨l, l', rfl, rfl⟩
  rw [validSectors_append, validSectors_cons ha, List.nodup_middle] at hnew
  rw [validSectors_append, validSectors_append, validSectors_cons_invalid, validSectors_cons ha]
  refine ⟨by simp, (List.nodup_cons.1 hnew).2, fun x => ?_⟩
  have hout := (List.nodup_cons.1 hnew).1
  simp only [List.mem_append, List.mem_cons] at hout ⊢
  constructor
  · intro hx
    refine ⟨by tauto, ?_⟩
    rintro rfl
    exact hout hx
  · tauto

/-- The first sector is struck from both arrays. -/
theorem Cancelled.strike {a : Nat} {prev new new' prev'' new'' common : List Nat}
    (h : Cancelled prev new' prev'' new'' common) (ha : a ≠ invalidSector)
    (hprev : a ∉ validSectors prev) (hmem : a ∈ validSectors new)
    (hnew : ∀ x, x ∈ validSectors new' ↔ x ∈ validSectors new ∧ x ≠ a) :
    Cancelled (a :: prev) new (invalidSector :: prev'') new'' (a :: common) where
  mem_prev := by
    intro x hx
    rw [validSectors_cons ha]
    rcases List.mem_cons.1 hx with rfl | hx
    · exact List.mem_cons_self
    · exact List.mem_cons_of_mem _ (h.mem_prev x hx)
  mem_new := by
    intro x hx
    rcases List.mem_cons.1 hx with rfl | hx
    · exact hmem
    · exact ((hnew x).1 (h.mem_new x hx)).1
  prev_iff := by
    intro x
    rw [validSectors_cons_invalid, validSectors_cons ha, h.prev_iff]
    simp only [List.mem_cons, not_or]
    constructor
    · rintro ⟨hx, hcommon⟩
      refine ⟨.inr hx, ?_, hcommon⟩
      rintro rfl
      exact hprev hx
    · tauto
  new_iff := by
    intro x
    rw [h.new_iff, hnew]
    simp only [List.mem_cons, not_or]
    tauto
  prev_nodup := by
    rw [validSectors_cons_invalid]
    exact h.prev_nodup
  new_nodup := h.new_nodup

/-- The first sector is in the first array only, and stays there. -/
theorem Cancelled.keep {a : Nat} {prev new prev' new' common : List Nat}
    (h : Cancelled prev new prev' new' common) (ha : a ≠ invalidSector)
    (hprev : a ∉ validSectors prev) : Cancelled (a :: prev) new (a :: prev') new' common where
  mem_prev := by
    intro x hx
    rw [validSectors_cons ha]
    exact List.mem_cons_of_mem _ (h.mem_prev x hx)
  mem_new := h.mem_new
  prev_iff := by
    intro x
    rw [validSectors_cons ha, validSectors_cons ha, List.mem_cons, List.mem_cons, h.prev_iff]
    constructor
    · rintro (rfl | ⟨hx, hcommon⟩)
      · exact ⟨.inl rfl, fun hx => hprev (h.mem_prev x hx)⟩
      · exact ⟨.inr hx, hcommon⟩
    · tauto
  new_iff := h.new_iff
  prev_nodup := by
    rw [validSectors_cons ha, List.nodup_cons]
    exact ⟨fun hmem => hprev ((h.prev_iff a).1 hmem).1, h.prev_nodup⟩
  new_nodup := h.new_nodup

/-- The two loops, by induction on the first array; the second one changes on the way. -/
theorem cancelOverlap_spec (prev : List Nat) :
    ∀ new, (validSectors prev).Nodup → (validSectors new).Nodup →
      ∃ common, Cancelled prev new (cancelOverlap prev new).1 (cancelOverlap prev new).2 common := by
  induction prev with
  | nil =>
      intro new hprev hnew
      exact ⟨[], cancelled_refl hprev hnew⟩
  | cons a prev ih =>
      intro new hprev hnew
      by_cases hinvalid : a = invalidSector
      · -- the loop ends at the first invalid entry
        have heq : cancelOverlap (a :: prev) new = (a :: prev, new) := by
          simp [cancelOverlap, hinvalid]
        rw [heq]
        exact ⟨[], cancelled_refl hprev hnew⟩
      · rw [validSectors_cons hinvalid, List.nodup_cons] at hprev
        cases hcancel : cancelIn a new with
        | some new' =>
            have heq : cancelOverlap (a :: prev) new =
                (invalidSector :: (cancelOverlap prev new').1, (cancelOverlap prev new').2) := by
              simp [cancelOverlap, hinvalid, hcancel]
            rcases validSectors_cancelIn hinvalid hnew hcancel with ⟨hmem, hnodup, hstruck⟩
            rcases ih new' hprev.2 hnodup with ⟨common, hrest⟩
            rw [heq]
            exact ⟨a :: common, hrest.strike hinvalid hprev.1 hmem hstruck⟩
        | none =>
            have heq : cancelOverlap (a :: prev) new =
                (a :: (cancelOverlap prev new).1, (cancelOverlap prev new).2) := by
              simp [cancelOverlap, hinvalid, hcancel]
            rcases ih new hprev.2 hnew with ⟨common, hrest⟩
            rw [heq]
            exact ⟨common, hrest.keep hinvalid hprev.1⟩

/-! ## The exchange -/

/-- The sectors an exchange removes the object from. -/
def removedSectors (phase : Direction) (s : Nat) (newPhase : Direction) (d : Nat) : List Nat :=
  if phase ≠ .Max then validSectors (exchangeSectors phase s newPhase d).1 else []

/-- The sectors an exchange creates the object in. -/
def createdSectors (phase : Direction) (s : Nat) (newPhase : Direction) (d : Nat) : List Nat :=
  if newPhase ≠ .Max then validSectors (exchangeSectors phase s newPhase d).2 else []

section Exchange

variable {s d : Nat} {p q : Direction}

/-- Removed and created sectors in terms of the old and new observers. -/
theorem exchangeSectors_spec (hs : s < sectorCount) (hd : d < sectorCount) (p q : Direction) :
    ∃ common : List Nat,
      (∀ x ∈ common, (x ∈ nearSectors s p ∨ x = s) ∧ x ∈ nearSectors d q) ∧
      (p = .Max ∨ q = .Max → common = []) ∧
      (∀ x, x ∈ validSectors (exchangeSectors p s q d).1 ↔
        ((x ∈ nearSectors s p ∨ x = s) ∧ x ∉ common) ∧ x ≠ d) ∧
      (∀ x, x ∈ validSectors (exchangeSectors p s q d).2 ↔
        (x ∈ nearSectors d q ∧ x ∉ common) ∧ x ≠ s) ∧
      (validSectors (exchangeSectors p s q d).1).Nodup ∧
      (validSectors (exchangeSectors p s q d).2).Nodup := by
  have hprev : validSectors (getNearSectors s p ++ [s]) = nearSectors s p ++ [s] := by
    rw [validSectors_append, validSectors_getNearSectors, validSectors_cons (ne_invalid_of_lt hs),
      validSectors_nil]
  have hnew : validSectors (getNearSectors d q) = nearSectors d q := validSectors_getNearSectors d q
  have hprevNodup : (validSectors (getNearSectors s p ++ [s])).Nodup := by
    rw [hprev, List.nodup_append]
    refine ⟨nodup_nearSectors hs p, List.nodup_singleton s, ?_⟩
    intro x hx y hy
    rw [List.mem_singleton.1 hy]
    exact ne_of_mem_nearSectors hs hx
  have hnewNodup : (validSectors (getNearSectors d q)).Nodup := hnew ▸ nodup_nearSectors hd q
  -- both the cancelled and the uncancelled arrays fit one description
  have hcancelled : ∃ common, (p = .Max ∨ q = .Max → common = []) ∧
      Cancelled (getNearSectors s p ++ [s]) (getNearSectors d q)
        (if p ≠ .Max ∧ q ≠ .Max then cancelOverlap (getNearSectors s p ++ [s]) (getNearSectors d q)
          else (getNearSectors s p ++ [s], getNearSectors d q)).1
        (if p ≠ .Max ∧ q ≠ .Max then cancelOverlap (getNearSectors s p ++ [s]) (getNearSectors d q)
          else (getNearSectors s p ++ [s], getNearSectors d q)).2 common := by
    by_cases hboth : p ≠ .Max ∧ q ≠ .Max
    · rcases cancelOverlap_spec _ _ hprevNodup hnewNodup with ⟨common, hc⟩
      refine ⟨common, fun h => ?_, by simpa [hboth] using hc⟩
      rcases h with h | h
      · exact absurd h hboth.1
      · exact absurd h hboth.2
    · refine ⟨[], fun _ => rfl, ?_⟩
      simpa only [hboth, if_false] using cancelled_refl hprevNodup hnewNodup
  rcases hcancelled with ⟨common, hmax, hc⟩
  have hmemPrev : ∀ x, x ∈ validSectors (getNearSectors s p ++ [s]) ↔
      (x ∈ nearSectors s p ∨ x = s) := by
    intro x
    simp [hprev]
  refine ⟨common, ?_, hmax, ?_, ?_, ?_, ?_⟩
  · intro x hx
    exact ⟨(hmemPrev x).1 (hc.mem_prev x hx), hnew ▸ hc.mem_new x hx⟩
  · intro x
    simp only [exchangeSectors, validSectors_invalidate, List.mem_filter, hc.prev_iff, hmemPrev,
      decide_eq_true_eq]
  · intro x
    simp only [exchangeSectors, validSectors_invalidate, List.mem_filter, hc.new_iff, hnew,
      decide_eq_true_eq]
  · simp only [exchangeSectors, validSectors_invalidate]
    exact hc.prev_nodup.filter _
  · simp only [exchangeSectors, validSectors_invalidate]
    exact hc.new_nodup.filter _

/-- The removals and then the creations lead from the old observers, the old sector included, to the
new ones. -/
theorem exchange_runs (hs : s < sectorCount) (hd : d < sectorCount) (hp : p ≠ .Max ∨ s = d)
    (hfar : s ∉ nearSectors d q) :
    Edit.Runs {x | (x ∈ nearSectors s p ∨ x = s) ∧ x ≠ d}
      ((removedSectors p s q d).map Edit.erase ++ (createdSectors p s q d).map Edit.insert)
      {x | x ∈ nearSectors d q} := by
  rcases exchangeSectors_spec hs hd p q with ⟨common, hcommon, hmax, hprev, hnew, hprevNodup,
    hnewNodup⟩
  have hself : ∀ x, x ∈ nearSectors d q → x ≠ s ∧ x ≠ d := by
    intro x hx
    refine ⟨?_, ne_of_mem_nearSectors hd hx⟩
    rintro rfl
    exact hfar hx
  have hremoved : ∀ x, x ∈ removedSectors p s q d ↔
      ((x ∈ nearSectors s p ∨ x = s) ∧ x ∉ common) ∧ x ≠ d := by
    intro x
    by_cases hpMax : p = .Max
    · -- without a phase nothing is removed, and there was nothing to remove
      subst hpMax
      have hsd : s = d := hp.resolve_left (by simp)
      simp only [removedSectors, ne_eq, not_true_eq_false, if_false, nearSectors_max,
        List.not_mem_nil, false_or, false_iff]
      rintro ⟨⟨rfl, _⟩, hne⟩
      exact hne hsd
    · simp only [removedSectors, ne_eq, hpMax, not_false_eq_true, if_true, hprev]
  have hcreated : ∀ x, x ∈ createdSectors p s q d ↔ x ∈ nearSectors d q ∧ x ∉ common := by
    intro x
    by_cases hqMax : q = .Max
    · subst hqMax
      simp [createdSectors, nearSectors_max]
    · simp only [createdSectors, ne_eq, hqMax, not_false_eq_true, if_true, hnew]
      constructor
      · rintro ⟨h, _⟩
        exact h
      · intro h
        exact ⟨h, (hself x h.1).1⟩
  refine Edit.runs_erase_insert ?_ ?_ ?_ ?_ ?_
  · unfold removedSectors
    split_ifs
    · exact hprevNodup
    · exact List.nodup_nil
  · unfold createdSectors
    split_ifs
    · exact hnewNodup
    · exact List.nodup_nil
  · intro x hx
    rw [hremoved] at hx
    exact ⟨hx.1.1, hx.2⟩
  · intro x hx hxC
    rw [hcreated] at hx
    rw [hremoved]
    exact ⟨⟨hxC.1, hx.2⟩, hxC.2⟩
  · intro x
    rw [hremoved, hcreated]
    simp only [Set.mem_ofPred_eq]
    constructor
    · intro hx
      by_cases hxc : x ∈ common
      · exact .inl ⟨⟨(hcommon x hxc).1, (hself x hx).2⟩, fun h => h.1.2 hxc⟩
      · exact .inr ⟨hx, hxc⟩
    · rintro (⟨⟨hmem, hne⟩, hnot⟩ | ⟨hx, _⟩)
      · have hxc : x ∈ common := by
          by_contra hxc
          exact hnot ⟨⟨hmem, hxc⟩, hne⟩
        exact (hcommon x hxc).2
      · exact hx

end Exchange

end Game
end SeamlessServer
