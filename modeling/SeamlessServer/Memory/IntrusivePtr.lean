import SeamlessServer.Data.History
import SeamlessServer.Data.Holders

/-!
# Memory.IntrusivePtr — handles that count themselves

`common/memory/IntrusivePtr.h` and `common/memory/RefCounter.h`.  A handle points to an object that
counts its handles, and the last one runs the deleter it was given, which returns the object to its
pool.  Handles come and go, and are assigned to each other and to themselves.

The count of an object is an `int32_t`; the calls of deleters are recorded in order.
-/

namespace SeamlessServer
namespace Memory

open History

variable {η ι δ : Type*}

/-- The handles that exist, and the counts of all objects. -/
structure IntrusivePtrs (η ι δ : Type*) where
  live : Finset η := ∅
  ptr : η → Option ι := fun _ => none
  deleter : η → Option δ := fun _ => none
  count : ι → Int32 := fun _ => 0
  /-- The calls of deleters. -/
  deleted : List (Option δ × ι) := []

inductive HandleCall (η ι δ : Type*)
  /-- `IntrusivePtr()` and `IntrusivePtr(nullptr)`. -/
  | constructNull (h : η)
  | construct (h : η) (i : ι) (deleter : δ)
  | copyConstruct (h g : η)
  | moveConstruct (h g : η)
  | copyAssign (h g : η)
  | moveAssign (h g : η)
  | release (h : η)
  | destroy (h : η)
  deriving DecidableEq

namespace IntrusivePtrs

variable [DecidableEq η] [DecidableEq ι] (s : IntrusivePtrs η ι δ)

/-! ## Operations -/

/-- `RefCounter::Retain`. -/
def retain (i : ι) : IntrusivePtrs η ι δ :=
  { s with count := Function.update s.count i (s.count i + 1) }

/-- `Release`. -/
def release (h : η) : IntrusivePtrs η ι δ :=
  match s.ptr h with
  | none => s
  | some i =>
      let result := s.count i - 1
      { s with
        ptr := Function.update s.ptr h none
        deleter := Function.update s.deleter h none
        count := Function.update s.count i result
        deleted := if result = 0 then s.deleted ++ [(s.deleter h, i)] else s.deleted }

def constructNull (h : η) : IntrusivePtrs η ι δ :=
  { s with
    live := insert h s.live
    ptr := Function.update s.ptr h none
    deleter := Function.update s.deleter h none }

def construct (h : η) (i : ι) (deleter : δ) : IntrusivePtrs η ι δ :=
  let s := { s with
    live := insert h s.live
    ptr := Function.update s.ptr h (some i)
    deleter := Function.update s.deleter h (some deleter) }
  s.retain i

/-- The copy assignment reads the pointer of its source after the release of its target. -/
def copyAssign (h g : η) : IntrusivePtrs η ι δ :=
  match s.ptr g with
  | none => s.release h
  | some i =>
      let s := (s.retain i).release h
      { s with
        ptr := Function.update s.ptr h (s.ptr g)
        deleter := Function.update s.deleter h (s.deleter g) }

/-- So does the move assignment, which then sets the pointer of its source to null. -/
def moveAssign (h g : η) : IntrusivePtrs η ι δ :=
  match s.ptr g with
  | none => s.release h
  | some _ =>
      let s := s.release h
      { s with
        ptr := Function.update (Function.update s.ptr h (s.ptr g)) g none
        deleter := Function.update s.deleter h (s.deleter g) }

def destroy (h : η) : IntrusivePtrs η ι δ :=
  let s := s.release h
  { s with live := s.live.erase h }

def next : HandleCall η ι δ → IntrusivePtrs η ι δ
  | .constructNull h => s.constructNull h
  | .construct h i deleter => s.construct h i deleter
  | .copyConstruct h g => (s.constructNull h).copyAssign h g
  | .moveConstruct h g => (s.constructNull h).moveAssign h g
  | .copyAssign h g => s.copyAssign h g
  | .moveAssign h g => s.moveAssign h g
  | .release h => s.release h
  | .destroy h => s.destroy h

/-- A handle is constructed once, and used as long as it exists. -/
def Legal : HandleCall η ι δ → Prop
  | .constructNull h => h ∉ s.live
  | .construct h _ _ => h ∉ s.live
  | .copyConstruct h g => h ∉ s.live ∧ g ∈ s.live
  | .moveConstruct h g => h ∉ s.live ∧ g ∈ s.live
  | .copyAssign h g => h ∈ s.live ∧ g ∈ s.live
  | .moveAssign h g => h ∈ s.live ∧ g ∈ s.live
  | .release h => h ∈ s.live
  | .destroy h => h ∈ s.live

/-- The handles and counts after a sequence of calls. -/
def after (calls : List (HandleCall η ι δ)) : IntrusivePtrs η ι δ := calls.foldl next {}

theorem after_append_singleton (calls : List (HandleCall η ι δ)) (c : HandleCall η ι δ) :
    after (calls ++ [c]) = (after calls).next c := List.foldl_concat ..

/-! ## What is to hold -/

/-- The number of handles that hold an object. -/
def held (i : ι) : Nat := holders s.live s.ptr i

/-- How often a deleter was called for an object. -/
def deletions (i : ι) : Nat := s.deleted.countP (·.2 = i)

/-- The count of an object is the number of handles that hold it. -/
def Counted : Prop := ∀ i, (s.count i).toInt = s.held i

/-- The handle that an assignment or a construction takes its object from. -/
def source? : HandleCall η ι δ → Option (η × η)
  | .copyConstruct h g => some (h, g)
  | .moveConstruct h g => some (h, g)
  | .copyAssign h g => some (h, g)
  | .moveAssign h g => some (h, g)
  | _ => none

/-- A handle assigned from a valid one is valid, and a deleter is called for the objects that were held
and are no longer, once for each. -/
structure LetsGo (s : IntrusivePtrs η ι δ) (c : HandleCall η ι δ) : Prop where
  valid : ∀ h g, source? c = some (h, g) → (s.ptr g).isSome → ((s.next c).ptr h).isSome
  deletions : ∀ i, (s.next c).deletions i =
    s.deletions i + if 0 < s.held i ∧ (s.next c).held i = 0 then 1 else 0

/-! ## What a call gives and takes -/

/-- The holders that an object gains. -/
def gained (i : ι) : HandleCall η ι δ → Nat
  | .construct _ j _ => points (some j) i
  | .copyConstruct _ g => points (s.ptr g) i
  | .copyAssign _ g => points (s.ptr g) i
  | _ => 0

/-- The holders that it loses. -/
def lost (i : ι) : HandleCall η ι δ → Nat
  | .copyAssign h _ => points (s.ptr h) i
  | .moveAssign h _ => points (s.ptr h) i
  | .release h => points (s.ptr h) i
  | .destroy h => points (s.ptr h) i
  | _ => 0

/-- A valid handle is assigned to itself. -/
def SelfAssigns : HandleCall η ι δ → Prop
  | .copyAssign h g => h = g ∧ (s.ptr g).isSome
  | .moveAssign h g => h = g ∧ (s.ptr g).isSome
  | _ => False

/-- The call is no self-assignment of a valid handle, and leaves every object with less than `2 ^ 31`
holders. -/
structure Regular (s : IntrusivePtrs η ι δ) (c : HandleCall η ι δ) : Prop where
  apart : ¬ s.SelfAssigns c
  room : ∀ i, s.held i + s.gained i c < 2 ^ 31 + s.lost i c

/-- The counts and the deleters follow what a call gives and takes. -/
structure Exchanges (s s' : IntrusivePtrs η ι δ) (gained lost : ι → Nat) : Prop where
  held : ∀ i, s'.held i + lost i = s.held i + gained i
  count : ∀ i, s'.count i = s.count i + Int32.ofNat (gained i) - Int32.ofNat (lost i)
  deletions : ∀ i, s'.deletions i = s.deletions i +
    if lost i = 1 ∧ s.count i + Int32.ofNat (gained i) - 1 = 0 then 1 else 0

section Release

variable {s}

omit [DecidableEq η] in
theorem count_retain (i j : ι) :
    (s.retain i).count j = s.count j + Int32.ofNat (points (some i) j) := by
  unfold retain points
  by_cases hij : j = i
  · subst hij
    simp
  · simp [hij, Ne.symm hij]

variable (h : η)

@[simp] theorem live_release : (s.release h).live = s.live := by
  unfold release
  cases s.ptr h <;> rfl

theorem ptr_release : (s.release h).ptr = Function.update s.ptr h none := by
  unfold release
  cases hptr : s.ptr h with
  | none => simp [← hptr]
  | some i => rfl

theorem count_release (i : ι) :
    (s.release h).count i = s.count i - Int32.ofNat (points (s.ptr h) i) := by
  unfold release points
  cases hptr : s.ptr h with
  | none => simp
  | some j =>
      by_cases hij : i = j
      · subst hij
        simp
      · simp [hij, Ne.symm hij]

theorem deletions_release (i : ι) :
    (s.release h).deletions i =
      s.deletions i + if points (s.ptr h) i = 1 ∧ s.count i - 1 = 0 then 1 else 0 := by
  unfold release points deletions
  cases hptr : s.ptr h with
  | none => simp
  | some j =>
      by_cases hij : i = j
      · subst hij
        by_cases hlast : s.count i - 1 = 0 <;> simp [hlast, List.countP_append]
      · by_cases hlast : s.count j - 1 = 0 <;> simp [hlast, List.countP_append, Ne.symm hij]

end Release

section Calls

variable {s} {h g : η}

theorem exchanges_release (hmem : h ∈ s.live) :
    Exchanges s (s.release h) (fun _ => 0) (fun i => points (s.ptr h) i) where
  held := by
    intro i
    simp only [held, live_release, ptr_release]
    exact holders_update hmem none i
  count := by
    intro i
    rw [count_release]
    simp
  deletions := by
    intro i
    rw [deletions_release]
    simp

/-- Apart from itself, a handle is assigned what its source holds. -/
theorem ptr_copyAssign (hne : h ≠ g) {i : ι} (hptr : s.ptr g = some i) :
    (s.copyAssign h g).ptr = Function.update s.ptr h (some i) := by
  have hread : ((s.retain i).release h).ptr g = some i := by
    rw [ptr_release, Function.update_of_ne hne.symm]
    exact hptr
  unfold copyAssign
  rw [hptr]
  dsimp only
  rw [hread, ptr_release, Function.update_idem]
  rfl

theorem exchanges_copyAssign (hmem : h ∈ s.live) (hself : ¬ s.SelfAssigns (.copyAssign h g)) :
    Exchanges s (s.copyAssign h g) (fun i => points (s.ptr g) i) (fun i => points (s.ptr h) i) := by
  cases hptr : s.ptr g with
  | none =>
      have hrelease : s.copyAssign h g = s.release h := by
        unfold copyAssign
        rw [hptr]
      rw [hrelease]
      exact exchanges_release hmem
  | some i =>
      have hne : h ≠ g := fun heq => hself ⟨heq, by rw [hptr]; rfl⟩
      have hfields : (s.copyAssign h g).live = s.live ∧
          (s.copyAssign h g).count = ((s.retain i).release h).count ∧
          (s.copyAssign h g).deleted = ((s.retain i).release h).deleted := by
        unfold copyAssign
        rw [hptr]
        exact ⟨live_release h, rfl, rfl⟩
      refine ⟨fun j => ?_, fun j => ?_, fun j => ?_⟩
      · simp only [held, hfields.1, ptr_copyAssign hne hptr]
        exact holders_update hmem (some i) j
      · rw [hfields.2.1, count_release, count_retain]
        rfl
      · have hdeletions : (s.copyAssign h g).deletions j = ((s.retain i).release h).deletions j :=
          congrArg (List.countP _) hfields.2.2
        rw [hdeletions, deletions_release, count_retain]
        rfl

theorem ptr_moveAssign (hne : h ≠ g) {i : ι} (hptr : s.ptr g = some i) :
    (s.moveAssign h g).ptr = Function.update (Function.update s.ptr h (some i)) g none := by
  have hread : (s.release h).ptr g = some i := by
    rw [ptr_release, Function.update_of_ne hne.symm]
    exact hptr
  unfold moveAssign
  rw [hptr]
  dsimp only
  rw [hread, ptr_release, Function.update_idem]

theorem exchanges_moveAssign (hmem : h ∈ s.live) (hmem' : g ∈ s.live)
    (hself : ¬ s.SelfAssigns (.moveAssign h g)) :
    Exchanges s (s.moveAssign h g) (fun _ => 0) (fun i => points (s.ptr h) i) := by
  have hrelease := exchanges_release (s := s) hmem
  cases hptr : s.ptr g with
  | none =>
      have heq : s.moveAssign h g = s.release h := by
        unfold moveAssign
        rw [hptr]
      rw [heq]
      exact hrelease
  | some i =>
      have hne : h ≠ g := fun heq => hself ⟨heq, by rw [hptr]; rfl⟩
      have hfields : (s.moveAssign h g).live = s.live ∧
          (s.moveAssign h g).count = (s.release h).count ∧
          (s.moveAssign h g).deleted = (s.release h).deleted := by
        unfold moveAssign
        rw [hptr]
        exact ⟨live_release h, rfl, rfl⟩
      refine ⟨fun j => ?_, fun j => ?_, fun j => ?_⟩
      · -- the object is held by the target before the source lets it go
        let ptr := Function.update s.ptr h (some i)
        have hgain : holders s.live ptr j + points (s.ptr h) j =
            holders s.live s.ptr j + points (some i) j := holders_update hmem (some i) j
        have hloss : holders s.live (Function.update ptr g none) j + points (ptr g) j =
            holders s.live ptr j + points none j := holders_update hmem' none j
        have hsource : ptr g = some i := by
          rw [← hptr]
          exact Function.update_of_ne hne.symm _ _
        rw [hsource] at hloss
        simp only [held, hfields.1, ptr_moveAssign hne hptr]
        rw [points_none] at hloss
        dsimp only [ptr] at hgain hloss
        omega
      · rw [hfields.2.1]
        exact hrelease.count j
      · have hdeletions : (s.moveAssign h g).deletions j = (s.release h).deletions j :=
          congrArg (List.countP _) hfields.2.2
        rw [hdeletions]
        exact hrelease.deletions j

theorem exchanges_constructNull (hnew : h ∉ s.live) :
    Exchanges s (s.constructNull h) (fun _ => 0) (fun _ => 0) where
  held := fun i => holders_insert hnew none i
  count := by
    intro i
    simp [constructNull]
  deletions := by
    intro i
    simp [constructNull, deletions]

theorem exchanges_construct (hnew : h ∉ s.live) (i : ι) (deleter : δ) :
    Exchanges s (s.construct h i deleter) (fun j => points (some i) j) (fun _ => 0) where
  held := fun j => holders_insert hnew (some i) j
  count := by
    intro j
    rw [construct, count_retain]
    simp
  deletions := by
    intro j
    simp [construct, retain, deletions]

theorem exchanges_destroy (hmem : h ∈ s.live) :
    Exchanges s (s.destroy h) (fun _ => 0) (fun i => points (s.ptr h) i) where
  held := by
    intro i
    have hnull : (s.release h).ptr h = none := by
      rw [ptr_release, Function.update_self]
    have hlive : h ∈ (s.release h).live := by
      rwa [live_release]
    change holders ((s.release h).live.erase h) (s.release h).ptr i + points (s.ptr h) i = _
    rw [holders_erase hlive hnull]
    exact (exchanges_release hmem).held i
  count := (exchanges_release hmem).count
  deletions := (exchanges_release hmem).deletions

/-- A construction from another handle is an assignment to a new one. -/
theorem Exchanges.of_constructNull (hnew : h ∉ s.live) {s' : IntrusivePtrs η ι δ}
    {gained : ι → Nat}
    (hassign : Exchanges (s.constructNull h) s' gained
      (fun i => points ((s.constructNull h).ptr h) i)) :
    Exchanges s s' gained (fun _ => 0) := by
  have hnull := exchanges_constructNull (s := s) hnew
  have hlost : ∀ i, points ((s.constructNull h).ptr h) i = 0 := by
    intro i
    simp [constructNull]
  refine ⟨fun i => ?_, fun i => ?_, fun i => ?_⟩
  · have hheld := hassign.held i
    have hheld' := hnull.held i
    have hzero := hlost i
    omega
  · have hcount := hassign.count i
    rw [hlost i, hnull.count i] at hcount
    simpa using hcount
  · have hdeletions := hassign.deletions i
    rw [hlost i, hnull.deletions i] at hdeletions
    simpa using hdeletions

end Calls

/-- What a call does to the counts, self-assignments of valid handles apart. -/
theorem exchanges_next {s : IntrusivePtrs η ι δ} {c : HandleCall η ι δ} (hlegal : s.Legal c)
    (hself : ¬ s.SelfAssigns c) :
    Exchanges s (s.next c) (fun i => s.gained i c) (fun i => s.lost i c) := by
  cases c with
  | constructNull h => exact exchanges_constructNull hlegal
  | construct h i deleter => exact exchanges_construct hlegal i deleter
  | copyAssign h g => exact exchanges_copyAssign hlegal.1 hself
  | moveAssign h g => exact exchanges_moveAssign hlegal.1 hlegal.2 hself
  | release h => exact exchanges_release hlegal
  | destroy h => exact exchanges_destroy hlegal
  | copyConstruct h g =>
      have hne : h ≠ g := fun heq => hlegal.1 (heq ▸ hlegal.2)
      have hsource : (s.constructNull h).ptr g = s.ptr g := Function.update_of_ne hne.symm _ _
      have hassign := exchanges_copyAssign (s := s.constructNull h) (g := g)
        (Finset.mem_insert_self h s.live) (fun heq => hne heq.1)
      rw [hsource] at hassign
      exact hassign.of_constructNull hlegal.1
  | moveConstruct h g =>
      have hne : h ≠ g := fun heq => hlegal.1 (heq ▸ hlegal.2)
      have hassign := exchanges_moveAssign (s := s.constructNull h) (g := g)
        (Finset.mem_insert_self h s.live) (Finset.mem_insert_of_mem hlegal.2)
        (fun heq => hne heq.1)
      exact hassign.of_constructNull hlegal.1

/-! ## One call -/

section Step

variable {s : IntrusivePtrs η ι δ} {c : HandleCall η ι δ}

omit [DecidableEq η] in
/-- As long as the counts are right they are small. -/
theorem Counted.held_lt (h : s.Counted) (i : ι) : s.held i < 2 ^ 31 := by
  have hlt := (s.count i).toInt_lt
  rw [h i] at hlt
  omega

omit [DecidableEq η] in
theorem Counted.count_eq (h : s.Counted) (i : ι) : s.count i = Int32.ofNat (s.held i) := by
  refine Int32.toInt.inj ?_
  rw [h i, Int32.toInt_ofNat_of_lt (h.held_lt i)]

omit [DecidableEq η] in
/-- A right count stays right as long as there is room for it. -/
theorem Exchanges.counted_iff {s' : IntrusivePtrs η ι δ} {gained lost : ι → Nat}
    (h : Exchanges s s' gained lost) (hcounted : s.Counted) :
    s'.Counted ↔ ∀ i, s.held i + gained i < 2 ^ 31 + lost i := by
  have hcount : ∀ i, s'.count i = Int32.ofNat (s'.held i) := by
    intro i
    have hsum : Int32.ofNat (s'.held i) + Int32.ofNat (lost i) =
        Int32.ofNat (s.held i) + Int32.ofNat (gained i) := by
      rw [← Int32.ofNat_add, ← Int32.ofNat_add, h.held i]
    rw [h.count i, hcounted.count_eq i, ← hsum, Int32.add_sub_cancel]
  constructor
  · intro hcounted' i
    have hlt := hcounted'.held_lt i
    have hheld := h.held i
    omega
  · intro hroom i
    have hheld := h.held i
    have hroom' := hroom i
    rw [hcount i, Int32.toInt_ofNat_of_lt (by omega)]

theorem lost_le_held (hlegal : s.Legal c) (i : ι) : s.lost i c ≤ s.held i := by
  cases c with
  | copyAssign h g => exact points_le_holders hlegal.1 i
  | moveAssign h g => exact points_le_holders hlegal.1 i
  | release h => exact points_le_holders hlegal i
  | destroy h => exact points_le_holders hlegal i
  | _ => exact Nat.zero_le _

omit [DecidableEq η] in
theorem gained_le_one (i : ι) : s.gained i c ≤ 1 := by
  cases c <;> first | exact points_le_one _ i | exact Nat.zero_le _

omit [DecidableEq η] in
theorem lost_le_one (i : ι) : s.lost i c ≤ 1 := by
  cases c <;> first | exact points_le_one _ i | exact Nat.zero_le _

theorem ofNat_sub_one_eq_zero_iff {n : Nat} (hn : n ≤ 2 ^ 31) : Int32.ofNat n - 1 = 0 ↔ n = 1 := by
  constructor
  · intro h
    have hone : Int32.ofNat n = 1 := by
      rw [← Int32.sub_add_cancel (Int32.ofNat n) 1, h]
      rfl
    have htoInt := congrArg Int32.toInt hone
    have hright : (1 : Int32).toInt = 1 := rfl
    rw [Int32.toInt_ofNat', hright] at htoInt
    unfold Int.bmod at htoInt
    simp only [Int32.size] at htoInt
    omega
  · rintro rfl
    rfl

/-- With right counts a deleter is called when the last handle lets go. -/
theorem deletions_next (hcounted : s.Counted) (hlegal : s.Legal c) (hself : ¬ s.SelfAssigns c)
    (i : ι) : (s.next c).deletions i =
      s.deletions i + if 0 < s.held i ∧ (s.next c).held i = 0 then 1 else 0 := by
  have hexchange := exchanges_next hlegal hself
  have hheld := hexchange.held i
  have hlost := lost_le_held hlegal i
  have hlost' := lost_le_one (s := s) (c := c) i
  have hgained := gained_le_one (s := s) (c := c) i
  have hlt := hcounted.held_lt i
  rw [hexchange.deletions i, hcounted.count_eq i, ← Int32.ofNat_add]
  congr 1
  refine if_congr ?_ rfl rfl
  rw [ofNat_sub_one_eq_zero_iff (by omega)]
  omega

/-- A handle that is assigned from another valid one is valid. -/
theorem valid_next (hlegal : s.Legal c) (hself : ¬ s.SelfAssigns c) {h g : η}
    (hsource : source? c = some (h, g)) (hvalid : (s.ptr g).isSome) : ((s.next c).ptr h).isSome := by
  obtain ⟨i, hptr⟩ := Option.isSome_iff_exists.1 hvalid
  have hcopy : ∀ s : IntrusivePtrs η ι δ, h ≠ g → s.ptr g = some i →
      ((s.copyAssign h g).ptr h).isSome := by
    intro s hne hptr
    rw [ptr_copyAssign hne hptr, Function.update_self]
    rfl
  have hmove : ∀ s : IntrusivePtrs η ι δ, h ≠ g → s.ptr g = some i →
      ((s.moveAssign h g).ptr h).isSome := by
    intro s hne hptr
    rw [ptr_moveAssign hne hptr, Function.update_of_ne hne, Function.update_self]
    rfl
  have hnull : h ≠ g → (s.constructNull h).ptr g = some i := fun hne =>
    (Function.update_of_ne hne.symm _ _).trans hptr
  cases c with
  | copyConstruct h' g' =>
      cases hsource
      have hne : h ≠ g := fun heq => hlegal.1 (heq ▸ hlegal.2)
      exact hcopy _ hne (hnull hne)
  | moveConstruct h' g' =>
      cases hsource
      have hne : h ≠ g := fun heq => hlegal.1 (heq ▸ hlegal.2)
      exact hmove _ hne (hnull hne)
  | copyAssign h' g' =>
      cases hsource
      exact hcopy s (fun heq => hself ⟨heq, hvalid⟩) hptr
  | moveAssign h' g' =>
      cases hsource
      exact hmove s (fun heq => hself ⟨heq, hvalid⟩) hptr
  | constructNull h' => cases hsource
  | construct h' i' deleter => cases hsource
  | release h' => cases hsource
  | destroy h' => cases hsource

/-- After a self-assignment the handle is null: the pointer is read when it has been released. -/
theorem not_letsGo_of_selfAssigns (hself : s.SelfAssigns c) : ¬ s.LetsGo c := by
  intro hgo
  cases c with
  | copyAssign h g =>
      obtain ⟨rfl, hvalid⟩ := hself
      obtain ⟨i, hptr⟩ := Option.isSome_iff_exists.1 hvalid
      have hnull : (s.copyAssign h h).ptr h = none := by
        unfold copyAssign
        simp only [hptr, ptr_release, Function.update_self]
      have hstill := hgo.valid h h rfl hvalid
      rw [next, hnull] at hstill
      cases hstill
  | moveAssign h g =>
      obtain ⟨rfl, hvalid⟩ := hself
      obtain ⟨i, hptr⟩ := Option.isSome_iff_exists.1 hvalid
      have hnull : (s.moveAssign h h).ptr h = none := by
        unfold moveAssign
        simp only [hptr, Function.update_self]
      have hstill := hgo.valid h h rfl hvalid
      rw [next, hnull] at hstill
      cases hstill
  | _ => exact hself

/-- A call keeps to the counts and the deleters exactly when it is regular. -/
theorem regular_iff (hcounted : s.Counted) (hlegal : s.Legal c) :
    ((s.next c).Counted ∧ s.LetsGo c) ↔ s.Regular c := by
  constructor
  · rintro ⟨hcounted', hgo⟩
    have hself : ¬ s.SelfAssigns c := fun hself => not_letsGo_of_selfAssigns hself hgo
    exact ⟨hself, ((exchanges_next hlegal hself).counted_iff hcounted).1 hcounted'⟩
  · intro h
    refine ⟨((exchanges_next hlegal h.apart).counted_iff hcounted).2 h.room, ?_, ?_⟩
    · exact fun _ _ hsource hvalid => valid_next hlegal h.apart hsource hvalid
    · exact deletions_next hcounted hlegal h.apart

end Step

/-! ## Sequences of calls -/

/-- The counts are right, all assigned handles valid, and all deleters called as they are to be, exactly
when every call is regular. -/
theorem counted_iff_regular {calls : List (HandleCall η ι δ)}
    (hlegal : Each (fun before c => (after before).Legal c) calls) :
    (∀ before, before <+: calls →
        (after before).Counted ∧ Each (fun before c => (after before).LetsGo c) before) ↔
      Each (fun before c => (after before).Regular c) calls := by
  refine forall_prefix_iff_each_of
    (P := fun calls => (after calls).Counted ∧ Each (fun before c => (after before).LetsGo c) calls)
    ⟨fun i => rfl, each_nil _⟩ (fun calls c _ hlegal h => ?_) hlegal
  rw [each_append_singleton, after_append_singleton, ← regular_iff h.1 hlegal]
  exact ⟨fun hall => ⟨hall.1, hall.2.2⟩, fun hstep => ⟨hstep.1, h.2, hstep.2⟩⟩

/-! ## Deleters -/

/-- A valid handle has a deleter, and so had those whose deleters were called. -/
structure DeletersThere (s : IntrusivePtrs η ι δ) : Prop where
  valid : ∀ h, s.ptr h ≠ none → s.deleter h ≠ none
  called : ∀ call ∈ s.deleted, call.1 ≠ none

namespace DeletersThere

variable {s : IntrusivePtrs η ι δ}

theorem release (hthere : s.DeletersThere) (h : η) : (s.release h).DeletersThere := by
  unfold IntrusivePtrs.release
  cases hptr : s.ptr h with
  | none => exact hthere
  | some i =>
      refine ⟨fun k hk => ?_, fun call hcall => ?_⟩
      · by_cases hkh : k = h
        · simp [hkh] at hk
        · simpa [hkh] using hthere.valid k (by simpa [hkh] using hk)
      · dsimp only at hcall
        split at hcall
        · rcases List.mem_append.1 hcall with hold | hlast
          · exact hthere.called call hold
          · rw [List.mem_singleton.1 hlast]
            exact hthere.valid h (by rw [hptr]; exact Option.some_ne_none i)
        · exact hthere.called call hcall

omit [DecidableEq ι] in
/-- A handle takes pointer and deleter from another one, or gets new ones. -/
theorem point (hthere : s.DeletersThere) (h : η) (target : Option ι) (deleter : Option δ)
    (htarget : target ≠ none → deleter ≠ none) :
    DeletersThere { s with
      ptr := Function.update s.ptr h target
      deleter := Function.update s.deleter h deleter } := by
  refine ⟨fun k hk => ?_, hthere.called⟩
  by_cases hkh : k = h
  · subst hkh
    simpa using htarget (by simpa using hk)
  · simpa [hkh] using hthere.valid k (by simpa [hkh] using hk)

omit [DecidableEq ι] in
theorem clear (hthere : s.DeletersThere) (g : η) :
    DeletersThere { s with ptr := Function.update s.ptr g none } := by
  refine ⟨fun k hk => ?_, hthere.called⟩
  by_cases hkg : k = g
  · simp [hkg] at hk
  · exact hthere.valid k (by simpa [hkg] using hk)

theorem copyAssign (hthere : s.DeletersThere) (h g : η) : (s.copyAssign h g).DeletersThere := by
  unfold IntrusivePtrs.copyAssign
  cases s.ptr g with
  | none => exact hthere.release h
  | some i =>
      have hretain : (s.retain i).DeletersThere := ⟨hthere.valid, hthere.called⟩
      exact (hretain.release h).point h _ _ ((hretain.release h).valid g)

theorem moveAssign (hthere : s.DeletersThere) (h g : η) : (s.moveAssign h g).DeletersThere := by
  unfold IntrusivePtrs.moveAssign
  cases s.ptr g with
  | none => exact hthere.release h
  | some i => exact ((hthere.release h).point h _ _ ((hthere.release h).valid g)).clear g

omit [DecidableEq ι] in
theorem constructNull (hthere : s.DeletersThere) (h : η) : (s.constructNull h).DeletersThere := by
  have hpoint := hthere.point h none none fun hnone => absurd rfl hnone
  exact ⟨hpoint.valid, hpoint.called⟩

theorem next (hthere : s.DeletersThere) (c : HandleCall η ι δ) : (s.next c).DeletersThere := by
  cases c with
  | constructNull h => exact hthere.constructNull h
  | construct h i deleter =>
      have hpoint := hthere.point h (some i) (some deleter) fun _ => Option.some_ne_none deleter
      exact ⟨hpoint.valid, hpoint.called⟩
  | copyConstruct h g => exact (hthere.constructNull h).copyAssign h g
  | moveConstruct h g => exact (hthere.constructNull h).moveAssign h g
  | copyAssign h g => exact hthere.copyAssign h g
  | moveAssign h g => exact hthere.moveAssign h g
  | release h => exact hthere.release h
  | destroy h => exact ⟨(hthere.release h).valid, (hthere.release h).called⟩

end DeletersThere

/-- No deleter that is called is a null pointer. -/
theorem deleters_there (calls : List (HandleCall η ι δ)) : (after calls).DeletersThere :=
  foldl_invariant ⟨fun _ hptr => absurd rfl hptr, fun _ hcall => absurd hcall List.not_mem_nil⟩
    (fun _ c hthere => hthere.next c) calls

/-! ## One object and its handles -/

/-- Handle 0 is made for object 7, copied to handle 1 and released; handle 1 is destroyed. -/
def twoHandles : List (HandleCall Nat Nat Unit) :=
  [.construct 0 7 (), .copyConstruct 1 0, .release 0, .destroy 1]

theorem counted_twoHandles :
    (∀ before, before <+: twoHandles →
        (after before).Counted ∧ Each (fun before c => (after before).LetsGo c) before) ↔
      Each (fun before c => (after before).Regular c) twoHandles := by
  refine counted_iff_regular ?_
  refine (each_append_singleton (twoHandles.take 3) _).2 ⟨?_, ?_⟩
  · refine (each_append_singleton (twoHandles.take 2) _).2 ⟨?_, ?_⟩
    · refine (each_append_singleton (twoHandles.take 1) _).2 ⟨?_, ?_⟩
      · exact (each_append_singleton [] _).2 ⟨each_nil _, Finset.notMem_empty 0⟩
      · exact ⟨by decide, by decide⟩
    · exact (by decide : 0 ∈ (after (twoHandles.take 2)).live)
  · exact (by decide : 1 ∈ (after (twoHandles.take 3)).live)

/-- A handle is made for object 7 and assigned to itself. -/
def selfAssigned : List (HandleCall Nat Nat Unit) := [.construct 0 7 (), .copyAssign 0 0]

/-- The handle is null then, no deleter was called, and the count stays one. -/
theorem selfAssigned_leaks : (after selfAssigned).ptr 0 = none ∧
    (after selfAssigned).deletions 7 = 0 ∧ ¬ (after selfAssigned).Counted := by
  refine ⟨by decide, by decide, fun h => absurd (h 7) (by decide)⟩

end IntrusivePtrs
end Memory
end SeamlessServer
