import Mathlib.Data.List.Nodup
import Mathlib.Logic.Function.Basic

/-!
# UnorderedMap — finite maps with an explicit iteration order

A finite map in the manner of `std::unordered_map`: a lookup function together with the list of
its keys in the order a `for` loop visits them.  The order itself carries no meaning; programs
that iterate are to be verified for every order, and `UnorderedMap.Equiv` is the relation between
two maps that differ in nothing else.

* `find` is the lookup, `keys` the iteration order;
* `insert`, `erase`, `empty` are the mutators, each with one `find` lemma;
* the two fields `nodup` and `mem_keys` make an inconsistent map unrepresentable.
-/

namespace SeamlessServer

universe u v

/-- A finite map: lookup plus the order in which its keys are visited. -/
structure UnorderedMap (κ : Type u) (ν : Type v) where
  find : κ → Option ν
  keys : List κ
  nodup : keys.Nodup
  mem_keys : ∀ k, k ∈ keys ↔ (find k).isSome = true

namespace UnorderedMap

variable {κ : Type u} {ν : Type v}

/-! ## Construction -/

/-- The map without entries. -/
def empty : UnorderedMap κ ν where
  find := fun _ => none
  keys := []
  nodup := List.nodup_nil
  mem_keys := by
    intro k
    simp

@[simp] theorem find_empty (k : κ) : (empty : UnorderedMap κ ν).find k = none := rfl

@[simp] theorem keys_empty : (empty : UnorderedMap κ ν).keys = [] := rfl

/-- The map `k ↦ f k` on a duplicate-free list of keys. -/
def ofKeys [DecidableEq κ] (ks : List κ) (h : ks.Nodup) (f : κ → ν) : UnorderedMap κ ν where
  find := fun k => if k ∈ ks then some (f k) else none
  keys := ks
  nodup := h
  mem_keys := by
    intro k
    by_cases hk : k ∈ ks <;> simp [hk]

@[simp] theorem find_ofKeys [DecidableEq κ] (ks : List κ) (h : ks.Nodup) (f : κ → ν) (k : κ) :
    (ofKeys ks h f).find k = if k ∈ ks then some (f k) else none := rfl

@[simp] theorem keys_ofKeys [DecidableEq κ] (ks : List κ) (h : ks.Nodup) (f : κ → ν) :
    (ofKeys ks h f).keys = ks := rfl

/-- `m.size()`. -/
def size (m : UnorderedMap κ ν) : Nat := m.keys.length

/-- The entries with a function applied to their values. -/
def map {ν' : Type*} (f : ν → ν') (m : UnorderedMap κ ν) : UnorderedMap κ ν' where
  find := fun k => (m.find k).map f
  keys := m.keys
  nodup := m.nodup
  mem_keys := by
    intro k
    simp [m.mem_keys k]

@[simp] theorem find_map {ν' : Type*} (f : ν → ν') (m : UnorderedMap κ ν) (k : κ) :
    (m.map f).find k = (m.find k).map f := rfl

/-! ## Mutation -/

section Mutation

variable [DecidableEq κ]

/-- `m[k] = v`: an existing key keeps its place in the order, a new one is visited last. -/
def insert (m : UnorderedMap κ ν) (k : κ) (v : ν) : UnorderedMap κ ν where
  find := Function.update m.find k (some v)
  keys := if k ∈ m.keys then m.keys else m.keys ++ [k]
  nodup := by
    by_cases hk : k ∈ m.keys
    · simpa [hk] using m.nodup
    · have happend : (m.keys ++ [k]).Nodup := by
        refine List.Nodup.append m.nodup (List.nodup_singleton k) ?_
        simpa using hk
      simpa [hk] using happend
  mem_keys := by
    intro a
    by_cases hak : a = k
    · subst hak
      by_cases hk : a ∈ m.keys <;> simp [hk]
    · by_cases hk : k ∈ m.keys <;> simp [hk, hak, m.mem_keys a]

/-- `m.erase(k)`. -/
def erase (m : UnorderedMap κ ν) (k : κ) : UnorderedMap κ ν where
  find := Function.update m.find k none
  keys := m.keys.erase k
  nodup := m.nodup.erase k
  mem_keys := by
    intro a
    by_cases hak : a = k
    · subst hak
      simp [m.nodup.mem_erase_iff]
    · simp [m.nodup.mem_erase_iff, hak, m.mem_keys a]

theorem find_insert (m : UnorderedMap κ ν) (k a : κ) (v : ν) :
    (m.insert k v).find a = if a = k then some v else m.find a := by
  simp [insert, Function.update_apply]

@[simp] theorem find_insert_self (m : UnorderedMap κ ν) (k : κ) (v : ν) :
    (m.insert k v).find k = some v := by
  simp [find_insert]

@[simp] theorem find_insert_of_ne (m : UnorderedMap κ ν) {k a : κ} (h : a ≠ k) (v : ν) :
    (m.insert k v).find a = m.find a := by
  simp [find_insert, h]

theorem find_erase (m : UnorderedMap κ ν) (k a : κ) :
    (m.erase k).find a = if a = k then none else m.find a := by
  simp [erase, Function.update_apply]

@[simp] theorem find_erase_self (m : UnorderedMap κ ν) (k : κ) : (m.erase k).find k = none := by
  simp [find_erase]

@[simp] theorem find_erase_of_ne (m : UnorderedMap κ ν) {k a : κ} (h : a ≠ k) :
    (m.erase k).find a = m.find a := by
  simp [find_erase, h]

/-- The same entries visited in the given order, if it is an order of the keys at all. -/
def reorder (m : UnorderedMap κ ν) (order : List κ) : UnorderedMap κ ν :=
  if h : order.Perm m.keys then
    { m with
      keys := order
      nodup := h.symm.nodup m.nodup
      mem_keys := by
        intro k
        rw [h.mem_iff, m.mem_keys] }
  else
    m

@[simp] theorem find_reorder (m : UnorderedMap κ ν) (order : List κ) :
    (m.reorder order).find = m.find := by
  by_cases h : order.Perm m.keys <;> simp [reorder, h]

end Mutation

/-! ## Membership and order -/

theorem mem_keys_of_find (m : UnorderedMap κ ν) {k : κ} {v : ν} (h : m.find k = some v) :
    k ∈ m.keys :=
  (m.mem_keys k).2 (by simp [h])

theorem exists_find_of_mem_keys (m : UnorderedMap κ ν) {k : κ} (h : k ∈ m.keys) :
    ∃ v, m.find k = some v :=
  Option.isSome_iff_exists.1 ((m.mem_keys k).1 h)

/-- The values in iteration order. -/
def values (m : UnorderedMap κ ν) : List ν := m.keys.filterMap m.find

theorem mem_values (m : UnorderedMap κ ν) {v : ν} : v ∈ m.values ↔ ∃ k, m.find k = some v := by
  constructor
  · intro h
    rcases List.mem_filterMap.1 h with ⟨k, _, hk⟩
    exact ⟨k, hk⟩
  · rintro ⟨k, hk⟩
    exact List.mem_filterMap.2 ⟨k, m.mem_keys_of_find hk, hk⟩

/-- A collection over all values to which only the entry under `k` contributes. -/
theorem flatMap_values [DecidableEq κ] {β : Type*} (m : UnorderedMap κ ν) (k : κ)
    (f : ν → List β) (h : ∀ a v, m.find a = some v → a ≠ k → f v = []) :
    m.values.flatMap f = (m.find k).elim [] f := by
  have hother : ∀ ks : List κ, k ∉ ks → (ks.filterMap m.find).flatMap f = [] := by
    intro ks hk
    rw [List.flatMap_eq_nil_iff]
    intro v hv
    rcases List.mem_filterMap.1 hv with ⟨a, ha, hav⟩
    exact h a v hav (fun hak => hk (hak ▸ ha))
  cases hk : m.find k with
  | none =>
      have hnot : k ∉ m.keys := by
        simp [m.mem_keys, hk]
      exact hother m.keys hnot
  | some v =>
      rcases List.append_of_mem (m.mem_keys_of_find hk) with ⟨pre, post, hsplit⟩
      have hnodup : (pre ++ k :: post).Nodup := hsplit ▸ m.nodup
      have hpre : k ∉ pre := fun hmem =>
        (List.nodup_append.1 hnodup).2.2 k hmem k List.mem_cons_self rfl
      have hpost : k ∉ post := (List.nodup_cons.1 (List.nodup_append.1 hnodup).2.1).1
      calc
        m.values.flatMap f
            = (pre.filterMap m.find).flatMap f ++ (f v ++ (post.filterMap m.find).flatMap f) := by
              simp [values, hsplit, hk]
        _ = f v := by
              simp [hother pre hpre, hother post hpost]

/-- Two maps with the same entries, in whatever order. -/
def Equiv (m m' : UnorderedMap κ ν) : Prop :=
  ∀ k, m.find k = m'.find k

theorem Equiv.refl (m : UnorderedMap κ ν) : m.Equiv m := fun _ => rfl

end UnorderedMap

end SeamlessServer
