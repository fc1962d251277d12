import Mathlib.Data.List.Chain

/-!
# Trail — the journey of something that is handed on, and what follows it

Something stays at a place until the host of the place hands it on to another one.  The legs of its
journey fit together: the host of the place that a leg leads to is the one that hands it on next.  A
host that remembers the last leg it made points whoever asks onwards.

Who has come along one leg and does not find it at the end of it is pointed along a later one
(`Linked.lt_of_lastFrom`), so nobody is pointed more often than it has been handed on.
-/

namespace SeamlessServer

universe u v

structure Leg (σ : Type u) (π : Type v) where
  source : σ
  dest : π
  deriving DecidableEq

namespace Trail

variable {σ : Type u} {π : Type v} {host : π → Option σ} {legs : List (Leg σ π)} {leg : Leg σ π}

/-- The host of the end of a leg makes the next one. -/
def Linked (host : π → Option σ) (legs : List (Leg σ π)) : Prop :=
  legs.IsChain fun l l' => host l.dest = some l'.source

/-- The last leg that the host has made, with its place in the journey. -/
structure LastFrom (legs : List (Leg σ π)) (k : σ) (n : Nat) (x : π) : Prop where
  leg : legs[n]? = some ⟨k, x⟩
  last : ∀ m, n < m → ∀ l, legs[m]? = some l → l.source ≠ k

/-- Somebody has come along one of the legs, and was not pointed more often than there are legs up
to it. -/
def Along (legs : List (Leg σ π)) (leg : Leg σ π) (n hops : Nat) : Prop :=
  legs[n]? = some leg ∧ hops ≤ n + 1

theorem linked_nil : Linked host ([] : List (Leg σ π)) := List.IsChain.nil

/-- The journey goes on where it has come to. -/
theorem Linked.append (h : Linked host legs)
    (hnext : ∀ l, legs.getLast? = some l → host l.dest = some leg.source) :
    Linked host (legs ++ [leg]) := by
  refine List.isChain_append.2 ⟨h, List.isChain_singleton _, ?_⟩
  intro l hl l' hl'
  obtain rfl : leg = l' := by simpa using hl'
  exact hnext l hl

theorem getElem?_append_of_some {n : Nat} (h : legs[n]? = some leg) (more : List (Leg σ π)) :
    (legs ++ more)[n]? = some leg := by
  rw [List.getElem?_append_left (List.getElem?_eq_some_iff.1 h).1]
  exact h

theorem getLast?_of_getElem? {n : Nat} (h : legs[n]? = some leg) (hn : ¬ n + 1 < legs.length) :
    legs.getLast? = some leg := by
  have hlt := (List.getElem?_eq_some_iff.1 h).1
  have heq : legs.length - 1 = n := by omega
  rw [List.getLast?_eq_getElem?, heq]
  exact h

/-- A new leg is the last of its host. -/
theorem lastFrom_append_self (legs : List (Leg σ π)) (leg : Leg σ π) :
    LastFrom (legs ++ [leg]) leg.source legs.length leg.dest := by
  refine ⟨?_, fun m hm l hl => ?_⟩
  · rw [List.getElem?_append_right le_rfl, Nat.sub_self]
    rfl
  · have hlt := (List.getElem?_eq_some_iff.1 hl).1
    rw [List.length_append, List.length_singleton] at hlt
    omega

/-- The last leg of another host stays its last. -/
theorem LastFrom.append {k : σ} {n : Nat} {x : π} (h : LastFrom legs k n x) (hne : leg.source ≠ k) :
    LastFrom (legs ++ [leg]) k n x := by
  refine ⟨getElem?_append_of_some h.leg _, fun m hm l hl => ?_⟩
  by_cases hlt : m < legs.length
  · rw [List.getElem?_append_left hlt] at hl
    exact h.last m hm l hl
  · rw [List.getElem?_append_right (not_lt.1 hlt)] at hl
    obtain ⟨_, hget⟩ := List.getElem?_eq_some_iff.1 hl
    rw [List.getElem_singleton] at hget
    exact hget ▸ hne

theorem Along.append {n hops : Nat} (h : Along legs leg n hops) (more : List (Leg σ π)) :
    Along (legs ++ more) leg n hops :=
  ⟨getElem?_append_of_some h.1 more, h.2⟩

/-- At the end of a leg that is not the last one, the host points along a later leg. -/
theorem Linked.lt_of_lastFrom (h : Linked host legs) {n m : Nat} {k : σ} {x : π}
    (hleg : legs[n]? = some leg) (hn : n + 1 < legs.length) (hhost : host leg.dest = some k)
    (hlast : LastFrom legs k m x) : n < m := by
  have hlink := List.isChain_iff_getElem.1 h n hn
  have hget : legs[n] = leg := (List.getElem?_eq_some_iff.1 hleg).2
  rw [hget, hhost] at hlink
  by_contra hle
  -- the leg after this one was made by the same host
  have hnext : legs[n + 1]? = some legs[n + 1] := List.getElem?_eq_getElem hn
  exact hlast.last (n + 1) (by omega) _ hnext (Option.some.inj hlink).symm

/-- Who is pointed on goes along a later leg. -/
theorem Linked.along (h : Linked host legs) {n m hops : Nat} {k : σ} {x : π}
    (halong : Along legs leg n hops) (hn : n + 1 < legs.length) (hhost : host leg.dest = some k)
    (hlast : LastFrom legs k m x) : Along legs ⟨k, x⟩ m (hops + 1) :=
  ⟨hlast.leg, Nat.succ_le_succ (halong.2.trans (h.lt_of_lastFrom halong.1 hn hhost hlast))⟩

end Trail

end SeamlessServer
