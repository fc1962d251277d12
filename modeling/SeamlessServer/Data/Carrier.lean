import Mathlib.Data.List.Infix
import Mathlib.Logic.Function.Basic
import SeamlessServer.Data.Machine

/-!
# Carrier — nodes that exchange messages over links

Nodes act on their own or take a message that has come over a link, and post messages on links.
`Nodes.queued` has a queue for every link.  A carrier is a machine of its own that takes the
messages: it may hold them back, cut them into pieces, and be busy with other things.

* `Nodes.refines` — if what has arrived on a link is always the beginning of what was posted on it,
  nodes over a carrier do what they can do over queues.
-/

namespace SeamlessServer

/-- Nodes with the messages that a step posts, each with its link. -/
structure Nodes (σ ε ν L M : Type*) where
  init : σ → Prop
  act : σ → ε → σ → List (L × M) → Prop
  take : σ → L → M → ν → σ → List (L × M) → Prop

namespace Nodes

variable {σ ε ν L M τ κ : Type*} [DecidableEq L]

inductive Event (ε ν L : Type*)
  | act (e : ε)
  | take (l : L) (n : ν)

/-- The messages for a link. -/
def onLink (l : L) (posts : List (L × M)) : List M :=
  posts.filterMap fun p => if p.1 = l then some p.2 else none

theorem onLink_append (l : L) (posts posts' : List (L × M)) :
    onLink l (posts ++ posts') = onLink l posts ++ onLink l posts' :=
  List.filterMap_append

/-! ## Queues -/

structure Queued (σ L M : Type*) where
  nodes : σ
  queue : L → List M

variable (N : Nodes σ ε ν L M)

inductive QueuedStep (s : Queued σ L M) : Event ε ν L → Queued σ L M → Prop where
  | act {e : ε} {x : σ} {posts : List (L × M)} :
      N.act s.nodes e x posts →
        QueuedStep s (.act e) ⟨x, fun l => s.queue l ++ onLink l posts⟩
  | take {l : L} {m : M} {rest : List M} {n : ν} {x : σ} {posts : List (L × M)} :
      s.queue l = m :: rest → N.take s.nodes l m n x posts →
        QueuedStep s (.take l n)
          ⟨x, fun l' => Function.update s.queue l rest l' ++ onLink l' posts⟩

/-- Every link is a queue. -/
def queued : Machine (Queued σ L M) (Event ε ν L) where
  init := fun s => N.init s.nodes ∧ ∀ l, s.queue l = []
  step := N.QueuedStep

end Nodes

/-! ## Carriers -/

/-- A machine that carries messages: what was posted on a link, and what has arrived. -/
structure Carrier (τ κ L M : Type*) where
  machine : Machine τ κ
  posted : τ → L → List M
  arrived : τ → L → List M

/-- Nothing was posted at first, and what arrives is what was posted, in order. -/
structure Carrier.InOrder {τ κ L M : Type*} (C : Carrier τ κ L M) : Prop where
  fresh : ∀ t, C.machine.init t → ∀ l, C.posted t l = []
  inOrder : ∀ t, C.machine.Reachable t → ∀ l, C.arrived t l <+: C.posted t l

namespace Nodes

variable {σ ε ν L M τ κ : Type*} [DecidableEq L]

/-- Nodes, a carrier, and how many of the messages that have arrived on a link were taken. -/
structure Carried (σ τ L : Type*) where
  nodes : σ
  carrier : τ
  taken : L → Nat

inductive CarriedEvent (ε ν κ L : Type*)
  | carry (k : κ)
  | node (e : Event ε ν L)

variable (N : Nodes σ ε ν L M) (C : Carrier τ κ L M)

/-- The carrier goes on by itself while nothing is posted.  While a node acts, the carrier takes
what it posts, and may do other things in between. -/
inductive CarriedStep (s : Carried σ τ L) : CarriedEvent ε ν κ L → Carried σ τ L → Prop where
  | carry {k : κ} {t : τ} :
      C.machine.step s.carrier k t → (∀ l, C.posted t l = C.posted s.carrier l) →
        CarriedStep s (.carry k) { s with carrier := t }
  | act {e : ε} {x : σ} {posts : List (L × M)} {ks : List κ} {t : τ} :
      N.act s.nodes e x posts → C.machine.Run s.carrier ks t →
        (∀ l, C.posted t l = C.posted s.carrier l ++ onLink l posts) →
        CarriedStep s (.node (.act e)) ⟨x, t, s.taken⟩
  | take {l : L} {m : M} {n : ν} {x : σ} {posts : List (L × M)} {ks : List κ} {t : τ} :
      (C.arrived s.carrier l)[s.taken l]? = some m → N.take s.nodes l m n x posts →
        C.machine.Run s.carrier ks t →
        (∀ l', C.posted t l' = C.posted s.carrier l' ++ onLink l' posts) →
        CarriedStep s (.node (.take l n)) ⟨x, t, Function.update s.taken l (s.taken l + 1)⟩

def carriedOn : Machine (Carried σ τ L) (CarriedEvent ε ν κ L) where
  init := fun s => N.init s.nodes ∧ C.machine.init s.carrier ∧ ∀ l, s.taken l = 0
  step := N.CarriedStep C

variable {N C}

/-- What was posted on a link and not taken. -/
def Carried.waiting (C : Carrier τ κ L M) (s : Carried σ τ L) (l : L) : List M :=
  (C.posted s.carrier l).drop (s.taken l)

variable (N C) in
/-- The queues of what was not taken are those of a run over queues. -/
structure Refined (s : Carried σ τ L) : Prop where
  queued : N.queued.Reachable ⟨s.nodes, s.waiting C⟩
  carrier : C.machine.Reachable s.carrier
  taken_le : ∀ l, s.taken l ≤ (C.posted s.carrier l).length

theorem Refined.step (hC : C.InOrder) {s s' : Carried σ τ L} {e : CarriedEvent ε ν κ L}
    (h : Refined N C s) (hstep : N.CarriedStep C s e s') : Refined N C s' := by
  cases hstep with
  | @carry k t hcarry hposted =>
      -- the carrier alone moves, which the queues do not see
      have hwaiting : Carried.waiting C { s with carrier := t } = s.waiting C := by
        funext l
        simp only [Carried.waiting, hposted l]
      refine ⟨?_, h.carrier.step hcarry, fun l => ?_⟩
      · rw [hwaiting]
        exact h.queued
      · rw [hposted l]
        exact h.taken_le l
  | @act e x posts ks t hact hrun hposted =>
      have hwaiting : Carried.waiting C (⟨x, t, s.taken⟩ : Carried σ τ L) =
          fun l => s.waiting C l ++ onLink l posts := by
        funext l
        simp only [Carried.waiting, hposted l]
        exact List.drop_append_of_le_length (h.taken_le l)
      refine ⟨?_, hrun.reachable h.carrier, fun l => ?_⟩
      · rw [hwaiting]
        exact h.queued.step (.act hact)
      · rw [hposted l, List.length_append]
        exact (h.taken_le l).trans (Nat.le_add_right _ _)
  | @take l m n x posts ks t harrived htake hrun hposted =>
      -- the message that is taken is the first of those that wait
      have hfirst : (C.posted s.carrier l)[s.taken l]? = some m := by
        obtain ⟨rest, hrest⟩ := hC.inOrder _ h.carrier l
        obtain ⟨hlt, -⟩ := List.getElem?_eq_some_iff.1 harrived
        rw [← hrest, List.getElem?_append_left hlt]
        exact harrived
      obtain ⟨hlt, hget⟩ := List.getElem?_eq_some_iff.1 hfirst
      have hqueue : s.waiting C l = m :: (C.posted s.carrier l).drop (s.taken l + 1) := by
        rw [Carried.waiting, List.drop_eq_getElem_cons hlt, hget]
      have hle : ∀ l', Function.update s.taken l (s.taken l + 1) l' ≤
          (C.posted s.carrier l').length := by
        intro l'
        by_cases heq : l' = l
        · subst heq
          rw [Function.update_self]
          exact hlt
        · rw [Function.update_of_ne heq]
          exact h.taken_le l'
      have hwaiting : Carried.waiting C
          (⟨x, t, Function.update s.taken l (s.taken l + 1)⟩ : Carried σ τ L) =
          fun l' => Function.update (s.waiting C) l
            ((C.posted s.carrier l).drop (s.taken l + 1)) l' ++ onLink l' posts := by
        funext l'
        simp only [Carried.waiting, hposted l']
        rw [List.drop_append_of_le_length (hle l')]
        by_cases heq : l' = l
        · subst heq
          rw [Function.update_self, Function.update_self]
        · rw [Function.update_of_ne heq, Function.update_of_ne heq, Carried.waiting]
      refine ⟨?_, hrun.reachable h.carrier, fun l' => ?_⟩
      · rw [hwaiting]
        exact h.queued.step (.take hqueue htake)
      · rw [hposted l', List.length_append]
        exact (hle l').trans (Nat.le_add_right _ _)

/-- Nodes over a carrier that keeps the order refine nodes over queues. -/
theorem refines (hC : C.InOrder) {s : Carried σ τ L} (h : (N.carriedOn C).Reachable s) :
    Refined N C s := by
  refine Machine.Reachable.invariant (P := Refined N C) ?_ ?_ h
  · rintro s ⟨hnodes, hcarrier, htaken⟩
    refine ⟨.init ⟨hnodes, fun l => ?_⟩, .init hcarrier, fun l => ?_⟩
    · simp only [Carried.waiting, hC.fresh _ hcarrier l, List.drop_nil]
    · rw [htaken l]
      exact Nat.zero_le _
  · exact fun s e s' hs hstep => hs.step hC hstep

end Nodes

end SeamlessServer
