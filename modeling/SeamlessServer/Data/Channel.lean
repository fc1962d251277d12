import Mathlib.Data.List.Infix

/-!
# Channel — a replica and the messages on their way to it

A replica that applies the messages of a first-in first-out channel.  What it will be once the
channel is empty is `settled`: sending appends a message to that, and receiving does not change it.
An agreement between the sender and the settled replica is therefore kept by every receipt, and has
to be looked at only where something is sent.

`Along` holds of a replica if a property holds now and after each message that is on its way.
-/

namespace SeamlessServer

universe u v

namespace Channel

variable {ρ : Type u} {μ : Type v} (apply : ρ → μ → ρ)

/-- The replica after all messages on their way. -/
def settled (r : ρ) (queue : List μ) : ρ := queue.foldl apply r

@[simp] theorem settled_nil (r : ρ) : settled apply r [] = r := rfl

/-- Receiving. -/
@[simp] theorem settled_cons (r : ρ) (m : μ) (queue : List μ) :
    settled apply r (m :: queue) = settled apply (apply r m) queue := rfl

/-- Sending. -/
theorem settled_append (r : ρ) (queue more : List μ) :
    settled apply r (queue ++ more) = settled apply (settled apply r queue) more :=
  List.foldl_append

/-- A property of the replica now and after each message on its way. -/
def Along (P : ρ → Prop) : ρ → List μ → Prop
  | r, [] => P r
  | r, m :: queue => P r ∧ Along P (apply r m) queue

variable {apply} {P : ρ → Prop} {r : ρ} {queue : List μ}

theorem Along.now (h : Along apply P r queue) : P r := by
  cases queue with
  | nil =>
      exact h
  | cons m queue =>
      exact h.1

theorem Along.last (h : Along apply P r queue) : P (settled apply r queue) := by
  induction queue generalizing r with
  | nil =>
      exact h
  | cons m queue ih =>
      exact ih h.2

theorem Along.mono {Q : ρ → Prop} (hPQ : ∀ r, P r → Q r) (h : Along apply P r queue) :
    Along apply Q r queue := by
  induction queue generalizing r with
  | nil =>
      exact hPQ r h
  | cons m queue ih =>
      exact ⟨hPQ r h.1, ih h.2⟩

theorem Along.append (h : Along apply P r queue) {more : List μ}
    (hmore : Along apply P (settled apply r queue) more) : Along apply P r (queue ++ more) := by
  induction queue generalizing r with
  | nil =>
      exact hmore
  | cons m queue ih =>
      exact ⟨h.1, ih h.2 hmore⟩

/-- A property that the messages preserve holds along the channel, and once it is empty. -/
theorem Along.of_preserved {good : μ → Prop} (hgood : ∀ r m, good m → P r → P (apply r m))
    (hqueue : ∀ m ∈ queue, good m) (h : P r) :
    Along apply P r queue ∧ P (settled apply r queue) := by
  induction queue generalizing r with
  | nil =>
      exact ⟨h, h⟩
  | cons m queue ih =>
      have hnext := hgood r m (hqueue m List.mem_cons_self) h
      obtain ⟨halong, hsettled⟩ := ih (fun m' hm' => hqueue m' (List.mem_cons_of_mem m hm')) hnext
      exact ⟨⟨h, halong⟩, hsettled⟩

end Channel

end SeamlessServer
