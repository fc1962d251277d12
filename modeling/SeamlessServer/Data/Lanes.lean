import Mathlib.Data.List.Basic

/-!
# Lanes — a receiver with an express lane beside the ordinary one

What is queued for a receiver waits until it is flushed; what is expressed is sent at once and
overtakes what waits.  The receiver folds everything into a value in the order it is sent.

What it will have made of everything once the rest is flushed (`replay`) is what it would have made of
the order of posting, as long as whatever is expressed either changes nothing, or starts the receiver
over and makes it deaf to what it has overtaken.  The room for what waits may be limited: `Takes` lets
it be flushed before something more is queued.
-/

namespace SeamlessServer

universe u v

structure Lanes (α : Type u) where
  sent : List α := []
  held : List α := []

namespace Lanes

variable {α : Type u} {β : Type v}

def queue (lanes : Lanes α) (a : α) : Lanes α := { lanes with held := lanes.held ++ [a] }

def express (lanes : Lanes α) (a : α) : Lanes α := { lanes with sent := lanes.sent ++ [a] }

def flush (lanes : Lanes α) : Lanes α := ⟨lanes.sent ++ lanes.held, []⟩

/-- What has been received is one value, and everything posted leads to another. -/
def replay (f : β → α → β) (b : β) (lanes : Lanes α) : β := (lanes.sent ++ lanes.held).foldl f b

variable {f : β → α → β} {b : β} {lanes : Lanes α} {a : α}

@[simp] theorem held_queue : (lanes.queue a).held = lanes.held ++ [a] := rfl

@[simp] theorem held_express : (lanes.express a).held = lanes.held := rfl

@[simp] theorem held_flush : lanes.flush.held = [] := rfl

@[simp] theorem replay_empty : replay f b ({} : Lanes α) = b := rfl

@[simp] theorem replay_queue : (lanes.queue a).replay f b = f (lanes.replay f b) a := by
  simp [replay, queue, ← List.append_assoc]

@[simp] theorem replay_flush : lanes.flush.replay f b = lanes.replay f b := by
  simp [replay, flush]

/-- An express item that changes nothing. -/
theorem replay_express_of_ignored (h : ∀ c, f c a = c) :
    (lanes.express a).replay f b = lanes.replay f b := by
  simp [replay, express, List.foldl_append, h]

/-- An express item that starts the receiver over, and what it overtakes does not count any more. -/
theorem replay_express_of_reset {r : β} (hreset : ∀ c, f c a = r) (hdeaf : ∀ x ∈ lanes.held, f r x = r) :
    (lanes.express a).replay f b = r := by
  have hheld : ∀ l : List α, (∀ x ∈ l, f r x = r) → l.foldl f r = r := by
    intro l
    induction l with
    | nil =>
        intro _
        rfl
    | cons x l ih =>
        intro h
        rw [List.foldl_cons, h x List.mem_cons_self]
        exact ih fun y hy => h y (List.mem_cons_of_mem _ hy)
  simp only [replay, express, List.foldl_append, List.foldl_cons, List.foldl_nil, hreset]
  exact hheld _ hdeaf

/-! ## Items one after the other -/

/-- Items are queued or expressed; what waits may be flushed before one more is queued. -/
inductive Takes (queued : α → Bool) : Lanes α → List α → Lanes α → Prop where
  | nil (lanes : Lanes α) : Takes queued lanes [] lanes
  | queue {lanes lanes' : Lanes α} {a : α} {items : List α} : queued a = true →
      Takes queued (lanes.queue a) items lanes' → Takes queued lanes (a :: items) lanes'
  | full {lanes lanes' : Lanes α} {a : α} {items : List α} : queued a = true →
      Takes queued (lanes.flush.queue a) items lanes' → Takes queued lanes (a :: items) lanes'
  | express {lanes lanes' : Lanes α} {a : α} {items : List α} : queued a = false →
      Takes queued (lanes.express a) items lanes' → Takes queued lanes (a :: items) lanes'

section Takes

variable {queued : α → Bool} {lanes' : Lanes α} {items : List α}

/-- Items that change nothing. -/
theorem Takes.replay_of_ignored (h : Takes queued lanes items lanes')
    (hignored : ∀ a ∈ items, ∀ c, f c a = c) : lanes'.replay f b = lanes.replay f b := by
  induction h with
  | nil lanes =>
      rfl
  | queue _ _ ih =>
      rw [ih fun a ha => hignored a (List.mem_cons_of_mem _ ha), replay_queue,
        hignored _ List.mem_cons_self]
  | full _ _ ih =>
      rw [ih fun a ha => hignored a (List.mem_cons_of_mem _ ha), replay_queue, replay_flush,
        hignored _ List.mem_cons_self]
  | express _ _ ih =>
      rw [ih fun a ha => hignored a (List.mem_cons_of_mem _ ha),
        replay_express_of_ignored (hignored _ List.mem_cons_self)]

/-- The same item queued any number of times. -/
theorem Takes.replay_of_same (h : Takes queued lanes items lanes') (hqueued : queued a = true)
    (hidem : ∀ c, f (f c a) a = f c a) (hall : ∀ x ∈ items, x = a) (hne : items ≠ []) :
    lanes'.replay f b = f (lanes.replay f b) a := by
  have hrest : ∀ {l l' : Lanes α} {more : List α}, Takes queued l more l' → (∀ x ∈ more, x = a) →
      l.replay f b = f (lanes.replay f b) a → l'.replay f b = f (lanes.replay f b) a := by
    intro l l' more hmore
    induction hmore with
    | nil l =>
        exact fun _ hl => hl
    | @queue l l' x more _ _ ih =>
        intro hsame hl
        obtain rfl : x = a := hsame x List.mem_cons_self
        refine ih (fun y hy => hsame y (List.mem_cons_of_mem _ hy)) ?_
        rw [replay_queue, hl, hidem]
    | @full l l' x more _ _ ih =>
        intro hsame hl
        obtain rfl : x = a := hsame x List.mem_cons_self
        refine ih (fun y hy => hsame y (List.mem_cons_of_mem _ hy)) ?_
        rw [replay_queue, replay_flush, hl, hidem]
    | @express l l' x more hnot _ _ =>
        intro hsame _
        rw [hsame x List.mem_cons_self, hqueued] at hnot
        cases hnot
  cases h with
  | nil =>
      exact absurd rfl hne
  | @queue _ _ x items _ htakes =>
      obtain rfl : x = a := hall x List.mem_cons_self
      exact hrest htakes (fun y hy => hall y (List.mem_cons_of_mem _ hy)) replay_queue
  | @full _ _ x items _ htakes =>
      obtain rfl : x = a := hall x List.mem_cons_self
      exact hrest htakes (fun y hy => hall y (List.mem_cons_of_mem _ hy))
        (by rw [replay_queue, replay_flush])
  | @express _ _ x items hnot =>
      rw [hall x List.mem_cons_self, hqueued] at hnot
      cases hnot

/-- Express items only. -/
theorem Takes.eq_foldl_express (h : Takes queued lanes items lanes')
    (hexpress : ∀ a ∈ items, queued a = false) : lanes' = items.foldl Lanes.express lanes := by
  induction h with
  | nil lanes =>
      rfl
  | queue hqueued _ _ | full hqueued _ _ =>
      rw [hexpress _ List.mem_cons_self] at hqueued
      cases hqueued
  | express _ _ ih =>
      exact ih fun a ha => hexpress a (List.mem_cons_of_mem _ ha)

/-- What waits was queued. -/
theorem Takes.held (h : Takes queued lanes items lanes') (hheld : ∀ a ∈ lanes.held, queued a = true) :
    ∀ a ∈ lanes'.held, queued a = true := by
  induction h with
  | nil lanes =>
      exact hheld
  | queue hqueued _ ih =>
      refine ih fun a ha => ?_
      rcases List.mem_append.1 ha with hold | hnew
      · exact hheld a hold
      · exact List.mem_singleton.1 hnew ▸ hqueued
  | full hqueued _ ih =>
      refine ih fun a ha => ?_
      exact List.mem_singleton.1 ha ▸ hqueued
  | express _ _ ih =>
      exact ih hheld

theorem Takes.append {lanes'' : Lanes α} {more : List α} (h : Takes queued lanes items lanes')
    (h' : Takes queued lanes' more lanes'') : Takes queued lanes (items ++ more) lanes'' := by
  induction h with
  | nil lanes =>
      exact h'
  | queue hqueued _ ih =>
      exact .queue hqueued (ih h')
  | full hqueued _ ih =>
      exact .full hqueued (ih h')
  | express hexpress _ ih =>
      exact .express hexpress (ih h')

/-- Without items nothing changes. -/
theorem Takes.eq_of_nil (h : Takes queued lanes [] lanes') : lanes' = lanes := by
  cases h
  rfl

end Takes

end Lanes

end SeamlessServer
