import Mathlib.Data.List.Basic

/-!
# Framing — items in a stream that arrives in pieces

The encodings of a list of items are concatenated and received piece by piece.  After `n` elements
some items are complete and part of the next one may be there as well; `split` computes this
state.  It is characterised by `split_eq`, and `split_add` says that it does not depend on the pieces
in which the elements arrived.  `after` is the state after some pieces.
-/

namespace SeamlessServer
namespace Framing

universe u v

variable {α : Type u} {β : Type v}

/-- The items that are complete, those that are not, and how many elements of the latter are there. -/
@[ext]
structure Split (α : Type u) where
  complete : List α
  pending : List α
  left : Nat

variable (encode : α → List β)

/-- The state after the first `n` elements of the stream. -/
def split : List α → Nat → Split α
  | [], n => ⟨[], [], n⟩
  | a :: as, n =>
      if (encode a).length ≤ n then
        let rest := split as (n - (encode a).length)
        ⟨a :: rest.complete, rest.pending, rest.left⟩
      else
        ⟨[], a :: as, n⟩

variable {encode} {as : List α} {n : Nat}

/-- The items are split, and so are the elements. -/
theorem split_spec : ∀ (as : List α) (n : Nat),
    as = (split encode as n).complete ++ (split encode as n).pending ∧
      n = ((split encode as n).complete.flatMap encode).length + (split encode as n).left ∧
      (split encode (split encode as n).pending (split encode as n).left).complete = [] := by
  intro as
  induction as with
  | nil =>
      intro n
      simp [split]
  | cons a as ih =>
      intro n
      by_cases h : (encode a).length ≤ n
      · rcases ih (n - (encode a).length) with ⟨hitems, hcount, hrest⟩
        simp only [split, h, if_true, List.flatMap_cons, List.length_append, List.cons_append]
        refine ⟨congrArg (a :: ·) hitems, ?_, hrest⟩
        omega
      · simp [split, h]

variable (encode) in
theorem complete_append_pending (as : List α) (n : Nat) :
    (split encode as n).complete ++ (split encode as n).pending = as :=
  (split_spec as n).1.symm

variable (encode) in
theorem length_complete_add_left (as : List α) (n : Nat) :
    ((split encode as n).complete.flatMap encode).length + (split encode as n).left = n :=
  (split_spec as n).2.1.symm

variable (encode) in
/-- Nothing more is complete. -/
theorem split_pending (as : List α) (n : Nat) :
    (split encode (split encode as n).pending (split encode as n).left).complete = [] :=
  (split_spec as n).2.2

/-- A state with nothing complete is where it started. -/
theorem split_of_complete (h : (split encode as n).complete = []) :
    split encode as n = ⟨[], as, n⟩ := by
  have hitems := complete_append_pending encode as n
  have hcount := length_complete_add_left encode as n
  rw [h] at hitems hcount
  ext1
  · exact h
  · exact hitems
  · simpa using hcount

/-- The state is determined by these equations. -/
theorem split_eq {done pending : List α} {left : Nat} (hitems : as = done ++ pending)
    (hcount : n = (done.flatMap encode).length + left)
    (hrest : (split encode pending left).complete = []) :
    split encode as n = ⟨done, pending, left⟩ := by
  subst hitems hcount
  induction done with
  | nil =>
      simpa using split_of_complete hrest
  | cons a done ih =>
      have hle : (encode a).length ≤ ((a :: done).flatMap encode).length + left := by
        simp only [List.flatMap_cons, List.length_append]
        omega
      have hsub : ((a :: done).flatMap encode).length + left - (encode a).length =
          (done.flatMap encode).length + left := by
        simp only [List.flatMap_cons, List.length_append]
        omega
      simp only [List.cons_append, split, hle, if_true, hsub, ih]

/-- The state does not depend on the pieces in which the elements arrive. -/
theorem split_add (as : List α) (n m : Nat) :
    split encode as (n + m) =
      let before := split encode as n
      let after := split encode before.pending (before.left + m)
      ⟨before.complete ++ after.complete, after.pending, after.left⟩ := by
  refine split_eq ?_ ?_ (split_pending _ _ _)
  · rw [List.append_assoc, complete_append_pending, complete_append_pending]
  · have hbefore := length_complete_add_left encode as n
    have hafter := length_complete_add_left encode (split encode as n).pending
      ((split encode as n).left + m)
    simp only [List.flatMap_append, List.length_append]
    omega

/-- All items are complete when all elements are there. -/
theorem split_all (as : List α) : split encode as (as.flatMap encode).length = ⟨as, [], 0⟩ := by
  apply split_eq <;> simp [split]

/-- The elements that are there. -/
theorem take_flatMap (as : List α) (n : Nat) :
    (as.flatMap encode).take n =
      (split encode as n).complete.flatMap encode ++
        ((split encode as n).pending.flatMap encode).take (split encode as n).left := by
  have hitems := complete_append_pending encode as n
  have hcount := length_complete_add_left encode as n
  calc
    (as.flatMap encode).take n
        = (((split encode as n).complete ++ (split encode as n).pending).flatMap encode).take
            (((split encode as n).complete.flatMap encode).length + (split encode as n).left) := by
          rw [hitems, hcount]
    _ = _ := by
          rw [List.flatMap_append, List.take_length_add_append]

/-- More items behind the elements that are there are pending. -/
theorem split_append (hencode : ∀ a, encode a ≠ []) (h : n ≤ (as.flatMap encode).length)
    (more : List α) :
    split encode (as ++ more) n =
      ⟨(split encode as n).complete, (split encode as n).pending ++ more,
        (split encode as n).left⟩ := by
  have hitems := complete_append_pending encode as n
  have hcount := length_complete_add_left encode as n
  refine split_eq (by rw [← List.append_assoc, hitems]) hcount.symm ?_
  cases hpending : (split encode as n).pending with
  | nil =>
      -- everything is complete, and no element is left over
      have hall : (split encode as n).complete = as := by
        rwa [hpending, List.append_nil] at hitems
      have hleft : (split encode as n).left = 0 := by
        rw [hall] at hcount
        omega
      cases more with
      | nil =>
          rfl
      | cons b more =>
          have hpos := List.length_pos_iff.2 (hencode b)
          rw [hleft, List.nil_append, split, if_neg (by omega)]
  | cons a rest =>
      have hnone := split_pending encode as n
      rw [hpending] at hnone
      rw [List.cons_append, split]
      by_cases hle : (encode a).length ≤ (split encode as n).left
      · simp [split, hle] at hnone
      · rw [if_neg hle]

section Pieces

variable (encode) (as) in
/-- The state after the first `n` of some pieces. -/
def after (pieces : List (List β)) (n : Nat) : Split α :=
  split encode as (pieces.take n).flatten.length

variable (encode) (as) in
/-- The items that the `n`-th piece completes. -/
def completedBy (pieces : List (List β)) (n : Nat) : List α :=
  (after encode as pieces (n + 1)).complete.drop (after encode as pieces n).complete.length

variable {pieces : List (List β)}

theorem take_succ (h : n < pieces.length) :
    pieces.take (n + 1) = pieces.take n ++ [pieces.get ⟨n, h⟩] :=
  (List.take_append_getElem h).symm

variable (encode) in
/-- The state after one more piece. -/
theorem after_succ (as : List α) (h : n < pieces.length) :
    after encode as pieces (n + 1) =
      let next := split encode (after encode as pieces n).pending
        ((after encode as pieces n).left + (pieces.get ⟨n, h⟩).length)
      ⟨(after encode as pieces n).complete ++ next.complete, next.pending, next.left⟩ := by
  rw [after, take_succ h, List.flatten_append, List.length_append, List.flatten_singleton]
  exact split_add _ _ _

variable (encode) in
theorem completedBy_eq (as : List α) (h : n < pieces.length) :
    completedBy encode as pieces n = (split encode (after encode as pieces n).pending
      ((after encode as pieces n).left + (pieces.get ⟨n, h⟩).length)).complete := by
  rw [completedBy, after_succ encode as h]
  exact List.drop_left

variable (encode) in
theorem complete_succ (as : List α) (h : n < pieces.length) :
    (after encode as pieces (n + 1)).complete =
      (after encode as pieces n).complete ++ completedBy encode as pieces n := by
  rw [completedBy_eq encode as h, after_succ encode as h]

/-- All items are complete after the pieces of the whole stream. -/
theorem after_length (hpieces : pieces.flatten = as.flatMap encode) :
    (after encode as pieces pieces.length).complete = as := by
  rw [after, List.take_length, hpieces, split_all]

/-- A piece of the stream has the elements that follow those already there. -/
theorem next_piece (hpieces : pieces.flatten = as.flatMap encode) (h : n < pieces.length) :
    let before := after encode as pieces n
    (before.pending.flatMap encode).take (before.left + (pieces.get ⟨n, h⟩).length) =
        (before.pending.flatMap encode).take before.left ++ pieces.get ⟨n, h⟩ ∧
      ((before.pending.flatMap encode).take before.left).length = before.left := by
  intro before
  have hitems := complete_append_pending encode as (pieces.take n).flatten.length
  have hcount : (before.complete.flatMap encode).length + before.left =
      (pieces.take n).flatten.length :=
    length_complete_add_left encode as (pieces.take n).flatten.length
  have htotal : pieces.flatten = (pieces.take n).flatten ++
      (pieces.get ⟨n, h⟩ ++ (pieces.drop (n + 1)).flatten) := by
    conv_lhs => rw [← List.take_append_drop (n + 1) pieces, take_succ h]
    rw [List.flatten_append, List.flatten_append, List.flatten_singleton, List.append_assoc]
  -- the pending elements are those after the complete items
  have hpending : before.pending.flatMap encode =
      pieces.flatten.drop (before.complete.flatMap encode).length := by
    rw [hpieces, ← hitems, List.flatMap_append]
    exact List.drop_left.symm
  have hdrop : (before.pending.flatMap encode).drop before.left =
      pieces.get ⟨n, h⟩ ++ (pieces.drop (n + 1)).flatten := by
    calc
      (before.pending.flatMap encode).drop before.left
          = pieces.flatten.drop ((before.complete.flatMap encode).length + before.left) := by
            rw [hpending, List.drop_drop]
      _ = pieces.flatten.drop (pieces.take n).flatten.length := by
            rw [hcount]
      _ = pieces.get ⟨n, h⟩ ++ (pieces.drop (n + 1)).flatten := by
            rw [htotal, List.drop_left]
  constructor
  · rw [List.take_add, hdrop, List.take_left]
  · have hlength : (pieces.take n).flatten.length ≤ pieces.flatten.length := by
      rw [htotal, List.length_append]
      omega
    have hpieces := congrArg List.length hpending
    rw [List.length_drop] at hpieces
    rw [List.length_take, Nat.min_eq_left]
    omega

variable (encode) in
/-- The elements that come next in the stream. -/
theorem next_take {n m : Nat} (as : List α) (h : n ≤ (as.flatMap encode).length) :
    let before := split encode as n
    let next := ((as.flatMap encode).drop n).take m
    (before.pending.flatMap encode).take (before.left + next.length) =
        (before.pending.flatMap encode).take before.left ++ next ∧
      ((before.pending.flatMap encode).take before.left).length = before.left := by
  have hpieces : [(as.flatMap encode).take n, ((as.flatMap encode).drop n).take m,
      ((as.flatMap encode).drop n).drop m].flatten = as.flatMap encode := by
    rw [List.flatten_cons, List.flatten_cons, List.flatten_singleton, List.take_append_drop,
      List.take_append_drop]
  have hnext := next_piece hpieces (n := 1) (by simp)
  have hlength : ([(as.flatMap encode).take n, ((as.flatMap encode).drop n).take m,
      ((as.flatMap encode).drop n).drop m].take 1).flatten.length = n := by
    rw [List.take_succ_cons, List.take_zero, List.flatten_singleton, List.length_take]
    exact Nat.min_eq_left h
  rw [after, hlength] at hnext
  exact hnext

end Pieces

end Framing
end SeamlessServer
