import SeamlessServer.Game.View

/-!
# Game.Replica — the copies of an object under a queue of packets

The packets about an object are edits of the set of sectors that hold an observing copy: a creation
inserts, a removal erases, a passed on movement visits.  `Replica` says of the copies and of a queue
that every packet of the queue will find what it expects if they are delivered in order, and which
set of sectors remains.  The lemmas follow the reactions of the handlers.
-/

namespace SeamlessServer
namespace Game

open Utility Protocol

/-! ## Packets as edits -/

/-- What a packet does to the set of observing sectors; promotions and requests to the owner do
nothing by themselves. -/
def edit : PlayPacket → Option (Edit Nat)
  | .createObservingObjectRq _ info => some (.insert info.sectorId)
  | .removeObservingObjectRq sectorId _ => some (.erase sectorId)
  | .promoteObjectRq _ _ => none
  | .characterMoveRq packet => if packet.toOwner then none else some (.visit packet.sectorId)
  | .removeCharacterRq packet => if packet.toOwner then none else some (.erase packet.sectorId)

def edits (packets : List PlayPacket) : List (Edit Nat) := packets.filterMap edit

@[simp] theorem edits_nil : edits [] = [] := rfl

@[simp] theorem edits_append (l l' : List PlayPacket) : edits (l ++ l') = edits l ++ edits l' :=
  List.filterMap_append

theorem edits_cons_of_some {q : PlayPacket} {e : Edit Nat} (h : edit q = some e)
    (packets : List PlayPacket) : edits (q :: packets) = e :: edits packets := by
  simp [edits, h]

theorem edits_cons_of_none {q : PlayPacket} (h : edit q = none) (packets : List PlayPacket) :
    edits (q :: packets) = edits packets := by
  simp [edits, h]

/-- The sector of an edit is the sector of its packet. -/
theorem target_of_edit {q : PlayPacket} {e : Edit Nat} (h : edit q = some e) :
    e.target = q.sectorId := by
  cases q with
  | createObservingObjectRq s info =>
      cases h
      rfl
  | removeObservingObjectRq x o =>
      cases h
      rfl
  | promoteObjectRq s info =>
      cases h
  | characterMoveRq packet =>
      simp only [edit] at h
      split_ifs at h
      cases h
      rfl
  | removeCharacterRq packet =>
      simp only [edit] at h
      split_ifs at h
      cases h
      rfl

theorem edit_of_toOwner {q : PlayPacket} (h : q.toOwner = true) :
    edit q = none ∧ q.isPromote = false := by
  cases q with
  | characterMoveRq packet =>
      have h : packet.toOwner = true := h
      simp [edit, h, PlayPacket.isPromote]
  | removeCharacterRq packet =>
      have h : packet.toOwner = true := h
      simp [edit, h, PlayPacket.isPromote]
  | _ =>
      simp [PlayPacket.toOwner] at h

/-- A packet is an edit, a promotion or a request to the owner. -/
theorem packet_cases (q : PlayPacket) :
    (∃ e, edit q = some e) ∨ q.isPromote = true ∨ q.toOwner = true := by
  cases q with
  | createObservingObjectRq s info =>
      exact .inl ⟨_, rfl⟩
  | removeObservingObjectRq x o =>
      exact .inl ⟨_, rfl⟩
  | promoteObjectRq s info =>
      exact .inr (.inl rfl)
  | characterMoveRq packet =>
      cases h : packet.toOwner with
      | true =>
          exact .inr (.inr h)
      | false =>
          exact .inl ⟨.visit packet.sectorId, by simp [edit, h]⟩
  | removeCharacterRq packet =>
      cases h : packet.toOwner with
      | true =>
          exact .inr (.inr h)
      | false =>
          exact .inl ⟨.erase packet.sectorId, by simp [edit, h]⟩

theorem edits_of_toOwner {packets : List PlayPacket} (h : ∀ q ∈ packets, q.toOwner = true) :
    edits packets = [] := by
  rw [edits, List.filterMap_eq_nil_iff]
  intro q hq
  exact (edit_of_toOwner (h q hq)).1

/-! ## Replicas -/

/-- The sectors that hold a copy, that of the owner left out. -/
def others (copies : Nat → Option Fixture) (owner : Option Nat) : Set Nat :=
  {x | owner ≠ some x ∧ ∃ f, copies x = some f}

/-- In order delivery of the pending packets is possible and leads to the sectors of `T`. -/
structure Replica (copies : Nat → Option Fixture) (owner : Option Nat) (pending : List PlayPacket)
    (T : Set Nat) : Prop where
  /-- All but the owner observe. -/
  observe : ∀ x f, copies x = some f → owner ≠ some x → f.isObservingFixture = true
  noPromotion : ∀ q ∈ pending, q.isPromote = false
  onGrid : ∀ q ∈ pending, q.toOwner = true ∨ q.sectorId < sectorCount
  /-- No edit is about the sector of the owner. -/
  apart : ∀ e ∈ edits pending, owner ≠ some e.target
  runs : Edit.Runs (others copies owner) (edits pending) T

section Others

variable {copies : Nat → Option Fixture} {owner : Option Nat} {x : Nat}

theorem mem_others {y : Nat} : y ∈ others copies owner ↔ owner ≠ some y ∧ ∃ f, copies y = some f :=
  Iff.rfl

theorem others_insert (hx : owner ≠ some x) (f : Fixture) :
    others (Function.update copies x (some f)) owner = insert x (others copies owner) := by
  ext y
  by_cases hy : y = x
  · subst hy
    simp [mem_others, hx]
  · simp [mem_others, hy]

theorem others_erase : others (Function.update copies x none) owner = others copies owner \ {x} := by
  ext y
  by_cases hy : y = x
  · subst hy
    simp [mem_others]
  · simp [mem_others, hy]

/-- Only the presence of a copy matters. -/
theorem others_update {F : Option Fixture} (h : F.isSome = (copies x).isSome) :
    others (Function.update copies x F) owner = others copies owner := by
  ext y
  by_cases hy : y = x
  · subst hy
    simp [mem_others, ← Option.isSome_iff_exists, h]
  · simp [mem_others, hy]

theorem others_owner (s : Nat) (F : Option Fixture) :
    others (Function.update copies s F) (some s) = others copies (some s) := by
  ext y
  by_cases hy : y = s
  · subst hy
    simp [mem_others]
  · simp [mem_others, hy]

end Others

namespace Replica

variable {copies : Nat → Option Fixture} {owner : Option Nat} {pending packets : List PlayPacket}
  {T T' : Set Nat} {q : PlayPacket} {F : Option Fixture} {fault : Option Fault} {now : Milliseconds}

/-! ### Delivery -/

/-- The reaction to an edit that meets what it expects. -/
theorem edit_reaction {e : Edit Nat} (hedit : edit q = some e) (howner : owner ≠ some q.sectorId)
    (hobs : ∀ f, copies q.sectorId = some f → f.isObservingFixture = true)
    (happlicable : e.Applicable (others copies owner))
    (hreaction : Reaction now q (copies q.sectorId) F packets fault) :
    packets = [] ∧ fault = none ∧ (∀ f, F = some f → f.isObservingFixture = true) ∧
      others (Function.update copies q.sectorId F) owner = e.after (others copies owner) := by
  -- the reactions that fail contradict the applicability, the others are the edit
  generalize hF₀ : copies q.sectorId = F₀ at hreaction hobs
  have hpresent : ∀ x, x ∈ others copies owner → x = q.sectorId → ∃ f, F₀ = some f := by
    rintro x ⟨_, f, hf⟩ rfl
    exact ⟨f, hF₀.symm.trans hf⟩
  have habsent : ∀ f, q.sectorId ∉ others copies owner → F₀ ≠ some f := by
    intro f hnot hf
    exact hnot ⟨howner, f, hF₀.trans hf⟩
  cases hreaction with
  | created s info =>
      cases hedit
      refine ⟨rfl, rfl, ?_, others_insert howner _⟩
      rintro f ⟨⟩
      rfl
  | objectExists s info f =>
      cases hedit
      exact absurd rfl (habsent f happlicable)
  | removed x o hf =>
      cases hedit
      exact ⟨rfl, rfl, by simp, others_erase⟩
  | observerNotFound x o hF =>
      cases hedit
      rcases hpresent x happlicable rfl with ⟨f, hf⟩
      have htrue := hobs f hf
      rw [hF f hf] at htrue
      cases htrue
  | promotedNotFound s info =>
      cases hedit
  | promotedOutside s info f hloc =>
      cases hedit
  | promotedNear s info f hloc hnear =>
      cases hedit
  | promotedFar s info f hloc hfar =>
      cases hedit
  | moveForwarded packet x hto hF =>
      simp [edit, hto] at hedit
  | moveOwnerUnknown packet hto hF =>
      simp [edit, hto] at hedit
  | copyNotFound packet hto =>
      simp only [edit, hto, Bool.false_eq_true, if_false, Option.some.injEq] at hedit
      subst hedit
      rcases hpresent packet.sectorId happlicable rfl with ⟨f, hf⟩
      cases hf
  | @copyMoved packet f hto hf =>
      simp only [edit, hto, Bool.false_eq_true, if_false, Option.some.injEq] at hedit
      subst hedit
      refine ⟨rfl, rfl, ?_, others_update ?_⟩
      · rintro g ⟨⟩
        exact hf
      · rw [hF₀]
        rfl
  | @ownerMoved packet f hf =>
      have htrue := hobs f rfl
      rw [hf] at htrue
      cases htrue
  | removeForwarded packet x hto hF =>
      simp [edit, hto] at hedit
  | removeOwnerUnknown packet hto hF =>
      simp [edit, hto] at hedit
  | removeNotFound packet hto =>
      simp only [edit, hto, Bool.false_eq_true, if_false, Option.some.injEq] at hedit
      subst hedit
      rcases hpresent packet.sectorId happlicable rfl with ⟨f, hf⟩
      cases hf
  | @copyRemoved packet f hto hf =>
      simp only [edit, hto, Bool.false_eq_true, if_false, Option.some.injEq] at hedit
      subst hedit
      exact ⟨rfl, rfl, by simp, others_erase⟩
  | @ownerRemoved packet f hf =>
      have htrue := hobs f rfl
      rw [hf] at htrue
      cases htrue

/-- The first pending edit is delivered. -/
theorem deliver (h : Replica copies owner (q :: pending) T) {e : Edit Nat} (hedit : edit q = some e)
    (hreaction : Reaction now q (copies q.sectorId) F packets fault) :
    packets = [] ∧ fault = none ∧ owner ≠ some q.sectorId ∧
      Replica (Function.update copies q.sectorId F) owner pending T := by
  have hedits := edits_cons_of_some hedit pending
  have howner : owner ≠ some q.sectorId := by
    rw [← target_of_edit hedit]
    exact h.apart e (by simp [hedits])
  have hruns := h.runs
  rw [hedits, Edit.runs_cons] at hruns
  rcases edit_reaction hedit howner (fun f hf => h.observe _ f hf howner) hruns.1 hreaction with
    ⟨hpackets, hfault, hobs, hothers⟩
  refine ⟨hpackets, hfault, howner, ?_, ?_, ?_, ?_, hothers ▸ hruns.2⟩
  · intro x f hf hx
    by_cases hxq : x = q.sectorId
    · rw [hxq, Function.update_self] at hf
      exact hobs f hf
    · rw [Function.update_of_ne hxq] at hf
      exact h.observe x f hf hx
  · intro p hp
    exact h.noPromotion p (List.mem_cons_of_mem _ hp)
  · intro p hp
    exact h.onGrid p (List.mem_cons_of_mem _ hp)
  · intro e' he'
    exact h.apart e' (by simp [hedits, he'])

/-- A request to the owner is taken out. -/
theorem pop (h : Replica copies owner (q :: pending) T) (hto : q.toOwner = true) :
    Replica copies owner pending T := by
  have hedits := edits_cons_of_none (edit_of_toOwner hto).1 pending
  refine ⟨h.observe, ?_, ?_, ?_, ?_⟩
  · intro p hp
    exact h.noPromotion p (List.mem_cons_of_mem _ hp)
  · intro p hp
    exact h.onGrid p (List.mem_cons_of_mem _ hp)
  · rw [← hedits]
    exact h.apart
  · rw [← hedits]
    exact h.runs

/-- Packets that continue the edits are appended. -/
theorem append (h : Replica copies owner pending T) (hpromote : ∀ p ∈ packets, p.isPromote = false)
    (hgrid : ∀ p ∈ packets, p.toOwner = true ∨ p.sectorId < sectorCount)
    (hapart : ∀ e ∈ edits packets, owner ≠ some e.target) (hruns : Edit.Runs T (edits packets) T') :
    Replica copies owner (pending ++ packets) T' := by
  refine ⟨h.observe, ?_, ?_, ?_, ?_⟩
  · intro p hp
    exact (List.mem_append.1 hp).elim (h.noPromotion p) (hpromote p)
  · intro p hp
    exact (List.mem_append.1 hp).elim (h.onGrid p) (hgrid p)
  · intro e he
    rw [edits_append] at he
    exact (List.mem_append.1 he).elim (h.apart e) (hapart e)
  · rw [edits_append]
    exact h.runs.append hruns

/-- Requests to the owner are appended. -/
theorem append_requests (h : Replica copies owner pending T)
    (hto : ∀ p ∈ packets, p.toOwner = true) : Replica copies owner (pending ++ packets) T := by
  refine h.append ?_ ?_ ?_ ?_
  · intro p hp
    exact (edit_of_toOwner (hto p hp)).2
  · intro p hp
    exact .inl (hto p hp)
  · simp [edits_of_toOwner hto]
  · rw [edits_of_toOwner hto]
    exact Edit.Runs.nil T

/-- A request meets a copy, or none: it is passed on or its owner is not known. -/
theorem pass (h : Replica copies owner pending T) (hto : q.toOwner = true)
    (howner : owner ≠ some q.sectorId)
    (hreaction : Reaction now q (copies q.sectorId) F packets fault) :
    (∀ p ∈ packets, p.toOwner = true) ∧ (fault = none ∨ fault = some .ownerUnknown) ∧
      F.isSome = (copies q.sectorId).isSome ∧
      Replica (Function.update copies q.sectorId F) owner pending T := by
  -- whatever is in the sector is a copy, so that a packet for the owner finds none
  have hobs := fun f hf => h.observe q.sectorId f hf howner
  have hsame : (∀ p ∈ packets, p.toOwner = true) ∧ (fault = none ∨ fault = some .ownerUnknown) ∧
      F.isSome = (copies q.sectorId).isSome ∧
      ∀ f, F = some f → f.isObservingFixture = true := by
    generalize copies q.sectorId = F₀ at hreaction hobs
    have hplace : ∀ (request : CharacterMoveRq) (f : Fixture),
        F₀.map (Fixture.place · request) = some f → f.isObservingFixture = true := by
      intro request f hf
      rcases Option.map_eq_some_iff.1 hf with ⟨g, hg, rfl⟩
      exact hobs g hg
    cases hreaction with
    | moveForwarded packet x hto' hF =>
        refine ⟨?_, .inl rfl, by simp, hplace packet⟩
        intro p hp
        rw [List.mem_singleton.1 hp]
        exact hto'
    | moveOwnerUnknown packet hto' hF =>
        exact ⟨by simp, .inr rfl, by simp, hplace packet⟩
    | removeForwarded packet x hto' hF =>
        refine ⟨?_, .inl rfl, rfl, hobs⟩
        intro p hp
        rw [List.mem_singleton.1 hp]
        exact hto'
    | removeOwnerUnknown packet hto' hF =>
        exact ⟨by simp, .inr rfl, rfl, hobs⟩
    -- the rest are handlers of an owner, or of a packet for a copy
    | @ownerMoved packet f hf =>
        have htrue := hobs f rfl
        rw [hf] at htrue
        cases htrue
    | @ownerRemoved packet f hf =>
        have htrue := hobs f rfl
        rw [hf] at htrue
        cases htrue
    | copyNotFound packet hto' =>
        have htrue : packet.toOwner = true := hto
        rw [hto'] at htrue
        cases htrue
    | copyMoved packet hto' hf =>
        have htrue : packet.toOwner = true := hto
        rw [hto'] at htrue
        cases htrue
    | removeNotFound packet hto' =>
        have htrue : packet.toOwner = true := hto
        rw [hto'] at htrue
        cases htrue
    | copyRemoved packet hto' hf =>
        have htrue : packet.toOwner = true := hto
        rw [hto'] at htrue
        cases htrue
    | _ =>
        cases hto
  rcases hsame with ⟨hpackets, hfault, hsome, hF⟩
  refine ⟨hpackets, hfault, hsome, ?_, h.noPromotion, h.onGrid, h.apart, ?_⟩
  · intro x f hf hx
    by_cases hxq : x = q.sectorId
    · rw [hxq, Function.update_self] at hf
      exact hF f hf
    · rw [Function.update_of_ne hxq] at hf
      exact h.observe x f hf hx
  · rw [others_update hsome]
    exact h.runs

/-! ### Changes at the owner -/

/-- The owner is written. -/
theorem write_owner {s : Nat} (h : Replica copies (some s) pending T) (F : Option Fixture) :
    Replica (Function.update copies s F) (some s) pending T := by
  refine ⟨?_, h.noPromotion, h.onGrid, h.apart, ?_⟩
  · intro x f hf hx
    have hne : x ≠ s := fun hxs => hx (by rw [hxs])
    rw [Function.update_of_ne hne] at hf
    exact h.observe x f hf hx
  · rw [others_owner]
    exact h.runs

/-- An observing copy is written. -/
theorem write_copy (h : Replica copies owner pending T) {x : Nat} {f f' : Fixture}
    (hf : copies x = some f) (hobs : f'.isObservingFixture = true) :
    Replica (Function.update copies x (some f')) owner pending T := by
  refine ⟨?_, h.noPromotion, h.onGrid, h.apart, ?_⟩
  · intro y g hg hy
    by_cases hyx : y = x
    · rw [hyx, Function.update_self] at hg
      cases hg
      exact hobs
    · rw [Function.update_of_ne hyx] at hg
      exact h.observe y g hg hy
  · rw [others_update (by rw [hf]; rfl)]
    exact h.runs

/-- The owner is removed. -/
theorem remove_owner {s : Nat} (h : Replica copies (some s) pending T) :
    Replica (Function.update copies s none) none pending T := by
  refine ⟨?_, h.noPromotion, h.onGrid, by simp, ?_⟩
  · intro x f hf _
    by_cases hxs : x = s
    · simp [hxs] at hf
    · rw [Function.update_of_ne hxs] at hf
      exact h.observe x f hf fun h => hxs (Option.some.inj h).symm
  · have hset : others (Function.update copies s none) none = others copies (some s) := by
      ext y
      by_cases hy : y = s
      · subst hy
        simp [mem_others]
      · simp [mem_others, hy, Ne.symm hy]
    rw [hset]
    exact h.runs

/-- The owner becomes an observer: its sector stays, whatever is pending. -/
theorem give_up {s : Nat} (h : Replica copies (some s) pending T) {f : Fixture}
    (hobs : f.isObservingFixture = true) :
    Replica (Function.update copies s (some f)) none pending (insert s T) := by
  refine ⟨?_, h.noPromotion, h.onGrid, by simp, ?_⟩
  · intro x g hg _
    by_cases hxs : x = s
    · rw [hxs, Function.update_self] at hg
      cases hg
      exact hobs
    · rw [Function.update_of_ne hxs] at hg
      exact h.observe x g hg fun h => hxs (Option.some.inj h).symm
  · have hset : others (Function.update copies s (some f)) none =
        insert s (others copies (some s)) := by
      ext y
      by_cases hy : y = s
      · subst hy
        simp [mem_others]
      · simp [mem_others, hy, Ne.symm hy]
    rw [hset]
    refine h.runs.frame ?_
    intro e he heq
    exact h.apart e he (by rw [heq])

/-- An observer becomes the owner when nothing is pending. -/
theorem take_over {d : Nat} (h : Replica copies none [] T) (f : Fixture) :
    Replica (Function.update copies d (some f)) (some d) [] (T \ {d}) := by
  refine ⟨?_, by simp, by simp, by simp, ?_⟩
  · intro x g hg hx
    have hne : x ≠ d := fun hxd => hx (by rw [hxd])
    rw [Function.update_of_ne hne] at hg
    exact h.observe x g hg (by simp)
  · have hT : others copies none = T := h.runs
    rw [← hT]
    change others _ _ = _
    ext y
    by_cases hy : y = d
    · subst hy
      simp [mem_others]
    · simp [mem_others, hy, Ne.symm hy]

end Replica

end Game
end SeamlessServer
