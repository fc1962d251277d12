import SeamlessServer.Game.Placement
import SeamlessServer.Game.Replica

/-!
# Game.HandOver — an object from sector to sector, with packets in order

If the packets about an object are delivered in the order they were posted, the object is always in
one of three shapes: it is gone, it is held by an owner whose observers are, or will be, the near
sectors of its phase, or it is moving and its promotion is under way.  The steps of a view keep to
these shapes (`Shape.deliver`, `Shape.request_copy`, `Shape.move_owner`, `Shape.remove_owner`,
`Shape.round`), so no packet is ever met by a copy it does not expect.
-/

namespace SeamlessServer
namespace Game

open Utility Protocol SectorSystem

/-! ## The packets of an exchange -/

section Exchange

variable {s d : Nat} {p q : Direction}

theorem removedSectors_spec (hs : s < sectorCount) (hd : d < sectorCount) {x : Nat}
    (h : x ∈ removedSectors p s q d) : x < sectorCount ∧ x ≠ d := by
  rcases exchangeSectors_spec hs hd p q with ⟨common, _, _, hprev, _⟩
  unfold removedSectors at h
  split_ifs at h
  · rcases (hprev x).1 h with ⟨⟨hx | hx, _⟩, hne⟩
    · exact ⟨lt_of_mem_nearSectors hs hx, hne⟩
    · exact ⟨hx ▸ hs, hne⟩
  · simp at h

theorem createdSectors_spec (hs : s < sectorCount) (hd : d < sectorCount) {x : Nat}
    (h : x ∈ createdSectors p s q d) : x < sectorCount ∧ x ≠ d := by
  rcases exchangeSectors_spec hs hd p q with ⟨common, _, _, _, hnew, _⟩
  unfold createdSectors at h
  split_ifs at h
  · have hmem := ((hnew x).1 h).1.1
    exact ⟨lt_of_mem_nearSectors hd hmem, ne_of_mem_nearSectors hd hmem⟩
  · simp at h

variable {info : ObjectInfo} {location : FixtureLocation}

theorem edits_exchangePackets :
    edits (exchangePackets info p s location q d) =
      if s = d ∧ p = q ∧ location = .Leave then []
      else (removedSectors p s q d).map Edit.erase ++ (createdSectors p s q d).map Edit.insert := by
  unfold exchangePackets
  split_ifs
  · rfl
  · rw [edits_append, edits, edits, List.filterMap_map, List.filterMap_map]
    have herase : (edit ∘ fun x => PlayPacket.removeObservingObjectRq x info.objectId) =
        fun x => some (Edit.erase x) := rfl
    have hinsert : (edit ∘ createPacket s info) = fun x => some (Edit.insert x) := rfl
    rw [herase, hinsert, ← List.filterMap_eq_map, ← List.filterMap_eq_map]
    rfl

theorem exchangePackets_apart (hs : s < sectorCount) (hd : d < sectorCount) {e : Edit Nat}
    (h : e ∈ edits (exchangePackets info p s location q d)) : e.target ≠ d := by
  rw [edits_exchangePackets] at h
  split_ifs at h
  · simp at h
  · rcases List.mem_append.1 h with h | h
    · rcases List.mem_map.1 h with ⟨x, hx, rfl⟩
      exact (removedSectors_spec hs hd hx).2
    · rcases List.mem_map.1 h with ⟨x, hx, rfl⟩
      exact (createdSectors_spec hs hd hx).2

theorem exchangePackets_onGrid (hs : s < sectorCount) (hd : d < sectorCount) {packet : PlayPacket}
    (h : packet ∈ exchangePackets info p s location q d) : packet.sectorId < sectorCount := by
  unfold exchangePackets at h
  split_ifs at h
  · simp at h
  · rcases List.mem_append.1 h with h | h
    · rcases List.mem_map.1 h with ⟨x, hx, rfl⟩
      exact (removedSectors_spec hs hd hx).1
    · rcases List.mem_map.1 h with ⟨x, hx, rfl⟩
      exact (createdSectors_spec hs hd hx).1

/-- The observers of an owner that stays in its sector follow its phase. -/
theorem exchangePackets_runs (hs : s < sectorCount) :
    Edit.Runs {x | x ∈ nearSectors s p} (edits (exchangePackets info p s location q s))
      {x | x ∈ nearSectors s q} := by
  rw [edits_exchangePackets]
  split_ifs with hsame
  · rw [hsame.2.1]
    exact Edit.Runs.nil _
  · have hruns := exchange_runs (p := p) (q := q) hs hs (.inr rfl)
      fun h => ne_of_mem_nearSectors hs h rfl
    have hset : {x | (x ∈ nearSectors s p ∨ x = s) ∧ x ≠ s} = {x | x ∈ nearSectors s p} := by
      ext x
      constructor
      · rintro ⟨hx | hx, hne⟩
        · exact hx
        · exact absurd hx hne
      · intro hx
        exact ⟨.inl hx, ne_of_mem_nearSectors hs hx⟩
    exact hset ▸ hruns

/-- The observers of an owner that has come from a sector far away. -/
theorem exchangePackets_runs_far (hs : s < sectorCount) (hd : d < sectorCount) (hne : s ≠ d)
    (hp : p ≠ .Max) (hfar : s ∉ nearSectors d q) :
    Edit.Runs {x | (x ∈ nearSectors s p ∨ x = s) ∧ x ≠ d}
      (edits (exchangePackets info p s location q d)) {x | x ∈ nearSectors d q} := by
  rw [edits_exchangePackets, if_neg (fun h => hne h.1)]
  exact exchange_runs hs hd (.inl hp) hfar

end Exchange

/-! ## Shapes of an object -/

/-- The owner is inside its sector, or in the gray zone with observers. -/
def Fixture.Settled (f : Fixture) : Prop :=
  (f.location = .In ∧ f.phase = .Max) ∨ f.location = .Gray

/-- An owner whose observers are, or will be, those of its phase. -/
structure Held (v : View) (s : Nat) (f : Fixture) : Prop where
  onGrid : s < sectorCount
  copy : v.copies s = some f
  owns : f.isObservingFixture = false
  sector : f.sectorId = s
  settled : f.Settled
  replica : Replica v.copies (some s) v.queue {x | x ∈ nearSectors s f.phase}

/-- A promotion is under way, behind the creation of a copy where it will arrive. -/
structure Moving (v : View) (s : Nat) (info : ObjectInfo) (before after : List PlayPacket) :
    Prop where
  queue : v.queue = before ++ .promoteObjectRq s info :: after
  handOff : HandOff s info.sectorId info.fixture
  phase : info.fixture.phase = calculateCurrentPhase s info.fixture
  sector : info.fixture.sectorId = info.sectorId
  requests : ∀ q ∈ after, q.toOwner = true
  replica : Replica v.copies none before
    {x | x ∈ nearSectors s info.fixture.phase ∨ x = s ∨ x = info.sectorId}

/-- The shapes of an object; the flag tells whether it has an owner or is about to have one.  An
object that is gone leaves copies behind only if its owner was lost outside the grid. -/
inductive Shape (lossless : Prop) (v : View) : Bool → Prop
  | gone (T : Set Nat) (hT : lossless → T = ∅) (h : Replica v.copies none v.queue T) :
      Shape lossless v false
  | held (s : Nat) (f : Fixture) (h : Held v s f) : Shape lossless v true
  | moving (s : Nat) (info : ObjectInfo) (before after : List PlayPacket)
      (h : Moving v s info before after) : Shape lossless v true

namespace Deployment

variable {D : Deployment}

theorem Complete.holds (hD : D.Complete) {x : Nat} (hx : x < sectorCount) : D.Holds x := by
  rcases hD x hx with ⟨k, hk⟩
  exact ⟨k, D.mem_sectorsOf.2 ⟨hx, hk⟩⟩

theorem Complete.sent_eq (hD : D.Complete) {packets : List PlayPacket}
    (h : ∀ q ∈ packets, q.sectorId < sectorCount) : D.sent packets = packets := by
  rw [sent, List.filter_eq_self]
  intro q hq
  rcases hD q.sectorId (h q hq) with ⟨k, hk⟩
  simp [hk]

end Deployment

section Shape

variable {lossless : Prop} {v : View} {b : Bool} {D : Deployment} {q : PlayPacket}
  {rest packets : List PlayPacket} {F : Option Fixture} {fault : Option Fault} {now : Milliseconds}

theorem isOwner_of_owns {x : Nat} (h : v.owns x = true) :
    ∃ f, v.copies x = some f ∧ f.isObservingFixture = false := by
  rcases (Option.any_eq_true _ _).1 h with ⟨f, hf, hobs⟩
  exact ⟨f, hf, by simpa using hobs⟩

theorem Held.owns_iff {s : Nat} {f : Fixture} (h : Held v s f) {x : Nat} :
    v.owns x = true ↔ x = s := by
  constructor
  · intro howns
    rcases isOwner_of_owns howns with ⟨g, hg, hobs⟩
    by_contra hne
    have htrue := h.replica.observe x g hg fun heq => hne (Option.some.inj heq).symm
    rw [hobs] at htrue
    cases htrue
  · rintro rfl
    simp [View.owns, h.copy, h.owns]

theorem Replica.not_owns {pending : List PlayPacket} {T : Set Nat}
    (h : Replica v.copies none pending T) (x : Nat) : v.owns x = false := by
  by_contra howns
  rcases isOwner_of_owns (by simpa using howns) with ⟨g, hg, hobs⟩
  have htrue := h.observe x g hg (by simp)
  rw [hobs] at htrue
  cases htrue

/-! ### Promotions -/

/-- A location that is not left is settled together with its phase. -/
theorem settled_destPhase {x : Nat} {f g : Fixture} (hloc : calculateCurrentLocation x f ≠ .Leave)
    (hglocation : g.location = calculateCurrentLocation x f)
    (hgphase : g.phase = HandOff.destPhase x f) : g.Settled := by
  rcases calculateCurrentLocation_cases x f with h | h | h
  · refine .inl ⟨hglocation.trans h, ?_⟩
    rw [hgphase, HandOff.destPhase, if_pos h]
  · exact .inr (hglocation.trans h)
  · exact absurd h hloc

/-- The promotion arrives: the copy at its destination takes over, and the observers of the old
owner become those of the new one. -/
theorem Moving.promote (hD : D.Complete) {s : Nat} {info : ObjectInfo} {after : List PlayPacket}
    (h : Moving v s info [] after)
    (hreaction : Reaction now (.promoteObjectRq s info) (v.copies info.sectorId) F packets fault) :
    fault = none ∧
      Held ({ v with queue := after }.write info.sectorId F (D.sent packets)) info.sectorId
        (promotedOwner info now) := by
  have hs := h.handOff.source
  have hd := h.handOff.dest.lt
  -- the observers that remain when the destination has taken over
  have hT : {x | x ∈ nearSectors s info.fixture.phase ∨ x = s ∨ x = info.sectorId} \
      {info.sectorId} =
      {x | (x ∈ nearSectors s info.fixture.phase ∨ x = s) ∧ x ≠ info.sectorId} := by
    ext x
    simp only [Set.mem_sdiff, Set.mem_ofPred_eq, Set.mem_singleton_iff]
    constructor
    · rintro ⟨hx | hx | hx, hne⟩
      · exact ⟨.inl hx, hne⟩
      · exact ⟨.inr hx, hne⟩
      · exact absurd hx hne
    · rintro ⟨hx | hx, hne⟩
      · exact ⟨.inl hx, hne⟩
      · exact ⟨.inr (.inl hx), hne⟩
  have htaken := (h.replica.take_over (d := info.sectorId) (promotedOwner info now)).append_requests
    h.requests
  rw [hT, List.nil_append] at htaken
  have hheld : ∀ packets, Replica
      (Function.update v.copies info.sectorId (some (promotedOwner info now)))
      (some info.sectorId) (after ++ packets)
      {x | x ∈ nearSectors info.sectorId (HandOff.destPhase info.sectorId info.fixture)} →
      Held ({ v with queue := after }.write info.sectorId (some (promotedOwner info now)) packets)
        info.sectorId (promotedOwner info now) := by
    intro packets hreplica
    exact ⟨hd, by simp [View.write], rfl, h.sector,
      settled_destPhase h.handOff.location_dest rfl rfl, hreplica⟩
  generalize hF₀ : v.copies info.sectorId = F₀ at hreaction
  cases hreaction with
  | promotedNotFound _ _ =>
      have hmem : info.sectorId ∈ others v.copies none := by
        have hset : others v.copies none = _ := h.replica.runs
        rw [hset]
        exact .inr (.inr rfl)
      rcases hmem with ⟨_, f, hf⟩
      rw [hF₀] at hf
      cases hf
  | promotedOutside _ _ f hleave =>
      exact absurd hleave h.handOff.location_dest
  | promotedNear _ _ f hloc hnear =>
      refine ⟨rfl, hheld _ ?_⟩
      rw [h.phase, h.sector] at hnear
      have hset : {x | (x ∈ nearSectors s info.fixture.phase ∨ x = s) ∧ x ≠ info.sectorId} =
          {x | x ∈ nearSectors info.sectorId
            (HandOff.destPhase info.sectorId info.fixture)} := by
        ext x
        rw [Set.mem_ofPred_eq, Set.mem_ofPred_eq, h.handOff.near hnear x, h.phase,
          or_comm (a := x = s)]
      rw [Deployment.sent_nil, List.append_nil, ← hset]
      exact htaken
  | promotedFar _ _ f hloc hfar =>
      refine ⟨rfl, hheld _ ?_⟩
      rw [h.phase, h.sector] at hfar
      rw [h.sector, hD.sent_eq fun p hp => exchangePackets_onGrid hs hd hp]
      refine htaken.append exchangePackets_noPromotion
        (fun p hp => .inr (exchangePackets_onGrid hs hd hp)) ?_ ?_
      · intro e he heq
        exact exchangePackets_apart hs hd he (Option.some.inj heq).symm
      · refine exchangePackets_runs_far hs hd h.handOff.ne.symm ?_ (h.handOff.far hfar)
        rw [h.phase]
        exact h.handOff.phase_source

/-! ### Deliveries -/

/-- The first packet about an object, if it is no request to the owner, does what it is meant to. -/
theorem Shape.deliver (hD : D.Complete) (h : Shape lossless v b) (hqueue : v.queue = q :: rest)
    (hto : q.toOwner = false)
    (hreaction : Reaction now q (v.copies q.sectorId) F packets fault) :
    fault = none ∧
      Shape lossless ({ v with queue := rest }.write q.sectorId F (D.sent packets)) b := by
  -- the packet is for a copy, or the promotion
  have hkind : (∃ e, edit q = some e) ∨ q.isPromote = true := by
    rcases packet_cases q with h | h | h
    · exact .inl h
    · exact .inr h
    · rw [hto] at h
      cases h
  cases h with
  -- no owner any more: the last copies go
  | gone T hT h =>
      rw [hqueue] at h
      rcases hkind with ⟨e, hedit⟩ | hpromote
      · rcases h.deliver hedit hreaction with ⟨rfl, rfl, _, h'⟩
        refine ⟨rfl, .gone T hT ?_⟩
        simpa [View.write] using h'
      · rw [h.noPromotion q List.mem_cons_self] at hpromote
        cases hpromote
  -- an owner: the copies follow it
  | held s f h =>
      have hreplica := h.replica
      rw [hqueue] at hreplica
      rcases hkind with ⟨e, hedit⟩ | hpromote
      · rcases hreplica.deliver hedit hreaction with ⟨rfl, rfl, hne, h'⟩
        have hsq : s ≠ q.sectorId := fun heq => hne (by rw [heq])
        refine ⟨rfl, .held s f ⟨h.onGrid, ?_, h.owns, h.sector, h.settled, ?_⟩⟩
        · simpa [View.write, hsq] using h.copy
        · simpa [View.write] using h'
      · rw [hreplica.noPromotion q List.mem_cons_self] at hpromote
        cases hpromote
  -- between two owners: what was posted before the promotion comes before it
  | moving s info before after h =>
      have hsplit := hqueue.symm.trans h.queue
      cases before with
      | nil =>
          simp only [List.nil_append, List.cons.injEq] at hsplit
          rcases hsplit with ⟨rfl, rfl⟩
          rcases h.promote hD hreaction with ⟨hfault, hheld⟩
          exact ⟨hfault, .held _ _ hheld⟩
      | cons q' before =>
          simp only [List.cons_append, List.cons.injEq] at hsplit
          rcases hsplit with ⟨rfl, rfl⟩
          rcases hkind with ⟨e, hedit⟩ | hpromote
          · rcases h.replica.deliver hedit hreaction with ⟨rfl, rfl, _, h'⟩
            refine ⟨rfl, .moving s info before after
              ⟨?_, h.handOff, h.phase, h.sector, h.requests, h'⟩⟩
            simp [View.write]
          · rw [h.replica.noPromotion q List.mem_cons_self] at hpromote
            cases hpromote

/-- A request to the owner is taken out of the queue. -/
theorem Shape.pop (h : Shape lossless v b) (hqueue : v.queue = q :: rest) (hto : q.toOwner = true) :
    Shape lossless { v with queue := rest } b := by
  cases h with
  | gone T hT h =>
      rw [hqueue] at h
      exact .gone T hT (h.pop hto)
  | held s f h =>
      have hreplica := h.replica
      rw [hqueue] at hreplica
      exact .held s f ⟨h.onGrid, h.copy, h.owns, h.sector, h.settled, hreplica.pop hto⟩
  | moving s info before after h =>
      have hsplit := hqueue.symm.trans h.queue
      cases before with
      | nil =>
          simp only [List.nil_append, List.cons.injEq] at hsplit
          rw [hsplit.1] at hto
          cases hto
      | cons q' before =>
          simp only [List.cons_append, List.cons.injEq] at hsplit
          rcases hsplit with ⟨rfl, rfl⟩
          exact .moving s info before after
            ⟨rfl, h.handOff, h.phase, h.sector, h.requests, h.replica.pop hto⟩

/-- Every packet that is not a request to the owner is for a sector of the grid. -/
theorem Shape.onGrid (h : Shape lossless v b) (hqueue : v.queue = q :: rest)
    (hto : q.toOwner = false) : q.sectorId < sectorCount := by
  have hreplica : ∀ {owner pending T}, Replica v.copies owner (q :: pending) T →
      q.sectorId < sectorCount := by
    intro owner pending T h
    rcases h.onGrid q List.mem_cons_self with h | h
    · rw [hto] at h
      cases h
    · exact h
  cases h with
  | gone T hT h =>
      exact hreplica (hqueue ▸ h)
  | held s f h =>
      exact hreplica (hqueue ▸ h.replica)
  | moving s info before after h =>
      have hsplit := hqueue.symm.trans h.queue
      cases before with
      | nil =>
          simp only [List.nil_append, List.cons.injEq] at hsplit
          rw [hsplit.1]
          exact h.handOff.dest.lt
      | cons q' before =>
          simp only [List.cons_append, List.cons.injEq] at hsplit
          rw [hsplit.1]
          rcases h.replica.onGrid q' List.mem_cons_self with h | h
          · rw [← hsplit.1, hto] at h
            cases h
          · exact h

/-! ### Requests -/

/-- A request that does not meet the owner. -/
theorem Shape.request_copy (h : Shape lossless v b) (hto : q.toOwner = true)
    (hnot : v.owns q.sectorId = false)
    (hreaction : Reaction now q (v.copies q.sectorId) F packets fault) :
    (fault = none ∨ fault = some .ownerUnknown) ∧
      Shape lossless (v.write q.sectorId F (D.sent packets)) b := by
  have hsent : ∀ {packets : List PlayPacket}, (∀ p ∈ packets, p.toOwner = true) →
      ∀ p ∈ D.sent packets, p.toOwner = true := by
    intro packets h p hp
    exact h p (D.mem_sent.1 hp).1
  cases h with
  | gone T hT h =>
      rcases h.pass hto (by simp) hreaction with ⟨hpackets, hfault, _, h'⟩
      exact ⟨hfault, .gone T hT (h'.append_requests (hsent hpackets))⟩
  | held s f h =>
      have hne : q.sectorId ≠ s := by
        intro heq
        rw [h.owns_iff.2 heq] at hnot
        cases hnot
      rcases h.replica.pass hto (fun heq => hne (Option.some.inj heq).symm) hreaction with
        ⟨hpackets, hfault, _, h'⟩
      refine ⟨hfault, .held s f ⟨h.onGrid, ?_, h.owns, h.sector, h.settled,
        h'.append_requests (hsent hpackets)⟩⟩
      simpa [View.write, hne.symm] using h.copy
  | moving s info before after h =>
      rcases h.replica.pass hto (by simp) hreaction with ⟨hpackets, hfault, _, h'⟩
      refine ⟨hfault, .moving s info before (after ++ D.sent packets)
        ⟨?_, h.handOff, h.phase, h.sector, ?_, h'⟩⟩
      · simp [View.write, h.queue]
      · intro p hp
        exact (List.mem_append.1 hp).elim (h.requests p) (hsent hpackets p)

theorem Shape.held_of_owns (h : Shape lossless v b) {x : Nat} (howns : v.owns x = true) :
    b = true ∧ ∃ f, Held v x f := by
  cases h with
  | gone T hT h =>
      rw [h.not_owns] at howns
      cases howns
  | held s f h =>
      rw [h.owns_iff.1 howns]
      exact ⟨rfl, f, h⟩
  | moving s info before after h =>
      rw [h.replica.not_owns] at howns
      cases howns

/-- The sectors an owner sends its packets to are those of its phase. -/
theorem Held.fanOut {s : Nat} {f : Fixture} (h : Held v s f) (packetTo : Nat → PlayPacket) :
    fanOut f s packetTo = (nearSectors s f.phase).map packetTo := by
  rcases h.settled with ⟨hloc, hphase⟩ | hloc
  · simp [Game.fanOut, hloc, hphase, nearSectors_max]
  · simp [Game.fanOut, hloc]

/-- Packets to the near sectors of an owner are on the grid. -/
theorem Held.onGrid_of_mem {s : Nat} {f : Fixture} (h : Held v s f) {packetTo : Nat → PlayPacket}
    (hsector : ∀ x, (packetTo x).sectorId = x) :
    ∀ p ∈ (nearSectors s f.phase).map packetTo, p.sectorId < sectorCount := by
  intro p hp
  rcases List.mem_map.1 hp with ⟨x, hx, rfl⟩
  rw [hsector]
  exact lt_of_mem_nearSectors h.onGrid hx

/-- All of these packets are sent. -/
theorem Held.sent_fanOut (hD : D.Complete) {s : Nat} {f : Fixture} (h : Held v s f)
    {packetTo : Nat → PlayPacket} (hsector : ∀ x, (packetTo x).sectorId = x) :
    D.sent (Game.fanOut f s packetTo) = (nearSectors s f.phase).map packetTo := by
  rw [h.fanOut]
  exact hD.sent_eq (h.onGrid_of_mem hsector)

/-- The owner is moved by a request and tells its observers. -/
theorem Shape.move_owner (hD : D.Complete) (h : Shape lossless v b) {packet : CharacterMoveRq}
    (howns : v.owns packet.sectorId = true)
    (hreaction : Reaction now (.characterMoveRq packet) (v.copies packet.sectorId) F packets fault) :
    fault = none ∧ Shape lossless (v.write packet.sectorId F (D.sent packets)) b := by
  rcases h.held_of_owns howns with ⟨rfl, f, hheld⟩
  rw [hheld.copy] at hreaction
  rcases hreaction.move_owner hheld.owns with ⟨rfl, rfl, rfl⟩
  have hedits : edits ((nearSectors packet.sectorId f.phase).map fun x =>
      PlayPacket.characterMoveRq { packet with sectorId := x, toOwner := false }) =
      (nearSectors packet.sectorId f.phase).map Edit.visit := by
    rw [edits, List.filterMap_map, ← List.filterMap_eq_map]
    rfl
  rw [hheld.sent_fanOut hD fun _ => rfl]
  refine ⟨rfl, .held packet.sectorId (f.place packet)
    ⟨hheld.onGrid, by simp [View.write], hheld.owns, hheld.sector, hheld.settled, ?_⟩⟩
  refine (hheld.replica.write_owner _).append ?_
    (fun p hp => .inr (hheld.onGrid_of_mem (fun _ => rfl) p hp)) ?_ ?_
  · intro p hp
    rcases List.mem_map.1 hp with ⟨x, _, rfl⟩
    rfl
  · intro e he heq
    rw [hedits] at he
    rcases List.mem_map.1 he with ⟨x, hx, rfl⟩
    exact ne_of_mem_nearSectors hheld.onGrid hx (Option.some.inj heq).symm
  · rw [hedits]
    exact Edit.runs_visit _ fun x hx => hx

/-- The owner is removed by a request, and so are its observers. -/
theorem Shape.remove_owner (hD : D.Complete) (h : Shape lossless v b) {packet : RemoveCharacterRq}
    (howns : v.owns packet.sectorId = true)
    (hreaction :
      Reaction now (.removeCharacterRq packet) (v.copies packet.sectorId) F packets fault) :
    fault = none ∧ Shape lossless (v.write packet.sectorId F (D.sent packets)) false := by
  rcases h.held_of_owns howns with ⟨rfl, f, hheld⟩
  rw [hheld.copy] at hreaction
  rcases hreaction.remove_owner hheld.owns with ⟨rfl, rfl, rfl⟩
  have hedits : edits ((nearSectors packet.sectorId f.phase).map fun x =>
      PlayPacket.removeCharacterRq { packet with sectorId := x, toOwner := false }) =
      (nearSectors packet.sectorId f.phase).map Edit.erase := by
    rw [edits, List.filterMap_map, ← List.filterMap_eq_map]
    rfl
  rw [hheld.sent_fanOut hD fun _ => rfl]
  refine ⟨rfl, .gone ∅ (fun _ => rfl) ?_⟩
  refine hheld.replica.remove_owner.append ?_
    (fun p hp => .inr (hheld.onGrid_of_mem (fun _ => rfl) p hp)) (by simp) ?_
  · intro p hp
    rcases List.mem_map.1 hp with ⟨x, _, rfl⟩
    rfl
  · rw [hedits]
    have hruns := Edit.runs_erase (nearSectors packet.sectorId f.phase)
      {x | x ∈ nearSectors packet.sectorId f.phase} (nodup_nearSectors hheld.onGrid _)
      fun x hx => hx
    simpa using hruns

/-! ### Rounds of an update -/

/-- An observing copy is written. -/
theorem Shape.write_copy (h : Shape lossless v b) {x : Nat} {f f' : Fixture}
    (hf : v.copies x = some f) (hobs : f.isObservingFixture = true)
    (hobs' : f'.isObservingFixture = true) : Shape lossless (v.write x (some f') []) b := by
  cases h with
  | gone T hT h =>
      refine .gone T hT ?_
      simpa [View.write] using h.write_copy hf hobs'
  | held s g h =>
      have hne : s ≠ x := by
        rintro rfl
        have hg : some g = some f := h.copy.symm.trans hf
        cases hg
        rw [h.owns] at hobs
        cases hobs
      refine .held s g ⟨h.onGrid, ?_, h.owns, h.sector, h.settled, ?_⟩
      · simpa [View.write, hne] using h.copy
      · simpa [View.write] using h.replica.write_copy hf hobs'
  | moving s info before after h =>
      refine .moving s info before after
        ⟨?_, h.handOff, h.phase, h.sector, h.requests, h.replica.write_copy hf hobs'⟩
      simpa [View.write] using h.queue

/-- The owner is written and stays. -/
theorem Held.write {s : Nat} {f g : Fixture} (h : Held v s f) (hobs : g.isObservingFixture = false)
    (hsector : g.sectorId = s) (hsettled : g.Settled)
    (hreplica : Replica v.copies (some s) (v.queue ++ packets) {x | x ∈ nearSectors s g.phase}) :
    Held (v.write s (some g) packets) s g :=
  ⟨h.onGrid, by simp [View.write], hobs, hsector, hsettled, hreplica.write_owner (some g)⟩

/-- The exchange of an owner that stays in its sector. -/
theorem Held.exchange {s : Nat} {f : Fixture} (h : Held v s f) (info : ObjectInfo)
    (location : FixtureLocation) (q : Direction) :
    Replica v.copies (some s) (v.queue ++ exchangePackets info f.phase s location q s)
      {x | x ∈ nearSectors s q} := by
  refine h.replica.append exchangePackets_noPromotion
    (fun p hp => .inr (exchangePackets_onGrid h.onGrid h.onGrid hp)) ?_
    (exchangePackets_runs h.onGrid)
  intro e he heq
  exact exchangePackets_apart h.onGrid h.onGrid he (Option.some.inj heq).symm

/-- The owner leaves for the sector at its position. -/
theorem Held.leave (hD : D.Complete) {s : Nat} {f g : Fixture} (h : Held v s f)
    (hphase : g.phase = f.phase) {d : Nat} (hoff : HandOff s d g) {left : Fixture}
    (hleft : left.isObservingFixture = true) :
    Shape lossless
      (v.write s (some left) (D.sent (leavePackets s d g (calculateCurrentPhase s g)))) true := by
  let p := calculateCurrentPhase s g
  let extra := if d ∈ nearSectors s p then [] else [createPacket s (ownInfo s g) d]
  let info : ObjectInfo := ⟨g.id, d, { g with location := .Leave, phase := p, sectorId := d }⟩
  let before := v.queue ++ exchangePackets (ownInfo s g) f.phase s .Leave p s ++ extra
  have hextra : ∀ q ∈ extra, q = createPacket s (ownInfo s g) d := by
    intro q hq
    simp only [extra] at hq
    split_ifs at hq
    · simp at hq
    · exact List.mem_singleton.1 hq
  have hgrid : ∀ q ∈ leavePackets s d g p, q.sectorId < sectorCount := by
    intro q hq
    rcases List.mem_append.1 hq with hq | hq
    · rcases List.mem_append.1 hq with hq | hq
      · exact exchangePackets_onGrid h.onGrid h.onGrid hq
      · rw [hextra q hq]
        exact hoff.dest.lt
    · rw [List.mem_singleton.1 hq]
      exact hoff.dest.lt
  have hqueue : v.queue ++ leavePackets s d g p = before ++ [.promoteObjectRq s info] := by
    simp only [leavePackets, before, hphase, List.append_assoc]
    rfl
  rw [hD.sent_eq hgrid]
  have hoff' : HandOff s info.sectorId info.fixture :=
    ⟨⟨hoff.extended.x, hoff.extended.y⟩, hoff.source, hoff.leave, hoff.dest⟩
  refine .moving s info before [] ⟨hqueue, hoff', rfl, rfl, by simp, ?_⟩
  have hstay := (h.exchange (ownInfo s g) .Leave p).give_up hleft
  refine hstay.append ?_ ?_ (by simp) ?_
  · intro q hq
    rw [hextra q hq]
    rfl
  · intro q hq
    rw [hextra q hq]
    exact .inr hoff.dest.lt
  · -- the copy at the destination is among the observers, or is made now
    have hd : d ∉ insert s {x | x ∈ nearSectors s p} ↔ d ∉ nearSectors s p := by
      simp [hoff.ne]
    have hset : insert d (insert s {x | x ∈ nearSectors s p}) =
        {x | x ∈ nearSectors s p ∨ x = s ∨ x = d} := by
      ext x
      simp only [Set.mem_insert_iff, Set.mem_ofPred_eq]
      exact or_rotate.trans or_left_comm
    by_cases hmem : d ∈ nearSectors s p
    · have hedits : edits extra = [] := by
        simp [extra, hmem]
      rw [hedits]
      change insert s {x | x ∈ nearSectors s p} = {x | x ∈ nearSectors s p ∨ x = s ∨ x = d}
      rw [← hset]
      exact (Set.insert_eq_of_mem (.inr hmem)).symm
    · have hedits : edits extra = [.insert d] := by
        simp only [extra, hmem, if_false]
        rfl
      rw [hedits]
      exact ⟨hd.2 hmem, hset⟩

/-- A round keeps the shape, or its owner is lost on the border of the world. -/
theorem Shape.round (hD : D.Complete) (h : Shape lossless v b) {x : Nat} {f f' : Fixture}
    {delta : Milliseconds} (hlands : Lands lossless (f.move delta)) (hf : v.copies x = some f)
    (hround : Round x (f.move delta) f' packets fault) :
    (fault = none ∧ Shape lossless (v.write x (some f') (D.sent packets)) b) ∨
      (fault = some .noDestination ∧ ¬ lossless ∧
        Shape lossless (v.write x (some f') (D.sent packets)) false) := by
  have hextended := hlands.extended
  cases hobs : f.isObservingFixture with
  | true =>
      -- a copy is moved and nothing else
      have hstill : ∀ {g}, g = f.move delta → g.isObservingFixture = false → False := by
        rintro g rfl hg
        rw [Fixture.move_isObservingFixture, hobs] at hg
        cases hg
      cases hround with
      | still =>
          refine .inl ⟨rfl, h.write_copy hf hobs ?_⟩
          rw [Fixture.move_isObservingFixture, hobs]
      | phaseCleared hg _ _ =>
          exact (hstill rfl hg).elim
      | phaseChanged hg _ _ =>
          exact (hstill rfl hg).elim
      | locationChanged now hg _ =>
          exact (hstill rfl hg).elim
      | left now hg _ _ =>
          exact (hstill rfl hg).elim
      | lost now hg _ _ =>
          exact (hstill rfl hg).elim
  | false =>
      have howns : v.owns x = true := by
        simp [View.owns, hf, hobs]
      rcases h.held_of_owns howns with ⟨rfl, f₁, hheld⟩
      have hf₁ : some f₁ = some f := hheld.copy.symm.trans hf
      cases hf₁
      have hgrid : ∀ {info : ObjectInfo} {p q : Direction} {location : FixtureLocation},
          ∀ packet ∈ exchangePackets info p x location q x, packet.sectorId < sectorCount :=
        fun packet hp => exchangePackets_onGrid hheld.onGrid hheld.onGrid hp
      have hsector : (f.move delta).sectorId = x := by
        rw [Fixture.move_sectorId, hheld.sector]
      cases hround with
      | still =>
          refine .inl ⟨rfl, .held x _ (hheld.write (by simp [hobs]) hsector ?_ ?_)⟩
          · simpa [Fixture.Settled] using hheld.settled
          · simpa using hheld.replica
      | phaseCleared hg hloc hphase =>
          refine absurd hphase (phase_ne_max hheld.onGrid hextended ?_)
          rw [hloc]
          decide
      | phaseChanged hg hgray hloc =>
          have hpackets : exchangePackets (ownInfo x (f.move delta)) (f.move delta).phase
              (f.move delta).sectorId .Gray (calculateCurrentPhase x (f.move delta)) x =
              exchangePackets (ownInfo x (f.move delta)) f.phase x .Gray
                (calculateCurrentPhase x (f.move delta)) x := by
            rw [hsector, Fixture.move_phase]
          rw [hpackets, hD.sent_eq hgrid]
          exact .inl ⟨rfl, .held x _ (hheld.write hg hsector (.inr hgray) (hheld.exchange _ _ _))⟩
      | locationChanged now hg hloc =>
          rw [Fixture.move_phase, hD.sent_eq hgrid]
          exact .inl ⟨rfl, .held x _ (hheld.write hg hsector (settled_destPhase hloc rfl rfl)
            (hheld.exchange _ _ _))⟩
      | left now hg hloc hdest =>
          have hin := (getSectorByPosition_spec hlands.inWorld).resolve_left
            fun h => hdest h.1
          refine .inl ⟨rfl, ?_⟩
          exact hheld.leave hD (g := { f.move delta with lastTransformTime := now })
            (Fixture.move_phase f delta) ⟨⟨hextended.x, hextended.y⟩, hheld.onGrid, hloc, hin⟩ rfl
      | lost now hg hloc hdest =>
          have hlost : ¬ lossless := fun hall => hlands.sector hall hdest
          rw [Fixture.move_phase, hD.sent_eq hgrid]
          exact .inr ⟨rfl, hlost, .gone _ (fun hall => (hlost hall).elim)
            ((hheld.exchange _ _ _).give_up rfl)⟩

/-! ### Spawns -/

/-- Nothing but requests to the owner is known about the object. -/
structure Blank (v : View) : Prop where
  copies : ∀ x, v.copies x = none
  requests : ∀ q ∈ v.queue, q.toOwner = true

theorem Blank.replica (h : Blank v) : Replica v.copies none v.queue ∅ := by
  refine ⟨?_, ?_, fun q hq => .inl (h.requests q hq), by simp, ?_⟩
  · intro x f hf
    simp [h.copies] at hf
  · intro q hq
    exact (edit_of_toOwner (h.requests q hq)).2
  · rw [edits_of_toOwner h.requests]
    change others v.copies none = ∅
    ext x
    simp [mem_others, h.copies]

theorem Blank.spawn (h : Blank v) (id : Nat) {x : Nat} (hx : x < sectorCount) (packet : SpawnCharacterRq)
    (now : Milliseconds) :
    Held (v.write x (some (World.spawnedFixture id x packet now)) []) x
      (World.spawnedFixture id x packet now) := by
  refine ⟨hx, by simp [View.write], rfl, rfl, .inl ⟨rfl, rfl⟩, ?_⟩
  have hreplica := h.replica
  refine ⟨?_, ?_, ?_, ?_, ?_⟩
  · intro y f hf hy
    have hne : y ≠ x := fun heq => hy (by rw [heq])
    simp [View.write, hne, h.copies] at hf
  · simpa [View.write] using hreplica.noPromotion
  · simpa [View.write] using hreplica.onGrid
  · simp [View.write, edits_of_toOwner h.requests]
  · have hqueue : (v.write x (some (World.spawnedFixture id x packet now)) []).queue = v.queue := by
      simp [View.write]
    rw [hqueue, edits_of_toOwner h.requests]
    change others _ _ = {y | y ∈ nearSectors x .Max}
    ext y
    by_cases hy : y = x
    · subst hy
      simp [mem_others, nearSectors_max]
    · simp [mem_others, nearSectors_max, View.write, hy, h.copies]

/-- Shapes are about copies and packets. -/
theorem Shape.of_eq (h : Shape lossless v b) {v' : View} (hcopies : v'.copies = v.copies)
    (hqueue : v'.queue = v.queue) : Shape lossless v' b := by
  cases h with
  | gone T hT h =>
      exact .gone T hT (by rwa [hcopies, hqueue])
  | held s f h =>
      exact .held s f ⟨h.onGrid, by rw [hcopies, h.copy], h.owns, h.sector, h.settled,
        by rw [hcopies, hqueue]; exact h.replica⟩
  | moving s info before after h =>
      exact .moving s info before after ⟨by rw [hqueue, h.queue], h.handOff, h.phase, h.sector,
        h.requests, by rw [hcopies]; exact h.replica⟩

/-- A request to the owner, wherever it is handled. -/
theorem Shape.request (hD : D.Complete) (h : Shape lossless v b) (hto : q.toOwner = true)
    (hreaction : Reaction now q (v.copies q.sectorId) F packets fault) :
    (fault = none ∨ fault = some .ownerUnknown) ∧
      ∃ b', Shape lossless (v.write q.sectorId F (D.sent packets)) b' := by
  cases howns : v.owns q.sectorId with
  | false =>
      rcases h.request_copy hto howns hreaction with ⟨hfault, h'⟩
      exact ⟨hfault, b, h'⟩
  | true =>
      cases q with
      | characterMoveRq packet =>
          rcases h.move_owner hD howns hreaction with ⟨hfault, h'⟩
          exact ⟨.inl hfault, b, h'⟩
      | removeCharacterRq packet =>
          rcases h.remove_owner hD howns hreaction with ⟨hfault, h'⟩
          exact ⟨.inl hfault, false, h'⟩
      | _ =>
          cases hto

theorem Blank.request (h : Blank v) (hto : q.toOwner = true)
    (hreaction : Reaction now q (v.copies q.sectorId) F packets fault) :
    Blank (v.write q.sectorId F (D.sent packets)) := by
  rcases h.replica.pass hto (by simp) hreaction with ⟨hpackets, _, hsome, _⟩
  have hF : F = none := by
    rw [h.copies] at hsome
    simpa using hsome
  constructor
  · intro x
    by_cases hx : x = q.sectorId
    · simp [View.write, hx, hF]
    · simpa [View.write, hx] using h.copies x
  · intro p hp
    rcases List.mem_append.1 hp with hp | hp
    · exact h.requests p hp
    · exact hpackets p (D.mem_sent.1 hp).1

end Shape

end Game
end SeamlessServer
