import Mathlib.Data.Set.Card
import SeamlessServer.Game.View

/-!
# Game.SingleOwner — an object has one owner or is being handed over

The owner of an object gives up its flag when it posts a promotion, and the flag is set again where
the promotion is delivered.  Counted together, owners and promotions under way never exceed one, in
whatever order packets are delivered, as long as ids are not assigned twice.

Ids are made of the server and the sector in 64 bits and are not checked against those of other
sectors, so two servers can assign the same id (`two_owners`).
-/

namespace SeamlessServer
namespace Game

open Utility Protocol

/-! ## Owners under the handlers -/

/-- The fixture owns its object. -/
def isOwner (F : Option Fixture) : Bool := F.any fun f => !f.isObservingFixture

/-- The promotions among packets. -/
def promotions (packets : List PlayPacket) : List PlayPacket := packets.filter PlayPacket.isPromote

theorem promotions_append (l l' : List PlayPacket) :
    promotions (l ++ l') = promotions l ++ promotions l' :=
  List.filter_append ..

theorem promotions_eq_nil {packets : List PlayPacket} (h : ∀ q ∈ packets, q.isPromote = false) :
    promotions packets = [] := by
  rw [promotions, List.filter_eq_nil_iff]
  intro q hq
  simp [h q hq]

theorem promotions_exchangePackets (info : ObjectInfo) (p : Direction) (s : Nat)
    (location : FixtureLocation) (q : Direction) (d : Nat) :
    promotions (exchangePackets info p s location q d) = [] :=
  promotions_eq_nil exchangePackets_noPromotion

theorem promotions_fanOut (f : Fixture) (x : Nat) {packetTo : Nat → PlayPacket}
    (h : ∀ y, (packetTo y).isPromote = false) : promotions (fanOut f x packetTo) = [] := by
  apply promotions_eq_nil
  intro packet hmem
  unfold fanOut at hmem
  split_ifs at hmem
  · rcases List.mem_map.1 hmem with ⟨y, _, rfl⟩
    exact h y
  · simp at hmem

theorem promotions_leavePackets (x d : Nat) (f : Fixture) (p : Direction) :
    (promotions (leavePackets x d f p)).length = 1 := by
  have hextra : promotions (if d ∈ nearSectors x p then []
      else [createPacket x (ownInfo x f) d]) = [] := by
    apply promotions_eq_nil
    intro q hq
    split_ifs at hq
    · simp at hq
    · rw [List.mem_singleton.1 hq]
      rfl
  rw [leavePackets, promotions_append, promotions_append, promotions_exchangePackets, hextra]
  rfl

section Reaction

variable {now : Milliseconds} {packet : PlayPacket} {F F' : Option Fixture}
  {packets : List PlayPacket} {fault : Option Fault}

/-- No handler posts a promotion. -/
theorem Reaction.promotions_eq_nil (h : Reaction now packet F F' packets fault) :
    promotions packets = [] := by
  cases h with
  | promotedFar s info f _ _ =>
      exact promotions_exchangePackets _ _ _ _ _ _
  | ownerMoved packet _ =>
      exact promotions_fanOut _ _ fun _ => rfl
  | ownerRemoved packet _ =>
      exact promotions_fanOut _ _ fun _ => rfl
  | _ =>
      rfl

/-- Only a promotion makes an owner. -/
theorem Reaction.isOwner (h : Reaction now packet F F' packets fault)
    (hpromote : packet.isPromote = false) (howner : isOwner F' = true) : isOwner F = true := by
  have hplace : ∀ {request : CharacterMoveRq},
      Game.isOwner (F.map (Fixture.place · request)) = true → Game.isOwner F = true := by
    intro request h
    cases F with
    | none =>
        simp [Game.isOwner] at h
    | some f =>
        exact h
  cases h with
  | promotedOutside _ _ _ _ =>
      simp [PlayPacket.isPromote] at hpromote
  | promotedNear _ _ _ _ _ =>
      simp [PlayPacket.isPromote] at hpromote
  | promotedFar _ _ _ _ _ =>
      simp [PlayPacket.isPromote] at hpromote
  | created s info =>
      simp [Game.isOwner, observingCopy] at howner
  | moveForwarded packet x _ _ =>
      exact hplace howner
  | moveOwnerUnknown packet _ _ =>
      exact hplace howner
  | copyMoved packet _ _ =>
      exact hplace howner
  | ownerMoved packet _ =>
      exact hplace howner
  | objectExists _ _ _ =>
      exact howner
  | observerNotFound _ _ _ =>
      exact howner
  | removeForwarded _ _ _ _ =>
      exact howner
  | removeOwnerUnknown _ _ _ =>
      exact howner
  | _ =>
      simp [Game.isOwner] at howner

/-- Where there is no object, requests are answered, passed on or fail. -/
theorem Reaction.blank (h : Reaction now packet none F' packets fault)
    (hrequest : packet.isRequest = true) :
    F' = none ∧ ∀ q ∈ packets, q.isRequest = true := by
  cases h with
  | created _ _ =>
      simp [PlayPacket.isRequest] at hrequest
  | moveForwarded packet x _ _ =>
      refine ⟨rfl, ?_⟩
      intro q hq
      rw [List.mem_singleton.1 hq]
      rfl
  | removeForwarded packet x _ _ =>
      refine ⟨rfl, ?_⟩
      intro q hq
      rw [List.mem_singleton.1 hq]
      rfl
  | _ =>
      exact ⟨rfl, by simp⟩

end Reaction

/-- A round keeps an owner, or makes it an observer and may post one promotion. -/
theorem Round.isOwner {x : Nat} {f f' : Fixture} {packets : List PlayPacket} {fault : Option Fault}
    (h : Round x f f' packets fault) :
    (f'.isObservingFixture = f.isObservingFixture ∧ promotions packets = []) ∨
      (f.isObservingFixture = false ∧ f'.isObservingFixture = true ∧
        (promotions packets).length ≤ 1) := by
  cases h with
  | still =>
      exact .inl ⟨rfl, rfl⟩
  | phaseCleared _ _ _ =>
      exact .inl ⟨rfl, rfl⟩
  | phaseChanged _ _ _ =>
      exact .inl ⟨rfl, promotions_exchangePackets _ _ _ _ _ _⟩
  | locationChanged _ _ _ =>
      exact .inl ⟨rfl, promotions_exchangePackets _ _ _ _ _ _⟩
  | left _ hobs _ _ =>
      exact .inr ⟨hobs, rfl, (promotions_leavePackets _ _ _ _).le⟩
  | lost _ hobs _ _ =>
      refine .inr ⟨hobs, rfl, ?_⟩
      simp [promotions_exchangePackets]

/-! ## The invariant -/

/-- Owners and promotions under way, at most one of all. -/
structure SingleOwner (v : View) : Prop where
  /-- Before its id is assigned nothing is known about an object. -/
  blank : v.issued = false →
    (∀ x, v.copies x = none) ∧ ∀ q ∈ v.queue, q.isRequest = true
  single : ∀ x y, isOwner (v.copies x) = true → isOwner (v.copies y) = true → x = y
  handOver : ∀ x, isOwner (v.copies x) = true → promotions v.queue = []
  promoted : (promotions v.queue).length ≤ 1

theorem promotions_sent (D : Deployment) (packets : List PlayPacket) :
    (promotions (D.sent packets)).length ≤ (promotions packets).length :=
  (List.filter_sublist.filter _).length_le

theorem promotions_sent_eq_nil (D : Deployment) {packets : List PlayPacket}
    (h : promotions packets = []) : promotions (D.sent packets) = [] := by
  have hle := promotions_sent D packets
  rw [h] at hle
  exact List.eq_nil_of_length_eq_zero (Nat.le_zero.1 hle)

namespace SingleOwner

variable {v : View} {x : Nat} {F : Option Fixture} {packets : List PlayPacket}

theorem copies_write (v : View) (x y : Nat) (F : Option Fixture) (packets : List PlayPacket) :
    (v.write x F packets).copies y = if y = x then F else v.copies y := by
  simp [View.write, Function.update_apply]

/-- A write that makes no owner, with packets that hand over nothing. -/
theorem write (h : SingleOwner v) (howner : isOwner F = true → isOwner (v.copies x) = true)
    (hnone : promotions packets = [])
    (hblank : v.issued = false → F = none ∧ ∀ q ∈ packets, q.isRequest = true) :
    SingleOwner (v.write x F packets) := by
  have hold : ∀ y, isOwner ((v.write x F packets).copies y) = true → isOwner (v.copies y) = true := by
    intro y hy
    rw [copies_write] at hy
    split_ifs at hy with hyx
    · exact hyx ▸ howner hy
    · exact hy
  have hpromotions : promotions (v.write x F packets).queue = promotions v.queue := by
    change promotions (v.queue ++ packets) = _
    rw [promotions_append, hnone, List.append_nil]
  refine ⟨?_, ?_, ?_, ?_⟩
  · intro hissued
    rcases h.blank hissued with ⟨hcopies, hqueue⟩
    rcases hblank hissued with ⟨hF, hpackets⟩
    refine ⟨?_, ?_⟩
    · intro y
      rw [copies_write]
      split_ifs
      · exact hF
      · exact hcopies y
    · intro q hq
      rcases List.mem_append.1 hq with hq | hq
      · exact hqueue q hq
      · exact hpackets q hq
  · intro y z hy hz
    exact h.single y z (hold y hy) (hold z hz)
  · intro y hy
    rw [hpromotions]
    exact h.handOver y (hold y hy)
  · rw [hpromotions]
    exact h.promoted

/-- A packet about the object is taken out. -/
theorem pop (h : SingleOwner v) {early rest : List PlayPacket} {packet : PlayPacket}
    (hqueue : v.queue = early ++ packet :: rest) :
    SingleOwner { v with queue := early ++ rest } := by
  have hsub : (early ++ rest).Sublist v.queue := by
    rw [hqueue]
    exact List.Sublist.append_left (List.sublist_cons_self _ _) _
  have hsubp : (promotions (early ++ rest)).Sublist (promotions v.queue) := hsub.filter _
  refine ⟨?_, h.single, ?_, ?_⟩
  · intro hissued
    rcases h.blank hissued with ⟨hcopies, hrequests⟩
    exact ⟨hcopies, fun q hq => hrequests q (hsub.subset hq)⟩
  · intro y hy
    rw [h.handOver y hy] at hsubp
    exact List.sublist_nil.1 hsubp
  · exact hsubp.length_le.trans h.promoted

/-- A promotion is taken out: no other is under way and there is no owner. -/
theorem pop_promotion (h : SingleOwner v) {early rest : List PlayPacket} {packet : PlayPacket}
    (hqueue : v.queue = early ++ packet :: rest) (hpromote : packet.isPromote = true) :
    promotions (early ++ rest) = [] ∧ (∀ y, isOwner (v.copies y) = false) ∧ v.issued = true := by
  have hpromotions : promotions v.queue = promotions early ++ packet :: promotions rest := by
    rw [hqueue, promotions_append]
    simp [promotions, hpromote]
  refine ⟨?_, ?_, ?_⟩
  · have hle := h.promoted
    rw [hpromotions] at hle
    simp only [List.length_append, List.length_cons] at hle
    rw [promotions_append]
    have hearly : promotions early = [] := List.eq_nil_of_length_eq_zero (by omega)
    have hrest : promotions rest = [] := List.eq_nil_of_length_eq_zero (by omega)
    rw [hearly, hrest, List.append_nil]
  · intro y
    by_contra hy
    have hnil := h.handOver y (by simpa using hy)
    simp [hpromotions] at hnil
  · by_contra hissued
    have hrequest := (h.blank (by simpa using hissued)).2 packet (by simp [hqueue])
    cases packet <;> simp [PlayPacket.isPromote, PlayPacket.isRequest] at hpromote hrequest

/-- An assigned object with no promotion under way and no owner but in one sector. -/
theorem of_only (hissued : v.issued = true) (honly : ∀ y, isOwner (v.copies y) = true → y = x)
    (hnone : promotions v.queue = []) : SingleOwner v := by
  refine ⟨fun hnot => ?_, fun y z hy hz => (honly y hy).trans (honly z hz).symm, fun _ _ => hnone, ?_⟩
  · rw [hissued] at hnot
    cases hnot
  · rw [hnone]
    exact Nat.zero_le 1

/-- An assigned object without owner, with at most one promotion under way. -/
theorem of_none (hissued : v.issued = true) (hnone : ∀ y, isOwner (v.copies y) = false)
    (hle : (promotions v.queue).length ≤ 1) : SingleOwner v := by
  have hnot : ∀ y, isOwner (v.copies y) ≠ true := by
    intro y hy
    rw [hnone y] at hy
    cases hy
  refine ⟨fun hblank => ?_, fun y _ hy => absurd hy (hnot y), fun y hy => absurd hy (hnot y), hle⟩
  rw [hissued] at hblank
  cases hblank

/-- The packets sent about an object that is not known yet are requests. -/
theorem blank_sent (h : SingleOwner v) (D : Deployment) {now : Milliseconds} {packet : PlayPacket}
    {fault : Option Fault} (hreaction : Reaction now packet (v.copies x) F packets fault)
    (hrequest : v.issued = false → packet.isRequest = true) (hissued : v.issued = false) :
    F = none ∧ ∀ q ∈ D.sent packets, q.isRequest = true := by
  rw [(h.blank hissued).1] at hreaction
  rcases hreaction.blank (hrequest hissued) with ⟨hF, hpackets⟩
  exact ⟨hF, fun q hq => hpackets q (D.mem_sent.1 hq).1⟩

theorem spawned (h : SingleOwner v) (hfresh : v.issued = false) (f : Fixture) :
    SingleOwner { v.write x (some f) [] with issued := true } := by
  rcases h.blank hfresh with ⟨hcopies, hrequests⟩
  refine of_only (x := x) rfl (fun y hy => ?_) ?_
  · have hy' : isOwner ((v.write x (some f) []).copies y) = true := hy
    rw [copies_write] at hy'
    split_ifs at hy' with hyx
    · exact hyx
    · simp [hcopies, isOwner] at hy'
  · -- requests are all that can be under way
    change promotions (v.queue ++ []) = []
    rw [List.append_nil]
    apply promotions_eq_nil
    intro q hq
    have hrequest := hrequests q hq
    cases q <;> simp [PlayPacket.isRequest, PlayPacket.isPromote] at hrequest ⊢

theorem delivered (h : SingleOwner v) (D : Deployment) {early rest : List PlayPacket}
    {packet : PlayPacket} {now : Milliseconds} {fault : Option Fault}
    (hqueue : v.queue = early ++ packet :: rest)
    (hreaction : Reaction now packet (v.copies packet.sectorId) F packets fault) :
    SingleOwner ({ v with queue := early ++ rest }.write packet.sectorId F (D.sent packets)) := by
  have hsent := promotions_sent_eq_nil D hreaction.promotions_eq_nil
  cases hpromote : packet.isPromote with
  | false =>
      refine (h.pop hqueue).write (hreaction.isOwner hpromote) hsent fun hissued => ?_
      refine h.blank_sent D hreaction (fun hissued => ?_) hissued
      exact (h.blank hissued).2 packet (by simp [hqueue])
  | true =>
      -- the promotion that is delivered was the only one, and its object had no owner
      rcases h.pop_promotion hqueue hpromote with ⟨hrest, hnoOwner, hissued⟩
      refine of_only (x := packet.sectorId) hissued (fun y hy => ?_) ?_
      · rw [copies_write] at hy
        split_ifs at hy with hyx
        · exact hyx
        · simp [hnoOwner y] at hy
      · change promotions ((early ++ rest) ++ D.sent packets) = []
        rw [promotions_append, hrest, hsent]
        rfl

theorem round (h : SingleOwner v) (D : Deployment) {f f' : Fixture} {deltaTime : Milliseconds}
    {fault : Option Fault} (hf : v.copies x = some f)
    (hround : Round x (f.move deltaTime) f' packets fault) :
    SingleOwner (v.write x (some f') (D.sent packets)) := by
  have hissued : v.issued = true := by
    by_contra hnot
    simp [(h.blank (by simpa using hnot)).1] at hf
  rcases hround.isOwner with ⟨hsame, hnone⟩ | ⟨hobs, hobs', hle⟩
  · refine h.write (fun howner => ?_) (promotions_sent_eq_nil D hnone) (fun hnot => ?_)
    · have hobs : f.isObservingFixture = f'.isObservingFixture := by
        rw [hsame, Fixture.move_isObservingFixture]
      simpa [isOwner, hf, hobs] using howner
    · rw [hissued] at hnot
      cases hnot
  · -- the owner becomes an observer: nothing else was under way
    have hownerx : isOwner (v.copies x) = true := by
      rw [Fixture.move_isObservingFixture] at hobs
      simp [isOwner, hf, hobs]
    refine of_none hissued (fun y => ?_) ?_
    · rw [copies_write]
      split_ifs with hyx
      · simp [isOwner, hobs']
      · by_contra hy
        exact hyx (h.single y x (by simpa using hy) hownerx)
    · change (promotions (v.queue ++ D.sent packets)).length ≤ 1
      rw [promotions_append, h.handOver x hownerx, List.nil_append]
      exact (promotions_sent D packets).trans hle

end SingleOwner

/-- The spawns that assign a new id. -/
def SpawnsFresh (v : View) : View.Act → Prop
  | .spawn _ _ => v.issued = false
  | _ => True

theorem SingleOwner.step {D : Deployment} {v v' : View} {act : View.Act} {fault : Option Fault}
    (h : SingleOwner v) (hfresh : SpawnsFresh v act) (hstep : View.Step D v act v' fault) :
    SingleOwner v' := by
  cases hstep with
  | spawned hx hnone =>
      exact h.spawned hfresh _
  | spawnRefused hsome =>
      -- the id is new, so there is no such fixture
      rcases h.blank hfresh with ⟨hcopies, _⟩
      rw [hcopies] at hsome
      simp at hsome
  | moveRequested hx hreaction =>
      exact h.write (hreaction.isOwner rfl)
        (promotions_sent_eq_nil D hreaction.promotions_eq_nil)
        (h.blank_sent D hreaction fun _ => rfl)
  | removeRequested hx hreaction =>
      have hwrite := h.write (hreaction.isOwner rfl)
        (promotions_sent_eq_nil D hreaction.promotions_eq_nil)
        (h.blank_sent D hreaction fun _ => rfl)
      exact ⟨hwrite.blank, hwrite.single, hwrite.handOver, hwrite.promoted⟩
  | delivered hqueue hx hreaction =>
      exact h.delivered D hqueue hreaction
  | dropped hqueue hx =>
      exact h.pop hqueue
  | round hx hf hround =>
      exact h.round D hf hround

/-! ## The cluster -/

namespace Cluster

/-- The sectors, with their servers, that hold an owner of the object. -/
def owners (c : Cluster) (o : Nat) : Set (Nat × Nat) :=
  {place | ∃ f, c.fixtureAt place.1 place.2 o = some f ∧ f.isObservingFixture = false}

/-- The promotions of the object that are not delivered yet. -/
def undeliveredPromotions (c : Cluster) (o : Nat) : List Envelope :=
  c.flight.filter fun e => e.packet.isPromote && e.packet.objectId == o

variable {D : Deployment} {c : Cluster}

/-- Fresh ids are fresh in the views. -/
theorem spawnsFresh_of_assignsFreshId {e : Event} (hfresh : c.assignsFreshId e) {o : Nat}
    {act : View.Act} {v : View} (hpermits : c.Permits o e act)
    (hv : v = c.view D o ∨ ∃ x deltaTime, act = .round x deltaTime) : SpawnsFresh v act := by
  cases act with
  | spawn x f =>
      cases e with
      | spawn k agency packet now =>
          rcases hv with rfl | ⟨x, deltaTime, hact⟩
          · have hnot := hfresh o hpermits.1
            simpa [SpawnsFresh, view] using hnot
          · cases hact
      | move k agency packet =>
          cases hpermits.2
      | remove k agency packet =>
          cases hpermits.2
      | update k clock =>
          rcases hpermits with ⟨_, hact⟩
          cases hact
      | deliver index now =>
          rcases hpermits with ⟨_, _, _, hact⟩
          cases hact
      | rehashSectors k order =>
          exact hpermits.elim
      | rehashFixtures k x order =>
          exact hpermits.elim
  | _ =>
      exact trivial

theorem holding_singleOwner (h : ((machine D).restrict assignsFreshId).Reachable c) :
    Holding D (fun _ v => SingleOwner v) (fun _ => True) c := by
  refine Machine.Reachable.invariant (M := (machine D).restrict assignsFreshId)
    (P := Holding D (fun _ v => SingleOwner v) fun _ => True) ?_ ?_ h
  · rintro c rfl
    refine Holding.new ?_
    intro o
    exact ⟨fun _ => ⟨fun _ => rfl, by simp⟩, by simp [isOwner], fun _ _ => rfl, by simp [promotions]⟩
  · intro c e c' h hstep
    refine h.step (.inl trivial) ?_ hstep.2
    intro o act v v' fault hpermits hv hsingle hview
    exact ⟨hsingle.step (spawnsFresh_of_assignsFreshId hstep.1 hpermits hv) hview, fun _ _ => trivial⟩

/-- An owner in the cluster is the owner in the view. -/
theorem Sound.mem_owners (h : Sound D c) {k x o : Nat} :
    (k, x) ∈ c.owners o ↔ x ∈ D.sectorsOf k ∧ isOwner ((c.view D o).copies x) = true := by
  have hcopy : x ∈ D.sectorsOf k → (c.view D o).copies x = c.fixtureAt k x o :=
    fun hx => view_copies hx o
  constructor
  · rintro ⟨f, hf, hobs⟩
    have hx : x ∈ D.sectorsOf k := by
      by_contra hx
      have hnone := h.sectors k x
      rw [if_neg hx] at hnone
      rw [fixtureAt, World.fixtureAt_of_sectorIdAt_none hnone] at hf
      simp at hf
    refine ⟨hx, ?_⟩
    rw [hcopy hx, hf]
    simp [isOwner, hobs]
  · rintro ⟨hx, howner⟩
    rw [hcopy hx] at howner
    cases hf : c.fixtureAt k x o with
    | none =>
        rw [hf] at howner
        cases howner
    | some f =>
        rw [hf] at howner
        exact ⟨f, hf, by simpa [isOwner] using howner⟩

/-- In every run that assigns no id twice, an object has at most one owner, and none while its
promotion is under way, in whatever order packets are delivered. -/
theorem owners_and_promotions_le_one (h : ((machine D).restrict assignsFreshId).Reachable c)
    (o : Nat) : (c.owners o).encard + (c.undeliveredPromotions o).length ≤ 1 := by
  have hholding := holding_singleOwner h
  have hsingle := hholding.views o
  have hplace : ∀ k x, (k, x) ∈ c.owners o →
      D.owner x = some k ∧ isOwner ((c.view D o).copies x) = true := by
    intro k x hkx
    obtain ⟨hx, howner⟩ := hholding.sound.mem_owners.1 hkx
    exact ⟨(D.mem_sectorsOf.1 hx).2, howner⟩
  -- the promotions under way are those of the view of the object
  have hlength : (c.undeliveredPromotions o).length = (promotions (c.view D o).queue).length := by
    have heq : promotions (c.view D o).queue = (c.undeliveredPromotions o).map Envelope.packet := by
      rw [undeliveredPromotions, promotions, view, packetsAbout, List.filter_filter,
        List.filter_map]
      rfl
    rw [heq, List.length_map]
  by_cases hempty : c.owners o = ∅
  · rw [hempty, Set.encard_empty, zero_add, hlength]
    exact_mod_cast hsingle.promoted
  -- with an owner there is no promotion, and its sector has one server
  · rcases Set.nonempty_iff_ne_empty.2 hempty with ⟨⟨k, x⟩, hkx⟩
    have hnone := hsingle.handOver x (hplace k x hkx).2
    have hsub : c.owners o ⊆ {(k, x)} := by
      rintro ⟨k', x'⟩ hkx'
      have hx : x' = x := hsingle.single _ _ (hplace k' x' hkx').2 (hplace k x hkx).2
      subst hx
      have hk : k' = k := by
        have := (hplace k' x' hkx').1
        rw [(hplace k x' hkx).1] at this
        exact (Option.some.inj this).symm
      subst hk
      rfl
    rw [hlength, hnone]
    simpa using Set.encard_le_encard hsub

/-! ## A hand-over -/

/-- Three servers around the center of the grid. -/
def threeServers : Deployment where
  owner := fun x => if x = 13 then some 3 else if x = 7 ∨ x = 8 then some 4 else some 2

/-- The first id of server 2 in sector 12. -/
def firstId : Nat := 2 * 10 ^ 15 + 2 * 10 ^ 14 + 12 * 10 ^ 11 + 1

/-- An object is spawned in the middle of sector 12, moved to sector 13 and updated. -/
def handOverEvents : List Event :=
  [.spawn 2 9 ⟨1, 12, ⟨2500, 2500⟩, ⟨100, 100⟩⟩ 0,
   .move 2 9 ⟨12, firstId, ⟨7500, 4000⟩, .Max, true⟩,
   .update 2 ⟨1000, 0, 1000, fun _ _ => 1000⟩]

def handOver : Cluster := handOverEvents.foldl (next threeServers) (Cluster.new threeServers)

theorem reachable_handOver : ((machine threeServers).restrict assignsFreshId).Reachable handOver := by
  have hrun : ((machine threeServers).restrict assignsFreshId).Run (Cluster.new threeServers)
      handOverEvents handOver := by
    refine .cons ⟨?_, ⟨2, rfl, rfl⟩, rfl⟩ (.cons ⟨trivial, ⟨2, rfl, ?_⟩, rfl⟩
      (.cons ⟨trivial, ⟨2, rfl, ?_⟩, rfl⟩ (.nil _)))
    · intro id _
      exact List.not_mem_nil
    · decide +kernel
    · decide +kernel
  exact hrun.reachable (.init rfl)

theorem owners_and_promotions_le_one_handOver :
    (handOver.undeliveredPromotions firstId).length = 1 ∧
      (handOver.owners firstId).encard + (handOver.undeliveredPromotions firstId).length ≤ 1 :=
  ⟨by decide +kernel, owners_and_promotions_le_one reachable_handOver firstId⟩

/-! ## Ids that are assigned twice -/

/-- Two servers whose first ids in two of their sectors, 16 and 0, agree modulo `2 ^ 64`. -/
def collidingDeployment : Deployment where
  owner := fun x => if x = 0 then some 226981421219475 else some 2

def spawnAt (x : Nat) : SpawnCharacterRq := ⟨1, x, ⟨0, 0⟩, ⟨100, 100⟩⟩

/-- The cluster after a spawn at each of the two servers. -/
def collided : Cluster :=
  ((Cluster.new collidingDeployment).next collidingDeployment (.spawn 2 9 (spawnAt 16) 0)).next
    collidingDeployment (.spawn 226981421219475 9 (spawnAt 0) 0)

def collidingId : Nat := 2201600000000001

theorem reachable_collided : (machine collidingDeployment).Reachable collided := by
  refine .step (.step (.init rfl) ⟨⟨2, rfl, rfl⟩, rfl⟩) ⟨⟨226981421219475, rfl, ?_⟩, rfl⟩
  decide +kernel

theorem owners_collided :
    {(2, 16), (226981421219475, 0)} ⊆ collided.owners collidingId := by
  have h₁ : (collided.fixtureAt 2 16 collidingId).map Fixture.isObservingFixture = some false := by
    decide +kernel
  have h₂ : (collided.fixtureAt 226981421219475 0 collidingId).map Fixture.isObservingFixture =
      some false := by
    decide +kernel
  rintro place (rfl | rfl)
  · exact Option.map_eq_some_iff.1 h₁
  · exact Option.map_eq_some_iff.1 h₂

/-- Without the restriction there may be two owners. -/
theorem two_owners :
    ¬ ∀ (D : Deployment) (c : Cluster), (machine D).Reachable c →
      ∀ o, (c.owners o).encard + (c.undeliveredPromotions o).length ≤ 1 := by
  intro h
  have hle := h collidingDeployment collided reachable_collided collidingId
  have htwo : (2 : ENat) ≤ (collided.owners collidingId).encard := by
    have hne : ((2, 16) : Nat × Nat) ≠ (226981421219475, 0) := by decide
    rw [← Set.encard_pair hne]
    exact Set.encard_le_encard owners_collided
  exact absurd ((le_add_right htwo).trans hle) (by norm_num)

end Cluster

end Game
end SeamlessServer
