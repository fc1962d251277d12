import SeamlessServer.Game.HandOver
import SeamlessServer.Game.SingleOwner

/-!
# Game.InOrder — hand-overs do not fail if packets arrive in the order they were posted

Channels keep the order of the packets between two servers only.  A copy is created by the old owner
and removed by the new one, over two channels that end at a third server, so the removal may come
first (`removal_overtakes_creation`).  If instead the packets about each object are delivered in
the order they were posted, no handler of a hand-over ever faults (`no_handOver_fault`).
-/

namespace SeamlessServer
namespace Game

open Utility Protocol

/-! ## The invariant of a view -/

/-- An object whose packets are delivered in order. -/
structure Tracked (L : Placement) (v : View) : Prop where
  shape : ∃ b, Shape L.Lossless v b
  placed : Placed L v
  blank : v.issued = false → Blank v

/-- The acts of an orderly run. -/
def Orderly (L : Placement) (v : View) : View.Act → Prop
  | .spawn x f =>
      v.issued = false ∧ L.Fits f ∧ ∃ id packet now, f = World.spawnedFixture id x packet now
  | .request packet => packet.toOwner = true ∧ L.FitsPacket packet
  | .deliver early _ => early = []
  | .round _ _ => True

theorem Orderly.fitsAct {L : Placement} {v : View} {act : View.Act} (h : Orderly L v act) :
    L.FitsAct act := by
  cases act with
  | spawn x f =>
      exact h.2.1
  | request packet =>
      exact h.2
  | deliver early packet =>
      exact trivial
  | round x deltaTime =>
      exact trivial

/-- The faults that remain: a request finds no owner, or an object is lost on the border. -/
def tolerated : List Fault := [.ownerUnknown, .noDestination]

theorem Tracked.step {D : Deployment} (hD : D.Complete) {L : Placement} {v v' : View}
    {act : View.Act} {fault : Option Fault} (h : Tracked L v) (hact : Orderly L v act)
    (hstep : View.Step D v act v' fault) :
    Tracked L v' ∧ ∀ f, fault = some f → f ∈ tolerated := by
  have hplaced := h.placed.step hact.fitsAct hstep
  have htolerated : ∀ {fault : Option Fault}, fault = none ∨ fault = some .ownerUnknown →
      ∀ f, fault = some f → f ∈ tolerated := by
    rintro fault (rfl | rfl) f hf
    · cases hf
    · cases hf
      decide
  rcases h.shape with ⟨b, hshape⟩
  cases hstep with
  | @spawned x f hx hnone =>
      rcases hact with ⟨hissued, _, id, packet, now, rfl⟩
      rcases hx with ⟨k, hk⟩
      have hheld := (h.blank hissued).spawn id (D.mem_sectorsOf.1 hk).1 packet now
      refine ⟨⟨⟨true, (Shape.held x _ hheld).of_eq rfl rfl⟩, hplaced, ?_⟩, by simp⟩
      intro hfalse
      cases hfalse
  | spawnRefused hsome =>
      rw [(h.blank hact.1).copies] at hsome
      cases hsome
  | moveRequested hx hreaction =>
      rcases hshape.request hD hact.1 hreaction with ⟨hfault, hshape'⟩
      exact ⟨⟨hshape', hplaced, fun hissued => (h.blank hissued).request hact.1 hreaction⟩,
        htolerated hfault⟩
  | removeRequested hx hreaction =>
      rcases hshape.request hD hact.1 hreaction with ⟨hfault, b', hshape'⟩
      refine ⟨⟨⟨b', hshape'.of_eq rfl rfl⟩, hplaced, ?_⟩, htolerated hfault⟩
      intro hissued
      have hblank := (h.blank hissued).request (D := D) hact.1 hreaction
      exact ⟨hblank.copies, hblank.requests⟩
  | @delivered early rest q now F packets _ hqueue hx hreaction =>
      have hearly : early = [] := hact
      subst hearly
      rw [List.nil_append] at hqueue
      cases hto : q.toOwner with
      | false =>
          rcases hshape.deliver hD hqueue hto hreaction with ⟨hfault, hshape'⟩
          refine ⟨⟨⟨b, hshape'⟩, hplaced, ?_⟩, htolerated (.inl hfault)⟩
          intro hissued
          have htrue := (h.blank hissued).requests q (by simp [hqueue])
          rw [hto] at htrue
          cases htrue
      | true =>
          -- the request is taken out of the queue and then handled like one of an agency
          rcases (hshape.pop hqueue hto).request hD hto hreaction with ⟨hfault, hshape'⟩
          refine ⟨⟨hshape', hplaced, ?_⟩, htolerated hfault⟩
          intro hissued
          have hblank := h.blank hissued
          have hpopped : Blank { v with queue := rest } := by
            refine ⟨hblank.copies, ?_⟩
            intro p hp
            exact hblank.requests p (by simp [hqueue, hp])
          exact hpopped.request hto hreaction
  | @dropped early rest q hqueue hx =>
      have hearly : early = [] := hact
      subst hearly
      rw [List.nil_append] at hqueue
      cases hto : q.toOwner with
      | false =>
          exact absurd (hD.holds (hshape.onGrid hqueue hto)) hx
      | true =>
          refine ⟨⟨⟨b, hshape.pop hqueue hto⟩, hplaced, ?_⟩, by simp⟩
          intro hissued
          have hblank := h.blank hissued
          refine ⟨hblank.copies, ?_⟩
          intro p hp
          exact hblank.requests p (by simpa [hqueue] using .inr hp)
  | @round x f f' deltaTime packets _ hx hf hround =>
      have hblank : v.issued = false → False := by
        intro hissued
        rw [(h.blank hissued).copies] at hf
        cases hf
      rcases hshape.round hD (h.placed.lands hf deltaTime) hf hround with ⟨rfl, hshape'⟩ | ⟨rfl, _, hshape'⟩
      · exact ⟨⟨⟨b, hshape'⟩, hplaced, fun hissued => (hblank hissued).elim⟩, by simp⟩
      · refine ⟨⟨⟨false, hshape'⟩, hplaced, fun hissued => (hblank hissued).elim⟩, ?_⟩
        rintro f ⟨⟩
        decide

/-! ## The cluster -/

namespace Cluster

variable {D : Deployment} {c : Cluster} {L : Placement}

/-- Agencies spawn objects at places of the placement, move them to such places, and address the
owner. -/
def wellPlaced (L : Placement) : Event → Prop
  | .spawn _ _ packet _ => L.position packet.position ∧ L.size packet.size
  | .move _ _ packet => packet.toOwner = true ∧ L.position packet.startingPosition
  | .remove _ _ packet => packet.toOwner = true
  | _ => True

/-- A delivery takes the oldest packet about its object. -/
def inOrder (c : Cluster) : Event → Prop
  | .deliver index _ => ∀ e, c.channelHead index = some e →
      ∀ e' ∈ c.flight.take index, e'.packet.objectId ≠ e.packet.objectId
  | _ => True

/-- The steps of an orderly run. -/
structure orderly (L : Placement) (c : Cluster) (e : Event) : Prop where
  placed : wellPlaced L e
  fresh : c.assignsFreshId e
  inOrder : c.inOrder e

theorem orderly_of_orderly {e : Event} (h : c.orderly L e) {o : Nat} {act : View.Act} {v : View}
    (hpermits : c.Permits o e act)
    (hv : v = c.view D o ∨ ∃ x deltaTime, act = .round x deltaTime) : Orderly L v act := by
  have hfresh := spawnsFresh_of_assignsFreshId h.fresh hpermits hv
  cases e with
  | spawn k agency packet now =>
      rcases hpermits with ⟨_, rfl⟩
      exact ⟨hfresh, h.placed, o, packet, now, rfl⟩
  | move k agency packet =>
      rcases hpermits with ⟨_, rfl⟩
      exact h.placed
  | remove k agency packet =>
      rcases hpermits with ⟨_, rfl⟩
      exact ⟨h.placed, trivial⟩
  | update k clock =>
      rcases hpermits with ⟨x, rfl⟩
      exact trivial
  | deliver index now =>
      rcases hpermits with ⟨e, hhead, rfl, rfl⟩
      change packetsAbout _ _ = []
      rw [packetsAbout, List.filter_eq_nil_iff]
      intro p hp
      rcases List.mem_map.1 hp with ⟨e', he', rfl⟩
      simpa using h.inOrder e hhead e' he'
  | rehashSectors k order =>
      exact hpermits.elim
  | rehashFixtures k x order =>
      exact hpermits.elim

theorem tracked_empty (L : Placement) : Tracked L ⟨fun _ => none, [], false, false⟩ := by
  have hblank : Blank ⟨fun _ => none, [], false, false⟩ := ⟨fun _ => rfl, by simp⟩
  exact ⟨⟨false, .gone ∅ (fun _ => rfl) hblank.replica⟩, ⟨by simp, by simp⟩, fun _ => hblank⟩

/-- The faults of the handlers of a hand-over. -/
def handOverFaults : List Fault :=
  [.objectExists, .observerNotFound, .promotedNotFound, .promotedOutside, .copyNotFound]

theorem holding_tracked (hD : D.Complete)
    (h : ((machine D).restrict (orderly L)).Reachable c) :
    Holding D (fun _ v => Tracked L v) (fun fault => fault ∉ handOverFaults) c := by
  refine Machine.Reachable.invariant (M := (machine D).restrict (orderly L))
    (P := Holding D (fun _ v => Tracked L v) fun fault => fault ∉ handOverFaults) ?_ ?_ h
  · rintro c rfl
    exact Holding.new fun _ => tracked_empty L
  · intro c e c' h hstep
    refine h.step (.inl (by decide)) ?_ hstep.2
    intro o act v v' fault hpermits hv htracked hview
    rcases htracked.step hD (orderly_of_orderly hstep.1 hpermits hv) hview with ⟨h', hfault⟩
    refine ⟨h', ?_⟩
    intro f hf hmem
    have htolerated := hfault f hf
    cases f <;> simp [tolerated, handOverFaults] at htolerated hmem

/-- In every run in which the packets about each object are delivered in the order they were posted,
no id is assigned twice and objects stay inside the world, no handler of a hand-over faults. -/
theorem no_handOver_fault (hD : D.Complete)
    (h : ((machine D).restrict (orderly worldPlacement)).Reachable c) :
    ∀ k fault, c.halted k = some fault → fault ∉ handOverFaults :=
  (holding_tracked hD h).faults

/-! ## A removal that overtakes a creation -/

theorem threeServers_complete : threeServers.Complete := by
  intro x _
  unfold threeServers
  simp only
  split_ifs
  · exact ⟨3, rfl⟩
  · exact ⟨4, rfl⟩
  · exact ⟨2, rfl⟩

theorem reachable_handOver_orderly :
    ((machine threeServers).restrict (orderly worldPlacement)).Reachable handOver := by
  have hspawn : InWorld ⟨2500, 2500⟩ := by constructor <;> norm_num
  have hsize : Contained ⟨100, 100⟩ := by constructor <;> norm_num
  have hmove : InWorld ⟨7500, 4000⟩ := by constructor <;> norm_num
  have hrun : ((machine threeServers).restrict (orderly worldPlacement)).Run
      (Cluster.new threeServers) handOverEvents handOver := by
    refine .cons ⟨⟨⟨hspawn, hsize⟩, ?_, trivial⟩, ⟨2, rfl, rfl⟩, rfl⟩
      (.cons ⟨⟨⟨rfl, hmove⟩, trivial, trivial⟩, ⟨2, rfl, ?_⟩, rfl⟩
        (.cons ⟨⟨trivial, trivial, trivial⟩, ⟨2, rfl, ?_⟩, rfl⟩ (.nil _)))
    · intro id _
      exact List.not_mem_nil
    · decide +kernel
    · decide +kernel
  exact hrun.reachable (.init rfl)

/-- All that server 2 has posted is delivered, and what server 3 then posts. -/
def deliveries : List Event := List.replicate 7 (.deliver 0 1000)

def handedOver : Cluster := deliveries.foldl (next threeServers) handOver

/-- The packet posted first may be delivered in any orderly run. -/
theorem orderly_first (c : Cluster) (now : Milliseconds) :
    c.orderly worldPlacement (.deliver 0 now) :=
  ⟨trivial, trivial, fun _ _ _ hmem => absurd hmem List.not_mem_nil⟩

theorem reachable_handedOver_orderly :
    ((machine threeServers).restrict (orderly worldPlacement)).Reachable handedOver := by
  have hrun : ((machine threeServers).restrict (orderly worldPlacement)).Run
      handOver deliveries handedOver := by
    refine .cons ⟨orderly_first _ _, ⟨4, ?_, ?_⟩, rfl⟩
      (.cons ⟨orderly_first _ _, ⟨4, ?_, ?_⟩, rfl⟩
        (.cons ⟨orderly_first _ _, ⟨3, ?_, ?_⟩, rfl⟩
          (.cons ⟨orderly_first _ _, ⟨3, ?_, ?_⟩, rfl⟩
            (.cons ⟨orderly_first _ _, ⟨4, ?_, ?_⟩, rfl⟩
              (.cons ⟨orderly_first _ _, ⟨4, ?_, ?_⟩, rfl⟩
                (.cons ⟨orderly_first _ _, ⟨2, ?_, ?_⟩, rfl⟩ (.nil _))))))) <;>
      decide +kernel
  exact hrun.reachable reachable_handOver_orderly

/-- The object has gone over to sector 13, its old owner and the copies in the sectors 7 and 8 are
removed, and nothing is under way any more. -/
theorem no_handOver_fault_handOver :
    handOver.flight.length = 4 ∧ handedOver.flight.length = 0 ∧
      (handedOver.fixtureAt 2 12 firstId).isNone = true ∧
      (handedOver.fixtureAt 3 13 firstId).map Fixture.isObservingFixture = some false ∧
      ∀ k fault, handedOver.halted k = some fault → fault ∉ handOverFaults :=
  ⟨by decide +kernel, by decide +kernel, by decide +kernel, by decide +kernel,
    no_handOver_fault threeServers_complete reachable_handedOver_orderly⟩

/-- The steps that are well placed and assign fresh ids, in any order of delivery. -/
def unordered (L : Placement) (c : Cluster) (e : Event) : Prop :=
  wellPlaced L e ∧ c.assignsFreshId e

/-- The copy in sector 13 is created, the promotion is delivered, and then the removal posted by the
new owner arrives in sector 7 before the creation posted by the old one. -/
def overtakingEvents : List Event := [.deliver 2 1000, .deliver 2 1000, .deliver 2 1000]

def overtaken : Cluster := overtakingEvents.foldl (next threeServers) handOver

theorem reachable_overtaken :
    ((machine threeServers).restrict (unordered worldPlacement)).Reachable overtaken := by
  have hrun : ((machine threeServers).restrict (unordered worldPlacement)).Run handOver
      overtakingEvents overtaken := by
    refine .cons ⟨⟨trivial, trivial⟩, ⟨3, ?_, ?_⟩, rfl⟩
      (.cons ⟨⟨trivial, trivial⟩, ⟨3, ?_, ?_⟩, rfl⟩
        (.cons ⟨⟨trivial, trivial⟩, ⟨4, ?_, ?_⟩, rfl⟩ (.nil _))) <;>
      decide +kernel
  exact hrun.reachable (reachable_handOver_orderly.mono fun c e h => ⟨h.placed, h.fresh⟩)

/-- The order within the channels is not enough. -/
theorem removal_overtakes_creation :
    ¬ ∀ (D : Deployment), D.Complete → ∀ c : Cluster,
      ((machine D).restrict (unordered worldPlacement)).Reachable c →
        ∀ k fault, c.halted k = some fault → fault ∉ handOverFaults := by
  intro h
  have hfault : overtaken.halted 4 = some .observerNotFound := by
    decide +kernel
  exact h threeServers threeServers_complete overtaken reachable_overtaken 4 _ hfault (by decide)

end Cluster

end Game
end SeamlessServer
