import SeamlessServer.Game.Emission

/-!
# Game.LockStep — steps whose packets are handled before the next step

In lock step a request or an update is made only when nothing is under way, and the packets it causes
are handled in the order they were posted.  A tick is an update of all servers with the same time
step.

* `handled` shows that the packets of a step can always be handled to the end;
* `exact_observers` says where the copies of an object are between two steps.
-/

namespace SeamlessServer
namespace Game

open Utility Protocol

/-! ## Packets are handled to the end -/

/-- A promotion causes at most seven packets, and they cause none. -/
def weight (q : PlayPacket) : Nat := if q.isPromote then 8 else 1

def totalWeight (packets : List PlayPacket) : Nat := (packets.map weight).sum

theorem totalWeight_append (l l' : List PlayPacket) :
    totalWeight (l ++ l') = totalWeight l + totalWeight l' := by
  simp [totalWeight]

theorem totalWeight_of_noPromotion {packets : List PlayPacket}
    (h : ∀ q ∈ packets, q.isPromote = false) : totalWeight packets = packets.length := by
  have hweight : packets.map weight = packets.map fun _ => 1 := by
    apply List.map_congr_left
    intro q hq
    simp [weight, h q hq]
  rw [totalWeight, hweight]
  simp

theorem length_nearSectors_le (s : Nat) (p : Direction) : (nearSectors s p).length ≤ 3 := by
  unfold nearSectors
  calc
    _ ≤ _ := List.length_filter_le _ _
    _ = ((sectorNearDirectionGrid p).filter (· ≠ .Max)).length := List.length_map _
    _ ≤ (sectorNearDirectionGrid p).length := List.length_filter_le _ _
    _ ≤ 3 := by cases p <;> decide

theorem length_exchangePackets_le {s d : Nat} (hs : s < sectorCount) (hd : d < sectorCount)
    (info : ObjectInfo) (p q : Direction) (location : FixtureLocation) :
    (exchangePackets info p s location q d).length ≤ 7 := by
  rcases exchangeSectors_spec hs hd p q with ⟨common, _, _, hprev, hnew, hprevNodup, hnewNodup⟩
  have hremoved : (removedSectors p s q d).length ≤ 4 := by
    unfold removedSectors
    split_ifs
    · have hsub : validSectors (World.exchangeSectors p s q d).1 ⊆ nearSectors s p ++ [s] := by
        intro x hx
        rcases (hprev x).1 hx with ⟨⟨hx | hx, _⟩, _⟩ <;> simp [hx]
      have hle := (hprevNodup.subperm hsub).length_le
      have hnear := length_nearSectors_le s p
      simp only [List.length_append, List.length_singleton] at hle
      omega
    · simp
  have hcreated : (createdSectors p s q d).length ≤ 3 := by
    unfold createdSectors
    split_ifs
    · have hsub : validSectors (World.exchangeSectors p s q d).2 ⊆ nearSectors d q := by
        intro x hx
        exact ((hnew x).1 hx).1.1
      exact (hnewNodup.subperm hsub).length_le.trans (length_nearSectors_le d q)
    · simp
  unfold exchangePackets
  split_ifs
  · simp
  · simp only [List.length_append, List.length_map]
    omega

/-- The pending edits of a shape. -/
theorem Shape.replica {lossless : Prop} {v : View} {b : Bool} {q : PlayPacket}
    {rest : List PlayPacket} (h : Shape lossless v b) (hqueue : v.queue = q :: rest)
    (hpromote : q.isPromote = false) :
    ∃ owner pending T, Replica v.copies owner (q :: pending) T := by
  cases h with
  | gone T hT h =>
      exact ⟨none, rest, T, hqueue ▸ h⟩
  | held s f h =>
      exact ⟨some s, rest, _, hqueue ▸ h.replica⟩
  | moving s info before after h =>
      have hsplit := hqueue.symm.trans h.queue
      cases before with
      | nil =>
          simp only [List.nil_append, List.cons.injEq] at hsplit
          rw [hsplit.1] at hpromote
          cases hpromote
      | cons q' before =>
          simp only [List.cons_append, List.cons.injEq] at hsplit
          rw [hsplit.1]
          exact ⟨none, before, _, h.replica⟩

/-- A packet weighs more than the packets it causes. -/
theorem Shape.weight_lt {lossless : Prop} {v : View} {b : Bool} {q : PlayPacket}
    {rest packets : List PlayPacket} {F : Option Fixture} {fault : Option Fault}
    {now : Milliseconds} {D : Deployment} (h : Shape lossless v b) (hqueue : v.queue = q :: rest)
    (hto : q.toOwner = false)
    (hreaction : Reaction now q (v.copies q.sectorId) F packets fault) :
    totalWeight (D.sent packets) < weight q := by
  rcases packet_cases q with ⟨e, hedit⟩ | hpromote | hrequest
  · -- an edit that meets what it expects causes nothing
    have hpromote : q.isPromote = false := by
      cases q <;> first | rfl | cases hedit
    rcases h.replica hqueue hpromote with ⟨owner, pending, T, hreplica⟩
    rcases hreplica.deliver hedit hreaction with ⟨rfl, _⟩
    simp [totalWeight, weight, hpromote]
  · have hle : packets.length ≤ 7 ∧ ∀ p ∈ packets, p.isPromote = false := by
      have hgrid := h.onGrid hqueue hto
      cases h with
      | gone T hT h =>
          rw [h.noPromotion q (by simp [hqueue])] at hpromote
          cases hpromote
      | held s f h =>
          rw [h.replica.noPromotion q (by simp [hqueue])] at hpromote
          cases hpromote
      | moving s info before after h =>
          have hsplit := hqueue.symm.trans h.queue
          cases before with
          | cons q' before =>
              simp only [List.cons_append, List.cons.injEq] at hsplit
              rw [hsplit.1, h.replica.noPromotion q' List.mem_cons_self] at hpromote
              cases hpromote
          | nil =>
              simp only [List.nil_append, List.cons.injEq] at hsplit
              rcases hsplit with ⟨rfl, _⟩
              generalize v.copies _ = F₀ at hreaction
              cases hreaction with
              | promotedFar _ _ f _ _ =>
                  rw [h.sector]
                  exact ⟨length_exchangePackets_le h.handOff.source h.handOff.dest.lt _ _ _ _,
                    exchangePackets_noPromotion⟩
              | _ =>
                  exact ⟨by simp, by simp⟩
    have hsent : ∀ p ∈ D.sent packets, p.isPromote = false := by
      intro p hp
      exact hle.2 p (D.mem_sent.1 hp).1
    have hlength : (D.sent packets).length ≤ packets.length := List.length_filter_le _ _
    rw [totalWeight_of_noPromotion hsent, weight, if_pos hpromote]
    omega
  · rw [hto] at hrequest
    cases hrequest

namespace Cluster

variable {D : Deployment} {c : Cluster}

/-- The packets under way weigh less after one of them is handled. -/
theorem Ordered.weight_next {lossless : Prop} (h : Ordered D lossless c) {e : Envelope}
    {rest : List Envelope} (hflight : c.flight = e :: rest) (now : Milliseconds) :
    totalWeight ((c.next D (.deliver 0 now)).flight.map Envelope.packet) <
      totalWeight (c.flight.map Envelope.packet) := by
  have hsound := h.sound
  have hmem : e ∈ c.flight := by simp [hflight]
  have hhead : c.channelHead 0 = some e := by
    simp [channelHead, hflight]
  let c₀ : Cluster := { c with flight := c.flight.eraseIdx 0 }
  have hsound₀ : Sound D c₀ := by
    refine ⟨hsound.sectors, ?_, ?_, hsound.fixtures⟩
    · intro e' he'
      exact hsound.routed e' (List.mem_of_mem_eraseIdx he')
    · intro e' he'
      exact hsound.keyed e' (List.mem_of_mem_eraseIdx he')
  have hqueue : (c.view D e.packet.objectId).queue =
      e.packet :: packetsAbout e.packet.objectId rest := by
    simp [view, packetsAbout, hflight]
  rcases h.head hflight with ⟨hx, hto⟩
  rcases hsound₀.handle_cases e.packet (hsound.keyed e hmem) e.target e.source now with
    ⟨hnot, _⟩ | ⟨_, F, packets, hreaction, heffect, _⟩
  · exact absurd hx hnot
  · have hlt := (h.inShape e.packet.objectId).shape.weight_lt (D := D) hqueue hto hreaction
    have hnext : (c.next D (.deliver 0 now)).flight.map Envelope.packet =
        rest.map Envelope.packet ++ D.sent packets := by
      have hflight' : (c.next D (.deliver 0 now)).flight =
          rest ++ route D e.target ((c₀.worlds e.target).handle e.source e.packet now).posts := by
        simp [next, hhead, absorb, hflight, c₀]
      rw [hflight', List.map_append, map_packet_route heffect.packets]
    rw [hnext, totalWeight_append, hflight]
    simp only [List.map_cons, totalWeight, List.sum_cons] at hlt ⊢
    omega

/-- Handling a packet keeps every object in shape. -/
theorem Ordered.deliver (hD : D.Complete) {lossless : Prop} (hlossless : lossless)
    (h : Ordered D lossless c) {now : Milliseconds} {c' : Cluster}
    (hstep : (machine D).step c (.deliver 0 now) c') : Ordered D lossless c' := by
  have hemission : c.inEmission D (.deliver 0 now) := rfl
  exact (h.step (R := fun _ _ => True) hD hlossless (fun _ => trivial) hemission (by simp)
    (by simp) hstep).1

/-- Some packet is under way: handling it is a step, and less is under way afterwards. -/
theorem Ordered.handle_step {lossless : Prop} (h : Ordered D lossless c) (now : Milliseconds)
    (hflight : c.flight ≠ []) :
    ∃ c', (machine D).step c (.deliver 0 now) c' ∧
      totalWeight (c'.flight.map Envelope.packet) < totalWeight (c.flight.map Envelope.packet) := by
  rcases List.exists_cons_of_ne_nil hflight with ⟨e, rest, hcons⟩
  have hactor : c.actor (.deliver 0 now) = some e.target := by
    simp [actor, channelHead, hcons]
  exact ⟨_, ⟨⟨e.target, hactor, h.halted _⟩, rfl⟩, h.weight_next hcons now⟩

/-- Whatever is under way can be handled to the end. -/
theorem Ordered.handled (hD : D.Complete) {lossless : Prop} (hlossless : lossless)
    (h : Ordered D lossless c) (now : Milliseconds) :
    ∃ n c', (machine D).Run c (List.replicate n (.deliver 0 now)) c' ∧ c'.flight = [] := by
  -- induction on a bound of the weight of what is under way
  have hbound : ∀ (w : Nat) (c : Cluster), totalWeight (c.flight.map Envelope.packet) ≤ w →
      Ordered D lossless c →
      ∃ n c', (machine D).Run c (List.replicate n (.deliver 0 now)) c' ∧ c'.flight = [] := by
    intro w
    induction w with
    | zero =>
        intro c hw h
        by_cases hflight : c.flight = []
        · exact ⟨0, c, .nil _, hflight⟩
        · rcases h.handle_step now hflight with ⟨c', _, hlt⟩
          omega
    | succ w ih =>
        intro c hw h
        by_cases hflight : c.flight = []
        · exact ⟨0, c, .nil _, hflight⟩
        · rcases h.handle_step now hflight with ⟨c', hstep, hlt⟩
          rcases ih c' (by omega) (h.deliver hD hlossless hstep) with ⟨n, c'', hrun, hempty⟩
          exact ⟨n + 1, c'', .cons hstep hrun, hempty⟩
  exact hbound _ c le_rfl h

end Cluster

/-! ## The machine -/

/-- A step of the lock-step model: a request or an update of one server, a tick of all servers, or
the handling of the packet posted first. -/
inductive LockEvent
  | act (e : Event)
  | tick (order : List Nat) (clock : Nat → World.Clock)
  | handle (now : Milliseconds)

namespace LockStep

/-- Spawns go to the server of the sector and other requests to the server of the owner; objects of
one chunk are kept inside the world. -/
def admissible (D : Deployment) (c : Cluster) : Event → Prop
  | .spawn k _ packet _ =>
      packet.sectorId ∈ D.sectorsOf k ∧
        (Fixture.Inside packet.position ⟨100, 100⟩ ∧ packet.size = ⟨100, 100⟩)
  | .move k _ packet =>
      c.owns k packet.sectorId packet.objectId = true ∧
        Fixture.Inside packet.startingPosition ⟨100, 100⟩
  | .remove k _ packet => c.owns k packet.sectorId packet.objectId = true
  | .deliver _ _ => False
  | _ => True

/-- A tick reaches all servers that have sectors, with one time step. -/
structure IsTick (D : Deployment) (order : List Nat) (clock : Nat → World.Clock) : Prop where
  nodup : order.Nodup
  covers : ∀ k, D.sectorsOf k ≠ [] → k ∈ order
  deltaTime : ∃ deltaTime, ∀ k, (clock k).deltaTime = deltaTime

def step (D : Deployment) (c : Cluster) : LockEvent → Cluster → Prop
  | .act e, c' => c.flight = [] ∧ admissible D c e ∧ (Cluster.machine D).step c e c'
  | .tick order clock, c' =>
      c.flight = [] ∧ IsTick D order clock ∧
        (Cluster.machine D).Run c (order.map fun k => .update k (clock k)) c'
  | .handle now, c' => (Cluster.machine D).step c (.deliver 0 now) c'

def machine (D : Deployment) : Machine Cluster LockEvent where
  init := fun c => c = Cluster.new D
  step := step D

/-- No spawn is given an id that was assigned before. -/
def assignsFreshId (c : Cluster) : LockEvent → Prop
  | .act e => c.assignsFreshId e
  | _ => True

variable {D : Deployment} {c : Cluster}

/-- Updates are steps of a run in order of emission. -/
theorem run_updates {order : List Nat} {clock : Nat → World.Clock} :
    ∀ {c c' : Cluster}, (Cluster.machine D).Run c (order.map fun k => .update k (clock k)) c' →
      ((Cluster.machine D).restrict (Cluster.emission D chunkPlacement)).Run c
        (order.map fun k => .update k (clock k)) c' := by
  induction order with
  | nil =>
      intro c c' h
      cases h
      exact .nil _
  | cons k order ih =>
      intro c c' h
      cases h with
      | cons hstep hrun =>
          exact .cons ⟨trivial, hstep⟩ (ih hrun)

theorem emission_of_admissible {e : Event} (h : admissible D c e) (hfresh : c.assignsFreshId e) :
    c.emission D chunkPlacement e := by
  cases e with
  | spawn k agency packet now =>
      exact ⟨h.1, h.2, hfresh⟩
  | deliver index now =>
      exact h.elim
  | _ =>
      exact h

theorem reachable_emission (h : ((machine D).restrict assignsFreshId).Reachable c) :
    ((Cluster.machine D).restrict (Cluster.emission D chunkPlacement)).Reachable c := by
  induction h with
  | init h =>
      exact .init h
  | @step c c' e _ hstep ih =>
      rcases hstep with ⟨hfresh, hstep⟩
      cases e with
      | act e =>
          exact .step ih ⟨emission_of_admissible hstep.2.1 hfresh, hstep.2.2⟩
      | tick order clock =>
          exact (run_updates hstep.2.2).reachable ih
      | handle now =>
          exact .step (e := .deliver 0 now) ih ⟨rfl, hstep⟩

theorem emissionHolds (hD : D.Complete) (h : ((machine D).restrict assignsFreshId).Reachable c) :
    Cluster.EmissionHolds D chunkPlacement c :=
  Cluster.emission_holds hD chunkPlacement_lossless (reachable_emission h)

/-- Deliveries are steps of the lock-step model. -/
theorem run_handles {now : Milliseconds} {n : Nat} :
    ∀ {c c' : Cluster}, (Cluster.machine D).Run c (List.replicate n (.deliver 0 now)) c' →
      ((machine D).restrict assignsFreshId).Run c (List.replicate n (.handle now)) c' := by
  induction n with
  | zero =>
      intro c c' h
      cases h
      exact .nil _
  | succ n ih =>
      intro c c' h
      cases h with
      | cons hstep hrun =>
          exact .cons ⟨trivial, hstep⟩ (ih hrun)

/-- Whatever is under way can be handled to the end. -/
theorem handled (hD : D.Complete) (now : Milliseconds)
    (h : ((machine D).restrict assignsFreshId).Reachable c) :
    ∃ n c', ((machine D).restrict assignsFreshId).Run c (List.replicate n (.handle now)) c' ∧
      c'.flight = [] := by
  rcases (emissionHolds hD h).ordered.handled hD chunkPlacement_lossless now with
    ⟨n, c', hrun, hempty⟩
  exact ⟨n, c', run_handles hrun, hempty⟩

end LockStep

/-! ## Where the copies of an object are -/

namespace Cluster

/-- The sectors that hold an observing copy of the object. -/
def observers (c : Cluster) (o : Nat) : Set Nat :=
  {x | ∃ k f, c.fixtureAt k x o = some f ∧ f.isObservingFixture = true}

/-- The object was spawned and not removed. -/
def Live (c : Cluster) (o : Nat) : Prop := o ∈ c.issued ∧ o ∉ c.retired

instance (c : Cluster) (o : Nat) : Decidable (c.Live o) :=
  inferInstanceAs (Decidable (_ ∧ _))

/-- The object has one owner, in the given sector of the given server, and is observed exactly by
the near sectors of its phase. -/
structure ExactlyObserved (c : Cluster) (o k s : Nat) (f : Fixture) : Prop where
  owners : c.owners o = {(k, s)}
  owner : c.fixtureAt k s o = some f
  location : f.location = .In ∨ f.location = .Gray
  gray : f.location = .Gray → c.observers o = {x | x ∈ nearSectors s f.phase}
  inside : f.location = .In → c.observers o = ∅

variable {D : Deployment} {c : Cluster}

/-- A fixture of a sound cluster is a copy in the view. -/
theorem Sound.view_fixtureAt (h : Sound D c) {k x o : Nat} {f : Fixture}
    (hf : c.fixtureAt k x o = some f) :
    x ∈ D.sectorsOf k ∧ (c.view D o).copies x = some f := by
  have hx : x ∈ D.sectorsOf k := by
    by_contra hx
    have hnone := h.sectors k x
    rw [if_neg hx] at hnone
    rw [fixtureAt, World.fixtureAt_of_sectorIdAt_none hnone] at hf
    cases hf
  exact ⟨hx, (view_copies hx o).trans hf⟩

theorem exists_fixtureAt_of_view {x o : Nat} {f : Fixture}
    (hf : (c.view D o).copies x = some f) :
    ∃ k, D.owner x = some k ∧ c.fixtureAt k x o = some f := by
  simp only [view] at hf
  split at hf
  next k hk =>
    exact ⟨k, hk, hf⟩
  next =>
    cases hf

/-- An owner with no packets under way. -/
theorem exactlyObserved_of_held (h : Sound D c) {o s : Nat} {f : Fixture}
    (hheld : Held (c.view D o) s f) (hqueue : (c.view D o).queue = []) :
    ∃ k, ExactlyObserved c o k s f := by
  rcases exists_fixtureAt_of_view hheld.copy with ⟨k, hk, hf⟩
  -- with nothing on its way the copies are where they should be
  have hothers : others (c.view D o).copies (some s) = {x | x ∈ nearSectors s f.phase} := by
    have hruns := hheld.replica.runs
    rw [hqueue] at hruns
    exact hruns
  have hobservers : c.observers o = others (c.view D o).copies (some s) := by
    ext x
    constructor
    · rintro ⟨k', g, hg, hobs⟩
      have hcopy := (h.view_fixtureAt hg).2
      refine ⟨?_, g, hcopy⟩
      rintro ⟨⟩
      rw [hheld.copy] at hcopy
      cases hcopy
      rw [hheld.owns] at hobs
      cases hobs
    · rintro ⟨hne, g, hg⟩
      rcases exists_fixtureAt_of_view hg with ⟨k', _, hg'⟩
      exact ⟨k', g, hg', hheld.replica.observe x g hg hne⟩
  refine ⟨k, ?_, hf, ?_, ?_, ?_⟩
  -- the place of the owner is the only one without an observing fixture
  · ext ⟨k', x⟩
    constructor
    · rintro ⟨g, hg, hobs⟩
      rcases h.view_fixtureAt hg with ⟨hx, hcopy⟩
      have hxs : x = s := by
        apply hheld.owns_iff.1
        simp [View.owns, hcopy, hobs]
      subst hxs
      have howner := (D.mem_sectorsOf.1 hx).2
      rw [hk] at howner
      cases howner
      rfl
    · rintro ⟨⟩
      exact ⟨f, hf, hheld.owns⟩
  · exact hheld.settled.imp And.left id
  · intro _
    rw [hobservers, hothers]
  · intro hin
    rw [hobservers, hothers]
    -- inside the sector there is no phase, and so nobody near
    rcases hheld.settled with ⟨_, hphase⟩ | hgray
    · rw [hphase, nearSectors_max]
      simp
    · rw [hgray] at hin
      cases hin

theorem view_queue (hflight : c.flight = []) (o : Nat) : (c.view D o).queue = [] := by
  simp [view, packetsAbout, hflight]

/-- The shape of an object when nothing is under way. -/
theorem shape_of_quiet (hD : D.Complete)
    (h : ((LockStep.machine D).restrict LockStep.assignsFreshId).Reachable c)
    (hflight : c.flight = []) (o : Nat) :
    (c.Live o ∧ ∃ s f, Held (c.view D o) s f) ∨
      (¬ c.Live o ∧ ∀ x, (c.view D o).copies x = none) := by
  have hshape := ((LockStep.emissionHolds hD h).holding.views o).shape
  have hqueue := view_queue (D := D) hflight o
  have hlive : (c.view D o).live = decide (c.Live o) := by
    rw [Bool.eq_iff_iff, decide_eq_true_iff]
    simp [View.live, view, Live]
  rw [hlive] at hshape
  by_cases ho : c.Live o
  · rw [decide_eq_true ho] at hshape
    cases hshape with
    | held s f hheld =>
        exact .inl ⟨ho, s, f, hheld⟩
    -- a hand-over would have its promotion in the queue
    | moving s info before after hmoving =>
        have hnil := hmoving.queue
        rw [hqueue] at hnil
        simp at hnil
  · rw [decide_eq_false ho] at hshape
    cases hshape with
    | gone T hT hgone =>
        -- nothing that could end a copy is on its way, so there is none
        have hempty : others (c.view D o).copies none = ∅ := by
          have hruns := hgone.runs
          rw [hqueue, hT chunkPlacement_lossless] at hruns
          exact hruns
        refine .inr ⟨ho, ?_⟩
        intro x
        by_contra hsome
        rcases Option.ne_none_iff_exists'.1 hsome with ⟨f, hf⟩
        have hmem : x ∈ others (c.view D o).copies none := ⟨by simp, f, hf⟩
        rw [hempty] at hmem
        exact hmem

/-- Between two steps of a lock-step run that assigns no id twice, every live object has exactly one
owner and is observed by exactly the near sectors of its phase, other objects have no fixture, and no
server has faulted. -/
theorem exact_observers (hD : D.Complete)
    (h : ((LockStep.machine D).restrict LockStep.assignsFreshId).Reachable c) :
    (∀ k, c.halted k = none) ∧
      (c.flight = [] → ∀ o, (c.Live o → ∃ k s f, ExactlyObserved c o k s f) ∧
        (¬ c.Live o → ∀ k x, c.fixtureAt k x o = none)) ∧
      ∀ now, ∃ n c', ((LockStep.machine D).restrict LockStep.assignsFreshId).Run c
        (List.replicate n (.handle now)) c' ∧ c'.flight = [] := by
  have hholds := LockStep.emissionHolds hD h
  have hsound := hholds.holding.sound
  refine ⟨hholds.ordered.halted, ?_, fun now => LockStep.handled hD now h⟩
  intro hflight o
  -- the view of an object with nothing under way has one owner, or nothing
  rcases shape_of_quiet hD h hflight o with ⟨ho, s, f, hheld⟩ | ⟨ho, hnone⟩
  · refine ⟨fun _ => ?_, fun hnot => absurd ho hnot⟩
    rcases exactlyObserved_of_held hsound hheld (view_queue hflight o) with ⟨k, hexact⟩
    exact ⟨k, s, f, hexact⟩
  · refine ⟨fun hlive => absurd hlive ho, fun _ k x => ?_⟩
    by_contra hsome
    rcases Option.ne_none_iff_exists'.1 hsome with ⟨f, hf⟩
    have hcopy := (hsound.view_fixtureAt hf).2
    rw [hnone] at hcopy
    cases hcopy

/-! ## Samples -/

theorem inside_chunk {x y : ℚ} (hx : -9950 ≤ x ∧ x ≤ 14950) (hy : -9950 ≤ y ∧ y ≤ 14950) :
    Fixture.Inside ⟨x, y⟩ ⟨100, 100⟩ := by
  constructor <;> norm_num <;> linarith [hx.1, hx.2, hy.1, hy.2]

/-- A spawn near the right border of sector 12, and an update of all servers. -/
def grayEvents : List LockEvent :=
  [.act (.spawn 2 9 ⟨1, 12, ⟨4900, 2500⟩, ⟨100, 100⟩⟩ 0),
   .tick [2, 3, 4] fun _ => ⟨1000, 0, 1000, fun _ _ => 1000⟩,
   .handle 1000]

/-- The cluster after these events. -/
def grayZone : Cluster :=
  [Event.spawn 2 9 ⟨1, 12, ⟨4900, 2500⟩, ⟨100, 100⟩⟩ 0,
   .update 2 ⟨1000, 0, 1000, fun _ _ => 1000⟩, .update 3 ⟨1000, 0, 1000, fun _ _ => 1000⟩,
   .update 4 ⟨1000, 0, 1000, fun _ _ => 1000⟩, .deliver 0 1000].foldl (next threeServers)
    (Cluster.new threeServers)

theorem isTick_threeServers (clock : Nat → World.Clock) {deltaTime : Milliseconds}
    (h : ∀ k, (clock k).deltaTime = deltaTime) : LockStep.IsTick threeServers [2, 3, 4] clock := by
  refine ⟨by decide, ?_, deltaTime, h⟩
  intro k hk
  rcases List.exists_mem_of_ne_nil _ hk with ⟨x, hx⟩
  have howner := (threeServers.mem_sectorsOf.1 hx).2
  unfold threeServers at howner
  simp only at howner
  split_ifs at howner <;> cases howner <;> simp

theorem reachable_grayZone :
    ((LockStep.machine threeServers).restrict LockStep.assignsFreshId).Reachable grayZone := by
  have hrun : ((LockStep.machine threeServers).restrict LockStep.assignsFreshId).Run
      (Cluster.new threeServers) grayEvents grayZone := by
    refine .cons ⟨?_, rfl, ⟨by decide +kernel, inside_chunk (by norm_num) (by norm_num), rfl⟩,
        ⟨2, rfl, rfl⟩, rfl⟩
      (.cons ⟨trivial, ?_, isTick_threeServers _ (fun _ => rfl),
          .cons ⟨⟨2, rfl, ?_⟩, rfl⟩ (.cons ⟨⟨3, rfl, ?_⟩, rfl⟩
            (.cons ⟨⟨4, rfl, ?_⟩, rfl⟩ (.nil _)))⟩
        (.cons ⟨trivial, ⟨3, ?_, ?_⟩, rfl⟩ (.nil _)))
    · intro id _
      exact List.not_mem_nil
    all_goals decide +kernel
  exact hrun.reachable (.init rfl)

theorem exact_observers_grayZone :
    grayZone.flight = [] ∧ grayZone.Live firstId ∧
      ∃ k s f, ExactlyObserved grayZone firstId k s f := by
  have hflight : grayZone.flight = [] := by decide +kernel
  have hlive : grayZone.Live firstId := by decide +kernel
  exact ⟨hflight, hlive,
    ((exact_observers threeServers_complete reachable_grayZone).2.1 hflight firstId).1 hlive⟩

/-! ## Ids that are assigned twice -/

theorem collidingDeployment_complete : collidingDeployment.Complete := by
  intro x _
  unfold collidingDeployment
  simp only
  split_ifs
  · exact ⟨_, rfl⟩
  · exact ⟨_, rfl⟩

theorem reachable_collided_lockStep : (LockStep.machine collidingDeployment).Reachable collided := by
  have hinside : Fixture.Inside ⟨0, 0⟩ ⟨100, 100⟩ := inside_chunk (by norm_num) (by norm_num)
  have hrun : (LockStep.machine collidingDeployment).Run (Cluster.new collidingDeployment)
      [.act (.spawn 2 9 (spawnAt 16) 0), .act (.spawn 226981421219475 9 (spawnAt 0) 0)]
      collided := by
    refine .cons ⟨rfl, ⟨?_, hinside, rfl⟩, ⟨2, rfl, rfl⟩, rfl⟩
      (.cons ⟨?_, ⟨?_, hinside, rfl⟩, ⟨226981421219475, rfl, ?_⟩, rfl⟩ (.nil _)) <;>
      decide +kernel
  exact hrun.reachable (.init rfl)

/-- Without the restriction a live object may have two owners in lock step as well. -/
theorem two_owners_in_lock_step :
    ¬ ∀ (D : Deployment), D.Complete → ∀ c : Cluster, (LockStep.machine D).Reachable c →
      c.flight = [] → ∀ o, c.Live o → ∃ k s f, ExactlyObserved c o k s f := by
  intro h
  have hflight : collided.flight = [] := by decide +kernel
  have hlive : collided.Live collidingId := by decide +kernel
  rcases h collidingDeployment collidingDeployment_complete collided reachable_collided_lockStep
    hflight collidingId hlive with ⟨k, s, f, hexact⟩
  have hsub := owners_collided
  rw [hexact.owners] at hsub
  have h₁ : ((2, 16) : Nat × Nat) = (k, s) := hsub (.inl rfl)
  have h₂ : ((226981421219475, 0) : Nat × Nat) = (k, s) := hsub (.inr rfl)
  exact absurd (h₁.trans h₂.symm) (by decide)

end Cluster

end Game
end SeamlessServer
