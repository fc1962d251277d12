import SeamlessServer.Game.InOrder
import SeamlessServer.Game.Sectors

/-!
# Game.Emission — runs that handle packets in the order they were emitted

Requests are made to the server that holds the owner of the object, spawns to the server of the
sector, and the packets of all servers are delivered in the order they were posted.  In such runs an
object that was spawned and not removed is held by an owner or about to be, every other object is
gone or will be, and nothing faults (`emission_holds`).
-/

namespace SeamlessServer
namespace Game

open Utility Protocol

/-! ## The view of an object -/

/-- The object was spawned and not removed. -/
def View.live (v : View) : Bool := v.issued && !v.retired

/-- The shape of an object in a run that handles packets in order of emission. -/
structure InShape (lossless : Prop) (v : View) : Prop where
  shape : Shape lossless v v.live
  blank : v.issued = false → Blank v ∧ v.retired = false
  /-- No request is passed on. -/
  noRequest : ∀ q ∈ v.queue, q.toOwner = false

/-- The acts of such a run, wherever they place the object. -/
def Admitted (v : View) : View.Act → Prop
  | .spawn x f =>
      v.issued = false ∧ ∃ id packet now, f = World.spawnedFixture id x packet now
  | .request packet => v.owns packet.sectorId = true
  | .deliver early _ => early = []
  | .round _ _ => True

/-- An object in a run that handles packets in order of emission and keeps to a placement. -/
structure Emitted (L : Placement) (v : View) : Prop where
  shape : Shape L.Lossless v v.live
  placed : Placed L v
  blank : v.issued = false → Blank v ∧ v.retired = false
  /-- No request is passed on. -/
  noRequest : ∀ q ∈ v.queue, q.toOwner = false

theorem Emitted.inShape {L : Placement} {v : View} (h : Emitted L v) : InShape L.Lossless v :=
  ⟨h.shape, h.blank, h.noRequest⟩

/-- The acts of such a run. -/
def Direct (L : Placement) (v : View) : View.Act → Prop
  | .spawn x f =>
      v.issued = false ∧ L.Fits f ∧ ∃ id packet now, f = World.spawnedFixture id x packet now
  | .request packet => v.owns packet.sectorId = true ∧ L.FitsPacket packet
  | .deliver early _ => early = []
  | .round _ _ => True

theorem Direct.fitsAct {L : Placement} {v : View} {act : View.Act} (h : Direct L v act) :
    L.FitsAct act := by
  cases act with
  | spawn x f =>
      exact h.2.1
  | request packet =>
      exact h.2
  | deliver early packet =>
      exact trivial
  | round x deltaTime =>
      exact trivial

theorem Direct.admitted {L : Placement} {v : View} {act : View.Act} (h : Direct L v act) :
    Admitted v act := by
  cases act with
  | spawn x f =>
      exact ⟨h.1, h.2.2⟩
  | request packet =>
      exact h.1
  | deliver early packet =>
      exact h
  | round x deltaTime =>
      exact trivial

theorem Admitted.direct {L : Placement} {v : View} {act : View.Act} (h : Admitted v act)
    (hfits : L.FitsAct act) : Direct L v act := by
  cases act with
  | spawn x f =>
      exact ⟨h.1, hfits, h.2⟩
  | request packet =>
      exact ⟨h, hfits⟩
  | deliver early packet =>
      exact h
  | round x deltaTime =>
      exact trivial

/-- Only requests that do not meet the owner are passed on. -/
theorem Reaction.noRequest {now : Milliseconds} {q : PlayPacket} {F F' : Option Fixture}
    {packets : List PlayPacket} {fault : Option Fault} (h : Reaction now q F F' packets fault)
    (hq : q.toOwner = false ∨ ∃ f, F = some f ∧ f.isObservingFixture = false) :
    ∀ p ∈ packets, p.toOwner = false := by
  have hpassed : ∀ {b : Bool}, b = true → (∀ f, F = some f → f.isObservingFixture = true) →
      (b = false ∨ ∃ f, F = some f ∧ f.isObservingFixture = false) → False := by
    rintro b hto hobs (hfalse | ⟨f, hf, hfalse⟩)
    · rw [hto] at hfalse
      cases hfalse
    · rw [hobs f hf] at hfalse
      cases hfalse
  cases h with
  | promotedFar s info f _ _ =>
      exact forall_mem_exchangePackets (fun _ => rfl) (fun _ => rfl)
  | moveForwarded packet x hto hF =>
      exact (hpassed hto hF hq).elim
  | removeForwarded packet x hto hF =>
      exact (hpassed hto hF hq).elim
  | ownerMoved packet hf =>
      exact forall_mem_fanOut fun x => rfl
  | ownerRemoved packet hf =>
      exact forall_mem_fanOut fun x => rfl
  | _ =>
      simp

theorem Round.noRequest {x : Nat} {f f' : Fixture} {packets : List PlayPacket}
    {fault : Option Fault} (h : Round x f f' packets fault) : ∀ p ∈ packets, p.toOwner = false :=
  h.forall_mem (fun _ => rfl) (fun _ _ _ => rfl) (fun _ _ _ => rfl)

theorem noRequest_append {D : Deployment} {queue packets : List PlayPacket}
    (h : ∀ q ∈ queue, q.toOwner = false) (hpackets : ∀ p ∈ packets, p.toOwner = false) :
    ∀ q ∈ queue ++ D.sent packets, q.toOwner = false := by
  intro q hq
  rcases List.mem_append.1 hq with hq | hq
  · exact h q hq
  · exact hpackets q (D.mem_sent.1 hq).1

/-- Every act keeps the shape, if the rounds move fixtures to places of the world. -/
theorem InShape.step {D : Deployment} (hD : D.Complete) {lossless : Prop} (hlossless : lossless)
    {v v' : View} {act : View.Act} {fault : Option Fault} (h : InShape lossless v)
    (hact : Admitted v act)
    (hlands : ∀ x f deltaTime, act = .round x deltaTime → v.copies x = some f →
      Lands lossless (f.move deltaTime))
    (hstep : View.Step D v act v' fault) : InShape lossless v' ∧ fault = none := by
  -- an object with an owner has been spawned
  have hissued : ∀ {x f}, v.copies x = some f → v.issued = false → False := by
    intro x f hf hissued
    rw [(h.blank hissued).1.copies] at hf
    cases hf
  cases hstep with
  | @spawned x f hx hnone =>
      rcases hact with ⟨hfresh, id, packet, now, rfl⟩
      rcases hx with ⟨k, hk⟩
      rcases h.blank hfresh with ⟨hblank, hretired⟩
      have hheld := hblank.spawn id (D.mem_sectorsOf.1 hk).1 packet now
      refine ⟨⟨?_, by simp, ?_⟩, rfl⟩
      · have hlive : View.live { v.write x (some (World.spawnedFixture id x packet now)) [] with
            issued := true } = true := by
          simp [View.live, View.write, hretired]
        rw [hlive]
        exact (Shape.held x _ hheld).of_eq rfl rfl
      · simpa [View.write] using h.noRequest
  | spawnRefused hsome =>
      rw [(h.blank hact.1).1.copies] at hsome
      cases hsome
  | @moveRequested packet now F packets _ hx hreaction =>
      rcases isOwner_of_owns hact with ⟨f, hf, hobs⟩
      rcases h.shape.move_owner hD hact hreaction with ⟨hfault, hshape⟩
      refine ⟨⟨hshape, fun hnot => (hissued hf hnot).elim, ?_⟩, hfault⟩
      exact noRequest_append h.noRequest (hreaction.noRequest (.inr ⟨f, hf, hobs⟩))
  | @removeRequested packet now F packets _ hx hreaction =>
      rcases isOwner_of_owns hact with ⟨f, hf, hobs⟩
      rcases h.shape.remove_owner hD hact hreaction with ⟨hfault, hshape⟩
      have howns : v.owns packet.sectorId = true := hact
      refine ⟨⟨?_, fun hnot => (hissued hf hnot).elim, ?_⟩, hfault⟩
      · have hlive : View.live { v.write packet.sectorId F (D.sent packets) with
            retired := v.retired || v.owns packet.sectorId } = false := by
          simp [View.live, howns]
        rw [hlive]
        exact hshape.of_eq rfl rfl
      · exact noRequest_append h.noRequest (hreaction.noRequest (.inr ⟨f, hf, hobs⟩))
  | @delivered early rest q now F packets _ hqueue hx hreaction =>
      have hearly : early = [] := hact
      subst hearly
      rw [List.nil_append] at hqueue
      have hto := h.noRequest q (by simp [hqueue])
      rcases h.shape.deliver hD hqueue hto hreaction with ⟨hfault, hshape⟩
      refine ⟨⟨hshape, ?_, ?_⟩, hfault⟩
      · intro hnot
        have htrue := (h.blank hnot).1.requests q (by simp [hqueue])
        rw [hto] at htrue
        cases htrue
      · refine noRequest_append ?_ (hreaction.noRequest (.inl hto))
        intro p hp
        exact h.noRequest p (by simpa [hqueue] using .inr hp)
  | @dropped early rest q hqueue hx =>
      have hearly : early = [] := hact
      subst hearly
      rw [List.nil_append] at hqueue
      have hto := h.noRequest q (by simp [hqueue])
      exact absurd (hD.holds (h.shape.onGrid hqueue hto)) hx
  | @round x f f' deltaTime packets _ hx hf hround =>
      rcases h.shape.round hD (hlands x f deltaTime rfl hf) hf hround with
        ⟨rfl, hshape⟩ | ⟨_, hlost, _⟩
      · exact ⟨⟨hshape, fun hnot => (hissued hf hnot).elim,
          noRequest_append h.noRequest hround.noRequest⟩, rfl⟩
      · exact absurd hlossless hlost

theorem Emitted.step {D : Deployment} (hD : D.Complete) {L : Placement} (hL : L.Lossless)
    {v v' : View} {act : View.Act} {fault : Option Fault} (h : Emitted L v) (hact : Direct L v act)
    (hstep : View.Step D v act v' fault) : Emitted L v' ∧ fault = none := by
  have hplaced := h.placed.step hact.fitsAct hstep
  rcases h.inShape.step hD hL hact.admitted (fun x f deltaTime _ hf => h.placed.lands hf deltaTime)
    hstep with ⟨h', hfault⟩
  exact ⟨⟨h'.shape, hplaced, h'.blank, h'.noRequest⟩, hfault⟩

/-! ## Null entries -/

namespace World

variable {w : World}

theorem NoNull.handle (h : NoNull w) (packet : PlayPacket) {id : Nat}
    (hid : w.sectorIdAt packet.sectorId = some id) (hkey : packet.Keyed) (source : Nat)
    (now : Milliseconds) : NoNull (w.handle source packet now).world := by
  rcases handle_reacts source now hid hkey with ⟨F, packets, _, heffect⟩
  intro x hx
  exact h x (heffect.writes.nulls x hx)

end World

/-! ## The cluster -/

namespace Cluster

variable {D : Deployment} {c : Cluster} {L : Placement}

/-- The steps of a run that handles packets in order of emission. -/
def emission (D : Deployment) (L : Placement) (c : Cluster) : Event → Prop
  | .spawn k _ packet _ =>
      packet.sectorId ∈ D.sectorsOf k ∧ (L.position packet.position ∧ L.size packet.size) ∧
        ∀ id, c.nextFixtureId k packet.sectorId = some id → id ∉ c.issued
  | .move k _ packet =>
      c.owns k packet.sectorId packet.objectId = true ∧ L.position packet.startingPosition
  | .remove k _ packet => c.owns k packet.sectorId packet.objectId = true
  | .deliver index _ => index = 0
  | _ => True

/-- The same steps, wherever they place the object. -/
def inEmission (D : Deployment) (c : Cluster) : Event → Prop
  | .spawn k _ packet _ =>
      packet.sectorId ∈ D.sectorsOf k ∧
        ∀ id, c.nextFixtureId k packet.sectorId = some id → id ∉ c.issued
  | .move k _ packet => c.owns k packet.sectorId packet.objectId = true
  | .remove k _ packet => c.owns k packet.sectorId packet.objectId = true
  | .deliver index _ => index = 0
  | _ => True

theorem inEmission_of_emission {e : Event} (h : c.emission D L e) : c.inEmission D e := by
  cases e with
  | spawn k agency packet now =>
      exact ⟨h.1, h.2.2⟩
  | move k agency packet =>
      exact h.1
  | _ =>
      exact h

/-- Every object is in shape and there are no null entries. -/
structure Ordered (D : Deployment) (lossless : Prop) (c : Cluster) : Prop where
  sound : Sound D c
  inShape : ∀ o, InShape lossless (c.view D o)
  halted : ∀ k, c.halted k = none
  noNull : ∀ k, (c.worlds k).NoNull

/-- The invariant of such runs. -/
structure EmissionHolds (D : Deployment) (L : Placement) (c : Cluster) : Prop where
  holding : Holding D (fun _ v => Emitted L v) (fun _ => False) c
  noNull : ∀ k, (c.worlds k).NoNull

theorem halted_of_faults (h : ∀ k fault, c.halted k = some fault → False) (k : Nat) :
    c.halted k = none := by
  cases hk : c.halted k with
  | none =>
      rfl
  | some fault =>
      exact (h k fault hk).elim

theorem EmissionHolds.ordered (h : EmissionHolds D L c) : Ordered D L.Lossless c :=
  ⟨h.holding.sound, fun o => (h.holding.views o).inShape, halted_of_faults h.holding.faults,
    h.noNull⟩

theorem Sound.mem_sectorsOf (h : Sound D c) {k x o : Nat} (howns : c.owns k x o = true) :
    x ∈ D.sectorsOf k := by
  by_contra hx
  have hnone := h.sectors k x
  rw [if_neg hx] at hnone
  rw [owns, fixtureAt, World.fixtureAt_of_sectorIdAt_none hnone] at howns
  cases howns

theorem view_owns {k x : Nat} (hx : x ∈ D.sectorsOf k) (o : Nat) :
    (c.view D o).owns x = c.owns k x o := by
  rw [View.owns, view_copies hx]
  rfl

theorem admitted_of_inEmission (h : Sound D c) {e : Event} (hemission : c.inEmission D e) {o : Nat}
    {act : View.Act} {v : View} (hpermits : c.Permits o e act)
    (hv : v = c.view D o ∨ ∃ x deltaTime, act = .round x deltaTime) : Admitted v act := by
  cases e with
  | spawn k agency packet now =>
      have hfresh := spawnsFresh_of_assignsFreshId (D := D) (e := .spawn k agency packet now)
        hemission.2 hpermits hv
      rcases hpermits with ⟨_, rfl⟩
      exact ⟨hfresh, o, packet, now, rfl⟩
  | move k agency packet =>
      rcases hpermits with ⟨rfl, rfl⟩
      rcases hv with rfl | ⟨x, deltaTime, hact⟩
      · exact (view_owns (h.mem_sectorsOf hemission) _).trans hemission
      · cases hact
  | remove k agency packet =>
      rcases hpermits with ⟨rfl, rfl⟩
      rcases hv with rfl | ⟨x, deltaTime, hact⟩
      · exact (view_owns (h.mem_sectorsOf hemission) _).trans hemission
      · cases hact
  | update k clock =>
      rcases hpermits with ⟨x, rfl⟩
      exact trivial
  | deliver index now =>
      rcases hpermits with ⟨e, hhead, rfl, rfl⟩
      have hzero : index = 0 := hemission
      subst hzero
      rfl
  | rehashSectors k order =>
      exact hpermits.elim
  | rehashFixtures k x order =>
      exact hpermits.elim

theorem direct_of_emission (h : Sound D c) {e : Event} (hemission : c.emission D L e) {o : Nat}
    {act : View.Act} {v : View} (hpermits : c.Permits o e act)
    (hv : v = c.view D o ∨ ∃ x deltaTime, act = .round x deltaTime) : Direct L v act := by
  refine (admitted_of_inEmission h (inEmission_of_emission hemission) hpermits hv).direct ?_
  cases e with
  | spawn k agency packet now =>
      rcases hpermits with ⟨_, rfl⟩
      exact hemission.2.1
  | move k agency packet =>
      rcases hpermits with ⟨_, rfl⟩
      exact hemission.2
  | remove k agency packet =>
      rcases hpermits with ⟨_, rfl⟩
      exact trivial
  | update k clock =>
      rcases hpermits with ⟨x, rfl⟩
      exact trivial
  | deliver index now =>
      rcases hpermits with ⟨e, _, rfl, rfl⟩
      exact trivial
  | rehashSectors k order =>
      exact hpermits.elim
  | rehashFixtures k x order =>
      exact hpermits.elim

theorem noNull_absorb (h : ∀ k, (c.worlds k).NoNull) {k : Nat} {r : Outcome}
    (hr : r.world.NoNull) : ∀ k', ((c.absorb D k r).worlds k').NoNull := by
  intro k'
  by_cases hk : k' = k
  · subst hk
    simpa [absorb] using hr
  · simpa [absorb, hk] using h k'

/-- The packet that is handled next is for a sector of its target. -/
theorem Ordered.head {lossless : Prop} (h : Ordered D lossless c) {e : Envelope}
    {rest : List Envelope} (hflight : c.flight = e :: rest) :
    e.packet.sectorId ∈ D.sectorsOf e.target ∧ e.packet.toOwner = false := by
  have hmem : e ∈ c.flight := by simp [hflight]
  have hinShape := h.inShape e.packet.objectId
  have hqueue : (c.view D e.packet.objectId).queue =
      e.packet :: packetsAbout e.packet.objectId rest := by
    simp [view, packetsAbout, hflight]
  have hto := hinShape.noRequest e.packet (by simp [hqueue])
  exact ⟨D.mem_sectorsOf.2 ⟨hinShape.shape.onGrid hqueue hto, h.sound.routed e hmem⟩, hto⟩

theorem flight_of_channelHead_zero {e : Envelope} (h : c.channelHead 0 = some e) :
    c.flight = e :: c.flight.drop 1 := by
  simpa using flight_of_channelHead h

theorem Ordered.noNull_next {lossless : Prop} (h : Ordered D lossless c) {e : Event}
    (hemission : c.inEmission D e) : ∀ k, ((c.next D e).worlds k).NoNull := by
  have hsound := h.sound
  cases e with
  | spawn k agency packet now =>
      -- a request is for a sector of the server, so `operator[]` makes no entry
      rcases World.find_of_sectorIdAt (hsound.sectorIdAt hemission.1) with ⟨sector, hfind, _⟩
      exact noNull_absorb (D := D) h.noNull ((h.noNull k).spawnCharacter hfind agency now)
  | move k agency packet =>
      have hid := hsound.sectorIdAt (hsound.mem_sectorsOf hemission)
      exact noNull_absorb (D := D) h.noNull
        ((h.noNull k).handle (.characterMoveRq packet) hid trivial agency 0)
  | remove k agency packet =>
      have hid := hsound.sectorIdAt (hsound.mem_sectorsOf hemission)
      exact noNull_absorb (D := D) h.noNull
        ((h.noNull k).handle (.removeCharacterRq packet) hid trivial agency 0)
  | update k clock =>
      exact noNull_absorb (D := D) h.noNull ((h.noNull k).update clock)
  | deliver index now =>
      have hzero : index = 0 := hemission
      subst hzero
      cases hhead : c.channelHead 0 with
      | none =>
          simpa [next, hhead] using h.noNull
      | some e =>
          have hflight := flight_of_channelHead_zero hhead
          -- the first packet is for a sector of its target
          have hid := hsound.sectorIdAt (h.head hflight).1
          have hkey := hsound.keyed e (by rw [hflight]; exact List.mem_cons_self)
          have hhandle := (h.noNull e.target).handle e.packet hid hkey e.source now
          simp only [next, hhead]
          exact noNull_absorb (D := D) (c := { c with flight := c.flight.eraseIdx 0 }) h.noNull hhandle
  | rehashSectors k order =>
      intro k'
      by_cases hk : k' = k
      · subst hk
        intro x
        simpa [next] using h.noNull k' x
      · simpa [next, hk] using h.noNull k'
  | rehashFixtures k x order =>
      simp only [next]
      split
      next sector hfind =>
        intro k'
        by_cases hk : k' = k
        · subst hk
          simpa using (h.noNull k').setSector x _
        · simpa [hk] using h.noNull k'
      next =>
        exact h.noNull

/-- A step keeps every object in shape together with a property of its view, if the property puts
the fixtures that are updated on places of the world. -/
theorem Ordered.step {lossless : Prop} {R : Nat → View → Prop} (hD : D.Complete)
    (hlossless : lossless) (h : Ordered D lossless c) (hR : ∀ o, R o (c.view D o)) {e : Event}
    {c' : Cluster} (hemission : c.inEmission D e)
    (hlands : ∀ k clock, e = .update k clock → ∀ o v x f, R o v → v.copies x = some f →
      Lands lossless (f.move clock.deltaTime))
    (hkept : ∀ o act v v' fault, c.Permits o e act → InShape lossless v → R o v →
      View.Step D v act v' fault → R o v')
    (hstep : (machine D).step c e c') : Ordered D lossless c' ∧ ∀ o, R o (c'.view D o) := by
  have hholding : Holding D (fun o v => InShape lossless v ∧ R o v) (fun _ => False) c :=
    ⟨h.sound, fun o => ⟨h.inShape o, hR o⟩, by simp [h.halted]⟩
  have hholding' := hholding.step (.inr h.noNull) ?_ hstep
  · refine ⟨⟨hholding'.sound, fun o => (hholding'.views o).1,
      halted_of_faults hholding'.faults, ?_⟩, fun o => (hholding'.views o).2⟩
    rw [hstep.2]
    exact h.noNull_next hemission
  · intro o act v v' fault hpermits hv hview hact
    have hround : ∀ x f deltaTime, act = .round x deltaTime → v.copies x = some f →
        Lands lossless (f.move deltaTime) := by
      rintro x f deltaTime rfl hf
      -- rounds belong to updates
      cases e with
      | update k clock =>
          rcases hpermits with ⟨_, hround⟩
          cases hround
          exact hlands k clock rfl o v x f hview.2 hf
      | spawn k agency packet now =>
          cases hpermits.2
      | move k agency packet =>
          cases hpermits.2
      | remove k agency packet =>
          cases hpermits.2
      | deliver index now =>
          rcases hpermits with ⟨_, _, _, hround⟩
          cases hround
      | rehashSectors k order =>
          exact hpermits.elim
      | rehashFixtures k x order =>
          exact hpermits.elim
    rcases hview.1.step hD hlossless (admitted_of_inEmission h.sound hemission hpermits hv) hround
      hact with ⟨hshape, rfl⟩
    exact ⟨⟨hshape, hkept o act v v' _ hpermits hview.1 hview.2 hact⟩, by simp⟩

theorem inShape_empty (lossless : Prop) : InShape lossless ⟨fun _ => none, [], false, false⟩ := by
  have hblank : Blank ⟨fun _ => none, [], false, false⟩ := ⟨fun _ => rfl, by simp⟩
  exact ⟨.gone ∅ (fun _ => rfl) hblank.replica, fun _ => ⟨hblank, rfl⟩, by simp⟩

theorem emitted_empty (L : Placement) : Emitted L ⟨fun _ => none, [], false, false⟩ := by
  have h := inShape_empty L.Lossless
  exact ⟨h.shape, ⟨by simp, by simp⟩, h.blank, h.noRequest⟩

theorem noNull_new (k : Nat) : ((Cluster.new D).worlds k).NoNull := by
  intro x
  by_cases hx : x ∈ D.sectorsOf k <;> simp [Cluster.new, World.new, hx]

theorem EmissionHolds.new : EmissionHolds D L (Cluster.new D) :=
  ⟨Holding.new fun _ => emitted_empty L, noNull_new⟩

theorem EmissionHolds.step (hD : D.Complete) (hL : L.Lossless) (h : EmissionHolds D L c) {e : Event}
    {c' : Cluster} (hstep : ((machine D).restrict (emission D L)).step c e c') :
    EmissionHolds D L c' := by
  constructor
  · refine h.holding.step (.inr fun k => h.noNull k) ?_ hstep.2
    intro o act v v' fault hpermits hv hemitted hview
    rcases hemitted.step hD hL (direct_of_emission h.holding.sound hstep.1 hpermits hv) hview with
      ⟨h', rfl⟩
    exact ⟨h', by simp⟩
  · rw [hstep.2.2]
    exact h.ordered.noNull_next (inEmission_of_emission hstep.1)

/-- Runs that handle packets in order of emission keep every object in shape and do not fault. -/
theorem emission_holds (hD : D.Complete) (hL : L.Lossless)
    (h : ((machine D).restrict (emission D L)).Reachable c) : EmissionHolds D L c := by
  refine Machine.Reachable.invariant (M := (machine D).restrict (emission D L))
    (P := EmissionHolds D L) ?_ ?_ h
  · rintro c rfl
    exact EmissionHolds.new
  · intro c e c' h hstep
    exact h.step hD hL hstep

end Cluster

end Game
end SeamlessServer
