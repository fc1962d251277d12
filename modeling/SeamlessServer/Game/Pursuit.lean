import SeamlessServer.Game.SingleOwner

/-!
# Game.Pursuit — a request to remove an object follows it

A request for the owner names a sector where the object may be observed by now.  The server that ran
the owner passes the request on to the sector the object was promoted to, until the owner is met.
An object whose owner has been removed has none ever after (`Ownerless`, `removed_for_good`), so a
request that always finds the owner, or a sector to be passed on to, is under way or has done its
work.
-/

namespace SeamlessServer
namespace Game

open Utility Protocol

/-! ## Objects without owner -/

/-- The object is known, and nobody owns it or will. -/
structure Ownerless (v : View) : Prop where
  issued : v.issued = true
  copies : ∀ x, isOwner (v.copies x) = false
  queue : promotions v.queue = []

namespace Ownerless

variable {D : Deployment} {v v' : View}

theorem write (h : Ownerless v) {x : Nat} {F : Option Fixture} {packets : List PlayPacket}
    (howner : isOwner F = true → isOwner (v.copies x) = true) (hnone : promotions packets = []) :
    Ownerless (v.write x F packets) := by
  refine ⟨h.issued, fun y => ?_, ?_⟩
  · rw [SingleOwner.copies_write]
    split_ifs
    · by_contra hF
      have hx := howner (by simpa using hF)
      rw [h.copies x] at hx
      cases hx
    · exact h.copies y
  · change promotions (v.queue ++ packets) = []
    rw [promotions_append, h.queue, hnone]
    rfl

theorem pop (h : Ownerless v) {early rest : List PlayPacket} {packet : PlayPacket}
    (hqueue : v.queue = early ++ packet :: rest) :
    Ownerless { v with queue := early ++ rest } ∧ packet.isPromote = false := by
  have hnone := h.queue
  rw [hqueue, promotions, List.filter_eq_nil_iff] at hnone
  refine ⟨⟨h.issued, h.copies, ?_⟩, ?_⟩
  · rw [promotions, List.filter_eq_nil_iff]
    intro q hq
    refine hnone q ?_
    rcases List.mem_append.1 hq with hq | hq
    · exact List.mem_append_left _ hq
    · exact List.mem_append_right _ (List.mem_cons_of_mem _ hq)
  · have hpacket := hnone packet (List.mem_append_right _ List.mem_cons_self)
    exact Bool.of_not_eq_true hpacket

/-- Only a spawn or a promotion makes an owner, and the object is spawned already. -/
theorem step {act : View.Act} {fault : Option Fault} (h : Ownerless v) (hfresh : SpawnsFresh v act)
    (hstep : View.Step D v act v' fault) : Ownerless v' := by
  have hsent : ∀ {packets : List PlayPacket}, promotions packets = [] →
      promotions (D.sent packets) = [] := fun hnone => promotions_sent_eq_nil D hnone
  cases hstep with
  | spawned _ _ =>
      have hissued : v.issued = false := hfresh
      rw [h.issued] at hissued
      cases hissued
  | spawnRefused _ =>
      exact ⟨rfl, h.copies, h.queue⟩
  | moveRequested _ hreaction =>
      exact h.write (hreaction.isOwner rfl) (hsent hreaction.promotions_eq_nil)
  | removeRequested _ hreaction =>
      have hwrite := h.write (hreaction.isOwner rfl) (hsent hreaction.promotions_eq_nil)
      exact ⟨hwrite.issued, hwrite.copies, hwrite.queue⟩
  | delivered hqueue _ hreaction =>
      obtain ⟨hpopped, hpromote⟩ := h.pop hqueue
      exact hpopped.write (hreaction.isOwner hpromote) (hsent hreaction.promotions_eq_nil)
  | dropped hqueue _ =>
      exact (h.pop hqueue).1
  | @round x f f' _ _ _ _ hf hround =>
      have hcopy := h.copies x
      rw [hf] at hcopy
      rcases hround.isOwner with ⟨hsame, hnone⟩ | ⟨hobs, _, _⟩
      · refine h.write (fun howner => ?_) (hsent hnone)
        rw [Fixture.move_isObservingFixture] at hsame
        simp [isOwner, hsame] at howner
        simp [isOwner, howner] at hcopy
      · -- an owner has moved
        rw [Fixture.move_isObservingFixture] at hobs
        simp [isOwner, hobs] at hcopy

/-- The owner is removed; nothing else of the object can become one. -/
theorem of_removed (h : SingleOwner v) {x : Nat} (howner : isOwner (v.copies x) = true)
    {packets : List PlayPacket} (hnone : promotions packets = []) :
    Ownerless (v.write x none packets) := by
  refine ⟨?_, fun y => ?_, ?_⟩
  · change v.issued = true
    by_contra hissued
    rw [(h.blank (by simpa using hissued)).1 x] at howner
    cases howner
  · rw [SingleOwner.copies_write]
    split_ifs with hy
    · rfl
    · by_contra hother
      exact hy (h.single y x (by simpa using hother) howner)
  · change promotions (v.queue ++ packets) = []
    rw [promotions_append, h.handOver x howner, hnone]
    rfl

end Ownerless

/-! ## Requests that are passed on -/

namespace Cluster

variable {D : Deployment} {c : Cluster}

/-- A request to remove an object meets the owner where it asks for it, or it is for the owner and the
server remembers a sector the object was promoted to, which some server runs. -/
def Finds (D : Deployment) (c : Cluster) (k : Nat) (packet : RemoveCharacterRq) : Prop :=
  c.owns k packet.sectorId packet.objectId = true ∨
    packet.toOwner = true ∧ ∃ promoted,
      (c.worlds k).promotedObjectList.find packet.objectId = some promoted ∧
        D.Holds promoted.promotedSectorId

/-- Every request to remove an object that is handled for its owner finds it or is passed on. -/
def FindsOwner (D : Deployment) (c : Cluster) : Event → Prop
  | .remove k _ packet => c.Finds D k packet
  | .deliver index _ => ∀ e packet, c.channelHead index = some e →
      e.packet = .removeCharacterRq packet → packet.toOwner = true → c.Finds D e.target packet
  | _ => True

/-- The packet asks the owner of the object to remove it, in a sector that some server runs. -/
def Seeks (D : Deployment) (o : Nat) (q : PlayPacket) : Prop :=
  ∃ packet, q = .removeCharacterRq packet ∧ packet.objectId = o ∧ packet.toOwner = true ∧
    D.Holds packet.sectorId

/-- A request for the owner of the object is under way. -/
def Sought (D : Deployment) (c : Cluster) (o : Nat) : Prop := ∃ e ∈ c.flight, Seeks D o e.packet

/-- The object is to be removed, or has been. -/
def Pursued (D : Deployment) (c : Cluster) (o : Nat) : Prop :=
  c.Sought D o ∨ Ownerless (c.view D o)

theorem Sought.mono {c' : Cluster} {o : Nat} (h : c.Sought D o) (hsub : c.flight ⊆ c'.flight) :
    c'.Sought D o := by
  obtain ⟨e, hmem, hseeks⟩ := h
  exact ⟨e, hsub hmem, hseeks⟩

/-- What is passed on is sent to the sector the object was promoted to. -/
theorem forwarded {w : World} (source : Nat) {packet : RemoveCharacterRq}
    {promoted : PromotedObjectInfo} (hsector : w.sectorIdAt packet.sectorId = some packet.sectorId)
    (hcopy : isOwner (w.fixtureAt packet.sectorId packet.objectId) = false)
    (hto : packet.toOwner = true) (hfind : w.promotedObjectList.find packet.objectId = some promoted) :
    (w.removeCharacter source packet).posts =
      [.toSectorOwner (.removeCharacterRq { packet with sectorId := promoted.promotedSectorId })
        promoted.promotedSectorId] := by
  obtain ⟨sector, hsector, _⟩ := World.find_of_sectorIdAt hsector
  rw [World.fixtureAt_of_find hsector] at hcopy
  cases hf : sector.getFixture packet.objectId with
  | none =>
      simp [World.removeCharacter, World.sectorAt_of_find hsector, hf, hto, World.forward, hfind]
  | some f =>
      have hobs : f.isObservingFixture = true := by
        simpa [isOwner, hf] using hcopy
      simp [World.removeCharacter, World.sectorAt_of_find hsector, hf, hto, hobs, World.forward,
        hfind]

/-- A request that meets the owner leaves the object without one. -/
theorem ownerless_of_owns (hsound : Sound D c) {k : Nat} {packet : RemoveCharacterRq}
    (hsingle : SingleOwner (c.view D packet.objectId))
    (howns : c.owns k packet.sectorId packet.objectId = true) (source : Nat) :
    Ownerless ((c.absorb D k ((c.worlds k).removeCharacter source packet)).view D
      packet.objectId) := by
  obtain ⟨f, hf, hobs⟩ : ∃ f, (c.worlds k).fixtureAt packet.sectorId packet.objectId = some f ∧
      f.isObservingFixture = false := by
    simpa [owns, fixtureAt, Option.any_eq_true] using howns
  obtain ⟨hx, hcopy⟩ := hsound.mem_owners.1
    (show (k, packet.sectorId) ∈ c.owners packet.objectId from ⟨f, hf, hobs⟩)
  have hcopies := view_copies (c := c) hx packet.objectId
  rcases hsound.handle_cases (.removeCharacterRq packet) trivial k source 0 with
    ⟨hnot, _, _⟩ | ⟨_, F, packets, hreaction, heffect, habout, _⟩
  · exact absurd hx hnot
  have hreaction' : Reaction 0 (.removeCharacterRq packet) (some f) F packets
      ((c.worlds k).removeCharacter source packet).fault := by
    rw [← hf, ← hcopies]
    exact hreaction
  obtain ⟨rfl, _, rfl⟩ := hreaction'.remove_owner hobs
  rw [show (c.absorb D k ((c.worlds k).removeCharacter source packet)).view D packet.objectId =
    (c.view D packet.objectId).write packet.sectorId none (D.sent _) from
      (view_absorb hx heffect habout packet.objectId).trans (if_pos rfl)]
  refine Ownerless.of_removed hsingle hcopy ?_
  exact promotions_sent_eq_nil D (promotions_fanOut _ _ fun _ => rfl)

/-- A request that finds the owner removes it, or is passed on. -/
theorem pursued_of_finds (hsound : Sound D c) {k : Nat} {packet : RemoveCharacterRq}
    (hsingle : SingleOwner (c.view D packet.objectId)) (hx : packet.sectorId ∈ D.sectorsOf k)
    (hfinds : c.Finds D k packet) (source : Nat) :
    (c.absorb D k ((c.worlds k).removeCharacter source packet)).Pursued D packet.objectId := by
  cases howns : isOwner ((c.worlds k).fixtureAt packet.sectorId packet.objectId) with
  | true =>
      exact .inr (ownerless_of_owns hsound hsingle howns source)
  | false =>
      left
      have howns' : c.owns k packet.sectorId packet.objectId = false := howns
      rcases hfinds with hfound | ⟨hto, promoted, hfind, j, hj⟩
      · rw [howns'] at hfound
        cases hfound
      have hposts := forwarded source (hsound.sectorIdAt hx) howns hto hfind
      refine ⟨⟨k, j, .removeCharacterRq { packet with sectorId := promoted.promotedSectorId }⟩, ?_,
        _, rfl, rfl, hto, j, hj⟩
      refine List.mem_append_right _ ?_
      simp [route, hposts, (D.mem_sectorsOf.1 hj).2]

/-- An agency asks for the removal of an object. -/
theorem pursued_remove (hsound : Sound D c) {k : Nat} {packet : RemoveCharacterRq}
    (hsingle : SingleOwner (c.view D packet.objectId)) (hx : packet.sectorId ∈ D.sectorsOf k)
    (hfinds : c.Finds D k packet) (agency : Nat) :
    (c.next D (.remove k agency packet)).Pursued D packet.objectId := by
  rcases pursued_of_finds hsound hsingle hx hfinds agency with hsought | howner
  · exact .inl hsought
  · refine .inr ⟨howner.issued, fun x => ?_, howner.queue⟩
    exact howner.copies x

theorem flight_subset_absorb (k : Nat) (r : Outcome) : c.flight ⊆ (c.absorb D k r).flight :=
  List.subset_append_left _ _

/-- Without its owner an object stays, whatever is delivered. -/
theorem ownerless_next (h : ((machine D).restrict assignsFreshId).Reachable c) {e : Event}
    {c' : Cluster} (hstep : ((machine D).restrict assignsFreshId).step c e c') {o : Nat}
    (ho : Ownerless (c.view D o)) : Ownerless (c'.view D o) := by
  have hholding := holding_singleOwner h
  have hholding' : Holding D (fun o' v => o' = o → Ownerless v) (fun _ => True) c := by
    refine ⟨hholding.sound, ?_, fun _ _ _ => trivial⟩
    rintro o' rfl
    exact ho
  refine (hholding'.step (.inl trivial) ?_ hstep.2).views o rfl
  intro o' act v v' fault hpermits hv hownerless hview
  refine ⟨fun heq => ?_, fun _ _ => trivial⟩
  exact (hownerless heq).step (spawnsFresh_of_assignsFreshId hstep.1 hpermits hv) hview

/-- An object that is pursued stays so, as long as requests find the owner or are passed on. -/
theorem pursued_next (h : ((machine D).restrict assignsFreshId).Reachable c) {e : Event}
    (hfresh : c.assignsFreshId e) (hfinds : c.FindsOwner D e) {c' : Cluster}
    (hstep : (machine D).step c e c') {o : Nat} (ho : c.Pursued D o) : c'.Pursued D o := by
  have hholding := holding_singleOwner h
  rcases ho with hsought | howner
  · obtain ⟨_, rfl⟩ := hstep
    cases e with
    | deliver index now =>
        cases hhead : c.channelHead index with
        | none =>
            simp only [next, hhead]
            exact .inl hsought
        | some e =>
            simp only [next, hhead]
            let c₀ : Cluster := { c with flight := c.flight.eraseIdx index }
            obtain ⟨e', hmem, hseeks⟩ := hsought
            rw [flight_of_channelHead hhead] at hmem
            have herase : c₀.flight = c.flight.take index ++ c.flight.drop (index + 1) :=
              List.eraseIdx_eq_take_drop_succ _ _
            by_cases hdelivered : e' = e
            · -- the request itself is delivered
              subst hdelivered
              obtain ⟨packet, hpacket, rfl, hto, hx⟩ := hseeks
              have hrouted := hholding.sound.routed e' (by
                rw [flight_of_channelHead hhead]
                exact List.mem_append_right _ List.mem_cons_self)
              have hsector : packet.sectorId ∈ D.sectorsOf e'.target := by
                obtain ⟨j, hj⟩ := hx
                rw [hpacket] at hrouted
                exact D.mem_sectorsOf.2 ⟨(D.mem_sectorsOf.1 hj).1, hrouted⟩
              have hsingle : SingleOwner (c₀.view D packet.objectId) := by
                have hqueue := queue_of_channelHead hhead (D := D)
                have hid : e'.packet.objectId = packet.objectId := by rw [hpacket]; rfl
                have hpop := (hholding.views e'.packet.objectId).pop hqueue
                rw [← hid, view_take hhead, if_pos rfl]
                exact hpop
              rw [hpacket]
              exact pursued_of_finds (hholding.sound.take index) hsingle hsector
                (hfinds e' packet hhead hpacket hto) e'.source
            · have hkept : c₀.Sought D o := by
                refine ⟨e', ?_, hseeks⟩
                rw [herase]
                rcases List.mem_append.1 hmem with hmem | hmem
                · exact List.mem_append_left _ hmem
                · rcases List.mem_cons.1 hmem with heq | hmem
                  · exact absurd heq hdelivered
                  · exact List.mem_append_right _ hmem
              exact .inl (hkept.mono (flight_subset_absorb _ _))
    | rehashSectors k order =>
        exact .inl hsought
    | rehashFixtures k x order =>
        refine .inl (hsought.mono ?_)
        simp only [next]
        split
        · exact List.Subset.refl _
        · exact List.Subset.refl _
    | _ =>
        exact .inl (hsought.mono (flight_subset_absorb _ _))
  · exact .inr (ownerless_next h ⟨hfresh, hstep⟩ howner)

/-! ## Removed for good -/

/-- A request removes the object where its owner is. -/
def RemovesOwner (c : Cluster) (o : Nat) : Event → Prop
  | .remove k _ packet => packet.objectId = o ∧ c.owns k packet.sectorId o = true
  | .deliver index _ => ∃ e packet, c.channelHead index = some e ∧
      e.packet = .removeCharacterRq packet ∧ packet.objectId = o ∧
        c.owns e.target packet.sectorId o = true
  | _ => False

/-- The step of the request itself. -/
theorem ownerless_of_removesOwner (h : ((machine D).restrict assignsFreshId).Reachable c)
    {e : Event} {c' : Cluster} (hstep : ((machine D).restrict assignsFreshId).step c e c') {o : Nat}
    (hremoves : c.RemovesOwner o e) : Ownerless (c'.view D o) := by
  have hholding := holding_singleOwner h
  obtain ⟨_, _, rfl⟩ := hstep
  cases e with
  | remove k agency packet =>
      obtain ⟨rfl, howns⟩ := hremoves
      have howner := ownerless_of_owns hholding.sound (hholding.views _) howns agency
      exact ⟨howner.issued, howner.copies, howner.queue⟩
  | deliver index now =>
      obtain ⟨e, packet, hhead, hpacket, rfl, howns⟩ := hremoves
      simp only [next, hhead]
      let c₀ : Cluster := { c with flight := c.flight.eraseIdx index }
      -- with the request taken from its channel the object still has its one owner
      have hsingle : SingleOwner (c₀.view D packet.objectId) := by
        have hqueue := queue_of_channelHead hhead (D := D)
        have hid : e.packet.objectId = packet.objectId := by rw [hpacket]; rfl
        have hpop := (hholding.views e.packet.objectId).pop hqueue
        rw [← hid, view_take hhead, if_pos rfl]
        exact hpop
      rw [hpacket]
      exact ownerless_of_owns (hholding.sound.take index) hsingle howns e.source
  | spawn _ _ _ _ => exact hremoves.elim
  | move _ _ _ => exact hremoves.elim
  | update _ _ => exact hremoves.elim
  | rehashSectors _ _ => exact hremoves.elim
  | rehashFixtures _ _ _ => exact hremoves.elim

/-- An object without owner has none in the cluster and no promotion under way. -/
theorem owners_eq_empty (hsound : Sound D c) {o : Nat} (ho : Ownerless (c.view D o)) :
    c.owners o = ∅ ∧ c.undeliveredPromotions o = [] := by
  constructor
  · rw [Set.eq_empty_iff_forall_notMem]
    rintro ⟨k, x⟩ hmem
    have howner := (hsound.mem_owners.1 hmem).2
    rw [ho.copies x] at howner
    cases howner
  · have heq : promotions (c.view D o).queue = (c.undeliveredPromotions o).map Envelope.packet := by
      rw [undeliveredPromotions, promotions, view, packetsAbout, List.filter_filter,
        List.filter_map]
      rfl
    rw [ho.queue] at heq
    exact List.map_eq_nil_iff.1 heq.symm

/-- Once a request has met its owner an object is removed for good: whatever was under way then, in
whatever order it is delivered and whatever is asked for later, nobody owns the object again and no
promotion of it is under way. -/
theorem removed_for_good (h : ((machine D).restrict assignsFreshId).Reachable c) {o : Nat} {e : Event}
    {c' c'' : Cluster} {events : List Event} (hremoves : c.RemovesOwner o e)
    (hstep : ((machine D).restrict assignsFreshId).step c e c')
    (hrun : ((machine D).restrict assignsFreshId).Run c' events c'') :
    c''.owners o = ∅ ∧ c''.undeliveredPromotions o = [] := by
  have hkept : ((machine D).restrict assignsFreshId).Reachable c'' ∧ Ownerless (c''.view D o) := by
    refine hrun.invariant (P := fun c => ((machine D).restrict assignsFreshId).Reachable c ∧
      Ownerless (c.view D o)) ?_ ⟨h.step hstep, ownerless_of_removesOwner h hstep hremoves⟩
    intro s e _ s' hs hnext
    exact ⟨hs.1.step hnext, ownerless_next hs.1 hnext hs.2⟩
  exact owners_eq_empty (holding_singleOwner hkept.1).sound hkept.2

/-- The object that is being handed over is to be removed where it was; its new server takes the
promotion and then the request that was passed on to it. -/
def caughtUp : Cluster :=
  [.remove 2 9 ⟨7, 12, firstId, true⟩, .deliver 2 5, .deliver 2 5].foldl (next threeServers) handOver

/-- The object has been removed before other servers hear that it is observed there. -/
def removed : Cluster := caughtUp.next threeServers (.deliver 2 5)

theorem reachable_caughtUp : ((machine threeServers).restrict assignsFreshId).Reachable caughtUp := by
  have hrun : ((machine threeServers).restrict assignsFreshId).Run handOver
      [.remove 2 9 ⟨7, 12, firstId, true⟩, .deliver 2 5, .deliver 2 5] caughtUp :=
    .cons ⟨trivial, ⟨2, rfl, by decide +kernel⟩, rfl⟩ (.cons ⟨trivial, ⟨3, by decide +kernel,
      by decide +kernel⟩, rfl⟩ (.cons ⟨trivial, ⟨3, by decide +kernel, by decide +kernel⟩, rfl⟩
        (.nil _)))
  exact hrun.reachable reachable_handOver

theorem removed_for_good_removed :
    caughtUp.owns 3 13 firstId = true ∧
      ((([.deliver 0 5, .deliver 0 5].foldl (next threeServers) removed).owners firstId = ∅) ∧
        ([.deliver 0 5, .deliver 0 5].foldl (next threeServers) removed).undeliveredPromotions
          firstId = []) := by
  have hremoves : caughtUp.RemovesOwner firstId (.deliver 2 5) :=
    ⟨⟨2, 3, .removeCharacterRq ⟨7, 13, firstId, true⟩⟩, _, by decide +kernel, rfl, rfl,
      by decide +kernel⟩
  have hstep : ((machine threeServers).restrict assignsFreshId).step caughtUp (.deliver 2 5)
      removed := ⟨trivial, ⟨3, by decide +kernel, by decide +kernel⟩, rfl⟩
  have hrun : ((machine threeServers).restrict assignsFreshId).Run removed
      [.deliver 0 5, .deliver 0 5]
      ([.deliver 0 5, .deliver 0 5].foldl (next threeServers) removed) :=
    .cons ⟨trivial, ⟨4, by decide +kernel, by decide +kernel⟩, rfl⟩ (.cons ⟨trivial, ⟨4,
      by decide +kernel, by decide +kernel⟩, rfl⟩ (.nil _))
  exact ⟨by decide +kernel, removed_for_good reachable_caughtUp hremoves hstep hrun⟩

end Cluster

end Game
end SeamlessServer
