import SeamlessServer.Game.Geometry
import SeamlessServer.Game.SingleOwner

/-!
# Game.Announcements — how a cluster tells where an object is

A server that has spawned an object, or taken one over, announces where the object is now.  No other
posting does (`Silent`), so the announcements of an object are one for each place it has been at, and
the place that was announced last is the one the owner is at, or has been promoted away from
(`Located`).

`kept_next` is the other half: an object that was spawned and is not to be removed has an owner or is
being promoted, as long as promotions find a copy and no update finds an object outside the world.
-/

namespace SeamlessServer
namespace Game

open Utility Protocol

/-! ## Announcements among postings -/

/-- The notice says where an object is. -/
def isAnnouncement : Notice → Bool
  | .spawnCharacterRs _ _ _ => true
  | .promoteObjectRq _ _ => true
  | _ => false

def Posting.notice : Posting → Option Notice
  | .toSectorOwner _ _ => none
  | .toSector notice _ => some notice
  | .toSectorWithout _ notice _ => some notice
  | .toServer _ notice => some notice
  | .reply notice => some notice

/-- Nothing is announced. -/
def Silent (posts : List Posting) : Prop :=
  ∀ posting ∈ posts, ∀ notice, posting.notice = some notice → isAnnouncement notice = false

section Silent

theorem silent_nil : Silent [] := fun _ h => absurd h List.not_mem_nil

theorem Silent.append {posts posts' : List Posting} (h : Silent posts) (h' : Silent posts') :
    Silent (posts ++ posts') := by
  intro posting hmem
  rcases List.mem_append.1 hmem with hmem | hmem
  · exact h posting hmem
  · exact h' posting hmem

theorem Silent.cons {posting : Posting} {posts : List Posting}
    (hposting : ∀ notice, posting.notice = some notice → isAnnouncement notice = false)
    (h : Silent posts) : Silent (posting :: posts) := by
  intro posting' hmem
  rcases List.mem_cons.1 hmem with rfl | hmem
  · exact hposting
  · exact h posting' hmem

/-- A notice and a packet for each of a list of sectors. -/
theorem silent_flatMap {m : Nat → Notice} (packet : Nat → PlayPacket)
    (h : ∀ x, isAnnouncement (m x) = false) (sectors : List Nat) :
    Silent (sectors.flatMap fun x => [.toSector (m x) x, .toSectorOwner (packet x) x]) := by
  intro posting hmem n hn
  obtain ⟨x, _, hposting⟩ := List.mem_flatMap.1 hmem
  rcases List.mem_cons.1 hposting with rfl | hposting
  · cases hn
    exact h x
  · rw [List.mem_singleton.1 hposting] at hn
    cases hn

variable {w : World}

theorem silent_sendRemove (sectors : List Nat) (o : Nat) :
    Silent (World.sendRemoveObservingObject sectors o) :=
  silent_flatMap _ (fun _ => rfl) _

theorem silent_sendCreate (sectors : List Nat) (s : Nat) (info : ObjectInfo) :
    Silent (World.sendCreateObservingObject sectors s info) :=
  silent_flatMap _ (fun _ => rfl) _

theorem silent_exchange (info : ObjectInfo) (p : Direction) (s : Nat) (location : FixtureLocation)
    (q : Direction) (d : Nat) : Silent (World.exchangeObservingObject info p s location q d) := by
  unfold World.exchangeObservingObject
  split_ifs
  · exact silent_nil
  · exact (silent_sendRemove _ _).append (silent_sendCreate _ _ _)
  · exact (silent_sendRemove _ _).append silent_nil
  · exact silent_nil.append (silent_sendCreate _ _ _)
  · exact silent_nil.append silent_nil

/-- A loop over handlers that announce nothing. -/
theorem silent_foldOutcome {α : Type} {body : World → α → Outcome}
    (hbody : ∀ w a, Silent (body w a).posts) (rounds : List α) :
    ∀ w, Silent (foldOutcome body w rounds).posts := by
  induction rounds with
  | nil =>
      intro w
      exact silent_nil
  | cons a rounds ih =>
      intro w
      unfold foldOutcome
      dsimp only
      split
      · exact hbody w a
      · exact (hbody w a).append (ih _)

theorem silent_forward (o : Nat) (packetTo : Nat → PlayPacket) :
    Silent (w.forward o packetTo).posts := by
  rcases World.forward_cases w o packetTo with ⟨x, h⟩ | h
  · rw [h]
    exact silent_nil.cons fun _ h => by cases h
  · rw [h]
    exact silent_nil

/-- An answer, and what is told to the near sectors. -/
theorem silent_answer {first second : Posting}
    (hfirst : ∀ notice, first.notice = some notice → isAnnouncement notice = false)
    (hsecond : ∀ notice, second.notice = some notice → isAnnouncement notice = false)
    {posts : List Posting} (h : Silent posts) : Silent ([first, second] ++ posts) :=
  ((silent_nil.cons hsecond).cons hfirst).append h

theorem silent_moveObject (source : Nat) (packet : CharacterMoveRq) :
    Silent (w.moveObject source packet).posts := by
  have hown : ∀ {posts : List Posting}, Silent posts → Silent
      ([.toSectorWithout source (.objectMovePs packet) packet.sectorId,
        .toServer source (.characterMoveRs packet)] ++ posts) := by
    refine silent_answer ?_ ?_
    · rintro _ ⟨⟩
      rfl
    · rintro _ ⟨⟩
      rfl
  unfold World.moveObject
  split
  · exact silent_nil
  · split
    · split_ifs
      · exact silent_forward _ _
      · exact silent_nil
    · dsimp only
      split_ifs
      · exact silent_forward _ _
      · exact silent_nil
      · exact hown (silent_flatMap
          (m := fun id => .objectMovePs { packet with sectorId := id }) _ (fun _ => rfl) _)
      · exact hown silent_nil

theorem silent_removeCharacter (source : Nat) (packet : RemoveCharacterRq) :
    Silent (w.removeCharacter source packet).posts := by
  have hown : ∀ {posts : List Posting}, Silent posts → Silent
      ([.toServer source
          (.removeCharacterRs packet.userId packet.sectorId packet.objectId .None),
        .toSectorWithout source (.removeObjectPs packet.sectorId packet.objectId)
          packet.sectorId] ++ posts) := by
    refine silent_answer ?_ ?_
    · rintro _ ⟨⟩
      rfl
    · rintro _ ⟨⟩
      rfl
  have hreply : ∀ error, Silent [.reply
      (.removeCharacterRs packet.userId packet.sectorId packet.objectId error)] := by
    intro error
    refine silent_nil.cons ?_
    rintro _ ⟨⟩
    rfl
  unfold World.removeCharacter
  split
  · exact hreply _
  · dsimp only
    split
    · split_ifs
      · exact silent_forward _ _
      · exact hreply _
    · split_ifs
      · exact silent_forward _ _
      · exact silent_nil
      · exact hown (silent_flatMap (m := fun id => .removeObjectPs id packet.objectId) _
          (fun _ => rfl) _)
      · exact hown silent_nil

/-- Only a promotion is announced by its handler. -/
theorem silent_handle (source : Nat) {packet : PlayPacket} (h : packet.isPromote = false)
    (now : Milliseconds) : Silent (w.handle source packet now).posts := by
  cases packet with
  | createObservingObjectRq s info =>
      have hnil : (w.handle source (.createObservingObjectRq s info) now).posts = [] := by
        unfold World.handle World.createObservingObject
        dsimp only
        split
        · rfl
        · split
          · rfl
          · split <;> rfl
      rw [hnil]
      exact silent_nil
  | removeObservingObjectRq x o =>
      have hnil : (w.handle source (.removeObservingObjectRq x o) now).posts = [] := by
        unfold World.handle World.removeObservingObject
        dsimp only
        split
        · rfl
        · split
          · rfl
          · split_ifs <;> rfl
      rw [hnil]
      exact silent_nil
  | promoteObjectRq s info =>
      cases h
  | characterMoveRq packet =>
      exact silent_moveObject source packet
  | removeCharacterRq packet =>
      exact silent_removeCharacter source packet

/-- A promotion is announced exactly if it makes an owner. -/
theorem promoteObservingObject_announces (w : World) (s : Nat) (info : ObjectInfo)
    (now : Milliseconds) :
    ((w.promoteObservingObject s info now).posts = [] ∧
        (w.promoteObservingObject s info now).world.fixtureAt info.sectorId info.objectId = none) ∨
      ∃ rest f, (w.promoteObservingObject s info now).posts =
          .toSector (.promoteObjectRq s info) s :: rest ∧ Silent rest ∧
        (w.promoteObservingObject s info now).world.fixtureAt info.sectorId info.objectId = some f ∧
        f.isObservingFixture = false := by
  cases hid : w.sectorIdAt info.sectorId with
  | none =>
      obtain ⟨w', hw', hsame⟩ := World.sectorAt_of_sectorIdAt_none hid
      refine .inl ?_
      unfold World.promoteObservingObject
      rw [hw']
      exact ⟨rfl, (hsame.fixtures _ _).trans (World.fixtureAt_of_sectorIdAt_none hid _)⟩
  | some id =>
      obtain ⟨sector, hfind, _⟩ := World.find_of_sectorIdAt hid
      have hfix := World.fixtureAt_of_find hfind info.objectId
      cases hf : sector.getFixture info.objectId with
      | none =>
          refine .inl ?_
          simp only [World.promoteObservingObject, World.sectorAt_of_find hfind, hf]
          exact ⟨trivial, hfix.trans hf⟩
      | some f =>
          have hwritten := (World.writes_setFixture (o := info.objectId) hfind
            (promotedOwner info now)).fixtures info.sectorId info.objectId
          rw [if_pos ⟨rfl, rfl⟩] at hwritten
          have heq := World.promoteObservingObject_of_fixture (s := s) hfind hf now
          refine .inr ?_
          split_ifs at heq
          · exact ⟨[], _, by rw [heq], silent_nil, by rw [heq]; exact hwritten, rfl⟩
          · exact ⟨[], _, by rw [heq], silent_nil, by rw [heq]; exact hwritten, rfl⟩
          · exact ⟨_, _, by rw [heq]; rfl, silent_exchange _ _ _ _ _ _,
              by rw [heq]; exact hwritten, rfl⟩

theorem silent_settle {change : World.Change} (h : Silent change.posts) (location : FixtureLocation)
    (phase : Direction) : Silent (change.settle location phase).posts := by
  unfold World.Change.settle
  split
  · exact h
  · exact h

theorem silent_onChangeFixtureLocation (x : Nat) (f : Fixture) (location : FixtureLocation)
    (phase : Direction) (now : Milliseconds) :
    Silent (World.onChangeFixtureLocation x f location phase now).posts := by
  have hpromote : ∀ (info : ObjectInfo) (d : Nat),
      Silent [.toSectorOwner (.promoteObjectRq x info) d] := by
    intro info d
    refine silent_nil.cons ?_
    intro _ h
    cases h
  unfold World.onChangeFixtureLocation
  dsimp only
  split_ifs
  · exact silent_exchange _ _ _ _ _ _
  · exact (silent_exchange _ _ _ _ _ _).append silent_nil
  · exact (silent_exchange _ _ _ _ _ _).append (silent_sendCreate _ _ _)
  · exact ((silent_exchange _ _ _ _ _ _).append silent_nil).append (hpromote _ _)
  · exact ((silent_exchange _ _ _ _ _ _).append (silent_sendCreate _ _ _)).append (hpromote _ _)

theorem silent_updateFixture (x : Nat) (f : Fixture) (clock : World.Clock) :
    Silent (World.updateFixture x f clock).posts := by
  have hphase : ∀ g : Fixture, ∀ phase, Silent (World.onChangeFixturePhase x g phase).posts := by
    intro g phase
    unfold World.onChangeFixturePhase
    split_ifs
    · exact silent_exchange _ _ _ _ _ _
    · exact silent_nil
  unfold World.updateFixture
  dsimp only
  split_ifs
  · exact silent_nil
  · exact silent_nil
  · unfold World.transform
    dsimp only
    split
    · split_ifs
      · exact silent_settle (silent_onChangeFixtureLocation _ _ _ _ _) _ _
      · exact silent_nil
    · split_ifs
      · exact silent_settle (silent_onChangeFixtureLocation _ _ _ _ _) _ _
      · exact silent_settle (silent_onChangeFixtureLocation _ _ _ _ _) _ _
      · exact silent_settle (hphase _ _) _ _
      · exact silent_nil
      · exact silent_nil
    · exact silent_nil

/-- An update announces nothing: an object that leaves is announced by the server it goes to. -/
theorem silent_update (clock : World.Clock) : Silent (w.update clock).posts := by
  have hobject : ∀ x w o, Silent (World.updateObject clock x w o).posts := by
    intro x w o
    unfold World.updateObject
    split
    · split
      · exact silent_nil
      · exact silent_updateFixture _ _ _
    · exact silent_nil
  refine silent_foldOutcome (fun w x => ?_) _ _
  unfold World.updateSector
  split
  · exact silent_foldOutcome (hobject x) _ _
  · exact silent_nil

/-- The postings of a spawn under an id that is not taken. -/
theorem spawnCharacter_posts {packet : SpawnCharacterRq} {sector : SectorSystem} (source : Nat)
    (now : Milliseconds) (h : w.sectors.find packet.sectorId = some (some sector))
    (hnone : w.fixtureAt packet.sectorId sector.currentFixtureId = none) :
    (w.spawnCharacter source packet now).posts =
      [.toServer source (.spawnCharacterRs packet.userId
        (some ⟨sector.currentFixtureId, sector.sectorId,
          World.spawnedFixture sector.currentFixtureId sector.sectorId packet now⟩) .None),
       .toSectorWithout source (.createObjectPs
        ⟨sector.currentFixtureId, sector.sectorId,
          World.spawnedFixture sector.currentFixtureId sector.sectorId packet now⟩)
        packet.sectorId] := by
  have hfind : sector.fixtures.find sector.currentFixtureId = none := by
    rw [World.fixtureAt_of_find h] at hnone
    exact hnone
  simp only [World.spawnCharacter, World.sectorAt_of_find h, SectorSystem.createFixture,
    SectorSystem.getFixture, hfind]
  rfl

end Silent

/-! ## Where an object is -/

/-- The owner is in the sector, or has been promoted away from it. -/
structure Located (v : View) (x : Nat) : Prop where
  owner : ∀ y, isOwner (v.copies y) = true → y = x
  promoted : ∀ s info, .promoteObjectRq s info ∈ v.queue → s = x

section Located

variable {D : Deployment} {v v' : View} {x : Nat}

theorem Located.write (h : Located v x) {y : Nat} {F : Option Fixture} {packets : List PlayPacket}
    (howner : isOwner F = true → isOwner (v.copies y) = true)
    (hpackets : ∀ s info, .promoteObjectRq s info ∈ packets → s = x) :
    Located (v.write y F packets) x := by
  refine ⟨fun z hz => ?_, fun s info hmem => ?_⟩
  · rw [SingleOwner.copies_write] at hz
    split_ifs at hz with hzy
    · exact hzy ▸ h.owner y (howner hz)
    · exact h.owner z hz
  · rcases List.mem_append.1 hmem with hmem | hmem
    · exact h.promoted s info hmem
    · exact hpackets s info hmem

theorem Located.pop (h : Located v x) {early rest : List PlayPacket} {packet : PlayPacket}
    (hqueue : v.queue = early ++ packet :: rest) :
    Located { v with queue := early ++ rest } x := by
  refine ⟨h.owner, fun s info hmem => h.promoted s info ?_⟩
  rw [hqueue]
  rcases List.mem_append.1 hmem with hmem | hmem
  · exact List.mem_append_left _ hmem
  · exact List.mem_append_right _ (List.mem_cons_of_mem _ hmem)

/-- An object with an owner is located there, if it has no other. -/
theorem located_of_owner (h : SingleOwner v) (howner : isOwner (v.copies x) = true) :
    Located v x := by
  refine ⟨fun y hy => h.single y x hy howner, fun s info hmem => ?_⟩
  have hnone := h.handOver x howner
  have hpromotion : .promoteObjectRq s info ∈ promotions v.queue := List.mem_filter.2 ⟨hmem, rfl⟩
  rw [hnone] at hpromotion
  cases hpromotion

/-- A packet that is handled posts no promotion. -/
theorem Reaction.not_mem_promotion {now : Milliseconds} {packet : PlayPacket}
    {F F' : Option Fixture} {packets : List PlayPacket} {fault : Option Fault}
    (h : Reaction now packet F F' packets fault) (s : Nat) (info : ObjectInfo) :
    .promoteObjectRq s info ∉ D.sent packets := by
  intro hmem
  have hpromotion : .promoteObjectRq s info ∈ promotions packets :=
    List.mem_filter.2 ⟨(D.mem_sent.1 hmem).1, rfl⟩
  rw [h.promotions_eq_nil] at hpromotion
  cases hpromotion

/-- The acts that do not change where an object is. -/
def Stationary : View.Act → Prop
  | .spawn _ _ => False
  | .deliver _ packet => packet.isPromote = false
  | _ => True

theorem Located.step {act : View.Act} {fault : Option Fault} (h : Located v x)
    (hact : Stationary act) (hstep : View.Step D v act v' fault) : Located v' x := by
  cases hstep with
  | spawned _ _ =>
      exact hact.elim
  | spawnRefused _ =>
      exact hact.elim
  | moveRequested _ hreaction =>
      exact h.write (hreaction.isOwner rfl) fun s info hmem =>
        absurd hmem (hreaction.not_mem_promotion s info)
  | removeRequested _ hreaction =>
      have hwrite := h.write (hreaction.isOwner rfl) fun s info hmem =>
        absurd hmem (hreaction.not_mem_promotion (D := D) s info)
      exact ⟨hwrite.owner, hwrite.promoted⟩
  | delivered hqueue _ hreaction =>
      exact (h.pop hqueue).write (hreaction.isOwner hact) fun s info hmem =>
        absurd hmem (hreaction.not_mem_promotion s info)
  | dropped hqueue _ =>
      exact h.pop hqueue
  | @round y f f' deltaTime packets _ _ hf hround =>
      refine h.write (fun howner => ?_) fun s info hmem => ?_
      · rcases hround.isOwner with ⟨hsame, _⟩ | ⟨_, hobs', _⟩
        · rw [Fixture.move_isObservingFixture] at hsame
          simpa [isOwner, hf, hsame] using howner
        · simp [isOwner, hobs'] at howner
      · -- a promotion comes from the sector of its owner
        have hmem' := (D.mem_sent.1 hmem).1
        have hs : s = y := hround.forall_mem
          (P := fun q => ∀ s info, q = .promoteObjectRq s info → s = y)
          (fun _ _ _ heq => by cases heq) (fun _ _ _ _ _ heq => by cases heq)
          (fun _ _ _ _ _ heq => by cases heq; rfl) _ hmem' s info rfl
        rcases hround.isOwner with ⟨_, hnone⟩ | ⟨howner, _, _⟩
        · have hpromotion : .promoteObjectRq s info ∈ promotions packets :=
            List.mem_filter.2 ⟨hmem', rfl⟩
          rw [hnone] at hpromotion
          cases hpromotion
        · rw [Fixture.move_isObservingFixture] at howner
          rw [hs]
          refine h.owner y ?_
          simp [isOwner, hf, howner]

/-- A promotion that is delivered makes an owner where it goes, or there is none. -/
theorem relocated (h : SingleOwner v) {early : List PlayPacket} {packet : PlayPacket}
    {fault : Option Fault} (hpromote : packet.isPromote = true)
    (hstep : View.Step D v (.deliver early packet) v' fault) (x : Nat) :
    (isOwner (v'.copies packet.sectorId) = true → Located v' packet.sectorId) ∧
      (isOwner (v'.copies packet.sectorId) = false → Located v' x) := by
  have hspawns : SpawnsFresh v (.deliver early packet) := trivial
  have hsingle := h.step hspawns hstep
  refine ⟨located_of_owner hsingle, fun hnone => ?_⟩
  have hgone : promotions v'.queue = [] ∧ ∀ y, isOwner (v'.copies y) = false := by
    cases hstep with
    | delivered hqueue _ hreaction =>
        obtain ⟨hrest, hnoOwner, _⟩ := h.pop_promotion hqueue hpromote
        refine ⟨?_, fun y => ?_⟩
        · change promotions ((_ ++ _) ++ D.sent _) = []
          rw [promotions_append, hrest, promotions_sent_eq_nil D hreaction.promotions_eq_nil]
          rfl
        · by_cases hy : y = packet.sectorId
          · rw [hy]
            exact hnone
          · rw [SingleOwner.copies_write, if_neg hy]
            exact hnoOwner y
    | dropped hqueue _ =>
        obtain ⟨hrest, hnoOwner, _⟩ := h.pop_promotion hqueue hpromote
        exact ⟨hrest, hnoOwner⟩
  refine ⟨fun y hy => ?_, fun s info hmem => ?_⟩
  · rw [hgone.2 y] at hy
    cases hy
  · have hpromotion : .promoteObjectRq s info ∈ promotions v'.queue :=
      List.mem_filter.2 ⟨hmem, rfl⟩
    rw [hgone.1] at hpromotion
    cases hpromotion

end Located

namespace Cluster

variable {D : Deployment} {c c' : Cluster}

/-- The event changes where the object is. -/
def Relocates (c : Cluster) (o : Nat) : Event → Prop
  | .spawn k _ packet _ => c.nextFixtureId k packet.sectorId = some o
  | .deliver index _ => ∃ e, c.channelHead index = some e ∧ e.packet.isPromote = true ∧
      e.packet.objectId = o
  | _ => False

theorem located_next (hsound : Sound D c) {place : Nat → Nat}
    (h : ∀ o, Located (c.view D o) (place o)) {e : Event} (hstep : (machine D).step c e c') :
    ∀ o, ¬ c.Relocates o e → Located (c'.view D o) (place o) := by
  have hholding : Holding D (fun o v => ¬ c.Relocates o e → Located v (place o)) (fun _ => True) c :=
    ⟨hsound, fun o _ => h o, fun _ _ _ => trivial⟩
  refine (hholding.step (.inl trivial) ?_ hstep).views
  intro o act v v' fault hpermits _ hv hview
  refine ⟨fun hnot => (hv hnot).step ?_ hview, fun _ _ => trivial⟩
  cases e with
  | spawn k agency packet now =>
      exact absurd hpermits.1 hnot
  | move k agency packet =>
      rw [hpermits.2]
      exact trivial
  | remove k agency packet =>
      rw [hpermits.2]
      exact trivial
  | update k clock =>
      obtain ⟨_, rfl⟩ := hpermits
      exact trivial
  | deliver index now =>
      obtain ⟨e, hhead, ho, rfl⟩ := hpermits
      by_contra hpromote
      exact hnot ⟨e, hhead, Bool.of_not_eq_false hpromote, ho⟩
  | rehashSectors k order =>
      exact hpermits.elim
  | rehashFixtures k x order =>
      exact hpermits.elim

/-- A promotion that is delivered comes from where the object was.  If it makes an owner, this is
announced, and the object is where the promotion went. -/
theorem promotion_announced (h : ((machine D).restrict assignsFreshId).Reachable c)
    {place : Nat → Nat} (hplace : ∀ o, Located (c.view D o) (place o)) {index : Nat} {e : Envelope}
    (hhead : c.channelHead index = some e) {s : Nat} {info : ObjectInfo}
    (hpacket : e.packet = .promoteObjectRq s info) (now : Milliseconds) :
    s = place info.objectId ∧
      ((((c.worlds e.target).handle e.source e.packet now).posts = [] ∧
          ∀ o, Located ((c.next D (.deliver index now)).view D o) (place o)) ∨
        ∃ rest, ((c.worlds e.target).handle e.source e.packet now).posts =
            .toSector (.promoteObjectRq s info) s :: rest ∧ Silent rest ∧
          info.sectorId ∈ D.sectorsOf e.target ∧
          ∀ o, Located ((c.next D (.deliver index now)).view D o)
            (Function.update place info.objectId info.sectorId o)) := by
  have hsingle := holding_singleOwner h
  have hqueue := queue_of_channelHead hhead (D := D)
  have ho : e.packet.objectId = info.objectId := by rw [hpacket]; rfl
  have hx : e.packet.sectorId = info.sectorId := by rw [hpacket]; rfl
  have hpromote : e.packet.isPromote = true := by rw [hpacket]; rfl
  have hs : s = place info.objectId := by
    refine (hplace info.objectId).promoted s info ?_
    rw [← hpacket, ← ho, hqueue]
    exact List.mem_append_right _ List.mem_cons_self
  refine ⟨hs, ?_⟩
  have hmem : e ∈ c.flight := by
    rw [flight_of_channelHead hhead]
    exact List.mem_append_right _ List.mem_cons_self
  have howner := hsingle.sound.routed e hmem
  rw [hx] at howner
  let c' := c.next D (.deliver index now)
  have hc' : c' = { c with flight := c.flight.eraseIdx index }.absorb D e.target
      ((c.worlds e.target).handle e.source e.packet now) := by
    simp only [c', next, hhead]
  -- the other objects stay where they are; where this one is depends on whether an owner was made,
  -- which the handler has decided
  have hnext : Holding D (fun o v => (o ≠ info.objectId → Located v (place o)) ∧
      (o = info.objectId → (isOwner (v.copies info.sectorId) = true → Located v info.sectorId) ∧
        (isOwner (v.copies info.sectorId) = false → Located v (place o)))) (fun _ => True) c' := by
    refine hsingle.sound.deliver hsingle.faults (fun o ho' => ?_) fun e' v' hhead' hstep => ?_
    · have hne := ho' e hhead
      rw [ho] at hne
      exact ⟨fun _ => hplace o, fun heq => absurd heq hne⟩
    · rw [hhead] at hhead'
      cases hhead'
      have hrelocated := relocated (hsingle.views _) hpromote hstep (place e.packet.objectId)
      rw [hx] at hrelocated
      exact ⟨⟨fun hne => absurd ho hne, fun _ => hrelocated⟩, fun _ _ => trivial⟩
  have hcopy : (c'.view D info.objectId).copies info.sectorId =
      ((c.worlds e.target).handle e.source e.packet now).world.fixtureAt info.sectorId
        info.objectId := by
    simp only [view, howner]
    rw [hc', fixtureAt_absorb, if_pos rfl]
  have hviews := hnext.views
  have hat := hnext.sound.sectors e.target info.sectorId
  rw [hc', worlds_absorb_self] at hat
  rw [hpacket] at hcopy hat ⊢
  -- the handler finds no copy to promote, or makes the owner and says so first
  rcases promoteObservingObject_announces (c.worlds e.target) s info now with
    ⟨hposts, hnone⟩ | ⟨rest, f, hposts, hsilent, hf, hobs⟩
  · refine .inl ⟨hposts, fun o => ?_⟩
    by_cases hoi : o = info.objectId
    · subst hoi
      refine ((hviews info.objectId).2 rfl).2 ?_
      rw [hcopy]
      exact congrArg isOwner hnone
    · exact (hviews o).1 hoi
  · refine .inr ⟨rest, hposts, hsilent, ?_, fun o => ?_⟩
    · by_contra hnot
      rw [if_neg hnot] at hat
      have hnone := World.fixtureAt_of_sectorIdAt_none hat info.objectId
      rw [World.handle, hf] at hnone
      cases hnone
    · by_cases hoi : o = info.objectId
      · subst hoi
        rw [Function.update_self]
        refine ((hviews info.objectId).2 rfl).1 ?_
        rw [hcopy]
        refine (congrArg isOwner hf).trans ?_
        simp [isOwner, hobs]
      · rw [Function.update_of_ne hoi]
        exact (hviews o).1 hoi

/-- A spawn in a sector of the server is announced to the agency that asked for it, under an id that
is where the spawn was. -/
theorem spawn_announced (h : ((machine D).restrict assignsFreshId).Reachable c)
    {place : Nat → Nat} (hplace : ∀ o, Located (c.view D o) (place o)) {k agency : Nat}
    {packet : SpawnCharacterRq} {now : Milliseconds} (hx : packet.sectorId ∈ D.sectorsOf k)
    (hfresh : c.assignsFreshId (.spawn k agency packet now))
    (hstep : (machine D).step c (.spawn k agency packet now) c') :
    ∃ info : ObjectInfo, c.nextFixtureId k packet.sectorId = some info.objectId ∧
      info.sectorId = packet.sectorId ∧
      ((c.worlds k).spawnCharacter agency packet now).posts =
        [.toServer agency (.spawnCharacterRs packet.userId (some info) .None),
         .toSectorWithout agency (.createObjectPs info) packet.sectorId] ∧
      ∀ o, Located (c'.view D o) (Function.update place info.objectId packet.sectorId o) := by
  have hsingle := holding_singleOwner h
  obtain ⟨sector, hfind, hsector⟩ := World.find_of_sectorIdAt (hsingle.sound.sectorIdAt hx)
  have hnext : c.nextFixtureId k packet.sectorId = some sector.currentFixtureId := by
    simp [nextFixtureId, hfind]
  have hissued : (c.view D sector.currentFixtureId).issued = false := by
    simpa [view] using hfresh _ hnext
  have hblank := (hsingle.views sector.currentFixtureId).blank hissued
  have hnone : (c.worlds k).fixtureAt packet.sectorId sector.currentFixtureId = none := by
    rw [← view_copies hx]
    exact hblank.1 _
  refine ⟨_, hnext, hsector, spawnCharacter_posts agency now hfind hnone, fun o => ?_⟩
  have hholding : Holding D (fun o v => SingleOwner v ∧
      Located v (Function.update place sector.currentFixtureId packet.sectorId o))
      (fun _ => True) c := by
    refine ⟨hsingle.sound, fun o => ⟨hsingle.views o, ?_⟩, hsingle.faults⟩
    by_cases ho : o = sector.currentFixtureId
    · -- nothing is known of it yet
      rw [ho]
      refine ⟨fun y hy => ?_, fun s info hmem => ?_⟩
      · rw [hblank.1] at hy
        cases hy
      · cases hblank.2 _ hmem
    · rw [Function.update_of_ne ho]
      exact hplace o
  refine ((hholding.step (.inl trivial) ?_ hstep).views o).2
  rintro o act v v' fault ⟨hid, rfl⟩ hv ⟨hsingle, hlocated⟩ hview
  obtain rfl : sector.currentFixtureId = o := Option.some.inj (hnext.symm.trans hid)
  have hspawns := spawnsFresh_of_assignsFreshId hfresh ⟨hid, rfl⟩ hv
  have hsingle' := hsingle.step hspawns hview
  refine ⟨⟨hsingle', ?_⟩, fun _ _ => trivial⟩
  cases hview with
  | spawned _ _ =>
      rw [Function.update_self]
      refine located_of_owner hsingle' ?_
      change isOwner ((v.write packet.sectorId _ []).copies packet.sectorId) = true
      rw [SingleOwner.copies_write, if_pos rfl]
      rfl
  | spawnRefused _ =>
      exact ⟨hlocated.owner, hlocated.promoted⟩

end Cluster

/-! ## Objects are not lost -/

/-- The object has an owner or is being promoted. -/
def Present (v : View) : Prop :=
  (∃ x, isOwner (v.copies x) = true) ∨ ∃ q ∈ v.queue, q.isPromote = true

/-- A packet that does not remove its object, and that promotes it to a sector of the grid only. -/
structure Spares (q : PlayPacket) : Prop where
  remove : ∀ packet, q ≠ .removeCharacterRq packet
  promote : q.isPromote = true → q.sectorId < sectorCount

theorem getSectorByPosition_lt {position : Vector2}
    (h : getSectorByPosition position ≠ invalidSector) :
    getSectorByPosition position < sectorCount := by
  have hgrid : ∀ row column : Int, 0 ≤ row → row < 5 → 0 ≤ column → column < 5 →
      (sectorGridAt row column).sectorId < sectorCount := by
    intro row column hr hr' hc hc'
    rw [sectorGridAt_sectorId hr hr' hc hc', sectorCount]
    omega
  unfold getSectorByPosition at h ⊢
  dsimp only at h ⊢
  split_ifs at h ⊢ with hout
  · exact absurd rfl h
  · simp only [not_or, not_le, not_lt, sectorGridHeight, sectorGridWidth] at hout
    exact hgrid _ _ hout.2.1 hout.1 hout.2.2.2 hout.2.2.1

theorem Reaction.spares {now : Milliseconds} {packet : PlayPacket} {F F' : Option Fixture}
    {packets : List PlayPacket} {fault : Option Fault} (h : Reaction now packet F F' packets fault)
    (hremove : ∀ request, packet ≠ .removeCharacterRq request) : ∀ q ∈ packets, Spares q := by
  have hother : ∀ q : PlayPacket, (∀ packet, q ≠ .removeCharacterRq packet) → q.isPromote = false →
      Spares q := by
    intro q hq hpromote
    refine ⟨hq, fun h => ?_⟩
    rw [hpromote] at h
    cases h
  cases h with
  | promotedFar s info f _ _ =>
      exact forall_mem_exchangePackets (fun _ => hother _ (fun _ h => by cases h) rfl)
        (fun _ => hother _ (fun _ h => by cases h) rfl)
  | moveForwarded packet x _ _ =>
      intro q hq
      rw [List.mem_singleton.1 hq]
      exact hother _ (fun _ h => by cases h) rfl
  | ownerMoved packet _ =>
      exact forall_mem_fanOut fun _ => hother _ (fun _ h => by cases h) rfl
  | removeForwarded packet x _ _ =>
      exact absurd rfl (hremove packet)
  | ownerRemoved packet _ =>
      exact absurd rfl (hremove packet)
  | _ =>
      intro q hq
      cases hq

theorem Round.spares {x : Nat} {f f' : Fixture} {packets : List PlayPacket} {fault : Option Fault}
    (h : Round x f f' packets fault) : ∀ q ∈ packets, Spares q := by
  have hremove := h.forall_mem (P := fun q => ∀ packet, q ≠ .removeCharacterRq packet)
    (fun _ _ h => by cases h) (fun _ _ _ _ h => by cases h) (fun _ _ _ _ h => by cases h)
  have hnone : ∀ {info : ObjectInfo} {p q : Direction} {s d : Nat} {location : FixtureLocation},
      ∀ packet ∈ exchangePackets info p s location q d, packet.isPromote = true →
        packet.sectorId < sectorCount := by
    intro info p q s d location packet hmem hpromote
    rw [exchangePackets_noPromotion packet hmem] at hpromote
    cases hpromote
  refine fun q hq => ⟨hremove q hq, fun hpromote => ?_⟩
  cases h with
  | still =>
      cases hq
  | phaseCleared _ _ _ =>
      cases hq
  | phaseChanged _ _ _ =>
      exact hnone q hq hpromote
  | locationChanged _ _ _ =>
      exact hnone q hq hpromote
  | left now _ _ hdest =>
      rcases List.mem_append.1 hq with hq | hq
      · rcases List.mem_append.1 hq with hq | hq
        · exact hnone q hq hpromote
        · split_ifs at hq
          · cases hq
          · rw [List.mem_singleton.1 hq] at hpromote
            cases hpromote
      · rw [List.mem_singleton.1 hq]
        exact getSectorByPosition_lt hdest
  | lost _ _ _ _ =>
      exact hnone q hq hpromote

/-- An object that is not to be removed, and that is there once it has been spawned. -/
structure Kept (v : View) : Prop where
  single : SingleOwner v
  spares : ∀ q ∈ v.queue, Spares q
  present : v.issued = true → Present v

/-- The acts that remove no object and assign no id twice. -/
def Harmless (v : View) : View.Act → Prop
  | .spawn _ f => v.issued = false ∧ f.isObservingFixture = false
  | .request (.removeCharacterRq _) => False
  | _ => True

/-- The object is not lost: a promotion finds a copy of it, and a round finds it in the world. -/
def Lossless (v : View) : View.Act → Option Fault → Prop
  | .deliver _ packet, _ => packet.isPromote = true → v.copies packet.sectorId ≠ none
  | .round _ _, fault => fault ≠ some .noDestination
  | _, _ => True

section Kept

variable {D : Deployment} {v v' : View}

theorem Present.write (h : Present v) {x : Nat} {F : Option Fixture} {packets : List PlayPacket}
    (hF : isOwner (v.copies x) = true →
      isOwner F = true ∨ ∃ q ∈ packets, q.isPromote = true) :
    Present (v.write x F packets) := by
  rcases h with ⟨y, hy⟩ | ⟨q, hq, hpromote⟩
  · by_cases hyx : y = x
    · subst hyx
      rcases hF hy with hF | ⟨q, hq, hpromote⟩
      · refine .inl ⟨y, ?_⟩
        rw [SingleOwner.copies_write, if_pos rfl]
        exact hF
      · exact .inr ⟨q, List.mem_append_right _ hq, hpromote⟩
    · refine .inl ⟨y, ?_⟩
      rw [SingleOwner.copies_write, if_neg hyx]
      exact hy
  · exact .inr ⟨q, List.mem_append_left _ hq, hpromote⟩

/-- An owner stays one if it is not removed, nor replaced by a promotion. -/
theorem Reaction.keeps_owner {now : Milliseconds} {packet : PlayPacket} {F F' : Option Fixture}
    {packets : List PlayPacket} {fault : Option Fault} (h : Reaction now packet F F' packets fault)
    (hremove : ∀ request, packet ≠ .removeCharacterRq request)
    (hpromote : packet.isPromote = false) (howner : Game.isOwner F = true) :
    Game.isOwner F' = true := by
  -- what could end an owner is excluded: a creation finds it, a copy's removal passes it by, and
  -- the rest is no such packet
  cases h with
  | created _ _ =>
      simp [Game.isOwner] at howner
  | removed _ _ hobs =>
      simp [Game.isOwner, hobs] at howner
  | objectExists _ _ _ =>
      exact howner
  | observerNotFound _ _ _ =>
      exact howner
  | promotedNotFound _ _ =>
      cases hpromote
  | promotedOutside _ _ _ _ =>
      cases hpromote
  | promotedNear _ _ _ _ _ =>
      cases hpromote
  | promotedFar _ _ _ _ _ =>
      cases hpromote
  | moveForwarded packet x _ _ =>
      rw [Game.isOwner, Option.any_map]
      exact howner
  | moveOwnerUnknown packet _ _ =>
      rw [Game.isOwner, Option.any_map]
      exact howner
  | copyNotFound _ _ =>
      exact howner
  | copyMoved _ _ _ =>
      exact howner
  | ownerMoved _ _ =>
      exact howner
  | removeForwarded packet _ _ _ =>
      exact absurd rfl (hremove packet)
  | removeOwnerUnknown packet _ _ =>
      exact absurd rfl (hremove packet)
  | removeNotFound packet _ =>
      exact absurd rfl (hremove packet)
  | copyRemoved packet _ _ =>
      exact absurd rfl (hremove packet)
  | ownerRemoved packet _ =>
      exact absurd rfl (hremove packet)

/-- A promotion that finds a copy makes an owner. -/
theorem Reaction.promotes {now : Milliseconds} {packet : PlayPacket} {F F' : Option Fixture}
    {packets : List PlayPacket} {fault : Option Fault} (h : Reaction now packet F F' packets fault)
    (hpromote : packet.isPromote = true) (hcopy : F ≠ none) : Game.isOwner F' = true := by
  cases h with
  | promotedNotFound _ _ =>
      exact absurd rfl hcopy
  | promotedOutside _ _ _ _ =>
      rfl
  | promotedNear _ _ _ _ _ =>
      rfl
  | promotedFar _ _ _ _ _ =>
      rfl
  | _ =>
      cases hpromote

theorem Kept.step (hD : D.Complete) (h : Kept v) {act : View.Act} {fault : Option Fault}
    (hact : Harmless v act) (hstep : View.Step D v act v' fault) (hlossless : Lossless v act fault) :
    Kept v' := by
  have hfresh : SpawnsFresh v act := by
    cases act with
    | spawn x f =>
        exact hact.1
    | request | deliver | round =>
        exact trivial
  have hsent : ∀ {packets : List PlayPacket}, (∀ q ∈ packets, Spares q) →
      ∀ q ∈ v.queue ++ D.sent packets, Spares q := by
    intro packets hpackets q hq
    rcases List.mem_append.1 hq with hq | hq
    · exact h.spares q hq
    · exact hpackets q (D.mem_sent.1 hq).1
  refine ⟨h.single.step hfresh hstep, ?_, ?_⟩
  · cases hstep with
    | spawned _ _ =>
        simpa [View.write] using h.spares
    | spawnRefused _ =>
        exact h.spares
    | moveRequested _ hreaction =>
        exact hsent (hreaction.spares fun _ h => by cases h)
    | removeRequested _ _ =>
        exact hact.elim
    | @delivered early rest packet _ _ packets _ hqueue _ hreaction =>
        have hpacket := h.spares packet (by simp [hqueue])
        intro q hq
        rcases List.mem_append.1 hq with hq | hq
        · refine h.spares q ?_
          rw [hqueue]
          rcases List.mem_append.1 hq with hq | hq
          · exact List.mem_append_left _ hq
          · exact List.mem_append_right _ (List.mem_cons_of_mem _ hq)
        · exact hreaction.spares hpacket.remove q (D.mem_sent.1 hq).1
    | @dropped early rest packet hqueue _ =>
        intro q hq
        refine h.spares q ?_
        rw [hqueue]
        rcases List.mem_append.1 hq with hq | hq
        · exact List.mem_append_left _ hq
        · exact List.mem_append_right _ (List.mem_cons_of_mem _ hq)
    | round _ _ hround =>
        exact hsent hround.spares
  · cases hstep with
    | @spawned x f _ _ =>
        intro _
        refine .inl ⟨x, ?_⟩
        change isOwner ((v.write x (some f) []).copies x) = true
        rw [SingleOwner.copies_write, if_pos rfl]
        simp [isOwner, hact.2]
    | spawnRefused hsome =>
        -- the id is new, so there is no such fixture
        rw [(h.single.blank hact.1).1] at hsome
        cases hsome
    | moveRequested _ hreaction =>
        intro hissued
        exact (h.present hissued).write fun howner =>
          .inl (hreaction.keeps_owner (fun _ h => by cases h) rfl howner)
    | removeRequested _ _ =>
        exact hact.elim
    | @delivered early rest packet now F packets fault hqueue _ hreaction =>
        intro hissued
        have hpacket := h.spares packet (by simp [hqueue])
        cases hpromote : packet.isPromote with
        | true =>
            refine .inl ⟨packet.sectorId, ?_⟩
            rw [SingleOwner.copies_write, if_pos rfl]
            exact hreaction.promotes hpromote (hlossless hpromote)
        | false =>
            have hpresent : Present { v with queue := early ++ rest } := by
              rcases h.present hissued with howner | ⟨q, hq, hq'⟩
              · exact .inl howner
              · refine .inr ⟨q, ?_, hq'⟩
                rw [hqueue] at hq
                rcases List.mem_append.1 hq with hq | hq
                · exact List.mem_append_left _ hq
                · rcases List.mem_cons.1 hq with rfl | hq
                  · rw [hpromote] at hq'
                    cases hq'
                  · exact List.mem_append_right _ hq
            exact hpresent.write fun howner =>
              .inl (hreaction.keeps_owner hpacket.remove hpromote howner)
    | @dropped early rest packet hqueue hx =>
        intro hissued
        rcases h.present hissued with howner | ⟨q, hq, hq'⟩
        · exact .inl howner
        · refine .inr ⟨q, ?_, hq'⟩
          rw [hqueue] at hq
          rcases List.mem_append.1 hq with hq | hq
          · exact List.mem_append_left _ hq
          · rcases List.mem_cons.1 hq with rfl | hq
            · -- a promotion goes to a sector of the grid, which some server runs
              have hgrid := (h.spares q (by simp [hqueue])).promote hq'
              obtain ⟨k, hk⟩ := hD q.sectorId hgrid
              exact absurd ⟨k, D.mem_sectorsOf.2 ⟨hgrid, hk⟩⟩ hx
            · exact List.mem_append_right _ hq
    | @round x f f' deltaTime packets fault _ hf hround =>
        intro hissued
        refine (h.present hissued).write fun howner => ?_
        have hspares := hround.spares
        have hnone : fault ≠ some .noDestination := hlossless
        rw [hf] at howner
        have hobs : f.isObservingFixture = false := by simpa [isOwner] using howner
        rcases hround.isOwner with ⟨hsame, _⟩ | ⟨_, hobs', _⟩
        · rw [Fixture.move_isObservingFixture, hobs] at hsame
          exact .inl (by simp [isOwner, hsame])
        · -- the fixture has left its sector
          cases hround with
          | left now _ _ _ =>
              refine .inr ⟨_, D.mem_sent.2 ⟨List.mem_append_right _ List.mem_cons_self, ?_⟩, rfl⟩
              exact hD _ ((hspares _ (List.mem_append_right _ List.mem_cons_self)).promote rfl)
          | lost _ _ _ _ =>
              exact absurd rfl hnone
          | still =>
              rw [Fixture.move_isObservingFixture, hobs] at hobs'
              cases hobs'
          | phaseCleared _ _ _ =>
              simp [hobs] at hobs'
          | phaseChanged _ _ _ =>
              simp [hobs] at hobs'
          | locationChanged _ _ _ =>
              simp [hobs] at hobs'

end Kept

namespace Cluster

variable {D : Deployment} {c c' : Cluster}

/-- No object is lost: a promotion that is delivered finds a copy of its object, and an update finds no
owned object outside the world. -/
def losesNone (c : Cluster) : Event → Prop
  | .deliver index _ => ∀ e, c.channelHead index = some e → e.packet.isPromote = true →
      c.fixtureAt e.target e.packet.sectorId e.packet.objectId ≠ none
  | .update k clock => ((c.worlds k).update clock).fault ≠ some .noDestination
  | _ => True

/-- The event assigns no id twice and asks for no removal of the object. -/
def spares (o : Nat) (c : Cluster) (e : Event) : Prop :=
  c.assignsFreshId e ∧ ∀ k agency packet, e = .remove k agency packet → packet.objectId ≠ o

theorem harmless_of_spares {o : Nat} {e : Event} (h : spares o c e) {act : View.Act}
    (hpermits : c.Permits o e act) : Harmless (c.view D o) act := by
  cases e with
  | spawn k agency packet now =>
      obtain ⟨hid, rfl⟩ := hpermits
      refine ⟨?_, rfl⟩
      simpa [view] using h.1 o hid
  | move k agency packet =>
      rw [hpermits.2]
      exact trivial
  | remove k agency packet =>
      exact absurd hpermits.1 (h.2 k agency packet rfl)
  | update k clock =>
      obtain ⟨_, rfl⟩ := hpermits
      exact trivial
  | deliver index now =>
      obtain ⟨_, _, _, rfl⟩ := hpermits
      exact trivial
  | rehashSectors k order =>
      exact hpermits.elim
  | rehashFixtures k x order =>
      exact hpermits.elim

/-- An object that is not to be removed and not lost is kept. -/
theorem kept_next (hD : D.Complete) (hsound : Sound D c) {o : Nat} {e : Event}
    (h : Kept (c.view D o)) (hspares : spares o c e) (hlossless : c.losesNone e)
    (hstep : (machine D).step c e c') : Kept (c'.view D o) := by
  have hholding : Holding D (fun o' v => o' = o → Kept v) (fun _ => True) c := by
    refine ⟨hsound, ?_, fun _ _ _ => trivial⟩
    rintro o' rfl
    exact h
  have hrequest : (∀ act fault v, c.Permits o e act → Lossless v act fault) →
      KeptBy D (fun o' v => o' = o → Kept v) (fun _ => True) c e := by
    intro hsafe o' act v v' fault hpermits hv hkept hview
    refine ⟨?_, fun _ _ => trivial⟩
    rintro rfl
    refine (hkept rfl).step hD ?_ hview (hsafe act fault v hpermits)
    rcases hv with rfl | ⟨x, deltaTime, rfl⟩
    · exact harmless_of_spares hspares hpermits
    · exact trivial
  cases e with
  | update k clock =>
      -- the rounds before the last one end without a fault
      obtain ⟨_, rfl⟩ := hstep
      have hrounds : KeptByRounds D (fun o' v => o' = o → Kept v) (fun _ => True)
          (fun fault => fault ≠ some .noDestination) clock.deltaTime := by
        intro o' x v v' fault haccepted hkept hview
        refine ⟨fun ho => ?_, fun _ _ => trivial⟩
        have hharmless : Harmless v (.round x clock.deltaTime) := trivial
        exact (hkept ho).step hD hharmless hview haccepted
      exact (hholding.update (fun h => by cases h) hrounds (.inl trivial) hlossless).views o rfl
  | deliver index now =>
      obtain ⟨_, rfl⟩ := hstep
      have hnext : Holding D (fun o' v => o' = o → Kept v) (fun _ => True)
          (c.next D (.deliver index now)) := by
        refine hsound.deliver hholding.faults (fun o' _ => hholding.views o')
          fun e v' hhead hview => ⟨fun ho => ?_, fun _ _ => trivial⟩
        have hharmless : Harmless (c.view D e.packet.objectId)
            (.deliver (packetsAbout e.packet.objectId (c.flight.take index)) e.packet) := trivial
        refine (hholding.views _ ho).step hD hharmless hview fun hpromote => ?_
        have hmem : e ∈ c.flight := by
          rw [flight_of_channelHead hhead]
          exact List.mem_append_right _ List.mem_cons_self
        have hcopy := hlossless e hhead hpromote
        simpa [view, hsound.routed e hmem] using hcopy
      exact hnext.views o rfl
  | spawn k agency packet now =>
      refine (hholding.step (.inl trivial) (hrequest ?_) hstep).views o rfl
      rintro act fault v ⟨_, rfl⟩
      exact trivial
  | move k agency packet =>
      refine (hholding.step (.inl trivial) (hrequest ?_) hstep).views o rfl
      rintro act fault v ⟨_, rfl⟩
      exact trivial
  | remove k agency packet =>
      refine (hholding.step (.inl trivial) (hrequest ?_) hstep).views o rfl
      rintro act fault v ⟨_, rfl⟩
      exact trivial
  | rehashSectors k order =>
      exact (hholding.step (.inl trivial) (hrequest fun _ _ _ hpermits => hpermits.elim) hstep).views
        o rfl
  | rehashFixtures k x order =>
      exact (hholding.step (.inl trivial) (hrequest fun _ _ _ hpermits => hpermits.elim) hstep).views
        o rfl

theorem kept_new (D : Deployment) (o : Nat) : Kept ((Cluster.new D).view D o) := by
  have hholding : Holding D (fun _ v => Kept v) (fun _ => True) (Cluster.new D) := by
    refine Holding.new fun _ => ⟨?_, by simp, by simp⟩
    exact ⟨fun _ => ⟨fun _ => rfl, by simp⟩, by simp [isOwner], fun _ _ => rfl, by simp [promotions]⟩
  exact hholding.views o

end Cluster

end Game
end SeamlessServer
