import SeamlessServer.Game.Journey

/-!
# Game.Chase — a request that is passed on catches up with its object

The machine here adds the promotions of each object to the requests and their origins of
`Game.Answers`.  `passedOn_le_promotions` bounds how often a request is passed on, as long as there
is an owner to be found; `circles` says that nothing does once the object has been removed.
-/

namespace SeamlessServer
namespace Game

open Utility Protocol

/-! ## The cluster with requests and promotions -/

structure Chase where
  asking : Asking
  /-- The promotions of each object, in the order they were posted. -/
  legs : Nat → List (Leg Nat Nat)

namespace Chase

/-- What an event does to the promotions. -/
def promoted (c : Cluster) (e : Event) (o : Nat) : List (Leg Nat Nat) :=
  match Asking.outcome c e with
  | some (k, r) => legsOf k o r.posts
  | none => []

def next (D : Deployment) (s : Chase) (e : Event) : Chase where
  asking := s.asking.next D e
  legs := fun o => s.legs o ++ promoted s.asking.cluster e o

def machine (D : Deployment) : Machine Chase Event where
  init := fun s => s = ⟨⟨Cluster.new D, [], []⟩, fun _ => []⟩
  step := fun s e s' =>
    (Asking.machine D).step s.asking e (s.asking.next D e) ∧ s' = s.next D e

/-- A spawn is not given an id that was assigned before. -/
def assignsFreshId (s : Chase) (e : Event) : Prop := s.asking.cluster.assignsFreshId e

/-- The object has an owner, or its promotion is under way. -/
def Alive (s : Chase) (o : Nat) : Prop :=
  (s.asking.cluster.owners o).Nonempty ∨ s.asking.cluster.undeliveredPromotions o ≠ []

end Chase

/-- The packets about an object. -/
def lineOf (o : Nat) (posted : List (Envelope × Option Origin)) : List (Envelope × Option Origin) :=
  posted.filter fun p => p.1.packet.objectId = o

/-- The invariant of the runs that assign no id twice. -/
structure Chased (D : Deployment) (c : Cluster) (posted : List (Envelope × Option Origin))
    (legs : Nat → List (Leg Nat Nat)) : Prop where
  flight : c.flight = posted.map Prod.fst
  journeys : ∀ o, Journey D (c.view D o) (lineOf o posted)
    (fun k => (c.worlds k).promotedTo o) (legs o)

section Lift

variable {D : Deployment} {c : Cluster} {posted : List (Envelope × Option Origin)}
  {legs : Nat → List (Leg Nat Nat)} {k : Nat} {r : Outcome}

theorem lineOf_append (o : Nat) (l l' : List (Envelope × Option Origin)) :
    lineOf o (l ++ l') = lineOf o l ++ lineOf o l' :=
  List.filter_append ..

/-- Envelopes under the labels of an arrival. -/
theorem lineOf_label {packets : List PlayPacket} (h : ownerPosts r.posts = addressed packets)
    {o : Nat} (habout : ∀ q ∈ packets, About o q) (arrived : Option (Origin × ClientRequest))
    (o' : Nat) :
    lineOf o' ((route D k r.posts).map (Asking.label arrived)) =
      if o' = o then (route D k r.posts).map (Asking.label arrived) else [] := by
  have hobject : ∀ p ∈ (route D k r.posts).map (Asking.label arrived), p.1.packet.objectId = o := by
    intro p hp
    obtain ⟨e, he, rfl⟩ := List.mem_map.1 hp
    exact (habout _ (Cluster.mem_route h he).2).1
  split_ifs with ho
  · refine List.filter_eq_self.2 fun p hp => ?_
    exact decide_eq_true ((hobject p hp).trans ho.symm)
  · refine List.filter_eq_nil_iff.2 fun p hp heq => ?_
    exact ho ((of_decide_eq_true heq).symm.trans (hobject p hp))

theorem flight_absorb (h : c.flight = posted.map Prod.fst)
    (arrived : Option (Origin × ClientRequest)) :
    (c.absorb D k r).flight =
      (posted ++ (route D k r.posts).map (Asking.label arrived)).map Prod.fst := by
  rw [List.map_append, List.map_map, ← h]
  exact congrArg (c.flight ++ ·) (List.map_id _).symm

theorem promotedTo_absorb (k' o : Nat) :
    ((c.absorb D k r).worlds k').promotedTo o =
      if k' = k then r.world.promotedTo o else (c.worlds k').promotedTo o := by
  by_cases hk : k' = k
  · subst hk
    simp [Cluster.absorb]
  · simp [Cluster.absorb, hk]

/-- An outcome about one object. -/
theorem Chased.absorb_effect (h : Chased D c posted legs)
    {x o : Nat} {F : Option Fixture} {packets : List PlayPacket} (hx : x ∈ D.sectorsOf k)
    (heffect : Effect (c.worlds k) r x o F packets) (habout : ∀ q ∈ packets, About o q)
    (hrecord : ∀ o', o' ≠ o → ∀ y, r.world.promotedTo o' = some y →
      (c.worlds k).promotedTo o' = some y)
    (arrived : Option (Origin × ClientRequest))
    (hjourney : Journey D ((c.view D o).write x F (D.sent packets))
      (lineOf o posted ++ (route D k r.posts).map (Asking.label arrived))
      (fun k' => ((c.absorb D k r).worlds k').promotedTo o) (legs o ++ legsOf k o r.posts)) :
    Chased D (c.absorb D k r) (posted ++ (route D k r.posts).map (Asking.label arrived))
      (fun o' => legs o' ++ legsOf k o' r.posts) := by
  refine ⟨flight_absorb h.flight arrived, fun o' => ?_⟩
  rw [Cluster.view_absorb hx heffect habout, lineOf_append, lineOf_label heffect.packets habout]
  by_cases ho : o' = o
  · subst ho
    rw [if_pos rfl, if_pos rfl]
    exact hjourney
  · rw [if_neg ho, if_neg ho, legsOf_of_about heffect.packets habout k ho]
    simp only [List.append_nil]
    refine (h.journeys o').forget fun k' y hy => ?_
    rw [promotedTo_absorb] at hy
    split_ifs at hy with hk
    · rw [hk]
      exact hrecord o' ho y hy
    · exact hy

/-- An outcome without effect. -/
theorem Chased.absorb_idle (h : Chased D c posted legs)
    (hidle : Idle (c.worlds k) r)
    (hrecord : ∀ o y, r.world.promotedTo o = some y → (c.worlds k).promotedTo o = some y)
    (arrived : Option (Origin × ClientRequest)) :
    Chased D (c.absorb D k r) (posted ++ (route D k r.posts).map (Asking.label arrived))
      (fun o => legs o ++ legsOf k o r.posts) := by
  have hpackets : ownerPosts r.posts = addressed [] := hidle.packets
  have hroute : route D k r.posts = [] := Cluster.route_eq hpackets
  refine ⟨flight_absorb h.flight arrived, fun o => ?_⟩
  rw [Cluster.view_absorb_idle hidle, hroute, legsOf_eq_nil hpackets rfl]
  simp only [List.map_nil, List.append_nil]
  refine (h.journeys o).forget fun k' y hy => ?_
  rw [promotedTo_absorb] at hy
  split_ifs at hy with hk
  · rw [hk]
    exact hrecord o y hy
  · exact hy

/-! ### Requests that are served -/

theorem of_toSectorOwner_mem_forward {w : World} {o : Nat} {packetTo : Nat → PlayPacket}
    {packet : PlayPacket} {y : Nat} (h : .toSectorOwner packet y ∈ (w.forward o packetTo).posts) :
    packet = packetTo y ∧ w.promotedTo o = some y := by
  unfold World.forward at h
  unfold World.promotedTo
  cases hfind : w.promotedObjectList.find o with
  | none =>
      simp [hfind] at h
  | some promoted =>
      simp only [hfind, List.mem_singleton, Posting.toSectorOwner.injEq] at h
      obtain ⟨rfl, rfl⟩ := h
      exact ⟨rfl, rfl⟩

/-- A server passes a request on that does not find the owner, to the sector it remembers. -/
theorem ClientRequest.serve_passesOn {w : World} {source : Nat} {request : ClientRequest}
    {packet : PlayPacket} {y : Nat}
    (hpost : .toSectorOwner packet y ∈ (request.serve w source).posts)
    (hto : packet.toOwner = true) :
    isOwner (w.fixtureAt request.sectorId request.objectId) = false ∧ packet.sectorId = y ∧
      w.promotedTo request.objectId = some y := by
  -- with the owner at hand the request is served, and nothing goes to an owner
  have hcopy : isOwner (w.fixtureAt request.sectorId request.objectId) = false := by
    by_contra howner
    obtain ⟨f, hf, hobs⟩ := (Option.any_eq_true _ _).1 (Bool.of_not_eq_false howner)
    have hcopies := (serve_owner source hf (by simpa using hobs)).2.2 packet y hpost
    rw [hto] at hcopies
    cases hcopies
  have hidle : ∀ {r : Outcome}, ownerPosts r.posts = [] → .toSectorOwner packet y ∉ r.posts := by
    intro r hnone hmem
    have hmem' : (packet, y) ∈ ownerPosts r.posts := List.mem_filterMap.2 ⟨_, hmem, rfl⟩
    rw [hnone] at hmem'
    cases hmem'
  refine ⟨hcopy, ?_⟩
  -- in either handler: without the sector nothing is sent, without a fixture or with a copy only,
  -- the request goes to the sector that is remembered
  cases request with
  | move request =>
      cases hid : w.sectorIdAt request.sectorId with
      | none =>
          have hnone : Idle w (w.handle source (.characterMoveRq request) 0) :=
            (World.handle_of_sectorIdAt_none source 0 hid).2
          exact absurd hpost (hidle hnone.packets)
      | some id =>
          obtain ⟨sector, hfind, _⟩ := World.find_of_sectorIdAt hid
          simp only [sectorId, objectId, World.fixtureAt_of_find hfind] at hcopy
          simp only [serve, World.moveObject, World.sectorAt_of_find hfind] at hpost
          cases hf : sector.getFixture request.objectId with
          | none =>
              simp only [hf] at hpost
              split_ifs at hpost
              · obtain ⟨rfl, hrecord⟩ := of_toSectorOwner_mem_forward hpost
                exact ⟨rfl, hrecord⟩
              · cases hpost
          | some f =>
              have hobs : f.isObservingFixture = true := by simpa [isOwner, hf] using hcopy
              simp only [hf, hobs, if_true] at hpost
              split_ifs at hpost
              · obtain ⟨rfl, hrecord⟩ := of_toSectorOwner_mem_forward hpost
                exact ⟨rfl, hrecord⟩
              · cases hpost
  | remove request =>
      cases hid : w.sectorIdAt request.sectorId with
      | none =>
          have hnone : Idle w (w.handle source (.removeCharacterRq request) 0) :=
            (World.handle_of_sectorIdAt_none source 0 hid).2
          exact absurd hpost (hidle hnone.packets)
      | some id =>
          obtain ⟨sector, hfind, _⟩ := World.find_of_sectorIdAt hid
          simp only [sectorId, objectId, World.fixtureAt_of_find hfind] at hcopy
          simp only [serve, World.removeCharacter, World.sectorAt_of_find hfind] at hpost
          cases hf : sector.getFixture request.objectId with
          | none =>
              simp only [hf] at hpost
              split_ifs at hpost
              · obtain ⟨rfl, hrecord⟩ := of_toSectorOwner_mem_forward hpost
                exact ⟨rfl, hrecord⟩
              · simp at hpost
          | some f =>
              have hobs : f.isObservingFixture = true := by simpa [isOwner, hf] using hcopy
              simp only [hf, hobs, if_true] at hpost
              split_ifs at hpost
              · obtain ⟨rfl, hrecord⟩ := of_toSectorOwner_mem_forward hpost
                exact ⟨rfl, hrecord⟩
              · cases hpost

theorem exists_of_label {arrived : Option (Origin × ClientRequest)} {e : Envelope} {origin : Origin}
    (h : (Asking.label arrived e).2 = some origin) :
    e.packet.toOwner = true ∧ ∃ a, arrived = some a ∧ origin = a.1.passOn := by
  unfold Asking.label at h
  dsimp only at h
  split_ifs at h with hto
  obtain ⟨a, ha, rfl⟩ := Option.map_eq_some_iff.1 h
  exact ⟨hto, a, ha, rfl⟩

/-- Who has come along one leg may be pointed along a later one. -/
def Behind (D : Deployment) (k : Nat) (legs : List (Leg Nat Nat)) (hops : Nat) : Prop :=
  ∃ n leg, Trail.Along legs leg n hops ∧ n + 1 < legs.length ∧ D.owner leg.dest = some k

/-- A packet is handled, after the journey of its object was as given before it was taken out. -/
theorem Chased.handle (h : Chased D c posted legs) (hsound : Cluster.Sound D c) (source : Nat)
    (packet : PlayPacket) (hkey : packet.Keyed) {v : View} {line : List (Envelope × Option Origin)}
    (hold : Journey D v line (fun k' => (c.worlds k').promotedTo packet.objectId)
      (legs packet.objectId))
    (hcopies : (c.view D packet.objectId).copies = v.copies)
    (hissued : (c.view D packet.objectId).issued = v.issued)
    (hkept : (lineOf packet.objectId posted).Sublist line)
    (hpromote : packet.isPromote = true → ∃ p ∈ line, p.1.packet = packet)
    (arrived : Option (Origin × ClientRequest))
    (harrived : ∀ a, arrived = some a → ClientRequest.ofPacket packet = some a.2 ∧
      (a.1.hops = 0 ∨ (v.Alive → isOwner (v.copies packet.sectorId) = false →
        Behind D k (legs packet.objectId) a.1.hops))) (now : Milliseconds) :
    Chased D (c.absorb D k ((c.worlds k).handle source packet now))
      (posted ++ (route D k ((c.worlds k).handle source packet now).posts).map
        (Asking.label arrived))
      (fun o => legs o ++ legsOf k o ((c.worlds k).handle source packet now).posts) := by
  have hrecord : ∀ o, ((c.worlds k).handle source packet now).world.promotedTo o =
      (c.worlds k).promotedTo o := by
    intro o
    rw [World.promotedTo, World.promotedObjectList_handle]
    rfl
  rcases hsound.handle_cases packet hkey k source now with
    ⟨_, _, hidle⟩ | ⟨hx, F, packets, hreaction, heffect, habout, _⟩
  · exact h.absorb_idle hidle (fun o y hy => hrecord o ▸ hy) arrived
  refine h.absorb_effect hx heffect habout (fun o _ y hy => hrecord o ▸ hy) arrived ?_
  rw [legsOf_eq_nil heffect.packets hreaction.promotions_eq_nil, List.append_nil]
  refine hold.keep ?_ (fun hnot => hissued ▸ hnot) hkept ?_ ?_ ?_ ?_
  · change (c.view D packet.objectId).queue ++ D.sent packets = _
    rw [(h.journeys packet.objectId).queue, ← Cluster.map_packet_route (k := k) heffect.packets,
      List.map_append, List.map_map]
    rfl
  · intro y hy
    rw [SingleOwner.copies_write] at hy
    split_ifs at hy with hyx
    · cases hp : packet.isPromote with
      | true =>
          obtain ⟨p, hp', rfl⟩ := hpromote hp
          exact .inr ⟨p, hp', hp, hyx.symm⟩
      | false =>
          rw [hyx, ← hcopies]
          exact .inl (hreaction.isOwner hp hy)
    · exact .inl (hcopies ▸ hy)
  · intro p hp
    obtain ⟨e, he, rfl⟩ := List.mem_map.1 hp
    by_contra hpromote
    have hmem : e.packet ∈ promotions packets :=
      List.mem_filter.2 ⟨(Cluster.mem_route heffect.packets he).2, Bool.of_not_eq_false hpromote⟩
    rw [hreaction.promotions_eq_nil] at hmem
    cases hmem
  · -- what is passed on goes where the server remembers the object to be
    intro p hp origin horigin
    obtain ⟨e, he, rfl⟩ := List.mem_map.1 hp
    obtain ⟨hto, ⟨arrival, request⟩, ha, rfl⟩ := exists_of_label horigin
    obtain ⟨hrequest, hbehind⟩ := harrived _ ha
    dsimp only at hrequest hbehind
    obtain ⟨hsource, y, hpost, _⟩ := Asking.mem_route he
    rw [ClientRequest.handle_eq_serve hrequest] at hpost
    obtain ⟨hcopy, hsector, hremembered⟩ := ClientRequest.serve_passesOn hpost hto
    have hid : request.objectId = packet.objectId ∧ request.sectorId = packet.sectorId := by
      cases packet <;> cases hrequest <;> exact ⟨rfl, rfl⟩
    rw [hid.1] at hremembered
    obtain ⟨m, hlast⟩ := hold.remembered k y hremembered
    have hway : (Asking.label arrived e).1.way = ⟨k, y⟩ := by
      rw [← hsource, ← hsector]
      rfl
    rw [hway]
    refine ⟨m, hlast.leg, fun halive => ?_⟩
    rcases hbehind with hzero | hbehind
    · exact Nat.succ_le_succ (hzero.le.trans (Nat.zero_le m))
    · rw [hid.1, hid.2, ← Cluster.view_copies hx, hcopies] at hcopy
      obtain ⟨n, leg, halong, hn, hhost⟩ := hbehind halive hcopy
      exact (hold.linked.along halong hn hhost hlast).2
  · intro k' y hy
    rw [promotedTo_absorb] at hy
    split_ifs at hy with hk
    · rw [hk, ← hrecord]
      exact hy
    · exact hy

/-- A packet is taken from its channel. -/
theorem Chased.take (h : Chased D c posted legs) (index : Nat) :
    Chased D { c with flight := c.flight.eraseIdx index } (posted.eraseIdx index) legs := by
  have hflight : c.flight.eraseIdx index = (posted.eraseIdx index).map Prod.fst := by
    rw [h.flight, List.eraseIdx_map]
  refine ⟨hflight, fun o => ?_⟩
  have hkeep := h.journeys o
  rw [← List.append_nil (lineOf o (posted.eraseIdx index))]
  refine hkeep.keep ?_ id (List.Sublist.filter _ (List.eraseIdx_sublist posted index))
    (fun _ hy => .inl hy) (fun _ hp => by cases hp) (fun _ hp => by cases hp) fun _ _ hy => hy
  change Cluster.packetsAbout o (c.flight.eraseIdx index) = _
  rw [hflight, List.append_nil, Cluster.packetsAbout, lineOf, List.map_map, List.filter_map]
  rfl

/-! ### Spawns -/

theorem Chased.spawn (h : Chased D c posted legs) (hsound : Cluster.Sound D c) {agency : Nat}
    {packet : SpawnCharacterRq} {now : Milliseconds}
    (hfresh : c.assignsFreshId (.spawn k agency packet now)) :
    Chased D (c.absorb D k ((c.worlds k).spawnCharacter agency packet now))
      (posted ++ (route D k ((c.worlds k).spawnCharacter agency packet now).posts).map
        (Asking.label none))
      (fun o => legs o ++ legsOf k o ((c.worlds k).spawnCharacter agency packet now).posts) := by
  have hrecord : ∀ o, ((c.worlds k).spawnCharacter agency packet now).world.promotedTo o =
      (c.worlds k).promotedTo o := by
    intro o
    rw [World.promotedTo, World.promotedObjectList_spawnCharacter]
    rfl
  by_cases hx : packet.sectorId ∈ D.sectorsOf k
  · obtain ⟨sector, hfind, _⟩ := World.find_of_sectorIdAt (hsound.sectorIdAt hx)
    rcases World.spawnCharacter_effect agency now hfind with ⟨_, _, hidle⟩ | ⟨_, _, heffect⟩
    · exact h.absorb_idle hidle (fun o y hy => hrecord o ▸ hy) none
    · refine h.absorb_effect hx heffect (fun _ hq => by cases hq) (fun o _ y hy => hrecord o ▸ hy)
        none ?_
      have hroute : route D k ((c.worlds k).spawnCharacter agency packet now).posts = [] :=
        Cluster.route_eq heffect.packets
      have hissued : (c.view D sector.currentFixtureId).issued = false := by
        have hid : c.nextFixtureId k packet.sectorId = some sector.currentFixtureId := by
          simp [Cluster.nextFixtureId, hfind]
        simpa [Cluster.view] using hfresh _ hid
      rw [legsOf_eq_nil heffect.packets rfl, hroute, List.append_nil, List.map_nil, List.append_nil]
      refine ((h.journeys _).spawn hissued (List.append_nil _)).forget fun k' y hy => ?_
      rw [promotedTo_absorb] at hy
      split_ifs at hy with hk
      · rw [hk, ← hrecord]
        exact hy
      · exact hy
  · have hnone : (c.worlds k).sectorIdAt packet.sectorId = none := by
      rw [hsound.sectors, if_neg hx]
    have hidle := (World.spawnCharacter_of_sectorIdAt_none agency now hnone).2
    exact h.absorb_idle hidle (fun o y hy => hrecord o ▸ hy) none

/-! ### Rounds of an update -/

theorem Chased.updateObject (h : Chased D c posted legs) (hsound : Cluster.Sound D c) {o x : Nat}
    (hsingle : SingleOwner (c.view D o)) (hx : x ∈ D.sectorsOf k) (clock : World.Clock) :
    Chased D (c.absorb D k ((c.worlds k).updateObject clock x o))
      (posted ++ (route D k ((c.worlds k).updateObject clock x o).posts).map (Asking.label none))
      (fun o' => legs o' ++ legsOf k o' ((c.worlds k).updateObject clock x o).posts) := by
  have hat : ∀ f, (c.worlds k).fixtureAt x o = some f → f.id = o := fun f hf =>
    (hsound.fixtures k x o f hf).id
  have hrecord := World.promotedTo_updateObject clock hat k
  rcases World.updateObject_effect (hsound.sectorIdAt hx) with
    ⟨_, _, hidle⟩ | ⟨f, f', packets, hf, hround, heffect⟩
  · refine h.absorb_idle hidle (fun o' y hy => ?_) none
    have hpackets : ownerPosts ((c.worlds k).updateObject clock x o).posts = addressed [] :=
      hidle.packets
    have hnone := legsOf_eq_nil hpackets rfl k o
    rw [hrecord, hnone] at hy
    split_ifs at hy with ho
    · rw [ho]
      exact hy
    · exact hy
  have hid : (f.move clock.deltaTime).id = o := (Fixture.move_id _ _).trans (hat f hf)
  have hcopies := (Cluster.view_copies (c := c) hx o).trans hf
  refine h.absorb_effect hx heffect (hid ▸ hround.about) (fun o' ho y hy => ?_) none ?_
  · rw [hrecord, if_neg ho] at hy
    exact hy
  have hlegs := World.legsOf_round (k := k) hround heffect.packets hid
  have hnews : ∀ p ∈ (route D k ((c.worlds k).updateObject clock x o).posts).map
      (Asking.label none), p.2 = none ∧ p.1.source = k ∧ p.1.packet ∈ packets := by
    intro p hp
    obtain ⟨e, he, rfl⟩ := List.mem_map.1 hp
    refine ⟨?_, (Asking.mem_route he).1, (Cluster.mem_route heffect.packets he).2⟩
    unfold Asking.label
    dsimp only
    split_ifs <;> rfl
  have hpackets : D.sent packets =
      ((route D k ((c.worlds k).updateObject clock x o).posts).map (Asking.label none)).map
        fun p => p.1.packet := by
    rw [← Cluster.map_packet_route (k := k) heffect.packets, List.map_map]
    rfl
  have hquietly : promotions packets = [] →
      (isOwner (some f') = true → isOwner (some f) = true) →
      Journey D ((c.view D o).write x (some f') (D.sent packets))
        (lineOf o posted ++ (route D k ((c.worlds k).updateObject clock x o).posts).map
          (Asking.label none))
        (fun k' => ((c.absorb D k ((c.worlds k).updateObject clock x o)).worlds k').promotedTo o)
        (legs o ++ legsOf k o ((c.worlds k).updateObject clock x o).posts) := by
    intro hnone howner
    rw [hnone] at hlegs
    rw [hlegs, List.map_nil, List.append_nil]
    refine (h.journeys o).keep ?_ id (List.Sublist.refl _) (fun y hy => .inl ?_) (fun p hp => ?_)
      (fun p hp origin horigin => ?_) fun k' y hy => ?_
    · rw [List.map_append, ← (h.journeys o).queue, ← hpackets]
      rfl
    · rw [SingleOwner.copies_write] at hy
      split_ifs at hy with hyx
      · rw [hyx, hcopies]
        exact howner hy
      · exact hy
    · by_contra hpromote
      have hmem : p.1.packet ∈ promotions packets :=
        List.mem_filter.2 ⟨(hnews p hp).2.2, by simpa using hpromote⟩
      rw [hnone] at hmem
      cases hmem
    · rw [(hnews p hp).1] at horigin
      cases horigin
    · rw [promotedTo_absorb] at hy
      split_ifs at hy with hk
      · rw [hrecord, if_pos rfl, hlegs] at hy
        rw [hk]
        exact hy
      · exact hy
  rcases hround.isOwner with ⟨hsame, hnone⟩ | ⟨hobs, hobs', hle⟩
  · refine hquietly hnone fun howner => ?_
    rw [Fixture.move_isObservingFixture] at hsame
    simpa [isOwner, hsame] using howner
  cases hone : promotions packets with
  | nil =>
      refine hquietly hone fun howner => ?_
      simp [isOwner, hobs'] at howner
  | cons q more =>
      -- the owner leaves for the sector that the server remembers from now on
      obtain rfl : more = [] := by
        rw [hone, List.length_cons] at hle
        exact List.eq_nil_of_length_eq_zero (by omega)
      have hlegs' : legsOf k o ((c.worlds k).updateObject clock x o).posts = [⟨k, q.sectorId⟩] := by
        rw [hlegs, hone]
        rfl
      rw [hlegs']
      refine (h.journeys o).promote hsingle (D.mem_sectorsOf.1 hx).2 ?_ ?_ hpackets
        (fun p hp => ⟨(hnews p hp).1, fun hpromote => ?_⟩) fun k' y hy => ?_
      · rw [Fixture.move_isObservingFixture] at hobs
        simp [hcopies, isOwner, hobs]
      · simp [isOwner, hobs']
      · have hmem : p.1.packet ∈ promotions packets :=
          List.mem_filter.2 ⟨(hnews p hp).2.2, hpromote⟩
        rw [hone, List.mem_singleton] at hmem
        rw [Envelope.way, (hnews p hp).2.1, hmem]
      · rw [promotedTo_absorb] at hy
        split_ifs at hy with hk
        · rw [hrecord, if_pos rfl, hlegs'] at hy
          exact .inl ⟨hk, (Option.some.inj hy).symm⟩
        · exact .inr ⟨hk, hy⟩

/-- What is kept by an outcome without arrival. -/
structure StillChased (D : Deployment) (k : Nat) (c : Cluster) (posted : List (Envelope × Option Origin))
    (legs : Nat → List (Leg Nat Nat)) (r : Outcome) : Prop where
  holding : Cluster.Holding D (fun _ v => SingleOwner v) (fun _ => True) (c.absorb D k r)
  chased : Chased D (c.absorb D k r) (posted ++ (route D k r.posts).map (Asking.label none))
    (fun o => legs o ++ legsOf k o r.posts)

theorem kept_foldOutcome {α : Type} {body : World → α → Outcome} (rounds : List α)
    (hbody : ∀ c posted legs a, a ∈ rounds →
      Cluster.Holding D (fun _ v => SingleOwner v) (fun _ => True) c → Chased D c posted legs →
      StillChased D k c posted legs (body (c.worlds k) a)) :
    ∀ c posted legs, Cluster.Holding D (fun _ v => SingleOwner v) (fun _ => True) c →
      Chased D c posted legs → StillChased D k c posted legs (foldOutcome body (c.worlds k) rounds) := by
  induction rounds with
  | nil =>
      intro c posted legs hholding h
      refine ⟨?_, ?_⟩
      · rw [foldOutcome, Cluster.absorb_self]
        exact hholding
      · rw [foldOutcome, Cluster.absorb_self]
        simpa [route] using h
  | cons a rounds ih =>
      intro c posted legs hholding h
      have hfirst := hbody c posted legs a List.mem_cons_self hholding h
      cases hfault : (body (c.worlds k) a).fault with
      | some fault =>
          -- the loop is left here
          have heq : foldOutcome body (c.worlds k) (a :: rounds) = body (c.worlds k) a := by
            simp [foldOutcome, hfault]
          rw [heq]
          exact hfirst
      | none =>
          have hrest := ih
            (fun c posted legs a ha => hbody c posted legs a (List.mem_cons_of_mem _ ha))
            _ _ _ hfirst.holding hfirst.chased
          rw [Cluster.worlds_absorb_self] at hrest
          obtain ⟨hholding', hchased'⟩ := hrest
          rw [← Cluster.absorb_append hfault] at hholding' hchased'
          simp only [foldOutcome, hfault]
          refine ⟨hholding', ?_⟩
          simpa only [route, legsOf, List.filterMap_append, List.map_append, List.append_assoc] using
            hchased'

theorem singleOwner_rounds (D : Deployment) (deltaTime : Milliseconds) :
    Cluster.KeptByRounds D (fun _ v => SingleOwner v) (fun _ => True) (fun _ => True) deltaTime := by
  intro o x v v' fault _ h hstep
  have hfresh : SpawnsFresh v (.round x deltaTime) := trivial
  exact ⟨h.step hfresh hstep, fun _ _ => trivial⟩

theorem kept_updateSector (h : Chased D c posted legs)
    (hholding : Cluster.Holding D (fun _ v => SingleOwner v) (fun _ => True) c)
    (clock : World.Clock) (x : Nat) :
    StillChased D k c posted legs ((c.worlds k).updateSector clock x) := by
  refine ⟨hholding.updateSector trivial (singleOwner_rounds D _) (.inr trivial) trivial, ?_⟩
  by_cases hx : x ∈ D.sectorsOf k
  · obtain ⟨sector, hfind, _⟩ := World.find_of_sectorIdAt (hholding.sound.sectorIdAt hx)
    have heq : (c.worlds k).updateSector clock x =
        foldOutcome (World.updateObject clock x) (c.worlds k) sector.fixtures.keys := by
      simp [World.updateSector, hfind]
    rw [heq]
    refine (kept_foldOutcome sector.fixtures.keys (fun c posted legs o _ hholding h => ?_) c posted
      legs hholding h).chased
    exact ⟨hholding.updateObject (singleOwner_rounds D _) hx trivial,
      h.updateObject hholding.sound (hholding.views o) hx clock⟩
  · have hnone : (c.worlds k).sectorIdAt x = none := by
      rw [hholding.sound.sectors, if_neg hx]
    have heq : (c.worlds k).updateSector clock x =
        { world := c.worlds k, fault := some .nullSector } := by
      unfold World.updateSector
      split
      next sector hfind =>
        simp [World.sectorIdAt, hfind] at hnone
      next =>
        rfl
    rw [heq]
    exact h.absorb_idle ⟨World.same_of_sectors rfl, rfl⟩ (fun _ _ hy => hy) none

theorem Chased.update (h : Chased D c posted legs)
    (hholding : Cluster.Holding D (fun _ v => SingleOwner v) (fun _ => True) c)
    (clock : World.Clock) :
    Chased D (c.absorb D k ((c.worlds k).update clock))
      (posted ++ (route D k ((c.worlds k).update clock).posts).map (Asking.label none))
      (fun o => legs o ++ legsOf k o ((c.worlds k).update clock).posts) := by
  let w := (c.worlds k).forgetPromoted clock.tick
  let c₁ := c.absorb D k { world := w }
  have hw : c₁.worlds k = w := Cluster.worlds_absorb_self
  have hidle : Idle (c.worlds k) { world := w } := ⟨World.forgetPromoted_same _ _, rfl⟩
  have hholding₁ := hholding.absorb_idle (D := D) hidle (by simp)
  have h₁ : Chased D c₁ posted legs := by
    have hfirst := h.absorb_idle (D := D) hidle
      (fun _ _ hy => World.promotedTo_forgetPromoted hy) none
    simpa [route] using hfirst
  have hrest : StillChased D k c₁ posted legs
      (foldOutcome (World.updateSector clock) (c₁.worlds k) w.sectors.keys) :=
    kept_foldOutcome w.sectors.keys
      (fun c posted legs x _ hholding h => kept_updateSector h hholding clock x) c₁ posted legs
      hholding₁ h₁
  rw [hw] at hrest
  have hchased := hrest.chased
  rw [← Cluster.absorb_append (r := { world := w }) rfl] at hchased
  exact hchased

/-! ### Events -/

/-- A packet that can be delivered is the first of its way. -/
theorem first_of_channelHead {index : Nat} {e : Envelope} (hhead : c.channelHead index = some e) :
    c.flight[index]? = some e ∧
      ∀ e' ∈ c.flight.take index, ¬ (e'.source = e.source ∧ e'.target = e.target) := by
  unfold Cluster.channelHead at hhead
  split at hhead
  next =>
    cases hhead
  next e' hget =>
    split_ifs at hhead with hany
    cases hhead
    refine ⟨hget, fun e' he' hsame => hany ?_⟩
    exact List.any_eq_true.2 ⟨e', he', by simp [hsame]⟩

/-- The ids that are assigned do not matter to a journey that has begun. -/
theorem Chased.issue (h : Chased D c posted legs) (ids : List Nat) :
    Chased D { c with issued := c.issued ++ ids } posted legs := by
  refine ⟨h.flight, fun o => (h.journeys o).congr rfl rfl fun hissued => ?_⟩
  have hnot : o ∉ c.issued ++ ids := of_decide_eq_false hissued
  exact decide_eq_false fun hmem => hnot (List.mem_append_left _ hmem)

theorem Chased.retire (h : Chased D c posted legs) (ids : List Nat) :
    Chased D { c with retired := ids } posted legs :=
  ⟨h.flight, fun o => (h.journeys o).congr rfl rfl id⟩

/-- A change of an iteration order. -/
theorem Chased.reorder (h : Chased D c posted legs) {w : World} (hsame : World.Same (c.worlds k) w)
    (hrecords : w.promotedObjectList = (c.worlds k).promotedObjectList) :
    Chased D { c with worlds := Function.update c.worlds k w } posted legs := by
  have heq : ({ c with worlds := Function.update c.worlds k w } : Cluster) =
      c.absorb D k { world := w } := by
    simp [Cluster.absorb, route]
  have hidle : Idle (c.worlds k) { world := w } := ⟨hsame, rfl⟩
  have hchased := h.absorb_idle (D := D) hidle (fun o y hy => by
    rw [World.promotedTo, hrecords] at hy
    exact hy) none
  rw [heq]
  simpa [route] using hchased

theorem Chased.deliver (h : Chased D c posted legs) (hsound : Cluster.Sound D c) {index : Nat}
    {e : Envelope} (hhead : c.channelHead index = some e)
    (arrived : Option (Origin × ClientRequest))
    (harrived : ∀ a, arrived = some a → posted[index]? = some (e, some a.1) ∧
      ClientRequest.ofPacket e.packet = some a.2) (now : Milliseconds) :
    Chased D (({ c with flight := c.flight.eraseIdx index } : Cluster).absorb D e.target
        ((c.worlds e.target).handle e.source e.packet now))
      (posted.eraseIdx index ++
        (route D e.target ((c.worlds e.target).handle e.source e.packet now).posts).map
          (Asking.label arrived))
      (fun o => legs o ++
        legsOf e.target o ((c.worlds e.target).handle e.source e.packet now).posts) := by
  obtain ⟨hget, hfirst⟩ := first_of_channelHead hhead
  have hmem : e ∈ c.flight := List.mem_of_getElem? hget
  obtain ⟨label, hposted⟩ : ∃ label, posted[index]? = some (e, label) := by
    rw [h.flight, List.getElem?_map] at hget
    obtain ⟨p, hp, rfl⟩ := Option.map_eq_some_iff.1 hget
    exact ⟨p.2, hp⟩
  have hsplit : posted = posted.take index ++ (e, label) :: posted.drop (index + 1) := by
    obtain ⟨hlt, hget'⟩ := List.getElem?_eq_some_iff.1 hposted
    rw [← hget', List.getElem_cons_drop, List.take_append_drop]
  have hline : lineOf e.packet.objectId posted =
      lineOf e.packet.objectId (posted.take index) ++
        (e, label) :: lineOf e.packet.objectId (posted.drop (index + 1)) := by
    conv_lhs => rw [hsplit]
    rw [lineOf_append]
    simp [lineOf]
  refine (h.take index).handle (hsound.take index) e.source e.packet (hsound.keyed e hmem)
    (h.journeys _) rfl rfl (List.Sublist.filter _ (List.eraseIdx_sublist posted index))
    (fun _ => ⟨(e, label), ?_, rfl⟩) arrived (fun a ha => ?_) now
  · rw [hline]
    exact List.mem_append_right _ List.mem_cons_self
  obtain ⟨hlabel, hrequest⟩ := harrived a ha
  obtain rfl : label = some a.1 := congrArg Prod.snd (Option.some.inj (hposted.symm.trans hlabel))
  refine ⟨hrequest, .inr fun halive hcopy => ?_⟩
  have hpromote : e.packet.isPromote = false := by
    cases hp : e.packet with
    | promoteObjectRq s info =>
        rw [hp] at hrequest
        cases hrequest
    | _ => rfl
  have hahead : ∀ p ∈ lineOf e.packet.objectId (posted.take index), p.1.way ≠ e.way := by
    -- packets on one way are in one channel
    intro p hp hway
    have hp' : p.1 ∈ c.flight.take index := by
      rw [h.flight, ← List.map_take]
      exact List.mem_map_of_mem (List.mem_of_mem_filter hp)
    have hsector : p.1.packet.sectorId = e.packet.sectorId := congrArg Leg.dest hway
    have htarget := hsound.routed p.1 (List.mem_of_mem_take hp')
    rw [hsector, hsound.routed e hmem] at htarget
    exact hfirst p.1 hp' ⟨congrArg Leg.source hway, (Option.some.inj htarget).symm⟩
  obtain ⟨n, halong, hn⟩ :=
    (h.journeys e.packet.objectId).overtaken hline hahead hpromote hcopy halive
  exact ⟨n, e.way, halong, hn, hsound.routed e hmem⟩

end Lift

namespace Chase

variable {D : Deployment} {s : Chase}

/-- What arrives with a delivery is the origin of the packet. -/
theorem posted_of_arrival (h : s.asking.cluster.flight = s.asking.posted.map Prod.fst) {index : Nat}
    {now : Milliseconds} {e : Envelope} (hhead : s.asking.cluster.channelHead index = some e)
    {a : Origin × ClientRequest} (ha : s.asking.arrival (.deliver index now) = some a) :
    s.asking.posted[index]? = some (e, some a.1) ∧ ClientRequest.ofPacket e.packet = some a.2 := by
  obtain ⟨hget, _⟩ := first_of_channelHead hhead
  rw [h, List.getElem?_map] at hget
  obtain ⟨⟨e, label⟩, hp, rfl⟩ := Option.map_eq_some_iff.1 hget
  cases label with
  | none =>
      simp [Asking.arrival, hhead, hp] at ha
  | some origin =>
      simp only [Asking.arrival, hhead, hp] at ha
      obtain ⟨request, hrequest, rfl⟩ := Option.map_eq_some_iff.1 ha
      exact ⟨hp, hrequest⟩

theorem chased_next (h : Chased D s.asking.cluster s.asking.posted s.legs)
    (hholding : Cluster.Holding D (fun _ v => SingleOwner v) (fun _ => True) s.asking.cluster)
    {e : Event} (hfresh : s.assignsFreshId e) :
    Chased D (s.next D e).asking.cluster (s.next D e).asking.posted (s.next D e).legs := by
  have hsound := hholding.sound
  cases e with
  | spawn k agency packet now =>
      -- the id is fresh, so no request for it is under way
      exact (h.spawn hsound hfresh).issue _
  | move k agency packet =>
      refine h.handle hsound agency (.characterMoveRq packet) trivial (h.journeys _) rfl rfl
        (List.Sublist.refl _) (fun hp => by cases hp) (s.asking.arrival (.move k agency packet))
        (fun a ha => ?_) 0
      unfold Asking.arrival at ha
      dsimp only at ha
      split_ifs at ha
      cases ha
      exact ⟨rfl, .inl rfl⟩
  | remove k agency packet =>
      have hserved := h.handle (k := k) hsound agency (.removeCharacterRq packet) trivial
        (h.journeys _) rfl rfl (List.Sublist.refl _) (fun hp => by cases hp)
        (s.asking.arrival (.remove k agency packet)) (fun a ha => ?_) 0
      -- that the id is retired is of no account to the legs
      · exact hserved.retire _
      · unfold Asking.arrival at ha
        dsimp only at ha
        split_ifs at ha
        cases ha
        exact ⟨rfl, .inl rfl⟩
  | update k clock =>
      exact h.update hholding clock
  | deliver index now =>
      cases hhead : s.asking.cluster.channelHead index with
      | none =>
          simpa [next, promoted, Asking.next, Asking.remaining, Asking.outcome, Cluster.next, hhead]
            using h
      | some e =>
          have hdelivered := h.deliver hsound hhead (s.asking.arrival (.deliver index now))
            (fun a ha => ?_) now
          · simpa [next, promoted, Asking.next, Asking.remaining, Asking.outcome, Cluster.next, hhead]
              using hdelivered
          · exact posted_of_arrival h.flight hhead ha
  | rehashSectors k order =>
      -- nor is the order of the sectors, which only an update goes through
      have hsame : World.Same (s.asking.cluster.worlds k) { s.asking.cluster.worlds k with
          sectors := (s.asking.cluster.worlds k).sectors.reorder order } := by
        refine ⟨?_, ?_⟩
        · intro x o
          simp [World.fixtureAt]
        · funext x
          simp [World.sectorIdAt]
      have hreordered := h.reorder hsame rfl
      simpa [next, promoted, Asking.next, Asking.remaining, Asking.outcome, Cluster.next]
        using hreordered
  | rehashFixtures k x order =>
      cases hfind : (s.asking.cluster.worlds k).sectors.find x with
      | none =>
          simpa [next, promoted, Asking.next, Asking.remaining, Asking.outcome, Cluster.next, hfind]
            using h
      | some entry =>
          cases entry with
          | none =>
              simpa [next, promoted, Asking.next, Asking.remaining, Asking.outcome, Cluster.next,
                hfind] using h
          | some sector =>
              have hsame : World.Same (s.asking.cluster.worlds k)
                  ((s.asking.cluster.worlds k).setSector x
                    { sector with fixtures := sector.fixtures.reorder order }) := by
                refine World.same_setSector hfind rfl fun o => ?_
                simp [SectorSystem.getFixture]
              have hreordered := h.reorder hsame rfl
              simpa [next, promoted, Asking.next, Asking.remaining, Asking.outcome, Cluster.next,
                hfind] using hreordered

/-! ## Runs -/

/-- The invariant of the runs that assign no id twice. -/
structure Holds (D : Deployment) (s : Chase) : Prop where
  holding : Cluster.Holding D (fun _ v => SingleOwner v) (fun _ => True) s.asking.cluster
  chased : Chased D s.asking.cluster s.asking.posted s.legs
  answers : ∀ a ∈ s.asking.answers, a.origin.hops ≤ (s.legs a.request.objectId).length

theorem holds_new (D : Deployment) : Holds D ⟨⟨Cluster.new D, [], []⟩, fun _ => []⟩ := by
  have hholding : Cluster.Holding D (fun _ v => SingleOwner v) (fun _ => True) (Cluster.new D) :=
    Cluster.holding_singleOwner (.init rfl)
  refine ⟨hholding, ⟨rfl, fun o => ?_⟩, fun _ ha => by cases ha⟩
  refine ⟨rfl, fun _ => rfl, Trail.linked_nil, fun _ _ _ hl => ?_, fun _ hp => ?_,
    fun _ _ hk => ?_, fun _ hp => ?_, List.Pairwise.nil⟩
  · cases hl
  · cases hp
  · cases hk
  · cases hp

/-- An object with an owner is there. -/
theorem alive_of_owns {c : Cluster} (hsound : Cluster.Sound D c) {k x o : Nat}
    (howns : c.owns k x o = true) : (c.view D o).Alive := by
  obtain ⟨f, hf, hobs⟩ := Asking.fixture_of_owns howns
  exact .inl ⟨x, (hsound.mem_owners.1 (show (k, x) ∈ c.owners o from ⟨f, hf, hobs⟩)).2⟩

theorem Holds.step (h : Holds D s) {e : Event} {s' : Chase}
    (hstep : ((machine D).restrict assignsFreshId).step s e s') : Holds D s' := by
  obtain ⟨hfresh, ⟨_, henabled, _⟩, rfl⟩ := hstep
  have hholding : Cluster.Holding D (fun _ v => SingleOwner v) (fun _ => True)
      (s.asking.cluster.next D e) := by
    refine h.holding.step (.inl trivial) ?_ ⟨henabled, rfl⟩
    intro o act v v' fault hpermits hv hsingle hview
    have hfresh' := Cluster.spawnsFresh_of_assignsFreshId hfresh hpermits hv
    exact ⟨hsingle.step hfresh' hview, fun _ _ => trivial⟩
  refine ⟨hholding, chased_next h.chased h.holding hfresh, fun a ha => ?_⟩
  have hlonger : ∀ o, (s.legs o).length ≤ ((s.next D e).legs o).length := by
    intro o
    change _ ≤ (s.legs o ++ promoted s.asking.cluster e o).length
    rw [List.length_append]
    exact Nat.le_add_right _ _
  rcases List.mem_append.1 ha with ha | ha
  · exact (h.answers a ha).trans (hlonger _)
  cases harrival : s.asking.arrival e with
  | none =>
      rw [harrival] at ha
      split at ha
      next heq => cases heq
      next => cases ha
  | some arrived =>
      obtain ⟨origin, request⟩ := arrived
      rw [harrival] at ha
      split at ha
      next k r origin' request' houtcome heq =>
        cases heq
        have howns : s.asking.cluster.owns k request.sectorId request.objectId = true := by
          by_contra hnot
          rw [if_neg hnot] at ha
          cases ha
        rw [if_pos howns] at ha
        obtain rfl := List.mem_singleton.1 ha
        refine le_trans ?_ (hlonger _)
        have halive := alive_of_owns h.holding.sound howns
        cases e with
        | spawn | update | rehashSectors | rehashFixtures => cases harrival
        | move k agency packet =>
            unfold Asking.arrival at harrival
            dsimp only at harrival
            split_ifs at harrival
            cases harrival
            exact Nat.zero_le _
        | remove k agency packet =>
            unfold Asking.arrival at harrival
            dsimp only at harrival
            split_ifs at harrival
            cases harrival
            exact Nat.zero_le _
        | deliver index now =>
            cases hhead : s.asking.cluster.channelHead index with
            | none =>
                simp [Asking.outcome, hhead] at houtcome
            | some e =>
                -- the request has followed one of the promotions
                obtain ⟨hposted, hrequest⟩ := posted_of_arrival h.chased.flight hhead harrival
                have hid : request.objectId = e.packet.objectId := by
                  cases hp : e.packet <;> rw [hp] at hrequest <;> cases hrequest <;> rfl
                dsimp only at halive ⊢
                rw [hid] at halive ⊢
                have hline : (e, some origin) ∈ lineOf e.packet.objectId s.asking.posted :=
                  List.mem_filter.2 ⟨List.mem_of_getElem? hposted, by simp⟩
                obtain ⟨n, hleg, hhops⟩ :=
                  (h.chased.journeys e.packet.objectId).follows _ hline origin rfl
                exact (hhops halive).trans (List.getElem?_eq_some_iff.1 hleg).1
      next => cases ha

theorem holds_of_reachable (h : ((machine D).restrict assignsFreshId).Reachable s) : Holds D s := by
  refine Machine.Reachable.invariant (M := (machine D).restrict assignsFreshId) (P := Holds D)
    ?_ ?_ h
  · rintro s rfl
    exact holds_new D
  · intro s e s' h hstep
    exact h.step hstep

/-- In every run that assigns no id twice, in whatever order packets are delivered: a request that
has reached the owner was passed on at most as often as the object had been promoted, and so was a
request under way, as long as the object has an owner or its promotion is under way. -/
theorem passedOn_le_promotions (h : ((machine D).restrict assignsFreshId).Reachable s) :
    (∀ a ∈ s.asking.answers, a.origin.hops ≤ (s.legs a.request.objectId).length) ∧
      ∀ e origin, (e, some origin) ∈ s.asking.posted → s.Alive e.packet.objectId →
        origin.hops ≤ (s.legs e.packet.objectId).length := by
  have hholds := holds_of_reachable h
  refine ⟨hholds.answers, fun e origin hmem halive => ?_⟩
  have hline : (e, some origin) ∈ lineOf e.packet.objectId s.asking.posted :=
    List.mem_filter.2 ⟨hmem, by simp⟩
  have hjourney := hholds.chased.journeys e.packet.objectId
  -- a character that is known in the cluster is alive in the view of its id
  have halive' : (s.asking.cluster.view D e.packet.objectId).Alive := by
    rcases halive with ⟨⟨k, x⟩, howner⟩ | hnil
    · exact .inl ⟨x, (hholds.holding.sound.mem_owners.1 howner).2⟩
    · obtain ⟨p, hp⟩ := List.exists_mem_of_ne_nil _ hnil
      obtain ⟨hflight, hpromotion⟩ := List.mem_filter.1 hp
      rw [hholds.chased.flight] at hflight
      obtain ⟨q, hq, rfl⟩ := List.mem_map.1 hflight
      simp only [Bool.and_eq_true, beq_iff_eq] at hpromotion
      exact .inr (hjourney.promotions_ne_nil.2
        ⟨q, List.mem_filter.2 ⟨hq, by simpa using hpromotion.2⟩, hpromotion.1⟩)
  obtain ⟨n, hleg, hhops⟩ := hjourney.follows _ hline origin rfl
  exact (hhops halive').trans (List.getElem?_eq_some_iff.1 hleg).1

/-! ## Objects without owner -/

/-- Two servers remember each other's sectors for an object that neither has, and a request for its
owner is all that is under way. -/
structure Circling (D : Deployment) (s : Chase) (o k x j y : Nat) (origin : Origin) : Prop where
  sectors : x ∈ D.sectorsOf k ∧ y ∈ D.sectorsOf j
  running : s.asking.cluster.halted k = none ∧ s.asking.cluster.halted j = none
  missing : s.asking.cluster.fixtureAt k x o = none ∧ s.asking.cluster.fixtureAt j y o = none
  remembered : (s.asking.cluster.worlds k).promotedTo o = some y ∧
    (s.asking.cluster.worlds j).promotedTo o = some x
  request : ∃ e, s.asking.posted = [(e, some origin)] ∧ e.target = k ∧ e.packet.sectorId = x ∧
    e.packet.objectId = o ∧ e.packet.toOwner = true

/-- A request that finds nothing is passed on, and the server stays as it is. -/
theorem handle_missing {w : World} {x o y : Nat} {packet : PlayPacket} (source : Nat)
    (now : Milliseconds) (hsector : w.sectorIdAt x = some x) (hmissing : w.fixtureAt x o = none)
    (hremembered : w.promotedTo o = some y) (hx : packet.sectorId = x) (ho : packet.objectId = o)
    (hto : packet.toOwner = true) :
    ∃ packet', w.handle source packet now =
        { world := w, posts := [.toSectorOwner packet' y] } ∧
      packet'.sectorId = y ∧ packet'.objectId = o ∧ packet'.toOwner = true ∧
      (ClientRequest.ofPacket packet).isSome = true := by
  obtain ⟨sector, hfind, _⟩ := World.find_of_sectorIdAt hsector
  rw [World.fixtureAt_of_find hfind] at hmissing
  obtain ⟨promoted, hrecord, rfl⟩ := Option.map_eq_some_iff.1 hremembered
  subst hx ho
  cases packet with
  | createObservingObjectRq | removeObservingObjectRq | promoteObjectRq => cases hto
  | characterMoveRq packet =>
      simp only [PlayPacket.sectorId, PlayPacket.objectId, PlayPacket.toOwner] at *
      refine ⟨.characterMoveRq { packet with sectorId := promoted.promotedSectorId }, ?_, rfl, rfl,
        hto, rfl⟩
      simp [World.handle, World.moveObject, World.sectorAt_of_find hfind, hmissing, hto,
        World.forward, hrecord]
  | removeCharacterRq packet =>
      simp only [PlayPacket.sectorId, PlayPacket.objectId, PlayPacket.toOwner] at *
      refine ⟨.removeCharacterRq { packet with sectorId := promoted.promotedSectorId }, ?_, rfl, rfl,
        hto, rfl⟩
      simp [World.handle, World.removeCharacter, World.sectorAt_of_find hfind, hmissing, hto,
        World.forward, hrecord]

/-- The request goes to the other server. -/
theorem Circling.step {o k x j y : Nat} {origin : Origin} (h : Circling D s o k x j y origin)
    (hreach : ((machine D).restrict assignsFreshId).Reachable s) (now : Milliseconds) :
    ((machine D).restrict assignsFreshId).Reachable (s.next D (.deliver 0 now)) ∧
      Circling D (s.next D (.deliver 0 now)) o j y k x origin.passOn ∧
      (s.next D (.deliver 0 now)).legs o = s.legs o := by
  obtain ⟨e, hposted, rfl, hsector, hobject, hto⟩ := h.request
  have hholds := holds_of_reachable hreach
  -- nothing but the request is under way
  have hflight : s.asking.cluster.flight = [e] := by
    rw [hholds.chased.flight, hposted]
    rfl
  have hhead : s.asking.cluster.channelHead 0 = some e := by
    simp [Cluster.channelHead, hflight]
  -- the server has no fixture of the object and remembers the sector of the other one
  obtain ⟨packet, hhandle, hsector', hobject', hto', hrequest⟩ :=
    handle_missing e.source now (hholds.holding.sound.sectorIdAt h.sectors.1) h.missing.1
      h.remembered.1 hsector hobject hto
  obtain ⟨request, hrequest⟩ := Option.isSome_iff_exists.1 hrequest
  have hroute : route D e.target [.toSectorOwner packet y] = [⟨e.target, j, packet⟩] := by
    simp [route, (D.mem_sectorsOf.1 h.sectors.2).2]
  have hworlds : (s.next D (.deliver 0 now)).asking.cluster.worlds = s.asking.cluster.worlds := by
    simp [next, Asking.next, Cluster.next, hhead, hhandle, Cluster.absorb]
  have hhalted : (s.next D (.deliver 0 now)).asking.cluster.halted = s.asking.cluster.halted := by
    simp [next, Asking.next, Cluster.next, hhead, hhandle, Cluster.absorb]
  have hfixtures : ∀ k' x', (s.next D (.deliver 0 now)).asking.cluster.fixtureAt k' x' o =
      s.asking.cluster.fixtureAt k' x' o := by
    intro k' x'
    rw [Cluster.fixtureAt, hworlds]
    rfl
  refine ⟨.step (e := .deliver 0 now) hreach
    ⟨trivial, ⟨trivial, ⟨e.target, ?_, h.running.1⟩, rfl⟩, rfl⟩, ?_, ?_⟩
  · simp [Cluster.actor, hhead]
  · refine ⟨h.sectors.symm, hhalted ▸ h.running.symm, ?_, hworlds ▸ h.remembered.symm,
      ⟨e.target, j, packet⟩, ?_, rfl, hsector', hobject', hto'⟩
    · rw [hfixtures, hfixtures]
      exact h.missing.symm
    · simp [next, Asking.next, Asking.remaining, Asking.outcome, Asking.arrival, hhead, hhandle,
        hposted, hroute, hrequest, Asking.label, hto']
  -- the request that is passed on is no promotion, so no leg is added
  · have hpromote : packet.isPromote = false := by
      cases packet with
      | promoteObjectRq => cases hto'
      | _ => rfl
    simp [next, promoted, Asking.outcome, hhead, hhandle, legsOf, legOf, hpromote]

/-- An object that has been removed may be sought for as long as two servers remember each other's
sectors for it: its promotions do not bound how often a request is passed on. -/
theorem circles {o k x j y : Nat} {origin : Origin} (h : Circling D s o k x j y origin)
    (hreach : ((machine D).restrict assignsFreshId).Reachable s) (n : Nat) :
    ∃ s' e origin', ((machine D).restrict assignsFreshId).Reachable s' ∧
      (e, some origin') ∈ s'.asking.posted ∧ e.packet.objectId = o ∧
      origin'.hops = origin.hops + n ∧ s'.legs o = s.legs o := by
  induction n generalizing s k x j y origin with
  | zero =>
      obtain ⟨e, hposted, _, _, hobject, _⟩ := h.request
      exact ⟨s, e, origin, hreach, hposted ▸ List.mem_singleton_self _, hobject, rfl, rfl⟩
  | succ n ih =>
      obtain ⟨hreach', hcircling, hlegs⟩ := h.step hreach 0
      obtain ⟨s', e, origin', hreached, hmem, hobject, hhops, hlegs'⟩ := ih hcircling hreach'
      refine ⟨s', e, origin', hreached, hmem, hobject, ?_, hlegs'.trans hlegs⟩
      rw [hhops]
      change origin.hops + 1 + n = origin.hops + (n + 1)
      omega

/-! ## An object that goes there and back -/

section Sample

open Cluster (threeServers firstId)

def clockAt (now : Nat) : World.Clock := ⟨now, 0, now, fun _ _ => now⟩

/-- A move of the object, in the sector that the agency takes it to be in. -/
def moveTo (server sectorId : Nat) (position : Vector2) : Event :=
  .move server 9 ⟨sectorId, firstId, position, .Max, true⟩

/-- The object is handed over from server 2 to server 3 and back, and two requests that come late to
server 3 follow it; one of them has met it. -/
def returnEvents : List Event :=
  [.spawn 2 9 ⟨1, 12, ⟨4500, 2500⟩, ⟨100, 100⟩⟩ 0, moveTo 2 12 ⟨5300, 2500⟩,
   .update 2 (clockAt 1000), .deliver 0 1000, .deliver 0 1000, moveTo 3 13 ⟨2500, 2500⟩, .update 3 (clockAt 2000),
   moveTo 3 13 ⟨2400, 2500⟩, moveTo 3 13 ⟨2300, 2500⟩, .deliver 0 2000, .deliver 0 2000,
   .deliver 0 2000]

def new : Chase := ⟨⟨Cluster.new threeServers, [], []⟩, fun _ => []⟩

def met : Chase := returnEvents.foldl (next threeServers) new

/-- It is removed before the other one meets it. -/
def missed : Chase :=
  [Event.remove 2 9 ⟨1, 12, firstId, true⟩, .deliver 0 2000, .deliver 0 2000].foldl
    (next threeServers) met

theorem admits_asking {k : Nat} (hk : k = 2 ∨ k = 3) :
    (∃ x, threeServers.owner x = some k) ∧ ∀ x, threeServers.owner x ≠ some 9 := by
  refine ⟨?_, fun x => ?_⟩
  · rcases hk with rfl | rfl
    · exact ⟨12, rfl⟩
    · exact ⟨13, rfl⟩
  · unfold threeServers
    dsimp only
    split_ifs <;> simp

theorem reachable_met : ((machine threeServers).restrict assignsFreshId).Reachable met := by
  have hrun : ((machine threeServers).restrict assignsFreshId).Run new returnEvents met := by
    refine .cons ⟨?_, ⟨trivial, ⟨2, rfl, rfl⟩, rfl⟩, rfl⟩
      (.cons ⟨trivial, ⟨admits_asking (.inl rfl), ⟨2, rfl, ?_⟩, rfl⟩, rfl⟩
      (.cons ⟨trivial, ⟨trivial, ⟨2, rfl, ?_⟩, rfl⟩, rfl⟩
      (.cons ⟨trivial, ⟨trivial, ⟨3, ?_, ?_⟩, rfl⟩, rfl⟩
      (.cons ⟨trivial, ⟨trivial, ⟨3, ?_, ?_⟩, rfl⟩, rfl⟩
      (.cons ⟨trivial, ⟨admits_asking (.inr rfl), ⟨3, rfl, ?_⟩, rfl⟩, rfl⟩
      (.cons ⟨trivial, ⟨trivial, ⟨3, rfl, ?_⟩, rfl⟩, rfl⟩
      (.cons ⟨trivial, ⟨admits_asking (.inr rfl), ⟨3, rfl, ?_⟩, rfl⟩, rfl⟩
      (.cons ⟨trivial, ⟨admits_asking (.inr rfl), ⟨3, rfl, ?_⟩, rfl⟩, rfl⟩
      (.cons ⟨trivial, ⟨trivial, ⟨2, ?_, ?_⟩, rfl⟩, rfl⟩
      (.cons ⟨trivial, ⟨trivial, ⟨2, ?_, ?_⟩, rfl⟩, rfl⟩
      (.cons ⟨trivial, ⟨trivial, ⟨2, ?_, ?_⟩, rfl⟩, rfl⟩ (.nil _))))))))))))
    · intro id _
      exact List.not_mem_nil
    all_goals decide +kernel
  exact hrun.reachable (.init rfl)

theorem reachable_missed : ((machine threeServers).restrict assignsFreshId).Reachable missed := by
  have hrun : ((machine threeServers).restrict assignsFreshId).Run met
      [.remove 2 9 ⟨1, 12, firstId, true⟩, .deliver 0 2000, .deliver 0 2000] missed := by
    refine .cons ⟨trivial, ⟨admits_asking (.inl rfl), ⟨2, rfl, ?_⟩, rfl⟩, rfl⟩
      (.cons ⟨trivial, ⟨trivial, ⟨2, ?_, ?_⟩, rfl⟩, rfl⟩
      (.cons ⟨trivial, ⟨trivial, ⟨3, ?_, ?_⟩, rfl⟩, rfl⟩ (.nil _)))
    all_goals decide +kernel
  exact hrun.reachable reachable_met

/-- Both requests were passed on once, and the object was promoted twice. -/
theorem passedOn_le_promotions_met :
    (∃ a ∈ met.asking.answers, a.origin.hops = 1 ∧
        a.origin.hops ≤ (met.legs a.request.objectId).length) ∧
      ∃ e origin, (e, some origin) ∈ met.asking.posted ∧ origin.hops = 1 ∧
        origin.hops ≤ (met.legs e.packet.objectId).length := by
  have hbounds := passedOn_le_promotions reachable_met
  have hanswers : met.asking.answers.any (fun a => a.origin.hops == 1) = true := by decide +kernel
  obtain ⟨a, ha, hone⟩ := List.any_eq_true.1 hanswers
  have hposted : met.asking.posted[0]?.map (fun p =>
      (p.2.map Origin.hops, met.asking.cluster.owns 2 12 p.1.packet.objectId)) =
        some (some 1, true) := by
    decide +kernel
  obtain ⟨⟨e, label⟩, hget, heq⟩ := Option.map_eq_some_iff.1 hposted
  obtain ⟨hlabel, howns⟩ := Prod.mk.inj heq
  obtain ⟨origin, rfl, hhops⟩ := Option.map_eq_some_iff.1 hlabel
  have halive : met.Alive e.packet.objectId := .inl ⟨(2, 12), Asking.fixture_of_owns howns⟩
  have hmem := List.mem_of_getElem? hget
  exact ⟨⟨a, ha, by simpa using hone, hbounds.1 a ha⟩, e, origin, hmem, hhops,
    hbounds.2 e origin hmem halive⟩

theorem circling_missed :
    ∃ origin, origin.hops = 2 ∧ Circling threeServers missed firstId 3 13 2 12 origin := by
  have hposted : missed.asking.posted.map (fun p => (p.1.target, p.1.packet.sectorId,
      p.1.packet.objectId, p.1.packet.toOwner, p.2.map Origin.hops)) =
        [(3, 13, firstId, true, some 2)] := by
    decide +kernel
  obtain ⟨⟨e, label⟩, hone, heq⟩ := List.map_eq_singleton_iff.1 hposted
  simp only [Prod.mk.injEq] at heq
  obtain ⟨htarget, hsector, hobject, hto, hlabel⟩ := heq
  obtain ⟨origin, rfl, hhops⟩ := Option.map_eq_some_iff.1 hlabel
  refine ⟨origin, hhops, ⟨?_, ?_, ?_, ?_, e, hone, htarget, hsector, hobject, hto⟩⟩ <;>
    decide +kernel

/-- The object was promoted twice, and the request is passed on a thousand times and more. -/
theorem circles_missed :
    ∃ s e origin, ((machine threeServers).restrict assignsFreshId).Reachable s ∧
      (e, some origin) ∈ s.asking.posted ∧ e.packet.objectId = firstId ∧ origin.hops = 1002 ∧
      (s.legs firstId).length = 2 := by
  obtain ⟨origin, htwo, hcircling⟩ := circling_missed
  obtain ⟨s, e, origin', hreach, hmem, hobject, hhops, hlegs⟩ :=
    circles hcircling reachable_missed 1000
  refine ⟨s, e, origin', hreach, hmem, hobject, ?_, ?_⟩
  · rw [hhops, htwo]
  · rw [hlegs]
    decide +kernel

end Sample

end Chase

end Game
end SeamlessServer
