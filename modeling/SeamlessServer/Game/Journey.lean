import SeamlessServer.Data.Trail
import SeamlessServer.Game.Answers

/-!
# Game.Journey — the promotions of an object, and the requests that follow them

A server that has promoted an object remembers the sector, and passes requests on to it.  By the
time such a request arrives the object may have been promoted once more, and the request goes on.

`Journey` is the invariant of one object.  A request follows a promotion through the same channel,
so it arrives behind it; if the object is gone already, it was promoted on, and the server points
along a later promotion (`Data.Trail`).
-/

namespace SeamlessServer
namespace Game

open Utility Protocol

/-! ## Promotions among postings -/

def legOf (k o : Nat) : Posting → Option (Leg Nat Nat)
  | .toSectorOwner packet x =>
      if packet.isPromote = true ∧ packet.objectId = o then some ⟨k, x⟩ else none
  | _ => none

/-- The promotions of an object that a server posts. -/
def legsOf (k o : Nat) (posts : List Posting) : List (Leg Nat Nat) := posts.filterMap (legOf k o)

@[simp] theorem legsOf_nil (k o : Nat) : legsOf k o [] = [] := rfl

theorem legsOf_promotion (k o : Nat) (s : Nat) (info : ObjectInfo) (x : Nat) :
    legsOf k o [.toSectorOwner (.promoteObjectRq s info) x] =
      if info.objectId = o then [⟨k, x⟩] else [] := by
  by_cases ho : info.objectId = o <;>
    simp [legsOf, legOf, PlayPacket.isPromote, PlayPacket.objectId, ho]

theorem legsOf_append (k o : Nat) (posts posts' : List Posting) :
    legsOf k o (posts ++ posts') = legsOf k o posts ++ legsOf k o posts' :=
  List.filterMap_append

theorem legsOf_eq {posts : List Posting} {packets : List PlayPacket}
    (h : ownerPosts posts = addressed packets) (k o : Nat) :
    legsOf k o posts =
      ((promotions packets).filter fun q => q.objectId = o).map fun q => ⟨k, q.sectorId⟩ := by
  have hposts : legsOf k o posts =
      (ownerPosts posts).filterMap fun p => legOf k o (.toSectorOwner p.1 p.2) := by
    rw [legsOf, ownerPosts, List.filterMap_filterMap]
    congr 1
    funext post
    cases post <;> rfl
  rw [hposts, h, addressed, List.filterMap_map, promotions, List.filter_filter,
    ← List.filterMap_eq_map, ← List.filterMap_eq_filter, List.filterMap_filterMap]
  congr 1
  funext q
  by_cases hq : q.isPromote = true ∧ q.objectId = o
  · simp [legOf, Option.guard, hq]
  · have hq' : ¬ (q.objectId = o ∧ q.isPromote = true) := fun h => hq h.symm
    simp [legOf, Option.guard, hq, hq']

theorem legsOf_eq_nil {posts : List Posting} {packets : List PlayPacket}
    (h : ownerPosts posts = addressed packets) (hnone : promotions packets = []) (k o : Nat) :
    legsOf k o posts = [] := by
  rw [legsOf_eq h, hnone]
  rfl

/-- No promotion is among the packets about another object. -/
theorem legsOf_of_about {posts : List Posting} {packets : List PlayPacket} {o' : Nat}
    (h : ownerPosts posts = addressed packets) (habout : ∀ q ∈ packets, About o' q) (k : Nat)
    {o : Nat} (ho : o ≠ o') : legsOf k o posts = [] := by
  rw [legsOf_eq h, List.map_eq_nil_iff, List.filter_eq_nil_iff]
  intro q hq heq
  have hq' := (habout q (List.mem_of_mem_filter hq)).1
  exact ho ((of_decide_eq_true heq).symm.trans hq')

theorem Round.id_eq {x : Nat} {f f' : Fixture} {packets : List PlayPacket} {fault : Option Fault}
    (h : Round x f f' packets fault) : f'.id = f.id := by
  cases h <;> rfl

/-! ## What a server remembers -/

namespace World

/-- The sector that the server remembers for the object. -/
def promotedTo (w : World) (o : Nat) : Option Nat :=
  (w.promotedObjectList.find o).map PromotedObjectInfo.promotedSectorId

theorem promotedObjectList_sectorAt (w : World) (x : Nat) :
    (w.sectorAt x).1.promotedObjectList = w.promotedObjectList := by
  unfold sectorAt
  split <;> rfl

theorem promotedObjectList_forward (w : World) (o : Nat) (packetTo : Nat → PlayPacket) :
    (w.forward o packetTo).world.promotedObjectList = w.promotedObjectList := by
  unfold forward
  split <;> rfl

/-- Handlers leave the record of promoted objects alone. -/
theorem promotedObjectList_handle (w : World) (source : Nat) (packet : PlayPacket)
    (now : Milliseconds) :
    (w.handle source packet now).world.promotedObjectList = w.promotedObjectList := by
  have hsector := promotedObjectList_sectorAt w packet.sectorId
  cases packet with
  | createObservingObjectRq s info =>
      simp only [handle, createObservingObject, PlayPacket.sectorId] at hsector ⊢
      generalize w.sectorAt info.sectorId = found at hsector ⊢
      obtain ⟨w', sector⟩ := found
      (repeat' split) <;> simp_all [setSector]
  | removeObservingObjectRq x o =>
      simp only [handle, removeObservingObject, PlayPacket.sectorId] at hsector ⊢
      generalize w.sectorAt x = found at hsector ⊢
      obtain ⟨w', sector⟩ := found
      (repeat' split) <;> simp_all [setSector]
  | promoteObjectRq s info =>
      simp only [handle, promoteObservingObject, PlayPacket.sectorId] at hsector ⊢
      generalize w.sectorAt info.sectorId = found at hsector ⊢
      obtain ⟨w', sector⟩ := found
      (repeat' split) <;> simp_all [setSector]
  | characterMoveRq packet =>
      simp only [handle, moveObject, PlayPacket.sectorId] at hsector ⊢
      generalize w.sectorAt packet.sectorId = found at hsector ⊢
      obtain ⟨w', sector⟩ := found
      (repeat' split) <;> simp_all [setSector, promotedObjectList_forward]
  | removeCharacterRq packet =>
      simp only [handle, removeCharacter, PlayPacket.sectorId] at hsector ⊢
      generalize w.sectorAt packet.sectorId = found at hsector ⊢
      obtain ⟨w', sector⟩ := found
      (repeat' split) <;> simp_all [setSector, promotedObjectList_forward]

theorem promotedObjectList_spawnCharacter (w : World) (source : Nat) (packet : SpawnCharacterRq)
    (now : Milliseconds) :
    (w.spawnCharacter source packet now).world.promotedObjectList = w.promotedObjectList := by
  have hsector := promotedObjectList_sectorAt w packet.sectorId
  unfold spawnCharacter
  generalize w.sectorAt packet.sectorId = found at hsector ⊢
  obtain ⟨w', sector⟩ := found
  (repeat' split) <;> simp_all [setSector]

/-- A sector stored back with the same fixtures. -/
theorem same_setSector {w : World} {x : Nat} {sector sector' : SectorSystem}
    (h : w.sectors.find x = some (some sector)) (hid : sector'.sectorId = sector.sectorId)
    (hsame : ∀ o, sector'.getFixture o = sector.getFixture o) : Same w (w.setSector x sector') := by
  refine ⟨fun y o => ?_, funext fun y => ?_⟩
  · by_cases hy : y = x
    · subst hy
      simp [fixtureAt, setSector, h, hsame]
    · simp [fixtureAt, setSector, hy]
  · by_cases hy : y = x
    · subst hy
      simp [sectorIdAt, setSector, h, hid]
    · simp [sectorIdAt, setSector, hy]

/-- Objects are forgotten, and none is recorded. -/
theorem promotedTo_forgetPromoted {w : World} {tick : Milliseconds} {o x : Nat}
    (h : (w.forgetPromoted tick).promotedTo o = some x) : w.promotedTo o = some x := by
  have hfold : ∀ (ids : List Nat) (m : UnorderedMap Nat PromotedObjectInfo)
      (p : PromotedObjectInfo), (ids.foldl UnorderedMap.erase m).find o = some p → m.find o = some p := by
    intro ids
    induction ids with
    | nil =>
        intro m p hp
        exact hp
    | cons id ids ih =>
        intro m p hp
        have herase := ih _ _ hp
        rw [UnorderedMap.find_erase] at herase
        split_ifs at herase
        exact herase
  obtain ⟨p, hp, rfl⟩ := Option.map_eq_some_iff.1 h
  exact Option.map_eq_some_iff.2 ⟨p, hfold _ _ _ hp, rfl⟩

/-! ### Promotions of a round -/

theorem legsOf_exchange (k o : Nat) (info : ObjectInfo) (p : Direction) (x : Nat)
    (location : FixtureLocation) (q : Direction) (d : Nat) :
    legsOf k o (exchangeObservingObject info p x location q d) = [] :=
  legsOf_eq_nil (ownerPosts_exchange info p x location q d) (promotions_exchangePackets ..) k o

theorem legsOf_sendCreate (k o : Nat) (sectors : List Nat) (x : Nat) (info : ObjectInfo) :
    legsOf k o (sendCreateObservingObject sectors x info) = [] := by
  refine legsOf_eq_nil (ownerPosts_sendCreate sectors x info) (promotions_eq_nil ?_) k o
  intro q hq
  obtain ⟨y, _, rfl⟩ := List.mem_map.1 hq
  rfl

/-- What a change posts and what it records are the same promotion. -/
def Change.Remembers (k o : Nat) (change : Change) : Prop :=
  legsOf k o change.posts = change.promoted.toList.map fun p => ⟨k, p.promotedSectorId⟩

theorem Change.Remembers.settle {k o : Nat} {change : Change} (h : change.Remembers k o)
    (location : FixtureLocation) (phase : Direction) :
    (change.settle location phase).Remembers k o := by
  unfold Change.settle
  split
  · exact h
  · exact h

theorem remembers_onChangeFixtureLocation (k x : Nat) (f : Fixture) (location : FixtureLocation)
    (phase : Direction) (now : Milliseconds) :
    (onChangeFixtureLocation x f location phase now).Remembers k f.id := by
  unfold onChangeFixtureLocation Change.Remembers
  dsimp only
  split_ifs <;> simp [legsOf_append, legsOf_exchange, legsOf_sendCreate, legsOf_promotion]

theorem remembers_updateFixture (k x : Nat) (f : Fixture) (clock : Clock) :
    (updateFixture x f clock).Remembers k f.id := by
  have hstill : ∀ g : Fixture, Change.Remembers k f.id { fixture := g } := fun _ => rfl
  have hid : (f.move clock.deltaTime).id = f.id := Fixture.move_id _ _
  have hlocation := fun location phase now => (hid ▸
    remembers_onChangeFixtureLocation k x (f.move clock.deltaTime) location phase now).settle
      location phase
  unfold updateFixture
  dsimp only
  split_ifs
  · exact hstill _
  · exact hstill _
  · unfold transform
    dsimp only
    split
    · split_ifs
      · exact hlocation _ _ _
      · exact hstill _
    · split_ifs
      · exact hlocation _ _ _
      · exact hlocation _ _ _
      · -- a change of phase promotes nothing
        refine Change.Remembers.settle ?_ _ _
        unfold onChangeFixturePhase
        split_ifs
        exact legsOf_exchange ..
      · exact hstill _
      · exact hstill _
    · exact hstill _

theorem legsOf_round {x k o : Nat} {f f' : Fixture} {packets : List PlayPacket}
    {fault : Option Fault} {posts : List Posting} (hround : Round x f f' packets fault)
    (hposts : ownerPosts posts = addressed packets) (hid : f.id = o) :
    legsOf k o posts = (promotions packets).map fun q => ⟨k, q.sectorId⟩ := by
  rw [legsOf_eq hposts, List.filter_eq_self.2]
  intro q hq
  exact decide_eq_true ((hround.about q (List.mem_of_mem_filter hq)).1.trans hid)

/-- A round records what it promotes. -/
theorem promotedTo_updateObject {w : World} (clock : Clock) {x o : Nat}
    (hat : ∀ f, w.fixtureAt x o = some f → f.id = o) (k o' : Nat) :
    (w.updateObject clock x o).world.promotedTo o' =
      if o' = o then
        ((legsOf k o (w.updateObject clock x o).posts).head?.map Leg.dest).or (w.promotedTo o)
      else
        w.promotedTo o' := by
  unfold updateObject
  split
  next sector hfind =>
    have hfix := fixtureAt_of_find hfind o
    cases hf : sector.getFixture o with
    | none =>
        dsimp only
        split_ifs with ho
        · rw [ho]
          rfl
        · rfl
    | some f =>
        have hid := hat f (hfix.trans hf)
        have hremembers := remembers_updateFixture k x f clock
        rw [hid] at hremembers
        dsimp only
        rw [hremembers]
        -- what is remembered is where the round has promoted the fixture to, if it has
        have hchange := updateFixture_isRound x f clock
        cases hpromoted : (updateFixture x f clock).promoted with
        | none =>
            split_ifs with ho
            · rw [ho]
              rfl
            · rfl
        | some promoted =>
            have hkey : (updateFixture x f clock).fixture.id = o := by
              obtain ⟨packets, hround, _⟩ := hchange
              rw [hround.id_eq, Fixture.move_id, hid]
            by_cases ho : o' = o
            · simp [promotedTo, ho, hkey]
            · simp [promotedTo, ho, hkey, setSector]
  next =>
    split_ifs with ho
    · rw [ho]
      rfl
    · rfl

end World

/-! ## The invariant of an object -/

/-- The object has an owner, or is being handed over. -/
def View.Alive (v : View) : Prop := (∃ x, isOwner (v.copies x) = true) ∨ promotions v.queue ≠ []

/-- The way a packet takes. -/
def Envelope.way (e : Envelope) : Leg Nat Nat := ⟨e.source, e.packet.sectorId⟩

/-- The journey of an object, with the packets about it in the order they were posted and the
sectors that servers remember for it. -/
structure Journey (D : Deployment) (v : View) (line : List (Envelope × Option Origin))
    (record : Nat → Option Nat) (legs : List (Leg Nat Nat)) : Prop where
  queue : v.queue = line.map fun p => p.1.packet
  blank : v.issued = false → legs = []
  linked : Trail.Linked D.owner legs
  owner : ∀ x, isOwner (v.copies x) = true → ∀ l, legs.getLast? = some l → l.dest = x
  underway : ∀ p ∈ line, p.1.packet.isPromote = true → legs.getLast? = some p.1.way
  remembered : ∀ k x, record k = some x → ∃ n, Trail.LastFrom legs k n x
  /-- A request that is passed on follows a promotion. -/
  follows : ∀ p ∈ line, ∀ origin, p.2 = some origin →
    ∃ n, legs[n]? = some p.1.way ∧ (v.Alive → origin.hops ≤ n + 1)
  /-- Ahead of a promotion are requests that follow earlier ones. -/
  behind : line.Pairwise fun p q => q.1.packet.isPromote = true → ∀ origin, p.2 = some origin →
    ∃ n, Trail.Along legs p.1.way n origin.hops ∧ n + 1 < legs.length

namespace Journey

variable {D : Deployment} {v v' : View} {line kept news : List (Envelope × Option Origin)}
  {record record' : Nat → Option Nat} {legs : List (Leg Nat Nat)}

theorem congr (h : Journey D v line record legs) (hcopies : v'.copies = v.copies)
    (hqueue : v'.queue = v.queue) (hissued : v'.issued = false → v.issued = false) :
    Journey D v' line record legs := by
  have halive : v'.Alive → v.Alive := by
    unfold View.Alive
    rw [hcopies, hqueue]
    exact id
  refine ⟨hqueue.trans h.queue, fun hnot => h.blank (hissued hnot), h.linked, hcopies ▸ h.owner,
    h.underway, h.remembered, fun p hp origin horigin => ?_, h.behind⟩
  obtain ⟨n, hleg, hhops⟩ := h.follows p hp origin horigin
  exact ⟨n, hleg, fun hv => hhops (halive hv)⟩

/-- Servers may forget. -/
theorem forget (h : Journey D v line record legs)
    (hrecord : ∀ k x, record' k = some x → record k = some x) : Journey D v line record' legs :=
  ⟨h.queue, h.blank, h.linked, h.owner, h.underway, fun k x hk => h.remembered k x (hrecord k x hk),
    h.follows, h.behind⟩

theorem promotions_ne_nil (h : Journey D v line record legs) :
    promotions v.queue ≠ [] ↔ ∃ p ∈ line, p.1.packet.isPromote = true := by
  rw [h.queue, promotions, ne_eq, List.filter_eq_nil_iff]
  simp

/-- Nothing is promoted, and an owner was one before or is the promoted object. -/
theorem keep (h : Journey D v line record legs)
    (hqueue : v'.queue = (kept ++ news).map fun p => p.1.packet)
    (hissued : v'.issued = false → v.issued = false) (hkept : kept.Sublist line)
    (howner : ∀ x, isOwner (v'.copies x) = true → isOwner (v.copies x) = true ∨
      ∃ p ∈ line, p.1.packet.isPromote = true ∧ p.1.packet.sectorId = x)
    (hquiet : ∀ p ∈ news, p.1.packet.isPromote = false)
    (hnews : ∀ p ∈ news, ∀ origin, p.2 = some origin →
      ∃ n, legs[n]? = some p.1.way ∧ (v.Alive → origin.hops ≤ n + 1))
    (hrecord : ∀ k x, record' k = some x → record k = some x) :
    Journey D v' (kept ++ news) record' legs := by
  -- no promotion is new
  have hold : ∀ p ∈ kept ++ news, p.1.packet.isPromote = true → p ∈ line := by
    intro p hp hpromote
    rcases List.mem_append.1 hp with hp | hp
    · exact hkept.subset hp
    · rw [hquiet p hp] at hpromote
      cases hpromote
  have halive : v'.Alive → v.Alive := by
    rintro (⟨x, hx⟩ | hnil)
    · rcases howner x hx with hx | ⟨p, hp, hpromote, _⟩
      · exact .inl ⟨x, hx⟩
      · exact .inr (h.promotions_ne_nil.2 ⟨p, hp, hpromote⟩)
    · rw [hqueue, promotions, ne_eq, List.filter_eq_nil_iff] at hnil
      push Not at hnil
      obtain ⟨q, hq, hpromote⟩ := hnil
      obtain ⟨p, hp, rfl⟩ := List.mem_map.1 hq
      exact .inr (h.promotions_ne_nil.2 ⟨p, hold p hp hpromote, hpromote⟩)
  refine ⟨hqueue, fun hnot => h.blank (hissued hnot), h.linked, fun x hx l hl => ?_,
    fun p hp hpromote => h.underway p (hold p hp hpromote) hpromote,
    fun k x hk => h.remembered k x (hrecord k x hk), fun p hp origin horigin => ?_, ?_⟩
  -- an owner that was promoted just now is where the last leg leads
  · rcases howner x hx with hx | ⟨p, hp, hpromote, rfl⟩
    · exact h.owner x hx l hl
    · rw [h.underway p hp hpromote] at hl
      cases hl
      rfl
  · have hfollows : ∃ n, legs[n]? = some p.1.way ∧ (v.Alive → origin.hops ≤ n + 1) := by
      rcases List.mem_append.1 hp with hp | hp
      · exact h.follows p (hkept.subset hp) origin horigin
      · exact hnews p hp origin horigin
    obtain ⟨n, hleg, hhops⟩ := hfollows
    exact ⟨n, hleg, fun hv => hhops (halive hv)⟩
  -- what is new is behind no promotion
  · refine List.pairwise_append.2 ⟨h.behind.sublist hkept, ?_, ?_⟩
    · refine List.pairwise_of_forall_mem_list fun p _ q hq hpromote => ?_
      rw [hquiet q hq] at hpromote
      cases hpromote
    · intro p _ q hq hpromote
      rw [hquiet q hq] at hpromote
      cases hpromote

/-- The owner is promoted: another leg. -/
theorem promote (h : Journey D v line record legs) (hsingle : SingleOwner v) {k x d : Nat}
    {F : Option Fixture} {packets : List PlayPacket} (hx : D.owner x = some k)
    (howner : isOwner (v.copies x) = true) (hobs : isOwner F = false)
    (hpackets : packets = news.map fun p => p.1.packet)
    (hnews : ∀ p ∈ news, p.2 = none ∧ (p.1.packet.isPromote = true → p.1.way = ⟨k, d⟩))
    (hrecord : ∀ k' y, record' k' = some y → k' = k ∧ y = d ∨ k' ≠ k ∧ record k' = some y) :
    Journey D (v.write x F packets) (line ++ news) record' (legs ++ [⟨k, d⟩]) := by
  have hnone : promotions v.queue = [] := hsingle.handOver x howner
  have hquiet : ∀ p ∈ line, p.1.packet.isPromote = false := by
    intro p hp
    by_contra hpromote
    exact h.promotions_ne_nil.2 ⟨p, hp, by simpa using hpromote⟩ hnone
  have hlast : (legs ++ [(⟨k, d⟩ : Leg Nat Nat)]).getLast? = some ⟨k, d⟩ := List.getLast?_concat
  refine ⟨?_, ?_, ?_, ?_, ?_, ?_, ?_, ?_⟩
  · change v.queue ++ packets = _
    rw [h.queue, hpackets, List.map_append]
  · intro hissued
    have hblank := (hsingle.blank hissued).1 x
    rw [hblank] at howner
    cases howner
  · refine h.linked.append fun l hl => ?_
    rw [h.owner x howner l hl]
    exact hx
  · -- there is no owner now
    intro y hy
    exfalso
    rw [SingleOwner.copies_write] at hy
    split_ifs at hy with hyx
    · rw [hobs] at hy
      cases hy
    · exact hyx (hsingle.single y x hy howner)
  · intro p hp hpromote
    rcases List.mem_append.1 hp with hp | hp
    · rw [hquiet p hp] at hpromote
      cases hpromote
    · rw [hlast, (hnews p hp).2 hpromote]
  · intro k' y hy
    rcases hrecord k' y hy with ⟨rfl, rfl⟩ | ⟨hne, hy⟩
    · exact ⟨_, Trail.lastFrom_append_self legs (⟨k', y⟩ : Leg Nat Nat)⟩
    · obtain ⟨n, hn⟩ := h.remembered k' y hy
      exact ⟨n, hn.append hne.symm⟩
  · intro p hp origin horigin
    rcases List.mem_append.1 hp with hp | hp
    · obtain ⟨n, hleg, hhops⟩ := h.follows p hp origin horigin
      exact ⟨n, Trail.getElem?_append_of_some hleg _, fun _ => hhops (.inl ⟨x, howner⟩)⟩
    · rw [(hnews p hp).1] at horigin
      cases horigin
  · refine List.pairwise_append.2 ⟨h.behind.imp ?_, ?_, ?_⟩
    · intro p q hpq hpromote origin horigin
      obtain ⟨n, halong, hn⟩ := hpq hpromote origin horigin
      refine ⟨n, halong.append _, ?_⟩
      rw [List.length_append]
      omega
    · refine List.pairwise_of_forall_mem_list fun p hp q _ _ origin horigin => ?_
      rw [(hnews p hp).1] at horigin
      cases horigin
    · -- whatever a request follows, it was posted before
      intro p hp q _ _ origin horigin
      obtain ⟨n, hleg, hhops⟩ := h.follows p hp origin horigin
      have hlt := (List.getElem?_eq_some_iff.1 hleg).1
      have halong : Trail.Along legs p.1.way n origin.hops := ⟨hleg, hhops (.inl ⟨x, howner⟩)⟩
      refine ⟨n, halong.append _, ?_⟩
      rw [List.length_append, List.length_singleton]
      omega

/-- An object comes into being: its journey has not begun. -/
theorem spawn (h : Journey D v line record legs) (hfresh : v.issued = false)
    (hqueue : v'.queue = v.queue) : Journey D v' line record legs := by
  obtain rfl := h.blank hfresh
  have hnone : ∀ p ∈ line, p.2 = none := by
    intro p hp
    cases horigin : p.2 with
    | none => rfl
    | some origin =>
        obtain ⟨n, hleg, _⟩ := h.follows p hp origin horigin
        cases hleg
  refine ⟨hqueue.trans h.queue, fun _ => rfl, h.linked, fun _ _ _ hl => (by cases hl), h.underway,
    h.remembered, fun p hp origin horigin => ?_, h.behind⟩
  rw [hnone p hp] at horigin
  cases horigin

/-- A request that arrives where the object is not follows an earlier promotion than the last. -/
theorem overtaken (h : Journey D v line record legs) {early rest : List (Envelope × Option Origin)}
    {e : Envelope} {origin : Origin} (hline : line = early ++ (e, some origin) :: rest)
    (hhead : ∀ p ∈ early, p.1.way ≠ e.way) (hrequest : e.packet.isPromote = false)
    (hcopy : isOwner (v.copies e.packet.sectorId) = false) (halive : v.Alive) :
    ∃ n, Trail.Along legs e.way n origin.hops ∧ n + 1 < legs.length := by
  obtain ⟨n, hleg, hhops⟩ := h.follows (e, some origin)
    (hline ▸ List.mem_append_right _ List.mem_cons_self) origin rfl
  by_cases hn : n + 1 < legs.length
  · exact ⟨n, ⟨hleg, hhops halive⟩, hn⟩
  have hlast := Trail.getLast?_of_getElem? hleg hn
  rcases halive with ⟨x, hx⟩ | hnil
  · -- the owner is at the end of the last leg
    have hdest : e.packet.sectorId = x := h.owner x hx _ hlast
    rw [hdest, hx] at hcopy
    cases hcopy
  · obtain ⟨p, hp, hpromote⟩ := h.promotions_ne_nil.1 hnil
    have hway : p.1.way = e.way := by
      have hunderway := h.underway p hp hpromote
      rw [hlast] at hunderway
      exact (Option.some.inj hunderway).symm
    have hbehind := h.behind
    rw [hline] at hp hbehind
    rcases List.mem_append.1 hp with hp | hp
    · exact absurd hway (hhead p hp)
    rcases List.mem_cons.1 hp with rfl | hp
    · rw [hrequest] at hpromote
      cases hpromote
    · have hcons := (List.pairwise_append.1 hbehind).2.1
      exact (List.pairwise_cons.1 hcons).1 p hp hpromote origin rfl

end Journey

end Game
end SeamlessServer
