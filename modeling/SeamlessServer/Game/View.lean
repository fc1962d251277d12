import SeamlessServer.Game.Round

/-!
# Game.View — the cluster seen from one object

Handlers and rounds of an update concern one object each, so a cluster falls apart into its objects:
the `View` of an object has its copies by sector and the packets about it that are under way.

* `View.Step` lists the steps of a view;
* `Cluster.Sound` is what ties a cluster to its views: sectors are where they are allocated, packets
  go to the owners of their sectors, and fixtures and packets carry the right ids;
* `step_lift` is the rule by which a property of views becomes an invariant of the cluster.
-/

namespace SeamlessServer
namespace Game

open Utility Protocol

/-! ## Packets concern the object that causes them -/

/-- A packet about the object, which carries fixtures under its id only. -/
def About (o : Nat) (packet : PlayPacket) : Prop := packet.objectId = o ∧ packet.Keyed

/-- The fixture is stored where its fields say. -/
structure Fixture.At (x o : Nat) (f : Fixture) : Prop where
  id : f.id = o
  sectorId : f.sectorId = x

theorem exchangePackets_noPromotion {info : ObjectInfo} {p q : Direction} {s d : Nat}
    {location : FixtureLocation} :
    ∀ packet ∈ exchangePackets info p s location q d, packet.isPromote = false :=
  forall_mem_exchangePackets (fun _ => rfl) (fun _ => rfl)

section Reaction

variable {now : Milliseconds} {packet : PlayPacket} {F F' : Option Fixture}
  {packets : List PlayPacket} {fault : Option Fault}

theorem Reaction.about (h : Reaction now packet F F' packets fault) (hkey : packet.Keyed) :
    ∀ q ∈ packets, About packet.objectId q := by
  cases h with
  | promotedFar s info f _ _ =>
      exact forall_mem_exchangePackets (fun x => ⟨rfl, trivial⟩) (fun x => ⟨rfl, hkey.1, rfl⟩)
  | moveForwarded packet x _ _ =>
      intro q hq
      rw [List.mem_singleton.1 hq]
      exact ⟨rfl, trivial⟩
  | ownerMoved packet _ =>
      exact forall_mem_fanOut fun y => ⟨rfl, trivial⟩
  | removeForwarded packet x _ _ =>
      intro q hq
      rw [List.mem_singleton.1 hq]
      exact ⟨rfl, trivial⟩
  | ownerRemoved packet _ =>
      exact forall_mem_fanOut fun y => ⟨rfl, trivial⟩
  | _ =>
      intro q hq
      simp at hq

theorem Reaction.fixtureAt (h : Reaction now packet F F' packets fault) (hkey : packet.Keyed)
    (hF : ∀ f, F = some f → f.At packet.sectorId packet.objectId) :
    ∀ f, F' = some f → f.At packet.sectorId packet.objectId := by
  -- a request moves a fixture and leaves its id and sector
  have hplace : ∀ {request : CharacterMoveRq} {x o : Nat},
      (∀ f, F = some f → f.At x o) → ∀ f, F.map (Fixture.place · request) = some f → f.At x o := by
    intro request x o hF f hf
    rcases Option.map_eq_some_iff.1 hf with ⟨g, hg, rfl⟩
    exact ⟨(hF g hg).id, (hF g hg).sectorId⟩
  cases h with
  | created s info =>
      rintro f ⟨⟩
      exact ⟨hkey.1, hkey.2⟩
  | promotedOutside s info g _ =>
      rintro f ⟨⟩
      exact ⟨hkey.1, hkey.2⟩
  | promotedNear s info g _ _ =>
      rintro f ⟨⟩
      exact ⟨hkey.1, hkey.2⟩
  | promotedFar s info g _ _ =>
      rintro f ⟨⟩
      exact ⟨hkey.1, hkey.2⟩
  | moveForwarded packet x _ _ =>
      exact hplace hF
  | moveOwnerUnknown packet _ _ =>
      exact hplace hF
  | copyMoved packet _ _ =>
      exact hplace hF
  | ownerMoved packet _ =>
      exact hplace hF
  | objectExists s info f =>
      exact hF
  | observerNotFound x o _ =>
      exact hF
  | removeForwarded packet x _ _ =>
      exact hF
  | removeOwnerUnknown packet _ _ =>
      exact hF
  | _ =>
      rintro f ⟨⟩

end Reaction

section Round

variable {x : Nat} {f f' : Fixture} {packets : List PlayPacket} {fault : Option Fault}

theorem Round.about (h : Round x f f' packets fault) : ∀ q ∈ packets, About f.id q :=
  h.forall_mem (fun _ => ⟨rfl, trivial⟩) (fun _ _ _ => ⟨rfl, rfl, rfl⟩)
    (fun _ _ _ => ⟨rfl, rfl, rfl⟩)

theorem Round.fixtureAt (h : Round x f f' packets fault) {o : Nat} (hf : f.At x o) : f'.At x o := by
  cases h <;> exact ⟨hf.id, hf.sectorId⟩

end Round

/-! ## Views and their steps -/

/-- A cluster as one object sees it. -/
@[ext]
structure View where
  copies : Nat → Option Fixture
  queue : List PlayPacket
  issued : Bool
  retired : Bool

namespace Deployment

variable (D : Deployment)

/-- The sector is run by some server. -/
def Holds (x : Nat) : Prop := ∃ k, x ∈ D.sectorsOf k

/-- The packets that are sent at all. -/
def sent (packets : List PlayPacket) : List PlayPacket :=
  packets.filter fun packet => (D.owner packet.sectorId).isSome

theorem mem_sectorsOf {k x : Nat} : x ∈ D.sectorsOf k ↔ x < sectorCount ∧ D.owner x = some k := by
  simp [sectorsOf]

@[simp] theorem sent_nil : D.sent [] = [] := rfl

theorem mem_sent {packet : PlayPacket} {packets : List PlayPacket} :
    packet ∈ D.sent packets ↔ packet ∈ packets ∧ ∃ k, D.owner packet.sectorId = some k := by
  simp [sent, Option.isSome_iff_exists]

end Deployment

namespace View

/-- One write and some packets. -/
def write (v : View) (x : Nat) (F : Option Fixture) (packets : List PlayPacket) : View :=
  { v with copies := Function.update v.copies x F, queue := v.queue ++ packets }

/-- The view holds the owner in the sector. -/
def owns (v : View) (x : Nat) : Bool := (v.copies x).any fun f => !f.isObservingFixture

/-- What happens to an object. -/
inductive Act
  | spawn (x : Nat) (f : Fixture)
  | request (packet : PlayPacket)
  | deliver (early : List PlayPacket) (packet : PlayPacket)
  | round (x : Nat) (deltaTime : Milliseconds)

/-- The steps of a view, with the fault they raise. -/
inductive Step (D : Deployment) : View → Act → View → Option Fault → Prop
  | spawned {v : View} {x : Nat} {f : Fixture} (hx : D.Holds x) (hnone : v.copies x = none) :
      Step D v (.spawn x f) { v.write x (some f) [] with issued := true } none
  | spawnRefused {v : View} {x : Nat} {f g : Fixture} (hsome : v.copies x = some g) :
      Step D v (.spawn x f) { v with issued := true } (some .duplicateFixtureId)
  | moveRequested {v : View} {packet : CharacterMoveRq} {now : Milliseconds} {F : Option Fixture}
      {packets : List PlayPacket} {fault : Option Fault} (hx : D.Holds packet.sectorId)
      (h : Reaction now (.characterMoveRq packet) (v.copies packet.sectorId) F packets fault) :
      Step D v (.request (.characterMoveRq packet)) (v.write packet.sectorId F (D.sent packets))
        fault
  | removeRequested {v : View} {packet : RemoveCharacterRq} {now : Milliseconds}
      {F : Option Fixture} {packets : List PlayPacket} {fault : Option Fault}
      (hx : D.Holds packet.sectorId)
      (h : Reaction now (.removeCharacterRq packet) (v.copies packet.sectorId) F packets fault) :
      Step D v (.request (.removeCharacterRq packet))
        { v.write packet.sectorId F (D.sent packets) with
          retired := v.retired || v.owns packet.sectorId }
        fault
  | delivered {v : View} {early rest : List PlayPacket} {packet : PlayPacket} {now : Milliseconds}
      {F : Option Fixture} {packets : List PlayPacket} {fault : Option Fault}
      (hqueue : v.queue = early ++ packet :: rest) (hx : D.Holds packet.sectorId)
      (h : Reaction now packet (v.copies packet.sectorId) F packets fault) :
      Step D v (.deliver early packet)
        ({ v with queue := early ++ rest }.write packet.sectorId F (D.sent packets)) fault
  | dropped {v : View} {early rest : List PlayPacket} {packet : PlayPacket}
      (hqueue : v.queue = early ++ packet :: rest) (hx : ¬ D.Holds packet.sectorId) :
      Step D v (.deliver early packet) { v with queue := early ++ rest } none
  | round {v : View} {x : Nat} {f f' : Fixture} {deltaTime : Milliseconds}
      {packets : List PlayPacket} {fault : Option Fault} (hx : D.Holds x)
      (hf : v.copies x = some f) (h : Round x (f.move deltaTime) f' packets fault) :
      Step D v (.round x deltaTime) (v.write x (some f') (D.sent packets)) fault

end View

namespace Cluster

/-- The packets about an object. -/
def packetsAbout (o : Nat) (flight : List Envelope) : List PlayPacket :=
  (flight.map Envelope.packet).filter fun packet => packet.objectId = o

def view (D : Deployment) (c : Cluster) (o : Nat) : View where
  copies := fun x =>
    match D.owner x with
    | some k => c.fixtureAt k x o
    | none => none
  queue := packetsAbout o c.flight
  issued := decide (o ∈ c.issued)
  retired := decide (o ∈ c.retired)

/-- What ties a cluster to the views of its objects. -/
structure Sound (D : Deployment) (c : Cluster) : Prop where
  sectors : ∀ k x, (c.worlds k).sectorIdAt x = if x ∈ D.sectorsOf k then some x else none
  routed : ∀ e ∈ c.flight, D.owner e.packet.sectorId = some e.target
  keyed : ∀ e ∈ c.flight, e.packet.Keyed
  fixtures : ∀ k x o f, c.fixtureAt k x o = some f → f.At x o

variable {D : Deployment} {c : Cluster} {k : Nat} {r : Outcome}

/-! ## Absorbing an outcome -/

/-- The envelopes of an outcome. -/
theorem route_eq {packets : List PlayPacket} (h : ownerPosts r.posts = addressed packets) :
    route D k r.posts = packets.filterMap fun packet =>
      (D.owner packet.sectorId).map (⟨k, ·, packet⟩) := by
  have hroute : route D k r.posts = (ownerPosts r.posts).filterMap fun p =>
      (D.owner p.2).map (⟨k, ·, p.1⟩) := by
    rw [route, ownerPosts, List.filterMap_filterMap]
    congr 1
    funext post
    cases post <;> rfl
  rw [hroute, h, addressed, List.filterMap_map]
  rfl

theorem map_packet_route {packets : List PlayPacket} (h : ownerPosts r.posts = addressed packets) :
    (route D k r.posts).map Envelope.packet = D.sent packets := by
  rw [route_eq h, List.map_filterMap, Deployment.sent, ← List.filterMap_eq_filter]
  congr 1
  funext packet
  cases h : D.owner packet.sectorId <;> simp [Option.guard, h]

theorem mem_route {packets : List PlayPacket} (h : ownerPosts r.posts = addressed packets)
    {e : Envelope} (he : e ∈ route D k r.posts) :
    D.owner e.packet.sectorId = some e.target ∧ e.packet ∈ packets := by
  rw [route_eq h, List.mem_filterMap] at he
  rcases he with ⟨packet, hmem, heq⟩
  rcases Option.map_eq_some_iff.1 heq with ⟨target, howner, rfl⟩
  exact ⟨howner, hmem⟩

theorem fixtureAt_absorb {k' x o : Nat} :
    (c.absorb D k r).fixtureAt k' x o =
      if k' = k then r.world.fixtureAt x o else c.fixtureAt k' x o := by
  by_cases hk : k' = k
  · subst hk
    simp [fixtureAt, absorb]
  · simp [fixtureAt, absorb, hk]

theorem sectorIdAt_absorb {k' : Nat} (h : r.world.sectorIdAt = (c.worlds k).sectorIdAt) :
    ((c.absorb D k r).worlds k').sectorIdAt = (c.worlds k').sectorIdAt := by
  by_cases hk : k' = k
  · subst hk
    simp [absorb, h]
  · simp [absorb, hk]

@[simp] theorem issued_absorb : (c.absorb D k r).issued = c.issued := rfl

@[simp] theorem retired_absorb : (c.absorb D k r).retired = c.retired := rfl

theorem packetsAbout_append (o : Nat) (l l' : List Envelope) :
    packetsAbout o (l ++ l') = packetsAbout o l ++ packetsAbout o l' := by
  simp [packetsAbout]

section Effect

variable {x o : Nat} {F : Option Fixture} {packets : List PlayPacket}

theorem view_absorb (hx : x ∈ D.sectorsOf k) (heffect : Effect (c.worlds k) r x o F packets)
    (habout : ∀ q ∈ packets, About o q) (o' : Nat) :
    (c.absorb D k r).view D o' =
      if o' = o then (c.view D o).write x F (D.sent packets) else c.view D o' := by
  have howner := (D.mem_sectorsOf.1 hx).2
  -- what is sent is about this object, and no other sees any of it
  have hqueue : packetsAbout o' (route D k r.posts) = if o' = o then D.sent packets else [] := by
    rw [packetsAbout, map_packet_route heffect.packets]
    split_ifs with ho
    · rw [List.filter_eq_self]
      intro q hq
      simpa [ho] using (habout q (D.mem_sent.1 hq).1).1
    · rw [List.filter_eq_nil_iff]
      intro q hq
      have hq' := (habout q (D.mem_sent.1 hq).1).1
      simpa [hq'] using fun h => ho h.symm
  -- a sector has one server, so the fixture is written in one place
  have hcopies : ∀ x', ((c.absorb D k r).view D o').copies x' =
      if x' = x ∧ o' = o then F else (c.view D o').copies x' := by
    intro x'
    simp only [view]
    cases hown : D.owner x' with
    | none =>
        have hne : x' ≠ x := by
          rintro rfl
          simp [hown] at howner
        simp [hne]
    | some k' =>
        simp only [fixtureAt_absorb]
        by_cases hk : k' = k
        · subst hk
          simpa [fixtureAt] using heffect.writes.fixtures x' o'
        · have hne : x' ≠ x := by
            rintro rfl
            rw [hown] at howner
            exact hk (Option.some.inj howner)
          simp [hk, hne]
  by_cases ho : o' = o
  · subst ho
    rw [if_pos rfl]
    ext1
    · funext x'
      simp [hcopies, View.write, Function.update_apply]
    · change packetsAbout o' (c.flight ++ _) = _
      rw [packetsAbout_append, hqueue, if_pos rfl]
      rfl
    · rfl
    · rfl
  · rw [if_neg ho]
    ext1
    · funext x'
      rw [hcopies, if_neg (fun h => ho h.2)]
    · change packetsAbout o' (c.flight ++ _) = _
      rw [packetsAbout_append, hqueue, if_neg ho, List.append_nil]
      rfl
    · rfl
    · rfl

theorem Sound.absorb (hsound : Sound D c) (heffect : Effect (c.worlds k) r x o F packets)
    (habout : ∀ q ∈ packets, About o q) (hF : ∀ f, F = some f → f.At x o) :
    Sound D (c.absorb D k r) := by
  constructor
  · intro k' x'
    rw [sectorIdAt_absorb heffect.writes.sectors]
    exact hsound.sectors k' x'
  · intro e he
    rcases List.mem_append.1 he with he | he
    · exact hsound.routed e he
    · exact (mem_route heffect.packets he).1
  · intro e he
    rcases List.mem_append.1 he with he | he
    · exact hsound.keyed e he
    · exact (habout _ (mem_route heffect.packets he).2).2
  · intro k' x' o' f hf
    rw [fixtureAt_absorb] at hf
    split_ifs at hf with hk
    · rw [heffect.writes.fixtures] at hf
      split_ifs at hf with hxo
      · rw [hxo.1, hxo.2]
        exact hF f hf
      · exact hsound.fixtures k x' o' f hf
    · exact hsound.fixtures k' x' o' f hf

end Effect

theorem view_absorb_idle (hidle : Idle (c.worlds k) r) (o : Nat) :
    (c.absorb D k r).view D o = c.view D o := by
  have hroute : route D k r.posts = [] := route_eq (hidle.packets.trans addressed_nil.symm)
  ext1
  · funext x
    simp only [view]
    cases D.owner x with
    | none =>
        rfl
    | some k' =>
        simp only [fixtureAt_absorb]
        split_ifs with hk
        · rw [hk]
          exact hidle.same.fixtures x o
        · rfl
  · change packetsAbout o (c.flight ++ _) = _
    rw [hroute, List.append_nil]
    rfl
  · rfl
  · rfl

theorem Sound.absorb_idle (hsound : Sound D c) (hidle : Idle (c.worlds k) r) :
    Sound D (c.absorb D k r) := by
  have hroute : route D k r.posts = [] := route_eq (hidle.packets.trans addressed_nil.symm)
  constructor
  · intro k' x
    rw [sectorIdAt_absorb hidle.same.sectors]
    exact hsound.sectors k' x
  · intro e he
    rw [Cluster.absorb, hroute, List.append_nil] at he
    exact hsound.routed e he
  · intro e he
    rw [Cluster.absorb, hroute, List.append_nil] at he
    exact hsound.keyed e he
  · intro k' x o f hf
    rw [fixtureAt_absorb] at hf
    split_ifs at hf with hk
    · rw [hidle.same.fixtures] at hf
      exact hsound.fixtures k x o f hf
    · exact hsound.fixtures k' x o f hf

/-! ## Loops -/

/-- Nothing happens. -/
theorem absorb_self (c : Cluster) (k : Nat) : c.absorb D k { world := c.worlds k } = c := by
  simp [absorb, route]

theorem worlds_absorb_self : (c.absorb D k r).worlds k = r.world := by
  simp [absorb]

theorem fault_of_halted (h : (c.absorb D k r).halted k = none) : r.fault = none := by
  cases hfault : r.fault with
  | none =>
      rfl
  | some fault =>
      simp [absorb, hfault] at h

/-- The outcomes of a handler and of what follows it are absorbed one after the other. -/
theorem absorb_append {others : Outcome} (h : r.fault = none) :
    c.absorb D k { others with posts := r.posts ++ others.posts } =
      (c.absorb D k r).absorb D k others := by
  simp [absorb, h, route, List.append_assoc]

/-- A property that every round with an accepted end keeps is kept by a loop with an accepted end. -/
theorem foldOutcome_induct {α : Type} {body : World → α → Outcome} {P : Cluster → Prop}
    {accepted : Option Fault → Prop} (hnone : accepted none) (rounds : List α)
    (hstep : ∀ c a, a ∈ rounds → accepted (body (c.worlds k) a).fault → P c →
      P (c.absorb D k (body (c.worlds k) a))) :
    ∀ c, accepted (foldOutcome body (c.worlds k) rounds).fault → P c →
      P (c.absorb D k (foldOutcome body (c.worlds k) rounds)) := by
  induction rounds with
  | nil =>
      intro c _ h
      rw [foldOutcome, absorb_self]
      exact h
  | cons a rounds ih =>
      intro c haccepted h
      cases hfault : (body (c.worlds k) a).fault with
      | some fault =>
          -- the loop is left here
          have heq : foldOutcome body (c.worlds k) (a :: rounds) = body (c.worlds k) a := by
            simp [foldOutcome, hfault]
          rw [heq] at haccepted ⊢
          exact hstep c a List.mem_cons_self haccepted h
      | none =>
          have hfirst := hstep c a List.mem_cons_self (by rw [hfault]; exact hnone) h
          simp only [foldOutcome, hfault] at haccepted ⊢
          have hrest := ih (fun c a ha => hstep c a (List.mem_cons_of_mem _ ha)) _
            (by rw [worlds_absorb_self]; exact haccepted) hfirst
          rw [worlds_absorb_self] at hrest
          rw [absorb_append hfault]
          exact hrest

/-- A loop that has not faulted has made all rounds, one after the other. -/
theorem foldOutcome_complete {α : Type} {body : World → α → Outcome} {rounds : List α}
    {P : List α → Cluster → Prop}
    (hstep : ∀ c done a rest, rounds = done ++ a :: rest → (body (c.worlds k) a).fault = none →
      P done c → P (done ++ [a]) (c.absorb D k (body (c.worlds k) a)))
    (hfault : (foldOutcome body (c.worlds k) rounds).fault = none) (h : P [] c) :
    P rounds (c.absorb D k (foldOutcome body (c.worlds k) rounds)) := by
  -- induction on the rounds that are left
  have hleft : ∀ left done c, rounds = done ++ left → P done c →
      (foldOutcome body (c.worlds k) left).fault = none →
      P rounds (c.absorb D k (foldOutcome body (c.worlds k) left)) := by
    intro left
    induction left with
    | nil =>
        intro done c hrounds h _
        rw [foldOutcome, absorb_self, hrounds, List.append_nil]
        exact h
    | cons a left ih =>
        intro done c hrounds h hfault
        cases hfirst : (body (c.worlds k) a).fault with
        | some fault =>
            simp [foldOutcome, hfirst] at hfault
        | none =>
            have hnext := hstep c done a left hrounds hfirst h
            have hrest := ih (done ++ [a]) _ (by simp [hrounds]) hnext
            rw [worlds_absorb_self] at hrest
            simp only [foldOutcome, hfirst] at hfault ⊢
            rw [absorb_append hfirst]
            exact hrest hfault
  exact hleft rounds [] c rfl h hfault

/-! ## Lifting -/

/-- A property of all views, and the faults that may have been raised. -/
structure Holding (D : Deployment) (P : Nat → View → Prop) (ok : Fault → Prop) (c : Cluster) :
    Prop where
  sound : Sound D c
  views : ∀ o, P o (c.view D o)
  faults : ∀ k fault, c.halted k = some fault → ok fault

section Lift

variable {P : Nat → View → Prop} {ok : Fault → Prop}

theorem faults_absorb (h : ∀ k fault, c.halted k = some fault → ok fault)
    (hr : ∀ fault, r.fault = some fault → ok fault) :
    ∀ k' fault, (c.absorb D k r).halted k' = some fault → ok fault := by
  intro k' fault hk'
  cases hfault : r.fault with
  | none =>
      simp only [absorb, hfault] at hk'
      exact h k' fault hk'
  | some raised =>
      simp only [absorb, hfault, Function.update_apply] at hk'
      split_ifs at hk'
      · exact hr fault (hfault.trans hk')
      · exact h k' fault hk'

theorem Holding.absorb_idle (h : Holding D P ok c) (hidle : Idle (c.worlds k) r)
    (hr : ∀ fault, r.fault = some fault → ok fault) : Holding D P ok (c.absorb D k r) := by
  refine ⟨h.sound.absorb_idle hidle, ?_, faults_absorb h.faults hr⟩
  intro o
  rw [view_absorb_idle hidle]
  exact h.views o

theorem Holding.absorb_effect (h : Holding D P ok c) {x o : Nat} {F : Option Fixture}
    {packets : List PlayPacket} (hx : x ∈ D.sectorsOf k)
    (heffect : Effect (c.worlds k) r x o F packets) (habout : ∀ q ∈ packets, About o q)
    (hF : ∀ f, F = some f → f.At x o) (hP : P o ((c.view D o).write x F (D.sent packets)))
    (hr : ∀ fault, r.fault = some fault → ok fault) : Holding D P ok (c.absorb D k r) := by
  refine ⟨h.sound.absorb heffect habout hF, ?_, faults_absorb h.faults hr⟩
  intro o'
  rw [view_absorb hx heffect habout]
  split_ifs with ho
  · exact ho ▸ hP
  · exact h.views o'

theorem view_copies {x : Nat} (hx : x ∈ D.sectorsOf k) (o : Nat) :
    (c.view D o).copies x = (c.worlds k).fixtureAt x o := by
  simp [view, (D.mem_sectorsOf.1 hx).2, fixtureAt]

theorem Sound.sectorIdAt (h : Sound D c) {x : Nat} (hx : x ∈ D.sectorsOf k) :
    (c.worlds k).sectorIdAt x = some x := by
  rw [h.sectors, if_pos hx]

/-- The views keep the property in a round with the given time step and an accepted end, and only the
given faults are raised. -/
def KeptByRounds (D : Deployment) (P : Nat → View → Prop) (ok : Fault → Prop)
    (accepted : Option Fault → Prop) (deltaTime : Milliseconds) : Prop :=
  ∀ o x v v' fault, accepted fault → P o v → View.Step D v (.round x deltaTime) v' fault →
    P o v' ∧ ∀ f, fault = some f → ok f

section Update

variable {clock : World.Clock}

/-- The round of an object. -/
theorem Holding.updateObject_of (h : Holding D P ok c) {x : Nat} (hx : x ∈ D.sectorsOf k) (o : Nat)
    (hkept : ∀ v', View.Step D (c.view D o) (.round x clock.deltaTime) v'
        ((c.worlds k).updateObject clock x o).fault →
      P o v' ∧ ∀ fault, ((c.worlds k).updateObject clock x o).fault = some fault → ok fault) :
    Holding D P ok (c.absorb D k ((c.worlds k).updateObject clock x o)) := by
  rcases World.updateObject_effect (h.sound.sectorIdAt hx) with
    ⟨_, hfault, hidle⟩ | ⟨f, f', packets, hf, hround, heffect⟩
  · refine h.absorb_idle hidle ?_
    simp [hfault]
  · have hat := h.sound.fixtures k x o f hf
    have hmoved : (f.move clock.deltaTime).At x o := by
      constructor
      · rw [Fixture.move_id, hat.id]
      · rw [Fixture.move_sectorId, hat.sectorId]
    have hstep := View.Step.round ⟨k, hx⟩ ((view_copies hx o).trans hf) hround
    rcases hkept _ hstep with ⟨hP, hok⟩
    refine h.absorb_effect hx heffect ?_ ?_ hP hok
    · exact hmoved.id ▸ hround.about
    · rintro g ⟨⟩
      exact hround.fixtureAt hmoved

variable {accepted : Option Fault → Prop} (hnone : accepted none)
  (hrounds : KeptByRounds D P ok accepted clock.deltaTime)

include hrounds

theorem Holding.updateObject (h : Holding D P ok c) {x : Nat} (hx : x ∈ D.sectorsOf k) {o : Nat}
    (haccepted : accepted ((c.worlds k).updateObject clock x o).fault) :
    Holding D P ok (c.absorb D k ((c.worlds k).updateObject clock x o)) :=
  h.updateObject_of hx o fun v' hstep => hrounds o x _ v' _ haccepted (h.views o) hstep

include hnone

theorem Holding.updateSector (h : Holding D P ok c) {x : Nat}
    (hx : x ∈ D.sectorsOf k ∨ ok .nullSector)
    (haccepted : accepted ((c.worlds k).updateSector clock x).fault) :
    Holding D P ok (c.absorb D k ((c.worlds k).updateSector clock x)) := by
  by_cases hmem : x ∈ D.sectorsOf k
  · rcases World.find_of_sectorIdAt (h.sound.sectorIdAt hmem) with ⟨sector, hfind, _⟩
    have heq : (c.worlds k).updateSector clock x =
        foldOutcome (World.updateObject clock x) (c.worlds k) sector.fixtures.keys := by
      simp [World.updateSector, hfind]
    rw [heq] at haccepted ⊢
    exact foldOutcome_induct (P := Holding D P ok) hnone sector.fixtures.keys
      (fun c o _ ho h => h.updateObject hrounds hmem ho) c haccepted h
  · have heq : (c.worlds k).updateSector clock x =
        { world := c.worlds k, fault := some .nullSector } := by
      have hnone : (c.worlds k).sectorIdAt x = none := by
        rw [h.sound.sectors, if_neg hmem]
      unfold World.updateSector
      split
      next sector hfind =>
        simp [World.sectorIdAt, hfind] at hnone
      next =>
        rfl
    rw [heq]
    refine h.absorb_idle ⟨World.same_of_sectors rfl, rfl⟩ ?_
    rintro fault ⟨⟩
    exact hx.resolve_left hmem

/-- The rounds of an update. -/
theorem Holding.update (h : Holding D P ok c)
    (hnull : ok .nullSector ∨ ∀ x, (c.worlds k).sectors.find x ≠ some none)
    (haccepted : accepted ((c.worlds k).update clock).fault) :
    Holding D P ok (c.absorb D k ((c.worlds k).update clock)) := by
  let w := (c.worlds k).forgetPromoted clock.tick
  let c₁ := c.absorb D k { world := w }
  have hw : c₁.worlds k = w := by
    simp [c₁, absorb]
  have h₁ : Holding D P ok c₁ :=
    h.absorb_idle ⟨World.forgetPromoted_same _ _, rfl⟩ (by simp)
  have heq : c.absorb D k ((c.worlds k).update clock) =
      c₁.absorb D k (foldOutcome (World.updateSector clock) (c₁.worlds k) w.sectors.keys) := by
    rw [hw]
    exact absorb_append (r := { world := w }) rfl
  rw [heq]
  -- a key that is no sector of the server has a null entry
  have hkeys : ∀ x ∈ w.sectors.keys, x ∈ D.sectorsOf k ∨ ok .nullSector := by
    intro x hx
    rcases w.sectors.exists_find_of_mem_keys hx with ⟨entry, hentry⟩
    have hfind : (c.worlds k).sectors.find x = some entry := hentry
    cases entry with
    | none =>
        exact .inr (hnull.resolve_right fun hall => hall x hfind)
    | some sector =>
        left
        by_contra hmem
        have hnone := h.sound.sectors k x
        simp [World.sectorIdAt, hfind, hmem] at hnone
  exact foldOutcome_induct (P := Holding D P ok) hnone w.sectors.keys
    (fun c x hx hsector h => h.updateSector hnone hrounds (hkeys x hx) hsector) c₁
    (by rw [hw]; exact haccepted) h₁

end Update

/-- What an event can do to an object. -/
def Permits (c : Cluster) (o : Nat) : Event → View.Act → Prop
  | .spawn k _ packet now, act =>
      c.nextFixtureId k packet.sectorId = some o ∧
        act = .spawn packet.sectorId (World.spawnedFixture o packet.sectorId packet now)
  | .move _ _ packet, act => packet.objectId = o ∧ act = .request (.characterMoveRq packet)
  | .remove _ _ packet, act => packet.objectId = o ∧ act = .request (.removeCharacterRq packet)
  | .update _ clock, act => ∃ x, act = .round x clock.deltaTime
  | .deliver index _, act =>
      ∃ e, c.channelHead index = some e ∧ e.packet.objectId = o ∧
        act = .deliver (packetsAbout o (c.flight.take index)) e.packet
  | _, _ => False

/-- The views keep the property in the acts of an event, and only the given faults are raised.  The
rounds of an update may follow others. -/
def KeptBy (D : Deployment) (P : Nat → View → Prop) (ok : Fault → Prop) (c : Cluster) (e : Event) :
    Prop :=
  ∀ o act v v' fault, c.Permits o e act → (v = c.view D o ∨ ∃ x deltaTime, act = .round x deltaTime) →
    P o v → View.Step D v act v' fault → P o v' ∧ ∀ f, fault = some f → ok f

theorem view_issue (c : Cluster) (id o : Nat) :
    ({ c with issued := c.issued ++ [id] } : Cluster).view D o =
      if o = id then { c.view D o with issued := true } else c.view D o := by
  split_ifs with ho
  · ext1 <;> simp [view, fixtureAt, ho]
  · ext1 <;> simp [view, fixtureAt, ho]

theorem view_retire (c : Cluster) (id o : Nat) :
    ({ c with retired := c.retired ++ [id] } : Cluster).view D o =
      if o = id then { c.view D o with retired := true } else c.view D o := by
  split_ifs with ho
  · ext1 <;> simp [view, fixtureAt, ho]
  · ext1 <;> simp [view, fixtureAt, ho]

theorem Sound.of_worlds {c' : Cluster} (h : Sound D c) (hworlds : c'.worlds = c.worlds)
    (hflight : c'.flight = c.flight) : Sound D c' where
  sectors := by
    rw [hworlds]
    exact h.sectors
  routed := by
    rw [hflight]
    exact h.routed
  keyed := by
    rw [hflight]
    exact h.keyed
  fixtures := by
    unfold fixtureAt
    rw [hworlds]
    exact h.fixtures

/-- A character is spawned in a sector of the server; what is new is the id. -/
theorem Holding.spawn_of_mem (h : Holding D P ok c) {agency : Nat} {packet : SpawnCharacterRq}
    {now : Milliseconds} (hkept : KeptBy D P ok c (.spawn k agency packet now))
    (hx : packet.sectorId ∈ D.sectorsOf k) :
    Holding D P ok (c.next D (.spawn k agency packet now)) := by
  have hid := h.sound.sectorIdAt hx
  rcases World.find_of_sectorIdAt hid with ⟨sector, hfind, hsector⟩
  have hnext : c.nextFixtureId k packet.sectorId = some sector.currentFixtureId := by
    simp [nextFixtureId, hfind]
  let c₁ := c.absorb D k ((c.worlds k).spawnCharacter agency packet now)
  have heq : c.next D (.spawn k agency packet now) =
      { c₁ with issued := c₁.issued ++ [sector.currentFixtureId] } := by
    simp [next, hnext, c₁]
  have hcopies := view_copies (c := c) hx sector.currentFixtureId
  have hpermits : c.Permits sector.currentFixtureId (.spawn k agency packet now)
      (.spawn packet.sectorId
        (World.spawnedFixture sector.currentFixtureId packet.sectorId packet now)) :=
    ⟨hnext, rfl⟩
  rw [heq]
  rcases World.spawnCharacter_effect agency now hfind with
    ⟨⟨g, hg⟩, hfault, hidle⟩ | ⟨hnone, hfault, heffect⟩
  · -- the id is taken
    rcases hkept _ _ _ _ _ hpermits (.inl rfl) (h.views _)
      (View.Step.spawnRefused (hcopies.trans hg)) with ⟨hP, hok⟩
    refine ⟨(h.sound.absorb_idle hidle).of_worlds rfl rfl, ?_,
      faults_absorb (D := D) h.faults (hfault ▸ hok)⟩
    intro o
    rw [view_issue, view_absorb_idle hidle]
    split_ifs with ho
    · exact ho ▸ hP
    · exact h.views o
  · rw [hsector] at heffect
    rcases hkept _ _ _ _ _ hpermits (.inl rfl) (h.views _)
      (View.Step.spawned ⟨k, hx⟩ (hcopies.trans hnone)) with ⟨hP, hok⟩
    have h₁ := h.sound.absorb heffect (by simp) (by
      rintro f ⟨⟩
      exact ⟨rfl, rfl⟩)
    refine ⟨h₁.of_worlds rfl rfl, ?_, faults_absorb (D := D) h.faults (hfault ▸ hok)⟩
    intro o
    rw [view_issue, view_absorb hx heffect (by simp)]
    split_ifs with ho
    · exact ho ▸ hP
    · exact h.views o

theorem Holding.spawn (h : Holding D P ok c) {agency : Nat} {packet : SpawnCharacterRq}
    {now : Milliseconds} (hkept : KeptBy D P ok c (.spawn k agency packet now)) :
    Holding D P ok (c.next D (.spawn k agency packet now)) := by
  by_cases hx : packet.sectorId ∈ D.sectorsOf k
  · exact h.spawn_of_mem hkept hx
  · have hnone : (c.worlds k).sectorIdAt packet.sectorId = none := by
      rw [h.sound.sectors, if_neg hx]
    rcases World.spawnCharacter_of_sectorIdAt_none agency now hnone with ⟨hfault, hidle⟩
    have hnext : c.nextFixtureId k packet.sectorId = none := by
      unfold nextFixtureId
      split
      next sector hfind =>
        simp [World.sectorIdAt, hfind] at hnone
      next =>
        rfl
    have heq : c.next D (.spawn k agency packet now) =
        c.absorb D k ((c.worlds k).spawnCharacter agency packet now) := by
      simp [next, hnext, absorb]
    rw [heq]
    exact h.absorb_idle hidle (by simp [hfault])

/-- A packet is handled in a sector of the server, as a reaction in the view of its object, or has
no effect. -/
theorem Sound.handle_cases (h : Sound D c) (packet : PlayPacket) (hkey : packet.Keyed)
    (k source : Nat) (now : Milliseconds) :
    (packet.sectorId ∉ D.sectorsOf k ∧ ((c.worlds k).handle source packet now).fault = none ∧
        Idle (c.worlds k) ((c.worlds k).handle source packet now)) ∨
      (packet.sectorId ∈ D.sectorsOf k ∧ ∃ F packets,
        Reaction now packet ((c.view D packet.objectId).copies packet.sectorId) F packets
          ((c.worlds k).handle source packet now).fault ∧
        Effect (c.worlds k) ((c.worlds k).handle source packet now) packet.sectorId packet.objectId
          F packets ∧
        (∀ q ∈ packets, About packet.objectId q) ∧
        ∀ f, F = some f → f.At packet.sectorId packet.objectId) := by
  by_cases hx : packet.sectorId ∈ D.sectorsOf k
  · have hcopies := view_copies (c := c) hx packet.objectId
    rcases World.handle_reacts source now (h.sectorIdAt hx) hkey with
      ⟨F, packets, hreaction, heffect⟩
    rw [← hcopies] at hreaction
    refine .inr ⟨hx, F, packets, hreaction, heffect, hreaction.about hkey,
      hreaction.fixtureAt hkey ?_⟩
    intro f hf
    exact h.fixtures k _ _ f (hcopies.symm.trans hf)
  · have hnone : (c.worlds k).sectorIdAt packet.sectorId = none := by
      rw [h.sectors, if_neg hx]
    exact .inl ⟨hx, World.handle_of_sectorIdAt_none source now hnone⟩

theorem Holding.move (h : Holding D P ok c) {agency : Nat} {packet : CharacterMoveRq}
    (hkept : KeptBy D P ok c (.move k agency packet)) :
    Holding D P ok (c.next D (.move k agency packet)) := by
  -- the handler does not read the clock
  have heq : c.next D (.move k agency packet) =
      c.absorb D k ((c.worlds k).handle agency (.characterMoveRq packet) 0) := rfl
  have hpermits : c.Permits packet.objectId (.move k agency packet)
      (.request (.characterMoveRq packet)) := ⟨rfl, rfl⟩
  rw [heq]
  rcases h.sound.handle_cases (.characterMoveRq packet) trivial k agency 0 with
    ⟨_, hfault, hidle⟩ | ⟨hx, F, packets, hreaction, heffect, habout, hat⟩
  · exact h.absorb_idle hidle (by simp [hfault])
  · rcases hkept _ _ _ _ _ hpermits (.inl rfl) (h.views _)
      (.moveRequested ⟨k, hx⟩ hreaction) with ⟨hP, hok⟩
    exact h.absorb_effect hx heffect habout hat hP hok

theorem Holding.remove (h : Holding D P ok c) {agency : Nat} {packet : RemoveCharacterRq}
    (hkept : KeptBy D P ok c (.remove k agency packet)) :
    Holding D P ok (c.next D (.remove k agency packet)) := by
  let c₁ := c.absorb D k ((c.worlds k).removeCharacter agency packet)
  have hpermits : c.Permits packet.objectId (.remove k agency packet)
      (.request (.removeCharacterRq packet)) := ⟨rfl, rfl⟩
  have hcases := h.sound.handle_cases (.removeCharacterRq packet) trivial k agency 0
  simp only [PlayPacket.sectorId, PlayPacket.objectId, World.handle] at hcases
  rcases hcases with ⟨hx, hfault, hidle⟩ | ⟨hx, F, packets, hreaction, heffect, habout, hat⟩
  -- the server does not have the sector, and nothing happens
  · have howns : c.owns k packet.sectorId packet.objectId = false := by
      have hnone := h.sound.sectors k packet.sectorId
      rw [if_neg hx] at hnone
      rw [owns, fixtureAt, World.fixtureAt_of_sectorIdAt_none hnone]
      rfl
    have heq : c.next D (.remove k agency packet) = c₁ := by
      simp only [next, howns]
      rfl
    rw [heq]
    exact h.absorb_idle hidle (by simp [hfault])
  · have howns : (c.view D packet.objectId).owns packet.sectorId =
        c.owns k packet.sectorId packet.objectId := by
      rw [View.owns, view_copies hx]
      rfl
    rcases hkept _ _ _ _ _ hpermits (.inl rfl) (h.views _)
      (.removeRequested ⟨k, hx⟩ hreaction) with ⟨hP, hok⟩
    rw [howns] at hP
    have h₁ := h.sound.absorb heffect habout hat
    cases hown : c.owns k packet.sectorId packet.objectId with
    -- a copy, or no fixture: the removal is passed on and the id not retired
    | false =>
        have heq : c.next D (.remove k agency packet) = c₁ := by
          simp only [next, hown]
          rfl
        rw [hown, Bool.or_false] at hP
        rw [heq]
        exact h.absorb_effect hx heffect habout hat hP hok
    | true =>
        -- the owner is removed, and its id is retired
        have heq : c.next D (.remove k agency packet) =
            { c₁ with retired := c₁.retired ++ [packet.objectId] } := by
          simp only [next, hown]
          rfl
        rw [hown, Bool.or_true] at hP
        rw [heq]
        refine ⟨h₁.of_worlds rfl rfl, ?_, faults_absorb (D := D) h.faults hok⟩
        intro o
        rw [view_retire, view_absorb hx heffect habout]
        split_ifs with ho
        · exact ho ▸ hP
        · exact h.views o

theorem flight_of_channelHead {index : Nat} {e : Envelope} (h : c.channelHead index = some e) :
    c.flight = c.flight.take index ++ e :: c.flight.drop (index + 1) := by
  unfold channelHead at h
  cases hget : c.flight[index]? with
  | none =>
      simp [hget] at h
  | some e' =>
      have he : e' = e := by
        simp only [hget] at h
        split_ifs at h
        simpa using h
      rcases List.getElem?_eq_some_iff.1 hget with ⟨hlt, hget⟩
      rw [← he, ← hget, List.getElem_cons_drop, List.take_append_drop]

/-- The packets about the object of a packet that is at the head of its channel. -/
theorem queue_of_channelHead {index : Nat} {e : Envelope} (hhead : c.channelHead index = some e) :
    (c.view D e.packet.objectId).queue =
      packetsAbout e.packet.objectId (c.flight.take index) ++
        e.packet :: packetsAbout e.packet.objectId (c.flight.drop (index + 1)) := by
  change packetsAbout _ c.flight = _
  conv_lhs => rw [flight_of_channelHead hhead]
  rw [packetsAbout_append]
  simp [packetsAbout]

/-- A packet that is taken from its channel leaves the queue of its object, and no other. -/
theorem view_take {index : Nat} {e : Envelope} (hhead : c.channelHead index = some e) (o : Nat) :
    ({ c with flight := c.flight.eraseIdx index } : Cluster).view D o =
      if o = e.packet.objectId then
        { c.view D o with
          queue := packetsAbout e.packet.objectId (c.flight.take index) ++
            packetsAbout e.packet.objectId (c.flight.drop (index + 1)) }
      else c.view D o := by
  have herase : c.flight.eraseIdx index = c.flight.take index ++ c.flight.drop (index + 1) :=
    List.eraseIdx_eq_take_drop_succ _ _
  split_ifs with ho
  · subst ho
    ext1
    · rfl
    · change packetsAbout _ (c.flight.eraseIdx index) = _
      rw [herase, packetsAbout_append]
    · rfl
    · rfl
  · have hother : packetsAbout o [e] = [] := by
      simpa [packetsAbout] using fun h => ho h.symm
    ext1
    · rfl
    · change packetsAbout _ (c.flight.eraseIdx index) = packetsAbout _ c.flight
      conv_rhs => rw [flight_of_channelHead hhead, ← List.singleton_append]
      rw [herase, packetsAbout_append, packetsAbout_append, packetsAbout_append, hother,
        List.nil_append]
    · rfl
    · rfl

theorem Sound.take (h : Sound D c) (index : Nat) :
    Sound D { c with flight := c.flight.eraseIdx index } where
  sectors := h.sectors
  routed := fun e he => h.routed e (List.mem_of_mem_eraseIdx he)
  keyed := fun e he => h.keyed e (List.mem_of_mem_eraseIdx he)
  fixtures := h.fixtures

/-- A delivery is a step in the view of its object, with the fault of the handler. -/
theorem Sound.deliver (h : Sound D c) {index : Nat} {now : Milliseconds}
    (hfaults : ∀ k fault, c.halted k = some fault → ok fault)
    (hother : ∀ o, (∀ e, c.channelHead index = some e → o ≠ e.packet.objectId) → P o (c.view D o))
    (hkept : ∀ e v', c.channelHead index = some e →
      View.Step D (c.view D e.packet.objectId)
        (.deliver (packetsAbout e.packet.objectId (c.flight.take index)) e.packet) v'
        ((c.worlds e.target).handle e.source e.packet now).fault →
      P e.packet.objectId v' ∧
        ∀ fault, ((c.worlds e.target).handle e.source e.packet now).fault = some fault → ok fault) :
    Holding D P ok (c.next D (.deliver index now)) := by
  cases hhead : c.channelHead index with
  | none =>
      have heq : c.next D (.deliver index now) = c := by
        simp [next, hhead]
      rw [heq]
      refine ⟨h, fun o => hother o fun e he => ?_, hfaults⟩
      rw [hhead] at he
      cases he
  | some e =>
      have hmem : e ∈ c.flight := by
        rw [flight_of_channelHead hhead]
        simp
      let early := packetsAbout e.packet.objectId (c.flight.take index)
      let rest := packetsAbout e.packet.objectId (c.flight.drop (index + 1))
      let c₀ : Cluster := { c with flight := c.flight.eraseIdx index }
      have heq : c.next D (.deliver index now) =
          c₀.absorb D e.target ((c₀.worlds e.target).handle e.source e.packet now) := by
        simp [next, hhead, c₀]
      have hsound : Sound D c₀ := h.take index
      have hrest : ∀ o, o ≠ e.packet.objectId → P o (c.view D o) := by
        intro o ho
        refine hother o fun e' he' => ?_
        rw [hhead] at he'
        cases he'
        exact ho
      have hqueue : (c.view D e.packet.objectId).queue = early ++ e.packet :: rest :=
        queue_of_channelHead hhead
      have hview : ∀ o, c₀.view D o =
          if o = e.packet.objectId then { c.view D o with queue := early ++ rest }
          else c.view D o := view_take hhead
      rw [heq]
      rcases hsound.handle_cases e.packet (h.keyed e hmem) e.target e.source now with
        ⟨hx, hfault, hidle⟩ | ⟨hx, F, packets, hreaction, heffect, habout, hat⟩
      · -- packets are sent to the owner of their sector, so nobody holds this one
        have hnot : ¬ D.Holds e.packet.sectorId := by
          rintro ⟨k, hk⟩
          have howner := (D.mem_sectorsOf.1 hk).2
          rw [h.routed e hmem] at howner
          exact hx (Option.some.inj howner ▸ hk)
        have hdropped := View.Step.dropped hqueue hnot
        rw [← hfault] at hdropped
        rcases hkept e _ hhead hdropped with ⟨hP, hok⟩
        refine ⟨hsound.absorb_idle hidle, ?_, faults_absorb hfaults hok⟩
        intro o
        rw [view_absorb_idle hidle, hview]
        split_ifs with ho
        · exact ho ▸ hP
        · exact hrest o ho
      · rw [hview, if_pos rfl] at hreaction
        rcases hkept e _ hhead (.delivered hqueue ⟨_, hx⟩ hreaction) with ⟨hP, hok⟩
        refine ⟨hsound.absorb heffect habout hat, ?_, faults_absorb hfaults hok⟩
        intro o
        rw [view_absorb hx heffect habout, hview, if_pos rfl]
        split_ifs with ho
        · rw [ho]
          exact hP
        · rw [hview, if_neg ho]
          exact hrest o ho

theorem Holding.deliver (h : Holding D P ok c) {index : Nat} {now : Milliseconds}
    (hkept : KeptBy D P ok c (.deliver index now)) :
    Holding D P ok (c.next D (.deliver index now)) :=
  h.sound.deliver h.faults (fun o _ => h.views o) fun e v' hhead hstep =>
    hkept _ _ _ v' _ ⟨e, hhead, rfl, rfl⟩ (.inl rfl) (h.views _) hstep

/-- A change of an iteration order is not seen. -/
theorem Holding.reorder (h : Holding D P ok c) {w : World} (hsame : World.Same (c.worlds k) w) :
    Holding D P ok { c with worlds := Function.update c.worlds k w } := by
  have heq : ({ c with worlds := Function.update c.worlds k w } : Cluster) =
      c.absorb D k { world := w } := by
    simp [absorb, route]
  rw [heq]
  exact h.absorb_idle ⟨hsame, rfl⟩ (by simp)

/-- A property that every act of an event keeps in the view of its object is kept by the event in
all views. -/
theorem Holding.step {e : Event} {c' : Cluster} (h : Holding D P ok c)
    (hnull : ok .nullSector ∨ ∀ k x, (c.worlds k).sectors.find x ≠ some none)
    (hkept : KeptBy D P ok c e) (hstep : (machine D).step c e c') : Holding D P ok c' := by
  rw [hstep.2]
  cases e with
  | spawn k agency packet now =>
      exact h.spawn hkept
  | move k agency packet =>
      exact h.move hkept
  | remove k agency packet =>
      exact h.remove hkept
  | update k clock =>
      have hrounds : KeptByRounds D P ok (fun _ => True) clock.deltaTime := by
        intro o x v v' fault _ hP hround
        exact hkept o _ v v' fault ⟨x, rfl⟩ (.inr ⟨x, _, rfl⟩) hP hround
      exact h.update trivial hrounds (hnull.imp_right fun hall => hall k) trivial
  | deliver index now =>
      exact h.deliver hkept
  | rehashSectors k order =>
      -- no view sees the order of the tables
      refine h.reorder ⟨?_, ?_⟩
      · intro x o
        simp [World.fixtureAt]
      · funext x
        simp [World.sectorIdAt]
  | rehashFixtures k x order =>
      simp only [next]
      split
      next sector hfind =>
        refine h.reorder ⟨?_, ?_⟩
        · intro x' o
          by_cases hx : x' = x
          · subst hx
            simp [World.fixtureAt, World.setSector, hfind, SectorSystem.getFixture]
          · simp [World.fixtureAt, World.setSector, hx]
        · funext x'
          by_cases hx : x' = x
          · subst hx
            simp [World.sectorIdAt, World.setSector, hfind]
          · simp [World.sectorIdAt, World.setSector, hx]
      next =>
        exact h

/-- In the new cluster there are no objects. -/
theorem Holding.new (hP : ∀ o, P o ⟨fun _ => none, [], false, false⟩) :
    Holding D P ok (Cluster.new D) := by
  have hnone : ∀ k x o, (Cluster.new D).fixtureAt k x o = none := by
    intro k x o
    by_cases hx : x ∈ D.sectorsOf k <;>
      simp [fixtureAt, Cluster.new, World.new, World.fixtureAt, hx, SectorSystem.getFixture,
        SectorSystem.new]
  refine ⟨⟨?_, ?_, ?_, ?_⟩, ?_, ?_⟩
  · intro k x
    by_cases hx : x ∈ D.sectorsOf k <;>
      simp [Cluster.new, World.new, World.sectorIdAt, hx, SectorSystem.new]
  · simp [Cluster.new]
  · simp [Cluster.new]
  · intro k x o f hf
    simp [hnone] at hf
  · intro o
    have hview : (Cluster.new D).view D o = ⟨fun _ => none, [], false, false⟩ := by
      ext1
      · funext x
        simp only [view, hnone]
        split <;> rfl
      · rfl
      · rfl
      · rfl
    exact hview ▸ hP o
  · simp [Cluster.new]

end Lift

end Cluster

end Game
end SeamlessServer
