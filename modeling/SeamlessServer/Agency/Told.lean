import SeamlessServer.Agency.Clients
import SeamlessServer.Game.LockStep

/-!
# Agency.Told — what a step tells the agencies about an object

What the play servers tell each other about the copies of an object they tell the agencies too: for
every packet to a copy there is a notice (`Paired`).  The exceptions are a spawn, a move and a removal
at the owner, and a promotion, each with one notice of its own.

Packets and notices are edits of the set of sectors that hold a copy.  `told_next` says that in lock
step the notices of a step lead from the sectors an object was on its way to before the step to those
it is on its way to afterwards.
-/

namespace SeamlessServer
namespace Agency

open Game Protocol Utility

/-! ## Notices as edits -/

/-- What a notice says about the sectors that hold a copy of an object. -/
def noticeEdit (o : Nat) : Notice → Option (Edit Nat)
  | .spawnCharacterRs _ (some info) _ =>
      if info.objectId = o then some (.insert info.sectorId) else none
  | .spawnCharacterRs _ none _ => none
  | .removeCharacterRs _ x id _ => if id = o then some (.erase x) else none
  | .characterMoveRs packet =>
      if packet.objectId = o then some (.visit packet.sectorId) else none
  | .createObjectPs info => if info.objectId = o then some (.insert info.sectorId) else none
  | .removeObjectPs x id => if id = o then some (.erase x) else none
  | .objectMovePs packet => if packet.objectId = o then some (.visit packet.sectorId) else none
  | .promoteObjectRq _ info => if info.objectId = o then some (.visit info.sectorId) else none

/-- What notices say about an object in the sectors that are run at all. -/
def told (D : Deployment) (o : Nat) (notices : List Notice) : List (Edit Nat) :=
  (notices.filterMap (noticeEdit o)).filter fun e => (D.owner e.target).isSome

@[simp] theorem told_nil (D : Deployment) (o : Nat) : told D o [] = [] := rfl

theorem told_cons (D : Deployment) (o : Nat) (notice : Notice) (notices : List Notice) :
    told D o (notice :: notices) =
      ((noticeEdit o notice).filter fun e => (D.owner e.target).isSome).toList ++
        told D o notices := by
  rw [told, List.filterMap_cons]
  cases hedit : noticeEdit o notice with
  | none =>
      rfl
  | some e =>
      by_cases howner : (D.owner e.target).isSome = true
      · simp [told, Option.filter, howner]
      · simp [told, Option.filter, howner]

@[simp] theorem told_append (D : Deployment) (o : Nat) (notices notices' : List Notice) :
    told D o (notices ++ notices') = told D o notices ++ told D o notices' := by
  simp [told]

/-- What an agency is told by postings. -/
def toldBy (D : Deployment) (a : Nat) (r : Option Nat) (o : Nat) (posts : List Posting) :
    List (Edit Nat) :=
  told D o (posts.filterMap (heard a r))

/-- What the copies of the object are told by the same postings. -/
def sentBy (D : Deployment) (k o : Nat) (posts : List Posting) : List (Edit Nat) :=
  edits (Cluster.packetsAbout o (route D k posts))

/-- The agency is told what the copies are told. -/
def Paired (D : Deployment) (a : Nat) (r : Option Nat) (k o : Nat) (posts : List Posting) : Prop :=
  toldBy D a r o posts = sentBy D k o posts

section Paired

variable {D : Deployment} {a : Nat} {r : Option Nat} {k o : Nat} {posts posts' : List Posting}

theorem toldBy_append : toldBy D a r o (posts ++ posts') = toldBy D a r o posts ++ toldBy D a r o posts' := by
  simp [toldBy]

theorem sentBy_append : sentBy D k o (posts ++ posts') = sentBy D k o posts ++ sentBy D k o posts' := by
  simp [sentBy, route, Cluster.packetsAbout]

theorem paired_nil : Paired D a r k o [] := rfl

theorem Paired.append (h : Paired D a r k o posts) (h' : Paired D a r k o posts') :
    Paired D a r k o (posts ++ posts') := by
  unfold Paired at h h' ⊢
  rw [toldBy_append, sentBy_append, h, h']

/-- A packet that is no edit is not told. -/
theorem paired_request {packet : PlayPacket} (h : edit packet = none) (x : Nat) :
    Paired D a r k o [.toSectorOwner packet x] := by
  unfold Paired sentBy
  have hnone : edits (Cluster.packetsAbout o (route D k [.toSectorOwner packet x])) = [] := by
    rw [edits, List.filterMap_eq_nil_iff]
    intro q hq
    have hmem := (List.mem_filter.1 hq).1
    cases howner : D.owner x with
    | none =>
        simp [route, howner] at hmem
    | some k' =>
        have hq : q = packet := by simpa [route, howner] using hmem
        rw [hq]
        exact h
  rw [hnone]
  rfl

/-- The notice says about each object what the packet does. -/
def Tells (notice : Notice) (packet : PlayPacket) : Prop :=
  ∀ o, noticeEdit o notice = if packet.objectId = o then edit packet else none

theorem paired_pair {notice : Notice} {packet : PlayPacket} (h : Tells notice packet) :
    Paired D a r k o
      [.toSector notice packet.sectorId, .toSectorOwner packet packet.sectorId] := by
  have htold : toldBy D a r o
      [.toSector notice packet.sectorId, .toSectorOwner packet packet.sectorId] =
        (noticeEdit o notice).toList.filter fun e => (D.owner e.target).isSome := by
    simp only [toldBy, told, List.filterMap_cons, List.filterMap_nil, heard]
    cases noticeEdit o notice <;> rfl
  have hsent : sentBy D k o
      [.toSector notice packet.sectorId, .toSectorOwner packet packet.sectorId] =
        edits (((D.owner packet.sectorId).map fun _ => packet).toList.filter
          fun q => q.objectId = o) := by
    cases howner : D.owner packet.sectorId <;>
      simp [sentBy, route, Cluster.packetsAbout, howner]
  rw [Paired, htold, hsent, h o]
  by_cases ho : packet.objectId = o
  · rw [if_pos ho]
    cases hedit : edit packet with
    | none =>
        cases D.owner packet.sectorId <;> simp [edits, ho, hedit]
    | some e =>
        -- a sector that nobody runs is neither told nor sent to
        have htarget := target_of_edit hedit
        cases howner : D.owner packet.sectorId <;> simp [edits, ho, hedit, htarget, howner]
  · rw [if_neg ho]
    cases D.owner packet.sectorId <;> simp [edits, ho]

theorem paired_flatMap {n : Nat → Notice} {q : Nat → PlayPacket}
    (hx : ∀ x, (q x).sectorId = x) (h : ∀ x, Tells (n x) (q x)) (sectors : List Nat) :
    Paired D a r k o
      (sectors.flatMap fun x => [.toSector (n x) x, .toSectorOwner (q x) x]) := by
  induction sectors with
  | nil =>
      exact paired_nil
  | cons x sectors ih =>
      have hpair := paired_pair (D := D) (a := a) (r := r) (k := k) (o := o) (h x)
      rw [hx x] at hpair
      rw [List.flatMap_cons]
      exact hpair.append ih

/-! ### Postings of the world -/

theorem paired_sendRemove (sectors : List Nat) (object : Nat) :
    Paired D a r k o (World.sendRemoveObservingObject sectors object) :=
  paired_flatMap (q := (PlayPacket.removeObservingObjectRq · object)) (fun _ => rfl)
    (fun _ _ => rfl) _

theorem paired_sendCreate (sectors : List Nat) (s : Nat) (info : ObjectInfo) :
    Paired D a r k o (World.sendCreateObservingObject sectors s info) :=
  paired_flatMap (q := createPacket s info) (fun _ => rfl) (fun _ _ => rfl) _

theorem paired_exchange (info : ObjectInfo) (p : Direction) (s : Nat) (location : FixtureLocation)
    (q : Direction) (d : Nat) :
    Paired D a r k o (World.exchangeObservingObject info p s location q d) := by
  unfold World.exchangeObservingObject
  split_ifs
  · exact paired_nil
  · exact (paired_sendRemove _ _).append (paired_sendCreate _ _ _)
  · exact (paired_sendRemove _ _).append paired_nil
  · exact paired_nil.append (paired_sendCreate _ _ _)
  · exact paired_nil

theorem paired_foldOutcome {α : Type} {body : World → α → Outcome}
    (hbody : ∀ w b, Paired D a r k o (body w b).posts) (rounds : List α) :
    ∀ w, Paired D a r k o (foldOutcome body w rounds).posts := by
  induction rounds with
  | nil =>
      intro w
      exact paired_nil
  | cons b rounds ih =>
      intro w
      unfold foldOutcome
      dsimp only
      split
      · exact hbody w b
      · exact (hbody w b).append (ih _)

theorem paired_settle {change : World.Change} (h : Paired D a r k o change.posts)
    (location : FixtureLocation) (phase : Direction) :
    Paired D a r k o (change.settle location phase).posts := by
  unfold World.Change.settle
  split
  · exact h
  · exact h

/-- The promotion of an object that leaves is told by the server it comes to. -/
theorem paired_onChangeFixtureLocation (x : Nat) (f : Fixture) (location : FixtureLocation)
    (phase : Direction) (now : Milliseconds) :
    Paired D a r k o (World.onChangeFixtureLocation x f location phase now).posts := by
  unfold World.onChangeFixtureLocation
  dsimp only
  split_ifs
  · exact paired_exchange _ _ _ _ _ _
  · exact (paired_exchange _ _ _ _ _ _).append paired_nil
  · exact (paired_exchange _ _ _ _ _ _).append (paired_sendCreate _ _ _)
  · exact ((paired_exchange _ _ _ _ _ _).append paired_nil).append (paired_request rfl _)
  · exact ((paired_exchange _ _ _ _ _ _).append (paired_sendCreate _ _ _)).append
      (paired_request rfl _)

theorem paired_updateFixture (x : Nat) (f : Fixture) (clock : World.Clock) :
    Paired D a r k o (World.updateFixture x f clock).posts := by
  have hphase : ∀ g : Fixture, ∀ phase,
      Paired D a r k o (World.onChangeFixturePhase x g phase).posts := by
    intro g phase
    unfold World.onChangeFixturePhase
    split_ifs
    · exact paired_exchange _ _ _ _ _ _
    · exact paired_nil
  unfold World.updateFixture
  dsimp only
  split_ifs
  · exact paired_nil
  · exact paired_nil
  · unfold World.transform
    dsimp only
    split
    · split_ifs
      · exact paired_settle (paired_onChangeFixtureLocation _ _ _ _ _) _ _
      · exact paired_nil
    · split_ifs
      · exact paired_settle (paired_onChangeFixtureLocation _ _ _ _ _) _ _
      · exact paired_settle (paired_onChangeFixtureLocation _ _ _ _ _) _ _
      · exact paired_settle (hphase _ _) _ _
      · exact paired_nil
      · exact paired_nil
    · exact paired_nil

theorem paired_update (w : World) (clock : World.Clock) :
    Paired D a r k o (w.update clock).posts := by
  have hobject : ∀ x w b, Paired D a r k o (World.updateObject clock x w b).posts := by
    intro x w b
    unfold World.updateObject
    split
    · split
      · exact paired_nil
      · exact paired_updateFixture _ _ _
    · exact paired_nil
  refine paired_foldOutcome (fun w x => ?_) _ _
  unfold World.updateSector
  split
  · exact paired_foldOutcome (hobject x) _ _
  · exact paired_nil

end Paired

/-! ### Postings about the owner -/

section Owner

variable {D : Deployment} {a : Nat} {r : Option Nat} {k o : Nat} {w : World}

/-- A notice of its own, and then what the copies are told. -/
def Opens (D : Deployment) (a : Nat) (r : Option Nat) (k o : Nat) (posts : List Posting)
    (e : Option (Edit Nat)) : Prop :=
  toldBy D a r o posts =
    (e.toList.filter fun e => (D.owner e.target).isSome) ++ sentBy D k o posts

/-- An answer to the agency that has asked, and a broadcast to the others. -/
theorem opens_answer {source x : Nat} {n broadcast : Notice} {first l : List Posting}
    (hfirst : first = [.toServer source n, .toSectorWithout source broadcast x] ∨
      first = [.toSectorWithout source broadcast x, .toServer source n])
    (hsame : noticeEdit o n = noticeEdit o broadcast) (h : Paired D a r k o l) :
    Opens D a r k o (first ++ l) (noticeEdit o n) := by
  have htold : toldBy D a r o first =
      (noticeEdit o n).toList.filter fun e => (D.owner e.target).isSome := by
    -- each agency hears one of the two
    have hone : first.filterMap (heard a r) = [n] ∨
        first.filterMap (heard a r) = [broadcast] := by
      by_cases hsource : source = a
      · refine .inl ?_
        rcases hfirst with rfl | rfl <;> simp [heard, hsource]
      · refine .inr ?_
        rcases hfirst with rfl | rfl <;> simp [heard, hsource]
    have hedit : (first.filterMap (heard a r)).filterMap (noticeEdit o) =
        (noticeEdit o n).toList := by
      rcases hone with hone | hone
      · rw [hone]
        cases hr : noticeEdit o n <;> simp [hr]
      · rw [hone, hsame]
        cases hb : noticeEdit o broadcast <;> simp [hb]
    rw [toldBy, told, hedit]
  have hsent : sentBy D k o first = [] := by
    rcases hfirst with rfl | rfl <;> rfl
  rw [Opens, toldBy_append, sentBy_append, htold, hsent, List.nil_append, h]

/-- What the owner of a moved object posts. -/
theorem opens_moveObject {source : Nat} {packet : CharacterMoveRq} {f : Fixture}
    (hf : w.fixtureAt packet.sectorId packet.objectId = some f)
    (hobs : f.isObservingFixture = false) :
    Opens D a r k o (w.moveObject source packet).posts
      (if packet.objectId = o then some (.visit packet.sectorId) else none) := by
  obtain ⟨sector, hfind, hfixture⟩ := World.find_of_fixtureAt hf
  simp only [World.moveObject, World.sectorAt_of_find hfind, hfixture, hobs, Bool.false_eq_true,
    if_false]
  refine opens_answer (n := .characterMoveRs packet) (.inr rfl) rfl ?_
  split_ifs
  · refine paired_flatMap
      (q := fun x => .characterMoveRq { packet with sectorId := x, toOwner := false })
      (fun _ => rfl) (fun _ _ => ?_) _
    rfl
  · exact paired_nil

/-- What the owner of a removed object posts. -/
theorem opens_removeCharacter {source : Nat} {packet : RemoveCharacterRq} {f : Fixture}
    (hf : w.fixtureAt packet.sectorId packet.objectId = some f)
    (hobs : f.isObservingFixture = false) :
    Opens D a r k o (w.removeCharacter source packet).posts
      (if packet.objectId = o then some (.erase packet.sectorId) else none) := by
  obtain ⟨sector, hfind, hfixture⟩ := World.find_of_fixtureAt hf
  simp only [World.removeCharacter, World.sectorAt_of_find hfind, hfixture, hobs,
    Bool.false_eq_true, if_false]
  refine opens_answer
    (n := .removeCharacterRs packet.userId packet.sectorId packet.objectId .None)
    (.inl rfl) rfl ?_
  split_ifs
  · refine paired_flatMap
      (q := fun x => .removeCharacterRq { packet with sectorId := x, toOwner := false })
      (fun _ => rfl) (fun _ _ => ?_) _
    rfl
  · exact paired_nil

/-- What a server posts that spawns an object. -/
theorem opens_spawnCharacter {source : Nat} {packet : SpawnCharacterRq} {now : Milliseconds}
    {info : ObjectInfo} (hposts : (w.spawnCharacter source packet now).posts =
      [.toServer source (.spawnCharacterRs packet.userId (some info) .None),
        .toSectorWithout source (.createObjectPs info) packet.sectorId]) :
    Opens D a r k o (w.spawnCharacter source packet now).posts
      (if info.objectId = o then some (.insert info.sectorId) else none) := by
  rw [hposts]
  exact opens_answer (l := []) (.inl rfl) rfl paired_nil

/-- What a server posts that takes an object over. -/
theorem opens_promoteObservingObject {s : Nat} {info : ObjectInfo} {f : Fixture}
    (hf : w.fixtureAt info.sectorId info.objectId = some f) (now : Milliseconds) :
    Opens D a r k o (w.promoteObservingObject s info now).posts
      (if info.objectId = o then some (.visit info.sectorId) else none) := by
  have hopens : ∀ {rest : List Posting}, Paired D a r k o rest →
      Opens D a r k o ([.toSector (.promoteObjectRq s info) s] ++ rest)
        (if info.objectId = o then some (.visit info.sectorId) else none) := by
    intro rest h
    have htold : toldBy D a r o [.toSector (.promoteObjectRq s info) s] =
        (if info.objectId = o then some (Edit.visit info.sectorId) else none).toList.filter
          fun e => (D.owner e.target).isSome := by
      by_cases ho : info.objectId = o <;> simp [toldBy, told, heard, noticeEdit, ho]
    have hsent : sentBy D k o [.toSector (.promoteObjectRq s info) s] = [] := rfl
    rw [Opens, toldBy_append, sentBy_append, htold, hsent, List.nil_append, h]
  obtain ⟨sector, hfind, hfixture⟩ := World.find_of_fixtureAt hf
  have heq := World.promoteObservingObject_of_fixture (s := s) hfind hfixture now
  split_ifs at heq
  · rw [heq]
    exact hopens paired_nil
  · rw [heq]
    exact hopens paired_nil
  · rw [heq]
    exact hopens (paired_exchange _ _ _ _ _ _)

/-- A copy is created, removed or moved without a word. -/
theorem posts_of_edit {source : Nat} {packet : PlayPacket} {e : Edit Nat} (hedit : edit packet = some e)
    (hcopy : ∀ f, w.fixtureAt packet.sectorId packet.objectId = some f → f.isObservingFixture = true)
    (hpresent : (∀ y, e ≠ .insert y) → w.fixtureAt packet.sectorId packet.objectId ≠ none)
    (now : Milliseconds) : (w.handle source packet now).posts = [] := by
  cases packet with
  | createObservingObjectRq s info =>
      unfold World.handle World.createObservingObject
      dsimp only
      split
      · rfl
      · split
        · rfl
        · split <;> rfl
  | removeObservingObjectRq x object =>
      unfold World.handle World.removeObservingObject
      dsimp only
      split
      · rfl
      · split
        · rfl
        · split_ifs <;> rfl
  | promoteObjectRq s info =>
      cases hedit
  -- a packet that comes from the owner is for a copy, which answers nobody
  | characterMoveRq packet =>
      simp only [edit] at hedit
      split_ifs at hedit with hto
      cases hedit
      obtain ⟨f, hf⟩ := Option.ne_none_iff_exists'.1 (hpresent fun _ h => by cases h)
      have hobs := hcopy f hf
      obtain ⟨sector, hfind, hfixture⟩ := World.find_of_fixtureAt hf
      simp only [PlayPacket.sectorId, PlayPacket.objectId] at hfind hfixture
      simp [World.handle, World.moveObject, World.sectorAt_of_find hfind, hfixture, hobs, hto]
  | removeCharacterRq packet =>
      simp only [edit] at hedit
      split_ifs at hedit with hto
      cases hedit
      obtain ⟨f, hf⟩ := Option.ne_none_iff_exists'.1 (hpresent fun _ h => by cases h)
      have hobs := hcopy f hf
      obtain ⟨sector, hfind, hfixture⟩ := World.find_of_fixtureAt hf
      simp only [PlayPacket.sectorId, PlayPacket.objectId] at hfind hfixture
      simp [World.handle, World.removeCharacter, World.sectorAt_of_find hfind, hfixture, hobs, hto]

end Owner

/-! ## Where an object is on its way to -/

/-- The sectors that hold a copy of the object once what is under way has been handled. -/
def Heading (D : Deployment) (c : Cluster) (o : Nat) (T : Set Nat) : Prop :=
  Edit.Runs (others (c.view D o).copies none) (edits (c.view D o).queue) T

/-- The copies expect what is under way. -/
theorem runs_of_shape {lossless : Prop} {v : View} {b : Bool} (h : Shape lossless v b) :
    ∃ T, Edit.Runs (others v.copies none) (edits v.queue) T := by
  cases h with
  | gone T hT h =>
      exact ⟨T, h.runs⟩
  | held s f h =>
      -- no packet is about the sector of the owner
      have hset : others v.copies none = insert s (others v.copies (some s)) := by
        ext x
        by_cases hx : x = s
        · simp [mem_others, hx, h.copy]
        · simp [mem_others, hx, Ne.symm hx]
      refine ⟨_, hset ▸ h.replica.runs.frame (a := s) ?_⟩
      rintro e he rfl
      exact h.replica.apart e he rfl
  | moving s info before after h =>
      have hqueue : edits v.queue = edits before := by
        rw [h.queue, edits_append, edits_cons_of_none rfl, edits_of_toOwner h.requests,
          List.append_nil]
      exact ⟨_, hqueue ▸ h.replica.runs⟩

section Heading

open Cluster

variable {D : Deployment} {c c' : Cluster} {lossless : Prop} {a k o : Nat} {r : Option Nat}
  {T : Set Nat}

theorem exists_heading (h : Ordered D lossless c) (o : Nat) : ∃ T, Heading D c o T :=
  runs_of_shape (h.inShape o).shape

theorem heading_of_quiet (h : Heading D c o T) (hflight : c.flight = []) :
    others (c.view D o).copies none = T := by
  unfold Heading at h
  rw [view_queue hflight] at h
  exact h

/-- The notice of the owner, and then those of the copies, lead to where the object is heading. -/
theorem told_of_opens {posts : List Posting} {e : Option (Edit Nat)} (hopens : Opens D a r k o posts e)
    {P M : Set Nat} {Q : List (Edit Nat)} (hrest : Edit.Runs P Q M)
    (hown : Edit.Runs T (e.toList.filter fun e => (D.owner e.target).isSome) M)
    (hshape : ∃ T', Edit.Runs P (Q ++ sentBy D k o posts) T') :
    ∃ T', Edit.Runs P (Q ++ sentBy D k o posts) T' ∧ Edit.Runs T (toldBy D a r o posts) T' := by
  obtain ⟨T', hT'⟩ := hshape
  obtain ⟨M', hM, hsent⟩ := (Edit.runs_append _ _ _).1 hT'
  obtain rfl := hrest.unique hM
  refine ⟨T', hT', ?_⟩
  rw [hopens]
  exact hown.append hsent

theorem Paired.opens {posts : List Posting} (h : Paired D a r k o posts) :
    Opens D a r k o posts none := h

theorem edits_queue_absorb (c : Cluster) (k : Nat) (r : Outcome) (o : Nat) :
    edits ((c.absorb D k r).view D o).queue =
      edits (c.view D o).queue ++ sentBy D k o r.posts := by
  change edits (packetsAbout o (c.flight ++ _)) = _
  rw [packetsAbout_append, edits_append]
  rfl

/-- The steps of a server that neither spawn an object nor handle a packet leave the copies where
they are. -/
theorem others_next (h : Ordered D lossless c) {e : Event} (hstep : (machine D).step c e c')
    (hkept : ∀ o act, c.Permits o e act → ∃ x deltaTime, act = .round x deltaTime) (o : Nat) :
    others (c'.view D o).copies none = others (c.view D o).copies none := by
  have hholding : Holding D (fun o v => others v.copies none = others (c.view D o).copies none)
      (fun _ => True) c := ⟨h.sound, fun _ => rfl, fun _ _ _ => trivial⟩
  refine (hholding.step (.inl trivial) ?_ hstep).views o
  intro o act v v' fault hpermits _ hv hview
  refine ⟨?_, fun _ _ => trivial⟩
  obtain ⟨x, deltaTime, rfl⟩ := hkept o act hpermits
  cases hview with
  | round _ hf _ =>
      rw [← hv]
      exact others_update (by rw [hf]; rfl)

/-- A handler that makes one edit to an object that nothing is under way about, and tells so. -/
theorem told_absorb {F : Option Fixture} {x object : Nat} {packets : List PlayPacket} {out : Outcome}
    (hx : x ∈ D.sectorsOf k) (heffect : Effect (c.worlds k) out x object F packets)
    (habout : ∀ q ∈ packets, About object q)
    (hshape : ∃ T', Heading D (c.absorb D k out) o T') {e : Edit Nat} (htarget : e.target = x)
    (hopens : Opens D a r k o out.posts (if object = o then some e else none))
    (hquiet : edits (c.view D object).queue = [])
    (happlicable : e.Applicable (others (c.view D object).copies none))
    (hafter : others (Function.update (c.view D object).copies x F) none =
      e.after (others (c.view D object).copies none)) (hT : Heading D c o T) :
    ∃ T', Heading D (c.absorb D k out) o T' ∧ Edit.Runs T (toldBy D a r o out.posts) T' := by
  unfold Heading at hT hshape ⊢
  have hcopies := congrArg View.copies (view_absorb hx heffect habout o)
  rw [edits_queue_absorb] at hshape ⊢
  by_cases ho : object = o
  · subst ho
    rw [if_pos rfl] at hopens hcopies
    rw [hcopies] at hshape ⊢
    rw [hquiet] at hT
    obtain rfl : _ = T := hT
    refine told_of_opens hopens (M := e.after (others (c.view D object).copies none)) ?_ ?_ hshape
    · rw [hquiet]
      exact hafter
    · have hown : (D.owner e.target).isSome = true := by
        rw [htarget, (D.mem_sectorsOf.1 hx).2]
        rfl
      have hedit : (some e).toList.filter (fun e => (D.owner e.target).isSome) = [e] := by
        simp [hown]
      rw [hedit]
      exact Edit.runs_cons.2 ⟨happlicable, Edit.Runs.nil _⟩
  · -- the object is another one
    rw [if_neg ho] at hopens
    rw [if_neg (Ne.symm ho)] at hcopies
    rw [hcopies] at hshape ⊢
    exact told_of_opens hopens hT (Edit.Runs.nil T) hshape

theorem mem_others_of_fixtureAt {x : Nat} {f : Fixture} (hx : x ∈ D.sectorsOf k)
    (hf : c.fixtureAt k x o = some f) : x ∈ others (c.view D o).copies none :=
  ⟨by simp, f, (view_copies hx o).trans hf⟩

variable {agency : Nat} {now : Milliseconds}

theorem edits_queue_of_quiet (hflight : c.flight = []) (o : Nat) :
    edits (c.view D o).queue = [] := by
  rw [view_queue hflight]
  rfl

theorem told_spawn (h : Ordered D lossless c) {packet : SpawnCharacterRq}
    (hx : packet.sectorId ∈ D.sectorsOf k) (hflight : c.flight = [])
    (h' : Ordered D lossless (c.next D (.spawn k agency packet now))) (hT : Heading D c o T) :
    ∃ T', Heading D (c.next D (.spawn k agency packet now)) o T' ∧
      Edit.Runs T (toldBy D a r o ((c.worlds k).spawnCharacter agency packet now).posts) T' := by
  obtain ⟨sector, hfind, hsector⟩ := World.find_of_sectorIdAt (h.sound.sectorIdAt hx)
  rcases World.spawnCharacter_effect agency now hfind with
    ⟨_, hfault, _⟩ | ⟨hnone, _, heffect⟩
  · -- no server is halted
    have hhalted := h'.halted k
    simp [next, absorb, hfault] at hhalted
  · have habsent : packet.sectorId ∉ others (c.view D sector.currentFixtureId).copies none := by
      rintro ⟨_, f, hf⟩
      rw [view_copies hx, hnone] at hf
      cases hf
    refine told_absorb (e := .insert sector.sectorId) hx heffect (by simp) (exists_heading h' o)
      hsector (opens_spawnCharacter (spawnCharacter_posts agency now hfind hnone))
      (edits_queue_of_quiet hflight _) ?_ ?_ hT
    · exact hsector.symm ▸ habsent
    · exact hsector.symm ▸ others_insert (by simp) _

theorem told_move (h : Ordered D lossless c) {packet : CharacterMoveRq}
    (howns : c.owns k packet.sectorId packet.objectId = true) (hflight : c.flight = [])
    (h' : Ordered D lossless (c.next D (.move k agency packet))) (hT : Heading D c o T) :
    ∃ T', Heading D (c.next D (.move k agency packet)) o T' ∧
      Edit.Runs T (toldBy D a r o ((c.worlds k).moveObject agency packet).posts) T' := by
  have hx := h.sound.mem_sectorsOf howns
  obtain ⟨f, hf, hobs⟩ := isOwner_of_owns ((view_owns hx packet.objectId).trans howns)
  have hfixture : c.fixtureAt k packet.sectorId packet.objectId = some f :=
    (view_copies hx _).symm.trans hf
  rcases h.sound.handle_cases (.characterMoveRq packet) trivial k agency 0 with
    ⟨hnot, _⟩ | ⟨_, F, packets, hreaction, heffect, habout, _⟩
  · exact absurd hx hnot
  · simp only [PlayPacket.sectorId, PlayPacket.objectId] at hreaction heffect habout
    rw [hf] at hreaction
    obtain ⟨rfl, _, _⟩ := hreaction.move_owner hobs
    exact told_absorb hx heffect habout (exists_heading h' o) rfl (opens_moveObject hfixture hobs)
      (edits_queue_of_quiet hflight _) (mem_others_of_fixtureAt hx hfixture)
      (others_update (by rw [hf]; rfl)) hT

theorem told_remove (h : Ordered D lossless c) {packet : RemoveCharacterRq}
    (howns : c.owns k packet.sectorId packet.objectId = true) (hflight : c.flight = [])
    (h' : Ordered D lossless (c.next D (.remove k agency packet))) (hT : Heading D c o T) :
    ∃ T', Heading D (c.next D (.remove k agency packet)) o T' ∧
      Edit.Runs T (toldBy D a r o ((c.worlds k).removeCharacter agency packet).posts) T' := by
  have hx := h.sound.mem_sectorsOf howns
  obtain ⟨f, hf, hobs⟩ := isOwner_of_owns ((view_owns hx packet.objectId).trans howns)
  have hfixture : c.fixtureAt k packet.sectorId packet.objectId = some f :=
    (view_copies hx _).symm.trans hf
  rcases h.sound.handle_cases (.removeCharacterRq packet) trivial k agency 0 with
    ⟨hnot, _⟩ | ⟨_, F, packets, hreaction, heffect, habout, _⟩
  · exact absurd hx hnot
  · simp only [PlayPacket.sectorId, PlayPacket.objectId] at hreaction heffect habout
    rw [hf] at hreaction
    obtain ⟨rfl, _, _⟩ := hreaction.remove_owner hobs
    exact told_absorb hx heffect habout (exists_heading h' o) rfl
      (opens_removeCharacter hfixture hobs) (edits_queue_of_quiet hflight _)
      (mem_others_of_fixtureAt hx hfixture) others_erase hT

/-- What an update sends it tells. -/
theorem told_update (h : Ordered D lossless c) {clock : World.Clock}
    (hstep : (machine D).step c (.update k clock) c')
    (h' : Ordered D lossless c') (hT : Heading D c o T) :
    ∃ T', Heading D c' o T' ∧
      Edit.Runs T (toldBy D a r o ((c.worlds k).update clock).posts) T' := by
  have hcopies := others_next h hstep (fun o act hpermits => by
    obtain ⟨x, rfl⟩ := hpermits
    exact ⟨x, _, rfl⟩) o
  have hshape := exists_heading h' o
  obtain ⟨_, rfl⟩ := hstep
  have hqueue := edits_queue_absorb (D := D) c k ((c.worlds k).update clock) o
  unfold Heading at hT hshape ⊢
  rw [hcopies] at hshape ⊢
  change ∃ T', Edit.Runs _ (edits ((c.absorb D k ((c.worlds k).update clock)).view D o).queue) T'
    at hshape
  change ∃ T', Edit.Runs _ (edits ((c.absorb D k ((c.worlds k).update clock)).view D o).queue) T' ∧ _
  rw [hqueue] at hshape ⊢
  exact told_of_opens (paired_update _ _).opens hT (Edit.Runs.nil T) hshape

/-- A packet that is no edit is taken. -/
theorem heading_take {e : Envelope} (hhead : c.channelHead 0 = some e) (hedit : edit e.packet = none) :
    Heading D { c with flight := c.flight.eraseIdx 0 } o T ↔ Heading D c o T := by
  have hview := view_take (D := D) hhead o
  unfold Heading
  rw [hview]
  split_ifs with ho
  · subst ho
    have hqueue := queue_of_channelHead (D := D) hhead
    rw [hqueue]
    simp only [List.take_zero, edits_append, edits_cons_of_none hedit]
  · exact Iff.rfl

/-- A copy does what a packet tells it, and nobody else is told. -/
theorem told_edit (h : Ordered D lossless c) (now : Milliseconds) {e : Envelope}
    (hhead : c.channelHead 0 = some e) {s : Edit Nat} (hedit : edit e.packet = some s) (hT : Heading D c o T) :
    Heading D (c.next D (.deliver 0 now)) o T ∧
      ((c.worlds e.target).handle e.source e.packet now).posts = [] := by
  have hflight := flight_of_channelHead_zero hhead
  have hmem : e ∈ c.flight := by
    rw [hflight]
    exact List.mem_cons_self
  have hx := (h.head hflight).1
  have hqueue : (c.view D e.packet.objectId).queue =
      e.packet :: packetsAbout e.packet.objectId (c.flight.drop 1) := queue_of_channelHead hhead
  have hpromote : e.packet.isPromote = false := by
    cases hp : e.packet.isPromote with
    | false =>
        rfl
    | true =>
        cases hq : e.packet with
        | promoteObjectRq s info =>
            rw [hq] at hedit
            cases hedit
        | _ =>
            rw [hq] at hp
            cases hp
  -- the copy is an observer, and is there unless it is to be made
  obtain ⟨owner, pending, T₀, hreplica⟩ := (h.inShape e.packet.objectId).shape.replica hqueue hpromote
  have howner : owner ≠ some e.packet.sectorId := by
    rw [← target_of_edit hedit]
    exact hreplica.apart s (by simp [edits_cons_of_some hedit])
  have hobs : ∀ f, (c.view D e.packet.objectId).copies e.packet.sectorId = some f →
      f.isObservingFixture = true := fun f hf => hreplica.observe _ f hf howner
  have happlicable : ∀ T', Heading D c e.packet.objectId T' →
      s.Applicable (others (c.view D e.packet.objectId).copies none) ∧
        Edit.Runs (s.after (others (c.view D e.packet.objectId).copies none))
          (edits (packetsAbout e.packet.objectId (c.flight.drop 1))) T' := by
    intro T' hT'
    unfold Heading at hT'
    rw [hqueue, edits_cons_of_some hedit] at hT'
    exact Edit.runs_cons.1 hT'
  obtain ⟨T₁, hT₁⟩ := exists_heading h e.packet.objectId
  have hposts : ((c.worlds e.target).handle e.source e.packet now).posts = [] := by
    have hfixture := view_copies (c := c) hx e.packet.objectId
    refine posts_of_edit hedit (fun f hf => hobs f (hfixture.trans hf)) (fun hinsert => ?_) now
    rw [← hfixture]
    have hpresent : e.packet.sectorId ∈ others (c.view D e.packet.objectId).copies none := by
      have hmeets := (happlicable T₁ hT₁).1
      rw [← target_of_edit hedit]
      cases s with
      | insert y =>
          exact absurd rfl (hinsert y)
      | erase y =>
          exact hmeets
      | visit y =>
          exact hmeets
    obtain ⟨_, f, hf⟩ := hpresent
    rw [hf]
    exact fun hnone => by cases hnone
  refine ⟨?_, hposts⟩
  have heq : c.next D (.deliver 0 now) = { c with flight := c.flight.eraseIdx 0 }.absorb D e.target
      ((c.worlds e.target).handle e.source e.packet now) := by
    simp only [next, hhead]
  rcases (h.sound.take 0).handle_cases e.packet (h.sound.keyed e hmem) e.target e.source now with
    ⟨hnot, _⟩ | ⟨_, F, packets, hreaction, heffect, habout, _⟩
  · exact absurd hx hnot
  · have hview := view_take (D := D) hhead
    have hcopies : ({ c with flight := c.flight.eraseIdx 0 } : Cluster).view D e.packet.objectId =
        { c.view D e.packet.objectId with
          queue := packetsAbout e.packet.objectId (c.flight.drop 1) } := by
      rw [hview, if_pos rfl]
      rfl
    rw [hcopies] at hreaction
    have hnone : (none : Option Nat) ≠ some e.packet.sectorId := by simp
    obtain ⟨rfl, _, _, hafter⟩ := Replica.edit_reaction hedit hnone hobs (happlicable T₁ hT₁).1
      hreaction
    have hnext := view_absorb hx heffect habout o
    unfold Heading
    rw [heq, hnext]
    by_cases ho : o = e.packet.objectId
    · subst ho
      rw [if_pos rfl, hcopies]
      have hruns := (happlicable T hT).2
      rw [← hafter] at hruns
      simpa [View.write] using hruns
    · rw [if_neg ho, hview, if_neg ho]
      exact hT

/-- A promotion that arrives is told by the server that takes the object over. -/
theorem told_promotion (h : Ordered D lossless c) {e : Envelope} (hhead : c.channelHead 0 = some e)
    (hpromote : e.packet.isPromote = true) (h' : Ordered D lossless (c.next D (.deliver 0 now)))
    (hT : Heading D c o T) :
    ∃ T', Heading D (c.next D (.deliver 0 now)) o T' ∧
      Edit.Runs T (toldBy D a r o ((c.worlds e.target).handle e.source e.packet now).posts) T' := by
  have hflight := flight_of_channelHead_zero hhead
  have hmem : e ∈ c.flight := by
    rw [hflight]
    exact List.mem_cons_self
  have hx := (h.head hflight).1
  have heq : c.next D (.deliver 0 now) = { c with flight := c.flight.eraseIdx 0 }.absorb D e.target
      ((c.worlds e.target).handle e.source e.packet now) := by
    simp only [next, hhead]
  have hqueue : (c.view D e.packet.objectId).queue =
      e.packet :: packetsAbout e.packet.objectId (c.flight.drop 1) := queue_of_channelHead hhead
  have htake : ({ c with flight := c.flight.eraseIdx 0 } : Cluster).view D e.packet.objectId =
      { c.view D e.packet.objectId with
        queue := packetsAbout e.packet.objectId (c.flight.drop 1) } := by
    rw [view_take hhead, if_pos rfl]
    rfl
  have hedit : edit e.packet = none := by
    cases hq : e.packet with
    | promoteObjectRq s info =>
        rfl
    | _ =>
        rw [hq] at hpromote
        cases hpromote
  -- the object is moving, and its promotion is the next packet about it
  have hmoving : ∃ s info after, e.packet = .promoteObjectRq s info ∧
      packetsAbout e.packet.objectId (c.flight.drop 1) = after ∧
      Moving (c.view D e.packet.objectId) s info [] after := by
    have hshape := (h.inShape e.packet.objectId).shape
    generalize (c.view D e.packet.objectId).live = b at hshape
    cases hshape with
    | gone T hT h =>
        rw [h.noPromotion e.packet (by simp [hqueue])] at hpromote
        cases hpromote
    | held s f h =>
        rw [h.replica.noPromotion e.packet (by simp [hqueue])] at hpromote
        cases hpromote
    | moving s info before after h =>
        have hsplit := hqueue.symm.trans h.queue
        cases before with
        | cons q before =>
            simp only [List.cons_append, List.cons.injEq] at hsplit
            rw [hsplit.1, h.replica.noPromotion q List.mem_cons_self] at hpromote
            cases hpromote
        | nil =>
            simp only [List.nil_append, List.cons.injEq] at hsplit
            exact ⟨s, info, after, hsplit.1, hsplit.2, h⟩
  obtain ⟨s, info, after, hpacket, hafter, hmoving⟩ := hmoving
  have hpresent : e.packet.sectorId ∈ others (c.view D e.packet.objectId).copies none := by
    have hset : others (c.view D e.packet.objectId).copies none = _ := hmoving.replica.runs
    rw [hset, hpacket]
    exact .inr (.inr rfl)
  obtain ⟨_, f, hf⟩ := id hpresent
  have hfixture : (c.worlds e.target).fixtureAt e.packet.sectorId e.packet.objectId = some f :=
    (view_copies hx _).symm.trans hf
  rcases (h.sound.take 0).handle_cases e.packet (h.sound.keyed e hmem) e.target e.source now with
    ⟨hnot, _⟩ | ⟨_, F, packets, hreaction, heffect, habout, _⟩
  · exact absurd hx hnot
  · have hF : F.isSome = true := by
      rw [htake] at hreaction
      generalize Outcome.fault _ = fault at hreaction
      rw [hf, hpacket] at hreaction
      cases hreaction <;> rfl
    have hopens : Opens D a r e.target o ((c.worlds e.target).handle e.source e.packet now).posts
        (if e.packet.objectId = o then some (.visit e.packet.sectorId) else none) := by
      rw [hpacket] at hfixture ⊢
      exact opens_promoteObservingObject hfixture now
    have hshape := exists_heading h' o
    rw [heq] at hshape ⊢
    refine told_absorb hx heffect habout hshape rfl hopens ?_ ?_ ?_ ((heading_take hhead hedit).2 hT)
    · rw [htake, hafter]
      exact edits_of_toOwner hmoving.requests
    · rw [htake]
      exact hpresent
    · rw [htake]
      exact others_update (by rw [hF, hf]; rfl)

/-- In lock step the notices of a step lead from where an object was heading to where it is heading
afterwards. -/
theorem told_next (h : Ordered D lossless c) {e : Event} (hemission : c.inEmission D e)
    (hquiet : ¬ Network.Internal e → c.flight = []) (hstep : (machine D).step c e c')
    (h' : Ordered D lossless c') (hT : Heading D c o T) :
    ∃ T', Heading D c' o T' ∧
      Edit.Runs T (told D o ((noticesOf a c e).map Prod.snd)) T' := by
  have hnotices : ∀ {k out}, Asking.outcome c e = some (k, out) →
      told D o ((noticesOf a c e).map Prod.snd) = toldBy D a (requester c e) o out.posts := by
    intro k out hout
    have hid : (Prod.snd ∘ fun n : Notice => (k, n)) = id := rfl
    simp only [noticesOf, hout, List.map_map, hid, List.map_id, toldBy]
  cases e with
  | spawn k agency packet now =>
      obtain ⟨_, rfl⟩ := hstep
      rw [hnotices rfl]
      exact told_spawn h hemission.1 (hquiet id) h' hT
  | move k agency packet =>
      obtain ⟨_, rfl⟩ := hstep
      rw [hnotices rfl]
      exact told_move h hemission (hquiet id) h' hT
  | remove k agency packet =>
      obtain ⟨_, rfl⟩ := hstep
      rw [hnotices rfl]
      exact told_remove h hemission (hquiet id) h' hT
  | update k clock =>
      rw [hnotices rfl]
      exact told_update h hstep h' hT
  | deliver index now =>
      obtain rfl : index = 0 := hemission
      obtain ⟨_, rfl⟩ := hstep
      cases hhead : c.channelHead 0 with
      | none =>
          have hsame : c.next D (.deliver 0 now) = c := by simp only [next, hhead]
          have hnone : noticesOf a c (.deliver 0 now) = [] := by
            simp [noticesOf, Asking.outcome, hhead]
          rw [hsame, hnone]
          exact ⟨T, hT, Edit.Runs.nil T⟩
      | some e =>
          have hout : Asking.outcome c (.deliver 0 now) =
              some (e.target, (c.worlds e.target).handle e.source e.packet now) := by
            simp [Asking.outcome, hhead]
          rw [hnotices hout]
          -- an edit of a copy is silent, a promotion is announced, and in lock step nothing else is
          -- under way
          rcases packet_cases e.packet with ⟨s, hedit⟩ | hpromote | hto
          · obtain ⟨hT', hposts⟩ := told_edit h now hhead hedit hT
            rw [hposts]
            exact ⟨T, hT', Edit.Runs.nil T⟩
          · exact told_promotion h hhead hpromote h' hT
          · rw [(h.head (flight_of_channelHead_zero hhead)).2] at hto
            cases hto
  | rehashSectors k order =>
      -- the order of the tables does not show in the copies
      have hcopies := others_next h hstep (fun o act hpermits => hpermits.elim) o
      obtain ⟨_, rfl⟩ := hstep
      refine ⟨T, ?_, Edit.Runs.nil T⟩
      unfold Heading
      rw [hcopies]
      exact hT
  | rehashFixtures k x order =>
      have hcopies := others_next h hstep (fun o act hpermits => hpermits.elim) o
      obtain ⟨_, rfl⟩ := hstep
      refine ⟨T, ?_, Edit.Runs.nil T⟩
      have hflight : (c.next D (.rehashFixtures k x order)).flight = c.flight := by
        simp only [next]
        split <;> rfl
      unfold Heading
      rw [hcopies]
      change Edit.Runs _ (edits (packetsAbout o _)) T
      rw [hflight]
      exact hT

/-- The notice is no refused spawn. -/
def Filled (notice : Notice) : Prop := ∀ u error, notice ≠ .spawnCharacterRs u none error

theorem filled_of_silent {notice : Notice} (h : isAnnouncement notice = false) : Filled notice := by
  rintro u error rfl
  cases h

/-- In lock step no spawn is refused. -/
theorem filled_next (h : Ordered D lossless c) {e : Event} (hemission : c.inEmission D e)
    (hstep : (machine D).step c e c') (h' : Ordered D lossless c') :
    ∀ n ∈ noticesOf a c e, Filled n.2 := by
  have hsilent : ∀ {k out}, Asking.outcome c e = some (k, out) → Silent out.posts →
      ∀ n ∈ noticesOf a c e, Filled n.2 := fun hout hposts n hn =>
    filled_of_silent (silent_noticesOf hout hposts n hn)
  cases e with
  | spawn k agency packet now =>
      obtain ⟨_, rfl⟩ := hstep
      obtain ⟨sector, hfind, _⟩ := World.find_of_sectorIdAt (h.sound.sectorIdAt hemission.1)
      rcases World.spawnCharacter_effect agency now hfind with
        ⟨_, hfault, _⟩ | ⟨hnone, _, _⟩
      · have hhalted := h'.halted k
        simp [next, absorb, hfault] at hhalted
      · have hposts := spawnCharacter_posts agency now hfind hnone
        intro n hn u error heq
        simp only [noticesOf, Asking.outcome, hposts] at hn
        obtain ⟨notice, hnotice, rfl⟩ := List.mem_map.1 hn
        obtain ⟨posting, hposting, hheard⟩ := List.mem_filterMap.1 hnotice
        have hnotice := notice_of_heard hheard
        obtain rfl : notice = _ := heq
        rcases List.mem_cons.1 hposting with rfl | hposting
        · cases hnotice
        · rw [List.mem_singleton.1 hposting] at hnotice
          cases hnotice
  | move k agency packet =>
      exact hsilent rfl (silent_moveObject agency packet)
  | remove k agency packet =>
      exact hsilent rfl (silent_removeCharacter agency packet)
  | update k clock =>
      exact hsilent rfl (silent_update clock)
  | rehashSectors k order =>
      exact fun n hn => absurd hn List.not_mem_nil
  | rehashFixtures k x order =>
      exact fun n hn => absurd hn List.not_mem_nil
  | deliver index now =>
      cases hhead : c.channelHead index with
      | none =>
          have hnone : noticesOf a c (.deliver index now) = [] := by
            simp [noticesOf, Asking.outcome, hhead]
          rw [hnone]
          exact fun n hn => absurd hn List.not_mem_nil
      | some e =>
          have hout : Asking.outcome c (.deliver index now) =
              some (e.target, (c.worlds e.target).handle e.source e.packet now) := by
            simp [Asking.outcome, hhead]
          cases hpacket : e.packet with
          | promoteObjectRq s info =>
              rcases promoteObservingObject_announces (c.worlds e.target) s info now with
                ⟨hposts, _⟩ | ⟨rest, f, hposts, hrest, _⟩
              · refine hsilent hout ?_
                rw [hpacket]
                exact hposts ▸ silent_nil
              · -- the announcement is that of a promotion
                intro n hn u error heq
                simp only [noticesOf, hout, hpacket] at hn
                obtain ⟨notice, hnotice, rfl⟩ := List.mem_map.1 hn
                obtain ⟨posting, hposting, hheard⟩ := List.mem_filterMap.1 hnotice
                have hposting : posting ∈
                    ((c.worlds e.target).promoteObservingObject s info now).posts := hposting
                have hnotice := notice_of_heard hheard
                obtain rfl : notice = _ := heq
                rw [hposts] at hposting
                rcases List.mem_cons.1 hposting with rfl | hposting
                · cases hnotice
                · cases hrest posting hposting _ hnotice
          | _ =>
              refine hsilent hout (silent_handle e.source ?_ now)
              rw [hpacket]
              rfl

end Heading

end Agency
end SeamlessServer
