import SeamlessServer.Game.Round
import SeamlessServer.Game.Sectors

/-!
# Game.Cooldown — a second between two transformations

`SectorSystem::Update` leaves a fixture alone until `TransformCooltime` after its
`last_transform_time`.  That field is written from the clock in three places: when a character is
spawned, in `OnChangeFixtureLocation` and when an observing copy is promoted, where the reading is
narrowed to a `uint32_t`.  `updateCallbacks` lists the calls of the two callbacks that an update
makes; the run lemmas say which of them the stored times rule out.
-/

namespace SeamlessServer
namespace Game

open Utility Protocol

namespace World

/-! ## The callbacks of an update -/

/-- A call of `OnChangeFixtureLocation`, with the clock reading it stores, or of
`OnChangeFixturePhase`. -/
inductive Callback
  | changeLocation (location : FixtureLocation) (phase : Direction) (now : Milliseconds)
  | changePhase (phase : Direction)
  deriving DecidableEq

/-- What the call and the assignments after it do to a fixture. -/
def Callback.change (sectorId : Nat) (f : Fixture) : Callback → Change
  | .changeLocation location phase now =>
      (onChangeFixtureLocation sectorId f location phase now).settle location phase
  | .changePhase phase => (onChangeFixturePhase sectorId f phase).settle f.location phase

/-- The callback in the `switch` of `SectorSystem::Update`. -/
def transformCallback (sectorId : Nat) (f : Fixture) (now : Milliseconds) : Option Callback :=
  let location := SectorSystem.calculateCurrentLocation sectorId f
  let phase := SectorSystem.calculateCurrentPhase sectorId f
  match f.location with
  | .In => if location ≠ f.location then some (.changeLocation location phase now) else none
  | .Gray =>
      if location ≠ f.location then
        some (.changeLocation location (if location = .In then .Max else phase) now)
      else if phase ≠ f.phase then
        if phase ≠ .Max then some (.changePhase phase) else none
      else
        none
  | _ => none

/-- The callback that one round of the loop of `SectorSystem::Update` makes, if any. -/
def callback (sectorId : Nat) (f : Fixture) (clock : Clock) : Option Callback :=
  let f := f.move clock.deltaTime
  if f.isObservingFixture then
    none
  else if int64 (f.lastTransformTime + transformCooltime) > clock.currentTime then
    none
  else
    transformCallback sectorId f (clock.callbackTick sectorId f.id)

variable {x o : Nat} {f : Fixture} {clock : Clock} {cb : Callback} {now : Milliseconds}

theorem transform_of_callback (h : transformCallback x f now = some cb) :
    transform x f now = cb.change x f := by
  unfold transformCallback at h
  unfold transform
  cases hloc : f.location with
  | In =>
      simp only [hloc] at h ⊢
      split_ifs at h ⊢
      cases h
      rfl
  | Gray =>
      simp only [hloc] at h ⊢
      split_ifs at h ⊢
      · cases h
        rfl
      · cases h
        rfl
      · cases h
        rw [Callback.change, hloc]
  | Leave =>
      simp [hloc] at h
  | Max =>
      simp [hloc] at h

/-- Without a callback at most the phase of the fixture is written. -/
theorem transform_of_silent (h : transformCallback x f now = none) :
    transform x f now = { fixture := f } ∨
      transform x f now = { fixture := { f with phase := .Max } } := by
  unfold transformCallback at h
  unfold transform
  cases hloc : f.location with
  | In =>
      simp only [hloc] at h ⊢
      split_ifs at h ⊢
      exact .inl rfl
  | Gray =>
      simp only [hloc] at h ⊢
      split_ifs at h ⊢ with hchanged hphase hmax
      · refine .inr ?_
        rw [not_not.1 hmax]
      · exact .inl rfl
  | Leave =>
      exact .inl rfl
  | Max =>
      exact .inl rfl

theorem updateFixture_of_callback (h : callback x f clock = some cb) :
    updateFixture x f clock = cb.change x (f.move clock.deltaTime) := by
  unfold callback at h
  unfold updateFixture
  dsimp only at h ⊢
  split_ifs at h ⊢
  exact transform_of_callback h

theorem updateFixture_of_silent (h : callback x f clock = none) :
    updateFixture x f clock = { fixture := f.move clock.deltaTime } ∨
      updateFixture x f clock = { fixture := { f.move clock.deltaTime with phase := .Max } } := by
  unfold callback at h
  unfold updateFixture
  dsimp only at h ⊢
  split_ifs at h ⊢
  · exact .inl rfl
  · exact .inl rfl
  · exact transform_of_silent h

theorem transformCallback_now {location : FixtureLocation} {phase : Direction}
    {tick : Milliseconds} (h : transformCallback x f tick = some (.changeLocation location phase now)) :
    now = tick := by
  unfold transformCallback at h
  cases hloc : f.location with
  | In =>
      simp only [hloc] at h
      split_ifs at h
      cases h
      rfl
  | Gray =>
      simp only [hloc] at h
      split_ifs at h
      · cases h
        rfl
      · cases h
        rfl
      · cases h
  | Leave =>
      simp [hloc] at h
  | Max =>
      simp [hloc] at h

/-- The clock reading in a change of location is the one of the fixture's callback. -/
theorem callback_now {location : FixtureLocation} {phase : Direction}
    (h : callback x f clock = some (.changeLocation location phase now)) :
    now = clock.callbackTick x f.id := by
  unfold callback at h
  dsimp only at h
  split_ifs at h
  rw [transformCallback_now h, Fixture.move_id]

/-! ### What a round stores -/

theorem fixture_changeLocation (x : Nat) (f : Fixture) (location : FixtureLocation)
    (phase : Direction) (now : Milliseconds) :
    let f' := ((Callback.changeLocation location phase now).change x f).fixture
    f'.id = f.id ∧ f'.lastTransformTime = now := by
  unfold Callback.change Change.settle onChangeFixtureLocation
  dsimp only
  split_ifs <;> exact ⟨rfl, rfl⟩

theorem fixture_changePhase (x : Nat) (f : Fixture) (phase : Direction) :
    let f' := ((Callback.changePhase phase).change x f).fixture
    f'.id = f.id ∧ f'.lastTransformTime = f.lastTransformTime ∧
      f'.isObservingFixture = f.isObservingFixture := by
  unfold Callback.change Change.settle onChangeFixturePhase
  dsimp only
  split_ifs <;> exact ⟨rfl, rfl, rfl⟩

/-- A round that changes the location stores the reading of its callback. -/
theorem updateFixture_of_changeLocation {location : FixtureLocation} {phase : Direction}
    (h : callback x f clock = some (.changeLocation location phase now)) :
    let f' := (updateFixture x f clock).fixture
    clock.callbackTick x f'.id = now ∧ f'.lastTransformTime = now := by
  intro f'
  obtain ⟨hid, htime⟩ := fixture_changeLocation x (f.move clock.deltaTime) location phase now
  rw [← updateFixture_of_callback h] at hid htime
  have hsame : f'.id = f.id := hid.trans (Fixture.move_id f clock.deltaTime)
  rw [hsame]
  exact ⟨(callback_now h).symm, htime⟩

/-- A round keeps the stored time, and who owns the object, or stores the reading of the callback. -/
theorem updateFixture_time (x : Nat) (f : Fixture) (clock : Clock) :
    let f' := (updateFixture x f clock).fixture
    f'.id = f.id ∧
      ((f'.lastTransformTime = f.lastTransformTime ∧
          f'.isObservingFixture = f.isObservingFixture) ∨
        f'.lastTransformTime = clock.callbackTick x f.id) := by
  intro f'
  cases hcallback : callback x f clock with
  | none =>
      rcases updateFixture_of_silent hcallback with heq | heq
      · simp [f', heq]
      · simp [f', heq]
  | some cb =>
      have heq := updateFixture_of_callback hcallback
      cases cb with
      | changeLocation location phase now =>
          obtain ⟨hid, htime⟩ :=
            fixture_changeLocation x (f.move clock.deltaTime) location phase now
          rw [← heq] at hid htime
          exact ⟨by simpa using hid, .inr (htime.trans (callback_now hcallback))⟩
      | changePhase phase =>
          obtain ⟨hid, htime, hobs⟩ := fixture_changePhase x (f.move clock.deltaTime) phase
          rw [← heq] at hid htime hobs
          exact ⟨by simpa using hid, .inl ⟨by simpa using htime, by simpa using hobs⟩⟩

/-! ### The callbacks in order -/

/-- What the rounds of a loop do, up to and with the first that faults. -/
def foldTrace {α β : Type} (body : World → α → Outcome) (trace : World → α → List β) :
    World → List α → List β
  | _, [] => []
  | w, a :: rest =>
      let first := body w a
      trace w a ++
        match first.fault with
        | some _ => []
        | none => foldTrace body trace first.world rest

/-- A callback for a fixture, under its sector and its object. -/
structure Call where
  sectorId : Nat
  objectId : Nat
  callback : Callback
  deriving DecidableEq

def objectCallbacks (clock : Clock) (sectorId : Nat) (w : World) (objectId : Nat) : List Call :=
  ((w.fixtureAt sectorId objectId).bind (callback sectorId · clock)).toList.map
    (Call.mk sectorId objectId)

def sectorCallbacks (clock : Clock) (w : World) (sectorId : Nat) : List Call :=
  match w.sectors.find sectorId with
  | some (some sector) =>
      foldTrace (updateObject clock sectorId) (objectCallbacks clock sectorId) w
        sector.fixtures.keys
  | _ => []

/-- The callbacks that `Update` makes, in order. -/
def updateCallbacks (w : World) (clock : Clock) : List Call :=
  let w := w.forgetPromoted clock.tick
  foldTrace (updateSector clock) (sectorCallbacks clock) w w.sectors.keys

theorem mem_objectCallbacks {w : World} {y o' : Nat} {call : Call} :
    call ∈ objectCallbacks clock y w o' ↔
      ∃ f, w.fixtureAt y o' = some f ∧ callback y f clock = some call.callback ∧
        call.sectorId = y ∧ call.objectId = o' := by
  unfold objectCallbacks
  cases hf : w.fixtureAt y o' with
  | none =>
      simp
  | some f =>
      cases hcallback : callback y f clock with
      | none =>
          simp [hcallback]
      | some cb =>
          simp only [Option.bind_some, hcallback, Option.toList_some, List.map_cons, List.map_nil,
            List.mem_singleton, Option.some.injEq, exists_eq_left']
          constructor
          · rintro rfl
            exact ⟨rfl, rfl, rfl⟩
          · rintro ⟨rfl, rfl, rfl⟩
            rfl

/-- What rules the rounds' callbacks out, and is kept by rounds, rules out those of the loop. -/
theorem not_mem_foldTrace {α β : Type} {body : World → α → Outcome} {trace : World → α → List β}
    {b : β} {P : World → Prop} (hkeep : ∀ w a, P w → P (body w a).world)
    (hnone : ∀ w a, P w → b ∉ trace w a) (rounds : List α) :
    ∀ w, P w → b ∉ foldTrace body trace w rounds := by
  induction rounds with
  | nil =>
      intro w _ h
      cases h
  | cons a rounds ih =>
      intro w hw h
      unfold foldTrace at h
      rcases List.mem_append.1 h with hfirst | hrest
      · exact hnone w a hw hfirst
      · split at hrest
        · cases hrest
        · exact ih _ (hkeep w a hw) hrest

theorem keep_foldOutcome {α : Type} {body : World → α → Outcome} {P : World → Prop}
    (hkeep : ∀ w a, P w → P (body w a).world) (rounds : List α) :
    ∀ w, P w → P (foldOutcome body w rounds).world := by
  induction rounds with
  | nil =>
      intro w hw
      exact hw
  | cons a rounds ih =>
      intro w hw
      have hfirst := hkeep w a hw
      unfold foldOutcome
      dsimp only
      split
      · exact hfirst
      · exact ih _ hfirst

/-- What a round with a certain callback establishes, and the rounds after it keep. -/
theorem holds_of_mem_foldTrace {α β : Type} {body : World → α → Outcome}
    {trace : World → α → List β} {b : β} {P : World → Prop}
    (hkeep : ∀ w a, P w → P (body w a).world)
    (hmake : ∀ w a, b ∈ trace w a → P (body w a).world) (rounds : List α) :
    ∀ w, b ∈ foldTrace body trace w rounds → P (foldOutcome body w rounds).world := by
  induction rounds with
  | nil =>
      intro w h
      cases h
  | cons a rounds ih =>
      intro w h
      unfold foldTrace at h
      unfold foldOutcome
      dsimp only at h ⊢
      cases hfault : (body w a).fault with
      | some fault =>
          simp only [hfault, List.append_nil] at h
          exact hmake w a h
      | none =>
          simp only [hfault] at h
          rcases List.mem_append.1 h with hfirst | hrest
          · exact keep_foldOutcome hkeep rounds _ (hmake w a hfirst)
          · exact ih _ hrest

/-! ### The two loops of an update -/

section Loops

variable {P : World → Prop} {w : World} {call : Call}
variable (hkeep : ∀ w y o, P w → P (w.updateObject clock y o).world)
include hkeep

theorem keep_updateSector (w : World) (y : Nat) (hw : P w) : P (w.updateSector clock y).world := by
  unfold updateSector
  split
  · exact keep_foldOutcome (fun w o => hkeep w y o) _ w hw
  · exact hw

theorem keep_update (hw : P (w.forgetPromoted clock.tick)) : P (w.update clock).world :=
  keep_foldOutcome (keep_updateSector hkeep) _ _ hw

theorem not_mem_updateCallbacks (hnone : ∀ w y o, P w → call ∉ objectCallbacks clock y w o)
    (hw : P (w.forgetPromoted clock.tick)) : call ∉ w.updateCallbacks clock := by
  refine not_mem_foldTrace (keep_updateSector hkeep) (fun w y hw => ?_) _ _ hw
  unfold sectorCallbacks
  split
  · exact not_mem_foldTrace (fun w o => hkeep w y o) (fun w o => hnone w y o) _ w hw
  · exact List.not_mem_nil

theorem holds_of_mem_updateCallbacks
    (hmake : ∀ w y o, call ∈ objectCallbacks clock y w o → P (w.updateObject clock y o).world)
    (hcall : call ∈ w.updateCallbacks clock) : P (w.update clock).world := by
  refine holds_of_mem_foldTrace (keep_updateSector hkeep) (fun w y hmem => ?_) _ _ hcall
  unfold sectorCallbacks at hmem
  split at hmem
  next sector hfind =>
    have hsector : updateSector clock w y =
        foldOutcome (updateObject clock y) w sector.fixtures.keys := by
      simp only [updateSector, hfind]
    rw [hsector]
    exact holds_of_mem_foldTrace (fun w o => hkeep w y o) (fun w o => hmake w y o) _ w hmem
  next => cases hmem

end Loops

/-! ## The stored times -/

/-- The time stored in the owner of an object in a sector, if there is one, meets `p`. -/
def OwnerTime (p : Milliseconds → Prop) (x o : Nat) (w : World) : Prop :=
  ∀ f, w.fixtureAt x o = some f → f.isObservingFixture = false → p f.lastTransformTime

/-- What an operation stores as the time of an owner meets `p`. -/
def Operation.Stores (p : Milliseconds → Prop) : Operation → Prop
  | .spawnCharacter _ _ now => p now
  | .promoteObservingObject _ _ now => p (now % 2 ^ 32)
  | .update clock => ∀ sectorId objectId, p (clock.callbackTick sectorId objectId)
  | _ => True

section OwnerTime

variable {p : Milliseconds → Prop} {w w' : World} {F : Option Fixture} {x₀ o₀ : Nat}

theorem OwnerTime.same (h : OwnerTime p x o w) (hsame : Same w w') : OwnerTime p x o w' := by
  intro f hf
  rw [hsame.fixtures] at hf
  exact h f hf

theorem OwnerTime.writes (h : OwnerTime p x o w) (hwrites : Writes w w' x₀ o₀ F)
    (hF : OwnerTime p x₀ o₀ w → ∀ f, F = some f → f.isObservingFixture = false →
      p f.lastTransformTime) : OwnerTime p x o w' := by
  intro f hf
  rw [hwrites.fixtures] at hf
  split_ifs at hf with hxo
  · obtain ⟨rfl, rfl⟩ := hxo
    exact hF h f hf
  · exact h f hf

/-- A packet brings no owner that was not there, but for the promoted one. -/
theorem ownerTime_of_reaction {packet : PlayPacket} {F F' : Option Fixture}
    {packets : List PlayPacket} {fault : Option Fault} (h : Reaction now packet F F' packets fault)
    (hF : ∀ f, F = some f → f.isObservingFixture = false → p f.lastTransformTime)
    (hpromoted : ∀ s info, packet = .promoteObjectRq s info → p (now % 2 ^ 32)) :
    ∀ f, F' = some f → f.isObservingFixture = false → p f.lastTransformTime := by
  have hplaced : ∀ (G : Option Fixture) (request : CharacterMoveRq),
      (∀ f, G = some f → f.isObservingFixture = false → p f.lastTransformTime) →
        ∀ f, G.map (Fixture.place · request) = some f → f.isObservingFixture = false →
          p f.lastTransformTime := by
    rintro (_ | g) request hG f hf hobs
    · cases hf
    · cases hf
      exact hG g rfl hobs
  intro f hf hobs
  cases h with
  | created s info =>
      -- what is made is a copy, not an owner
      cases hf
      cases hobs
  | objectExists s info g =>
      exact hF f hf hobs
  | removed _ _ _ =>
      cases hf
  | observerNotFound _ _ _ =>
      exact hF f hf hobs
  | promotedNotFound s info =>
      cases hf
  | promotedOutside s info g _ =>
      cases hf
      exact hpromoted s info rfl
  | promotedNear s info g _ _ =>
      cases hf
      exact hpromoted s info rfl
  | promotedFar s info g _ _ =>
      cases hf
      exact hpromoted s info rfl
  | moveForwarded request _ _ _ =>
      -- a move places the fixture and leaves its time as it was
      exact hplaced F request hF f hf hobs
  | moveOwnerUnknown request _ _ =>
      exact hplaced F request hF f hf hobs
  | copyNotFound _ _ =>
      cases hf
  | copyMoved request _ _ =>
      exact hplaced _ request hF f hf hobs
  | ownerMoved request _ =>
      exact hplaced _ request hF f hf hobs
  | removeForwarded _ _ _ _ =>
      exact hF f hf hobs
  | removeOwnerUnknown _ _ _ =>
      exact hF f hf hobs
  | removeNotFound _ _ =>
      cases hf
  | copyRemoved _ _ _ =>
      cases hf
  | ownerRemoved _ _ =>
      cases hf

/-- A packet whose handler reacts as listed. -/
theorem OwnerTime.reacts {packet : PlayPacket} {r : Outcome} (h : OwnerTime p x o w)
    (hr : Reacts w now packet r)
    (hpromoted : ∀ s info, packet = .promoteObjectRq s info → p (now % 2 ^ 32)) :
    OwnerTime p x o r.world := by
  obtain ⟨F, packets, hreaction, heffect⟩ := hr
  exact h.writes heffect.writes fun hold => ownerTime_of_reaction hreaction hold hpromoted

/-- A copy made for a packet observes, under whatever id the packet names. -/
theorem OwnerTime.createObservingObject (h : OwnerTime p x o w) (info : ObjectInfo) :
    OwnerTime p x o (w.createObservingObject info).world := by
  cases hid : w.sectorIdAt info.sectorId with
  | none =>
      obtain ⟨w', hat, hsame⟩ := sectorAt_of_sectorIdAt_none hid
      simp only [World.createObservingObject, hat]
      exact h.same hsame
  | some id =>
      obtain ⟨sector, hfind, _⟩ := find_of_sectorIdAt hid
      simp only [World.createObservingObject, sectorAt_of_find hfind]
      split
      · exact h
      · split
        · exact h
        · refine h.writes (writes_setFixture hfind _) fun _ f hf hobs => ?_
          cases hf
          cases hobs

/-- A packet that a handler takes, whichever sector it is for. -/
theorem OwnerTime.handle {packet : PlayPacket} (h : OwnerTime p x o w) (source : Nat)
    (hreacts : ∀ sector, w.sectors.find packet.sectorId = some (some sector) →
      Reacts w now packet (w.handle source packet now))
    (hpromoted : ∀ s info, packet = .promoteObjectRq s info → p (now % 2 ^ 32)) :
    OwnerTime p x o (w.handle source packet now).world := by
  cases hid : w.sectorIdAt packet.sectorId with
  | none =>
      exact h.same (handle_of_sectorIdAt_none source now hid).2.same
  | some id =>
      obtain ⟨sector, hfind, _⟩ := find_of_sectorIdAt hid
      exact h.reacts (hreacts sector hfind) hpromoted

theorem OwnerTime.spawnCharacter (h : OwnerTime p x o w) (source : Nat) (packet : SpawnCharacterRq)
    (hnow : p now) : OwnerTime p x o (w.spawnCharacter source packet now).world := by
  cases hid : w.sectorIdAt packet.sectorId with
  | none =>
      exact h.same (spawnCharacter_of_sectorIdAt_none source now hid).2.same
  | some id =>
      obtain ⟨sector, hfind, _⟩ := find_of_sectorIdAt hid
      rcases spawnCharacter_effect source now hfind with ⟨_, _, hidle⟩ | ⟨_, _, heffect⟩
      · -- the id is taken and nothing is inserted
        exact h.same hidle.same
      · refine h.writes heffect.writes fun _ f hf _ => ?_
        cases hf
        exact hnow

/-! ### Updates -/

theorem OwnerTime.updateObject (h : OwnerTime p x o w)
    (htick : ∀ f, w.fixtureAt x o = some f → p (clock.callbackTick x f.id)) (y o' : Nat) :
    OwnerTime p x o (w.updateObject clock y o').world := by
  intro f hf hobs
  rw [updateObject_fixtureAt] at hf
  split_ifs at hf with hxo
  · obtain ⟨rfl, rfl⟩ := hxo
    obtain ⟨g, hg, rfl⟩ := Option.map_eq_some_iff.1 hf
    -- a round either keeps the stored time or stores its own reading
    rcases (updateFixture_time x g clock).2 with ⟨htime, hsame⟩ | htime
    · rw [htime]
      exact h g hg (hsame.symm.trans hobs)
    · rw [htime]
      exact htick g hg
  · exact h f hf hobs

theorem OwnerTime.update (h : OwnerTime p x o w) (hticks : ∀ y i, p (clock.callbackTick y i)) :
    OwnerTime p x o (w.update clock).world :=
  keep_update (fun _ y o' hw => hw.updateObject (fun _ _ => hticks _ _) y o')
    (h.same (forgetPromoted_same w clock.tick))

/-! ### One operation -/

/-- An operation that only takes fixtures away. -/
theorem OwnerTime.fewer (h : OwnerTime p x o w)
    (hfewer : ∀ f, w'.fixtureAt x o = some f → w.fixtureAt x o = some f) : OwnerTime p x o w' :=
  fun f hf => h f (hfewer f hf)

theorem fixtureAt_addSector_fewer (w : World) (serverId y x o : Nat) (f : Fixture)
    (hf : (w.addSector serverId y).world.fixtureAt x o = some f) : w.fixtureAt x o = some f := by
  by_cases hx : x = y
  · subst hx
    cases hfind : w.sectors.find x with
    | none =>
        -- a new sector has no fixtures
        simp [addSector, sectorAt_of_absent hfind, setSector, fixtureAt, SectorSystem.new,
          SectorSystem.getFixture] at hf
    | some entry =>
        cases entry with
        | none =>
            simp [addSector, sectorAt, hfind, setSector, fixtureAt, SectorSystem.new,
              SectorSystem.getFixture] at hf
        | some sector =>
            simpa [addSector, sectorAt_of_find hfind] using hf
  · have hsame : (w.addSector serverId y).world.sectors.find x = w.sectors.find x := by
      cases hfind : w.sectors.find y with
      | none =>
          simp [addSector, sectorAt_of_absent hfind, setSector, hx]
      | some entry =>
          cases entry <;> simp [addSector, sectorAt, hfind, setSector, hx]
    simpa only [fixtureAt, hsame] using hf

theorem fixtureAt_removeSector_fewer (w : World) (y x o : Nat) (f : Fixture)
    (hf : (w.removeSector y).fixtureAt x o = some f) : w.fixtureAt x o = some f := by
  cases hid : w.sectorIdAt y with
  | none =>
      obtain ⟨w', hat, hsame⟩ := sectorAt_of_sectorIdAt_none hid
      simp only [removeSector, hat] at hf
      rwa [← hsame.fixtures]
  | some id =>
      obtain ⟨sector, hfind, _⟩ := find_of_sectorIdAt hid
      by_cases hx : x = y
      · subst hx
        simp [removeSector, sectorAt_of_find hfind, fixtureAt] at hf
      · simpa [removeSector, sectorAt_of_find hfind, fixtureAt, hx] using hf

theorem fixtureAt_clearSector (w : World) (x o : Nat) : w.clearSector.fixtureAt x o = none := by
  cases hfind : w.sectors.find x <;> simp [clearSector, fixtureAt, hfind]

theorem world_getAllObjects (w : World) (y : Nat) :
    (w.perform (.getAllObjects y)).world = (w.sectorAt y).1 := by
  rcases hat : w.sectorAt y with ⟨w', _ | sector⟩ <;> simp [World.perform, getAllObjects, hat]

theorem OwnerTime.sectorAt (h : OwnerTime p x o w) (y : Nat) :
    OwnerTime p x o (w.sectorAt y).1 := by
  cases hid : w.sectorIdAt y with
  | none =>
      obtain ⟨w', hat, hsame⟩ := sectorAt_of_sectorIdAt_none hid
      rw [hat]
      exact h.same hsame
  | some id =>
      obtain ⟨sector, hfind, _⟩ := find_of_sectorIdAt hid
      rw [sectorAt_of_find hfind]
      exact h

/-- An operation keeps what the times it stores meet. -/
theorem OwnerTime.perform (h : OwnerTime p x o w) {op : Operation} (hop : op.Stores p) :
    OwnerTime p x o (w.perform op).world := by
  cases op with
  | addSector serverId sectorId =>
      exact h.fewer (fixtureAt_addSector_fewer w serverId sectorId x o)
  | removeSector sectorId =>
      exact h.fewer (fixtureAt_removeSector_fewer w sectorId x o)
  | clearSector =>
      intro f hf
      cases (fixtureAt_clearSector w x o).symm.trans hf
  | spawnCharacter source packet now =>
      exact h.spawnCharacter source packet hop
  | removeCharacter source packet =>
      show OwnerTime p x o (w.handle source (.removeCharacterRq packet) 0).world
      exact h.handle source (fun _ hfind => removeCharacter_reacts hfind) (by simp)
  | moveObject source packet =>
      show OwnerTime p x o (w.handle source (.characterMoveRq packet) 0).world
      exact h.handle source (fun _ hfind => moveObject_reacts hfind) (by simp)
  | createObservingObject info =>
      exact h.createObservingObject info
  | removeObservingObject sectorId objectId =>
      show OwnerTime p x o (w.handle 0 (.removeObservingObjectRq sectorId objectId) 0).world
      exact h.handle 0 (fun _ hfind => removeObservingObject_reacts hfind) (by simp)
  | promoteObservingObject origin info now =>
      show OwnerTime p x o (w.handle 0 (.promoteObjectRq origin info) now).world
      exact h.handle 0 (fun _ hfind => promoteObservingObject_reacts hfind) fun _ _ _ => hop
  | getAllObjects sectorId =>
      rw [world_getAllObjects]
      exact h.sectorAt sectorId
  | update clock =>
      exact h.update hop
  | rehash order =>
      refine h.same ⟨fun y o' => ?_, ?_⟩
      · simp [World.perform, fixtureAt]
      · funext y
        simp [World.perform, sectorIdAt]

end OwnerTime

/-! ## The cooldown -/

/-- The operation spawns the object at `t`, calls `OnChangeFixtureLocation` for it at `t`, or promotes
it at `t`. -/
inductive Stamps (w : World) (t : Milliseconds) : Nat → Nat → Operation → Prop
  | spawned {source : Nat} {packet : SpawnCharacterRq} {sector : SectorSystem} :
      w.sectors.find packet.sectorId = some (some sector) →
        w.fixtureAt packet.sectorId sector.currentFixtureId = none →
          Stamps w t packet.sectorId sector.currentFixtureId (.spawnCharacter source packet t)
  | located {x o : Nat} {location : FixtureLocation} {phase : Direction} {clock : Clock} :
      ⟨x, o, .changeLocation location phase t⟩ ∈ w.updateCallbacks clock →
        Stamps w t x o (.update clock)
  | promoted {origin : Nat} {info : ObjectInfo} {f : Fixture} :
      w.fixtureAt info.sectorId info.objectId = some f →
        Stamps w t info.sectorId info.objectId (.promoteObservingObject origin info t)

/-- The readings that the operation takes from the clock are not before `t`. -/
def Operation.ReadsFrom (t : Milliseconds) : Operation → Prop
  | .spawnCharacter _ _ now => t ≤ now
  | .promoteObservingObject _ _ now => t ≤ now
  | .update clock => ∀ sectorId objectId, t ≤ clock.callbackTick sectorId objectId
  | _ => True

/-- The readings fit where they are stored: a promotion keeps 32 bits, and to any other reading the
cooltime is added in an `int64_t`. -/
def Operation.Timely : Operation → Prop
  | .spawnCharacter _ _ now => now + transformCooltime < 2 ^ 63
  | .promoteObservingObject _ _ now => now < 2 ^ 32
  | .update clock =>
      ∀ sectorId objectId, clock.callbackTick sectorId objectId + transformCooltime < 2 ^ 63
  | _ => True

/-- A stored time from `t` on, to which the cooltime can be added. -/
def Recent (t last : Milliseconds) : Prop := t ≤ last ∧ last + transformCooltime < 2 ^ 63

section Cooldown

variable {w w' : World} {t : Milliseconds} {op : Operation}

theorem int64_of_lt {n : Int} (hn : 0 ≤ n) (hlt : n < 2 ^ 63) : int64 n = n := by
  unfold int64
  rw [Int.bmod_def]
  omega

theorem recent_promotion (ht : 0 ≤ t) (hfrom : t ≤ now) (hlt : now < 2 ^ 32) :
    Recent t (now % 2 ^ 32) := by
  have hsame : now % 2 ^ 32 = now := Int.emod_eq_of_lt (ht.trans hfrom) hlt
  rw [hsame]
  refine ⟨hfrom, ?_⟩
  calc
    now + transformCooltime
        < 2 ^ 32 + transformCooltime := Int.add_lt_add_right hlt _
    _ < 2 ^ 63 := by decide

theorem Operation.Timely.stores (hop : op.Timely) (ht : 0 ≤ t) (hreads : op.ReadsFrom t) :
    op.Stores (Recent t) := by
  cases op with
  | spawnCharacter source packet now =>
      exact ⟨hreads, hop⟩
  | promoteObservingObject origin info now =>
      exact recent_promotion ht hreads hop
  | update clock =>
      exact fun y i => ⟨hreads y i, hop y i⟩
  | _ =>
      exact trivial

/-- No callback is made for a fixture whose stored time is recent. -/
theorem callback_of_recent (ht : 0 ≤ t) (htime : clock.currentTime < t + transformCooltime)
    (hf : f.isObservingFixture = false → Recent t f.lastTransformTime) :
    callback x f clock = none := by
  unfold callback
  dsimp only
  rw [Fixture.move_isObservingFixture, Fixture.move_lastTransformTime]
  cases hobs : f.isObservingFixture with
  | true =>
      rfl
  | false =>
      obtain ⟨hfrom, hfits⟩ := hf hobs
      have hpos : 0 ≤ f.lastTransformTime + transformCooltime :=
        Int.add_nonneg (ht.trans hfrom) (by decide)
      have hcooling : int64 (f.lastTransformTime + transformCooltime) > clock.currentTime := by
        rw [int64_of_lt hpos hfits]
        calc
          clock.currentTime
              < t + transformCooltime := htime
          _ ≤ f.lastTransformTime + transformCooltime := Int.add_le_add_right hfrom _
      rw [if_neg (by simp), if_pos hcooling]

theorem OwnerTime.not_mem_updateCallbacks (h : OwnerTime (Recent t) x o w) (ht : 0 ≤ t)
    (htime : clock.currentTime < t + transformCooltime) (cb : Callback) :
    ⟨x, o, cb⟩ ∉ w.updateCallbacks clock := by
  refine World.not_mem_updateCallbacks (P := OwnerTime (Recent t) x o) ?_ ?_
    (h.same (forgetPromoted_same w clock.tick))
  · -- a round of the fixture stores nothing, since it makes no callback
    intro w y o' hw f hf hobs
    rw [updateObject_fixtureAt] at hf
    split_ifs at hf with hxo
    · obtain ⟨rfl, rfl⟩ := hxo
      obtain ⟨g, hg, rfl⟩ := Option.map_eq_some_iff.1 hf
      -- the fixture is moved on, or left where it was
      rcases updateFixture_of_silent (callback_of_recent ht htime (hw g hg)) with heq | heq
      · rw [heq] at hobs ⊢
        simpa using hw g hg (by simpa using hobs)
      · rw [heq] at hobs ⊢
        simpa using hw g hg (by simpa using hobs)
    · exact hw f hf hobs
  · intro w y o' hw hmem
    obtain ⟨f, hf, hcallback, rfl, rfl⟩ := mem_objectCallbacks.1 hmem
    cases (callback_of_recent ht htime (hw f hf)).symm.trans hcallback

/-- A promoted copy is overwritten under the id that the packet names. -/
theorem fixtureAt_promoteObservingObject (s : Nat) {info : ObjectInfo} {f : Fixture}
    (hf : w.fixtureAt info.sectorId info.objectId = some f) (now : Milliseconds) :
    (w.promoteObservingObject s info now).world.fixtureAt info.sectorId info.objectId =
      some (promotedOwner info now) := by
  cases hid : w.sectorIdAt info.sectorId with
  | none =>
      cases hf.symm.trans (fixtureAt_of_sectorIdAt_none hid info.objectId)
  | some id =>
      obtain ⟨sector, hfind, _⟩ := find_of_sectorIdAt hid
      have hfixture : sector.getFixture info.objectId = some f := by
        rw [← fixtureAt_of_find hfind]
        exact hf
      have hwritten := (writes_setFixture (o := info.objectId) hfind
        (promotedOwner info now)).fixtures info.sectorId info.objectId
      rw [if_pos ⟨rfl, rfl⟩] at hwritten
      -- the branches differ in what they send
      rw [promoteObservingObject_of_fixture hfind hfixture]
      split_ifs <;> exact hwritten

/-- After the operation the stored time of the owner is recent. -/
theorem Stamps.ownerTime (h : Stamps w t x o op) (ht : 0 ≤ t) (hop : op.Timely) :
    OwnerTime (Recent t) x o (w.perform op).world := by
  cases h with
  | @spawned source packet sector hfind hfree =>
      rcases spawnCharacter_effect source t hfind with ⟨⟨f, hf⟩, _⟩ | ⟨_, _, heffect⟩
      · -- the id that is handed out is free
        cases hfree.symm.trans hf
      · intro f hf _
        have hspawned := heffect.writes.fixtures packet.sectorId sector.currentFixtureId
        rw [if_pos ⟨rfl, rfl⟩] at hspawned
        cases hf.symm.trans hspawned
        exact ⟨le_refl t, hop⟩
  | @promoted origin info g hg =>
      intro f hf _
      have hpromoted := fixtureAt_promoteObservingObject origin hg t
      cases hf.symm.trans hpromoted
      exact recent_promotion ht (le_refl t) hop
  | @located _ _ location phase clock hcall =>
      -- the readings of the object's callbacks are all the same one
      have hstored : ∀ f, (w.update clock).world.fixtureAt x o = some f →
          clock.callbackTick x f.id = t ∧
            (f.isObservingFixture = false → f.lastTransformTime = t) := by
        refine holds_of_mem_updateCallbacks (P := fun w => ∀ f, w.fixtureAt x o = some f →
          clock.callbackTick x f.id = t ∧
            (f.isObservingFixture = false → f.lastTransformTime = t)) ?_ ?_ hcall
        · -- later rounds of the object read the same clock
          intro u y o' hu f hf
          rw [updateObject_fixtureAt] at hf
          split_ifs at hf with hxo
          · obtain ⟨rfl, rfl⟩ := hxo
            obtain ⟨g, hg, rfl⟩ := Option.map_eq_some_iff.1 hf
            obtain ⟨htick, hlast⟩ := hu g hg
            obtain ⟨hid, htime⟩ := updateFixture_time x g clock
            rw [hid]
            refine ⟨htick, fun hobs => ?_⟩
            rcases htime with ⟨hkept, hsame⟩ | hnew
            · exact hkept.trans (hlast (hsame.symm.trans hobs))
            · exact hnew.trans htick
          · exact hu f hf
        · -- the callback's own round stores the reading
          intro u y o' hmem f hf
          obtain ⟨g, hg, hcallback, rfl, rfl⟩ := mem_objectCallbacks.1 hmem
          rw [updateObject_fixtureAt, if_pos ⟨rfl, rfl⟩, hg] at hf
          cases hf
          obtain ⟨htick, hlast⟩ := updateFixture_of_changeLocation hcallback
          exact ⟨htick, fun _ => hlast⟩
      intro f hf hobs
      obtain ⟨htick, hlast⟩ := hstored f hf
      have hfits := hop x f.id
      rw [htick] at hfits
      rw [hlast hobs]
      exact ⟨le_refl t, hfits⟩

/-- In a run whose clock readings fit where they are stored, an object that is spawned, changes its
location or is promoted at `t` is left alone by every later update before `t + TransformCooltime`. -/
theorem cooldown (ht : 0 ≤ t) (hstamps : Stamps w t x o op) (hop : op.Timely)
    {ops : List Operation} (hrun : (machine.restrict fun _ op => op.Timely).Run
      (w.perform op).world ops w')
    (hclock : ∀ e ∈ ops, e.ReadsFrom t) (htime : clock.currentTime < t + transformCooltime)
    (cb : Callback) : ⟨x, o, cb⟩ ∉ w'.updateCallbacks clock := by
  have hrecent : OwnerTime (Recent t) x o w' := by
    refine hrun.invariant (P := OwnerTime (Recent t) x o) ?_ (hstamps.ownerTime ht hop)
    rintro u e he u' hu ⟨htimely, rfl⟩
    exact hu.perform (htimely.stores ht (hclock e he))
  exact hrecent.not_mem_updateCallbacks ht htime cb

end Cooldown

/-! ### A promotion around 2 ^ 32 -/

section Sample

/-- A character that is about to leave the inner box of sector 12. -/
def leavingFixture : Fixture where
  id := 7
  position := ⟨4040, 2500⟩
  size := ⟨100, 100⟩
  direction := .Right
  sectorId := 12

def leavingInfo : ObjectInfo := ⟨7, 12, leavingFixture⟩

/-- The copy that the promotion overwrites. -/
def observingWorld : World :=
  ((blank.addSector 1 12).world.createObservingObject leavingInfo).world

/-- An update that reads `now` everywhere, a tenth of a second after the last one. -/
def clockAt (now : Milliseconds) : Clock := ⟨now, 100, now, fun _ _ => now⟩

theorem stamps_leaving (now : Milliseconds) :
    Stamps observingWorld now 12 7 (.promoteObservingObject 11 leavingInfo now) := by
  have hsome : (observingWorld.fixtureAt 12 7).isSome = true := by decide +kernel
  obtain ⟨f, hf⟩ := Option.isSome_iff_exists.1 hsome
  show Stamps observingWorld now leavingInfo.sectorId leavingInfo.objectId _
  exact .promoted hf

/-- One millisecond before the boundary the fixture is left alone until the second is over. -/
theorem cooldown_before_boundary :
    let w := (observingWorld.perform (.promoteObservingObject 11 leavingInfo 4294967295)).world
    ⟨12, 7, .changeLocation .Gray .Right 4294968294⟩ ∉ w.updateCallbacks (clockAt 4294968294) ∧
      ⟨12, 7, .changeLocation .Gray .Right 4294968295⟩ ∈
        w.updateCallbacks (clockAt 4294968295) := by
  intro w
  have htimely : (Operation.promoteObservingObject 11 leavingInfo 4294967295).Timely := by
    show (4294967295 : Int) < 2 ^ 32
    decide
  refine ⟨?_, by decide +kernel⟩
  exact cooldown (by decide) (stamps_leaving _) htimely (.nil _) (by simp) (by decide) _

/-- At the boundary the stored time is zero, and the next update calls back. -/
theorem promoted_called_back :
    let op := Operation.promoteObservingObject 11 leavingInfo 4294967296
    machine.Reachable observingWorld ∧ Stamps observingWorld 4294967296 12 7 op ∧
      (clockAt 4294967396).currentTime < 4294967296 + transformCooltime ∧
      ⟨12, 7, .changeLocation .Gray .Right 4294967396⟩ ∈
        (observingWorld.perform op).world.updateCallbacks (clockAt 4294967396) := by
  intro op
  have hreach : machine.Reachable observingWorld :=
    .step (e := .createObservingObject leavingInfo) (.step (e := .addSector 1 12) (.init rfl) rfl)
      rfl
  exact ⟨hreach, stamps_leaving _, by decide, by decide +kernel⟩

end Sample

end World

end Game
end SeamlessServer
