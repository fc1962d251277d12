import SeamlessServer.Game.Reaction

/-!
# Game.Round — spawns and rounds of an update, seen from one object in one sector

The counterpart of `Game.Reaction` for the two ways a fixture changes without a packet: it is
spawned, or the loop of `SectorSystem::Update` reaches it.  `Round` lists what the loop can do to a
fixture that has moved.
-/

namespace SeamlessServer
namespace Game

open Utility Protocol

namespace World

/-! ## Spawning -/

/-- The fixture of a new object. -/
def spawnedFixture (id x : Nat) (packet : SpawnCharacterRq) (now : Milliseconds) : Fixture :=
  { id := id
    position := packet.position
    size := packet.size
    direction := .Max
    sectorId := x
    lastTransformTime := now }

theorem spawnCharacter_of_sectorIdAt_none {w : World} {packet : SpawnCharacterRq} (source : Nat)
    (now : Milliseconds) (h : w.sectorIdAt packet.sectorId = none) :
    (w.spawnCharacter source packet now).fault = none ∧
      Idle w (w.spawnCharacter source packet now) := by
  rcases sectorAt_of_sectorIdAt_none h with ⟨w', heq, hsame⟩
  simp only [spawnCharacter, heq]
  exact ⟨trivial, hsame, rfl⟩

/-- A spawn writes the new owner under the next id, or faults if the id is taken in the sector. -/
theorem spawnCharacter_effect {w : World} {packet : SpawnCharacterRq} {sector : SectorSystem}
    (source : Nat) (now : Milliseconds)
    (h : w.sectors.find packet.sectorId = some (some sector)) :
    ((∃ f, w.fixtureAt packet.sectorId sector.currentFixtureId = some f) ∧
        (w.spawnCharacter source packet now).fault = some .duplicateFixtureId ∧
        Idle w (w.spawnCharacter source packet now)) ∨
      (w.fixtureAt packet.sectorId sector.currentFixtureId = none ∧
        (w.spawnCharacter source packet now).fault = none ∧
        Effect w (w.spawnCharacter source packet now) packet.sectorId sector.currentFixtureId
          (some (spawnedFixture sector.currentFixtureId sector.sectorId packet now)) []) := by
  have hfix := fixtureAt_of_find h sector.currentFixtureId
  let counted : SectorSystem :=
    { sector with currentFixtureId := (sector.currentFixtureId + 1) % 2 ^ 64 }
  have hcounted : ∀ o, counted.getFixture o = sector.getFixture o := fun _ => rfl
  cases hf : sector.getFixture sector.currentFixtureId with
  | some f =>
      rw [hf] at hfix
      -- `CreateFixture` refuses, and the counter has moved all the same
      have heq : w.spawnCharacter source packet now =
          ⟨w.setSector packet.sectorId counted, [], some .duplicateFixtureId⟩ := by
        have hcreate : sector.createFixture packet.position packet.size = (counted, none) := by
          have hfind : sector.fixtures.find sector.currentFixtureId = some f := hf
          simp [SectorSystem.createFixture, SectorSystem.getFixture, hfind, counted]
        simp [spawnCharacter, sectorAt_of_find h, hcreate]
      refine .inl ⟨⟨f, hfix⟩, by rw [heq], ?_⟩
      rw [heq]
      refine ⟨⟨?_, ?_⟩, rfl⟩
      · intro x o
        by_cases hx : x = packet.sectorId
        · subst hx
          simp [fixtureAt, setSector, h, hcounted]
        · simp [fixtureAt, setSector, hx]
      · funext x
        by_cases hx : x = packet.sectorId
        · subst hx
          simp [sectorIdAt, setSector, h, counted]
        · simp [sectorIdAt, setSector, hx]
  | none =>
      rw [hf] at hfix
      let f : Fixture := spawnedFixture sector.currentFixtureId sector.sectorId packet now
      have heq : ∃ f', w.spawnCharacter source packet now =
          ⟨w.setSector packet.sectorId
              ((counted.setFixture sector.currentFixtureId f').setFixture sector.currentFixtureId f),
            [.toServer source (.spawnCharacterRs packet.userId (some ⟨f.id, f.sectorId, f⟩) .None),
             .toSectorWithout source (.createObjectPs ⟨f.id, f.sectorId, f⟩) packet.sectorId],
            none⟩ := by
        -- the fixture is written twice: by `CreateFixture`, and then with its data
        refine ⟨{ f with lastTransformTime := 0 }, ?_⟩
        have hcreate : sector.createFixture packet.position packet.size =
            (counted.setFixture sector.currentFixtureId { f with lastTransformTime := 0 },
              some { f with lastTransformTime := 0 }) := by
          have hfind : sector.fixtures.find sector.currentFixtureId = none := hf
          simp only [SectorSystem.createFixture, SectorSystem.getFixture, hfind]
          rfl
        simp only [spawnCharacter, sectorAt_of_find h, hcreate]
        rfl
      rcases heq with ⟨f', heq⟩
      refine .inr ⟨hfix, by rw [heq], ?_⟩
      rw [heq]
      refine ⟨writes_setSector h rfl ?_, rfl⟩
      intro o
      by_cases ho : o = sector.currentFixtureId
      · simp [SectorSystem.getFixture, SectorSystem.setFixture, ho, f]
      · simp [SectorSystem.getFixture, SectorSystem.setFixture, ho, counted]

end World

/-! ## Rounds of an update -/

/-- The data an owner sends about itself. -/
def ownInfo (x : Nat) (f : Fixture) : ObjectInfo := ⟨f.id, x, f⟩

/-- The packets of a fixture that leaves its sector for another one. -/
def leavePackets (x d : Nat) (f : Fixture) (p : Direction) : List PlayPacket :=
  exchangePackets (ownInfo x f) f.phase x .Leave p x ++
    (if d ∈ nearSectors x p then [] else [createPacket x (ownInfo x f) d]) ++
    [.promoteObjectRq x ⟨f.id, d, { f with location := .Leave, phase := p, sectorId := d }⟩]

/-- One round of `SectorSystem::Update`, for a fixture that has moved to `f` already. -/
inductive Round (x : Nat) (f : Fixture) :
    Fixture → List PlayPacket → Option Fault → Prop
  -- it observes, or has stayed where it was
  | still : Round x f f [] none
  | phaseCleared (hobs : f.isObservingFixture = false)
      (hloc : SectorSystem.calculateCurrentLocation x f = .Gray)
      (hphase : SectorSystem.calculateCurrentPhase x f = .Max) :
      Round x f { f with phase := .Max } [] none
  | phaseChanged (hobs : f.isObservingFixture = false) (hgray : f.location = .Gray)
      (hloc : SectorSystem.calculateCurrentLocation x f = .Gray) :
      Round x f { f with phase := SectorSystem.calculateCurrentPhase x f }
        (exchangePackets (ownInfo x f) f.phase f.sectorId .Gray
          (SectorSystem.calculateCurrentPhase x f) x)
        none
  | locationChanged (now : Milliseconds) (hobs : f.isObservingFixture = false)
      (hloc : SectorSystem.calculateCurrentLocation x f ≠ .Leave) :
      Round x f
        { f with
          lastTransformTime := now
          location := SectorSystem.calculateCurrentLocation x f
          phase := HandOff.destPhase x f }
        (exchangePackets (ownInfo x { f with lastTransformTime := now }) f.phase x
          (SectorSystem.calculateCurrentLocation x f) (HandOff.destPhase x f) x)
        none
  | left (now : Milliseconds) (hobs : f.isObservingFixture = false)
      (hloc : SectorSystem.calculateCurrentLocation x f = .Leave)
      (hdest : getSectorByPosition f.position ≠ invalidSector) :
      Round x f
        { f with
          lastTransformTime := now
          isObservingFixture := true
          location := .Leave
          phase := SectorSystem.calculateCurrentPhase x f }
        (leavePackets x (getSectorByPosition f.position) { f with lastTransformTime := now }
          (SectorSystem.calculateCurrentPhase x f))
        none
  -- `GetSectorByPosition` knows no sector there, and the owner is given up
  | lost (now : Milliseconds) (hobs : f.isObservingFixture = false)
      (hloc : SectorSystem.calculateCurrentLocation x f = .Leave)
      (hdest : getSectorByPosition f.position = invalidSector) :
      Round x f { f with lastTransformTime := now, isObservingFixture := true }
        (exchangePackets (ownInfo x { f with lastTransformTime := now }) f.phase x .Leave
          (SectorSystem.calculateCurrentPhase x f) x)
        (some .noDestination)

/-- What a round sends about the fixture is of three kinds. -/
theorem Round.forall_mem {x : Nat} {f f' : Fixture} {packets : List PlayPacket}
    {fault : Option Fault} {P : PlayPacket → Prop} (h : Round x f f' packets fault)
    (hremove : ∀ y, P (.removeObservingObjectRq y f.id))
    (hcreate : ∀ s y now, P (createPacket s (ownInfo x { f with lastTransformTime := now }) y))
    (hpromote : ∀ d now p, P (.promoteObjectRq x ⟨f.id, d,
      { f with lastTransformTime := now, location := .Leave, phase := p, sectorId := d }⟩)) :
    ∀ q ∈ packets, P q := by
  cases h with
  | still =>
      simp
  | phaseCleared _ _ _ =>
      simp
  | phaseChanged _ _ _ =>
      exact forall_mem_exchangePackets hremove fun y => hcreate _ y f.lastTransformTime
  | locationChanged now _ _ =>
      exact forall_mem_exchangePackets hremove fun y => hcreate _ y now
  | left now _ _ _ =>
      intro q hq
      rcases List.mem_append.1 hq with hq | hq
      · rcases List.mem_append.1 hq with hq | hq
        · exact forall_mem_exchangePackets hremove (fun y => hcreate _ y now) q hq
        · split_ifs at hq
          · simp at hq
          · rw [List.mem_singleton.1 hq]
            exact hcreate _ _ now
      · rw [List.mem_singleton.1 hq]
        exact hpromote _ now _
  | lost now _ _ _ =>
      exact forall_mem_exchangePackets hremove fun y => hcreate _ y now

namespace World

/-- A change that is one of the listed rounds. -/
def Change.IsRound (x : Nat) (f : Fixture) (change : Change) : Prop :=
  ∃ packets, Round x f change.fixture packets change.fault ∧
    ownerPosts change.posts = addressed packets

theorem Change.IsRound.of_eq {x : Nat} {f f' : Fixture} {change : Change} {fault : Option Fault}
    {packets : List PlayPacket} (hround : Round x f f' packets fault) (hf : change.fixture = f')
    (hfault : change.fault = fault) (hposts : ownerPosts change.posts = addressed packets) :
    change.IsRound x f := by
  subst hf hfault
  exact ⟨packets, hround, hposts⟩

/-- Nothing is sent to the invalid sector. -/
theorem sendCreate_invalid (x : Nat) (info : ObjectInfo) :
    sendCreateObservingObject [invalidSector, invalidSector, invalidSector] x info = [] := rfl

theorem ownerPosts_sendCreate_one {d : Nat} (hd : d ≠ invalidSector) (x : Nat) (info : ObjectInfo) :
    ownerPosts (sendCreateObservingObject [d, invalidSector, invalidSector] x info) =
      addressed [createPacket x info d] := by
  rw [ownerPosts_sendCreate]
  simp [validSectors, hd]

/-- A change of location, with the assignments that follow the callback. -/
theorem onChangeFixtureLocation_isRound {x : Nat} {f : Fixture} (now : Milliseconds)
    (hobs : f.isObservingFixture = false) :
    ((onChangeFixtureLocation x f (SectorSystem.calculateCurrentLocation x f)
      (HandOff.destPhase x f) now).settle (SectorSystem.calculateCurrentLocation x f)
        (HandOff.destPhase x f)).IsRound x f := by
  by_cases hleave : SectorSystem.calculateCurrentLocation x f = .Leave
  · have hphase : HandOff.destPhase x f = SectorSystem.calculateCurrentPhase x f := by
      simp [HandOff.destPhase, hleave]
    rw [hleave, hphase]
    by_cases hdest : getSectorByPosition f.position = invalidSector
    · refine Change.IsRound.of_eq (.lost now hobs hleave hdest) ?_ ?_ ?_
      · simp [onChangeFixtureLocation, Change.settle, hdest]
      · simp [onChangeFixtureLocation, Change.settle, hdest]
      · simp only [onChangeFixtureLocation, Change.settle, ne_eq, not_true_eq_false, if_false,
          hdest, if_true, sendCreate_invalid, ite_self, List.append_nil]
        exact ownerPosts_exchange _ _ _ _ _ _
    · have hmem : getSectorByPosition f.position ∈
          getNearSectors x (SectorSystem.calculateCurrentPhase x f) ↔
          getSectorByPosition f.position ∈
            nearSectors x (SectorSystem.calculateCurrentPhase x f) := by
        simp [getNearSectors, hdest]
      refine Change.IsRound.of_eq (.left now hobs hleave hdest) ?_ ?_ ?_
      · simp [onChangeFixtureLocation, Change.settle, hdest]
      · simp [onChangeFixtureLocation, Change.settle, hdest]
      · simp only [onChangeFixtureLocation, Change.settle, ne_eq, not_true_eq_false, if_false,
          hdest, hmem, ownerPosts_append, ownerPosts_exchange, leavePackets, addressed_append]
        split_ifs
        · rfl
        · rw [ownerPosts_sendCreate_one hdest]
          rfl
  · refine Change.IsRound.of_eq (.locationChanged now hobs hleave) ?_ ?_ ?_
    · simp [onChangeFixtureLocation, Change.settle, hleave]
    · simp [onChangeFixtureLocation, Change.settle, hleave]
    · simp only [onChangeFixtureLocation, Change.settle, ne_eq, hleave, not_false_eq_true, if_true]
      exact ownerPosts_exchange _ _ _ _ _ _

theorem transform_isRound {x : Nat} {f : Fixture} (now : Milliseconds)
    (hobs : f.isObservingFixture = false) : (transform x f now).IsRound x f := by
  have hstill : Change.IsRound x f { fixture := f } := ⟨[], .still, rfl⟩
  unfold transform
  cases hloc : f.location with
  | In =>
      simp only [ne_eq]
      split_ifs with hsame
      · exact hstill
      · have hphase : HandOff.destPhase x f = SectorSystem.calculateCurrentPhase x f := by
          simp [HandOff.destPhase, hsame]
        exact hphase ▸ onChangeFixtureLocation_isRound now hobs
  | Gray =>
      simp only [ne_eq]
      have hdest : (if SectorSystem.calculateCurrentLocation x f = .In then Direction.Max
          else SectorSystem.calculateCurrentPhase x f) = HandOff.destPhase x f := rfl
      rw [hdest]
      split_ifs with hsame hphase hmax
      · exact hstill
      · exact Change.IsRound.of_eq (.phaseCleared hobs hsame hmax) (by simp [hmax, hloc]) rfl rfl
      · refine Change.IsRound.of_eq (.phaseChanged hobs hloc hsame) ?_ ?_ ?_
        · simp [onChangeFixturePhase, Change.settle, hloc]
        · simp [onChangeFixturePhase, Change.settle, hloc]
        · simp only [onChangeFixturePhase, Change.settle, hloc, if_true]
          exact ownerPosts_exchange _ _ _ _ _ _
      · exact onChangeFixtureLocation_isRound now hobs
  | Leave =>
      exact hstill
  | Max =>
      exact hstill

/-- Every round of an update is one of the listed ones, after the movement. -/
theorem updateFixture_isRound (x : Nat) (f : Fixture) (clock : Clock) :
    (updateFixture x f clock).IsRound x (f.move clock.deltaTime) := by
  have hstill : Change.IsRound x (f.move clock.deltaTime)
      { fixture := f.move clock.deltaTime } := ⟨[], .still, rfl⟩
  unfold updateFixture
  simp only
  split_ifs with hobs hcool
  · exact hstill
  · exact hstill
  · exact transform_isRound _ (by simpa using hobs)

/-- One round as a step of the world. -/
theorem updateObject_effect {w : World} {clock : Clock} {x o id : Nat}
    (h : w.sectorIdAt x = some id) :
    (w.fixtureAt x o = none ∧ (w.updateObject clock x o).fault = none ∧
        Idle w (w.updateObject clock x o)) ∨
      ∃ f f' packets, w.fixtureAt x o = some f ∧
        Round x (f.move clock.deltaTime) f' packets (w.updateObject clock x o).fault ∧
        Effect w (w.updateObject clock x o) x o (some f') packets := by
  rcases find_of_sectorIdAt h with ⟨sector, hfind, _⟩
  have hfix := fixtureAt_of_find hfind o
  cases hf : sector.getFixture o with
  | none =>
      rw [hf] at hfix
      have heq : w.updateObject clock x o = { world := w } := by
        simp [updateObject, hfind, hf]
      rw [heq]
      exact .inl ⟨hfix, rfl, same_of_sectors rfl, rfl⟩
  | some f =>
      rw [hf] at hfix
      rcases updateFixture_isRound x f clock with ⟨packets, hround, hposts⟩
      refine .inr ⟨f, (updateFixture x f clock).fixture, packets, hfix, ?_, ?_, ?_⟩
      · simpa [updateObject, hfind, hf] using hround
      · -- the record of promoted objects is beside the fixtures
        have hwrites := writes_setFixture (o := o) hfind (updateFixture x f clock).fixture
        simp only [updateObject, hfind, hf]
        cases (updateFixture x f clock).promoted with
        | none =>
            exact hwrites
        | some promoted =>
            exact ⟨hwrites.fixtures, hwrites.sectors, hwrites.nulls⟩
      · simpa [updateObject, hfind, hf] using hposts

/-- Forgetting promoted objects leaves the fixtures alone. -/
theorem forgetPromoted_same (w : World) (tick : Milliseconds) : Same w (w.forgetPromoted tick) :=
  same_of_sectors rfl

/-! ## A whole update -/

/-- A loop that has not faulted has made all rounds, each on what the ones before it left. -/
theorem foldOutcome_cons {α : Type} {body : World → α → Outcome} {w : World} {a : α}
    {rest : List α} (h : (foldOutcome body w (a :: rest)).fault = none) :
    (foldOutcome body (body w a).world rest).fault = none ∧
      (foldOutcome body w (a :: rest)).world = (foldOutcome body (body w a).world rest).world := by
  cases hfirst : (body w a).fault with
  | some fault =>
      simp [foldOutcome, hfirst] at h
  | none =>
      simp only [foldOutcome, hfirst] at h ⊢
      exact ⟨h, trivial⟩

/-- One round replaces the fixture it is about. -/
theorem updateObject_fixtureAt (w : World) (clock : Clock) (x o y o' : Nat) :
    (w.updateObject clock x o).world.fixtureAt y o' =
      if y = x ∧ o' = o then
        (w.fixtureAt x o).map fun f => (updateFixture x f clock).fixture
      else
        w.fixtureAt y o' := by
  cases hid : w.sectorIdAt x with
  | none =>
      -- `operator[]` would make a null entry here
      have hnone := fixtureAt_of_sectorIdAt_none hid
      have heq : (w.updateObject clock x o).world = w := by
        unfold updateObject
        split
        next sector hfind =>
          simp [sectorIdAt, hfind] at hid
        next =>
          rfl
      rw [heq]
      split_ifs with h
      · rw [h.1, h.2, hnone]
        rfl
      · rfl
  | some id =>
      rcases find_of_sectorIdAt hid with ⟨sector, hfind, _⟩
      have hfix := fixtureAt_of_find hfind o
      cases hf : sector.getFixture o with
      | none =>
          rw [hf] at hfix
          have heq : (w.updateObject clock x o).world = w := by
            simp [updateObject, hfind, hf]
          rw [heq]
          split_ifs with h
          · rw [h.1, h.2, hfix]
            rfl
          · rfl
      | some f =>
          rw [hf] at hfix
          -- the fixture is replaced, and the rest of the round only posts and records
          have hwrites :=
            (writes_setFixture (o := o) hfind (updateFixture x f clock).fixture).fixtures
          have hsame : (w.updateObject clock x o).world.fixtureAt y o' =
              (w.setSector x (sector.setFixture o (updateFixture x f clock).fixture)).fixtureAt
                y o' := by
            simp only [updateObject, hfind, hf]
            cases (updateFixture x f clock).promoted <;> rfl
          rw [hsame, hwrites, hfix]
          rfl

theorem updateSector_fixtureAt {w : World} {clock : Clock} {x : Nat}
    (h : (w.updateSector clock x).fault = none) (y o : Nat) :
    (w.updateSector clock x).world.fixtureAt y o =
      if y = x then (w.fixtureAt x o).map fun f => (updateFixture x f clock).fixture
      else w.fixtureAt y o := by
  -- each key is visited once
  have hloop : ∀ (keys : List Nat) (w : World), keys.Nodup →
      (foldOutcome (updateObject clock x) w keys).fault = none → ∀ y o,
        (foldOutcome (updateObject clock x) w keys).world.fixtureAt y o =
          if y = x ∧ o ∈ keys then (w.fixtureAt x o).map fun f => (updateFixture x f clock).fixture
          else w.fixtureAt y o := by
    intro keys
    induction keys with
    | nil =>
        intro w _ _ y o
        simp [foldOutcome]
    | cons o₁ keys ih =>
        intro w hnodup hfault y o
        rcases List.nodup_cons.1 hnodup with ⟨hnot, hnodup⟩
        rcases foldOutcome_cons hfault with ⟨hfault', hworld⟩
        rw [hworld, ih _ hnodup hfault', updateObject_fixtureAt, updateObject_fixtureAt]
        by_cases ho : o = o₁
        · subst ho
          simp [hnot]
        · simp [ho]
  cases hid : w.sectorIdAt x with
  | none =>
      exfalso
      unfold updateSector at h
      split at h
      next sector hfind =>
        simp [sectorIdAt, hfind] at hid
      next =>
        cases h
  | some id =>
      rcases find_of_sectorIdAt hid with ⟨sector, hfind, _⟩
      have heq : w.updateSector clock x =
          foldOutcome (updateObject clock x) w sector.fixtures.keys := by
        simp [updateSector, hfind]
      rw [heq] at h ⊢
      rw [hloop _ w sector.fixtures.nodup h]
      by_cases hy : y = x
      · subst hy
        by_cases ho : o ∈ sector.fixtures.keys
        · simp [ho]
        · have hnone : w.fixtureAt y o = none := by
            rw [fixtureAt_of_find hfind]
            simpa [SectorSystem.getFixture] using
              mt (sector.fixtures.mem_keys o).2 (by simpa using ho)
          simp [ho, hnone]
      · simp [hy]

/-- An update without a fault makes one round for every fixture. -/
theorem update_fixtureAt {w : World} {clock : Clock} (h : (w.update clock).fault = none)
    (x o : Nat) :
    (w.update clock).world.fixtureAt x o =
      (w.fixtureAt x o).map fun f => (updateFixture x f clock).fixture := by
  have hloop : ∀ (keys : List Nat) (w : World), keys.Nodup →
      (foldOutcome (updateSector clock) w keys).fault = none → ∀ x o,
        (foldOutcome (updateSector clock) w keys).world.fixtureAt x o =
          if x ∈ keys then (w.fixtureAt x o).map fun f => (updateFixture x f clock).fixture
          else w.fixtureAt x o := by
    intro keys
    induction keys with
    | nil =>
        intro w _ _ x o
        simp [foldOutcome]
    | cons x₁ keys ih =>
        intro w hnodup hfault x o
        rcases List.nodup_cons.1 hnodup with ⟨hnot, hnodup⟩
        rcases foldOutcome_cons hfault with ⟨hfault', hworld⟩
        have hfirst : (w.updateSector clock x₁).fault = none := by
          by_contra hsome
          rcases Option.ne_none_iff_exists'.1 hsome with ⟨fault, hsome⟩
          simp [foldOutcome, hsome] at hfault
        rw [hworld, ih _ hnodup hfault', updateSector_fixtureAt hfirst]
        by_cases hx : x = x₁
        · subst hx
          simp [hnot]
        · simp [hx]
  have hsame := forgetPromoted_same w clock.tick
  rw [update, hloop _ _ (UnorderedMap.nodup _) h, hsame.fixtures]
  split_ifs with hx
  · rfl
  · have hnone : w.fixtureAt x o = none := by
      have hfind : w.sectors.find x = none := by
        simpa [UnorderedMap.mem_keys, forgetPromoted] using hx
      simp [fixtureAt, hfind]
    simp [hnone]

end World

end Game
end SeamlessServer
