import SeamlessServer.Agency.Worker
import SeamlessServer.Data.History

/-!
# Agency.Cache — what the packets of play servers write into the cache

Seven functions of `PacketHandler` write the cache of an agency.  What any of them writes is one of
three things, an entry, the loss of an entry, or a sector as a whole (`CacheWrite`), and
`handle_objectCache` says which packet writes what.  What the cache holds after any sequence of
packets is read off that lemma alone: which objects, and at what times.

Between two packets anything else may happen to the agency, as long as it leaves the cache alone.
-/

namespace SeamlessServer
namespace Agency

open Game Protocol Utility History

/-! ## Handlers -/

/-- The clock of a handler. -/
structure Clock where
  /-- `_current_epoch_timestamp`, taken once per update. -/
  currentEpochTimestamp : Milliseconds
  /-- `CurrentTimeEpoch()`, read by the handler itself. -/
  currentTimeEpoch : Milliseconds

/-- The function of `PacketHandler` for a packet.  `OnIntraServerData` calls all of them but the one
for a list of objects. -/
def AgencyWorker.handle (s : AgencyWorker) (source : Nat) (packet : IntraPacket) (clock : Clock) :
    AgencyOutcome :=
  match packet with
  | .objectListPs sectorId objects =>
      s.onPlayObjectListPush sectorId objects clock.currentTimeEpoch
  | packet => s.onIntraServerData source packet clock.currentEpochTimestamp

/-! ## Writes -/

/-- What a handler does to the cache. -/
inductive CacheWrite
  | put (sectorId objectId : Nat) (fixture : Fixture)
  | erase (sectorId objectId : Nat)
  | replace (sectorId : Nat) (objects : List ObjectInfo)

/-- The object that a list stores under an id, which is the last one. -/
def lastOf (objects : List ObjectInfo) (objectId : Nat) : Option ObjectInfo :=
  (objects.filter (·.objectId = objectId)).getLast?

namespace CacheWrite

/-- The cache after a write. -/
def apply (cache : Nat → UnorderedMap Nat Fixture) : CacheWrite → Nat → UnorderedMap Nat Fixture
  | .put sectorId objectId fixture =>
      Function.update cache sectorId ((cache sectorId).insert objectId fixture)
  | .erase sectorId objectId =>
      Function.update cache sectorId ((cache sectorId).erase objectId)
  | .replace sectorId objects =>
      Function.update cache sectorId
        (objects.foldl (fun cache object => cache.insert object.objectId object.fixture)
          UnorderedMap.empty)

/-- The entry that a write leaves behind, if it touches the entry at all. -/
def entry (x o : Nat) : CacheWrite → Option (Option Fixture)
  | .put sectorId objectId fixture =>
      if x = sectorId ∧ o = objectId then some (some fixture) else none
  | .erase sectorId objectId =>
      if x = sectorId ∧ o = objectId then some none else none
  | .replace sectorId objects =>
      if x = sectorId then some ((lastOf objects o).map ObjectInfo.fixture) else none

end CacheWrite

theorem lastOf_append_singleton (objects : List ObjectInfo) (object : ObjectInfo) (o : Nat) :
    lastOf (objects ++ [object]) o =
      if object.objectId = o then some object else lastOf objects o := by
  unfold lastOf
  by_cases h : object.objectId = o <;> simp [h]

theorem lastOf_eq_none_iff {objects : List ObjectInfo} {o : Nat} :
    lastOf objects o = none ↔ ∀ object ∈ objects, object.objectId ≠ o := by
  simp [lastOf]

theorem mem_of_lastOf {objects : List ObjectInfo} {object : ObjectInfo} {o : Nat}
    (h : lastOf objects o = some object) : object ∈ objects ∧ object.objectId = o := by
  simpa using List.mem_of_getLast? h

theorem find_foldl_insert (objects : List ObjectInfo) (o : Nat) :
    (objects.foldl (fun cache object => cache.insert object.objectId object.fixture)
      UnorderedMap.empty).find o = (lastOf objects o).map ObjectInfo.fixture := by
  induction objects using List.reverseRecOn with
  | nil =>
      rfl
  | append_singleton objects object ih =>
      rw [List.foldl_append, List.foldl_cons, List.foldl_nil, UnorderedMap.find_insert, ih,
        lastOf_append_singleton]
      by_cases h : o = object.objectId
      · simp [h]
      · simp [h, Ne.symm h]

/-- An entry after a write. -/
theorem CacheWrite.find_apply (cache : Nat → UnorderedMap Nat Fixture) (w : CacheWrite) (x o : Nat) :
    (w.apply cache x).find o = (w.entry x o).getD ((cache x).find o) := by
  cases w with
  | put sectorId objectId fixture =>
      by_cases hx : x = sectorId
      · subst hx
        by_cases ho : o = objectId <;> simp [apply, entry, ho]
      · simp [apply, entry, hx]
  | erase sectorId objectId =>
      by_cases hx : x = sectorId
      · subst hx
        by_cases ho : o = objectId <;> simp [apply, entry, ho]
      · simp [apply, entry, hx]
  | replace sectorId objects =>
      by_cases hx : x = sectorId
      · subst hx
        simp [apply, entry, find_foldl_insert]
      · simp [apply, entry, hx]

section Entries

variable {Q : Nat → Nat → Fixture → Prop}

theorem forall_entry_put (sectorId objectId : Nat) (fixture : Fixture) :
    (∀ x o f, (CacheWrite.put sectorId objectId fixture).entry x o = some (some f) → Q x o f) ↔
      Q sectorId objectId fixture := by
  constructor
  · intro h
    exact h sectorId objectId fixture (by simp [CacheWrite.entry])
  · intro h x o f hentry
    simp only [CacheWrite.entry, Option.ite_none_right_eq_some, Option.some.injEq] at hentry
    obtain ⟨⟨rfl, rfl⟩, rfl⟩ := hentry
    exact h

theorem forall_entry_erase (sectorId objectId : Nat) (x o : Nat) (f : Fixture) :
    (CacheWrite.erase sectorId objectId).entry x o ≠ some (some f) := by
  simp [CacheWrite.entry]

theorem forall_entry_replace (sectorId : Nat) (objects : List ObjectInfo) :
    (∀ x o f, (CacheWrite.replace sectorId objects).entry x o = some (some f) → Q x o f) ↔
      ∀ o object, lastOf objects o = some object → Q sectorId o object.fixture := by
  constructor
  · intro h o object hlast
    exact h sectorId o object.fixture (by simp [CacheWrite.entry, hlast])
  · intro h x o f hentry
    simp only [CacheWrite.entry, Option.ite_none_right_eq_some, Option.some.injEq,
      Option.map_eq_some_iff] at hentry
    obtain ⟨rfl, object, hlast, rfl⟩ := hentry
    exact h o object hlast

end Entries

/-- `fixture.last_transform_time = now`. -/
def stamp (fixture : Fixture) (now : Milliseconds) : Fixture :=
  { fixture with lastTransformTime := now }

def stampObject (now : Milliseconds) (object : ObjectInfo) : ObjectInfo :=
  { object with fixture := stamp object.fixture now }

namespace AgencyWorker

variable (s : AgencyWorker)

/-- The cache holds the object in the sector. -/
def Cached (x o : Nat) : Prop := (s.objectCache x).find o ≠ none

instance (x o : Nat) : Decidable (s.Cached x o) := inferInstanceAs (Decidable (_ ≠ none))

/-- `OnPlayPromoteObjectReq` promotes the object: both sectors have a server, and the object is cached
in the one it comes from. -/
def Promotes (originSectorId : Nat) (info : ObjectInfo) : Prop :=
  (s.sectorPostingManager.getSectorOwnerSession info.sectorId).isSome ∧
    (s.sectorPostingManager.getSectorOwnerSession originSectorId).isSome ∧
    s.Cached originSectorId info.objectId

instance (originSectorId : Nat) (info : ObjectInfo) : Decidable (s.Promotes originSectorId info) :=
  inferInstanceAs (Decidable (_ ∧ _))

/-- The fixture that a move leaves behind. -/
def movedFixture (packet : CharacterMoveRq) (now : Milliseconds) : Fixture :=
  { ((s.objectCache packet.sectorId).find packet.objectId).getD blankFixture with
    direction := packet.direction
    position := packet.startingPosition
    lastTransformTime := now }

/-- `OnPlayMoveCharacterRes` takes the move: it is no error, and the object is that of a client. -/
def TakesMove (packet : CharacterMoveRq) (error : ErrorCode) : Prop :=
  error = .None ∧ (s.objectSessions.find packet.objectId).isSome

instance (packet : CharacterMoveRq) (error : ErrorCode) : Decidable (s.TakesMove packet error) :=
  inferInstanceAs (Decidable (_ ∧ _))

/-- What the handler of a packet writes. -/
def cacheWrite (packet : IntraPacket) (clock : Clock) : Option CacheWrite :=
  let now := clock.currentEpochTimestamp
  match packet with
  | .spawnCharacterRs _ info _ => some (.put info.sectorId info.objectId (stamp info.fixture now))
  | .removeCharacterRs _ sectorId objectId _ => some (.erase sectorId objectId)
  | .characterMoveRs packet error =>
      if s.TakesMove packet error then
        some (.put packet.sectorId packet.objectId (s.movedFixture packet now))
      else
        none
  | .createObjectPs info => some (.put info.sectorId info.objectId (stamp info.fixture now))
  | .removeObjectPs sectorId objectId => some (.erase sectorId objectId)
  -- `operator[]` makes an entry where there is none
  | .objectMovePs packet => some (.put packet.sectorId packet.objectId (s.movedFixture packet now))
  | .promoteObjectRq originSectorId info =>
      if s.Promotes originSectorId info then
        some (.put info.sectorId info.objectId info.fixture)
      else
        none
  | .objectListPs sectorId objects =>
      some (.replace sectorId (objects.map (stampObject clock.currentTimeEpoch)))

variable {s}

theorem objectCache_onPlayMoveCharacterRes (packet : CharacterMoveRq) (error : ErrorCode)
    (now : Milliseconds) :
    (s.onPlayMoveCharacterRes packet error now).agency.objectCache =
      if s.TakesMove packet error then (s.cacheMove packet now).objectCache else s.objectCache := by
  by_cases htakes : s.TakesMove packet error
  · obtain ⟨rfl, hclient⟩ := id htakes
    obtain ⟨userId, hclient⟩ := Option.isSome_iff_exists.1 hclient
    rw [if_pos htakes]
    simp only [onPlayMoveCharacterRes, ne_eq, not_true_eq_false, if_false, hclient]
    -- the entry is written before the record of the client is looked at
    split <;> rfl
  · rw [if_neg htakes]
    by_cases herror : error = .None
    · have hclient : s.objectSessions.find packet.objectId = none := by
        simpa [TakesMove, herror] using htakes
      simp only [onPlayMoveCharacterRes, herror, ne_eq, not_true_eq_false, if_false, hclient]
    · simp [onPlayMoveCharacterRes, herror]

theorem objectCache_onPlaySpawnCharacterRes (source userId : Nat) (info : ObjectInfo)
    (now : Milliseconds) :
    (s.onPlaySpawnCharacterRes source userId info now).agency.objectCache =
      (s.cache info.sectorId info.objectId (stamp info.fixture now)).objectCache := by
  unfold onPlaySpawnCharacterRes
  dsimp only
  split <;> rfl

theorem objectCache_onPlayPromoteObjectReq (originSectorId : Nat) (info : ObjectInfo)
    (now : Milliseconds) :
    (s.onPlayPromoteObjectReq originSectorId info now).agency.objectCache =
      if s.Promotes originSectorId info then
        (s.cache info.sectorId info.objectId info.fixture).objectCache
      else
        s.objectCache := by
  by_cases hpromotes : s.Promotes originSectorId info
  · obtain ⟨hdeparting, horigin, hcached⟩ := id hpromotes
    obtain ⟨fixture, hcached⟩ := Option.ne_none_iff_exists'.1 hcached
    have hlinked : ¬ ((s.sectorPostingManager.getSectorOwnerSession info.sectorId).isNone = true ∨
        (s.sectorPostingManager.getSectorOwnerSession originSectorId).isNone = true) := by
      simp [← Option.not_isSome, hdeparting, horigin]
    rw [if_pos hpromotes]
    simp only [onPlayPromoteObjectReq, if_neg hlinked, hcached]
    -- what follows is about the client of the object and leaves the entry alone
    split
    · rfl
    · split
      · rfl
      · split <;> rfl
  · rw [if_neg hpromotes]
    by_cases hlinked : (s.sectorPostingManager.getSectorOwnerSession info.sectorId).isNone = true ∨
        (s.sectorPostingManager.getSectorOwnerSession originSectorId).isNone = true
    · simp only [onPlayPromoteObjectReq, if_pos hlinked]
    · have hcached : (s.objectCache originSectorId).find info.objectId = none := by
        simp only [not_or, Bool.not_eq_true, Option.isNone_eq_false_iff] at hlinked
        simpa [Promotes, Cached, hlinked.1, hlinked.2] using hpromotes
      simp only [onPlayPromoteObjectReq, if_neg hlinked, hcached]

/-- The one rule about handlers and the cache. -/
theorem handle_objectCache (source : Nat) (packet : IntraPacket) (clock : Clock) :
    (s.handle source packet clock).agency.objectCache =
      (s.cacheWrite packet clock).elim s.objectCache (CacheWrite.apply s.objectCache) := by
  cases packet with
  | spawnCharacterRs userId info error =>
      exact objectCache_onPlaySpawnCharacterRes source userId info clock.currentEpochTimestamp
  | removeCharacterRs userId sectorId objectId error => rfl
  | characterMoveRs packet error =>
      refine (objectCache_onPlayMoveCharacterRes packet error clock.currentEpochTimestamp).trans ?_
      simp only [cacheWrite]
      split <;> rfl
  | createObjectPs info => rfl
  | removeObjectPs sectorId objectId => rfl
  | objectMovePs packet => rfl
  | promoteObjectRq originSectorId info =>
      refine (objectCache_onPlayPromoteObjectReq originSectorId info
        clock.currentEpochTimestamp).trans ?_
      simp only [cacheWrite]
      split <;> rfl
  | objectListPs sectorId objects => rfl

end AgencyWorker

/-! ## Sequences of packets -/

inductive HandlerEvent
  | packet (source : Nat) (packet : IntraPacket) (clock : Clock)
  /-- The agency is `agency` now, but for its cache. -/
  | elsewhere (agency : AgencyWorker)

/-- `_current_epoch_timestamp` at an event. -/
def HandlerEvent.time : HandlerEvent → Option Milliseconds
  | .packet _ _ clock => some clock.currentEpochTimestamp
  | .elsewhere _ => none

namespace AgencyWorker

def next (s : AgencyWorker) : HandlerEvent → AgencyWorker
  | .packet source packet clock => (s.handle source packet clock).agency
  | .elsewhere agency => { agency with objectCache := s.objectCache }

/-- The agency after a sequence of events, from an empty cache on. -/
def after (start : AgencyWorker) (es : List HandlerEvent) : AgencyWorker :=
  es.foldl next { start with objectCache := fun _ => UnorderedMap.empty }

theorem after_append_singleton (start : AgencyWorker) (es : List HandlerEvent) (e : HandlerEvent) :
    start.after (es ++ [e]) = (start.after es).next e := List.foldl_concat ..

/-! ### Clients leave the cache alone -/

theorem next_elsewhere {s agency : AgencyWorker} (h : agency.objectCache = s.objectCache) :
    s.next (.elsewhere agency) = agency := by
  simp only [next, ← h]

theorem next_elsewhere_accept (s : AgencyWorker) :
    s.next (.elsewhere s.accept.agency) = s.accept.agency := by
  refine next_elsewhere ?_
  unfold accept onClientAccepted
  dsimp only
  split <;> rfl

theorem next_elsewhere_close (s : AgencyWorker) (userId : Nat) (toOwner : Bool) :
    s.next (.elsewhere (s.close userId toOwner).agency) = (s.close userId toOwner).agency := by
  refine next_elsewhere ?_
  unfold close onClientClosed
  split
  · rfl
  · dsimp only
    split <;> rfl

theorem next_elsewhere_onClientData (s : AgencyWorker) (userId : Nat) (position : Vector2)
    (direction : Direction) :
    s.next (.elsewhere (s.onClientData userId position direction).agency) =
      (s.onClientData userId position direction).agency := by
  refine next_elsewhere ?_
  unfold onClientData onUserMoveReq
  split
  · rfl
  · split
    · rfl
    · split <;> rfl

variable (s : AgencyWorker)

/-- The entry that an event leaves behind, if it touches the entry at all. -/
def rewrites (x o : Nat) : HandlerEvent → Option (Option Fixture)
  | .packet _ packet clock => (s.cacheWrite packet clock).bind (CacheWrite.entry x o)
  | .elsewhere _ => none

/-- The event writes the entry of the object, and with it its position. -/
def Writes (x o : Nat) (e : HandlerEvent) : Prop := ∃ f, s.rewrites x o e = some (some f)

variable {s}

theorem find_next (e : HandlerEvent) (x o : Nat) :
    ((s.next e).objectCache x).find o = (s.rewrites x o e).getD ((s.objectCache x).find o) := by
  cases e with
  | elsewhere agency => rfl
  | packet source packet clock =>
      simp only [next, handle_objectCache, rewrites]
      cases s.cacheWrite packet clock with
      | none => rfl
      | some w => exact w.find_apply s.objectCache x o

/-- What is true of the entries that an event leaves alone is true of all entries if and only if it is
true of the entries the event writes. -/
theorem forall_find_next {R R' : Nat → Nat → Fixture → Prop} {e : HandlerEvent}
    (hold : ∀ x o f, (s.objectCache x).find o = some f → R x o f)
    (hsame : ∀ x o f, s.rewrites x o e = none → (R' x o f ↔ R x o f)) :
    (∀ x o f, ((s.next e).objectCache x).find o = some f → R' x o f) ↔
      ∀ x o f, s.rewrites x o e = some (some f) → R' x o f := by
  constructor
  · intro h x o f hwrite
    exact h x o f (by rw [find_next, hwrite, Option.getD_some])
  · intro h x o f hfind
    rw [find_next] at hfind
    cases hwrite : s.rewrites x o e with
    | none =>
        rw [hwrite, Option.getD_none] at hfind
        exact (hsame x o f hwrite).2 (hold x o f hfind)
    | some entry =>
        rw [hwrite, Option.getD_some] at hfind
        subst hfind
        exact h x o f hwrite

end AgencyWorker

/-! ## Which objects are cached -/

/-- A creation of the object in the sector. -/
def AgencyWorker.Creates (s : AgencyWorker) (x o : Nat) : HandlerEvent → Prop
  | .packet _ (.spawnCharacterRs _ info _) _ => info.sectorId = x ∧ info.objectId = o
  | .packet _ (.createObjectPs info) _ => info.sectorId = x ∧ info.objectId = o
  | .packet _ (.promoteObjectRq originSectorId info) _ =>
      s.Promotes originSectorId info ∧ info.sectorId = x ∧ info.objectId = o
  | .packet _ (.objectListPs sectorId objects) _ =>
      sectorId = x ∧ ∃ object ∈ objects, object.objectId = o
  | _ => False

/-- A removal of the object from the sector. -/
def Removes (x o : Nat) : HandlerEvent → Prop
  | .packet _ (.removeCharacterRs _ sectorId objectId _) _ => sectorId = x ∧ objectId = o
  | .packet _ (.removeObjectPs sectorId objectId) _ => sectorId = x ∧ objectId = o
  | .packet _ (.objectListPs sectorId objects) _ =>
      sectorId = x ∧ ∀ object ∈ objects, object.objectId ≠ o
  | _ => False

/-- A `packet_object_move_ps` or `packet_character_move_rs`. -/
def HandlerEvent.IsMove : HandlerEvent → Prop
  | .packet _ (.objectMovePs _) _ => True
  | .packet _ (.characterMoveRs _ _) _ => True
  | _ => False

/-- The move that the handler of a packet writes. -/
def AgencyWorker.writtenMove (s : AgencyWorker) : HandlerEvent → Option CharacterMoveRq
  | .packet _ (.objectMovePs packet) _ => some packet
  | .packet _ (.characterMoveRs packet error) _ =>
      if s.TakesMove packet error then some packet else none
  | _ => none

/-- The move that is written is one of an object in the cache. -/
def AgencyWorker.MovesCached (s : AgencyWorker) (e : HandlerEvent) : Prop :=
  ∀ packet, s.writtenMove e = some packet → s.Cached packet.sectorId packet.objectId

namespace AgencyWorker

variable {s : AgencyWorker}

section Entries

variable (old : Option Fixture) (x o sectorId objectId : Nat)

theorem put_ne_none (fixture : Fixture) :
    ((CacheWrite.put sectorId objectId fixture).entry x o).getD old ≠ none ↔
      (sectorId = x ∧ objectId = o) ∨ old ≠ none := by
  by_cases h : x = sectorId ∧ o = objectId
  · simp [CacheWrite.entry, h]
  · have h' : ¬ (sectorId = x ∧ objectId = o) := fun heq => h ⟨heq.1.symm, heq.2.symm⟩
    simp [CacheWrite.entry, h, h']

theorem erase_ne_none :
    ((CacheWrite.erase sectorId objectId).entry x o).getD old ≠ none ↔
      old ≠ none ∧ ¬ (sectorId = x ∧ objectId = o) := by
  by_cases h : x = sectorId ∧ o = objectId
  · simp [CacheWrite.entry, h]
  · have h' : ¬ (sectorId = x ∧ objectId = o) := fun heq => h ⟨heq.1.symm, heq.2.symm⟩
    simp [CacheWrite.entry, h, h']

/-- A list creates the objects in it and removes all others of its sector. -/
theorem replace_ne_none (objects : List ObjectInfo) :
    ((CacheWrite.replace sectorId objects).entry x o).getD old ≠ none ↔
      (sectorId = x ∧ ∃ object ∈ objects, object.objectId = o) ∨
        (old ≠ none ∧ ¬ (sectorId = x ∧ ∀ object ∈ objects, object.objectId ≠ o)) := by
  by_cases hx : x = sectorId
  · have hlast : lastOf objects o ≠ none ↔ ∃ object ∈ objects, object.objectId = o := by
      simp [lastOf_eq_none_iff]
    by_cases hin : ∃ object ∈ objects, object.objectId = o
    · simpa [CacheWrite.entry, hx, hin] using hlast.2 hin
    · have hout : ∀ object ∈ objects, object.objectId ≠ o := fun object hmem heq =>
        hin ⟨object, hmem, heq⟩
      simpa [CacheWrite.entry, hx, hin, hout] using lastOf_eq_none_iff.2 hout
  · simp [CacheWrite.entry, hx, Ne.symm hx]

end Entries

/-- An entry is there after an event if the event creates it, if it was there and is not removed, or
if a move is written into it. -/
theorem cached_next (e : HandlerEvent) (x o : Nat) :
    (s.next e).Cached x o ↔ (s.Creates x o e ∨ (s.Cached x o ∧ ¬ Removes x o e)) ∨
      ∃ packet, s.writtenMove e = some packet ∧ packet.sectorId = x ∧ packet.objectId = o := by
  unfold Cached
  rw [find_next]
  cases e with
  | elsewhere agency => simp [rewrites, Creates, Removes, writtenMove]
  | packet source packet clock =>
      cases packet with
      | spawnCharacterRs userId info error =>
          simpa [rewrites, cacheWrite, Creates, Removes, writtenMove] using put_ne_none ..
      | removeCharacterRs userId sectorId objectId error =>
          simpa [rewrites, cacheWrite, Creates, Removes, writtenMove] using erase_ne_none ..
      -- a move is written by `operator[]`, whether there was an entry or not
      | characterMoveRs packet error =>
          by_cases htakes : s.TakesMove packet error
          · have hput := put_ne_none ((s.objectCache x).find o) x o packet.sectorId packet.objectId
              (s.movedFixture packet clock.currentEpochTimestamp)
            simpa [rewrites, cacheWrite, Creates, Removes, writtenMove, htakes, or_comm] using hput
          · simp [rewrites, cacheWrite, Creates, Removes, writtenMove, htakes]
      | createObjectPs info =>
          simpa [rewrites, cacheWrite, Creates, Removes, writtenMove] using put_ne_none ..
      | removeObjectPs sectorId objectId =>
          simpa [rewrites, cacheWrite, Creates, Removes, writtenMove] using erase_ne_none ..
      | objectMovePs packet =>
          have hput := put_ne_none ((s.objectCache x).find o) x o packet.sectorId packet.objectId
            (s.movedFixture packet clock.currentEpochTimestamp)
          simpa [rewrites, cacheWrite, Creates, Removes, writtenMove, or_comm] using hput
      | promoteObjectRq originSectorId info =>
          by_cases hpromotes : s.Promotes originSectorId info
          · simpa [rewrites, cacheWrite, Creates, Removes, writtenMove, hpromotes]
              using put_ne_none ..
          · simp [rewrites, cacheWrite, Creates, Removes, writtenMove, hpromotes]
      | objectListPs sectorId objects =>
          -- everything the sector had goes, and what the snapshot names comes
          have hreplace := replace_ne_none ((s.objectCache x).find o) x o sectorId
            (objects.map (stampObject clock.currentTimeEpoch))
          simpa [rewrites, cacheWrite, Creates, Removes, writtenMove, stampObject] using hreplace

/-- No move is a creation or a removal. -/
theorem not_creates_of_writtenMove {e : HandlerEvent} {packet : CharacterMoveRq}
    (h : s.writtenMove e = some packet) (x o : Nat) : ¬ s.Creates x o e ∧ ¬ Removes x o e := by
  cases e with
  | elsewhere agency => cases h
  | packet source packet clock => cases packet <;> first | exact ⟨id, id⟩ | cases h

theorem isMove_of_writtenMove {e : HandlerEvent} {packet : CharacterMoveRq}
    (h : s.writtenMove e = some packet) : e.IsMove := by
  cases e with
  | elsewhere agency => cases h
  | packet source packet clock => cases packet <;> trivial

theorem not_creates_of_isMove {e : HandlerEvent} (h : e.IsMove) (x o : Nat) : ¬ s.Creates x o e := by
  cases e with
  | elsewhere agency => exact id
  | packet source packet clock => cases packet <;> first | exact id | cases h

/-- A move of an object in the cache adds no entry, a move of another one does. -/
theorem movesCached_iff {e : HandlerEvent} :
    s.MovesCached e ↔
      ∀ x o, (s.next e).Cached x o ↔ s.Creates x o e ∨ (s.Cached x o ∧ ¬ Removes x o e) := by
  constructor
  · intro h x o
    rw [cached_next, or_iff_left_iff_imp]
    rintro ⟨packet, hpacket, rfl, rfl⟩
    exact .inr ⟨h packet hpacket, (not_creates_of_writtenMove hpacket _ _).2⟩
  · intro h packet hpacket
    have hafter : (s.next e).Cached packet.sectorId packet.objectId :=
      (cached_next e _ _).2 (.inr ⟨packet, hpacket, rfl, rfl⟩)
    rcases (h _ _).1 hafter with hcreates | hcached
    · exact absurd hcreates (not_creates_of_writtenMove hpacket _ _).1
    · exact hcached.1

/-- The move adds no entry. -/
def AddsNothing (s : AgencyWorker) (e : HandlerEvent) : Prop :=
  e.IsMove → ∀ x o, (s.next e).Cached x o → s.Cached x o

theorem addsNothing_iff {e : HandlerEvent} : s.AddsNothing e ↔ s.MovesCached e := by
  constructor
  · intro h packet hpacket
    refine h (isMove_of_writtenMove hpacket) _ _ ?_
    exact (cached_next e _ _).2 (.inr ⟨packet, hpacket, rfl, rfl⟩)
  · intro h hmove x o hcached
    rcases (movesCached_iff.1 h x o).1 hcached with hcreates | hold
    · exact absurd hcreates (not_creates_of_isMove hmove x o)
    · exact hold.1

/-- An object is cached exactly when the last creation or removal of it is a creation. -/
def CachedAsCreated (start : AgencyWorker) (es : List HandlerEvent) : Prop :=
  ∀ x o, (start.after es).Cached x o ↔
    Since (fun before e => (start.after before).Creates x o e) (fun _ e => Removes x o e) es

theorem cachedAsCreated_append {start : AgencyWorker} {es : List HandlerEvent}
    (h : start.CachedAsCreated es) (e : HandlerEvent) :
    start.CachedAsCreated (es ++ [e]) ↔ (start.after es).MovesCached e := by
  simp only [CachedAsCreated, since_append_singleton, after_append_singleton, movesCached_iff, ← h _ _]

/-- The cache holds what was created and not removed since, all along a sequence of packets, and no
move adds an entry, exactly when every move that is written finds its object in the cache. -/
theorem cached_iff_created (start : AgencyWorker) (es : List HandlerEvent) :
    ((∀ before, before <+: es → start.CachedAsCreated before) ∧
        Each (fun before e => (start.after before).AddsNothing e) es) ↔
      Each (fun before e => (start.after before).MovesCached e) es := by
  have hcreated : (∀ before, before <+: es → start.CachedAsCreated before) ↔
      Each (fun before e => (start.after before).MovesCached e) es := by
    refine forall_prefix_iff_each (P := start.CachedAsCreated) (fun x o => ?_)
      (fun es e h => cachedAsCreated_append h e) es
    exact iff_of_false (fun h => h rfl) not_since_nil
  have hadds : Each (fun before e => (start.after before).AddsNothing e) es ↔
      Each (fun before e => (start.after before).MovesCached e) es :=
    each_congr (fun _ _ => addsNothing_iff) es
  rw [hcreated, hadds, and_self]

end AgencyWorker

/-- An agency without clients and links. -/
def idleAgency : AgencyWorker where
  currentUniversalSessionId := 1
  activeSessions := UnorderedMap.empty
  objectSessions := UnorderedMap.empty
  objectCache := fun _ => UnorderedMap.empty
  sectorPostingManager := {}

/-- The first packet from play server 3 is a move of an object that was spawned before the agency was
connected: the list of objects that the server has sent is not dispatched. -/
def moveOfUnknown : List HandlerEvent :=
  [.packet 3 (.objectMovePs ⟨12, 7, ⟨10, 0⟩, .Right, false⟩) ⟨1000, 1000⟩]

/-- The move of an unknown object adds an entry, with the id and the sector of a blank fixture. -/
theorem moveOfUnknown_added : ¬ idleAgency.CachedAsCreated moveOfUnknown := by
  intro h
  have hcached : (idleAgency.after moveOfUnknown).Cached 12 7 := by decide
  rcases (since_append_singleton [] _).1 ((h 12 7).1 hcached) with hcreates | hearlier
  · exact hcreates
  · exact not_since_nil hearlier.1

/-! ## Times of the entries -/

/-- The handler stamps what it writes with the time of the update: a promoted fixture is stored as it
has come, and a list is stamped with a reading of the clock of its own. -/
def AgencyWorker.StampsNow (s : AgencyWorker) : HandlerEvent → Prop
  | .packet _ (.promoteObjectRq originSectorId info) clock =>
      s.Promotes originSectorId info →
        info.fixture.lastTransformTime = clock.currentEpochTimestamp
  | .packet _ (.objectListPs _ objects) clock =>
      objects ≠ [] → clock.currentTimeEpoch = clock.currentEpochTimestamp
  | _ => True

namespace AgencyWorker

variable {s : AgencyWorker}

theorem stampsNow_iff (e : HandlerEvent) :
    s.StampsNow e ↔
      ∀ x o f, s.rewrites x o e = some (some f) → e.time = some f.lastTransformTime := by
  cases e with
  | elsewhere agency => simp [StampsNow, rewrites]
  | packet source packet clock =>
      simp only [rewrites, HandlerEvent.time, Option.some.injEq]
      cases packet with
      | spawnCharacterRs userId info error =>
          simp only [cacheWrite, Option.bind_some, forall_entry_put]
          exact iff_of_true trivial rfl
      | removeCharacterRs userId sectorId objectId error =>
          exact iff_of_true trivial fun x o f h => absurd h (forall_entry_erase _ _ x o f)
      | characterMoveRs packet error =>
          by_cases htakes : s.TakesMove packet error
          · simp only [cacheWrite, if_pos htakes, Option.bind_some, forall_entry_put]
            exact iff_of_true trivial rfl
          · simp [cacheWrite, htakes, StampsNow]
      | createObjectPs info =>
          simp only [cacheWrite, Option.bind_some, forall_entry_put]
          exact iff_of_true trivial rfl
      | removeObjectPs sectorId objectId =>
          exact iff_of_true trivial fun x o f h => absurd h (forall_entry_erase _ _ x o f)
      | objectMovePs packet =>
          simp only [cacheWrite, Option.bind_some, forall_entry_put]
          exact iff_of_true trivial rfl
      | promoteObjectRq originSectorId info =>
          by_cases hpromotes : s.Promotes originSectorId info
          · simp only [cacheWrite, if_pos hpromotes, Option.bind_some, forall_entry_put, StampsNow]
            exact ⟨fun h => (h hpromotes).symm, fun h _ => h.symm⟩
          · simp [cacheWrite, hpromotes, StampsNow]
      | objectListPs sectorId objects =>
          simp only [cacheWrite, Option.bind_some, forall_entry_replace, StampsNow]
          constructor
          · intro h o object hlast
            obtain ⟨listed, hlisted, rfl⟩ := List.mem_map.1 (mem_of_lastOf hlast).1
            exact (h (List.ne_nil_of_mem hlisted)).symm
          · intro h hne
            obtain ⟨listed, hlisted⟩ := List.exists_mem_of_ne_nil objects hne
            -- some object is stored under the id, whether it is this one or a later one
            cases hlast : lastOf (objects.map (stampObject clock.currentTimeEpoch))
                listed.objectId with
            | none =>
                have hmem : stampObject clock.currentTimeEpoch listed ∈
                    objects.map (stampObject clock.currentTimeEpoch) := List.mem_map_of_mem hlisted
                exact (lastOf_eq_none_iff.1 hlast _ hmem rfl).elim
            | some object =>
                have hstamp := h _ object hlast
                obtain ⟨stored, -, rfl⟩ := List.mem_map.1 (mem_of_lastOf hlast).1
                exact hstamp.symm

/-- Every entry carries the time of the event that has last written its position. -/
def StampedWhenWritten (start : AgencyWorker) (es : List HandlerEvent) : Prop :=
  ∀ x o f, ((start.after es).objectCache x).find o = some f →
    Since
      (fun before e => (start.after before).Writes x o e ∧ e.time = some f.lastTransformTime)
      (fun before e => (start.after before).Writes x o e) es

theorem stampedWhenWritten_append {start : AgencyWorker} {es : List HandlerEvent}
    (h : start.StampedWhenWritten es) (e : HandlerEvent) :
    start.StampedWhenWritten (es ++ [e]) ↔ (start.after es).StampsNow e := by
  simp only [StampedWhenWritten, after_append_singleton, since_append_singleton, stampsNow_iff]
  rw [forall_find_next h ?_]
  · refine forall_congr' fun x => forall_congr' fun o => forall_congr' fun f =>
      forall_congr' fun hwrite => ?_
    have hwrites : (start.after es).Writes x o e := ⟨f, hwrite⟩
    simp [hwrites]
  · intro x o f hnone
    have hwrites : ¬ (start.after es).Writes x o e := by
      rintro ⟨f, hwrite⟩
      simp [hnone] at hwrite
    simp [hwrites]

/-- The entries carry the times at which their positions were written, all along a sequence of
packets, exactly when every handler stamps what it writes. -/
theorem stamped_iff (start : AgencyWorker) (es : List HandlerEvent) :
    (∀ before, before <+: es → start.StampedWhenWritten before) ↔
      Each (fun before e => (start.after before).StampsNow e) es := by
  refine forall_prefix_iff_each (P := start.StampedWhenWritten) (fun x o f hfind => ?_)
    (fun es e h => stampedWhenWritten_append h e) es
  cases hfind

end AgencyWorker

/-- An agency that is linked to play server 3, the owner of all sectors. -/
def linkedAgency : AgencyWorker :=
  { idleAgency with
    sectorPostingManager :=
      { sectors := fun _ => { ownerId := 3 }
        sessions := fun k => if k = 3 then { session := some (.socket 3) } else {} } }

/-- An object is created and then promoted to the next sector; the play server was started a day ago. -/
def promotedByTick : List HandlerEvent :=
  [.packet 3 (.createObjectPs
      ⟨7, 12, { id := 7, position := ⟨0, 0⟩, size := ⟨100, 100⟩, sectorId := 12 }⟩)
     ⟨1700000000000, 1700000000000⟩,
   .packet 3 (.promoteObjectRq 12
      ⟨7, 13, { id := 7, position := ⟨0, 0⟩, size := ⟨100, 100⟩, sectorId := 13,
                lastTransformTime := 86400000 }⟩)
     ⟨1700000000100, 1700000000100⟩]

/-- The entry of the promoted object carries the tick of the play server. -/
theorem promotedByTick_unstamped : ¬ linkedAgency.StampedWhenWritten promotedByTick := by
  intro h
  have hfind : ((linkedAgency.after promotedByTick).objectCache 13).find 7 =
      some { id := 7, position := ⟨0, 0⟩, size := ⟨100, 100⟩, sectorId := 13,
             lastTransformTime := 86400000 } := by
    decide
  have hwrites : ∃ f, (linkedAgency.after (promotedByTick.take 1)).rewrites 13 7
      (promotedByTick.get ⟨1, by decide⟩) = some (some f) := ⟨_, rfl⟩
  rcases (since_append_singleton (promotedByTick.take 1) _).1 (h 13 7 _ hfind) with hset | hearlier
  · exact absurd hset.2 (by decide)
  · exact hearlier.2 hwrites

end Agency
end SeamlessServer
