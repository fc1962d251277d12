import SeamlessServer.Agency.Cache
import SeamlessServer.Agency.Told

/-!
# Agency.Mirror — what agencies cache while play servers run in lock step

Any number of agencies, each of which connects to the play servers at some point of a run and may
leave again.  The packets between play servers are handled in lock step, and every agency hears what
was posted in the order it was posted, at any time.  `PlayWorker::OnIntraServerAccepted` sends a new
agency a list of the objects of each sector, which the agency does not look at.

`cache_mirrors` says what an agency caches that has heard everything: nothing that is not there, and
every object that was spawned after it connected.
-/

namespace SeamlessServer
namespace Agency

open Game Protocol Utility

/-! ## Agencies and play servers -/

/-- What a play server sends to an agency. -/
inductive Message
  | told (notice : Notice)
  | objectList (sectorId : Nat) (objects : List ObjectInfo)

def Message.packet (unset : ObjectInfo) : Message → IntraPacket
  | .told notice => .ofNotice unset notice
  | .objectList sectorId objects => .objectListPs sectorId objects

def Message.notice? : Message → Option Notice
  | .told notice => some notice
  | .objectList _ _ => none

end Agency

namespace Game

open Agency Protocol

/-- `PlayWorker::OnIntraServerAccepted` for an agency; null entries are skipped. -/
def World.onIntraServerAccepted (w : World) : List Message :=
  w.sectors.keys.filterMap fun sectorId =>
    match w.sectors.find sectorId with
    | some (some sector) =>
        some (.objectList sectorId (sector.fixtures.keys.filterMap fun id =>
          (sector.fixtures.find id).map fun f => ⟨f.id, sectorId, f⟩))
    | _ => none

end Game

namespace Agency

open Game Protocol Utility

/-- An agency that is linked to all play servers. -/
structure Link where
  agency : AgencyWorker
  /-- What it has still to hear, with the servers it comes from. -/
  pending : List (Nat × Message)
  /-- The ids that had been assigned when it connected; no step reads them. -/
  known : List Nat

structure Service where
  cluster : Cluster
  links : Nat → Option Link

inductive ServiceEvent
  /-- The agency completes its handshakes with the play servers, in the given order. -/
  | connect (agencyId : Nat) (order : List Nat)
  | disconnect (agencyId : Nat)
  | play (e : LockEvent)
  | hear (agencyId : Nat) (now : Milliseconds) (unset : ObjectInfo)
  | accept (agencyId : Nat)
  | close (agencyId userId : Nat) (toOwner : Bool)

namespace Service

variable (D : Deployment) (nonzero : ∀ x, D.owner x ≠ some 0)

def new : Service where
  cluster := Cluster.new D
  links := fun _ => none

/-- An event of the cluster, and what the agencies are told of it. -/
def tell (s : Service) (e : Event) : Service where
  cluster := s.cluster.next D e
  links := fun agencyId => (s.links agencyId).map fun link =>
    { link with
      pending := link.pending ++
        (noticesOf agencyId s.cluster e).map fun n => (n.1, Message.told n.2) }

/-- The cluster with the agencies that listen to it. -/
def telling : Machine Service Event where
  init := fun s => s = new D
  step := fun s e s' => (Cluster.machine D).step s.cluster e (s.cluster.next D e) ∧ s' = s.tell D e

/-- A new agency, to which every play server has sent its objects. -/
def connect (s : Service) (agencyId : Nat) (order : List Nat) : Service :=
  { s with
    links := Function.update s.links agencyId (some
      { agency := AgencyWorker.new ⟨D, agencyId, nonzero⟩
        pending := order.flatMap fun k => (s.cluster.worlds k).onIntraServerAccepted.map (k, ·)
        known := s.cluster.issued }) }

/-- A handler of an agency, which does not survive a failed assertion. -/
def absorb (s : Service) (agencyId : Nat) (link : Link) (r : AgencyOutcome) : Service :=
  { s with
    links := Function.update s.links agencyId
      (if r.fault = none then some { link with agency := r.agency } else none) }

/-- The agency hears what was posted first. -/
def hear (s : Service) (agencyId : Nat) (now : Milliseconds) (unset : ObjectInfo) : Service :=
  match s.links agencyId with
  | none => s
  | some link =>
      match link.pending with
      | [] => s
      | (source, message) :: rest =>
          s.absorb agencyId { link with pending := rest }
            (link.agency.onIntraServerData source (message.packet unset) now)

/-- Play servers run in lock step; an agency connects between two steps, and hears what was posted
first. -/
def step (s : Service) : ServiceEvent → Service → Prop
  | .connect agencyId order, s' =>
      s.cluster.flight = [] ∧ s.links agencyId = none ∧ order.Nodup ∧
        (∀ k, D.sectorsOf k ≠ [] → k ∈ order) ∧ s' = s.connect D nonzero agencyId order
  | .disconnect agencyId, s' =>
      s' = { s with links := Function.update s.links agencyId none }
  | .play (.act e), s' =>
      s.cluster.flight = [] ∧ LockStep.admissible D s.cluster e ∧ (telling D).step s e s'
  | .play (.tick order clock), s' =>
      s.cluster.flight = [] ∧ LockStep.IsTick D order clock ∧
        (telling D).Run s (order.map fun k => .update k (clock k)) s'
  | .play (.handle now), s' => (telling D).step s (.deliver 0 now) s'
  | .hear agencyId now unset, s' =>
      (∃ link, s.links agencyId = some link ∧ link.pending ≠ []) ∧ s' = s.hear agencyId now unset
  | .accept agencyId, s' =>
      ∃ link, s.links agencyId = some link ∧ s' = s.absorb agencyId link link.agency.accept
  | .close agencyId userId toOwner, s' =>
      ∃ link, s.links agencyId = some link ∧
        s' = s.absorb agencyId link (link.agency.close userId toOwner)

def machine : Machine Service ServiceEvent where
  init := fun s => s = new D
  step := step D nonzero

/-- No spawn is given an id that was assigned before. -/
def assignsFreshId (s : Service) : ServiceEvent → Prop
  | .play e => LockStep.assignsFreshId s.cluster e
  | _ => True

end Service

/-! ## Hearing -/

namespace AgencyWorker

variable {s : AgencyWorker} {x o : Nat}

theorem cached_put (cache : Nat → UnorderedMap Nat Fixture) (sectorId objectId : Nat)
    (f : Fixture) :
    ((CacheWrite.put sectorId objectId f).apply cache x).find o ≠ none ↔
      (x = sectorId ∧ o = objectId) ∨ (cache x).find o ≠ none := by
  rw [CacheWrite.find_apply, CacheWrite.entry]
  by_cases h : x = sectorId ∧ o = objectId <;> simp [h]

theorem cached_erase (cache : Nat → UnorderedMap Nat Fixture) (sectorId objectId : Nat) :
    ((CacheWrite.erase sectorId objectId).apply cache x).find o ≠ none ↔
      ¬ (x = sectorId ∧ o = objectId) ∧ (cache x).find o ≠ none := by
  rw [CacheWrite.find_apply, CacheWrite.entry]
  by_cases h : x = sectorId ∧ o = objectId <;> simp [h]

/-- Hearing a notice leaves the entries behind that it tells of.  A notice of something that moves may
make an entry where there was none. -/
theorem cached_hear {notice : Notice} (hfilled : Filled notice) (source : Nat) (unset : ObjectInfo)
    (now : Milliseconds) (x o : Nat) :
    let s' := (s.onIntraServerData source (.ofNotice unset notice) now).agency
    (s'.Cached x o → (s.Cached x o ∧ noticeEdit o notice ≠ some (.erase x)) ∨
        noticeEdit o notice = some (.insert x) ∨ noticeEdit o notice = some (.visit x)) ∧
      ((s.Cached x o ∧ noticeEdit o notice ≠ some (.erase x)) ∨
        noticeEdit o notice = some (.insert x) → s'.Cached x o) := by
  intro s'
  have hcache : s'.objectCache =
      (s.cacheWrite (.ofNotice unset notice) ⟨now, now⟩).elim s.objectCache
        (CacheWrite.apply s.objectCache) := by
    rw [← handle_objectCache source]
    cases notice <;> rfl
  unfold Cached
  rw [hcache]
  cases notice with
  | spawnCharacterRs u info error =>
      cases info with
      | none =>
          exact absurd rfl (hfilled u error)
      | some info =>
          simp only [IntraPacket.ofNotice, Option.getD_some, cacheWrite, Option.elim_some,
            cached_put, noticeEdit]
          grind
  | removeCharacterRs u sectorId objectId error =>
      simp only [IntraPacket.ofNotice, cacheWrite, Option.elim_some, cached_erase, noticeEdit]
      grind
  | characterMoveRs packet =>
      -- the move of an object that is nobody's is not taken
      simp only [IntraPacket.ofNotice, cacheWrite, noticeEdit]
      split
      · simp only [Option.elim_some, cached_put]
        grind
      · simp only [Option.elim_none]
        grind
  | createObjectPs info =>
      simp only [IntraPacket.ofNotice, cacheWrite, Option.elim_some, cached_put, noticeEdit]
      grind
  | removeObjectPs sectorId objectId =>
      simp only [IntraPacket.ofNotice, cacheWrite, Option.elim_some, cached_erase, noticeEdit]
      grind
  | objectMovePs packet =>
      simp only [IntraPacket.ofNotice, cacheWrite, Option.elim_some, cached_put, noticeEdit]
      grind
  | promoteObjectRq origin info =>
      -- nor is a promotion taken without an entry where it comes from
      simp only [IntraPacket.ofNotice, cacheWrite, noticeEdit]
      split
      · simp only [Option.elim_some, cached_put]
        grind
      · simp only [Option.elim_none]
        grind

end AgencyWorker

/-! ## What an agency has heard and what it has not -/

/-- The sectors in which an agency caches the object; those that nobody runs are left out. -/
def cachedIn (D : Deployment) (s : AgencyWorker) (o : Nat) : Set Nat :=
  {x | (D.owner x).isSome = true ∧ s.Cached x o}

theorem cachedIn_congr {D : Deployment} {s s' : AgencyWorker} (h : s'.objectCache = s.objectCache)
    (o : Nat) : cachedIn D s' o = cachedIn D s o := by
  unfold cachedIn AgencyWorker.Cached
  rw [h]

/-- What is heard about an object is applied to the sectors it is cached in. -/
theorem cachedIn_hear (D : Deployment) {s : AgencyWorker} {notice : Notice} (hfilled : Filled notice)
    (source : Nat) (unset : ObjectInfo) (now : Milliseconds) (o : Nat) :
    Edit.Applied ((noticeEdit o notice).filter fun e => (D.owner e.target).isSome)
      (cachedIn D s o)
      (cachedIn D (s.onIntraServerData source (.ofNotice unset notice) now).agency o) := by
  have hhear := s.cached_hear hfilled source unset now
  have hfilter : ∀ {x} (e : Edit Nat), e.target = x → (D.owner x).isSome = true →
      ((noticeEdit o notice).filter (fun e => (D.owner e.target).isSome) = some e ↔
        noticeEdit o notice = some e) := by
    rintro _ e rfl howner
    rw [Option.filter_eq_some_iff]
    exact and_iff_left howner
  constructor
  · rintro x ⟨howner, hx⟩
    rw [Ne, hfilter (.erase x) rfl howner, hfilter (.insert x) rfl howner,
      hfilter (.visit x) rfl howner]
    rcases (hhear x o).1 hx with ⟨hold, hkept⟩ | hmade
    · exact .inl ⟨⟨howner, hold⟩, hkept⟩
    · exact .inr hmade
  · rintro x (⟨⟨howner, hold⟩, hkept⟩ | hinsert)
    · rw [Ne, hfilter (.erase x) rfl howner] at hkept
      exact ⟨howner, (hhear x o).2 (.inl ⟨hold, hkept⟩)⟩
    · obtain ⟨hinsert, howner⟩ := Option.filter_eq_some_iff.1 hinsert
      exact ⟨howner, (hhear x o).2 (.inr hinsert)⟩

def notices (pending : List (Nat × Message)) : List Notice :=
  pending.filterMap fun message => message.2.notice?

theorem notices_append (pending pending' : List (Nat × Message)) :
    notices (pending ++ pending') = notices pending ++ notices pending' := List.filterMap_append

theorem notices_told (posted : List (Nat × Notice)) :
    notices (posted.map fun n => (n.1, Message.told n.2)) = posted.map Prod.snd := by
  rw [notices, List.filterMap_map, ← List.filterMap_eq_map]
  rfl

/-- What an agency has still to hear leads from a set of sectors to those that the object is heading
for, and it caches the object in no others; in all of them, if it knows the object from its spawn
on. -/
def Follows (D : Deployment) (c : Cluster) (link : Link) (o : Nat) : Prop :=
  ∃ S T, Heading D c o T ∧ Edit.Runs S (told D o (notices link.pending)) T ∧
    cachedIn D link.agency o ⊆ S ∧ (o ∉ link.known → S ⊆ cachedIn D link.agency o)

namespace Follows

variable {D : Deployment} {c c' : Cluster} {link : Link} {o : Nat}

theorem congr (h : Follows D c link o) {agency : AgencyWorker}
    (hcache : agency.objectCache = link.agency.objectCache) :
    Follows D c { link with agency := agency } o := by
  unfold Follows
  rw [cachedIn_congr hcache]
  exact h

/-- The cluster makes a step. -/
theorem tell (h : Follows D c link o) {lossless : Prop} (hordered : Cluster.Ordered D lossless c)
    {e : Event} (hemission : c.inEmission D e) (hquiet : ¬ Network.Internal e → c.flight = [])
    (hstep : (Cluster.machine D).step c e c') (hordered' : Cluster.Ordered D lossless c') (a : Nat) :
    Follows D c' { link with
      pending := link.pending ++ (noticesOf a c e).map fun n => (n.1, Message.told n.2) } o := by
  obtain ⟨S, T, hT, hruns, hcached⟩ := h
  obtain ⟨T', hT', htold⟩ := told_next (a := a) hordered hemission hquiet hstep hordered' hT
  refine ⟨S, T', hT', ?_, hcached⟩
  change Edit.Runs S (told D o (notices (link.pending ++ _))) T'
  rw [notices_append, notices_told, told_append]
  exact hruns.append htold

/-- The agency hears the message that was posted first. -/
theorem hear (h : Follows D c link o) {source : Nat} {message : Message}
    {rest : List (Nat × Message)} (hpending : link.pending = (source, message) :: rest)
    (hfilled : ∀ n ∈ notices link.pending, Filled n) (unset : ObjectInfo) (now : Milliseconds) :
    Follows D c
      { link with
        pending := rest
        agency := (link.agency.onIntraServerData source (message.packet unset) now).agency } o := by
  obtain ⟨S, T, hT, hruns, hsub, hsup⟩ := h
  rw [hpending] at hruns hfilled
  cases message with
  | objectList sectorId objects =>
      -- no case of the dispatch is for it
      exact ⟨S, T, hT, hruns, hsub, hsup⟩
  | told notice =>
      have hhear := cachedIn_hear (s := link.agency) D (hfilled notice List.mem_cons_self) source
        unset now o
      change Edit.Runs S (told D o (notice :: notices rest)) T at hruns
      rw [told_cons] at hruns
      generalize (noticeEdit o notice).filter _ = edit at hruns hhear
      cases edit with
      | none =>
          refine ⟨S, T, hT, hruns, ?_, fun hknown => ?_⟩
          · exact hhear.eq_of_none ▸ hsub
          · exact hhear.eq_of_none ▸ hsup hknown
      | some e =>
          obtain ⟨happlicable, hruns⟩ := Edit.runs_cons.1 hruns
          exact ⟨e.after S, T, hT, hruns, hhear.subset_after hsub happlicable,
            fun hknown => hhear.after_subset (hsup hknown)⟩

end Follows

/-! ## Runs -/

namespace Service

open Cluster (EmissionHolds)

variable {D : Deployment} {nonzero : ∀ x, D.owner x ≠ some 0} {s s' : Service}

/-- The invariant of the runs that assign no id twice. -/
structure Holds (D : Deployment) (s : Service) : Prop where
  emission : EmissionHolds D chunkPlacement s.cluster
  filled : ∀ a link, s.links a = some link → ∀ n ∈ notices link.pending, Filled n
  follows : ∀ a link, s.links a = some link → ∀ o, Follows D s.cluster link o

theorem holds_new (D : Deployment) : Holds D (new D) where
  emission := EmissionHolds.new
  filled := fun _ _ hlink => by cases hlink
  follows := fun _ _ hlink => by cases hlink

/-- The cluster makes a step, of which the agencies are told. -/
theorem Holds.tell (hD : D.Complete) (h : Holds D s) {e : Event}
    (hemission : s.cluster.emission D chunkPlacement e)
    (hquiet : ¬ Network.Internal e → s.cluster.flight = []) (hstep : (telling D).step s e s') :
    Holds D s' := by
  obtain ⟨hstep, rfl⟩ := hstep
  have hordered := h.emission.ordered
  have hemission' := h.emission.step hD chunkPlacement_lossless ⟨hemission, hstep⟩
  have hin := Cluster.inEmission_of_emission hemission
  refine ⟨hemission', fun a link' hlink' => ?_, fun a link' hlink' => ?_⟩
  · obtain ⟨link, hlink, rfl⟩ := Option.map_eq_some_iff.1 hlink'
    intro n hn
    rw [notices_append, notices_told] at hn
    rcases List.mem_append.1 hn with hn | hn
    · exact h.filled a link hlink n hn
    · obtain ⟨posted, hposted, rfl⟩ := List.mem_map.1 hn
      exact filled_next hordered hin hstep hemission'.ordered posted hposted
  · obtain ⟨link, hlink, rfl⟩ := Option.map_eq_some_iff.1 hlink'
    intro o
    exact (h.follows a link hlink o).tell hordered hin hquiet hstep hemission'.ordered a

/-- One link is replaced. -/
theorem Holds.update (h : Holds D s) {a : Nat} {link : Option Link}
    (hfilled : ∀ l, link = some l → ∀ n ∈ notices l.pending, Filled n)
    (hfollows : ∀ l, link = some l → ∀ o, Follows D s.cluster l o) :
    Holds D { s with links := Function.update s.links a link } where
  emission := h.emission
  filled := by
    intro b l hl
    by_cases hb : b = a
    · subst hb
      exact hfilled l (by simpa using hl)
    · exact h.filled b l (by simpa [hb] using hl)
  follows := by
    intro b l hl
    by_cases hb : b = a
    · subst hb
      exact hfollows l (by simpa using hl)
    · exact h.follows b l (by simpa [hb] using hl)

/-- A handler of an agency. -/
theorem Holds.absorb (h : Holds D s) {a : Nat} {link : Link} {r : AgencyOutcome}
    (hfilled : ∀ n ∈ notices link.pending, Filled n)
    (hfollows : ∀ o, Follows D s.cluster { link with agency := r.agency } o) :
    Holds D (s.absorb a link r) := by
  refine h.update ?_ ?_
  · intro l hl
    split_ifs at hl
    cases hl
    exact hfilled
  · intro l hl
    split_ifs at hl
    cases hl
    exact hfollows

/-- The lists of objects tell the new agency nothing. -/
theorem notices_objectLists (worlds : Nat → World) (order : List Nat) :
    notices (order.flatMap fun k => (worlds k).onIntraServerAccepted.map (k, ·)) = [] := by
  rw [notices, List.filterMap_eq_nil_iff]
  intro m hm
  obtain ⟨k, _, hm⟩ := List.mem_flatMap.1 hm
  obtain ⟨message, hmessage, rfl⟩ := List.mem_map.1 hm
  obtain ⟨x, _, hlist⟩ := List.mem_filterMap.1 hmessage
  split at hlist
  · cases hlist
    rfl
  · cases hlist

/-- An agency connects between two steps: it misses what is there already. -/
theorem Holds.connect (h : Holds D s) (hflight : s.cluster.flight = []) (a : Nat) (order : List Nat) :
    Holds D (s.connect D nonzero a order) := by
  have hnotices : ∀ l, (s.connect D nonzero a order).links a = some l → notices l.pending = [] := by
    intro l hl
    simp only [Service.connect, Function.update_self, Option.some.injEq] at hl
    rw [← hl]
    exact notices_objectLists s.cluster.worlds order
  refine h.update ?_ ?_
  · intro l hl n hn
    rw [hnotices l (by simpa [Service.connect] using hl)] at hn
    cases hn
  · intro l hl o
    have hnil := hnotices l (by simpa [Service.connect] using hl)
    have hlink := Option.some.inj hl
    subst hlink
    obtain ⟨T, hT⟩ := exists_heading h.emission.ordered o
    have hcached : cachedIn D (AgencyWorker.new ⟨D, a, nonzero⟩) o = ∅ := by
      ext x
      simp [cachedIn, AgencyWorker.Cached, AgencyWorker.new, UnorderedMap.find_empty]
    refine ⟨T, T, hT, ?_, ?_, ?_⟩
    · rw [hnil]
      exact Edit.Runs.nil T
    · rw [hcached]
      exact Set.empty_subset T
    · -- an id that is not assigned has no copies
      intro hknown
      have hissued : (s.cluster.view D o).issued = false := by
        simpa [Cluster.view] using hknown
      have hblank := ((h.emission.holding.views o).blank hissued).1
      rw [← heading_of_quiet hT hflight]
      rintro x ⟨_, f, hf⟩
      rw [hblank.copies] at hf
      cases hf

theorem Holds.step (hD : D.Complete) (h : Holds D s) {e : ServiceEvent}
    (hstep : ((machine D nonzero).restrict assignsFreshId).step s e s') : Holds D s' := by
  obtain ⟨hfresh, hstep⟩ := hstep
  cases e with
  | connect a order =>
      obtain ⟨hflight, _, _, _, rfl⟩ := hstep
      exact h.connect hflight a order
  | disconnect a =>
      obtain rfl : s' = _ := hstep
      exact h.update (fun _ hl => by cases hl) (fun _ hl => by cases hl)
  | hear a now unset =>
      obtain ⟨⟨link, hlink, hne⟩, rfl⟩ := hstep
      obtain ⟨⟨source, message⟩, rest, hpending⟩ := List.exists_cons_of_ne_nil hne
      have hfilled := h.filled a link hlink
      have heq : s.hear a now unset = s.absorb a { link with pending := rest }
          (link.agency.onIntraServerData source (message.packet unset) now) := by
        simp only [Service.hear, hlink, hpending]
      rw [heq]
      refine h.absorb ?_ fun o => (h.follows a link hlink o).hear hpending hfilled unset now
      intro n hn
      refine hfilled n ?_
      rw [hpending, ← List.singleton_append, notices_append]
      exact List.mem_append_right _ hn
  | accept a =>
      obtain ⟨link, hlink, rfl⟩ := hstep
      have hcache := congrArg AgencyWorker.objectCache (AgencyWorker.next_elsewhere_accept link.agency)
      exact h.absorb (h.filled a link hlink) fun o => (h.follows a link hlink o).congr hcache.symm
  | close a userId toOwner =>
      obtain ⟨link, hlink, rfl⟩ := hstep
      have hcache := congrArg AgencyWorker.objectCache
        (AgencyWorker.next_elsewhere_close link.agency userId toOwner)
      exact h.absorb (h.filled a link hlink) fun o => (h.follows a link hlink o).congr hcache.symm
  | play e =>
      cases e with
      | act e =>
          obtain ⟨hflight, hadmissible, hstep⟩ := hstep
          exact h.tell hD (LockStep.emission_of_admissible hadmissible hfresh) (fun _ => hflight) hstep
      | handle now =>
          exact h.tell hD (e := .deliver 0 now) rfl (fun hnot => absurd trivial hnot) hstep
      | tick order clock =>
          -- each server updates in its turn
          obtain ⟨_, _, hrun⟩ := hstep
          refine hrun.invariant (P := Holds D) ?_ h
          intro t e he t' ht hstep
          obtain ⟨k, _, rfl⟩ := List.mem_map.1 he
          exact ht.tell hD (e := .update k (clock k)) trivial (fun hnot => absurd trivial hnot) hstep

theorem holds_of_reachable (hD : D.Complete)
    (h : ((machine D nonzero).restrict assignsFreshId).Reachable s) : Holds D s := by
  refine Machine.Reachable.invariant (M := (machine D nonzero).restrict assignsFreshId)
    (P := Holds D) ?_ ?_ h
  · rintro s rfl
    exact holds_new D
  · intro s e s' h hstep
    exact h.step hD hstep

/-- What an agency caches that has heard everything, when no packet is under way. -/
theorem Holds.mirrors (h : Holds D s) (hflight : s.cluster.flight = []) {a : Nat} {link : Link}
    (hlink : s.links a = some link) (hpending : link.pending = []) {k x : Nat}
    (hx : x ∈ D.sectorsOf k) (o : Nat) :
    (link.agency.Cached x o → ∃ f, s.cluster.fixtureAt k x o = some f) ∧
      (o ∉ link.known → ∀ f, s.cluster.fixtureAt k x o = some f → link.agency.Cached x o) := by
  obtain ⟨S, T, hT, hruns, hsub, hsup⟩ := h.follows a link hlink o
  rw [hpending] at hruns
  obtain rfl : S = T := hruns
  have hset := heading_of_quiet hT hflight
  have howner : (D.owner x).isSome = true := by
    rw [(D.mem_sectorsOf.1 hx).2]
    rfl
  constructor
  · intro hcached
    obtain ⟨_, f, hf⟩ := hset ▸ hsub ⟨howner, hcached⟩
    exact ⟨f, (Cluster.view_copies hx o).symm.trans hf⟩
  · intro hknown f hf
    exact (hsup hknown (hset ▸ mem_others_of_fixtureAt hx hf)).2

/-- In every lock-step run that assigns no id twice, with agencies that connect and leave at any time:
when no packet is under way, an agency that has heard everything caches an object only in sectors that
hold a fixture of it, and an object that was spawned after the agency connected in all of these. -/
theorem cache_mirrors (hD : D.Complete)
    (h : ((machine D nonzero).restrict assignsFreshId).Reachable s) (hflight : s.cluster.flight = [])
    {a : Nat} {link : Link} (hlink : s.links a = some link) (hpending : link.pending = [])
    {k x : Nat} (hx : x ∈ D.sectorsOf k) (o : Nat) :
    (link.agency.Cached x o → ∃ f, s.cluster.fixtureAt k x o = some f) ∧
      (o ∉ link.known → ∀ f, s.cluster.fixtureAt k x o = some f → link.agency.Cached x o) :=
  (holds_of_reachable hD h).mirrors hflight hlink hpending hx o

/-! ## Samples -/

/-- Hearing leads to a reachable state whether or not there is anything to hear. -/
theorem reachable_hear (h : ((machine D nonzero).restrict assignsFreshId).Reachable s) (a : Nat)
    (now : Milliseconds) (unset : ObjectInfo) :
    ((machine D nonzero).restrict assignsFreshId).Reachable (s.hear a now unset) := by
  by_cases hsome : ∃ link, s.links a = some link ∧ link.pending ≠ []
  · exact .step (e := .hear a now unset) h ⟨trivial, hsome, rfl⟩
  · have heq : s.hear a now unset = s := by
      unfold Service.hear
      split
      · rfl
      next link hlink =>
        split
        · rfl
        next source message rest hpending =>
          exact absurd ⟨link, hlink, by simp [hpending]⟩ hsome
    rw [heq]
    exact h

theorem reachable_hears (agencies : List Nat) (now : Milliseconds) (unset : ObjectInfo) :
    ∀ {s : Service}, ((machine D nonzero).restrict assignsFreshId).Reachable s →
      ((machine D nonzero).restrict assignsFreshId).Reachable
        (agencies.foldl (fun s a => s.hear a now unset) s) := by
  induction agencies with
  | nil =>
      intro s h
      exact h
  | cons a agencies ih =>
      intro s h
      exact ih (reachable_hear h a now unset)

theorem threeServers_nonzero : ∀ x, Cluster.threeServers.owner x ≠ some 0 := by
  intro x
  unfold Cluster.threeServers
  simp only
  split_ifs <;> simp

/-- An agency connects, an object is spawned for it near the right border of sector 12, and another
agency connects. -/
def watched : Service :=
  ((((new Cluster.threeServers).connect Cluster.threeServers threeServers_nonzero 9
    [2, 3, 4]).tell Cluster.threeServers
      (.spawn 2 9 ⟨1, 12, ⟨4900, 2500⟩, ⟨100, 100⟩⟩ 0)).connect Cluster.threeServers
        threeServers_nonzero 10 [2, 3, 4])

/-- The object has come into the gray zone, and both agencies have heard everything. -/
def mirrored : Service :=
  (List.replicate 27 9 ++ List.replicate 26 10).foldl (fun s a => s.hear a 1000 ⟨0, 0, blankFixture⟩)
    (([.update 2 ⟨1000, 0, 1000, fun _ _ => 1000⟩, .update 3 ⟨1000, 0, 1000, fun _ _ => 1000⟩,
      .update 4 ⟨1000, 0, 1000, fun _ _ => 1000⟩, .deliver 0 1000] : List Event).foldl
        (tell Cluster.threeServers) watched)

theorem reachable_mirrored :
    ((machine Cluster.threeServers threeServers_nonzero).restrict assignsFreshId).Reachable
      mirrored := by
  have hcovers := (Cluster.isTick_threeServers
    (fun _ => ⟨1000, 0, 1000, fun _ _ => 1000⟩) (fun _ => rfl)).covers
  refine reachable_hears _ _ _ ?_
  refine .step (e := .play (.handle 1000)) (.step (e := .play (.tick [2, 3, 4]
    fun _ => ⟨1000, 0, 1000, fun _ _ => 1000⟩)) (.step (e := .connect 10 [2, 3, 4])
      (.step (e := .play (.act (.spawn 2 9 ⟨1, 12, ⟨4900, 2500⟩, ⟨100, 100⟩⟩ 0)))
        (.step (e := .connect 9 [2, 3, 4]) (.init rfl)
          ⟨trivial, rfl, rfl, by decide, hcovers, rfl⟩)
        ⟨?_, rfl, ⟨by decide +kernel, Cluster.inside_chunk (by norm_num) (by norm_num), rfl⟩,
          ⟨⟨2, rfl, rfl⟩, rfl⟩, rfl⟩)
      ⟨trivial, by decide +kernel, rfl, by decide, hcovers, rfl⟩)
    ⟨trivial, by decide +kernel, Cluster.isTick_threeServers _ (fun _ => rfl),
      .cons ⟨⟨⟨2, rfl, ?_⟩, rfl⟩, rfl⟩ (.cons ⟨⟨⟨3, rfl, ?_⟩, rfl⟩, rfl⟩
        (.cons ⟨⟨⟨4, rfl, ?_⟩, rfl⟩, rfl⟩ (.nil _)))⟩)
    ⟨trivial, ⟨⟨3, ?_, ?_⟩, rfl⟩, rfl⟩
  · intro id _
    exact List.not_mem_nil
  all_goals decide +kernel

/-- The agency that was there first has both copies in its cache; what was there when the other one
connected stays unknown to it. -/
theorem cache_mirrors_mirrored : mirrored.cluster.flight = [] ∧
    (∃ link, mirrored.links 9 = some link ∧ link.pending = [] ∧
      link.agency.Cached 12 Cluster.firstId ∧ link.agency.Cached 13 Cluster.firstId) ∧
    ∃ link, mirrored.links 10 = some link ∧ link.pending = [] ∧
      ¬ link.agency.Cached 12 Cluster.firstId ∧ link.agency.Cached 13 Cluster.firstId := by
  have hflight : mirrored.cluster.flight = [] := by decide +kernel
  have hheard : (mirrored.links 9).map (fun link => (link.pending.length, link.known)) =
      some (0, []) := by decide +kernel
  obtain ⟨link, hlink, heq⟩ := Option.map_eq_some_iff.1 hheard
  have hpending : link.pending = [] := List.length_eq_zero_iff.1 (congrArg Prod.fst heq)
  have hknown : Cluster.firstId ∉ link.known := by
    have hnil : link.known = [] := congrArg Prod.snd heq
    rw [hnil]
    exact List.not_mem_nil
  have hmirrors := fun k x (hx : x ∈ Cluster.threeServers.sectorsOf k) =>
    (cache_mirrors Cluster.threeServers_complete reachable_mirrored hflight hlink hpending hx
      Cluster.firstId).2 hknown
  have howner : (mirrored.cluster.fixtureAt 2 12 Cluster.firstId).isSome = true := by decide +kernel
  have hcopy : (mirrored.cluster.fixtureAt 3 13 Cluster.firstId).isSome = true := by decide +kernel
  obtain ⟨f, hf⟩ := Option.isSome_iff_exists.1 howner
  obtain ⟨g, hg⟩ := Option.isSome_iff_exists.1 hcopy
  have hlate : (mirrored.links 10).map (fun link => (link.pending.length,
      decide (link.agency.Cached 12 Cluster.firstId),
      decide (link.agency.Cached 13 Cluster.firstId))) = some (0, false, true) := by decide +kernel
  obtain ⟨late, hlate, hcached⟩ := Option.map_eq_some_iff.1 hlate
  simp only [Prod.mk.injEq, decide_eq_false_iff_not, decide_eq_true_iff] at hcached
  exact ⟨hflight, ⟨link, hlink, hpending, hmirrors 2 12 (by decide) f hf,
    hmirrors 3 13 (by decide) g hg⟩, late, hlate, List.length_eq_zero_iff.1 hcached.1, hcached.2⟩

end Service

end Agency
end SeamlessServer
