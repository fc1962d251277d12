import SeamlessServer.Agency.Cache
import SeamlessServer.Agency.Clients
import SeamlessServer.Data.Machine
import SeamlessServer.Game.PostingHistory

/-!
# Agency.Listening — the sector a client listens to

The sector of a client is kept with its session, and the posting manager keeps the listeners of a
sector and the sectors that were ever related to a client.  A promotion takes the client from the
listeners of all of these, whatever sector it names, and adds it to those of the new sector.

The handlers are called in any order, and between two calls sectors may be allocated and play servers
linked and unset.  A build without assertions goes on where one with assertions ends
(`onPlayPromoteObjectReqUnchecked`); what is said here is said of both.
-/

namespace SeamlessServer
namespace Agency

open Game Protocol Utility SectorPostingManager

/-! ## Handlers of packets -/

namespace AgencyWorker

variable {s : AgencyWorker}

/-- `OnPlayPromoteObjectReq` in a build without assertions. -/
def onPlayPromoteObjectReqUnchecked (s : AgencyWorker) (originSectorId : Nat) (info : ObjectInfo)
    (now : Milliseconds) : AgencyOutcome :=
  let m := s.sectorPostingManager
  if (m.getSectorOwnerSession info.sectorId).isNone ∨
      (m.getSectorOwnerSession originSectorId).isNone then
    { agency := s }
  else
    match (s.objectCache originSectorId).find info.objectId with
    | none => { agency := s }
    | some _ =>
        let s := s.cache info.sectorId info.objectId info.fixture
        match s.objectSessions.find info.objectId with
        | none => { agency := s }
        | some userId =>
            match s.activeSessions.find userId with
            | none => { agency := s, fault := some .sessionGone }
            | some session =>
                let m := (m.removeSectorListener originSectorId userId).addSectorListener
                  info.sectorId userId
                { agency := { s with
                    activeSessions := s.activeSessions.insert userId
                      { session with sectorId := info.sectorId }
                    sectorPostingManager := m }
                  posts := [.toClient userId (s.makeObjectListPacket info.sectorId now)] }

/-- The handler of a packet, in a build with assertions or without. -/
def handleIn (s : AgencyWorker) (assertions : Bool) (source : Nat) (packet : IntraPacket)
    (clock : Clock) : AgencyOutcome :=
  match packet with
  | .promoteObjectRq originSectorId info =>
      if assertions then
        s.onPlayPromoteObjectReq originSectorId info clock.currentEpochTimestamp
      else
        s.onPlayPromoteObjectReqUnchecked originSectorId info clock.currentEpochTimestamp
  | packet => s.handle source packet clock

/-- The client of a promoted object is moved to another sector. -/
structure MovesClient (s s' : AgencyWorker) (u sectorId : Nat) : Prop where
  client : ∃ o, s.objectSessions.find o = some u
  values : ∃ session, s.activeSessions.find u = some session ∧
    s'.activeSessions = s.activeSessions.insert u { session with sectorId := sectorId }
  objects : s'.objectSessions = s.objectSessions
  manager : ∃ origin, s'.sectorPostingManager =
    (s.sectorPostingManager.removeSectorListener origin u).addSectorListener sectorId u

/-- A client is entered. -/
structure EntersClient (s s' : AgencyWorker) (u o sectorId : Nat) : Prop where
  active : s.activeSessions.find u ≠ none
  values : s'.activeSessions = s.activeSessions.insert u ⟨u, o, sectorId⟩
  objects : s'.objectSessions = s.objectSessions.insert o u
  manager : s'.sectorPostingManager = s.sectorPostingManager.addSectorListener sectorId u

theorem unchecked_spec (origin : Nat) (info : ObjectInfo) (now : Milliseconds) :
    SameClients s (s.onPlayPromoteObjectReqUnchecked origin info now).agency ∨
      ∃ u, MovesClient s (s.onPlayPromoteObjectReqUnchecked origin info now).agency u
        info.sectorId := by
  unfold onPlayPromoteObjectReqUnchecked
  dsimp only
  split
  · exact .inl ⟨rfl, rfl, rfl⟩
  · split
    · exact .inl ⟨rfl, rfl, rfl⟩
    · split
      · exact .inl ⟨rfl, rfl, rfl⟩
      next u hclient =>
        split
        · exact .inl ⟨rfl, rfl, rfl⟩
        next session hsession =>
          exact .inr ⟨u, ⟨_, hclient⟩, ⟨session, hsession, rfl⟩, rfl, ⟨origin, rfl⟩⟩

/-- Up to a failed assertion the two builds do the same. -/
theorem checked_spec (origin : Nat) (info : ObjectInfo) (now : Milliseconds) :
    s.onPlayPromoteObjectReq origin info now = s.onPlayPromoteObjectReqUnchecked origin info now ∨
      SameClients s (s.onPlayPromoteObjectReq origin info now).agency := by
  unfold onPlayPromoteObjectReq onPlayPromoteObjectReqUnchecked
  dsimp only
  split_ifs with hlinked
  · exact .inl rfl
  · cases (s.objectCache origin).find info.objectId with
    | none => exact .inl rfl
    | some fixture =>
        dsimp only
        cases (s.cache info.sectorId info.objectId info.fixture).objectSessions.find info.objectId with
        | none => exact .inl rfl
        | some u =>
            dsimp only
            cases (s.cache info.sectorId info.objectId info.fixture).activeSessions.find u with
            | none => exact .inl rfl
            | some session =>
                dsimp only
                -- only the assertion about the sector is missing
                split_ifs
                · exact .inr ⟨rfl, rfl, rfl⟩
                · exact .inl rfl

/-- The response to a spawn enters its client, if the client is still there. -/
theorem spawn_cases (assertions : Bool) (source u : Nat) (info : ObjectInfo) (error : ErrorCode)
    (clock : Clock) :
    (s.activeSessions.find u = none ∧ SameClients s
        (s.handleIn assertions source (.spawnCharacterRs u info error) clock).agency) ∨
      EntersClient s (s.handleIn assertions source (.spawnCharacterRs u info error) clock).agency u
        info.objectId info.sectorId := by
  rcases (onPlaySpawnCharacterRes_spec (s := s) source u info clock.currentEpochTimestamp).2 with
    hoffline | hentered
  · exact .inl ⟨hoffline.1, hoffline.2.1⟩
  · exact .inr ⟨hentered.1, hentered.2.1, hentered.2.2.1, hentered.2.2.2.1⟩

/-- Another packet does nothing to the clients, or moves one to another sector. -/
theorem handleIn_cases (assertions : Bool) (source : Nat) {packet : IntraPacket} (clock : Clock)
    (hspawn : ∀ u info error, packet ≠ .spawnCharacterRs u info error) :
    SameClients s (s.handleIn assertions source packet clock).agency ∨
      ∃ u sectorId, MovesClient s (s.handleIn assertions source packet clock).agency u sectorId := by
  cases packet with
  | spawnCharacterRs u info error => exact absurd rfl (hspawn u info error)
  | promoteObjectRq origin info =>
      have hunchecked := unchecked_spec (s := s) origin info clock.currentEpochTimestamp
      cases assertions with
      | false =>
          exact hunchecked.imp id fun ⟨u, hmoves⟩ => ⟨u, info.sectorId, hmoves⟩
      | true =>
          rcases checked_spec (s := s) origin info clock.currentEpochTimestamp with hsame | hended
          · have hagency : (s.handleIn true source (.promoteObjectRq origin info) clock).agency =
                (s.onPlayPromoteObjectReqUnchecked origin info clock.currentEpochTimestamp).agency :=
              congrArg AgencyOutcome.agency hsame
            rw [hagency]
            exact hunchecked.imp id fun ⟨u, hmoves⟩ => ⟨u, info.sectorId, hmoves⟩
          · exact .inl hended
  | characterMoveRs packet error =>
      left
      simp only [handleIn, handle, onIntraServerData, onPlayMoveCharacterRes]
      split
      · exact ⟨rfl, rfl, rfl⟩
      · split
        · exact ⟨rfl, rfl, rfl⟩
        · split <;> exact ⟨rfl, rfl, rfl⟩
  | removeCharacterRs u x o error => exact .inl ⟨rfl, rfl, rfl⟩
  | createObjectPs info => exact .inl ⟨rfl, rfl, rfl⟩
  | removeObjectPs x o => exact .inl ⟨rfl, rfl, rfl⟩
  | objectMovePs packet => exact .inl ⟨rfl, rfl, rfl⟩
  | objectListPs x objects => exact .inl ⟨rfl, rfl, rfl⟩

end AgencyWorker

/-! ## Clients and what they listen to -/

/-- What the posting manager holds of clients with the given ids is no less, and nobody else begins or
ceases to listen. -/
structure LeavesClients (accepted : List Nat) (m m' : SectorPostingManager) : Prop where
  listeners : ∀ x k, k ∈ m'.listeners x ↔ k ∈ m.listeners x
  related : ∀ u ∈ accepted, ∀ x, x ∈ m.related u → x ∈ m'.related u

/-- An allocation leaves the clients alone, unless one of them owns the sector. -/
theorem leavesClients_allocateSector {accepted : List Nat} {m : SectorPostingManager} {x : Nat}
    (h : m.owner x ∉ accepted) (k : Nat) : LeavesClients accepted m (m.allocateSector x k) := by
  refine ⟨fun y j => by rw [listeners_allocateSector], fun u hu y hy => ?_⟩
  rw [mem_related_allocateSector]
  exact .inl ⟨hy, fun hmoved => h (hmoved.2.1 ▸ hu)⟩

theorem leavesClients_linkSession (accepted : List Nat) (m : SectorPostingManager) (k : Nat)
    (session : Option SessionRef) : LeavesClients accepted m (m.linkSession k session) := by
  refine ⟨fun y j => by rw [listeners_linkSession], fun u hu y hy => ?_⟩
  rwa [related_linkSession]

/-- So does what is done when the session of a play server is closed. -/
theorem leavesClients_unsetAll {accepted : List Nat} {m : SectorPostingManager} {k : Nat}
    (h : k ∉ accepted) (hsilent : ∀ x, k ∉ m.listeners x) :
    LeavesClients accepted m (m.unsetAll k) := by
  refine ⟨fun y j => ?_, fun u hu y hy => ?_⟩
  · rw [mem_listeners_unsetAll]
    exact and_iff_left_of_imp fun hj hk => hsilent y (hk.2 ▸ hj)
  · have hne : u ≠ k := fun huk => h (huk ▸ hu)
    rwa [related_unsetAll, if_neg hne]

/-- Entered clients listen to their own sectors, and all others to none. -/
structure Listening (s : AgencyWorker) (accepted entered : List Nat) : Prop where
  related : ∀ u x, u ∈ s.sectorPostingManager.listeners x →
    u ∈ accepted ∧ x ∈ s.sectorPostingManager.related u
  own : ∀ u ∈ entered, ∀ session, s.activeSessions.find u = some session →
    ∀ x, u ∈ s.sectorPostingManager.listeners x ↔ x = session.sectorId
  silent : ∀ u, u ∉ entered ∨ s.activeSessions.find u = none →
    ∀ x, u ∉ s.sectorPostingManager.listeners x
  active : ∀ u, s.activeSessions.find u ≠ none → u ∈ accepted
  known : ∀ u ∈ entered, u ∈ accepted
  clients : ∀ o u, s.objectSessions.find o = some u → u ∈ entered

namespace Listening

variable {s s' : AgencyWorker} {accepted entered : List Nat}

theorem of_sameClients (h : Listening s accepted entered) (hsame : SameClients s s') :
    Listening s' accepted entered := by
  refine ⟨?_, ?_, ?_, ?_, h.known, ?_⟩
  · rw [hsame.manager]
    exact h.related
  · rw [hsame.manager, hsame.sessions]
    exact h.own
  · rw [hsame.manager, hsame.sessions]
    exact h.silent
  · rw [hsame.sessions]
    exact h.active
  · rw [hsame.objects]
    exact h.clients

/-- A client that enters listened to nothing before. -/
theorem enters {u o x : Nat} (h : Listening s accepted entered)
    (henters : AgencyWorker.EntersClient s s' u o x) (hnew : u ∉ entered) :
    Listening s' accepted (u :: entered) := by
  have hlisteners : ∀ k y, k ∈ s'.sectorPostingManager.listeners y ↔
      k ∈ s.sectorPostingManager.listeners y ∨ (k = u ∧ y = x) := by
    intro k y
    rw [henters.manager, listeners_addSectorListener]
    split
    next hy => simp [hy, or_comm]
    next hy => simp [hy]
  have hsilent : ∀ y, u ∉ s.sectorPostingManager.listeners y := h.silent u (.inl hnew)
  refine ⟨fun k y hk => ?_, fun k hk session hsession y => ?_, fun k hk y => ?_, fun k hk => ?_,
    fun k hk => ?_, fun o' k hk => ?_⟩
  · rw [henters.manager, mem_related_addSectorListener]
    rcases (hlisteners k y).1 hk with hold | ⟨rfl, rfl⟩
    · exact ⟨(h.related k y hold).1, .inl (h.related k y hold).2⟩
    · exact ⟨h.active k henters.active, .inr ⟨rfl, rfl⟩⟩
  · rw [hlisteners]
    rw [henters.values, UnorderedMap.find_insert] at hsession
    by_cases hku : k = u
    · subst hku
      rw [if_pos rfl] at hsession
      cases hsession
      simp [hsilent]
    · rw [if_neg hku] at hsession
      have hold : k ∈ entered := (List.mem_cons.1 hk).resolve_left hku
      simpa [hku] using h.own k hold session hsession y
  · rw [hlisteners]
    rw [henters.values, UnorderedMap.find_insert] at hk
    by_cases hku : k = u
    · -- the client itself is there, and has entered
      simp [hku] at hk
    · simp only [List.mem_cons, hku, false_or, if_false] at hk
      simpa [hku] using h.silent k hk y
  · rw [henters.values, UnorderedMap.find_insert] at hk
    split at hk
    next hku => exact hku ▸ h.active u henters.active
    next => exact h.active k hk
  · rcases List.mem_cons.1 hk with rfl | hold
    · exact h.active k henters.active
    · exact h.known k hold
  · rw [henters.objects, UnorderedMap.find_insert] at hk
    split at hk
    next => exact List.mem_cons.2 (.inl (Option.some.inj hk).symm)
    next => exact List.mem_cons_of_mem _ (h.clients o' k hk)

/-- A promotion takes its client from every sector that it listens to, for all of them are related to
it. -/
theorem moves {u x : Nat} (h : Listening s accepted entered)
    (hmoves : AgencyWorker.MovesClient s s' u x) : Listening s' accepted entered := by
  obtain ⟨o, hclient⟩ := hmoves.client
  obtain ⟨session, hsession, hvalues⟩ := hmoves.values
  obtain ⟨origin, hmanager⟩ := hmoves.manager
  have hentered : u ∈ entered := h.clients o u hclient
  -- `RemoveSectorListener` goes through the related sectors, and the client listens to no other
  have hremoved : ∀ k y, k ∈ (s.sectorPostingManager.removeSectorListener origin u).listeners y ↔
      k ∈ s.sectorPostingManager.listeners y ∧ k ≠ u := by
    intro k y
    rw [listeners_removeSectorListener]
    split
    next => simp
    next hunrelated =>
      refine (and_iff_left_of_imp fun hk hku => ?_).symm
      subst hku
      exact hunrelated (h.related k y hk).2
  have hlisteners : ∀ k y, k ∈ s'.sectorPostingManager.listeners y ↔
      (k ∈ s.sectorPostingManager.listeners y ∧ k ≠ u) ∨ (k = u ∧ y = x) := by
    intro k y
    rw [hmanager, listeners_addSectorListener]
    split
    next hy => simp [hy, or_comm, hremoved]
    next hy => simp [hy, hremoved]
  -- the client keeps its session, with new values
  have hactive : ∀ k, s'.activeSessions.find k = none ↔ s.activeSessions.find k = none := by
    intro k
    rw [hvalues, UnorderedMap.find_insert]
    split
    next hku => simp [hku, hsession]
    next => exact Iff.rfl
  refine ⟨fun k y hk => ?_, fun k hk values hfind y => ?_, fun k hk y => ?_, fun k hk => ?_, h.known,
    fun o' k hk => ?_⟩
  -- to a related sector: the old ones are still related, and the new one is now
  · rw [hmanager, mem_related_addSectorListener]
    rcases (hlisteners k y).1 hk with hold | ⟨rfl, rfl⟩
    · exact ⟨(h.related k y hold.1).1, .inl (h.related k y hold.1).2⟩
    · exact ⟨h.known k hentered, .inr ⟨rfl, rfl⟩⟩
  · rw [hlisteners]
    rw [hvalues, UnorderedMap.find_insert] at hfind
    by_cases hku : k = u
    · subst hku
      rw [if_pos rfl] at hfind
      cases hfind
      simp
    · rw [if_neg hku] at hfind
      simpa [hku] using h.own k hk values hfind y
  · rw [hlisteners]
    rw [hactive] at hk
    have hku : k ≠ u := by
      rintro rfl
      rcases hk with hnot | hgone
      · exact hnot hentered
      · rw [hsession] at hgone
        cases hgone
    simpa [hku] using h.silent k hk y
  · exact h.active k (mt (hactive k).2 hk)
  · rw [hmoves.objects] at hk
    exact h.clients o' k hk

theorem accepts (h : Listening s accepted entered) (hnew : s.currentUniversalSessionId ∉ accepted) :
    Listening s.accept.agency (s.currentUniversalSessionId :: accepted) entered := by
  obtain ⟨hvalues, hobjects, -, hmanager⟩ := AgencyWorker.accept_spec s
  have hlisteners : s.accept.agency.sectorPostingManager.listeners = s.sectorPostingManager.listeners := by
    rcases hmanager with ⟨-, hmanager, -⟩ | ⟨-, hmanager, -⟩
    · rw [hmanager]
    · rw [hmanager, listeners_linkSession]
  have hrelated : ∀ k, s.accept.agency.sectorPostingManager.related k =
      s.sectorPostingManager.related k := by
    intro k
    rcases hmanager with ⟨-, hmanager, -⟩ | ⟨-, hmanager, -⟩
    · rw [hmanager]
    · rw [hmanager, related_linkSession]
  have hunentered : s.currentUniversalSessionId ∉ entered := fun hmem => hnew (h.known _ hmem)
  refine ⟨fun k y hk => ?_, fun k hk values hfind y => ?_, fun k hk y => ?_, fun k hk => ?_,
    fun k hk => List.mem_cons_of_mem _ (h.known k hk), fun o k hk => ?_⟩
  · rw [hlisteners] at hk
    rw [hrelated]
    exact ⟨List.mem_cons_of_mem _ (h.related k y hk).1, (h.related k y hk).2⟩
  · have hne : k ≠ s.currentUniversalSessionId := fun heq => hunentered (heq ▸ hk)
    rw [hvalues, UnorderedMap.find_insert_of_ne _ hne] at hfind
    rw [hlisteners]
    exact h.own k hk values hfind y
  · rw [hlisteners]
    by_cases hne : k = s.currentUniversalSessionId
    · exact h.silent k (.inl (hne ▸ hunentered)) y
    · rw [hvalues, UnorderedMap.find_insert_of_ne _ hne] at hk
      exact h.silent k hk y
  · by_cases hne : k = s.currentUniversalSessionId
    · exact hne ▸ List.mem_cons_self
    · rw [hvalues, UnorderedMap.find_insert_of_ne _ hne] at hk
      exact List.mem_cons_of_mem _ (h.active k hk)
  · rw [hobjects] at hk
    exact h.clients o k hk

/-- A client that is closed listens to nothing any more. -/
theorem closes (h : Listening s accepted entered) (u : Nat) (toOwner : Bool) :
    Listening (s.close u toOwner).agency accepted entered := by
  cases hfind : s.activeSessions.find u with
  | none =>
      rw [AgencyWorker.close_of_none hfind]
      exact h
  | some session =>
      obtain ⟨hvalues, -, hcases⟩ := AgencyWorker.close_spec hfind toOwner
      have hunset : ∀ k y, k ∈ (s.sectorPostingManager.unsetAll u).listeners y ↔
          k ∈ s.sectorPostingManager.listeners y ∧ k ≠ u := by
        intro k y
        rw [mem_listeners_unsetAll]
        refine and_congr_right fun hk => not_congr (and_iff_right_of_imp fun hku => ?_)
        exact hku ▸ (h.related k y hk).2
      have hlisteners : ∀ k y, k ∈ (s.close u toOwner).agency.sectorPostingManager.listeners y ↔
          k ∈ s.sectorPostingManager.listeners y ∧ k ≠ u := by
        intro k y
        rcases hcases with ⟨-, -, hmanager, -⟩ | ⟨-, -, hmanager, -⟩
        · rw [hmanager, hunset]
        · -- nothing is left for the second call of `UnsetAll`
          rw [hmanager, mem_listeners_unsetAll, hunset]
          exact and_iff_left_of_imp fun hk hku => hk.2 hku.2
      have hrelated : ∀ k ≠ u, (s.close u toOwner).agency.sectorPostingManager.related k =
          s.sectorPostingManager.related k := by
        intro k hk
        rcases hcases with ⟨-, -, hmanager, -⟩ | ⟨-, -, hmanager, -⟩
        · rw [hmanager, related_unsetAll, if_neg hk]
        · rw [hmanager, related_unsetAll, if_neg hk, related_unsetAll, if_neg hk]
      have hobjects : ∀ o k, (s.close u toOwner).agency.objectSessions.find o = some k →
          s.objectSessions.find o = some k := by
        intro o k hk
        rcases hcases with ⟨-, hobjects, -, -⟩ | ⟨-, hobjects, -, -⟩
        · rwa [hobjects] at hk
        · rw [hobjects, UnorderedMap.find_erase] at hk
          split at hk
          next => cases hk
          next => exact hk
      refine ⟨fun k y hk => ?_, fun k hk values hvalue y => ?_, fun k hk y => ?_, fun k hk => ?_,
        h.known, fun o k hk => h.clients o k (hobjects o k hk)⟩
      · obtain ⟨hk, hne⟩ := (hlisteners k y).1 hk
        rw [hrelated k hne]
        exact h.related k y hk
      · rw [hvalues, UnorderedMap.find_erase] at hvalue
        split at hvalue
        next => cases hvalue
        next hne =>
          rw [hlisteners, and_iff_left hne]
          exact h.own k hk values hvalue y
      · rw [hlisteners]
        rintro ⟨hlistens, hne⟩
        rw [hvalues, UnorderedMap.find_erase_of_ne _ hne] at hk
        exact h.silent k hk y hlistens
      · rw [hvalues, UnorderedMap.find_erase] at hk
        split at hk
        next => exact absurd rfl hk
        next => exact h.active k hk

theorem of_leavesClients (h : Listening s accepted entered) {m : SectorPostingManager}
    (hleaves : LeavesClients accepted s.sectorPostingManager m) :
    Listening { s with sectorPostingManager := m } accepted entered := by
  refine ⟨fun u x hu => ?_, fun u hu session hsession x => ?_, fun u hu x => ?_, h.active, h.known,
    h.clients⟩
  · have hold := h.related u x ((hleaves.listeners x u).1 hu)
    exact ⟨hold.1, hleaves.related u hold.1 x hold.2⟩
  · exact (hleaves.listeners x u).trans (h.own u hu session hsession x)
  · exact mt (hleaves.listeners x u).1 (h.silent u hu x)

end Listening

/-! ## Runs -/

/-- An agency with the ids of the clients it has accepted and of those that have entered. -/
structure ListeningState where
  agency : AgencyWorker
  accepted : List Nat := []
  entered : List Nat := []
  /-- What has ended the agency. -/
  fault : Option AgencyFault := none

inductive AgencyCall
  | accept
  | close (userId : Nat) (toOwner : Bool)
  | clientData (userId : Nat) (position : Vector2) (direction : Direction)
  | packet (source : Nat) (packet : IntraPacket) (clock : Clock)
  /-- Sectors are allocated, or play servers linked or unset. -/
  | servers (m : SectorPostingManager)

namespace ListeningState

/-- Ids of clients are not given twice, and a client is sent one response to its spawn. -/
def Allows (st : ListeningState) : AgencyCall → Prop
  | .accept => st.agency.currentUniversalSessionId ∉ st.accepted
  | .packet _ (.spawnCharacterRs userId _ _) _ => userId ∉ st.entered
  | .servers m => LeavesClients st.accepted st.agency.sectorPostingManager m
  | _ => True

def outcome (assertions : Bool) (s : AgencyWorker) : AgencyCall → AgencyOutcome
  | .accept => s.accept
  | .close userId toOwner => s.close userId toOwner
  | .clientData userId position direction => s.onClientData userId position direction
  | .packet source packet clock => s.handleIn assertions source packet clock
  | .servers m => { agency := { s with sectorPostingManager := m } }

/-- The ids of the clients that have entered after a call. -/
def enteredAfter (st : ListeningState) : AgencyCall → List Nat
  | .packet _ (.spawnCharacterRs userId _ _) _ =>
      if (st.agency.activeSessions.find userId).isSome then userId :: st.entered else st.entered
  | _ => st.entered

def next (assertions : Bool) (st : ListeningState) (call : AgencyCall) : ListeningState where
  agency := (outcome assertions st.agency call).agency
  accepted :=
    match call with
    | .accept => st.agency.currentUniversalSessionId :: st.accepted
    | _ => st.accepted
  entered := st.enteredAfter call
  fault := (outcome assertions st.agency call).fault

/-- An agency without clients, and nobody who listens. -/
structure Start (st : ListeningState) : Prop where
  sessions : ∀ u, st.agency.activeSessions.find u = none
  objects : ∀ o, st.agency.objectSessions.find o = none
  listeners : ∀ x, st.agency.sectorPostingManager.listeners x = []
  accepted : st.accepted = []
  entered : st.entered = []
  fault : st.fault = none

end ListeningState

/-- Any calls one after the other, up to a fault. -/
def listening (assertions : Bool) : Machine ListeningState AgencyCall where
  init := ListeningState.Start
  step := fun st call st' => (st.fault = none ∧ st.Allows call) ∧ st' = st.next assertions call

namespace ListeningState

theorem reachable_next {assertions : Bool} {st : ListeningState}
    (h : (Agency.listening assertions).Reachable st) (call : AgencyCall) (hfault : st.fault = none)
    (hallows : st.Allows call) : (Agency.listening assertions).Reachable (st.next assertions call) :=
  .step h ⟨⟨hfault, hallows⟩, rfl⟩

theorem Start.listening {st : ListeningState} (h : st.Start) :
    Listening st.agency st.accepted st.entered := by
  refine ⟨?_, ?_, ?_, ?_, ?_, ?_⟩ <;> simp [h.sessions, h.objects, h.listeners, h.entered]

theorem enteredAfter_of_ne {st : ListeningState} {source : Nat} {packet : IntraPacket} {clock : Clock}
    (h : ∀ u info error, packet ≠ .spawnCharacterRs u info error) :
    st.enteredAfter (.packet source packet clock) = st.entered := by
  cases packet with
  | spawnCharacterRs u info error => exact absurd rfl (h u info error)
  | _ => rfl

theorem listening_next {st : ListeningState} {call : AgencyCall} (assertions : Bool)
    (h : Listening st.agency st.accepted st.entered) (hallows : st.Allows call) :
    Listening (st.next assertions call).agency (st.next assertions call).accepted
      (st.next assertions call).entered := by
  cases call with
  | accept => exact h.accepts hallows
  | close u toOwner => exact h.closes u toOwner
  | clientData u position direction =>
      have hsame := (AgencyWorker.onClientData_spec st.agency u position direction).1
      simp only [next, outcome, enteredAfter, hsame]
      exact h
  | servers m => exact h.of_leavesClients hallows
  | packet source packet clock =>
      by_cases hspawn : ∃ u info error, packet = .spawnCharacterRs u info error
      · obtain ⟨u, info, error, rfl⟩ := hspawn
        rcases AgencyWorker.spawn_cases (s := st.agency) assertions source u info error clock with
          ⟨hgone, hsame⟩ | henters
        · simp only [next, enteredAfter, hgone, Option.isSome_none, Bool.false_eq_true, if_false]
          exact h.of_sameClients hsame
        · have hactive : (st.agency.activeSessions.find u).isSome :=
            Option.isSome_iff_ne_none.2 henters.active
          simp only [next, enteredAfter, hactive, if_true]
          exact h.enters henters hallows
      · have hother : ∀ u info error, packet ≠ .spawnCharacterRs u info error :=
          fun u info error heq => hspawn ⟨u, info, error, heq⟩
        simp only [next, enteredAfter_of_ne hother]
        rcases AgencyWorker.handleIn_cases (s := st.agency) assertions source clock hother with
          hsame | ⟨u, x, hmoves⟩
        · exact h.of_sameClients hsame
        · exact h.moves hmoves

/-- Every client that has entered listens to the sector of its session values and to no other, and a
client that is closed listens to none. -/
theorem listens_to_own_sector {assertions : Bool} {st : ListeningState}
    (h : (listening assertions).Reachable st) :
    (∀ u ∈ st.entered, ∀ session, st.agency.activeSessions.find u = some session →
      ∀ x, u ∈ st.agency.sectorPostingManager.listeners x ↔ x = session.sectorId) ∧
    ∀ u, st.agency.activeSessions.find u = none →
      ∀ x, u ∉ st.agency.sectorPostingManager.listeners x := by
  have hlistening : Listening st.agency st.accepted st.entered := by
    refine Machine.Reachable.invariant
      (P := fun st => Listening st.agency st.accepted st.entered)
      (fun st hstart => Start.listening hstart) (fun st call st' h hstep => ?_) h
    rw [hstep.2]
    exact listening_next assertions h hstep.1.2
  exact ⟨hlistening.own, fun u hu => hlistening.silent u (.inr hu)⟩

end ListeningState

def spawnOfSeven : AgencyCall :=
  .packet 3 (.spawnCharacterRs 1 ⟨7, 12, { blankFixture with id := 7, sectorId := 12 }⟩ .None)
    ⟨1000, 1000⟩

def promotionOfSeven : AgencyCall :=
  .packet 3 (.promoteObjectRq 12 ⟨7, 13, { blankFixture with id := 7, sectorId := 13 }⟩) ⟨2000, 2000⟩

/-- Client 1 comes, its object 7 is spawned in sector 12 and promoted to sector 13. -/
def crossing : List AgencyCall := [.accept, spawnOfSeven, promotionOfSeven]

theorem crossing_reachable (assertions : Bool) : (listening assertions).Reachable
    (crossing.foldl (ListeningState.next assertions) { agency := linkedAgency }) := by
  have hstart : (listening assertions).Reachable { agency := linkedAgency } :=
    .init ⟨fun _ => rfl, fun _ => rfl, fun _ => rfl, rfl, rfl, rfl⟩
  have haccepted := ListeningState.reachable_next hstart .accept rfl List.not_mem_nil
  have hspawned := ListeningState.reachable_next haccepted spawnOfSeven rfl List.not_mem_nil
  exact ListeningState.reachable_next hspawned promotionOfSeven rfl trivial

theorem listens_after_crossing :
    {x | 1 ∈ (crossing.foldl (ListeningState.next true)
      { agency := linkedAgency }).agency.sectorPostingManager.listeners x} = {13} := by
  ext x
  exact (ListeningState.listens_to_own_sector (crossing_reachable true)).1 1 (by decide) ⟨1, 7, 13⟩ rfl x

end Agency
end SeamlessServer
