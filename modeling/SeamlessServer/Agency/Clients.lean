import SeamlessServer.Agency.Network
import SeamlessServer.Game.Announcements

/-!
# Agency.Clients — what an agency knows of its clients

A client is known under the universal id of its session, and from its spawn on by the object that was
spawned for it.  As long as neither ids of clients nor ids of objects are given twice, a client is
spawned one object at most, and the sessions, the sessions by object and the record of what was
spawned agree (`Registered`).
-/

namespace SeamlessServer
namespace Agency

open Game Protocol Utility

/-! ## What the handlers of the agency do -/

/-- The clients, their objects and the links are the same. -/
structure SameClients (s s' : AgencyWorker) : Prop where
  sessions : s'.activeSessions = s.activeSessions
  objects : s'.objectSessions = s.objectSessions
  manager : s'.sectorPostingManager = s.sectorPostingManager

/-- Every object of a client is that of a session. -/
def ObjectsActive (s : AgencyWorker) : Prop :=
  ∀ o u, s.objectSessions.find o = some u → ∃ session, s.activeSessions.find u = some session

theorem requests_map_toClient (agency : AgencyWorker) (fault : Option AgencyFault)
    (packet : ClientPacket) (targets : List Nat) :
    AgencyOutcome.requests ⟨agency, targets.map (.toClient · packet), fault⟩ = [] := by
  simp [AgencyOutcome.requests, List.filterMap_map]

namespace AgencyWorker

variable {s : AgencyWorker}

/-- A new client is linked and asked to be spawned, if the sector that clients enter has a server. -/
theorem accept_spec (s : AgencyWorker) :
    s.accept.agency.activeSessions = s.activeSessions.insert s.currentUniversalSessionId {} ∧
      s.accept.agency.objectSessions = s.objectSessions ∧ s.accept.fault = none ∧
      ((s.sectorPostingManager.getSectorOwnerSession initialSectorId = none ∧
          s.accept.agency.sectorPostingManager = s.sectorPostingManager ∧
          s.accept.requests = []) ∨
        (s.sectorPostingManager.getSectorOwnerSession initialSectorId ≠ none ∧
          s.accept.agency.sectorPostingManager =
            s.sectorPostingManager.linkSession s.currentUniversalSessionId
              (some (.socket s.currentUniversalSessionId)) ∧
          s.accept.requests = [(s.sectorPostingManager.owner initialSectorId,
            .spawnCharacterRq (spawnRequest s.currentUniversalSessionId))])) := by
  cases h : s.sectorPostingManager.getSectorOwnerSession initialSectorId with
  | none =>
      simp [accept, onClientAccepted, h, AgencyOutcome.requests]
  | some session =>
      simp [accept, onClientAccepted, h, AgencyOutcome.requests]

/-- The request with which a client leaves. -/
def removeRequest (session : SessionValues) (toOwner : Bool) : RemoveCharacterRq :=
  ⟨session.userId, session.sectorId, session.objectId, toOwner⟩

/-- A client that leaves is forgotten, and its object asked to be removed if it has one. -/
theorem close_spec {u : Nat} {session : SessionValues} (h : s.activeSessions.find u = some session)
    (toOwner : Bool) :
    (s.close u toOwner).agency.activeSessions = s.activeSessions.erase u ∧
      (s.close u toOwner).fault = none ∧
      ((session.objectId = 0 ∧ (s.close u toOwner).agency.objectSessions = s.objectSessions ∧
          (s.close u toOwner).agency.sectorPostingManager = s.sectorPostingManager.unsetAll u ∧
          (s.close u toOwner).requests = []) ∨
        (session.objectId ≠ 0 ∧
          (s.close u toOwner).agency.objectSessions = s.objectSessions.erase session.objectId ∧
          (s.close u toOwner).agency.sectorPostingManager =
            (s.sectorPostingManager.unsetAll u).unsetAll u ∧
          (s.close u toOwner).requests =
            ((s.sectorPostingManager.unsetAll u).sendToSectorOwner session.sectorId).map
              (·, .removeCharacterRq (removeRequest session toOwner)))) := by
  by_cases hzero : session.objectId = 0
  · simp [close, h, onClientClosed, hzero, AgencyOutcome.requests]
  · simp [close, h, onClientClosed, hzero, AgencyOutcome.requests, removeRequest,
      List.filterMap_map]

theorem close_of_none {u : Nat} (h : s.activeSessions.find u = none) (toOwner : Bool) :
    s.close u toOwner = { agency := s } := by
  simp [close, h]

/-- A move is passed on as a move. -/
theorem onClientData_spec (s : AgencyWorker) (u : Nat) (position : Vector2) (direction : Direction) :
    (s.onClientData u position direction).agency = s ∧
      (s.onClientData u position direction).fault = none ∧
      ∀ k packet, (k, packet) ∈ (s.onClientData u position direction).requests →
        ∃ move, packet = .characterMoveRq move := by
  unfold onClientData onUserMoveReq
  split
  · simp [AgencyOutcome.requests]
  · split_ifs
    · simp [AgencyOutcome.requests]
    · split
      · simp [AgencyOutcome.requests]
      · simp [AgencyOutcome.requests]

/-- What tells nothing of where an object is changes the cache only. -/
theorem sameClients_onIntraServerData (hactive : ObjectsActive s) (source : Nat) {notice : Notice}
    (h : isAnnouncement notice = false) (unset : ObjectInfo) (now : Milliseconds) :
    SameClients s (s.onIntraServerData source (.ofNotice unset notice) now).agency ∧
      (s.onIntraServerData source (.ofNotice unset notice) now).fault = none ∧
      (s.onIntraServerData source (.ofNotice unset notice) now).requests = [] := by
  cases notice with
  | spawnCharacterRs u info error =>
      cases h
  | promoteObjectRq origin info =>
      cases h
  | removeCharacterRs u x o error =>
      exact ⟨⟨rfl, rfl, rfl⟩, rfl, requests_map_toClient _ _ _ _⟩
  | createObjectPs info =>
      exact ⟨⟨rfl, rfl, rfl⟩, rfl, requests_map_toClient _ _ _ _⟩
  | removeObjectPs x o =>
      exact ⟨⟨rfl, rfl, rfl⟩, rfl, requests_map_toClient _ _ _ _⟩
  | objectMovePs packet =>
      exact ⟨⟨rfl, rfl, rfl⟩, rfl, requests_map_toClient _ _ _ _⟩
  | characterMoveRs packet =>
      cases hclient : s.objectSessions.find packet.objectId with
      | none =>
          simp only [IntraPacket.ofNotice, onIntraServerData, onPlayMoveCharacterRes, hclient]
          exact ⟨⟨rfl, rfl, rfl⟩, rfl, rfl⟩
      | some u =>
          obtain ⟨session, hsession⟩ := hactive _ _ hclient
          have hsession' : (s.cacheMove packet now).activeSessions.find u = some session := hsession
          simp only [IntraPacket.ofNotice, onIntraServerData, onPlayMoveCharacterRes, hclient,
            hsession']
          exact ⟨⟨rfl, rfl, rfl⟩, rfl, by simp [AgencyOutcome.requests, List.filterMap_map]⟩

/-- The response to a spawn enters its client, if the client is still there. -/
theorem onPlaySpawnCharacterRes_spec (source u : Nat) (info : ObjectInfo) (now : Milliseconds) :
    (s.onPlaySpawnCharacterRes source u info now).fault = none ∧
      ((s.activeSessions.find u = none ∧
          SameClients s (s.onPlaySpawnCharacterRes source u info now).agency ∧
          (s.onPlaySpawnCharacterRes source u info now).requests =
            [(source, .removeCharacterRs u info.sectorId info.objectId)]) ∨
        (s.activeSessions.find u ≠ none ∧
          (s.onPlaySpawnCharacterRes source u info now).agency.activeSessions =
            s.activeSessions.insert u ⟨u, info.objectId, info.sectorId⟩ ∧
          (s.onPlaySpawnCharacterRes source u info now).agency.objectSessions =
            s.objectSessions.insert info.objectId u ∧
          (s.onPlaySpawnCharacterRes source u info now).agency.sectorPostingManager =
            s.sectorPostingManager.addSectorListener info.sectorId u ∧
          (s.onPlaySpawnCharacterRes source u info now).requests = [])) := by
  cases h : s.activeSessions.find u with
  | none =>
      have h' : ∀ x o f, (s.cache x o f).activeSessions.find u = none := fun _ _ _ => h
      simp only [onPlaySpawnCharacterRes, h']
      exact ⟨trivial, .inl ⟨trivial, ⟨rfl, rfl, rfl⟩, rfl⟩⟩
  | some session =>
      have h' : ∀ x o f, (s.cache x o f).activeSessions.find u = some session := fun _ _ _ => h
      simp only [onPlaySpawnCharacterRes, h']
      refine ⟨trivial, .inr ⟨by simp, rfl, rfl, rfl, ?_⟩⟩
      simp [AgencyOutcome.requests, sendToSector, List.filterMap_map]

/-- A promotion of a client's object that is in the cache is followed. -/
theorem onPlayPromoteObjectReq_spec {origin : Nat} {info : ObjectInfo} {u : Nat}
    {session : SessionValues} (now : Milliseconds)
    (howner : s.sectorPostingManager.getSectorOwnerSession info.sectorId ≠ none)
    (horigin : s.sectorPostingManager.getSectorOwnerSession origin ≠ none)
    (hcached : (s.objectCache origin).find info.objectId ≠ none)
    (hclient : s.objectSessions.find info.objectId = some u)
    (hsession : s.activeSessions.find u = some session) (hsector : session.sectorId = origin) :
    (s.onPlayPromoteObjectReq origin info now).fault = none ∧
      (s.onPlayPromoteObjectReq origin info now).agency.activeSessions =
        s.activeSessions.insert u { session with sectorId := info.sectorId } ∧
      (s.onPlayPromoteObjectReq origin info now).agency.objectSessions = s.objectSessions ∧
      (s.onPlayPromoteObjectReq origin info now).agency.sectorPostingManager =
        (s.sectorPostingManager.removeSectorListener origin u).addSectorListener info.sectorId u ∧
      (s.onPlayPromoteObjectReq origin info now).requests = [] := by
  obtain ⟨f, hf⟩ := Option.ne_none_iff_exists'.1 hcached
  have hlinked : ¬ ((s.sectorPostingManager.getSectorOwnerSession info.sectorId).isNone = true ∨
      (s.sectorPostingManager.getSectorOwnerSession origin).isNone = true) := by
    simp [howner, horigin]
  have hclient' : (s.cache info.sectorId info.objectId info.fixture).objectSessions.find
      info.objectId = some u := hclient
  have hsession' : (s.cache info.sectorId info.objectId info.fixture).activeSessions.find u =
      some session := hsession
  simp only [onPlayPromoteObjectReq, if_neg hlinked, hf, hclient', hsession', hsector, ne_eq,
    not_true_eq_false, if_false]
  exact ⟨trivial, rfl, rfl, trivial, rfl⟩

/-- A promotion moves the client of its object along, or changes the cache only. -/
theorem onPlayPromoteObjectReq_cases (hactive : ObjectsActive s) (origin : Nat) (info : ObjectInfo)
    (now : Milliseconds) :
    (SameClients s (s.onPlayPromoteObjectReq origin info now).agency ∧
        (s.onPlayPromoteObjectReq origin info now).requests = []) ∨
      ∃ u session, s.objectSessions.find info.objectId = some u ∧
        s.activeSessions.find u = some session ∧
        (s.onPlayPromoteObjectReq origin info now).agency.activeSessions =
          s.activeSessions.insert u { session with sectorId := info.sectorId } ∧
        (s.onPlayPromoteObjectReq origin info now).agency.objectSessions = s.objectSessions ∧
        (s.onPlayPromoteObjectReq origin info now).agency.sectorPostingManager =
          (s.sectorPostingManager.removeSectorListener origin u).addSectorListener info.sectorId u ∧
        (s.onPlayPromoteObjectReq origin info now).requests = [] := by
  by_cases hlinked : (s.sectorPostingManager.getSectorOwnerSession info.sectorId).isNone = true ∨
      (s.sectorPostingManager.getSectorOwnerSession origin).isNone = true
  · simp only [onPlayPromoteObjectReq, if_pos hlinked]
    exact .inl ⟨⟨rfl, rfl, rfl⟩, rfl⟩
  cases hcached : (s.objectCache origin).find info.objectId with
  | none =>
      simp only [onPlayPromoteObjectReq, if_neg hlinked, hcached]
      exact .inl ⟨⟨rfl, rfl, rfl⟩, rfl⟩
  | some f =>
      cases hclient : s.objectSessions.find info.objectId with
      | none =>
          have hclient' : (s.cache info.sectorId info.objectId info.fixture).objectSessions.find
              info.objectId = none := hclient
          simp only [onPlayPromoteObjectReq, if_neg hlinked, hcached, hclient']
          exact .inl ⟨⟨rfl, rfl, rfl⟩, rfl⟩
      | some u =>
          obtain ⟨session, hsession⟩ := hactive _ _ hclient
          have hclient' : (s.cache info.sectorId info.objectId info.fixture).objectSessions.find
              info.objectId = some u := hclient
          have hsession' : (s.cache info.sectorId info.objectId info.fixture).activeSessions.find u =
              some session := hsession
          -- the assertion holds, or the agency ends here
          by_cases hsector : session.sectorId = origin
          · simp only [onPlayPromoteObjectReq, if_neg hlinked, hcached, hclient', hsession', hsector,
              ne_eq, not_true_eq_false, if_false]
            exact .inr ⟨u, session, rfl, hsession, rfl, rfl, rfl, rfl⟩
          · simp only [onPlayPromoteObjectReq, if_neg hlinked, hcached, hclient', hsession', ne_eq,
              hsector, not_false_eq_true, if_true]
            exact .inl ⟨⟨rfl, rfl, rfl⟩, rfl⟩

/-- A promotion of an object without client changes the cache only. -/
theorem onPlayPromoteObjectReq_of_none {origin : Nat} {info : ObjectInfo}
    (hclient : s.objectSessions.find info.objectId = none) (now : Milliseconds) :
    SameClients s (s.onPlayPromoteObjectReq origin info now).agency ∧
      (s.onPlayPromoteObjectReq origin info now).fault = none ∧
      (s.onPlayPromoteObjectReq origin info now).requests = [] := by
  have hclient' : ∀ x o f, (s.cache x o f).objectSessions.find info.objectId = none :=
    fun _ _ _ => hclient
  simp only [onPlayPromoteObjectReq]
  split_ifs
  · exact ⟨⟨rfl, rfl, rfl⟩, rfl, rfl⟩
  · split
    · exact ⟨⟨rfl, rfl, rfl⟩, rfl, rfl⟩
    · simp only [hclient']
      exact ⟨⟨rfl, rfl, rfl⟩, trivial, rfl⟩

end AgencyWorker

/-! ## What the play servers announce -/

section Announced

variable {D : Deployment} {c c' : Cluster} {place : Nat → Nat}

/-- An object has been announced somewhere, if only by nobody. -/
theorem exists_located {v : View} (h : SingleOwner v) : ∃ x, Located v x := by
  by_cases howner : ∃ x, isOwner (v.copies x) = true
  · obtain ⟨x, hx⟩ := howner
    exact ⟨x, located_of_owner h hx⟩
  · have hnone : ∀ y, isOwner (v.copies y) ≠ true := fun y hy => howner ⟨y, hy⟩
    have hmem : ∀ s info, .promoteObjectRq s info ∈ v.queue →
        .promoteObjectRq s info ∈ promotions v.queue :=
      fun s info hmem => List.mem_filter.2 ⟨hmem, rfl⟩
    -- one promotion is under way at most
    have hle := h.promoted
    rcases hqueue : promotions v.queue with _ | ⟨q, _ | ⟨q', rest⟩⟩
    · refine ⟨0, fun y hy => absurd hy (hnone y), fun s info hq => ?_⟩
      have hq' := hmem s info hq
      rw [hqueue] at hq'
      cases hq'
    · cases q with
      | promoteObjectRq s info =>
          refine ⟨s, fun y hy => absurd hy (hnone y), fun s' info' hq => ?_⟩
          have hq' := hmem s' info' hq
          rw [hqueue, List.mem_singleton] at hq'
          cases hq'
          rfl
      | _ =>
          have hpromote := (List.mem_filter.1 (hqueue ▸ List.mem_cons_self :
            _ ∈ promotions v.queue)).2
          cases hpromote
    · rw [hqueue] at hle
      simp at hle

theorem notice_of_heard {agencyId : Nat} {requester : Option Nat} {posting : Posting}
    {notice : Notice} (h : heard agencyId requester posting = some notice) :
    posting.notice = some notice := by
  cases posting with
  | toSectorOwner packet x =>
      cases h
  | toSector notice' x =>
      exact h
  | toSectorWithout ignored notice' x =>
      simp only [heard] at h
      split_ifs at h
      exact h
  | toServer target notice' =>
      simp only [heard] at h
      split_ifs at h
      exact h
  | reply notice' =>
      simp only [heard] at h
      split_ifs at h
      exact h

/-- Of silent postings nothing is heard that tells where an object is. -/
theorem silent_heard {posts : List Posting} (h : Silent posts) (agencyId k : Nat)
    (requester : Option Nat) :
    ∀ n ∈ (posts.filterMap (heard agencyId requester)).map (k, ·), isAnnouncement n.2 = false := by
  intro n hn
  obtain ⟨notice, hnotice, rfl⟩ := List.mem_map.1 hn
  obtain ⟨posting, hposting, hheard⟩ := List.mem_filterMap.1 hnotice
  exact h posting hposting notice (notice_of_heard hheard)

theorem silent_noticesOf {agencyId k : Nat} {e : Event} {r : Outcome}
    (h : Asking.outcome c e = some (k, r)) (hsilent : Silent r.posts) :
    ∀ n ∈ noticesOf agencyId c e, isAnnouncement n.2 = false := by
  simp only [noticesOf, h]
  exact silent_heard hsilent _ _ _

/-- An event that spawns nothing announces nothing and leaves all objects where they are, or it
announces one object that has moved. -/
theorem announced_play (h : ((Cluster.machine D).restrict Cluster.assignsFreshId).Reachable c)
    (hplace : ∀ o, Located (c.view D o) (place o)) {e : Event}
    (hspawn : ∀ k agency packet now, e ≠ .spawn k agency packet now)
    (hstep : (Cluster.machine D).step c e c') (agencyId : Nat) :
    ((∀ n ∈ noticesOf agencyId c e, isAnnouncement n.2 = false) ∧
        ∀ o, Located (c'.view D o) (place o)) ∨
      ∃ k info rest,
        noticesOf agencyId c e = (k, .promoteObjectRq (place info.objectId) info) :: rest ∧
        (∀ n ∈ rest, isAnnouncement n.2 = false) ∧ info.objectId ∈ c.issued ∧
        info.sectorId ∈ D.sectorsOf k ∧
        ∀ o, Located (c'.view D o) (Function.update place info.objectId info.sectorId o) := by
  have hsound := (Cluster.holding_singleOwner h).sound
  have hstay : (∀ o, ¬ c.Relocates o e) → ∀ o, Located (c'.view D o) (place o) :=
    fun hnot o => Cluster.located_next hsound hplace hstep o (hnot o)
  -- only a promotion that arrives moves an object or says anything of this kind
  cases e with
  | spawn k agency packet now =>
      exact absurd rfl (hspawn k agency packet now)
  | move k agency packet =>
      exact .inl ⟨silent_noticesOf rfl (silent_moveObject agency packet), hstay fun _ => id⟩
  | remove k agency packet =>
      exact .inl ⟨silent_noticesOf rfl (silent_removeCharacter agency packet), hstay fun _ => id⟩
  | update k clock =>
      exact .inl ⟨silent_noticesOf rfl (silent_update clock), hstay fun _ => id⟩
  | rehashSectors k order =>
      exact .inl ⟨fun n hn => (List.not_mem_nil hn).elim, hstay fun _ => id⟩
  | rehashFixtures k x order =>
      exact .inl ⟨fun n hn => (List.not_mem_nil hn).elim, hstay fun _ => id⟩
  | deliver index now =>
      cases hhead : c.channelHead index with
      | none =>
          refine .inl ⟨fun n hn => ?_, hstay ?_⟩
          · simp [noticesOf, Asking.outcome, hhead] at hn
          · rintro o ⟨e, he, _⟩
            rw [hhead] at he
            cases he
      | some e =>
          have houtcome : Asking.outcome c (.deliver index now) =
              some (e.target, (c.worlds e.target).handle e.source e.packet now) := by
            simp [Asking.outcome, hhead]
          cases hpromote : e.packet.isPromote with
          | false =>
              refine .inl ⟨silent_noticesOf houtcome (silent_handle e.source hpromote now),
                hstay ?_⟩
              rintro o ⟨e', he', hpromote', _⟩
              rw [hhead] at he'
              cases he'
              rw [hpromote] at hpromote'
              cases hpromote'
          | true =>
              obtain ⟨s, info, hpacket⟩ : ∃ s info, e.packet = .promoteObjectRq s info := by
                cases hpacket : e.packet with
                | promoteObjectRq s info =>
                    exact ⟨s, info, rfl⟩
                | _ =>
                    rw [hpacket] at hpromote
                    cases hpromote
              have hissued : info.objectId ∈ c.issued := by
                have hqueue := Cluster.queue_of_channelHead hhead (D := D)
                rw [hpacket] at hqueue
                have hview := ((Cluster.holding_singleOwner h).views info.objectId).pop_promotion
                  hqueue rfl
                simpa [Cluster.view] using hview.2.2
              rw [hstep.2]
              obtain ⟨hs, hcases⟩ := Cluster.promotion_announced h hplace hhead hpacket now
              -- the promotion misses its copy, or the new owner is announced before anything else
              rcases hcases with ⟨hposts, hlocated⟩ | ⟨rest, hposts, hsilent, hx, hlocated⟩
              · refine .inl ⟨silent_noticesOf houtcome ?_, hlocated⟩
                rw [hposts]
                exact silent_nil
              · refine .inr ⟨e.target, info, (rest.filterMap
                  (heard agencyId (requester c (.deliver index now)))).map (e.target, ·), ?_, ?_,
                  hissued, hx, hlocated⟩
                · simp only [noticesOf, houtcome, hposts, ← hs]
                  rfl
                · exact silent_heard hsilent _ _ _

/-- A spawn in a sector of the server is announced to the agency. -/
theorem announced_spawn (h : ((Cluster.machine D).restrict Cluster.assignsFreshId).Reachable c)
    (hplace : ∀ o, Located (c.view D o) (place o)) {k agencyId : Nat} {packet : SpawnCharacterRq}
    {now : Milliseconds} (hx : packet.sectorId ∈ D.sectorsOf k)
    (hfresh : c.assignsFreshId (.spawn k agencyId packet now))
    (hstep : (Cluster.machine D).step c (.spawn k agencyId packet now) c') :
    ∃ info : ObjectInfo, c.nextFixtureId k packet.sectorId = some info.objectId ∧
      info.sectorId = packet.sectorId ∧
      noticesOf agencyId c (.spawn k agencyId packet now) =
        [(k, .spawnCharacterRs packet.userId (some info) .None)] ∧
      ∀ o, Located (c'.view D o) (Function.update place info.objectId packet.sectorId o) := by
  obtain ⟨info, hid, hsector, hposts, hlocated⟩ :=
    Cluster.spawn_announced h hplace hx hfresh hstep
  refine ⟨info, hid, hsector, ?_, hlocated⟩
  simp [noticesOf, Asking.outcome, hposts, heard]

theorem assignsFreshId_of_ne {c : Cluster} {e : Event}
    (hspawn : ∀ k agency packet now, e ≠ .spawn k agency packet now) : c.assignsFreshId e := by
  cases e with
  | spawn k agency packet now =>
      exact absurd rfl (hspawn k agency packet now)
  | _ =>
      exact trivial

theorem issued_next (D : Deployment) (c : Cluster) (e : Event) :
    (c.next D e).issued = c.issued ++ (spawns c e).map Prod.snd := by
  cases e with
  | spawn k agency packet now =>
      simp [Cluster.next, spawns, Function.comp_def]
  | move | remove | update | rehashSectors =>
      simp [Cluster.next, spawns]
  | deliver index now =>
      simp only [Cluster.next, spawns, List.map_nil, List.append_nil]
      split <;> rfl
  | rehashFixtures k x order =>
      simp only [Cluster.next, spawns, List.map_nil, List.append_nil]
      split <;> rfl

end Announced

/-! ## Links -/

/-- Owners and links of servers are as at the start; the users are those linked since. -/
structure Wired (D : Deployment) (users : List Nat) (m : SectorPostingManager) : Prop where
  owner : m.owner = (linkedManager D).owner
  link : ∀ k, k ∉ users → m.link k = (linkedManager D).link k

/-- Ids of clients are those of no server. -/
def Apart (D : Deployment) (users : List Nat) : Prop :=
  ∀ u ∈ users, u ≠ 0 ∧ ∀ x, D.owner x ≠ some u

section Wired

variable {D : Deployment} {users : List Nat} {m : SectorPostingManager}

theorem owner_linkedManager (x : Nat) :
    (linkedManager D).owner x = if x < sectorCount then (D.owner x).getD 0 else 0 := rfl

theorem link_linkedManager (k : Nat) :
    (linkedManager D).link k = if D.sectorsOf k = [] then none else some (.socket k) := by
  simp only [SectorPostingManager.link, linkedManager]
  split_ifs <;> rfl

theorem Wired.linkSession (h : Wired D users m) {u : Nat} (hu : u ∈ users)
    (session : Option SessionRef) : Wired D users (m.linkSession u session) := by
  refine ⟨h.owner, fun k hk => ?_⟩
  rw [SectorPostingManager.link_linkSession, if_neg]
  · exact h.link k hk
  · rintro rfl
    exact hk hu

theorem Wired.addSectorListener (h : Wired D users m) (x u : Nat) :
    Wired D users (m.addSectorListener x u) := by
  refine ⟨?_, fun k hk => ?_⟩
  · rw [SectorPostingManager.owner_addSectorListener]
    exact h.owner
  · rw [SectorPostingManager.link_addSectorListener]
    exact h.link k hk

theorem Wired.removeSectorListener (h : Wired D users m) (x u : Nat) :
    Wired D users (m.removeSectorListener x u) := by
  refine ⟨?_, h.link⟩
  rw [SectorPostingManager.owner_removeSectorListener]
  exact h.owner

/-- The owners of sectors are servers. -/
theorem Wired.owner_ne (h : Wired D users m) (hapart : Apart D users) {u : Nat} (hu : u ∈ users)
    (x : Nat) : m.owner x ≠ u := by
  rw [h.owner, owner_linkedManager]
  obtain ⟨hzero, hserver⟩ := hapart u hu
  split_ifs
  · cases howner : D.owner x with
    | none =>
        exact hzero.symm
    | some k =>
        rintro rfl
        exact hserver x howner
  · exact hzero.symm

theorem Wired.unsetAll (h : Wired D users m) (hapart : Apart D users) {u : Nat} (hu : u ∈ users) :
    Wired D users (m.unsetAll u) := by
  refine ⟨?_, fun k hk => ?_⟩
  · funext x
    rw [SectorPostingManager.owner_unsetAll, if_neg fun hx => h.owner_ne hapart hu x hx.2, h.owner]
  · rw [SectorPostingManager.link_unsetAll, if_neg]
    · exact h.link k hk
    · rintro rfl
      exact hk hu

/-- New users. -/
theorem Wired.mono (h : Wired D users m) {users' : List Nat} (hsub : users ⊆ users') :
    Wired D users' m :=
  ⟨h.owner, fun k hk => h.link k fun hmem => hk (hsub hmem)⟩

/-- The sector has a server, to which the agency is linked. -/
theorem Wired.getSectorOwnerSession (h : Wired D users m) (hapart : Apart D users) {k x : Nat}
    (hx : x ∈ D.sectorsOf k) : m.owner x = k ∧ m.getSectorOwnerSession x = some (.socket k) := by
  have hk := D.mem_sectorsOf.1 hx
  have howner : m.owner x = k := by
    rw [h.owner, owner_linkedManager, if_pos hk.1, hk.2]
    rfl
  refine ⟨howner, ?_⟩
  rw [SectorPostingManager.getSectorOwnerSession_eq, howner, h.link, link_linkedManager, if_neg]
  · exact List.ne_nil_of_mem hx
  · intro hu
    exact (hapart k hu).2 x hk.2

theorem Wired.sendToSectorOwner (h : Wired D users m) (hapart : Apart D users) {k x : Nat}
    (hx : x ∈ D.sectorsOf k) : m.sendToSectorOwner x = [k] := by
  obtain ⟨howner, hsession⟩ := h.getSectorOwnerSession hapart hx
  have hlink : m.link k = some (.socket k) := by
    rw [← howner, ← SectorPostingManager.getSectorOwnerSession_eq, hsession, howner]
  simp [SectorPostingManager.sendToSectorOwner, SectorPostingManager.sendTo,
    SectorPostingManager.reaches, howner, hlink]

/-- No other sector has an owner that is linked. -/
theorem Wired.mem_sectorsOf (h : Wired D users m) (hzero : ∀ x, D.owner x ≠ some 0)
    (hapart : Apart D users) {x : Nat} (hsome : m.getSectorOwnerSession x ≠ none) :
    x ∈ D.sectorsOf (m.owner x) := by
  by_contra hnot
  have howner : m.owner x = 0 := by
    rw [D.mem_sectorsOf, h.owner, owner_linkedManager] at hnot
    rw [h.owner, owner_linkedManager]
    split_ifs at hnot ⊢ with hx
    · cases hD : D.owner x with
      | none =>
          rfl
      | some k =>
          simp [hx, hD] at hnot
    · rfl
  rw [SectorPostingManager.getSectorOwnerSession_eq, howner, h.link, link_linkedManager,
    if_pos] at hsome
  · exact hsome rfl
  · rw [List.eq_nil_iff_forall_not_mem]
    intro y hy
    exact hzero y (D.mem_sectorsOf.1 hy).2
  · intro hmem
    exact (hapart 0 hmem).1 rfl

end Wired

/-! ## The clients on record -/

/-- The users whose spawn is asked for. -/
def spawnRequests (requests : List (Nat × AgencyPacket)) : List Nat :=
  requests.filterMap fun
    | (_, .spawnCharacterRq packet) => some packet.userId
    | _ => none

theorem spawnRequests_append (requests requests' : List (Nat × AgencyPacket)) :
    spawnRequests (requests ++ requests') = spawnRequests requests ++ spawnRequests requests' :=
  List.filterMap_append ..

theorem mem_spawnRequests {requests : List (Nat × AgencyPacket)} {u : Nat} :
    u ∈ spawnRequests requests ↔
      ∃ k packet, (k, .spawnCharacterRq packet) ∈ requests ∧ packet.userId = u := by
  rw [spawnRequests, List.mem_filterMap]
  constructor
  · rintro ⟨⟨k, packet⟩, hmem, hu⟩
    cases packet with
    | spawnCharacterRq packet =>
        exact ⟨k, packet, hmem, Option.some.inj hu⟩
    | _ =>
        cases hu
  · rintro ⟨k, packet, hmem, rfl⟩
    exact ⟨_, hmem, rfl⟩

structure Registered (site : Site) (s : Network) : Prop where
  reachable : ((Cluster.machine site.deployment).restrict Cluster.assignsFreshId).Reachable s.cluster
  apart : Apart site.deployment s.users
  wired : Wired site.deployment s.users s.agency.sectorPostingManager
  active : ∀ u session, s.agency.activeSessions.find u = some session → u ∈ s.users
  /-- A user is spawned once at most. -/
  nodup_users : (spawnRequests s.requests ++ s.spawned.map Prod.fst).Nodup
  users : ∀ u ∈ spawnRequests s.requests ++ s.spawned.map Prod.fst, u ∈ s.users
  routed : ∀ k packet, (k, .spawnCharacterRq packet) ∈ s.requests →
    packet.sectorId = initialSectorId ∧ initialSectorId ∈ site.deployment.sectorsOf k
  /-- An object is spawned for one user. -/
  nodup_objects : (s.spawned.map Prod.snd).Nodup
  issued : ∀ u o, (u, o) ∈ s.spawned → o ∈ s.cluster.issued ∧ o ≠ 0
  spawnResponses : ∀ k u info error, (k, .spawnCharacterRs u info error) ∈ s.notices →
    ∃ info', info = some info' ∧ (u, info'.objectId) ∈ s.spawned ∧
      info'.sectorId ∈ site.deployment.sectorsOf k
  promotions : ∀ k origin info, (k, .promoteObjectRq origin info) ∈ s.notices →
    info.objectId ∈ s.cluster.issued ∧ info.sectorId ∈ site.deployment.sectorsOf k
  sessions : ∀ u session, s.agency.activeSessions.find u = some session → session.objectId ≠ 0 →
    session.userId = u ∧ (u, session.objectId) ∈ s.spawned ∧
      s.agency.objectSessions.find session.objectId = some u ∧
      ∃ k, session.sectorId ∈ site.deployment.sectorsOf k
  objects : ∀ o u, s.agency.objectSessions.find o = some u → o ≠ 0 ∧
    ∃ session, s.agency.activeSessions.find u = some session ∧ session.objectId = o

/-- No id is given twice: neither to clients, among which there are no servers, nor to objects. -/
def Distinct (site : Site) (s : Network) : NetworkEvent → Prop
  | .accept =>
      s.agency.currentUniversalSessionId ∉ s.users ∧ s.agency.currentUniversalSessionId ≠ 0 ∧
        ∀ x, site.deployment.owner x ≠ some s.agency.currentUniversalSessionId
  | .serve index _ => ∀ k packet o, firstOf s.requests index = some (k, .spawnCharacterRq packet) →
      s.cluster.nextFixtureId k packet.sectorId = some o → o ∉ s.cluster.issued ∧ o ≠ 0
  | _ => True

namespace Registered

variable {site : Site} {s : Network}

theorem new (site : Site) : Registered site (Network.new site) where
  reachable := .init rfl
  apart := fun u hu => by cases hu
  wired := ⟨rfl, fun _ _ => rfl⟩
  active := fun u session h => by cases h
  nodup_users := List.nodup_nil
  users := fun u hu => by cases hu
  routed := fun k packet hmem => by cases hmem
  nodup_objects := List.nodup_nil
  issued := fun u o hmem => by cases hmem
  spawnResponses := fun k u info error hmem => by cases hmem
  promotions := fun k origin info hmem => by cases hmem
  sessions := fun u session h => by cases h
  objects := fun o u h => by cases h

/-- A user has one object. -/
theorem object_unique (h : Registered site s) {u o o' : Nat} (ho : (u, o) ∈ s.spawned)
    (ho' : (u, o') ∈ s.spawned) : o = o' := by
  have hnodup := (List.nodup_append.1 h.nodup_users).2.1
  exact congrArg Prod.snd (List.inj_on_of_nodup_map hnodup ho ho' rfl)

/-- An object has one user. -/
theorem user_unique (h : Registered site s) {u u' o : Nat} (hu : (u, o) ∈ s.spawned)
    (hu' : (u', o) ∈ s.spawned) : u = u' :=
  congrArg Prod.fst (List.inj_on_of_nodup_map h.nodup_objects hu hu' rfl)

theorem objectsActive (h : Registered site s) : ObjectsActive s.agency := by
  intro o u hclient
  obtain ⟨_, session, hsession, _⟩ := h.objects o u hclient
  exact ⟨session, hsession⟩

/-- Messages are taken from their channels. -/
theorem take (h : Registered site s) {requests : List (Nat × AgencyPacket)}
    {notices : List (Nat × Notice)} (hrequests : requests.Sublist s.requests)
    (hnotices : notices ⊆ s.notices) :
    Registered site { s with requests := requests, notices := notices } where
  reachable := h.reachable
  apart := h.apart
  wired := h.wired
  active := h.active
  nodup_users := h.nodup_users.sublist
    (List.Sublist.append_right (hrequests.filterMap _) _)
  users := fun u hu => h.users u
    ((List.Sublist.append_right (hrequests.filterMap _) _).subset hu)
  routed := fun k packet hmem => h.routed k packet (hrequests.subset hmem)
  nodup_objects := h.nodup_objects
  issued := h.issued
  spawnResponses := fun k u info error hmem => h.spawnResponses k u info error (hnotices hmem)
  promotions := fun k origin info hmem => h.promotions k origin info (hnotices hmem)
  sessions := h.sessions
  objects := h.objects

/-- An event that spawns nothing announces promotions only. -/
theorem notices_play (h : Registered site s) {e : Event}
    (hspawn : ∀ k agency packet now, e ≠ .spawn k agency packet now)
    (hstep : (Cluster.machine site.deployment).step s.cluster e
      (s.cluster.next site.deployment e)) :
    ∀ n ∈ noticesOf site.agencyId s.cluster e, isAnnouncement n.2 = false ∨
      ∃ k origin info, n = (k, .promoteObjectRq origin info) ∧ info.objectId ∈ s.cluster.issued ∧
        info.sectorId ∈ site.deployment.sectorsOf k := by
  have hsingle := (Cluster.holding_singleOwner h.reachable).views
  choose place hplace using fun o => exists_located (hsingle o)
  rcases announced_play h.reachable hplace hspawn hstep site.agencyId with
    ⟨hsilent, _⟩ | ⟨k, info, rest, hnotices, hsilent, hid, hx, _⟩
  · exact fun n hn => .inl (hsilent n hn)
  · intro n hn
    rw [hnotices] at hn
    rcases List.mem_cons.1 hn with rfl | hn
    · exact .inr ⟨k, _, info, rfl, hid, hx⟩
    · exact .inl (hsilent n hn)

/-- An event of the cluster that spawns nothing. -/
theorem play (h : Registered site s) {e : Event}
    (hspawn : ∀ k agency packet now, e ≠ .spawn k agency packet now)
    (hstep : (Cluster.machine site.deployment).step s.cluster e
      (s.cluster.next site.deployment e)) : Registered site (s.play site e) := by
  -- nothing is spawned, so that nothing about the clients changes
  have hnone : spawns s.cluster e = [] := by
    cases e with
    | spawn k agency packet now =>
        exact absurd rfl (hspawn k agency packet now)
    | _ =>
        rfl
  have hfresh := assignsFreshId_of_ne (c := s.cluster) hspawn
  have hspawned : (s.play site e).spawned = s.spawned := by
    simp [Network.play, hnone]
  have hissued : (s.play site e).cluster.issued = s.cluster.issued := by
    simp [Network.play, issued_next, hnone]
  have hnotices := h.notices_play hspawn hstep
  exact {
    reachable := h.reachable.step_restrict hstep hfresh
    apart := h.apart
    wired := h.wired
    active := h.active
    nodup_users := hspawned ▸ h.nodup_users
    users := hspawned ▸ h.users
    routed := h.routed
    nodup_objects := hspawned ▸ h.nodup_objects
    issued := by
      rw [hspawned, hissued]
      exact h.issued
    spawnResponses := by
      intro k u info error hmem
      rw [hspawned]
      rcases List.mem_append.1 hmem with hmem | hmem
      · exact h.spawnResponses k u info error hmem
      · rcases hnotices _ hmem with hfalse | ⟨_, _, _, heq, _⟩
        · cases hfalse
        · cases heq
    promotions := by
      intro k origin info hmem
      rw [hissued]
      rcases List.mem_append.1 hmem with hmem | hmem
      · exact h.promotions k origin info hmem
      · rcases hnotices _ hmem with hfalse | ⟨_, _, _, heq, hid, hx⟩
        · cases hfalse
        · cases heq
          exact ⟨hid, hx⟩
    sessions := hspawned ▸ h.sessions
    objects := h.objects }

/-- A spawn that is asked for: the request is gone, the object on record. -/
theorem spawn (h : Registered site s) {index : Nat} {k : Nat} {packet : SpawnCharacterRq}
    {now : Milliseconds}
    (hhead : firstOf s.requests index = some (k, .spawnCharacterRq packet))
    (hdistinct : ∀ o, s.cluster.nextFixtureId k packet.sectorId = some o →
      o ∉ s.cluster.issued ∧ o ≠ 0)
    (hstep : (Cluster.machine site.deployment).step s.cluster (.spawn k site.agencyId packet now)
      (s.cluster.next site.deployment (.spawn k site.agencyId packet now))) :
    ∃ info : ObjectInfo, s.cluster.nextFixtureId k packet.sectorId = some info.objectId ∧
      info.sectorId = initialSectorId ∧
      noticesOf site.agencyId s.cluster (.spawn k site.agencyId packet now) =
        [(k, .spawnCharacterRs packet.userId (some info) .None)] ∧
      Registered site (({ s with requests := s.requests.eraseIdx index } : Network).play site
        (.spawn k site.agencyId packet now)) := by
  obtain ⟨hsector, hx⟩ := h.routed k packet (mem_of_firstOf hhead)
  have hfresh : s.cluster.assignsFreshId (.spawn k site.agencyId packet now) :=
    fun o ho => (hdistinct o ho).1
  have hsingle := (Cluster.holding_singleOwner h.reachable).views
  choose place hplace using fun o => exists_located (hsingle o)
  obtain ⟨info, hid, hinfo, hnotices, _⟩ :=
    announced_spawn h.reachable hplace (hsector ▸ hx) hfresh hstep
  obtain ⟨hnew, hzero⟩ := hdistinct _ hid
  refine ⟨info, hid, hinfo.trans hsector, hnotices, ?_⟩
  have hspawns : spawns s.cluster (.spawn k site.agencyId packet now) =
      [(packet.userId, info.objectId)] := by
    simp [spawns, hid]
  have hissued : (s.cluster.next site.deployment (.spawn k site.agencyId packet now)).issued =
      s.cluster.issued ++ [info.objectId] := by
    rw [issued_next, hspawns]
    rfl
  -- the user has moved from the requests to the record
  obtain ⟨hsplit, herase⟩ := firstOf_split hhead
  have hperm : (spawnRequests (s.requests.eraseIdx index) ++
      (s.spawned ++ [(packet.userId, info.objectId)]).map Prod.fst).Perm
      (spawnRequests s.requests ++ s.spawned.map Prod.fst) := by
    rw [herase]
    conv_rhs => rw [hsplit]
    rw [spawnRequests_append, spawnRequests_append, List.map_append, List.append_assoc,
      List.append_assoc]
    refine List.Perm.append_left _ ?_
    rw [← List.append_assoc]
    exact List.perm_append_singleton _ _
  have hspawned : ∀ {u o}, (u, o) ∈ s.spawned → (u, o) ∈ s.spawned ++
      spawns s.cluster (.spawn k site.agencyId packet now) :=
    fun hmem => List.mem_append_left _ hmem
  exact {
    reachable := h.reachable.step_restrict hstep hfresh
    apart := h.apart
    wired := h.wired
    active := h.active
    nodup_users := by
      change (_ ++ (s.spawned ++ spawns s.cluster _).map Prod.fst).Nodup
      rw [hspawns]
      exact hperm.symm.nodup h.nodup_users
    users := by
      change ∀ u ∈ _ ++ (s.spawned ++ spawns s.cluster _).map Prod.fst, _
      rw [hspawns]
      exact fun u hu => h.users u (hperm.subset hu)
    routed := fun k' packet' hmem => h.routed k' packet' (List.mem_of_mem_eraseIdx hmem)
    nodup_objects := by
      change ((s.spawned ++ spawns s.cluster _).map Prod.snd).Nodup
      rw [hspawns, List.map_append]
      refine List.Nodup.append h.nodup_objects (List.nodup_singleton _) ?_
      intro o ho hmem
      obtain ⟨⟨u, o'⟩, hmem', rfl⟩ := List.mem_map.1 ho
      have heq : o' = info.objectId := List.mem_singleton.1 hmem
      exact hnew (heq ▸ (h.issued u o' hmem').1)
    issued := by
      intro u o hmem
      change (u, o) ∈ s.spawned ++ spawns s.cluster _ at hmem
      change o ∈ (s.cluster.next site.deployment _).issued ∧ o ≠ 0
      rw [hspawns] at hmem
      rw [hissued]
      rcases List.mem_append.1 hmem with hmem | hmem
      · obtain ⟨hold, hne⟩ := h.issued u o hmem
        exact ⟨List.mem_append_left _ hold, hne⟩
      · cases List.mem_singleton.1 hmem
        exact ⟨List.mem_append_right _ List.mem_cons_self, hzero⟩
    spawnResponses := by
      intro k' u info' error hmem
      change (k', Notice.spawnCharacterRs u info' error) ∈ s.notices ++ noticesOf _ s.cluster _ at hmem
      rw [hnotices] at hmem
      rcases List.mem_append.1 hmem with hmem | hmem
      · obtain ⟨info'', hsome, hmem', hx'⟩ := h.spawnResponses k' u info' error hmem
        exact ⟨info'', hsome, hspawned hmem', hx'⟩
      · cases List.mem_singleton.1 hmem
        refine ⟨info, rfl, ?_, ?_⟩
        · change _ ∈ s.spawned ++ spawns s.cluster _
          rw [hspawns]
          exact List.mem_append_right _ List.mem_cons_self
        · rw [hinfo, hsector]
          exact hx
    promotions := by
      intro k' origin info' hmem
      change (k', Notice.promoteObjectRq origin info') ∈ s.notices ++ noticesOf _ s.cluster _ at hmem
      change info'.objectId ∈ (s.cluster.next site.deployment _).issued ∧ _
      rw [hnotices] at hmem
      rw [hissued]
      rcases List.mem_append.1 hmem with hmem | hmem
      · obtain ⟨hold, hx'⟩ := h.promotions k' origin info' hmem
        exact ⟨List.mem_append_left _ hold, hx'⟩
      · cases List.mem_singleton.1 hmem
    sessions := by
      intro u session hsession hne
      obtain ⟨huser, hmem, hclient, hk⟩ := h.sessions u session hsession hne
      exact ⟨huser, hspawned hmem, hclient, hk⟩
    objects := h.objects }

/-- A handler of the agency that asks for no spawn. -/
theorem absorb (h : Registered site s) {r : AgencyOutcome} (hrequests : spawnRequests r.requests = [])
    (hwired : Wired site.deployment s.users r.agency.sectorPostingManager)
    (hactive : ∀ u session, r.agency.activeSessions.find u = some session → u ∈ s.users)
    (hsessions : ∀ u session, r.agency.activeSessions.find u = some session → session.objectId ≠ 0 →
      session.userId = u ∧ (u, session.objectId) ∈ s.spawned ∧
        r.agency.objectSessions.find session.objectId = some u ∧
        ∃ k, session.sectorId ∈ site.deployment.sectorsOf k)
    (hobjects : ∀ o u, r.agency.objectSessions.find o = some u → o ≠ 0 ∧
      ∃ session, r.agency.activeSessions.find u = some session ∧ session.objectId = o) :
    Registered site (s.absorb r) := by
  have hspawns : spawnRequests (s.requests ++ r.requests) = spawnRequests s.requests := by
    rw [spawnRequests_append, hrequests, List.append_nil]
  exact {
    reachable := h.reachable
    apart := h.apart
    wired := hwired
    active := hactive
    nodup_users := by
      change (spawnRequests (s.requests ++ r.requests) ++ _).Nodup
      rw [hspawns]
      exact h.nodup_users
    users := by
      change ∀ u ∈ spawnRequests (s.requests ++ r.requests) ++ _, _
      rw [hspawns]
      exact h.users
    routed := by
      intro k packet hmem
      rcases List.mem_append.1 hmem with hmem | hmem
      · exact h.routed k packet hmem
      · have hmem' : packet.userId ∈ spawnRequests r.requests :=
          mem_spawnRequests.2 ⟨k, packet, hmem, rfl⟩
        rw [hrequests] at hmem'
        cases hmem'
    nodup_objects := h.nodup_objects
    issued := h.issued
    spawnResponses := h.spawnResponses
    promotions := h.promotions
    sessions := hsessions
    objects := hobjects }

/-- A handler of the agency that leaves the clients alone. -/
theorem absorb_same (h : Registered site s) {r : AgencyOutcome}
    (hsame : SameClients s.agency r.agency) (hrequests : spawnRequests r.requests = []) :
    Registered site (s.absorb r) := by
  refine h.absorb hrequests (hsame.manager ▸ h.wired) (hsame.sessions ▸ h.active) ?_ ?_
  · rw [hsame.sessions, hsame.objects]
    exact h.sessions
  · rw [hsame.sessions, hsame.objects]
    exact h.objects

/-- A client comes. -/
theorem accept (h : Registered site s) (hdistinct : Distinct site s .accept) :
    Registered site (s.next site .accept) := by
  obtain ⟨hnew, hzero, hserver⟩ := hdistinct
  let u := s.agency.currentUniversalSessionId
  obtain ⟨hsessions, hobjects, _, hcases⟩ := s.agency.accept_spec
  have hsub : s.users ⊆ s.users ++ [u] := List.subset_append_left _ _
  have hself : u ∈ s.users ++ [u] := List.mem_append_right _ List.mem_cons_self
  have hapart : Apart site.deployment (s.users ++ [u]) := by
    intro u' hu'
    rcases List.mem_append.1 hu' with hu' | hu'
    · exact h.apart u' hu'
    · rw [List.mem_singleton.1 hu']
      exact ⟨hzero, hserver⟩
  -- the request that may be new is routed to the server of the sector that clients enter
  have hrequests : (spawnRequests s.agency.accept.requests = [] ∨
      spawnRequests s.agency.accept.requests = [u]) ∧
      (∀ k packet, (k, AgencyPacket.spawnCharacterRq packet) ∈ s.agency.accept.requests →
        packet.sectorId = initialSectorId ∧ initialSectorId ∈ site.deployment.sectorsOf k) := by
    rcases hcases with ⟨_, _, hnil⟩ | ⟨hsome, _, hone⟩
    · rw [hnil]
      exact ⟨.inl rfl, fun k packet hmem => by cases hmem⟩
    · rw [hone]
      refine ⟨.inr rfl, fun k packet hmem => ?_⟩
      cases List.mem_singleton.1 hmem
      exact ⟨rfl, h.wired.mem_sectorsOf site.nonzero h.apart hsome⟩
  have hspawns : spawnRequests (s.requests ++ s.agency.accept.requests) =
      spawnRequests s.requests ++ spawnRequests s.agency.accept.requests :=
    spawnRequests_append _ _
  have hperm : (spawnRequests s.requests ++ spawnRequests s.agency.accept.requests ++
      s.spawned.map Prod.fst).Perm (spawnRequests s.agency.accept.requests ++
        (spawnRequests s.requests ++ s.spawned.map Prod.fst)) := by
    rw [← List.append_assoc]
    exact List.Perm.append_right _ List.perm_append_comm
  have hwired : Wired site.deployment (s.users ++ [u])
      s.agency.accept.agency.sectorPostingManager := by
    rcases hcases with ⟨_, hmanager, _⟩ | ⟨_, hmanager, _⟩
    · rw [hmanager]
      exact h.wired.mono hsub
    · rw [hmanager]
      exact (h.wired.mono hsub).linkSession hself _
  exact {
    reachable := h.reachable
    apart := hapart
    wired := hwired
    active := by
      intro u' session hsession
      change s.agency.accept.agency.activeSessions.find u' = some session at hsession
      rw [hsessions, UnorderedMap.find_insert] at hsession
      split_ifs at hsession with hu
      · rw [hu]
        exact hself
      · exact hsub (h.active u' session hsession)
    nodup_users := by
      change (spawnRequests (s.requests ++ s.agency.accept.requests) ++ _).Nodup
      rw [hspawns]
      refine hperm.symm.nodup ?_
      rcases hrequests.1 with hnil | hone
      · rw [hnil]
        exact h.nodup_users
      · rw [hone]
        exact List.nodup_cons.2 ⟨fun hmem => hnew (h.users u hmem), h.nodup_users⟩
    users := by
      change ∀ u' ∈ spawnRequests (s.requests ++ s.agency.accept.requests) ++ _, _ ∈ s.users ++ [u]
      intro u' hu'
      rw [hspawns] at hu'
      rcases List.mem_append.1 (hperm.subset hu') with hu' | hu'
      · rcases hrequests.1 with hnil | hone
        · rw [hnil] at hu'
          cases hu'
        · rw [hone] at hu'
          rw [List.mem_singleton.1 hu']
          exact hself
      · exact hsub (h.users u' hu')
    routed := by
      intro k packet hmem
      rcases List.mem_append.1 hmem with hmem | hmem
      · exact h.routed k packet hmem
      · exact hrequests.2 k packet hmem
    nodup_objects := h.nodup_objects
    issued := h.issued
    spawnResponses := h.spawnResponses
    promotions := h.promotions
    sessions := by
      intro u' session hsession hne
      change s.agency.accept.agency.activeSessions.find u' = some session at hsession
      change _ ∧ _ ∧ s.agency.accept.agency.objectSessions.find _ = _ ∧ _
      rw [hsessions, UnorderedMap.find_insert] at hsession
      rw [hobjects]
      split_ifs at hsession
      · cases hsession
        exact absurd rfl hne
      · exact h.sessions u' session hsession hne
    objects := by
      intro o u' hclient
      change s.agency.accept.agency.objectSessions.find o = some u' at hclient
      change _ ∧ ∃ session, s.agency.accept.agency.activeSessions.find u' = some session ∧ _
      rw [hobjects] at hclient
      obtain ⟨hne, session, hsession, ho⟩ := h.objects o u' hclient
      refine ⟨hne, session, ?_, ho⟩
      have hu : u' ≠ u := by
        rintro rfl
        exact hnew (h.active _ session hsession)
      rw [hsessions]
      exact (UnorderedMap.find_insert_of_ne _ hu _).trans hsession }

/-- A client goes. -/
theorem close (h : Registered site s) (u : Nat) (toOwner : Bool) :
    Registered site (s.next site (.close u toOwner)) := by
  cases hsession : s.agency.activeSessions.find u with
  | none =>
      have hsame := h.absorb_same (r := s.agency.close u toOwner)
        (by rw [AgencyWorker.close_of_none hsession]; exact ⟨rfl, rfl, rfl⟩)
        (by rw [AgencyWorker.close_of_none hsession]; rfl)
      exact { hsame with }
  | some session =>
      have hu := h.active u session hsession
      obtain ⟨hsessions, _, hcases⟩ := AgencyWorker.close_spec hsession toOwner
      let r := s.agency.close u toOwner
      have hrequests : ∀ k packet, (k, packet) ∈ r.requests →
          ∃ packet', packet = .removeCharacterRq packet' := by
        intro k packet hmem
        rcases hcases with ⟨_, _, _, hnil⟩ | ⟨_, _, _, hmap⟩
        · rw [hnil] at hmem
          cases hmem
        · rw [hmap] at hmem
          obtain ⟨_, _, heq⟩ := List.mem_map.1 hmem
          cases heq
          exact ⟨_, rfl⟩
      have hspawns : spawnRequests r.requests = [] := by
        rw [List.eq_nil_iff_forall_not_mem]
        intro u' hu'
        obtain ⟨k, packet, hmem, _⟩ := mem_spawnRequests.1 hu'
        obtain ⟨_, heq⟩ := hrequests k _ hmem
        cases heq
      have hwired : Wired site.deployment s.users r.agency.sectorPostingManager := by
        have hunset := h.wired.unsetAll h.apart hu
        rcases hcases with ⟨_, _, hmanager, _⟩ | ⟨_, _, hmanager, _⟩
        · rw [hmanager]
          exact hunset
        · rw [hmanager]
          exact hunset.unsetAll h.apart hu
      -- the objects of the other clients stay
      have hobjects : ∀ o u', u' ≠ u → (r.agency.objectSessions.find o = some u' ↔
          s.agency.objectSessions.find o = some u') := by
        intro o u' hne
        rcases hcases with ⟨_, hobjects, _⟩ | ⟨hzero, hobjects, _⟩
        · rw [hobjects]
        · rw [hobjects, UnorderedMap.find_erase]
          split_ifs with ho
          · rw [ho, (h.sessions u session hsession hzero).2.2.1]
            simp [hne.symm]
          · rfl
      have hnone : ∀ o, r.agency.objectSessions.find o ≠ some u := by
        intro o hclient
        rcases hcases with ⟨hzero, hobjects, _⟩ | ⟨_, hobjects, _⟩
        · rw [hobjects] at hclient
          obtain ⟨hne, session', hsession', ho⟩ := h.objects o u hclient
          rw [hsession] at hsession'
          cases hsession'
          exact hne (ho.symm.trans hzero)
        · rw [hobjects, UnorderedMap.find_erase] at hclient
          split_ifs at hclient with ho
          obtain ⟨_, session', hsession', ho'⟩ := h.objects o u hclient
          rw [hsession] at hsession'
          cases hsession'
          exact ho ho'.symm
      have hclosed : Registered site (s.absorb r) := by
        refine h.absorb hspawns hwired ?_ ?_ ?_
        · intro u' session' hsession'
          rw [hsessions, UnorderedMap.find_erase] at hsession'
          split_ifs at hsession'
          exact h.active u' session' hsession'
        · intro u' session' hsession' hne
          rw [hsessions, UnorderedMap.find_erase] at hsession'
          split_ifs at hsession' with hu'
          obtain ⟨huser, hmem, hclient, hk⟩ := h.sessions u' session' hsession' hne
          exact ⟨huser, hmem, (hobjects _ u' hu').2 hclient, hk⟩
        · intro o u' hclient
          have hu' : u' ≠ u := by
            rintro rfl
            exact hnone o hclient
          obtain ⟨hne, session', hsession', ho⟩ := h.objects o u' ((hobjects o u' hu').1 hclient)
          refine ⟨hne, session', ?_, ho⟩
          rw [hsessions]
          exact (UnorderedMap.find_erase_of_ne _ hu').trans hsession'
      exact { hclosed with }

/-- The response to a spawn is heard. -/
theorem enter (h : Registered site s) {u : Nat} {info : ObjectInfo}
    (hspawned : (u, info.objectId) ∈ s.spawned)
    (hx : ∃ k, info.sectorId ∈ site.deployment.sectorsOf k) (source : Nat) (now : Milliseconds) :
    Registered site (s.absorb (s.agency.onPlaySpawnCharacterRes source u info now)) := by
  obtain ⟨_, hcases⟩ := AgencyWorker.onPlaySpawnCharacterRes_spec (s := s.agency) source u info now
  rcases hcases with ⟨_, hsame, hrequests⟩ | ⟨hactive, hsessions, hobjects, hmanager, hrequests⟩
  · refine h.absorb_same hsame ?_
    rw [hrequests]
    rfl
  obtain ⟨session₀, hsession₀⟩ := Option.ne_none_iff_exists'.1 hactive
  refine h.absorb (by rw [hrequests]; rfl) ?_ ?_ ?_ ?_
  · rw [hmanager]
    exact h.wired.addSectorListener _ _
  · intro u' session hsession
    rw [hsessions, UnorderedMap.find_insert] at hsession
    split_ifs at hsession with hu
    · rw [hu]
      exact h.active u session₀ hsession₀
    · exact h.active u' session hsession
  · intro u' session hsession hne
    rw [hobjects, UnorderedMap.find_insert]
    rw [hsessions, UnorderedMap.find_insert] at hsession
    split_ifs at hsession with hu
    · cases hsession
      subst hu
      exact ⟨rfl, hspawned, if_pos rfl, hx⟩
    · obtain ⟨huser, hmem, hclient, hk⟩ := h.sessions u' session hsession hne
      refine ⟨huser, hmem, ?_, hk⟩
      rw [if_neg]
      · exact hclient
      · intro ho
        rw [ho] at hmem
        exact hu (h.user_unique hmem hspawned)
  · intro o u' hclient
    rw [hobjects, UnorderedMap.find_insert] at hclient
    rw [hsessions]
    split_ifs at hclient with ho
    · cases hclient
      refine ⟨ho ▸ (h.issued u _ hspawned).2, _, UnorderedMap.find_insert_self _ _ _, ho.symm⟩
    · obtain ⟨hne, session, hsession, hobject⟩ := h.objects o u' hclient
      refine ⟨hne, session, ?_, hobject⟩
      rw [UnorderedMap.find_insert_of_ne]
      · exact hsession
      · -- the client would have two objects
        rintro rfl
        obtain ⟨_, hmem, _⟩ := h.sessions _ session hsession (hobject ▸ hne)
        exact ho (hobject ▸ h.object_unique hmem hspawned)

/-- A promotion is heard. -/
theorem follow (h : Registered site s) {info : ObjectInfo}
    (hx : ∃ k, info.sectorId ∈ site.deployment.sectorsOf k) (origin : Nat) (now : Milliseconds) :
    Registered site (s.absorb (s.agency.onPlayPromoteObjectReq origin info now)) := by
  rcases AgencyWorker.onPlayPromoteObjectReq_cases h.objectsActive origin info now with
    ⟨hsame, hrequests⟩ | ⟨u, session₀, hclient₀, hsession₀, hsessions, hobjects, hmanager, hrequests⟩
  · refine h.absorb_same hsame ?_
    rw [hrequests]
    rfl
  refine h.absorb (by rw [hrequests]; rfl) ?_ ?_ ?_ ?_
  · rw [hmanager]
    exact (h.wired.removeSectorListener _ _).addSectorListener _ _
  · intro u' session hsession
    rw [hsessions, UnorderedMap.find_insert] at hsession
    split_ifs at hsession with hu
    · rw [hu]
      exact h.active u session₀ hsession₀
    · exact h.active u' session hsession
  · intro u' session hsession hne
    rw [hobjects]
    rw [hsessions, UnorderedMap.find_insert] at hsession
    split_ifs at hsession with hu
    · -- only the sector of the client has changed
      cases hsession
      obtain ⟨huser, hmem, hclient, _⟩ := h.sessions u session₀ hsession₀ hne
      subst hu
      exact ⟨huser, hmem, hclient, hx⟩
    · exact h.sessions u' session hsession hne
  · intro o u' hclient
    rw [hobjects] at hclient
    rw [hsessions]
    obtain ⟨hne, session, hsession, hobject⟩ := h.objects o u' hclient
    refine ⟨hne, ?_⟩
    by_cases hu : u' = u
    · subst hu
      rw [hsession₀] at hsession
      cases hsession
      exact ⟨_, UnorderedMap.find_insert_self _ _ _, hobject⟩
    · exact ⟨session, (UnorderedMap.find_insert_of_ne _ hu _).trans hsession, hobject⟩

/-- A notice is heard. -/
theorem hear (h : Registered site s) (index : Nat) (now : Milliseconds) (unset : ObjectInfo) :
    Registered site (s.next site (.hear index now unset)) := by
  cases hhead : firstOf s.notices index with
  | none =>
      simp only [Network.next, hhead]
      exact h
  | some e =>
      obtain ⟨source, notice⟩ := e
      have hmem := mem_of_firstOf hhead
      have htaken := h.take (List.Sublist.refl _) (List.eraseIdx_sublist s.notices index).subset
      simp only [Network.next, hhead]
      cases hnotice : isAnnouncement notice with
      | false =>
          obtain ⟨hsame, _, hrequests⟩ :=
            AgencyWorker.sameClients_onIntraServerData h.objectsActive source hnotice unset now
          exact htaken.absorb_same hsame (by rw [hrequests]; rfl)
      | true =>
          cases notice with
          | spawnCharacterRs u info error =>
              obtain ⟨info', rfl, hspawned, hx⟩ := h.spawnResponses _ _ _ _ hmem
              exact htaken.enter hspawned ⟨_, hx⟩ _ _
          | promoteObjectRq origin info =>
              exact htaken.follow ⟨_, (h.promotions _ _ _ hmem).2⟩ _ _
          | _ =>
              cases hnotice

/-- A request reaches its server. -/
theorem serve (h : Registered site s) {index : Nat} {now : Milliseconds}
    (henabled : s.Enabled (.serve index now)) (hdistinct : Distinct site s (.serve index now)) :
    Registered site (s.next site (.serve index now)) := by
  obtain ⟨k, packet, hhead, hrunning⟩ := henabled
  have htaken := h.take (List.eraseIdx_sublist s.requests index) (List.Subset.refl _)
  have hstep : ∀ e, s.cluster.actor e = some k →
      (Cluster.machine site.deployment).step s.cluster e (s.cluster.next site.deployment e) :=
    fun e hactor => ⟨⟨k, hactor, hrunning⟩, rfl⟩
  simp only [Network.next, hhead]
  cases packet with
  | spawnCharacterRq packet =>
      obtain ⟨_, _, _, _, hspawned⟩ :=
        h.spawn hhead (fun o ho => hdistinct k packet o hhead ho) (hstep _ rfl)
      exact hspawned
  | characterMoveRq packet =>
      exact htaken.play (fun _ _ _ _ heq => by cases heq) (hstep _ rfl)
  | removeCharacterRq packet =>
      exact htaken.play (fun _ _ _ _ heq => by cases heq) (hstep _ rfl)
  | removeCharacterRs u x o =>
      exact htaken

/-- A client moves. -/
theorem move (h : Registered site s) (u : Nat) (position : Vector2) (direction : Direction) :
    Registered site (s.next site (.move u position direction)) := by
  obtain ⟨hagency, _, hrequests⟩ := s.agency.onClientData_spec u position direction
  refine h.absorb_same (by rw [hagency]; exact ⟨rfl, rfl, rfl⟩) ?_
  rw [List.eq_nil_iff_forall_not_mem]
  intro u' hu'
  obtain ⟨k, packet, hmem, _⟩ := mem_spawnRequests.1 hu'
  obtain ⟨_, heq⟩ := hrequests k _ hmem
  cases heq

theorem next (h : Registered site s) {e : NetworkEvent} (henabled : s.Enabled e)
    (hdistinct : Distinct site s e) : Registered site (s.next site e) := by
  cases e with
  | accept =>
      exact h.accept hdistinct
  | close u toOwner =>
      exact h.close u toOwner
  | move u position direction =>
      exact h.move u position direction
  | serve index now =>
      exact h.serve henabled hdistinct
  | hear index now unset =>
      exact h.hear index now unset
  | play e =>
      refine h.play ?_ ⟨henabled.2, rfl⟩
      rintro k agency packet now rfl
      exact henabled.1

end Registered

end Agency
end SeamlessServer
