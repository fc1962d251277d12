import SeamlessServer.Agency.Worker
import SeamlessServer.Game.Records

/-!
# Agency.Records — an agency with the sessions of its clients and servers

A `GameServer` with the members that `AgencyWorker` adds, and the sessions behind its records.  The
user data of a session, its `AgencySessionValue`s included, lives as long as the session; a record
lives until the session is closed, or until `Reset`; and `_object_sessions` points to records.

A server of another kind is one that gets no packets of play servers here: `_object_sessions` stays
empty, and what the derived class does to the posting manager is `derived`.
-/

namespace SeamlessServer
namespace Agency

open Game Protocol Utility

structure AgencyServer where
  server : GameServer
  /-- The `AgencySessionValue`s of a session. -/
  values : Nat → SessionValues
  /-- The record of an object's client, by its key in `_active_sessions`. -/
  objectSessions : UnorderedMap Nat Nat
  objectCache : Nat → UnorderedMap Nat Fixture
  /-- The sessions that were reported and whose `SessionClosed` has not been dispatched. -/
  opened : Nat → Bool

inductive AgencyServerEvent
  | connected (session attachment : Nat)
  | accepted (session : Nat) (user : Bool)
  | closed (session : Nat)
  /-- A packet over the connection to the supervisor. -/
  | supervisorPacket (session : Nat) (packet : SupervisorPacket)
  /-- A packet over another session. -/
  | data (session : Nat) (packet : DataPacket)
  /-- A packet that has come to `OnIntraServerData`. -/
  | intraData (packet : IntraPacket) (now : Milliseconds)
  | derived (operation : PostingOperation)
  | rehash (serverSessions activeSessions objectSessions : List Nat)

namespace AgencyServer

def initialized (config : Configuration) : AgencyServer where
  server := GameServer.initialized config
  values := fun _ => {}
  objectSessions := UnorderedMap.empty
  objectCache := fun _ => UnorderedMap.empty
  opened := fun _ => false

variable (s : AgencyServer)

def setPosting (m : SectorPostingManager) : AgencyServer :=
  { s with server := { s.server with sectorPostingManager := m } }

def setValues (session : Nat) (values : SessionValues) : AgencyServer :=
  { s with values := Function.update s.values session values }

/-- `_object_cache[sector_id][object_id] = fixture`. -/
def cache (sectorId objectId : Nat) (fixture : Fixture) : AgencyServer :=
  { s with
    objectCache := Function.update s.objectCache sectorId
      ((s.objectCache sectorId).insert objectId fixture) }

/-! ## Sessions -/

/-- `OnClientAccepted`; the request to spawn is not part of this state. -/
def onClientAccepted (userId session : Nat) : AgencyServer :=
  let m := s.server.sectorPostingManager
  match m.getSectorOwnerSession initialSectorId with
  | none => s
  | some _ => s.setPosting (m.linkSession userId (some (.socket session)))

/-- A session is new, with empty user data. -/
def opens (session : Nat) (server : GameServer) : AgencyServer :=
  { s with
    server := server
    values := Function.update s.values session {}
    opened := Function.update s.opened session true }

def onSocketSessionConnected (session attachment : Nat) : AgencyServer :=
  s.opens session (s.server.onSocketSessionConnected session attachment).1

def onSocketSessionAccepted (session : Nat) (user : Bool) : AgencyServer :=
  let userId := s.server.currentUniversalSessionId
  let accepted := s.opens session (s.server.onSocketSessionAccepted session user).1
  if user && s.server.serviceReady then accepted.onClientAccepted userId session else accepted

/-- `OnClientClosed`. -/
def onClientClosed (client : UniversalSessionInfo) : AgencyServer :=
  match client.session with
  | some (.socket session) =>
      let objectId := (s.values session).objectId
      if objectId = 0 then
        s
      else
        { s.setPosting (s.server.sectorPostingManager.unsetAll client.universalSessionId) with
          objectSessions := s.objectSessions.erase objectId }
  | _ => s

/-- The record a session points to, if it is a client's. -/
def clientOf (session : Nat) : Option UniversalSessionInfo :=
  ((s.server.userData session).info.bind s.server.dereference).filter UniversalSessionInfo.isClient

/-- `OnSocketSessionClosed`.  The record is erased when the handler is left, after `OnClientClosed`,
which does not look for it. -/
def onSocketSessionClosed (session : Nat) : Option AgencyServer :=
  (s.server.onSocketSessionClosed session).map fun server =>
    let closed := { s with server := server, opened := Function.update s.opened session false }
    match s.clientOf session with
    | none => closed
    | some client => closed.onClientClosed client

/-! ## Packets of play servers -/

/-- `OnPlaySpawnCharacterRes`; nothing is a null session. -/
def onPlaySpawnCharacterRes (userId : Nat) (info : ObjectInfo) (now : Milliseconds) :
    Option AgencyServer :=
  let info := { info with fixture := { info.fixture with lastTransformTime := now } }
  let s := s.cache info.sectorId info.objectId info.fixture
  match s.server.activeSessions.find userId with
  | none => some s
  | some client =>
      match client.session with
      | some (.socket session) =>
          let entered := s.setValues session ⟨userId, info.objectId, info.sectorId⟩
          let entered := { entered with
            objectSessions := s.objectSessions.insert info.objectId userId }
          some (entered.setPosting
            (s.server.sectorPostingManager.addSectorListener info.sectorId userId))
      | _ => none

/-- `OnPlayPromoteObjectReq`; nothing is a dangling record, a null session or the failed assertion that
the client is in the sector of origin. -/
def onPlayPromoteObjectReq (originSectorId : Nat) (info : ObjectInfo) : Option AgencyServer :=
  let m := s.server.sectorPostingManager
  if (m.getSectorOwnerSession info.sectorId).isNone ∨
      (m.getSectorOwnerSession originSectorId).isNone then
    some s
  else
    match (s.objectCache originSectorId).find info.objectId with
    | none => some s
    | some _ =>
        let s := s.cache info.sectorId info.objectId info.fixture
        match s.objectSessions.find info.objectId with
        | none => some s
        | some userId =>
            match s.server.activeSessions.find userId with
            | none => none
            | some client =>
                match client.session with
                | some (.socket session) =>
                    if (s.values session).sectorId ≠ originSectorId then
                      none
                    else
                      let entered := s.setValues session
                        { s.values session with sectorId := info.sectorId }
                      some (entered.setPosting
                        ((m.removeSectorListener originSectorId client.universalSessionId)
                          |>.addSectorListener info.sectorId client.universalSessionId))
                | _ => none

/-- The agency of `Agency.Worker`, for the handlers that touch the cache only. -/
def worker : AgencyWorker where
  currentUniversalSessionId := s.server.currentUniversalSessionId
  activeSessions := s.server.activeSessions.map fun client =>
    ((client.session.bind SessionRef.socketId).map s.values).getD {}
  objectSessions := s.objectSessions
  objectCache := s.objectCache
  sectorPostingManager := s.server.sectorPostingManager

/-- `OnIntraServerData`. -/
def onIntraServerData (packet : IntraPacket) (now : Milliseconds) : Option AgencyServer :=
  match packet with
  | .spawnCharacterRs userId info _ => s.onPlaySpawnCharacterRes userId info now
  | .promoteObjectRq originSectorId info => s.onPlayPromoteObjectReq originSectorId info
  | packet =>
      let outcome := s.worker.onIntraServerData 0 packet now
      if outcome.fault.isSome then none
      else some { s with objectCache := outcome.agency.objectCache }

/-! ## Runs -/

/-- One event.  What `OnClientData` does with the packets of clients is not part of this state. -/
inductive Step (config : Configuration) : AgencyServer → AgencyServerEvent → AgencyServer → Prop where
  | connected {s : AgencyServer} {session attachment : Nat} :
      s.opened session = false →
        Step config s (.connected session attachment) (s.onSocketSessionConnected session attachment)
  | accepted {s : AgencyServer} {session : Nat} {user : Bool} :
      s.opened session = false →
        Step config s (.accepted session user) (s.onSocketSessionAccepted session user)
  | closed {s s' : AgencyServer} {session : Nat} :
      s.opened session = true → s.onSocketSessionClosed session = some s' →
        Step config s (.closed session) s'
  | supervisorPacket {s : AgencyServer} {session : Nat} {packet : SupervisorPacket} :
      s.opened session = true → (s.server.userData session).info = some .supervisor →
        Step config s (.supervisorPacket session packet)
          { s with server := (s.server.onSupervisorPacket config session packet).1 }
  | data {s : AgencyServer} {session : Nat} {packet : DataPacket} {server : GameServer}
      {actions : List MinionAction} :
      s.opened session = true →
        s.server.onSocketSessionData config {} session packet = some (server, actions) →
        Step config s (.data session packet) { s with server := server }
  | intraData {s s' : AgencyServer} {packet : IntraPacket} {now : Milliseconds} :
      s.onIntraServerData packet now = some s' → Step config s (.intraData packet now) s'
  | derived {s : AgencyServer} {operation : PostingOperation} :
      Step config s (.derived operation)
        (s.setPosting (s.server.sectorPostingManager.perform operation))
  | rehash {s : AgencyServer} {serverSessions activeSessions objectSessions : List Nat} :
      Step config s (.rehash serverSessions activeSessions objectSessions)
        { s with
          server := { s.server with
            serverSessions := s.server.serverSessions.reorder serverSessions
            activeSessions := s.server.activeSessions.reorder activeSessions }
          objectSessions := s.objectSessions.reorder objectSessions }

/-- An agency, or another minion server, from its start. -/
def machine (config : Configuration) : Machine AgencyServer AgencyServerEvent where
  init := fun s => s = initialized config
  step := Step config

/-- Every open session has the record it points to, and so has every object in `_object_sessions`. -/
def RecordsKept (s : AgencyServer) : Prop :=
  (∀ session id, s.opened session = true →
    (s.server.userData session).info = some (.active id) →
      (s.server.activeSessions.find id).isSome = true) ∧
  ∀ objectId userId, s.objectSessions.find objectId = some userId →
    (s.server.activeSessions.find userId).isSome = true

/-- The user is gone, or is a client that has no other object. -/
def EntersOnce (s : AgencyServer) (userId objectId : Nat) : Prop :=
  ∀ client, s.server.activeSessions.find userId = some client →
    client.isClient = true ∧ objectId ≠ 0 ∧
      ∀ objectId', s.objectSessions.find objectId' = some userId → objectId' = objectId

/-- `Reset` runs only while no session is open but the supervisor's; a new session gets an id that no
record has; and a client that is there enters with one object, whose id is not zero. -/
def KeepsRecords (s : AgencyServer) : AgencyServerEvent → Prop
  | .connected _ attachment => s.server.makesRecord attachment = true → s.server.FreshId
  | .accepted _ _ => s.server.FreshId
  | .supervisorPacket _ packet => refusesRecovery packet = true → s.server.Vacant s.opened
  | .data session packet =>
      s.server.isClient session = false → packet.resets = true → s.server.Vacant s.opened
  | .intraData (.spawnCharacterRs userId info _) _ => s.EntersOnce userId info.objectId
  | _ => True

end AgencyServer

namespace AgencyServer

open GameServer

variable {config : Configuration} {s s' : AgencyServer}

/-! ## The invariant -/

/-- Every object in `_object_sessions` is the one that its client has. -/
structure Kept (s : AgencyServer) : Prop where
  recorded : Recorded s.server s.opened
  objects : ∀ {objectId userId}, s.objectSessions.find objectId = some userId → objectId ≠ 0 ∧
    ∃ client session, s.server.recordAt userId = some client ∧ client.isClient = true ∧
      client.session = some (.socket session) ∧ (s.values session).objectId = objectId

theorem Kept.recordsKept (h : s.Kept) : s.RecordsKept := by
  refine ⟨fun session id hopen hinfo => ?_, fun objectId userId hobject => ?_⟩
  · obtain ⟨_, record, hrecord, _⟩ := h.recorded.exists_record hopen hinfo
    obtain ⟨stored, hstored, _⟩ := recordAt_eq_some hrecord
    rw [hstored]
    rfl
  · obtain ⟨_, client, _, hclient, _⟩ := h.objects hobject
    obtain ⟨stored, hstored, _⟩ := recordAt_eq_some hclient
    rw [hstored]
    rfl

theorem kept_initialized (config : Configuration) : (initialized config).Kept where
  recorded := Recorded.initialized config
  objects := fun h => by cases h

/-- The session of a client's record is open and points to the record. -/
theorem session_of_client (h : Recorded s.server s.opened) {userId session : Nat}
    {client : UniversalSessionInfo} (hclient : s.server.recordAt userId = some client)
    (hisClient : client.isClient = true) (hsession : client.session = some (.socket session)) :
    userId ≠ supervisorSessionId ∧ s.opened session = true ∧
      (s.server.userData session).info = some (.active userId) := by
  have hid : userId ≠ supervisorSessionId := by
    rintro rfl
    rw [h.copy hclient] at hisClient
    cases hisClient
  obtain ⟨session', hsession', hopen, hinfo⟩ := h.exists_session hclient hid
  cases hsession.symm.trans hsession'
  exact ⟨hid, hopen, hinfo⟩

/-- Whatever leaves the clients and their objects alone. -/
theorem Kept.frame (h : s.Kept) (hrecorded : Recorded s'.server s'.opened)
    (hclients : ClientsKept s.server s'.server)
    (hvalues : ∀ session, s.opened session = true →
      (s'.values session).objectId = (s.values session).objectId)
    (hobjects : ∀ objectId, s'.objectSessions.find objectId = s.objectSessions.find objectId) :
    s'.Kept := by
  refine ⟨hrecorded, fun {objectId userId} hobject => ?_⟩
  rw [hobjects] at hobject
  obtain ⟨hzero, client, session, hclient, hisClient, hsession, hvalue⟩ := h.objects hobject
  obtain ⟨_, hopen, _⟩ := session_of_client h.recorded hclient hisClient hsession
  refine ⟨hzero, client, session, hclients hclient hisClient, hisClient, hsession, ?_⟩
  rw [hvalues session hopen]
  exact hvalue

theorem Kept.sameRecords (h : s.Kept) {server : GameServer} (hsame : SameRecords s.server server) :
    Kept { s with server := server } :=
  h.frame (h.recorded.congr hsame) hsame.clientsKept (fun _ _ => rfl) fun _ => rfl

theorem Kept.setPosting (h : s.Kept) (m : SectorPostingManager) : (s.setPosting m).Kept :=
  h.sameRecords (.of_eq rfl rfl rfl)

/-! ## Sessions come and go -/

theorem Kept.opens (h : s.Kept) {session : Nat} {server : GameServer}
    (hclosed : s.opened session = false)
    (hrecorded : Recorded server (Function.update s.opened session true))
    (hclients : ClientsKept s.server server) : (s.opens session server).Kept := by
  refine h.frame hrecorded hclients (fun session' hopen => ?_) fun _ => rfl
  have hne : session' ≠ session := by
    rintro rfl
    rw [hclosed] at hopen
    cases hopen
  exact congrArg SessionValues.objectId (Function.update_of_ne hne _ _)

theorem Kept.onSocketSessionConnected (h : s.Kept) {session attachment : Nat}
    (hclosed : s.opened session = false)
    (hfresh : s.server.makesRecord attachment = true → s.server.FreshId) :
    (s.onSocketSessionConnected session attachment).Kept := by
  obtain ⟨hrecorded, hclients⟩ := h.recorded.onSocketSessionConnected hclosed hfresh
  exact h.opens hclosed hrecorded hclients

theorem Kept.onSocketSessionAccepted (h : s.Kept) {session : Nat} (hclosed : s.opened session = false)
    (hfresh : s.server.FreshId) (user : Bool) : (s.onSocketSessionAccepted session user).Kept := by
  have haccepted : (s.opens session (s.server.onSocketSessionAccepted session user).1).Kept :=
    h.opens hclosed (h.recorded.onSocketSessionAccepted hfresh hclosed user)
      (hfresh.clientsKept (recordAt_onSocketSessionAccepted hfresh session user))
  unfold AgencyServer.onSocketSessionAccepted
  dsimp only
  split
  · unfold onClientAccepted
    dsimp only
    split
    · exact haccepted
    · exact haccepted.setPosting _
  · exact haccepted

/-- The record of a client goes together with its objects. -/
theorem Kept.erased (h : s.Kept) {id : Nat} (hrecorded : Recorded s'.server s'.opened)
    (hrecords : s'.server.recordAt = Function.update s.server.recordAt id none)
    (hvalues : s'.values = s.values)
    (hobjects : ∀ objectId userId, s'.objectSessions.find objectId = some userId →
      s.objectSessions.find objectId = some userId ∧ userId ≠ id) : s'.Kept := by
  refine ⟨hrecorded, fun {objectId userId} hobject => ?_⟩
  obtain ⟨hold, hne⟩ := hobjects objectId userId hobject
  obtain ⟨hzero, client, session, hclient, hrest⟩ := h.objects hold
  refine ⟨hzero, client, session, ?_, ?_⟩
  · rw [hrecords, Function.update_of_ne hne]
    exact hclient
  · rw [hvalues]
    exact hrest

theorem Kept.onSocketSessionClosed (h : s.Kept) {session : Nat} (hopen : s.opened session = true)
    (hstep : s.onSocketSessionClosed session = some s') : s'.Kept := by
  obtain ⟨server, hserver, rfl⟩ := Option.map_eq_some_iff.1 hstep
  obtain ⟨hrecorded, hother, herase⟩ := h.recorded.onSocketSessionClosed hopen hserver
  by_cases hactive : ∃ id, (s.server.userData session).info = some (.active id)
  · obtain ⟨id, hinfo⟩ := hactive
    obtain ⟨_, record, hrecord, _, hsession⟩ := h.recorded.exists_record hopen hinfo
    obtain ⟨stored, hstored, rfl⟩ := recordAt_eq_some hrecord
    have hclientOf : s.clientOf session = if stored.isClient then some stored else none := by
      rw [clientOf, hinfo, Option.bind_some]
      change Option.filter _ (s.server.activeSessions.find id) = _
      rw [hstored, Option.filter_some]
    -- the objects of the session that closes
    have howned : ∀ objectId, s.objectSessions.find objectId = some id → objectId ≠ 0 ∧
        stored.isClient = true ∧ (s.values session).objectId = objectId := by
      intro objectId hobject
      obtain ⟨hzero, client, session', hclient, hisClient, hsession', hvalue⟩ := h.objects hobject
      cases hrecord.symm.trans hclient
      cases hsession.symm.trans hsession'
      exact ⟨hzero, hisClient, hvalue⟩
    cases hisClient : stored.isClient with
    | false =>
        -- a server, which has no objects
        rw [hclientOf, hisClient]
        refine h.erased hrecorded (herase id hinfo) rfl fun objectId userId hobject => ⟨hobject, ?_⟩
        rintro rfl
        rw [(howned objectId hobject).2.1] at hisClient
        cases hisClient
    | true =>
        rw [hclientOf, hisClient]
        change Kept (onClientClosed _ stored)
        unfold onClientClosed
        have hsocket : stored.session = some (.socket session) := hsession
        rw [hsocket]
        dsimp only
        split
        next hzero =>
          -- a client that has not entered owns nothing, since no object has the id 0
          refine h.erased hrecorded (herase id hinfo) rfl fun objectId userId hobject =>
            ⟨hobject, ?_⟩
          rintro rfl
          obtain ⟨hne, _, hvalue⟩ := howned objectId hobject
          exact hne (hvalue.symm.trans hzero)
        next =>
          refine h.erased (hrecorded.congr (.of_eq rfl rfl rfl)) (herase id hinfo) rfl
            fun objectId userId hobject => ?_
          dsimp only at hobject
          rw [UnorderedMap.find_erase] at hobject
          split at hobject
          · cases hobject
          next hne =>
            refine ⟨hobject, ?_⟩
            rintro rfl
            exact hne (howned objectId hobject).2.2.symm
  · -- the connection to the supervisor, or one whose server has left
    have hnone : ∀ id, (s.server.userData session).info ≠ some (.active id) :=
      not_exists.1 hactive
    have hclientOf : s.clientOf session = none := by
      unfold clientOf
      cases hinfo : (s.server.userData session).info with
      | none =>
          rfl
      | some ref =>
          cases ref with
          | active id =>
              exact absurd hinfo (hnone id)
          | supervisor =>
              exact Option.filter_eq_none_iff.2 fun client hclient => by
                cases hclient
                simp [h.recorded.supervisor.2]
    rw [hclientOf]
    exact h.frame hrecorded (hother hnone) (fun _ _ => rfl) fun _ => rfl

/-! ## Reset -/

/-- Without sessions there are no clients, and so no objects. -/
theorem Kept.reset (h : s.Kept) (hvacant : s.server.Vacant s.opened) :
    Kept { s with server := s.server.reset.1 } := by
  refine ⟨h.recorded.reset hvacant, fun {objectId userId} hobject => ?_⟩
  obtain ⟨_, client, session, hclient, hisClient, hsession, _⟩ := h.objects hobject
  have hsessionOf := session_of_client h.recorded hclient hisClient hsession
  have hnone := hvacant session
  rw [recordOf_eq_some.2 hsessionOf.2] at hnone
  cases hnone

theorem Kept.onSupervisorPacket (h : s.Kept) {session : Nat} {packet : SupervisorPacket}
    (hvacant : refusesRecovery packet = true → s.server.Vacant s.opened) :
    Kept { s with server := (s.server.onSupervisorPacket config session packet).1 } := by
  cases hrefuses : refusesRecovery packet with
  | false =>
      exact h.sameRecords (.onSupervisorPacket session hrefuses)
  | true =>
      rw [onSupervisorPacket_of_refusesRecovery session hrefuses]
      exact h.reset (hvacant hrefuses)

/-! ## Packets of play servers -/

/-- A client enters with its only object. -/
theorem Kept.enters (h : s.Kept) {userId objectId session : Nat} {client : UniversalSessionInfo}
    (hclient : s.server.activeSessions.find userId = some client)
    (hsession : client.session = some (.socket session)) (henters : s.EntersOnce userId objectId)
    (hsame : SameRecords s.server s'.server) (hopened : s'.opened = s.opened)
    (hobject : (s'.values session).objectId = objectId)
    (hvalues : ∀ session', session' ≠ session → s'.values session' = s.values session')
    (hobjects : s'.objectSessions = s.objectSessions.insert objectId userId) : s'.Kept := by
  obtain ⟨hisClient, hzero, honly⟩ := henters client hclient
  have hrecord := recordAt_of_find hclient
  refine ⟨hopened ▸ h.recorded.congr hsame, fun {objectId' userId'} hfind => ?_⟩
  rw [hobjects, UnorderedMap.find_insert] at hfind
  split at hfind
  next heq =>
    cases hfind
    rw [heq]
    exact ⟨hzero, _, session, (hsame.records _).trans hrecord, hisClient, hsession, hobject⟩
  next hne =>
    obtain ⟨hzero', client', session', hclient', hisClient', hsession', hvalue⟩ := h.objects hfind
    refine ⟨hzero', client', session', (hsame.records _).trans hclient', hisClient', hsession', ?_⟩
    -- the client has no other object, so this one is of a client with another session
    have huser : userId' ≠ userId := by
      rintro rfl
      exact hne (honly objectId' hfind)
    have hother : session' ≠ session := by
      rintro rfl
      have hid := (session_of_client h.recorded hrecord hisClient hsession).1
      have hid' := (session_of_client h.recorded hclient' hisClient' hsession').1
      exact huser (h.recorded.eq_of_session hclient' hrecord hid' hid hsession' hsession)
    rw [hvalues session' hother]
    exact hvalue

theorem Kept.onPlaySpawnCharacterRes (h : s.Kept) {userId : Nat} {info : ObjectInfo}
    {now : Milliseconds} (henters : s.EntersOnce userId info.objectId)
    (hstep : s.onPlaySpawnCharacterRes userId info now = some s') : s'.Kept := by
  unfold AgencyServer.onPlaySpawnCharacterRes at hstep
  dsimp only at hstep
  split at hstep
  next =>
    cases hstep
    exact h.frame h.recorded (SameRecords.refl _).clientsKept (fun _ _ => rfl) fun _ => rfl
  next client hclient =>
    split at hstep
    next session hsession =>
      cases hstep
      refine h.enters hclient hsession henters (.of_eq rfl rfl rfl) rfl ?_ ?_ rfl
      · change (Function.update s.values session ⟨userId, info.objectId, info.sectorId⟩
          session).objectId = _
        rw [Function.update_self]
      · exact fun session' hne => Function.update_of_ne hne _ _
    next =>
      cases hstep

theorem Kept.onPlayPromoteObjectReq (h : s.Kept) {originSectorId : Nat} {info : ObjectInfo}
    (hstep : s.onPlayPromoteObjectReq originSectorId info = some s') : s'.Kept := by
  have hcached : (s.cache info.sectorId info.objectId info.fixture).Kept :=
    h.frame h.recorded (SameRecords.refl _).clientsKept (fun _ _ => rfl) fun _ => rfl
  unfold AgencyServer.onPlayPromoteObjectReq at hstep
  dsimp only at hstep
  split at hstep
  · cases hstep
    exact h
  · split at hstep
    · cases hstep
      exact h
    · split at hstep
      · cases hstep
        exact hcached
      · split at hstep
        · cases hstep
        · split at hstep
          next session hsession =>
            split at hstep
            · cases hstep
            · cases hstep
              refine hcached.frame (hcached.recorded.congr (.of_eq rfl rfl rfl))
                (SameRecords.of_eq rfl rfl rfl).clientsKept (fun session' _ => ?_) fun _ => rfl
              -- only the sector of the client changes
              change (Function.update s.values session
                { s.values session with sectorId := info.sectorId } session').objectId = _
              rw [Function.update_apply]
              split
              next heq =>
                rw [heq]
                rfl
              next =>
                rfl
          next =>
            cases hstep

theorem Kept.onIntraServerData (h : s.Kept) {packet : IntraPacket} {now : Milliseconds}
    (hkeeps : s.KeepsRecords (.intraData packet now))
    (hstep : s.onIntraServerData packet now = some s') : s'.Kept := by
  unfold AgencyServer.onIntraServerData at hstep
  split at hstep
  next =>
    exact h.onPlaySpawnCharacterRes hkeeps hstep
  next =>
    exact h.onPlayPromoteObjectReq hstep
  next =>
    dsimp only at hstep
    split at hstep
    · cases hstep
    · cases hstep
      exact h.frame h.recorded (SameRecords.refl _).clientsKept (fun _ _ => rfl) fun _ => rfl

/-! ## Runs -/

theorem Kept.step (h : s.Kept) {e : AgencyServerEvent} (hkeeps : s.KeepsRecords e)
    (hstep : Step config s e s') : s'.Kept := by
  cases hstep with
  | connected hclosed =>
      exact h.onSocketSessionConnected hclosed hkeeps
  | accepted hclosed =>
      exact h.onSocketSessionAccepted hclosed hkeeps _
  | closed hopen hclosed =>
      exact h.onSocketSessionClosed hopen hclosed
  | supervisorPacket _ _ =>
      exact h.onSupervisorPacket hkeeps
  | data _ hdata =>
      -- only a refused recovery reaches the records
      rcases onSocketSessionData_records hdata with hsame | ⟨hserver, hresets, rfl⟩
      · exact h.sameRecords hsame
      · exact h.reset (hkeeps hserver hresets)
  | intraData hdata =>
      exact h.onIntraServerData hkeeps hdata
  | derived =>
      exact h.setPosting _
  | rehash =>
      have hsame : ∀ active servers, SameRecords s.server
          { s.server with
            serverSessions := s.server.serverSessions.reorder servers
            activeSessions := s.server.activeSessions.reorder active } :=
        fun active servers =>
          ⟨fun id => by simp [recordAt], fun _ => rfl, rfl⟩
      exact h.frame (h.recorded.congr (hsame _ _)) (hsame _ _).clientsKept (fun _ _ => rfl)
        fun objectId => by simp

theorem kept_of_reachable (h : ((machine config).restrict KeepsRecords).Reachable s) : s.Kept := by
  refine Machine.Reachable.invariant (M := (machine config).restrict KeepsRecords) (P := Kept) ?_ ?_ h
  · rintro s rfl
    exact kept_initialized config
  · rintro s e s' hs ⟨hkeeps, hstep⟩
    exact hs.step hkeeps hstep

/-- In the runs in which every reset finds no sessions, new sessions get ids of their own and every
client enters with one object, no record is missing.  There, a reset would lose records exactly if a
session is open that has one. -/
theorem records_kept (config : Configuration)
    (h : ((machine config).restrict KeepsRecords).Reachable s) :
    s.RecordsKept ∧
      (RecordsKept { s with server := s.server.reset.1 } ↔ s.server.Vacant s.opened) := by
  have hkept := kept_of_reachable h
  refine ⟨hkept.recordsKept, fun hafter session => ?_, fun hvacant => (hkept.reset hvacant).recordsKept⟩
  cases href : s.server.recordOf s.opened session with
  | none =>
      rfl
  | some id =>
      obtain ⟨hopen, hinfo⟩ := recordOf_eq_some.1 href
      cases hafter.1 session id hopen hinfo

/-! ## A client and a supervisor that comes back -/

namespace Sample

open GameServer.Sample (agencyConfig)

def asking : AgencyServer := (initialized agencyConfig).onSocketSessionConnected 0 supervisorServerId

/-- The supervisor has registered the agency. -/
def serving : AgencyServer :=
  { asking with
    server := (asking.server.onSupervisorPacket agencyConfig 0
      (.registerMinionServerRs ⟨.Agency, 3, ⟨"127.0.0.1", 12002⟩⟩)).1 }

/-- A client over session 5. -/
def accepted : AgencyServer := serving.onSocketSessionAccepted 5 true

def spawned : IntraPacket :=
  .spawnCharacterRs 3100000000000001 ⟨2201200000000001, 12, blankFixture⟩ .None

def playing : AgencyServer := (accepted.onIntraServerData spawned 0).getD accepted

theorem step_serving : Step agencyConfig asking
    (.supervisorPacket 0 (.registerMinionServerRs ⟨.Agency, 3, ⟨"127.0.0.1", 12002⟩⟩)) serving :=
  .supervisorPacket (by decide +kernel) (by decide +kernel)

theorem step_playing : Step agencyConfig accepted (.intraData spawned 0) playing := by
  have hsome : accepted.onIntraServerData spawned 0 ≠ none := nofun
  exact .intraData (Option.getD_of_ne_none hsome _).symm

theorem reachable_playing : ((machine agencyConfig).restrict KeepsRecords).Reachable playing := by
  have hinit : ((machine agencyConfig).restrict KeepsRecords).Reachable (initialized agencyConfig) :=
    .init rfl
  have hasking : ((machine agencyConfig).restrict KeepsRecords).Reachable asking :=
    hinit.step_restrict (.connected rfl) fun hmakes => absurd hmakes (by decide +kernel)
  have hserving : ((machine agencyConfig).restrict KeepsRecords).Reachable serving :=
    hasking.step_restrict step_serving fun hrefuses => by cases hrefuses
  have haccepted : ((machine agencyConfig).restrict KeepsRecords).Reachable accepted :=
    hserving.step_restrict (.accepted (by decide +kernel)) ⟨by decide +kernel, by decide +kernel⟩
  refine haccepted.step_restrict step_playing fun client hclient => ⟨?_, by decide, ?_⟩
  · have hfind : accepted.server.activeSessions.find 3100000000000001 =
        some ⟨3100000000000001, some (.socket 5), false, true⟩ := by
      decide +kernel
    cases hfind.symm.trans hclient
    rfl
  · intro objectId hobject
    cases hobject

end Sample

/-- A reset would lose the client. -/
theorem records_kept_playing :
    Sample.playing.RecordsKept ∧
      ¬ RecordsKept { Sample.playing with server := Sample.playing.server.reset.1 } := by
  have h := records_kept GameServer.Sample.agencyConfig Sample.reachable_playing
  refine ⟨h.1, fun hafter => ?_⟩
  have hnone := h.2.1 hafter 5
  exact absurd hnone (by decide +kernel)

namespace Sample

open GameServer.Sample (agencyConfig)

/-- The supervisor goes and comes back. -/
def alone : AgencyServer := (playing.onSocketSessionClosed 0).getD playing

def returned : AgencyServer := alone.onSocketSessionConnected 1 supervisorServerId

/-- It refuses the recovery. -/
def refused : AgencyServer :=
  { returned with
    server := (returned.server.onSupervisorPacket agencyConfig 1
      (.recoveryMinionServerRs .RecoveryFailed)).1 }

theorem step_alone : Step agencyConfig playing (.closed 0) alone := by
  have hsome : playing.onSocketSessionClosed 0 ≠ none := nofun
  exact .closed (by decide +kernel) (Option.getD_of_ne_none hsome _).symm

theorem reachable_refused : (machine agencyConfig).Reachable refused := by
  have halone : (machine agencyConfig).Reachable alone :=
    .step reachable_playing.of_restrict step_alone
  have hreturned : (machine agencyConfig).Reachable returned :=
    .step halone (.connected (by decide +kernel))
  exact .step hreturned (.supervisorPacket (by decide +kernel) (by decide +kernel))

end Sample

/-- The client's session is still open, and neither it nor its object has a record. -/
theorem records_lost :
    ¬ ∀ config s, (machine config).Reachable s → s.RecordsKept := by
  intro h
  have hkept := (h _ _ Sample.reachable_refused).1 5 3100000000000001 (by decide +kernel)
    (by decide +kernel)
  exact absurd hkept (by decide +kernel)

end AgencyServer
end Agency
end SeamlessServer
