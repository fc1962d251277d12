import SeamlessServer.Data.Handles
import SeamlessServer.Game.Authority

/-!
# Game.Records — sessions and their records

`_active_sessions` holds a record for every session that was accepted, and for every one that was
connected to a server other than the supervisor.  The record has the session, and the user data of the
session points to the record.  `Recorded` says that the two tables mirror each other.

The connection to the supervisor points to the member `_supervisor_server_info` instead, a copy of
which is in `_active_sessions` as well.
-/

namespace SeamlessServer
namespace Game

open Protocol

/-- The universal id of the supervisor's connection. -/
def supervisorSessionId : Nat := 2

/-- The session of a network engine. -/
def SessionRef.socketId : SessionRef → Option Nat
  | .loopback => none
  | .socket id => some id

/-- The answer to a recovery with which `Reset` is called. -/
def refusesRecovery : SupervisorPacket → Bool
  | .recoveryMinionServerRs error => decide (error ≠ .None)
  | _ => false

/-- `Reset` is called by the handler of this packet. -/
def DataPacket.resets : DataPacket → Bool
  | .supervisor packet => refusesRecovery packet
  | _ => false

namespace GameServer

variable {config : Configuration} {g g' : GameServer} {opened : Nat → Bool}

/-- A record, apart from its authorisation. -/
def recordAt (g : GameServer) (id : Nat) : Option UniversalSessionInfo :=
  (g.activeSessions.find id).map fun record => { record with isAuthorized := false }

/-- The session of a record; the copy of the supervisor's record is left out. -/
def recordedSession (g : GameServer) (id : Nat) : Option Nat :=
  if id = supervisorSessionId then none
  else ((g.recordAt id).bind UniversalSessionInfo.session).bind SessionRef.socketId

/-- The record that an open session points to; the supervisor's is left out. -/
def recordOf (g : GameServer) (opened : Nat → Bool) (session : Nat) : Option Nat :=
  match opened session, (g.userData session).info with
  | true, some (.active id) => some id
  | _, _ => none

theorem recordOf_eq_some {session id : Nat} : g.recordOf opened session = some id ↔
    opened session = true ∧ (g.userData session).info = some (.active id) := by
  unfold recordOf
  cases opened session with
  | false =>
      simp
  | true =>
      cases (g.userData session).info with
      | none =>
          simp
      | some ref =>
          cases ref <;> simp

/-! ## Handlers that neither add nor remove a record -/

structure SameRecords (g g' : GameServer) : Prop where
  records : ∀ id, g'.recordAt id = g.recordAt id
  info : ∀ session, (g'.userData session).info = (g.userData session).info
  supervisor : g'.supervisorServerInfo = g.supervisorServerInfo

theorem SameRecords.of_eq (hactive : g'.activeSessions = g.activeSessions)
    (huser : g'.userData = g.userData)
    (hsupervisor : g'.supervisorServerInfo = g.supervisorServerInfo) : SameRecords g g' where
  records := fun id => by rw [recordAt, recordAt, hactive]
  info := fun session => by rw [huser]
  supervisor := hsupervisor

theorem SameRecords.refl (g : GameServer) : SameRecords g g := of_eq rfl rfl rfl

theorem SameRecords.trans {g'' : GameServer} (h : SameRecords g g') (h' : SameRecords g' g'') :
    SameRecords g g'' where
  records := fun id => (h'.records id).trans (h.records id)
  info := fun session => (h'.info session).trans (h.info session)
  supervisor := h'.supervisor.trans h.supervisor

/-- A handshake authorises a record that is there. -/
theorem SameRecords.authorize {session id serverId : Nat} {server : IntraServerInfo}
    (hrecord : (g.activeSessions.find id).isSome = true) :
    SameRecords g (g.authorize config session id serverId server) where
  records := by
    intro id'
    obtain ⟨record, hrecord⟩ := Option.isSome_iff_exists.1 hrecord
    simp only [recordAt, GameServer.authorize, listenSector, setUserData, UnorderedMap.find_insert]
    split
    next heq =>
      rw [heq, hrecord]
      rfl
    next =>
      rfl
  info := by
    intro session'
    simp only [GameServer.authorize, listenSector, setUserData, Function.update_apply]
    split
    next heq =>
      rw [heq]
    next =>
      rfl
  supervisor := rfl

theorem SameRecords.updateIntraServerInfoPs (joined leaved : List ServerInfo) :
    SameRecords g (g.updateIntraServerInfoPs config joined leaved).1 := by
  refine forEach_induction (P := SameRecords g) (fun g' info h => h.trans ?_) joined
    (forEach_induction (P := SameRecords g) (fun g' info h => h.trans ?_) leaved (.refl g))
  · unfold joinServer
    dsimp only
    split_ifs
    all_goals exact .of_eq rfl rfl rfl
  · exact .of_eq rfl rfl rfl

theorem SameRecords.registerMinionServerRs (info : ServerInfo) :
    SameRecords g (g.registerMinionServerRs info) := by
  unfold GameServer.registerMinionServerRs
  exact of_eq rfl rfl rfl

theorem SameRecords.onSupervisorPacket (session : Nat) {packet : SupervisorPacket}
    (h : refusesRecovery packet = false) :
    SameRecords g (g.onSupervisorPacket config session packet).1 := by
  cases packet with
  | registerMinionServerRs info =>
      exact registerMinionServerRs info
  | recoveryMinionServerRs error =>
      have hnone : error = .None := by simpa [refusesRecovery] using h
      unfold GameServer.onSupervisorPacket recoveryMinionServerRs
      dsimp only
      rw [if_pos hnone]
      exact .refl g
  | updateIntraServerInfoPs joined leaved =>
      exact updateIntraServerInfoPs joined leaved
  | sectorAllocationPs allocation deallocation =>
      exact .of_eq rfl rfl rfl

theorem onSupervisorPacket_of_refusesRecovery (session : Nat) {packet : SupervisorPacket}
    (h : refusesRecovery packet = true) :
    (g.onSupervisorPacket config session packet).1 = g.reset.1 := by
  cases packet with
  | recoveryMinionServerRs error =>
      have herror : error ≠ .None := by simpa [refusesRecovery] using h
      unfold onSupervisorPacket recoveryMinionServerRs
      dsimp only
      rw [if_neg herror]
  | registerMinionServerRs | updateIntraServerInfoPs | sectorAllocationPs =>
      cases h

/-- The data of a client changes no record, and that of a server does only if it calls `Reset`. -/
theorem onSocketSessionData_records {handlers : DataHandlers} {session : Nat} {packet : DataPacket}
    {actions : List MinionAction}
    (h : g.onSocketSessionData config handlers session packet = some (g', actions)) :
    SameRecords g g' ∨ (g.isClient session = false ∧ packet.resets = true ∧ g' = g.reset.1) := by
  unfold onSocketSessionData at h
  split at h
  next id hinfo =>
    split at h
    next =>
      cases h
    next record hrecord =>
      have hclient : g.isClient session = record.isClient := by
        simp [isClient, hinfo, hrecord]
      have hsome : (g.activeSessions.find id).isSome = true := by rw [hrecord]; rfl
      -- packets of clients only go to `OnClientData`
      split at h
      next =>
        split at h <;> cases h <;> exact .inl (.refl g)
      next hserver =>
        cases packet with
        | authorizeServerRq serverId =>
            rcases authorizeServerRq_cases h with ⟨server, _, _, rfl⟩ | ⟨_, rfl⟩
            · exact .inl (.authorize hsome)
            · exact .inl (.refl _)
        | authorizeServerRs serverId error =>
            rcases authorizeServerRs_cases h with ⟨server, _, _, rfl⟩ | ⟨_, rfl⟩
            · exact .inl (.authorize hsome)
            · exact .inl (.refl _)
        | supervisor packet =>
            have hg : (g.onSupervisorPacket config session packet).1 = g' :=
              congrArg Prod.fst (Option.some.inj h)
            subst hg
            cases hrefuses : refusesRecovery packet with
            | false =>
                exact .inl (.onSupervisorPacket session hrefuses)
            | true =>
                refine .inr ⟨?_, hrefuses, onSupervisorPacket_of_refusesRecovery session hrefuses⟩
                rw [hclient]
                exact Bool.eq_false_iff.2 hserver
        | malformed =>
            obtain ⟨session', _, heq⟩ := Option.map_eq_some_iff.1 h
            cases heq
            exact .inl (.refl g)
        | other packetType body =>
            dsimp only at h
            split at h
            · split at h
              · split at h
                · cases h
                  exact .inl (.refl g)
                · cases h
                  exact .inl (.of_eq rfl rfl rfl)
              · cases h
            · obtain ⟨session', _, heq⟩ := Option.map_eq_some_iff.1 h
              cases heq
              exact .inl (.refl g)
  next =>
    cases h

/-! ## Records and sessions mirror each other -/

/-- The invariant.  Apart from the copy of the supervisor's record, every record is that of an open
session, and every open session that points to a record has one. -/
structure Recorded (g : GameServer) (opened : Nat → Bool) : Prop where
  mirrored : Mirrored g.recordedSession (g.recordOf opened)
  record : ∀ {id record}, g.recordAt id = some record → id ≠ supervisorSessionId →
    record.universalSessionId = id ∧ (g.recordedSession id).isSome = true
  copy : ∀ {record}, g.recordAt supervisorSessionId = some record → record.isClient = false
  supervisor : g.supervisorServerInfo.universalSessionId = supervisorSessionId ∧
    g.supervisorServerInfo.isClient = false

theorem recordedSession_eq_some {id session : Nat} : g.recordedSession id = some session ↔
    id ≠ supervisorSessionId ∧
      ∃ record, g.recordAt id = some record ∧ record.session = some (.socket session) := by
  unfold recordedSession
  split
  next hid =>
    exact iff_of_false (by simp) fun h => h.1 hid
  next hid =>
    simp only [Option.bind_eq_some_iff, ne_eq, hid, not_false_eq_true, true_and]
    constructor
    · rintro ⟨ref, ⟨record, hrecord, hsession⟩, hsocket⟩
      cases ref with
      | loopback =>
          cases hsocket
      | socket id =>
          cases hsocket
          exact ⟨record, hrecord, hsession⟩
    · rintro ⟨record, hrecord, hsession⟩
      exact ⟨_, ⟨record, hrecord, hsession⟩, rfl⟩

/-- A record as it is in the table. -/
theorem recordAt_eq_some {id : Nat} {record : UniversalSessionInfo} (h : g.recordAt id = some record) :
    ∃ stored, g.activeSessions.find id = some stored ∧
      record = { stored with isAuthorized := false } := by
  obtain ⟨stored, hstored, rfl⟩ := Option.map_eq_some_iff.1 h
  exact ⟨stored, hstored, rfl⟩

theorem recordAt_of_find {id : Nat} {stored : UniversalSessionInfo}
    (h : g.activeSessions.find id = some stored) :
    g.recordAt id = some { stored with isAuthorized := false } := by
  rw [recordAt, h]
  rfl

theorem recordAt_eq_none {id : Nat} : g.recordAt id = none ↔ g.activeSessions.find id = none :=
  Option.map_eq_none_iff

/-- Both tables depend on the records and on the pointers only. -/
theorem SameRecords.recordedSession (h : SameRecords g g') : g'.recordedSession = g.recordedSession := by
  funext id
  rw [GameServer.recordedSession, GameServer.recordedSession, h.records]

theorem SameRecords.recordOf (h : SameRecords g g') (opened : Nat → Bool) :
    g'.recordOf opened = g.recordOf opened := by
  funext session
  rw [GameServer.recordOf, GameServer.recordOf, h.info]

/-- The id that the next session gets is that of no record, and not the supervisor's. -/
def FreshId (g : GameServer) : Prop :=
  g.activeSessions.find g.currentUniversalSessionId = none ∧
    g.currentUniversalSessionId ≠ supervisorSessionId

/-- The records after a new session has got one. -/
def withRecord (g : GameServer) (session : Nat) (isClient : Bool) :
    Nat → Option UniversalSessionInfo :=
  Function.update g.recordAt g.currentUniversalSessionId
    (some ⟨g.currentUniversalSessionId, some (.socket session), false, isClient⟩)

theorem withRecord_self (session : Nat) (isClient : Bool) :
    g.withRecord session isClient g.currentUniversalSessionId =
      some ⟨g.currentUniversalSessionId, some (.socket session), false, isClient⟩ :=
  Function.update_self _ _ _

theorem withRecord_of_ne {id : Nat} (hid : id ≠ g.currentUniversalSessionId) (session : Nat)
    (isClient : Bool) : g.withRecord session isClient id = g.recordAt id :=
  Function.update_of_ne hid _ _

namespace Recorded

theorem congr (h : Recorded g opened) (hsame : SameRecords g g') : Recorded g' opened where
  mirrored := by
    rw [hsame.recordedSession, hsame.recordOf]
    exact h.mirrored
  record := by
    rw [hsame.recordedSession]
    exact fun hrecord => h.record (by rwa [← hsame.records])
  copy := fun hrecord => h.copy (by rwa [← hsame.records])
  supervisor := by
    rw [hsame.supervisor]
    exact h.supervisor

theorem initialized (config : Configuration) :
    Recorded (GameServer.initialized config) fun _ => false where
  mirrored := by
    refine fun id session => iff_of_false (fun h => ?_) fun h => ?_
    · obtain ⟨_, record, hrecord, _⟩ := recordedSession_eq_some.1 h
      cases hrecord
    · cases (recordOf_eq_some.1 h).1
  record := fun h => by cases h
  copy := fun h => by cases h
  supervisor := ⟨rfl, rfl⟩

/-- An open session that points to a record has it, and the record has the session. -/
theorem exists_record (h : Recorded g opened) {session id : Nat} (hopen : opened session = true)
    (hinfo : (g.userData session).info = some (.active id)) :
    id ≠ supervisorSessionId ∧ ∃ record, g.recordAt id = some record ∧
      record.universalSessionId = id ∧ record.session = some (.socket session) := by
  have hheld := (h.mirrored id session).2 (recordOf_eq_some.2 ⟨hopen, hinfo⟩)
  obtain ⟨hid, record, hrecord, hsession⟩ := recordedSession_eq_some.1 hheld
  exact ⟨hid, record, hrecord, (h.record hrecord hid).1, hsession⟩

/-- A record other than the supervisor's is that of an open session. -/
theorem exists_session (h : Recorded g opened) {id : Nat} {record : UniversalSessionInfo}
    (hrecord : g.recordAt id = some record) (hid : id ≠ supervisorSessionId) :
    ∃ session, record.session = some (.socket session) ∧ opened session = true ∧
      (g.userData session).info = some (.active id) := by
  obtain ⟨session, hsession⟩ := Option.isSome_iff_exists.1 (h.record hrecord hid).2
  obtain ⟨_, record', hrecord', hsocket⟩ := recordedSession_eq_some.1 hsession
  rw [hrecord] at hrecord'
  cases hrecord'
  exact ⟨session, hsocket, recordOf_eq_some.1 ((h.mirrored id session).1 hsession)⟩

/-- A session has one record. -/
theorem eq_of_session (h : Recorded g opened) {id id' session : Nat}
    {record record' : UniversalSessionInfo} (hrecord : g.recordAt id = some record)
    (hrecord' : g.recordAt id' = some record') (hid : id ≠ supervisorSessionId)
    (hid' : id' ≠ supervisorSessionId) (hsession : record.session = some (.socket session))
    (hsession' : record'.session = some (.socket session)) : id = id' :=
  h.mirrored.oneToOne.injective (recordedSession_eq_some.2 ⟨hid, record, hrecord, hsession⟩)
    (recordedSession_eq_some.2 ⟨hid', record', hrecord', hsession'⟩)

/-! ## New sessions -/

/-- A session that opens points to nothing, to the supervisor's record, or to a record of its own. -/
theorem recordOf_update (session : Nat) {data : UserData}
    (huser : g'.userData = Function.update g.userData session data) (value : Bool) :
    g'.recordOf (Function.update opened session value) =
      Function.update (g.recordOf opened) session
        (match value, data.info with
          | true, some (.active id) => some id
          | _, _ => none) := by
  funext session'
  by_cases heq : session' = session
  · rw [heq, Function.update_self, recordOf, huser, Function.update_self, Function.update_self]
  · rw [Function.update_of_ne heq, recordOf, recordOf, huser, Function.update_of_ne heq,
      Function.update_of_ne heq]

theorem activated (h : Recorded g opened) {session : Nat} {isClient : Bool} (hfresh : g.FreshId)
    (hclosed : opened session = false)
    (hrecords : g'.recordAt = g.withRecord session isClient)
    (huser : g'.userData = Function.update g.userData session
      { info := some (.active g.currentUniversalSessionId) })
    (hsupervisor : g'.supervisorServerInfo = g.supervisorServerInfo) :
    Recorded g' (Function.update opened session true) := by
  obtain ⟨hnone, hid⟩ := hfresh
  -- both tables get one entry, under the new id and under the new session
  have hheld : g'.recordedSession =
      Function.update g.recordedSession g.currentUniversalSessionId (some session) := by
    funext id
    by_cases heq : id = g.currentUniversalSessionId
    · rw [heq, Function.update_self, recordedSession, if_neg hid, hrecords, withRecord_self]
      rfl
    · rw [Function.update_of_ne heq, recordedSession, recordedSession, hrecords, withRecord_of_ne heq]
  have hold : g.recordedSession g.currentUniversalSessionId = none := by
    rw [recordedSession, if_neg hid, recordAt_eq_none.2 hnone]
    rfl
  constructor
  case mirrored =>
    rw [hheld, recordOf_update session huser]
    refine h.mirrored.link hold ?_
    rw [recordOf, hclosed]
  case record =>
    intro id record hrecord hne
    rw [hrecords] at hrecord
    by_cases heq : id = g.currentUniversalSessionId
    · rw [heq, withRecord_self] at hrecord
      cases hrecord
      rw [hheld, heq, Function.update_self]
      exact ⟨rfl, rfl⟩
    · rw [withRecord_of_ne heq] at hrecord
      rw [hheld, Function.update_of_ne heq]
      exact h.record hrecord hne
  case copy =>
    intro record hrecord
    rw [hrecords, withRecord_of_ne hid.symm] at hrecord
    exact h.copy hrecord
  case supervisor =>
    rw [hsupervisor]
    exact h.supervisor

end Recorded

theorem recordAt_insert (g : GameServer) (id : Nat) {record : UniversalSessionInfo}
    (hactive : g'.activeSessions = g.activeSessions.insert id record) :
    g'.recordAt = Function.update g.recordAt id (some { record with isAuthorized := false }) := by
  funext id'
  rw [recordAt, hactive, UnorderedMap.find_insert, Function.update_apply]
  split
  · rfl
  · rfl

theorem recordAt_activateSession (hfresh : g.FreshId) (session : Nat) :
    (g.activateSession session).1.recordAt = g.withRecord session false := by
  rw [recordAt_insert g g.currentUniversalSessionId rfl, hfresh.1]
  rfl

theorem recordAt_onSocketSessionAccepted (hfresh : g.FreshId) (session : Nat) (user : Bool) :
    (g.onSocketSessionAccepted session user).1.recordAt =
      g.withRecord session (user && g.serviceReady) := by
  have hactivated := recordAt_activateSession hfresh session
  have hready : (g.activateSession session).1.serviceReady = g.serviceReady := rfl
  unfold onSocketSessionAccepted
  dsimp only
  rw [hready]
  cases user with
  | false =>
      exact hactivated
  | true =>
      cases g.serviceReady with
      | false =>
          exact hactivated
      | true =>
          have hfind : (g.activateSession session).1.activeSessions.find
              (g.activateSession session).2 =
                some ⟨g.currentUniversalSessionId, some (.socket session), false, false⟩ := by
            rw [activateSession, hfresh.1]
            exact UnorderedMap.find_insert_self _ _ _
          rw [if_pos rfl, if_pos rfl, recordAt_insert (g.activateSession session).1
            g.currentUniversalSessionId rfl, hactivated, withRecord, Function.update_idem]
          dsimp only
          rw [hfind]
          rfl

theorem onSocketSessionAccepted_frame (session : Nat) (user : Bool) :
    let g' := (g.onSocketSessionAccepted session user).1
    g'.userData = Function.update g.userData session
        { info := some (.active g.currentUniversalSessionId) } ∧
      g'.supervisorServerInfo = g.supervisorServerInfo := by
  unfold onSocketSessionAccepted
  dsimp only
  split
  · split <;> exact ⟨rfl, rfl⟩
  · exact ⟨rfl, rfl⟩

theorem Recorded.onSocketSessionAccepted (h : Recorded g opened) (hfresh : g.FreshId) {session : Nat}
    (hclosed : opened session = false) (user : Bool) :
    Recorded (g.onSocketSessionAccepted session user).1 (Function.update opened session true) :=
  h.activated hfresh hclosed (recordAt_onSocketSessionAccepted hfresh session user)
    (onSocketSessionAccepted_frame session user).1 (onSocketSessionAccepted_frame session user).2

/-- A connection makes a record, unless it goes to the supervisor or the server has left. -/
def makesRecord (g : GameServer) (attachment : Nat) : Bool :=
  (g.getServerSession attachment).any fun server => server.serverInfo.serverType ≠ .Supervisor

/-- The records of clients are still there. -/
def ClientsKept (g g' : GameServer) : Prop :=
  ∀ {id : Nat} {record : UniversalSessionInfo}, g.recordAt id = some record →
    record.isClient = true → g'.recordAt id = some record

theorem SameRecords.clientsKept (h : SameRecords g g') : ClientsKept g g' :=
  fun hrecord _ => (h.records _).trans hrecord

theorem FreshId.clientsKept (hfresh : g.FreshId) {session : Nat} {isClient : Bool}
    (hrecords : g'.recordAt = g.withRecord session isClient) : ClientsKept g g' := by
  intro id record hrecord _
  have hne : id ≠ g.currentUniversalSessionId := by
    rintro rfl
    rw [recordAt_eq_none.2 hfresh.1] at hrecord
    cases hrecord
  rw [hrecords, withRecord_of_ne hne]
  exact hrecord

namespace Recorded

/-- A session that points to no record of `_active_sessions` opens or closes; at most the copy of the
supervisor's record changes. -/
theorem toggled (h : Recorded g opened) {session : Nat} {data : UserData} (value : Bool)
    (hold : g.recordOf opened session = none)
    (hrecords : ∀ id, id ≠ supervisorSessionId → g'.recordAt id = g.recordAt id)
    (hcopy : ∀ record, g'.recordAt supervisorSessionId = some record → record.isClient = false)
    (huser : g'.userData = Function.update g.userData session data)
    (hdata : ∀ id, data.info ≠ some (.active id))
    (hsupervisor : g'.supervisorServerInfo.universalSessionId =
        g.supervisorServerInfo.universalSessionId ∧
      g'.supervisorServerInfo.isClient = g.supervisorServerInfo.isClient) :
    Recorded g' (Function.update opened session value) ∧ ClientsKept g g' := by
  have hheld : g'.recordedSession = g.recordedSession := by
    funext id
    rw [recordedSession, recordedSession]
    split
    next =>
      rfl
    next hid =>
      rw [hrecords id hid]
  -- the session pointed to no record of the table before, and points to none now
  have href : g'.recordOf (Function.update opened session value) = g.recordOf opened := by
    rw [recordOf_update session huser]
    refine (congrArg _ ?_).trans (Function.update_eq_self session _)
    rw [hold]
    split
    next hinfo =>
      exact absurd hinfo (hdata _)
    next =>
      rfl
  refine ⟨⟨?_, fun {id record} hrecord hid => ?_, fun {record} => hcopy record, ?_⟩,
    fun {id record} hrecord hclient => ?_⟩
  · rw [hheld, href]
    exact h.mirrored
  · rw [hheld]
    rw [hrecords id hid] at hrecord
    exact h.record hrecord hid
  · rw [hsupervisor.1, hsupervisor.2]
    exact h.supervisor
  · have hid : id ≠ supervisorSessionId := by
      rintro rfl
      rw [h.copy hrecord] at hclient
      cases hclient
    rw [hrecords id hid]
    exact hrecord

theorem onSocketSessionConnected (h : Recorded g opened) {session attachment : Nat}
    (hclosed : opened session = false) (hfresh : g.makesRecord attachment = true → g.FreshId) :
    Recorded (g.onSocketSessionConnected session attachment).1 (Function.update opened session true) ∧
      ClientsKept g (g.onSocketSessionConnected session attachment).1 := by
  have hold : g.recordOf opened session = none := by
    rw [recordOf, hclosed]
  unfold GameServer.onSocketSessionConnected
  cases hserver : g.getServerSession attachment with
  | none =>
      exact h.toggled true hold (fun _ _ => rfl) (fun _ => h.copy) rfl (by simp) ⟨rfl, rfl⟩
  | some server =>
      dsimp only
      split
      next htype =>
        -- the record of the supervisor is copied into the table
        refine h.toggled true hold (fun id hid => ?_) (fun record hrecord => ?_) rfl (by simp)
          ⟨rfl, rfl⟩
        · rw [recordAt_insert g _ rfl, h.supervisor.1, Function.update_of_ne hid]
        · rw [recordAt_insert g _ rfl, h.supervisor.1, Function.update_self] at hrecord
          cases hrecord
          exact h.supervisor.2
      next htype =>
        have hmakes : g.makesRecord attachment = true := by
          simp [makesRecord, hserver, htype]
        have hrecords := recordAt_activateSession (hfresh hmakes) session
        exact ⟨h.activated (hfresh hmakes) hclosed hrecords rfl rfl,
          (hfresh hmakes).clientsKept hrecords⟩

/-! ## Closed sessions -/

end Recorded

/-- A close erases the record that the session points to, and nothing else of the two tables. -/
theorem onSocketSessionClosed_cases {session : Nat} (h : g.onSocketSessionClosed session = some g') :
    (((g.userData session).info = none ∧ g'.activeSessions = g.activeSessions) ∨
      ∃ ref record, (g.userData session).info = some ref ∧ g.dereference ref = some record ∧
        g'.activeSessions = g.activeSessions.erase record.universalSessionId) ∧
      g'.userData = g.userData ∧
      g'.supervisorServerInfo.universalSessionId = g.supervisorServerInfo.universalSessionId ∧
      g'.supervisorServerInfo.isClient = g.supervisorServerInfo.isClient := by
  unfold onSocketSessionClosed at h
  split at h
  next hinfo =>
    cases h
    exact ⟨.inl ⟨hinfo, rfl⟩, rfl, rfl, rfl⟩
  next ref hinfo =>
    split at h
    · cases h
    next record hderef =>
      refine ⟨.inr ⟨ref, record, hinfo, hderef, ?_⟩, ?_⟩
      all_goals
        dsimp only at h
        split at h
        · cases h
          first | rfl | exact ⟨rfl, rfl, rfl⟩
        · split at h
          · split at h
            · cases h
              first | rfl | exact ⟨rfl, rfl, rfl⟩
            · split at h <;> cases h <;> first | rfl | exact ⟨rfl, rfl, rfl⟩
          · cases h

/-- The records after one was erased. -/
theorem recordAt_erase {id : Nat} (hactive : g'.activeSessions = g.activeSessions.erase id) :
    g'.recordAt = Function.update g.recordAt id none := by
  funext id'
  rw [recordAt, hactive, UnorderedMap.find_erase, Function.update_apply]
  split
  · rfl
  · rfl

/-- A session closes, and its record is erased. -/
theorem Recorded.erased (h : Recorded g opened) {session id : Nat} (hopen : opened session = true)
    (hinfo : (g.userData session).info = some (.active id))
    (hrecords : g'.recordAt = Function.update g.recordAt id none)
    (huser : g'.userData = Function.update g.userData session (g.userData session))
    (hsupervisor : g'.supervisorServerInfo.universalSessionId =
        g.supervisorServerInfo.universalSessionId ∧
      g'.supervisorServerInfo.isClient = g.supervisorServerInfo.isClient) :
    Recorded g' (Function.update opened session false) := by
  obtain ⟨hid, record, hrecord, _, hsession⟩ := h.exists_record hopen hinfo
  have hheld : g'.recordedSession = Function.update g.recordedSession id none := by
    funext id'
    by_cases heq : id' = id
    · rw [heq, Function.update_self, recordedSession, hrecords, Function.update_self]
      exact ite_self none
    · rw [Function.update_of_ne heq, recordedSession, recordedSession, hrecords,
        Function.update_of_ne heq]
  refine ⟨?_, fun {id' record'} hrecord' hid' => ?_, fun {record'} hrecord' => ?_, ?_⟩
  · rw [hheld, recordOf_update session huser]
    exact h.mirrored.unlink (recordedSession_eq_some.2 ⟨hid, record, hrecord, hsession⟩)
  · rw [hrecords] at hrecord'
    by_cases heq : id' = id
    · rw [heq, Function.update_self] at hrecord'
      cases hrecord'
    · rw [Function.update_of_ne heq] at hrecord'
      rw [hheld, Function.update_of_ne heq]
      exact h.record hrecord' hid'
  · rw [hrecords, Function.update_of_ne hid.symm] at hrecord'
    exact h.copy hrecord'
  · rw [hsupervisor.1, hsupervisor.2]
    exact h.supervisor

/-- The record that a session points to is erased with it. -/
theorem Recorded.onSocketSessionClosed (h : Recorded g opened) {session : Nat}
    (hopen : opened session = true) (hstep : g.onSocketSessionClosed session = some g') :
    Recorded g' (Function.update opened session false) ∧
      ((∀ id, (g.userData session).info ≠ some (.active id)) → ClientsKept g g') ∧
      ∀ id, (g.userData session).info = some (.active id) →
        g'.recordAt = Function.update g.recordAt id none := by
  obtain ⟨hcases, huser, hsupervisor⟩ := onSocketSessionClosed_cases hstep
  have huser' : g'.userData = Function.update g.userData session (g.userData session) := by
    rw [huser, Function.update_eq_self]
  -- a session that points to no record may still be the supervisor's
  by_cases hactive : ∃ id, (g.userData session).info = some (.active id)
  · obtain ⟨id, hinfo⟩ := hactive
    obtain ⟨hid, record, hrecord, hrecordId, hsession⟩ := h.exists_record hopen hinfo
    obtain ⟨stored, hstored, hrecordEq⟩ := recordAt_eq_some hrecord
    have herase : g'.activeSessions = g.activeSessions.erase id := by
      rcases hcases with ⟨hnone, _⟩ | ⟨ref, record', href, hderef, herase⟩
      · rw [hnone] at hinfo
        cases hinfo
      · rw [hinfo] at href
        cases href
        cases hstored.symm.trans hderef
        rw [herase, ← hrecordId, hrecordEq]
    have hrecords := recordAt_erase herase
    refine ⟨?_, fun hnone => absurd hinfo (hnone id), fun id' hinfo' => ?_⟩
    · exact h.erased hopen hinfo hrecords huser' hsupervisor
    · rw [hinfo] at hinfo'
      cases hinfo'
      exact hrecords
  · have hnone : ∀ id, (g.userData session).info ≠ some (.active id) := not_exists.1 hactive
    have hold : g.recordOf opened session = none := by
      rw [Option.eq_none_iff_forall_ne_some]
      exact fun id hid => hnone id (recordOf_eq_some.1 hid).2
    have hrecords : g'.recordAt = g.recordAt ∨
        g'.recordAt = Function.update g.recordAt supervisorSessionId none := by
      rcases hcases with ⟨_, hsame⟩ | ⟨ref, record, href, hderef, herase⟩
      · exact .inl (funext fun id => by rw [recordAt, recordAt, hsame])
      · cases ref with
        | active id =>
            exact absurd href (hnone id)
        | supervisor =>
            -- the copy of the supervisor's record is erased
            cases hderef
            rw [← h.supervisor.1]
            exact .inr (recordAt_erase herase)
    have hothers : ∀ id, id ≠ supervisorSessionId → g'.recordAt id = g.recordAt id := by
      intro id hid
      rcases hrecords with hsame | hupdate
      · rw [hsame]
      · rw [hupdate, Function.update_of_ne hid]
    have hcopy : ∀ record, g'.recordAt supervisorSessionId = some record →
        record.isClient = false := by
      intro record hrecord
      rcases hrecords with hsame | hupdate
      · rw [hsame] at hrecord
        exact h.copy hrecord
      · rw [hupdate, Function.update_self] at hrecord
        cases hrecord
    have htoggled := h.toggled false hold hothers hcopy huser' hnone hsupervisor
    exact ⟨htoggled.1, fun _ => htoggled.2, fun id hinfo => absurd hinfo (hnone id)⟩

/-! ## Reset -/

/-- No open session points to a record, except to the supervisor's. -/
def Vacant (g : GameServer) (opened : Nat → Bool) : Prop := ∀ session, g.recordOf opened session = none

/-- Without sessions `Reset` clears at most the copy of the supervisor's record. -/
theorem Recorded.reset (h : Recorded g opened) (hvacant : g.Vacant opened) :
    Recorded g.reset.1 opened := by
  have hheld : g.reset.1.recordedSession = g.recordedSession := by
    funext id
    rw [h.mirrored.held_eq_none hvacant, recordedSession]
    exact ite_self none
  refine ⟨?_, fun hrecord => ?_, fun hrecord => ?_, h.supervisor⟩
  · rw [hheld]
    exact h.mirrored
  · cases hrecord
  · cases hrecord

end GameServer
end Game
end SeamlessServer
