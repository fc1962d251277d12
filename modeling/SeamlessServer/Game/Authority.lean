import SeamlessServer.Game.Closing

/-!
# Game.Authority — who drives the control plane

`GameServerWorker::OnSocketSessionData` in full: a packet may come over any session, and the
dispatcher decides by the record of the session and the type of the packet.  Packets of clients go
to the derived server.  For the others the handshakes and the four packets of the supervisor come
first, and only what is left is refused if the session is not authorised.

* `powerless_iff`: the sessions without power over the control plane are those of clients;
* `driven_by_supervisor`: in runs in which the packets of the supervisor come over its own session
  or from clients, no other data touches the control plane.
-/

namespace SeamlessServer
namespace Game

open Protocol

/-! ## The dispatcher -/

/-- What a derived server does to the posting manager when it handles a packet of another server. -/
inductive ListenerOperation
  | addSectorListener (sectorId targetId : Nat)
  | removeSectorListener (sectorId targetId : Nat)
  deriving DecidableEq, Repr

def SectorPostingManager.listen (m : SectorPostingManager) :
    ListenerOperation → SectorPostingManager
  | .addSectorListener sectorId targetId => m.addSectorListener sectorId targetId
  | .removeSectorListener sectorId targetId => m.removeSectorListener sectorId targetId

theorem SectorPostingManager.owner_listen (m : SectorPostingManager)
    (operation : ListenerOperation) : (m.listen operation).owner = m.owner := by
  cases operation with
  | addSectorListener sectorId targetId =>
      exact m.owner_addSectorListener sectorId targetId
  | removeSectorListener sectorId targetId =>
      exact m.owner_removeSectorListener sectorId targetId

/-- The data of a session, by the cases of the dispatcher. -/
inductive DataPacket
  | authorizeServerRq (serverId : Nat)
  | authorizeServerRs (serverId : Nat) (error : ErrorCode)
  | supervisor (packet : SupervisorPacket)
  /-- A packet of these six types with a body that cannot be read. -/
  | malformed
  /-- Any other packet, which is passed to the derived server. -/
  | other (packetType : Nat) (body : List UInt8)

/-- The virtual functions for data.  For a client, agencies post packets or close the session; for
another server they also change listeners.  Play servers have no clients and change their world. -/
structure DataHandlers where
  onClientData : GameServer → Nat → DataPacket → List MinionAction := fun _ _ _ => []
  onIntraServerData : GameServer → Nat → DataPacket →
    List ListenerOperation × List MinionAction := fun _ _ _ => ([], [])

/-- The six types are recognised before the authorisation of the session is looked at. -/
def DataPacket.isSupervisor : DataPacket → Bool
  | .supervisor _ => true
  | _ => false

namespace GameServer

/-- The session has a record, and that is a client's. -/
def isClient (g : GameServer) (session : Nat) : Bool :=
  match (g.userData session).info with
  | some (.active id) => (g.activeSessions.find id).any UniversalSessionInfo.isClient
  | _ => false

section Dispatch

variable (config : Configuration) (handlers : DataHandlers) (g : GameServer)

/-- `session_info->session->CloseSession()`. -/
def closeRecorded (info : UniversalSessionInfo) : Option (GameServer × List MinionAction) :=
  info.session.map fun session => (g, [.closeSession session])

/-- `OnSocketSessionData` for a session with a record in `_active_sessions`.  The session that was
connected to the supervisor has a record of its own, and its packets are a step of their own.
Nothing is a null or dangling record or session, or a failed assertion. -/
def onSocketSessionData (session : Nat) (packet : DataPacket) :
    Option (GameServer × List MinionAction) :=
  match (g.userData session).info with
  | some (.active id) =>
      match g.activeSessions.find id with
      | none => none
      | some info =>
          if info.isClient then
            -- a client is heard as soon as the server knows its own id
            if g.serviceReady then
              some (g, handlers.onClientData g session packet)
            else
              some (g, [.closeSession (.socket session)])
          else
            -- any session of a server may send what only the supervisor should
            match packet with
            | .authorizeServerRq serverId => g.authorizeServerRq config session id serverId
            | .authorizeServerRs serverId error =>
                g.authorizeServerRs config session id serverId error
            | .supervisor packet => some (g.onSupervisorPacket config session packet)
            | .malformed => g.closeRecorded info
            | .other packetType body =>
                if info.isAuthorized then
                  match info.session with
                  | some (.socket owner) =>
                      match g.getServerSession (g.userData owner).serverId with
                      | none => some (g, [.closeSession (.socket session)])
                      | some _ =>
                          -- the handler of the play server may make the sender a listener
                          let (listeners, actions) :=
                            handlers.onIntraServerData g session (.other packetType body)
                          some ({ g with
                            sectorPostingManager :=
                              listeners.foldl SectorPostingManager.listen g.sectorPostingManager },
                            actions)
                  | _ => none
                else
                  g.closeRecorded info
  | _ => none

end Dispatch

/-! ## The control plane -/

/-- What the supervisor decides about a server: who it is, whether it serves, which servers there are
and which of them own which sectors. -/
@[ext]
structure ControlPlane where
  myServerInfo : ServerInfo
  serviceReady : Bool
  members : Nat → Bool
  owner : Nat → Nat

def controlPlane (g : GameServer) : ControlPlane where
  myServerInfo := g.myServerInfo
  serviceReady := g.serviceReady
  members := fun serverId => (g.serverSessions.find serverId).isSome
  owner := g.sectorPostingManager.owner

/-- Every packet of the session is handled and leaves the control plane as it is. -/
def Powerless (config : Configuration) (handlers : DataHandlers) (g : GameServer) (session : Nat) :
    Prop :=
  ∀ packet, ∃ g' actions,
    g.onSocketSessionData config handlers session packet = some (g', actions) ∧
      g'.controlPlane = g.controlPlane

section Power

variable {config : Configuration} {handlers : DataHandlers} {g g' : GameServer} {session : Nat}
  {packet : DataPacket} {actions : List MinionAction}

theorem owner_foldl_listen (operations : List ListenerOperation) :
    ∀ m : SectorPostingManager, (operations.foldl SectorPostingManager.listen m).owner = m.owner := by
  induction operations with
  | nil =>
      intro m
      rfl
  | cons operation operations ih =>
      intro m
      rw [List.foldl_cons, ih, m.owner_listen]

theorem owner_foldl_addSectorListener (sectors : List Nat) (serverId : Nat) :
    ∀ m : SectorPostingManager,
      (sectors.foldl (fun m x => m.addSectorListener x serverId) m).owner = m.owner := by
  induction sectors with
  | nil =>
      intro m
      rfl
  | cons x sectors ih =>
      intro m
      rw [List.foldl_cons, ih, m.owner_addSectorListener]

/-- A completed handshake fills in the entry of a member. -/
theorem controlPlane_authorize {id serverId : Nat} {server : IntraServerInfo}
    (h : g.getServerSession serverId = some server) :
    (g.authorize config session id serverId server).controlPlane = g.controlPlane := by
  have hmembers : ∀ k, ((g.authorize config session id serverId server).serverSessions.find
      k).isSome = (g.serverSessions.find k).isSome := by
    intro k
    have hfind : g.serverSessions.find serverId = some server := h
    simp only [authorize, listenSector, setUserData, UnorderedMap.find_insert]
    split_ifs with hk
    · rw [hk, hfind]
      rfl
    · rfl
  have howner : (g.authorize config session id serverId server).sectorPostingManager.owner =
      g.sectorPostingManager.owner :=
    (owner_foldl_addSectorListener _ serverId _).trans (SectorPostingManager.owner_linkSession ..)
  exact ControlPlane.ext rfl rfl (funext hmembers) howner

/-- A client, or a packet that is none of the supervisor's, leaves the control plane as it is. -/
theorem controlPlane_onSocketSessionData
    (h : g.onSocketSessionData config handlers session packet = some (g', actions))
    (hharmless : g.isClient session = true ∨ packet.isSupervisor = false) :
    g'.controlPlane = g.controlPlane := by
  unfold onSocketSessionData at h
  split at h
  next id hid =>
    split at h
    · cases h
    next info hinfo =>
      split at h
      next hclient =>
        split at h <;> cases h <;> rfl
      next hclient =>
        have hsupervisor : packet.isSupervisor = false := by
          refine hharmless.resolve_left ?_
          simpa [isClient, hid, hinfo] using hclient
        have hclosed : ∀ {info}, g.closeRecorded info = some (g', actions) → g' = g := by
          intro info hclosed
          rcases Option.map_eq_some_iff.1 hclosed with ⟨_, _, heq⟩
          exact (Prod.mk.inj heq).1.symm
        -- a handshake authorises a session, and anything else of a server at most adds listeners
        cases packet with
        | authorizeServerRq serverId =>
            rcases authorizeServerRq_cases h with ⟨server, _, hserver, rfl⟩ | ⟨_, rfl⟩
            · exact controlPlane_authorize hserver
            · rfl
        | authorizeServerRs serverId error =>
            rcases authorizeServerRs_cases h with ⟨server, _, hserver, rfl⟩ | ⟨_, rfl⟩
            · exact controlPlane_authorize hserver
            · rfl
        | supervisor packet =>
            cases hsupervisor
        | malformed =>
            rw [hclosed h]
        | other packetType body =>
            simp only at h
            split at h
            · split at h
              next owner =>
                split at h
                · cases h
                  rfl
                · cases h
                  exact ControlPlane.ext rfl rfl rfl (owner_foldl_listen _ _)
              · cases h
            · rw [hclosed h]
  · cases h

theorem myServerInfo_registerMinionServerRs (g : GameServer) (info : ServerInfo) :
    (g.registerMinionServerRs info).myServerInfo = info := by
  unfold registerMinionServerRs
  -- the counter plays no part, and its arithmetic must not be evaluated
  generalize (info.serverId * 1000000000000000 + 100000000000001) % 2 ^ 64 = counter
  rfl

/-- Every other session renames the server with one packet. -/
theorem not_powerless_of_not_isClient (h : g.isClient session = false) :
    ¬ Powerless config handlers g session := by
  intro hpowerless
  -- the server is told that it has the next id
  let info : ServerInfo := { g.myServerInfo with serverId := g.myServerInfo.serverId + 1 }
  rcases hpowerless (.supervisor (.registerMinionServerRs info)) with ⟨g', actions, hdata, hplane⟩
  unfold onSocketSessionData at hdata
  split at hdata
  next id hid =>
    split at hdata
    · cases hdata
    next record hrecord =>
      have hclient : ¬ record.isClient = true := by
        simpa [isClient, hid, hrecord] using h
      rw [if_neg hclient] at hdata
      simp only [onSupervisorPacket, Option.some.injEq, Prod.mk.injEq] at hdata
      have hg : g.registerMinionServerRs info = g' := hdata.1
      have hrenamed : info = g.myServerInfo := by
        rw [← myServerInfo_registerMinionServerRs g info, hg]
        exact congrArg ControlPlane.myServerInfo hplane
      have hid : g.myServerInfo.serverId + 1 = g.myServerInfo.serverId :=
        congrArg ServerInfo.serverId hrenamed
      omega
  · cases hdata

/-- The sessions without power are those of clients. -/
theorem powerless_iff (config : Configuration) (handlers : DataHandlers) (g : GameServer)
    (session : Nat) : Powerless config handlers g session ↔ g.isClient session = true := by
  constructor
  · intro hpowerless
    cases hclient : g.isClient session with
    | true =>
        rfl
    | false =>
        exact absurd hpowerless (not_powerless_of_not_isClient hclient)
  · intro hclient packet
    have hhandled : ∃ actions,
        g.onSocketSessionData config handlers session packet = some (g, actions) := by
      unfold isClient at hclient
      split at hclient
      next id hid =>
        rcases (Option.any_eq_true _ _).1 hclient with ⟨info, hinfo, hflag⟩
        unfold onSocketSessionData
        rw [hid]
        dsimp only
        rw [hinfo]
        dsimp only
        rw [if_pos hflag]
        split
        · exact ⟨_, rfl⟩
        · exact ⟨_, rfl⟩
      next =>
        cases hclient
    rcases hhandled with ⟨actions, hdata⟩
    exact ⟨g, actions, hdata, rfl⟩

/-- A session gets no power when it is accepted if it is one of the users' and the server serves. -/
theorem powerless_accepted_iff (hfresh : g.activeSessions.find g.currentUniversalSessionId = none)
    (session : Nat) (user : Bool) :
    Powerless config handlers (g.onSocketSessionAccepted session user).1 session ↔
      user = true ∧ g.serviceReady = true := by
  rw [powerless_iff]
  cases user with
  | false =>
      simp [onSocketSessionAccepted, activateSession, isClient, setUserData, hfresh]
  | true =>
      cases hready : g.serviceReady <;>
        simp [onSocketSessionAccepted, activateSession, isClient, setUserData, hfresh, hready]

end Power

/-! ## Runs -/

end GameServer

/-- The events that are not the data of a session, apart from the packets of the supervisor. -/
def MinionEvent.isHandshake : MinionEvent → Bool
  | .authorizeServerRq _ _ => true
  | .authorizeServerRs _ _ _ => true
  | _ => false

/-- A server, and the control plane it would have if data over other sessions than that of the
supervisor did not touch it. -/
structure Watched where
  server : GameServer
  plane : GameServer.ControlPlane

namespace Watched

inductive Event
  | minion (e : MinionEvent)
  | data (session : Nat) (packet : DataPacket)

open GameServer in
/-- One event.  The handshakes are data like any other packet. -/
inductive Step (config : Configuration) : Watched → Event → Watched → Prop where
  | minion {w : Watched} {e : MinionEvent} {g' : GameServer} :
      e.isHandshake = false → MinionStep config w.server e g' →
        Step config w (.minion e) ⟨g', g'.controlPlane⟩
  | data {w : Watched} {session : Nat} {packet : DataPacket} {g' : GameServer}
      {actions : List MinionAction} (handlers : DataHandlers) :
      w.server.onSocketSessionData config handlers session packet = some (g', actions) →
        Step config w (.data session packet) ⟨g', w.plane⟩

def machine (config : Configuration) : Machine Watched Event where
  init := fun w => w = ⟨.initialized config, (GameServer.initialized config).controlPlane⟩
  step := Step config

/-- The data of a session that is no client's is none of the four packets of the supervisor. -/
def Harmless (w : Watched) : Event → Prop
  | .minion _ => True
  | .data session packet => w.server.isClient session = true ∨ packet.isSupervisor = false

variable {config : Configuration} {w w' : Watched} {e : Event}

theorem Step.controlPlane (hstep : Step config w e w') (hharmless : w.Harmless e)
    (h : w.plane = w.server.controlPlane) : w'.plane = w'.server.controlPlane := by
  cases hstep with
  | minion _ _ =>
      rfl
  | data handlers hdata =>
      exact h.trans (GameServer.controlPlane_onSocketSessionData hdata hharmless).symm

/-- In every run in which the packets of the supervisor come over its own session or from clients,
the control plane is not touched by other data; and a session can touch it next exactly if it is
not a client's. -/
theorem driven_by_supervisor (config : Configuration) {w : Watched}
    (hreach : ((machine config).restrict Harmless).Reachable w) :
    w.plane = w.server.controlPlane ∧
      ∀ handlers session, (w.server.userData session).info ≠ some .supervisor →
        (w.server.Powerless config handlers session ↔ w.server.isClient session = true) := by
  refine ⟨?_, fun handlers session _ => GameServer.powerless_iff config handlers w.server session⟩
  refine Machine.Reachable.invariant (P := fun w => w.plane = w.server.controlPlane) ?_ ?_ hreach
  · rintro _ rfl
    rfl
  · rintro w e w' h ⟨hharmless, hstep⟩
    exact hstep.controlPlane hharmless h

end Watched

/-! ## An agency server with three sessions -/

namespace GameServer

/-- Data over other sessions than the supervisor's leaves the control plane as it is. -/
def OnlySupervisorDrives (config : Configuration) : Prop :=
  ∀ handlers g, (minion config).Reachable g → ∀ session packet g' actions,
    (g.userData session).info ≠ some .supervisor →
      g.onSocketSessionData config handlers session packet = some (g', actions) →
        g'.controlPlane = g.controlPlane

namespace Sample

def agencyConfig : Configuration where
  serverType := .Agency
  address := ⟨"127.0.0.1", 12002⟩
  supervisorAddress := ⟨"127.0.0.1", 10001⟩
  connectionConfig := fun _ => some ⟨.All, .All⟩

def asking : GameServer :=
  ((initialized agencyConfig).onSocketSessionConnected 0 supervisorServerId).1

/-- A user who came before the server serves, whose session 4 is about to be closed. -/
def early : GameServer := (asking.onSocketSessionAccepted 4 true).1

def enrolled : GameServer := early.registerMinionServerRs ⟨.Agency, 3, ⟨"127.0.0.1", 12002⟩⟩

/-- A user over session 5. -/
def entered : GameServer := (enrolled.onSocketSessionAccepted 5 true).1

/-- Somebody over session 6 of the engine for servers. -/
def serving : GameServer := (entered.onSocketSessionAccepted 6 false).1

def stolenInfo : ServerInfo := ⟨.Agency, 9, ⟨"127.0.0.1", 12002⟩⟩

theorem step_enrolled :
    MinionStep agencyConfig early
      (.supervisorPacket 0 (.registerMinionServerRs ⟨.Agency, 3, ⟨"127.0.0.1", 12002⟩⟩))
        enrolled :=
  MinionStep.supervisorPacket _ 0 (.registerMinionServerRs _) (by decide +kernel)

theorem reachable_serving : (minion agencyConfig).Reachable serving := by
  have hasking : (minion agencyConfig).Reachable asking :=
    .step (.init rfl) (MinionStep.connected _ 0 supervisorServerId)
  have henrolled : (minion agencyConfig).Reachable enrolled :=
    .step (.step hasking (MinionStep.accepted _ 4 true)) step_enrolled
  exact .step (.step henrolled (MinionStep.accepted _ 5 true)) (MinionStep.accepted _ 6 false)

theorem data_serving (session : Nat) (hsession : session = 4 ∨ session = 6) :
    serving.onSocketSessionData agencyConfig {} session
        (.supervisor (.registerMinionServerRs stolenInfo)) =
      some (serving.registerMinionServerRs stolenInfo, []) := by
  have hrecord : ∃ id info, (serving.userData session).info = some (.active id) ∧
      serving.activeSessions.find id = some info ∧ info.isClient = false := by
    rcases hsession with rfl | rfl
    · exact ⟨100, _, by decide +kernel, rfl, by decide +kernel⟩
    · exact ⟨3100000000000002, _, by decide +kernel, rfl, by decide +kernel⟩
  rcases hrecord with ⟨id, info, hid, hinfo, hclient⟩
  unfold onSocketSessionData
  rw [hid]
  dsimp only
  rw [hinfo]
  dsimp only
  rw [hclient]
  rfl

end Sample

/-- The user who came too early and the unauthorised session can both rename the server. -/
theorem strangers_rename :
    (minion Sample.agencyConfig).Reachable Sample.serving ∧
      (∀ session, session = 4 ∨ session = 6 →
        (Sample.serving.userData session).info ≠ some .supervisor ∧
          ¬ Powerless Sample.agencyConfig {} Sample.serving session) ∧
      ¬ OnlySupervisorDrives Sample.agencyConfig := by
  have hapart : ∀ session, session = 4 ∨ session = 6 →
      (Sample.serving.userData session).info ≠ some .supervisor := by
    rintro session (rfl | rfl)
    · decide +kernel
    · decide +kernel
  -- a registration answer is taken from any session
  have hrenamed : (Sample.serving.registerMinionServerRs Sample.stolenInfo).controlPlane ≠
      Sample.serving.controlPlane := by
    intro hplane
    have hid := congrArg (fun plane => plane.myServerInfo.serverId) hplane
    revert hid
    decide +kernel
  refine ⟨Sample.reachable_serving, fun session hsession => ⟨hapart session hsession, ?_⟩, ?_⟩
  · intro hpowerless
    rcases hpowerless (.supervisor (.registerMinionServerRs Sample.stolenInfo)) with
      ⟨g', actions, hdata, hplane⟩
    rw [Sample.data_serving session hsession] at hdata
    simp only [Option.some.injEq, Prod.mk.injEq] at hdata
    rw [← hdata.1] at hplane
    exact hrenamed hplane
  · intro hdrives
    exact hrenamed (hdrives {} Sample.serving Sample.reachable_serving 6 _ _ _
      (hapart 6 (.inr rfl)) (Sample.data_serving 6 (.inr rfl)))

end GameServer

namespace Watched

open GameServer (initialized) in
open GameServer.Sample in
theorem harmlessRun_serving :
    ((machine agencyConfig).restrict Harmless).Reachable ⟨serving, serving.controlPlane⟩ := by
  have hstep : ∀ {g : GameServer} {e : MinionEvent} {g' : GameServer},
      ((machine agencyConfig).restrict Harmless).Reachable ⟨g, g.controlPlane⟩ →
        e.isHandshake = false → MinionStep agencyConfig g e g' →
          ((machine agencyConfig).restrict Harmless).Reachable ⟨g', g'.controlPlane⟩ :=
    fun hreach hevent hstep => hreach.step_restrict (.minion hevent hstep) trivial
  have hasking := hstep (.init rfl) rfl (MinionStep.connected _ 0 supervisorServerId)
  have hearly := hstep hasking rfl (MinionStep.accepted _ 4 true)
  have henrolled := hstep hearly rfl step_enrolled
  have hentered := hstep henrolled rfl (MinionStep.accepted _ 5 true)
  have hserving := hstep hentered rfl (MinionStep.accepted _ 6 false)
  -- the client of session 5 then sends the packet that only the supervisor should send
  have hclient : serving.onSocketSessionData agencyConfig {} 5
      (.supervisor (.registerMinionServerRs stolenInfo)) = some (serving, []) := by
    have hrecord : (serving.userData 5).info = some (.active 3100000000000001) := by
      decide +kernel
    unfold GameServer.onSocketSessionData
    rw [hrecord]
    rfl
  exact hserving.step_restrict (.data {} hclient) (.inl (by decide +kernel))

open GameServer.Sample in
theorem driven_of_serving :
    ((machine agencyConfig).restrict Harmless).Reachable ⟨serving, serving.controlPlane⟩ ∧
      (serving.userData 5).info ≠ some .supervisor ∧
      (serving.Powerless agencyConfig {} 5 ↔ serving.isClient 5 = true) := by
  have happart : (serving.userData 5).info ≠ some .supervisor := by
    decide +kernel
  exact ⟨harmlessRun_serving, happart,
    (driven_by_supervisor agencyConfig harmlessRun_serving).2 {} 5 happart⟩

end Watched

end Game
end SeamlessServer
