import SeamlessServer.Data.Handles
import SeamlessServer.Supervisor.Sessions

/-!
# Supervisor.Process — the sessions of the supervisor and its managed servers

The worker together with the sessions that its engine has opened and whose close has not been
dispatched.  The engine resets the user data of a session when it opens it, and it opens no session
that is open.  Registration, recovery and close keep the open sessions that have a server id in
one-to-one correspondence with the managed servers (`sessions_paired`).

A closed session keeps its server id until it is opened again (`closed_session_keeps_id`).
-/

namespace SeamlessServer
namespace Supervisor

open Protocol Utility Game

/-! ## The configuration of the minions -/

structure SocketServerConfig where
  parallelAcceptorCount : Nat := 1
  maxConnectableSocketCount : Nat := 256
  maxAcceptableSocketCount : Nat := 1024
  workerCount : Nat := 2
  readBufferPoolSize : Nat := 8
  readBufferCapacity : Nat := 65536
  writeBufferPoolSize : Nat := 8
  writeBufferCapacity : Nat := 65536
  updateTick : Nat := 0
  deriving DecidableEq, Repr

structure NetworkEngineOption where
  socketIdleTimeoutMs : Nat := 5000
  sessionIdleTimeoutMs : Nat := 5000
  sessionHeartbeatIntervalMs : Nat := 2000
  maxSessionCount : Nat := 64
  useSessionReconnect : Bool := false
  sessionReconnectTimeoutMs : Nat := 30000
  workerUpdateTickMs : Nat := 500
  deriving DecidableEq, Repr

structure GameConfig where
  gameUpdateTickMs : Nat
  packetBatchProcessTimeMs : Nat
  fixtureTransformCooltimeMs : Nat
  deriving DecidableEq, Repr

structure ServerConfig where
  intraServerListenPort : Nat
  intraSocketServerConfig : SocketServerConfig
  intraNetworkEngineOption : NetworkEngineOption
  userListenPort : Nat
  userSocketServerConfig : SocketServerConfig
  userNetworkEngineOption : NetworkEngineOption
  gameConfig : GameConfig
  deriving DecidableEq, Repr

/-- `AgencyServerConfig` of `Config.h`. -/
def agencyServerConfig : ServerConfig where
  intraServerListenPort := 9998
  intraSocketServerConfig := ⟨1, 32, 1, 2, 256, 65536, 256, 131072, 250⟩
  intraNetworkEngineOption := ⟨180000, 180000, 1000, 256, false, 0, 33⟩
  userListenPort := 9997
  userSocketServerConfig := ⟨4, 32, 1024, 2, 32, 8192, 16, 131072, 250⟩
  userNetworkEngineOption := ⟨180000, 180000, 1000, 1024, false, 0, 33⟩
  gameConfig := ⟨33, 10, 1000⟩

/-- `PlayServerConfig` of `Config.h`. -/
def playServerConfig : ServerConfig where
  intraServerListenPort := 9999
  intraSocketServerConfig := ⟨2, 32, 32, 2, 512, 131072, 512, 131072, 250⟩
  intraNetworkEngineOption := ⟨180000, 180000, 1000, 256, false, 0, 33⟩
  userListenPort := 0
  userSocketServerConfig := {}
  userNetworkEngineOption := {}
  gameConfig := ⟨33, 10, 1000⟩

/-! ## The process -/

/-- What a minion may send, as `OnSocketSessionData` tells it apart. -/
inductive Request where
  | malformed
  | loadServerConfigRq (serverType : ServerType)
  | registerMinionServerRq (packet : RegisterMinionServerRq)
  | recoveryMinionServerRq (packet : RecoveryMinionServerRq)
  | other

/-- An action of the worker, or the answer to `loadServerConfigRq`, whose configuration nobody
writes for a server that is neither an agency nor a play server. -/
inductive ProcessAction where
  | worker (action : Action)
  | loadServerConfigRs (session : SessionId) (serverConfig : Option ServerConfig)

structure SupervisorProcess where
  worker : SupervisorWorker
  serverPort : Nat
  opened : SessionId → Bool

namespace SupervisorProcess

def new (now : Milliseconds) : SupervisorProcess where
  worker := .new now
  serverPort := 11001
  opened := fun _ => false

variable (s : SupervisorProcess)

/-- `OnServerLoadServerConfig`; `_server_port` is a `uint16_t`. -/
def onServerLoadServerConfig (session : SessionId) (serverType : ServerType) :
    SupervisorProcess × List ProcessAction :=
  match serverType with
  | .Agency => (s, [.loadServerConfigRs session (some agencyServerConfig)])
  | .Play =>
      ({ s with serverPort := (s.serverPort + 1) % 2 ^ 16 },
        [.loadServerConfigRs session
          (some { playServerConfig with intraServerListenPort := s.serverPort })])
  | _ => (s, [.loadServerConfigRs session none])

def onSocketSessionData (session : SessionId) (request : Request) (now : Milliseconds) :
    Option (SupervisorProcess × List ProcessAction) :=
  if s.worker.serverIdOf session ≠ 0 then
    some (s, [.worker (.disconnect session)])
  else
    match request with
    | .malformed => some (s, [.worker (.disconnect session)])
    | .loadServerConfigRq serverType => some (s.onServerLoadServerConfig session serverType)
    | .registerMinionServerRq packet =>
        (s.worker.onServerRegisterMinionServerReq session packet now).map fun r =>
          ({ s with worker := r.1 }, r.2.map .worker)
    | .recoveryMinionServerRq packet =>
        let r := s.worker.onServerRecoveryMinionServerReq session packet now
        some ({ s with worker := r.1 }, r.2.map .worker)
    | .other => some (s, [])

/-- The engine opens a session: its user data is empty. -/
def accept (session : SessionId) : SupervisorProcess :=
  { s with
    worker := { s.worker with serverIdOf := Function.update s.worker.serverIdOf session 0 }
    opened := Function.update s.opened session true }

theorem opened_accept (session : SessionId) : (s.accept session).opened session = true :=
  Function.update_self _ _ _

inductive Event where
  | accepted (session : SessionId)
  | data (session : SessionId) (request : Request) (now : Milliseconds)
  | closed (session : SessionId)
  | update (now : Milliseconds)
  | reorder

/-- One event of the supervisor. -/
inductive Step (s : SupervisorProcess) : Event → SupervisorProcess → Prop where
  | accepted {session : SessionId} : s.opened session = false →
      Step s (.accepted session) (s.accept session)
  | data {session : SessionId} {request : Request} {now : Milliseconds} {s' : SupervisorProcess}
      {actions : List ProcessAction} : s.opened session = true →
      s.onSocketSessionData session request now = some (s', actions) →
      Step s (.data session request now) s'
  | closed {session : SessionId} {worker : SupervisorWorker} {actions : List Action} :
      s.opened session = true → s.worker.onSocketSessionClosed session = some (worker, actions) →
      Step s (.closed session)
        { s with worker, opened := Function.update s.opened session false }
  | update {now : Milliseconds} : Step s (.update now) { s with worker := (s.worker.update now).1 }
  | reorder {worker : SupervisorWorker} : s.worker.Equiv worker →
      Step s .reorder { s with worker }

def machine : Machine SupervisorProcess Event where
  init := fun s => ∃ now, s = new now
  step := Step

open SupervisorWorker (closed_cases closed_serverIdOf exists_update_entry find_of_not_taken
  find_released of_recoveryAccepted recovery_eq_of_rejected recovery_serverIdOf
  recovery_spec_of_accepted register_cases update_entries)

/-! ## What a request does -/

variable {s} {s' : SupervisorProcess}

/-- A request leaves the worker alone, registers a server or recovers one. -/
theorem data_cases {session : SessionId} {request : Request} {now : Milliseconds}
    {actions : List ProcessAction}
    (h : s.onSocketSessionData session request now = some (s', actions)) :
    s'.opened = s.opened ∧
      (s'.worker = s.worker ∨
        (∃ packet actions', request = .registerMinionServerRq packet ∧
          s.worker.serverIdOf session = 0 ∧
          s.worker.onServerRegisterMinionServerReq session packet now =
            some (s'.worker, actions')) ∨
        ∃ packet, request = .recoveryMinionServerRq packet ∧ s.worker.serverIdOf session = 0 ∧
          s'.worker = (s.worker.onServerRecoveryMinionServerReq session packet now).1) := by
  unfold onSocketSessionData at h
  split at h
  next =>
    cases h
    exact ⟨rfl, .inl rfl⟩
  next hzero =>
    have hzero' : s.worker.serverIdOf session = 0 := not_not.1 hzero
    cases request with
    | malformed | other =>
        cases h
        exact ⟨rfl, .inl rfl⟩
    | loadServerConfigRq serverType =>
        cases serverType <;> cases h <;> exact ⟨rfl, .inl rfl⟩
    | registerMinionServerRq packet =>
        obtain ⟨r, hr, heq⟩ := Option.map_eq_some_iff.1 h
        cases heq
        exact ⟨rfl, .inr (.inl ⟨packet, r.2, rfl, hzero', hr⟩)⟩
    | recoveryMinionServerRq packet =>
        cases h
        exact ⟨rfl, .inr (.inr ⟨packet, rfl, hzero', rfl⟩)⟩

/-! ## Sessions and managed servers -/

/-- The session of a managed server. -/
def sessionOf (s : SupervisorProcess) (k : Nat) : Option SessionId :=
  (s.worker.managedServerList.find k).map ManagedServerInfo.session

/-- The open sessions with a server id. -/
def serving (s : SupervisorProcess) : Set SessionId :=
  {session | s.opened session = true ∧ s.worker.serverIdOf session ≠ 0}

theorem sessionOf_eq_some {k : Nat} {session : SessionId} :
    s.sessionOf k = some session ↔
      ∃ server, s.worker.managedServerList.find k = some server ∧ server.session = session :=
  Option.map_eq_some_iff

/-- The sessions with a server id are the sessions of the managed servers, which carry their ids. -/
structure Matched (s : SupervisorProcess) : Prop where
  exclusive : s.worker.Exclusive
  bound : s.worker.Bound
  oneToOne : OneToOne s.sessionOf s.serving

theorem Matched.new (now : Milliseconds) : (new now).Matched where
  exclusive := exclusive_new now
  bound := fun _ _ h => (by cases h)
  oneToOne := by
    have hnone : (SupervisorProcess.new now).serving = ∅ :=
      Set.eq_empty_of_forall_notMem fun _ h => absurd h.1 Bool.false_ne_true
    rw [hnone]
    exact OneToOne.empty

/-- The entry of an open session with a server id is found under that id. -/
theorem Matched.sessionOf_serverIdOf (h : s.Matched) {session : SessionId}
    (hsession : session ∈ s.serving) :
    s.sessionOf (s.worker.serverIdOf session) = some session := by
  obtain ⟨k, hk⟩ := h.oneToOne.exists_key hsession
  obtain ⟨server, hserver, rfl⟩ := sessionOf_eq_some.1 hk
  rw [h.bound hserver]
  exact hk

/-- A session that is not open is not the session of a managed server. -/
theorem Matched.vacant (h : s.Matched) {session : SessionId} (hclosed : s.opened session = false) :
    s.worker.Vacant session := by
  rintro k server hserver rfl
  have hmem := h.oneToOne.mem_live (sessionOf_eq_some.2 ⟨server, hserver, rfl⟩)
  rw [hmem.1] at hclosed
  cases hclosed

/-- Every step is a step of the worker that the engine and `OnSocketSessionData` let happen. -/
theorem Matched.worker_step (h : s.Matched) {e : Event} (hstep : s.Step e s') :
    s'.worker = s.worker ∨
      ∃ e', attended s.worker e' ∧ Supervisor.Step s.worker e' s'.worker := by
  cases hstep with
  | accepted hclosed =>
      exact .inr ⟨.accepted _, h.vacant hclosed, Supervisor.Step.accepted _ _⟩
  | data _ hdata =>
      rcases (data_cases hdata).2 with hsame | ⟨packet, actions, _, _, hr⟩ | ⟨packet, _, hzero, hr⟩
      · exact .inl hsame
      · exact .inr ⟨.register _ packet _, trivial, Supervisor.Step.register hr⟩
      · rw [hr]
        exact .inr ⟨.recovery _ packet _, hzero, Supervisor.Step.recovery _ _ _ _⟩
  | closed _ hclosed =>
      exact .inr ⟨.closed _, trivial, Supervisor.Step.closed hclosed⟩
  | update =>
      exact .inr ⟨.update _, trivial, Supervisor.Step.update _ _⟩
  | reorder hequiv =>
      exact .inr ⟨.reorder, trivial, Supervisor.Step.reorder hequiv⟩

/-- A server is entered over an open session without one. -/
theorem Matched.enter (h : s.Matched) (server : ManagedServerInfo) {session : SessionId} {n : Nat}
    (hopen : s.opened session = true) (hopened : s'.opened = s.opened)
    (hzero : s.worker.serverIdOf session = 0) (hn : n ≠ 0)
    (hfree : s.worker.managedServerList.find n = none) (hsession : server.session = session)
    (hids : s'.worker.serverIdOf = Function.update s.worker.serverIdOf session n)
    (hfind : ∀ k, s'.worker.managedServerList.find k =
      if k = n then some server else s.worker.managedServerList.find k) :
    OneToOne s'.sessionOf s'.serving := by
  have hsessions : s'.sessionOf = Function.update s.sessionOf n (some session) := by
    funext k
    unfold sessionOf
    rw [hfind k, Function.update_apply]
    split
    next =>
      exact congrArg some hsession
    next =>
      rfl
  have hserving : s'.serving = insert session s.serving := by
    ext x
    unfold serving
    rw [Set.mem_insert_iff, Set.mem_ofPred_eq, Set.mem_ofPred_eq, hids, hopened,
      Function.update_apply]
    by_cases hx : x = session
    · simp [hx, hopen, hn]
    · simp [hx]
  rw [hsessions, hserving]
  refine h.oneToOne.acquire ?_ fun hmem => hmem.2 hzero
  unfold sessionOf
  rw [hfree]
  rfl

/-- The session of a managed server, or one without server, is closed. -/
theorem Matched.close (h : s.Matched) {session : SessionId} {worker : SupervisorWorker}
    {actions : List Action} (hopen : s.opened session = true)
    (hclosed : s.worker.onSocketSessionClosed session = some (worker, actions)) :
    let s' := { s with worker, opened := Function.update s.opened session false }
    OneToOne (sessionOf s') (serving s') := by
  intro s'
  have hids : worker.serverIdOf = s.worker.serverIdOf := closed_serverIdOf hclosed
  have hserving : s'.serving = s.serving \ {session} := by
    ext x
    unfold serving
    rw [Set.mem_sdiff, Set.mem_singleton_iff, Set.mem_ofPred_eq, Set.mem_ofPred_eq]
    change Function.update s.opened session false x = true ∧ worker.serverIdOf x ≠ 0 ↔ _
    rw [hids, Function.update_apply]
    by_cases hx : x = session
    · simp [hx]
    · simp [hx]
  rw [hserving]
  rcases closed_cases hclosed with ⟨hzero, rfl, _⟩ | ⟨server, hne, _, rfl, _⟩
  · -- the session was not serving
    rw [Set.sdiff_singleton_eq_self fun hmem => hmem.2 hzero]
    exact h.oneToOne
  · have hsessions : s'.sessionOf =
        Function.update s.sessionOf (s.worker.serverIdOf session) none := by
      funext k
      unfold sessionOf
      rw [Function.update_apply]
      change Option.map _ ((s.worker.released (s.worker.serverIdOf session)
        server).managedServerList.find k) = _
      rw [find_released]
      split <;> rfl
    rw [hsessions]
    exact h.oneToOne.release (h.sessionOf_serverIdOf ⟨hopen, hne⟩)

/-- The sessions of the managed servers after an update. -/
theorem sessionOf_update (now : Milliseconds) :
    sessionOf { s with worker := (s.worker.update now).1 } = s.sessionOf := by
  funext k
  unfold sessionOf
  cases hk : (s.worker.update now).1.managedServerList.find k with
  | some server' =>
      obtain ⟨server, hserver, hsession, _⟩ := (update_entries s.worker now).2 k server' hk
      rw [hserver]
      exact congrArg some hsession
  | none =>
      cases hold : s.worker.managedServerList.find k with
      | none =>
          rfl
      | some server =>
          obtain ⟨server', hserver', _⟩ := exists_update_entry hold now
          rw [hk] at hserver'
          cases hserver'

/-- No session gets another server id, and no server another session. -/
theorem Matched.keep (h : s.Matched) (hopened : s'.opened = s.opened)
    (hids : s'.worker.serverIdOf = s.worker.serverIdOf) (hsessions : s'.sessionOf = s.sessionOf) :
    OneToOne s'.sessionOf s'.serving := by
  have hserving : s'.serving = s.serving := by
    unfold serving
    rw [hids, hopened]
  rw [hserving, hsessions]
  exact h.oneToOne

theorem sessionOf_congr (hworker : s'.worker = s.worker) : s'.sessionOf = s.sessionOf := by
  unfold sessionOf
  rw [hworker]

theorem Matched.step (h : s.Matched) {e : Event} (hstep : s.Step e s') : s'.Matched := by
  have hworker : s'.worker.Exclusive ∧ s'.worker.Bound := by
    rcases h.worker_step hstep with hsame | ⟨e', hattended, hstep'⟩
    · rw [hsame]
      exact ⟨h.exclusive, h.bound⟩
    · exact ⟨(exclusive_step h.exclusive hstep').1,
        bound_step h.exclusive h.bound hattended hstep'⟩
  refine ⟨hworker.1, hworker.2, ?_⟩
  cases hstep with
  | @accepted session hclosed =>
      -- the session is open now, but without a server id
      have hserving : (s.accept session).serving = s.serving := by
        ext x
        unfold serving accept
        rw [Set.mem_ofPred_eq, Set.mem_ofPred_eq]
        dsimp only
        rw [Function.update_apply, Function.update_apply]
        by_cases hx : x = session
        · simp [hx, hclosed]
        · simp [hx]
      rw [hserving]
      exact h.oneToOne
  | @data session request now _ actions hopen hdata =>
      obtain ⟨hopened, hsame | ⟨packet, actions', _, hzero, hr⟩ | ⟨packet, _, hzero, hr⟩⟩ :=
        data_cases hdata
      · exact h.keep hopened (congrArg _ hsame) (sessionOf_congr hsame)
      · -- a session with a server id has been disconnected before
        rcases register_cases hr with ⟨hne, _⟩ | ⟨info, _, hle, hfree, hentered, _⟩
        · exact absurd hzero hne
        · have hpos := h.exclusive.counter_pos
          exact h.enter ⟨session, info, []⟩ hopen hopened hzero (by omega)
            (find_of_not_taken hfree) rfl (by rw [hentered]; rfl)
            (fun k => by rw [hentered]; exact UnorderedMap.find_insert _ _ _ _)
      · cases haccepted : s.worker.recoveryAccepted packet with
        | false =>
            rw [recovery_eq_of_rejected s.worker session packet now haccepted] at hr
            exact h.keep hopened (congrArg _ hr) (sessionOf_congr hr)
        | true =>
            -- the id comes from the peer, and is accepted only if no entry has it
            obtain ⟨hid, hfree, _⟩ := of_recoveryAccepted haccepted
            exact h.enter _ hopen hopened hzero (by omega) hfree rfl
              (by rw [hr]; exact recovery_serverIdOf s.worker session packet now haccepted)
              (by rw [hr]; exact (recovery_spec_of_accepted s.worker session packet now haccepted).2.2)
  | closed hopen hclosed =>
      exact h.close hopen hclosed
  | @update now =>
      exact h.keep rfl (update_entries s.worker now).1 (sessionOf_update now)
  | @reorder worker hequiv =>
      -- the order of the entries is not what finds them
      have hsessions : sessionOf { s with worker } = s.sessionOf := by
        funext k
        unfold sessionOf
        dsimp only
        rw [hequiv.managedServerList k]
      exact h.keep rfl hequiv.serverIdOf.symm hsessions

theorem matched_of_reachable (h : machine.Reachable s) : s.Matched :=
  h.invariant (fun _ ⟨now, hnew⟩ => hnew ▸ Matched.new now) fun _ _ _ hs hstep => hs.step hstep

/-- The server id is a bijection from the open sessions that have one to the keys of the managed
servers. -/
theorem Matched.bijOn (h : s.Matched) :
    Set.BijOn s.worker.serverIdOf s.serving s.worker.managedIds := by
  refine ⟨fun session hsession => ?_, fun session hsession session' hsession' heq => ?_,
    fun k hk => ?_⟩
  · obtain ⟨server, hserver, _⟩ := sessionOf_eq_some.1 (h.sessionOf_serverIdOf hsession)
    exact Option.isSome_iff_exists.2 ⟨server, hserver⟩
  · have hone := h.sessionOf_serverIdOf hsession
    rw [heq, h.sessionOf_serverIdOf hsession'] at hone
    exact (Option.some.inj hone).symm
  · obtain ⟨server, hserver⟩ := Option.isSome_iff_exists.1 hk
    exact ⟨server.session, h.oneToOne.mem_live (sessionOf_eq_some.2 ⟨server, hserver, rfl⟩),
      h.bound hserver⟩

/-- In every run the open sessions with a server id and the managed servers are in one-to-one
correspondence: an entry holds the session that carries its key, and the server with that id.  So
the assertion of a close holds. -/
theorem sessions_paired (h : machine.Reachable s) :
    Set.BijOn s.worker.serverIdOf
        {session | s.opened session = true ∧ s.worker.serverIdOf session ≠ 0}
        {k | (s.worker.managedServerList.find k).isSome = true} ∧
      (∀ k server, s.worker.managedServerList.find k = some server →
        s.opened server.session = true ∧ s.worker.serverIdOf server.session = k ∧
          server.serverInfo.serverId = k) ∧
      ∀ session, s.opened session = true →
        (s.worker.onSocketSessionClosed session).isSome = true := by
  have hmatched := matched_of_reachable h
  refine ⟨hmatched.bijOn, fun k server hserver => ?_, fun session hopen => ?_⟩
  · have hmem := hmatched.oneToOne.mem_live (sessionOf_eq_some.2 ⟨server, hserver, rfl⟩)
    exact ⟨hmem.1, hmatched.bound hserver, hmatched.exclusive.keyed hserver⟩
  · unfold SupervisorWorker.onSocketSessionClosed
    by_cases hzero : s.worker.serverIdOf session = 0
    · simp [hzero]
    · obtain ⟨server, hserver, _⟩ :=
        sessionOf_eq_some.1 (hmatched.sessionOf_serverIdOf ⟨hopen, hzero⟩)
      simp [hzero, hserver]

/-- A play server has registered over session `1`. -/
def registered : SupervisorProcess :=
  ((((new 0).accept 1).onSocketSessionData 1
    (.registerMinionServerRq ⟨.Play, ⟨"127.0.0.1", 5000⟩⟩) 0).map Prod.fst).getD (new 0)

theorem reachable_registered : machine.Reachable registered := by
  have haccepted : machine.Reachable ((new 0).accept 1) := .step (.init ⟨0, rfl⟩) (.accepted rfl)
  have hregistered : ∃ actions, ((new 0).accept 1).onSocketSessionData 1
      (.registerMinionServerRq ⟨.Play, ⟨"127.0.0.1", 5000⟩⟩) 0 = some (registered, actions) :=
    ⟨_, rfl⟩
  obtain ⟨actions, hregistered⟩ := hregistered
  exact .step haccepted (.data rfl hregistered)

theorem sessions_paired_registered :
    registered.worker.serverIdOf 1 = 2 ∧
      ∀ server, registered.worker.managedServerList.find 2 = some server →
        registered.worker.serverIdOf server.session = 2 :=
  ⟨by decide +kernel, fun server h => ((sessions_paired reachable_registered).2.1 2 server h).2.1⟩

/-- The session of a server that has left still carries its id, which is no key any more. -/
theorem closed_session_keeps_id :
    ¬ ∀ s, machine.Reachable s →
      Set.BijOn s.worker.serverIdOf {session | s.worker.serverIdOf session ≠ 0}
        {k | (s.worker.managedServerList.find k).isSome = true} := by
  intro h
  -- the close takes the server out of the list, and the user data of the session keeps its id
  have hclosed : ∃ worker actions,
      registered.worker.onSocketSessionClosed 1 = some (worker, actions) ∧
        worker.serverIdOf 1 = 2 ∧ worker.managedServerList.find 2 = none :=
    ⟨_, _, rfl, by decide +kernel, by decide +kernel⟩
  obtain ⟨worker, actions, hclosed, hid, hnone⟩ := hclosed
  have hmem := (h _ (.step reachable_registered (.closed (by decide +kernel) hclosed))).mapsTo
    (show (1 : SessionId) ∈ {session | worker.serverIdOf session ≠ 0} by
      rw [Set.mem_ofPred_eq, hid]
      decide)
  rw [Set.mem_ofPred_eq] at hmem
  change (worker.managedServerList.find (worker.serverIdOf 1)).isSome = true at hmem
  rw [hid, hnone] at hmem
  cases hmem

end SupervisorProcess
end Supervisor
end SeamlessServer
