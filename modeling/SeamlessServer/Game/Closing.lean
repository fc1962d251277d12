import SeamlessServer.Game.GameServer

/-!
# Game.Closing — what the close of a session takes away

`OnSocketSessionClosed` unsets up to two targets of the posting manager: the universal id of the
session and the server that was authorised on it.  The two kinds of ids are given out by different
processes and share one key space, so the close of a session also forgets any server whose id is the
universal id of that session.  The supervisor's connection always has universal id 2, which is the
first id `GetNextServerId` hands out.

`close_apart_iff` says exactly which closes leave the other servers alone.
-/

namespace SeamlessServer
namespace Game

open Protocol

/-! ## Several targets unset one after the other -/

namespace SectorPostingManager

variable (m : SectorPostingManager)

def unsetTargets (targets : List Nat) : SectorPostingManager :=
  targets.foldl unsetAll m

variable {m} {k : Nat}

/-- What the manager holds about a target can only be lost. -/
structure Shrunk (m m' : SectorPostingManager) (k : Nat) : Prop where
  owned : ∀ x, m'.owner x = k → m.owner x = k
  listened : ∀ x, k ∈ m'.listeners x → k ∈ m.listeners x
  linked : m.link k = none → m'.link k = none

theorem shrunk_unsetAll (hk : k ≠ 0) (t : Nat) : Shrunk m (m.unsetAll t) k := by
  refine ⟨fun x hx => ?_, fun x hx => ?_, fun hlink => ?_⟩
  · rw [owner_unsetAll] at hx
    split at hx
    · exact absurd hx.symm hk
    · exact hx
  · exact ((mem_listeners_unsetAll m t k x).1 hx).1
  · simp [link_unsetAll, hlink]

theorem shrunk_unsetTargets (hk : k ≠ 0) (targets : List Nat) :
    Shrunk m (m.unsetTargets targets) k := by
  induction targets generalizing m with
  | nil =>
      exact ⟨fun _ h => h, fun _ h => h, fun h => h⟩
  | cons t targets ih =>
      have hfirst := shrunk_unsetAll (m := m) hk t
      have hrest := ih (m := m.unsetAll t)
      exact ⟨fun x hx => hfirst.owned x (hrest.owned x hx),
        fun x hx => hfirst.listened x (hrest.listened x hx),
        fun h => hrest.linked (hfirst.linked h)⟩

/-- A loss that has happened is not made good by unsetting more targets. -/
theorem Undisturbed.of_unsetTargets (hk : k ≠ 0) {t : Nat} {targets : List Nat}
    (h : Undisturbed m ((m.unsetAll t).unsetTargets targets) k) :
    Undisturbed m (m.unsetAll t) k := by
  have hfirst := shrunk_unsetAll (m := m) hk t
  have hrest := shrunk_unsetTargets (m := m.unsetAll t) hk targets
  refine ⟨fun x => ⟨hfirst.owned x, fun hx => ?_⟩, fun x => ⟨hfirst.listened x, fun hx => ?_⟩, ?_⟩
  · exact hrest.owned x ((h.owned x).2 hx)
  · exact hrest.listened x ((h.listened x).2 hx)
  · rw [link_unsetAll]
    split
    next heq =>
      -- the target itself: its link is gone, and `h` says it was never there
      have hnone : (m.unsetAll t).link k = none := by
        rw [link_unsetAll, if_pos heq]
      exact (hrest.linked hnone).symm.trans h.linked
    next => rfl

/-- Unsetting a target leaves another one as much of a record as it had. -/
theorem recorded_unsetAll_of_ne (hk : k ≠ 0) {t : Nat} (hne : k ≠ t) :
    Recorded (m.unsetAll t) k ↔ Recorded m k := by
  have hkeep := undisturbed_unsetAll_of_ne m hk hne
  have hrelated : (m.unsetAll t).related k = m.related k := by
    rw [related_unsetAll, if_neg hne]
  simp only [Recorded, hkeep.linked, hrelated, hkeep.owned, hkeep.listened]

theorem undisturbed_unsetTargets_iff (hk : k ≠ 0) (targets : List Nat) :
    Undisturbed m (m.unsetTargets targets) k ↔ (k ∈ targets → ¬ Recorded m k) := by
  induction targets generalizing m with
  | nil =>
      exact iff_of_true (Undisturbed.refl m k) fun h => absurd h List.not_mem_nil
  | cons t targets ih =>
      by_cases hne : k = t
      · subst hne
        constructor
        · intro h _
          exact (undisturbed_unsetAll_self m hk).1 (h.of_unsetTargets hk)
        · intro h
          have hnot := h List.mem_cons_self
          have hself := (undisturbed_unsetAll_self m hk).2 hnot
          have hgone : ¬ Recorded (m.unsetAll k) k := by
            rintro (hlink | ⟨x, hx, _⟩)
            · exact hlink (by rw [link_unsetAll, if_pos rfl])
            · rw [related_unsetAll, if_pos rfl] at hx
              exact List.not_mem_nil hx
          exact hself.trans (ih.2 fun _ => hgone)
      · have hkeep := undisturbed_unsetAll_of_ne m hk hne
        have hrest : Undisturbed m (m.unsetTargets (t :: targets)) k ↔
            Undisturbed (m.unsetAll t) (m.unsetTargets (t :: targets)) k := by
          constructor
          · intro h
            exact ⟨fun x => (h.owned x).trans (hkeep.owned x).symm,
              fun x => (h.listened x).trans (hkeep.listened x).symm,
              h.linked.trans hkeep.linked.symm⟩
          · exact hkeep.trans
        rw [hrest]
        refine ih.trans ?_
        rw [recorded_unsetAll_of_ne hk hne, List.mem_cons, or_iff_right hne]

/-- A target that is not unset keeps its sectors and its session. -/
theorem kept_unsetTargets {targets : List Nat} (hk : k ∉ targets) :
    (∀ x, m.owner x = k → (m.unsetTargets targets).owner x = k) ∧
      (m.unsetTargets targets).link k = m.link k := by
  induction targets generalizing m with
  | nil =>
      exact ⟨fun _ h => h, rfl⟩
  | cons t targets ih =>
      have hne : k ≠ t := fun h => hk (h ▸ List.mem_cons_self)
      obtain ⟨howner, hlink⟩ := ih (m := m.unsetAll t) fun h => hk (List.mem_cons_of_mem t h)
      refine ⟨fun x hx => howner x ?_, hlink.trans ?_⟩
      · rw [owner_unsetAll, if_neg fun h => hne (hx.symm.trans h.2)]
        exact hx
      · rw [link_unsetAll, if_neg hne]

end SectorPostingManager

/-! ## Servers are stored under their own id -/

namespace GameServer

variable {config : Configuration} {g g' : GameServer}

structure Keyed (g : GameServer) : Prop where
  servers : ∀ {k server}, g.serverSessions.find k = some server → server.serverInfo.serverId = k
  supervisor : g.supervisorServerInfo.serverInfo.serverId = supervisorServerId
  loopback : g.loopbackSession.serverInfo.serverId = g.myServerInfo.serverId

theorem Keyed.initialized (config : Configuration) : Keyed (initialized config) where
  servers := by
    intro k server h
    simp only [GameServer.initialized, UnorderedMap.find_insert] at h
    split at h
    next hk =>
      cases h
      exact hk.symm
    next => cases h
  supervisor := rfl
  loopback := rfl

/-- Storing a record under the id it carries. -/
theorem Keyed.insert (h : g.Keyed) {server : IntraServerInfo} {k : Nat}
    (hsessions : g'.serverSessions = g.serverSessions.insert k server)
    (hserver : server.serverInfo.serverId = k)
    (hsupervisor : g'.supervisorServerInfo.serverInfo = g.supervisorServerInfo.serverInfo)
    (hloopback : g'.loopbackSession = g.loopbackSession)
    (hmine : g'.myServerInfo = g.myServerInfo) : g'.Keyed where
  servers := by
    intro a info hfind
    rw [hsessions, UnorderedMap.find_insert] at hfind
    split at hfind
    next ha =>
      cases hfind
      exact hserver.trans ha.symm
    next => exact h.servers hfind
  supervisor := by
    rw [hsupervisor]
    exact h.supervisor
  loopback := by
    rw [hloopback, hmine]
    exact h.loopback

/-- A handler that does not add records. -/
theorem Keyed.frame (h : g.Keyed)
    (hsessions : ∀ k server, g'.serverSessions.find k = some server →
      g.serverSessions.find k = some server)
    (hsupervisor : g'.supervisorServerInfo.serverInfo = g.supervisorServerInfo.serverInfo)
    (hloopback : g'.loopbackSession = g.loopbackSession)
    (hmine : g'.myServerInfo = g.myServerInfo) : g'.Keyed where
  servers := fun hfind => h.servers (hsessions _ _ hfind)
  supervisor := by
    rw [hsupervisor]
    exact h.supervisor
  loopback := by
    rw [hloopback, hmine]
    exact h.loopback

theorem Keyed.activateSession (h : g.Keyed) (session : Nat) : (g.activateSession session).1.Keyed :=
  h.frame (fun _ _ hfind => hfind) rfl rfl rfl

theorem Keyed.onSocketSessionConnected (h : g.Keyed) (session attachment : Nat) :
    (g.onSocketSessionConnected session attachment).1.Keyed := by
  unfold GameServer.onSocketSessionConnected
  split
  · exact h.frame (fun _ _ hfind => hfind) rfl rfl rfl
  · split
    · exact h.insert rfl h.supervisor rfl rfl rfl
    · exact h.activateSession session

theorem Keyed.onSocketSessionAccepted (h : g.Keyed) (session : Nat) (user : Bool) :
    (g.onSocketSessionAccepted session user).1.Keyed := by
  have hactive := h.activateSession session
  unfold GameServer.onSocketSessionAccepted
  dsimp only
  split
  · split
    · exact hactive.frame (fun _ _ hfind => hfind) rfl rfl rfl
    · exact hactive
  · exact hactive

theorem Keyed.authorize (h : g.Keyed) {session id k : Nat} {server : IntraServerInfo}
    (hserver : g.serverSessions.find k = some server) :
    (g.authorize config session id k server).Keyed := by
  have hid := h.servers hserver
  exact h.insert rfl hid rfl rfl rfl

theorem Keyed.authorizeServerRq (h : g.Keyed) {session id k : Nat} {actions : List MinionAction}
    (hstep : g.authorizeServerRq config session id k = some (g', actions)) : g'.Keyed := by
  rcases authorizeServerRq_cases hstep with ⟨server, _, hserver, rfl⟩ | ⟨_, rfl⟩
  · exact h.authorize hserver
  · exact h

theorem Keyed.authorizeServerRs (h : g.Keyed) {session id k : Nat} {error : ErrorCode}
    {actions : List MinionAction}
    (hstep : g.authorizeServerRs config session id k error = some (g', actions)) : g'.Keyed := by
  rcases authorizeServerRs_cases hstep with ⟨server, _, hserver, rfl⟩ | ⟨_, rfl⟩
  · exact h.authorize hserver
  · exact h

theorem Keyed.leaveServer (h : g.Keyed) (info : ServerInfo) : (g.leaveServer info).1.Keyed := by
  refine h.frame (fun k server hfind => ?_) rfl rfl rfl
  rw [GameServer.leaveServer, UnorderedMap.find_erase] at hfind
  split at hfind
  · cases hfind
  · exact hfind

theorem Keyed.joinServer (h : g.Keyed) (info : ServerInfo) :
    (g.joinServer config info).1.Keyed := by
  unfold GameServer.joinServer
  split
  next hmine => exact h.insert rfl (h.loopback.trans hmine.symm) rfl rfl rfl
  next =>
    dsimp only
    split
    · exact h.insert rfl rfl rfl rfl rfl
    · exact h.insert rfl rfl rfl rfl rfl

theorem Keyed.updateIntraServerInfoPs (h : g.Keyed) (joined leaved : List ServerInfo) :
    (g.updateIntraServerInfoPs config joined leaved).1.Keyed :=
  forEach_induction (fun _ info h => h.joinServer info) joined
    (forEach_induction (fun _ info h => h.leaveServer info) leaved h)

theorem Keyed.registerMinionServerRs (h : g.Keyed) (info : ServerInfo) :
    (g.registerMinionServerRs info).Keyed := by
  unfold GameServer.registerMinionServerRs
  -- the counter plays no part, and its arithmetic must not be evaluated
  generalize (info.serverId * 1000000000000000 + 100000000000001) % 2 ^ 64 = counter
  exact ⟨h.servers, h.supervisor, rfl⟩

theorem Keyed.onSupervisorPacket (h : g.Keyed) (session : Nat) (packet : SupervisorPacket) :
    (g.onSupervisorPacket config session packet).1.Keyed := by
  cases packet with
  | registerMinionServerRs info =>
      exact h.registerMinionServerRs info
  | recoveryMinionServerRs error =>
      unfold GameServer.onSupervisorPacket GameServer.recoveryMinionServerRs
      dsimp only
      split
      · exact h
      · -- after `Reset` the supervisor is the only server left
        refine ⟨?_, h.supervisor, h.loopback⟩
        intro k server hfind
        simp only [reset, UnorderedMap.find_insert] at hfind
        split at hfind
        next hk =>
          cases hfind
          exact h.supervisor.trans hk.symm
        next => cases hfind
  | updateIntraServerInfoPs joined leaved =>
      exact h.updateIntraServerInfoPs joined leaved
  | sectorAllocationPs allocation deallocation =>
      exact h.frame (fun _ _ hfind => hfind) rfl rfl rfl

/-! ## The targets of a close -/

/-- The server authorised on the session a record points to, if it is still known. -/
def closingServer (g : GameServer) (info : UniversalSessionInfo) : List Nat :=
  match info.session with
  | some (.socket owner) =>
      let serverId := (g.userData owner).serverId
      if (g.getServerSession serverId).isSome then [serverId] else []
  | _ => []

/-- The ids under which the close of a session with this record unsets the posting manager. -/
def closingTargets (g : GameServer) (info : UniversalSessionInfo) : List Nat :=
  info.universalSessionId :: if info.isClient then [] else g.closingServer info

/-- A close can read a record: a client's needs nothing more, that of a server is asked for its
session. -/
def Readable (info : UniversalSessionInfo) : Prop :=
  info.isClient = true ∨ ∃ owner, info.session = some (.socket owner)

theorem onSocketSessionClosed_of_none {session : Nat} (hinfo : (g.userData session).info = none) :
    g.onSocketSessionClosed session = some g := by
  simp [onSocketSessionClosed, hinfo]

/-- A close that can read its record unsets the targets, does nothing else to the posting manager
and leaves the sessions as they are. -/
theorem exists_onSocketSessionClosed (hkeyed : g.Keyed) {session : Nat} {ref : InfoRef}
    {info : UniversalSessionInfo} (hinfo : (g.userData session).info = some ref)
    (hderef : g.dereference ref = some info) (hread : Readable info) :
    ∃ g', g.onSocketSessionClosed session = some g' ∧
      g'.sectorPostingManager = g.sectorPostingManager.unsetTargets (g.closingTargets info) ∧
      g'.userData = g.userData := by
  unfold onSocketSessionClosed closingTargets
  rw [hinfo]
  dsimp only
  rw [hderef]
  dsimp only
  by_cases hclient : info.isClient = true
  · rw [if_pos hclient, if_pos hclient]
    exact ⟨_, rfl, rfl, rfl⟩
  · rw [if_neg hclient, if_neg hclient]
    rcases hread with hyes | ⟨owner, hsession⟩
    · exact absurd hyes hclient
    unfold closingServer
    rw [hsession]
    dsimp only
    let g₁ := (g.unsetAll info.universalSessionId).eraseActive info.universalSessionId
    have hsame : g₁.getServerSession (g₁.userData owner).serverId =
        g.getServerSession (g.userData owner).serverId := rfl
    cases hserver : g.getServerSession (g.userData owner).serverId with
    | none =>
        refine ⟨g₁, ?_, rfl, rfl⟩
        rw [hserver] at hsame
        rw [hsame]
    | some server =>
        have hid : server.serverInfo.serverId = (g.userData owner).serverId :=
          hkeyed.servers hserver
        rw [hserver] at hsame
        rw [hsame]
        dsimp only
        rw [hid]
        split
        · exact ⟨_, rfl, rfl, rfl⟩
        · exact ⟨_, rfl, rfl, rfl⟩

theorem onSocketSessionClosed_eq_none {session : Nat} {ref : InfoRef}
    (hinfo : (g.userData session).info = some ref)
    (hread : ∀ info, g.dereference ref = some info → ¬ Readable info) :
    g.onSocketSessionClosed session = none := by
  unfold onSocketSessionClosed
  rw [hinfo]
  dsimp only
  cases hderef : g.dereference ref with
  | none =>
      rfl
  | some info =>
      have hnot := hread info hderef
      simp only [Readable, not_or] at hnot
      dsimp only
      rw [if_neg hnot.1]
      split
      next owner hsession => exact absurd ⟨owner, hsession⟩ hnot.2
      next => rfl

theorem Keyed.onSocketSessionClosed (h : g.Keyed) {session : Nat}
    (hstep : g.onSocketSessionClosed session = some g') : g'.Keyed := by
  unfold GameServer.onSocketSessionClosed at hstep
  split at hstep
  · cases hstep
    exact h
  · split at hstep
    · cases hstep
    · dsimp only at hstep
      -- every branch keeps the servers and at most releases the supervisor's session
      split at hstep
      · cases hstep
        exact h.frame (fun _ _ hfind => hfind) rfl rfl rfl
      · split at hstep
        · split at hstep
          · cases hstep
            exact h.frame (fun _ _ hfind => hfind) rfl rfl rfl
          · split at hstep <;> cases hstep <;>
              exact h.frame (fun _ _ hfind => hfind) rfl rfl rfl
        · cases hstep

theorem keyed_step {e : MinionEvent} (h : g.Keyed) (hstep : MinionStep config g e g') :
    g'.Keyed := by
  cases hstep with
  | connected session attachment =>
      exact h.onSocketSessionConnected session attachment
  | accepted session user =>
      exact h.onSocketSessionAccepted session user
  | closed hclosed =>
      exact h.onSocketSessionClosed hclosed
  | supervisorPacket session packet _ =>
      exact h.onSupervisorPacket session packet
  | authorizeServerRq _ _ hauthorize =>
      exact h.authorizeServerRq hauthorize
  | authorizeServerRs _ _ hauthorize =>
      exact h.authorizeServerRs hauthorize
  | derived operation =>
      exact h.frame (fun _ _ hfind => hfind) rfl rfl rfl
  | rehash serverSessions activeSessions =>
      refine h.frame (fun k server hfind => ?_) rfl rfl rfl
      simpa using hfind

theorem keyed_of_reachable (h : (minion config).Reachable g) : g.Keyed := by
  refine Machine.Reachable.invariant (P := Keyed) ?_ (fun _ _ _ => keyed_step) h
  rintro _ rfl
  exact Keyed.initialized config

/-! ## Other servers -/

/-- After the close of a session the posting manager holds the same about every server of `ids` but
the one authorised on the session. -/
def SparesOthers (g : GameServer) (ids : Set Nat) (session : Nat) : Prop :=
  ∃ g', g.onSocketSessionClosed session = some g' ∧
    ∀ k ∈ ids, k ≠ (g.userData session).serverId →
      SectorPostingManager.Undisturbed g.sectorPostingManager g'.sectorPostingManager k

/-- The record of the session is still there and can be read, and no id under which the posting
manager is unset is that of another server it holds something about. -/
def ClosesApart (g : GameServer) (ids : Set Nat) (session : Nat) : Prop :=
  ∀ ref, (g.userData session).info = some ref →
    ∃ info, g.dereference ref = some info ∧ Readable info ∧
      ∀ k ∈ g.closingTargets info, k ∈ ids → k ≠ (g.userData session).serverId →
        ¬ SectorPostingManager.Recorded g.sectorPostingManager k

/-- In every state of a minion server, the close of a session spares the other servers exactly if
the ids it unsets are apart from theirs.  The ids are those handed out by the supervisor, which are
nonzero. -/
theorem close_apart_iff (config : Configuration) {g : GameServer}
    (hreach : (minion config).Reachable g) {ids : Set Nat} (hids : 0 ∉ ids) (session : Nat) :
    SparesOthers g ids session ↔ ClosesApart g ids session := by
  have hkeyed := keyed_of_reachable hreach
  have hne : ∀ {k}, k ∈ ids → k ≠ 0 := by
    rintro k hk rfl
    exact hids hk
  cases hinfo : (g.userData session).info with
  | none =>
      refine iff_of_true ⟨g, onSocketSessionClosed_of_none hinfo, fun k _ _ => .refl _ k⟩ ?_
      intro ref href
      rw [hinfo] at href
      cases href
  | some ref =>
      constructor
      · rintro ⟨g', hclosed, hspares⟩ ref' href
        cases hinfo.symm.trans href
        -- the close has an outcome, so the record was readable
        by_contra hnone
        by_cases hread : ∃ info, g.dereference ref = some info ∧ Readable info
        · obtain ⟨info, hderef, hread⟩ := hread
          obtain ⟨g'', hclosed', hmanager, _⟩ :=
            exists_onSocketSessionClosed hkeyed hinfo hderef hread
          cases hclosed.symm.trans hclosed'
          refine hnone ⟨info, hderef, hread, fun k hk hkid hauth => ?_⟩
          have hkeep := hspares k hkid hauth
          rw [hmanager, SectorPostingManager.undisturbed_unsetTargets_iff (hne hkid)] at hkeep
          exact hkeep hk
        · have hstuck := onSocketSessionClosed_eq_none hinfo
            fun info hderef hread' => hread ⟨info, hderef, hread'⟩
          rw [hclosed] at hstuck
          cases hstuck
      · intro happart
        obtain ⟨info, hderef, hread, happart⟩ := happart ref hinfo
        obtain ⟨g', hclosed, hmanager, _⟩ :=
          exists_onSocketSessionClosed hkeyed hinfo hderef hread
        refine ⟨g', hclosed, fun k hkid hauth => ?_⟩
        rw [hmanager, SectorPostingManager.undisturbed_unsetTargets_iff (hne hkid)]
        exact fun hk => happart k hk hkid hauth

/-! ## Two play servers -/

namespace Sample

def playConfig : Configuration where
  serverType := .Play
  address := ⟨"127.0.0.1", 11002⟩
  supervisorAddress := ⟨"127.0.0.1", 10001⟩
  connectionConfig := fun _ => some ⟨.All, .All⟩

/-- The first server that registered with the supervisor. -/
def firstServer : ServerInfo := ⟨.Play, 2, ⟨"127.0.0.1", 11001⟩⟩

/-- The second one, over its session 0. -/
def registered : GameServer :=
  ((initialized playConfig).onSocketSessionConnected 0 supervisorServerId).1.registerMinionServerRs
    ⟨.Play, 3, ⟨"127.0.0.1", 11002⟩⟩

def joined : GameServer := (registered.updateIntraServerInfoPs playConfig [firstServer] []).1

/-- The session 1 to the first server, which has its universal id from this server's own id. -/
def connected : GameServer := (joined.onSocketSessionConnected 1 2).1

def linked : GameServer :=
  ((connected.authorizeServerRs playConfig 1 3100000000000001 2 .None).map Prod.fst).getD connected

/-- The first server owns the sector 11. -/
def allocated : GameServer := linked.sectorAllocationPs [⟨firstServer, 11⟩]

theorem reachable_registered : (minion playConfig).Reachable registered := by
  have hconnected : (minion playConfig).Reachable
      ((initialized playConfig).onSocketSessionConnected 0 supervisorServerId).1 :=
    .step (.init rfl) (MinionStep.connected _ 0 supervisorServerId)
  exact .step hconnected
    (MinionStep.supervisorPacket _ 0 (.registerMinionServerRs _) (by decide +kernel))

/-- A handshake that completes, with the state it leaves. -/
theorem eq_of_map_snd {result : Option (GameServer × List MinionAction)} {g : GameServer}
    (actions : List MinionAction) (h : result.map Prod.snd = some actions) :
    result = some ((result.map Prod.fst).getD g, actions) := by
  cases result with
  | none =>
      cases h
  | some pair =>
      cases h
      rfl

theorem step_joined :
    MinionStep playConfig registered
      (.supervisorPacket 0 (.updateIntraServerInfoPs [firstServer] [])) joined :=
  MinionStep.supervisorPacket _ 0 (.updateIntraServerInfoPs _ _) (by decide +kernel)

theorem step_linked :
    MinionStep playConfig connected (.authorizeServerRs 1 2 .None) linked :=
  MinionStep.authorizeServerRs (by decide +kernel) (by decide +kernel)
    (eq_of_map_snd [] (by decide +kernel))

theorem step_allocated :
    MinionStep playConfig linked
      (.supervisorPacket 0 (.sectorAllocationPs [⟨firstServer, 11⟩] [])) allocated :=
  MinionStep.supervisorPacket _ 0 (.sectorAllocationPs _ []) (by decide +kernel)

theorem reachable_linked : (minion playConfig).Reachable linked :=
  .step (.step (.step reachable_registered step_joined) (MinionStep.connected _ 1 2)) step_linked

theorem reachable_allocated : (minion playConfig).Reachable allocated :=
  .step reachable_linked step_allocated

end Sample

/-- The supervisor's connection is lost: the play server forgets the link to the first server and
that it owns a sector. -/
theorem supervisor_close_forgets_server :
    (minion Sample.playConfig).Reachable Sample.allocated ∧
      ¬ SparesOthers Sample.allocated {2, 3} 0 ∧
      Sample.allocated.sectorPostingManager.link 2 = some (.socket 1) ∧
      Sample.allocated.sectorPostingManager.owner 11 = 2 ∧
      (Sample.allocated.onSocketSessionClosed 0).map
        (fun g => (g.sectorPostingManager.link 2, g.sectorPostingManager.owner 11)) =
          some (none, 0) := by
  have hlink : Sample.allocated.sectorPostingManager.link 2 = some (.socket 1) := by
    decide +kernel
  have hclosed : (Sample.allocated.onSocketSessionClosed 0).map
      (fun g => (g.sectorPostingManager.link 2, g.sectorPostingManager.owner 11)) =
        some (none, 0) := by
    decide +kernel
  refine ⟨Sample.reachable_allocated, ?_, hlink, by decide +kernel, hclosed⟩
  rintro ⟨g', hsome, hspares⟩
  have hkeep := (hspares 2 (by simp) (by decide +kernel)).linked
  rw [hsome, Option.map_some] at hclosed
  have hgone : g'.sectorPostingManager.link 2 = none := congrArg Prod.fst (Option.some.inj hclosed)
  rw [hgone, hlink] at hkeep
  cases hkeep

/-- The close of the session to the first server itself concerns nobody else. -/
theorem close_apart_of_linked :
    0 ∉ ({2, 3} : Set Nat) ∧ (minion Sample.playConfig).Reachable Sample.linked ∧
      (SparesOthers Sample.linked {2, 3} 1 ↔ ClosesApart Sample.linked {2, 3} 1) :=
  ⟨by simp, Sample.reachable_linked,
    close_apart_iff Sample.playConfig Sample.reachable_linked (by simp) 1⟩

end GameServer

end Game
end SeamlessServer
