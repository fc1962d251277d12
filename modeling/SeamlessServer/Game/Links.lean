import Mathlib.Data.List.Find
import SeamlessServer.Game.Closing

/-!
# Game.Links — the session to the owner of a sector

What a minion server knows about the owner of a sector is put together from three sources: the
allocation of the sector, the announcement of servers and the handshake over a session.  `UnsetAll`
clears all of it at once, on the close of any session of the owner, and a new handshake only brings
the session back.

The machine here runs a minion server and remembers what it was told: to whom each sector was
allocated last, and which sessions have completed a handshake and are open.  `owner_session_of_run`
is the condition under which the posting manager always finds the session of an owner.
-/

namespace SeamlessServer
namespace Game

open Protocol

/-! ## What a server was told -/

/-- The history of a minion server that the claim about its owners is stated with. -/
structure History where
  /-- The server a sector was allocated to last, if it has not been announced as left since. -/
  allocatedTo : Nat → Option Nat := fun _ => none
  /-- The open sessions that have completed a handshake, the latest handshake first. -/
  authorised : List Nat := []

structure History.State where
  server : GameServer
  history : History

namespace History

variable (t : History)

def allocate (allocation : List SectorAllocationInfo) : History :=
  { t with
    allocatedTo := allocation.foldl
      (fun f info => Function.update f info.sectorId (some info.serverInfo.serverId))
      t.allocatedTo }

def leave (leaved : List ServerInfo) : History :=
  { t with
    allocatedTo := fun x =>
      (t.allocatedTo x).filter fun k => decide (k ∉ leaved.map ServerInfo.serverId) }

def close (session : Nat) : History :=
  { t with authorised := t.authorised.filter (· ≠ session) }

def authorise (session : Nat) : History :=
  { t with authorised := session :: t.authorised.filter (· ≠ session) }

/-- The history after an event. -/
def next (g : GameServer) : MinionEvent → History
  | .supervisorPacket _ (.sectorAllocationPs allocation _) => t.allocate allocation
  | .supervisorPacket _ (.updateIntraServerInfoPs _ leaved) => t.leave leaved
  | .authorizeServerRq session serverId =>
      if g.acceptsRq serverId then t.authorise session else t
  | .authorizeServerRs session serverId error =>
      if g.acceptsRs serverId error then t.authorise session else t
  | .closed session => t.close session
  | _ => t

namespace State

variable (s : History.State)

/-- The open session over which a server was authorised last. -/
def current (k : Nat) : Option Nat :=
  s.history.authorised.find? fun session => decide ((s.server.userData session).serverId = k)

/-- The events of the machine: the supervisor's packets about servers and sectors, handshakes, and
sessions that come and go.  A session that comes is not one that is open. -/
def Admitted : MinionEvent → Prop
  | .connected session _ => session ∉ s.history.authorised
  | .accepted session _ => session ∉ s.history.authorised
  | .supervisorPacket _ (.sectorAllocationPs _ _) => True
  | .supervisorPacket _ (.updateIntraServerInfoPs _ _) => True
  | .supervisorPacket _ _ => False
  | .derived _ => False
  | _ => True

end State

/-- A minion server, from its registration on, with its history. -/
def machine (config : Configuration) : Machine History.State MinionEvent where
  init := fun s => ∃ session info,
    s = ⟨((GameServer.initialized config).onSocketSessionConnected session
      supervisorServerId).1.registerMinionServerRs info, {}⟩
  step := fun s e s' => s.Admitted e ∧ MinionStep config s.server e s'.server ∧
    s'.history = s.history.next s.server e

/-! ## The condition -/

namespace State

variable (s : History.State)

/-- The server does without the session: nothing is allocated to it, or it has no other session. -/
def Spare (session k : Nat) : Prop :=
  (∀ x, s.history.allocatedTo x ≠ some k) ∨
    ∀ other ∈ s.history.authorised, other ≠ session → (s.server.userData other).serverId ≠ k

/-- A handshake restores everything: the posting manager still has every sector of the server, and
the server that the session belonged to before does without it. -/
def Restores (session k : Nat) : Prop :=
  (∀ x, s.history.allocatedTo x = some k → s.server.sectorPostingManager.owner x = k) ∧
    ((s.server.userData session).serverId ≠ k →
      s.Spare session (s.server.userData session).serverId)

/-- The targets a close unsets do without the session. -/
def ClosesSpare (session : Nat) : Prop :=
  s.Spare session (s.server.userData session).serverId ∧
    ∀ ref info, (s.server.userData session).info = some ref →
      s.server.dereference ref = some info →
        ∀ k ∈ s.server.closingTargets info, s.Spare session k

/-- The latest session of the server is the one it is linked to. -/
def Linked (k : Nat) : Prop :=
  ∀ session, s.current k = some session →
    s.server.sectorPostingManager.link k = some (.socket session)

/-- The condition on one event. -/
def Careful : MinionEvent → Prop
  | .supervisorPacket _ (.sectorAllocationPs allocation _) =>
      ∀ info ∈ allocation, s.Linked info.serverInfo.serverId
  | .authorizeServerRq session serverId =>
      s.server.acceptsRq serverId = true → s.Restores session serverId
  | .authorizeServerRs session serverId error =>
      s.server.acceptsRs serverId error = true → s.Restores session serverId
  | .closed session => s.ClosesSpare session
  | _ => True

end State

end History

/-! ## Effects on the posting manager -/

namespace SectorPostingManager

/-- Allocations change owners only, and leave each sector to the server named last for it. -/
theorem allocations_spec (allocation : List SectorAllocationInfo) :
    ∀ (m : SectorPostingManager) (f : Nat → Option Nat),
      let m' := allocation.foldl
        (fun m info => m.allocateSector info.sectorId info.serverInfo.serverId) m
      let f' := allocation.foldl
        (fun (f : Nat → Option Nat) info =>
          Function.update f info.sectorId (some info.serverInfo.serverId)) f
      (∀ j, m'.link j = m.link j) ∧
        ∀ x k : Nat, f' x = some k →
          (f x = some k ∧ m'.owner x = m.owner x) ∨
            (m'.owner x = k ∧ ∃ info ∈ allocation, info.serverInfo.serverId = k) := by
  induction allocation with
  | nil =>
      intro m f
      exact ⟨fun _ => rfl, fun x k h => .inl ⟨h, rfl⟩⟩
  | cons info allocation ih =>
      intro m f
      obtain ⟨hlink, howner⟩ := ih (m.allocateSector info.sectorId info.serverInfo.serverId)
        (Function.update f info.sectorId (some info.serverInfo.serverId))
      refine ⟨fun j => (hlink j).trans (link_allocateSector m _ _ j), fun x k h => ?_⟩
      rcases howner x k h with ⟨hf, hkeep⟩ | ⟨hk, later, hmem, hid⟩
      · rw [owner_allocateSector] at hkeep
        by_cases hx : x = info.sectorId
        · -- allocated here and not again
          subst hx
          rw [Function.update_self, Option.some.injEq] at hf
          rw [if_pos rfl] at hkeep
          exact .inr ⟨hkeep.trans hf, info, List.mem_cons_self, hf⟩
        · rw [Function.update_of_ne hx] at hf
          rw [if_neg hx] at hkeep
          exact .inl ⟨hf, hkeep⟩
      · exact .inr ⟨hk, later, List.mem_cons_of_mem info hmem, hid⟩

theorem listeners_spec (sectors : List Nat) (k : Nat) :
    ∀ m : SectorPostingManager,
      let m' := sectors.foldl (fun m x => m.addSectorListener x k) m
      m'.owner = m.owner ∧ ∀ j, m'.link j = m.link j := by
  induction sectors with
  | nil =>
      intro m
      exact ⟨rfl, fun _ => rfl⟩
  | cons x sectors ih =>
      intro m
      obtain ⟨howner, hlink⟩ := ih (m.addSectorListener x k)
      exact ⟨howner.trans (owner_addSectorListener m x k),
        fun j => (hlink j).trans (link_addSectorListener m x k j)⟩

end SectorPostingManager

namespace GameServer

/-- A completed handshake links the server and belongs to its session from then on. -/
theorem authorize_spec (config : Configuration) (g : GameServer) (session id k : Nat)
    (server : IntraServerInfo) :
    let g' := g.authorize config session id k server
    g'.sectorPostingManager.owner = g.sectorPostingManager.owner ∧
      (∀ j, g'.sectorPostingManager.link j =
        if j = k then some (.socket session) else g.sectorPostingManager.link j) ∧
      ∀ c, (g'.userData c).serverId = if c = session then k else (g.userData c).serverId := by
  obtain ⟨howner, hlink⟩ := SectorPostingManager.listeners_spec
    (listenedSectors config server.serverInfo.serverType k) k
    (g.sectorPostingManager.linkSession k (some (.socket session)))
  refine ⟨howner, fun j => (hlink j).trans ?_, fun c => ?_⟩
  · exact SectorPostingManager.link_linkSession _ _ _ _
  · by_cases hc : c = session <;>
      simp [authorize, setUserData, listenSector, hc]

/-- Leaving servers are unset one after the other, joining ones do not reach the posting manager. -/
theorem updateIntraServerInfoPs_spec (config : Configuration) (g : GameServer)
    (joined leaved : List ServerInfo) :
    let g' := (g.updateIntraServerInfoPs config joined leaved).1
    g'.sectorPostingManager =
        g.sectorPostingManager.unsetTargets (leaved.map ServerInfo.serverId) ∧
      g'.userData = g.userData := by
  have hleave : ∀ (leaved : List ServerInfo) (g : GameServer),
      (forEach leaveServer g leaved).1.sectorPostingManager =
          g.sectorPostingManager.unsetTargets (leaved.map ServerInfo.serverId) ∧
        (forEach leaveServer g leaved).1.userData = g.userData := by
    intro leaved
    induction leaved with
    | nil =>
        intro g
        exact ⟨rfl, rfl⟩
    | cons info leaved ih =>
        intro g
        exact ih (g.leaveServer info).1
  have hjoin : ∀ (g : GameServer) (info : ServerInfo),
      (g.joinServer config info).1.sectorPostingManager = g.sectorPostingManager ∧
        (g.joinServer config info).1.userData = g.userData := by
    intro g info
    unfold joinServer
    split
    · exact ⟨rfl, rfl⟩
    · dsimp only
      split <;> exact ⟨rfl, rfl⟩
  have hjoins := forEach_induction
    (P := fun g' => g'.sectorPostingManager = (forEach leaveServer g leaved).1.sectorPostingManager
      ∧ g'.userData = (forEach leaveServer g leaved).1.userData)
    (fun g' info h => ⟨(hjoin g' info).1.trans h.1, (hjoin g' info).2.trans h.2⟩) joined
    ⟨rfl, rfl⟩
  exact ⟨hjoins.1.trans (hleave leaved g).1, hjoins.2.trans (hleave leaved g).2⟩

/-- A new session changes no other session and nothing in the posting manager. -/
theorem onSocketSessionConnected_spec (g : GameServer) (session attachment : Nat) :
    let g' := (g.onSocketSessionConnected session attachment).1
    g'.sectorPostingManager = g.sectorPostingManager ∧
      ∀ c, c ≠ session → g'.userData c = g.userData c := by
  unfold onSocketSessionConnected
  split
  · exact ⟨rfl, fun c hc => Function.update_of_ne hc _ _⟩
  · split
    · exact ⟨rfl, fun c hc => Function.update_of_ne hc _ _⟩
    · exact ⟨rfl, fun c hc => Function.update_of_ne hc _ _⟩

theorem onSocketSessionAccepted_spec (g : GameServer) (session : Nat) (user : Bool) :
    let g' := (g.onSocketSessionAccepted session user).1
    g'.sectorPostingManager = g.sectorPostingManager ∧
      ∀ c, c ≠ session → g'.userData c = g.userData c := by
  unfold onSocketSessionAccepted
  dsimp only
  split
  · split
    · exact ⟨rfl, fun c hc => Function.update_of_ne hc _ _⟩
    · exact ⟨rfl, fun c hc => Function.update_of_ne hc _ _⟩
  · exact ⟨rfl, fun c hc => Function.update_of_ne hc _ _⟩

end GameServer

/-! ## The invariant -/

namespace History
namespace State

variable {config : Configuration} {s s' : History.State}

theorem current_congr (hauthorised : s'.history.authorised = s.history.authorised)
    (hdata : ∀ c ∈ s.history.authorised,
      (s'.server.userData c).serverId = (s.server.userData c).serverId) (k : Nat) :
    s'.current k = s.current k := by
  unfold current
  rw [hauthorised]
  refine List.find?_congr fun c hc => ?_
  rw [hdata c hc]

/-- Dropping a session of another server changes nothing for this one. -/
theorem find?_filter_ne (sessions : List Nat) {p : Nat → Bool} {session : Nat}
    (h : p session = false) : (sessions.filter (· ≠ session)).find? p = sessions.find? p := by
  rw [List.find?_filter]
  refine List.find?_congr fun c _ => ?_
  by_cases hc : c = session
  · simp [hc, h]
  · simp [hc]

/-- A server that does without a session has no latest session once that one is gone. -/
theorem Spare.find?_eq_none {session k x : Nat} (h : s.Spare session k)
    (halloc : s.history.allocatedTo x = some k) :
    (s.history.authorised.filter (· ≠ session)).find?
      (fun c => decide ((s.server.userData c).serverId = k)) = none := by
  rcases h with hnone | hother
  · exact absurd halloc (hnone x)
  · rw [List.find?_eq_none]
    intro c hc
    have hmem := List.mem_filter.1 hc
    simpa using hother c hmem.1 (by simpa using hmem.2)

/-- The posting manager finds the latest session of each server through the sectors allocated to
it. -/
structure Sound (s : History.State) : Prop where
  keyed : s.server.Keyed
  found : ∀ {x k session}, s.history.allocatedTo x = some k → s.current k = some session →
    s.server.sectorPostingManager.owner x = k ∧
      s.server.sectorPostingManager.link k = some (.socket session)

theorem Sound.init (hinit : (machine config).init s) : s.Sound := by
  obtain ⟨session, info, rfl⟩ := hinit
  refine ⟨?_, ?_⟩
  · have hstart := GameServer.Keyed.initialized config
    exact (hstart.onSocketSessionConnected session supervisorServerId).registerMinionServerRs info
  · intro x k session halloc
    cases halloc

/-- An event that keeps the history, the posting manager and the open sessions. -/
theorem Sound.frame (h : s.Sound) (hkeyed : s'.server.Keyed) (hhistory : s'.history = s.history)
    (hmanager : s'.server.sectorPostingManager = s.server.sectorPostingManager)
    (hdata : ∀ c ∈ s.history.authorised, s'.server.userData c = s.server.userData c) :
    s'.Sound := by
  refine ⟨hkeyed, fun halloc hcurrent => ?_⟩
  rw [hhistory] at halloc
  rw [current_congr (congrArg History.authorised hhistory)
    fun c hc => congrArg UserData.serverId (hdata c hc)] at hcurrent
  rw [hmanager]
  exact h.found halloc hcurrent

/-- Targets are unset, and those to which something is allocated have lost all their sessions or
keep the latest one. -/
theorem Sound.unset (h : s.Sound) (hkeyed : s'.server.Keyed) {targets : List Nat}
    (hmanager : s'.server.sectorPostingManager =
      s.server.sectorPostingManager.unsetTargets targets)
    (hcurrent : ∀ {x k session}, s'.history.allocatedTo x = some k →
      s'.current k = some session →
        k ∉ targets ∧ s.history.allocatedTo x = some k ∧ s.current k = some session) :
    s'.Sound := by
  refine ⟨hkeyed, fun {x k session} halloc hsession => ?_⟩
  obtain ⟨hk, halloc', hsession'⟩ := hcurrent halloc hsession
  obtain ⟨howner, hlink⟩ := h.found halloc' hsession'
  have hkept := SectorPostingManager.kept_unsetTargets (m := s.server.sectorPostingManager) hk
  rw [hmanager]
  exact ⟨hkept.1 x howner, hkept.2.trans hlink⟩

theorem Sound.closed {session : Nat} {g' : GameServer} (h : s.Sound)
    (hspare : s.ClosesSpare session) (hclosed : s.server.onSocketSessionClosed session = some g') :
    Sound ⟨g', s.history.close session⟩ := by
  have hkeyed := h.keyed.onSocketSessionClosed hclosed
  -- which targets are unset, and that they do without the session
  obtain ⟨targets, hmanager, hdata, htargets⟩ : ∃ targets,
      g'.sectorPostingManager = s.server.sectorPostingManager.unsetTargets targets ∧
        g'.userData = s.server.userData ∧ ∀ k ∈ targets, s.Spare session k := by
    cases hinfo : (s.server.userData session).info with
    | none =>
        rw [GameServer.onSocketSessionClosed_of_none hinfo] at hclosed
        cases hclosed
        exact ⟨[], rfl, rfl, fun k hk => absurd hk List.not_mem_nil⟩
    | some ref =>
        by_cases hread : ∃ info, s.server.dereference ref = some info ∧ GameServer.Readable info
        · obtain ⟨info, hderef, hread⟩ := hread
          obtain ⟨g'', hclosed', hmanager, hdata⟩ :=
            GameServer.exists_onSocketSessionClosed h.keyed hinfo hderef hread
          cases hclosed.symm.trans hclosed'
          exact ⟨_, hmanager, hdata, hspare.2 ref info hinfo hderef⟩
        · have hstuck := GameServer.onSocketSessionClosed_eq_none hinfo
            fun info hderef hread' => hread ⟨info, hderef, hread'⟩
          rw [hclosed] at hstuck
          cases hstuck
  refine h.unset hkeyed hmanager fun {x k latest} halloc hcurrent => ?_
  have hcurrent' : (s.history.authorised.filter (· ≠ session)).find?
      (fun c => decide ((s.server.userData c).serverId = k)) = some latest := by
    rw [← hdata]
    exact hcurrent
  have hnot : ¬ s.Spare session k := by
    intro hk
    rw [hk.find?_eq_none halloc] at hcurrent'
    cases hcurrent'
  refine ⟨fun hk => hnot (htargets k hk), halloc, ?_⟩
  -- the session that closed was not one of this server
  have hother : decide ((s.server.userData session).serverId = k) = false := by
    refine decide_eq_false fun hk => hnot ?_
    rw [← hk]
    exact hspare.1
  rw [find?_filter_ne _ hother] at hcurrent'
  exact hcurrent'

theorem Sound.update {g' : GameServer} {joined leaved : List ServerInfo} (h : s.Sound)
    (hupdate : g' = (s.server.updateIntraServerInfoPs config joined leaved).1) :
    Sound ⟨g', s.history.leave leaved⟩ := by
  subst hupdate
  obtain ⟨hmanager, hdata⟩ := GameServer.updateIntraServerInfoPs_spec config s.server joined
    leaved
  refine h.unset (h.keyed.updateIntraServerInfoPs joined leaved) hmanager
    fun {x k session} halloc hcurrent => ?_
  obtain ⟨halloc', hk⟩ := Option.filter_eq_some_iff.1 halloc
  refine ⟨by simpa using hk, halloc', ?_⟩
  have hsame : (State.mk (s.server.updateIntraServerInfoPs config joined leaved).1
      (s.history.leave leaved)).current k = s.current k := by
    refine current_congr ?_ (fun c _ => ?_) k
    · rfl
    · rw [hdata]
  exact hsame.symm.trans hcurrent

theorem Sound.allocate {allocation : List SectorAllocationInfo} (h : s.Sound)
    (hlinked : ∀ info ∈ allocation, s.Linked info.serverInfo.serverId) :
    Sound ⟨s.server.sectorAllocationPs allocation, s.history.allocate allocation⟩ := by
  obtain ⟨hlink, howner⟩ := SectorPostingManager.allocations_spec allocation
    s.server.sectorPostingManager s.history.allocatedTo
  refine ⟨h.keyed.frame (fun _ _ hfind => hfind) rfl rfl rfl,
    fun {x k session} halloc hcurrent => ?_⟩
  have hcurrent' : s.current k = some session := hcurrent
  rcases howner x k halloc with ⟨hbefore, hsame⟩ | ⟨hk, info, hinfo, rfl⟩
  · obtain ⟨hfound, hsession⟩ := h.found hbefore hcurrent'
    exact ⟨hsame.trans hfound, (hlink k).trans hsession⟩
  · exact ⟨hk, (hlink _).trans (hlinked info hinfo session hcurrent')⟩

theorem Sound.authorise {session id k : Nat} {server : IntraServerInfo} (h : s.Sound)
    (hserver : s.server.getServerSession k = some server) (hrestores : s.Restores session k) :
    Sound ⟨s.server.authorize config session id k server, s.history.authorise session⟩ := by
  obtain ⟨howner, hlink, hdata⟩ := GameServer.authorize_spec config s.server session id k server
  refine ⟨h.keyed.authorize hserver, fun {x j latest} halloc hcurrent => ?_⟩
  have halloc' : s.history.allocatedTo x = some j := halloc
  by_cases hjk : j = k
  · -- the server of the handshake: its latest session is this one
    subst hjk
    have hlatest : latest = session := by
      have hhead := hcurrent
      simp only [current, History.authorise, List.find?_cons, hdata session, if_true,
        decide_true] at hhead
      exact (Option.some.inj hhead).symm
    subst hlatest
    exact ⟨(congrFun howner x).trans (hrestores.1 x halloc'), by rw [hlink, if_pos rfl]⟩
  · -- any other server keeps its latest session, which is not this one
    have hrest : (s.history.authorised.filter (· ≠ session)).find?
        (fun c => decide ((s.server.userData c).serverId = j)) = some latest := by
      have hhead : (decide (k = j)) = false := decide_eq_false fun hkj => hjk hkj.symm
      have htail := hcurrent
      simp only [current, History.authorise, List.find?_cons, hdata session, if_true, hhead]
        at htail
      rw [← htail]
      refine List.find?_congr fun c hc => ?_
      have hne : c ≠ session := by simpa using (List.mem_filter.1 hc).2
      rw [hdata c, if_neg hne]
    have hother : decide ((s.server.userData session).serverId = j) = false := by
      refine decide_eq_false fun hj => ?_
      have hspare := hrestores.2 fun hk => hjk (hj.symm.trans hk)
      rw [hj] at hspare
      rw [hspare.find?_eq_none halloc'] at hrest
      cases hrest
    rw [find?_filter_ne _ hother] at hrest
    obtain ⟨hfound, hsession⟩ := h.found halloc' hrest
    exact ⟨(congrFun howner x).trans hfound, by rw [hlink, if_neg hjk, hsession]⟩

theorem sound_step {e : MinionEvent} (h : s.Sound) (hcareful : s.Careful e)
    (hstep : (machine config).step s e s') : s'.Sound := by
  obtain ⟨g', history'⟩ := s'
  obtain ⟨hadmitted, hminion, hhistory⟩ := hstep
  have hkeyed := GameServer.keyed_step h.keyed hminion
  dsimp only at hhistory hminion hkeyed
  subst hhistory
  cases hminion with
  | connected session attachment =>
      obtain ⟨hmanager, hdata⟩ :=
        GameServer.onSocketSessionConnected_spec s.server session attachment
      -- a new session was nobody's, so no link goes over it
      refine h.frame hkeyed rfl hmanager fun c hc => hdata c ?_
      rintro rfl
      exact hadmitted hc
  | accepted session user =>
      obtain ⟨hmanager, hdata⟩ := GameServer.onSocketSessionAccepted_spec s.server session user
      refine h.frame hkeyed rfl hmanager fun c hc => hdata c ?_
      rintro rfl
      exact hadmitted hc
  | closed hclosed =>
      exact h.closed hcareful hclosed
  | supervisorPacket session packet _ =>
      cases packet with
      -- a server registers once, before any of this
      | registerMinionServerRs info =>
          exact hadmitted.elim
      | recoveryMinionServerRs error =>
          exact hadmitted.elim
      | updateIntraServerInfoPs joined leaved =>
          exact h.update rfl
      | sectorAllocationPs allocation deallocation =>
          exact h.allocate hcareful
  | authorizeServerRq _ _ hauthorize =>
      rcases GameServer.authorizeServerRq_cases hauthorize with
        ⟨server, haccepts, hserver, rfl⟩ | ⟨hrejects, rfl⟩
      -- the peer has authorised itself over this session, and its sectors go over it from now on
      · simp only [History.next, haccepts, if_true]
        exact h.authorise hserver (hcareful haccepts)
      · simp only [History.next, hrejects]
        exact h
  | authorizeServerRs _ _ hauthorize =>
      rcases GameServer.authorizeServerRs_cases hauthorize with
        ⟨server, haccepts, hserver, rfl⟩ | ⟨hrejects, rfl⟩
      · simp only [History.next, haccepts, if_true]
        exact h.authorise hserver (hcareful haccepts)
      · simp only [History.next, hrejects]
        exact h
  | derived operation =>
      exact hadmitted.elim
  | rehash serverSessions activeSessions =>
      exact h.frame hkeyed rfl rfl fun c _ => rfl

/-- In every run whose events meet the condition, a sector leads to the latest session of the server
it was allocated to, whenever there is one. -/
theorem owner_session_of_run (config : Configuration) {s : History.State}
    (hrun : ((machine config).restrict Careful).Reachable s) {x k session : Nat}
    (halloc : s.history.allocatedTo x = some k) (hcurrent : s.current k = some session) :
    s.server.sectorPostingManager.getSectorOwnerSession x = some (.socket session) := by
  have hsound : s.Sound := by
    refine Machine.Reachable.invariant (P := Sound) ?_ ?_ hrun
    · intro s hinit
      exact Sound.init hinit
    · intro s e s' h hstep
      exact sound_step h hstep.1 hstep.2
  obtain ⟨howner, hlink⟩ := hsound.found halloc hcurrent
  rw [SectorPostingManager.getSectorOwnerSession_eq, howner, hlink]

/-! ## A connection lost and made again -/

namespace Sample

open GameServer.Sample

/-- The history after an event, with the server it leaves. -/
def after (s : History.State) (e : MinionEvent) (g : GameServer) : History.State :=
  ⟨g, s.history.next s.server e⟩

def announced : History.State :=
  after ⟨registered, {}⟩ (.supervisorPacket 0 (.updateIntraServerInfoPs [firstServer] [])) joined

def opened : History.State := after announced (.connected 1 2) connected

def authorised : History.State := after opened (.authorizeServerRs 1 2 .None) linked

/-- The first server owns the sector 11 and is connected. -/
def owning : History.State :=
  after authorised (.supervisorPacket 0 (.sectorAllocationPs [⟨firstServer, 11⟩] [])) allocated

/-- Its connection is lost. -/
def lost : History.State :=
  after owning (.closed 1) ((allocated.onSocketSessionClosed 1).getD allocated)

def reopened : History.State :=
  after lost (.connected 2 2) (lost.server.onSocketSessionConnected 2 2).1

/-- It is made again. -/
def reauthorised : History.State :=
  after reopened (.authorizeServerRs 2 2 .None)
    (((reopened.server.authorizeServerRs playConfig 2 3100000000000002 2 .None).map
      Prod.fst).getD reopened.server)

theorem unallocated (x : Nat) : opened.history.allocatedTo x = none := rfl

theorem run_after {s : History.State} {e : MinionEvent} {g : GameServer}
    (hrun : (machine playConfig).Reachable s) (hstep : MinionStep playConfig s.server e g)
    (hadmitted : s.Admitted e) : (machine playConfig).Reachable (after s e g) :=
  .step hrun ⟨hadmitted, hstep, rfl⟩

theorem carefulRun_after {s : History.State} {e : MinionEvent} {g : GameServer}
    (hrun : ((machine playConfig).restrict Careful).Reachable s)
    (hstep : MinionStep playConfig s.server e g) (hadmitted : s.Admitted e)
    (hcareful : s.Careful e) : ((machine playConfig).restrict Careful).Reachable (after s e g) :=
  .step hrun ⟨hcareful, hadmitted, hstep, rfl⟩

/-- Up to the allocation every event meets the condition. -/
theorem run_owning : ((machine playConfig).restrict Careful).Reachable owning := by
  have hannounced : ((machine playConfig).restrict Careful).Reachable announced :=
    carefulRun_after (.init ⟨0, _, rfl⟩) step_joined trivial trivial
  have hopened : ((machine playConfig).restrict Careful).Reachable opened :=
    carefulRun_after hannounced (MinionStep.connected _ 1 2) List.not_mem_nil trivial
  have hrestores : opened.Restores 1 2 := by
    refine ⟨fun x hx => ?_, fun _ => .inl fun x hx => ?_⟩
    · rw [unallocated] at hx
      cases hx
    · rw [unallocated] at hx
      cases hx
  have hauthorised : ((machine playConfig).restrict Careful).Reachable authorised :=
    carefulRun_after hopened step_linked trivial fun _ => hrestores
  refine carefulRun_after hauthorised step_allocated trivial ?_
  intro info hinfo session hcurrent
  cases List.mem_singleton.1 hinfo
  have hfirst : authorised.current 2 = some 1 := by decide +kernel
  cases hfirst.symm.trans hcurrent
  decide +kernel

theorem run_reauthorised : (machine playConfig).Reachable reauthorised := by
  have howning : (machine playConfig).Reachable owning := run_owning.of_restrict
  have hclosed : MinionStep playConfig allocated (.closed 1)
      ((allocated.onSocketSessionClosed 1).getD allocated) := by
    have hsome : (allocated.onSocketSessionClosed 1).isSome = true := by decide +kernel
    obtain ⟨g, hg⟩ := Option.isSome_iff_exists.1 hsome
    refine MinionStep.closed ?_
    rw [hg]
    rfl
  have hlost : (machine playConfig).Reachable lost := run_after howning hclosed trivial
  have hreopened : (machine playConfig).Reachable reopened :=
    run_after hlost (MinionStep.connected _ 2 2) List.not_mem_nil
  have hlinked : MinionStep playConfig reopened.server (.authorizeServerRs 2 2 .None)
      reauthorised.server :=
    MinionStep.authorizeServerRs (by decide +kernel) (by decide +kernel)
      (eq_of_map_snd (g := reopened.server) [] (by decide +kernel))
  exact run_after hreopened hlinked trivial

end Sample

/-- After the reconnect the first server is authorised again, still owns the sector and cannot be
found through it. -/
theorem owner_lost_after_reconnect :
    (machine GameServer.Sample.playConfig).Reachable Sample.reauthorised ∧
      Sample.reauthorised.history.allocatedTo 11 = some 2 ∧
      Sample.reauthorised.current 2 = some 2 ∧
      Sample.reauthorised.server.sectorPostingManager.getSectorOwnerSession 11 = none :=
  ⟨Sample.run_reauthorised, by decide +kernel, by decide +kernel, by decide +kernel⟩

theorem owner_session_of_owning :
    ((machine GameServer.Sample.playConfig).restrict Careful).Reachable Sample.owning ∧
      Sample.owning.history.allocatedTo 11 = some 2 ∧ Sample.owning.current 2 = some 1 ∧
      Sample.owning.server.sectorPostingManager.getSectorOwnerSession 11 = some (.socket 1) :=
  ⟨Sample.run_owning, by decide +kernel, by decide +kernel,
    owner_session_of_run GameServer.Sample.playConfig Sample.run_owning (k := 2)
      (by decide +kernel) (by decide +kernel)⟩

end State
end History

end Game
end SeamlessServer
