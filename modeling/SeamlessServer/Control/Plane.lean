import SeamlessServer.Control.Roster
import SeamlessServer.Supervisor.Sessions

/-!
# Control.Plane — a supervisor and its minion servers

The control plane as one transition system: the supervisor, any number of minion servers, and for
each session a channel of requests to the supervisor and a first-in first-out channel of packets to
the minion server.  The supervisor is not restarted.  A session is lost at its two ends at different
times: the minion server may be gone before the supervisor has noticed, and what is still on its way
to it is then lost.

`Orderly` holds in every run (`orderly_of_reachable`): which conversation takes place over a session,
and that a managed server has its id and is in service once it has received what is on its way.
-/

namespace SeamlessServer
namespace Control

open Protocol Utility Game Supervisor SupervisorWorker Channel

structure Plane where
  supervisor : SupervisorWorker
  minion : Nat → GameServer
  /-- The session of each minion server to the supervisor. -/
  session : Nat → Option Nat
  /-- The sessions that are open at the supervisor. -/
  opened : Nat → Bool
  up : Nat → List MinionPacket
  down : Nat → List SupervisorPacket

namespace Plane

/-- The outcome of a handler of the supervisor. -/
def dispatch (σ : Plane) (result : SupervisorWorker × List Action) : Plane :=
  { σ with
    supervisor := result.1
    down := fun c => σ.down c ++ packetsTo c result.2 }

/-- A new session, between minion server `i` and the supervisor. -/
def connect (σ : Plane) (i c : Nat) : Plane :=
  let result := (σ.minion i).onSocketSessionConnected c supervisorServerId
  { σ with
    supervisor :=
      { σ.supervisor with serverIdOf := Function.update σ.supervisor.serverIdOf c 0 }
    minion := Function.update σ.minion i result.1
    session := Function.update σ.session i (some c)
    opened := Function.update σ.opened c true
    up := Function.update σ.up c (requestsOn c result.2) }

/-- Minion server `i` takes a packet off its channel. -/
def receive (config : Nat → Configuration) (σ : Plane) (i c : Nat) (packet : SupervisorPacket)
    (rest : List SupervisorPacket) : Plane :=
  let result := (σ.minion i).onSupervisorPacket (config i) c packet
  { σ with
    minion := Function.update σ.minion i result.1
    up := Function.update σ.up c (σ.up c ++ requestsOn c result.2)
    down := Function.update σ.down c rest }

/-- Minion server `i` has lost its session. -/
def lose (σ : Plane) (i c : Nat) (g : GameServer) : Plane :=
  { σ with
    minion := Function.update σ.minion i g
    session := Function.update σ.session i none
    down := Function.update σ.down c [] }

/-- The supervisor has taken a request. -/
def take (σ : Plane) (c : Nat) (rest : List MinionPacket) : Plane :=
  { σ with up := Function.update σ.up c rest }

/-- A session is closed at the supervisor. -/
def shut (σ : Plane) (c : Nat) : Plane :=
  { σ with
    opened := Function.update σ.opened c false
    up := Function.update σ.up c [] }

end Plane

inductive PlaneEvent
  | connect (i c : Nat)
  | serve (c : Nat) (now : Milliseconds)
  | receive (i : Nat)
  | lose (i : Nat)
  | close (c : Nat)
  | update (now : Milliseconds)
  | lateral (i : Nat) (e : MinionEvent)
  | reorder

open Plane in
inductive PlaneStep (config : Nat → Configuration) : Plane → PlaneEvent → Plane → Prop where
  /-- A session that is not in use is opened. -/
  | connect {σ : Plane} {i c : Nat} :
      σ.session i = none → σ.opened c = false → (∀ j, σ.session j ≠ some c) → σ.down c = [] →
        PlaneStep config σ (.connect i c) (σ.connect i c)
  | serve {σ : Plane} {c : Nat} {now : Milliseconds} {request : MinionPacket}
      {rest : List MinionPacket} {result : SupervisorWorker × List Action} :
      σ.opened c = true → σ.up c = request :: rest →
        σ.supervisor.onSocketSessionData c now request = some result →
          PlaneStep config σ (.serve c now) ((σ.take c rest).dispatch result)
  | receive {σ : Plane} {i c : Nat} {packet : SupervisorPacket} {rest : List SupervisorPacket} :
      σ.session i = some c → σ.down c = packet :: rest →
        PlaneStep config σ (.receive i) (σ.receive config i c packet rest)
  | lose {σ : Plane} {i c : Nat} {g : GameServer} :
      σ.session i = some c → (σ.minion i).onSocketSessionClosed c = some g →
        PlaneStep config σ (.lose i) (σ.lose i c g)
  | close {σ : Plane} {c : Nat} {result : SupervisorWorker × List Action} :
      σ.opened c = true → σ.supervisor.onSocketSessionClosed c = some result →
        PlaneStep config σ (.close c) ((σ.shut c).dispatch result)
  | update (σ : Plane) (now : Milliseconds) :
      PlaneStep config σ (.update now) (σ.dispatch (σ.supervisor.update now))
  | lateral {σ : Plane} {i : Nat} {e : MinionEvent} {g : GameServer} :
      Lateral (σ.minion i) (σ.session i) e → MinionStep (config i) (σ.minion i) e g →
        PlaneStep config σ (.lateral i e) { σ with minion := Function.update σ.minion i g }
  | reorder {σ : Plane} {s : SupervisorWorker} :
      σ.supervisor.Equiv s → PlaneStep config σ .reorder { σ with supervisor := s }

/-- All servers are started, and nobody is connected. -/
def plane (config : Nat → Configuration) : Machine Plane PlaneEvent where
  init := fun σ => ∃ now, σ =
    ⟨SupervisorWorker.new now, fun i => GameServer.initialized (config i), fun _ => none,
      fun _ => false, fun _ => [], fun _ => []⟩
  step := PlaneStep config

/-! ## Replay -/

/-- The session that an event opens. -/
def PlaneEvent.opens : PlaneEvent → List Nat
  | .connect _ c => [c]
  | _ => []

theorem session_of_step {config : Nat → Configuration} {σ σ' : Plane} {e : PlaneEvent} {j c : Nat}
    (hstep : PlaneStep config σ e σ') (hj : σ'.session j = some c) :
    σ.session j = some c ∨ c ∈ e.opens := by
  cases hstep with
  | @connect i c₀ =>
      have hj' : Function.update σ.session i (some c₀) j = some c := hj
      rw [Function.update_apply] at hj'
      split at hj'
      · cases hj'
        exact .inr List.mem_cons_self
      · exact .inl hj'
  | @lose i c₀ =>
      have hj' : Function.update σ.session i none j = some c := hj
      rw [Function.update_apply] at hj'
      split at hj'
      · cases hj'
      · exact .inl hj'
  | serve | receive | close | update | lateral | reorder =>
      exact .inl hj

namespace Plane

/-- The outcome of an event, `none` if it is not enabled.  A session among `used` is not opened
again. -/
def next (config : Nat → Configuration) (used : List Nat) (σ : Plane) : PlaneEvent → Option Plane
  | .connect i c =>
      if σ.session i = none ∧ σ.opened c = false ∧ c ∉ used ∧ (σ.down c).isEmpty then
        some (σ.connect i c)
      else
        none
  | .serve c now =>
      match σ.opened c, σ.up c with
      | true, request :: rest =>
          (σ.supervisor.onSocketSessionData c now request).map (σ.take c rest).dispatch
      | _, _ => none
  | .receive i =>
      match σ.session i with
      | none => none
      | some c =>
          match σ.down c with
          | [] => none
          | packet :: rest => some (σ.receive config i c packet rest)
  | .lose i =>
      match σ.session i with
      | none => none
      | some c => ((σ.minion i).onSocketSessionClosed c).map (σ.lose i c)
  | .close c =>
      if σ.opened c then (σ.supervisor.onSocketSessionClosed c).map (σ.shut c).dispatch else none
  | .update now => some (σ.dispatch (σ.supervisor.update now))
  | .lateral _ _ => none
  | .reorder => some σ

theorem next_sound {config : Nat → Configuration} {used : List Nat} {σ σ' : Plane} {e : PlaneEvent}
    (hused : ∀ j c, σ.session j = some c → c ∈ used) (h : σ.next config used e = some σ') :
    PlaneStep config σ e σ' := by
  unfold next at h
  split at h
  · split at h
    next hfree =>
      cases h
      obtain ⟨hnone, hclosed, hunused, hdown⟩ := hfree
      exact .connect hnone hclosed (fun j hj => hunused (hused j _ hj)) (List.isEmpty_iff.1 hdown)
    next => cases h
  · split at h
    next hopen hup =>
      obtain ⟨result, hserve, rfl⟩ := Option.map_eq_some_iff.1 h
      exact .serve hopen hup hserve
    next => cases h
  · split at h
    · cases h
    next hsession =>
      split at h
      · cases h
      next hdown =>
        cases h
        exact .receive hsession hdown
  · split at h
    · cases h
    next hsession =>
      obtain ⟨g, hclosed, rfl⟩ := Option.map_eq_some_iff.1 h
      exact .lose hsession hclosed
  · split at h
    next hopen =>
      obtain ⟨result, hclosed, rfl⟩ := Option.map_eq_some_iff.1 h
      exact .close hopen hclosed
    next => cases h
  · cases h
    exact .update σ _
  · cases h
  · cases h
    exact .reorder ⟨rfl, .refl _, .refl _, .refl _, .refl _, rfl, rfl, rfl⟩

/-- A run through the given events, each of which passes the guard. -/
def replay (config : Nat → Configuration) (guard : Plane → PlaneEvent → Bool) :
    List Nat → Plane → List PlaneEvent → Option Plane
  | _, σ, [] => some σ
  | used, σ, e :: es =>
      if guard σ e then
        (σ.next config used e).bind fun σ' => replay config guard (e.opens ++ used) σ' es
      else
        none

theorem replay_reachable {config : Nat → Configuration} {guard : Plane → PlaneEvent → Bool}
    {cond : Plane → PlaneEvent → Prop} (hguard : ∀ σ e, guard σ e = true → cond σ e) :
    ∀ (es : List PlaneEvent) {used : List Nat} {σ σ' : Plane},
      ((plane config).restrict cond).Reachable σ → (∀ j c, σ.session j = some c → c ∈ used) →
        replay config guard used σ es = some σ' →
          ((plane config).restrict cond).Reachable σ' := by
  intro es
  induction es with
  | nil =>
      intro used σ σ' hreach _ h
      cases h
      exact hreach
  | cons e es ih =>
      intro used σ σ' hreach hused h
      unfold replay at h
      split at h
      next hpass =>
        obtain ⟨σ₁, hnext, hrest⟩ := Option.bind_eq_some_iff.1 h
        have hstep := next_sound hused hnext
        refine ih (.step hreach ⟨hguard σ e hpass, hstep⟩) (fun j c hj => ?_) hrest
        rcases session_of_step hstep hj with hold | hnew
        · exact List.mem_append_right _ (hused j c hold)
        · exact List.mem_append_left _ hnew
      next => cases h

end Plane

namespace Sample

def start (config : Nat → Configuration) : Plane :=
  ⟨SupervisorWorker.new 0, fun i => GameServer.initialized (config i), fun _ => none,
    fun _ => false, fun _ => [], fun _ => []⟩

/-- The end of a run, or its beginning if an event is not enabled. -/
def after (config : Nat → Configuration) (guard : Plane → PlaneEvent → Bool)
    (events : List PlaneEvent) : Plane :=
  (Plane.replay config guard [] (start config) events).getD (start config)

theorem reachable_after (config : Nat → Configuration) {guard : Plane → PlaneEvent → Bool}
    {cond : Plane → PlaneEvent → Prop} (hguard : ∀ σ e, guard σ e = true → cond σ e)
    (events : List PlaneEvent) :
    ((plane config).restrict cond).Reachable (after config guard events) := by
  have hstart : ((plane config).restrict cond).Reachable (start config) := .init ⟨0, rfl⟩
  unfold after
  cases hreplay : Plane.replay config guard [] (start config) events with
  | none =>
      exact hstart
  | some σ =>
      refine Plane.replay_reachable hguard events hstart (fun j c hj => ?_) hreplay
      cases hj

/-- Minion server `i` connects over session `c`, makes its request and receives the answer. -/
def enlist (i c now : Nat) : List PlaneEvent :=
  [.connect i c, .serve c now, .receive i, .receive i, .receive i]

/-- Its session is lost. -/
def outage (i c : Nat) : List PlaneEvent := [.lose i, .close c]

end Sample

/-! ## The conversation over a session -/

/-- A server that is not in service knows nobody but the supervisor. -/
def Fresh (r : Roster) : Prop := r.ready = false → r.servers ⊆ {supervisorServerId}

/-- Over a session without server there is one request on its way, or the refusal of one, or
nothing. -/
def Waiting (r : Roster) (up : List MinionPacket) (down : List SupervisorPacket) : Prop :=
  (down = [] ∧ (up = [] ∨ ∃ request, up = [request] ∧ Pending r request)) ∨
    (∃ error, error ≠ .None ∧ down = [.recoveryMinionServerRs error] ∧ up = [])

/-- The state of a session between the supervisor and a minion server with this roster. -/
structure Conversation (s : SupervisorWorker) (c : Nat) (opened : Bool) (r : Roster)
    (up : List MinionPacket) (down : List SupervisorPacket) : Prop where
  fresh : Along Roster.apply Fresh r down
  waiting : opened = true → s.serverIdOf c = 0 → Waiting r up down
  enrolled : ∀ ⦃m server⦄, s.managedServerList.find m = some server → server.session = c →
    (settled Roster.apply r down).ready = true ∧
      (settled Roster.apply r down).info.serverId = m

/-- A packet that keeps id and service. -/
def Gentle : SupervisorPacket → Prop
  | .updateIntraServerInfoPs _ _ => True
  | .sectorAllocationPs _ _ => True
  | _ => False

theorem Gentle.apply {packet : SupervisorPacket} (h : Gentle packet) (r : Roster) :
    (r.apply packet).ready = r.ready ∧ (r.apply packet).info = r.info := by
  cases packet with
  | registerMinionServerRs info =>
      exact h.elim
  | recoveryMinionServerRs error =>
      exact h.elim
  | updateIntraServerInfoPs joined leaved =>
      exact ⟨rfl, rfl⟩
  | sectorAllocationPs allocation deallocation =>
      exact ⟨rfl, rfl⟩

/-- A server in service stays so, under its id. -/
theorem serving_of_gentle {r : Roster} {packets : List SupervisorPacket}
    (hpackets : ∀ packet ∈ packets, Gentle packet) (hready : r.ready = true) :
    Along Roster.apply Fresh r packets ∧ (settled Roster.apply r packets).ready = true ∧
      (settled Roster.apply r packets).info = r.info := by
  have hkept := Along.of_preserved (P := fun r' => r'.ready = true ∧ r'.info = r.info)
    (fun r' packet h hr' => ⟨(h.apply r').1.trans hr'.1, (h.apply r').2.trans hr'.2⟩) hpackets
    ⟨hready, rfl⟩
  refine ⟨hkept.1.mono fun r' h hnot => ?_, hkept.2⟩
  rw [h.1] at hnot
  cases hnot

/-- Packets that the supervisor broadcasts over the sessions of managed servers, which may become
fewer. -/
theorem Conversation.broadcast {s s' : SupervisorWorker} {c : Nat} {opened opened' : Bool}
    {r : Roster} {up : List MinionPacket} {down packets : List SupervisorPacket}
    (h : Conversation s c opened r up down) (hvacant : s.serverIdOf c = 0 → s.Vacant c)
    (hpackets : ∀ packet ∈ packets, Gentle packet) (hnone : s.Vacant c → packets = [])
    (hopened : opened' = true → opened = true)
    (hids : s'.serverIdOf c = 0 → s.serverIdOf c = 0)
    (hentries : ∀ ⦃m server'⦄, s'.managedServerList.find m = some server' →
      server'.session = c → ∃ server, s.managedServerList.find m = some server ∧
        server.session = c) :
    Conversation s' c opened' r up (down ++ packets) := by
  by_cases hv : s.Vacant c
  · rw [hnone hv, List.append_nil]
    refine ⟨h.fresh, fun ho hc => h.waiting (hopened ho) (hids hc), fun m server' hm hc => ?_⟩
    obtain ⟨server, hserver, hsession⟩ := hentries hm hc
    exact absurd hsession (hv hserver)
  · -- the session of a managed server, which will be in service
    have hready : (settled Roster.apply r down).ready = true := by
      simp only [Vacant, not_forall] at hv
      obtain ⟨m, server, hserver, hc⟩ := hv
      exact (h.enrolled hserver (not_not.1 hc)).1
    obtain ⟨hfresh, hready', hinfo'⟩ := serving_of_gentle hpackets hready
    refine ⟨h.fresh.append hfresh, fun _ hc => absurd (hvacant (hids hc)) hv,
      fun m server' hm hc => ?_⟩
    obtain ⟨server, hserver, hsession⟩ := hentries hm hc
    rw [settled_append, hinfo']
    exact ⟨hready', (h.enrolled hserver hsession).2⟩

/-! ## Order in every run -/

structure Orderly (σ : Plane) : Prop where
  exclusive : σ.supervisor.Exclusive
  bound : σ.supervisor.Bound
  opened : ∀ ⦃k server⦄, σ.supervisor.managedServerList.find k = some server →
    σ.opened server.session = true
  sound : ∀ i, Sound (σ.minion i)
  apart : ∀ ⦃i j c⦄, σ.session i = some c → σ.session j = some c → i = j
  idle : ∀ ⦃i⦄, σ.session i = none → Fresh (roster (σ.minion i))
  conversation : ∀ ⦃i c⦄, σ.session i = some c →
    Conversation σ.supervisor c (σ.opened c) (roster (σ.minion i)) (σ.up c) (σ.down c)

variable {config : Nat → Configuration} {σ σ' : Plane}

theorem Orderly.vacant (h : Orderly σ) {c : Nat} (hc : σ.supervisor.serverIdOf c = 0) :
    σ.supervisor.Vacant c := h.bound.vacant h.exclusive hc

theorem Orderly.fresh_now (h : Orderly σ) (i : Nat) : Fresh (roster (σ.minion i)) := by
  cases hsession : σ.session i with
  | none =>
      exact h.idle hsession
  | some c =>
      exact (h.conversation hsession).fresh.now

theorem Orderly.init (hinit : (plane config).init σ) : Orderly σ := by
  obtain ⟨now, rfl⟩ := hinit
  refine ⟨exclusive_new now, ?_, ?_, fun i => Sound.initialized (config i), ?_, ?_, ?_⟩
  · intro k server h
    cases h
  · intro k server h
    cases h
  · intro i j c h
    cases h
  · intro i _ _ k hk
    by_cases hone : k = supervisorServerId
    · exact hone
    · simp [roster, GameServer.initialized, UnorderedMap.find_insert, hone] at hk
  · intro i c h
    cases h

theorem Orderly.connect (h : Orderly σ) {i c : Nat} (hnone : σ.session i = none)
    (hclosed : σ.opened c = false) (hfree : ∀ j, σ.session j ≠ some c) (hdown : σ.down c = []) :
    Orderly (σ.connect i c) := by
  have hvacant : σ.supervisor.Vacant c := by
    rintro k server hserver rfl
    rw [h.opened hserver] at hclosed
    cases hclosed
  have hsame : SameOwnership σ.supervisor (σ.connect i c).supervisor :=
    ⟨rfl, fun _ => rfl, fun _ => rfl⟩
  have hsession : ∀ j, (σ.connect i c).session j = if j = i then some c else σ.session j :=
    fun j => Function.update_apply _ _ _ _
  have hminion : ∀ j, j ≠ i → (σ.connect i c).minion j = σ.minion j :=
    fun j hj => Function.update_of_ne hj _ _
  have hroster : ∀ j, roster ((σ.connect i c).minion j) = roster (σ.minion j) := by
    intro j
    by_cases hj : j = i
    · subst hj
      simp only [Plane.connect, Function.update_self]
      exact roster_connect (σ.minion j) c
    · rw [hminion j hj]
  refine ⟨hsame.exclusive h.exclusive, ?_, ?_, fun j => ?_, ?_, ?_, ?_⟩
  · intro k server hserver
    exact (Function.update_of_ne (hvacant hserver) _ _).trans (h.bound hserver)
  · intro k server hserver
    exact (Function.update_of_ne (hvacant hserver) _ _).trans (h.opened hserver)
  · by_cases hj : j = i
    · subst hj
      simp only [Plane.connect, Function.update_self]
      exact (h.sound j).onSocketSessionConnected c supervisorServerId
    · rw [hminion j hj]
      exact h.sound j
  · intro j j' c' hj hj'
    rw [hsession] at hj hj'
    split at hj <;> split at hj'
    next hji hji' => exact hji.trans hji'.symm
    next => exact absurd (hj'.trans hj.symm) (hfree j')
    next => exact absurd (hj.trans hj'.symm) (hfree j)
    next => exact h.apart hj hj'
  · intro j _
    rw [hroster]
    exact h.fresh_now j
  · intro j c' hj
    rw [hroster]
    rw [hsession] at hj
    split at hj
    next hji =>
      -- the new session: at most one request is on its way
      subst hji
      cases hj
      simp only [Plane.connect, Function.update_self]
      rw [hdown]
      refine ⟨h.fresh_now j, fun _ _ => .inl ⟨rfl, ?_⟩, fun m server hserver hc => ?_⟩
      · exact requests_connect (h.sound j).keyed c
      · exact absurd hc (hvacant hserver)
    next hji =>
      have hne : c' ≠ c := by
        rintro rfl
        exact hfree j hj
      have hold := h.conversation hj
      simp only [Plane.connect, Function.update_of_ne hne]
      exact ⟨hold.fresh, fun ho hc => hold.waiting ho ((Function.update_of_ne hne _ _).symm.trans hc),
        hold.enrolled⟩

theorem Orderly.lose (h : Orderly σ) {i c : Nat} {g : GameServer} (hi : σ.session i = some c)
    (hclosed : (σ.minion i).onSocketSessionClosed c = some g) : Orderly (σ.lose i c g) := by
  have hsession : ∀ j, (σ.lose i c g).session j = if j = i then none else σ.session j :=
    fun j => Function.update_apply _ _ _ _
  have hminion : ∀ j, (σ.lose i c g).minion j = if j = i then g else σ.minion j :=
    fun j => Function.update_apply _ _ _ _
  -- only this minion server and its session are concerned
  refine ⟨h.exclusive, h.bound, h.opened, fun j => ?_, ?_, ?_, ?_⟩
  · rw [hminion]
    split
    · exact (h.sound i).onSocketSessionClosed hclosed
    · exact h.sound j
  · intro j j' c' hj hj'
    rw [hsession] at hj hj'
    split at hj
    · cases hj
    · split at hj'
      · cases hj'
      · exact h.apart hj hj'
  · intro j hj
    rw [hminion]
    split
    · obtain ⟨_, hready, hservers⟩ := roster_closed hclosed
      intro hnot
      rw [hservers]
      exact h.fresh_now i (hready.symm.trans hnot)
    · exact h.fresh_now j
  · intro j c' hj
    rw [hsession] at hj
    split at hj
    · cases hj
    next hji =>
      -- the connection of another server is another one
      have hne : c' ≠ c := by
        rintro rfl
        exact hji (h.apart hj hi)
      rw [hminion, if_neg hji]
      simp only [Plane.lose, Function.update_of_ne hne]
      exact h.conversation hj

/-- The refusal of a recovery is the only packet that makes a minion server send a request. -/
theorem requests_of_refusal (g : GameServer) (config : Configuration) (c : Nat) {error : ErrorCode}
    (herror : error ≠ .None) :
    ∃ packet, requestsOn c (g.onSupervisorPacket config c (.recoveryMinionServerRs error)).2 =
      [.registerMinionServerRq packet] := by
  refine ⟨g.reset.1.registerPacket, ?_⟩
  have hactions : (g.onSupervisorPacket config c (.recoveryMinionServerRs error)).2 =
      g.reset.2 ++ [.send c (.registerMinionServerRq g.reset.1.registerPacket)] := by
    simp [GameServer.onSupervisorPacket, GameServer.recoveryMinionServerRs, herror]
  have hreset : requestsOn c g.reset.2 = [] := by
    simp [requestsOn, GameServer.reset, List.filterMap_map]
  rw [hactions, requestsOn, List.filterMap_append]
  change requestsOn c g.reset.2 ++ requestsOn c _ = _
  rw [hreset, requestsOn_send]
  rfl

theorem Orderly.receive (h : Orderly σ) {i c : Nat} {packet : SupervisorPacket}
    {rest : List SupervisorPacket} (hi : σ.session i = some c)
    (hdown : σ.down c = packet :: rest) : Orderly (σ.receive config i c packet rest) := by
  have hminion : ∀ j, (σ.receive config i c packet rest).minion j =
      if j = i then ((σ.minion i).onSupervisorPacket (config i) c packet).1 else σ.minion j :=
    fun j => Function.update_apply _ _ _ _
  have hroster := roster_onSupervisorPacket (config i) (h.sound i) c packet
  refine ⟨h.exclusive, h.bound, h.opened, fun j => ?_, h.apart, ?_, ?_⟩
  · rw [hminion]
    split
    · exact (h.sound i).onSupervisorPacket c packet
    · exact h.sound j
  · intro j hj
    have hne : j ≠ i := by
      rintro rfl
      cases hj.symm.trans hi
    rw [hminion, if_neg hne]
    exact h.idle hj
  · intro j c' hj
    by_cases hji : j = i
    · subst hji
      cases hi.symm.trans hj
      have hold := h.conversation hi
      rw [hdown] at hold
      rw [hminion, if_pos rfl, hroster]
      simp only [Plane.receive, Function.update_self]
      refine ⟨hold.fresh.2, fun ho hc => ?_, hold.enrolled⟩
      -- without a server, this was the refusal of a recovery
      rcases hold.waiting ho hc with ⟨hempty, _⟩ | ⟨error, herror, hrefusal, hup⟩
      · cases hempty
      · cases hrefusal
        obtain ⟨request, hrequest⟩ := requests_of_refusal (σ.minion j) (config j) c herror
        rw [hup, hrequest]
        exact .inl ⟨rfl, .inr ⟨_, rfl, by simp [Pending, Roster.apply, herror]⟩⟩
    · have hne : c' ≠ c := by
        rintro rfl
        exact hji (h.apart hj hi)
      rw [hminion, if_neg hji]
      simp only [Plane.receive, Function.update_of_ne hne]
      exact h.conversation hj

theorem Orderly.lateral (h : Orderly σ) {i : Nat} {e : MinionEvent} {g : GameServer}
    (hlateral : Lateral (σ.minion i) (σ.session i) e)
    (hstep : MinionStep (config i) (σ.minion i) e g) :
    Orderly { σ with minion := Function.update σ.minion i g } := by
  have hroster : ∀ j, roster (Function.update σ.minion i g j) = roster (σ.minion j) := by
    intro j
    by_cases hj : j = i
    · subst hj
      rw [Function.update_self]
      exact roster_lateral hlateral hstep
    · rw [Function.update_of_ne hj]
  refine ⟨h.exclusive, h.bound, h.opened, fun j => ?_, h.apart, ?_, ?_⟩
  · by_cases hj : j = i
    · subst hj
      simp only [Function.update_self]
      exact (h.sound j).step hstep
    · simp only [Function.update_of_ne hj]
      exact h.sound j
  · intro j hj
    simp only [hroster]
    exact h.idle hj
  · intro j c hj
    simp only [hroster]
    exact h.conversation hj

/-! ### Events of the supervisor -/

theorem Orderly.update (h : Orderly σ) (now : Milliseconds) :
    Orderly (σ.dispatch (σ.supervisor.update now)) := by
  have hstep := Step.update σ.supervisor now
  obtain ⟨hids, hentries⟩ := update_entries σ.supervisor now
  -- an update neither registers nor refuses anybody
  have hgentle : ∀ packet ∈ σ.supervisor.updatePackets now, Gentle packet := by
    intro packet hpacket
    unfold updatePackets expiryPackets allocationPackets at hpacket
    dsimp only at hpacket
    split at hpacket
    · rcases List.mem_append.1 hpacket with hexpiry | hallocation
      · split at hexpiry
        · cases List.mem_singleton.1 hexpiry
          trivial
        · cases hexpiry
      · split at hallocation
        · cases hallocation
        · cases List.mem_singleton.1 hallocation
          trivial
    · cases hpacket
  refine ⟨(exclusive_step h.exclusive hstep).1,
    bound_step (e := .update now) h.exclusive h.bound trivial hstep, ?_, h.sound, h.apart, h.idle,
    ?_⟩
  · intro k server' hserver'
    obtain ⟨server, hserver, hsession, _⟩ := hentries k server' hserver'
    have hopen := h.opened hserver
    rw [← hsession] at hopen
    exact hopen
  · intro i c hi
    refine (h.conversation hi).broadcast h.vacant ?_ ?_ id ?_ ?_
    · intro packet hpacket
      -- nothing is sent on a connection that no server has
      by_cases hv : σ.supervisor.Vacant c
      · rw [packetsTo_update_of_vacant hv] at hpacket
        cases hpacket
      · simp only [Vacant, not_forall] at hv
        obtain ⟨m, server, hserver, hc⟩ := hv
        rw [← not_not.1 hc, packetsTo_update h.exclusive h.bound hserver] at hpacket
        exact hgentle packet hpacket
    · exact fun hv => packetsTo_update_of_vacant hv now
    · intro hc
      have hsame := congrFun hids c
      exact hsame.symm.trans hc
    · intro m server' hserver' hc
      obtain ⟨server, hserver, hsession, _⟩ := hentries m server' hserver'
      exact ⟨server, hserver, hsession.symm.trans hc⟩

theorem Orderly.close (h : Orderly σ) {c : Nat} {result : SupervisorWorker × List Action}
    (hclosed : σ.supervisor.onSocketSessionClosed c = some result) :
    Orderly ((σ.shut c).dispatch result) := by
  obtain ⟨s', actions⟩ := result
  have hstep : Step σ.supervisor (.closed c) s' := Step.closed hclosed
  have hids := closed_serverIdOf hclosed
  have hbound' : s'.Bound := bound_step (e := .closed c) h.exclusive h.bound trivial hstep
  have hexclusive' := (exclusive_step h.exclusive hstep).1
  -- the entries that are left, none of them over the session that has closed
  have hentries : ∀ ⦃k server⦄, s'.managedServerList.find k = some server →
      σ.supervisor.managedServerList.find k = some server ∧ server.session ≠ c := by
    intro k server hserver
    rcases closed_cases hclosed with ⟨hzero, rfl, _⟩ | ⟨_, _, _, rfl, _⟩
    · exact ⟨hserver, h.vacant hzero hserver⟩
    · rw [find_released] at hserver
      split at hserver
      · cases hserver
      next hne =>
        refine ⟨hserver, ?_⟩
        rintro rfl
        exact hne (h.bound hserver).symm
  have hopened : ∀ c', (σ.shut c).opened c' = if c' = c then false else σ.opened c' :=
    fun c' => Function.update_apply _ _ _ _
  refine ⟨hexclusive', hbound', ?_, h.sound, h.apart, h.idle, ?_⟩
  · intro k server hserver
    obtain ⟨hserver', hne⟩ := hentries hserver
    exact (Function.update_of_ne hne _ _).trans (h.opened hserver')
  · intro i c' hi
    have hold := h.conversation hi
    have hvacant' : σ.supervisor.Vacant c' → s'.Vacant c' :=
      fun hv k server hserver => hv (hentries hserver).1
    have hnone : s'.Vacant c' → packetsTo c' actions = [] := by
      intro hv
      rcases closed_cases hclosed with ⟨_, _, rfl⟩ | ⟨_, _, _, rfl, rfl⟩
      · rfl
      · exact packetsTo_broadcast_of_vacant hv _
    have hgentle : ∀ packet ∈ packetsTo c' actions, Gentle packet := by
      intro packet hpacket
      rcases closed_cases hclosed with ⟨_, _, rfl⟩ | ⟨server, _, _, rfl, rfl⟩
      · cases hpacket
      · have hmem := mem_of_mem_packetsTo_broadcast hpacket
        simp only [List.mem_cons, List.not_mem_nil, or_false] at hmem
        rcases hmem with rfl | rfl <;> trivial
    have hnext : Conversation s' c' ((σ.shut c).opened c') (roster (σ.minion i)) (σ.up c')
        (σ.down c' ++ packetsTo c' actions) := by
      refine hold.broadcast h.vacant hgentle (fun hv => hnone (hvacant' hv)) (fun ho => ?_)
        (fun hc => ?_) fun m server hserver hc => ?_
      · rw [hopened] at ho
        split at ho
        · cases ho
        · exact ho
      · rw [← hids]
        exact hc
      · exact ⟨server, (hentries hserver).1, hc⟩
    -- requests over the closed session are dropped, those over others stay
    by_cases hcc : c' = c
    · refine ⟨hnext.fresh, fun ho => ?_, hnext.enrolled⟩
      simp [Plane.dispatch, Plane.shut, hcc] at ho
    · have hup : ((σ.shut c).dispatch (s', actions)).up c' = σ.up c' :=
        Function.update_of_ne hcc _ _
      rw [hup]
      exact hnext

/-- A server is entered over a session without one: it gets its answer first, and the others get
the broadcast. -/
theorem Orderly.enter (h : Orderly σ) {c n : Nat} {rest : List MinionPacket}
    {result : SupervisorWorker × List Action} (server : ManagedServerInfo)
    (hzero : σ.supervisor.serverIdOf c = 0) (hopen : σ.opened c = true)
    (hexclusive' : result.1.Exclusive) (hbound' : result.1.Bound) (hn : n ≠ 0)
    (hsession : server.session = c)
    (hids : result.1.serverIdOf = Function.update σ.supervisor.serverIdOf c n)
    (hfind : ∀ k, result.1.managedServerList.find k =
      if k = n then some server else σ.supervisor.managedServerList.find k)
    (hothers : ∀ ⦃c'⦄, c' ≠ c → ∀ packet ∈ packetsTo c' result.2, Gentle packet)
    (hvacant : ∀ ⦃c'⦄, c' ≠ c → σ.supervisor.Vacant c' → packetsTo c' result.2 = [])
    (hanswer : ∀ ⦃i⦄, σ.session i = some c →
      Along Roster.apply Fresh (roster (σ.minion i)) (σ.down c ++ packetsTo c result.2) ∧
        (settled Roster.apply (roster (σ.minion i)) (σ.down c ++ packetsTo c result.2)).ready = true ∧
        (settled Roster.apply (roster (σ.minion i))
          (σ.down c ++ packetsTo c result.2)).info.serverId = n) :
    Orderly ((σ.take c rest).dispatch result) := by
  have hfree := h.vacant hzero
  -- an entry over the session is the new one, and every other entry was there before
  have hentry : ∀ ⦃k entry⦄, result.1.managedServerList.find k = some entry →
      (k = n ∧ entry = server) ∨
        (σ.supervisor.managedServerList.find k = some entry ∧ entry.session ≠ c) := by
    intro k entry hk
    rw [hfind] at hk
    split at hk
    next hkn =>
      cases hk
      exact .inl ⟨hkn, rfl⟩
    next => exact .inr ⟨hk, hfree hk⟩
  refine ⟨hexclusive', hbound', ?_, h.sound, h.apart, h.idle, ?_⟩
  · intro k entry hk
    rcases hentry hk with ⟨_, rfl⟩ | ⟨hk, _⟩
    · rw [hsession]
      exact hopen
    · exact h.opened hk
  · intro i c' hi
    by_cases hc : c' = c
    · subst hc
      obtain ⟨hfresh, hready, hid⟩ := hanswer hi
      refine ⟨hfresh, fun _ hzero' => ?_, fun k entry hk hentrySession => ?_⟩
      · have hbound : result.1.serverIdOf c' = 0 := hzero'
        rw [hids, Function.update_self] at hbound
        exact absurd hbound hn
      · rcases hentry hk with ⟨rfl, _⟩ | ⟨_, hne⟩
        · exact ⟨hready, hid⟩
        · exact absurd hentrySession hne
    · have hup : ((σ.take c rest).dispatch result).up c' = σ.up c' :=
        Function.update_of_ne hc _ _
      rw [hup]
      refine (h.conversation hi).broadcast h.vacant (hothers hc) (hvacant hc) id (fun hzero' => ?_)
        fun k entry hk hentrySession => ?_
      · have hbound : result.1.serverIdOf c' = 0 := hzero'
        rw [hids, Function.update_of_ne hc] at hbound
        exact hbound
      · rcases hentry hk with ⟨_, rfl⟩ | ⟨hk, _⟩
        · exact absurd (hentrySession.symm.trans hsession) hc
        · exact ⟨entry, hk, hentrySession⟩

theorem fresh_refused (r : Roster) {error : ErrorCode} (herror : error ≠ .None) :
    Fresh (r.apply (.recoveryMinionServerRs error)) := by
  intro _
  simp [Roster.apply, herror]

/-- The supervisor takes a request and keeps its state.  It may answer with a refusal. -/
theorem Orderly.refuse (h : Orderly σ) {c : Nat} {request : MinionPacket}
    {rest : List MinionPacket} {actions : List Action} (hup : σ.up c = request :: rest)
    (hothers : ∀ ⦃c'⦄, c' ≠ c → packetsTo c' actions = [])
    (hanswer : packetsTo c actions = [] ∨ (σ.supervisor.serverIdOf c = 0 ∧
      ∃ error, error ≠ .None ∧ packetsTo c actions = [.recoveryMinionServerRs error])) :
    Orderly ((σ.take c rest).dispatch (σ.supervisor, actions)) := by
  refine ⟨h.exclusive, h.bound, h.opened, h.sound, h.apart, h.idle, ?_⟩
  intro i c' hi
  have hold := h.conversation hi
  by_cases hc : c' = c
  · subst hc
    have htaken : ((σ.take c' rest).dispatch (σ.supervisor, actions)).up c' = rest :=
      Function.update_self _ _ _
    -- the request was the only one on its way
    have hlast : σ.opened c' = true → σ.supervisor.serverIdOf c' = 0 →
        σ.down c' = [] ∧ rest = [] := by
      intro ho hzero
      rcases hold.waiting ho hzero with ⟨hdown, hnone | ⟨request', hone, _⟩⟩ | ⟨_, _, _, hnone⟩
      · cases hup.symm.trans hnone
      · cases hup.symm.trans hone
        exact ⟨hdown, rfl⟩
      · cases hup.symm.trans hnone
    rw [htaken]
    change Conversation σ.supervisor c' (σ.opened c') _ rest (σ.down c' ++ packetsTo c' actions)
    rcases hanswer with hempty | ⟨hzero, error, herror, hrefusal⟩
    · rw [hempty, List.append_nil]
      refine ⟨hold.fresh, fun ho hzero => ?_, hold.enrolled⟩
      obtain ⟨hdown, hrest⟩ := hlast ho hzero
      exact .inl ⟨hdown, .inl hrest⟩
    · rw [hrefusal]
      refine ⟨hold.fresh.append ⟨?_, fresh_refused _ herror⟩, fun ho _ => ?_,
        fun m server hserver hsession => absurd hsession (h.vacant hzero hserver)⟩
      · -- before the refusal: the end of what was on its way
        exact hold.fresh.last
      · obtain ⟨hdown, hrest⟩ := hlast ho hzero
        rw [hdown]
        exact .inr ⟨error, herror, rfl, hrest⟩
  · have hkeep : ((σ.take c rest).dispatch (σ.supervisor, actions)).up c' = σ.up c' :=
      Function.update_of_ne hc _ _
    rw [hkeep]
    change Conversation σ.supervisor c' (σ.opened c') _ (σ.up c') (σ.down c' ++ packetsTo c' actions)
    rw [hothers hc, List.append_nil]
    exact hold

/-- A request that is served over a session without server was the only thing on its way. -/
theorem Orderly.served (h : Orderly σ) {i c : Nat} {request : MinionPacket}
    {rest : List MinionPacket} (hi : σ.session i = some c) (hopen : σ.opened c = true)
    (hup : σ.up c = request :: rest) (hzero : σ.supervisor.serverIdOf c = 0) :
    σ.down c = [] ∧ rest = [] ∧ Pending (roster (σ.minion i)) request := by
  rcases (h.conversation hi).waiting hopen hzero with
    ⟨hdown, hnone | ⟨request', hone, hpending⟩⟩ | ⟨_, _, _, hnone⟩
  · cases hup.symm.trans hnone
  · cases hup.symm.trans hone
    exact ⟨hdown, rfl, hpending⟩
  · cases hup.symm.trans hnone

theorem packetsTo_answer {s : SupervisorWorker} {c : Nat} (hvacant : s.Vacant c)
    (answer packets : List SupervisorPacket) :
    packetsTo c (answer.map (Action.send c) ++ s.broadcastPacket packets) = answer := by
  rw [packetsTo_append, packetsTo_send_self, packetsTo_broadcast_of_vacant hvacant,
    List.append_nil]

theorem packetsTo_others {s : SupervisorWorker} {c c' : Nat} (hne : c' ≠ c)
    (answer packets : List SupervisorPacket) :
    packetsTo c' (answer.map (Action.send c) ++ s.broadcastPacket packets) =
      packetsTo c' (s.broadcastPacket packets) := by
  rw [packetsTo_append, packetsTo_send_of_ne hne.symm, List.nil_append]

theorem Orderly.register (h : Orderly σ) {c : Nat} {now : Milliseconds}
    {packet : RegisterMinionServerRq} {rest : List MinionPacket}
    {result : SupervisorWorker × List Action} (hopen : σ.opened c = true)
    (hup : σ.up c = .registerMinionServerRq packet :: rest)
    (hzero : σ.supervisor.serverIdOf c = 0)
    (hregister : σ.supervisor.onServerRegisterMinionServerReq c packet now = some result) :
    Orderly ((σ.take c rest).dispatch result) := by
  obtain ⟨s', actions⟩ := result
  have hstep : Step σ.supervisor (.register c packet now) s' := Step.register hregister
  have hexclusive' := (exclusive_step h.exclusive hstep).1
  have hbound' := bound_step (e := .register c packet now) h.exclusive h.bound trivial hstep
  rcases register_cases hregister with ⟨_, rfl, rfl⟩ | ⟨info, _, hle, _, rfl, rfl⟩
  · exact h.refuse hup (fun c' _ => rfl) (.inl rfl)
  · have hn : info.serverId ≠ 0 := (h.exclusive.counter_pos.trans_le hle).ne'
    have hvacant := h.vacant hzero
    refine h.enter ⟨c, info, []⟩ hzero hopen hexclusive' hbound' hn rfl rfl
      (fun k => UnorderedMap.find_insert _ _ _ _) ?_ ?_ ?_
    · intro c' hne packet' hpacket'
      rw [packetsTo_others hne] at hpacket'
      cases List.mem_singleton.1 (mem_of_mem_packetsTo_broadcast hpacket')
      trivial
    · intro c' hne hv
      rw [packetsTo_others hne]
      exact packetsTo_broadcast_of_vacant hv _
    · intro i hi
      obtain ⟨hdown, _, hpending⟩ := h.served hi hopen hup hzero
      rw [hdown, List.nil_append, packetsTo_answer hvacant]
      -- the answer puts the server into service, and the snapshots keep it there
      have hsnapshots : ∀ p ∈ [σ.supervisor.makeUpdateIntraServerPacket,
          σ.supervisor.makeSectorAllocationPacket], Gentle p := by
        intro p hp
        simp only [List.mem_cons, List.not_mem_nil, or_false] at hp
        rcases hp with rfl | rfl <;> trivial
      obtain ⟨hfresh, hready, hinfo⟩ := serving_of_gentle
        (r := (roster (σ.minion i)).apply (.registerMinionServerRs info)) hsnapshots rfl
      exact ⟨⟨h.fresh_now i, hfresh⟩, hready, congrArg ServerInfo.serverId hinfo⟩

theorem Orderly.recovery (h : Orderly σ) {c : Nat} {now : Milliseconds}
    {packet : RecoveryMinionServerRq} {rest : List MinionPacket} (hopen : σ.opened c = true)
    (hup : σ.up c = .recoveryMinionServerRq packet :: rest)
    (hzero : σ.supervisor.serverIdOf c = 0) :
    Orderly ((σ.take c rest).dispatch
      (σ.supervisor.onServerRecoveryMinionServerReq c packet now)) := by
  have hstep := Step.recovery σ.supervisor c packet now
  have hexclusive' := (exclusive_step h.exclusive hstep).1
  have hbound' := bound_step (e := .recovery c packet now) h.exclusive h.bound hzero hstep
  cases haccepted : σ.supervisor.recoveryAccepted packet with
  | false =>
      have hresult : σ.supervisor.onServerRecoveryMinionServerReq c packet now =
          (σ.supervisor, [.send c (.recoveryMinionServerRs .RecoveryFailed)]) := by
        simp [onServerRecoveryMinionServerReq, haccepted]
      rw [hresult]
      refine h.refuse hup (fun c' hne => ?_) (.inr ⟨hzero, .RecoveryFailed, by decide, ?_⟩)
      · exact packetsTo_send_of_ne hne.symm [.recoveryMinionServerRs .RecoveryFailed]
      · exact packetsTo_send_self c [.recoveryMinionServerRs .RecoveryFailed]
  | true =>
      obtain ⟨_, _, hfind⟩ := recovery_spec_of_accepted σ.supervisor c packet now haccepted
      have hn : packet.serverInfo.serverId ≠ 0 :=
        (Nat.zero_lt_one.trans (of_recoveryAccepted haccepted).1).ne'
      have hactions := recovery_actions σ.supervisor c packet now haccepted
      refine h.enter ⟨c, packet.serverInfo, []⟩ hzero hopen hexclusive' hbound' hn rfl
        (recovery_serverIdOf σ.supervisor c packet now haccepted) hfind ?_ ?_ ?_
      · intro c' hne packet' hpacket'
        rw [hactions, packetsTo_others hne] at hpacket'
        have hmem := mem_of_mem_packetsTo_broadcast hpacket'
        simp only [List.mem_cons, List.not_mem_nil, or_false] at hmem
        rcases hmem with rfl | rfl <;> trivial
      · intro c' hne hv
        rw [hactions, packetsTo_others hne]
        refine packetsTo_broadcast_of_vacant (fun k entry hk => ?_) _
        rw [hfind] at hk
        split at hk
        · cases hk
          exact hne.symm
        · exact hv hk
      · intro i hi
        obtain ⟨hdown, _, hready, hinfo, _⟩ := h.served hi hopen hup hzero
        rw [hdown, List.nil_append,
          packetsTo_recovery h.exclusive h.bound hzero packet now haccepted]
        -- the server was in service and keeps its id
        have hnews : ∀ p ∈ [SupervisorPacket.updateIntraServerInfoPs [packet.serverInfo] [],
            .sectorAllocationPs (packet.sectors.map (SectorAllocationInfo.mk packet.serverInfo))
              []], Gentle p := by
          intro p hp
          simp only [List.mem_cons, List.not_mem_nil, or_false] at hp
          rcases hp with rfl | rfl <;> trivial
        obtain ⟨hfresh, hready', hinfo'⟩ := serving_of_gentle hnews hready
        refine ⟨⟨h.fresh_now i, hfresh⟩, hready', ?_⟩
        exact (congrArg ServerInfo.serverId hinfo').trans (congrArg ServerInfo.serverId hinfo.symm)

theorem Orderly.serve (h : Orderly σ) {c : Nat} {now : Milliseconds} {request : MinionPacket}
    {rest : List MinionPacket} {result : SupervisorWorker × List Action}
    (hopen : σ.opened c = true) (hup : σ.up c = request :: rest)
    (hserve : σ.supervisor.onSocketSessionData c now request = some result) :
    Orderly ((σ.take c rest).dispatch result) := by
  unfold onSocketSessionData at hserve
  split at hserve
  · cases hserve
    exact h.refuse hup (fun c' _ => rfl) (.inl rfl)
  next hzero =>
    have hzero' : σ.supervisor.serverIdOf c = 0 := not_not.1 hzero
    split at hserve
    next packet => exact h.register hopen hup hzero' hserve
    next packet =>
      cases hserve
      exact h.recovery hopen hup hzero'
    next =>
      cases hserve
      exact h.refuse hup (fun c' _ => rfl) (.inl rfl)

theorem Orderly.reorder (h : Orderly σ) {s : SupervisorWorker} (hequiv : σ.supervisor.Equiv s) :
    Orderly { σ with supervisor := s } := by
  have hstep : Step σ.supervisor .reorder s := Step.reorder hequiv
  have hmanaged := hequiv.managedServerList
  refine ⟨(exclusive_step h.exclusive hstep).1,
    bound_step (e := .reorder) h.exclusive h.bound trivial hstep,
    fun k server hserver => h.opened ((hmanaged k).trans hserver), h.sound, h.apart, h.idle, ?_⟩
  intro i c hi
  have hold := h.conversation hi
  refine ⟨hold.fresh, fun ho hc => hold.waiting ho ?_,
    fun m server hserver hc => hold.enrolled ((hmanaged m).trans hserver) hc⟩
  rw [hequiv.serverIdOf]
  exact hc

theorem orderly_step {e : PlaneEvent} (h : Orderly σ) (hstep : PlaneStep config σ e σ') :
    Orderly σ' := by
  cases hstep with
  | connect hnone hclosed hfree hdown =>
      exact h.connect hnone hclosed hfree hdown
  | serve hopen hup hserve =>
      exact h.serve hopen hup hserve
  | receive hi hdown =>
      exact h.receive hi hdown
  | lose hi hclosed =>
      exact h.lose hi hclosed
  | close _ hclosed =>
      exact h.close hclosed
  | update now =>
      exact h.update now
  | lateral hlateral hminion =>
      exact h.lateral hlateral hminion
  | reorder hequiv =>
      exact h.reorder hequiv

theorem orderly_of_reachable (h : (plane config).Reachable σ) : Orderly σ :=
  Machine.Reachable.invariant (P := Orderly) (fun _ => Orderly.init)
    (fun _ _ _ => orderly_step) h

end Control
end SeamlessServer
