import SeamlessServer.Supervisor.Process

/-!
# Supervisor.Reissue — server ids over a whole run

`GetNextServerId` hands out ids above the counter that are in none of the three maps.  An id that
was registered stays below the counter.  An id that came with a recovery may be above it, and when
the session of its server closes it is in no map either, so that a later registration hands it out
again.
-/

namespace SeamlessServer
namespace Supervisor

open Protocol Utility Game

namespace SupervisorWorker

variable {s s' : SupervisorWorker}

/-- The ids that a registration does not hand out. -/
def knownIds (s : SupervisorWorker) : Set Nat :=
  {k | k < s.currentServerId} ∪ s.managedIds ∪ s.recoveringIds ∪ s.blockedIds

theorem mem_knownIds {k : Nat} : k ∈ s.knownIds ↔ k < s.currentServerId ∨ k ∈ s.managedIds ∨
    k ∈ s.recoveringIds ∨ k ∈ s.blockedIds := by
  unfold knownIds
  rw [Set.mem_union, Set.mem_union, Set.mem_union, or_assoc, or_assoc]
  rfl

theorem serverIdTaken_iff {k : Nat} : s.serverIdTaken k = true ↔
    k ∈ s.managedIds ∨ k ∈ s.recoveringIds ∨ k ∈ s.blockedIds := by
  unfold serverIdTaken managedIds recoveringIds blockedIds
  rw [Bool.or_eq_true, Bool.or_eq_true, or_assoc]
  exact or_congr .rfl or_comm

theorem mem_knownIds_iff {k : Nat} :
    k ∈ s.knownIds ↔ k < s.currentServerId ∨ s.serverIdTaken k = true := by
  rw [mem_knownIds, serverIdTaken_iff]

/-- The id handed out is the first above the counter that is not taken. -/
theorem nextServerIdFrom_le (s : SupervisorWorker) {k : Nat} (hk : s.serverIdTaken k = false) :
    ∀ (rounds id : Nat) {n : Nat}, s.nextServerIdFrom rounds id = some n → id ≤ k → n ≤ k := by
  intro rounds
  -- the search goes up by one id in each round, so it does not step over a free one
  induction rounds with
  | zero =>
      intro id n h
      cases h
  | succ rounds ih =>
      intro id n h hle
      unfold nextServerIdFrom at h
      split at h
      next htaken =>
        have hne : id ≠ k := by
          rintro rfl
          rw [hk] at htaken
          cases htaken
        exact ih (id + 1) h (by omega)
      next =>
        cases h
        exact hle

/-- Over a session without server a registration is answered with the first free id. -/
theorem exists_register {session : SessionId} (hzero : s.serverIdOf session = 0)
    (packet : RegisterMinionServerRq) (now : Milliseconds) :
    ∃ info actions,
      onServerRegisterMinionServerReq s session packet now =
        some (s.entered session info now, actions) ∧
      Action.send session (.registerMinionServerRs info) ∈ actions ∧
      info.address = packet.address ∧ s.currentServerId ≤ info.serverId ∧
      s.serverIdTaken info.serverId = false ∧
      ∀ k, s.currentServerId ≤ k → s.serverIdTaken k = false → info.serverId ≤ k := by
  obtain ⟨n, hn⟩ := getNextServerId_isSome s
  obtain ⟨hle, hfree⟩ := nextServerIdFrom_sound _ _ _ hn
  have hanswer : ∃ actions, onServerRegisterMinionServerReq s session packet now =
      some (s.entered session ⟨packet.serverType, n, packet.address⟩ now, actions) ∧
      Action.send session (.registerMinionServerRs ⟨packet.serverType, n, packet.address⟩) ∈
        actions := by
    unfold onServerRegisterMinionServerReq
    rw [if_neg (not_not.2 hzero), hn]
    exact ⟨_, rfl, List.mem_append_left _ List.mem_cons_self⟩
  obtain ⟨actions, hregister, hsend⟩ := hanswer
  exact ⟨_, actions, hregister, hsend, rfl, hle, hfree, fun k hle' hk =>
    nextServerIdFrom_le s hk _ _ hn hle'⟩

/-! ## Known ids stay known -/

theorem sameIds (hrecovering : s'.recoveryingServerList = s.recoveryingServerList)
    (hblocked : s'.blockedServerList = s.blockedServerList) :
    s'.recoveringIds = s.recoveringIds ∧ s'.blockedIds = s.blockedIds := by
  unfold recoveringIds blockedIds
  rw [hrecovering, hblocked]
  exact ⟨rfl, rfl⟩

theorem knownIds_register {session : SessionId} {packet : RegisterMinionServerRq}
    {now : Milliseconds} {actions : List Action}
    (h : onServerRegisterMinionServerReq s session packet now = some (s', actions)) :
    s.knownIds ⊆ s'.knownIds := by
  rcases register_ids h with rfl | ⟨n, hle, _, hmanaged, hrecovering, hblocked, hcounter⟩
  · exact subset_rfl
  · intro k hk
    rw [mem_knownIds] at hk ⊢
    obtain ⟨hrecovering', hblocked'⟩ := sameIds hrecovering hblocked
    rw [hcounter, hmanaged, hrecovering', hblocked']
    exact hk.imp (fun h => by omega) (Or.imp_left (Set.mem_insert_of_mem n))

theorem knownIds_recovery (session : SessionId) (packet : RecoveryMinionServerRq)
    (now : Milliseconds) :
    s.knownIds ⊆ (onServerRecoveryMinionServerReq s session packet now).1.knownIds := by
  cases haccepted : s.recoveryAccepted packet with
  | false =>
      rw [recovery_eq_of_rejected s session packet now haccepted]
  | true =>
      obtain ⟨hmanaged, hblocked, hrecovering, _⟩ :=
        recovery_ids s session packet now haccepted
      have hcounter := (recovery_spec_of_accepted s session packet now haccepted).1
      intro k hk
      rw [mem_knownIds] at hk ⊢
      rw [hcounter, hmanaged, hblocked, hrecovering]
      rcases hk with hk | hk | hk | hk
      · exact .inl hk
      · exact .inr (.inl (Set.mem_insert_of_mem _ hk))
      · -- the sender moves from the recovering servers to the managed ones
        by_cases heq : k = packet.serverInfo.serverId
        · exact .inr (.inl (heq ▸ Set.mem_insert _ _))
        · exact .inr (.inr (.inl (.inl ⟨hk, heq⟩)))
      · exact .inr (.inr (.inr hk))

/-- A close forgets at most the id of its session. -/
theorem knownIds_closed {session : SessionId} {actions : List Action}
    (h : onSocketSessionClosed s session = some (s', actions)) {k : Nat} (hk : k ∈ s.knownIds)
    (hkept : k = s.serverIdOf session →
      k < s.currentServerId ∨ k ∈ s.recoveringIds ∪ s.blockedIds) :
    k ∈ s'.knownIds := by
  obtain ⟨_, hrecovering, hblocked, hcounter⟩ := closed_ids h
  obtain ⟨hrecovering', hblocked'⟩ := sameIds hrecovering hblocked
  rw [mem_knownIds, hrecovering', hblocked', hcounter]
  by_cases heq : k = s.serverIdOf session
  · exact (hkept heq).imp_right .inr
  · -- only the entry of the session that closes is erased
    refine (mem_knownIds.1 hk).imp_right (Or.imp_left fun hmanaged => ?_)
    rcases closed_cases h with ⟨_, rfl, _⟩ | ⟨server, _, _, rfl, _⟩
    · exact hmanaged
    · change ((s.released _ server).managedServerList.find k).isSome = true
      rw [find_released, if_neg heq]
      exact hmanaged

theorem knownIds_update (now : Milliseconds) : s.knownIds ⊆ (s.update now).1.knownIds := by
  obtain ⟨hmanaged, hcounter, hmaps⟩ := update_ids s now
  intro k hk
  rw [mem_knownIds] at hk ⊢
  rw [hmanaged, hcounter]
  refine hk.imp_right (Or.imp_right fun hk => ?_)
  rcases hmaps with ⟨hrecovering, hblocked⟩ | ⟨_, hblocked⟩
  · obtain ⟨hrecovering', hblocked'⟩ := sameIds hrecovering hblocked
    rw [hrecovering', hblocked']
    exact hk
  · -- servers whose recovery has expired are blocked from then on
    rw [hblocked]
    exact .inr (hk.elim .inr .inl)

end SupervisorWorker

namespace SupervisorProcess

open SupervisorWorker (entered exists_register find_released knownIds_closed
  knownIds_recovery knownIds_register knownIds_update mem_knownIds mem_knownIds_iff
  register_cases serverIdTaken_iff)

variable {s s' : SupervisorProcess} {k : Nat}

/-! ## Runs that forget no id -/

/-- The server whose session closes has an id below the counter, or one that is recovering or
blocked. -/
def keepsTrack (s : SupervisorProcess) : Event → Prop
  | .closed session => s.worker.serverIdOf session < s.worker.currentServerId ∨
      s.worker.serverIdOf session ∈ s.worker.recoveringIds ∪ s.worker.blockedIds
  | _ => True

theorem knownIds_step {e : Event} (hkeeps : keepsTrack s e) (hstep : s.Step e s')
    (hk : k ∈ s.worker.knownIds) : k ∈ s'.worker.knownIds := by
  cases hstep with
  | accepted _ =>
      exact hk
  | data _ hdata =>
      rcases (data_cases hdata).2 with hsame | ⟨packet, actions, _, _, hr⟩ | ⟨packet, _, _, hr⟩
      · rw [hsame]
        exact hk
      · exact knownIds_register hr hk
      · rw [hr]
        exact knownIds_recovery _ packet _ hk
  | closed _ hclosed =>
      exact knownIds_closed hclosed hk fun heq => heq ▸ hkeeps
  | update =>
      exact knownIds_update _ hk
  | reorder hequiv =>
      rw [mem_knownIds] at hk ⊢
      unfold SupervisorWorker.managedIds SupervisorWorker.recoveringIds
        SupervisorWorker.blockedIds at hk ⊢
      simp only [Set.mem_ofPred_eq] at hk ⊢
      rw [← hequiv.currentServerId, ← hequiv.managedServerList k,
        ← hequiv.recoveryingServerList k, ← hequiv.blockedServerList k]
      exact hk

/-- A request over an open session would be answered with the id. -/
def Assigns (s : SupervisorProcess) (k : Nat) : Prop :=
  ∃ session packet now s' actions info, s.opened session = true ∧
    s.onSocketSessionData session (.registerMinionServerRq packet) now = some (s', actions) ∧
    ProcessAction.worker (.send session (.registerMinionServerRs info)) ∈ actions ∧
    info.serverId = k

/-- The answer of a registration carries the id of the entry. -/
theorem assigned_of_registered {session : SessionId} {packet : RegisterMinionServerRq}
    {now : Milliseconds} {worker : SupervisorWorker} {actions : List Action} {info : ServerInfo}
    (h : s.worker.onServerRegisterMinionServerReq session packet now = some (worker, actions))
    (hsend : Action.send session (.registerMinionServerRs info) ∈ actions) :
    s.worker.currentServerId ≤ info.serverId ∧ s.worker.serverIdTaken info.serverId = false := by
  rcases register_cases h with ⟨_, _, rfl⟩ | ⟨info', _, hle, hfree, _, rfl⟩
  · simp at hsend
  · -- the other packets are allocations and news of servers
    have heq : info = info' := by
      rcases List.mem_append.1 hsend with hanswer | hbroadcast
      · simpa [SupervisorWorker.makeUpdateIntraServerPacket,
          SupervisorWorker.makeSectorAllocationPacket] using hanswer
      · obtain ⟨server, _, hserver⟩ := List.mem_flatMap.1 hbroadcast
        simp at hserver
    exact heq ▸ ⟨hle, hfree⟩

/-- A known id is not assigned. -/
theorem not_assigns_of_known (hk : k ∈ s.worker.knownIds) : ¬ s.Assigns k := by
  rintro ⟨session, packet, now, s', actions, info, _, hdata, hsend, rfl⟩
  unfold onSocketSessionData at hdata
  split at hdata
  next =>
    cases hdata
    simp at hsend
  next =>
    obtain ⟨r, hr, heq⟩ := Option.map_eq_some_iff.1 hdata
    cases heq
    obtain ⟨action, haction, hsame⟩ := List.mem_map.1 hsend
    cases hsame
    obtain ⟨hle, hfree⟩ := assigned_of_registered hr haction
    rcases mem_knownIds_iff.1 hk with hlt | htaken
    · omega
    · rw [hfree] at htaken
      cases htaken

/-! ## Forgotten ids come back -/

/-- The state after a registration over a session that was opened for it. -/
def join (s : SupervisorProcess) (session : SessionId) (info : ServerInfo) (now : Milliseconds) :
    SupervisorProcess :=
  { s.accept session with worker := (s.accept session).worker.entered session info now }

/-- A session is opened and registers a server. -/
theorem exists_join (s : SupervisorProcess) (session : SessionId)
    (packet : RegisterMinionServerRq) (now : Milliseconds) :
    ∃ info actions,
      (s.accept session).onSocketSessionData session (.registerMinionServerRq packet) now =
        some (s.join session info now, actions) ∧
      ProcessAction.worker (.send session (.registerMinionServerRs info)) ∈ actions ∧
      info.address = packet.address ∧ s.worker.currentServerId ≤ info.serverId ∧
      s.worker.serverIdTaken info.serverId = false ∧
      ∀ k, s.worker.currentServerId ≤ k → s.worker.serverIdTaken k = false →
        info.serverId ≤ k := by
  have hzero : (s.accept session).worker.serverIdOf session = 0 := Function.update_self _ _ _
  obtain ⟨info, actions, hregister, hsend, haddress, hle, hfree, hfirst⟩ :=
    exists_register hzero packet now
  refine ⟨info, actions.map .worker, ?_, List.mem_map_of_mem hsend, haddress, hle, hfree, hfirst⟩
  unfold onSocketSessionData
  rw [if_neg (not_not.2 hzero)]
  dsimp only
  rw [hregister]
  rfl

/-- The server that has joined leaves again. -/
theorem exists_leave (s : SupervisorProcess) (session : SessionId) (info : ServerInfo)
    (now : Milliseconds) (hpos : info.serverId ≠ 0) :
    ∃ s', (s.join session info now).Step (.closed session) s' ∧ s'.opened session = false ∧
      s'.worker.currentServerId = info.serverId + 1 ∧
      ∀ k, s.worker.serverIdTaken k = false → s'.worker.serverIdTaken k = false := by
  have hid : (s.join session info now).worker.serverIdOf session = info.serverId :=
    Function.update_self _ _ _
  have hfind : (s.join session info now).worker.managedServerList.find info.serverId =
      some ⟨session, info, []⟩ := (UnorderedMap.find_insert _ _ _ _).trans (if_pos rfl)
  have hclosed : ∃ actions, (s.join session info now).worker.onSocketSessionClosed session =
      some ((s.join session info now).worker.released info.serverId ⟨session, info, []⟩,
        actions) := by
    unfold SupervisorWorker.onSocketSessionClosed
    simp only [hid, if_neg hpos, hfind]
    exact ⟨_, rfl⟩
  obtain ⟨actions, hclosed⟩ := hclosed
  refine ⟨_, Step.closed (Function.update_self _ _ _) hclosed, Function.update_self _ _ _, rfl,
    fun k hk => ?_⟩
  have hmanaged : ((s.join session info now).worker.released info.serverId
      ⟨session, info, []⟩).managedServerList.find k =
      if k = info.serverId then none else s.worker.managedServerList.find k := by
    rw [find_released]
    split
    next =>
      rfl
    next hne =>
      exact (UnorderedMap.find_insert _ _ _ _).trans (if_neg hne)
  unfold SupervisorWorker.serverIdTaken at hk ⊢
  simp only [Bool.or_eq_false_iff] at hk ⊢
  refine ⟨⟨?_, hk.1.2⟩, hk.2⟩
  rw [hmanaged]
  split
  · rfl
  · exact hk.1.1

/-- Servers that come and go over one session use up the ids below a free one. -/
theorem exists_assigns (session : SessionId) : ∀ (distance : Nat) {s : SupervisorProcess} {k : Nat},
    k = s.worker.currentServerId + distance → 0 < s.worker.currentServerId →
      s.opened session = false → s.worker.serverIdTaken k = false →
      ∃ es s', machine.Run s es s' ∧ s'.Assigns k := by
  intro distance
  -- each round raises the counter above an id that is not beyond `k`
  induction distance using Nat.strong_induction_on with
  | _ distance ih =>
      intro s k hk hpos hclosed hfree
      obtain ⟨info, actions, hdata, hsend, _, hle, _, hfirst⟩ :=
        exists_join s session ⟨.Play, ⟨"127.0.0.1", 5000⟩⟩ 0
      have haccept : machine.Run s [.accepted session] (s.accept session) :=
        .cons (.accepted hclosed) (.nil _)
      have hopen := opened_accept s session
      -- the answer carries the id itself, or a smaller one whose server leaves again
      rcases (hfirst k (by omega) hfree).eq_or_lt with heq | hlt
      · exact ⟨_, _, haccept, session, _, _, _, _, info, hopen, hdata, hsend, heq⟩
      · obtain ⟨s', hleave, hclosed', hcounter, htaken⟩ :=
          exists_leave s session info 0 (by omega)
        obtain ⟨es, s'', hrun, hassigns⟩ := ih (k - (info.serverId + 1)) (by omega)
          (s := s') (k := k) (by omega) (by omega) hclosed' (htaken k hfree)
        exact ⟨_, s'', (haccept.append (.data hopen hdata)).append hleave |>.trans hrun, hassigns⟩

/-! ## Server ids are not reissued -/

/-- In the runs that forget no id, an id that a server has held is not assigned any more.  A close
that forgets the id of its server opens a run in which a registration gets it. -/
theorem server_ids_not_reissued (hreach : machine.Reachable s) :
    (∀ k ∈ s.worker.managedIds, ∀ es s', (machine.restrict keepsTrack).Run s es s' →
      ¬ s'.Assigns k) ∧
    (∀ session s', s.Step (.closed session) s' → ¬ keepsTrack s (.closed session) →
      s.worker.serverIdOf session ∈ s.worker.managedIds ∧
        ∃ es s'', machine.Run s' es s'' ∧ s''.Assigns (s.worker.serverIdOf session)) := by
  constructor
  -- an id once known stays known as long as the closes keep track of it
  · intro k hk es s' hrun
    refine not_assigns_of_known (hrun.invariant (P := fun t => k ∈ t.worker.knownIds)
      (fun t e _ t' ht hstep => ?_) ?_)
    · exact knownIds_step hstep.1 hstep.2 ht
    · exact mem_knownIds.2 (.inr (.inl hk))
  · intro session s' hstep hforgets
    have hpos := (matched_of_reachable hreach).exclusive.counter_pos
    unfold keepsTrack at hforgets
    rw [not_or, not_lt] at hforgets
    obtain ⟨hle, hnot⟩ := hforgets
    cases hstep with
    | closed hopen hclosed =>
        rcases SupervisorWorker.closed_cases hclosed with ⟨hzero, _⟩ | ⟨server, _, hserver, rfl, _⟩
        · -- zero is below the counter
          omega
        · refine ⟨Option.isSome_iff_exists.2 ⟨server, hserver⟩, ?_⟩
          obtain ⟨sectors, hreleased⟩ := s.worker.exists_released
            (s.worker.serverIdOf session) server
          -- so many further registrations count up to the id, which nothing holds any more
          refine exists_assigns session (s.worker.serverIdOf session - s.worker.currentServerId)
            ?_ ?_ (Function.update_self _ _ _) ?_
          · rw [hreleased]
            change _ = s.worker.currentServerId + _
            omega
          · rw [hreleased]
            exact hpos
          · rw [Bool.eq_false_iff, ne_eq, serverIdTaken_iff]
            rintro (hmanaged | hother)
            · change ((s.worker.released _ server).managedServerList.find _).isSome = true at hmanaged
              rw [find_released, if_pos rfl] at hmanaged
              cases hmanaged
            · rw [hreleased] at hother
              exact hnot hother

/-- The id of a registered server is not assigned after its session has closed. -/
theorem server_ids_not_reissued_registered :
    (2 : Nat) ∈ registered.worker.managedIds ∧
      ∃ s', (machine.restrict keepsTrack).Run registered [.closed 1] s' ∧ ¬ s'.Assigns 2 := by
  have hheld : (2 : Nat) ∈ registered.worker.managedIds := by
    change (registered.worker.managedServerList.find 2).isSome = true
    decide +kernel
  have hclosed : ∃ worker actions,
      registered.worker.onSocketSessionClosed 1 = some (worker, actions) := ⟨_, _, rfl⟩
  obtain ⟨worker, actions, hclosed⟩ := hclosed
  have hkeeps : keepsTrack registered (.closed 1) := .inl (by decide +kernel)
  have hrun : (machine.restrict keepsTrack).Run registered [.closed 1] _ :=
    .cons ⟨hkeeps, Step.closed (by decide +kernel) hclosed⟩ (.nil _)
  exact ⟨hheld, _, hrun,
    (server_ids_not_reissued reachable_registered).1 2 hheld _ _ hrun⟩

/-- A play server recovers with the id `2` at a supervisor that has just started. -/
def recovered : SupervisorProcess :=
  ((((new 0).accept 1).onSocketSessionData 1 (.recoveryMinionServerRq
    ⟨⟨.Play, 2, ⟨"127.0.0.1", 5000⟩⟩, [], [⟨.Supervisor, 1, ⟨"127.0.0.1", 10001⟩⟩]⟩) 0).map
      Prod.fst).getD (new 0)

theorem reachable_recovered : machine.Reachable recovered := by
  have haccepted : machine.Reachable ((new 0).accept 1) := .step (.init ⟨0, rfl⟩) (.accepted rfl)
  have hrecovered : ∃ actions, ((new 0).accept 1).onSocketSessionData 1 (.recoveryMinionServerRq
      ⟨⟨.Play, 2, ⟨"127.0.0.1", 5000⟩⟩, [], [⟨.Supervisor, 1, ⟨"127.0.0.1", 10001⟩⟩]⟩) 0 =
        some (recovered, actions) := ⟨_, rfl⟩
  obtain ⟨actions, hrecovered⟩ := hrecovered
  exact .step haccepted (.data rfl hrecovered)

/-- It leaves, and a server with another address that registers gets its id. -/
theorem server_id_reissued :
    ¬ ∀ s k es s', machine.Reachable s → k ∈ s.worker.managedIds → machine.Run s es s' →
      ∀ session packet now s'' actions info, s'.opened session = true →
        s'.onSocketSessionData session (.registerMinionServerRq packet) now =
          some (s'', actions) →
        ProcessAction.worker (.send session (.registerMinionServerRs info)) ∈ actions →
        info.serverId = k →
        ∀ server, s.worker.managedServerList.find k = some server →
          info.address = server.serverInfo.address := by
  intro h
  have hclosed : ∃ worker actions,
      recovered.worker.onSocketSessionClosed 1 = some (worker, actions) ∧
        worker.currentServerId = 2 ∧ worker.serverIdTaken 2 = false :=
    ⟨_, _, rfl, by decide +kernel, by decide +kernel⟩
  obtain ⟨worker, actions, hclosed, hcounter, hfree⟩ := hclosed
  let left : SupervisorProcess :=
    { recovered with worker, opened := Function.update recovered.opened 1 false }
  have hleft : recovered.Step (.closed 1) left := .closed (by decide +kernel) hclosed
  -- a registration gets the first free id from the counter on
  obtain ⟨info, actions', hdata, hsend, haddress, hle, _, hfirst⟩ :=
    exists_join left 1 ⟨.Play, ⟨"127.0.0.2", 5000⟩⟩ 0
  have hid : info.serverId = 2 :=
    le_antisymm (hfirst 2 hcounter.le hfree) (hcounter.symm.le.trans hle)
  have hopened : left.opened 1 = false := Function.update_self 1 false recovered.opened
  have hrun : machine.Run recovered [.closed 1, .accepted 1] (left.accept 1) :=
    .cons hleft (.cons (.accepted hopened) (.nil _))
  have hheld : recovered.worker.managedServerList.find 2 =
      some ⟨1, ⟨.Play, 2, ⟨"127.0.0.1", 5000⟩⟩, []⟩ := by decide +kernel
  have hsame := h recovered 2 _ _ reachable_recovered (Option.isSome_iff_exists.2 ⟨_, hheld⟩)
    hrun 1 _ _ _ _ info (opened_accept left 1) hdata hsend hid _ hheld
  rw [haddress] at hsame
  exact absurd hsame (by decide)

end SupervisorProcess
end Supervisor
end SeamlessServer
