import SeamlessServer.Agency.Clients
import SeamlessServer.Game.Pursuit

/-!
# Agency.Departures — what clients that have gone leave behind

A client that goes is forgotten, and the play servers are asked to remove its object.  If the agency
has not been told of the object yet, nobody is asked: the response to the spawn comes when the client
has gone, and is answered with a packet that no play server handles (`character_left`).  As long as
clients go while their characters are not under way, and requests to remove an object find the owner
or are passed on, no character is left (`no_character_left`).
-/

namespace SeamlessServer
namespace Agency

open Game Protocol Utility

/-! ## Characters under way -/

namespace Network

/-- The character of the user is under way: its spawn is asked for, or the response is not heard. -/
def Expects (s : Network) (u : Nat) : Prop :=
  u ∈ spawnRequests s.requests ∨ ∃ k info error, (k, Notice.spawnCharacterRs u info error) ∈ s.notices

/-- The agency has asked for the removal of the object, and no server has been reached yet. -/
def Removes (s : Network) (o : Nat) : Prop :=
  ∃ k packet, (k, AgencyPacket.removeCharacterRq packet) ∈ s.requests ∧ packet.objectId = o

variable {s : Network} {u o : Nat}

theorem expects_absorb {r : AgencyOutcome} :
    (s.absorb r).Expects u ↔ s.Expects u ∨ u ∈ spawnRequests r.requests := by
  simp only [Expects, absorb, spawnRequests_append, List.mem_append]
  exact or_right_comm

theorem Removes.absorb (h : s.Removes o) (r : AgencyOutcome) : (s.absorb r).Removes o := by
  obtain ⟨k, packet, hmem, ho⟩ := h
  exact ⟨k, packet, List.mem_append_left _ hmem, ho⟩

theorem mem_eraseIdx_of_ne {β : Type*} {channels : List (Nat × β)} {index : Nat} {e e' : Nat × β}
    (hhead : firstOf channels index = some e) (hmem : e' ∈ channels) (hne : e' ≠ e) :
    e' ∈ channels.eraseIdx index := by
  obtain ⟨hsplit, herase⟩ := firstOf_split hhead
  rw [hsplit] at hmem
  rw [herase]
  rcases List.mem_append.1 hmem with hmem | hmem
  · exact List.mem_append_left _ hmem
  · rcases List.mem_cons.1 hmem with heq | hmem
    · exact absurd heq hne
    · exact List.mem_append_right _ hmem

/-- A notice that is heard is no longer under way; no other is lost. -/
theorem expects_of_heard {index source : Nat} {notice : Notice}
    (hhead : firstOf s.notices index = some (source, notice)) (h : s.Expects u) :
    ({ s with notices := s.notices.eraseIdx index } : Network).Expects u ∨
      ∃ info error, notice = .spawnCharacterRs u info error := by
  rcases h with h | ⟨k, info, error, hmem⟩
  · exact .inl (.inl h)
  · by_cases heq : (k, Notice.spawnCharacterRs u info error) = (source, notice)
    · cases heq
      exact .inr ⟨info, error, rfl⟩
    · exact .inl (.inr ⟨k, info, error, mem_eraseIdx_of_ne hhead hmem heq⟩)

theorem expects_of_served {index k : Nat} {packet : AgencyPacket}
    (hhead : firstOf s.requests index = some (k, packet)) (h : s.Expects u) :
    ({ s with requests := s.requests.eraseIdx index } : Network).Expects u ∨
      ∃ request, packet = .spawnCharacterRq request ∧ request.userId = u := by
  rcases h with h | h
  · obtain ⟨k', request, hmem, huser⟩ := mem_spawnRequests.1 h
    by_cases heq : (k', AgencyPacket.spawnCharacterRq request) = (k, packet)
    · cases heq
      exact .inr ⟨request, rfl, huser⟩
    · exact .inl (.inl (mem_spawnRequests.2
        ⟨k', request, mem_eraseIdx_of_ne hhead hmem heq, huser⟩))
  · exact .inl (.inr h)

theorem removes_of_served {index k : Nat} {packet : AgencyPacket}
    (hhead : firstOf s.requests index = some (k, packet)) (h : s.Removes o) :
    ({ s with requests := s.requests.eraseIdx index } : Network).Removes o ∨
      ∃ request, packet = .removeCharacterRq request ∧ request.objectId = o := by
  obtain ⟨k', request, hmem, ho⟩ := h
  by_cases heq : (k', AgencyPacket.removeCharacterRq request) = (k, packet)
  · cases heq
    exact .inr ⟨request, rfl, ho⟩
  · exact .inl ⟨k', request, mem_eraseIdx_of_ne hhead hmem heq, ho⟩

end Network

/-! ## The invariant -/

/-- Clients go while their characters are not under way, and requests to remove an object find the
owner or are passed on. -/
def Cleans (site : Site) (s : Network) : NetworkEvent → Prop
  | .close u _ => ¬ s.Expects u
  | .serve index now => ∀ k packet, firstOf s.requests index = some (k, packet) →
      ∀ e, requestEvent site.agencyId k now packet = some e → s.cluster.FindsOwner site.deployment e
  | .play e => s.cluster.FindsOwner site.deployment e
  | _ => True

/-- Every character is that of a client, or is to be removed. -/
structure Cleaned (site : Site) (s : Network) : Prop where
  registered : Registered site s
  expected : ∀ u, s.Expects u → s.agency.activeSessions.find u ≠ none
  clients : ∀ u o, (u, o) ∈ s.spawned → o ∈ s.dismissed ∨
    ∃ session, s.agency.activeSessions.find u = some session ∧ (session.objectId = o ∨ s.Expects u)
  removals : ∀ k packet, (k, .removeCharacterRq packet) ∈ s.requests →
    packet.sectorId ∈ site.deployment.sectorsOf k
  dismissed : ∀ o ∈ s.dismissed, s.Removes o ∨ s.cluster.Pursued site.deployment o

namespace Cleaned

variable {site : Site} {s : Network}

theorem new (site : Site) : Cleaned site (Network.new site) where
  registered := .new site
  expected := by
    rintro u (hmem | ⟨k, info, error, hmem⟩)
    · cases hmem
    · cases hmem
  clients := fun u o hmem => by cases hmem
  removals := fun k packet hmem => by cases hmem
  dismissed := fun o hmem => by cases hmem

/-- A handler of the agency that keeps the clients and their objects. -/
theorem absorb (h : Cleaned site s) {r : AgencyOutcome} (hregistered : Registered site (s.absorb r))
    (hclients : ∀ u session, s.agency.activeSessions.find u = some session →
      ∃ session', r.agency.activeSessions.find u = some session' ∧
        session'.objectId = session.objectId)
    (hspawns : ∀ u ∈ spawnRequests r.requests, r.agency.activeSessions.find u ≠ none)
    (hremovals : ∀ k packet, (k, .removeCharacterRq packet) ∈ r.requests →
      packet.sectorId ∈ site.deployment.sectorsOf k) : Cleaned site (s.absorb r) where
  registered := hregistered
  expected := by
    intro u hexpects
    rcases Network.expects_absorb.1 hexpects with hexpects | hmem
    · obtain ⟨session, hsession⟩ := Option.ne_none_iff_exists'.1 (h.expected u hexpects)
      obtain ⟨session', hsession', _⟩ := hclients u session hsession
      exact Option.ne_none_iff_exists'.2 ⟨session', hsession'⟩
    · exact hspawns u hmem
  clients := by
    intro u o hmem
    refine (h.clients u o hmem).imp_right ?_
    rintro ⟨session, hsession, hobject⟩
    obtain ⟨session', hsession', hsame⟩ := hclients u session hsession
    refine ⟨session', hsession', ?_⟩
    rw [hsame]
    exact hobject.imp_right fun hexpects => Network.expects_absorb.2 (.inl hexpects)
  removals := by
    intro k packet hmem
    rcases List.mem_append.1 hmem with hmem | hmem
    · exact h.removals k packet hmem
    · exact hremovals k packet hmem
  dismissed := fun o ho => (h.dismissed o ho).imp_left fun hremoves => hremoves.absorb r

/-- A handler of the agency that leaves the clients alone. -/
theorem absorb_same (h : Cleaned site s) {r : AgencyOutcome}
    (hregistered : Registered site (s.absorb r)) (hsame : SameClients s.agency r.agency)
    (hrequests : r.requests = []) : Cleaned site (s.absorb r) := by
  refine h.absorb hregistered ?_ ?_ ?_
  · intro u session hsession
    rw [hsame.sessions]
    exact ⟨session, hsession, rfl⟩
  · rw [hrequests]
    intro u hmem
    cases hmem
  · rw [hrequests]
    intro k packet hmem
    cases hmem

/-- A client comes. -/
theorem accept (h : Cleaned site s) (hdistinct : Distinct site s .accept) :
    Cleaned site (s.next site .accept) := by
  have hregistered := h.registered.accept hdistinct
  obtain ⟨hsessions, _, _, hcases⟩ := s.agency.accept_spec
  let u₀ := s.agency.currentUniversalSessionId
  -- what is asked for is the spawn of the new client
  have hrequests : ∀ k packet, (k, packet) ∈ s.agency.accept.requests →
      packet = .spawnCharacterRq (AgencyWorker.spawnRequest u₀) := by
    intro k packet hmem
    rcases hcases with ⟨_, _, hnil⟩ | ⟨_, _, hone⟩
    · rw [hnil] at hmem
      cases hmem
    · rw [hone] at hmem
      cases List.mem_singleton.1 hmem
      rfl
  exact {
    registered := hregistered
    expected := by
      intro u hexpects
      change s.agency.accept.agency.activeSessions.find u ≠ none
      rw [hsessions, UnorderedMap.find_insert]
      split_ifs with hu
      · simp
      · rcases Network.expects_absorb.1 hexpects with hexpects | hmem
        · exact h.expected u hexpects
        · obtain ⟨k, packet, hasked, huser⟩ := mem_spawnRequests.1 hmem
          cases hrequests k _ hasked
          exact absurd huser.symm hu
    clients := by
      intro u o hmem
      refine (h.clients u o hmem).imp_right ?_
      rintro ⟨session, hsession, hobject⟩
      refine ⟨session, ?_, hobject.imp_right fun hexpects => Network.expects_absorb.2 (.inl hexpects)⟩
      change s.agency.accept.agency.activeSessions.find u = some session
      have hu : u ≠ u₀ := by
        rintro rfl
        exact hdistinct.1 (h.registered.active _ session hsession)
      rw [hsessions]
      exact (UnorderedMap.find_insert_of_ne _ hu _).trans hsession
    removals := by
      intro k packet hmem
      rcases List.mem_append.1 hmem with hmem | hmem
      · exact h.removals k packet hmem
      · cases hrequests k _ hmem
    dismissed := fun o ho => (h.dismissed o ho).imp_left fun hremoves => hremoves.absorb _ }

/-- A client goes, whose character is not under way. -/
theorem close (h : Cleaned site s) {u : Nat} (hexpects : ¬ s.Expects u) (toOwner : Bool) :
    Cleaned site (s.next site (.close u toOwner)) := by
  have hregistered := h.registered.close u toOwner
  let r := s.agency.close u toOwner
  cases hsession : s.agency.activeSessions.find u with
  | none =>
      have hnext : s.next site (.close u toOwner) = s.absorb { agency := s.agency } := by
        simp only [Network.next, Network.absorb, AgencyWorker.dismisses, hsession,
          AgencyWorker.close_of_none hsession]
        simp
      rw [hnext] at hregistered ⊢
      exact h.absorb hregistered (fun u' session hsession => ⟨session, hsession, rfl⟩)
        (fun u' hmem => by cases hmem) fun k packet hmem => by cases hmem
  | some session =>
      obtain ⟨hsessions, _, hcases⟩ := AgencyWorker.close_spec hsession toOwner
      have hdismisses : s.agency.dismisses u = [session.objectId].filter (· ≠ 0) := by
        simp [AgencyWorker.dismisses, hsession]
      -- the request goes to the server of the sector that is stored for the client
      have hrequests : (session.objectId = 0 ∧ r.requests = []) ∨ ∃ k, session.objectId ≠ 0 ∧
          r.requests = [(k, .removeCharacterRq (AgencyWorker.removeRequest session toOwner))] ∧
          session.sectorId ∈ site.deployment.sectorsOf k := by
        refine hcases.imp (fun hzero => ⟨hzero.1, hzero.2.2.2⟩) ?_
        rintro ⟨hne, _, _, hmap⟩
        obtain ⟨_, _, _, k, hk⟩ := h.registered.sessions u session hsession hne
        have hwired := h.registered.wired.unsetAll h.registered.apart
          (h.registered.active u session hsession)
        rw [hwired.sendToSectorOwner h.registered.apart hk] at hmap
        exact ⟨k, hne, hmap, hk⟩
      have hspawns : spawnRequests r.requests = [] := by
        rcases hrequests with ⟨_, hnil⟩ | ⟨k, _, hone, _⟩
        · rw [hnil]
          rfl
        · rw [hone]
          rfl
      exact {
        registered := hregistered
        expected := by
          intro u' hexpects'
          change r.agency.activeSessions.find u' ≠ none
          rcases Network.expects_absorb.1 hexpects' with hold | hmem
          · have hu : u' ≠ u := by
              rintro rfl
              exact hexpects hold
            rw [hsessions, UnorderedMap.find_erase_of_ne _ hu]
            exact h.expected u' hold
          · rw [hspawns] at hmem
            cases hmem
        clients := by
          intro u' o hmem
          rcases h.clients u' o hmem with ho | ⟨session', hsession', hobject⟩
          · exact .inl (List.mem_append_left _ ho)
          by_cases hu : u' = u
          · -- the object of the client is to be removed
            subst hu
            rw [hsession] at hsession'
            cases hsession'
            obtain rfl := hobject.resolve_right hexpects
            refine .inl (List.mem_append_right _ ?_)
            rw [hdismisses]
            simp [(h.registered.issued u' _ hmem).2]
          · refine .inr ⟨session', ?_, hobject.imp_right fun hexpects' =>
              Network.expects_absorb.2 (.inl hexpects')⟩
            change r.agency.activeSessions.find u' = some session'
            rw [hsessions, UnorderedMap.find_erase_of_ne _ hu]
            exact hsession'
        removals := by
          intro k packet hmem
          rcases List.mem_append.1 hmem with hmem | hmem
          · exact h.removals k packet hmem
          · change (k, _) ∈ r.requests at hmem
            rcases hrequests with ⟨_, hnil⟩ | ⟨k', _, hone, hk'⟩
            · rw [hnil] at hmem
              cases hmem
            · rw [hone] at hmem
              cases List.mem_singleton.1 hmem
              exact hk'
        dismissed := by
          intro o ho
          rcases List.mem_append.1 ho with ho | ho
          · exact (h.dismissed o ho).imp_left fun hremoves => hremoves.absorb r
          · rw [hdismisses, List.mem_filter, List.mem_singleton] at ho
            obtain ⟨rfl, hne⟩ := ho
            rcases hrequests with ⟨hzero, _⟩ | ⟨k, _, hone, _⟩
            · simp [hzero] at hne
            · refine .inl ⟨k, AgencyWorker.removeRequest session toOwner, ?_, rfl⟩
              refine List.mem_append_right _ ?_
              change _ ∈ r.requests
              rw [hone]
              exact List.mem_cons_self }

/-- Messages are taken from their channels. -/
theorem take (h : Cleaned site s) {requests : List (Nat × AgencyPacket)}
    {notices : List (Nat × Notice)} (hrequests : requests.Sublist s.requests)
    (hnotices : notices ⊆ s.notices)
    (hexpects : ∀ u, s.Expects u →
      ({ s with requests := requests, notices := notices } : Network).Expects u)
    (hremoves : ∀ o, s.Removes o →
      ({ s with requests := requests, notices := notices } : Network).Removes o ∨
        s.cluster.Pursued site.deployment o) :
    Cleaned site { s with requests := requests, notices := notices } where
  registered := h.registered.take hrequests hnotices
  expected := by
    rintro u (hmem | ⟨k, info, error, hmem⟩)
    · exact h.expected u (.inl ((hrequests.filterMap _).subset hmem))
    · exact h.expected u (.inr ⟨k, info, error, hnotices hmem⟩)
  clients := by
    intro u o hmem
    refine (h.clients u o hmem).imp_right ?_
    rintro ⟨session, hsession, hobject⟩
    exact ⟨session, hsession, hobject.imp_right (hexpects u)⟩
  removals := fun k packet hmem => h.removals k packet (hrequests.subset hmem)
  dismissed := by
    intro o ho
    rcases h.dismissed o ho with hasked | hpursued
    · exact hremoves o hasked
    · exact .inr hpursued

/-- A notice other than the response to a spawn is taken. -/
theorem take_notice (h : Cleaned site s) {index source : Nat} {notice : Notice}
    (hhead : firstOf s.notices index = some (source, notice))
    (hnotice : ∀ u info error, notice ≠ .spawnCharacterRs u info error) :
    Cleaned site { s with notices := s.notices.eraseIdx index } := by
  refine h.take (List.Sublist.refl _) (List.eraseIdx_sublist s.notices index).subset ?_
    fun o hasked => .inl hasked
  intro u hexpects
  refine (Network.expects_of_heard hhead hexpects).resolve_right ?_
  rintro ⟨info, error, heq⟩
  exact hnotice u info error heq

/-- A request other than a spawn is taken, after its effect. -/
theorem take_request (h : Cleaned site s) {index k : Nat} {packet : AgencyPacket}
    (hhead : firstOf s.requests index = some (k, packet))
    (hspawn : ∀ request, packet ≠ .spawnCharacterRq request)
    (hremove : ∀ request, packet = .removeCharacterRq request →
      s.cluster.Pursued site.deployment request.objectId) :
    Cleaned site { s with requests := s.requests.eraseIdx index } := by
  refine h.take (List.eraseIdx_sublist s.requests index) (List.Subset.refl _) ?_ ?_
  · intro u hexpects
    refine (Network.expects_of_served hhead hexpects).resolve_right ?_
    rintro ⟨request, heq, _⟩
    exact hspawn request heq
  · intro o hremoves
    rcases Network.removes_of_served hhead hremoves with hremoves | ⟨request, heq, rfl⟩
    · exact .inl hremoves
    · exact .inr (hremove request heq)

/-- An event of the cluster that spawns nothing. -/
theorem play (h : Cleaned site s) {e : Event}
    (hspawn : ∀ k agency packet now, e ≠ .spawn k agency packet now)
    (hfinds : s.cluster.FindsOwner site.deployment e)
    (hstep : (Cluster.machine site.deployment).step s.cluster e
      (s.cluster.next site.deployment e)) : Cleaned site (s.play site e) := by
  have hspawned : (s.play site e).spawned = s.spawned := by
    cases e with
    | spawn k agency packet now =>
        exact absurd rfl (hspawn k agency packet now)
    | _ =>
        simp [Network.play, spawns]
  -- no response to a spawn is posted
  have hexpects : ∀ u, (s.play site e).Expects u ↔ s.Expects u := by
    intro u
    refine or_congr_right ⟨?_, ?_⟩
    · rintro ⟨k, info, error, hmem⟩
      rcases List.mem_append.1 hmem with hmem | hmem
      · exact ⟨k, info, error, hmem⟩
      · rcases h.registered.notices_play hspawn hstep _ hmem with hfalse | ⟨_, _, _, heq, _⟩
        · cases hfalse
        · cases heq
    · rintro ⟨k, info, error, hmem⟩
      exact ⟨k, info, error, List.mem_append_left _ hmem⟩
  exact {
    registered := h.registered.play hspawn hstep
    expected := fun u hu => h.expected u ((hexpects u).1 hu)
    clients := by
      intro u o hmem
      rw [hspawned] at hmem
      refine (h.clients u o hmem).imp_right ?_
      rintro ⟨session, hsession, hobject⟩
      exact ⟨session, hsession, hobject.imp_right (hexpects u).2⟩
    removals := h.removals
    dismissed := by
      intro o ho
      refine (h.dismissed o ho).imp id fun hpursued => ?_
      exact Cluster.pursued_next h.registered.reachable (assignsFreshId_of_ne hspawn) hfinds hstep
        hpursued }

/-- The character of a client is spawned: the request is gone, and the response is under way. -/
theorem spawn (h : Cleaned site s) {index k : Nat} {packet : SpawnCharacterRq} {now : Milliseconds}
    (hhead : firstOf s.requests index = some (k, .spawnCharacterRq packet))
    (hdistinct : ∀ o, s.cluster.nextFixtureId k packet.sectorId = some o →
      o ∉ s.cluster.issued ∧ o ≠ 0)
    (hstep : (Cluster.machine site.deployment).step s.cluster (.spawn k site.agencyId packet now)
      (s.cluster.next site.deployment (.spawn k site.agencyId packet now))) :
    Cleaned site (({ s with requests := s.requests.eraseIdx index } : Network).play site
      (.spawn k site.agencyId packet now)) := by
  obtain ⟨info, hid, _, hnotices, hregistered⟩ := h.registered.spawn hhead hdistinct hstep
  have hsub := (List.eraseIdx_sublist s.requests index).subset
  have hasked : s.Expects packet.userId :=
    .inl (mem_spawnRequests.2 ⟨k, packet, mem_of_firstOf hhead, rfl⟩)
  have hspawns : spawns s.cluster (.spawn k site.agencyId packet now) =
      [(packet.userId, info.objectId)] := by
    simp [spawns, hid]
  -- who expected an answer still does: the request that was served became an answer
  have hexpects : ∀ u, s.Expects u →
      (({ s with requests := s.requests.eraseIdx index } : Network).play site
        (.spawn k site.agencyId packet now)).Expects u := by
    intro u hu
    rcases Network.expects_of_served hhead hu with (hmem | ⟨k', info', error, hmem⟩) | ⟨_, heq, rfl⟩
    · exact .inl hmem
    · exact .inr ⟨k', info', error, List.mem_append_left _ hmem⟩
    · cases heq
      refine .inr ⟨k, some info, .None, List.mem_append_right _ ?_⟩
      rw [hnotices]
      exact List.mem_cons_self
  exact {
    registered := hregistered
    expected := by
      rintro u (hmem | ⟨k', info', error, hmem⟩)
      · obtain ⟨k', packet', hmem, huser⟩ := mem_spawnRequests.1 hmem
        exact h.expected u (.inl (mem_spawnRequests.2 ⟨k', packet', hsub hmem, huser⟩))
      · rcases List.mem_append.1 hmem with hmem | hmem
        · exact h.expected u (.inr ⟨k', info', error, hmem⟩)
        · rw [hnotices] at hmem
          cases List.mem_singleton.1 hmem
          exact h.expected _ hasked
    clients := by
      intro u o hmem
      rcases List.mem_append.1 hmem with hmem | hmem
      · refine (h.clients u o hmem).imp_right ?_
        rintro ⟨session, hsession, hobject⟩
        exact ⟨session, hsession, hobject.imp_right (hexpects u)⟩
      -- the client of the new object has not gone: it expects this answer
      · change (u, o) ∈ spawns s.cluster _ at hmem
        rw [hspawns] at hmem
        cases List.mem_singleton.1 hmem
        obtain ⟨session, hsession⟩ := Option.ne_none_iff_exists'.1 (h.expected _ hasked)
        exact .inr ⟨session, hsession, .inr (hexpects _ hasked)⟩
    removals := fun k' packet' hmem => h.removals k' packet' (hsub hmem)
    dismissed := by
      intro o ho
      rcases h.dismissed o ho with hremoves | hpursued
      -- a removal under way is not the request that was served, and no owner comes to an object
      -- that is pursued
      · rcases Network.removes_of_served hhead hremoves with hremoves | ⟨_, heq, _⟩
        · exact .inl hremoves
        · cases heq
      · have hfresh : s.cluster.assignsFreshId (.spawn k site.agencyId packet now) :=
          fun o ho => (hdistinct o ho).1
        exact .inr (Cluster.pursued_next h.registered.reachable hfresh trivial hstep hpursued) }

/-- A request reaches its server. -/
theorem serve (h : Cleaned site s) {index : Nat} {now : Milliseconds}
    (henabled : s.Enabled (.serve index now)) (hdistinct : Distinct site s (.serve index now))
    (hcleans : Cleans site s (.serve index now)) : Cleaned site (s.next site (.serve index now)) := by
  obtain ⟨k, packet, hhead, hrunning⟩ := henabled
  have hfinds := hcleans k packet hhead
  have hstep : ∀ e, s.cluster.actor e = some k →
      (Cluster.machine site.deployment).step s.cluster e (s.cluster.next site.deployment e) :=
    fun e hactor => ⟨⟨k, hactor, hrunning⟩, rfl⟩
  simp only [Network.next, hhead]
  cases packet with
  | spawnCharacterRq packet =>
      exact h.spawn hhead (fun o ho => hdistinct k packet o hhead ho) (hstep _ rfl)
  | characterMoveRq packet =>
      have hplayed := h.play (fun _ _ _ _ heq => by cases heq) (hfinds _ rfl)
        (hstep (.move k site.agencyId packet) rfl)
      exact hplayed.take_request hhead (fun _ heq => by cases heq) fun _ heq => by cases heq
  | removeCharacterRq packet =>
      have hplayed := h.play (fun _ _ _ _ heq => by cases heq) (hfinds _ rfl)
        (hstep (.remove k site.agencyId packet) rfl)
      -- the object is removed, or the request is under way to another server
      have hholding := Cluster.holding_singleOwner h.registered.reachable
      have hpursued := Cluster.pursued_remove hholding.sound (hholding.views _)
        (h.removals k packet (mem_of_firstOf hhead)) (hfinds _ rfl) site.agencyId
      refine hplayed.take_request hhead (fun _ heq => by cases heq) ?_
      rintro _ ⟨⟩
      exact hpursued
  | removeCharacterRs u x o =>
      exact h.take_request hhead (fun _ heq => by cases heq) fun _ heq => by cases heq

/-- The response to a spawn is heard: its client is still there. -/
theorem enter (h : Cleaned site s) {index source u : Nat} {info : ObjectInfo} {error : ErrorCode}
    (hhead : firstOf s.notices index = some (source, .spawnCharacterRs u (some info) error))
    (now : Milliseconds)
    (hregistered : Registered site (({ s with notices := s.notices.eraseIdx index } : Network).absorb
      (s.agency.onPlaySpawnCharacterRes source u info now))) :
    Cleaned site (({ s with notices := s.notices.eraseIdx index } : Network).absorb
      (s.agency.onPlaySpawnCharacterRes source u info now)) := by
  have hmem := mem_of_firstOf hhead
  have hclient := h.expected u (.inr ⟨source, some info, error, hmem⟩)
  have hspawned : (u, info.objectId) ∈ s.spawned := by
    obtain ⟨info', heq, hspawned, _⟩ := h.registered.spawnResponses _ _ _ _ hmem
    cases heq
    exact hspawned
  obtain ⟨_, hcases⟩ :=
    AgencyWorker.onPlaySpawnCharacterRes_spec (s := s.agency) source u info now
  rcases hcases with ⟨hnone, _⟩ | ⟨_, hsessions, _, _, hrequests⟩
  · exact absurd hnone hclient
  let s₀ : Network := { s with notices := s.notices.eraseIdx index }
  let r := s.agency.onPlaySpawnCharacterRes source u info now
  -- whatever is still under way has been under way before
  have hbefore : ∀ u', (s₀.absorb r).Expects u' → s.Expects u' := by
    intro u' hexpects
    rcases Network.expects_absorb.1 hexpects with (hmem | ⟨k, info', error', hmem⟩) | hmem
    · exact .inl hmem
    · exact .inr ⟨k, info', error', (List.eraseIdx_sublist s.notices index).subset hmem⟩
    · rw [hrequests] at hmem
      cases hmem
  exact {
    registered := hregistered
    expected := by
      intro u' hexpects
      change r.agency.activeSessions.find u' ≠ none
      rw [hsessions, UnorderedMap.find_insert]
      split_ifs
      · simp
      · exact h.expected u' (hbefore u' hexpects)
    clients := by
      intro u' o hmem'
      rcases h.clients u' o hmem' with ho | ⟨session, hsession, hobject⟩
      · exact .inl ho
      change o ∈ s.dismissed ∨ ∃ session, r.agency.activeSessions.find u' = some session ∧ _
      rw [hsessions, UnorderedMap.find_insert]
      by_cases hu : u' = u
      · subst hu
        exact .inr ⟨_, if_pos rfl, .inl (h.registered.object_unique hspawned hmem')⟩
      · refine .inr ⟨session, (if_neg hu).trans hsession, hobject.imp_right fun hexpects => ?_⟩
        refine Network.expects_absorb.2 (.inl ?_)
        refine (Network.expects_of_heard hhead hexpects).resolve_right ?_
        rintro ⟨_, _, heq⟩
        cases heq
        exact hu rfl
    removals := by
      intro k packet hmem
      change _ ∈ s.requests ++ r.requests at hmem
      rw [hrequests, List.append_nil] at hmem
      exact h.removals k packet hmem
    dismissed := by
      intro o ho
      refine (h.dismissed o ho).imp_left fun hremoves => ?_
      exact Network.Removes.absorb (s := s₀) hremoves r }

/-- A notice is heard. -/
theorem hear (h : Cleaned site s) (index : Nat) (now : Milliseconds) (unset : ObjectInfo) :
    Cleaned site (s.next site (.hear index now unset)) := by
  have hregistered := h.registered.hear index now unset
  cases hhead : firstOf s.notices index with
  | none =>
      simp only [Network.next, hhead]
      exact h
  | some e =>
      obtain ⟨source, notice⟩ := e
      simp only [Network.next, hhead] at hregistered ⊢
      cases hnotice : isAnnouncement notice with
      | false =>
          obtain ⟨hsame, _, hrequests⟩ := AgencyWorker.sameClients_onIntraServerData
            h.registered.objectsActive source hnotice unset now
          have htaken := h.take_notice hhead (by rintro u info error rfl; cases hnotice)
          exact htaken.absorb_same hregistered hsame hrequests
      | true =>
          cases notice with
          | spawnCharacterRs u info error =>
              obtain ⟨info', rfl, _⟩ := h.registered.spawnResponses _ _ _ _ (mem_of_firstOf hhead)
              exact h.enter hhead now hregistered
          | promoteObjectRq origin info =>
              have htaken := h.take_notice hhead (fun _ _ _ heq => by cases heq)
              rcases AgencyWorker.onPlayPromoteObjectReq_cases h.registered.objectsActive origin info
                now with ⟨hsame, hrequests⟩ | ⟨u, session, _, hsession, hsessions, _, _, hrequests⟩
              · exact htaken.absorb_same hregistered hsame hrequests
              · refine htaken.absorb hregistered ?_ ?_ ?_
                · intro u' session' hsession'
                  change ∃ session', (s.agency.onPlayPromoteObjectReq origin info
                    now).agency.activeSessions.find u' = some session' ∧ _
                  rw [hsessions, UnorderedMap.find_insert]
                  by_cases hu : u' = u
                  · -- the client keeps its object
                    subst hu
                    rw [if_pos rfl]
                    refine ⟨_, rfl, ?_⟩
                    have heq : some session = some session' := hsession.symm.trans hsession'
                    cases heq
                    rfl
                  · rw [if_neg hu]
                    exact ⟨session', hsession', rfl⟩
                · intro u' hmem
                  change u' ∈ spawnRequests (s.agency.onPlayPromoteObjectReq origin info now).requests
                    at hmem
                  rw [hrequests] at hmem
                  cases hmem
                · intro k packet hmem
                  change _ ∈ (s.agency.onPlayPromoteObjectReq origin info now).requests at hmem
                  rw [hrequests] at hmem
                  cases hmem
          | _ =>
              cases hnotice

/-- A client moves. -/
theorem move (h : Cleaned site s) (u : Nat) (position : Vector2) (direction : Direction) :
    Cleaned site (s.next site (.move u position direction)) := by
  obtain ⟨hagency, _, hrequests⟩ := s.agency.onClientData_spec u position direction
  refine h.absorb (h.registered.move u position direction) ?_ ?_ ?_
  · intro u' session hsession
    rw [hagency]
    exact ⟨session, hsession, rfl⟩
  · intro u' hmem
    obtain ⟨k, packet, hmem, _⟩ := mem_spawnRequests.1 hmem
    obtain ⟨_, heq⟩ := hrequests k _ hmem
    cases heq
  · intro k packet hmem
    obtain ⟨_, heq⟩ := hrequests k _ hmem
    cases heq

theorem next (h : Cleaned site s) {e : NetworkEvent} (henabled : s.Enabled e)
    (hdistinct : Distinct site s e) (hcleans : Cleans site s e) : Cleaned site (s.next site e) := by
  cases e with
  | accept =>
      exact h.accept hdistinct
  | close u toOwner =>
      exact h.close hcleans toOwner
  | move u position direction =>
      exact h.move u position direction
  | serve index now =>
      exact h.serve henabled hdistinct hcleans
  | hear index now unset =>
      exact h.hear index now unset
  | play e =>
      refine h.play ?_ hcleans ⟨henabled.2, rfl⟩
      rintro k agency packet now rfl
      exact henabled.1

end Cleaned

/-! ## What is left behind -/

section Left

variable {site : Site} {s : Network}

theorem cleaned_of_reachable
    (h : ((Network.machine site).restrict fun s e => Distinct site s e ∧ Cleans site s e).Reachable s) :
    Cleaned site s := by
  refine Machine.Reachable.invariant
    (M := (Network.machine site).restrict fun s e => Distinct site s e ∧ Cleans site s e)
    (P := Cleaned site) ?_ ?_ h
  · rintro s rfl
    exact .new site
  · rintro s e s' hs ⟨⟨hdistinct, hcleans⟩, henabled, rfl⟩
    exact hs.next henabled hdistinct hcleans

/-- In every run in which no id is given twice, clients go while their characters are not under way and
requests to remove an object find its owner or are passed on: when no message is in flight, no server
owns an object that was spawned for a client that has gone. -/
theorem no_character_left
    (h : ((Network.machine site).restrict fun s e => Distinct site s e ∧ Cleans site s e).Reachable s)
    (hquiet : s.Quiet) {u o : Nat} (hspawned : (u, o) ∈ s.spawned)
    (hclosed : s.agency.activeSessions.find u = none) : s.cluster.owners o = ∅ := by
  have hcleaned := cleaned_of_reachable h
  have ho : o ∈ s.dismissed := by
    refine (hcleaned.clients u o hspawned).resolve_right ?_
    rintro ⟨session, hsession, _⟩
    rw [hclosed] at hsession
    cases hsession
  -- the request for its removal has done its work
  have howner : Ownerless (s.cluster.view site.deployment o) := by
    rcases hcleaned.dismissed o ho with ⟨k, packet, hmem, _⟩ | ⟨e, hmem, _⟩ | howner
    · rw [hquiet.requests] at hmem
      cases hmem
    · rw [hquiet.flight] at hmem
      cases hmem
    · exact howner
  have hsound := (Cluster.holding_singleOwner hcleaned.registered.reachable).sound
  rw [Set.eq_empty_iff_forall_notMem]
  rintro ⟨k, x⟩ hkx
  have hcopy := (hsound.mem_owners.1 hkx).2
  rw [howner.copies x] at hcopy
  cases hcopy

end Left

/-! ## Samples -/

/-- An agency in front of three servers. -/
def threeServerSite : Site where
  deployment := Cluster.threeServers
  agencyId := 9
  nonzero := by
    intro x
    unfold Cluster.threeServers
    simp only
    split_ifs <;> simp

/-- The first client of the agency. -/
def firstClient : Nat := 9100000000000001

theorem distinct_accept {s : Network} (hid : s.agency.currentUniversalSessionId = firstClient)
    (hnew : firstClient ∉ s.users) : Distinct threeServerSite s .accept := by
  refine ⟨hid ▸ hnew, hid ▸ by decide, fun x => ?_⟩
  rw [hid]
  change Cluster.threeServers.owner x ≠ some firstClient
  unfold Cluster.threeServers
  simp only
  split_ifs <;> simp [firstClient]

theorem distinct_spawn {site : Site} {s : Network} {index k : Nat} (packet : SpawnCharacterRq)
    (o : Nat) (hhead : firstOf s.requests index = some (k, .spawnCharacterRq packet))
    (hnext : s.cluster.nextFixtureId k packet.sectorId = some o)
    (hfresh : o ∉ s.cluster.issued ∧ o ≠ 0) (now : Milliseconds) :
    Distinct site s (.serve index now) := by
  intro k' packet' o' hhead' ho'
  rw [hhead] at hhead'
  cases hhead'
  rw [hnext] at ho'
  cases ho'
  exact hfresh

theorem distinct_other {site : Site} {s : Network} {index k : Nat} {packet : AgencyPacket}
    (hhead : firstOf s.requests index = some (k, packet))
    (hother : ∀ request, packet ≠ .spawnCharacterRq request) (now : Milliseconds) :
    Distinct site s (.serve index now) := by
  intro k' packet' o' hhead'
  rw [hhead] at hhead'
  cases hhead'
  exact absurd rfl (hother packet')

/-- What an error response carries in the fields that are not filled. -/
def unfilled : ObjectInfo := ⟨0, 0, blankFixture⟩

/-- The spawn of the first client reaches server 2. -/
def spawned : Network :=
  [NetworkEvent.accept, .serve 0 0].foldl (Network.next threeServerSite)
    (Network.new threeServerSite)

theorem reachable_spawned :
    ((Network.machine threeServerSite).restrict
      fun s e => Distinct threeServerSite s e ∧ Cleans threeServerSite s e).Reachable spawned := by
  have haccepted : firstOf ((Network.new threeServerSite).next threeServerSite .accept).requests 0 =
      some (2, .spawnCharacterRq (AgencyWorker.spawnRequest firstClient)) := by decide +kernel
  refine .step (.step (.init rfl) (e := .accept)
    ⟨⟨distinct_accept (by decide +kernel) (by decide), trivial⟩, rfl, rfl⟩)
    (e := .serve 0 0)
    ⟨⟨distinct_spawn _ Cluster.firstId haccepted (by decide +kernel) (by decide +kernel) 0, ?_⟩,
      ⟨2, _, haccepted, by decide +kernel⟩, rfl⟩
  rintro k packet hhead e he
  rw [haccepted] at hhead
  cases hhead
  cases he
  exact trivial

/-- The client goes before the response is heard. -/
def hurriedEvents : List NetworkEvent :=
  [.close firstClient false, .hear 0 0 unfilled, .serve 0 0]

def hurried : Network := hurriedEvents.foldl (Network.next threeServerSite) spawned

theorem reachable_hurried :
    ((Network.machine threeServerSite).restrict (Distinct threeServerSite)).Reachable hurried := by
  have hhead : firstOf ((spawned.next threeServerSite (.close firstClient false)).next
      threeServerSite (.hear 0 0 unfilled)).requests 0 =
        some (2, .removeCharacterRs firstClient 12 Cluster.firstId) := by decide +kernel
  have hrun : ((Network.machine threeServerSite).restrict (Distinct threeServerSite)).Run spawned
      hurriedEvents hurried := by
    refine .cons ⟨trivial, ?_, rfl⟩
      (.cons ⟨trivial, ⟨?_, ?_⟩, rfl⟩
        (.cons ⟨distinct_other hhead (fun _ heq => by cases heq) 0, ⟨2, _, hhead, ?_⟩, rfl⟩
          (.nil _)))
    · rfl
    · rfl
    · exact Option.isSome_iff_exists.1 (by decide +kernel)
    · decide +kernel
  exact hrun.reachable (reachable_spawned.mono fun _ _ hboth => hboth.1)

/-- No play server handles the packet with which the late response is answered. -/
theorem character_left :
    ¬ ∀ (site : Site) (s : Network),
      ((Network.machine site).restrict (Distinct site)).Reachable s → s.Quiet →
        ∀ u o, (u, o) ∈ s.spawned → s.agency.activeSessions.find u = none →
          s.cluster.owners o = ∅ := by
  intro h
  have hnone := h threeServerSite hurried reachable_hurried
    ⟨by decide +kernel, by decide +kernel, by decide +kernel⟩ firstClient Cluster.firstId
    (by decide +kernel) (by decide +kernel)
  have hleft : (hurried.cluster.fixtureAt 2 12 Cluster.firstId).map Fixture.isObservingFixture =
      some false := by decide +kernel
  have howner : (2, 12) ∈ hurried.cluster.owners Cluster.firstId := Option.map_eq_some_iff.1 hleft
  rw [hnone] at howner
  exact howner

/-- The client goes after the response was heard, and its object is removed. -/
def departedEvents : List NetworkEvent :=
  [.hear 0 0 unfilled, .close firstClient false, .serve 0 0, .hear 0 0 unfilled]

def departed : Network := departedEvents.foldl (Network.next threeServerSite) spawned

theorem not_expects {s : Network} (hrequests : s.requests = []) (hnotices : s.notices = [])
    (u : Nat) : ¬ s.Expects u := by
  rintro (hmem | ⟨k, info, error, hmem⟩)
  · rw [hrequests] at hmem
    cases hmem
  · rw [hnotices] at hmem
    cases hmem

theorem reachable_departed :
    ((Network.machine threeServerSite).restrict
      fun s e => Distinct threeServerSite s e ∧ Cleans threeServerSite s e).Reachable departed := by
  have hhead : firstOf ((spawned.next threeServerSite (.hear 0 0 unfilled)).next threeServerSite
      (.close firstClient false)).requests 0 =
        some (2, .removeCharacterRq ⟨firstClient, 12, Cluster.firstId, false⟩) := by decide +kernel
  have hrun : ((Network.machine threeServerSite).restrict
      fun s e => Distinct threeServerSite s e ∧ Cleans threeServerSite s e).Run spawned
        departedEvents departed := by
    refine .cons ⟨⟨trivial, trivial⟩, ⟨?_, ?_⟩, rfl⟩
      (.cons ⟨⟨trivial, not_expects ?_ ?_ _⟩, ?_, rfl⟩
        (.cons ⟨⟨distinct_other hhead (fun _ heq => by cases heq) 0, ?_⟩, ⟨2, _, hhead, ?_⟩, rfl⟩
          (.cons ⟨⟨trivial, trivial⟩, ⟨?_, ?_⟩, rfl⟩ (.nil _))))
    · decide +kernel
    · exact Option.isSome_iff_exists.1 (by decide +kernel)
    · decide +kernel
    · decide +kernel
    · change _ = none
      decide +kernel
    · -- the owner is where the request asks for it
      intro k packet hhead' e he
      rw [hhead] at hhead'
      cases hhead'
      cases he
      refine .inl ?_
      decide +kernel
    · decide +kernel
    · decide +kernel
    · exact Option.isSome_iff_exists.1 (by decide +kernel)
  exact hrun.reachable reachable_spawned

theorem no_character_left_departed :
    departed.Quiet ∧ (firstClient, Cluster.firstId) ∈ departed.spawned ∧
      departed.cluster.owners Cluster.firstId = ∅ := by
  have hquiet : departed.Quiet := ⟨by decide +kernel, by decide +kernel, by decide +kernel⟩
  have hspawned : (firstClient, Cluster.firstId) ∈ departed.spawned := by decide +kernel
  exact ⟨hquiet, hspawned, no_character_left reachable_departed hquiet hspawned (by decide +kernel)⟩

end Agency
end SeamlessServer
