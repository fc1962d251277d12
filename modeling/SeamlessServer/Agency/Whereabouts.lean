import SeamlessServer.Agency.Departures
import SeamlessServer.Game.InOrder

/-!
# Agency.Whereabouts — the sector that is stored for a client

A client is stored with the sector its object was spawned in, and every promotion that is heard moves
it on.  The promotions of an object are announced by the servers that take it over, each on a channel
of its own.  As long as the announcements of an object are heard in the order they were posted, and a
promotion is heard while the object is cached where it comes from, what is still to be heard leads
from the stored sector to where the object is (`Traced`); an object that is not to be removed has an
owner there once nothing is under way (`sector_known`).
-/

namespace SeamlessServer
namespace Agency

open Game Protocol Utility

/-! ## Announcements of an object -/

/-- The notice tells where the object is. -/
def announces (o : Nat) : Notice → Bool
  | .spawnCharacterRs _ (some info) _ => info.objectId == o
  | .promoteObjectRq _ info => info.objectId == o
  | _ => false

/-- What is still to be heard of where the object is. -/
def announcementsOf (o : Nat) (notices : List (Nat × Notice)) : List Notice :=
  (notices.map Prod.snd).filter (announces o)

section Announcements

variable {o index source : Nat} {notice : Notice} {notices : List (Nat × Notice)}

theorem announcementsOf_append (o : Nat) (notices notices' : List (Nat × Notice)) :
    announcementsOf o (notices ++ notices') = announcementsOf o notices ++ announcementsOf o notices' := by
  simp [announcementsOf]

theorem mem_announcementsOf :
    notice ∈ announcementsOf o notices ↔ (∃ k, (k, notice) ∈ notices) ∧ announces o notice = true := by
  simp [announcementsOf]

theorem announcementsOf_eq_nil (h : ∀ n ∈ notices, announces o n.2 = false) :
    announcementsOf o notices = [] := by
  rw [announcementsOf, List.filter_eq_nil_iff]
  intro n hn
  obtain ⟨e, he, rfl⟩ := List.mem_map.1 hn
  simp [h e he]

theorem announces_of_silent (h : isAnnouncement notice = false) (o : Nat) :
    announces o notice = false := by
  cases notice with
  | spawnCharacterRs u info error =>
      cases h
  | promoteObjectRq origin info =>
      cases h
  | _ =>
      rfl

/-- A notice about another object is taken. -/
theorem announcementsOf_other (hhead : firstOf notices index = some (source, notice))
    (hother : announces o notice = false) :
    announcementsOf o (notices.eraseIdx index) = announcementsOf o notices := by
  obtain ⟨hsplit, herase⟩ := firstOf_split hhead
  have hnone : announcementsOf o [(source, notice)] = [] := by
    simp [announcementsOf, hother]
  rw [herase]
  conv_rhs => rw [hsplit, ← List.singleton_append]
  rw [announcementsOf_append, announcementsOf_append, announcementsOf_append, hnone, List.nil_append]

/-- The notice of the object that is taken stands after those posted earlier. -/
theorem announcementsOf_taken (hhead : firstOf notices index = some (source, notice))
    (htaken : announces o notice = true) :
    announcementsOf o notices = announcementsOf o (notices.take index) ++
        notice :: announcementsOf o (notices.drop (index + 1)) ∧
      announcementsOf o (notices.eraseIdx index) = announcementsOf o (notices.take index) ++
        announcementsOf o (notices.drop (index + 1)) := by
  obtain ⟨hsplit, herase⟩ := firstOf_split hhead
  refine ⟨?_, ?_⟩
  · conv_lhs => rw [hsplit]
    rw [announcementsOf_append]
    simp [announcementsOf, htaken]
  · rw [herase, announcementsOf_append]

end Announcements

/-- The promotions lead from one sector to another. -/
inductive Leads : Nat → List Notice → Nat → Prop
  | here (x : Nat) : Leads x [] x
  | promoted {origin y : Nat} {info : ObjectInfo} {rest : List Notice} :
      Leads info.sectorId rest y → Leads origin (.promoteObjectRq origin info :: rest) y

namespace Leads

variable {x y : Nat} {notices : List Notice}

/-- The object is promoted once more. -/
theorem append (h : Leads x notices y) (info : ObjectInfo) :
    Leads x (notices ++ [.promoteObjectRq y info]) info.sectorId := by
  induction h with
  | here x =>
      exact .promoted (.here _)
  | promoted _ ih =>
      exact .promoted ih

theorem not_mem_spawn (h : Leads x notices y) (u : Nat) (info : Option ObjectInfo)
    (error : ErrorCode) : .spawnCharacterRs u info error ∉ notices := by
  induction h with
  | here x =>
      exact List.not_mem_nil
  | promoted _ ih =>
      intro hmem
      rcases List.mem_cons.1 hmem with heq | hmem
      · cases heq
      · exact ih hmem

end Leads

/-! ## Announcements that are heard in order -/

/-- The object is that of a client, or will be once the response to its spawn is heard. -/
def Network.Awaits (s : Network) (o : Nat) : Prop :=
  (∃ u, s.agency.objectSessions.find o = some u) ∨
    ∃ k u info error, (k, Notice.spawnCharacterRs u (some info) error) ∈ s.notices ∧
      info.objectId = o ∧ s.agency.activeSessions.find u ≠ none

/-- A promotion of a client's object is heard after what was announced of the object before, and while
the object is cached where it comes from. -/
def HearsInOrder (s : Network) : NetworkEvent → Prop
  | .hear index _ _ => ∀ source origin info,
      firstOf s.notices index = some (source, .promoteObjectRq origin info) →
      s.Awaits info.objectId →
        (∀ n ∈ s.notices.take index, announces info.objectId n.2 = false) ∧
          (s.agency.objectCache origin).find info.objectId ≠ none
  | _ => True

/-- What is still to be heard of an object leads from the sector that is stored for its client to where
the object is. -/
structure Traced (site : Site) (s : Network) (place : Nat → Nat) : Prop where
  located : ∀ o, Located (s.cluster.view site.deployment o) (place o)
  sessions : ∀ u session, s.agency.activeSessions.find u = some session → session.objectId ≠ 0 →
    Leads session.sectorId (announcementsOf session.objectId s.notices) (place session.objectId)
  spawns : ∀ k u info error, (k, .spawnCharacterRs u (some info) error) ∈ s.notices →
    s.agency.activeSessions.find u ≠ none →
      ∃ rest, announcementsOf info.objectId s.notices = .spawnCharacterRs u (some info) error :: rest ∧
        Leads info.sectorId rest (place info.objectId)

namespace Traced

variable {site : Site} {s : Network} {place : Nat → Nat}

theorem new (site : Site) : Traced site (Network.new site) fun _ => 0 where
  located := by
    intro o
    have hsingle : ((Cluster.machine site.deployment).restrict Cluster.assignsFreshId).Reachable
        (Cluster.new site.deployment) := .init rfl
    have hblank := ((Cluster.holding_singleOwner hsingle).views o).blank rfl
    refine ⟨fun y hy => ?_, fun x info hmem => ?_⟩
    · change isOwner (((Cluster.new site.deployment).view site.deployment o).copies y) = true at hy
      rw [hblank.1] at hy
      cases hy
    · cases hmem
  sessions := fun u session h => by cases h
  spawns := fun k u info error hmem => by cases hmem

/-- A handler of the agency after which every client has the object and the sector it had. -/
theorem absorb (h : Traced site s place) {r : AgencyOutcome}
    (hclients : ∀ u session, r.agency.activeSessions.find u = some session → session.objectId ≠ 0 →
      ∃ session', s.agency.activeSessions.find u = some session' ∧
        session'.objectId = session.objectId ∧ session'.sectorId = session.sectorId)
    (hactive : ∀ k u info error, (k, .spawnCharacterRs u (some info) error) ∈ s.notices →
      r.agency.activeSessions.find u ≠ none → s.agency.activeSessions.find u ≠ none) :
    Traced site (s.absorb r) place where
  located := h.located
  sessions := by
    intro u session hsession hne
    obtain ⟨session', hsession', hobject, hsector⟩ := hclients u session hsession hne
    rw [← hobject, ← hsector]
    exact h.sessions u session' hsession' (by rw [hobject]; exact hne)
  spawns := by
    intro k u info error hmem hclient
    exact h.spawns k u info error hmem (hactive k u info error hmem hclient)

theorem absorb_same (h : Traced site s place) {r : AgencyOutcome}
    (hsame : SameClients s.agency r.agency) : Traced site (s.absorb r) place := by
  refine h.absorb ?_ ?_
  · intro u session hsession _
    rw [hsame.sessions] at hsession
    exact ⟨session, hsession, rfl, rfl⟩
  · intro k u info error _ hclient
    rw [hsame.sessions] at hclient
    exact hclient

/-- A notice is taken that announces nothing of the objects of clients. -/
theorem take (h : Traced site s place) {index source : Nat} {notice : Notice}
    (hhead : firstOf s.notices index = some (source, notice))
    (hsessions : ∀ u session, s.agency.activeSessions.find u = some session → session.objectId ≠ 0 →
      announces session.objectId notice = false)
    (hspawns : ∀ k u info error, (k, .spawnCharacterRs u (some info) error) ∈ s.notices →
      s.agency.activeSessions.find u ≠ none → announces info.objectId notice = false) :
    Traced site { s with notices := s.notices.eraseIdx index } place where
  located := h.located
  sessions := by
    intro u session hsession hne
    change Leads _ (announcementsOf _ (s.notices.eraseIdx index)) _
    rw [announcementsOf_other hhead (hsessions u session hsession hne)]
    exact h.sessions u session hsession hne
  spawns := by
    intro k u info error hmem hclient
    have hmem' := (List.eraseIdx_sublist s.notices index).subset hmem
    change ∃ rest, announcementsOf _ (s.notices.eraseIdx index) = _ ∧ _
    rw [announcementsOf_other hhead (hspawns k u info error hmem' hclient)]
    exact h.spawns k u info error hmem' hclient

/-- An event of the cluster that spawns nothing. -/
theorem play (h : Traced site s place) (hregistered : Registered site s) {e : Event}
    (hspawn : ∀ k agency packet now, e ≠ .spawn k agency packet now)
    (hstep : (Cluster.machine site.deployment).step s.cluster e
      (s.cluster.next site.deployment e)) : ∃ place', Traced site (s.play site e) place' := by
  rcases announced_play hregistered.reachable h.located hspawn hstep site.agencyId with
    ⟨hsilent, hlocated⟩ | ⟨k₀, info₀, rest₀, hnotices, hsilent, _, _, hlocated⟩
  · -- nothing is announced
    have hsame : ∀ o, announcementsOf o (s.notices ++ noticesOf site.agencyId s.cluster e) =
        announcementsOf o s.notices := by
      intro o
      rw [announcementsOf_append, announcementsOf_eq_nil fun n hn =>
        announces_of_silent (hsilent n hn) o, List.append_nil]
    refine ⟨place, hlocated, fun u session hsession hne => ?_, fun k u info error hmem hclient => ?_⟩
    · change Leads _ (announcementsOf _ (s.notices ++ _)) _
      rw [hsame]
      exact h.sessions u session hsession hne
    · change ∃ rest, announcementsOf _ (s.notices ++ _) = _ ∧ _
      rw [hsame]
      rcases List.mem_append.1 hmem with hmem | hmem
      · exact h.spawns k u info error hmem hclient
      · cases hsilent _ hmem
  · -- one object is announced where it is now
    have hannounced : ∀ o, announcementsOf o (s.notices ++ noticesOf site.agencyId s.cluster e) =
        announcementsOf o s.notices ++
          if info₀.objectId = o then [.promoteObjectRq (place info₀.objectId) info₀] else [] := by
      intro o
      rw [announcementsOf_append, hnotices, ← List.singleton_append, announcementsOf_append,
        announcementsOf_eq_nil fun n hn => announces_of_silent (hsilent n hn) o, List.append_nil]
      by_cases ho : info₀.objectId = o
      · simp [announcementsOf, announces, ho]
      · simp [announcementsOf, announces, ho]
    have hleads : ∀ o x notices, Leads x notices (place o) →
        Leads x (notices ++ if info₀.objectId = o then
          [.promoteObjectRq (place info₀.objectId) info₀] else [])
          (Function.update place info₀.objectId info₀.sectorId o) := by
      intro o x notices hleads
      by_cases ho : info₀.objectId = o
      · subst ho
        rw [if_pos rfl, Function.update_self]
        exact hleads.append info₀
      · rw [if_neg ho, Function.update_of_ne (Ne.symm ho), List.append_nil]
        exact hleads
    refine ⟨_, hlocated, fun u session hsession hne => ?_, fun k u info error hmem hclient => ?_⟩
    · change Leads _ (announcementsOf _ (s.notices ++ _)) _
      rw [hannounced]
      exact hleads _ _ _ (h.sessions u session hsession hne)
    · change ∃ rest, announcementsOf _ (s.notices ++ _) = _ ∧ _
      rw [hannounced]
      rcases List.mem_append.1 hmem with hmem | hmem
      · obtain ⟨rest, hrest, hrestLeads⟩ := h.spawns k u info error hmem hclient
        rw [hrest]
        exact ⟨_, rfl, hleads _ _ _ hrestLeads⟩
      · rw [hnotices] at hmem
        rcases List.mem_cons.1 hmem with heq | hmem
        · cases heq
        · cases hsilent _ hmem

/-- A spawn is announced where it was asked for; nothing has been said of its object before. -/
theorem spawn (h : Traced site s place) (hregistered : Registered site s) {index k : Nat}
    {packet : SpawnCharacterRq} {now : Milliseconds}
    (hhead : firstOf s.requests index = some (k, .spawnCharacterRq packet))
    (hfresh : s.cluster.assignsFreshId (.spawn k site.agencyId packet now))
    (hstep : (Cluster.machine site.deployment).step s.cluster (.spawn k site.agencyId packet now)
      (s.cluster.next site.deployment (.spawn k site.agencyId packet now))) :
    ∃ place', Traced site (({ s with requests := s.requests.eraseIdx index } : Network).play site
      (.spawn k site.agencyId packet now)) place' := by
  obtain ⟨hsector, hx⟩ := hregistered.routed k packet (mem_of_firstOf hhead)
  obtain ⟨info₀, hid, hinfo, hnotices, hlocated⟩ :=
    announced_spawn hregistered.reachable h.located (hsector ▸ hx) hfresh hstep
  have hnew : info₀.objectId ∉ s.cluster.issued := hfresh _ hid
  -- nothing was announced of the object, since its id is fresh and what is announced was issued
  have hnone : announcementsOf info₀.objectId s.notices = [] := by
    refine announcementsOf_eq_nil fun n hn => ?_
    obtain ⟨k', notice⟩ := n
    by_contra hannounces
    refine hnew ?_
    cases notice with
    | spawnCharacterRs u info error =>
        obtain ⟨info', rfl, hspawned, _⟩ := hregistered.spawnResponses k' u info error hn
        have ho : info'.objectId = info₀.objectId := by simpa [announces] using hannounces
        exact ho ▸ (hregistered.issued u _ hspawned).1
    | promoteObjectRq origin info =>
        have ho : info.objectId = info₀.objectId := by simpa [announces] using hannounces
        exact ho ▸ (hregistered.promotions k' origin info hn).1
    | _ =>
        exact absurd rfl hannounces
  have hannounced : ∀ o, o ≠ info₀.objectId →
      announcementsOf o (s.notices ++ [(k, .spawnCharacterRs packet.userId (some info₀) .None)]) =
        announcementsOf o s.notices := by
    intro o ho
    rw [announcementsOf_append]
    simp [announcementsOf, announces, ho.symm]
  refine ⟨_, hlocated, fun u session hsession hne => ?_, fun k' u info error hmem hclient => ?_⟩
  -- the clients that have their object hear of another one
  · change Leads _ (announcementsOf _ (s.notices ++ noticesOf _ s.cluster _)) _
    have ho : session.objectId ≠ info₀.objectId := by
      intro heq
      obtain ⟨_, hmem, _⟩ := hregistered.sessions u session hsession hne
      exact hnew (heq ▸ (hregistered.issued u _ hmem).1)
    rw [hnotices, hannounced _ ho, Function.update_of_ne ho]
    exact h.sessions u session hsession hne
  · change ∃ rest, announcementsOf _ (s.notices ++ noticesOf _ s.cluster _) = _ ∧ _
    change _ ∈ s.notices ++ noticesOf _ s.cluster _ at hmem
    rw [hnotices] at hmem ⊢
    rcases List.mem_append.1 hmem with hmem | hmem
    -- an answer that waits is about an object that was there before, and the new one about the new
    -- object
    · have ho : info.objectId ≠ info₀.objectId := by
        intro heq
        obtain ⟨info', hsome, hspawned, _⟩ := hregistered.spawnResponses k' u _ error hmem
        cases hsome
        exact hnew (heq ▸ (hregistered.issued u _ hspawned).1)
      rw [hannounced _ ho, Function.update_of_ne ho]
      exact h.spawns k' u info error hmem hclient
    · cases List.mem_singleton.1 hmem
      refine ⟨[], ?_, ?_⟩
      · rw [announcementsOf_append, hnone]
        simp [announcementsOf, announces]
      · rw [Function.update_self, ← hinfo]
        exact .here _

/-- A client comes. -/
theorem accept (h : Traced site s place) (hregistered : Registered site s)
    (hdistinct : Distinct site s .accept) : Traced site (s.next site .accept) place := by
  obtain ⟨hsessions, _⟩ := s.agency.accept_spec
  have habsorbed : Traced site (s.absorb s.agency.accept) place := by
    refine h.absorb ?_ ?_
    · intro u session hsession hne
      rw [hsessions, UnorderedMap.find_insert] at hsession
      split_ifs at hsession
      · cases hsession
        exact absurd rfl hne
      · exact ⟨session, hsession, rfl, rfl⟩
    · intro k u info error hmem hclient
      obtain ⟨info', _, hspawned, _⟩ := hregistered.spawnResponses k u _ error hmem
      have hu : u ≠ s.agency.currentUniversalSessionId := by
        rintro rfl
        refine hdistinct.1 (hregistered.users _ (List.mem_append_right _ ?_))
        exact List.mem_map.2 ⟨_, hspawned, rfl⟩
      rwa [hsessions, UnorderedMap.find_insert_of_ne _ hu] at hclient
  exact ⟨habsorbed.located, habsorbed.sessions, habsorbed.spawns⟩

/-- A client goes. -/
theorem close (h : Traced site s place) (u : Nat) (toOwner : Bool) :
    Traced site (s.next site (.close u toOwner)) place := by
  have habsorbed : Traced site (s.absorb (s.agency.close u toOwner)) place := by
    cases hsession : s.agency.activeSessions.find u with
    | none =>
        refine h.absorb_same ?_
        rw [AgencyWorker.close_of_none hsession]
        exact ⟨rfl, rfl, rfl⟩
    | some session =>
        obtain ⟨hsessions, _⟩ := AgencyWorker.close_spec hsession toOwner
        refine h.absorb ?_ ?_
        · intro u' session' hsession' _
          rw [hsessions, UnorderedMap.find_erase] at hsession'
          split_ifs at hsession'
          exact ⟨session', hsession', rfl, rfl⟩
        · intro k u' info error _ hclient
          rw [hsessions, UnorderedMap.find_erase] at hclient
          split_ifs at hclient
          · exact absurd rfl hclient
          · exact hclient
  exact ⟨habsorbed.located, habsorbed.sessions, habsorbed.spawns⟩

/-- The response to a spawn is heard: what follows it leads on from the sector of the spawn. -/
theorem enter (h : Traced site s place) (hregistered : Registered site s) {index source u : Nat}
    {info : ObjectInfo} {error : ErrorCode}
    (hhead : firstOf s.notices index = some (source, .spawnCharacterRs u (some info) error))
    (now : Milliseconds) :
    Traced site (({ s with notices := s.notices.eraseIdx index } : Network).absorb
      (s.agency.onPlaySpawnCharacterRes source u info now)) place := by
  have hmem := mem_of_firstOf hhead
  have hspawned : (u, info.objectId) ∈ s.spawned := by
    obtain ⟨info', heq, hspawned, _⟩ := hregistered.spawnResponses _ _ _ _ hmem
    cases heq
    exact hspawned
  -- the object of another client is another one
  have hother : ∀ u' o, (u', o) ∈ s.spawned → u' ≠ u →
      announces o (.spawnCharacterRs u (some info) error) = false := by
    intro u' o hspawned' hu
    have ho : info.objectId ≠ o := by
      rintro rfl
      exact hu (hregistered.user_unique hspawned' hspawned)
    simp [announces, ho]
  have hresponse : ∀ k u' info' error',
      (k, Notice.spawnCharacterRs u' (some info') error') ∈ s.notices →
        (u', info'.objectId) ∈ s.spawned := by
    intro k u' info' error' hmem'
    obtain ⟨_, heq, hspawned', _⟩ := hregistered.spawnResponses _ _ _ _ hmem'
    cases heq
    exact hspawned'
  obtain ⟨_, hcases⟩ := AgencyWorker.onPlaySpawnCharacterRes_spec (s := s.agency) source u info now
  rcases hcases with ⟨hnone, hsame, _⟩ | ⟨hactive, hsessions, _, _, _⟩
  · -- the client has gone
    have hne : ∀ u', s.agency.activeSessions.find u' ≠ none → u' ≠ u := by
      rintro u' hclient rfl
      exact hclient hnone
    refine (h.take hhead ?_ ?_).absorb_same hsame
    · intro u' session hsession hzero
      obtain ⟨_, hspawned', _⟩ := hregistered.sessions u' session hsession hzero
      exact hother u' _ hspawned' (hne u' (by rw [hsession]; simp))
    · intro k u' info' error' hmem' hclient
      exact hother u' _ (hresponse k u' info' error' hmem') (hne u' hclient)
  obtain ⟨rest, hrest, hleads⟩ := h.spawns source u info error hmem hactive
  have hself : announces info.objectId (.spawnCharacterRs u (some info) error) = true := by
    simp [announces]
  obtain ⟨hbefore, hafter⟩ := announcementsOf_taken hhead hself
  -- nothing about the object has been posted before the response
  have hfirst : announcementsOf info.objectId (s.notices.eraseIdx index) = rest := by
    rw [hbefore] at hrest
    rw [hafter]
    cases hearly : announcementsOf info.objectId (s.notices.take index) with
    | nil =>
        rw [hearly] at hrest
        exact (List.cons.inj hrest).2
    | cons n early =>
        rw [hearly] at hrest
        have htail := (List.cons.inj hrest).2
        refine absurd ?_ (hleads.not_mem_spawn u (some info) error)
        rw [← htail]
        exact List.mem_append_right _ List.mem_cons_self
  let r := s.agency.onPlaySpawnCharacterRes source u info now
  refine ⟨h.located, fun u' session hsession hne => ?_, fun k u' info' error' hmem' hclient => ?_⟩
  · change r.agency.activeSessions.find u' = some session at hsession
    rw [hsessions, UnorderedMap.find_insert] at hsession
    change Leads _ (announcementsOf _ (s.notices.eraseIdx index)) _
    split_ifs at hsession with hu
    · cases hsession
      change Leads info.sectorId (announcementsOf info.objectId _) (place info.objectId)
      rw [hfirst]
      exact hleads
    · obtain ⟨_, hspawned', _⟩ := hregistered.sessions u' session hsession hne
      rw [announcementsOf_other hhead (hother u' _ hspawned' hu)]
      exact h.sessions u' session hsession hne
  · change r.agency.activeSessions.find u' ≠ none at hclient
    rw [hsessions, UnorderedMap.find_insert] at hclient
    change ∃ rest, announcementsOf _ (s.notices.eraseIdx index) = _ ∧ _
    have hmem'' := (List.eraseIdx_sublist s.notices index).subset hmem'
    have hspawned' := hresponse k u' info' error' hmem''
    by_cases hu : u' = u
    · -- the client has been answered
      subst hu
      have ho := hregistered.object_unique hspawned hspawned'
      refine absurd ?_ (hleads.not_mem_spawn u' (some info') error')
      rw [← hfirst, mem_announcementsOf]
      exact ⟨⟨k, hmem'⟩, by simp [announces, ho]⟩
    · rw [if_neg hu] at hclient
      rw [announcementsOf_other hhead (hother u' _ hspawned' hu)]
      exact h.spawns k u' info' error' hmem'' hclient

/-- A promotion is heard, in order and with its object in the cache: the assertion holds. -/
theorem follow (h : Traced site s place) (hregistered : Registered site s) {index source origin : Nat}
    {info : ObjectInfo} (hhead : firstOf s.notices index = some (source, .promoteObjectRq origin info))
    (hinOrder : s.Awaits info.objectId →
      (∀ n ∈ s.notices.take index, announces info.objectId n.2 = false) ∧
        (s.agency.objectCache origin).find info.objectId ≠ none) (now : Milliseconds) :
    (s.agency.onPlayPromoteObjectReq origin info now).fault = none ∧
      Traced site (({ s with notices := s.notices.eraseIdx index } : Network).absorb
        (s.agency.onPlayPromoteObjectReq origin info now)) place := by
  have hother : ∀ o, o ≠ info.objectId → announces o (.promoteObjectRq origin info) = false := by
    intro o ho
    simp [announces, ho.symm]
  by_cases hawaits : s.Awaits info.objectId
  · obtain ⟨hearly, hcached⟩ := hinOrder hawaits
    have hself : announces info.objectId (.promoteObjectRq origin info) = true := by
      simp [announces]
    obtain ⟨hbefore, hafter⟩ := announcementsOf_taken hhead hself
    rw [announcementsOf_eq_nil hearly, List.nil_append] at hbefore hafter
    -- a response to the spawn would stand before the promotion
    have hresponse : ∀ k u info' error,
        (k, Notice.spawnCharacterRs u (some info') error) ∈ s.notices →
          s.agency.activeSessions.find u ≠ none → info'.objectId ≠ info.objectId := by
      intro k u info' error hmem hclient heq
      obtain ⟨rest, hrest, _⟩ := h.spawns k u info' error hmem hclient
      rw [heq, hbefore] at hrest
      cases hrest
    obtain ⟨u, hclient⟩ : ∃ u, s.agency.objectSessions.find info.objectId = some u := by
      refine hawaits.resolve_right ?_
      rintro ⟨k, u, info', error, hmem, heq, hclient⟩
      exact hresponse k u info' error hmem hclient heq
    obtain ⟨hne, session, hsession, hobject⟩ := hregistered.objects _ u hclient
    have hleads := h.sessions u session hsession (hobject ▸ hne)
    rw [hobject, hbefore] at hleads
    obtain ⟨hsector, hrest⟩ : session.sectorId = origin ∧ Leads info.sectorId
        (announcementsOf info.objectId (s.notices.drop (index + 1))) (place info.objectId) := by
      generalize hx : session.sectorId = x at hleads
      cases hleads with
      | promoted hrest =>
          exact ⟨hx ▸ rfl, hrest⟩
    obtain ⟨_, _, _, k, hk⟩ := hregistered.sessions u session hsession (hobject ▸ hne)
    have hlinked := fun {k x : Nat} (hx : x ∈ site.deployment.sectorsOf k) =>
      (hregistered.wired.getSectorOwnerSession hregistered.apart hx).2
    have hx := (hregistered.promotions _ _ _ (mem_of_firstOf hhead)).2
    obtain ⟨hfault, hsessions, _, _, _⟩ := AgencyWorker.onPlayPromoteObjectReq_spec
      (s := s.agency) now (by rw [hlinked hx]; simp) (by rw [← hsector, hlinked hk]; simp) hcached
      hclient hsession hsector
    let r := s.agency.onPlayPromoteObjectReq origin info now
    refine ⟨hfault, h.located, fun u' session' hsession' hne' => ?_,
      fun k' u' info' error hmem hclient' => ?_⟩
    · change r.agency.activeSessions.find u' = some session' at hsession'
      rw [hsessions, UnorderedMap.find_insert] at hsession'
      change Leads _ (announcementsOf _ (s.notices.eraseIdx index)) _
      split_ifs at hsession' with hu
      · cases hsession'
        change Leads info.sectorId (announcementsOf session.objectId _) (place session.objectId)
        rw [hobject, hafter]
        exact hrest
      · obtain ⟨_, hmem, _⟩ := hregistered.sessions u' session' hsession' hne'
        obtain ⟨_, hmem₀, _⟩ := hregistered.sessions u session hsession (hobject ▸ hne)
        have ho : session'.objectId ≠ info.objectId := by
          intro heq
          rw [heq, ← hobject] at hmem
          exact hu (hregistered.user_unique hmem hmem₀)
        rw [announcementsOf_other hhead (hother _ ho)]
        exact h.sessions u' session' hsession' hne'
    · have hmem' := (List.eraseIdx_sublist s.notices index).subset hmem
      have hclient'' : s.agency.activeSessions.find u' ≠ none := by
        change r.agency.activeSessions.find u' ≠ none at hclient'
        rw [hsessions, UnorderedMap.find_insert] at hclient'
        split_ifs at hclient' with hu
        · rw [hu, hsession]
          simp
        · exact hclient'
      change ∃ rest, announcementsOf _ (s.notices.eraseIdx index) = _ ∧ _
      rw [announcementsOf_other hhead (hother _ (hresponse k' u' info' error hmem' hclient''))]
      exact h.spawns k' u' info' error hmem' hclient''
  · -- the object has no client
    have hclient : s.agency.objectSessions.find info.objectId = none := by
      by_contra hsome
      exact hawaits (.inl (Option.ne_none_iff_exists'.1 hsome))
    obtain ⟨hsame, hfault, _⟩ :
        SameClients s.agency (s.agency.onPlayPromoteObjectReq origin info now).agency ∧ _ ∧ _ :=
      AgencyWorker.onPlayPromoteObjectReq_of_none hclient now
    refine ⟨hfault, (h.take hhead ?_ ?_).absorb_same hsame⟩
    · intro u session hsession hne
      refine hother _ fun heq => hawaits (.inl ⟨u, ?_⟩)
      rw [← heq]
      exact (hregistered.sessions u session hsession hne).2.2.1
    · intro k u info' error hmem hactive
      exact hother _ fun heq => hawaits (.inr ⟨k, u, info', error, hmem, heq, hactive⟩)

/-- A notice is heard. -/
theorem hear (h : Traced site s place) (hregistered : Registered site s)
    (hrunning : s.fault = none) {index : Nat} {now : Milliseconds} {unset : ObjectInfo}
    (hinOrder : HearsInOrder s (.hear index now unset)) :
    (s.next site (.hear index now unset)).fault = none ∧
      Traced site (s.next site (.hear index now unset)) place := by
  cases hhead : firstOf s.notices index with
  | none =>
      simp only [Network.next, hhead]
      exact ⟨hrunning, h⟩
  | some e =>
      obtain ⟨source, notice⟩ := e
      simp only [Network.next, hhead]
      cases hnotice : isAnnouncement notice with
      | false =>
          obtain ⟨hsame, hfault, _⟩ := AgencyWorker.sameClients_onIntraServerData
            hregistered.objectsActive source hnotice unset now
          refine ⟨hfault, (h.take hhead ?_ ?_).absorb_same hsame⟩
          · intro u session _ _
            exact announces_of_silent hnotice _
          · intro k u info error _ _
            exact announces_of_silent hnotice _
      | true =>
          cases notice with
          | spawnCharacterRs u info error =>
              obtain ⟨info', rfl, _⟩ :=
                hregistered.spawnResponses _ _ _ _ (mem_of_firstOf hhead)
              refine ⟨?_, h.enter hregistered hhead now⟩
              exact (AgencyWorker.onPlaySpawnCharacterRes_spec (s := s.agency) source u info' now).1
          | promoteObjectRq origin info =>
              exact h.follow hregistered hhead (hinOrder source origin info hhead) now
          | _ =>
              cases hnotice

/-- A request reaches its server. -/
theorem serve (h : Traced site s place) (hregistered : Registered site s) {index : Nat}
    {now : Milliseconds} (henabled : s.Enabled (.serve index now))
    (hdistinct : Distinct site s (.serve index now)) :
    ∃ place', Traced site (s.next site (.serve index now)) place' := by
  obtain ⟨k, packet, hhead, hrunning⟩ := henabled
  have hstep : ∀ e, s.cluster.actor e = some k →
      (Cluster.machine site.deployment).step s.cluster e (s.cluster.next site.deployment e) :=
    fun e hactor => ⟨⟨k, hactor, hrunning⟩, rfl⟩
  simp only [Network.next, hhead]
  cases packet with
  | spawnCharacterRq packet =>
      have hfresh : s.cluster.assignsFreshId (.spawn k site.agencyId packet now) :=
        fun o ho => (hdistinct k packet o hhead ho).1
      exact h.spawn hregistered hhead hfresh (hstep _ rfl)
  | characterMoveRq packet =>
      obtain ⟨place', htraced⟩ := h.play hregistered (fun _ _ _ _ heq => by cases heq)
        (hstep (.move k site.agencyId packet) rfl)
      exact ⟨place', htraced.located, htraced.sessions, htraced.spawns⟩
  | removeCharacterRq packet =>
      obtain ⟨place', htraced⟩ := h.play hregistered (fun _ _ _ _ heq => by cases heq)
        (hstep (.remove k site.agencyId packet) rfl)
      exact ⟨place', htraced.located, htraced.sessions, htraced.spawns⟩
  | removeCharacterRs u x o =>
      exact ⟨place, h.located, h.sessions, h.spawns⟩

/-- As long as promotions are heard in order, the agency runs and its clients are traced. -/
theorem next (h : Traced site s place) (hregistered : Registered site s) (hrunning : s.fault = none)
    {e : NetworkEvent} (henabled : s.Enabled e) (hdistinct : Distinct site s e)
    (hinOrder : HearsInOrder s e) :
    (s.next site e).fault = none ∧ ∃ place', Traced site (s.next site e) place' := by
  cases e with
  | accept =>
      obtain ⟨_, _, hfault, _⟩ := s.agency.accept_spec
      exact ⟨hfault, place, h.accept hregistered hdistinct⟩
  | close u toOwner =>
      refine ⟨?_, place, h.close u toOwner⟩
      -- a client that is not there is closed without a word, and so is one that is
      change (s.agency.close u toOwner).fault = none
      cases hsession : s.agency.activeSessions.find u with
      | none =>
          rw [AgencyWorker.close_of_none hsession]
      | some session =>
          exact (AgencyWorker.close_spec hsession toOwner).2.1
  | move u position direction =>
      obtain ⟨hagency, hfault, _⟩ := s.agency.onClientData_spec u position direction
      refine ⟨hfault, place, h.absorb_same ?_⟩
      rw [hagency]
      exact ⟨rfl, rfl, rfl⟩
  -- a play server serves a request, and the agency itself has heard nothing
  | serve index now =>
      refine ⟨?_, h.serve hregistered henabled hdistinct⟩
      obtain ⟨k, packet, hhead, _⟩ := henabled
      simp only [Network.next, hhead]
      cases packet with
      | _ =>
          exact hrunning
  | hear index now unset =>
      obtain ⟨hfault, htraced⟩ := h.hear hregistered hrunning hinOrder
      exact ⟨hfault, place, htraced⟩
  | play e =>
      refine ⟨hrunning, h.play hregistered ?_ ⟨henabled.2, rfl⟩⟩
      rintro k agency packet now rfl
      exact henabled.1

end Traced

/-! ## Objects of clients are kept -/

/-- No play server loses an object. -/
def LosesNone (s : Network) : NetworkEvent → Prop
  | .play e => s.cluster.losesNone e
  | _ => True

/-- Only objects of clients that have gone are removed; all others are kept. -/
structure Spared (site : Site) (s : Network) : Prop where
  kept : ∀ o, o ∉ s.dismissed → Kept (s.cluster.view site.deployment o)
  removals : ∀ k packet, (k, .removeCharacterRq packet) ∈ s.requests →
    packet.objectId ∈ s.dismissed
  dismissed : ∀ o ∈ s.dismissed, ∃ u, (u, o) ∈ s.spawned ∧ s.agency.activeSessions.find u = none

/-- Whatever is heard, no client comes back, and no removal is asked for. -/
theorem AgencyWorker.gone_onIntraServerData {s : AgencyWorker} (hactive : ObjectsActive s)
    (source : Nat) (notice : Notice) (unset : ObjectInfo) (now : Milliseconds) :
    (∀ u, s.activeSessions.find u = none →
        (s.onIntraServerData source (.ofNotice unset notice) now).agency.activeSessions.find u =
          none) ∧
      ∀ k packet, (k, AgencyPacket.removeCharacterRq packet) ∉
        (s.onIntraServerData source (.ofNotice unset notice) now).requests := by
  have hsame : ∀ {r : AgencyOutcome} {requests : List (Nat × AgencyPacket)},
      SameClients s r.agency → r.requests = requests →
        (∀ k packet, (k, AgencyPacket.removeCharacterRq packet) ∉ requests) →
          (∀ u, s.activeSessions.find u = none → r.agency.activeSessions.find u = none) ∧
            ∀ k packet, (k, AgencyPacket.removeCharacterRq packet) ∉ r.requests := by
    rintro r _ hclients rfl hnone
    rw [hclients.sessions]
    exact ⟨fun u => id, hnone⟩
  have hinsert : ∀ {r : AgencyOutcome} {u : Nat} {session : SessionValues},
      s.activeSessions.find u ≠ none → r.agency.activeSessions = s.activeSessions.insert u session →
        r.requests = [] →
          (∀ u, s.activeSessions.find u = none → r.agency.activeSessions.find u = none) ∧
            ∀ k packet, (k, AgencyPacket.removeCharacterRq packet) ∉ r.requests := by
    intro r u session hclient hsessions hrequests
    rw [hsessions, hrequests]
    refine ⟨fun u' hnone => ?_, fun k packet => List.not_mem_nil⟩
    have hu : u' ≠ u := by
      rintro rfl
      exact hclient hnone
    rw [UnorderedMap.find_insert_of_ne _ hu]
    exact hnone
  cases hnotice : isAnnouncement notice with
  | false =>
      obtain ⟨hclients, _, hrequests⟩ := sameClients_onIntraServerData hactive source hnotice unset now
      exact hsame hclients hrequests fun k packet => List.not_mem_nil
  | true =>
      cases notice with
      | spawnCharacterRs u info error =>
          obtain ⟨_, hcases⟩ := onPlaySpawnCharacterRes_spec (s := s) source u (info.getD unset) now
          -- the late response is answered with a response
          rcases hcases with ⟨_, hclients, hrequests⟩ | ⟨hclient, hsessions, _, _, hrequests⟩
          · refine hsame hclients hrequests fun k packet hmem => ?_
            cases List.mem_singleton.1 hmem
          · exact hinsert hclient hsessions hrequests
      | promoteObjectRq origin info =>
          rcases onPlayPromoteObjectReq_cases hactive origin info now with
            ⟨hclients, hrequests⟩ | ⟨u, session, _, hsession, hsessions, _, _, hrequests⟩
          · exact hsame hclients hrequests fun k packet => List.not_mem_nil
          · exact hinsert (by rw [hsession]; simp) hsessions hrequests
      | _ =>
          cases hnotice

namespace Spared

variable {site : Site} {s : Network}

theorem new (site : Site) : Spared site (Network.new site) where
  kept := fun o _ => Cluster.kept_new site.deployment o
  removals := fun k packet hmem => by cases hmem
  dismissed := fun o ho => by cases ho

/-- A handler of the agency after which no client is new, and that asks for no removal. -/
theorem absorb (h : Spared site s) {r : AgencyOutcome}
    (hactive : ∀ u o, (u, o) ∈ s.spawned → s.agency.activeSessions.find u = none →
      r.agency.activeSessions.find u = none)
    (hrequests : ∀ k packet, (k, AgencyPacket.removeCharacterRq packet) ∉ r.requests) :
    Spared site (s.absorb r) where
  kept := h.kept
  removals := by
    intro k packet hmem
    rcases List.mem_append.1 hmem with hmem | hmem
    · exact h.removals k packet hmem
    · exact absurd hmem (hrequests k packet)
  dismissed := by
    intro o ho
    obtain ⟨u, hspawned, hnone⟩ := h.dismissed o ho
    exact ⟨u, hspawned, hactive u o hspawned hnone⟩

/-- A handler of the agency that leaves the clients alone. -/
theorem absorb_same (h : Spared site s) {r : AgencyOutcome} (hsame : SameClients s.agency r.agency)
    (hrequests : ∀ k packet, (k, AgencyPacket.removeCharacterRq packet) ∉ r.requests) :
    Spared site (s.absorb r) := by
  refine h.absorb (fun u o _ hnone => ?_) hrequests
  rw [hsame.sessions]
  exact hnone

/-- Messages are taken from their channels. -/
theorem take (h : Spared site s) {requests : List (Nat × AgencyPacket)}
    (hrequests : requests ⊆ s.requests) (notices : List (Nat × Notice)) :
    Spared site { s with requests := requests, notices := notices } where
  kept := h.kept
  removals := fun k packet hmem => h.removals k packet (hrequests hmem)
  dismissed := h.dismissed

/-- An event of the cluster that gives no id twice and removes only what is to be removed. -/
theorem play (h : Spared site s) (hregistered : Registered site s) (hD : site.deployment.Complete)
    {e : Event} (hfresh : s.cluster.assignsFreshId e)
    (hremoves : ∀ k agency packet, e = .remove k agency packet → packet.objectId ∈ s.dismissed)
    (hlosesNone : s.cluster.losesNone e)
    (hstep : (Cluster.machine site.deployment).step s.cluster e
      (s.cluster.next site.deployment e)) : Spared site (s.play site e) where
  kept := by
    intro o ho
    have hsound := (Cluster.holding_singleOwner hregistered.reachable).sound
    refine Cluster.kept_next hD hsound (h.kept o ho) ⟨hfresh, ?_⟩ hlosesNone hstep
    rintro k agency packet heq rfl
    exact ho (hremoves k agency packet heq)
  removals := h.removals
  dismissed := by
    intro o ho
    obtain ⟨u, hspawned, hnone⟩ := h.dismissed o ho
    exact ⟨u, List.mem_append_left _ hspawned, hnone⟩

/-- A client comes; it is none that has gone. -/
theorem accept (h : Spared site s) (hregistered : Registered site s)
    (hdistinct : Distinct site s .accept) : Spared site (s.next site .accept) := by
  obtain ⟨hsessions, _, _, hcases⟩ := s.agency.accept_spec
  have habsorbed : Spared site (s.absorb s.agency.accept) := by
    refine h.absorb ?_ ?_
    · intro u o hspawned hnone
      have hu : u ≠ s.agency.currentUniversalSessionId := by
        rintro rfl
        refine hdistinct.1 (hregistered.users _ (List.mem_append_right _ ?_))
        exact List.mem_map.2 ⟨_, hspawned, rfl⟩
      rw [hsessions, UnorderedMap.find_insert_of_ne _ hu]
      exact hnone
    · intro k packet hmem
      rcases hcases with ⟨_, _, hnil⟩ | ⟨_, _, hone⟩
      · rw [hnil] at hmem
        cases hmem
      · rw [hone] at hmem
        cases List.mem_singleton.1 hmem
  exact ⟨habsorbed.kept, habsorbed.removals, habsorbed.dismissed⟩

/-- A client goes, and its object is to be removed. -/
theorem close (h : Spared site s) (hregistered : Registered site s) (u : Nat) (toOwner : Bool) :
    Spared site (s.next site (.close u toOwner)) := by
  let r := s.agency.close u toOwner
  cases hsession : s.agency.activeSessions.find u with
  | none =>
      have hnext : s.next site (.close u toOwner) = s.absorb { agency := s.agency } := by
        simp only [Network.next, Network.absorb, AgencyWorker.dismisses, hsession,
          AgencyWorker.close_of_none hsession]
        simp
      rw [hnext]
      exact h.absorb_same ⟨rfl, rfl, rfl⟩ fun k packet hmem => by cases hmem
  | some session =>
      obtain ⟨hsessions, _, hcases⟩ := AgencyWorker.close_spec hsession toOwner
      have hdismisses : s.agency.dismisses u = [session.objectId].filter (· ≠ 0) := by
        simp [AgencyWorker.dismisses, hsession]
      exact {
        kept := fun o ho => h.kept o fun hmem => ho (List.mem_append_left _ hmem)
        removals := by
          intro k packet hmem
          rcases List.mem_append.1 hmem with hmem | hmem
          · exact List.mem_append_left _ (h.removals k packet hmem)
          · refine List.mem_append_right _ ?_
            change (k, _) ∈ r.requests at hmem
            -- the close asks at most for the object of this client, which it dismisses
            rcases hcases with ⟨_, _, _, hnil⟩ | ⟨hne, _, _, hmap⟩
            · rw [hnil] at hmem
              cases hmem
            · rw [hmap] at hmem
              obtain ⟨_, _, heq⟩ := List.mem_map.1 hmem
              cases heq
              rw [hdismisses]
              simp [AgencyWorker.removeRequest, hne]
        dismissed := by
          intro o ho
          change ∃ u', _ ∧ r.agency.activeSessions.find u' = none
          simp only [r, hsessions, UnorderedMap.find_erase]
          rcases List.mem_append.1 ho with ho | ho
          · obtain ⟨u', hspawned, hnone⟩ := h.dismissed o ho
            refine ⟨u', hspawned, ?_⟩
            split_ifs
            · rfl
            · exact hnone
          · rw [hdismisses, List.mem_filter, List.mem_singleton] at ho
            obtain ⟨rfl, hne⟩ := ho
            refine ⟨u, (hregistered.sessions u session hsession (by simpa using hne)).2.1, ?_⟩
            exact if_pos rfl }

/-- A client moves. -/
theorem move (h : Spared site s) (u : Nat) (position : Vector2) (direction : Direction) :
    Spared site (s.next site (.move u position direction)) := by
  obtain ⟨hagency, _, hrequests⟩ := s.agency.onClientData_spec u position direction
  refine h.absorb_same ?_ ?_
  · rw [hagency]
    exact ⟨rfl, rfl, rfl⟩
  · intro k packet hmem
    obtain ⟨_, heq⟩ := hrequests k _ hmem
    cases heq

/-- A notice is heard: a client that has gone does not come back. -/
theorem hear (h : Spared site s) (hregistered : Registered site s) (index : Nat) (now : Milliseconds)
    (unset : ObjectInfo) : Spared site (s.next site (.hear index now unset)) := by
  cases hhead : firstOf s.notices index with
  | none =>
      simp only [Network.next, hhead]
      exact h
  | some e =>
      obtain ⟨source, notice⟩ := e
      obtain ⟨hgone, hrequests⟩ := AgencyWorker.gone_onIntraServerData hregistered.objectsActive
        source notice unset now
      simp only [Network.next, hhead]
      exact (h.take (List.Subset.refl _) _).absorb (fun u _ _ => hgone u) hrequests

/-- A request reaches its server. -/
theorem serve (h : Spared site s) (hregistered : Registered site s) (hD : site.deployment.Complete)
    {index : Nat} {now : Milliseconds} (henabled : s.Enabled (.serve index now))
    (hdistinct : Distinct site s (.serve index now)) :
    Spared site (s.next site (.serve index now)) := by
  obtain ⟨k, packet, hhead, hrunning⟩ := henabled
  have hsub := (List.eraseIdx_sublist s.requests index).subset
  have hstep : ∀ e, s.cluster.actor e = some k →
      (Cluster.machine site.deployment).step s.cluster e (s.cluster.next site.deployment e) :=
    fun e hactor => ⟨⟨k, hactor, hrunning⟩, rfl⟩
  simp only [Network.next, hhead]
  cases packet with
  | spawnCharacterRq packet =>
      have hfresh : s.cluster.assignsFreshId (.spawn k site.agencyId packet now) :=
        fun o ho => (hdistinct k packet o hhead ho).1
      have hplayed := h.play hregistered hD hfresh (fun _ _ _ heq => by cases heq) trivial
        (hstep _ rfl)
      exact hplayed.take hsub _
  | characterMoveRq packet =>
      have hplayed := h.play (e := .move k site.agencyId packet) hregistered hD trivial
        (fun _ _ _ heq => by cases heq) trivial (hstep _ rfl)
      exact hplayed.take hsub _
  | removeCharacterRq packet =>
      -- only clients that have gone are to be removed
      have hdismissed := h.removals k packet (mem_of_firstOf hhead)
      have hplayed := h.play (e := .remove k site.agencyId packet) hregistered hD trivial
        (by rintro _ _ _ ⟨⟩; exact hdismissed) trivial (hstep _ rfl)
      exact hplayed.take hsub _
  | removeCharacterRs u x o =>
      exact h.take hsub _

theorem next (h : Spared site s) (hregistered : Registered site s) (hD : site.deployment.Complete)
    {e : NetworkEvent} (henabled : s.Enabled e) (hdistinct : Distinct site s e)
    (hlosesNone : LosesNone s e) : Spared site (s.next site e) := by
  cases e with
  | accept =>
      exact h.accept hregistered hdistinct
  | close u toOwner =>
      exact h.close hregistered u toOwner
  | move u position direction =>
      exact h.move u position direction
  | serve index now =>
      exact h.serve hregistered hD henabled hdistinct
  | hear index now unset =>
      exact h.hear hregistered index now unset
  | play e =>
      have hspawn : ∀ k agency packet now, e ≠ .spawn k agency packet now := by
        rintro k agency packet now rfl
        exact henabled.1
      refine h.play hregistered hD (assignsFreshId_of_ne hspawn) ?_ hlosesNone ⟨henabled.2, rfl⟩
      rintro k agency packet rfl
      exact henabled.1.elim

end Spared

/-! ## Where the objects of clients are -/

section Known

variable {site : Site} {s : Network}

/-- The sector that is stored for a client is the one where its object has its owner. -/
def SectorsKnown (s : Network) : Prop :=
  ∀ u session, s.agency.activeSessions.find u = some session → session.objectId ≠ 0 →
    ∃ k, s.cluster.owners session.objectId = {(k, session.sectorId)}

/-- The conditions under which the agency knows where the objects of its clients are. -/
def Orderly (site : Site) (s : Network) (e : NetworkEvent) : Prop :=
  Distinct site s e ∧ HearsInOrder s e ∧ LosesNone s e

theorem traced_of_reachable (hD : site.deployment.Complete)
    (h : ((Network.machine site).restrict (Orderly site)).Reachable s) :
    Registered site s ∧ s.fault = none ∧ (∃ place, Traced site s place) ∧ Spared site s := by
  refine Machine.Reachable.invariant (M := (Network.machine site).restrict (Orderly site))
    (P := fun s => Registered site s ∧ s.fault = none ∧ (∃ place, Traced site s place) ∧
      Spared site s) ?_ ?_ h
  · rintro s rfl
    exact ⟨.new site, rfl, ⟨_, .new site⟩, .new site⟩
  · rintro s e s' ⟨hregistered, hrunning, ⟨place, htraced⟩, hspared⟩
      ⟨⟨hdistinct, hinOrder, hlosesNone⟩, henabled, rfl⟩
    obtain ⟨hfault, htraced'⟩ := htraced.next hregistered hrunning henabled hdistinct hinOrder
    exact ⟨hregistered.next henabled hdistinct, hfault, htraced',
      hspared.next hregistered hD henabled hdistinct hlosesNone⟩

/-- In every run in which no id is given twice, promotions of clients' objects are heard in order and
no object is lost, no assertion of the agency fails, and when no message is in flight the sector that
is stored for a client is the one where its object has its owner. -/
theorem sector_known (hD : site.deployment.Complete)
    (h : ((Network.machine site).restrict (Orderly site)).Reachable s) :
    s.fault = none ∧ (s.Quiet → SectorsKnown s) := by
  obtain ⟨hregistered, hrunning, ⟨place, htraced⟩, hspared⟩ := traced_of_reachable hD h
  refine ⟨hrunning, fun hquiet u session hsession hne => ?_⟩
  obtain ⟨_, hspawned, _⟩ := hregistered.sessions u session hsession hne
  have hsound := (Cluster.holding_singleOwner hregistered.reachable).sound
  -- nothing is left to be heard
  have hplace : place session.objectId = session.sectorId := by
    have hleads := htraced.sessions u session hsession hne
    rw [hquiet.notices] at hleads
    generalize place session.objectId = y at hleads
    cases hleads
    rfl
  -- the object is kept, and no promotion of it is under way
  have hkept : Kept (s.cluster.view site.deployment session.objectId) := by
    refine hspared.kept _ fun ho => ?_
    obtain ⟨u', hspawned', hnone⟩ := hspared.dismissed _ ho
    rw [← hregistered.user_unique hspawned hspawned', hsession] at hnone
    cases hnone
  have hissued : (s.cluster.view site.deployment session.objectId).issued = true := by
    simpa [Cluster.view] using (hregistered.issued u _ hspawned).1
  obtain ⟨x, hx⟩ : ∃ x,
      isOwner ((s.cluster.view site.deployment session.objectId).copies x) = true := by
    refine (hkept.present hissued).resolve_right ?_
    rintro ⟨q, hq, _⟩
    simp [Cluster.view, Cluster.packetsAbout, hquiet.flight] at hq
  have howner : ∀ {y}, isOwner
      ((s.cluster.view site.deployment session.objectId).copies y) = true → y = session.sectorId :=
    fun hy => ((htraced.located _).owner _ hy).trans hplace
  obtain rfl := howner hx
  obtain ⟨_, _, _, k, hk⟩ := hregistered.sessions u session hsession hne
  refine ⟨k, Set.eq_singleton_iff_unique_mem.2 ⟨hsound.mem_owners.2 ⟨hk, hx⟩, ?_⟩⟩
  rintro ⟨k', y⟩ hmem
  obtain ⟨hk', hy⟩ := hsound.mem_owners.1 hmem
  obtain rfl := howner hy
  have hserver := (site.deployment.mem_sectorsOf.1 hk').2
  rw [(site.deployment.mem_sectorsOf.1 hk).2] at hserver
  cases hserver
  rfl

end Known

/-! ## Samples -/

/-- A step that spawns nothing and loses no object. -/
def Network.steady (s : Network) : NetworkEvent → Bool
  | .move _ _ _ => s.fault.isNone
  | .serve index _ =>
      match firstOf s.requests index with
      | some (k, .characterMoveRq _) => (s.cluster.halted k).isNone
      | _ => false
  | .hear index _ _ => s.fault.isNone && (firstOf s.notices index).isSome
  | .play (.update k clock) =>
      (s.cluster.halted k).isNone && ((s.cluster.worlds k).update clock).fault.isNone
  | .play (.deliver index _) =>
      match s.cluster.channelHead index with
      | some e => (s.cluster.halted e.target).isNone && (!e.packet.isPromote ||
          (s.cluster.fixtureAt e.target e.packet.sectorId e.packet.objectId).isSome)
      | none => false
  | _ => false

/-- A promotion is heard as the first announcement of its object, which is in the cache. -/
def Network.hearsFirst (s : Network) : NetworkEvent → Bool
  | .hear index _ _ =>
      match firstOf s.notices index with
      | some (_, .promoteObjectRq origin info) =>
          ((s.notices.take index).all fun n => !announces info.objectId n.2) &&
            ((s.agency.objectCache origin).find info.objectId).isSome
      | _ => true
  | _ => true

theorem hearsInOrder_of_hearsFirst {s : Network} {e : NetworkEvent} (h : s.hearsFirst e = true) :
    HearsInOrder s e := by
  cases e with
  | hear index now unset =>
      intro source origin info hhead _
      simp only [Network.hearsFirst, hhead, Bool.and_eq_true, List.all_eq_true,
        Bool.not_eq_true'] at h
      exact ⟨h.1, Option.isSome_iff_ne_none.1 h.2⟩
  | _ =>
      exact trivial

theorem step_of_steady {site : Site} {s : Network} {e : NetworkEvent} (h : s.steady e = true) :
    ((Network.machine site).restrict fun s e => Distinct site s e ∧ LosesNone s e).step s e
      (s.next site e) := by
  cases e with
  -- in a steady run nobody comes or goes
  | accept | close =>
      cases h
  | move u position direction =>
      exact ⟨⟨trivial, trivial⟩, Option.isNone_iff_eq_none.1 h, rfl⟩
  | serve index now =>
      simp only [Network.steady] at h
      split at h
      next k packet hhead =>
        exact ⟨⟨distinct_other hhead (fun _ heq => by cases heq) now, trivial⟩,
          ⟨k, _, hhead, Option.isNone_iff_eq_none.1 h⟩, rfl⟩
      next =>
        cases h
  | hear index now unset =>
      simp only [Network.steady, Bool.and_eq_true, Option.isNone_iff_eq_none] at h
      exact ⟨⟨trivial, trivial⟩, ⟨h.1, Option.isSome_iff_exists.1 h.2⟩, rfl⟩
  | play e =>
      cases e with
      | update k clock =>
          simp only [Network.steady, Bool.and_eq_true, Option.isNone_iff_eq_none] at h
          refine ⟨⟨trivial, ?_⟩, ⟨trivial, k, rfl, h.1⟩, rfl⟩
          change ((s.cluster.worlds k).update clock).fault ≠ some .noDestination
          rw [h.2]
          exact fun heq => by cases heq
      | deliver index now =>
          simp only [Network.steady] at h
          split at h
          -- a promotion finds its copy
          next e hhead =>
            simp only [Bool.and_eq_true, Bool.or_eq_true, Bool.not_eq_true',
              Option.isNone_iff_eq_none] at h
            refine ⟨⟨trivial, ?_⟩, ⟨trivial, e.target, ?_, h.1⟩, rfl⟩
            · intro e' hhead' hpromote
              rw [hhead] at hhead'
              cases hhead'
              rcases h.2 with hnot | hcopy
              · rw [hpromote] at hnot
                cases hnot
              · exact Option.isSome_iff_ne_none.1 hcopy
            · simp [Cluster.actor, hhead]
          next =>
            cases h
      | _ =>
          cases h

/-- The object of the first client goes from sector 12 to sector 13 and on to sector 8, whose server
announces it before the agency has heard of sector 13. -/
def journeyEvents : List NetworkEvent :=
  [.hear 0 0 unfilled, .move firstClient ⟨7500, 4000⟩ .Max, .serve 0 0,
    .play (.update 2 ⟨1000, 0, 1000, fun _ _ => 1000⟩)] ++
  List.replicate 4 (.play (.deliver 0 1000)) ++
  [.move firstClient ⟨7500, 7500⟩ .Max, .serve 0 1000] ++
  List.replicate 4 (.play (.deliver 0 1000)) ++
  [.play (.update 3 ⟨2000, 0, 2000, fun _ _ => 2000⟩)] ++
  List.replicate 3 (.play (.deliver 0 2000))

/-- What comes of the journey if the notices are heard in the given order. -/
def heardAfterJourney (order : List Nat) : Network :=
  (Machine.replay (fun s e => s.steady e = true) (Network.next threeServerSite) spawned
    (journeyEvents ++ order.map (.hear · 2000 unfilled))).getD spawned

theorem reachable_spawned_orderly :
    ((Network.machine threeServerSite).restrict (Orderly threeServerSite)).Reachable spawned := by
  have haccepted : firstOf ((Network.new threeServerSite).next threeServerSite .accept).requests 0 =
      some (2, .spawnCharacterRq (AgencyWorker.spawnRequest firstClient)) := by decide +kernel
  exact .step (.step (.init rfl) (e := .accept)
    ⟨⟨distinct_accept (by decide +kernel) (by decide), trivial, trivial⟩, rfl, rfl⟩)
    (e := .serve 0 0)
    ⟨⟨distinct_spawn _ Cluster.firstId haccepted (by decide +kernel) (by decide +kernel) 0, trivial,
      trivial⟩, ⟨2, _, haccepted, by decide +kernel⟩, rfl⟩

theorem reachable_heardAfterJourney (order : List Nat) :
    ((Network.machine threeServerSite).restrict
      fun s e => Distinct threeServerSite s e ∧ LosesNone s e).Reachable (heardAfterJourney order) := by
  refine Machine.Reachable.replay_getD (fun _ _ h => step_of_steady h) _ ?_
  exact reachable_spawned_orderly.mono fun _ _ h => ⟨h.1, h.2.2⟩

/-- Announced last, heard first: the assertion fails if the object is in the cache of sector 13 while
its client is stored in sector 12; if it is in no cache of that sector yet, the promotion is dropped. -/
theorem sector_mistaken :
    (¬ ∀ (site : Site), site.deployment.Complete → ∀ s : Network,
      ((Network.machine site).restrict fun s e => Distinct site s e ∧ LosesNone s e).Reachable s →
        s.fault = none) ∧
      ¬ ∀ (site : Site), site.deployment.Complete → ∀ s : Network,
        ((Network.machine site).restrict fun s e => Distinct site s e ∧ LosesNone s e).Reachable s →
          s.Quiet → SectorsKnown s := by
  refine ⟨fun h => ?_, fun h => ?_⟩
  -- the object is in the cache of sector 13 already, its client still stored in sector 12
  · have hfault := h threeServerSite Cluster.threeServers_complete _
      (reachable_heardAfterJourney [0, 0, 0, 0, 6])
    exact absurd hfault (by decide +kernel)
  · let s := heardAfterJourney (10 :: List.replicate 11 0)
    have hquiet : s.Quiet := ⟨by decide +kernel, by decide +kernel, by decide +kernel⟩
    have hsession : s.agency.activeSessions.find firstClient =
        some ⟨firstClient, Cluster.firstId, 13⟩ := by decide +kernel
    -- the client is stored in sector 13, and the owner is in sector 8
    obtain ⟨k, howners⟩ := h threeServerSite Cluster.threeServers_complete s
      (reachable_heardAfterJourney _) hquiet firstClient _ hsession (by decide)
    have howner : (s.cluster.fixtureAt 4 8 Cluster.firstId).map Fixture.isObservingFixture =
        some false := by decide +kernel
    have hmem : (4, 8) ∈ s.cluster.owners Cluster.firstId := Option.map_eq_some_iff.1 howner
    rw [howners] at hmem
    cases hmem

/-- Heard in the order they were posted. -/
def inOrderAfterJourney : List NetworkEvent :=
  journeyEvents ++ List.replicate 12 (.hear 0 2000 unfilled)

def settled : Network :=
  (Machine.replay (fun s e => s.steady e = true ∧ s.hearsFirst e = true)
    (Network.next threeServerSite) spawned inOrderAfterJourney).getD spawned

theorem sector_known_settled :
    threeServerSite.deployment.Complete ∧
      ((Network.machine threeServerSite).restrict (Orderly threeServerSite)).Reachable settled ∧
      settled.agency.activeSessions.find firstClient = some ⟨firstClient, Cluster.firstId, 8⟩ ∧
      settled.fault = none ∧ SectorsKnown settled := by
  have hreachable :
      ((Network.machine threeServerSite).restrict (Orderly threeServerSite)).Reachable settled := by
    refine Machine.Reachable.replay_getD (fun s e h => ?_) _ reachable_spawned_orderly
    have hstep : ((Network.machine threeServerSite).restrict
        fun s e => Distinct threeServerSite s e ∧ LosesNone s e).step s e
          (s.next threeServerSite e) := step_of_steady h.1
    obtain ⟨⟨hdistinct, hlosesNone⟩, hnext⟩ := hstep
    exact ⟨⟨hdistinct, hearsInOrder_of_hearsFirst h.2, hlosesNone⟩, hnext⟩
  have hquiet : settled.Quiet := ⟨by decide +kernel, by decide +kernel, by decide +kernel⟩
  obtain ⟨hrunning, hknown⟩ := sector_known Cluster.threeServers_complete hreachable
  exact ⟨Cluster.threeServers_complete, hreachable, by decide +kernel, hrunning, hknown hquiet⟩

end Agency
end SeamlessServer
