import SeamlessServer.Agency.Listening
import SeamlessServer.Agency.Mirror
import SeamlessServer.Agency.Snapshot
import SeamlessServer.Data.Lanes

/-!
# Agency.Scenes — what clients are shown

A client is given the list of the objects of its sector when it enters and whenever it is moved to
another sector, and is pushed what comes and goes in between.  Pushes of `SendToSector` wait in the
buffer of the throttler until it is flushed, whereas `Send` writes to the stream at once, so a list
overtakes the pushes that were posted before it.

The way to a client is a pair of `Lanes`, whose queue may be flushed at any time, and what a client
makes of the packets it is sent is a `Scene`.  `Shown` says that the scene is what the agency caches in
the sector of the client.  `Agency.Delivery` says what the lanes are in the throttler.
-/

namespace SeamlessServer
namespace Agency

open Game Protocol Utility

/-! ## Scenes -/

/-- The objects of the sector that a client was last given the list of. -/
structure Scene where
  sectorId : Option Nat := none
  objects : List Nat := []
  deriving DecidableEq

/-- Pushes of other sectors are left aside. -/
def Scene.after (scene : Scene) : ClientPacket → Scene
  | .createObjectPs info =>
      if scene.sectorId = some info.sectorId then
        { scene with objects := scene.objects.insert info.objectId }
      else
        scene
  | .removeObjectPs sectorId objectId =>
      if scene.sectorId = some sectorId then
        { scene with objects := scene.objects.filter (· ≠ objectId) }
      else
        scene
  | .objectListPs sectorId objects => ⟨some sectorId, objects.map ObjectInfo.objectId⟩
  | .gameEnterRequestRs _ => scene
  | .characterMoveRs _ => scene
  | .objectMovePs _ => scene

/-- `SendToSector` leaves the packet with the throttler; `Send` does not.  The list of
`OnPlayObjectListPush`, which no packet is dispatched to, would be throttled. -/
def ClientPacket.throttled : ClientPacket → Bool
  | .createObjectPs _ => true
  | .removeObjectPs _ _ => true
  | .objectMovePs _ => true
  | _ => false

/-- The sector that a push is about. -/
def ClientPacket.pushSector : ClientPacket → Option Nat
  | .createObjectPs info => some info.sectorId
  | .removeObjectPs sectorId _ => some sectorId
  | .objectMovePs packet => some packet.sectorId
  | _ => none

/-- What is posted to a client. -/
def received (userId : Nat) (posts : List AgencyPosting) : List ClientPacket :=
  posts.filterMap fun
    | .toClient u packet => if u = userId then some packet else none
    | _ => none

/-- Packets are written to the stream, or left with the throttler. -/
abbrev Posts := Lanes.Takes ClientPacket.throttled

/-- What the client shows once it has got everything. -/
def scene (lanes : Lanes ClientPacket) : Scene := lanes.replay Scene.after {}

section Scene

variable {lanes lanes' : Lanes ClientPacket} {packet : ClientPacket} {packets : List ClientPacket}

theorem received_append (u : Nat) (posts posts' : List AgencyPosting) :
    received u (posts ++ posts') = received u posts ++ received u posts' := List.filterMap_append

theorem received_map (u : Nat) (targets : List Nat) (packet : ClientPacket) :
    received u (targets.map (.toClient · packet)) =
      (targets.filter (· = u)).map fun _ => packet := by
  induction targets with
  | nil =>
      rfl
  | cons k targets ih =>
      by_cases hk : k = u
      · simp only [received, List.map_cons, List.filterMap_cons, hk, if_true, decide_true,
          List.filter_cons_of_pos] at ih ⊢
        rw [ih]
      · simp only [received, List.map_cons, List.filterMap_cons, hk, if_false, decide_false,
          Bool.false_eq_true, not_false_eq_true, List.filter_cons_of_neg] at ih ⊢
        exact ih

theorem received_map_of_not_mem {u : Nat} {targets : List Nat} (h : u ∉ targets)
    (packet : ClientPacket) : received u (targets.map (.toClient · packet)) = [] := by
  rw [received_map, List.map_eq_nil_iff, List.filter_eq_nil_iff]
  intro k hk heq
  obtain rfl : k = u := by simpa using heq
  exact h hk

/-- A packet that shows nothing. -/
def ClientPacket.Mute (packet : ClientPacket) : Prop := ∀ scene : Scene, scene.after packet = scene

theorem scene_of_mute (h : Posts lanes packets lanes') (hmute : ∀ packet ∈ packets, packet.Mute) :
    scene lanes' = scene lanes :=
  h.replay_of_ignored hmute

/-- A push that comes twice. -/
theorem after_after (hthrottled : packet.throttled = true) (scene : Scene) :
    (scene.after packet).after packet = scene.after packet := by
  cases packet with
  | createObjectPs info =>
      simp only [Scene.after]
      split
      · simp
      · simp [*]
  | removeObjectPs sectorId objectId =>
      simp only [Scene.after]
      split
      · simp
      · simp [*]
  | objectMovePs packet => rfl
  | gameEnterRequestRs info => cases hthrottled
  | characterMoveRs packet => cases hthrottled
  | objectListPs sectorId objects => cases hthrottled

/-- A push to the targets of a sector, as one of them sees it. -/
theorem scene_push {u : Nat} {targets : List Nat} (hthrottled : packet.throttled = true)
    (hu : u ∈ targets) (h : Posts lanes (received u (targets.map (.toClient · packet))) lanes') :
    scene lanes' = (scene lanes).after packet := by
  rw [received_map] at h
  refine h.replay_of_same hthrottled (after_after hthrottled) (by simp) ?_
  rw [Ne, List.map_eq_nil_iff, List.filter_eq_nil_iff]
  intro hnone
  exact hnone u hu (by simp)

/-- A list overtakes the pushes that wait; those of other sectors do not matter any more. -/
theorem scene_list {x : Nat} {objects : List ObjectInfo}
    (hheld : ∀ packet ∈ lanes.held, packet.throttled = true ∧ packet.pushSector ≠ some x) :
    scene (lanes.express (.objectListPs x objects)) =
      ⟨some x, objects.map ObjectInfo.objectId⟩ := by
  refine Lanes.replay_express_of_reset (fun _ => rfl) fun packet hpacket => ?_
  obtain ⟨hthrottled, hsector⟩ := hheld packet hpacket
  cases packet with
  | createObjectPs info =>
      have hne : x ≠ info.sectorId := by
        rintro rfl
        exact hsector rfl
      simp [Scene.after, hne]
  | removeObjectPs y o =>
      have hne : x ≠ y := by
        rintro rfl
        exact hsector rfl
      simp [Scene.after, hne]
  | objectMovePs packet => rfl
  | gameEnterRequestRs info => cases hthrottled
  | characterMoveRs packet => cases hthrottled
  | objectListPs sectorId objects => cases hthrottled

end Scene

/-! ## Clients -/

/-- The clients of an agency. -/
structure Roster where
  accepted : List Nat := []
  /-- Those for which a spawn was requested. -/
  asked : List Nat := []
  entered : List Nat := []
  /-- The objects that were spawned for clients that had left. -/
  unannounced : List Nat := []

namespace Roster

variable (roster : Roster) (s : AgencyWorker)

/-- `OnSocketSessionAccepted` for a client. -/
def accept : Roster :=
  let userId := s.currentUniversalSessionId
  { roster with
    accepted := userId :: roster.accepted
    asked :=
      if (s.sectorPostingManager.getSectorOwnerSession initialSectorId).isSome then
        userId :: roster.asked
      else
        roster.asked }

/-- A packet of a play server is handled. -/
def hear : IntraPacket → Roster
  | .spawnCharacterRs userId info _ =>
      if (s.activeSessions.find userId).isSome then
        { roster with entered := userId :: roster.entered }
      else
        { roster with unannounced := info.objectId :: roster.unannounced }
  | _ => roster

end Roster

/-- The clients of an agency, and the way to each of them. -/
structure Clients extends Roster where
  lanes : Nat → Lanes ClientPacket := fun _ => {}

namespace Clients

variable (cl : Clients) (s : AgencyWorker)

def accept : Clients := { cl with toRoster := cl.toRoster.accept s }

/-- `CleanUp` drops what waits for a client that is closed. -/
def close (userId : Nat) : Clients :=
  { cl with
    lanes := Function.update cl.lanes userId { cl.lanes userId with held := [] } }

/-- What waits is sent. -/
def flush : Clients := { cl with lanes := fun u => (cl.lanes u).flush }

/-- A packet of a play server is handled, which posts what it posts. -/
def hear (packet : IntraPacket) (lanes : Nat → Lanes ClientPacket) : Clients where
  toRoster := cl.toRoster.hear s packet
  lanes := lanes

/-- Every client is posted what is meant for it. -/
def Delivers (posts : List AgencyPosting) (lanes : Nat → Lanes ClientPacket) : Prop :=
  ∀ u, Posts (cl.lanes u) (received u posts) (lanes u)

/-- A response to a spawn is one that the client has been waiting for, and no push of the sector that a
client is moved to waits for it. -/
def Admits (packet : IntraPacket) : Prop :=
  match packet with
  | .spawnCharacterRs userId _ _ => userId ∈ cl.asked ∧ userId ∉ cl.entered
  | .promoteObjectRq _ info =>
      ∀ u, s.objectSessions.find info.objectId = some u →
        ∀ packet ∈ (cl.lanes u).held, packet.pushSector ≠ some info.sectorId
  | _ => True

instance (packet : IntraPacket) : Decidable (cl.Admits s packet) :=
  match packet with
  | .spawnCharacterRs userId _ _ =>
      inferInstanceAs (Decidable (userId ∈ cl.asked ∧ userId ∉ cl.entered))
  | .promoteObjectRq _ info =>
      match h : s.objectSessions.find info.objectId with
      | none => isTrue fun u hu => by rw [h] at hu; cases hu
      | some u =>
          decidable_of_iff
            (∀ packet ∈ (cl.lanes u).held, packet.pushSector ≠ some info.sectorId)
            ⟨fun hall v hv => by rw [h] at hv; cases hv; exact hall, fun hall => hall u h⟩
  | .removeCharacterRs .. => isTrue trivial
  | .characterMoveRs .. => isTrue trivial
  | .createObjectPs .. => isTrue trivial
  | .removeObjectPs .. => isTrue trivial
  | .objectMovePs .. => isTrue trivial
  | .objectListPs .. => isTrue trivial

end Clients

/-- Clients listen to their sectors, and the sessions of those that were asked for are linked. -/
structure Attended (s : AgencyWorker) (cl : Clients) : Prop where
  listening : Listening s cl.accepted cl.entered
  accepted : ∀ u ∈ cl.asked, u ∈ cl.accepted
  linked : ∀ u ∈ cl.asked, s.activeSessions.find u ≠ none → s.sectorPostingManager.reaches u = true
  asked : ∀ u ∈ cl.entered, u ∈ cl.asked
  held : ∀ u, ∀ packet ∈ (cl.lanes u).held, packet.throttled = true
  silent : ∀ u, u ∉ cl.entered → (cl.lanes u).held = []

/-- Each client that has entered shows the object exactly if the agency caches it in the sector of the
client, at least in the sectors that are run. -/
def Shown (runs : Nat → Prop) (s : AgencyWorker) (cl : Clients) (o : Nat) : Prop :=
  ∀ u ∈ cl.entered, ∀ session, s.activeSessions.find u = some session →
    (scene (cl.lanes u)).sectorId = some session.sectorId ∧
      (runs session.sectorId →
        (o ∈ (scene (cl.lanes u)).objects ↔ s.Cached session.sectorId o))

/-! ## What is pushed -/

/-- What the handler of a packet pushes to the listeners of a sector. -/
def push (s : AgencyWorker) : IntraPacket → Option ClientPacket
  | .spawnCharacterRs u info _ =>
      if (s.activeSessions.find u).isSome then some (.createObjectPs info) else none
  | .removeCharacterRs _ x o _ => some (.removeObjectPs x o)
  | .createObjectPs info => some (.createObjectPs info)
  | .removeObjectPs x o => some (.removeObjectPs x o)
  | .characterMoveRs _ _ => none
  | .objectMovePs _ => none
  | .promoteObjectRq _ _ => none
  | .objectListPs _ _ => none

section Hear

variable {s : AgencyWorker} {cl : Clients} {source : Nat} {packet : IntraPacket} {now : Milliseconds}
  {lanes : Nat → Lanes ClientPacket}

theorem entered_hear {v : Nat} : v ∈ (cl.hear s packet lanes).entered ↔
    v ∈ cl.entered ∨ ∃ info error, packet = .spawnCharacterRs v info error ∧
      s.activeSessions.find v ≠ none := by
  cases packet with
  | spawnCharacterRs u info error =>
      simp only [Clients.hear, Roster.hear]
      split
      next hactive =>
        rw [Option.isSome_iff_ne_none] at hactive
        simp only [List.mem_cons, IntraPacket.spawnCharacterRs.injEq]
        constructor
        · rintro (rfl | hv)
          · exact .inr ⟨info, error, ⟨rfl, rfl, rfl⟩, hactive⟩
          · exact .inl hv
        · rintro (hv | ⟨_, _, ⟨rfl, _⟩, _⟩)
          · exact .inr hv
          · exact .inl rfl
      next hgone =>
        refine ⟨.inl, ?_⟩
        rintro (hv | ⟨_, _, heq, hactive⟩)
        · exact hv
        · cases heq
          exact absurd (Option.isSome_iff_ne_none.2 hactive) hgone
  | _ => simp [Clients.hear, Roster.hear]

theorem asked_hear : (cl.hear s packet lanes).asked = cl.asked := by
  cases packet with
  | spawnCharacterRs userId info error =>
      simp only [Clients.hear, Roster.hear]
      split <;> rfl
  | _ => rfl

theorem accepted_hear : (cl.hear s packet lanes).accepted = cl.accepted := by
  cases packet with
  | spawnCharacterRs userId info error =>
      simp only [Clients.hear, Roster.hear]
      split <;> rfl
  | _ => rfl

/-- Who has entered and is still there is one of the targets of its own sector, and of no other. -/
theorem Attended.mem_sendToSector (h : Attended s cl) {v : Nat} (hv : v ∈ cl.entered)
    {session : SessionValues} (hsession : s.activeSessions.find v = some session) (x : Nat) :
    v ∈ s.sectorPostingManager.sendToSector x ↔ x = session.sectorId := by
  have hreaches := h.linked v (h.asked v hv) (by simp [hsession])
  rw [SectorPostingManager.sendToSector, List.mem_filter, h.listening.own v hv session hsession x]
  exact and_iff_left hreaches

/-- Nobody else is a target of a sector. -/
theorem Attended.not_mem_sendToSector (h : Attended s cl) {v : Nat}
    (hv : v ∉ cl.entered ∨ s.activeSessions.find v = none) (x : Nat) :
    v ∉ s.sectorPostingManager.sendToSector x :=
  fun hmem => h.listening.silent v hv x (List.mem_filter.1 hmem).1

/-- To a client of the sector a push is what it is; to the client of another sector it is nothing. -/
theorem Attended.scene_sendToSector (h : Attended s cl) {v : Nat} (hv : v ∈ cl.entered)
    {session : SessionValues} (hsession : s.activeSessions.find v = some session)
    (hscene : (scene (cl.lanes v)).sectorId = some session.sectorId) {s₁ : AgencyWorker}
    (hmanager : s₁.sectorPostingManager = s.sectorPostingManager) {p : ClientPacket}
    (hthrottled : p.throttled = true) {x : Nat} (hsector : p.pushSector = some x)
    {lane : Lanes ClientPacket} (hposts : Posts (cl.lanes v) (received v (s₁.sendToSector p x)) lane) :
    scene lane = (scene (cl.lanes v)).after p := by
  unfold AgencyWorker.sendToSector at hposts
  rw [hmanager] at hposts
  by_cases hx : x = session.sectorId
  · exact scene_push hthrottled ((h.mem_sendToSector hv hsession x).2 hx) hposts
  · rw [received_map_of_not_mem (mt (h.mem_sendToSector hv hsession x).1 hx)] at hposts
    rw [hposts.eq_of_nil]
    have hne : (scene (cl.lanes v)).sectorId ≠ some x := by
      rw [hscene]
      exact fun heq => hx (Option.some.inj heq).symm
    cases p with
    | createObjectPs info =>
        cases hsector
        exact (if_neg hne).symm
    | removeObjectPs y o =>
        cases hsector
        exact (if_neg hne).symm
    | objectMovePs packet => rfl
    | gameEnterRequestRs info => cases hthrottled
    | characterMoveRs packet => cases hthrottled
    | objectListPs y objects => cases hthrottled

theorem received_of_toServers {v : Nat} {posts : List AgencyPosting}
    (h : ∀ post ∈ posts, ∀ packet, post ≠ .toClient v packet) : received v posts = [] := by
  rw [received, List.filterMap_eq_nil_iff]
  intro post hpost
  cases post with
  | toServer k packet => rfl
  | closeSession u => rfl
  | toClient u packet =>
      have hne : u ≠ v := by
        rintro rfl
        exact h _ hpost packet rfl
      simp [hne]

theorem received_pair_of_ne {u v : Nat} (h : u ≠ v) (p q : ClientPacket) :
    received v [.toClient u p, .toClient u q] = [] := by
  simp [received, h]

/-- A client that is not moved is shown what is pushed. -/
theorem Attended.scene_hear (h : Attended s cl) {v : Nat} (hv : v ∈ cl.entered)
    {session : SessionValues} (hsession : s.activeSessions.find v = some session)
    (hscene : (scene (cl.lanes v)).sectorId = some session.sectorId) (hadmits : cl.Admits s packet)
    (hunmoved : ∀ origin info, packet = .promoteObjectRq origin info →
      s.objectSessions.find info.objectId ≠ some v)
    (hdelivers : cl.Delivers (s.onIntraServerData source packet now).posts lanes) :
    scene (lanes v) = (push s packet).elim (scene (cl.lanes v)) (scene (cl.lanes v)).after := by
  have hposts := hdelivers v
  cases packet with
  | spawnCharacterRs u info error =>
      have hne : u ≠ v := by
        rintro rfl
        exact hadmits.2 hv
      simp only [AgencyWorker.onIntraServerData, AgencyWorker.onPlaySpawnCharacterRes] at hposts
      cases hfind : s.activeSessions.find u with
      | none =>
          simp only [AgencyWorker.cache, hfind] at hposts
          rw [received_of_toServers (by simp)] at hposts
          simp only [push, hfind, Option.isSome_none, Bool.false_eq_true, if_false, Option.elim_none,
            hposts.eq_of_nil]
      | some values =>
          simp only [AgencyWorker.cache, hfind] at hposts
          simp only [push, hfind, Option.isSome_some, if_true, Option.elim_some]
          rw [received_append, received_pair_of_ne hne, List.append_nil] at hposts
          refine (h.scene_sendToSector hv hsession hscene ?_ ?_ ?_ hposts).trans ?_ <;> rfl
  | removeCharacterRs u x o error => exact h.scene_sendToSector hv hsession hscene rfl rfl rfl hposts
  | createObjectPs info => exact h.scene_sendToSector hv hsession hscene rfl rfl rfl hposts
  | removeObjectPs x o => exact h.scene_sendToSector hv hsession hscene rfl rfl rfl hposts
  | objectMovePs packet => exact h.scene_sendToSector hv hsession hscene rfl rfl rfl hposts
  | objectListPs x objects => exact congrArg scene hposts.eq_of_nil
  | characterMoveRs packet error =>
      -- whoever gets the move, it shows nothing that comes or goes
      refine scene_of_mute hposts fun p hp => ?_
      simp only [received, List.mem_filterMap] at hp
      obtain ⟨post, hpost, hp⟩ := hp
      have hmute : ∀ u q, post = .toClient u q → q.Mute := by
        rintro u q rfl
        simp only [AgencyWorker.onIntraServerData, AgencyWorker.onPlayMoveCharacterRes] at hpost
        split at hpost
        · cases hpost
        · split at hpost
          · cases hpost
          · split at hpost
            · cases hpost
            · rcases List.mem_cons.1 hpost with heq | hpost
              · cases heq
                exact fun _ => rfl
              · obtain ⟨k, _, heq⟩ := List.mem_map.1 hpost
                cases heq
                exact fun _ => rfl
      cases post with
      | toServer k q => cases hp
      | closeSession u => cases hp
      | toClient u q =>
          obtain rfl : q = p := by
            by_cases hu : u = v
            · simpa [hu] using hp
            · simp [hu] at hp
          exact hmute u q rfl
  | promoteObjectRq origin info =>
      have hclient := hunmoved origin info rfl
      have hnone : received v (s.onIntraServerData source (.promoteObjectRq origin info) now).posts =
          [] := by
        refine received_of_toServers fun post hpost q => ?_
        simp only [AgencyWorker.onIntraServerData, AgencyWorker.onPlayPromoteObjectReq] at hpost
        split_ifs at hpost
        · cases hpost
        · split at hpost
          · cases hpost
          · split at hpost
            · cases hpost
            next u hu =>
              have hne : u ≠ v := by
                rintro rfl
                exact hclient hu
              split at hpost
              · cases hpost
              · split_ifs at hpost
                · cases hpost
                · obtain rfl := List.mem_singleton.1 hpost
                  simp [hne]
      rw [hnone] at hposts
      exact congrArg scene hposts.eq_of_nil

/-! ## Clients that enter and clients that are moved -/

theorem mem_listed {x : Nat} {o : Nat} (s : AgencyWorker) (now : Milliseconds) :
    o ∈ (s.listedObjects x now).map ObjectInfo.objectId ↔ s.Cached x o := by
  rw [List.mem_map, AgencyWorker.Cached, Option.ne_none_iff_exists']
  constructor
  · rintro ⟨object, hobject, rfl⟩
    obtain ⟨o, f, hfind, rfl⟩ := AgencyWorker.mem_listedObjects.1 hobject
    exact ⟨f, hfind⟩
  · rintro ⟨f, hfind⟩
    exact ⟨_, AgencyWorker.mem_listedObjects.2 ⟨o, f, hfind, rfl⟩, rfl⟩

/-- A client that enters is given what is cached in its sector then. -/
theorem Attended.enters (h : Attended s cl) {u : Nat} {info : ObjectInfo} {error : ErrorCode}
    (hnew : u ∉ cl.entered) (hactive : s.activeSessions.find u ≠ none)
    (hdelivers : cl.Delivers
      (s.onIntraServerData source (.spawnCharacterRs u info error) now).posts lanes) :
    let s' := (s.onIntraServerData source (.spawnCharacterRs u info error) now).agency
    s'.activeSessions.find u = some ⟨u, info.objectId, info.sectorId⟩ ∧
      ∃ objects, scene (lanes u) = ⟨some info.sectorId, objects⟩ ∧
        ∀ o, o ∈ objects ↔ s'.Cached info.sectorId o := by
  obtain ⟨values, hfind⟩ := Option.ne_none_iff_exists'.1 hactive
  have hposts := hdelivers u
  simp only [AgencyWorker.onIntraServerData, AgencyWorker.onPlaySpawnCharacterRes,
    AgencyWorker.cache, hfind] at hposts ⊢
  refine ⟨by simp, _, ?_, fun o => mem_listed _ now⟩
  rw [received_append, AgencyWorker.sendToSector,
    received_map_of_not_mem (h.not_mem_sendToSector (.inl hnew) _), List.nil_append] at hposts
  simp only [received, List.filterMap_cons, List.filterMap_nil, if_true,
    AgencyWorker.makeObjectListPacket_eq] at hposts
  rw [hposts.eq_foldl_express (by simp [ClientPacket.throttled]), List.foldl_cons, List.foldl_cons,
    List.foldl_nil]
  refine scene_list fun packet hpacket => ?_
  -- nothing has been pushed to the client yet
  have hnil : packet ∈ (cl.lanes u).held := hpacket
  rw [h.silent u hnew] at hnil
  cases hnil

/-- A promotion writes the cache at most, or it moves the client of the object. -/
theorem promote_cases (origin : Nat) (info : ObjectInfo)
    (hfault : (s.onPlayPromoteObjectReq origin info now).fault = none) :
    (SameClients s (s.onPlayPromoteObjectReq origin info now).agency ∧
        (s.onPlayPromoteObjectReq origin info now).posts = []) ∨
      ∃ u session, s.objectSessions.find info.objectId = some u ∧
        s.activeSessions.find u = some session ∧
        (s.onPlayPromoteObjectReq origin info now).agency.activeSessions =
          s.activeSessions.insert u { session with sectorId := info.sectorId } ∧
        (s.onPlayPromoteObjectReq origin info now).posts = [.toClient u
          ((s.onPlayPromoteObjectReq origin info now).agency.makeObjectListPacket info.sectorId
            now)] := by
  unfold AgencyWorker.onPlayPromoteObjectReq at hfault ⊢
  dsimp only at hfault ⊢
  split
  · exact .inl ⟨⟨rfl, rfl, rfl⟩, rfl⟩
  · split
    · exact .inl ⟨⟨rfl, rfl, rfl⟩, rfl⟩
    · split
      · exact .inl ⟨⟨rfl, rfl, rfl⟩, rfl⟩
      next hlinked _ fixture hcached _ u hu =>
        simp only [hlinked, hcached, hu, if_false] at hfault
        split
        next hgone =>
          simp only [hgone] at hfault
          cases hfault
        next session hsession =>
          simp only [hsession] at hfault
          split_ifs at hfault ⊢
          exact .inr ⟨u, session, hu, hsession, rfl, rfl⟩

/-- A client that is moved is given what is cached in its new sector. -/
theorem Attended.moves (h : Attended s cl) {origin : Nat} {info : ObjectInfo} {u : Nat}
    (hadmits : cl.Admits s (.promoteObjectRq origin info))
    (hclient : s.objectSessions.find info.objectId = some u)
    (hposts : (s.onPlayPromoteObjectReq origin info now).posts = [.toClient u
      ((s.onPlayPromoteObjectReq origin info now).agency.makeObjectListPacket info.sectorId now)])
    (hdelivers : cl.Delivers (s.onPlayPromoteObjectReq origin info now).posts lanes) :
    ∃ objects, scene (lanes u) = ⟨some info.sectorId, objects⟩ ∧
      ∀ o, o ∈ objects ↔
        (s.onPlayPromoteObjectReq origin info now).agency.Cached info.sectorId o := by
  have hlist := hdelivers u
  simp only [hposts, received, List.filterMap_cons, List.filterMap_nil, if_true,
    AgencyWorker.makeObjectListPacket_eq] at hlist
  refine ⟨_, ?_, fun o => mem_listed _ now⟩
  rw [hlist.eq_foldl_express (by simp [ClientPacket.throttled]), List.foldl_cons, List.foldl_nil]
  exact scene_list fun packet hpacket => ⟨h.held u packet hpacket, hadmits u hclient packet hpacket⟩

/-! ## Steps of an agency -/

theorem mem_posts_sendToSector {s₁ : AgencyWorker} {v : Nat} {p q : ClientPacket} {x : Nat}
    (hmem : AgencyPosting.toClient v q ∈ s₁.sendToSector p x) :
    v ∈ s₁.sectorPostingManager.sendToSector x := by
  obtain ⟨k, hk, heq⟩ := List.mem_map.1 hmem
  cases heq
  exact hk

/-- Whoever is posted something is there and has entered. -/
theorem Attended.receiver (h : Attended s cl) {v : Nat} {p : ClientPacket}
    (hmem : .toClient v p ∈ (s.onIntraServerData source packet now).posts) :
    s.activeSessions.find v ≠ none ∧ (v ∈ cl.entered ∨ ∃ info error,
      packet = .spawnCharacterRs v info error ∧ s.activeSessions.find v ≠ none) := by
  have hlistener : ∀ {x}, v ∈ s.sectorPostingManager.sendToSector x →
      s.activeSessions.find v ≠ none ∧ (v ∈ cl.entered ∨ ∃ info error,
        packet = .spawnCharacterRs v info error ∧ s.activeSessions.find v ≠ none) := by
    intro x hx
    refine ⟨fun hgone => h.not_mem_sendToSector (.inr hgone) x hx, .inl ?_⟩
    by_contra hv
    exact h.not_mem_sendToSector (.inl hv) x hx
  cases packet with
  | spawnCharacterRs u info error =>
      cases hfind : s.activeSessions.find u with
      | none =>
          simp [AgencyWorker.onIntraServerData, AgencyWorker.onPlaySpawnCharacterRes,
            AgencyWorker.cache, hfind] at hmem
      | some values =>
          simp only [AgencyWorker.onIntraServerData, AgencyWorker.onPlaySpawnCharacterRes,
            AgencyWorker.cache, hfind] at hmem
          rcases List.mem_append.1 hmem with hpush | hown
          · exact hlistener (mem_posts_sendToSector hpush)
          · -- the client itself
            have hv : v = u := by
              simp only [List.mem_cons, List.not_mem_nil, or_false,
                AgencyPosting.toClient.injEq] at hown
              exact hown.elim And.left And.left
            subst hv
            have hactive : s.activeSessions.find v ≠ none := by simp [hfind]
            exact ⟨hactive, .inr ⟨info, error, rfl, hactive⟩⟩
  | removeCharacterRs u x o error => exact hlistener (mem_posts_sendToSector hmem)
  | createObjectPs info => exact hlistener (mem_posts_sendToSector hmem)
  | removeObjectPs x o => exact hlistener (mem_posts_sendToSector hmem)
  | objectMovePs packet => exact hlistener (mem_posts_sendToSector hmem)
  | objectListPs x objects => cases hmem
  | characterMoveRs packet error =>
      simp only [AgencyWorker.onIntraServerData, AgencyWorker.onPlayMoveCharacterRes] at hmem
      split at hmem
      · cases hmem
      · split at hmem
        · cases hmem
        next u hu =>
          split at hmem
          · cases hmem
          next values hactive =>
            rcases List.mem_cons.1 hmem with heq | hpush
            · cases heq
              refine ⟨fun hgone => ?_, .inl (h.listening.clients _ v hu)⟩
              exact absurd (hactive.symm.trans hgone) (Option.some_ne_none _)
            · obtain ⟨k, hk, heq⟩ := List.mem_map.1 hpush
              cases heq
              rw [SectorPostingManager.sendToSectorWithout_eq] at hk
              exact hlistener (List.mem_filter.1 hk).1
  | promoteObjectRq origin info =>
      simp only [AgencyWorker.onIntraServerData, AgencyWorker.onPlayPromoteObjectReq] at hmem
      split_ifs at hmem
      · cases hmem
      · split at hmem
        · cases hmem
        · split at hmem
          · cases hmem
          next u hu =>
            split at hmem
            · cases hmem
            next values hactive =>
              split_ifs at hmem
              · cases hmem
              · cases List.mem_singleton.1 hmem
                refine ⟨fun hgone => ?_, .inl (h.listening.clients _ v hu)⟩
                exact absurd (hactive.symm.trans hgone) (Option.some_ne_none _)

theorem onIntraServerData_eq_handleIn (hlist : ∀ x objects, packet ≠ .objectListPs x objects) :
    s.onIntraServerData source packet now = s.handleIn true source packet ⟨now, now⟩ := by
  cases packet with
  | objectListPs x objects => exact absurd rfl (hlist x objects)
  | _ => rfl

/-- A handler neither takes nor adds a client, and leaves the sessions that are linked. -/
theorem find_link_hear (s : AgencyWorker) (source : Nat) (packet : IntraPacket) (now : Milliseconds)
    (u : Nat) :
    ((s.onIntraServerData source packet now).agency.activeSessions.find u = none ↔
        s.activeSessions.find u = none) ∧
      (s.onIntraServerData source packet now).agency.sectorPostingManager.link u =
        s.sectorPostingManager.link u := by
  by_cases hlist : ∃ x objects, packet = .objectListPs x objects
  · obtain ⟨x, objects, rfl⟩ := hlist
    exact ⟨.rfl, rfl⟩
  -- a client that gets new values is there already
  have hinsert : ∀ {v : Nat} {values session : SessionValues},
      s.activeSessions.find v = some values →
      ((s.activeSessions.insert v session).find u = none ↔ s.activeSessions.find u = none) := by
    intro v values session hv
    rw [UnorderedMap.find_insert]
    split
    next heq => simp [heq, hv]
    next => exact .rfl
  rw [onIntraServerData_eq_handleIn fun x objects heq => hlist ⟨x, objects, heq⟩]
  by_cases hspawn : ∃ v info error, packet = .spawnCharacterRs v info error
  · obtain ⟨v, info, error, rfl⟩ := hspawn
    rcases AgencyWorker.spawn_cases (s := s) true source v info error ⟨now, now⟩ with
      ⟨_, hsame⟩ | henters
    · rw [hsame.sessions, hsame.manager]
      exact ⟨.rfl, rfl⟩
    · obtain ⟨values, hactive⟩ := Option.ne_none_iff_exists'.1 henters.active
      rw [henters.values, henters.manager, SectorPostingManager.link_addSectorListener]
      exact ⟨hinsert hactive, rfl⟩
  · rcases AgencyWorker.handleIn_cases (s := s) true source ⟨now, now⟩
      (fun v info error heq => hspawn ⟨v, info, error, heq⟩) with hsame | ⟨v, x, hmoves⟩
    · rw [hsame.sessions, hsame.manager]
      exact ⟨.rfl, rfl⟩
    · obtain ⟨session, hsession, hvalues⟩ := hmoves.values
      obtain ⟨origin, hmanager⟩ := hmoves.manager
      rw [hvalues, hmanager, SectorPostingManager.link_addSectorListener]
      exact ⟨hinsert hsession, rfl⟩

/-- What attends to the clients stays in place when a packet of a play server is handled. -/
theorem Attended.hear (h : Attended s cl) (hadmits : cl.Admits s packet)
    (hdelivers : cl.Delivers (s.onIntraServerData source packet now).posts lanes) :
    Attended (s.onIntraServerData source packet now).agency (cl.hear s packet lanes) := by
  -- a list of objects is for an agency, which posts nothing of it
  by_cases hlist : ∃ x objects, packet = .objectListPs x objects
  · obtain ⟨x, objects, rfl⟩ := hlist
    have hlanes : lanes = cl.lanes := funext fun u => (hdelivers u).eq_of_nil
    rw [hlanes]
    exact h
  have heq : s.onIntraServerData source packet now = s.handleIn true source packet ⟨now, now⟩ :=
    onIntraServerData_eq_handleIn fun x objects heq => hlist ⟨x, objects, heq⟩
  -- a client enters with its spawn response, and only such a client was asked for
  have hentered : ∀ u, u ∈ (cl.hear s packet lanes).entered → u ∈ cl.asked := by
    intro u hu
    rcases entered_hear.1 hu with hold | ⟨info, error, rfl, _⟩
    · exact h.asked u hold
    · exact hadmits.1
  refine ⟨?_, ?_, ?_, ?_, ?_, ?_⟩
  · have hallows : (ListeningState.mk s cl.accepted cl.entered none).Allows
        (.packet source packet ⟨now, now⟩) := by
      cases packet with
      | spawnCharacterRs u info error => exact hadmits.2
      | _ => trivial
    have hnext := ListeningState.listening_next true h.listening hallows
    have hmem : (ListeningState.mk s cl.accepted cl.entered none).enteredAfter
        (.packet source packet ⟨now, now⟩) = (cl.hear s packet lanes).entered := by
      cases packet with
      | spawnCharacterRs u info error =>
          simp only [ListeningState.enteredAfter, Clients.hear, Roster.hear]
          split <;> rfl
      | _ => rfl
    rw [heq, accepted_hear, ← hmem]
    exact hnext
  · rw [asked_hear, accepted_hear]
    exact h.accepted
  · intro u hu hfind
    rw [asked_hear] at hu
    obtain ⟨hsame, hlink⟩ := find_link_hear s source packet now u
    rw [SectorPostingManager.reaches, hlink]
    exact h.linked u hu (mt hsame.2 hfind)
  · intro u hu
    rw [asked_hear]
    exact hentered u hu
  · exact fun u => (hdelivers u).held (h.held u)
  · intro u hu
    -- nobody posts to a client that has not entered
    have hnone : received u (s.onIntraServerData source packet now).posts = [] :=
      received_of_toServers fun post hpost q hq => hu (entered_hear.2 (h.receiver (hq ▸ hpost)).2)
    have hposts := hdelivers u
    rw [hnone] at hposts
    have hlane : lanes u = cl.lanes u := hposts.eq_of_nil
    change (lanes u).held = []
    rw [hlane]
    exact h.silent u fun hold => hu (entered_hear.2 (.inl hold))

/-! ## What is shown -/

/-- Where the object is pushed to come or go. -/
def pushEdit (o : Nat) : ClientPacket → Option (Edit Nat)
  | .createObjectPs info => if info.objectId = o then some (.insert info.sectorId) else none
  | .removeObjectPs x id => if id = o then some (.erase x) else none
  | _ => none

theorem mem_scene_after {c : Scene} {y o : Nat} (hsector : c.sectorId = some y) {p : ClientPacket}
    (hthrottled : p.throttled = true) :
    (c.after p).sectorId = some y ∧ (o ∈ (c.after p).objects ↔
      (o ∈ c.objects ∧ pushEdit o p ≠ some (.erase y)) ∨ pushEdit o p = some (.insert y)) := by
  cases p with
  | createObjectPs info =>
      simp only [Scene.after, pushEdit]
      split_ifs <;> grind
  | removeObjectPs x id =>
      simp only [Scene.after, pushEdit]
      split_ifs <;> grind
  | objectMovePs packet => simp [Scene.after, pushEdit, hsector]
  | gameEnterRequestRs info => cases hthrottled
  | characterMoveRs packet => cases hthrottled
  | objectListPs x objects => cases hthrottled

/-- The values of a client that is not moved stay as they are. -/
theorem find_hear {v : Nat} (hv : v ∈ cl.entered) (hadmits : cl.Admits s packet)
    (hfault : (s.onIntraServerData source packet now).fault = none)
    (hunmoved : ∀ origin info, packet = .promoteObjectRq origin info →
      s.objectSessions.find info.objectId ≠ some v) :
    (s.onIntraServerData source packet now).agency.activeSessions.find v =
      s.activeSessions.find v := by
  cases packet with
  | spawnCharacterRs u info error =>
      -- a spawn response is for a client that has not entered yet
      have hne : v ≠ u := by
        rintro rfl
        exact hadmits.2 hv
      rcases AgencyWorker.spawn_cases (s := s) true source u info error ⟨now, now⟩ with
        ⟨_, hsame⟩ | henters
      · exact congrArg (UnorderedMap.find · v) hsame.sessions
      · have hvalues : (s.onIntraServerData source (.spawnCharacterRs u info error)
            now).agency.activeSessions = _ := henters.values
        rw [hvalues, UnorderedMap.find_insert_of_ne _ hne]
  | promoteObjectRq origin info =>
      rcases promote_cases origin info hfault with ⟨hsame, _⟩ | ⟨u, session, hu, _, hvalues, _⟩
      · exact congrArg (UnorderedMap.find · v) hsame.sessions
      -- the promotion moves another client
      · have hne : v ≠ u := by
          rintro rfl
          exact hunmoved origin info rfl hu
        have hmoved : (s.onIntraServerData source (.promoteObjectRq origin info)
            now).agency.activeSessions = _ := hvalues
        rw [hmoved, UnorderedMap.find_insert_of_ne _ hne]
  | characterMoveRs packet error =>
      simp only [AgencyWorker.onIntraServerData, AgencyWorker.onPlayMoveCharacterRes]
      split
      · rfl
      · split
        · rfl
        · split <;> rfl
  | removeCharacterRs u x o error => rfl
  | createObjectPs info => rfl
  | removeObjectPs x o => rfl
  | objectMovePs packet => rfl
  | objectListPs x objects => rfl

/-- What a notice says comes or goes is pushed, but for the object of a client that has left. -/
theorem push_edit {notice : Notice} (hfilled : Filled notice) (unset : ObjectInfo) {o : Nat}
    (ho : o ∉ (cl.hear s (.ofNotice unset notice) lanes).unannounced) (y : Nat) :
    ((push s (.ofNotice unset notice)).bind (pushEdit o) = some (.erase y) ↔
        noticeEdit o notice = some (.erase y)) ∧
      ((push s (.ofNotice unset notice)).bind (pushEdit o) = some (.insert y) ↔
        noticeEdit o notice = some (.insert y)) := by
  cases notice with
  | spawnCharacterRs u info error =>
      cases info with
      | none => exact absurd rfl (hfilled u error)
      | some info =>
          simp only [IntraPacket.ofNotice, Option.getD_some, push, noticeEdit, Clients.hear,
            Roster.hear] at ho ⊢
          by_cases hactive : (s.activeSessions.find u).isSome
          · simp [hactive, pushEdit]
          · simp only [hactive, Bool.false_eq_true, if_false, List.mem_cons, not_or] at ho
            simp [hactive, Ne.symm ho.1]
  | removeCharacterRs u x id error => simp [IntraPacket.ofNotice, push, pushEdit, noticeEdit]
  | createObjectPs info => simp [IntraPacket.ofNotice, push, pushEdit, noticeEdit]
  | removeObjectPs x id => simp [IntraPacket.ofNotice, push, pushEdit, noticeEdit]
  | characterMoveRs packet => simp [IntraPacket.ofNotice, push, noticeEdit]
  | objectMovePs packet => simp [IntraPacket.ofNotice, push, noticeEdit]
  | promoteObjectRq origin info => simp [IntraPacket.ofNotice, push, noticeEdit]

theorem throttled_of_push {p : ClientPacket} (h : push s packet = some p) : p.throttled = true := by
  cases packet with
  | spawnCharacterRs u info error =>
      simp only [push, Option.ite_none_right_eq_some] at h
      cases h.2
      rfl
  | removeCharacterRs u x o error => cases h; rfl
  | createObjectPs info => cases h; rfl
  | removeObjectPs x o => cases h; rfl
  | characterMoveRs packet error => cases h
  | objectMovePs packet => cases h
  | promoteObjectRq origin info => cases h
  | objectListPs x objects => cases h

/-- What is heard of an object that is not visited where it is not cached. -/
theorem cached_hear_iff {notice : Notice} (hfilled : Filled notice) (source : Nat)
    (unset : ObjectInfo) (now : Milliseconds) {y o : Nat}
    (hvisit : noticeEdit o notice = some (.visit y) → s.Cached y o) :
    (s.onIntraServerData source (.ofNotice unset notice) now).agency.Cached y o ↔
      (s.Cached y o ∧ noticeEdit o notice ≠ some (.erase y)) ∨
        noticeEdit o notice = some (.insert y) := by
  have hhear := s.cached_hear hfilled source unset now y o
  refine ⟨fun hcached => ?_, hhear.2⟩
  rcases hhear.1 hcached with hkept | hmade | hmoved
  · exact .inl hkept
  · exact .inr hmade
  · exact .inl ⟨hvisit hmoved, by rw [hmoved]; simp⟩

/-- A client that stays in its sector. -/
theorem Shown.stays {runs : Nat → Prop} {o : Nat} (ho : Shown runs s cl o) {notice : Notice}
    (hfilled : Filled notice) {unset : ObjectInfo}
    (hvisit : ∀ x, runs x → noticeEdit o notice = some (.visit x) → s.Cached x o)
    (hannounced : o ∉ (cl.hear s (.ofNotice unset notice) lanes).unannounced) {v : Nat}
    (hv : v ∈ cl.entered) {session : SessionValues}
    (hsession : s.activeSessions.find v = some session)
    (hscene : scene (lanes v) =
      (push s (.ofNotice unset notice)).elim (scene (cl.lanes v)) (scene (cl.lanes v)).after) :
    (scene (lanes v)).sectorId = some session.sectorId ∧
      (runs session.sectorId →
        (o ∈ (scene (lanes v)).objects ↔
          (s.onIntraServerData source (.ofNotice unset notice) now).agency.Cached
            session.sectorId o)) := by
  obtain ⟨hsector, hobjects⟩ := ho v hv session hsession
  obtain ⟨herase, hinsert⟩ := push_edit hfilled unset hannounced session.sectorId
  have hkept := not_congr herase
  rw [hscene]
  cases hpush : push s (.ofNotice unset notice) with
  | none =>
      rw [hpush, Option.bind_none] at hkept hinsert
      refine ⟨hsector, fun hruns => ?_⟩
      rw [cached_hear_iff hfilled source unset now (hvisit _ hruns), Ne, ← hkept, ← hinsert]
      simpa using hobjects hruns
  | some p =>
      rw [hpush, Option.bind_some] at hkept hinsert
      obtain ⟨hsector', hmem⟩ := mem_scene_after (o := o) hsector (throttled_of_push hpush)
      refine ⟨hsector', fun hruns => ?_⟩
      rw [cached_hear_iff hfilled source unset now (hvisit _ hruns), Ne, ← hkept, ← hinsert,
        ← hobjects hruns]
      exact hmem

/-- What a handler writes into the cache of a sector it shows the clients of the sector, as long as
nothing is visited that is not cached. -/
theorem Shown.hear {runs : Nat → Prop} {o : Nat} (ho : Shown runs s cl o) (h : Attended s cl)
    {notice : Notice} (hfilled : Filled notice) (unset : ObjectInfo)
    (hadmits : cl.Admits s (.ofNotice unset notice))
    (hfault : (s.onIntraServerData source (.ofNotice unset notice) now).fault = none)
    (hvisit : ∀ x, runs x → noticeEdit o notice = some (.visit x) → s.Cached x o)
    (hannounced : o ∉ (cl.hear s (.ofNotice unset notice) lanes).unannounced)
    (hdelivers : cl.Delivers (s.onIntraServerData source (.ofNotice unset notice) now).posts lanes) :
    Shown runs (s.onIntraServerData source (.ofNotice unset notice) now).agency
      (cl.hear s (.ofNotice unset notice) lanes) o := by
  intro v hv session hsession
  change (scene (lanes v)).sectorId = _ ∧ (_ → (o ∈ (scene (lanes v)).objects ↔ _))
  by_cases hold : v ∈ cl.entered
  · by_cases hclient : ∃ origin info, IntraPacket.ofNotice unset notice = .promoteObjectRq origin info ∧
        s.objectSessions.find info.objectId = some v
    · obtain ⟨origin, info, hpacket, hclient⟩ := hclient
      have hended : (s.onPlayPromoteObjectReq origin info now).fault = none := by
        rw [hpacket] at hfault
        exact hfault
      rcases promote_cases origin info hended with
        ⟨hsame, hposts⟩ | ⟨u, values, hu, hvalues, hsessions, hposts⟩
      · -- the promotion is not taken, and nobody hears of it
        refine ho.stays hfilled hvisit hannounced hold ?_ ?_
        · rw [hpacket] at hsession
          rw [← hsession]
          exact congrArg (UnorderedMap.find · v) hsame.sessions.symm
        · have hnone := hdelivers v
          rw [hpacket] at hnone ⊢
          simp only [AgencyWorker.onIntraServerData, hposts] at hnone
          exact congrArg scene hnone.eq_of_nil
      · obtain rfl : v = u := Option.some.inj (hclient.symm.trans hu)
        rw [hpacket] at hadmits hsession hdelivers ⊢
        obtain ⟨objects, hscene, hobjects⟩ := h.moves hadmits hclient hposts hdelivers
        have hfind : (s.activeSessions.insert v { values with sectorId := info.sectorId }).find v =
            some session := hsessions ▸ hsession
        rw [UnorderedMap.find_insert_self] at hfind
        cases hfind
        rw [hscene]
        exact ⟨rfl, fun _ => hobjects o⟩
    · have hunmoved : ∀ origin info, IntraPacket.ofNotice unset notice = .promoteObjectRq origin info →
          s.objectSessions.find info.objectId ≠ some v :=
        fun origin info hpacket hmoved => hclient ⟨origin, info, hpacket, hmoved⟩
      rw [find_hear hold hadmits hfault hunmoved] at hsession
      exact ho.stays hfilled hvisit hannounced hold hsession
        (h.scene_hear hold hsession (ho v hold session hsession).1 hadmits hunmoved hdelivers)
  · rcases entered_hear.1 hv with hentered | ⟨info, error, hpacket, hactive⟩
    · exact absurd hentered hold
    · rw [hpacket] at hsession hdelivers ⊢
      obtain ⟨hvalues, objects, hscene, hobjects⟩ := h.enters hold hactive hdelivers
      rw [hvalues] at hsession
      cases hsession
      rw [hscene]
      exact ⟨rfl, fun _ => hobjects o⟩

end Hear

section Sessions

variable {s : AgencyWorker} {cl : Clients} {runs : Nat → Prop} {o : Nat}

theorem accepted_accept :
    (cl.accept s).accepted = s.currentUniversalSessionId :: cl.accepted := rfl

theorem mem_asked_accept {u : Nat} (hu : u ∈ (cl.accept s).asked) :
    u ∈ cl.asked ∨ (u = s.currentUniversalSessionId ∧
      s.sectorPostingManager.getSectorOwnerSession initialSectorId ≠ none) := by
  simp only [Clients.accept, Roster.accept] at hu
  split at hu
  next howner =>
    rcases List.mem_cons.1 hu with rfl | hold
    · exact .inr ⟨rfl, Option.isSome_iff_ne_none.1 howner⟩
    · exact .inl hold
  next => exact .inl hu

/-- A client that comes is linked if it is asked for. -/
theorem Attended.accept (h : Attended s cl) (hnew : s.currentUniversalSessionId ∉ cl.accepted) :
    Attended s.accept.agency (cl.accept s) := by
  obtain ⟨hvalues, -, -, hmanager⟩ := AgencyWorker.accept_spec s
  have hold : ∀ u ∈ cl.asked, u ≠ s.currentUniversalSessionId := by
    rintro u hu rfl
    exact hnew (h.accepted _ hu)
  refine ⟨h.listening.accepts hnew, fun u hu => ?_, fun u hu hfind => ?_, fun u hu => ?_, h.held,
    h.silent⟩
  · rw [accepted_accept]
    rcases mem_asked_accept hu with hasked | ⟨rfl, _⟩
    · exact List.mem_cons_of_mem _ (h.accepted u hasked)
    · exact List.mem_cons_self
  · have hreaches : u ∈ cl.asked → s.sectorPostingManager.reaches u = true := by
      intro hasked
      rw [hvalues, UnorderedMap.find_insert_of_ne _ (hold u hasked)] at hfind
      exact h.linked u hasked hfind
    rcases hmanager with ⟨hnone, hmanager, -⟩ | ⟨howner, hmanager, -⟩
    · rw [hmanager]
      rcases mem_asked_accept hu with hasked | ⟨_, howner⟩
      · exact hreaches hasked
      · exact absurd hnone howner
    · rw [hmanager, SectorPostingManager.reaches, SectorPostingManager.link_linkSession]
      split
      · rfl
      next hne =>
        rcases mem_asked_accept hu with hasked | ⟨heq, _⟩
        · exact hreaches hasked
        · exact absurd heq hne
  · have hasked := h.asked u hu
    simp only [Clients.accept, Roster.accept]
    split
    · exact List.mem_cons_of_mem _ hasked
    · exact hasked

theorem Shown.accept (ho : Shown runs s cl o) (h : Attended s cl)
    (hnew : s.currentUniversalSessionId ∉ cl.accepted) :
    Shown runs s.accept.agency (cl.accept s) o := by
  obtain ⟨hvalues, -, -, -⟩ := AgencyWorker.accept_spec s
  intro u hu session hsession
  have hne : u ≠ s.currentUniversalSessionId := by
    rintro rfl
    exact hnew (h.accepted _ (h.asked _ hu))
  rw [hvalues, UnorderedMap.find_insert_of_ne _ hne] at hsession
  have hcache : s.accept.agency.objectCache = s.objectCache := by
    have heq := congrArg AgencyWorker.objectCache (AgencyWorker.next_elsewhere_accept s)
    exact heq.symm
  unfold AgencyWorker.Cached
  rw [hcache]
  exact ho u hu session hsession

theorem find_close {u v : Nat} {toOwner : Bool} {session : SessionValues}
    (hfind : (s.close u toOwner).agency.activeSessions.find v = some session) :
    v ≠ u ∧ s.activeSessions.find v = some session := by
  cases hu : s.activeSessions.find u with
  | none =>
      rw [AgencyWorker.close_of_none hu] at hfind
      refine ⟨?_, hfind⟩
      rintro rfl
      rw [hu] at hfind
      cases hfind
  | some values =>
      rw [(AgencyWorker.close_spec hu toOwner).1, UnorderedMap.find_erase] at hfind
      split at hfind
      · cases hfind
      next hne => exact ⟨hne, hfind⟩

/-- Something of what waits is sent or dropped. -/
theorem Attended.lose (h : Attended s cl) {lanes : Nat → Lanes ClientPacket}
    (hsub : ∀ u, (lanes u).held ⊆ (cl.lanes u).held) : Attended s { cl with lanes } where
  listening := h.listening
  accepted := h.accepted
  linked := h.linked
  asked := h.asked
  held := fun u packet hpacket => h.held u packet (hsub u hpacket)
  silent := fun u hu => List.subset_nil.1 (h.silent u hu ▸ hsub u)

theorem held_update_subset (lanes : Nat → Lanes ClientPacket) (u : Nat)
    (sent : List ClientPacket) (v : Nat) :
    (Function.update lanes u ⟨sent, []⟩ v).held ⊆ (lanes v).held := by
  by_cases hv : v = u
  · subst hv
    rw [Function.update_self]
    exact List.nil_subset _
  · rw [Function.update_of_ne hv]
    exact List.Subset.refl _

theorem Attended.close (h : Attended s cl) (u : Nat) (toOwner : Bool) :
    Attended (s.close u toOwner).agency (cl.close u) := by
  have hlinked : ∀ v ∈ cl.asked, (s.close u toOwner).agency.activeSessions.find v ≠ none →
      (s.close u toOwner).agency.sectorPostingManager.reaches v = true := by
    intro v hv hfind
    obtain ⟨session, hsession⟩ := Option.ne_none_iff_exists'.1 hfind
    obtain ⟨hne, hold⟩ := find_close hsession
    have hreaches := h.linked v hv (by simp [hold])
    cases hu : s.activeSessions.find u with
    | none =>
        rw [AgencyWorker.close_of_none hu]
        exact hreaches
    | some values =>
        rcases (AgencyWorker.close_spec hu toOwner).2.2 with ⟨-, -, hmanager, -⟩ | ⟨-, -, hmanager, -⟩
        · rw [hmanager, SectorPostingManager.reaches, SectorPostingManager.link_unsetAll, if_neg hne]
          exact hreaches
        · rw [hmanager, SectorPostingManager.reaches, SectorPostingManager.link_unsetAll, if_neg hne,
            SectorPostingManager.link_unsetAll, if_neg hne]
          exact hreaches
  have hclosed : Attended (s.close u toOwner).agency cl :=
    ⟨h.listening.closes u toOwner, h.accepted, hlinked, h.asked, h.held, h.silent⟩
  exact hclosed.lose (held_update_subset _ _ _)

theorem Shown.close (ho : Shown runs s cl o) (u : Nat) (toOwner : Bool) :
    Shown runs (s.close u toOwner).agency (cl.close u) o := by
  intro v hv session hsession
  obtain ⟨hne, hold⟩ := find_close hsession
  have hcache : (s.close u toOwner).agency.objectCache = s.objectCache := by
    have heq := congrArg AgencyWorker.objectCache (AgencyWorker.next_elsewhere_close s u toOwner)
    exact heq.symm
  have hlane : (cl.close u).lanes v = cl.lanes v := by simp [Clients.close, hne]
  unfold AgencyWorker.Cached
  rw [hcache, hlane]
  exact ho v hv session hold

theorem scene_flush (cl : Clients) (v : Nat) : scene (cl.flush.lanes v) = scene (cl.lanes v) :=
  Lanes.replay_flush

theorem Attended.flush (h : Attended s cl) : Attended s cl.flush :=
  h.lose fun _ => List.nil_subset _

theorem Shown.flush (ho : Shown runs s cl o) : Shown runs s cl.flush o := by
  intro v hv session hsession
  rw [scene_flush]
  exact ho v hv session hsession

end Sessions

end Agency
end SeamlessServer
