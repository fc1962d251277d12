import SeamlessServer.Game.SectorPostingManager
import SeamlessServer.Game.SingleOwner

/-!
# Game.Answers — who is answered when a request has been passed on

An agency asks a play server to move or to remove an object.  A server that has handed the object
over passes the request on, and the server it comes to takes it for a request of the server it came
from: `request_server_id` is the server of the session that the packet arrived on.

The machine here is the cluster together with the origin of each request under way, and with what the
owners have posted in answer.  `answersTo_iff_direct` says that the agency is answered exactly if the
server it asked was the owner.
-/

namespace SeamlessServer
namespace Game

open Utility Protocol

/-! ## Requests of agencies -/

/-- What an agency asks for on behalf of a client. -/
inductive ClientRequest
  | move (packet : CharacterMoveRq)
  | remove (packet : RemoveCharacterRq)
  deriving DecidableEq

namespace ClientRequest

def ofPacket : PlayPacket → Option ClientRequest
  | .characterMoveRq packet => some (.move packet)
  | .removeCharacterRq packet => some (.remove packet)
  | _ => none

def toOwner : ClientRequest → Bool
  | .move packet => packet.toOwner
  | .remove packet => packet.toOwner

def sectorId : ClientRequest → Nat
  | .move packet => packet.sectorId
  | .remove packet => packet.sectorId

def objectId : ClientRequest → Nat
  | .move packet => packet.objectId
  | .remove packet => packet.objectId

/-- The response of the owner. -/
def response : ClientRequest → Notice
  | .move packet => .characterMoveRs packet
  | .remove packet => .removeCharacterRs packet.userId packet.sectorId packet.objectId .None

/-- What the owner tells the listeners of the sector. -/
def broadcast : ClientRequest → Notice
  | .move packet => .objectMovePs packet
  | .remove packet => .removeObjectPs packet.sectorId packet.objectId

/-- `MoveObject` or `RemoveCharacter`, for a request that came from a server. -/
def serve (w : World) (source : Nat) : ClientRequest → Outcome
  | .move packet => w.moveObject source packet
  | .remove packet => w.removeCharacter source packet

theorem handle_eq_serve {w : World} {source : Nat} {packet : PlayPacket} {now : Milliseconds}
    {request : ClientRequest} (h : ofPacket packet = some request) :
    w.handle source packet now = request.serve w source := by
  cases packet with
  | createObservingObjectRq | removeObservingObjectRq | promoteObjectRq => cases h
  | characterMoveRq packet =>
      cases h
      rfl
  | removeCharacterRq packet =>
      cases h
      rfl

end ClientRequest

/-- The response goes to the agency and to nobody else, and of the listeners of the sector the agency
is the one that is left out. -/
structure AnswersTo (agency : Nat) (request : ClientRequest) (posts : List Posting) : Prop where
  response : ∀ targetId, .toServer targetId request.response ∈ posts ↔ targetId = agency
  broadcast : ∃ ignored, .toSectorWithout ignored request.broadcast request.sectorId ∈ posts ∧
    ∀ m : SectorPostingManager, m.sendToSectorWithout ignored request.sectorId =
      (m.sendToSector request.sectorId).filter (· ≠ agency)

/-! ## What the owner posts -/

theorem World.find_of_fixtureAt {w : World} {x o : Nat} {f : Fixture}
    (h : w.fixtureAt x o = some f) :
    ∃ sector, w.sectors.find x = some (some sector) ∧ sector.getFixture o = some f := by
  unfold World.fixtureAt at h
  split at h
  next sector hfind => exact ⟨sector, hfind, h⟩
  next => cases h

/-- What goes out to the copies, if there are any: a notice and a request for each of them. -/
def toCopies (gray : Prop) [Decidable gray] (ids : List Nat) (notice : Nat → Notice)
    (copy : Nat → PlayPacket) : List Posting :=
  if gray then ids.flatMap fun id => [.toSector (notice id) id, .toSectorOwner (copy id) id] else []

section Copies

variable {gray : Prop} [Decidable gray] {ids : List Nat} {notice : Nat → Notice}
  {copy : Nat → PlayPacket}

/-- Copies are told, and nobody is answered. -/
theorem toServer_not_mem_toCopies (targetId : Nat) (response : Notice) :
    Posting.toServer targetId response ∉ toCopies gray ids notice copy := by
  unfold toCopies
  split_ifs <;> simp

/-- The requests to copies are what the given function makes. -/
theorem of_toSectorOwner_mem_toCopies {packet : PlayPacket} {x : Nat}
    (h : Posting.toSectorOwner packet x ∈ toCopies gray ids notice copy) : packet = copy x := by
  unfold toCopies at h
  split_ifs at h
  · obtain ⟨id, _, hid⟩ := List.mem_flatMap.1 h
    rcases List.mem_cons.1 hid with hnotice | hcopy
    · cases hnotice
    · cases List.mem_singleton.1 hcopy
      rfl
  · cases h

end Copies

/-- The owner posts a response and a broadcast, and then notices and requests to copies. -/
theorem ClientRequest.serve_owner {w : World} (source : Nat) {request : ClientRequest}
    {f : Fixture} (h : w.fixtureAt request.sectorId request.objectId = some f) (hobs : f.isObservingFixture = false) :
    (∀ targetId, .toServer targetId request.response ∈ (request.serve w source).posts ↔
        targetId = source) ∧
      .toSectorWithout source request.broadcast request.sectorId ∈
        (request.serve w source).posts ∧
      ∀ packet x, .toSectorOwner packet x ∈ (request.serve w source).posts →
        packet.toOwner = false := by
  obtain ⟨sector, hfind, hfixture⟩ := World.find_of_fixtureAt h
  cases request with
  | move packet =>
      have hposts : ((ClientRequest.move packet).serve w source).posts =
          [.toSectorWithout source (.objectMovePs packet) packet.sectorId,
            .toServer source (.characterMoveRs packet)] ++
          toCopies (f.location = .Gray) (nearSectors packet.sectorId f.phase)
            (fun id => .objectMovePs { packet with sectorId := id })
            (fun id => .characterMoveRq { packet with sectorId := id, toOwner := false }) := by
        simp only [ClientRequest.sectorId, ClientRequest.objectId] at hfind hfixture
        simp [ClientRequest.serve, World.moveObject, World.sectorAt_of_find hfind, hfixture, hobs,
          toCopies]
      -- the first two are what a response and a broadcast are, the rest goes to copies
      rw [hposts]
      refine ⟨fun targetId => ?_, List.mem_append_left _ List.mem_cons_self, fun packet' x hmem => ?_⟩
      · rw [List.mem_append, or_iff_left (toServer_not_mem_toCopies targetId _)]
        simp [ClientRequest.response]
      · rcases List.mem_append.1 hmem with hanswer | hcopy
        · simp at hanswer
        · rw [of_toSectorOwner_mem_toCopies hcopy]
          rfl
  | remove packet =>
      have hposts : ((ClientRequest.remove packet).serve w source).posts =
          [.toServer source
            (.removeCharacterRs packet.userId packet.sectorId packet.objectId .None),
           .toSectorWithout source (.removeObjectPs packet.sectorId packet.objectId)
            packet.sectorId] ++
          toCopies (f.location = .Gray) (nearSectors packet.sectorId f.phase)
            (fun id => .removeObjectPs id packet.objectId)
            (fun id => .removeCharacterRq { packet with sectorId := id, toOwner := false }) := by
        simp only [ClientRequest.sectorId, ClientRequest.objectId] at hfind hfixture
        simp [ClientRequest.serve, World.removeCharacter, World.sectorAt_of_find hfind, hfixture,
          hobs, toCopies]
      rw [hposts]
      refine ⟨fun targetId => ?_,
        List.mem_append_left _ (List.mem_cons_of_mem _ List.mem_cons_self),
        fun packet' x hmem => ?_⟩
      · rw [List.mem_append, or_iff_left (toServer_not_mem_toCopies targetId _)]
        simp [ClientRequest.response]
      · rcases List.mem_append.1 hmem with hanswer | hcopy
        · simp at hanswer
        · rw [of_toSectorOwner_mem_toCopies hcopy]
          rfl

/-- The owner answers the server that the request came from. -/
theorem ClientRequest.answersTo_iff {w : World} {source agency : Nat} {request : ClientRequest}
    {f : Fixture} (h : w.fixtureAt request.sectorId request.objectId = some f)
    (hobs : f.isObservingFixture = false) :
    AnswersTo agency request (request.serve w source).posts ↔ source = agency := by
  obtain ⟨hresponse, hbroadcast, _⟩ := serve_owner source h hobs
  constructor
  · intro hanswers
    exact (hanswers.response source).1 ((hresponse source).2 rfl)
  · rintro rfl
    exact ⟨hresponse, source, hbroadcast, fun m => m.sendToSectorWithout_eq source _⟩

/-! ## The cluster with the origin of each request -/

/-- Where a request comes from. -/
structure Origin where
  agency : Nat
  /-- The server that the agency asked held the owner. -/
  direct : Bool
  /-- How often the request has been passed on. -/
  hops : Nat := 0
  deriving DecidableEq

def Origin.passOn (origin : Origin) : Origin := { origin with hops := origin.hops + 1 }

/-- A request that has reached the owner, and what the owner has posted. -/
structure Answer where
  origin : Origin
  request : ClientRequest
  posts : List Posting

structure Asking where
  cluster : Cluster
  /-- The packets under way, requests that are passed on with their origin. -/
  posted : List (Envelope × Option Origin)
  answers : List Answer

namespace Asking

/-- The handler that an event calls. -/
def outcome (c : Cluster) : Event → Option (Nat × Outcome)
  | .spawn k agency packet now => some (k, (c.worlds k).spawnCharacter agency packet now)
  | .move k agency packet => some (k, (c.worlds k).moveObject agency packet)
  | .remove k agency packet => some (k, (c.worlds k).removeCharacter agency packet)
  | .update k clock => some (k, (c.worlds k).update clock)
  | .deliver index now =>
      (c.channelHead index).map fun e => (e.target, (c.worlds e.target).handle e.source e.packet now)
  | .rehashSectors _ _ => none
  | .rehashFixtures _ _ _ => none

/-- The request for the owner that an event brings to a server. -/
def arrival (s : Asking) : Event → Option (Origin × ClientRequest)
  | .move k agency packet =>
      if packet.toOwner then
        some (⟨agency, s.cluster.owns k packet.sectorId packet.objectId, 0⟩, .move packet)
      else
        none
  | .remove k agency packet =>
      if packet.toOwner then
        some (⟨agency, s.cluster.owns k packet.sectorId packet.objectId, 0⟩, .remove packet)
      else
        none
  | .deliver index _ =>
      match s.cluster.channelHead index, s.posted[index]? with
      | some e, some (_, some origin) => (ClientRequest.ofPacket e.packet).map (origin, ·)
      | _, _ => none
  | _ => none

/-- The packets that stay under way. -/
def remaining (s : Asking) : Event → List (Envelope × Option Origin)
  | .deliver index _ =>
      if (s.cluster.channelHead index).isSome then s.posted.eraseIdx index else s.posted
  | _ => s.posted

/-- A posted packet that is for the owner passes on the request that has arrived. -/
def label (arrived : Option (Origin × ClientRequest)) (e : Envelope) : Envelope × Option Origin :=
  (e, if e.packet.toOwner then arrived.map fun a => a.1.passOn else none)

def next (D : Deployment) (s : Asking) (e : Event) : Asking where
  cluster := s.cluster.next D e
  posted := s.remaining e ++ match outcome s.cluster e with
    | some (k, r) => (route D k r.posts).map (label (s.arrival e))
    | none => []
  answers := s.answers ++ match outcome s.cluster e, s.arrival e with
    | some (k, r), some (origin, request) =>
        if s.cluster.owns k request.sectorId request.objectId then
          [⟨origin, request, r.posts⟩]
        else
          []
    | _, _ => []

/-- Agencies ask play servers, and are none. -/
def Admits (D : Deployment) : Event → Prop
  | .move k agency _ => (∃ x, D.owner x = some k) ∧ ∀ x, D.owner x ≠ some agency
  | .remove k agency _ => (∃ x, D.owner x = some k) ∧ ∀ x, D.owner x ≠ some agency
  | _ => True

def machine (D : Deployment) : Machine Asking Event where
  init := fun s => s = ⟨Cluster.new D, [], []⟩
  step := fun s e s' => Admits D e ∧ s.cluster.Enabled e ∧ s' = s.next D e

/-! ## The invariant -/

/-- A request that is passed on was not direct, and its last and its next server are play servers. -/
structure PassedOn (D : Deployment) (e : Envelope) (origin : Origin) : Prop where
  direct : origin.direct = false
  hops : 0 < origin.hops
  source : ∃ x, D.owner x = some e.source
  target : ∃ x, D.owner x = some e.target
  agency : ∀ x, D.owner x ≠ some origin.agency

structure Traced (D : Deployment) (s : Asking) : Prop where
  flight : s.cluster.flight = s.posted.map Prod.fst
  passed : ∀ e origin, (e, some origin) ∈ s.posted → PassedOn D e origin
  answers : ∀ a ∈ s.answers,
    (AnswersTo a.origin.agency a.request a.posts ↔ a.origin.direct = true) ∧
      (a.origin.direct = true ↔ a.origin.hops = 0)

variable {D : Deployment} {s : Asking}

theorem flight_next (h : s.cluster.flight = s.posted.map Prod.fst) (e : Event) :
    (s.cluster.next D e).flight = (s.next D e).posted.map Prod.fst := by
  have hlabel : ∀ (arrived : Option (Origin × ClientRequest)) (envelopes : List Envelope),
      (envelopes.map (label arrived)).map Prod.fst = envelopes := by
    intro arrived envelopes
    rw [List.map_map]
    exact List.map_id _
  cases e with
  | spawn | move | remove | update =>
      simp [next, remaining, outcome, hlabel, Cluster.next, Cluster.absorb, h]
  | deliver index now =>
      cases hhead : s.cluster.channelHead index with
      | none => simp [next, remaining, outcome, Cluster.next, hhead, h]
      | some e =>
          simp [next, remaining, outcome, hlabel, Cluster.next, Cluster.absorb, hhead, h,
            List.eraseIdx_map]
  | rehashSectors => simp [next, remaining, outcome, Cluster.next, h]
  | rehashFixtures k sectorId order =>
      have hflight : (s.cluster.next D (.rehashFixtures k sectorId order)).flight =
          s.cluster.flight := by
        unfold Cluster.next
        dsimp only
        split <;> rfl
      rw [hflight]
      simp [next, remaining, outcome, h]

theorem mem_route {source : Nat} {posts : List Posting} {e : Envelope}
    (h : e ∈ route D source posts) :
    e.source = source ∧
      ∃ x, .toSectorOwner e.packet x ∈ posts ∧ D.owner x = some e.target := by
  obtain ⟨posting, hposting, he⟩ := List.mem_filterMap.1 h
  cases posting with
  | toSectorOwner packet x =>
      obtain ⟨k, hk, rfl⟩ := Option.map_eq_some_iff.1 he
      exact ⟨rfl, x, hposting, hk⟩
  | toSector | toSectorWithout | toServer | reply => cases he

theorem fixture_of_owns {c : Cluster} {k x o : Nat} (h : c.owns k x o = true) :
    ∃ f, (c.worlds k).fixtureAt x o = some f ∧ f.isObservingFixture = false := by
  obtain ⟨f, hf, hobs⟩ := (Option.any_eq_true _ _).1 h
  exact ⟨f, hf, by simpa using hobs⟩

/-- A request that arrives is served: it comes from the agency that asks, or it has been passed on by
a play server. -/
theorem Traced.arrival (h : Traced D s) {e : Event} (hadmits : Admits D e) {origin : Origin}
    {request : ClientRequest} (harrival : s.arrival e = some (origin, request)) :
    ∃ k source, outcome s.cluster e = some (k, request.serve (s.cluster.worlds k) source) ∧
      (∃ x, D.owner x = some k) ∧ (∀ x, D.owner x ≠ some origin.agency) ∧
      ((source = origin.agency ∧ origin.hops = 0 ∧
          origin.direct = s.cluster.owns k request.sectorId request.objectId) ∨
        (source ≠ origin.agency ∧ 0 < origin.hops ∧ origin.direct = false)) := by
  cases e with
  | spawn | update | rehashSectors | rehashFixtures => cases harrival
  | move k agency packet =>
      unfold Asking.arrival at harrival
      dsimp only at harrival
      split at harrival
      next =>
        cases harrival
        exact ⟨k, agency, rfl, hadmits.1, hadmits.2, .inl ⟨rfl, rfl, rfl⟩⟩
      next => cases harrival
  | remove k agency packet =>
      unfold Asking.arrival at harrival
      dsimp only at harrival
      split at harrival
      next =>
        cases harrival
        exact ⟨k, agency, rfl, hadmits.1, hadmits.2, .inl ⟨rfl, rfl, rfl⟩⟩
      next => cases harrival
  | deliver index now =>
      unfold Asking.arrival at harrival
      dsimp only at harrival
      split at harrival
      next e e' origin' hhead hposted =>
        obtain ⟨request', hrequest, heq⟩ := Option.map_eq_some_iff.1 harrival
        cases heq
        -- the origin is that of the packet that is delivered
        obtain ⟨pre, suf, hsplit⟩ := List.append_of_mem (List.mem_of_getElem? hposted)
        have hflight : s.cluster.flight[index]? = some e' := by
          rw [h.flight, List.getElem?_map, hposted]
          rfl
        have he : e = e' := by
          unfold Cluster.channelHead at hhead
          rw [hflight] at hhead
          dsimp only at hhead
          split at hhead
          · cases hhead
          · exact (Option.some.inj hhead).symm
        subst he
        have hpassed := h.passed e origin (List.mem_of_getElem? hposted)
        refine ⟨e.target, e.source, ?_, hpassed.target, hpassed.agency,
          .inr ⟨?_, hpassed.hops, hpassed.direct⟩⟩
        · rw [outcome, hhead, Option.map_some, ClientRequest.handle_eq_serve hrequest]
        · obtain ⟨x, hx⟩ := hpassed.source
          exact fun heq => hpassed.agency x (heq ▸ hx)
      next => cases harrival

theorem Traced.step (h : Traced D s) {e : Event} (hadmits : Admits D e) : Traced D (s.next D e) := by
  refine ⟨flight_next h.flight e, fun e' origin' hmem => ?_, fun a ha => ?_⟩
  -- the requests under way: those that were there, and those that are passed on now
  · rcases List.mem_append.1 hmem with hold | hnew
    · refine h.passed e' origin' ?_
      cases e with
      | deliver index now =>
          unfold remaining at hold
          dsimp only at hold
          split at hold
          · exact List.mem_of_mem_eraseIdx hold
          · exact hold
      | spawn | move | remove | update | rehashSectors | rehashFixtures => exact hold
    · cases harrival : s.arrival e with
      -- no request has arrived, and what is sent is none
      | none =>
          split at hnew
          · obtain ⟨e'', _, heq⟩ := List.mem_map.1 hnew
            rw [harrival] at heq
            simp [label] at heq
          · cases hnew
      | some arrived =>
          obtain ⟨origin, request⟩ := arrived
          obtain ⟨k, source, houtcome, hk, hagency, hsource⟩ := h.arrival hadmits harrival
          rw [houtcome, harrival] at hnew
          obtain ⟨e'', hroute, heq⟩ := List.mem_map.1 hnew
          obtain ⟨hfrom, x, hposting, hx⟩ := mem_route hroute
          unfold label at heq
          split at heq
          next hto =>
            cases heq
            -- a server that passes the request on is not the owner, so the request has not arrived
            -- where it was meant to
            have hdirect : origin.direct = false := by
              rcases hsource with ⟨_, _, hdirect⟩ | ⟨_, _, hdirect⟩
              · rw [hdirect]
                by_contra howns
                obtain ⟨f, hf, hobs⟩ := fixture_of_owns (Bool.of_not_eq_false howns)
                have hcopies := (ClientRequest.serve_owner source hf hobs).2.2 _ _ hposting
                rw [hcopies] at hto
                cases hto
              · exact hdirect
            exact ⟨hdirect, Nat.succ_pos _, ⟨hk.choose, by rw [hfrom]; exact hk.choose_spec⟩,
              ⟨x, hx⟩, hagency⟩
          next => cases heq
  -- the answers: only the owner gives one
  · rcases List.mem_append.1 ha with hold | hnew
    · exact h.answers a hold
    · cases harrival : s.arrival e with
      | none =>
          rw [harrival] at hnew
          split at hnew
          next heq => cases heq
          next => cases hnew
      | some arrived =>
          obtain ⟨origin, request⟩ := arrived
          obtain ⟨k, source, houtcome, _, _, hsource⟩ := h.arrival hadmits harrival
          rw [houtcome, harrival] at hnew
          dsimp only at hnew
          split at hnew
          next howns =>
            obtain rfl := List.mem_singleton.1 hnew
            obtain ⟨f, hf, hobs⟩ := fixture_of_owns howns
            dsimp only
            rw [ClientRequest.answersTo_iff hf hobs]
            rcases hsource with ⟨hasked, hhops, hdirect⟩ | ⟨hpassed, hhops, hdirect⟩
            · rw [howns] at hdirect
              exact ⟨iff_of_true hasked hdirect, iff_of_true hdirect hhops⟩
            · have hnot : ¬ origin.direct = true := by
                rw [hdirect]
                exact Bool.false_ne_true
              exact ⟨iff_of_false hpassed hnot, iff_of_false hnot hhops.ne'⟩
          next => cases hnew

theorem traced_of_reachable (hreach : (machine D).Reachable s) : Traced D s := by
  refine Machine.Reachable.invariant (P := Traced D) ?_ ?_ hreach
  · rintro _ rfl
    exact ⟨rfl, fun _ _ hmem => absurd hmem List.not_mem_nil,
      fun _ hmem => absurd hmem List.not_mem_nil⟩
  · rintro s e _ h ⟨hadmits, _, rfl⟩
    exact h.step hadmits

/-- In every run, whatever chain of servers a request is passed on through: the owner answers the
agency that asked, and leaves the agency and no other listener out of its broadcast, exactly if the
server that was asked held the owner, which is to say that the request was not passed on. -/
theorem answersTo_iff_direct (D : Deployment) {s : Asking} (hreach : (machine D).Reachable s)
    {a : Answer} (ha : a ∈ s.answers) :
    (AnswersTo a.origin.agency a.request a.posts ↔ a.origin.direct = true) ∧
      (a.origin.direct = true ↔ a.origin.hops = 0) :=
  (traced_of_reachable hreach).answers a ha

/-! ## A request that crosses a hand-over -/

section Sample

open Cluster (threeServers firstId handOverEvents)

/-- The object is handed over to server 3, and then the agency asks server 2 to move it once more. -/
def askingEvents : List Event :=
  handOverEvents ++
    [.move 2 9 ⟨12, firstId, ⟨7400, 4000⟩, .Max, true⟩, .deliver 2 1000, .deliver 2 1000,
      .deliver 2 1000]

def asked : Asking := askingEvents.foldl (next threeServers) ⟨Cluster.new threeServers, [], []⟩

theorem reachable_asked : (machine threeServers).Reachable asked := by
  have hrun : (machine threeServers).Run ⟨Cluster.new threeServers, [], []⟩ askingEvents asked := by
    have hasks : (∃ x, threeServers.owner x = some 2) ∧ ∀ x, threeServers.owner x ≠ some 9 := by
      refine ⟨⟨12, rfl⟩, fun x => ?_⟩
      unfold threeServers
      dsimp only
      split_ifs <;> simp
    refine .cons ⟨trivial, ⟨2, rfl, rfl⟩, rfl⟩ (.cons ⟨hasks, ⟨2, rfl, ?_⟩, rfl⟩
      (.cons ⟨trivial, ⟨2, rfl, ?_⟩, rfl⟩ (.cons ⟨hasks, ⟨2, rfl, ?_⟩, rfl⟩
        (.cons ⟨trivial, ⟨3, ?_, ?_⟩, rfl⟩ (.cons ⟨trivial, ⟨3, ?_, ?_⟩, rfl⟩
          (.cons ⟨trivial, ⟨3, ?_, ?_⟩, rfl⟩ (.nil _))))))) <;>
      decide +kernel
  exact hrun.reachable (.init rfl)

/-- Server 3 answers server 2, which passed the request on. -/
theorem asked_answers : ∃ a ∈ asked.answers, a.origin.agency = 9 ∧ a.origin.direct = false ∧
    .toServer 2 a.request.response ∈ a.posts := by
  have hany : asked.answers.any (fun a => decide (a.origin.agency = 9 ∧ a.origin.direct = false ∧
      .toServer 2 a.request.response ∈ a.posts)) = true := by
    decide +kernel
  obtain ⟨a, ha, hposts⟩ := List.any_eq_true.1 hany
  exact ⟨a, ha, of_decide_eq_true hposts⟩

theorem forwarded_answer_misses_agency :
    ¬ ∀ (D : Deployment) (s : Asking), (machine D).Reachable s → ∀ a ∈ s.answers,
      AnswersTo a.origin.agency a.request a.posts := by
  intro h
  obtain ⟨a, ha, hagency, _, hposts⟩ := asked_answers
  have hanswers := h threeServers asked reachable_asked a ha
  have htwo := (hanswers.response 2).1 hposts
  rw [hagency] at htwo
  cases htwo

theorem answersTo_iff_direct_asked :
    ∃ a ∈ asked.answers,
      (AnswersTo a.origin.agency a.request a.posts ↔ a.origin.direct = true) ∧
        (a.origin.direct = true ↔ a.origin.hops = 0) := by
  obtain ⟨a, ha, _⟩ := asked_answers
  exact ⟨a, ha, answersTo_iff_direct threeServers reachable_asked ha⟩

end Sample

end Asking

end Game
end SeamlessServer
