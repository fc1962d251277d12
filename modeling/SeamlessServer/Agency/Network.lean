import SeamlessServer.Agency.Worker
import SeamlessServer.Game.Answers

/-!
# Agency.Network — an agency in front of a cluster of play servers

One agency, linked to all play servers of a cluster throughout.  Its requests and the notices of the
play servers are kept in the order they were posted; the requests to one server form a channel, and
so do the notices of one server, and a step takes the first of some channel.  Clients come, move and
go at any time.

The records of the ids given to clients, of the objects spawned for them and of the objects the
agency has asked to remove are not read by any step.
-/

namespace SeamlessServer
namespace Agency

open Game Protocol Utility

/-! ## Channels -/

section Channels

variable {β : Type*}

/-- The entry of a list of messages, if it is the first of its server. -/
def firstOf (channels : List (Nat × β)) (index : Nat) : Option (Nat × β) :=
  match channels[index]? with
  | none => none
  | some e => if (channels.take index).any fun e' => e'.1 == e.1 then none else some e

theorem firstOf_split {channels : List (Nat × β)} {index : Nat} {e : Nat × β}
    (h : firstOf channels index = some e) :
    channels = channels.take index ++ e :: channels.drop (index + 1) ∧
      channels.eraseIdx index = channels.take index ++ channels.drop (index + 1) := by
  unfold firstOf at h
  cases hget : channels[index]? with
  | none =>
      simp [hget] at h
  | some e' =>
      have he : e' = e := by
        simp only [hget] at h
        split_ifs at h
        simpa using h
      rcases List.getElem?_eq_some_iff.1 hget with ⟨hlt, hget⟩
      refine ⟨?_, List.eraseIdx_eq_take_drop_succ _ _⟩
      rw [← he, ← hget, List.getElem_cons_drop, List.take_append_drop]

theorem mem_of_firstOf {channels : List (Nat × β)} {index : Nat} {e : Nat × β}
    (h : firstOf channels index = some e) : e ∈ channels := by
  rw [(firstOf_split h).1]
  exact List.mem_append_right _ List.mem_cons_self

end Channels

/-! ## The agency and its play servers -/

/-- A cluster and the id of its agency.  No server has the id zero, which stands for no owner. -/
structure Site where
  deployment : Deployment
  agencyId : Nat
  nonzero : ∀ x, deployment.owner x ≠ some 0

/-- The posting manager of a server that knows the owners of all sectors and is linked to them. -/
def linkedManager (D : Deployment) : SectorPostingManager where
  sectors := fun x => { ownerId := if x < sectorCount then (D.owner x).getD 0 else 0 }
  sessions := fun k =>
    if D.sectorsOf k = [] then {}
    else { session := some (.socket k), relatedSectors := D.sectorsOf k }

/-- An agency without clients. -/
def AgencyWorker.new (site : Site) : AgencyWorker where
  currentUniversalSessionId := (site.agencyId * 1000000000000000 + 100000000000001) % 2 ^ 64
  activeSessions := UnorderedMap.empty
  objectSessions := UnorderedMap.empty
  objectCache := fun _ => UnorderedMap.empty
  sectorPostingManager := linkedManager site.deployment

structure Network where
  cluster : Cluster
  agency : AgencyWorker
  /-- The failed assertion that has ended the agency. -/
  fault : Option AgencyFault := none
  /-- The requests under way, with the servers they go to. -/
  requests : List (Nat × AgencyPacket) := []
  /-- The notices under way, with the servers they come from. -/
  notices : List (Nat × Notice) := []
  /-- The ids that clients were given. -/
  users : List Nat := []
  /-- The users with the objects that were spawned for them. -/
  spawned : List (Nat × Nat) := []
  /-- The objects that the agency has asked to remove. -/
  dismissed : List Nat := []

inductive NetworkEvent
  | accept
  | close (userId : Nat) (toOwner : Bool)
  | move (userId : Nat) (position : Vector2) (direction : Direction)
  | serve (index : Nat) (now : Milliseconds)
  | hear (index : Nat) (now : Milliseconds) (unset : ObjectInfo)
  | play (e : Event)

/-! ## What the agency hears -/

/-- The notice of a posting, if it reaches the agency, which listens to every sector.  A reply goes to
the server that has asked. -/
def heard (agencyId : Nat) (requester : Option Nat) : Posting → Option Notice
  | .toSectorOwner _ _ => none
  | .toSector notice _ => some notice
  | .toSectorWithout ignored notice _ => if ignored = agencyId then none else some notice
  | .toServer targetId notice => if targetId = agencyId then some notice else none
  | .reply notice => if requester = some agencyId then some notice else none

/-- The server whose packet is handled. -/
def requester (c : Cluster) : Event → Option Nat
  | .spawn _ agency _ _ => some agency
  | .move _ agency _ => some agency
  | .remove _ agency _ => some agency
  | .deliver index _ => (c.channelHead index).map Envelope.source
  | _ => none

/-- The notices that an event of the cluster posts. -/
def noticesOf (agencyId : Nat) (c : Cluster) (e : Event) : List (Nat × Notice) :=
  match Asking.outcome c e with
  | some (k, r) => (r.posts.filterMap (heard agencyId (requester c e))).map (k, ·)
  | none => []

/-! ## Steps -/

/-- What a request of an agency is to the server it reaches: `PlayWorker::OnIntraServerData` has no
case for a response. -/
def requestEvent (agencyId k : Nat) (now : Milliseconds) : AgencyPacket → Option Event
  | .spawnCharacterRq packet => some (.spawn k agencyId packet now)
  | .characterMoveRq packet => some (.move k agencyId packet)
  | .removeCharacterRq packet => some (.remove k agencyId packet)
  | .removeCharacterRs _ _ _ => none

/-- The users with the objects that an event spawns for them. -/
def spawns (c : Cluster) : Event → List (Nat × Nat)
  | .spawn k _ packet _ => (c.nextFixtureId k packet.sectorId).toList.map (packet.userId, ·)
  | _ => []

/-- The requests among the postings of the agency. -/
def AgencyOutcome.requests (r : AgencyOutcome) : List (Nat × AgencyPacket) :=
  r.posts.filterMap fun
    | .toServer targetId packet => some (targetId, packet)
    | _ => none

/-- The objects that the close of a client asks to remove. -/
def AgencyWorker.dismisses (s : AgencyWorker) (userId : Nat) : List Nat :=
  (s.activeSessions.find userId).toList.map SessionValues.objectId |>.filter (· ≠ 0)

namespace Network

variable (site : Site) (s : Network)

/-- An event of the cluster. -/
def play (e : Event) : Network :=
  { s with
    cluster := s.cluster.next site.deployment e
    notices := s.notices ++ noticesOf site.agencyId s.cluster e
    spawned := s.spawned ++ spawns s.cluster e }

/-- The effect of a handler of the agency. -/
def absorb (r : AgencyOutcome) : Network :=
  { s with
    agency := r.agency
    fault := r.fault
    requests := s.requests ++ r.requests }

def next : NetworkEvent → Network
  | .accept =>
      { s.absorb s.agency.accept with users := s.users ++ [s.agency.currentUniversalSessionId] }
  | .close userId toOwner =>
      { s.absorb (s.agency.close userId toOwner) with
        dismissed := s.dismissed ++ s.agency.dismisses userId }
  | .move userId position direction => s.absorb (s.agency.onClientData userId position direction)
  | .serve index now =>
      match firstOf s.requests index with
      | none => s
      | some (k, packet) =>
          let s := { s with requests := s.requests.eraseIdx index }
          match requestEvent site.agencyId k now packet with
          | none => s
          | some e => s.play site e
  | .hear index now unset =>
      match firstOf s.notices index with
      | none => s
      | some (source, notice) =>
          let s := { s with notices := s.notices.eraseIdx index }
          s.absorb (s.agency.onIntraServerData source (.ofNotice unset notice) now)
  | .play e => s.play site e

/-- An event that is no request of an agency. -/
def Internal : Event → Prop
  | .spawn _ _ _ _ => False
  | .move _ _ _ => False
  | .remove _ _ _ => False
  | _ => True

def Enabled : NetworkEvent → Prop
  | .serve index _ => ∃ k packet, firstOf s.requests index = some (k, packet) ∧
      s.cluster.halted k = none
  | .hear index _ _ => s.fault = none ∧ ∃ e, firstOf s.notices index = some e
  | .play e => Internal e ∧ s.cluster.Enabled e
  | _ => s.fault = none

def new : Network where
  cluster := Cluster.new site.deployment
  agency := AgencyWorker.new site

/-- The network as a machine. -/
def machine : Machine Network NetworkEvent where
  init := fun s => s = new site
  step := fun s e s' => s.Enabled e ∧ s' = s.next site e

/-- No message is in flight. -/
structure Quiet (s : Network) : Prop where
  requests : s.requests = []
  notices : s.notices = []
  flight : s.cluster.flight = []

end Network

end Agency
end SeamlessServer
