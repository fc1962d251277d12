import SeamlessServer.Data.Machine
import SeamlessServer.Game.World

/-!
# Game.Cluster — play servers exchanging packets

A cluster is a number of play servers under a fixed allocation of sectors.  Packets between them are
kept in one list in the order they were posted; the packets of an ordered pair of servers form a
channel, the loopback included, and a delivery takes the oldest packet of some channel.  A server
that throws or fails an assertion is halted: it takes no further steps, what it has posted stays
under way.

Postings to agencies leave the cluster.  The records of the ids `issued` by spawns and of the objects
`retired` by removal requests are not read by any step.
-/

namespace SeamlessServer
namespace Game

open Utility Protocol

/-- The owner of each sector. -/
structure Deployment where
  owner : Nat → Option Nat

/-- Every sector of the grid has an owner. -/
def Deployment.Complete (D : Deployment) : Prop := ∀ x < sectorCount, ∃ k, D.owner x = some k

structure Envelope where
  source : Nat
  target : Nat
  packet : PlayPacket
  deriving DecidableEq

structure Cluster where
  worlds : Nat → World
  halted : Nat → Option Fault
  flight : List Envelope
  issued : List Nat
  retired : List Nat

/-- The steps of a cluster: requests of an agency at a server, an update, a delivery, and changes of
the iteration order of a map. -/
inductive Event
  | spawn (server agency : Nat) (packet : SpawnCharacterRq) (now : Milliseconds)
  | move (server agency : Nat) (packet : CharacterMoveRq)
  | remove (server agency : Nat) (packet : RemoveCharacterRq)
  | update (server : Nat) (clock : World.Clock)
  | deliver (index : Nat) (now : Milliseconds)
  | rehashSectors (server : Nat) (order : List Nat)
  | rehashFixtures (server sectorId : Nat) (order : List Nat)

/-- The sectors a server owns. -/
def Deployment.sectorsOf (D : Deployment) (k : Nat) : List Nat :=
  (List.range sectorCount).filter fun x => D.owner x == some k

theorem Deployment.nodup_sectorsOf (D : Deployment) (k : Nat) : (D.sectorsOf k).Nodup :=
  List.nodup_range.filter _

/-- A world after `AddSector` for the sectors of the server. -/
def World.new (D : Deployment) (k : Nat) : World where
  sectors := UnorderedMap.ofKeys (D.sectorsOf k) (D.nodup_sectorsOf k) fun x =>
    some (SectorSystem.new k x)
  promotedObjectList := UnorderedMap.empty

/-- `PlayWorker::OnIntraServerData`. -/
def World.handle (w : World) (source : Nat) (packet : PlayPacket) (now : Milliseconds) : Outcome :=
  match packet with
  | .createObservingObjectRq _ info => w.createObservingObject info
  | .removeObservingObjectRq sectorId objectId => w.removeObservingObject sectorId objectId
  | .promoteObjectRq originSectorId info => w.promoteObservingObject originSectorId info now
  | .characterMoveRq packet => w.moveObject source packet
  | .removeCharacterRq packet => w.removeCharacter source packet

/-- `SendToSectorOwner` with every owner linked. -/
def route (D : Deployment) (source : Nat) (posts : List Posting) : List Envelope :=
  posts.filterMap fun
    | .toSectorOwner packet sectorId => (D.owner sectorId).map (⟨source, ·, packet⟩)
    | _ => none

namespace Cluster

def new (D : Deployment) : Cluster where
  worlds := World.new D
  halted := fun _ => none
  flight := []
  issued := []
  retired := []

/-- The effect of a handler's outcome at a server. -/
def absorb (D : Deployment) (c : Cluster) (k : Nat) (r : Outcome) : Cluster :=
  { c with
    worlds := Function.update c.worlds k r.world
    halted := match r.fault with
      | none => c.halted
      | some fault => Function.update c.halted k (some fault)
    flight := c.flight ++ route D k r.posts }

/-- The fixture of an object in a sector of a server. -/
def fixtureAt (c : Cluster) (k sectorId objectId : Nat) : Option Fixture :=
  (c.worlds k).fixtureAt sectorId objectId

/-- The server holds the owner of the object in the sector. -/
def owns (c : Cluster) (k sectorId objectId : Nat) : Bool :=
  (c.fixtureAt k sectorId objectId).any fun f => !f.isObservingFixture

/-- The id the next spawn in a sector of a server is given. -/
def nextFixtureId (c : Cluster) (k sectorId : Nat) : Option Nat :=
  match (c.worlds k).sectors.find sectorId with
  | some (some sector) => some sector.currentFixtureId
  | _ => none

/-- The oldest packet of its channel. -/
def channelHead (c : Cluster) (index : Nat) : Option Envelope :=
  match c.flight[index]? with
  | none => none
  | some e =>
      if (c.flight.take index).any fun e' => e'.source == e.source && e'.target == e.target then
        none
      else
        some e

/-- The server that takes the step. -/
def actor (c : Cluster) : Event → Option Nat
  | .spawn k _ _ _ => some k
  | .move k _ _ => some k
  | .remove k _ _ => some k
  | .update k _ => some k
  | .deliver index _ => (c.channelHead index).map Envelope.target
  | .rehashSectors k _ => some k
  | .rehashFixtures k _ _ => some k

/-- The cluster after an event of a server that runs. -/
def next (D : Deployment) (c : Cluster) : Event → Cluster
  | .spawn k agency packet now =>
      { c.absorb D k ((c.worlds k).spawnCharacter agency packet now) with
        issued := c.issued ++ (c.nextFixtureId k packet.sectorId).toList }
  | .move k agency packet => c.absorb D k ((c.worlds k).moveObject agency packet)
  | .remove k agency packet =>
      { c.absorb D k ((c.worlds k).removeCharacter agency packet) with
        retired :=
          -- only the owner retires an object
          if c.owns k packet.sectorId packet.objectId then c.retired ++ [packet.objectId]
          else c.retired }
  | .update k clock => c.absorb D k ((c.worlds k).update clock)
  | .deliver index now =>
      match c.channelHead index with
      | none => c
      | some e =>
          { c with flight := c.flight.eraseIdx index }.absorb D e.target
            ((c.worlds e.target).handle e.source e.packet now)
  | .rehashSectors k order =>
      let w := c.worlds k
      { c with worlds := Function.update c.worlds k { w with sectors := w.sectors.reorder order } }
  | .rehashFixtures k sectorId order =>
      let w := c.worlds k
      match w.sectors.find sectorId with
      | some (some sector) =>
          let sector := { sector with fixtures := sector.fixtures.reorder order }
          { c with worlds := Function.update c.worlds k (w.setSector sectorId sector) }
      | _ => c

/-- The event is one of a server that runs. -/
def Enabled (c : Cluster) (e : Event) : Prop := ∃ k, c.actor e = some k ∧ c.halted k = none

/-- The cluster as a machine. -/
def machine (D : Deployment) : Machine Cluster Event where
  init := fun c => c = Cluster.new D
  step := fun c e c' => c.Enabled e ∧ c' = c.next D e

/-- A spawn is not given an id that was assigned before. -/
def assignsFreshId (c : Cluster) : Event → Prop
  | .spawn k _ packet _ => ∀ id, c.nextFixtureId k packet.sectorId = some id → id ∉ c.issued
  | _ => True

end Cluster

end Game
end SeamlessServer
