import SeamlessServer.Data.Carrier
import SeamlessServer.Engine.Conversation
import SeamlessServer.Game.SingleOwner

/-!
# Game.Connected — play servers joined by connections

`Game.Cluster` lets packets between servers wait in queues.  Here every pair of servers has a
connection, the play server with the greater id being the connector (`IsConnector` under the
policy of `play.cpp`), and its bytes, buffers, throttlers and heartbeats are those of
`Engine.Conversation`.  What a server sends to itself does not leave it (`Engine.Loopback`).

* `connected_refines` — the servers over connections do what a cluster can do.
-/

namespace SeamlessServer
namespace Game

open Utility Protocol Engine

/-! ## Servers and what is under way -/

/-- A cluster without what is under way. -/
structure Servers where
  worlds : Nat → World
  halted : Nat → Option Fault
  issued : List Nat
  retired : List Nat

def Cluster.servers (c : Cluster) : Servers := ⟨c.worlds, c.halted, c.issued, c.retired⟩

def Servers.cluster (x : Servers) (flight : List Envelope) : Cluster :=
  ⟨x.worlds, x.halted, flight, x.issued, x.retired⟩

/-- The packets with their links. -/
def linked (flight : List Envelope) : List ((Nat × Nat) × PlayPacket) :=
  flight.map fun e => ((e.source, e.target), e.packet)

def Event.isDelivery : Event → Bool
  | .deliver _ _ => true
  | _ => false

/-- The servers of a deployment act as in a cluster with nothing under way, and take a packet as
if it were all that is under way. -/
def playServers (D : Deployment) (cond : Servers → Event → Prop) :
    Nodes Servers Event Milliseconds (Nat × Nat) PlayPacket where
  init := fun x => x = (Cluster.new D).servers
  act := fun x e x' posts =>
    (x.cluster []).Enabled e ∧ cond x e ∧
      x' = ((x.cluster []).next D e).servers ∧ posts = linked ((x.cluster []).next D e).flight
  take := fun x l packet now x' posts =>
    let c := (x.cluster [⟨l.1, l.2, packet⟩]).next D (.deliver 0 now)
    x.halted l.2 = none ∧ x' = c.servers ∧ posts = linked c.flight

section Queues

variable {D : Deployment} {cond : Servers → Event → Prop}

/-- What is under way is seen by deliveries only. -/
theorem next_cluster {e : Event} (he : e.isDelivery = false) (x : Servers)
    (flight : List Envelope) :
    (x.cluster flight).next D e = ((x.cluster []).next D e).servers.cluster
      (flight ++ ((x.cluster []).next D e).flight) := by
  cases e with
  | deliver index now =>
      cases he
  | rehashSectors k order =>
      simp [Cluster.next, Servers.cluster, Cluster.servers]
  | rehashFixtures k x order =>
      simp only [Cluster.next, Servers.cluster, Cluster.servers]
      split
      · simp
      · simp
  | spawn k agency packet now =>
      simp only [Cluster.next, Cluster.absorb, Servers.cluster, Cluster.servers, List.nil_append]
      rfl
  | remove k agency packet =>
      simp only [Cluster.next, Cluster.absorb, Servers.cluster, Cluster.servers, List.nil_append]
      rfl
  | _ =>
      simp only [Cluster.next, Cluster.absorb, Servers.cluster, Cluster.servers, List.nil_append]

theorem onLink_linked (l : Nat × Nat) (flight : List Envelope) :
    Nodes.onLink l (linked flight) =
      flight.filterMap fun e => if (e.source, e.target) = l then some e.packet else none :=
  List.filterMap_map

/-- The oldest packet of a channel is delivered as if it were all that is under way. -/
theorem next_deliver (x : Servers) {early : List Envelope} {e : Envelope} (late : List Envelope)
    (hearly : ∀ e' ∈ early, (e'.source, e'.target) ≠ (e.source, e.target)) (now : Milliseconds) :
    (x.cluster (early ++ e :: late)).actor (.deliver early.length now) = some e.target ∧
      (x.cluster (early ++ e :: late)).next D (.deliver early.length now) =
        ((x.cluster [e]).next D (.deliver 0 now)).servers.cluster
          (early ++ late ++ ((x.cluster [e]).next D (.deliver 0 now)).flight) := by
  have hhead : (x.cluster (early ++ e :: late)).channelHead early.length = some e := by
    have hnone : (early.any fun e' => e'.source == e.source && e'.target == e.target) = false := by
      refine List.any_eq_false.2 fun e' he' => ?_
      have hne := hearly e' he'
      simpa using fun hsource htarget => hne (Prod.ext hsource htarget)
    simp [Cluster.channelHead, Servers.cluster, hnone]
  have hsingle : (x.cluster [e]).channelHead 0 = some e := by
    simp [Cluster.channelHead, Servers.cluster]
  refine ⟨by rw [Cluster.actor, hhead]; rfl, ?_⟩
  simp only [Cluster.next, hhead, hsingle]
  simp [Cluster.absorb, Servers.cluster, Cluster.servers, List.eraseIdx_append_of_length_le]

variable (D cond) in
/-- The events that are deliveries or meet the condition. -/
def delivers (c : Cluster) (e : Event) : Prop := e.isDelivery = true ∨ cond c.servers e

/-- Servers with a queue for each link are a cluster. -/
theorem cluster_of_queued {s : Nodes.Queued Servers (Nat × Nat) PlayPacket}
    (h : (playServers D cond).queued.Reachable s) :
    ∃ flight, ((Cluster.machine D).restrict (delivers cond)).Reachable (s.nodes.cluster flight) ∧
      ∀ l, Nodes.onLink l (linked flight) = s.queue l := by
  refine Machine.Reachable.invariant (M := (playServers D cond).queued)
    (P := fun s => ∃ flight, ((Cluster.machine D).restrict (delivers cond)).Reachable
      (s.nodes.cluster flight) ∧ ∀ l, Nodes.onLink l (linked flight) = s.queue l) ?_ ?_ h
  · rintro s ⟨hnodes, hqueue⟩
    refine ⟨[], .init ?_, fun l => (hqueue l).symm⟩
    rw [hnodes]
    rfl
  · rintro s event s' ⟨flight, hreach, hflight⟩ hstep
    cases hstep with
    | @act e x posts hact =>
        obtain ⟨henabled, hcond, rfl, rfl⟩ := hact
        have he : e.isDelivery = false := by
          cases e with
          | deliver index now =>
              -- there is nothing to deliver
              obtain ⟨k, hk, -⟩ := henabled
              simp [Cluster.actor, Cluster.channelHead, Servers.cluster] at hk
          | _ =>
              rfl
        refine ⟨_, hreach.step_restrict ⟨?_, (next_cluster he s.nodes flight).symm⟩ (.inr hcond),
          ?_⟩
        · obtain ⟨k, hk, hrunning⟩ := henabled
          refine ⟨k, ?_, hrunning⟩
          cases e with
          | deliver index now =>
              cases he
          | _ =>
              exact hk
        · intro l
          rw [linked, List.map_append, Nodes.onLink_append]
          exact congrArg (· ++ _) (hflight l)
    | @take l packet rest now x posts hqueue htake =>
        obtain ⟨hrunning, rfl, rfl⟩ := htake
        have hl := (hflight l).trans hqueue
        rw [onLink_linked] at hl
        obtain ⟨early, e, late, rfl, hearly, he, hlate⟩ := List.filterMap_eq_cons_iff.1 hl
        have hlink : (e.source, e.target) = l ∧ e.packet = packet := by
          split_ifs at he with heq
          exact ⟨heq, Option.some.inj he⟩
        have hothers : ∀ e' ∈ early, (e'.source, e'.target) ≠ (e.source, e.target) := by
          intro e' he' heq
          have hnone := hearly e' he'
          rw [if_pos (heq.trans hlink.1)] at hnone
          cases hnone
        obtain ⟨rfl, rfl⟩ := hlink
        obtain ⟨hactor, hnext⟩ := next_deliver (D := D) s.nodes late hothers now
        refine ⟨_, hreach.step_restrict ⟨⟨e.target, hactor, hrunning⟩, hnext.symm⟩ (.inl rfl), ?_⟩
        intro l'
        rw [linked, List.map_append, Nodes.onLink_append]
        refine congrArg (· ++ _) ?_
        change Nodes.onLink l' (linked (early ++ late)) = _
        by_cases heq : l' = (e.source, e.target)
        · subst heq
          rw [Function.update_self, onLink_linked, List.filterMap_append, hlate,
            List.filterMap_eq_nil_iff.2 hearly, List.nil_append]
        · rw [Function.update_of_ne heq, ← hflight l', onLink_linked, onLink_linked,
            List.filterMap_append, List.filterMap_append, List.filterMap_cons]
          simp only [if_neg (Ne.symm heq)]

end Queues

/-! ## Connections -/

/-- The connections, each known by its connector and its acceptor, and the packets that every server
has sent to itself. -/
structure Connections (σ : Type) where
  conversation : Nat × Nat → Conversation.State σ
  loopback : Nat → List PlayPacket

inductive ConnectionEvent (σ : Type)
  | conversation (pair : Nat × Nat) (event : Conversation.Event σ)
  | loopback (k : Nat) (packet : PlayPacket)

/-- The connection of a link. -/
def pairOf (l : Nat × Nat) : Nat × Nat := (max l.1 l.2, min l.1 l.2)

/-- The end of the server that sends. -/
def sideOf (l : Nat × Nat) : NetworkEngine.StreamType :=
  if l.2 < l.1 then .Connector else .Acceptor

section Carrier

variable {σ : Type} [DecidableEq σ]
  (ends : Nat × Nat → NetworkEngine.StreamType → Conversation.End σ)
  (decode : Packet → Option PlayPacket)

/-- A step of one connection that loses no packet, or of a loopback session. -/
inductive ConnectionStep (s : Connections σ) : ConnectionEvent σ → Connections σ → Prop
  | conversation {pair : Nat × Nat} {event : Conversation.Event σ} {t : Conversation.State σ} :
      pair.2 < pair.1 → Conversation.Step (ends pair) (s.conversation pair) event t →
        ¬ Conversation.Loses (s.conversation pair) event →
        ConnectionStep s (.conversation pair event)
          { s with conversation := Function.update s.conversation pair t }
  | loopback {k : Nat} {packet : PlayPacket} :
      ConnectionStep s (.loopback k packet)
        { s with loopback := Function.update s.loopback k (s.loopback k ++ [packet]) }

/-- The packet that `OnIntraServerData` decodes. -/
def decodeContext (context : NetworkEngine.SocketContext) : Option PlayPacket :=
  if context.contextType = .SessionData then
    decode ⟨context.header.packetType, context.body⟩
  else
    none

/-- Packets are posted to the throttler of their server, and have arrived when their contexts were
submitted to the worker. -/
def connections : Carrier (Connections σ) (ConnectionEvent σ) (Nat × Nat) PlayPacket where
  machine :=
    { init := fun s =>
        (∀ pair, pair.2 < pair.1 → Conversation.Initial (ends pair) (s.conversation pair)) ∧
          ∀ k, s.loopback k = []
      step := ConnectionStep ends }
  posted := fun s l =>
    if l.1 = l.2 then s.loopback l.1
    else (s.conversation (pairOf l) (sideOf l)).posted.filterMap decode
  arrived := fun s l =>
    if l.1 = l.2 then s.loopback l.1
    else (s.conversation (pairOf l) (sideOf l).other).connection.submitted.flatten.filterMap
      (decodeContext decode)

variable {ends decode}

theorem pairOf_lt {l : Nat × Nat} (hl : l.1 ≠ l.2) : (pairOf l).2 < (pairOf l).1 := by
  simp only [pairOf]
  omega

/-- Every connection keeps its invariant. -/
theorem invariant_connections
    (hjoined : ∀ pair, pair.2 < pair.1 → Conversation.Joined (ends pair)) {s : Connections σ}
    (h : (connections ends decode).machine.Reachable s) {pair : Nat × Nat}
    (hpair : pair.2 < pair.1) : Conversation.Invariant (ends pair) (s.conversation pair) := by
  refine Machine.Reachable.invariant (M := (connections ends decode).machine)
    (P := fun s => ∀ pair, pair.2 < pair.1 →
      Conversation.Invariant (ends pair) (s.conversation pair)) ?_ ?_ h pair hpair
  · exact fun s hs pair hpair =>
      Conversation.invariant_initial (hjoined pair hpair) (hs.1 pair hpair)
  · intro s event s' hs hstep pair hpair
    cases hstep with
    | @conversation pair' event t hpair' hstep hkept =>
        by_cases heq : pair = pair'
        · subst heq
          simp only [Function.update_self]
          exact Conversation.invariant_step (hjoined pair hpair) (hs pair hpair) hstep hkept
        · simp only [Function.update_of_ne heq]
          exact hs pair hpair
    | loopback =>
        exact hs pair hpair

omit [DecidableEq σ] in
/-- What a worker is given are the data packets that were delivered to it. -/
theorem decode_submitted {ends : NetworkEngine.StreamType → Conversation.End σ}
    {s : Conversation.State σ} {side : NetworkEngine.StreamType}
    {opening : List NetworkEngine.SocketContext} {delivered flying : List Packet}
    (h : Conversation.Delivers ends s side opening delivered flying) :
    (s side).connection.submitted.flatten.filterMap (decodeContext decode) =
      delivered.filterMap decode := by
  have hopening : opening.filterMap (decodeContext decode) = [] := by
    refine List.filterMap_eq_nil_iff.2 fun context hcontext => ?_
    have htype : context.contextType ∈ opening.map (·.contextType) :=
      List.mem_map_of_mem hcontext
    rw [h.opening] at htype
    have htold : context.contextType = Conversation.told side := by
      split_ifs at htype with hsession
      · exact List.mem_singleton.1 htype
      · cases htype
    rw [decodeContext, htold, if_neg]
    cases side <;> decide
  have hdata : ∀ p, decodeContext decode (Conversation.dataContext (ends side).attachment p) =
      decode p := fun p => if_pos rfl
  rw [h.submitted, List.filterMap_append, hopening, List.nil_append, List.filterMap_map]
  exact List.filterMap_congr fun p _ => hdata p

/-- Connections keep the order. -/
theorem inOrder_connections
    (hjoined : ∀ pair, pair.2 < pair.1 → Conversation.Joined (ends pair)) :
    (connections ends decode).InOrder := by
  constructor
  case fresh =>
    rintro s ⟨hinitial, hloopback⟩ l
    simp only [connections]
    split_ifs with hl
    · exact hloopback _
    · rw [(hinitial (pairOf l) (pairOf_lt hl)).posted, List.filterMap_nil]
  case inOrder =>
    intro s hs l
    simp only [connections]
    split_ifs with hl
    · exact List.prefix_rfl
    · have hpair := pairOf_lt hl
      obtain ⟨opening, delivered, flying, hdelivers⟩ :=
        (invariant_connections hjoined hs hpair).delivers (hjoined _ hpair) (sideOf l).other
      have hposted := hdelivers.posted
      rw [NetworkEngine.StreamType.other_other] at hposted
      rw [decode_submitted hdelivers, hposted, List.append_assoc, List.filterMap_append]
      exact List.prefix_append _ _

end Carrier

/-- In every run of play servers that are joined by connections, as long as no read loses a packet:
the servers are those of a run of the cluster in which the same packets are under way between any
two servers, in the same order. -/
theorem connected_refines {σ : Type} [DecidableEq σ] {D : Deployment}
    {cond : Servers → Event → Prop}
    {ends : Nat × Nat → NetworkEngine.StreamType → Conversation.End σ}
    {decode : Packet → Option PlayPacket}
    (hjoined : ∀ pair, pair.2 < pair.1 → Conversation.Joined (ends pair))
    {s : Nodes.Carried Servers (Connections σ) (Nat × Nat)}
    (h : ((playServers D cond).carriedOn (connections ends decode)).Reachable s) :
    ∃ flight, ((Cluster.machine D).restrict (delivers cond)).Reachable (s.nodes.cluster flight) ∧
      ∀ l, Nodes.onLink l (linked flight) = s.waiting (connections ends decode) l :=
  cluster_of_queued (Nodes.refines (inOrder_connections hjoined) h).queued

/-! ### A copy that is sent over a connection -/

namespace Sample

open Cluster (threeServers firstId)

def ends (_ : Nat × Nat) : NetworkEngine.StreamType → Conversation.End Unit :=
  Conversation.sampleEnds

/-- An object is spawned near the border of the sectors of the servers 2 and 3. -/
def spawned : Servers :=
  (((Cluster.new threeServers).servers.cluster []).next threeServers
    (.spawn 2 9 ⟨1, 12, ⟨4900, 2500⟩, ⟨100, 100⟩⟩ 0)).servers

/-- The update in which server 2 posts the copy. -/
def updated : Cluster :=
  (spawned.cluster []).next threeServers (.update 2 ⟨1000, 0, 1000, fun _ _ => 1000⟩)

/-- The copy is encoded as `Conversation.skill`. -/
def decode (p : Packet) : Option PlayPacket :=
  if p = Conversation.skill then updated.flight.head?.map Envelope.packet else none

def handled : Cluster :=
  (updated.servers.cluster updated.flight).next threeServers (.deliver 0 1000)

/-- The states of the connection between the servers 2 and 3 after the post and the read. -/
def posted : Conversation.State Unit :=
  Conversation.call Conversation.sampleEnds Conversation.afterResponse .Acceptor
    (.postPacket () Conversation.skill .Immediate true true)

def received : Conversation.State Unit :=
  Conversation.read Conversation.sampleEnds posted .Connector 17 []

/-- The connections when that one is in the given state. -/
def connected (t : Conversation.State Unit) : Connections Unit :=
  ⟨Function.update (fun _ => Conversation.sampleStart) (3, 2) t, fun _ => []⟩

def copied : Nodes.Carried Servers (Connections Unit) (Nat × Nat) :=
  ⟨handled.servers, connected received, Function.update (fun _ => 0) (2, 3) 1⟩

/-- The connection goes on. -/
theorem step_connected {t t' : Conversation.State Unit} {event : Conversation.Event Unit}
    (hstep : Conversation.Step Conversation.sampleEnds t event t')
    (hkept : ¬ Conversation.Loses t event) :
    (connections ends decode).machine.step (connected t) (.conversation (3, 2) event)
      (connected t') := by
  have hend : (connected t).conversation (3, 2) = t := by simp [connected]
  have hnext : ConnectionStep ends (connected t) (.conversation (3, 2) event) _ :=
    .conversation (by decide) (by rw [hend]; exact hstep) (by rw [hend]; exact hkept)
  rw [connected, Function.update_idem] at hnext
  exact hnext

/-- What is posted on the link of the connection, and on the others. -/
theorem posted_connected (t : Conversation.State Unit) (l : Nat × Nat) :
    (connections ends decode).posted (connected t) l =
      if l = (2, 3) then (t .Acceptor).posted.filterMap decode
      else if l = (3, 2) then (t .Connector).posted.filterMap decode
      else [] := by
  obtain ⟨k, j⟩ := l
  simp only [connections, connected, Prod.mk.injEq]
  by_cases hback : k = 2 ∧ j = 3
  · obtain ⟨rfl, rfl⟩ := hback
    rfl
  · by_cases hforth : k = 3 ∧ j = 2
    · obtain ⟨rfl, rfl⟩ := hforth
      rfl
    · rw [if_neg hback, if_neg hforth]
      split_ifs with hsame
      · rfl
      · -- the link is one of another connection, to which nothing was posted
        have hother : pairOf (k, j) ≠ (3, 2) := by
          simp only [pairOf, ne_eq, Prod.mk.injEq]
          omega
        rw [Function.update_of_ne hother]
        rfl

/-- A server that posts nothing leaves the connections as they are. -/
theorem silent_posts {flight : List Envelope} (h : flight = []) (t : Conversation.State Unit)
    (l : Nat × Nat) :
    (connections ends decode).posted (connected t) l =
      (connections ends decode).posted (connected t) l ++ Nodes.onLink l (linked flight) := by
  rw [h]
  exact (List.append_nil _).symm

abbrev overConnections : Machine (Nodes.Carried Servers (Connections Unit) (Nat × Nat))
    (Nodes.CarriedEvent Event Milliseconds (ConnectionEvent Unit) (Nat × Nat)) :=
  (playServers threeServers fun _ _ => True).carriedOn (connections ends decode)

/-- The connection between the servers 2 and 3 is opened. -/
theorem reachable_opened :
    overConnections.Reachable
      ⟨(Cluster.new threeServers).servers, connected Conversation.afterResponse, fun _ => 0⟩ := by
  have hrequest : Conversation.Step Conversation.sampleEnds Conversation.sampleStart
      (.read .Acceptor 17 [Conversation.response]) Conversation.afterRequest :=
    .read rfl (by decide) (by decide) (by decide) (by decide) (by decide) (by decide)
  have hresponse : Conversation.Step Conversation.sampleEnds Conversation.afterRequest
      (.read .Connector 17 []) Conversation.afterResponse :=
    .read rfl (by decide) (by decide) (by decide) (by decide) (by decide) (by decide)
  have hstart : overConnections.Reachable
      ⟨(Cluster.new threeServers).servers, connected Conversation.sampleStart, fun _ => 0⟩ := by
    refine .init ⟨rfl, ⟨fun pair _ => ?_, fun _ => rfl⟩, fun _ => rfl⟩
    have hall : (connected Conversation.sampleStart).conversation pair =
        Conversation.sampleStart := by simp [connected]
    rw [hall]
    exact Conversation.initial_sampleStart
  have hread : overConnections.Reachable
      ⟨(Cluster.new threeServers).servers, connected Conversation.afterRequest, fun _ => 0⟩ :=
    hstart.step (.carry (step_connected hrequest
      (Conversation.not_lost_of_length_le (by decide))) fun l => by
        rw [posted_connected, posted_connected]
        rfl)
  exact hread.step (.carry (step_connected hresponse
    (Conversation.not_lost_of_length_le (by decide))) fun l => by
      rw [posted_connected, posted_connected]
      rfl)

theorem updated_flight : ∃ packet, updated.flight = [⟨2, 3, packet⟩] := by
  have hlinks : updated.flight.map (fun e => (e.source, e.target)) = [(2, 3)] := by decide +kernel
  obtain ⟨e, he, hlink⟩ := List.map_eq_singleton_iff.1 hlinks
  obtain ⟨source, target, packet⟩ := e
  cases hlink
  exact ⟨packet, he⟩

/-- The copy is posted, read, and handled. -/
theorem reachable_copied : overConnections.Reachable copied := by
  obtain ⟨packet, hflight⟩ := updated_flight
  have hcode : decode Conversation.skill = some packet := by
    rw [decode, if_pos rfl, hflight]
    rfl
  have hpost : Conversation.Step Conversation.sampleEnds Conversation.afterResponse
      (.call .Acceptor (.postPacket () Conversation.skill .Immediate true true)) posted :=
    .call ⟨trivial, by decide, rfl, rfl⟩ (by decide : Postable Conversation.skill)
      (fun _ => by decide)
  have hread : Conversation.Step Conversation.sampleEnds posted (.read .Connector 17 [])
      received :=
    .read rfl (by decide) (by decide) (by decide) (by decide) (by decide) (by decide)
  have hspawned : overConnections.Reachable
      ⟨spawned, connected Conversation.afterResponse, fun _ => 0⟩ :=
    reachable_opened.step (.act ⟨⟨2, rfl, rfl⟩, trivial, rfl, rfl⟩ (.nil _)
      (silent_posts (by decide +kernel) _))
  have hupdated : overConnections.Reachable ⟨updated.servers, connected posted, fun _ => 0⟩ := by
    refine hspawned.step (.act ⟨⟨2, rfl, by decide +kernel⟩, trivial, rfl, rfl⟩
      (.cons (step_connected hpost not_false) (.nil _)) fun l => ?_)
    have hnew : (posted .Acceptor).posted = [Conversation.skill] := by decide
    change _ = _ ++ Nodes.onLink l (linked updated.flight)
    rw [posted_connected, posted_connected, hnew, hflight, onLink_linked]
    by_cases hl : l = (2, 3)
    · subst hl
      rw [if_pos rfl, if_pos rfl, List.filterMap_cons_some hcode]
      rfl
    · rw [if_neg hl, if_neg hl, List.filterMap_cons]
      simp only [if_neg (Ne.symm hl), List.filterMap_nil, List.append_nil]
      rfl
  have hreceived : overConnections.Reachable
      ⟨updated.servers, connected received, fun _ => 0⟩ :=
    hupdated.step (.carry (step_connected hread
      (Conversation.not_lost_of_length_le (by decide))) fun l => by
        rw [posted_connected, posted_connected]
        rfl)
  -- the first context tells of the session, the second is the copy
  have harrived : (connections ends decode).arrived (connected received) (2, 3) = [packet] := by
    have hcontexts : ∃ first second, (received .Connector).connection.submitted.flatten =
        [first, second] ∧ first.contextType = .SessionConnected ∧
          second.contextType = .SessionData ∧
            (⟨second.header.packetType, second.body⟩ : Packet) = Conversation.skill :=
      ⟨_, _, rfl, by decide, by decide, by decide⟩
    obtain ⟨first, second, hflatten, hfirst, hsecond, hskill⟩ := hcontexts
    change (received .Connector).connection.submitted.flatten.filterMap
      (decodeContext decode) = [packet]
    have hsome : decodeContext decode second = some packet := by
      rw [decodeContext, if_pos hsecond, hskill, hcode]
    have hnone : decodeContext decode first = none := by
      rw [decodeContext, if_neg]
      rw [hfirst]
      decide
    rw [hflatten, List.filterMap_cons_none hnone, List.filterMap_cons_some hsome]
    rfl
  have hhandled : (updated.servers.cluster [⟨2, 3, packet⟩]).next threeServers
      (.deliver 0 1000) = handled := by
    rw [handled, hflight]
  refine hreceived.step (.take (l := (2, 3)) (m := packet) (n := 1000) ?_ ⟨?_, ?_, rfl⟩ (.nil _)
    (silent_posts ?_ _))
  · rw [harrived]
    rfl
  · decide +kernel
  · rw [hhandled]
  · rw [hhandled]
    decide +kernel

end Sample

theorem connected_refines_copied :
    ((Sample.copied.nodes.worlds 3).fixtureAt 13 Cluster.firstId).isSome = true ∧
      ∃ flight, ((Cluster.machine Cluster.threeServers).restrict
          (delivers fun _ _ => True)).Reachable (Sample.copied.nodes.cluster flight) ∧
        ∀ l, Nodes.onLink l (linked flight) =
          Sample.copied.waiting (connections Sample.ends Sample.decode) l :=
  ⟨by decide +kernel, connected_refines (fun _ _ => Conversation.joined_sampleEnds)
    Sample.reachable_copied⟩

end Game
end SeamlessServer
