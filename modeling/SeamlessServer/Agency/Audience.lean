import SeamlessServer.Agency.Scenes

/-!
# Agency.Audience — what clients are shown of the world

The play servers in lock step, their agencies, and the clients of the agencies, each with a way of its
own.  Clients come and go, what waits for them is sent at any time, and an agency handles what the
play servers have posted whenever it likes.

A session id is given once, a client is sent one response to its spawn, and no push of the sector that
a client is moved to is waiting for it, for the list of the sector would overtake the push.

`clients_shown` says what clients make of what they are posted: when the play servers and the agency
have nothing left to handle, every client shows the objects of its sector, the copies of those in
neighbouring sectors included, and no others.  Nothing is said here about how the ways are made;
`Agency.Delivery` makes them of the throttler of each agency.
-/

namespace SeamlessServer
namespace Agency

open Game Protocol Utility

structure Audience where
  service : Service
  /-- The clients of each agency. -/
  clients : Nat → Clients

inductive AudienceEvent
  | service (e : ServiceEvent)
  /-- Everything that waits is sent. -/
  | flush (agencyId : Nat)

namespace Audience

variable (D : Deployment) (nonzero : ∀ x, D.owner x ≠ some 0)

def new : Audience where
  service := Service.new D
  clients := fun _ => {}

/-- What the agency posts when it hears a packet leads to the given lanes. -/
def Delivers (w : Audience) (lanes : Nat → Lanes ClientPacket) : ServiceEvent → Prop
  | .hear agencyId now unset =>
      ∀ link source message rest, w.service.links agencyId = some link →
        link.pending = (source, message) :: rest →
          (w.clients agencyId).Delivers
            (link.agency.onIntraServerData source (message.packet unset) now).posts lanes
  | _ => True

/-- The clients after an event of the service. -/
def clientsAfter (w : Audience) (lanes : Nat → Lanes ClientPacket) : ServiceEvent → Nat → Clients
  | .connect agencyId _ => Function.update w.clients agencyId {}
  | .disconnect _ => w.clients
  | .play _ => w.clients
  | .hear agencyId _ unset =>
      match w.service.links agencyId with
      | none => w.clients
      | some link =>
          match link.pending with
          | [] => w.clients
          | (_, message) :: _ =>
              Function.update w.clients agencyId
                ((w.clients agencyId).hear link.agency (message.packet unset) lanes)
  | .accept agencyId =>
      match w.service.links agencyId with
      | none => w.clients
      | some link =>
          Function.update w.clients agencyId ((w.clients agencyId).accept link.agency)
  | .close agencyId userId _ =>
      Function.update w.clients agencyId ((w.clients agencyId).close userId)

def step (w : Audience) : AudienceEvent → Audience → Prop
  | .service e, w' =>
      (Service.machine D nonzero).step w.service e w'.service ∧
        ∃ lanes, w.Delivers lanes e ∧ w'.clients = w.clientsAfter lanes e
  | .flush agencyId, w' =>
      w' = { w with clients := Function.update w.clients agencyId (w.clients agencyId).flush }

def machine : Machine Audience AudienceEvent where
  init := fun w => w = new D
  step := step D nonzero

/-- Sessions and objects are given ids once, a client is sent one response to its spawn, and no list
overtakes a push of its sector. -/
def orderly (w : Audience) : AudienceEvent → Prop
  | .service e =>
      Service.assignsFreshId w.service e ∧
        match e with
        | .accept agencyId =>
            ∀ link, w.service.links agencyId = some link →
              link.agency.currentUniversalSessionId ∉ (w.clients agencyId).accepted
        | .hear agencyId _ unset =>
            ∀ link source message rest, w.service.links agencyId = some link →
              link.pending = (source, message) :: rest →
                (w.clients agencyId).Admits link.agency (message.packet unset)
        | _ => True
  | .flush _ => True

variable {D : Deployment} {nonzero : ∀ x, D.owner x ≠ some 0} {w w' : Audience}

/-! ## Links under the steps of the cluster -/

/-- Only what is pending changes. -/
def SameAgencies (s s' : Service) : Prop :=
  ∀ a link', s'.links a = some link' →
    ∃ link, s.links a = some link ∧ link'.agency = link.agency ∧ link'.known = link.known

theorem sameAgencies_tell (s : Service) (e : Event) : SameAgencies s (s.tell D e) := by
  intro a link' hlink'
  obtain ⟨link, hlink, rfl⟩ := Option.map_eq_some_iff.1 hlink'
  exact ⟨link, hlink, rfl, rfl⟩

theorem SameAgencies.trans {s s' s'' : Service} (h : SameAgencies s s') (h' : SameAgencies s' s'') :
    SameAgencies s s'' := by
  intro a link'' hlink''
  obtain ⟨link', hlink', hagency', hknown'⟩ := h' a link'' hlink''
  obtain ⟨link, hlink, hagency, hknown⟩ := h a link' hlink'
  exact ⟨link, hlink, hagency'.trans hagency, hknown'.trans hknown⟩

theorem sameAgencies_play {s s' : Service} {e : LockEvent}
    (hstep : (Service.machine D nonzero).step s (.play e) s') : SameAgencies s s' := by
  cases e with
  | act e =>
      obtain ⟨_, _, _, rfl⟩ := hstep
      exact sameAgencies_tell s e
  | handle now =>
      obtain ⟨_, rfl⟩ := hstep
      exact sameAgencies_tell s _
  | tick order clock =>
      obtain ⟨_, _, hrun⟩ := hstep
      refine hrun.invariant (P := SameAgencies s) ?_ fun a link hlink => ⟨link, hlink, rfl, rfl⟩
      rintro t e _ t' ht ⟨_, rfl⟩
      exact ht.trans (sameAgencies_tell t e)

/-! ## The invariant -/

/-- The clients of each agency are attended to, and are shown what it caches of the objects that it
has known from their spawn on. -/
structure Holds (D : Deployment) (w : Audience) : Prop where
  attended : ∀ a link, w.service.links a = some link → Attended link.agency (w.clients a)
  shown : ∀ a link, w.service.links a = some link → ∀ o, o ∉ link.known →
    o ∉ (w.clients a).unannounced →
      Shown (fun x => (D.owner x).isSome = true) link.agency (w.clients a) o

/-- An agency without clients. -/
theorem attended_new (site : Site) : Attended (AgencyWorker.new site) {} := by
  have hstart : (ListeningState.mk (AgencyWorker.new site) [] [] none).Start := by
    refine ⟨fun _ => rfl, fun _ => rfl, fun x => rfl, rfl, rfl, rfl⟩
  refine ⟨hstart.listening, ?_, ?_, ?_, ?_, fun _ _ => rfl⟩
  · intro u hu
    cases hu
  · intro u hu
    cases hu
  · intro u hu
    cases hu
  · intro u packet hpacket
    cases hpacket

theorem Holds.new (D : Deployment) : Holds D (new D) where
  attended := fun _ _ hlink => by cases hlink
  shown := fun _ _ hlink => by cases hlink

/-- One agency makes a step. -/
theorem Holds.update (h : Holds D w) {a : Nat} {s : Service} {cl : Clients}
    (hothers : ∀ b, b ≠ a → s.links b = w.service.links b)
    (hattended : ∀ l, s.links a = some l → Attended l.agency cl)
    (hshown : ∀ l, s.links a = some l → ∀ o, o ∉ l.known → o ∉ cl.unannounced →
      Shown (fun x => (D.owner x).isSome = true) l.agency cl o) :
    Holds D ⟨s, Function.update w.clients a cl⟩ where
  attended := by
    intro b l hl
    by_cases hb : b = a
    · subst hb
      simp only [Function.update_self]
      exact hattended l hl
    · simp only [Function.update_of_ne hb]
      exact h.attended b l (hothers b hb ▸ hl)
  shown := by
    intro b l hl
    by_cases hb : b = a
    · subst hb
      simp only [Function.update_self]
      exact hshown l hl
    · simp only [Function.update_of_ne hb]
      exact h.shown b l (hothers b hb ▸ hl)

/-- The agencies are told something. -/
theorem Holds.congr (h : Holds D w) {s : Service} (hsame : SameAgencies w.service s) :
    Holds D ⟨s, w.clients⟩ where
  attended := by
    intro a link' hlink'
    obtain ⟨link, hlink, hagency, _⟩ := hsame a link' hlink'
    rw [hagency]
    exact h.attended a link hlink
  shown := by
    intro a link' hlink' o hknown
    obtain ⟨link, hlink, hagency, heq⟩ := hsame a link' hlink'
    rw [hagency]
    exact h.shown a link hlink o (heq ▸ hknown)

/-- A handler of an agency, which ends with a failed assertion or goes on. -/
theorem Holds.absorb (h : Holds D w) {a : Nat} {link : Link} {r : AgencyOutcome} {cl : Clients}
    (hattended : r.fault = none → Attended r.agency cl)
    (hshown : r.fault = none → ∀ o, o ∉ link.known → o ∉ cl.unannounced →
      Shown (fun x => (D.owner x).isSome = true) r.agency cl o) :
    Holds D ⟨w.service.absorb a link r, Function.update w.clients a cl⟩ := by
  have hself : ∀ l, (w.service.absorb a link r).links a = some l →
      r.fault = none ∧ l = { link with agency := r.agency } := by
    intro l hl
    simp only [Service.absorb, Function.update_self] at hl
    split_ifs at hl with hfault
    exact ⟨hfault, (Option.some.inj hl).symm⟩
  refine h.update (fun b hb => Function.update_of_ne hb _ _) ?_ ?_
  · intro l hl
    obtain ⟨hfault, rfl⟩ := hself l hl
    exact hattended hfault
  · intro l hl
    obtain ⟨hfault, rfl⟩ := hself l hl
    exact hshown hfault

/-- What an agency hears next visits an object that it has known from its spawn on only where the agency
caches it. -/
theorem cached_of_visit {c : Cluster} {link : Link} {o : Nat} (h : Follows D c link o)
    (hknown : o ∉ link.known) {source : Nat} {notice : Notice} {rest : List (Nat × Message)}
    (hpending : link.pending = (source, .told notice) :: rest) {x : Nat}
    (hruns : (D.owner x).isSome = true) (hvisit : noticeEdit o notice = some (.visit x)) :
    link.agency.Cached x o := by
  obtain ⟨S, T, _, hscript, _, hsup⟩ := h
  rw [hpending] at hscript
  change Edit.Runs S (told D o (notice :: notices rest)) T at hscript
  have hfilter : (noticeEdit o notice).filter (fun e => (D.owner e.target).isSome) =
      some (.visit x) := Option.filter_eq_some_iff.2 ⟨hvisit, hruns⟩
  rw [told_cons, hfilter] at hscript
  exact (hsup hknown (Edit.runs_cons.1 hscript).1).2

theorem unannounced_hear {cl : Clients} {s : AgencyWorker} {packet : IntraPacket}
    {lanes : Nat → Lanes ClientPacket} {o : Nat} (ho : o ∉ (cl.hear s packet lanes).unannounced) :
    o ∉ cl.unannounced := by
  cases packet with
  | spawnCharacterRs u info error =>
      simp only [Clients.hear, Roster.hear] at ho
      split at ho
      · exact ho
      · exact fun hold => ho (List.mem_cons_of_mem _ hold)
  | _ => exact ho

/-- An agency handles the next message. -/
theorem Holds.hear (h : Holds D w) (hservice : Service.Holds D w.service) {a : Nat} {link : Link}
    (hlink : w.service.links a = some link) {source : Nat} {message : Message}
    {rest : List (Nat × Message)} (hpending : link.pending = (source, message) :: rest)
    {now : Milliseconds} {unset : ObjectInfo}
    (hadmits : (w.clients a).Admits link.agency (message.packet unset))
    {lanes : Nat → Lanes ClientPacket}
    (hdelivers : (w.clients a).Delivers
      (link.agency.onIntraServerData source (message.packet unset) now).posts lanes) :
    Holds D ⟨w.service.absorb a { link with pending := rest }
        (link.agency.onIntraServerData source (message.packet unset) now),
      Function.update w.clients a
        ((w.clients a).hear link.agency (message.packet unset) lanes)⟩ := by
  have hattended := h.attended a link hlink
  refine h.absorb (fun _ => hattended.hear hadmits hdelivers) fun hfault o hknown hannounced => ?_
  have hshown := h.shown a link hlink o hknown (unannounced_hear hannounced)
  cases message with
  | objectList x objects =>
      have hlanes : lanes = (w.clients a).lanes := funext fun u => (hdelivers u).eq_of_nil
      rw [hlanes]
      exact hshown
  | told notice =>
      have hfilled : Filled notice := by
        refine hservice.filled a link hlink notice ?_
        rw [hpending]
        exact List.mem_cons_self
      exact hshown.hear hattended hfilled unset hadmits hfault
        (fun x hruns hvisit => cached_of_visit (hservice.follows a link hlink o) hknown hpending hruns
          hvisit) hannounced hdelivers

theorem Holds.step (h : Holds D w) (hservice : Service.Holds D w.service) {e : AudienceEvent}
    (hstep : ((machine D nonzero).restrict orderly).step w e w') : Holds D w' := by
  obtain ⟨horderly, hstep⟩ := hstep
  cases e with
  | flush a =>
      obtain rfl : w' = _ := hstep
      exact h.update (fun _ _ => rfl) (fun link hlink => (h.attended a link hlink).flush)
        fun link hlink o hknown hannounced => (h.shown a link hlink o hknown hannounced).flush
  | service e =>
      obtain ⟨hstep, lanes, hdelivers, hclients⟩ := hstep
      obtain ⟨service, clients⟩ := w'
      obtain rfl : clients = w.clientsAfter lanes e := hclients
      cases e with
      | connect a order =>
          -- the new agency has no clients
          obtain ⟨_, _, _, _, rfl⟩ := hstep
          refine h.update (fun b hb => Function.update_of_ne hb _ _) ?_ ?_
          · intro l hl
            simp only [Service.connect, Function.update_self, Option.some.injEq] at hl
            subst hl
            exact attended_new _
          · rintro l hl o _ _ u hu
            cases hu
      | disconnect a =>
          obtain rfl : service = _ := hstep
          -- an agency that has gone shows nothing
          have hnone : ∀ l, Function.update w.service.links a none a ≠ some l := by simp
          change Holds D ⟨_, w.clients⟩
          rw [← Function.update_eq_self a w.clients]
          exact h.update (fun b hb => Function.update_of_ne hb _ _) (fun l hl => absurd hl (hnone l))
            fun l hl => absurd hl (hnone l)
      | play e =>
          exact h.congr (sameAgencies_play hstep)
      | hear a now unset =>
          obtain ⟨⟨link, hlink, hne⟩, rfl⟩ := hstep
          obtain ⟨⟨source, message⟩, rest, hpending⟩ := List.exists_cons_of_ne_nil hne
          simp only [clientsAfter, Service.hear, hlink, hpending]
          -- the one event in which clients are sent what an agency hears
          exact h.hear hservice hlink hpending (horderly.2 link source message rest hlink hpending)
            (hdelivers link source message rest hlink hpending)
      | accept a =>
          obtain ⟨link, hlink, rfl⟩ := hstep
          have hnew := horderly.2 link hlink
          have hattended := h.attended a link hlink
          simp only [clientsAfter, hlink]
          exact h.absorb (fun _ => hattended.accept hnew) fun _ o hknown hannounced =>
            (h.shown a link hlink o hknown hannounced).accept hattended hnew
      | close a u toOwner =>
          obtain ⟨link, hlink, rfl⟩ := hstep
          exact h.absorb (fun _ => (h.attended a link hlink).close u toOwner)
            fun _ o hknown hannounced => (h.shown a link hlink o hknown hannounced).close u toOwner

/-! ## Runs -/

theorem service_of_reachable (h : ((machine D nonzero).restrict orderly).Reachable w) :
    ((Service.machine D nonzero).restrict Service.assignsFreshId).Reachable w.service := by
  refine Machine.Reachable.invariant (M := (machine D nonzero).restrict orderly)
    (P := fun w => ((Service.machine D nonzero).restrict Service.assignsFreshId).Reachable w.service)
    ?_ ?_ h
  · rintro w rfl
    exact .init rfl
  · rintro w e w' hw ⟨horderly, hstep⟩
    cases e with
    | service e => exact .step hw ⟨horderly.1, hstep.1⟩
    | flush a =>
        obtain rfl : w' = _ := hstep
        exact hw

theorem holds_of_reachable (hD : D.Complete)
    (h : ((machine D nonzero).restrict orderly).Reachable w) : Holds D w := by
  induction h with
  | init hinit =>
      obtain rfl : _ = Audience.new D := hinit
      exact Holds.new D
  | step hreach hstep ih =>
      exact ih.step (Service.holds_of_reachable hD (service_of_reachable hreach)) hstep

/-- A client that has entered shows, once it has got what was posted to it, the objects that its agency
caches in its sector, among those that were spawned after the agency connected and for clients that
were still there. -/
theorem clients_show_cache (hD : D.Complete)
    (h : ((machine D nonzero).restrict orderly).Reachable w) {a : Nat} {link : Link}
    (hlink : w.service.links a = some link) {u : Nat} (hu : u ∈ (w.clients a).entered)
    {session : SessionValues} (hsession : link.agency.activeSessions.find u = some session)
    {k : Nat} (hx : session.sectorId ∈ D.sectorsOf k) {o : Nat} (hknown : o ∉ link.known)
    (hannounced : o ∉ (w.clients a).unannounced) :
    (scene ((w.clients a).lanes u)).sectorId = some session.sectorId ∧
      (o ∈ (scene ((w.clients a).lanes u)).objects ↔ link.agency.Cached session.sectorId o) := by
  obtain ⟨hsector, hobjects⟩ := (holds_of_reachable hD h).shown a link hlink o hknown hannounced u hu
    session hsession
  have howner : (D.owner session.sectorId).isSome = true := by
    rw [(D.mem_sectorsOf.1 hx).2]
    rfl
  exact ⟨hsector, hobjects howner⟩

/-- When no packet is under way between play servers and an agency has heard everything, each of its
clients that has entered shows, once it has got what was posted to it, exactly the objects that have a
fixture in its sector, among those that were spawned after the agency connected and for clients that
were still there. -/
theorem clients_shown (hD : D.Complete) (h : ((machine D nonzero).restrict orderly).Reachable w)
    (hflight : w.service.cluster.flight = []) {a : Nat} {link : Link}
    (hlink : w.service.links a = some link) (hpending : link.pending = []) {u : Nat}
    (hu : u ∈ (w.clients a).entered) {session : SessionValues}
    (hsession : link.agency.activeSessions.find u = some session) {k : Nat}
    (hx : session.sectorId ∈ D.sectorsOf k) {o : Nat} (hknown : o ∉ link.known)
    (hannounced : o ∉ (w.clients a).unannounced) :
    (scene ((w.clients a).lanes u)).sectorId = some session.sectorId ∧
      (o ∈ (scene ((w.clients a).lanes u)).objects ↔
        ∃ f, w.service.cluster.fixtureAt k session.sectorId o = some f) := by
  obtain ⟨hsector, hobjects⟩ := clients_show_cache hD h hlink hu hsession hx hknown hannounced
  obtain ⟨hsub, hsup⟩ := (Service.holds_of_reachable hD (service_of_reachable h)).mirrors hflight hlink
    hpending hx o
  refine ⟨hsector, hobjects.trans ⟨hsub, ?_⟩⟩
  rintro ⟨f, hf⟩
  exact hsup hknown f hf

end Audience

end Agency
end SeamlessServer
