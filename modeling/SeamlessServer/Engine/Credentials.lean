import SeamlessServer.Engine.Authentication
import SeamlessServer.Engine.Streams

/-!
# Engine.Credentials — by whom a session is taken up again

A stream gets an abandoned session by a `packet_session_auth_rq` with the session's key, and in no
other way (`reattached_by_key`).  The engine itself never sends such a request when it connects again:
the credentials its peer has issued do not reach `_connector_list` (`restores_iff`).
-/

namespace SeamlessServer
namespace Engine

open NetworkEngine (ContextType StreamType errorNone errorSessionIsNotReady)

namespace EngineState

variable {option : NetworkEngineOption} {s : EngineState} {t : SocketStream} {id : Nat}

/-! ## Taking up a session -/

/-- The session of a stream after a packet, if it is another than before, is from the pool or the one
that the packet asks for. -/
theorem Sound.session_of_processed (h : s.Sound option) (received : Received) (answers : Answers)
    (hbefore : (s.stream t).session ≠ some id)
    (hafter : ((s.processSessionPacket option t received answers).state.stream t).session =
      some id) :
    answers.pop = some id ∨ ∃ key, received.packet = .sessionAuthRq id key ∧
      received.decodes = true ∧ (s.sessions id).sessionKey = key := by
  rcases h.processSessionPacket_cases (t := t) received answers with
    ⟨_, hstate⟩ | ⟨_, id', _, hstate⟩ | ⟨id', key, hpop, ⟨_, hstate⟩ | ⟨_, issued, hstate⟩⟩ |
      ⟨id', key, hpacket, hdecodes, _, _, hkey, _, hstate⟩
  · rw [hstate] at hafter
    exact absurd hafter hbefore
  · rw [hstate] at hafter
    exact absurd hafter hbefore
  · rw [hstate, stream_openSession, if_pos rfl] at hafter
    cases hafter
    exact .inl hpop
  · rw [hstate, stream_setStream, if_pos rfl, stream_openSession, if_pos rfl] at hafter
    cases hafter
    exact .inl hpop
  · rw [hstate, stream_revive, if_pos rfl] at hafter
    cases hafter
    exact .inr ⟨key, hpacket, hdecodes, hkey⟩

theorem Sound.session_of_packet (h : s.Sound option) (received : Received) (answers : Answers)
    (hbefore : (s.stream t).session ≠ some id)
    (hafter : ((s.readPacket option t received answers).stream t).session = some id) :
    answers.pop = some id ∨ ∃ key, received.packet = .sessionAuthRq id key ∧
      received.decodes = true ∧ (s.sessions id).sessionKey = key := by
  cases hsession : (s.stream t).session with
  | some id' =>
      -- the stream keeps its session or loses it, as it would in any other event
      have hchanges : Changes (.read t) s (s.readPacket option t received answers) :=
        .readSessionPacket hsession received answers
      rcases hchanges.session (t := t) (fun _ _ heq => by cases heq) with hsame | hnone
      · exact absurd (hsame.symm.trans hafter) hbefore
      · rw [hnone] at hafter
        cases hafter
  | none =>
      refine h.session_of_processed received answers hbefore ?_
      unfold EngineState.readPacket at hafter
      rw [hsession] at hafter
      dsimp only at hafter
      split at hafter
      · exact hafter
      · split at hafter
        · exact hafter
        · rwa [EngineState.prepareContext, stream_setStream, if_pos rfl] at hafter

/-- A stream, whether accepted or connected, gets a session that was abandoned by a
`packet_session_auth_rq` with its id and its key. -/
theorem reattached_by_key (h : (engine option).Reachable s) {e : EngineEvent}
    (henabled : s.Enabled option e) (habandoned : .abandoned ∈ s.log id)
    (hbefore : (s.stream t).session ≠ some id)
    (hafter : ((s.next option e).stream t).session = some id) :
    ∃ received answers key, e = .packet t received answers ∧
      received.packet = .sessionAuthRq id key ∧ received.decodes = true ∧
      (s.sessions id).sessionKey = key := by
  have hsound := sound_of_reachable h
  -- only a packet binds a session to a stream
  by_cases hpacket : ∃ received answers, e = .packet t received answers
  · obtain ⟨received, answers, rfl⟩ := hpacket
    rcases hsound.session_of_packet received answers hbefore hafter with
      hpop | ⟨key, hrequest, hdecodes, hkey⟩
    · -- a session of the pool was not abandoned since it returned there
      obtain ⟨p, hp⟩ := hsound.placed id
      obtain rfl := hp.pooled.1 (henabled.2 id hpop)
      have hlog : s.log id = [] := hp.log
      rw [hlog] at habandoned
      cases habandoned
    · exact ⟨received, answers, key, rfl, hrequest, hdecodes, hkey⟩
  · exfalso
    have hother : ∀ received answers, e ≠ .packet t received answers :=
      fun received answers heq => hpacket ⟨received, answers, heq⟩
    rcases (changes_next hsound henabled).session hother with hsame | hnone
    · exact hbefore (hsame.symm.trans hafter)
    · rw [hnone] at hafter
      cases hafter

open Sample in
/-- The first session was abandoned by its stream; another stream asks for it. -/
theorem reattached_by_sample_key :
    let s := after (opening (.acceptor 1) ++ losing (.acceptor 1) ++ handling ++ handling ++
      [.accept (.acceptor 3), .read (.acceptor 3)])
    let e : EngineEvent :=
      .packet (.acceptor 3) { packet := .sessionAuthRq 1 Sample.key } {}
    ∃ received answers key, e = .packet (.acceptor 3) received answers ∧
      received.packet = .sessionAuthRq 1 key ∧ received.decodes = true ∧
      (s.sessions 1).sessionKey = key := by
  intro s e
  exact @reattached_by_key Sample.option _ _ _ (reachable_after _) _ (by decide +kernel)
    (by decide +kernel) (by decide +kernel) (by decide +kernel)

/-! ## What a connector sends when it is connected again -/

/-- The next connection of the connector begins with the credentials that its peer has issued for the
connection that was lost. -/
def Restores (option : NetworkEngineOption) (s : EngineState) (t : SocketStream)
    (connectorId : Nat) : Prop :=
  ∀ sessionId sessionKey, s.lost connectorId = some (sessionId, sessionKey) →
    (s.onConnect option t connectorId).2 = [⟨t, .sessionAuthRq sessionId sessionKey, errorNone⟩]

/-- Every registered connector begins with a request for a new session. -/
theorem Sound.writes_onConnect (h : s.Sound option) {connectorId : Nat} {info : ConnectorInfo}
    (hregistered : s.connectorList connectorId = some info) :
    (s.onConnect option t connectorId).2 = [⟨t, .sessionCreateRq, errorNone⟩] := by
  have hzero := h.connectors connectorId info hregistered
  unfold EngineState.onConnect
  dsimp only
  split
  next hnone =>
    have hsome : some info = none := hregistered.symm.trans hnone
    cases hsome
  next info' hinfo =>
    obtain rfl : info = info' := Option.some.inj (hregistered.symm.trans hinfo)
    simp [greeting, hzero]

/-- The credentials of a lost connection are never sent: there is nothing to restore, or it is not
restored. -/
theorem restores_iff (h : (engine option).Reachable s) {connectorId : Nat}
    (hregistered : s.connectorList connectorId ≠ none) :
    Restores option s t connectorId ↔ s.lost connectorId = none := by
  obtain ⟨info, hinfo⟩ := Option.ne_none_iff_exists'.1 hregistered
  have hwrites := (sound_of_reachable h).writes_onConnect (t := t) hinfo
  constructor
  · intro hrestores
    -- the request that is written holds no credentials, whatever was lost
    cases hlost : s.lost connectorId with
    | none =>
        rfl
    | some credentials =>
        have hsent := hrestores credentials.1 credentials.2 hlost
        simp [hwrites] at hsent
  · intro hlost sessionId sessionKey hsome
    rw [hlost] at hsome
    cases hsome

end EngineState

open EngineState Sample in
/-- A connector whose peer issued the session id 5 and a key loses its connection, and asks for a new
session in the next one. -/
theorem credentials_forgotten :
    let s := after ([.register ⟨"", 0⟩ 0, .connect (.connector 1) 1, .read (.connector 1),
      .packet (.connector 1) { packet := .sessionCreateRs 5 key } { pop := some 1 },
      .flush (.connector 1) true, .finishRead (.connector 1)] ++ losing (.connector 1))
    (engine option).Reachable s ∧ option.useSessionReconnect = true ∧
      s.connectorList 1 ≠ none ∧ s.lost 1 = some (5, key) ∧
      s.Enabled option (.connect (.connector 3) 1) ∧ ¬ Restores option s (.connector 3) 1 ∧
      (s.onConnect option (.connector 3) 1).2 = [⟨.connector 3, .sessionCreateRq, errorNone⟩] := by
  intro s
  have hlost : s.lost 1 = some (5, key) := by decide +kernel
  have hwrites : (s.onConnect option (.connector 3) 1).2 =
      [⟨.connector 3, .sessionCreateRq, errorNone⟩] := by
    decide +kernel
  refine ⟨reachable_after _, rfl, by decide +kernel, hlost, by decide +kernel, ?_, hwrites⟩
  intro h
  have hsent := h 5 key hlost
  simp [hwrites] at hsent

open EngineState Sample in
/-- A connector that has never been connected. -/
theorem restores_fresh :
    let s := after [.register ⟨"", 0⟩ 0]
    Restores option s (.connector 0) 1 ↔ s.lost 1 = none :=
  restores_iff (reachable_after _) (by decide +kernel)

end Engine
end SeamlessServer
