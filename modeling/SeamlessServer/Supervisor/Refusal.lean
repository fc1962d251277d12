import SeamlessServer.Supervisor.Ownership

/-!
# Supervisor.Refusal — a recovery is accepted as a whole or not at all

`OnServerRecoveryMinionServerReq` makes all its checks before it writes anything, also the ones in
the loop over the claimed sectors.  `Refused` lists them; a refused recovery leaves the worker as it
is and is answered over its own session only.
-/

namespace SeamlessServer
namespace Supervisor

open Protocol Utility Game

namespace SupervisorWorker

variable {s : SupervisorWorker} {packet : RecoveryMinionServerRq}

/-- What the checks of a recovery establish. -/
structure Acceptable (s : SupervisorWorker) (packet : RecoveryMinionServerRq) : Prop where
  above_supervisor : supervisorServerId < packet.serverInfo.serverId
  not_managed : s.managedServerList.find packet.serverInfo.serverId = none
  play_or_empty : packet.serverInfo.serverType = .Play ∨ packet.sectors = []
  sectors_free : ∀ x ∈ packet.sectors, ∃ info, s.sectorInfo.find x = some info ∧
    info.ownerServerId = 0
  not_blocked : s.blockedServerList.find packet.serverInfo.serverId = none

theorem recoveryAccepted_iff : s.recoveryAccepted packet = true ↔ s.Acceptable packet := by
  simp only [recoveryAccepted, Bool.and_eq_true, Bool.or_eq_true, decide_eq_true_eq,
    Option.isNone_iff_eq_none, List.all_eq_true, List.isEmpty_iff]
  constructor
  · rintro ⟨⟨⟨⟨hid, hmanaged⟩, hplay⟩, hsectors⟩, hblocked⟩
    refine ⟨hid, hmanaged, hplay, fun x hx => ?_, hblocked⟩
    have hfree := hsectors x hx
    cases hfind : s.sectorInfo.find x with
    | none =>
        simp [hfind] at hfree
    | some info =>
        exact ⟨info, rfl, by simpa [hfind] using hfree⟩
  · rintro ⟨hid, hmanaged, hplay, hsectors, hblocked⟩
    refine ⟨⟨⟨⟨hid, hmanaged⟩, hplay⟩, fun x hx => ?_⟩, hblocked⟩
    obtain ⟨info, hfind, hfree⟩ := hsectors x hx
    simp [hfind, hfree]

/-- The reasons for which a recovery is refused. -/
def Refused (s : SupervisorWorker) (packet : RecoveryMinionServerRq) : Prop :=
  packet.serverInfo.serverId ≤ supervisorServerId ∨
    (s.managedServerList.find packet.serverInfo.serverId).isSome = true ∨
    (s.blockedServerList.find packet.serverInfo.serverId).isSome = true ∨
    (packet.serverInfo.serverType ≠ .Play ∧ packet.sectors ≠ []) ∨
    ∃ x ∈ packet.sectors, s.sectorInfo.find x = none ∨
      ∃ info, s.sectorInfo.find x = some info ∧ info.ownerServerId ≠ 0

theorem refused_iff : s.Refused packet ↔ s.recoveryAccepted packet = false := by
  have hsector : ∀ x, (s.sectorInfo.find x = none ∨
      ∃ info, s.sectorInfo.find x = some info ∧ info.ownerServerId ≠ 0) ↔
      ¬ ∃ info, s.sectorInfo.find x = some info ∧ info.ownerServerId = 0 := by
    intro x
    cases s.sectorInfo.find x <;> simp
  rw [← Bool.not_eq_true, recoveryAccepted_iff]
  unfold Refused
  simp only [hsector]
  constructor
  · -- each reason contradicts one part of the acceptance
    rintro (hid | hmanaged | hblocked | ⟨hplay, hclaims⟩ | ⟨x, hx, hfree⟩) h
    · exact absurd h.above_supervisor (Nat.not_lt.2 hid)
    · rw [h.not_managed] at hmanaged
      cases hmanaged
    · rw [h.not_blocked] at hblocked
      cases hblocked
    · exact h.play_or_empty.elim hplay hclaims
    · exact hfree (h.sectors_free x hx)
  · intro h
    by_contra hnone
    push Not at hnone
    obtain ⟨hid, hmanaged, hblocked, hplay, hsectors⟩ := hnone
    refine h ⟨hid, by simpa using hmanaged, ?_, hsectors, by simpa using hblocked⟩
    -- only a play server may claim sectors
    by_cases htype : packet.serverInfo.serverType = .Play
    · exact .inl htype
    · exact .inr (hplay htype)

theorem recovery_of_refused (session : SessionId) (now : Milliseconds) (h : s.Refused packet) :
    onServerRecoveryMinionServerReq s session packet now =
      (s, [.send session (.recoveryMinionServerRs .RecoveryFailed)]) := by
  simp [onServerRecoveryMinionServerReq, refused_iff.1 h]

/-- A broadcast carries the packets it is made of and no others. -/
theorem packet_mem_of_broadcast {packets : List SupervisorPacket} {session : SessionId}
    {p : SupervisorPacket} (h : Action.send session p ∈ s.broadcastPacket packets) :
    p ∈ packets := by
  obtain ⟨_, _, hsend⟩ := List.mem_flatMap.1 h
  obtain ⟨_, hp, heq⟩ := List.mem_map.1 hsend
  cases heq
  exact hp

/-- No packet of an accepted recovery says that it failed. -/
theorem not_failed_of_accepted (session : SessionId) (now : Milliseconds)
    (h : s.recoveryAccepted packet = true) (receiver : SessionId) :
    .send receiver (.recoveryMinionServerRs .RecoveryFailed) ∉
      (onServerRecoveryMinionServerReq s session packet now).2 := by
  rw [recovery_actions s session packet now h]
  intro hmem
  rcases List.mem_append.1 hmem with hanswer | hbroadcast
  · -- the answer carries success
    simp at hanswer
  · have hpacket := packet_mem_of_broadcast hbroadcast
    simp at hpacket

end SupervisorWorker

open SupervisorWorker

/-- The answer to a recovery says that it failed exactly when there is a reason to refuse it.  Then
the worker is left as it was and nothing is sent but the answer; otherwise the claimed sectors, also
one that is claimed twice, are the server's, and no other sector changes its owner. -/
theorem recovery_all_or_nothing (s : SupervisorWorker) (session : SessionId)
    (packet : RecoveryMinionServerRq) (now : Milliseconds) :
    let result := onServerRecoveryMinionServerReq s session packet now
    (.send session (.recoveryMinionServerRs .RecoveryFailed) ∈ result.2 ↔ s.Refused packet) ∧
    (s.Refused packet →
      result = (s, [.send session (.recoveryMinionServerRs .RecoveryFailed)])) ∧
    (¬ s.Refused packet → ∀ x, result.1.ownerOf x =
      if x ∈ packet.sectors then packet.serverInfo.serverId else s.ownerOf x) := by
  intro result
  refine ⟨⟨fun hmem => ?_, fun hrefused => ?_⟩, recovery_of_refused session now, fun haccepted => ?_⟩
  -- an accepted recovery sends other answers, and none of them is the failure
  · by_contra haccepted
    rw [refused_iff, Bool.not_eq_false] at haccepted
    exact not_failed_of_accepted session now haccepted session hmem
  · show _ ∈ (onServerRecoveryMinionServerReq s session packet now).2
    rw [recovery_of_refused session now hrefused]
    exact List.mem_singleton_self _
  · rw [refused_iff, Bool.not_eq_false] at haccepted
    exact (recovery_spec_of_accepted s session packet now haccepted).2.1

end Supervisor
end SeamlessServer
