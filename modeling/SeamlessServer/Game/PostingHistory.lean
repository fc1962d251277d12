import SeamlessServer.Data.History
import SeamlessServer.Game.SectorPostingManager

/-!
# Game.PostingHistory — the posting manager read off its history

What `SectorPostingManager` holds after any sequence of its public functions, in terms of the calls
alone: the owner of a sector is the target of the last allocation, the session of a target the one of
the last link, each until a later call takes it away.  Listening is read off the same way, but
`related_sectors` serves owning and listening at once, and there are two calls after which the index
no longer agrees with the history; they are what `Faithful` is about.
-/

namespace SeamlessServer
namespace Game

open History

namespace SectorPostingManager

/-- A call of a public function that creates an entry of the index or changes one.  `SendTo` and the
other functions that post look entries up and leave the index as it is. -/
inductive Call
  | allocateSector (sectorId targetId : Nat)
  | linkSession (targetId : Nat) (session : Option SessionRef)
  | unlinkSession (targetId : Nat)
  | addSectorListener (sectorId targetId : Nat)
  | removeSectorListener (sectorId targetId : Nat)
  | unsetAll (targetId : Nat)
  | getSectorOwnerSession (sectorId : Nat)
  | getOwnershipSectors (targetId : Nat)
  deriving DecidableEq

namespace Call

/-- The target that a call names. -/
def target? : Call → Option Nat
  | .allocateSector _ targetId => some targetId
  | .linkSession targetId _ => some targetId
  | .unlinkSession targetId => some targetId
  | .addSectorListener _ targetId => some targetId
  | .removeSectorListener _ targetId => some targetId
  | .unsetAll targetId => some targetId
  | .getSectorOwnerSession _ => none
  | .getOwnershipSectors targetId => some targetId

/-- The sector that a call reaches with `_sectors[sector_id]`, which creates the record. -/
def sector? : Call → Option Nat
  | .allocateSector sectorId _ => some sectorId
  | .addSectorListener sectorId _ => some sectorId
  | .getSectorOwnerSession sectorId => some sectorId
  | _ => none

end Call

variable (m : SectorPostingManager)

/-- The index after a call.  The two getters create a default record at most, which is what the index
already gives under a key it does not hold. -/
def apply : Call → SectorPostingManager
  | .allocateSector sectorId targetId => m.allocateSector sectorId targetId
  | .linkSession targetId session => m.linkSession targetId session
  | .unlinkSession targetId => m.unlinkSession targetId
  | .addSectorListener sectorId targetId => m.addSectorListener sectorId targetId
  | .removeSectorListener sectorId targetId => m.removeSectorListener sectorId targetId
  | .unsetAll targetId => m.unsetAll targetId
  | .getSectorOwnerSession _ => m
  | .getOwnershipSectors _ => m

/-- The index after a sequence of calls on a new manager. -/
def after (calls : List Call) : SectorPostingManager := calls.foldl apply {}

theorem after_append (calls more : List Call) :
    after (calls ++ more) = more.foldl apply (after calls) := List.foldl_append

theorem Kept.after {P : SectorPostingManager → Prop} (hP : Kept P) (calls : List Call) :
    P (after calls) := by
  refine foldl_invariant hP.empty (fun m c h => ?_) calls
  cases c with
  | allocateSector x k => exact hP.allocateSector x k h
  | linkSession k session => exact hP.linkSession k session h
  | unlinkSession k => exact hP.linkSession k none h
  | addSectorListener x k => exact hP.addSectorListener x k h
  | removeSectorListener x k => exact hP.removeSectorListener x k h
  | unsetAll k => exact hP.unsetAll k h
  | getSectorOwnerSession _ => exact h
  | getOwnershipSectors _ => exact h

/-! ## What the calls say -/

/-- The last `AllocateSector` of the sector named the target, and no `UnsetAll` of it followed. -/
def AllocatedTo (calls : List Call) (sectorId targetId : Nat) : Prop :=
  Stands (.allocateSector sectorId targetId)
    (fun c => (∃ other, c = .allocateSector sectorId other) ∨ c = .unsetAll targetId) calls

/-- The last `LinkSession` of the target gave it the session, and no `UnlinkSession` or `UnsetAll` of
it followed. -/
def LinkedTo (calls : List Call) (targetId : Nat) (session : SessionRef) : Prop :=
  Stands (.linkSession targetId (some session))
    (fun c => (∃ other, c = .linkSession targetId other) ∨ c = .unlinkSession targetId ∨
      c = .unsetAll targetId) calls

/-- The target was added as a listener of the sector, and neither removed from it nor unset since. -/
def ListensTo (calls : List Call) (sectorId targetId : Nat) : Prop :=
  Stands (.addSectorListener sectorId targetId)
    (fun c => c = .removeSectorListener sectorId targetId ∨ c = .unsetAll targetId) calls

/-- The index holds a record of the sector. -/
def Named (calls : List Call) (sectorId : Nat) : Prop := ∃ c ∈ calls, c.sector? = some sectorId

/-! ## Owners and links -/

variable {m}

theorem owner_apply (h : m.OwnedRelated) {t : Nat} (ht : t ≠ 0) (x : Nat) (c : Call) :
    (m.apply c).owner x = t ↔ c = .allocateSector x t ∨
      (m.owner x = t ∧ ¬ ((∃ other, c = .allocateSector x other) ∨ c = .unsetAll t)) := by
  cases c with
  | allocateSector y k =>
      rw [apply, owner_allocateSector]
      by_cases hxy : x = y
      · subst hxy
        simp
      · simp [hxy, Ne.symm hxy]
  | unsetAll k =>
      have howner : (m.unsetAll k).owner x = if m.owner x = k then 0 else m.owner x := by
        by_cases hk : k = 0
        · -- the sectors without an owner stay without one
          rw [SectorPostingManager.owner_unsetAll, hk]
          split <;> split <;> simp_all
        · exact h.owner_unsetAll hk x
      rw [apply, howner]
      by_cases hx : m.owner x = k
      · simp [hx, Ne.symm ht, eq_comm]
      · have hk : m.owner x = t → k ≠ t := fun heq hkt => hx (heq.trans hkt.symm)
        simpa [hx] using hk
  | linkSession k session => simp [apply]
  | unlinkSession k => simp [apply, unlinkSession]
  | addSectorListener y k => simp [apply, owner_addSectorListener]
  | removeSectorListener y k => simp [apply, owner_removeSectorListener]
  | getSectorOwnerSession _ => simp [apply]
  | getOwnershipSectors _ => simp [apply]

/-- The owner of a sector is the target it was last allocated to. -/
theorem owner_after_iff {t : Nat} (ht : t ≠ 0) (calls : List Call) (x : Nat) :
    (after calls).owner x = t ↔ AllocatedTo calls x t := by
  have hstart : ¬ owner {} x = t := fun h => ht h.symm
  exact stands_of_latch (Q := fun m => owner m x = t) hstart
    (fun before c => owner_apply (OwnedRelated.kept.after before) ht x c) calls

/-- A sector is without an owner if no allocation of it stands. -/
theorem owner_after_eq_zero_iff (calls : List Call) (x : Nat) :
    (after calls).owner x = 0 ↔ ∀ t ≠ 0, ¬ AllocatedTo calls x t := by
  constructor
  · intro hzero t ht hallocated
    have howner := (owner_after_iff ht calls x).2 hallocated
    exact ht (howner.symm.trans hzero)
  · intro hnone
    by_contra hne
    exact hnone _ hne ((owner_after_iff hne calls x).1 rfl)

theorem link_apply (t : Nat) (session : SessionRef) (c : Call) :
    (m.apply c).link t = some session ↔ c = .linkSession t (some session) ∨
      (m.link t = some session ∧ ¬ ((∃ other, c = .linkSession t other) ∨ c = .unlinkSession t ∨
        c = .unsetAll t)) := by
  cases c with
  | linkSession k linked =>
      -- a link without a session leaves the target without one
      rw [apply, link_linkSession]
      by_cases hk : t = k
      · subst hk
        simp
      · simp [hk, Ne.symm hk]
  | unlinkSession k =>
      rw [apply, unlinkSession, link_linkSession]
      by_cases hk : t = k
      · subst hk
        simp
      · simp [hk, Ne.symm hk]
  | unsetAll k =>
      rw [apply, link_unsetAll]
      by_cases hk : t = k
      · subst hk
        simp
      · simp [hk, Ne.symm hk]
  | allocateSector x k => simp [apply, link_allocateSector]
  | addSectorListener x k => simp [apply, link_addSectorListener]
  | removeSectorListener x k =>
      have hsame : (m.removeSectorListener x k).link t = m.link t := rfl
      simp [apply, hsame]
  | getSectorOwnerSession _ => simp [apply]
  | getOwnershipSectors _ => simp [apply]

theorem link_after_iff (calls : List Call) (t : Nat) (session : SessionRef) :
    (after calls).link t = some session ↔ LinkedTo calls t session := by
  have hstart : ¬ link {} t = some session := fun h => Option.some_ne_none _ h.symm
  exact stands_of_latch (Q := fun m => link m t = some session) hstart
    (fun _ c => link_apply t session c) calls

theorem reaches_after_iff (calls : List Call) (t : Nat) :
    (after calls).reaches t = true ↔ ∃ session, LinkedTo calls t session := by
  rw [reaches, Option.isSome_iff_exists]
  exact exists_congr fun session => link_after_iff calls t session

/-- Where no target has the id 0, that id has no session. -/
theorem link_after_zero {calls : List Call} (hids : ∀ c ∈ calls, c.target? ≠ some 0) :
    (after calls).link 0 = none := by
  refine Option.eq_none_iff_forall_ne_some.2 fun session hlink => ?_
  obtain ⟨before, rest, rfl, -⟩ := (link_after_iff calls 0 session).1 hlink
  exact hids (.linkSession 0 (some session)) (by simp) rfl

/-! ### Posting to the owner -/

theorem sendToSectorOwner_eq_singleton (m : SectorPostingManager) (x t : Nat) :
    m.sendToSectorOwner x = [t] ↔ m.owner x = t ∧ m.reaches t = true := by
  unfold sendToSectorOwner sendTo
  constructor
  · intro h
    split at h
    next hreach =>
      obtain rfl : m.owner x = t := by simpa using h
      exact ⟨rfl, hreach⟩
    next => cases h
  · rintro ⟨rfl, hreach⟩
    rw [if_pos hreach]

/-- The session that `SendToSectorOwner` posts to is the one `GetSectorOwnerSession` gives. -/
theorem filterMap_sendToSectorOwner (m : SectorPostingManager) (x : Nat) :
    (m.sendToSectorOwner x).filterMap m.link = (m.getSectorOwnerSession x).toList := by
  rw [getSectorOwnerSession_eq]
  unfold sendToSectorOwner sendTo reaches
  cases hlink : m.link (m.owner x) with
  | none => simp
  | some session => simp [hlink]

section NonzeroTargets

variable {calls : List Call} (hids : ∀ c ∈ calls, c.target? ≠ some 0)
include hids

theorem owner_after_iff_of_link {t : Nat} {session : SessionRef}
    (hlink : (after calls).link t = some session) (x : Nat) :
    (after calls).owner x = t ↔ AllocatedTo calls x t := by
  refine owner_after_iff ?_ calls x
  -- a sector without an owner has the owner id 0, which no call names and so none links
  rintro rfl
  exact Option.some_ne_none _ (hlink.symm.trans (link_after_zero hids))

theorem getSectorOwnerSession_after_iff (x : Nat) (session : SessionRef) :
    (after calls).getSectorOwnerSession x = some session ↔
      ∃ t, AllocatedTo calls x t ∧ LinkedTo calls t session := by
  rw [getSectorOwnerSession_eq]
  constructor
  · intro hlink
    exact ⟨_, (owner_after_iff_of_link hids hlink x).1 rfl, (link_after_iff calls _ _).1 hlink⟩
  · rintro ⟨t, hallocated, hlinked⟩
    have hlink := (link_after_iff calls t session).2 hlinked
    rwa [(owner_after_iff_of_link hids hlink x).2 hallocated]

theorem sendToSectorOwner_after_iff (x t : Nat) :
    (after calls).sendToSectorOwner x = [t] ↔
      AllocatedTo calls x t ∧ ∃ session, LinkedTo calls t session := by
  rw [sendToSectorOwner_eq_singleton, reaches_after_iff]
  refine and_congr_left ?_
  rintro ⟨session, hlinked⟩
  exact owner_after_iff_of_link hids ((link_after_iff calls t session).2 hlinked) x

end NonzeroTargets

/-- `GetSectorOwnerSession` and `SendToSectorOwner` use the target that the calls name as the owner of
the sector, with the session that the calls name as its own, and no target otherwise. -/
theorem sectorOwner_after (calls : List Call) (hids : ∀ c ∈ calls, c.target? ≠ some 0) (x : Nat) :
    (∀ t, (after calls).sendToSectorOwner x = [t] ↔
      AllocatedTo calls x t ∧ ∃ session, LinkedTo calls t session) ∧
    (∀ session, (after calls).getSectorOwnerSession x = some session ↔
      ∃ t, AllocatedTo calls x t ∧ LinkedTo calls t session) ∧
    ((after calls).sendToSectorOwner x).filterMap (after calls).link =
      ((after calls).getSectorOwnerSession x).toList ∧
    ((¬ ∃ t session, AllocatedTo calls x t ∧ LinkedTo calls t session) →
      (after calls).getSectorOwnerSession x = none ∧ (after calls).sendToSectorOwner x = []) := by
  have hsession := getSectorOwnerSession_after_iff hids x
  refine ⟨sendToSectorOwner_after_iff hids x, hsession, filterMap_sendToSectorOwner _ x, ?_⟩
  intro hnone
  have hinvalid : (after calls).getSectorOwnerSession x = none := by
    refine Option.eq_none_iff_forall_ne_some.2 fun session h => hnone ?_
    obtain ⟨t, ht⟩ := (hsession session).1 h
    exact ⟨t, session, ht⟩
  refine ⟨hinvalid, ?_⟩
  rw [getSectorOwnerSession_eq] at hinvalid
  simp [sendToSectorOwner, sendTo, reaches, hinvalid]

/-- Sector 3 is owned by server 7, which is reached over the loopback. -/
theorem sectorOwner_after_allocated :
    (after [.allocateSector 3 7, .linkSession 7 (some .loopback)]).getSectorOwnerSession 3 =
      some .loopback := by
  refine ((sectorOwner_after _ ?_ 3).2.1 .loopback).2 ⟨7, ?_, ?_⟩
  · decide
  · exact ⟨[], [.linkSession 7 (some .loopback)], rfl, by simp⟩
  · exact ⟨[.allocateSector 3 7], [], rfl, by simp⟩

/-! ## Listeners -/

theorem listeners_allocateSector (m : SectorPostingManager) (x k y : Nat) :
    (m.allocateSector x k).listeners y = m.listeners y := by
  unfold allocateSector
  by_cases h : y = x
  · subst h
    by_cases hzero : (m.sectors y).ownerId = 0 <;>
      simp [setSector, listeners, hzero, relateSector, setSession, forgetSector]
  · by_cases hzero : (m.sectors x).ownerId = 0 <;>
      simp [setSector, listeners, h, hzero, relateSector, setSession, forgetSector]

theorem listeners_addSectorListener (m : SectorPostingManager) (x k y : Nat) :
    (m.addSectorListener x k).listeners y =
      if y = x then (m.listeners x).insert k else m.listeners y := by
  by_cases h : y = x
  · subst h
    simp [addSectorListener, setSector, listeners, relateSector, setSession]
  · simp [addSectorListener, setSector, listeners, h, relateSector, setSession]

theorem listeners_removeSectorListener (m : SectorPostingManager) (x k y : Nat) :
    (m.removeSectorListener x k).listeners y =
      if y ∈ m.related k then (m.listeners y).filter (· ≠ k) else m.listeners y := by
  unfold removeSectorListener listeners related
  dsimp only
  split <;> rfl

theorem listeners_unsetAll (m : SectorPostingManager) (k y : Nat) :
    (m.unsetAll k).listeners y =
      if y ∈ m.related k then (m.listeners y).filter (· ≠ k) else m.listeners y := by
  -- the session that `UnsetAll` takes as well is not part of a sector
  have hsame : (m.unsetAll k).listeners y = (m.forgetTarget k).listeners y := rfl
  rw [hsame]
  unfold forgetTarget listeners related
  dsimp only
  split <;> rfl

/-- No target listens to a sector twice. -/
def ListenersNodup (m : SectorPostingManager) : Prop := ∀ x, (m.listeners x).Nodup

theorem ListenersNodup.kept : Kept ListenersNodup where
  empty := fun _ => List.nodup_nil
  allocateSector := by
    intro m x k h y
    rw [listeners_allocateSector]
    exact h y
  linkSession := by
    intro m k session h y
    rw [listeners_linkSession]
    exact h y
  addSectorListener := by
    intro m x k h y
    rw [listeners_addSectorListener]
    split
    · exact (h x).insert
    · exact h y
  removeSectorListener := by
    intro m x k h y
    rw [listeners_removeSectorListener]
    split
    · exact (h y).filter _
    · exact h y
  unsetAll := by
    intro m k h y
    rw [listeners_unsetAll]
    split
    · exact (h y).filter _
    · exact h y

/-! ### The index in step with its history -/

/-- `SendToSector` posts once to each linked target that listens to the sector by the calls, and to no
other target. -/
def PostsToListeners (calls : List Call) (x : Nat) : Prop :=
  ((after calls).sendToSector x).Nodup ∧
    ∀ t, t ∈ (after calls).sendToSector x ↔
      (∃ session, LinkedTo calls t session) ∧ ListensTo calls x t

/-- Postings reach the listeners, also the ones of a target that is linked next and, when a target is
unset, of that target no more. -/
def Faithful (calls : List Call) : Prop :=
  ∀ x, PostsToListeners calls x ∧
    ∀ t session,
      PostsToListeners (calls ++ [.linkSession t (some session)]) x ∧
      PostsToListeners (calls ++ [.unsetAll t, .linkSession t (some session)]) x

/-- What must hold of the calls so far for the next one to leave the index in step with them.
`RemoveSectorListener` takes the target from every sector related to it, so it may listen to no other
sector; `AllocateSector` makes the old owner forget the sector, so that one may not listen to it. -/
def InStep (calls : List Call) : Call → Prop
  | .removeSectorListener x t => ∀ y ≠ x, ¬ ListensTo calls y t
  | .allocateSector x k => ∀ o ≠ 0, o ≠ k → AllocatedTo calls x o → ¬ ListensTo calls x o
  | _ => True

/-- The listeners are those of the calls, and each finds its sectors among the related ones. -/
structure ListenersAgree (calls : List Call) : Prop where
  listens : ∀ x t, t ∈ (after calls).listeners x ↔ ListensTo calls x t
  related : ∀ x t, t ∈ (after calls).listeners x → x ∈ (after calls).related t

theorem after_append_singleton (calls : List Call) (c : Call) :
    after (calls ++ [c]) = (after calls).apply c := after_append calls [c]

theorem listensTo_append_singleton (calls : List Call) (c : Call) (x t : Nat) :
    ListensTo (calls ++ [c]) x t ↔ c = .addSectorListener x t ∨
      (ListensTo calls x t ∧ ¬ (c = .removeSectorListener x t ∨ c = .unsetAll t)) :=
  stands_append_singleton calls c

theorem mem_sendToSector (m : SectorPostingManager) (x t : Nat) :
    t ∈ m.sendToSector x ↔ t ∈ m.listeners x ∧ m.reaches t = true := List.mem_filter

theorem postsToListeners_iff (calls : List Call) (x : Nat) :
    PostsToListeners calls x ↔ ∀ t, (after calls).reaches t = true →
      (t ∈ (after calls).listeners x ↔ ListensTo calls x t) := by
  have hnodup : ((after calls).sendToSector x).Nodup :=
    (ListenersNodup.kept.after calls x).filter _
  simp only [PostsToListeners, hnodup, true_and, mem_sendToSector, ← reaches_after_iff]
  refine forall_congr' fun t => ?_
  constructor
  · intro h hreach
    constructor
    · intro hmem
      exact (h.1 ⟨hmem, hreach⟩).2
    · intro hlistens
      exact (h.2 ⟨hreach, hlistens⟩).1
  · intro h
    constructor
    · rintro ⟨hmem, hreach⟩
      exact ⟨hreach, (h hreach).1 hmem⟩
    · rintro ⟨hreach, hlistens⟩
      exact ⟨(h hreach).2 hlistens, hreach⟩

theorem ListenersAgree.nil : ListenersAgree [] where
  listens := fun _ _ => iff_of_false List.not_mem_nil not_stands_nil
  related := fun _ _ h => absurd h List.not_mem_nil

/-- A call that is in step keeps the listeners in agreement with the calls. -/
theorem ListenersAgree.step {calls : List Call} (h : ListenersAgree calls) {c : Call}
    (hc : InStep calls c) : ListenersAgree (calls ++ [c]) := by
  have happend := after_append_singleton calls c
  cases c with
  | allocateSector x k =>
      have hlisteners : ∀ y, (after (calls ++ [.allocateSector x k])).listeners y =
          (after calls).listeners y := by
        intro y
        rw [happend]
        exact listeners_allocateSector _ x k y
      refine ⟨fun y t => ?_, fun y t ht => ?_⟩
      · rw [hlisteners, listensTo_append_singleton, h.listens]
        simp
      · rw [hlisteners] at ht
        rw [happend, apply, mem_related_allocateSector]
        by_cases hold : (after calls).owner x ≠ 0 ∧ t = (after calls).owner x ∧ y = x
        · -- the old owner is made to forget the sector: it is the new one, or does not listen
          obtain ⟨hne, rfl, rfl⟩ := hold
          by_cases hk : (after calls).owner y = k
          · exact .inr ⟨hk, rfl⟩
          · have hnot := hc _ hne hk ((owner_after_iff hne calls y).1 rfl)
            exact absurd ((h.listens y _).1 ht) hnot
        · exact .inl ⟨h.related y t ht, hold⟩
  | addSectorListener x k =>
      have hmem : ∀ y t, t ∈ (after (calls ++ [.addSectorListener x k])).listeners y ↔
          (y = x ∧ t = k) ∨ t ∈ (after calls).listeners y := by
        intro y t
        rw [happend, apply, listeners_addSectorListener]
        by_cases hy : y = x
        · subst hy
          simp
        · simp [hy]
      refine ⟨fun y t => ?_, fun y t ht => ?_⟩
      · rw [hmem, listensTo_append_singleton, h.listens]
        simp [eq_comm]
      · rw [happend, apply, mem_related_addSectorListener]
        rcases (hmem y t).1 ht with ⟨hy, htk⟩ | ht
        · exact .inr ⟨htk, hy⟩
        · exact .inl (h.related y t ht)
  | removeSectorListener x k =>
      have hmem : ∀ y t, t ∈ (after (calls ++ [.removeSectorListener x k])).listeners y ↔
          t ∈ (after calls).listeners y ∧ ¬ (y ∈ (after calls).related k ∧ t = k) := by
        intro y t
        rw [happend, apply, listeners_removeSectorListener]
        by_cases hy : y ∈ (after calls).related k <;> simp [hy]
      refine ⟨fun y t => ?_, fun y t ht => ?_⟩
      · rw [hmem, listensTo_append_singleton]
        by_cases htk : t = k
        · subst htk
          by_cases hy : y = x
          · -- the sector that is named is related, so its listener is found and removed
            subst hy
            simpa using h.related y t
          · -- of any other sector the target is no listener
            have hnot := hc y hy
            simp [h.listens, hnot]
        · simp [h.listens, htk, Ne.symm htk]
      · rw [happend]
        exact h.related y t ((hmem y t).1 ht).1
  | unsetAll k =>
      have hmem : ∀ y t, t ∈ (after (calls ++ [.unsetAll k])).listeners y ↔
          t ∈ (after calls).listeners y ∧ ¬ (y ∈ (after calls).related k ∧ t = k) := by
        intro y t
        rw [happend]
        exact mem_listeners_unsetAll _ k t y
      refine ⟨fun y t => ?_, fun y t ht => ?_⟩
      · rw [hmem, listensTo_append_singleton]
        by_cases htk : t = k
        · -- every sector it listens to is related to it, so it is found in all of them
          subst htk
          simpa using h.related y t
        · simp [h.listens, htk, Ne.symm htk]
      · obtain ⟨hold, hkept⟩ := (hmem y t).1 ht
        have hne : t ≠ k := fun heq => hkept ⟨heq ▸ h.related y t hold, heq⟩
        rw [happend, apply, related_unsetAll, if_neg hne]
        exact h.related y t hold
  | linkSession k session =>
      -- a call that only writes sessions touches no sector
      refine ⟨fun y t => ?_, fun y t ht => ?_⟩
      · rw [happend, apply, listeners_linkSession, listensTo_append_singleton, h.listens]
        simp
      · rw [happend, apply, listeners_linkSession] at ht
        rw [happend, apply, related_linkSession]
        exact h.related y t ht
  | unlinkSession k =>
      refine ⟨fun y t => ?_, fun y t ht => ?_⟩
      · rw [happend, apply, unlinkSession, listeners_linkSession, listensTo_append_singleton,
          h.listens]
        simp
      · rw [happend, apply, unlinkSession, listeners_linkSession] at ht
        rw [happend, apply, unlinkSession, related_linkSession]
        exact h.related y t ht
  | getSectorOwnerSession x =>
      refine ⟨fun y t => ?_, fun y t ht => ?_⟩
      · rw [happend, apply, listensTo_append_singleton, h.listens]
        simp
      · rw [happend] at ht ⊢
        exact h.related y t ht
  | getOwnershipSectors k =>
      refine ⟨fun y t => ?_, fun y t ht => ?_⟩
      · rw [happend, apply, listensTo_append_singleton, h.listens]
        simp
      · rw [happend] at ht ⊢
        exact h.related y t ht

theorem ListenersAgree.of_each {calls : List Call} (h : Each InStep calls) :
    ListenersAgree calls := by
  induction calls using List.reverseRecOn with
  | nil =>
      exact .nil
  | append_singleton calls c ih =>
      obtain ⟨hcalls, hc⟩ := (each_append_singleton calls c).1 h
      exact (ih hcalls).step hc

theorem ListenersAgree.postsToListeners {calls : List Call} (h : ListenersAgree calls) (x : Nat) :
    PostsToListeners calls x :=
  (postsToListeners_iff calls x).2 fun t _ => h.listens x t

theorem ListenersAgree.faithful {calls : List Call} (h : ListenersAgree calls) : Faithful calls := by
  intro x
  refine ⟨h.postsToListeners x, fun t session => ⟨?_, ?_⟩⟩
  · exact (h.step (c := .linkSession t (some session)) trivial).postsToListeners x
  · have hunset := h.step (c := .unsetAll t) trivial
    have hlink := hunset.step (c := .linkSession t (some session)) trivial
    rw [List.append_assoc] at hlink
    exact hlink.postsToListeners x

/-- Seen through a session that is linked next, the listeners are those of the calls. -/
theorem Faithful.listens {calls : List Call} (h : Faithful calls) (x t : Nat) :
    t ∈ (after calls).listeners x ↔ ListensTo calls x t := by
  have hposts := (postsToListeners_iff _ x).1 ((h x).2 t .loopback).1 t
  rw [after_append_singleton, apply, listeners_linkSession, listensTo_append_singleton] at hposts
  simpa using hposts (by simp [reaches, link_linkSession])

/-- Seen after `UnsetAll`, every sector a target listens to is related to it. -/
theorem Faithful.related {calls : List Call} (h : Faithful calls) {x t : Nat}
    (hlistens : t ∈ (after calls).listeners x) : x ∈ (after calls).related t := by
  have hposts := (postsToListeners_iff _ x).1 ((h x).2 t .loopback).2 t
  rw [List.append_cons calls, after_append_singleton, after_append_singleton, apply, apply,
    listeners_linkSession, mem_listeners_unsetAll, listensTo_append_singleton,
    listensTo_append_singleton] at hposts
  simpa [reaches, link_linkSession, hlistens] using hposts

/-- A call after which the index still serves every target was in step. -/
theorem Faithful.inStep {calls : List Call} (h : ListenersAgree calls) {c : Call}
    (hc : Faithful (calls ++ [c])) : InStep calls c := by
  cases c with
  | removeSectorListener x t =>
      intro y hy hlistens
      -- the calls still have the target listen to the other sector, the index does not
      have hmem := (h.listens y t).2 hlistens
      have hstill : ListensTo (calls ++ [.removeSectorListener x t]) y t := by
        rw [listensTo_append_singleton]
        simp [hlistens, Ne.symm hy]
      have hnow := (hc.listens y t).2 hstill
      rw [after_append_singleton, apply, listeners_removeSectorListener,
        if_pos (h.related y t hmem)] at hnow
      simp at hnow
  | allocateSector x k =>
      intro o hne hk howner hlistens
      -- the old owner listens to the sector, which is no more related to it
      have hstill : ListensTo (calls ++ [.allocateSector x k]) x o := by
        rw [listensTo_append_singleton]
        simp [hlistens]
      have hrelated := hc.related ((hc.listens x o).2 hstill)
      rw [after_append_singleton, apply, mem_related_allocateSector,
        (owner_after_iff hne calls x).2 howner] at hrelated
      rcases hrelated with ⟨-, hkept⟩ | ⟨hok, -⟩
      · exact hkept ⟨hne, rfl, rfl⟩
      · exact hk hok
  | _ => exact trivial -- of no other call is anything asked

/-- The index serves its listeners after every call of a sequence exactly when every call is in step
with the ones before it. -/
theorem faithful_iff_inStep (calls : List Call) :
    (∀ before, before <+: calls → Faithful before) ↔ Each InStep calls := by
  constructor
  -- by the last call: the calls before it are in step by induction, and they leave the listeners
  -- right
  · intro h
    induction calls using List.reverseRecOn with
    | nil =>
        exact each_nil _
    | append_singleton calls c ih =>
        have hcalls := ih fun before hbefore => h before (hbefore.trans (List.prefix_append _ _))
        have hagree := ListenersAgree.of_each hcalls
        exact (each_append_singleton calls c).2
          ⟨hcalls, Faithful.inStep hagree (h _ (List.prefix_refl _))⟩
  · rintro h before ⟨rest, rfl⟩
    refine (ListenersAgree.of_each ?_).faithful
    rintro pre c post rfl
    exact h pre c (post ++ rest) (by simp)

/-- Target 5 listens to two sectors and is removed from one: it hears nothing of the other. -/
theorem postsToListeners_removed :
    ¬ ∀ calls x, PostsToListeners calls x := by
  intro h
  have hposts := (h [.addSectorListener 1 5, .addSectorListener 2 5,
    .linkSession 5 (some .loopback), .removeSectorListener 1 5] 2).2 5
  have hposted := hposts.2 ⟨⟨.loopback, ?_⟩, ?_⟩
  · revert hposted
    decide
  · exact ⟨[.addSectorListener 1 5, .addSectorListener 2 5], [.removeSectorListener 1 5], rfl,
      by simp⟩
  · exact ⟨[.addSectorListener 1 5], [.linkSession 5 (some .loopback), .removeSectorListener 1 5],
      rfl, by simp⟩

/-! ## The sectors reported as owned -/

/-- `GetOwnershipSectors` gives the sectors of the index whose owner is the target. -/
def ReportsOwned (calls : List Call) (t : Nat) : Prop :=
  ∀ x, x ∈ (after calls).getOwnershipSectors t ↔ Named calls x ∧ (after calls).owner x = t

/-- The target was added as a listener of a sector that was not allocated to it, and has neither been
given the sector nor been unset since. -/
def ListensUnowned (calls : List Call) (x t : Nat) : Prop :=
  Since (fun before c => c = .addSectorListener x t ∧ ¬ AllocatedTo before x t)
    (fun _ c => c = .unsetAll t ∨ c = .allocateSector x t) calls

/-- The sector was allocated to the target or the target added as its listener, and the target not
unset since. -/
def RelatedTo (calls : List Call) (x t : Nat) : Prop :=
  Since (fun _ c => c = .allocateSector x t ∨ c = .addSectorListener x t)
    (fun _ c => c = .unsetAll t) calls

theorem stray_apply (h : m.OwnedRelated) {t : Nat} (ht : t ≠ 0) (x : Nat) (c : Call) :
    (x ∈ (m.apply c).related t ∧ (m.apply c).owner x ≠ t) ↔
      (c = .addSectorListener x t ∧ m.owner x ≠ t) ∨
        ((x ∈ m.related t ∧ m.owner x ≠ t) ∧ ¬ (c = .unsetAll t ∨ c = .allocateSector x t)) := by
  have howner := owner_apply h ht x c
  cases c with
  | allocateSector y k =>
      rw [Ne, howner, apply, mem_related_allocateSector]
      by_cases hxy : x = y
      · subst hxy
        by_cases hk : k = t
        · -- the target is given the sector
          simp [hk]
        · -- another target is given it, and this one forgets it only as its owner
          by_cases hx : m.owner x = t
          · simp [hk, Ne.symm hk, hx, ht]
          · simp [hk, Ne.symm hk, hx, Ne.symm hx]
      · simp [hxy, Ne.symm hxy]
  | addSectorListener y k =>
      rw [apply, mem_related_addSectorListener, owner_addSectorListener]
      by_cases hlistens : t = k ∧ x = y
      · obtain ⟨rfl, rfl⟩ := hlistens
        simp
      · have hother : ¬ (y = x ∧ k = t) := fun heq => hlistens ⟨heq.2.symm, heq.1.symm⟩
        simp [hlistens, hother]
  | unsetAll k =>
      rw [Ne, howner, apply, related_unsetAll]
      by_cases hk : t = k
      · simp [hk]
      · simp [hk, Ne.symm hk]
  | linkSession k session => simp [apply]
  | unlinkSession k => simp [apply, unlinkSession]
  | removeSectorListener y k =>
      have hsame : (m.removeSectorListener y k).related t = m.related t := rfl
      simp [apply, owner_removeSectorListener, hsame]
  | getSectorOwnerSession _ => simp [apply]
  | getOwnershipSectors _ => simp [apply]

/-- The sectors related to a target that does not own them. -/
theorem stray_after_iff {t : Nat} (ht : t ≠ 0) (calls : List Call) (x : Nat) :
    (x ∈ (after calls).related t ∧ (after calls).owner x ≠ t) ↔ ListensUnowned calls x t := by
  have hstart : ¬ (x ∈ related {} t ∧ owner {} x ≠ t) := fun h => List.not_mem_nil h.1
  refine since_of_latch (Q := fun m => x ∈ related m t ∧ owner m x ≠ t) hstart ?_ calls
  intro before c
  rw [← owner_after_iff ht before x]
  exact stray_apply (OwnedRelated.kept.after before) ht x c

/-- The id 0 is no owner, so no allocation takes a sector from what is related to it. -/
theorem related_zero_apply (x : Nat) (c : Call) :
    x ∈ (m.apply c).related 0 ↔
      (c = .allocateSector x 0 ∨ c = .addSectorListener x 0) ∨
        (x ∈ m.related 0 ∧ ¬ c = .unsetAll 0) := by
  cases c with
  | allocateSector y k =>
      rw [apply, mem_related_allocateSector]
      by_cases hzero : m.owner y = 0
      · simp [hzero, eq_comm, or_comm, and_comm]
      · simp [hzero, Ne.symm hzero, eq_comm, or_comm, and_comm]
  | addSectorListener y k =>
      rw [apply, mem_related_addSectorListener]
      simp [eq_comm, or_comm, and_comm]
  | unsetAll k =>
      rw [apply, related_unsetAll]
      by_cases hk : k = 0
      · simp [hk]
      · simp [hk, Ne.symm hk]
  | linkSession k session => simp [apply]
  | unlinkSession k => simp [apply, unlinkSession]
  | removeSectorListener y k =>
      have hsame : (m.removeSectorListener y k).related 0 = m.related 0 := rfl
      simp [apply, hsame]
  | getSectorOwnerSession _ => simp [apply]
  | getOwnershipSectors _ => simp [apply]

theorem related_zero_after_iff (calls : List Call) (x : Nat) :
    x ∈ (after calls).related 0 ↔ RelatedTo calls x 0 := by
  have hstart : x ∉ related {} 0 := List.not_mem_nil
  exact since_of_latch (Q := fun m => x ∈ related m 0) hstart
    (fun _ c => related_zero_apply x c) calls

/-- `GetOwnershipSectors` reports what a target owns exactly when the target is listed for no sector
that it only listens to.  For the id 0, which stands for no owner, it is when the sectors related to
that id are those no allocation of which stands. -/
theorem reportsOwned_iff (calls : List Call) (t : Nat) :
    ReportsOwned calls t ↔
      (t ≠ 0 → ∀ x, ¬ ListensUnowned calls x t) ∧
      (t = 0 → ∀ x, RelatedTo calls x 0 ↔ Named calls x ∧ ∀ k ≠ 0, ¬ AllocatedTo calls x k) := by
  by_cases ht : t = 0
  -- target 0 owns the sectors that nobody owns
  · subst ht
    simp only [ReportsOwned, ne_eq, not_true_eq_false, false_implies, true_and, forall_const,
      owner_after_eq_zero_iff, ← related_zero_after_iff]
    rfl
  · have hnamed : ∀ x, (after calls).owner x = t → Named calls x := by
      intro x howner
      obtain ⟨before, rest, rfl, -⟩ := (owner_after_iff ht calls x).1 howner
      exact ⟨.allocateSector x t, by simp, rfl⟩
    simp only [ne_eq, ht, not_false_eq_true, true_implies, false_implies, and_true,
      ← stray_after_iff ht]
    refine forall_congr' fun x => ?_
    constructor
    · rintro hreport ⟨hrelated, hother⟩
      exact hother (hreport.1 hrelated).2
    · -- what a target owns is always related to it, so only strays can be wrong
      intro hstray
      constructor
      · intro hrelated
        have howner : (after calls).owner x = t := by
          by_contra hother
          exact hstray ⟨hrelated, hother⟩
        exact ⟨hnamed x howner, howner⟩
      · rintro ⟨-, rfl⟩
        exact OwnedRelated.kept.after calls x ht

/-- A target that only listens to a sector is reported as its owner. -/
theorem reportsOwned_listening : ¬ ∀ calls t, ReportsOwned calls t := by
  intro h
  have howner := ((h [.addSectorListener 1 5] 5 1).1 (by decide)).2
  revert howner
  decide

end SectorPostingManager

end Game
end SeamlessServer
