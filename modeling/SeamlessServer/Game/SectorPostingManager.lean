import Mathlib.Data.List.Nodup
import Mathlib.Logic.Function.Basic

/-!
# Game.SectorPostingManager — who owns, listens and is linked

`common/game/SectorPostingManager.cpp`; of the functions that post packets, the targets.  The two
maps are reached through `operator[]` and no entry is ever erased, so a map is modelled by the
function that gives the record under a key, a default one if there is none yet; a pointer to a record
is its key.

The targets of the manager are servers, under their server id, and clients, under the universal id of
their session.
-/

namespace SeamlessServer
namespace Game

/-- A valid `SocketSessionPtr`: the loopback of this server, or a session of a network engine. -/
inductive SessionRef
  | loopback
  | socket (id : Nat)
  deriving DecidableEq, Repr

structure NetworkSectorInfo where
  ownerId : Nat := 0
  listeningSessions : List Nat := []
  deriving DecidableEq

structure NetworkSessionInfo where
  session : Option SessionRef := none
  relatedSectors : List Nat := []
  deriving DecidableEq

structure SectorPostingManager where
  sectors : Nat → NetworkSectorInfo := fun _ => {}
  sessions : Nat → NetworkSessionInfo := fun _ => {}

namespace SectorPostingManager

variable (m : SectorPostingManager)

def setSector (sectorId : Nat) (info : NetworkSectorInfo) : SectorPostingManager :=
  { m with sectors := Function.update m.sectors sectorId info }

def setSession (targetId : Nat) (info : NetworkSessionInfo) : SectorPostingManager :=
  { m with sessions := Function.update m.sessions targetId info }

/-- `related_sectors.erase(sector_id)` at a target. -/
def forgetSector (targetId sectorId : Nat) : SectorPostingManager :=
  let info := m.sessions targetId
  m.setSession targetId { info with relatedSectors := info.relatedSectors.filter (· ≠ sectorId) }

/-- `related_sectors[sector_id] = &sector_info` at a target. -/
def relateSector (targetId sectorId : Nat) : SectorPostingManager :=
  let info := m.sessions targetId
  m.setSession targetId { info with relatedSectors := info.relatedSectors.insert sectorId }

def allocateSector (sectorId targetId : Nat) : SectorPostingManager :=
  let owner := (m.sectors sectorId).ownerId
  let m := if owner ≠ 0 then m.forgetSector owner sectorId else m
  let m := m.relateSector targetId sectorId
  m.setSector sectorId { m.sectors sectorId with ownerId := targetId }

def linkSession (targetId : Nat) (session : Option SessionRef) : SectorPostingManager :=
  m.setSession targetId { m.sessions targetId with session := session }

/-- `UnlinkSession`.  The packets the throttler holds for the session are dropped, which is not part of
this state. -/
def unlinkSession (targetId : Nat) : SectorPostingManager :=
  m.linkSession targetId none

def addSectorListener (sectorId targetId : Nat) : SectorPostingManager :=
  let m := m.relateSector targetId sectorId
  let info := m.sectors sectorId
  m.setSector sectorId { info with listeningSessions := info.listeningSessions.insert targetId }

/-- `RemoveSectorListener` does not look at the sector it is given. -/
def removeSectorListener (_sectorId targetId : Nat) : SectorPostingManager :=
  { m with
    sectors := fun x =>
      let info := m.sectors x
      if x ∈ (m.sessions targetId).relatedSectors then
        { info with listeningSessions := info.listeningSessions.filter (· ≠ targetId) }
      else
        info }

/-- The loop of `UnsetAll`: each related sector forgets the target. -/
def forgetTarget (targetId : Nat) : SectorPostingManager :=
  { m with
    sectors := fun x =>
      let info := m.sectors x
      if x ∈ (m.sessions targetId).relatedSectors then
        { ownerId := if info.ownerId = targetId then 0 else info.ownerId
          listeningSessions := info.listeningSessions.filter (· ≠ targetId) }
      else
        info }

def unsetAll (targetId : Nat) : SectorPostingManager :=
  let m := m.forgetTarget targetId
  let m := m.setSession targetId { m.sessions targetId with relatedSectors := [] }
  m.unlinkSession targetId

def getSectorOwnerSession (sectorId : Nat) : Option SessionRef :=
  (m.sessions (m.sectors sectorId).ownerId).session

/-- The keys of `related_sectors`, which are the sectors a target owns or listens to. -/
def getOwnershipSectors (targetId : Nat) : List Nat :=
  (m.sessions targetId).relatedSectors

/-! ## Fields after an operation -/

variable {m}

/-- The owner of a sector. -/
def owner (m : SectorPostingManager) (sectorId : Nat) : Nat := (m.sectors sectorId).ownerId

/-- The session linked to a target. -/
def link (m : SectorPostingManager) (targetId : Nat) : Option SessionRef :=
  (m.sessions targetId).session

/-- The sectors related to a target. -/
def related (m : SectorPostingManager) (targetId : Nat) : List Nat :=
  (m.sessions targetId).relatedSectors

/-- The targets that listen to a sector. -/
def listeners (m : SectorPostingManager) (sectorId : Nat) : List Nat :=
  (m.sectors sectorId).listeningSessions

theorem getSectorOwnerSession_eq (m : SectorPostingManager) (x : Nat) :
    m.getSectorOwnerSession x = m.link (m.owner x) := rfl

/-! ## Who receives a posting -/

section Posting

variable (m : SectorPostingManager)

/-- The session of the target is valid. -/
def reaches (targetId : Nat) : Bool := (m.link targetId).isSome

/-- The targets that `SendTo` posts to. -/
def sendTo (targetId : Nat) : List Nat := if m.reaches targetId then [targetId] else []

/-- The targets that `SendToSectorOwner` posts to. -/
def sendToSectorOwner (sectorId : Nat) : List Nat := m.sendTo (m.owner sectorId)

/-- The targets that `SendToSector` posts to. -/
def sendToSector (sectorId : Nat) : List Nat := (m.listeners sectorId).filter m.reaches

/-- The targets that `SendToSectorWithout` posts to. -/
def sendToSectorWithout (ignoredTarget sectorId : Nat) : List Nat :=
  (m.listeners sectorId).filter fun targetId =>
    decide (targetId ≠ ignoredTarget) && m.reaches targetId

/-- The target that is ignored is the only listener left out. -/
theorem sendToSectorWithout_eq (ignoredTarget sectorId : Nat) :
    m.sendToSectorWithout ignoredTarget sectorId =
      (m.sendToSector sectorId).filter (· ≠ ignoredTarget) := by
  rw [sendToSectorWithout, sendToSector, List.filter_filter]

end Posting

section Fields

variable (m) (x k j : Nat)

@[simp] theorem owner_forgetSector : (m.forgetSector k x).owner = m.owner := rfl

@[simp] theorem owner_relateSector : (m.relateSector k x).owner = m.owner := rfl

@[simp] theorem owner_linkSession (session : Option SessionRef) :
    (m.linkSession k session).owner = m.owner := rfl

@[simp] theorem link_forgetSector : (m.forgetSector k x).link j = m.link j := by
  by_cases h : j = k <;> simp [link, forgetSector, setSession, h]

@[simp] theorem link_relateSector : (m.relateSector k x).link j = m.link j := by
  by_cases h : j = k <;> simp [link, relateSector, setSession, h]

theorem link_linkSession (session : Option SessionRef) :
    (m.linkSession k session).link j = if j = k then session else m.link j := by
  by_cases h : j = k <;> simp [link, linkSession, setSession, h]

@[simp] theorem related_linkSession (session : Option SessionRef) :
    (m.linkSession k session).related j = m.related j := by
  by_cases h : j = k <;> simp [related, linkSession, setSession, h]

@[simp] theorem listeners_linkSession (session : Option SessionRef) :
    (m.linkSession k session).listeners = m.listeners := rfl

theorem mem_related_forgetSector (y : Nat) :
    y ∈ (m.forgetSector k x).related j ↔ y ∈ m.related j ∧ ¬ (j = k ∧ y = x) := by
  by_cases h : j = k <;> simp [related, forgetSector, setSession, h]

theorem mem_related_relateSector (y : Nat) :
    y ∈ (m.relateSector k x).related j ↔ y ∈ m.related j ∨ (j = k ∧ y = x) := by
  by_cases h : j = k
  · subst h
    simp [related, relateSector, setSession, or_comm]
  · simp [related, relateSector, setSession, h]

/-! ### `AllocateSector` -/

theorem owner_allocateSector (y : Nat) :
    (m.allocateSector x k).owner y = if y = x then k else m.owner y := by
  unfold allocateSector
  by_cases h : y = x
  · subst h
    simp [setSector, owner]
  · by_cases hzero : (m.sectors x).ownerId = 0 <;>
      simp [setSector, owner, h, hzero, relateSector, setSession, forgetSector]

theorem link_allocateSector : (m.allocateSector x k).link j = m.link j := by
  have hset : ∀ (m : SectorPostingManager) info, (m.setSector x info).link j = m.link j :=
    fun _ _ => rfl
  unfold allocateSector
  simp only [hset, link_relateSector]
  split
  · rw [link_forgetSector]
  · rfl

theorem mem_related_allocateSector (y : Nat) :
    y ∈ (m.allocateSector x k).related j ↔
      (y ∈ m.related j ∧ ¬ (m.owner x ≠ 0 ∧ j = m.owner x ∧ y = x)) ∨ (j = k ∧ y = x) := by
  have hset : ∀ (m : SectorPostingManager) info, (m.setSector x info).related j = m.related j :=
    fun _ _ => rfl
  unfold allocateSector
  simp only [hset, mem_related_relateSector]
  by_cases hzero : (m.sectors x).ownerId = 0
  · simp [owner, hzero]
  · simp [owner, hzero, mem_related_forgetSector]

/-! ### `AddSectorListener` -/

theorem owner_addSectorListener : (m.addSectorListener x k).owner = m.owner := by
  funext y
  by_cases h : y = x
  · subst h
    simp [addSectorListener, setSector, owner, relateSector, setSession]
  · simp [addSectorListener, setSector, owner, h, relateSector, setSession]

theorem link_addSectorListener : (m.addSectorListener x k).link j = m.link j := by
  have hset : ∀ (m : SectorPostingManager) info, (m.setSector x info).link j = m.link j :=
    fun _ _ => rfl
  rw [addSectorListener, hset, link_relateSector]

theorem mem_related_addSectorListener (y : Nat) :
    y ∈ (m.addSectorListener x k).related j ↔ y ∈ m.related j ∨ (j = k ∧ y = x) := by
  have hset : ∀ (m : SectorPostingManager) info, (m.setSector x info).related j = m.related j :=
    fun _ _ => rfl
  rw [addSectorListener, hset, mem_related_relateSector]

theorem owner_removeSectorListener : (m.removeSectorListener x k).owner = m.owner := by
  funext y
  unfold removeSectorListener owner
  simp only
  split <;> rfl

/-! ### `UnsetAll` -/

theorem owner_unsetAll (y : Nat) :
    (m.unsetAll k).owner y = if y ∈ m.related k ∧ m.owner y = k then 0 else m.owner y := by
  have hsame : (m.unsetAll k).owner y = (m.forgetTarget k).owner y := rfl
  rw [hsame]
  unfold forgetTarget owner related
  by_cases hy : y ∈ (m.sessions k).relatedSectors <;> simp [hy]

theorem mem_listeners_unsetAll (y : Nat) :
    j ∈ (m.unsetAll k).listeners y ↔ j ∈ m.listeners y ∧ ¬ (y ∈ m.related k ∧ j = k) := by
  have hsame : (m.unsetAll k).listeners y = (m.forgetTarget k).listeners y := rfl
  rw [hsame]
  unfold forgetTarget listeners related
  by_cases hy : y ∈ (m.sessions k).relatedSectors <;> simp [hy]

theorem link_unsetAll : (m.unsetAll k).link j = if j = k then none else m.link j := by
  by_cases h : j = k
  · subst h
    simp [unsetAll, unlinkSession, link_linkSession]
  · simp [unsetAll, unlinkSession, link, linkSession, setSession, forgetTarget, h]

theorem related_unsetAll : (m.unsetAll k).related j = if j = k then [] else m.related j := by
  by_cases h : j = k
  · subst h
    simp [unsetAll, unlinkSession, related, linkSession, setSession, forgetTarget]
  · simp [unsetAll, unlinkSession, related, linkSession, setSession, forgetTarget, h]

end Fields

/-! ## Owned sectors are related -/

/-- A sector with an owner is related to it, so `UnsetAll` finds it. -/
def OwnedRelated (m : SectorPostingManager) : Prop :=
  ∀ x, m.owner x ≠ 0 → x ∈ m.related (m.owner x)

theorem OwnedRelated.empty : OwnedRelated {} := by
  intro x h
  exact absurd rfl h

theorem OwnedRelated.allocateSector (h : m.OwnedRelated) (x k : Nat) :
    (m.allocateSector x k).OwnedRelated := by
  intro y hy
  rw [mem_related_allocateSector]
  by_cases hyx : y = x
  · exact .inr ⟨by simp [owner_allocateSector, hyx], hyx⟩
  · have howner : (m.allocateSector x k).owner y = m.owner y := by
      simp [owner_allocateSector, hyx]
    rw [howner] at hy ⊢
    exact .inl ⟨h y hy, fun hmoved => hyx hmoved.2.2⟩

theorem OwnedRelated.linkSession (h : m.OwnedRelated) (k : Nat) (session : Option SessionRef) :
    (m.linkSession k session).OwnedRelated := by
  intro y hy
  rw [owner_linkSession] at hy ⊢
  rw [related_linkSession]
  exact h y hy

theorem OwnedRelated.addSectorListener (h : m.OwnedRelated) (x k : Nat) :
    (m.addSectorListener x k).OwnedRelated := by
  intro y hy
  rw [owner_addSectorListener] at hy ⊢
  rw [mem_related_addSectorListener]
  exact .inl (h y hy)

theorem OwnedRelated.removeSectorListener (h : m.OwnedRelated) (x k : Nat) :
    (m.removeSectorListener x k).OwnedRelated := by
  intro y hy
  rw [owner_removeSectorListener] at hy ⊢
  exact h y hy

/-- With owned sectors related, `UnsetAll` takes every sector from its target. -/
theorem OwnedRelated.owner_unsetAll (h : m.OwnedRelated) {k : Nat} (hk : k ≠ 0) (y : Nat) :
    (m.unsetAll k).owner y = if m.owner y = k then 0 else m.owner y := by
  rw [SectorPostingManager.owner_unsetAll]
  by_cases howner : m.owner y = k
  · have hmem : y ∈ m.related k := by
      simpa [howner] using h y (by rwa [howner])
    simp [howner, hmem]
  · simp [howner]

theorem OwnedRelated.unsetAll (h : m.OwnedRelated) (k : Nat) : (m.unsetAll k).OwnedRelated := by
  intro y hy
  rw [SectorPostingManager.owner_unsetAll] at hy ⊢
  by_cases hforget : y ∈ m.related k ∧ m.owner y = k
  · simp [hforget] at hy
  · rw [if_neg hforget] at hy ⊢
    have hne : m.owner y ≠ k := by
      intro heq
      exact hforget ⟨by simpa [heq] using h y hy, heq⟩
    rw [related_unsetAll, if_neg hne]
    exact h y hy

/-! ## Properties that every operation keeps -/

/-- A property of the manager that holds at its start and that no operation breaks. -/
structure Kept (P : SectorPostingManager → Prop) : Prop where
  empty : P {}
  allocateSector : ∀ {m} x k, P m → P (m.allocateSector x k)
  linkSession : ∀ {m} k session, P m → P (m.linkSession k session)
  addSectorListener : ∀ {m} x k, P m → P (m.addSectorListener x k)
  removeSectorListener : ∀ {m} x k, P m → P (m.removeSectorListener x k)
  unsetAll : ∀ {m} k, P m → P (m.unsetAll k)

theorem OwnedRelated.kept : Kept OwnedRelated where
  empty := OwnedRelated.empty
  allocateSector := fun x k h => h.allocateSector x k
  linkSession := fun k session h => h.linkSession k session
  addSectorListener := fun x k h => h.addSectorListener x k
  removeSectorListener := fun x k h => h.removeSectorListener x k
  unsetAll := fun k h => h.unsetAll k

/-- The keys of `related_sectors` are distinct. -/
def RelatedNodup (m : SectorPostingManager) : Prop := ∀ k, (m.related k).Nodup

theorem RelatedNodup.setSession (h : m.RelatedNodup) {k : Nat} {info : NetworkSessionInfo}
    (hinfo : info.relatedSectors.Nodup) : (m.setSession k info).RelatedNodup := by
  intro j
  by_cases hj : j = k
  · simpa [related, SectorPostingManager.setSession, hj] using hinfo
  · simpa [related, SectorPostingManager.setSession, hj] using h j

theorem RelatedNodup.relateSector (h : m.RelatedNodup) (k x : Nat) :
    (m.relateSector k x).RelatedNodup :=
  h.setSession (h k).insert

theorem RelatedNodup.forgetSector (h : m.RelatedNodup) (k x : Nat) :
    (m.forgetSector k x).RelatedNodup :=
  h.setSession ((h k).filter _)

theorem RelatedNodup.kept : Kept RelatedNodup where
  empty := fun _ => List.nodup_nil
  allocateSector := by
    intro m x k h
    unfold SectorPostingManager.allocateSector
    dsimp only
    split
    · exact (h.forgetSector _ x).relateSector k x
    · exact h.relateSector k x
  linkSession := fun k _ h => h.setSession (h k)
  addSectorListener := fun x k h => h.relateSector k x
  removeSectorListener := fun _ _ h => h
  unsetAll := by
    intro m k h j
    rw [related_unsetAll]
    split
    · exact List.nodup_nil
    · exact h j

/-! ## Targets apart -/

/-- What the manager holds about a target is the same. -/
structure Undisturbed (m m' : SectorPostingManager) (k : Nat) : Prop where
  owned : ∀ x, m'.owner x = k ↔ m.owner x = k
  listened : ∀ x, k ∈ m'.listeners x ↔ k ∈ m.listeners x
  linked : m'.link k = m.link k

theorem Undisturbed.refl (m : SectorPostingManager) (k : Nat) : Undisturbed m m k :=
  ⟨fun _ => .rfl, fun _ => .rfl, rfl⟩

theorem Undisturbed.trans {m₁ m₂ m₃ : SectorPostingManager} {k : Nat} (h : Undisturbed m₁ m₂ k)
    (h' : Undisturbed m₂ m₃ k) : Undisturbed m₁ m₃ k :=
  ⟨fun x => (h'.owned x).trans (h.owned x), fun x => (h'.listened x).trans (h.listened x),
    h'.linked.trans h.linked⟩

/-- The manager holds something about a target that `UnsetAll` takes away. -/
def Recorded (m : SectorPostingManager) (k : Nat) : Prop :=
  m.link k ≠ none ∨ ∃ x ∈ m.related k, m.owner x = k ∨ k ∈ m.listeners x

theorem undisturbed_unsetAll_of_ne (m : SectorPostingManager) {k j : Nat} (hj : j ≠ 0)
    (hne : j ≠ k) : Undisturbed m (m.unsetAll k) j := by
  refine ⟨fun x => ?_, fun x => ?_, ?_⟩
  · rw [owner_unsetAll]
    split
    next h => exact iff_of_false hj.symm (fun heq => hne (heq.symm.trans h.2))
    next => exact .rfl
  · rw [mem_listeners_unsetAll]
    exact and_iff_left fun h => hne h.2
  · rw [link_unsetAll, if_neg hne]

/-- `UnsetAll` of a target without record changes nothing about it. -/
theorem undisturbed_unsetAll_self (m : SectorPostingManager) {k : Nat} (hk : k ≠ 0) :
    Undisturbed m (m.unsetAll k) k ↔ ¬ Recorded m k := by
  constructor
  · rintro h (hlink | ⟨x, hx, howner | hlisten⟩)
    · have hnone := h.linked
      rw [link_unsetAll, if_pos rfl] at hnone
      exact hlink hnone.symm
    · have hzero := (h.owned x).2 howner
      rw [owner_unsetAll, if_pos ⟨hx, howner⟩] at hzero
      exact hk hzero.symm
    · have hmem := (h.listened x).2 hlisten
      rw [mem_listeners_unsetAll] at hmem
      exact hmem.2 ⟨hx, rfl⟩
  · intro h
    simp only [Recorded, not_or, not_not, not_exists, not_and] at h
    refine ⟨fun x => ?_, fun x => ?_, ?_⟩
    · rw [owner_unsetAll]
      split
      next hx => exact absurd hx.2 (h.2 x hx.1).1
      next => exact .rfl
    · rw [mem_listeners_unsetAll]
      exact and_iff_left_of_imp fun hlisten hx => (h.2 x hx.1).2 hlisten
    · rw [link_unsetAll, if_pos rfl, h.1]

end SectorPostingManager

end Game
end SeamlessServer
