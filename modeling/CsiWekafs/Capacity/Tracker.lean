import CsiWekafs.Lib.GoMap
import CsiWekafs.Lib.MachineInt
import CsiWekafs.Basic
import Mathlib.Algebra.Order.Group.Defs
import Mathlib.Tactic.Abel

namespace CsiWekafs

/-- A request that passed the capacity check and is not yet confirmed by Kubernetes. Quantities are
machine integers in the code; the tracker does with them what any ordered group allows. -/
structure CapacityReservation (α : Type) where
  filesystem : Str
  sourceCapacity : α
  targetCapacity : α
  timestamp : ℤ

structure CapacityTracker (α : Type) where
  confirmedCapacity : GoMap Str α
  pendingReservations : GoMap Str (CapacityReservation α)
  lastRefreshTime : ℤ

variable {α : Type} [AddCommGroup α]

/-- What a reservation adds to the pending capacity of a filesystem. -/
def CapacityReservation.delta (filesystem : Str) (r : CapacityReservation α) : α :=
  if r.filesystem = filesystem then r.targetCapacity - r.sourceCapacity else 0

def CapacityTracker.getPendingCapacityLocked (ct : CapacityTracker α) (filesystem : Str) : α :=
  GoMap.sumBy (fun _ r => r.delta filesystem) ct.pendingReservations

def CapacityTracker.deleteReservationLocked (ct : CapacityTracker α) (volumeID : Str) :
    CapacityTracker α :=
  { ct with pendingReservations := ct.pendingReservations.erase volumeID }

def CapacityTracker.confirmed (ct : CapacityTracker α) (filesystem : Str) : α :=
  GoMap.get ct.confirmedCapacity filesystem

/-- A request for capacity: the volume, its filesystem, its current and its wanted size, and the
size of the filesystem. -/
structure CapacityRequest (α : Type) where
  volumeID : Str
  filesystem : Str
  currentCapacity : α
  targetCapacity : α
  availableSsd : α
  totalCapacity : α

/-- Records the reservation of a request that passed the check. -/
def CapacityTracker.reserveLocked (ct : CapacityTracker α) (q : CapacityRequest α) (source : α)
    (timestamp : ℤ) : CapacityTracker α :=
  { ct with
    pendingReservations := ct.pendingReservations.insert q.volumeID
      ⟨q.filesystem, source, q.targetCapacity, timestamp⟩ }

omit [AddCommGroup α] in
@[simp] theorem lookup_reserveLocked (ct : CapacityTracker α) (q : CapacityRequest α) (source : α)
    (timestamp : ℤ) :
    (ct.reserveLocked q source timestamp).pendingReservations.lookup q.volumeID =
      some ⟨q.filesystem, source, q.targetCapacity, timestamp⟩ :=
  AList.lookup_insert _

/-- The pending capacity without the reservation of one volume. -/
def CapacityTracker.pendingOfOthers (ct : CapacityTracker α) (volumeID filesystem : Str) : α :=
  GoMap.sumBy (fun _ r => r.delta filesystem) (ct.pendingReservations.erase volumeID)

theorem pending_of_lookup {ct : CapacityTracker α} {volumeID : Str} {r : CapacityReservation α}
    (h : ct.pendingReservations.lookup volumeID = some r) (filesystem : Str) :
    ct.getPendingCapacityLocked filesystem =
      r.delta filesystem + ct.pendingOfOthers volumeID filesystem :=
  GoMap.sumBy_of_lookup (fun _ (r : CapacityReservation α) => r.delta filesystem) h

theorem pending_of_lookup_none {ct : CapacityTracker α} {volumeID : Str}
    (h : ct.pendingReservations.lookup volumeID = none) (filesystem : Str) :
    ct.getPendingCapacityLocked filesystem = ct.pendingOfOthers volumeID filesystem := by
  unfold CapacityTracker.pendingOfOthers
  rw [GoMap.erase_of_lookup_none h]
  rfl

theorem pending_reserveLocked (ct : CapacityTracker α) (q : CapacityRequest α) (source : α)
    (timestamp : ℤ) (filesystem : Str) :
    (ct.reserveLocked q source timestamp).getPendingCapacityLocked filesystem =
      (if q.filesystem = filesystem then q.targetCapacity - source else 0) +
        ct.pendingOfOthers q.volumeID filesystem := by
  simp [CapacityTracker.getPendingCapacityLocked, CapacityTracker.reserveLocked,
    CapacityTracker.pendingOfOthers, CapacityReservation.delta]

variable [LinearOrder α]

def insufficientCapacityError [ToString α] (q : CapacityRequest α) (confirmed pending : α) : Err :=
  let additional := q.targetCapacity - q.currentCapacity
  .status .resourceExhausted
    ("insufficient capacity on filesystem " ++ q.filesystem ++ ": required " ++
      itoa (confirmed + pending + additional) ++ " bytes (confirmed " ++ itoa confirmed ++
      " + pending " ++ itoa pending ++ " + additional " ++ itoa additional ++
      ") exceeds total capacity " ++ itoa q.totalCapacity ++ " bytes")

def conflictingExpansionError [ToString α] (q : CapacityRequest α) (existingTarget : α) : Err :=
  .status .failedPrecondition
    ("conflicting expansion for volume " ++ q.volumeID ++ ": target cannot decrease from " ++
      itoa existingTarget ++ " to " ++ itoa q.targetCapacity)

/-- The check made under the lock. It yields the source capacity to record. -/
def CapacityTracker.checkLocked [ToString α] (ct : CapacityTracker α) (q : CapacityRequest α) :
    Except Err α :=
  let confirmed := ct.confirmed q.filesystem
  let pending := ct.getPendingCapacityLocked q.filesystem
  let within (source : α) : Except Err α :=
    if confirmed + pending + (q.targetCapacity - q.currentCapacity) > q.availableSsd then
      .error (insufficientCapacityError q confirmed pending)
    else .ok source
  match ct.pendingReservations.lookup q.volumeID with
  | some existing =>
    if q.targetCapacity < existing.targetCapacity then
      .error (conflictingExpansionError q existing.targetCapacity)
    else within existing.sourceCapacity
  | none => within q.currentCapacity

/-- What the check needs of the tracker: the target does not shrink and the sum fits. -/
def CapacityTracker.Admits (ct : CapacityTracker α) (q : CapacityRequest α) : Prop :=
  (∀ r, ct.pendingReservations.lookup q.volumeID = some r → r.targetCapacity ≤ q.targetCapacity) ∧
    ct.confirmed q.filesystem + ct.getPendingCapacityLocked q.filesystem +
      (q.targetCapacity - q.currentCapacity) ≤ q.availableSsd

/-- The source of the reservation that the volume has, or the request's current capacity. -/
def CapacityTracker.sourceFor (ct : CapacityTracker α) (q : CapacityRequest α) : α :=
  match ct.pendingReservations.lookup q.volumeID with
  | some r => r.sourceCapacity
  | none => q.currentCapacity

omit [AddCommGroup α] [LinearOrder α] in
theorem sourceFor_of_lookup {ct : CapacityTracker α} {q : CapacityRequest α}
    {r : CapacityReservation α} (h : ct.pendingReservations.lookup q.volumeID = some r) :
    ct.sourceFor q = r.sourceCapacity := by
  simp [CapacityTracker.sourceFor, h]

theorem checkLocked_ok [ToString α] {ct : CapacityTracker α} {q : CapacityRequest α} {source : α} :
    ct.checkLocked q = .ok source ↔ ct.Admits q ∧ source = ct.sourceFor q := by
  unfold CapacityTracker.checkLocked CapacityTracker.Admits CapacityTracker.sourceFor
  cases hl : ct.pendingReservations.lookup q.volumeID with
  | none =>
    by_cases hs : ct.confirmed q.filesystem + ct.getPendingCapacityLocked q.filesystem +
        (q.targetCapacity - q.currentCapacity) > q.availableSsd
    · simp [hs, not_le.mpr hs]
    · simp [hs, not_lt.mp hs, eq_comm (a := source)]
  | some r =>
    by_cases ht : q.targetCapacity < r.targetCapacity
    · simp [ht]
    · by_cases hs : ct.confirmed q.filesystem + ct.getPendingCapacityLocked q.filesystem +
          (q.targetCapacity - q.currentCapacity) > q.availableSsd
      · simp [hs, ht, not_le.mpr hs]
      · simp [hs, ht, not_lt.mp hs, not_lt.mp ht, eq_comm (a := source)]

/-- The reservation that a volume has belongs to the filesystem of the request, and its target is
at least the current capacity. -/
def CapacityTracker.Serves (ct : CapacityTracker α) (q : CapacityRequest α) : Prop :=
  ∀ r, ct.pendingReservations.lookup q.volumeID = some r →
    r.filesystem = q.filesystem ∧ q.currentCapacity ≤ r.targetCapacity

/-- A recorded request fits: the check counts the old reservation and the new amount, which is no
less than the reservation that replaces it. -/
theorem reserveLocked_within [IsOrderedAddMonoid α] {ct : CapacityTracker α} {q : CapacityRequest α}
    (ha : ct.Admits q) (hs : ct.Serves q) (timestamp : ℤ) :
    (ct.reserveLocked q (ct.sourceFor q) timestamp).confirmed q.filesystem +
        (ct.reserveLocked q (ct.sourceFor q) timestamp).getPendingCapacityLocked q.filesystem ≤
      q.availableSsd := by
  have hc : (ct.reserveLocked q (ct.sourceFor q) timestamp).confirmed q.filesystem =
      ct.confirmed q.filesystem := rfl
  have hfit := ha.2
  rw [pending_reserveLocked, if_pos rfl, hc]
  unfold CapacityTracker.sourceFor
  cases hl : ct.pendingReservations.lookup q.volumeID with
  | none =>
    rw [pending_of_lookup_none hl] at hfit
    simpa [add_assoc, add_comm, add_left_comm] using hfit
  | some r =>
    obtain ⟨hf, hcur⟩ := hs r hl
    rw [pending_of_lookup hl] at hfit
    simp only [CapacityReservation.delta, hf, if_true] at hfit
    have hle : 0 ≤ r.targetCapacity - q.currentCapacity := sub_nonneg.mpr hcur
    have heq : ct.confirmed q.filesystem + (q.targetCapacity - r.sourceCapacity +
          ct.pendingOfOthers q.volumeID q.filesystem) =
        ct.confirmed q.filesystem + (r.targetCapacity - r.sourceCapacity +
          ct.pendingOfOthers q.volumeID q.filesystem) + (q.targetCapacity - q.currentCapacity) -
          (r.targetCapacity - q.currentCapacity) := by
      abel
    rw [heq]
    exact (sub_le_self _ hle).trans hfit

theorem pending_reserveLocked_other {ct : CapacityTracker α} {q : CapacityRequest α}
    (hs : ct.Serves q) {filesystem : Str} (hf : filesystem ≠ q.filesystem) (source : α)
    (timestamp : ℤ) :
    (ct.reserveLocked q source timestamp).getPendingCapacityLocked filesystem =
      ct.getPendingCapacityLocked filesystem := by
  rw [pending_reserveLocked, if_neg (Ne.symm hf), zero_add]
  cases hl : ct.pendingReservations.lookup q.volumeID with
  | none => exact (pending_of_lookup_none hl filesystem).symm
  | some r =>
    have hr : r.filesystem ≠ filesystem := by
      rw [(hs r hl).1]
      exact Ne.symm hf
    simp [pending_of_lookup hl, CapacityReservation.delta, hr]

theorem CapacityTracker.admits_reserveLocked (ct : CapacityTracker α) (q : CapacityRequest α)
    (source : α) (timestamp : ℤ) :
    (ct.reserveLocked q source timestamp).Admits q ↔
      ct.confirmed q.filesystem + ct.pendingOfOthers q.volumeID q.filesystem +
        (q.targetCapacity - source) + (q.targetCapacity - q.currentCapacity) ≤ q.availableSsd := by
  have hc : (ct.reserveLocked q source timestamp).confirmed q.filesystem =
      ct.confirmed q.filesystem := rfl
  unfold CapacityTracker.Admits
  rw [lookup_reserveLocked, hc, pending_reserveLocked, if_pos rfl]
  have heq : ct.confirmed q.filesystem + (q.targetCapacity - source +
        ct.pendingOfOthers q.volumeID q.filesystem) + (q.targetCapacity - q.currentCapacity) =
      ct.confirmed q.filesystem + ct.pendingOfOthers q.volumeID q.filesystem +
        (q.targetCapacity - source) + (q.targetCapacity - q.currentCapacity) := by
    abel
  rw [heq]
  constructor
  · exact fun h => h.2
  · intro h
    refine ⟨?_, h⟩
    intro r hr
    cases Option.some.inj hr
    exact le_rfl

end CsiWekafs
