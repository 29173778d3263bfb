import CsiWekafs.Capacity.Reserve
import Mathlib.Algebra.Group.Hom.Basic

namespace CsiWekafs

open Prog

def newCapacityTracker : CapacityTracker Int64 := ⟨∅, ∅, zeroTime⟩

/-- A tracker that accepted requests and refreshes lead to. -/
inductive CapacityTracker.Reachable (config : DriverConfig) : CapacityTracker Int64 → Prop
  | new : Reachable config newCapacityTracker
  | accepted {ct ct' : CapacityTracker Int64} {v v' : Volume} {current target : Int64}
      {t : List Event} (h : Reachable config ct)
      (hrun : Runs (validateAndReserveCapacity id config (some ct) v current target) t
        (.ok (), v', some ct')) : Reachable config ct'
  | refreshed {ct ct' : CapacityTracker Int64} {t : List Event} {r : Except Err Unit}
      (h : Reachable config ct)
      (hrun : Runs (ct.refreshFromKubernetesLocked id config.driverName) t (r, ct')) :
      Reachable config ct'

/-- The pending capacity of a filesystem as a number without bounds. -/
def CapacityTracker.exactPending (ct : CapacityTracker Int64) (filesystem : Str) : ℤ :=
  GoMap.sumBy (fun _ r => if r.filesystem = filesystem then
    r.targetCapacity.toInt - r.sourceCapacity.toInt else 0) ct.pendingReservations

/-- What a request needs of its filesystem in all, as a number without bounds. -/
def CapacityTracker.exactRequired (ct : CapacityTracker Int64) (q : CapacityRequest Int64) : ℤ :=
  (ct.confirmed q.filesystem).toInt + ct.exactPending q.filesystem +
    (q.targetCapacity.toInt - q.currentCapacity.toInt)

theorem wrap_exactPending (ct : CapacityTracker Int64) (filesystem : Str) :
    Int64.wrap (ct.exactPending filesystem) = ct.getPendingCapacityLocked filesystem := by
  unfold CapacityTracker.exactPending CapacityTracker.getPendingCapacityLocked
  rw [GoMap.map_sumBy]
  refine GoMap.sumBy_congr fun _ r _ => ?_
  unfold CapacityReservation.delta
  split
  · rw [map_sub, Int64.wrap_toInt, Int64.wrap_toInt]
  · exact map_zero _

/-- The code's sum is the exact one, wrapped around once. -/
theorem toInt_required (ct : CapacityTracker Int64) (q : CapacityRequest Int64) :
    (ct.confirmed q.filesystem + ct.getPendingCapacityLocked q.filesystem +
      (q.targetCapacity - q.currentCapacity)).toInt = (ct.exactRequired q).bmod (2 ^ 64) := by
  rw [← Int64.toInt_wrap]
  unfold CapacityTracker.exactRequired
  rw [map_add, map_add, map_sub, wrap_exactPending]
  simp

theorem admits_iff_bmod (ct : CapacityTracker Int64) (q : CapacityRequest Int64) :
    ct.Admits q ↔
      (∀ r, ct.pendingReservations.lookup q.volumeID = some r →
        r.targetCapacity ≤ q.targetCapacity) ∧
      (ct.exactRequired q).bmod (2 ^ 64) ≤ q.availableSsd.toInt := by
  rw [← toInt_required, ← Int64.le_iff_toInt_le]
  rfl

/-- An accepted request fits exactly unless its sum wraps around to a value that fits. -/
theorem validateAndReserveCapacity_exact {config : DriverConfig} {ct ct₁ : CapacityTracker Int64}
    {v v' : Volume} {current target : Int64} {t : List Event} {r : Except Err Unit}
    {tracker : Option (CapacityTracker Int64)} {fsObj : FileSystem}
    (hrun : Runs (validateAndReserveCapacity id config (some ct) v current target) t
      (r, v', tracker))
    (hv : v.requiresGc) (hc : CheckedAgainst id config ct v t ct₁ fsObj) :
    (r = .ok () →
      ct₁.exactRequired (v.capacityRequest id fsObj current target) ≤ fsObj.availableSsd.toInt) ↔
    (ct₁.exactRequired (v.capacityRequest id fsObj current target) ≤ fsObj.availableSsd.toInt ∨
      fsObj.availableSsd.toInt <
        (ct₁.exactRequired (v.capacityRequest id fsObj current target)).bmod (2 ^ 64) ∨
      ∃ reservation, ct₁.pendingReservations.lookup v.id = some reservation ∧
        target < reservation.targetCapacity) := by
  have hadm := admits_iff_bmod ct₁ (v.capacityRequest id fsObj current target)
  rcases hc.outcome hrun hv with ⟨hno, hr⟩ | ⟨now, ha, rfl, -⟩
  · refine iff_of_true (fun h => (hr h).elim) (Or.inr ?_)
    rw [hadm, not_and_or] at hno
    rcases hno with hno | hno
    · push Not at hno
      exact Or.inr hno
    · exact Or.inl (not_le.mp hno)
  · obtain ⟨hle, hfit⟩ := hadm.mp ha
    constructor
    · exact fun h => Or.inl (h rfl)
    · rintro (h | h | ⟨reservation, hl, hlt⟩) -
      · exact h
      · exact absurd h (not_lt.mpr hfit)
      · exact absurd hlt (not_lt.mpr (hle reservation hl))

theorem reachable_reservedTracker : CapacityTracker.Reachable {} reservedTracker := by
  have hrun : Runs (validateAndReserveCapacity id {} (some newCapacityTracker) (directoryVolume 100)
      0 10) [⟨.now, (0 : ℤ)⟩, ⟨.listPersistentVolumes, .ok []⟩, ⟨.now, (0 : ℤ)⟩, ⟨.now, (0 : ℤ)⟩]
      (.ok (), _, some reservedTracker) :=
    Runs.call _ (Runs.call _ (Runs.call _ (Runs.call _ (Runs.ret _))))
  exact .accepted .new hrun

/-- Another directory on the filesystem of the reservation. -/
def secondDirectory : Volume :=
  { directoryVolume 100 with id := "dir/v1/fs1/c", innerPath := "/c" }

theorem checkedAgainst_secondDirectory (t : List Event) :
    CheckedAgainst id {} reservedTracker secondDirectory (⟨.now, (0 : ℤ)⟩ :: t) reservedTracker
      { uid := 1, name := "fs1", availableSsd := 100 } :=
  ⟨[], [⟨.now, (0 : ℤ)⟩], t, _, rfl, Runs.ret _, refreshIfDue_fresh (by decide)⟩

/-- With ten bytes reserved, the largest request is accepted on a filesystem of a hundred bytes. -/
theorem validateAndReserveCapacity_wraps : ∃ v' ct',
    CapacityTracker.Reachable {} reservedTracker ∧
    Runs (validateAndReserveCapacity id {} (some reservedTracker) secondDirectory 0
      9223372036854775807) [⟨.now, (0 : ℤ)⟩, ⟨.now, (0 : ℤ)⟩] (.ok (), v', some ct') ∧
    CheckedAgainst id {} reservedTracker secondDirectory [⟨.now, (0 : ℤ)⟩, ⟨.now, (0 : ℤ)⟩]
      reservedTracker { uid := 1, name := "fs1", availableSsd := 100 } ∧
    reservedTracker.exactRequired (secondDirectory.capacityRequest id
      { uid := 1, name := "fs1", availableSsd := 100 } 0 9223372036854775807) =
        9223372036854775817 :=
  ⟨_, _, reachable_reservedTracker, Runs.call _ (Runs.call _ (Runs.ret _)),
    checkedAgainst_secondDirectory _, by decide +kernel⟩

theorem validateAndReserveCapacity_exact_small : ∃ v' ct',
    Runs (validateAndReserveCapacity id {} (some reservedTracker) secondDirectory 0 90)
      [⟨.now, (0 : ℤ)⟩, ⟨.now, (0 : ℤ)⟩] (.ok (), v', some ct') ∧
    reservedTracker.exactRequired (secondDirectory.capacityRequest id
      { uid := 1, name := "fs1", availableSsd := 100 } 0 90) ≤ 100 := by
  have hrun : Runs (validateAndReserveCapacity id {} (some reservedTracker) secondDirectory 0 90)
      [⟨.now, (0 : ℤ)⟩, ⟨.now, (0 : ℤ)⟩] (.ok (), _, some _) :=
    Runs.call _ (Runs.call _ (Runs.ret _))
  exact ⟨_, _, hrun, (validateAndReserveCapacity_exact hrun rfl
    (checkedAgainst_secondDirectory _)).mpr (Or.inl (by decide +kernel)) rfl⟩

end CsiWekafs
