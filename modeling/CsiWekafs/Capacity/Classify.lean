import CsiWekafs.Capacity.Reserve
import CsiWekafs.Volume.FromId

namespace CsiWekafs

open Prog

/-- A volume of this driver as Kubernetes lists it. -/
def persistentVolumeOf (driverName volumeID : Str) (capacity : Int64) : PersistentVolume where
  csi := some ⟨driverName, volumeID⟩
  storage := some capacity

/-- The refresh, started with empty maps, counts a volume with this ID on some filesystem. -/
def CountedByRefresh (driverName volumeID : Str) (capacity : Int64) : Prop :=
  ∃ filesystem confirmed, (countVolume id driverName ⟨∅, ∅⟩
    (persistentVolumeOf driverName volumeID capacity)).capacityByFS.lookup filesystem = some confirmed

/-- Capacity is enforced for the volume that the ID names: without a tracker to ask, its request is
refused. -/
def EnforcedByReserve (volumeID : Str) (apiClient : Option ApiClient) (config : DriverConfig)
    (current target : Int64) : Prop :=
  ∃ v, newVolumeFromId volumeID apiClient config = .ok v ∧
    Runs (validateAndReserveCapacity (id : Int64 → Int64) config none v current target) []
      (.error trackerNotInitializedError, v, none)

theorem countedByRefresh_iff {driverName volumeID : Str} {capacity : Int64} :
    CountedByRefresh driverName volumeID capacity ↔
      sliceFilesystemNameFromVolumeId volumeID ≠ [] ∧ sliceInnerPathFromVolumeId volumeID ≠ [] ∧
        ':' ∉ volumeID := by
  unfold CountedByRefresh
  rw [countVolume_eq]
  simp only [persistentVolumeOf, PersistentVolume.listed, PersistentVolume.handle,
    Option.bind_some, if_true]
  by_cases hp : sliceInnerPathFromVolumeId volumeID ≠ [] ∧ ':' ∉ volumeID
  · rw [if_pos hp]
    by_cases hf : sliceFilesystemNameFromVolumeId volumeID = []
    · simp [countListed, hf]
    · simp only [countListed, hf, if_false]
      exact ⟨fun _ => ⟨hf, hp⟩, fun _ => ⟨_, _, AList.lookup_insert _⟩⟩
  · rw [if_neg hp]
    simp only [AList.lookup_empty, reduceCtorEq, exists_const, false_iff]
    exact fun h => hp h.2

theorem runs_validateAndReserveCapacity_none {config : DriverConfig} {v : Volume}
    {current target : Int64} :
    Runs (validateAndReserveCapacity (id : Int64 → Int64) config none v current target) []
      (.error trackerNotInitializedError, v, none) ↔ v.requiresGc := by
  unfold validateAndReserveCapacity Volume.requiresGc
  cases v.hasInnerPath <;> cases v.isOnSnapshot <;> simp

theorem enforcedByReserve_iff {volumeID : Str} {apiClient : Option ApiClient}
    {config : DriverConfig} {current target : Int64} :
    EnforcedByReserve volumeID apiClient config current target ↔
      validateVolumeId volumeID = .ok () ∧ sliceInnerPathFromVolumeId volumeID ≠ [] ∧
        sliceSnapshotAccessPointFromVolumeId volumeID = [] := by
  unfold EnforcedByReserve newVolumeFromId
  simp only [runs_validateAndReserveCapacity_none]
  cases validateVolumeId volumeID with
  | error e => simp
  | ok u =>
    simp [Volume.requiresGc, Volume.hasInnerPath, Volume.isOnSnapshot, Volume.initMountOptions,
      Volume.pruneUnsupportedMountOptions]

theorem colon_mem_of_accessPoint {volumeID : Str}
    (h : sliceSnapshotAccessPointFromVolumeId volumeID ≠ []) : ':' ∈ volumeID := by
  unfold sliceSnapshotAccessPointFromVolumeId idObjectSlices at h
  split at h
  next fsName accessPoint parts hp =>
    obtain ⟨x, hx, hs⟩ := Option.map_eq_some_iff.mp hp
    have hcolon : ':' ∈ x := by
      rw [Split.eq_append_of_splitOn hs]
      simp
    exact Split.mem_of_mem_splitOn (List.mem_of_getElem? hx) hcolon
  next => exact (h rfl).elim

/-- Where the two sides agree on a volume ID: the ID names no directory, or a directory without a
colon in its ID on a named filesystem. IDs that are refused must not be counted. -/
def ClassifiedAlike (volumeID : Str) : Prop :=
  if validateVolumeId volumeID = .ok () then
    sliceInnerPathFromVolumeId volumeID = [] ∨ sliceSnapshotAccessPointFromVolumeId volumeID ≠ [] ∨
      (sliceFilesystemNameFromVolumeId volumeID ≠ [] ∧ ':' ∉ volumeID)
  else sliceFilesystemNameFromVolumeId volumeID = [] ∨ sliceInnerPathFromVolumeId volumeID = [] ∨
    ':' ∈ volumeID

theorem countedByRefresh_iff_enforced (driverName volumeID : Str) (capacity : Int64)
    (apiClient : Option ApiClient) (config : DriverConfig) (current target : Int64) :
    (CountedByRefresh driverName volumeID capacity ↔
      EnforcedByReserve volumeID apiClient config current target) ↔ ClassifiedAlike volumeID := by
  have hcolon : sliceSnapshotAccessPointFromVolumeId volumeID ≠ [] → ':' ∈ volumeID :=
    colon_mem_of_accessPoint
  rw [countedByRefresh_iff, enforcedByReserve_iff]
  unfold ClassifiedAlike
  split
  next h => tauto
  next h => tauto

/-- A directory whose folder has a colon is enforced and never counted. -/
theorem countedByRefresh_colon :
    ¬ CountedByRefresh "csi.weka.io" "dir/v1/fs1/csi-volumes/a:b" 1 ∧
      EnforcedByReserve "dir/v1/fs1/csi-volumes/a:b" none {} 0 1 := by
  rw [countedByRefresh_iff, enforcedByReserve_iff]
  decide +kernel

end CsiWekafs
