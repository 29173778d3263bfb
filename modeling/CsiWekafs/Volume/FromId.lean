import CsiWekafs.Lib.Split
import CsiWekafs.Validate
import CsiWekafs.Volume.Objects

namespace CsiWekafs

def sliceSnapshotNameFromVolumeId (namePrefix volumeId : Str) : Str :=
  let base := sliceSnapshotAccessPointFromVolumeId volumeId
  if base ≠ [] then namePrefix ++ base else []

/-- The volume that an ID names. -/
def newVolumeFromId (volumeId : Str) (apiClient : Option ApiClient) (config : DriverConfig) :
    Except Err Volume :=
  match validateVolumeId volumeId with
  | .error e => .error e
  | .ok () => .ok (Volume.initMountOptions
      { id := volumeId
        filesystemName := sliceFilesystemNameFromVolumeId volumeId
        snapshotName := sliceSnapshotNameFromVolumeId config.volumePrefix volumeId
        snapshotAccessPoint := sliceSnapshotAccessPointFromVolumeId volumeId
        innerPath := sliceInnerPathFromVolumeId volumeId
        apiClient := apiClient
        permissions := defaultVolumePermissions })

theorem newVolumeFromId_ok {volumeId : Str} {apiClient : Option ApiClient} {config : DriverConfig}
    {v : Volume} : newVolumeFromId volumeId apiClient config = .ok v ↔
      validateVolumeId volumeId = .ok () ∧ v = Volume.initMountOptions {
        id := volumeId
        filesystemName := sliceFilesystemNameFromVolumeId volumeId
        snapshotName := sliceSnapshotNameFromVolumeId config.volumePrefix volumeId
        snapshotAccessPoint := sliceSnapshotAccessPointFromVolumeId volumeId
        innerPath := sliceInnerPathFromVolumeId volumeId
        apiClient := apiClient
        permissions := defaultVolumePermissions } := by
  unfold newVolumeFromId
  split
  next e he => simp [he]
  next he => simp [he, eq_comm]

/-- A name follows the second slash of the ID at once. -/
def HasName (id : Str) : Prop :=
  ∃ a b c rest, id = a ++ '/' :: (b ++ '/' :: c :: rest) ∧ '/' ∉ a ∧ '/' ∉ b ∧ c ≠ '/' ∧ c ≠ ':'

theorem idSlices_append {a : Str} (ha : '/' ∉ a) (rest : Str) :
    idSlices (a ++ '/' :: rest) = a :: idSlices rest :=
  List.splitOn_append_cons_self_of_not_mem ha rest

theorem exists_of_idObjectSlices {id : Str} {parts : List Str} (h : idObjectSlices id = some parts) :
    ∃ a b x rest, id = a ++ '/' :: (b ++ '/' :: (x ++ rest)) ∧ '/' ∉ a ∧ '/' ∉ b ∧ '/' ∉ x ∧
      x.splitOn ':' = parts := by
  obtain ⟨x, hx, hs⟩ := Option.map_eq_some_iff.mp h
  unfold idSlices at hx
  obtain ⟨a, b, xs, hid⟩ : ∃ a b xs, id.splitOn '/' = a :: b :: x :: xs := by
    match hl : id.splitOn '/' with
    | [] => simp [hl] at hx
    | [_] => simp [hl] at hx
    | [_, _] => simp [hl] at hx
    | a :: b :: y :: xs =>
      rw [hl] at hx
      cases hx
      exact ⟨a, b, xs, rfl⟩
  have hslash : ∀ y ∈ id.splitOn '/', '/' ∉ y := fun y hy => Split.notMem_of_mem_splitOn hy
  refine ⟨a, b, x, if xs = [] then [] else '/' :: ['/'].intercalate xs, ?_, hslash a (by simp [hid]),
    hslash b (by simp [hid]), hslash x (by simp [hid]), hs⟩
  rw [Split.eq_append_of_splitOn hid, if_neg (by simp), Split.intercalate_cons, if_neg (by simp),
    Split.intercalate_cons]

theorem sliceFilesystemName_ne_nil {id : Str} :
    sliceFilesystemNameFromVolumeId id ≠ [] ↔ HasName id := by
  constructor
  · intro h
    unfold sliceFilesystemNameFromVolumeId at h
    split at h
    next fsName parts hp =>
      obtain ⟨a, b, x, rest, rfl, ha, hb, hx, hs⟩ := exists_of_idObjectSlices hp
      have hcolon : ':' ∉ fsName := Split.notMem_of_mem_splitOn (l := x) (by simp [hs])
      rw [Split.eq_append_of_splitOn hs] at hx ⊢
      cases fsName with
      | nil => exact (h rfl).elim
      | cons c f =>
        have hc : c ≠ '/' := by
          rintro rfl
          exact hx (by simp)
        have hc' : c ≠ ':' := by
          rintro rfl
          exact hcolon (by simp)
        exact ⟨a, b, c, f ++ (if parts = [] then [] else ':' :: [':'].intercalate parts) ++ rest,
          by simp, ha, hb, hc, hc'⟩
    next => exact (h rfl).elim
  · rintro ⟨a, b, c, rest, rfl, ha, hb, hc, hc'⟩
    obtain ⟨y, ys, hy⟩ := Split.splitOn_cons_of_ne rest hc
    obtain ⟨f, fs, hf⟩ := Split.splitOn_cons_of_ne y hc'
    have hs : idSlices (a ++ '/' :: (b ++ '/' :: c :: rest)) = a :: b :: (c :: y) :: ys := by
      rw [idSlices_append ha, idSlices_append hb, idSlices, hy]
    simp [sliceFilesystemNameFromVolumeId, idObjectSlices, hs, hf]

end CsiWekafs
