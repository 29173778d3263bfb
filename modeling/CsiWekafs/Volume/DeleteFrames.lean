import CsiWekafs.Volume.Delete
import CsiWekafs.Volume.Frames

namespace CsiWekafs

open Prog

theorem quiet_awaitFilesystemDeletion (v : Volume) (config : DriverConfig) (fsUid : Uid) :
    Quiet (v.awaitFilesystemDeletion config fsUid) := by
  have hwait : ∀ n, Quiet (v.waitForFilesystemDeletion fsUid n) := by
    intro n
    induction n with
    | zero => exact sends_pure
    | succ n ih =>
      refine (quiet_getFileSystemByUid fsUid false).bind ?_
      intro x
      split
      · exact sends_pure
      · exact ih
      · split
        · exact sends_pure
        · exact ih
  unfold Volume.awaitFilesystemDeletion
  split
  · exact (sends_ask rfl).bind fun n => hwait n
  · exact sends_pure

theorem quiet_awaitSnapshotDeletion (config : DriverConfig) (snapUid : Uid) :
    Quiet (awaitSnapshotDeletion config snapUid) := by
  have hwait : ∀ n, Quiet (waitForSnapshotDeletion snapUid n) := by
    intro n
    induction n with
    | zero => exact sends_pure
    | succ n ih =>
      refine (quiet_getSnapshotByUid snapUid).bind ?_
      intro x
      split
      · exact sends_pure
      · exact sends_pure
      · exact ih
      · split
        · exact sends_die
        · exact ih
  unfold awaitSnapshotDeletion
  split
  · exact (sends_ask rfl).bind fun n => hwait n
  · exact sends_pure

theorem tame_deleteDirectory (v : Volume) (config : DriverConfig) :
    Tame v (v.deleteDirectory config) :=
  tame_withMount v config _ _ fun _ _ => tame_ask rfl fun _ => tame_pure rfl

theorem safe_deleteSnapshot {A P : Event → Prop}
    (hP : ∀ e, (∀ r o, e = ⟨.http r, o⟩ → r.isQuiet = true) → P e)
    (hS : ∀ uid o, P ⟨.http (.deleteSnapshot uid), o⟩) (v : Volume) (config : DriverConfig) :
    (v.deleteSnapshot config).Safe A P (fun x => x.2.core = v.core) := by
  have hsend : ∀ uid, (deleteWekaSnapshot uid).Safe A P (fun _ => True) := by
    intro uid
    unfold deleteWekaSnapshot
    split
    · exact safe_pure trivial
    · refine Safe.bind (R := fun _ => True) (safe_request ?_ (fun _ => trivial) ?_) ?_
      · intro x
        exact hP _ (by rintro r o ⟨⟩)
      · intro o _
        exact ⟨hS uid o, trivial⟩
      · intro x _
        split
        · exact safe_pure trivial
        · split <;> exact safe_pure trivial
  refine Safe.bind ((prepares_getSnapshotObj v true).quiet.safe hP) ?_
  intro x _
  split
  · exact safe_pure rfl
  · exact safe_pure rfl
  · split
    · exact safe_pure rfl
    · refine Safe.bind (hsend _) ?_
      intro y _
      split
      · split <;> exact safe_pure rfl
      · exact Safe.bind ((quiet_awaitSnapshotDeletion config _).safe hP) fun _ _ => safe_pure rfl

end CsiWekafs
