import CsiWekafs.Api.Quotas

namespace CsiWekafs

open Prog

/-- The requests that neither delete a filesystem or a snapshot nor make a snapshot. -/
def Request.isQuiet : Request → Bool
  | .deleteFileSystem _ => false
  | .deleteSnapshot _ => false
  | .createSnapshot _ => false
  | _ => true

abbrev Quiet {α : Type} (p : M α) : Prop := Sends (fun r => r.isQuiet = true) p

theorem quiet_request {r : Request} (h : r.isQuiet = true) : Quiet (request r) := sends_request h

/-- The requests that look for an object by its name, and those that take NFS permissions away. -/
def Request.isPreparation : Request → Bool
  | .listFileSystems _ => true
  | .listSnapshots _ => true
  | .listNfsPermissions _ => true
  | .deleteNfsPermission _ => true
  | _ => false

abbrev Prepares {α : Type} (p : M α) : Prop := Sends (fun r => r.isPreparation = true) p

theorem prepares_request {r : Request} (h : r.isPreparation = true) : Prepares (request r) :=
  sends_request h

theorem Prepares.quiet {α : Type} {p : M α} (h : Prepares p) : Quiet p := by
  refine Sends.mono h ?_
  intro r hr
  cases r <;> simp_all [Request.isPreparation, Request.isQuiet]

theorem prepares_findFileSystemsByFilter (query : FileSystem) :
    Prepares (findFileSystemsByFilter query) := by
  refine Sends.bind (prepares_request (by rfl)) ?_
  intro x
  split <;> exact sends_pure

theorem prepares_findSnapshotsByFilter (query : WekaSnapshot) :
    Prepares (findSnapshotsByFilter query) := by
  refine Sends.bind (prepares_request (by rfl)) ?_
  intro x
  split <;> exact sends_pure

theorem prepares_getFileSystemByName (name : Str) : Prepares (getFileSystemByName name) :=
  (prepares_findFileSystemsByFilter _).bind fun _ => sends_pure

theorem prepares_getSnapshotByName (name : Str) : Prepares (getSnapshotByName name) :=
  (prepares_findSnapshotsByFilter _).bind fun _ => sends_pure

theorem prepares_findSnapshotsByFilesystem (query : FileSystem) :
    Prepares (findSnapshotsByFilesystem query) := by
  unfold findSnapshotsByFilesystem
  split
  · exact sends_pure
  · exact prepares_findSnapshotsByFilter _

theorem prepares_deleteNfsPermission (uid : Uid) : Prepares (deleteNfsPermission uid) := by
  unfold deleteNfsPermission
  split
  · exact sends_pure
  · refine Sends.bind (prepares_request (by rfl)) ?_
    intro x
    split
    · exact sends_pure
    · split <;> exact sends_pure

theorem prepares_deleteNfsPermissions (ps : List NfsPermission) : Prepares (deleteNfsPermissions ps) := by
  induction ps with
  | nil => exact sends_pure
  | cons p ps ih =>
    refine (prepares_deleteNfsPermission p.uid).bind ?_
    intro x
    split
    · exact sends_pure
    · exact ih

theorem prepares_ensureNoNfsPermissionsForFilesystem (fsName : Str) :
    Prepares (ensureNoNfsPermissionsForFilesystem fsName) := by
  have hfind : Prepares (findNfsPermissionsByFilesystem fsName) := by
    refine Sends.bind (prepares_request (by rfl)) ?_
    intro x
    split <;> exact sends_pure
  refine hfind.bind ?_
  intro x
  split <;> exact prepares_deleteNfsPermissions _

theorem quiet_getFileSystemByUid (uid : Uid) (forceFresh : Bool) :
    Quiet (getFileSystemByUid uid forceFresh) := by
  refine Sends.bind (quiet_request (by rfl)) ?_
  intro x
  split
  · exact sends_pure
  · split
    · exact sends_pure
    · split <;> exact sends_pure

theorem quiet_getSnapshotByUid (uid : Uid) : Quiet (getSnapshotByUid uid) := by
  refine Sends.bind (quiet_request (by rfl)) ?_
  intro x
  split <;> exact sends_pure

theorem quiet_waitFilesystemReady (fsName : Str) (n : Nat) :
    Quiet (waitFilesystemReady fsName n) := by
  induction n with
  | zero => exact sends_pure
  | succ n ih =>
    refine (prepares_getFileSystemByName fsName).quiet.bind ?_
    intro x
    split
    · exact ih
    · split
      · exact sends_pure
      · split
        · exact sends_pure
        · exact ih

theorem quiet_createFileSystem (r : FileSystemCreateRequest) : Quiet (createFileSystem r) := by
  unfold createFileSystem
  split
  · exact sends_pure
  · refine Sends.bind (quiet_request (by rfl)) ?_
    intro x
    split
    · exact sends_pure
    · refine (sends_ask rfl).bind fun n => (quiet_waitFilesystemReady _ _).bind ?_
      intro y
      split <;> exact sends_pure

theorem quiet_updateFileSystem (r : FileSystemResizeRequest) (fs : FileSystem) :
    Quiet (updateFileSystem r fs) := by
  unfold updateFileSystem
  split
  · exact sends_pure
  · refine Sends.bind (quiet_request (by rfl)) ?_
    intro x
    split <;> exact sends_pure

theorem quiet_getFreeCapacity : Quiet getFreeCapacity := by
  refine Sends.bind (quiet_request (by rfl)) ?_
  intro x
  split <;> exact sends_pure

theorem quiet_getKmsConfiguration : Quiet getKmsConfiguration := by
  refine Sends.bind (quiet_request (by rfl)) ?_
  intro x
  split
  · exact sends_pure
  · exact sends_pure
  · split <;> exact sends_pure

theorem quiet_isEncryptionEnabled (a : ApiClient) : Quiet (isEncryptionEnabled a) := by
  unfold isEncryptionEnabled
  split
  · exact sends_pure
  · refine quiet_getKmsConfiguration.bind ?_
    intro x
    split <;> exact sends_pure

theorem quiet_allowsCustomEncryptionSettings (a : ApiClient) :
    Quiet (allowsCustomEncryptionSettings a) := by
  unfold allowsCustomEncryptionSettings
  split
  · exact sends_pure
  · refine quiet_getKmsConfiguration.bind ?_
    intro x
    split <;> exact sends_pure

theorem quiet_resolvePathToInode (fs : FileSystem) (path : Str) :
    Quiet (resolvePathToInode fs path) := by
  unfold resolvePathToInode
  split
  · exact sends_pure
  · refine Sends.bind (quiet_request (by rfl)) ?_
    intro x
    split
    · exact sends_pure
    · exact sends_pure
    · exact sends_pure
    · split <;> exact sends_pure

theorem quiet_getQuotaByFileSystemAndInode (fs : FileSystem) (inodeId : UInt64) :
    Quiet (getQuotaByFileSystemAndInode fs inodeId) := by
  unfold getQuotaByFileSystemAndInode
  split
  · exact sends_pure
  · refine Sends.bind (quiet_request (by rfl)) ?_
    intro x
    split
    · exact sends_pure
    · exact sends_die
    · split <;> exact sends_pure
    · exact sends_pure
    · exact sends_pure

theorem quiet_waitForQuotaActive (fsUid : Uid) (inodeId : UInt64) (n : Nat) :
    Quiet (waitForQuotaActive fsUid inodeId n) := by
  induction n with
  | zero => exact sends_pure
  | succ n ih =>
    refine (quiet_getQuotaByFileSystemAndInode _ inodeId).bind ?_
    intro x
    split
    · exact sends_pure
    · split
      · exact sends_pure
      · exact ih

theorem quiet_createQuota (qr : QuotaCreateRequest) : Quiet (createQuota qr) := by
  unfold createQuota
  split
  · exact sends_pure
  · refine Sends.bind (quiet_request (by rfl)) ?_
    intro x
    split
    · exact sends_pure
    · exact (sends_ask rfl).bind fun n => quiet_waitForQuotaActive _ _ n

end CsiWekafs
