import CsiWekafs.Volume.Objects

namespace CsiWekafs

open Prog

/-- The snapshots of the volume's filesystem. One that is being removed has none that count. -/
def Volume.getUnderlyingSnapshots (v : Volume) : M (Except Err (List WekaSnapshot) × Volume) := do
  if v.apiClient.isNone then
    return (.error (.plain "cannot check for underlying snaphots as volume is not bound to API"), v)
  match ← v.getFilesystemObj true with
  | (.error e, v) => return (.error e, v)
  | (.ok none, v) => return (.ok [], v)
  | (.ok (some fsObj), v) =>
    if fsObj.isRemoving then return (.ok [], v)
    else return (← findSnapshotsByFilesystem fsObj, v)

def Volume.hasUnderlyingSnapshots (v : Volume) (config : DriverConfig) :
    M (Except Err Bool × Volume) := do
  if !v.isFilesystem then return (.ok false, v)
  match ← v.getUnderlyingSnapshots with
  | (.error e, v) => return (.error e, v)
  | (.ok snapshots, v) =>
    return (.ok (snapshots.any fun s => !s.isRemoving && s.name ≠ v.getSeedSnapshotName config), v)

/-- A failure to list the snapshots blocks the deletion too. -/
def Volume.isAllowedForDeletion (v : Volume) (config : DriverConfig) : M (Bool × Volume) := do
  if !v.isFilesystem then return (true, v)
  match ← v.hasUnderlyingSnapshots config with
  | (.error _, v) => return (false, v)
  | (.ok has, v) => return (!has, v)

def filesystemNotMarkedError (filesystemName : Str) : Err :=
  .plain ("FilesystemName " ++ filesystemName ++ " not marked for deletion but it should")

def deletionTimeoutError : Err := .plain "Timeout deleting volume"

/-- Waits until the filesystem is not found. Other failures to ask for it are ignored. -/
def Volume.waitForFilesystemDeletion (v : Volume) (fsUid : Uid) : Nat → M (Except Err Unit)
  | 0 => return .error deletionTimeoutError
  | n + 1 => do
    match ← getFileSystemByUid fsUid false with
    | .error .objectNotFound => return .ok ()
    | .error _ => v.waitForFilesystemDeletion fsUid n
    | .ok fsObj =>
      if fsObj.uid ≠ nilUid ∧ !fsObj.isRemoving then
        return .error (filesystemNotMarkedError v.filesystemName)
      else v.waitForFilesystemDeletion fsUid n

def failedToFetchFilesystemError (filesystemName : Str) (e : Err) : Err :=
  .status .internal ("Failed to fetch filesystem for deletion: " ++ filesystemName ++ ", " ++ e.error)

def failedToDeleteFilesystemError (filesystemName : Str) (e : Err) : Err :=
  .status .internal ("Failed to delete filesystem " ++ filesystemName ++ ": " ++ e.error)

/-- The errors of a deletion that count as success. -/
def alreadyRemoved : Err → Bool
  | .objectNotFound => true
  | .api .notFound _ _ _ => true
  | .api .badRequest _ _ _ => true
  | _ => false

/-- Sends the deletion of a filesystem, over NFS after its permissions are taken away. -/
def Volume.sendFilesystemDeletion (config : DriverConfig) (fsObj : FileSystem) :
    M (Except Err (Except Err Unit)) := do
  if config.transport = .nfs then
    match ← ensureNoNfsPermissionsForFilesystem fsObj.name with
    | .error e => return .error e
    | .ok () => return .ok (← deleteFileSystem fsObj.uid)
  else return .ok (← deleteFileSystem fsObj.uid)

/-- The wait runs in the background where the driver is not told to wait. -/
def Volume.awaitFilesystemDeletion (v : Volume) (config : DriverConfig) (fsUid : Uid) :
    M (Except Err Unit) := do
  if config.waitForObjectDeletion then v.waitForFilesystemDeletion fsUid (← ask .pollBudget)
  else return .ok ()

def Volume.deleteFilesystem (v : Volume) (config : DriverConfig) : M (Except Err Unit × Volume) := do
  match ← v.getFilesystemObj true with
  | (.error e, v) => return (.error (failedToFetchFilesystemError v.filesystemName e), v)
  | (.ok none, v) => return (.ok (), v)
  | (.ok (some fsObj), v) =>
    if fsObj.uid = nilUid then return (.ok (), v)
    else if fsObj.isRemoving then return (← v.awaitFilesystemDeletion config fsObj.uid, v)
    else
      match ← Volume.sendFilesystemDeletion config fsObj with
      | .error e => return (.error e, v)
      | .ok sent =>
        let v := { v with fileSystemObject := none }
        match sent with
        | .ok () => return (← v.awaitFilesystemDeletion config fsObj.uid, v)
        | .error e =>
          if alreadyRemoved e then return (.ok (), v)
          else return (.error (failedToDeleteFilesystemError v.filesystemName e), v)

def failedToFetchSnapshotError (snapshotName : Str) (e : Err) : Err :=
  .status .internal ("Failed to fetch snapshot for deletion: " ++ snapshotName ++ ": " ++ e.error)

/-- Waits until the snapshot is not found, or long enough. A snapshot that is not marked for deletion
is reported with an identifier that the driver never sets. -/
def waitForSnapshotDeletion (snapUid : Uid) : Nat → M (Except Err Unit)
  | 0 => return .ok ()
  | n + 1 => do
    match ← getSnapshotByUid snapUid with
    | .error .objectNotFound => return .ok ()
    | .error (.api .notFound _ _ _) => return .ok ()
    | .error _ => waitForSnapshotDeletion snapUid n
    | .ok snapObj =>
      if snapObj.uid ≠ nilUid ∧ !snapObj.isRemoving then die "nil snapshot identifier"
      else waitForSnapshotDeletion snapUid n

def awaitSnapshotDeletion (config : DriverConfig) (snapUid : Uid) : M (Except Err Unit) := do
  if config.waitForObjectDeletion then waitForSnapshotDeletion snapUid (← ask .pollBudget)
  else return .ok ()

def Volume.deleteSnapshot (v : Volume) (config : DriverConfig) : M (Except Err Unit × Volume) := do
  match ← v.getSnapshotObj true with
  | .error e => return (.error (failedToFetchSnapshotError v.snapshotName e), v)
  | .ok none => return (.ok (), v)
  | .ok (some snapObj) =>
    if snapObj.uid = nilUid then return (.ok (), v)
    else
      let v := { v with snapshotObject := none }
      match ← deleteWekaSnapshot snapObj.uid with
      | .error e =>
        if alreadyRemoved e then return (.ok (), v)
        else return (.error (failedToDeleteFilesystemError v.filesystemName e), v)
      | .ok () => return (← awaitSnapshotDeletion config snapObj.uid, v)

/-- What could not be removed of a directory is ignored. -/
def Volume.deleteDirectory (v : Volume) (config : DriverConfig) : M (Except Err Unit × Volume) :=
  v.withMount config .error orUnmountError fun v => do
    let _ ← ask (.removeAll v.getFullPath)
    return (.ok (), v)

def noApiSecretError : Err := .plain "Failed to delete volume, no API secret exists"

def filesystemHasUnderlyingSnapshotsError : Err :=
  .status .failedPrecondition "volume cannot be deleted since it has underlying snapshots"

def Volume.delete (v : Volume) (config : DriverConfig) : M (Except Err Unit × Volume) := do
  if (v.isFilesystem || v.isOnSnapshot) && v.apiClient.isNone then return (.error noApiSecretError, v)
  if v.isFilesystem then
    match ← v.isAllowedForDeletion config with
    | (false, v) => return (.error filesystemHasUnderlyingSnapshotsError, v)
    | (true, v) => v.deleteFilesystem config
  else if v.isOnSnapshot then v.deleteSnapshot config
  else v.deleteDirectory config

end CsiWekafs
