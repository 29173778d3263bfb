import CsiWekafs.Names
import CsiWekafs.Snapshot
import CsiWekafs.Volume.Objects

namespace CsiWekafs

open Prog

/-- A snapshot that is taken of a volume. -/
structure SnapshotOfVolume extends Snapshot where
  sourceVolume : Volume
  srcSnapshotUid : Option Uid

/-- The snapshot that a name and the ID of its source stand for. -/
def snapshotOfVolumeId (name srcVolId : Str) (apiClient : Option ApiClient) (config : DriverConfig) :
    Snapshot :=
  let filesystemName := sliceFilesystemNameFromVolumeId srcVolId
  let snapNameHash := generateSnapshotNameHash name
  let snapIntegrityId := generateSnapshotIntegrityID name srcVolId
  let innerPath := sliceInnerPathFromVolumeId srcVolId
  { id := generateSnapshotIdFromComponents snapshotTypeUnifiedSnap filesystemName snapNameHash
      snapIntegrityId innerPath
    filesystemName := filesystemName
    snapshotNameHash := snapNameHash
    snapshotIntegrityId := snapIntegrityId
    snapshotName := generateWekaSnapNameForSnapshot config.snapshotPrefix name
    innerPath := innerPath
    apiClient := apiClient }

/-- A source on a snapshot gives the new one its own as origin. -/
def newSnapshotFromVolumeCreate (name : Str) (sourceVolume : Volume) (config : DriverConfig) :
    M (Except Err SnapshotOfVolume) := do
  let s := snapshotOfVolumeId name sourceVolume.id sourceVolume.apiClient config
  if sourceVolume.isOnSnapshot then
    match ← sourceVolume.getSnapshotObj false with
    | .error e => return .error e
    | .ok none => die "nil snapshot object"
    | .ok (some obj) =>
      return .ok { s with sourceVolume := sourceVolume, srcSnapshotUid := some obj.uid }
  else return .ok { s with sourceVolume := sourceVolume, srcSnapshotUid := none }

def SnapshotOfVolume.getObject (s : SnapshotOfVolume) (config : DriverConfig) :
    M (Except Err (Option WekaSnapshot) × SnapshotOfVolume) := do
  let (r, t) ← s.toSnapshot.getObject config
  return (r, { s with toSnapshot := t })

/-- In development mode a directory of the source's filesystem stands in for the snapshot. -/
def SnapshotOfVolume.mimicDirectoryStructureForDebugMode (s : SnapshotOfVolume) (config : DriverConfig) :
    M (Except Err Unit) := do
  let (r, _) ← s.sourceVolume.withMount config .error orUnmountError fun v => do
    let mimicPath := GoPath.join [v.mountPath, snapshotsSubDirectory, s.snapshotIntegrityId]
    return (osErr (← ask (.mkdirAll mimicPath)), v)
  return r

def sameNameError : Err :=
  .status .alreadyExists "Another snapshot with same name already exists"

/-- A snapshot exists if one of its name has its integrity ID and is not being removed. -/
def SnapshotOfVolume.exists (s : SnapshotOfVolume) (config : DriverConfig) :
    M (Except Err Bool × SnapshotOfVolume) := do
  match ← s.getObject config with
  | (.error e, s) => return (.error e, s)
  | (.ok none, s) => return (.ok false, s)
  | (.ok (some snapObj), s) =>
    if snapObj.uid = nilUid then return (.ok false, s)
    else if snapObj.isRemoving then return (.ok false, s)
    else if snapObj.accessPoint ≠ s.snapshotIntegrityId then return (.error sameNameError, s)
    else if config.isInDevMode then
      match ← s.mimicDirectoryStructureForDebugMode config with
      | .error e => return (.error e, s)
      | .ok () => return (.ok true, s)
    else return (.ok true, s)

def SnapshotOfVolume.getFileSystemObject (s : SnapshotOfVolume) : M (Except Err (Option FileSystem)) := do
  if s.apiClient.isNone then return .error (snapshotNotBoundError s.id)
  match ← getFileSystemByName s.filesystemName with
  | .error .objectNotFound => return .ok none
  | .error e => return .error e
  | .ok fsObj => return .ok (some fsObj)

def snapshotCheckError : Err :=
  .status .internal "Failed to check if snapshot already exists"

def otherSnapshotError : Err := .status .alreadyExists "Another snapshot exists with same name"

def originFetchError : Err := .status .notFound "Failed to fetch origin filesystem from the API"

def originNotFoundError : Err := .status .notFound "Original filesystem not found on storage"

def snapshotCreateError (e : Err) : Err :=
  .status .internal ("Failed to create snapshot: " ++ e.error)

/-- Makes the snapshot. One that is found is not asked whether it is being removed. -/
def SnapshotOfVolume.create (s : SnapshotOfVolume) (config : DriverConfig) :
    M (Except Err Unit × SnapshotOfVolume) := do
  match ← s.getObject config with
  | (.error _, s) => return (.error snapshotCheckError, s)
  | (.ok (some snapObj), s) =>
    if snapObj.accessPoint = s.snapshotIntegrityId then return (.ok (), s)
    else return (.error otherSnapshotError, s)
  | (.ok none, s) =>
    match ← s.getFileSystemObject with
    | .error _ => return (.error originFetchError, s)
    | .ok none => return (.error originNotFoundError, s)
    | .ok (some fsObj) =>
      match ← createWekaSnapshot {
          fsUid := fsObj.uid
          name := s.snapshotName
          accessPoint := s.snapshotIntegrityId
          sourceSnapUid := s.srcSnapshotUid
          isWritable := false } with
      | .error e => return (.error (snapshotCreateError e), s)
      | .ok _ =>
        if config.isInDevMode then
          return (← s.mimicDirectoryStructureForDebugMode config, s)
        else return (.ok (), s)

/-- The snapshot of a volume under a name, made where it does not exist yet. -/
def Volume.createSnapshot (v : Volume) (config : DriverConfig) (name : Str) :
    M (Except Err SnapshotOfVolume) := do
  match ← newSnapshotFromVolumeCreate name v config with
  | .error e => return .error e
  | .ok s =>
    match ← s.exists config with
    | (.error e, _) => return .error e
    | (.ok true, s) => return .ok s
    | (.ok false, s) =>
      match ← s.create config with
      | (.error e, _) => return .error e
      | (.ok (), s) => return .ok s

end CsiWekafs
