import CsiWekafs.Api.Request

namespace CsiWekafs

open Prog

def findFileSystemsByFilter (query : FileSystem) : M (Except Err (List FileSystem)) := do
  match ← request (.listFileSystems query) with
  | .error e => return .error e
  | .ok data => return .ok ((data.getD []).filter (·.eq query))

def findSnapshotsByFilter (query : WekaSnapshot) : M (Except Err (List WekaSnapshot)) := do
  match ← request (.listSnapshots query) with
  | .error e => return .error e
  | .ok data => return .ok ((data.getD []).filter (·.eq query))

/-- Exactly one object is expected to match a filter. -/
def exactlyOne {α : Type} : Except Err (List α) → Except Err α
  | .error e => .error e
  | .ok [] => .error .objectNotFound
  | .ok [a] => .ok a
  | .ok (_ :: _ :: _) => .error .multipleObjectsFound

theorem exactlyOne_eq_ok {α : Type} {r : Except Err (List α)} {a : α} :
    exactlyOne r = .ok a ↔ r = .ok [a] := by
  rcases r with e | _ | ⟨b, _ | ⟨c, l⟩⟩ <;> simp [exactlyOne]

theorem exactlyOne_eq_objectNotFound {α : Type} {r : Except Err (List α)} :
    exactlyOne r = .error .objectNotFound ↔ r = .error .objectNotFound ∨ r = .ok [] := by
  rcases r with e | _ | ⟨b, _ | ⟨c, l⟩⟩ <;> simp [exactlyOne]

def getFileSystemByName (name : Str) : M (Except Err FileSystem) := do
  return exactlyOne (← findFileSystemsByFilter { name := name })

/-- On an error the driver also gets an empty snapshot object. -/
def getSnapshotByName (name : Str) : M (Except Err WekaSnapshot) := do
  return exactlyOne (← findSnapshotsByFilter { name := name })

def findSnapshotsByFilesystem (query : FileSystem) : M (Except Err (List WekaSnapshot)) := do
  if query.uid = nilUid then
    return .error (.plain "cannot search for snapshots without explicit filesystem Uid")
  findSnapshotsByFilter { filesystem := query.name }

/-- An answer that says that the object does not exist: not found, or a bad request with the code. -/
def saysNotExist (code : Str) : Err → Bool
  | .api .notFound _ _ _ => true
  | .api .badRequest _ _ errorCodes => code ∈ errorCodes
  | _ => false

def filesystemDoesNotExist : Str := "FilesystemDoesNotExistException"

def snapshotDoesNotExist : Str := "SnapshotDoesNotExistException"

/-- A bad request without the code leaves the caller's object as it was and is no error. -/
def getFileSystemByUid (uid : Uid) (forceFresh : Bool) : M (Except Err FileSystem) := do
  match ← request (.getFileSystem uid forceFresh) with
  | .ok data => return .ok (data.getD {})
  | .error e =>
    if saysNotExist filesystemDoesNotExist e then return .error .objectNotFound
    else match e with
      | .api .badRequest _ _ _ => return .ok {}
      | e => return .error e

def getSnapshotByUid (uid : Uid) : M (Except Err WekaSnapshot) := do
  match ← request (.getSnapshot uid) with
  | .ok data => return .ok (data.getD {})
  | .error e => return .error e

def waitFilesystemReady (fsName : Str) : Nat → M (Except Err Unit)
  | 0 => return .error .asyncOperationTimedOut
  | n + 1 => do
    match ← getFileSystemByName fsName with
    | .error _ => waitFilesystemReady fsName n
    | .ok fs =>
      if fs.isReady then return .ok ()
      else if fs.isRemoving then return .error .objectMarkedForDeletion
      else waitFilesystemReady fsName n

def createFileSystem (r : FileSystemCreateRequest) : M (Except Err Unit) := do
  if r.name = [] ∨ r.groupName = [] ∨ r.totalCapacity = 0 then return .error .requestMissingParams
  match ← request (.createFileSystem r) with
  | .error e => return .error e
  | .ok _ =>
    match ← waitFilesystemReady r.name (← ask .pollBudget) with
    | .ok () => return .ok ()
    | .error e =>
      return .error (.plain ("Failed to create a file system after 30s " ++ e.error ++ "\n"))

/-- The reply is decoded over the object that the caller holds. -/
def updateFileSystem (r : FileSystemResizeRequest) (fs : FileSystem) :
    M (Except Err Unit × FileSystem) := do
  if r.uid = nilUid then return (.error .requestMissingParams, fs)
  match ← request (.updateFileSystem r) with
  | .error e => return (.error e, fs)
  | .ok data => return (.ok (), data.getD fs)

/-- Errors other than the answers that say that the filesystem does not exist are dropped. -/
def deleteFileSystem (uid : Uid) : M (Except Err Unit) := do
  if uid = nilUid then return .error .requestMissingParams
  match ← request (.deleteFileSystem uid) with
  | .ok _ => return .ok ()
  | .error e =>
    if saysNotExist filesystemDoesNotExist e then return .error .objectNotFound else return .ok ()

def deleteWekaSnapshot (uid : Uid) : M (Except Err Unit) := do
  if uid = nilUid then return .error .requestMissingParams
  match ← request (.deleteSnapshot uid) with
  | .ok _ => return .ok ()
  | .error e =>
    if saysNotExist snapshotDoesNotExist e then return .error .objectNotFound else return .error e

def createWekaSnapshot (r : SnapshotCreateRequest) : M (Except Err WekaSnapshot) := do
  if r.name = [] ∨ r.fsUid = nilUid then return .error .requestMissingParams
  match ← request (.createSnapshot r) with
  | .error e => return .error e
  | .ok data => return .ok (data.getD {})

def findNfsPermissionsByFilesystem (fsName : Str) : M (Except Err (List NfsPermission)) := do
  match ← request (.listNfsPermissions fsName) with
  | .error e => return .error e
  | .ok data => return .ok ((data.getD []).filter (·.filesystem = fsName))

def deleteNfsPermission (uid : Uid) : M (Except Err Unit) := do
  if uid = nilUid then return .error .requestMissingParams
  match ← request (.deleteNfsPermission uid) with
  | .ok _ => return .ok ()
  | .error e =>
    if saysNotExist "PermissionDoesNotExistException" e then return .error .objectNotFound
    else return .ok ()

def deleteNfsPermissions : List NfsPermission → M (Except Err Unit)
  | [] => return .ok ()
  | p :: ps => do
    match ← deleteNfsPermission p.uid with
    | .error e => return .error e
    | .ok () => deleteNfsPermissions ps

/-- A failure to list the permissions is only logged. -/
def ensureNoNfsPermissionsForFilesystem (fsName : Str) : M (Except Err Unit) := do
  match ← findNfsPermissionsByFilesystem fsName with
  | .error _ => deleteNfsPermissions []
  | .ok permissions => deleteNfsPermissions permissions

def getFreeCapacity : M (Except Err UInt64) := do
  match ← request .clusterInfo with
  | .error e => return .error e
  | .ok data => return .ok (data.getD (0 : UInt64))

/-- The KMS configuration, where it supports a common key. -/
def getKmsConfiguration : M (Except Err Kms) := do
  match ← request .kms with
  | .error e => return .error e
  | .ok none => return .error (.plain "KMS configuration is not supported")
  | .ok (some kms) =>
    if kms.isSupportedForCommonEncryptionKey then return .ok kms
    else return .error (.plain "KMS configuration is not supported")

def isEncryptionEnabled (a : ApiClient) : M Bool := do
  if !a.supportsEncryptionWithCommonKey then return false
  match ← getKmsConfiguration with
  | .error _ => return false
  | .ok _ => return true

def allowsCustomEncryptionSettings (a : ApiClient) : M Bool := do
  if !a.supportsCustomEncryptionSettings then return false
  match ← getKmsConfiguration with
  | .error _ => return false
  | .ok kms => return kms.isSupportedForEncryptionKeyPerFilesystem

end CsiWekafs
