import CsiWekafs.Snapshot
import CsiWekafs.Volume.Capacity
import CsiWekafs.Volume.Delete

namespace CsiWekafs

open Prog

/-- Only the first two names are looked at, and a failure to read them counts as none. -/
def Volume.isFilesystemEmpty (v : Volume) (config : DriverConfig) : M (Except Err Bool × Volume) :=
  v.withMount config .error orUnmountError fun v => do
    match ← ask (.openDir v.mountPath) with
    | .error e => return (.error e, v)
    | .ok _ =>
      match ← ask (.readdirnames v.mountPath) with
      | .error _ => return (.ok true, v)
      | .ok fileNames => return (.ok ((fileNames.take 2).all (· = snapshotsSubDirectory)), v)

def Volume.createSeedSnapshot (v : Volume) (config : DriverConfig) :
    M (Except Err WekaSnapshot × Volume) := do
  match ← v.getFilesystemObj true with
  | (.error e, v) => return (.error e, v)
  | (.ok none, _) => die "nil filesystem object"
  | (.ok (some fsObj), v) =>
    let r ← createWekaSnapshot
      ⟨fsObj.uid, v.getSeedSnapshotName config, v.getSeedSnapshotAccessPoint, none, false⟩
    return (r, v)

def seedMismatchError : Err := .plain "mismatch detected between seed snapshot identifiers"

def seedWritableError : Err := .plain "seed snapshot is writable"

def Volume.getSeedSnapshot (v : Volume) (config : DriverConfig) :
    M (Except Err (Option WekaSnapshot)) := do
  match ← getSnapshotByName (v.getSeedSnapshotName config) with
  | .error .objectNotFound => return .ok none
  | .error e => return .error e
  | .ok snapObj =>
    if snapObj.uid = nilUid then return .ok none
    else if snapObj.accessPoint ≠ v.getSeedSnapshotAccessPoint then return .error seedMismatchError
    else if snapObj.isWritable then return .error seedWritableError
    else return .ok (some snapObj)

def seedOnNonEmptyError : Err := .plain "cannot create seed snaspshot on non-empty filesystem"

/-- In development mode a directory stands in for the seed snapshot. -/
def Volume.mimicSeedSnapshot (v : Volume) (config : DriverConfig) (snap : WekaSnapshot) :
    M (Except Err WekaSnapshot × Volume) := do
  if config.isInDevMode then
    v.withMount config .error (fun _ r => r) fun v => do
      let seedPath := GoPath.join [v.mountPath, snapshotsSubDirectory, v.getSeedSnapshotAccessPoint]
      match ← ask (.mkdirAll seedPath) with
      | .error e => return (.error (.os e), v)
      | .ok () => return (.ok snap, v)
  else return (.ok snap, v)

/-- The empty snapshot of a filesystem from which blank snapshot volumes are made. -/
def Volume.ensureSeedSnapshot (v : Volume) (config : DriverConfig) :
    M (Except Err WekaSnapshot × Volume) := do
  match ← v.getSeedSnapshot config with
  | .error e => return (.error e, v)
  | .ok (some snap) => v.mimicSeedSnapshot config snap
  | .ok none =>
    match ← v.isFilesystemEmpty config with
    | (.error e, v) => return (.error e, v)
    | (.ok empty, v) =>
      if !empty && !config.isInDevMode then return (.error seedOnNonEmptyError, v)
      else
        match ← v.createSeedSnapshot config with
        | (.error e, v) => return (.error e, v)
        | (.ok snap, v) => v.mimicSeedSnapshot config snap

def sourceUid : Option WekaSnapshot → Option Uid
  | none => none
  | some srcSnap => if srcSnap.uid = nilUid then none else some srcSnap.uid

/-- The snapshot that a snapshot volume starts from. A failure to find the one of a content source is
like a source that has none. -/
def Volume.getUidOfSourceSnap (v : Volume) (config : DriverConfig) :
    M (Except Err (Option Uid) × Volume) := do
  match v.srcSnapshot, v.srcVolume with
  | some s, _ =>
    let (r, s) ← s.getObject config
    return (.ok (sourceUid (r.toOption.getD none)), { v with srcSnapshot := some s })
  | none, some srcVolume =>
    if srcVolume.snapshotAccessPoint ≠ [] then
      let r ← snapshotObjByName v.apiClient srcVolume.snapshotName
      return (.ok (sourceUid (r.toOption.getD none)), v)
    else return (.ok none, v)
  | none, none =>
    if v.isOnSnapshot then
      match ← v.ensureSeedSnapshot config with
      | (.error e, v) => return (.error (.status .internal e.error), v)
      | (.ok srcSnap, v) => return (.ok (sourceUid (some srcSnap)), v)
    else return (.ok none, v)

structure EncryptionParams where
  encrypted : Bool
  allowNoKms : Bool
  kmsVaultRoleId : Str
  kmsVaultSecretId : Str
  kmsVaultNamespace : Str
  kmsVaultKeyIdentifier : Str

def encryptionWithoutKmsText : Str :=
  "Creating encrypted filesystems without KMS server configuration is prohibited"

def encryptionNotSupportedText : Str := "Encryption is not supported on the cluster"

def managedKeysText : Str :=
  "Automatic management of encryption keys is not supported by current " ++
    "version of WEKA CSI Plugin"

def customEncryptionVersionText : Str :=
  "Encryption with custom settings per filesystem is not " ++
    "supported by current version of WEKA cluster"

def customEncryptionKmsText : Str :=
  "WEKA cluster KMS server configuration does not support custom " ++
    "encryption settings per filesystem"

def encryptionNotEnabledText : Str := "Encryption is not enabled on the cluster"

/-- What the driver and the cluster have to allow for an encrypted filesystem. -/
def Volume.checkEncryption (v : Volume) (config : DriverConfig) : M (Except Err Unit) := do
  if !config.allowEncryptionWithoutKms && v.encryptWithoutKms then
    return .error (.status .invalidArgument encryptionWithoutKmsText)
  else
    match v.apiClient with
    | none => die "nil API client"
    | some client =>
      if !client.supportsEncryptionWithCommonKey then
        return .error (.status .internal encryptionNotSupportedText)
      else if v.manageEncryptionKeys then
        return .error (.status .failedPrecondition managedKeysText)
      else if v.hasCustomEncryptionSettings then
        if !client.supportsCustomEncryptionSettings then
          return .error (.status .failedPrecondition customEncryptionVersionText)
        else if ← allowsCustomEncryptionSettings client then return .ok ()
        else return .error (.status .failedPrecondition customEncryptionKmsText)
      else if ← isEncryptionEnabled client then return .ok ()
      else if v.encryptWithoutKms then return .ok ()
      else return .error (.status .failedPrecondition encryptionNotEnabledText)

/-- Only a filesystem takes encryption parameters. -/
def Volume.ensureEncryptionParams (v : Volume) (config : DriverConfig) :
    M (Except Err EncryptionParams × Volume) := do
  let (encrypted, v) ← v.isEncryptedSafe config
  let encryptionParams : EncryptionParams :=
    ⟨encrypted, v.encryptWithoutKms, v.kmsVaultRoleId, v.kmsVaultSecretId, v.kmsVaultNamespace,
      v.kmsVaultKeyIdentifier⟩
  match ← v.isEncryptedSafe config with
  | (false, v) => return (.ok encryptionParams, v)
  | (true, v) =>
    if !v.isFilesystem then return (.ok encryptionParams, v)
    else
      match ← v.checkEncryption config with
      | .error e => return (.error e, v)
      | .ok () => return (.ok encryptionParams, v)

def initialSizeError (fsSize maxStorageCapacity : Int64) : Err :=
  .status .outOfRange ("Minimum filesystem size " ++ itoa fsSize ++
    " is set in storageClass, which exceeds total free capacity " ++ itoa maxStorageCapacity)

def Volume.createFilesystemVolume (v : Volume) (config : DriverConfig)
    (capacity maxStorageCapacity : Int64) (p : EncryptionParams) : M (Except Err Unit) := do
  let fsSize := max capacity v.initialFilesystemSize
  if fsSize > maxStorageCapacity then return .error (initialSizeError fsSize maxStorageCapacity)
  else
    let setSelfOwnership := config.setOwnershipOnDynamicFilesystems &&
      v.apiClient.any (·.supportsSettingSelfAsFilesystemOwner)
    match ← createFileSystem ⟨v.filesystemName, v.filesystemGroupName, fsSize, p.encrypted, p.allowNoKms,
        setSelfOwnership, p.kmsVaultKeyIdentifier, p.kmsVaultNamespace, p.kmsVaultRoleId,
        p.kmsVaultSecretId⟩ with
    | .error e => return .error (.status .internal e.error)
    | .ok () => return .ok ()

def encryptionCheckError (e : Err) : Err :=
  .status .internal ("Failed to check if volume is encrypted: " ++ e.error)

def unencryptedForSnapshotText : Str :=
  "Cannot create encrypted snapshot-backed volume on unencrypted filesystem"

def unencryptedForDirectoryText : Str :=
  "Cannot create encrypted directory-backed volume on unencrypted filesystem"

/-- The snapshot request for a filesystem object. Without one the driver looks into nothing. -/
def Volume.sendSnapshotCreation (v : Volume) (fsObj : Option FileSystem) (encrypted : Bool)
    (snapSrcUid : Option Uid) : M (Except Err Unit) := do
  match fsObj with
  | none => die "nil filesystem object"
  | some fsObj =>
    if encrypted && !fsObj.isEncrypted then
      return .error (.status .invalidArgument unencryptedForSnapshotText)
    else
      match ← createWekaSnapshot
        ⟨fsObj.uid, v.snapshotName, v.snapshotAccessPoint, snapSrcUid, true⟩ with
      | .error e => return .error (.status .internal e.error)
      | .ok _ => return .ok ()

def Volume.createSnapshotVolume (v : Volume) (config : DriverConfig) : M (Except Err Unit × Volume) := do
  match ← v.getUidOfSourceSnap config with
  | (.error e, v) => return (.error e, v)
  | (.ok snapSrcUid, v) =>
    match ← v.getFilesystemObj true with
    | (.error e, v) => return (.error e, v)
    | (.ok fsObj, v) =>
      match ← v.isEncrypted config with
      | (.error e, v) => return (.error (encryptionCheckError e), v)
      | (.ok encrypted, v) =>
        match ← v.sendSnapshotCreation fsObj encrypted snapSrcUid with
        | .error e => return (.error e, v)
        | .ok () =>
          if config.isInDevMode then
            match ← v.mimicDirectoryStructureForDebugMode config with
            | (.ok (), v) => return (.ok (), v)
            | (.error e, v) =>
              let (_, v) ← v.deleteSnapshot config
              return (.error e, v)
          else return (.ok (), v)

def encryptionNeedsApiError : Err := .plain "cannot create encrypted volume without API binding"

/-- An encrypted directory needs an encrypted filesystem. -/
def Volume.checkDirectoryEncryption (v : Volume) (config : DriverConfig) :
    M (Except Err Unit × Volume) := do
  match ← v.isEncrypted config with
  | (.error e, v) => return (.error (encryptionCheckError e), v)
  | (.ok false, v) => return (.ok (), v)
  | (.ok true, v) =>
    if v.apiClient.isNone then return (.error encryptionNeedsApiError, v)
    else
      match ← v.getFilesystemObj true with
      | (.error e, v) => return (.error e, v)
      | (.ok none, _) => die "nil filesystem object"
      | (.ok (some fsObj), v) =>
        if !fsObj.isEncrypted then
          return (.error (.status .invalidArgument unencryptedForDirectoryText), v)
        else return (.ok (), v)

/-- The capacity and the parameters of a volume that was just made. -/
def Volume.setUp (v : Volume) (config : DriverConfig) (capacity : Int64) :
    M (Except Err Unit × Volume) := do
  match ← v.updateCapacity config (some v.enforceCapacity) capacity with
  | (.error e, v) => return (.error e, v)
  | (.ok (), v) => v.updateParams config

/-- Makes the directory and sets it up under one mount. -/
def Volume.createDirectoryVolume (v : Volume) (config : DriverConfig) (capacity : Int64) :
    M (Except Err Unit × Volume) :=
  v.withMount config .error orUnmountError fun v => do
    let volPath := v.getFullPath
    match ← ask (.mkdirAll (GoPath.dir volPath)) with
    | .error e => return (.error (.os e), v)
    | .ok () =>
      match ← ask (.mkdir volPath defaultVolumePermissions) with
      | .error e => return (.error (.os e), v)
      | .ok () => v.setUp config capacity

def freeCapacityOfVolumeError (id : Str) : Err :=
  .status .internal ("CreateVolume: Cannot obtain free capacity for volume " ++ id)

def capacityExceededError (capacity maxStorageCapacity : Int64) : Err :=
  .status .outOfRange ("Requested capacity " ++ itoa capacity ++ " exceeds maximum allowed " ++
    itoa maxStorageCapacity)

/-- Makes the object that a volume stands for, then records its capacity and parameters. -/
def Volume.create (v : Volume) (config : DriverConfig) (capacity : Int64) :
    M (Except Err Unit × Volume) := do
  match ← v.getMaxCapacity config with
  | (.error _, v) => return (.error (freeCapacityOfVolumeError v.id), v)
  | (.ok maxStorageCapacity, v) =>
    if capacity > maxStorageCapacity then
      return (.error (capacityExceededError capacity maxStorageCapacity), v)
    else
      match ← v.ensureEncryptionParams config with
      | (.error e, v) => return (.error e, v)
      | (.ok encryptionParams, v) =>
        if v.isFilesystem then
          match ← v.createFilesystemVolume config capacity maxStorageCapacity encryptionParams with
          | .error e => return (.error e, v)
          | .ok () => v.setUp config capacity
        else if v.isOnSnapshot then
          match ← v.createSnapshotVolume config with
          | (.error e, v) => return (.error e, v)
          | (.ok (), v) => v.setUp config capacity
        else
          match ← v.checkDirectoryEncryption config with
          | (.error e, v) => return (.error e, v)
          | (.ok (), v) => v.createDirectoryVolume config capacity

end CsiWekafs
