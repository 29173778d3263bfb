import CsiWekafs.Api.Quotas
import CsiWekafs.Names

namespace CsiWekafs

inductive DataTransport
  | wekafs | nfs
  deriving DecidableEq, Repr

structure DriverConfig where
  driverName : Str := "csi.weka.io"
  dynamicVolPath : Str := []
  volumePrefix : Str := "csivol-"
  snapshotPrefix : Str := "csisnp-"
  seedSnapshotPrefix : Str := "csisnp-seed-"
  allowAutoFsCreation : Bool := false
  allowAutoFsExpansion : Bool := false
  allowSnapshotsOfDirectoryVolumes : Bool := false
  debugPath : Str := []
  alwaysAllowSnapshotVolumes : Bool := false
  mutuallyExclusiveOptions : List (List Str) := [["writecache", "coherent", "readcache"]]
  csiVersion : Str := []
  waitForObjectDeletion : Bool := false
  allowEncryptionWithoutKms : Bool := false
  enforceDirVolTotalCapacity : Bool := false
  setOwnershipOnDynamicFilesystems : Bool := false
  keepThinProvisioningRatioOnExpand : Bool := false
  allowMountOptionOverrides : Bool := false
  transport : DataTransport := .wekafs

def DriverConfig.isInDevMode (config : DriverConfig) : Bool := config.debugPath ≠ []

/-- The mount options of the controller. -/
def DriverConfig.getDefaultMountOptions (config : DriverConfig) : MountOptions :=
  CsiWekafs.getDefaultMountOptions.merge
    (newMountOptionsFromString (mountOptionAcl ++ "," ++ mountOptionWriteCache))
    config.mutuallyExclusiveOptions

/-- A CSI snapshot. -/
structure Snapshot where
  id : Str
  filesystemName : Str
  snapshotNameHash : Str
  snapshotIntegrityId : Str
  snapshotName : Str
  innerPath : Str
  apiClient : Option ApiClient

/-- What a volume keeps of the volume that it is cloned from. -/
structure SourceVolume where
  id : Str
  snapshotName : Str
  snapshotAccessPoint : Str

def defaultVolumePermissions : Nat := 0o750

structure Volume where
  id : Str
  filesystemName : Str
  filesystemGroupName : Str := []
  snapshotName : Str := []
  snapshotAccessPoint : Str := []
  innerPath : Str := []
  apiClient : Option ApiClient
  permissions : Nat := 0
  ownerUid : Int64 := 0
  ownerGid : Int64 := 0
  mountPath : Str := []
  enforceCapacity : Bool := false
  initialFilesystemSize : Int64 := 0
  mountOptions : MountOptions := getDefaultMountOptions
  encrypted : Option Bool := none
  manageEncryptionKeys : Bool := false
  encryptWithoutKms : Bool := false
  kmsVaultNamespace : Str := []
  kmsVaultKeyIdentifier : Str := []
  kmsVaultRoleId : Str := []
  kmsVaultSecretId : Str := []
  srcVolume : Option SourceVolume := none
  srcSnapshot : Option Snapshot := none
  fileSystemObject : Option FileSystem := none
  snapshotObject : Option WekaSnapshot := none

def Volume.isOnSnapshot (v : Volume) : Bool := v.snapshotAccessPoint ≠ []

def Volume.hasInnerPath (v : Volume) : Bool := v.innerPath ≠ []

def Volume.isFilesystem (v : Volume) : Bool := !v.isOnSnapshot && !v.hasInnerPath

def Volume.requiresGc (v : Volume) : Bool := v.hasInnerPath && !v.isOnSnapshot

def snapshotsSubDirectory : Str := ".snapshots"

def Volume.getRelativePath (v : Volume) : Str :=
  GoPath.join ([['/']] ++
    (if v.isOnSnapshot then [snapshotsSubDirectory, v.snapshotAccessPoint] else []) ++
    (if v.hasInnerPath then [v.innerPath] else []))

def Volume.getFullPath (v : Volume) : Str := GoPath.join [v.mountPath, v.getRelativePath]

def Volume.hasCustomEncryptionSettings (v : Volume) : Bool :=
  v.kmsVaultNamespace ≠ [] || v.kmsVaultKeyIdentifier ≠ [] || v.kmsVaultRoleId ≠ [] ||
    v.kmsVaultSecretId ≠ []

def Volume.getSeedSnapshotName (v : Volume) (config : DriverConfig) : Str :=
  generateWekaSeedSnapshotName config.seedSnapshotPrefix v.filesystemName

def Volume.getSeedSnapshotAccessPoint (v : Volume) : Str :=
  generateWekaSeedAccessPoint v.filesystemName

/-- Mount options that come from another place, or that the cluster does not know, are dropped. -/
def Volume.pruneUnsupportedMountOptions (v : Volume) : Volume :=
  let opts := v.mountOptions
  let opts :=
    if opts.hasOption mountOptionSyncOnClose then
      match v.apiClient with
      | some a => if a.supportsSyncOnCloseMountOption then opts
                  else opts.removeOption mountOptionSyncOnClose
      | none => opts.removeOption mountOptionSyncOnClose
    else opts
  let opts := if opts.hasOption mountOptionReadOnly then opts.removeOption mountOptionReadOnly else opts
  let opts := if opts.hasOption mountOptionContainerName then
    opts.removeOption mountOptionContainerName else opts
  { v with mountOptions := opts }

def Volume.initMountOptions (v : Volume) : Volume :=
  { v with mountOptions := getDefaultMountOptions }.pruneUnsupportedMountOptions

end CsiWekafs
