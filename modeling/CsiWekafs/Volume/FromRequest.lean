import CsiWekafs.Snapshot
import CsiWekafs.Volume.FromId
import CsiWekafs.Volume.Params

namespace CsiWekafs

open Prog

structure VolumeCapability where
  block : Bool

/-- What a new volume is made from. A source message may leave it open. -/
inductive VolumeContentSource
  | undefined
  | volume (volumeId : Str)
  | snapshot (snapshotId : Str)

structure TopologyRequirement where
  requisite : List Params
  preferred : List Params

/-- A request for a new volume. Without parameters the map is nil. -/
structure CreateVolumeRequest where
  name : Str
  parameters : Option Params := none
  volumeCapabilities : List VolumeCapability := []
  requiredBytes : Int64 := 0
  contentSource : Option VolumeContentSource := none
  accessibilityRequirements : Option TopologyRequirement := none

def CreateVolumeRequest.params (req : CreateVolumeRequest) : Params := req.parameters.getD ∅

def getFSNameFromRequest (req : CreateVolumeRequest) : Str :=
  (req.params.lookup ("filesystemName" : Str)).getD []

def CreateVolumeRequest.volumeType (req : CreateVolumeRequest) : VolumeType :=
  (req.params.lookup ("volumeType" : Str)).getD []

def missingFilesystemNameError : Err :=
  .status .invalidArgument "missing filesystemName in CreateVolumeRequest"

def autoFsCreationError : Err :=
  .status .permissionDenied "creating new filesystems is not allowed, check CSI driver configuration"

def quotaNeedsApiError : Err :=
  .status .failedPrecondition "Quota enforcement is supported only with API-bound volumes"

def quotaOnSnapshotsText : Str :=
  "Quota enforcement is not supported for snapshot-backed volumes by " ++
    "current Weka software version, please upgrade Weka cluster"

def quotaOnSnapshotsError : Err := .status .failedPrecondition quotaOnSnapshotsText

/-- A volume of its own filesystem. Its type stands in the ID as the storage class has it. -/
def blankFilesystemVolume (req : CreateVolumeRequest) (config : DriverConfig)
    (client : Option ApiClient) : Except Err Volume :=
  let volType := if req.volumeType = [] then volumeTypeUnified else req.volumeType
  let filesystemName := generateWekaFsNameForFsBasedVol config.volumePrefix req.name
  if req.volumeType = volumeTypeDirV1 then .error missingFilesystemNameError
  else if !config.allowAutoFsCreation then .error autoFsCreationError
  else .ok {
    id := generateVolumeIdFromComponents volType filesystemName [] []
    filesystemName := filesystemName
    apiClient := client }

def blankDirectoryVolume (req : CreateVolumeRequest) (dynamicVolPath : Str)
    (client : Option ApiClient) : Volume :=
  let innerPath := generateInnerPathForDirBasedVol dynamicVolPath req.name
  { id := generateVolumeIdFromComponents volumeTypeDirV1 (getFSNameFromRequest req) [] innerPath
    filesystemName := getFSNameFromRequest req
    innerPath := innerPath
    apiClient := client }

/-- A volume on a snapshot, in the new format whatever type is requested. -/
def snapshotVolume (req : CreateVolumeRequest) (config : DriverConfig) (filesystemName innerPath : Str)
    (client : Option ApiClient) : Volume :=
  let snapAccessPoint := generateWekaSnapAccessPointForSnapBasedVol req.name
  { id := generateVolumeIdFromComponents volumeTypeUnified filesystemName snapAccessPoint innerPath
    filesystemName := filesystemName
    snapshotName := generateWekaSnapNameForSnapBasedVol config.volumePrefix req.name
    snapshotAccessPoint := snapAccessPoint
    innerPath := innerPath
    apiClient := client }

def supportsSnapshotVolumes (config : DriverConfig) (client : Option ApiClient) : Except Err Unit :=
  match client with
  | none => if config.alwaysAllowSnapshotVolumes then .ok () else .error quotaNeedsApiError
  | some c =>
    if !c.supportsQuotaOnSnapshots && !config.alwaysAllowSnapshotVolumes then
      .error quotaOnSnapshotsError
    else .ok ()

/-- A new filesystem, a directory or a snapshot of an empty filesystem, after the parameters. -/
def newVolumeForBlankVolumeRequest (req : CreateVolumeRequest) (dynamicVolPath : Str)
    (config : DriverConfig) : M (Except Err Volume) := do
  match ← ask .getClientFromSecrets with
  | .error e => return .error e
  | .ok client =>
    if getFSNameFromRequest req = [] then return blankFilesystemVolume req config client
    else if req.volumeType = volumeTypeDirV1 then
      return .ok (blankDirectoryVolume req dynamicVolPath client)
    else
      match supportsSnapshotVolumes config client with
      | .error e => return .error e
      | .ok () => return .ok (snapshotVolume req config (getFSNameFromRequest req) [] client)

def noApiBindingError : Err :=
  .status .invalidArgument "cannot create volume without API binding"

def emptySourceSnapshotError : Err := .status .invalidArgument "Source snapshot ID is empty"

def sourceSnapshotNotFoundError (sourceSnapId : Str) : Err :=
  .status .notFound ("Source snapshot " ++ sourceSnapId ++ " does not exist, cannot create volume")

def directorySnapshotsText : Str :=
  "Creation of snapshots is prohibited on directory-backed CSI " ++
    "volumes. Refer to Weka CSI plugin documentation"

def sourceSnapshotCheckError (sourceSnapId : Str) : Err :=
  .status .internal ("Failed to check for existence of source snapshot " ++ sourceSnapId)

def sourceSnapshotWritableError (sourceSnapId : Str) : Err :=
  .status .failedPrecondition ("Source snapshot " ++ sourceSnapId ++
    " is writable, cannot create volume from writable snapshot")

def sourceSnapshotIntegrityError (sourceSnapId sourceFsName filesystem : Str) : Err :=
  .status .internal ("Integrity check failure: source snapshot ID " ++ sourceSnapId ++
    " points on filesystem " ++ sourceFsName ++ ", while in Weka cluster FS name is " ++ filesystem)

/-- The source snapshot must be there, read-only and on the filesystem that its ID names. -/
def newVolumeForCreateFromSnapshotRequest (req : CreateVolumeRequest) (sourceSnapId : Str)
    (config : DriverConfig) : M (Except Err Volume) := do
  match ← ask .getClientFromSecrets with
  | .error e => return .error e
  | .ok none => return .error noApiBindingError
  | .ok (some client) =>
    if sourceSnapId = [] then return .error emptySourceSnapshotError
    match newSnapshotFromId sourceSnapId (some client) config with
    | .error _ => return .error (sourceSnapshotNotFoundError sourceSnapId)
    | .ok sourceSnap =>
      if sourceSnap.hasInnerPath && !config.allowSnapshotsOfDirectoryVolumes then
        return .error (.status .failedPrecondition directorySnapshotsText)
      match ← sourceSnap.getObject config with
      | (.error _, _) => return .error (sourceSnapshotCheckError sourceSnapId)
      | (.ok none, _) => return .error (sourceSnapshotNotFoundError sourceSnapId)
      | (.ok (some sourceSnapObj), sourceSnap) =>
        let sourceFsName := sliceFilesystemNameFromVolumeId sourceSnapId
        if sourceSnapObj.isWritable then return .error (sourceSnapshotWritableError sourceSnapId)
        else if sourceFsName ≠ sourceSnapObj.filesystem then
          return .error
            (sourceSnapshotIntegrityError sourceSnapId sourceFsName sourceSnapObj.filesystem)
        else
          return .ok { snapshotVolume req config sourceFsName sourceSnap.innerPath (some client) with
            enforceCapacity := true
            srcSnapshot := some sourceSnap }

def emptySourceVolumeError : Err := .status .invalidArgument "Source volume ID is empty"

def sourceVolumeIdError (sourceVolId : Str) : Err :=
  .status .notFound ("Failed to validate source volume ID " ++ sourceVolId)

def directoryCloningText : Str :=
  "Cloning is prohibited for directory-backed volumes, refer to WEKA " ++
    "CSI Plugin documentation for additional information"

def sourceVolumeNotFoundError : Err := .status .notFound "Source volume does not exist"

def otherFilesystemText : Str :=
  "Filesystem specified in storageClass and differs from source volume " ++
    "filesystem, this is not supported"

def newVolumeForCloneVolumeRequest (req : CreateVolumeRequest) (sourceVolId : Str)
    (config : DriverConfig) : M (Except Err Volume) := do
  match ← ask .getClientFromSecrets with
  | .error e => return .error e
  | .ok none => return .error noApiBindingError
  | .ok (some client) =>
    if sourceVolId = [] then return .error emptySourceVolumeError
    match newVolumeFromId sourceVolId (some client) config with
    | .error _ => return .error (sourceVolumeIdError sourceVolId)
    | .ok sourceVol =>
      if sourceVol.hasInnerPath && !config.allowSnapshotsOfDirectoryVolumes then
        return .error (.status .failedPrecondition directoryCloningText)
      let (r, sourceVol) ← sourceVol.exists config
      let sourceVolFsName := sliceFilesystemNameFromVolumeId sourceVolId
      if r.err.isSome || !r.found then return .error sourceVolumeNotFoundError
      else if getFSNameFromRequest req ≠ [] ∧ sourceVolFsName ≠ getFSNameFromRequest req then
        return .error (.status .invalidArgument otherFilesystemText)
      else
        return .ok { snapshotVolume req config sourceVolFsName sourceVol.innerPath (some client) with
          srcVolume := some ⟨sourceVol.id, sourceVol.snapshotName, sourceVol.snapshotAccessPoint⟩ }

/-- The volume that a request asks for, before its parameters are read. A source message without a
source makes the driver look into a source snapshot that the volume does not have. -/
def newVolumeForRequest (req : CreateVolumeRequest) (config : DriverConfig) :
    M (Except Err Volume) := do
  match req.contentSource with
  | some (.snapshot snapshotId) => newVolumeForCreateFromSnapshotRequest req snapshotId config
  | some (.volume volumeId) => newVolumeForCloneVolumeRequest req volumeId config
  | none => newVolumeForBlankVolumeRequest req config.dynamicVolPath config
  | some .undefined =>
    match ← newVolumeForBlankVolumeRequest req config.dynamicVolPath config with
    | .error e => return .error e
    | .ok _ => die "nil source snapshot"

def volumeParametersError : Err :=
  .status .internal "Could not obtain volume parameters from request"

def newVolumeFromControllerCreateRequest (req : CreateVolumeRequest) (config : DriverConfig) :
    M (Except Err Volume) := do
  match ← newVolumeForRequest req config with
  | .error e => return .error e
  | .ok volume =>
    match ← volume.initMountOptions.obtainRequestParams config req.params with
    | none => return .error volumeParametersError
    | some volume =>
      let volume ← volume.enrichWithEncryptionParams config
      return .ok volume.pruneUnsupportedMountOptions

end CsiWekafs
