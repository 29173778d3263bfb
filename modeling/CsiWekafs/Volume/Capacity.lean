import CsiWekafs.Volume.Params

namespace CsiWekafs

open Prog

def errFilesystemNotFound : Err := .status .failedPrecondition "underlying filesystem was not found"

def errNoXattrOnVolume : Err := .plain "xattr not set on volume"

def errBadXattrOnVolume : Err := .plain "could not parse xattr on volume"

def errFilesystemBiggerThanRequested : Err :=
  .plain "could not resize filesystem since it is already larger than requested size"

def notBoundToApiError (filesystemName : Str) : Err :=
  .status .failedPrecondition ("Could not bind volume " ++ filesystemName ++ " to API endpoint")

def freeCapacityOfFilesystemError (filesystemName : Str) (e : Err) : Err :=
  .status .failedPrecondition
    ("Could not obtain free capacity for filesystem " ++ filesystemName ++ ": " ++ e.error)

def preciseCapacityError (filesystemName : Str) (e : Err) : Err :=
  .status .failedPrecondition
    ("Could not obtain precise capacity for filesystem " ++ filesystemName ++ ": " ++ e.error)

def mountPathCapacityError (mountPath : Str) (e : Err) : Err :=
  .status .failedPrecondition
    ("Could not obtain free capacity on mount path " ++ mountPath ++ ": " ++ e.error)

def Volume.getFilesystemFreeSpaceByApi (v : Volume) : M (Except Err Int64 × Volume) := do
  if v.apiClient.isNone then return (.error (notBoundToApiError v.filesystemName), v)
  match ← v.getFilesystemObj true with
  | (.error e, v) => return (.error (freeCapacityOfFilesystemError v.filesystemName e), v)
  | (.ok none, v) => return (.error errFilesystemNotFound, v)
  | (.ok (some fsObj), v) =>
    match ← getFileSystemByUid fsObj.uid true with
    | .error e => return (.error (preciseCapacityError v.filesystemName e), v)
    | .ok fresh => return (.ok fresh.freeTotal, v)

/-- The space that is free on the filesystem. -/
def Volume.getFilesystemFreeSpace (v : Volume) (config : DriverConfig) :
    M (Except Err Int64 × Volume) :=
  if v.apiClient.isSome then v.getFilesystemFreeSpaceByApi
  else v.withMount config .error orUnmountError fun v => do
    match ← ask (.statfs v.mountPath) with
    | .error e => return (.error (mountPathCapacityError v.mountPath (.os e)), v)
    | .ok maxCapacity => return (.ok maxCapacity, v)

def existenceCheckError : Err := .status .internal "Failed to check for existence of volume"

def freeCapacityOnClusterError (id clusterName : Str) (e : Err) : Err :=
  .status .failedPrecondition ("Could not obtain free capacity for filesystem " ++ id ++ " on cluster " ++
    clusterName ++ ": " ++ e.error)

/-- The space that is free on the cluster. -/
def Volume.getFreeSpaceOnStorage (v : Volume) : M (Except Err Int64 × Volume) := do
  match ← v.fileSystemExists with
  | (.error _, v) => return (.error existenceCheckError, v)
  | (.ok _, v) =>
    match v.apiClient with
    | none => return (.error (notBoundToApiError v.filesystemName), v)
    | some client =>
      match ← getFreeCapacity with
      | .error e => return (.error (freeCapacityOnClusterError v.id client.clusterName e), v)
      | .ok maxCapacity => return (.ok maxCapacity.toInt64, v)

/-- The size of the filesystem, zero where there is none. -/
def Volume.getFilesystemTotalCapacity (v : Volume) : M (Except Err Int64 × Volume) := do
  match ← v.getFilesystemObj false with
  | (.error e, v) => return (.error (freeCapacityOfFilesystemError v.filesystemName e), v)
  | (.ok none, v) => return (.ok 0, v)
  | (.ok (some fsObj), v) => return (.ok fsObj.totalCapacity, v)

def Volume.getMaxCapacity (v : Volume) (config : DriverConfig) : M (Except Err Int64 × Volume) := do
  if v.apiClient.isNone then v.getFilesystemFreeSpace config
  else
    match ← v.getFilesystemTotalCapacity with
    | (.error e, v) => return (.error e, v)
    | (.ok currentFsSize, v) =>
      if !config.allowAutoFsExpansion && !v.isFilesystem then return (.ok currentFsSize, v)
      else
        match ← v.getFreeSpaceOnStorage with
        | (.error e, v) => return (.error e, v)
        | (.ok maxFreeCapacity, v) => return (.ok (maxFreeCapacity + currentFsSize), v)

def Volume.getInodeIdFromApi (v : Volume) : M (Except Err UInt64 × Volume) := do
  match ← v.getFilesystemObj true with
  | (.error e, v) => return (.error e, v)
  | (.ok none, v) => return (.error errFilesystemNotFound, v)
  | (.ok (some fsObj), v) => return (← resolvePathToInode fsObj v.getRelativePath, v)

def Volume.getInodeId (v : Volume) (config : DriverConfig) : M (Except Err UInt64 × Volume) :=
  match v.apiClient with
  | none => die "nil API client"
  | some client =>
    if client.supportsResolvePathToInode then v.getInodeIdFromApi
    else v.withMount config .error orUnmountError fun v => do
      match ← ask (.stat v.getFullPath) with
      | .error e => return (.error (.os e), v)
      | .ok (_, inode) => return (.ok inode, v)

/-- The quota of the volume. Without a filesystem object the driver looks into nothing. -/
def Volume.getQuota (v : Volume) (config : DriverConfig) : M (Except Err Quota × Volume) := do
  match ← v.getFilesystemObj true with
  | (.error e, v) => return (.error e, v)
  | (.ok fsObj, v) =>
    match ← v.getInodeId config with
    | (.error e, v) => return (.error e, v)
    | (.ok inodeId, v) =>
      match fsObj with
      | none => die "nil filesystem object"
      | some fsObj => return (← getQuotaByFileSystemAndInode fsObj inodeId, v)

def Volume.getSizeFromQuota (v : Volume) (config : DriverConfig) : M (Except Err UInt64 × Volume) := do
  match ← v.getQuota config with
  | (.error e, v) => return (.error e, v)
  | (.ok q, v) => return (.ok q.getCapacityLimit, v)

def xattrCapacity : Str := "user.weka_capacity"

def xattrVolumeName : Str := "user.weka_k8s_volname"

def Volume.getSizeFromXattr (v : Volume) (config : DriverConfig) : M (Except Err UInt64 × Volume) :=
  v.withMount config .error orUnmountError fun v => do
    match ← ask (.getXattr v.getFullPath xattrCapacity) with
    | .error _ => return (.error errNoXattrOnVolume, v)
    | .ok capacityString =>
      match parseInt capacityString 10 64 with
      | none => return (.error errBadXattrOnVolume, v)
      | some capacity => return (.ok (Int64.ofInt capacity).toUInt64, v)

/-- The capacity that is recorded for a volume: its quota, or an attribute of its directory. -/
def Volume.getCapacityFromQuota (v : Volume) (config : DriverConfig) :
    M (Except Err Int64 × Volume) :=
  v.withMount config .error orUnmountError fun v => do
    let fromXattr (v : Volume) : M (Except Err Int64 × Volume) := do
      match ← v.getSizeFromXattr config with
      | (.error e, v) => return (.error e, v)
      | (.ok size, v) => return (.ok size.toInt64, v)
    if v.apiClient.any (·.supportsQuotaDirectoryAsVolume) && !config.isInDevMode then
      match ← v.getSizeFromQuota config with
      | (.ok size, v) => return (.ok size.toInt64, v)
      | (.error _, v) => fromXattr v
    else fromXattr v

def Volume.getCapacity : Volume → DriverConfig → M (Except Err Int64 × Volume) :=
  Volume.getCapacityFromQuota

def Volume.getCapacityFromFsSize (v : Volume) : M (Except Err Int64 × Volume) := do
  match ← v.getFilesystemObj false with
  | (.error e, v) => return (.error e, v)
  | (.ok none, v) => return (.error errFilesystemNotFound, v)
  | (.ok (some fsObj), v) => return (.ok fsObj.totalCapacity, v)

/-- The thin SSD value of a filesystem that grows. None where the old size is zero, which the division
does not survive. -/
def scaleThinSsdOnExpand (oldTotal oldVal newTotal : Int64) (keepRatio : Bool) : Option Int64 :=
  if !keepRatio then some oldVal
  else if oldTotal = 0 then none
  else some (Int64.ofInt (oldVal.toInt * newTotal.toInt / oldTotal.toInt))

/-- Asks for a new size. A thin filesystem keeps its SSD settings only where they are sent along. -/
def Volume.resizeFilesystem (v : Volume) (config : DriverConfig) (capacity : Int64) :
    M (Except Err Unit × Volume) := do
  match ← v.getFilesystemObj false with
  | (.error e, v) => return (.error e, v)
  | (.ok none, v) => return (.error errFilesystemNotFound, v)
  | (.ok (some fsObj), v) =>
    if fsObj.totalCapacity > capacity then return (.error errFilesystemBiggerThanRequested, v)
    else
      let scale (value : Int64) : Option Int64 :=
        scaleThinSsdOnExpand fsObj.totalCapacity value capacity config.keepThinProvisioningRatioOnExpand
      let send (minSsd maxSsd : Option Int64) : M (Except Err Unit × Volume) := do
        let (r, fsObj) ← updateFileSystem ⟨fsObj.uid, some capacity, minSsd, maxSsd⟩ fsObj
        return (r, { v with fileSystemObject := some fsObj })
      if fsObj.isThinlyProvisioned then
        match scale fsObj.thinProvisioningMinSsd, scale fsObj.thinProvisioningMaxSsd with
        | some minSsd, some maxSsd => send (some minSsd) (some maxSsd)
        | _, _ => die "division by zero"
      else send none none

def currentCapacityError (id : Str) : Err :=
  .status .failedPrecondition ("Failed to get current volume capacity for volume " ++ id)

def filesystemTooSmallError (filesystemName : Str) : Err :=
  .status .failedPrecondition ("Not allowed to expand volume of " ++ volumeTypeUnified ++
    " as underlying filesystem " ++ filesystemName ++ " is too small")

def filesystemExpansionText : Str := "Could not expand filesystem to support new volume capacity"

/-- Grows the filesystem where the volume does not fit in it and the driver is allowed to. -/
def Volume.ensureSufficientFsSizeOnUpdateCapacity (v : Volume) (config : DriverConfig)
    (capacityLimit : Int64) : M (Except Err Unit × Volume) := do
  if v.apiClient.isNone then return (.ok (), v)
  match ← v.getCapacityFromFsSize with
  | (.error _, v) => return (.error (currentCapacityError v.id), v)
  | (.ok currentFsCapacity, v) =>
    if currentFsCapacity < capacityLimit then
      if (v.isOnSnapshot || v.hasInnerPath) && !config.allowAutoFsExpansion then
        return (.error (filesystemTooSmallError v.filesystemName), v)
      else
        match ← v.resizeFilesystem config capacityLimit with
        | (.error _, v) => return (.error (.status .failedPrecondition filesystemExpansionText), v)
        | (.ok (), v) => return (.ok (), v)
    else return (.ok (), v)

def noInodeForQuotaError : Err := .plain "cannot set quota, could not find inode ID of the volume"

def Volume.setQuota (v : Volume) (config : DriverConfig) (enforceCapacity : Option Bool)
    (capacityLimit : UInt64) : M (Except Err Unit × Volume) := do
  let quotaType : QuotaType := if enforceCapacity = some false then .soft else .hard
  match ← v.getFilesystemObj true with
  | (.error e, v) => return (.error e, v)
  | (.ok fsObj, v) =>
    match ← v.getInodeId config with
    | (.error _, v) => return (.error noInodeForQuotaError, v)
    | (.ok inodeId, v) =>
      match fsObj with
      | none => die "nil filesystem object"
      | some fsObj =>
        return (← createQuota (newQuotaCreateRequest fsObj inodeId quotaType capacityLimit), v)

def Volume.updateCapacityQuota (v : Volume) (config : DriverConfig) (enforceCapacity : Option Bool)
    (capacityLimit : Int64) : M (Except Err Unit × Volume) := do
  match ← v.getInodeId config with
  | (.error e, v) => return (.error e, v)
  | (.ok inodeId, v) =>
    match ← v.getFilesystemObj true with
    | (.error e, v) => return (.error e, v)
    | (.ok none, _) => die "nil filesystem object"
    | (.ok (some fsObj), v) =>
      match ← getQuotaByFileSystemAndInode fsObj inodeId with
      | .ok _ => v.setQuota config enforceCapacity capacityLimit.toUInt64
      | .error .objectNotFound => v.setQuota config enforceCapacity capacityLimit.toUInt64
      | .error e => return (.error (.status .internal e.error), v)

def xattrError (key value : Str) (e : Err) : Err :=
  .status .internal ("failed to update volume attribute " ++ key ++ ": " ++ value ++ ", " ++ e.error)

def updateXattrs (volPath : Str) : List (Str × Str) → M (Except Err Unit)
  | [] => return .ok ()
  | (key, value) :: attrs => do
    match ← ask (.setXattr volPath key value) with
    | .error e => return .error (xattrError key value (.os e))
    | .ok () => updateXattrs volPath attrs

def setVolumeProperties (volPath : Str) (capacity : Int64) (volName : Str) : M (Except Err Unit) :=
  updateXattrs volPath
    ((if volName ≠ [] then [(xattrVolumeName, volName)] else []) ++
      (if capacity > 0 then [(xattrCapacity, itoa capacity)] else []))

def Volume.isMounted (v : Volume) : M Bool :=
  if v.mountPath = [] then return false else ask (.pathIsWekaMount v.mountPath)

/-- Mounts the filesystem only where it is not mounted yet. -/
def Volume.updateCapacityXattr (v : Volume) (config : DriverConfig) (capacityLimit : Int64) :
    M (Except Err Unit × Volume) := do
  let set (v : Volume) : M (Except Err Unit × Volume) := do
    return (← setVolumeProperties v.getFullPath capacityLimit v.innerPath, v)
  if ← v.isMounted then set v
  else v.withMount config .error orUnmountError set

/-- The capacity of a volume is a quota where the cluster and the way of mounting allow it. -/
def Volume.usesQuota (v : Volume) (config : DriverConfig) : Bool :=
  !config.isInDevMode && v.apiClient.any fun client =>
    client.supportsQuotaDirectoryAsVolume &&
      (client.supportsAuthenticatedMounts || client.organization = "Root".toList)

def Volume.updateCapacity (v : Volume) (config : DriverConfig) (enforceCapacity : Option Bool)
    (capacityLimit : Int64) : M (Except Err Unit × Volume) := do
  match ← v.ensureSufficientFsSizeOnUpdateCapacity config capacityLimit with
  | (.error e, v) => return (.error e, v)
  | (.ok (), v) =>
    if v.usesQuota config then v.updateCapacityQuota config enforceCapacity capacityLimit
    else v.updateCapacityXattr config capacityLimit

/-- Sets the permissions of the volume's directory, and its owner where one is requested. -/
def Volume.updateParams (v : Volume) (config : DriverConfig) : M (Except Err Unit × Volume) :=
  v.withMount config .error orUnmountError fun v => do
    match ← ask (.chmod v.getFullPath v.permissions) with
    | .error e => return (.error (.os e), v)
    | .ok () =>
      if v.ownerUid + v.ownerGid ≠ 0 then
        return (osErr (← ask (.chown v.getFullPath v.ownerUid v.ownerGid)), v)
      else return (.ok (), v)

end CsiWekafs
