import CsiWekafs.Capacity.Reserve
import CsiWekafs.Volume.Create
import CsiWekafs.Volume.FromRequest

namespace CsiWekafs

open Prog

def nameMissingError : Err := .status .invalidArgument "Name missing in request"

def capabilitiesMissingError : Err :=
  .status .invalidArgument "Volume Capabilities missing in request"

def blockAccessError : Err := .status .invalidArgument "Block accessType is unsupported"

/-- A source message holds one source at most, so the check for two of them never fires. -/
def checkCreateVolumeRequestSanity (req : CreateVolumeRequest) : Except Err Unit :=
  if req.name = [] then .error nameMissingError
  else if req.volumeCapabilities = [] then .error capabilitiesMissingError
  else if req.volumeCapabilities.any (·.block) then .error blockAccessError
  else .ok ()

def noApiSecretText : Str := "Could not obtain a valid API secret configuration for operation"

def filesystemAsVolumeText : Str :=
  "volume of type Filesystem is not supported on current version of " ++
    "Weka cluster. A version v3.13 and up is required "

/-- What only an API client can operate. Development mode goes on without one and looks into it. -/
def Volume.canBeOperated (v : Volume) (config : DriverConfig) : M (Except Err Unit) := do
  if v.isOnSnapshot || v.isFilesystem then
    match v.apiClient with
    | none =>
      if config.isInDevMode then die "nil API client" else return .error (.plain noApiSecretText)
    | some client =>
      if client.supportsFilesystemAsVolume then return .ok ()
      else return .error (.plain filesystemAsVolumeText)
  else return .ok ()

/-- Whether a volume exists, whether its capacity is the requested one, and the error of either
question. -/
structure VolumeMatch where
  volExists : Bool
  matchesCapacity : Bool
  err : Option Err

def volumeExistsAndMatchesCapacity (v : Volume) (config : DriverConfig) (capacity : Int64) :
    M (VolumeMatch × Volume) := do
  let (r, v) ← v.exists config
  if r.err.isSome || !r.found then return (⟨r.found, false, r.err⟩, v)
  else
    match ← v.getCapacity config with
    | (.error e, v) => return (⟨true, false, some e⟩, v)
    | (.ok reportedCapacity, v) => return (⟨r.found, reportedCapacity = capacity, none⟩, v)

def topologyLabelWekaGlobal : Str := "topology.csi.weka.io/global"

def topologyKeys : List Str := ["topology.kubernetes.io/zone".toList, "topology.kubernetes.io/region".toList]

/-- The driver's own labels, with the zone and the region of each topology that is asked for. -/
def generateAccessibleTopology (config : DriverConfig) (r : Option TopologyRequirement) :
    List Params :=
  let baseSegments : Params := (AList.insert topologyLabelWekaGlobal "true".toList ∅).insert
    ("topology." ++ config.driverName ++ "/accessible") "true".toList
  let requested := match r with
    | none => []
    | some r => if r.requisite = [] then r.preferred else r.requisite
  if requested = [] then [baseSegments]
  else requested.map fun segments => segments.entries.foldl
    (fun merged e => if e.1 ∈ topologyKeys then merged.insert e.1 e.2 else merged) baseSegments

structure CreateVolumeResponse where
  volumeId : Str
  capacityBytes : Int64
  volumeContext : Params
  contentSource : Option VolumeContentSource
  accessibleTopology : List Params

def Volume.getCsiContentSource (v : Volume) : Option VolumeContentSource :=
  match v.srcVolume, v.srcSnapshot with
  | some srcVolume, _ => some (.volume srcVolume.id)
  | none, some srcSnapshot => some (.snapshot srcSnapshot.id)
  | none, none => none

def createVolumeResponse (req : CreateVolumeRequest) (config : DriverConfig) (volumeContext : Params)
    (v : Volume) : CreateVolumeResponse where
  volumeId := v.id
  capacityBytes := req.requiredBytes
  volumeContext := volumeContext
  contentSource := v.getCsiContentSource
  accessibleTopology := generateAccessibleTopology config req.accessibilityRequirements

/-- Writes the mount options and the driver's version into the request's parameters. A nil map takes
no entries. -/
def writeVolumeContext (req : CreateVolumeRequest) (config : DriverConfig) (v : Volume) : M Params :=
  match req.parameters with
  | none => die "assignment to entry in nil map"
  | some params =>
    return (params.insert ("mountOptions" : Str) v.mountOptions.asVolumeContext).insert
      ("provisionedByCsiVersion" : Str) config.csiVersion

def existenceText (id : Str) (e : Err) : Str :=
  "Could not check if volume " ++ id ++ " exists: " ++ e.error

def otherCapacityText : Str := "Volume with same name and different capacity already exists"

section

variable {α : Type} [AddCommGroup α] [LinearOrder α] [ToString α]

/-- What a controller call leaves of the capacity tracker. -/
abbrev Tracked (α β : Type) : Type := Except Err β × Option (CapacityTracker α)

/-- The error of a volume that could not be made. -/
def creationError : Err → Err
  | .mountPermissionDenied => controllerError .permissionDenied Err.mountPermissionDenied.error
  | e => controllerError .internal e.error

/-- The reservation for a new volume, where the driver enforces capacities. -/
def reserveNewVolume (q : Int64 → α) (config : DriverConfig) (tracker : Option (CapacityTracker α))
    (v : Volume) (capacity : Int64) :
    M (Except Err Unit × Volume × Option (CapacityTracker α)) :=
  if config.enforceDirVolTotalCapacity then
    validateAndReserveCapacity q config tracker v 0 capacity
  else return (.ok (), v, tracker)

/-- Makes a volume that is not there yet. A reservation that is made for it stays, whatever comes of
the creation. -/
def createNewVolume (q : Int64 → α) (req : CreateVolumeRequest) (config : DriverConfig)
    (tracker : Option (CapacityTracker α)) (volumeContext : Params) (v : Volume) :
    M (Tracked α CreateVolumeResponse) := do
  let (reserved, v, tracker) ← reserveNewVolume q config tracker v req.requiredBytes
  match reserved with
  | .error e => return (.error e, tracker)
  | .ok () =>
    match ← v.create config req.requiredBytes with
    | (.error e, _) => return (.error (creationError e), tracker)
    | (.ok (), v) => return (.ok (createVolumeResponse req config volumeContext v), tracker)

/-- Records the capacity and the parameters of a volume that an earlier request left without. -/
def completeVolume (req : CreateVolumeRequest) (config : DriverConfig) (volumeContext : Params)
    (v : Volume) : M (Except Err CreateVolumeResponse) := do
  match ← v.updateCapacity config (some v.enforceCapacity) req.requiredBytes with
  | (.error e, _) => return .error (controllerError .internal e.error)
  | (.ok (), v) =>
    match ← v.updateParams config with
    | (.error e, _) => return .error (controllerError .internal e.error)
    | (.ok (), v) => return .ok (createVolumeResponse req config volumeContext v)

/-- Looks for the volume first: one with the requested capacity is the answer, one with another
capacity is an error, and one without a capacity is completed. -/
def createOperatedVolume (q : Int64 → α) (req : CreateVolumeRequest) (config : DriverConfig)
    (tracker : Option (CapacityTracker α)) (v : Volume) : M (Tracked α CreateVolumeResponse) := do
  let (m, v) ← volumeExistsAndMatchesCapacity v config req.requiredBytes
  let volumeContext ← writeVolumeContext req config v
  match m.volExists, m.err with
  | false, some e => return (.error (controllerError .internal (existenceText v.id e)), tracker)
  | true, none =>
    if m.matchesCapacity then
      return (.ok (createVolumeResponse req config volumeContext v), tracker)
    else return (.error (controllerError .alreadyExists otherCapacityText), tracker)
  | true, some _ => return (← completeVolume req config volumeContext v, tracker)
  | false, none => createNewVolume q req config tracker volumeContext v

def ControllerServer.createVolume (q : Int64 → α) (config : DriverConfig)
    (tracker : Option (CapacityTracker α)) (req : CreateVolumeRequest) :
    M (Tracked α CreateVolumeResponse) := do
  match ← ask .acquireSemaphore with
  | .error _ => return (.error (controllerError .unavailable tooManyRequestsText), tracker)
  | .ok () =>
    match checkCreateVolumeRequestSanity req with
    | .error e => return (.error e, tracker)
    | .ok () =>
      match ← newVolumeFromControllerCreateRequest req config with
      | .error e => return (.error e, tracker)
      | .ok v =>
        match ← v.canBeOperated config with
        | .error e => return (.error (controllerError .invalidArgument e.error), tracker)
        | .ok () => createOperatedVolume q req config tracker v

end

theorem runs_writeVolumeContext {req : CreateVolumeRequest} {config : DriverConfig} {v : Volume}
    {t : List Event} {ctx : Params} (h : Runs (writeVolumeContext req config v) t ctx) : t = [] := by
  unfold writeVolumeContext at h
  split at h
  next => exact (not_runs_die h).elim
  next => exact (runs_pure.mp h).1

theorem runs_canBeOperated {v : Volume} {config : DriverConfig} {t : List Event}
    {r : Except Err Unit} (h : Runs (v.canBeOperated config) t r) : t = [] := by
  unfold Volume.canBeOperated at h
  split at h
  next =>
    split at h
    next =>
      split at h
      next => exact (not_runs_die h).elim
      next => exact (runs_pure.mp h).1
    next =>
      split at h
      next => exact (runs_pure.mp h).1
      next => exact (runs_pure.mp h).1
  next => exact (runs_pure.mp h).1

end CsiWekafs
