import CsiWekafs.Controller.CreateVolume
import CsiWekafs.Storage.Capacities

namespace CsiWekafs

open Prog

/-- A request for another capacity. It may come without a capacity range. -/
structure ControllerExpandVolumeRequest where
  volumeId : Str
  requiredBytes : Option Int64

def ControllerExpandVolumeRequest.capacity (req : ControllerExpandVolumeRequest) : Int64 :=
  req.requiredBytes.getD (-1)

structure ControllerExpandVolumeResponse where
  capacityBytes : Int64
  nodeExpansionRequired : Bool

def noCapacityRangeText : Str := "Capacity range not provided"

def noVolumeIdError : Err := .status .invalidArgument "Volume ID not specified"

def expandClientText (e : Err) : Str :=
  "Failed to initialize Weka API client for the request " ++ e.error ++ "\n"

def volumeIdText (volumeId : Str) : Str := "Volume with id " ++ volumeId ++ " does not exist"

def expandFreeCapacityText (id : Str) : Str :=
  "ExpandVolume: Cannot obtain free capacity for volume " ++ id

def expandExceededText (capacity maxStorageCapacity : Int64) : Str :=
  "Requested capacity " ++ itoa capacity ++ " exceeds maximum allowed " ++ itoa maxStorageCapacity

def noVolumeText : Str := "Volume does not exist"

def volumeCapacityText (e : Err) : Str := "Could not get volume capacity: " ++ e.error

def updateVolumeText (e : Err) : Str := "Could not update volume: " ++ e.error

section

variable {α : Type} [AddCommGroup α] [LinearOrder α] [ToString α]

/-- The reservation for a volume that is there, where the driver enforces capacities. -/
def reserveExpansion (q : Int64 → α) (config : DriverConfig) (tracker : Option (CapacityTracker α))
    (v : Volume) (current capacity : Int64) :
    M (Except Err Unit × Volume × Option (CapacityTracker α)) :=
  if config.enforceDirVolTotalCapacity then
    validateAndReserveCapacity q config tracker v current capacity
  else return (.ok (), v, tracker)

/-- Writes the capacity where it is another one than the driver reads. -/
def resizeVolume (q : Int64 → α) (config : DriverConfig) (tracker : Option (CapacityTracker α))
    (v : Volume) (currentSize capacity : Int64) : M (Tracked α ControllerExpandVolumeResponse) := do
  if currentSize = capacity then return (.ok ⟨capacity, false⟩, tracker)
  let (reserved, v, tracker) ← reserveExpansion q config tracker v currentSize capacity
  match reserved with
  | .error e => return (.error e, tracker)
  | .ok () =>
    match ← v.updateCapacity config none capacity with
    | (.error e, _) => return (.error (controllerError .internal (updateVolumeText e)), tracker)
    | (.ok (), _) => return (.ok ⟨capacity, false⟩, tracker)

/-- The capacity of a volume that is there, or the error of the request. -/
def readCurrentSize (v : Volume) (config : DriverConfig) (capacity : Int64) :
    M (Except Err Int64 × Volume) := do
  match ← v.getMaxCapacity config with
  | (.error _, v) => return (.error (controllerError .unknown (expandFreeCapacityText v.id)), v)
  | (.ok maxStorageCapacity, v) =>
    if capacity > maxStorageCapacity then
      return (.error (controllerError .outOfRange (expandExceededText capacity maxStorageCapacity)), v)
    let (r, v) ← v.exists config
    match r.err, r.found with
    | some e, _ => return (.error (controllerError .notFound e.error), v)
    | none, false => return (.error (controllerError .internal noVolumeText), v)
    | none, true =>
      match ← v.getCapacity config with
      | (.error e, v) => return (.error (controllerError .internal (volumeCapacityText e)), v)
      | (.ok currentSize, v) => return (.ok currentSize, v)

def ControllerServer.controllerExpandVolume (q : Int64 → α) (config : DriverConfig)
    (tracker : Option (CapacityTracker α)) (req : ControllerExpandVolumeRequest) :
    M (Tracked α ControllerExpandVolumeResponse) := do
  match ← ask .acquireSemaphore with
  | .error _ => return (.error (controllerError .unavailable tooManyRequestsText), tracker)
  | .ok () =>
    if req.capacity = -1 then
      return (.error (controllerError .invalidArgument noCapacityRangeText), tracker)
    else if req.volumeId = [] then return (.error noVolumeIdError, tracker)
    else
      match ← ask .getClientFromSecrets with
      | .error e => return (.error (controllerError .internal (expandClientText e)), tracker)
      | .ok client =>
        match newVolumeFromId req.volumeId client config with
        | .error _ =>
          return (.error (controllerError .notFound (volumeIdText req.volumeId)), tracker)
        | .ok v =>
          match ← readCurrentSize v config req.capacity with
          | (.error e, _) => return (.error e, tracker)
          | (.ok currentSize, v) => resizeVolume q config tracker v currentSize req.capacity

end

end CsiWekafs
