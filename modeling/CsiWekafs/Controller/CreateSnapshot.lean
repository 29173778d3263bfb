import CsiWekafs.Snapshot.Create
import CsiWekafs.Volume.FromId

namespace CsiWekafs

open Prog

/-- A snapshot as the driver reports it. -/
structure CsiSnapshot where
  snapshotId : Str := []
  sourceVolumeId : Str := []
  readyToUse : Bool := false

/-- Asks for the snapshot once more. One that is gone is looked into all the same. -/
def SnapshotOfVolume.getCsiSnapshot (s : SnapshotOfVolume) (config : DriverConfig) : M CsiSnapshot := do
  match ← s.getObject config with
  | (.error _, _) => return {}
  | (.ok none, _) => die "nil snapshot object"
  | (.ok (some snapObj), s) => return ⟨s.id, s.sourceVolume.id, !snapObj.isRemoving⟩

structure CreateSnapshotRequest where
  sourceVolumeId : Str
  name : Str

def noSourceVolumeText : Str := "Cannot create snapshot without specifying SourceVolumeId"

def noSnapNameText : Str := "Cannot create snapshot without snapName"

def invalidSourceVolumeText (srcVolumeId : Str) : Str :=
  "Invalid sourceVolumeId " ++ srcVolumeId ++ "\n"

def sourceVolumeCheckText (id : Str) : Str :=
  "Failed to check for existence of source volume " ++ id

def sourceVolumeMissingText (id : Str) : Str := "Could not find source volume " ++ id

/-- The source volume has to be there. The errors of the snapshot itself are passed on as they are. -/
def ControllerServer.createSnapshot (config : DriverConfig) (req : CreateSnapshotRequest) :
    M (Except Err CsiSnapshot) := do
  match ← ask .acquireSemaphore with
  | .error _ => return .error (controllerError .unavailable tooManyRequestsText)
  | .ok () =>
    if req.sourceVolumeId = [] then return .error (controllerError .invalidArgument noSourceVolumeText)
    else if req.name = [] then return .error (controllerError .invalidArgument noSnapNameText)
    else
      match ← ask .getClientFromSecrets with
      | .error e => return .error (controllerError .internal (clientInitText e))
      | .ok client =>
        match newVolumeFromId req.sourceVolumeId client config with
        | .error _ =>
          return .error
            (controllerError .invalidArgument (invalidSourceVolumeText req.sourceVolumeId))
        | .ok srcVolume =>
          let (r, srcVolume) ← srcVolume.exists config
          if r.err.isSome then
            return .error (controllerError .internal (sourceVolumeCheckText srcVolume.id))
          else if !r.found then
            return .error (controllerError .failedPrecondition (sourceVolumeMissingText srcVolume.id))
          else
            match ← srcVolume.createSnapshot config req.name with
            | .error e => return .error e
            | .ok s => return .ok (← s.getCsiSnapshot config)

end CsiWekafs
