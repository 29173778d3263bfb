import CsiWekafs.Validate
import CsiWekafs.Volume.Basic

namespace CsiWekafs

open Prog

/-- The snapshot that an ID stands for. -/
def newSnapshotFromId (snapshotId : Str) (apiClient : Option ApiClient) (config : DriverConfig) :
    Except Err Snapshot :=
  match validateSnapshotId snapshotId with
  | .error e => .error e
  | .ok () => .ok {
      id := snapshotId
      filesystemName := sliceFilesystemNameFromSnapshotId snapshotId
      snapshotNameHash := sliceSnapshotNameHashFromSnapshotId snapshotId
      snapshotIntegrityId := sliceSnapshotIntegrityIdFromSnapshotId snapshotId
      snapshotName := config.snapshotPrefix ++ sliceSnapshotNameHashFromSnapshotId snapshotId
      innerPath := sliceInnerPathFromSnapshotId snapshotId
      apiClient := apiClient }

def Snapshot.hasInnerPath (s : Snapshot) : Bool := s.innerPath ≠ []

def trimPrefix (s lead : Str) : Str := if lead.isPrefixOf s then s.drop lead.length else s

def snapshotNotBoundError (id : Str) : Err :=
  .status .failedPrecondition ("Could not bind snapshot " ++ id ++ " to API endpoint")

/-- What is found under the name without the prefix counts only where its access point is the
integrity ID. Its name is then the snapshot's. -/
def Snapshot.adopt (s : Snapshot) (snap : WekaSnapshot) :
    Except Err (Option WekaSnapshot) × Snapshot :=
  if s.snapshotIntegrityId = snap.accessPoint then
    (.ok (some snap), { s with snapshotName := snap.name })
  else (.ok none, s)

/-- The Weka snapshot of that name, or of the name without the prefix. The empty object that comes with
the second failure to find one is looked at like one that was found. -/
def Snapshot.getObject (s : Snapshot) (config : DriverConfig) :
    M (Except Err (Option WekaSnapshot) × Snapshot) := do
  if s.apiClient.isNone then return (.error (snapshotNotBoundError s.id), s)
  match ← getSnapshotByName s.snapshotName with
  | .ok snap => return (.ok (some snap), s)
  | .error .objectNotFound =>
    match ← getSnapshotByName (trimPrefix s.snapshotName config.snapshotPrefix) with
    | .ok snap => return s.adopt snap
    | .error .objectNotFound => return s.adopt {}
    | .error e => return (.error e, s)
  | .error e => return (.error e, s)

def snapshotNotMarkedError (snapshotName : Str) : Err :=
  .plain ("Snapshot " ++ snapshotName ++ " not marked for deletion but it should")

/-- A failure to ask for the snapshot ends the wait like its absence does. -/
def Snapshot.waitForSnapshotDeletion (s : Snapshot) (config : DriverConfig) :
    Nat → M (Except Err Unit)
  | 0 => return .ok ()
  | n + 1 => do
    match ← s.getObject config with
    | (.error _, _) => return .ok ()
    | (.ok none, _) => return .ok ()
    | (.ok (some snap), s) =>
      if snap.uid = nilUid then return .ok ()
      else if snap.isRemoving then s.waitForSnapshotDeletion config n
      else return .error (snapshotNotMarkedError s.snapshotName)

def Snapshot.delete (s : Snapshot) (config : DriverConfig) : M (Except Err Unit) := do
  match ← s.getObject config with
  | (.error .objectNotFound, _) => return .ok ()
  | (.error e, _) => return .error e
  | (.ok none, _) => return .ok ()
  | (.ok (some obj), s) =>
    if obj.uid = nilUid then return .ok ()
    else
      match ← deleteWekaSnapshot obj.uid with
      | .error (.api .badRequest _ _ _) => return .ok ()
      | .error e => return .error e
      | .ok () => s.waitForSnapshotDeletion config (← ask .pollBudget)

def toLower (s : Str) : Str := s.map Char.toLower

/-- The error of a controller call, in lower case. -/
def controllerError (code : Code) (text : Str) : Err := .status code (toLower text)

def tooManyRequestsText : Str := "Too many concurrent requests, please retry"

def noSnapshotIdText : Str := "Failed to delete snapshot, no ID specified"

def clientInitText (e : Err) : Str := "Failed to initialize Weka API client for the req " ++ e.error ++ "\n"

def snapshotInitText (snapshotId : Str) (e : Err) : Str :=
  "Failed to initialize snapshot from ID " ++ snapshotId ++ " " ++ e.error ++ "\n"

def snapshotDeleteText (snapshotId : Str) (e : Err) : Str :=
  "Failed to delete snapshot " ++ snapshotId ++ " " ++ e.error ++ "\n"

/-- An ID that is not valid is answered with success. -/
def ControllerServer.deleteSnapshot (config : DriverConfig) (snapshotId : Str) :
    M (Except Err Unit) := do
  match ← ask .acquireSemaphore with
  | .error _ => return .error (controllerError .unavailable tooManyRequestsText)
  | .ok () =>
    if snapshotId = [] then return .error (controllerError .invalidArgument noSnapshotIdText)
    match validateSnapshotId snapshotId with
    | .error _ => return .ok ()
    | .ok () =>
      match ← ask .getClientFromSecrets with
      | .error e => return .error (controllerError .internal (clientInitText e))
      | .ok client =>
        match newSnapshotFromId snapshotId client config with
        | .error e => return .error (controllerError .internal (snapshotInitText snapshotId e))
        | .ok existingSnap =>
          match ← existingSnap.delete config with
          | .error e => return .error (controllerError .internal (snapshotDeleteText snapshotId e))
          | .ok () => return .ok ()

end CsiWekafs
