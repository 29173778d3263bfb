import CsiWekafs.Volume.Basic

namespace CsiWekafs

open Prog

/-- Asks for the filesystem of a volume by its name and keeps it in the volume's cache. -/
def Volume.fetchFilesystemObj (v : Volume) : M (Except Err (Option FileSystem) × Volume) := do
  if v.apiClient.isNone then
    return (.error (.plain "cannot get object of API-unbound volume"), v)
  match ← getFileSystemByName v.filesystemName with
  | .error .objectNotFound => return (.ok none, v)
  | .error e => return (.error e, v)
  | .ok fsObj => return (.ok (some fsObj), { v with fileSystemObject := some fsObj })

/-- The filesystem of a volume, from the volume's cache or by its name. None where it is not found. -/
def Volume.getFilesystemObj (v : Volume) (fromCache : Bool) :
    M (Except Err (Option FileSystem) × Volume) :=
  match v.fileSystemObject with
  | some fsObj =>
    if fromCache && !fsObj.isRemoving then return (.ok (some fsObj), v) else v.fetchFilesystemObj
  | none => v.fetchFilesystemObj

theorem runs_fetchFilesystemObj {v v' : Volume} {t : List Event}
    {r : Except Err (Option FileSystem)} (h : Runs v.fetchFilesystemObj t (r, v')) :
    (v.apiClient = none ∧ t = [] ∧ (∃ e, r = .error e) ∧ v' = v) ∨
      ∃ o, Runs (getFileSystemByName v.filesystemName) t o ∧
        ((o = .error .objectNotFound ∧ r = .ok none ∧ v' = v) ∨
          (∃ e, o = .error e ∧ r = .error e ∧ v' = v) ∨
          ∃ fsObj, o = .ok fsObj ∧ r = .ok (some fsObj) ∧
            v' = { v with fileSystemObject := some fsObj }) := by
  unfold Volume.fetchFilesystemObj at h
  split at h
  next hn =>
    simp only [runs_pure, Prod.mk.injEq] at h
    exact Or.inl ⟨by simpa using hn, h.1, ⟨_, h.2.1⟩, h.2.2⟩
  next =>
    obtain ⟨o, t₁, t₂, ho, h₂, rfl⟩ := runs_bind.mp h
    split at h₂ <;> simp only [runs_pure, Prod.mk.injEq] at h₂ <;> obtain ⟨rfl, rfl, rfl⟩ := h₂
    · exact Or.inr ⟨_, by simpa using ho, Or.inl ⟨rfl, rfl, rfl⟩⟩
    · exact Or.inr ⟨_, by simpa using ho, Or.inr (Or.inl ⟨_, rfl, rfl, rfl⟩)⟩
    · exact Or.inr ⟨_, by simpa using ho, Or.inr (Or.inr ⟨_, rfl, rfl, rfl⟩)⟩

theorem runs_getFilesystemObj {v v' : Volume} {fromCache : Bool} {t : List Event}
    {r : Except Err (Option FileSystem)} (h : Runs (v.getFilesystemObj fromCache) t (r, v')) :
    (∃ fsObj, v.fileSystemObject = some fsObj ∧ fsObj.isRemoving = false ∧ fromCache = true ∧
        t = [] ∧ r = .ok (some fsObj) ∧ v' = v) ∨
      Runs v.fetchFilesystemObj t (r, v') := by
  unfold Volume.getFilesystemObj at h
  split at h
  next fsObj hc =>
    split at h
    next hf =>
      simp only [Bool.and_eq_true, Bool.not_eq_true'] at hf
      simp only [runs_pure, Prod.mk.injEq] at h
      exact Or.inl ⟨fsObj, hc, hf.2, hf.1, h.1, h.2.1, h.2.2⟩
    next => exact Or.inr h
  next => exact Or.inr h

theorem runs_getFilesystemObj_found {v v' : Volume} {fromCache : Bool} {t : List Event}
    {fsObj : FileSystem} (h : Runs (v.getFilesystemObj fromCache) t (.ok (some fsObj), v')) :
    v' = { v with fileSystemObject := some fsObj } := by
  rcases runs_getFilesystemObj h with ⟨fs, hc, -, -, -, hr, rfl⟩ | h
  · cases hr
    rw [← hc]
  · rcases runs_fetchFilesystemObj h with ⟨-, -, ⟨_, hr⟩, -⟩ | ⟨o, -, h⟩
    · cases hr
    · rcases h with ⟨-, hr, -⟩ | ⟨_, -, hr, -⟩ | ⟨fs, -, hr, rfl⟩
      · cases hr
      · cases hr
      · cases hr
        rfl

/-- The snapshot of that name, where the API client is bound. -/
def snapshotObjByName (apiClient : Option ApiClient) (snapshotName : Str) :
    M (Except Err (Option WekaSnapshot)) := do
  if apiClient.isNone then
    return .error (.plain "cannot get object of API-unbound snapshot")
  match ← getSnapshotByName snapshotName with
  | .error .objectNotFound => return .ok none
  | .error e => return .error e
  | .ok snapObj => return .ok (some snapObj)

def Volume.getSnapshotObj (v : Volume) (fromCache : Bool) : M (Except Err (Option WekaSnapshot)) :=
  match v.snapshotObject with
  | some snapObj =>
    if fromCache then return .ok (some snapObj) else snapshotObjByName v.apiClient v.snapshotName
  | none => snapshotObjByName v.apiClient v.snapshotName

/-- Mounts the filesystem of a volume under the controller's options and the volume's own. -/
def Volume.mountUnderlyingFS (v : Volume) (config : DriverConfig) :
    M (Except Err Unit × Volume) := do
  let mountOpts := config.getDefaultMountOptions.merge v.mountOptions config.mutuallyExclusiveOptions
  match ← ask (.mountWithOptions v.filesystemName mountOpts) with
  | .error e => return (.error e, v)
  | .ok mount => return (.ok (), { v with mountPath := mount })

/-- Runs a body on the mounted filesystem. The unmount comes last and its error counts only where
the body has none. -/
def Volume.withMount {β : Type} (v : Volume) (config : DriverConfig) (onMountError : Err → β)
    (onUnmountError : Err → β → β) (body : Volume → M (β × Volume)) : M (β × Volume) := do
  match ← v.mountUnderlyingFS config with
  | (.error e, v) => return (onMountError e, v)
  | (.ok (), v) =>
    let mount := v.mountPath
    let (r, v) ← body v
    match ← ask (.unmount mount) with
    | .ok () => return (r, { v with mountPath := [] })
    | .error e => return (onUnmountError e r, { v with mountPath := [] })

def orUnmountError {α : Type} (e : Err) : Except Err α → Except Err α
  | .ok _ => .error e
  | .error e' => .error e'

def osErr {α : Type} : Except Errno α → Except Err α
  | .ok a => .ok a
  | .error e => .error (.os e)

/-- A path exists if it can be opened. A path that is not a directory ends the driver. -/
def pathExists (path : Str) : M Bool := do
  match ← ask (.openDir path) with
  | .error _ => return false
  | .ok true => return true
  | .ok false => die "A file was found instead of directory in mount point. Please contact support"

def pathIsDirectory (path : Str) : M (Except Err Unit) := do
  match ← ask (.stat path) with
  | .error .notExist => return .error (.status .notFound ("volume path " ++ path ++ " not found"))
  | .error _ => die "nil file info"
  | .ok (isDir, _) =>
    if isDir then return .ok ()
    else return .error (.status .internal ("volume path " ++ path ++ " is not a valid directory"))

def Volume.fileSystemExists (v : Volume) : M (Except Err Bool × Volume) := do
  match ← v.getFilesystemObj false with
  | (.error e, v) => return (.error e, v)
  | (.ok none, v) => return (.ok false, v)
  | (.ok (some fsObj), v) => return (.ok (fsObj.uid ≠ nilUid && !fsObj.isRemoving), v)

def Volume.snapshotExists (v : Volume) : M (Except Err Bool) := do
  match ← v.getSnapshotObj false with
  | .error e => return .error e
  | .ok none => return .ok false
  | .ok (some snapObj) => return .ok (snapObj.uid ≠ nilUid && !snapObj.isRemoving)

/-- In development mode directories stand in for snapshots. -/
def Volume.mimicDirectoryStructureForDebugMode (v : Volume) (config : DriverConfig) :
    M (Except Err Unit × Volume) :=
  v.withMount config .error orUnmountError fun v => do
    return (osErr (← ask (.mkdirAll v.getFullPath)), v)

/-- The two results of a Go function that reports existence. -/
structure ExistsResult where
  found : Bool
  err : Option Err

def Volume.innerPathExists (v : Volume) (config : DriverConfig) : M (ExistsResult × Volume) :=
  v.withMount config (fun e => ⟨false, some e⟩) (fun e r => { r with err := r.err.or (some e) })
    fun v => do
      if !(← pathExists v.getFullPath) then return (⟨false, none⟩, v)
      match ← pathIsDirectory v.getFullPath with
      | .error e => return (⟨false, some (.status .internal e.error)⟩, v)
      | .ok () => return (⟨true, none⟩, v)

/-- A volume exists if its filesystem, its snapshot and its inner path do. -/
def Volume.exists (v : Volume) (config : DriverConfig) : M (ExistsResult × Volume) := do
  if (v.isOnSnapshot || v.isFilesystem) && v.apiClient.isNone then return (⟨false, none⟩, v)
  if v.isFilesystem then
    match ← v.fileSystemExists with
    | (.error e, v) => return (⟨false, some e⟩, v)
    | (.ok found, v) => return (⟨found, none⟩, v)
  let onPath (v : Volume) : M (ExistsResult × Volume) :=
    if v.hasInnerPath then v.innerPathExists config else return (⟨true, none⟩, v)
  if v.isOnSnapshot then
    match ← v.snapshotExists with
    | .error e => return (⟨false, some e⟩, v)
    | .ok false => return (⟨false, none⟩, v)
    | .ok true =>
      if config.isInDevMode then
        match ← v.mimicDirectoryStructureForDebugMode config with
        | (.error e, v) => return (⟨false, some e⟩, v)
        | (.ok (), v) => onPath v
      else onPath v
  else onPath v

end CsiWekafs
