import CsiWekafs.Node.Overrides
import CsiWekafs.Snapshot
import CsiWekafs.Volume.FromId
import CsiWekafs.Volume.Params

namespace CsiWekafs

open Prog

def nodeServerAdditionalMountOptions : Str := mountOptionWriteCache ++ "," ++ mountOptionSyncOnClose

structure NodeServer where
  config : DriverConfig
  compile : RegexpCompiler
  /-- Whether there is a manager, and with it a reader of the Kubernetes API. -/
  hasApiReader : Bool := true
  additionalMountOptions : Str := nodeServerAdditionalMountOptions

/-- How a volume is asked for: one of the two, or left open. -/
inductive AccessType
  | unset
  | block
  | mount (mountFlags : List Str)

def AccessType.mountFlags : AccessType → List Str
  | .mount mountFlags => mountFlags
  | _ => []

/-- A request to publish a volume. Without a context the map is nil. -/
structure NodePublishVolumeRequest where
  volumeId : Str
  volumeContext : Option Params := none
  volumeCapability : Option AccessType := none
  targetPath : Str := []
  readonly : Bool := false

def nodePublishVolumeError (code : Code) (text : Str) : Err := .status code (toLower text)

def NodeServer.getDefaultMountOptions (ns : NodeServer) : NodeM MountOptions :=
  CsiWekafs.getDefaultMountOptions.mergeAny (newMountOptionsFromString ns.additionalMountOptions)
    ns.config.mutuallyExclusiveOptions

/-- The options of the volume context, without those that come from another place. -/
def NodeServer.applyVolumeContext (ns : NodeServer) (req : NodePublishVolumeRequest) (v : Volume) :
    NodeM Volume :=
  match req.volumeContext with
  | none => return v
  | some params =>
    match params.lookup ("mountOptions" : Str) with
    | none => return v
    | some mountOptions => do
      let opts ← v.mountOptions.mergeAny (newMountOptionsFromString mountOptions)
        ns.config.mutuallyExclusiveOptions
      return { v with mountOptions := opts }.pruneUnsupportedMountOptions

def NodeServer.applyOverride (ns : NodeServer) (v : Volume) (override : Str) : NodeM Volume := do
  if override = [] then return v
  let opts ← applyToOptions override v.mountOptions ns.config.mutuallyExclusiveOptions
  return { v with mountOptions := opts }

def NodeServer.applyPvcOverride (ns : NodeServer) (params : Params) (v : Volume) : NodeM Volume :=
  match params.lookup volumeContextPvcNameKey, params.lookup volumeContextPvcNamespaceKey with
  | some pvcName, some pvcNamespace => do
    ns.applyOverride v (← getPvcMountOptionsOverride pvcNamespace pvcName)
  | _, _ => return v

def NodeServer.applyPodOverride (ns : NodeServer) (params : Params) (v : Volume) : NodeM Volume :=
  match params.lookup volumeContextPodNameKey, params.lookup volumeContextPodNamespaceKey with
  | some podName, some podNamespace => do
    ns.applyOverride v (← getPodMountOptionsOverride ns.compile podNamespace podName
      ((params.lookup volumeContextPvcNameKey).getD []))
  | _, _ => return v

/-- The override of the claim comes first, then that of the pod. -/
def NodeServer.applyMountOptionsOverridesToVolume (ns : NodeServer) (params : Params) (v : Volume) :
    NodeM Volume := do
  ns.applyPodOverride params (← ns.applyPvcOverride params v)

/-- Overrides are applied where there is a reader, the configuration allows them and the request has a
context. -/
def NodeServer.applyOverrides (ns : NodeServer) (req : NodePublishVolumeRequest) (v : Volume) :
    NodeM Volume :=
  match req.volumeContext with
  | none => return v
  | some params =>
    if ns.hasApiReader && ns.config.allowMountOptionOverrides then
      ns.applyMountOptionsOverridesToVolume params v
    else return v

def readOnlyMountOptions : MountOptions :=
  { newMountOptions ["ro"] with excludeOptions := ["rw"] }

def NodeServer.applyReadOnly (ns : NodeServer) (req : NodePublishVolumeRequest) (v : Volume) :
    NodeM Volume := do
  if req.readonly then
    let opts ← v.mountOptions.mergeAny readOnlyMountOptions ns.config.mutuallyExclusiveOptions
    return { v with mountOptions := opts }
  else return v

def AccessType.mountOptions (access : AccessType) : MountOptions :=
  newMountOptionsFromString ([','].intercalate access.mountFlags)

/-- The options of the mount flags, the overrides and the read-only publish, in this order. -/
def NodeServer.applyRequest (ns : NodeServer) (req : NodePublishVolumeRequest) (access : AccessType)
    (v : Volume) : NodeM Volume := do
  let opts ← v.mountOptions.mergeAny access.mountOptions ns.config.mutuallyExclusiveOptions
  let v ← ns.applyOverrides req { v with mountOptions := opts }
  ns.applyReadOnly req v

def noCapabilityText : Str := "Volume capability missing in request"

def blockVolumeText : Str := "block volume mount not supported"

def noTargetPathText : Str := "Target path missing in request"

def nodeClientText (e : Err) : Str :=
  "Failed to initialize Weka API client for the request " ++ e.error ++ "\n"

/-- The volume of a request with all the options that it asks for. -/
def NodeServer.volumeToMount (ns : NodeServer) (req : NodePublishVolumeRequest) :
    NodeM (Except Err Volume) := do
  match ← nodeAsk .acquireSemaphore with
  | .error _ => return .error (nodePublishVolumeError .unavailable tooManyRequestsText)
  | .ok () =>
    match ← nodeAsk .getClientFromSecrets with
    | .error e => return .error (nodePublishVolumeError .internal (nodeClientText e))
    | .ok client =>
      match newVolumeFromId req.volumeId client ns.config with
      | .error e => return .error (nodePublishVolumeError .invalidArgument e.error)
      | .ok volume =>
        let volume ← ns.applyVolumeContext req volume
        match req.volumeCapability with
        | none => return .error (nodePublishVolumeError .invalidArgument noCapabilityText)
        | some .block => return .error (nodePublishVolumeError .invalidArgument blockVolumeText)
        | some access =>
          if GoPath.clean req.targetPath = [] then
            return .error (nodePublishVolumeError .invalidArgument noTargetPathText)
          return .ok (← ns.applyRequest req access volume)

/-- Mounts the filesystem of a volume under the server's options and the volume's own. -/
def NodeServer.mountUnderlyingFS (ns : NodeServer) (v : Volume) : NodeM (Except Err Volume) := do
  let defaults ← ns.getDefaultMountOptions
  let mountOpts ← defaults.mergeAny v.mountOptions ns.config.mutuallyExclusiveOptions
  match ← nodeAsk (.mountWithOptions v.filesystemName mountOpts) with
  | .error e => return .error e
  | .ok mount => return .ok { v with mountPath := mount }

def parentMountText (e : Err) : Str :=
  "Failed to mount a parent filesystem, check Authentication: " ++ e.error

def bindMountText (fullPath targetPath : Str) (e : Err) : Str :=
  "failed to Mount device: " ++ fullPath ++ " at " ++ targetPath ++ ": " ++ e.error

/-- The bind mount of a mounted volume onto the target. -/
def bindToPath (req : NodePublishVolumeRequest) (v : Volume) : NodeM (Except Err Unit) := do
  let targetPath := GoPath.clean req.targetPath
  let innerMountOpts : List Str := if req.readonly then ["bind", "ro"] else ["bind"]
  match ← nodeAsk (.bindMount v.getFullPath targetPath innerMountOpts) with
  | .error e => return .error (nodePublishVolumeError .internal (bindMountText v.getFullPath targetPath e))
  | .ok () => return .ok ()

/-- Makes the target. One that is there and carries a mount is taken for done. -/
def NodeServer.bindToTarget (ns : NodeServer) (req : NodePublishVolumeRequest) (v : Volume) :
    NodeM (Except Err Unit) := do
  let targetPath := GoPath.clean req.targetPath
  match ← nodeAsk (.mkdirAll (GoPath.dir targetPath)) with
  | .error e => return .error (nodePublishVolumeError .internal (Err.os e).error)
  | .ok () =>
    match ← nodeAsk (.mkdir targetPath) with
    | .ok () => bindToPath req v
    | .error .exist =>
      if ns.config.isInDevMode then return .ok ()
      let wekaMounted : Bool ← nodeAsk (.pathIsWekaMount targetPath)
      if wekaMounted then return .ok () else bindToPath req v
    | .error e => return .error (nodePublishVolumeError .internal (Err.os e).error)

/-- The mount of the filesystem is released on every way out. Its error is only logged. -/
def NodeServer.nodePublishVolume (ns : NodeServer) (req : NodePublishVolumeRequest) :
    NodeM (Except Err Unit) := do
  match ← ns.volumeToMount req with
  | .error e => return .error e
  | .ok volume =>
    match ← ns.mountUnderlyingFS volume with
    | .error .mountPermissionDenied =>
      return .error (nodePublishVolumeError .permissionDenied Err.mountPermissionDenied.error)
    | .error e => return .error (nodePublishVolumeError .internal (parentMountText e))
    | .ok volume =>
      let r ← ns.bindToTarget req volume
      let _ ← nodeAsk (.unmount volume.mountPath)
      return r

end CsiWekafs
