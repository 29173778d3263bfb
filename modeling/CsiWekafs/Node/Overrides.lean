import CsiWekafs.Node.Env

namespace CsiWekafs

open Prog

def volumeContextPodNameKey : Str := "csi.storage.k8s.io/pod.name"

def volumeContextPodNamespaceKey : Str := "csi.storage.k8s.io/pod.namespace"

def volumeContextPvcNameKey : Str := "csi.storage.k8s.io/pvc/name"

def volumeContextPvcNamespaceKey : Str := "csi.storage.k8s.io/pvc/namespace"

def podMountOptionOverrideAnnotation : Str := "weka.io/mount-options-overrides"

def pvcMountOptionOverrideAnnotation : Str := "weka.io/mount-options-override"

/-- Go's compiler of regular expressions: none where the text is not one. -/
abbrev RegexpCompiler : Type := Str → Option (Str → Bool)

/-- An entry of a pod's annotation: the claims it is for and the modifiers for them. -/
structure PodMountEntry where
  pattern : Str → Bool
  override : Str

/-- One modifier. What follows a minus is not trimmed again. -/
def applyModifier (exclusives : List (List Str)) (opts : MountOptions) (part : Str) :
    NodeM MountOptions :=
  if part = [] then return opts
  else if ("+" : Str).isPrefixOf part then
    opts.mergeAny (newMountOptionsFromString (part.drop 1)) exclusives
  else if ("-" : Str).isPrefixOf part then return opts.removeOption (part.drop 1)
  else opts.mergeAny (newMountOptionsFromString part) exclusives

def applyModifiers (exclusives : List (List Str)) : List Str → MountOptions → NodeM MountOptions
  | [], opts => return opts
  | part :: parts, opts => do
    applyModifiers exclusives parts (← applyModifier exclusives opts (trimSpace part))

/-- The modifiers of an override are applied one after the other. -/
def applyToOptions (override : Str) (opts : MountOptions) (exclusives : List (List Str)) :
    NodeM MountOptions :=
  applyModifiers exclusives (override.splitOn ',') opts

/-- The entry of one line. Comments and lines without a pattern or with one that is not a regular
expression are skipped. -/
def podMountEntry (compile : RegexpCompiler) (line : Str) : Option PodMountEntry :=
  let line := trimSpace line
  if line = [] ∨ ("#" : Str).isPrefixOf line then none
  else if ':' ∉ line then none
  else
    let pattern := trimSpace (line.takeWhile (· ≠ ':'))
    let rawOpts := trimSpace ((line.dropWhile (· ≠ ':')).drop 1)
    if pattern = [] then none
    else (compile ("^(?:" ++ pattern ++ ")$")).map fun re => ⟨re, rawOpts⟩

def parsePodMountAnnotation (compile : RegexpCompiler) (text : Str) : List PodMountEntry :=
  let lines := (text.splitOnP fun c => c = ';' || c = '\n').filter (· ≠ [])
  lines.filterMap (podMountEntry compile)

/-- The override in a pod's annotations for a claim: the first entry that matches its name. -/
def podOverride (compile : RegexpCompiler) (pvcName : Str) : Except Err (GoMap Str Str) → Str
  | .error _ => []
  | .ok annotations =>
    match annotations.lookup podMountOptionOverrideAnnotation with
    | none => []
    | some text =>
      let entries := parsePodMountAnnotation compile text
      match entries.find? fun entry => entry.pattern pvcName with
      | some entry => entry.override
      | none => []

def pvcOverride : Except Err (GoMap Str Str) → Str
  | .error _ => []
  | .ok annotations => (annotations.lookup pvcMountOptionOverrideAnnotation).getD []

def getPodMountOptionsOverride (compile : RegexpCompiler) (podNamespace podName pvcName : Str) :
    NodeM Str := do
  return podOverride compile pvcName (← nodeAsk (.getPod podNamespace podName))

def getPvcMountOptionsOverride (pvcNamespace pvcName : Str) : NodeM Str := do
  return pvcOverride (← nodeAsk (.getPvc pvcNamespace pvcName))

end CsiWekafs
