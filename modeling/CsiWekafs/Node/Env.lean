import CsiWekafs.Env

namespace CsiWekafs

/-- The calls that leave the node server. The order in which a map is iterated is asked for like an
answer of the environment. -/
inductive NodeOp
  | acquireSemaphore
  | getClientFromSecrets
  | getPvc (objectNamespace name : Str)
  | getPod (objectNamespace name : Str)
  | mapOrder (m : GoMap Str MountOption)
  | mountWithOptions (fsName : Str) (mountOptions : MountOptions)
  | unmount (mountPoint : Str)
  | mkdirAll (path : Str)
  | mkdir (path : Str)
  | pathIsWekaMount (path : Str)
  | bindMount (source target : Str) (options : List Str)

/-- A Kubernetes object is answered with its annotations, a map with its values in some order. -/
def NodeAns : NodeOp → Type
  | .acquireSemaphore => Except Err Unit
  | .getClientFromSecrets => Except Err (Option ApiClient)
  | .getPvc _ _ => Except Err (GoMap Str Str)
  | .getPod _ _ => Except Err (GoMap Str Str)
  | .mapOrder m => { order : List MountOption // order.Perm (m.entries.map Sigma.snd) }
  | .mountWithOptions _ _ => Except Err Str
  | .unmount _ => Except Err Unit
  | .mkdirAll _ => Except Errno Unit
  | .mkdir _ => Except Errno Unit
  | .pathIsWekaMount _ => Bool
  | .bindMount _ _ _ => Except Err Unit

abbrev NodeEvent : Type := Sigma NodeAns

abbrev NodeM : Type → Type := Prog NodeAns

def nodeAsk (o : NodeOp) : NodeM (NodeAns o) := Prog.op o

/-- Merges options into others in the given order. -/
def MountOptions.mergeInOrder (opts : MountOptions) (order : List MountOption)
    (excludeOptions : List Str) (exclusives : List (List Str)) : MountOptions :=
  let merged := order.foldl (fun m o => dropExclusives exclusives o.option (m.insert o.option o))
    opts.customOptions
  { opts with customOptions := excludeOptions.foldl (fun m o => m.erase o) merged }

/-- Merges other options in whatever order their map is iterated. -/
def MountOptions.mergeAny (opts other : MountOptions) (exclusives : List (List Str)) :
    NodeM MountOptions := do
  let order ← nodeAsk (.mapOrder other.customOptions)
  return opts.mergeInOrder order.1 other.excludeOptions exclusives

end CsiWekafs
