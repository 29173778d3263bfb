import CsiWekafs.Basic
import CsiWekafs.Lib.GoMap
import Mathlib.Data.List.Sort
import Mathlib.Order.Defs.LinearOrder
import Mathlib.Data.List.Lex
import Mathlib.Data.Char

namespace CsiWekafs

structure MountOption where
  option : Str
  value : Str
  deriving DecidableEq, Repr

def MountOption.string (o : MountOption) : Str :=
  if o.value ≠ [] then o.option ++ "=" ++ o.value else o.option

def newMountOptionFromString (optstring : Str) : MountOption :=
  match optstring.splitOn '=' with
  | [option, value] => ⟨option, value⟩
  | option :: _ => ⟨option, []⟩
  | [] => ⟨[], []⟩

structure MountOptions where
  customOptions : GoMap Str MountOption
  excludeOptions : List Str

/-- The white space that Go trims. -/
def isSpace (c : Char) : Bool :=
  c.toNat ∈ [9, 10, 11, 12, 13, 32, 0x85, 0xA0, 0x1680, 0x2028, 0x2029, 0x202f, 0x205f, 0x3000] ||
    (0x2000 ≤ c.toNat && c.toNat ≤ 0x200a)

def trimSpace (s : Str) : Str := ((s.dropWhile isSpace).reverse.dropWhile isSpace).reverse

def newMountOptions (optstrings : List Str) : MountOptions where
  customOptions := optstrings.foldl (fun m optstring =>
    let s := trimSpace optstring
    if s ≠ [] then
      let o := newMountOptionFromString s
      m.insert o.option o
    else m) ∅
  excludeOptions := []

def newMountOptionsFromString (optsString : Str) : MountOptions :=
  if optsString = [] then newMountOptions [] else newMountOptions (optsString.splitOn ',')

def getDefaultMountOptions : MountOptions := ⟨∅, [[]]⟩

/-- Drops what is exclusive with an option, set by set. -/
def dropExclusives (exclusives : List (List Str)) (option : Str)
    (m : GoMap Str MountOption) : GoMap Str MountOption :=
  exclusives.foldl (fun m set =>
    if option ∈ set then set.foldl (fun m o => if o ≠ option then m.erase o else m) m else m) m

/-- The other options take precedence. They are visited in the order the map yields them. -/
def MountOptions.merge (opts other : MountOptions) (exclusives : List (List Str)) : MountOptions :=
  let merged := other.customOptions.entries.foldl (fun m e =>
    dropExclusives exclusives e.2.option (m.insert e.2.option e.2)) opts.customOptions
  { opts with customOptions := other.excludeOptions.foldl (fun m o => m.erase o) merged }

def MountOptions.addOption (opts : MountOptions) (optstring : Str) : MountOptions :=
  let opt := newMountOptionFromString optstring
  { opts with customOptions := opts.customOptions.insert opt.option opt }

def MountOptions.removeOption (opts : MountOptions) (optstring : Str) : MountOptions :=
  { opts with customOptions := opts.customOptions.erase (newMountOptionFromString optstring).option }

def MountOptions.hasOption (opts : MountOptions) (optstring : Str) : Bool :=
  (opts.customOptions.lookup (newMountOptionFromString optstring).option).isSome

/-- The options in the order of their names. -/
def MountOptions.getOpts (opts : MountOptions) : List MountOption :=
  (opts.customOptions.keys.insertionSort (· ≤ ·)).filterMap fun k => opts.customOptions.lookup k

def MountOptions.strings (opts : MountOptions) : List Str := opts.getOpts.map MountOption.string

def MountOptions.string (opts : MountOptions) : Str :=
  [','].intercalate (opts.getOpts.map MountOption.string)

def mountOptionSyncOnClose : Str := "sync_on_close"

def mountOptionReadOnly : Str := "ro"

def mountOptionContainerName : Str := "container_name"

def mountOptionAcl : Str := "acl"

def mountOptionWriteCache : Str := "writecache"

def MountOptions.asVolumeContext (opts : MountOptions) : Str :=
  ((opts.removeOption mountOptionSyncOnClose).removeOption mountOptionContainerName).string

/-- The SELinux options of a mount over the wekafs protocol. -/
def MountOptions.setSelinux (opts : MountOptions) (selinuxSupport : Bool) : MountOptions :=
  if selinuxSupport then
    (opts.addOption "fscontext=\"system_u:object_r:wekafs_csi_volume_t:s0\"").addOption mountOptionAcl
  else { opts with customOptions := opts.customOptions.erase "fscontext" }

example : (newMountOptionsFromString "writecache, acl,x=1").string = "acl,writecache,x=1" := by decide

end CsiWekafs
