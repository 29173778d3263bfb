import CsiWekafs.Mounter.Mount

namespace CsiWekafs

def mountOptionNfsAsync : Str := "async"

/-- The source gives both the same text. -/
def mountOptionNfsSync : Str := "async"

def mountOptionNfsHard : Str := "hard"

def mountOptionNfsNoac : Str := "noac"

def mountOptionNfsAc : Str := "ac"

def mountOptionNfsRdirPlus : Str := "rdirplus"

def defaultNfsMountOptions : Str :=
  mountOptionNfsHard ++ "," ++ mountOptionNfsAsync ++ "," ++ mountOptionNfsRdirPlus

/-- The NFS options that stand for one option of a volume. -/
def MountOption.asNfs (o : MountOption) : List Str :=
  if o.option = mountOptionWriteCache then [mountOptionNfsAsync]
  else if o.option = ("coherent" : Str) then [mountOptionNfsSync, mountOptionNfsNoac]
  else if o.option = ("forcedirect" : Str) then [mountOptionNfsSync, mountOptionNfsNoac]
  else if o.option = ("readcache" : Str) then [mountOptionNfsAc]
  else if o.option = ("dentry_max_age_positive" : Str) then
    ["acdirmax=" ++ o.value, "acregmax=" ++ o.value]
  else []

def MountOptions.asNfs (opts : MountOptions) : MountOptions :=
  (opts.getOpts.flatMap MountOption.asNfs).foldl MountOptions.addOption
    (newMountOptionsFromString defaultNfsMountOptions)

/-- Merges options into themselves: one that was taken out before its turn is not visited any more. -/
def MountOptions.mergeSelfInOrder (opts : MountOptions) (order : List MountOption)
    (exclusives : List (List Str)) : MountOptions :=
  let merged := order.foldl (fun m o =>
    if o.option ∈ m then dropExclusives exclusives o.option (m.insert o.option o) else m)
    opts.customOptions
  { opts with customOptions := opts.excludeOptions.foldl (fun m o => m.erase o) merged }

structure NfsMount where
  fsName : Str
  mountPoint : Str
  mountOptions : MountOptions
  mountIpAddress : Str
  /-- The version as it stands in a mount option. -/
  protocolVersion : Str

def NfsMount.getMountPoint (m : NfsMount) : Str := m.mountPoint ++ "-" ++ m.mountIpAddress

def NfsMount.getMountOptions (m : NfsMount) : MountOptions :=
  m.mountOptions.addOption ("vers=" ++ m.protocolVersion)

def NfsMount.getRefcountIdx (m : NfsMount) : Str :=
  m.getMountPoint ++ "^" ++ m.getMountOptions.asNfs.string

def newNfsMount (config : MounterConfig) (fsName : Str) (options : MountOptions)
    (mountIpAddress protocolVersion : Str) : NfsMount where
  fsName := fsName
  mountPoint := mountBaseDirForRole config.csiMode ++ "/" ++ getAsciiPart fsName 64 ++ "-" ++
    getStringSha1AsB32 (fsName ++ ":" ++ options.string)
  mountOptions := options
  mountIpAddress := mountIpAddress
  protocolVersion := protocolVersion

example : (newMountOptionsFromString "writecache,coherent,x").asNfs.string =
    "async,hard,noac,rdirplus" := by decide

end CsiWekafs
