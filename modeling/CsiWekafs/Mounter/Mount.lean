import CsiWekafs.Env
import CsiWekafs.Names
import CsiWekafs.Lib.GoPath

namespace CsiWekafs

structure ProcMount where
  mountPoint : Str
  fsType : Str

/-- The directories of the host and its mounts, the latest first. A mount point is a directory. -/
structure Kernel where
  dirs : List Str
  procMounts : List ProcMount
  mounted_dirs : ∀ x ∈ procMounts, x.mountPoint ∈ dirs

def Kernel.mountsAt (k : Kernel) (path : Str) : Nat :=
  k.procMounts.countP fun x => x.mountPoint = path

def Kernel.mkdirAll (k : Kernel) (path : Str) : Kernel where
  dirs := path :: k.dirs
  procMounts := k.procMounts
  mounted_dirs x hx := List.mem_cons_of_mem path (k.mounted_dirs x hx)

def Kernel.mount (k : Kernel) (path fsType : Str) : Kernel :=
  if h : path ∈ k.dirs then
    { dirs := k.dirs
      procMounts := ⟨path, fsType⟩ :: k.procMounts
      mounted_dirs := by
        intro x hx
        rcases List.mem_cons.mp hx with rfl | hx
        · exact h
        · exact k.mounted_dirs x hx }
  else k

/-- Takes the latest mount off a mount point. -/
def Kernel.umount (k : Kernel) (path : Str) : Kernel where
  dirs := k.dirs
  procMounts := k.procMounts.eraseP fun x => x.mountPoint = path
  mounted_dirs x hx := k.mounted_dirs x (List.mem_of_mem_eraseP hx)

/-- A directory that carries a mount cannot be removed. -/
def Kernel.remove (k : Kernel) (path : Str) : Kernel :=
  if h : k.mountsAt path = 0 then
    { dirs := k.dirs.filter (· ≠ path)
      procMounts := k.procMounts
      mounted_dirs := by
        intro x hx
        have hne := List.countP_eq_zero.mp h x hx
        exact List.mem_filter.mpr ⟨k.mounted_dirs x hx, by simpa using hne⟩ }
  else k

def Kernel.pathExists (k : Kernel) (path : Str) : Bool := path ∈ k.dirs

def isWekaFsType (fsType : Str) : Bool :=
  fsType = ("wekafs" : Str) || ("nfs" : Str).isPrefixOf fsType

def Kernel.pathIsWekaMount (k : Kernel) (path : Str) : Bool :=
  k.procMounts.any fun x => x.mountPoint = path && isWekaFsType x.fsType

theorem mountsAt_congr {k k' : Kernel} (h : k'.procMounts = k.procMounts) (p : Str) :
    k'.mountsAt p = k.mountsAt p := by
  simp [Kernel.mountsAt, h]

theorem mountsAt_of_cons {k k' : Kernel} {x : ProcMount} (h : k'.procMounts = x :: k.procMounts)
    (p : Str) : k'.mountsAt p = k.mountsAt p + if x.mountPoint = p then 1 else 0 := by
  simp [Kernel.mountsAt, h, List.countP_cons]

theorem mountsAt_umount (k : Kernel) (path p : Str) :
    (k.umount path).mountsAt p = k.mountsAt p - if p = path then 1 else 0 := by
  by_cases hm : ∃ x ∈ k.procMounts, x.mountPoint = path
  · obtain ⟨x, hx, hp⟩ := hm
    obtain ⟨y, l₁, l₂, -, hy, hl, he⟩ := List.exists_of_eraseP
      (p := fun x : ProcMount => decide (x.mountPoint = path)) hx (by simpa using hp)
    have hy' : y.mountPoint = path := by simpa using hy
    simp only [Kernel.mountsAt, Kernel.umount]
    rw [he, hl]
    simp only [List.countP_append, List.countP_cons, hy']
    by_cases hpp : p = path
    · simp only [hpp, decide_true, if_true]
      omega
    · simp [hpp, Ne.symm hpp]
  · have he : k.procMounts.eraseP (fun x => decide (x.mountPoint = path)) = k.procMounts := by
      apply List.eraseP_of_forall_not
      intro x hx hp
      exact hm ⟨x, hx, by simpa using hp⟩
    have hz : k.mountsAt path = 0 := by
      apply List.countP_eq_zero.mpr
      intro x hx hp
      exact hm ⟨x, hx, by simpa using hp⟩
    have hsame : (k.umount path).procMounts = k.procMounts := he
    rw [mountsAt_congr hsame]
    split
    next hp => rw [hp, hz]
    next => rfl

@[simp] theorem procMounts_remove (k : Kernel) (path : Str) :
    (k.remove path).procMounts = k.procMounts := by
  unfold Kernel.remove
  split <;> rfl

/-- Every mount shows as one that the driver looks for. -/
def Kernel.AllWeka (k : Kernel) : Prop := ∀ x ∈ k.procMounts, isWekaFsType x.fsType = true

theorem pathIsWekaMount_iff {k : Kernel} (h : k.AllWeka) (path : Str) :
    (k.pathExists path && k.pathIsWekaMount path) = true ↔ 0 < k.mountsAt path := by
  simp only [Kernel.pathExists, Kernel.pathIsWekaMount, Kernel.mountsAt, Bool.and_eq_true,
    decide_eq_true_eq, List.any_eq_true, List.countP_pos_iff]
  constructor
  · rintro ⟨-, x, hx, hp, -⟩
    exact ⟨x, hx, hp⟩
  · rintro ⟨x, hx, hp⟩
    exact ⟨hp ▸ k.mounted_dirs x hx, x, hx, hp, h x hx⟩

theorem mountsAt_pos_of_pathIsWekaMount {k : Kernel} {path : Str}
    (h : k.pathIsWekaMount path = true) : 0 < k.mountsAt path := by
  obtain ⟨x, hx, hp⟩ := List.any_eq_true.mp h
  exact List.countP_pos_iff.mpr ⟨x, hx, (Bool.and_eq_true _ _ ▸ hp).1⟩

/-- The part of the driver that mounts: it has a directory of its own. -/
inductive CsiPluginMode
  | node | controller | all
  deriving DecidableEq, Repr

def mountBaseDirForRole : CsiPluginMode → Str
  | .node => "/run/weka-fs-mounts-node"
  | .controller => "/run/weka-fs-mounts-controller"
  | .all => "/run/weka-fs-mounts"

structure MounterConfig where
  csiMode : CsiPluginMode
  debugPath : Str
  /-- The type under which the filesystem of the debug path shows in the mount table. -/
  debugFsType : Str

def MounterConfig.isInDevMode (config : MounterConfig) : Bool := config.debugPath ≠ []

/-- The type under which a mount made by the driver shows. -/
def MounterConfig.mountFsType (config : MounterConfig) : Str :=
  if config.isInDevMode then config.debugFsType else "wekafs"

structure WekafsMount where
  fsName : Str
  mountPoint : Str
  mountOptions : MountOptions
  containerName : Str

def WekafsMount.getMountPoint (m : WekafsMount) : Str :=
  if m.containerName ≠ [] then m.mountPoint ++ "-" ++ m.containerName else m.mountPoint

def WekafsMount.getRefcountIdx (m : WekafsMount) : Str :=
  m.getMountPoint ++ "^" ++ m.mountOptions.string

def WekafsMount.isMounted (m : WekafsMount) (k : Kernel) : Bool :=
  k.pathExists m.getMountPoint && k.pathIsWekaMount m.getMountPoint

def newMount (config : MounterConfig) (fsName : Str) (options : MountOptions) : WekafsMount where
  fsName := fsName
  mountPoint := mountBaseDirForRole config.csiMode ++ "/" ++ getAsciiPart fsName 64 ++ "-" ++
    getStringSha1AsB32 (fsName ++ ":" ++ options.string)
  mountOptions := options
  containerName := []

/-- Takes the container's name from the API, where it can be asked. Its error is only logged. -/
def WekafsMount.ensureLocalContainerName (m : WekafsMount) (config : MounterConfig)
    (apiClient : Option ApiClient) (ensureLocalContainer : Str) : WekafsMount :=
  if m.containerName ≠ [] ∨ apiClient.isNone ∨ config.isInDevMode then m
  else { m with containerName := ensureLocalContainer }

/-- The options that the kernel mounts with, outside of the development mode. -/
def WekafsMount.kernelMountOptions (m : WekafsMount) : MountOptions :=
  if m.containerName ≠ [] then m.mountOptions.addOption ("container_name=" ++ m.containerName)
  else m.mountOptions

/-- The answers of the host to the calls that one mount makes. -/
structure MountAnswers where
  mkdirAll : Except Err Unit := .ok ()
  isWekaRunning : Bool := true
  mountToken : Except Err Unit := .ok ()
  fakePath : Except Err Unit := .ok ()
  mount : Except Err Unit := .ok ()

def wekaNotRunningError : Err := .plain "weka is not running, cannot mount"

/-- The kernel mount at the end of a mount call. A mount that fails mounts nothing. -/
def Kernel.tryMount (k : Kernel) (path fsType : Str) : Except Err Unit → Except Err Unit × Kernel
  | .ok () => (.ok (), k.mount path fsType)
  | .error e => (.error e, k)

/-- None where the driver ends: the debug path cannot be made. -/
def WekafsMount.doMount (m : WekafsMount) (config : MounterConfig) (apiClient : Option ApiClient)
    (a : MountAnswers) (k : Kernel) : Option (Except Err Unit × Kernel) :=
  match a.mkdirAll with
  | .error e => some (.error e, k)
  | .ok () =>
    let k := k.mkdirAll m.getMountPoint
    if !config.isInDevMode then
      if !a.isWekaRunning then some (.error wekaNotRunningError, k)
      else if apiClient.isNone then
        some (k.tryMount m.getMountPoint config.mountFsType a.mount)
      else match a.mountToken with
        | .error e => some (.error e, k)
        | .ok () => some (k.tryMount m.getMountPoint config.mountFsType a.mount)
    else match a.fakePath with
      | .error _ => none
      | .ok () => some (k.tryMount m.getMountPoint config.mountFsType a.mount)

/-- The answers of the host to the calls that one unmount makes. The unmount may report success
while the mount stays. -/
inductive UnmountAnswer
  | fails (e : Err)
  | succeeds (removed : Bool)
  | succeedsButStays

def stillMountedError (mountPoint : Str) : Err :=
  .plain ("mount point " ++ mountPoint ++ " still exists in /proc/mounts after umount")

def WekafsMount.doUnmount (m : WekafsMount) (a : UnmountAnswer) (k : Kernel) :
    Except Err Unit × Kernel :=
  match a with
  | .fails e => (.error e, k)
  | .succeedsButStays =>
    if m.isMounted k then (.error (stillMountedError m.getMountPoint), k) else (.ok (), k)
  | .succeeds removed =>
    let k := k.umount m.getMountPoint
    if m.isMounted k then (.error (stillMountedError m.getMountPoint), k)
    else (.ok (), if removed then k.remove m.getMountPoint else k)

/-- A mount fails and mounts nothing, or it succeeds and adds one mount. -/
theorem doMount_cases {m : WekafsMount} {config : MounterConfig} {apiClient : Option ApiClient}
    {a : MountAnswers} {k k' : Kernel} {r : Except Err Unit}
    (h : m.doMount config apiClient a k = some (r, k')) :
    ((∃ e, r = .error e) ∧ k'.procMounts = k.procMounts) ∨
      (r = .ok () ∧ k'.procMounts = ⟨m.getMountPoint, config.mountFsType⟩ :: k.procMounts) := by
  have htry : ∀ o, some ((k.mkdirAll m.getMountPoint).tryMount m.getMountPoint config.mountFsType o)
      = some (r, k') → ((∃ e, r = .error e) ∧ k'.procMounts = k.procMounts) ∨
      (r = .ok () ∧ k'.procMounts = ⟨m.getMountPoint, config.mountFsType⟩ :: k.procMounts) := by
    intro o ho
    cases o with
    | error e =>
      cases ho
      exact Or.inl ⟨⟨e, rfl⟩, rfl⟩
    | ok u =>
      cases ho
      refine Or.inr ⟨rfl, ?_⟩
      simp [Kernel.mount, Kernel.mkdirAll]
  unfold WekafsMount.doMount at h
  split at h
  next e _ =>
    cases h
    exact Or.inl ⟨⟨e, rfl⟩, rfl⟩
  next =>
    split at h
    next =>
      split at h
      next =>
        cases h
        exact Or.inl ⟨⟨_, rfl⟩, rfl⟩
      next =>
        split at h
        next => exact htry _ h
        next =>
          split at h
          next e _ =>
            cases h
            exact Or.inl ⟨⟨e, rfl⟩, rfl⟩
          next => exact htry _ h
    next =>
      split at h
      next => cases h
      next => exact htry _ h

/-- An unmount leaves the mounts as they are, or takes one off the mount point. Where it reports an
error after that, the mount point still shows a mount. -/
theorem doUnmount_cases {m : WekafsMount} {a : UnmountAnswer} {k k' : Kernel}
    {r : Except Err Unit} (hm : m.isMounted k = true) (h : m.doUnmount a k = (r, k')) :
    (∃ e, r = .error e ∧ k' = k) ∨
      (∃ e, r = .error e ∧ k' = k.umount m.getMountPoint ∧ m.isMounted k' = true) ∨
      (r = .ok () ∧ k'.procMounts = (k.umount m.getMountPoint).procMounts) := by
  cases a with
  | fails e =>
    cases h
    exact Or.inl ⟨e, rfl, rfl⟩
  | succeedsButStays =>
    simp only [WekafsMount.doUnmount, hm, if_true] at h
    cases h
    exact Or.inl ⟨_, rfl, rfl⟩
  | succeeds removed =>
    simp only [WekafsMount.doUnmount] at h
    split at h
    next hs =>
      cases h
      exact Or.inr (Or.inl ⟨_, rfl, rfl, hs⟩)
    next =>
      cases h
      refine Or.inr (Or.inr ⟨rfl, ?_⟩)
      cases removed with
      | true => simp
      | false => rfl

end CsiWekafs
