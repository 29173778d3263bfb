import CsiWekafs.Api.Quotas
import CsiWekafs.Lib.World
import CsiWekafs.Volume.Capacity

namespace CsiWekafs

open Prog

/-- A directory on a filesystem. -/
structure Place where
  filesystem : Str
  path : Str
  deriving DecidableEq

def Volume.place (v : Volume) : Place := ⟨v.filesystemName, v.getRelativePath⟩

/-- What stays the same while the driver works: its client, the numbers of filesystems and
directories, and where a mounted filesystem shows its directories. -/
structure Site where
  client : Option ApiClient
  uid : Str ↪ Uid
  inode : Place → UInt64
  inode_ne_zero : ∀ p, inode p ≠ 0
  mounts : Str → Str → Prop
  exists_mount : ∀ fsName, ∃ mount, mounts fsName mount
  locate : Str → Option Place
  locate_place : ∀ (v : Volume) (mount : Str), mounts v.filesystemName mount →
    locate (GoPath.join [mount, v.getRelativePath]) = some v.place

variable {site : Site}

structure QuotaLimits where
  hardLimitBytes : UInt64
  softLimitBytes : UInt64
  deriving DecidableEq

/-- What the cluster keeps. Every filesystem has a name and the number that belongs to it. -/
structure Storage (site : Site) where
  filesystems : List FileSystem
  snapshots : List WekaSnapshot
  isDir : Place → Bool
  quota : Uid → UInt64 → Option QuotaLimits
  xattr : Place → Str → Option Str
  mode : Place → Nat
  owner : Place → Int64 × Int64
  name_ne_nil : ∀ f ∈ filesystems, f.name ≠ []
  uid_eq : ∀ f ∈ filesystems, f.uid = site.uid f.name

/-- The filesystems that a lookup by name yields. -/
def Storage.named (s : Storage site) (name : Str) : List FileSystem :=
  s.filesystems.filter (·.eq { name := name })

def Storage.snapshotsNamed (s : Storage site) (name : Str) : List WekaSnapshot :=
  s.snapshots.filter (·.eq { name := name })

/-- There is one filesystem of that name. -/
def Storage.HasFilesystem (s : Storage site) (name : Str) : Prop :=
  ∃ f, s.named name = [f] ∧ f.name = name

def Storage.putQuota (s : Storage site) (r : QuotaCreateRequest) : Storage site :=
  { s with quota := fun uid inodeId =>
      if uid = r.filesystemUid ∧ inodeId = r.inodeId then some ⟨r.hardLimitBytes, r.softLimitBytes⟩
      else s.quota uid inodeId }

def Storage.setXattr (s : Storage site) (p : Place) (name value : Str) : Storage site :=
  { s with xattr := fun p' name' => if p' = p ∧ name' = name then some value else s.xattr p' name' }

def Storage.chmod (s : Storage site) (p : Place) (mode : Nat) : Storage site :=
  { s with mode := fun p' => if p' = p then mode else s.mode p' }

def Storage.chown (s : Storage site) (p : Place) (uid gid : Int64) : Storage site :=
  { s with owner := fun p' => if p' = p then (uid, gid) else s.owner p' }

/-- A new directory has the mode that it is made with, no attributes and no quota. -/
def Storage.mkdir (s : Storage site) (p : Place) (mode : Nat) : Storage site :=
  { s with
    isDir := fun p' => p' = p || s.isDir p'
    mode := fun p' => if p' = p then mode else s.mode p'
    xattr := fun p' name => if p' = p then none else s.xattr p' name
    quota := fun uid inodeId =>
      if uid = site.uid p.filesystem ∧ inodeId = site.inode p then none else s.quota uid inodeId }

def FileSystemResizeRequest.resized (r : FileSystemResizeRequest) (f : FileSystem) : FileSystem :=
  if f.uid = r.uid then
    { f with
      totalCapacity := r.totalCapacity.getD f.totalCapacity
      thinProvisioningMinSsd := r.thinProvisionMinSsd.getD f.thinProvisioningMinSsd
      thinProvisioningMaxSsd := r.thinProvisionMaxSsd.getD f.thinProvisioningMaxSsd }
  else f

theorem resized_name (r : FileSystemResizeRequest) (f : FileSystem) :
    (r.resized f).name = f.name ∧ (r.resized f).uid = f.uid ∧
      (r.resized f).isRemoving = f.isRemoving := by
  unfold FileSystemResizeRequest.resized
  split
  · exact ⟨rfl, rfl, rfl⟩
  · exact ⟨rfl, rfl, rfl⟩

def Storage.resize (s : Storage site) (r : FileSystemResizeRequest) : Storage site :=
  { s with
    filesystems := s.filesystems.map r.resized
    name_ne_nil := by
      intro f hf
      obtain ⟨g, hg, rfl⟩ := List.mem_map.mp hf
      rw [(resized_name r g).1]
      exact s.name_ne_nil g hg
    uid_eq := by
      intro f hf
      obtain ⟨g, hg, rfl⟩ := List.mem_map.mp hf
      obtain ⟨hname, huid, -⟩ := resized_name r g
      rw [hname, huid, s.uid_eq g hg] }

def Storage.quotaAt (s : Storage site) (p : Place) : Option QuotaLimits :=
  s.quota (site.uid p.filesystem) (site.inode p)

theorem quotaAt_congr {s s' : Storage site} (h : s'.quota = s.quota) (p : Place) :
    s'.quotaAt p = s.quotaAt p := by
  rw [Storage.quotaAt, h]
  rfl

/-- A directory is left alone, with its quota. -/
structure Storage.KeepsDir (s s' : Storage site) (p : Place) : Prop where
  isDir : s'.isDir p
  xattr : s'.xattr p = s.xattr p
  mode : s'.mode p = s.mode p
  owner : s'.owner p = s.owner p
  quota : s'.quotaAt p = s.quotaAt p

/-- Directories may appear, without attributes and quotas; what is there stays as it is. -/
structure Storage.Grows (s s' : Storage site) : Prop where
  filesystems : s'.filesystems = s.filesystems
  snapshots : s'.snapshots = s.snapshots
  old : ∀ p, s.isDir p → s.KeepsDir s' p
  new : ∀ p, s.isDir p = false → s'.isDir p → (∀ name, s'.xattr p name = none) ∧ s'.quotaAt p = none

/-- A place is left alone. -/
structure Storage.SamePlace (s s' : Storage site) (p : Place) : Prop where
  isDir : s'.isDir p = s.isDir p
  xattr : s'.xattr p = s.xattr p
  mode : s'.mode p = s.mode p
  owner : s'.owner p = s.owner p

/-- A filesystem appears, with its root and without quotas and attributes. -/
structure Storage.AddsFilesystem (s : Storage site) (r : FileSystemCreateRequest) (f : FileSystem)
    (s' : Storage site) : Prop where
  fresh : ∀ g ∈ s.filesystems, g.name ≠ r.name
  filesystems : s'.filesystems = s.filesystems ++ [f]
  name : f.name = r.name
  uid : f.uid ≠ nilUid
  present : f.isRemoving = false
  encrypted : f.isEncrypted = r.encrypted
  snapshots : s'.snapshots = s.snapshots
  others : ∀ p, p.filesystem ≠ r.name → s.SamePlace s' p
  root : s'.isDir ⟨r.name, ['/']⟩
  xattr : ∀ p, p.filesystem = r.name → ∀ name, s'.xattr p name = none
  quota : ∀ uid inodeId, s'.quota uid inodeId =
    if uid = site.uid r.name then none else s.quota uid inodeId

def snapshotRoot (accessPoint : Str) : Str :=
  GoPath.join [['/'], snapshotsSubDirectory, accessPoint]

/-- A place is in the tree of the snapshot that a request asks for. -/
def SnapshotCreateRequest.holds (r : SnapshotCreateRequest) (site : Site) (p : Place) : Prop :=
  site.uid p.filesystem = r.fsUid ∧
    (p.path = snapshotRoot r.accessPoint ∨ snapshotRoot r.accessPoint ++ ['/'] <+: p.path)

/-- A snapshot appears, with some tree and without quotas. It may cost other quotas of the
filesystem. -/
structure Storage.AddsSnapshot (s : Storage site) (r : SnapshotCreateRequest) (m : WekaSnapshot)
    (s' : Storage site) : Prop where
  fresh : ∀ m' ∈ s.snapshots, m'.name ≠ r.name
  snapshots : s'.snapshots = s.snapshots ++ [m]
  name : m.name = r.name
  accessPoint : m.accessPoint = r.accessPoint
  writable : m.isWritable = r.isWritable
  filesystem : site.uid m.filesystem = r.fsUid
  uid : m.uid ≠ nilUid
  present : m.isRemoving = false
  filesystems : s'.filesystems = s.filesystems
  isDir : ∀ p, s.isDir p → s'.isDir p
  others : ∀ p, ¬ r.holds site p → s.SamePlace s' p
  quota : ∀ uid inodeId, s'.quota uid inodeId = s.quota uid inodeId ∨ s'.quota uid inodeId = none
  quotaAt : ∀ p, r.holds site p → s'.quotaAt p = none

/-- What the cluster says and does where it carries out a request. Deletions are left open. -/
def Storage.Serves (s : Storage site) : (r : Request) → r.Resp → Storage site → Prop
  | .listFileSystems query, data, s' => s' = s ∧
      List.filter (·.eq query) data = s.filesystems.filter (·.eq query)
  | .listSnapshots query, data, s' => s' = s ∧
      List.filter (·.eq query) data = s.snapshots.filter (·.eq query)
  | .getQuota uid inodeId, data, s' => s' = s ∧
      s.quota uid inodeId = some ⟨Quota.hardLimitBytes data, Quota.softLimitBytes data⟩
  | .resolvePath uid path, data, s' => s' = s ∧ ∀ f ∈ s.filesystems, f.uid = uid →
      if s.isDir ⟨f.name, path⟩ then parseUint data = .ok (site.inode ⟨f.name, path⟩)
      else data = ([] : Str)
  | .createFileSystem r, data, s' => s.AddsFilesystem r data s'
  | .updateFileSystem r, data, s' => s' = s.resize r ∧ FileSystem.uid data = r.uid
  | .createSnapshot r, data, s' => s.AddsSnapshot r data s'
  | .putQuota r, _, s' => s' = s.putQuota r
  | .deleteFileSystem _, _, _ => True
  | .deleteSnapshot _, _, _ => True
  | .deleteNfsPermission _, _, _ => True
  | .getFileSystem _ _, _, s' => s' = s
  | .getSnapshot _, _, s' => s' = s
  | .clusterInfo, _, s' => s' = s
  | .kms, _, s' => s' = s
  | .listNfsPermissions _, _, s' => s' = s

/-- The requests that tell what is there. -/
def Request.isLookup : Request → Bool
  | .listFileSystems _ | .listSnapshots _ | .getQuota _ _ | .resolvePath _ _ => true
  | _ => false

/-- A lookup is answered with the absence of what is asked for. -/
def Storage.Lacks (s : Storage site) : (r : Request) → Err → Prop
  | .getQuota uid inodeId, e => s.quota uid inodeId = none ∧
      ((∃ text status codes, e = .api .notFound text status codes) ∨
        ∃ text status codes, e = .api .internal text status codes ∧
          contains text "Directory has no quota")
  | .resolvePath uid path, e => (∀ f ∈ s.filesystems, f.uid = uid → s.isDir ⟨f.name, path⟩ = false) ∧
      ((∃ text status codes, e = .api .notFound text status codes) ∨
        ∃ text status codes, e = .api .badRequest text status codes)
  | _, _ => False

/-- A reply that reports success and no error codes. -/
def HttpOutcome.Clean {α : Type} (o : HttpOutcome α) (data : α) : Prop := attempt o = .ok (some data)

/-- One exchange with the cluster. A request that is no lookup may fail, before or after it was
carried out; a lookup fails only where there are faults. No reply has both a success status and error
codes. -/
def Storage.Exchange (faults : Prop) (s : Storage site) (r : Request) (o : HttpOutcome r.Resp)
    (s' : Storage site) : Prop :=
  (∃ data, o.Clean data ∧ s.Serves r data s') ∨
  ∃ e, attempt o = .error e ∧
    ((r.isLookup = false ∧ (s' = s ∨ ∃ data, s.Serves r data s')) ∨
      (s' = s ∧ (s.Lacks r e ∨ faults)))

/-- A host call that changes the directory at a path does so, or fails before or after that. Paths
outside of the filesystems do not count. -/
def Storage.Changes (s : Storage site) (path : Str) (change : Place → Storage site → Prop)
    (r : Except Errno Unit) (s' : Storage site) : Prop :=
  match site.locate path with
  | none => s' = s
  | some p =>
    match r with
    | .ok () => change p s'
    | .error _ => s' = s ∨ change p s'

/-- One call with its answer, and what it makes of the storage. Calls that only tell what is there
fail for no reason only where there are faults. -/
def Storage.Next (faults : Prop) (s : Storage site) : Event → Storage site → Prop
  | ⟨.http r, o⟩, s' => s.Exchange faults r o s'
  | ⟨.init _, r⟩, s' => s' = s ∧ (r = .ok () ∨ faults)
  | ⟨.acquireSemaphore, r⟩, s' => s' = s ∧ (r = .ok () ∨ faults)
  | ⟨.getClientFromSecrets, r⟩, s' => s' = s ∧ (r = .ok site.client ∨ (faults ∧ ∃ e, r = .error e))
  | ⟨.mountWithOptions fsName _, r⟩, s' => s' = s ∧
      ((∃ mount, r = .ok mount ∧ site.mounts fsName mount ∧ s.HasFilesystem fsName) ∨
        ∃ e, r = .error e ∧ (faults ∨ ¬ s.HasFilesystem fsName))
  | ⟨.unmount _, r⟩, s' => s' = s ∧ (r = .ok () ∨ faults)
  | ⟨.openDir path, r⟩, s' => s' = s ∧ ∀ p, site.locate path = some p →
      (r = .ok true ∧ s.isDir p) ∨ ∃ e, r = .error e ∧ (faults ∨ s.isDir p = false)
  | ⟨.stat path, r⟩, s' => s' = s ∧ ∀ p, site.locate path = some p →
      (r = .ok (true, site.inode p) ∧ s.isDir p) ∨ (r = .error .notExist ∧ s.isDir p = false) ∨
        (faults ∧ ∃ e, r = .error e)
  | ⟨.getXattr path name, r⟩, s' => s' = s ∧ ∀ p, site.locate path = some p →
      (∃ value, r = .ok value ∧ s.isDir p ∧ s.xattr p name = some value) ∨
        ∃ e, r = .error e ∧ (faults ∨ s.isDir p = false ∨ s.xattr p name = none)
  | ⟨.mkdirAll path, r⟩, s' => s.Grows s' ∧ ∀ p, site.locate path = some p →
      (r = .ok () ∧ s'.isDir p ∧ (s.isDir p → s' = s)) ∨
        ∃ e, r = .error e ∧ (faults ∨ s.isDir p = false)
  | ⟨.mkdir path mode, r⟩, s' =>
      s.Changes path (fun p s' => s.isDir p = false ∧ s' = s.mkdir p mode) r s'
  | ⟨.chmod path mode, r⟩, s' => s.Changes path (fun p s' => s.isDir p ∧ s' = s.chmod p mode) r s'
  | ⟨.chown path uid gid, r⟩, s' =>
      s.Changes path (fun p s' => s.isDir p ∧ s' = s.chown p uid gid) r s'
  | ⟨.setXattr path name value, r⟩, s' =>
      s.Changes path (fun p s' => s.isDir p ∧ s' = s.setXattr p name value) r s'
  | ⟨.removeAll _, _⟩, _ => True
  | ⟨.readdirnames _, _⟩, s' => s' = s
  | ⟨.statfs _, _⟩, s' => s' = s
  | ⟨.pathIsWekaMount _, _⟩, s' => s' = s
  | ⟨.listPersistentVolumes, _⟩, s' => s' = s
  | ⟨.now, _⟩, s' => s' = s
  | ⟨.pollBudget, _⟩, s' => s' = s
  | ⟨.die _, _⟩, _ => True

def Op.isDie : Op → Bool
  | .die _ => true
  | _ => false

/-- A program comes to its end, where there are no faults, and its result meets `Q`. -/
abbrev Storage.Returns {α : Type} (s : Storage site) (faults : Prop) (p : M α)
    (Q : α → Storage site → Prop) : Prop :=
  p.Holds (Storage.Next faults) (fun _ o => faults ∨ o.isDie = false) Q s

end CsiWekafs
