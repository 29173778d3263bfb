import CsiWekafs.Basic

namespace CsiWekafs

/-- The identifier of an API object. -/
abbrev Uid : Type := Nat

def nilUid : Uid := 0

structure FileSystem where
  id : Str := []
  name : Str := []
  uid : Uid := nilUid
  isRemoving : Bool := false
  isCreating : Bool := false
  isReady : Bool := false
  isEncrypted : Bool := false
  freeTotal : Int64 := 0
  groupName : Str := []
  totalCapacity : Int64 := 0
  availableSsd : Int64 := 0
  isThinlyProvisioned : Bool := false
  thinProvisioningMinSsd : Int64 := 0
  thinProvisioningMaxSsd : Int64 := 0
  kmsKeyIdentifier : Str := []
  kmsNamespace : Str := []
  kmsRole : Str := []
  deriving DecidableEq, Repr

structure WekaSnapshot where
  isWritable : Bool := false
  filesystemId : Str := []
  filesystem : Str := []
  isRemoving : Bool := false
  name : Str := []
  uid : Uid := nilUid
  accessPoint : Str := []
  deriving DecidableEq, Repr

structure Quota where
  filesystemUid : Uid := nilUid
  inodeId : UInt64 := 0
  hardLimitBytes : UInt64 := 0
  softLimitBytes : UInt64 := 0
  status : Str := []
  deriving DecidableEq, Repr

structure NfsPermission where
  filesystem : Str := []
  uid : Uid := nilUid
  deriving DecidableEq, Repr

inductive QuotaType
  | hard | soft
  deriving DecidableEq, Repr

structure FileSystemCreateRequest where
  name : Str
  groupName : Str
  totalCapacity : Int64
  encrypted : Bool
  allowNoKms : Bool
  hasPermissions : Bool
  kmsVaultKeyIdentifier : Str
  kmsVaultNamespace : Str
  kmsVaultRoleId : Str
  kmsVaultSecretId : Str
  deriving DecidableEq, Repr

structure FileSystemResizeRequest where
  uid : Uid
  totalCapacity : Option Int64
  thinProvisionMinSsd : Option Int64
  thinProvisionMaxSsd : Option Int64
  deriving DecidableEq, Repr

structure SnapshotCreateRequest where
  fsUid : Uid
  name : Str
  accessPoint : Str
  sourceSnapUid : Option Uid
  isWritable : Bool
  deriving DecidableEq, Repr

structure QuotaCreateRequest where
  filesystemUid : Uid
  inodeId : UInt64
  hardLimitBytes : UInt64
  softLimitBytes : UInt64
  quotaType : QuotaType
  capacityLimit : UInt64
  deriving DecidableEq, Repr

def maxQuotaSize : UInt64 := 9223372036854775807

def newQuotaCreateRequest (fs : FileSystem) (inodeId : UInt64) (quotaType : QuotaType)
    (capacityLimit : UInt64) : QuotaCreateRequest where
  filesystemUid := fs.uid
  inodeId := inodeId
  hardLimitBytes := if quotaType = .hard then capacityLimit else maxQuotaSize
  softLimitBytes := capacityLimit
  quotaType := quotaType
  capacityLimit := capacityLimit

def Quota.getQuotaType (q : Quota) : QuotaType :=
  if q.hardLimitBytes ≤ q.softLimitBytes then .hard else .soft

def Quota.getCapacityLimit (q : Quota) : UInt64 :=
  if q.getQuotaType = .hard then q.hardLimitBytes else q.softLimitBytes

/-- A query's field takes part in the comparison only where it is not the zero value. -/
def fieldMatches {α : Type} [DecidableEq α] (zero query value : α) : Bool :=
  query = zero || query = value

/-- The objects agree on the immutable fields that the query sets. -/
def FileSystem.eq (r query : FileSystem) : Bool :=
  fieldMatches [] query.name r.name && fieldMatches 0 query.totalCapacity r.totalCapacity &&
    fieldMatches [] query.groupName r.groupName && fieldMatches [] query.id r.id

def WekaSnapshot.eq (r query : WekaSnapshot) : Bool :=
  fieldMatches [] query.name r.name && fieldMatches [] query.filesystemId r.filesystemId &&
    fieldMatches [] query.filesystem r.filesystem

/-- A lookup by name selects the objects of that name, and every object where the name is empty. -/
@[simp] theorem fileSystem_eq_name {r : FileSystem} {name : Str} :
    r.eq { name := name } = true ↔ name = [] ∨ r.name = name := by
  have h : r.eq { name := name } = true ↔ name = [] ∨ name = r.name := by
    simp [FileSystem.eq, fieldMatches]
  rw [h, eq_comm (a := name) (b := r.name)]

@[simp] theorem wekaSnapshot_eq_name {r : WekaSnapshot} {name : Str} :
    r.eq { name := name } = true ↔ name = [] ∨ r.name = name := by
  have h : r.eq { name := name } = true ↔ name = [] ∨ name = r.name := by
    simp [WekaSnapshot.eq, fieldMatches]
  rw [h, eq_comm (a := name) (b := r.name)]

inductive KmsType
  | localKms | hashicorpVault | kmip | other
  deriving DecidableEq, Repr

inductive KmsAuthMethod
  | token | appRole | other
  deriving DecidableEq, Repr

structure Kms where
  kmsType : KmsType
  authMethod : KmsAuthMethod
  deriving DecidableEq, Repr

def Kms.isSupportedForEncryptionKeyPerFilesystem (k : Kms) : Bool :=
  k.kmsType = .hashicorpVault && k.authMethod = .appRole

def Kms.isSupportedForCommonEncryptionKey (k : Kms) : Bool :=
  k.kmsType = .hashicorpVault || k.kmsType = .kmip

/-- The requests the driver sends to the cluster. -/
inductive Request
  | listFileSystems (query : FileSystem)
  | getFileSystem (uid : Uid) (forceFresh : Bool)
  | createFileSystem (r : FileSystemCreateRequest)
  | updateFileSystem (r : FileSystemResizeRequest)
  | deleteFileSystem (uid : Uid)
  | listSnapshots (query : WekaSnapshot)
  | getSnapshot (uid : Uid)
  | createSnapshot (r : SnapshotCreateRequest)
  | deleteSnapshot (uid : Uid)
  | getQuota (fsUid : Uid) (inodeId : UInt64)
  | putQuota (r : QuotaCreateRequest)
  | resolvePath (fsUid : Uid) (path : Str)
  | clusterInfo
  | kms
  | listNfsPermissions (filesystem : Str)
  | deleteNfsPermission (uid : Uid)
  deriving DecidableEq, Repr

/-- What the data of a reply is decoded into. -/
def Request.Resp : Request → Type
  | .listFileSystems _ => List FileSystem
  | .getFileSystem _ _ => FileSystem
  | .createFileSystem _ => FileSystem
  | .updateFileSystem _ => FileSystem
  | .deleteFileSystem _ => Unit
  | .listSnapshots _ => List WekaSnapshot
  | .getSnapshot _ => WekaSnapshot
  | .createSnapshot _ => WekaSnapshot
  | .deleteSnapshot _ => Unit
  | .getQuota _ _ => Quota
  | .putQuota _ => Quota
  | .resolvePath _ _ => Str
  | .clusterInfo => UInt64
  | .kms => Kms
  | .listNfsPermissions _ => List NfsPermission
  | .deleteNfsPermission _ => Unit

end CsiWekafs
