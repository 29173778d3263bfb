import CsiWekafs.Lib.Prog
import CsiWekafs.Api.Objects
import CsiWekafs.MountOptions

namespace CsiWekafs

/-- What one HTTP exchange yields. The data is what decoding left in the caller's object. -/
inductive HttpOutcome (α : Type)
  | transport (text : Str)
  | unreadable (status : Nat) (text : Str)
  | malformed (status : Nat)
  | reply (status : Nat) (errorCodes : List Str) (message : Str) (data : α)

structure KmsCredentials where
  roleId : Str := []
  secretId : Str := []
  kmsNamespace : Str := []
  keyIdentifier : Str := []

/-- A client of the cluster's API with what the cluster's version supports. -/
structure ApiClient where
  clusterName : Str := []
  organization : Str := "Root"
  kmsCredentials : KmsCredentials := {}
  supportsQuotaDirectoryAsVolume : Bool := true
  supportsQuotaOnSnapshots : Bool := true
  supportsAuthenticatedMounts : Bool := true
  supportsResolvePathToInode : Bool := true
  supportsFilesystemAsVolume : Bool := true
  supportsSettingSelfAsFilesystemOwner : Bool := true
  supportsEncryptionWithCommonKey : Bool := true
  supportsCustomEncryptionSettings : Bool := true
  supportsSyncOnCloseMountOption : Bool := true

structure CsiSource where
  driver : Str
  volumeHandle : Str

/-- A Kubernetes persistent volume: its CSI source and its storage capacity in bytes. -/
structure PersistentVolume where
  csi : Option CsiSource
  storage : Option Int64

/-- What a login ends with where it fails: the error of one of its own exchanges, or of the checks
on the cluster and the user that follow it. -/
inductive LoginError
  | api (kind : ApiErrorKind) (text : Str) (statusCode : Nat) (errorCodes : List Str)
  | plain (t : Str)

def LoginError.err : LoginError → Err
  | .api kind text statusCode errorCodes => .api kind text statusCode errorCodes
  | .plain t => .plain t

/-- The calls that leave the driver. A client makes sure that it is logged in before each request. -/
inductive Op
  | init (r : Request)
  | http (r : Request)
  | getClientFromSecrets
  | acquireSemaphore
  | mountWithOptions (fsName : Str) (mountOptions : MountOptions)
  | unmount (mountPoint : Str)
  | openDir (path : Str)
  | stat (path : Str)
  | mkdirAll (path : Str)
  | mkdir (path : Str) (mode : Nat)
  | chmod (path : Str) (mode : Nat)
  | chown (path : Str) (uid gid : Int64)
  | removeAll (path : Str)
  | readdirnames (path : Str)
  | statfs (path : Str)
  | getXattr (path name : Str)
  | setXattr (path name value : Str)
  | pathIsWekaMount (path : Str)
  | listPersistentVolumes
  | now
  | pollBudget
  | die (text : Str)

/-- The answers of a call. A call that ends the process has none. -/
def Ans : Op → Type
  | .init _ => Except LoginError Unit
  | .http r => HttpOutcome r.Resp
  | .getClientFromSecrets => Except Err (Option ApiClient)
  | .acquireSemaphore => Except Err Unit
  | .mountWithOptions _ _ => Except Err Str
  | .unmount _ => Except Err Unit
  | .openDir _ => Except Err Bool
  | .stat _ => Except Errno (Bool × UInt64)
  | .mkdirAll _ => Except Errno Unit
  | .mkdir _ _ => Except Errno Unit
  | .chmod _ _ => Except Errno Unit
  | .chown _ _ _ => Except Errno Unit
  | .removeAll _ => Except Errno Unit
  | .readdirnames _ => Except Errno (List Str)
  | .statfs _ => Except Errno Int64
  | .getXattr _ _ => Except Errno Str
  | .setXattr _ _ _ => Except Errno Unit
  | .pathIsWekaMount _ => Bool
  | .listPersistentVolumes => Except Err (List PersistentVolume)
  | .now => ℤ
  | .pollBudget => Nat
  | .die _ => Empty

abbrev Event : Type := Sigma Ans

abbrev M : Type → Type := Prog Ans

def ask (o : Op) : M (Ans o) := Prog.op o

/-- The process ends here: a nil dereference, or the driver's own exit. -/
def die {α : Type} (text : Str) : M α := .call (.die text) fun r => r.elim

@[simp] theorem not_runs_die {α : Type} {text : Str} {t : List Event} {a : α} :
    ¬ Prog.Runs (die text) t a := by
  intro h
  cases h with
  | call r _ => exact r.elim

end CsiWekafs
