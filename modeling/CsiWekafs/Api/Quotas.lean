import CsiWekafs.Api.Calls

namespace CsiWekafs

open Prog

/-- A decimal number that fits in 64 bits. -/
def parseUint (s : Str) : Except Err UInt64 :=
  if s ≠ [] ∧ s.all Char.isDigit then
    let n := s.foldl (fun n c => n * 10 + (c.toNat - 48)) 0
    if n < 2 ^ 64 then .ok (UInt64.ofNat n)
    else .error (.plain ("strconv.ParseUint: parsing \"" ++ s ++ "\": value out of range"))
  else .error (.plain ("strconv.ParseUint: parsing \"" ++ s ++ "\": invalid syntax"))

/-- A bad request is like an empty answer: there is no such path. -/
def resolvePathToInode (fs : FileSystem) (path : Str) : M (Except Err UInt64) := do
  if path = [] then return .error .requestMissingParams
  match ← request (.resolvePath fs.uid path) with
  | .error (.api .notFound _ _ _) => return .error .objectNotFound
  | .error (.api .badRequest _ _ _) => return .error .objectNotFound
  | .error e => return .error e
  | .ok data =>
    match data.getD ([] : Str) with
    | [] => return .error .objectNotFound
    | inodeId => return parseUint inodeId

/-- Looks into the answer of an internal error, which an unreadable answer does not have. -/
def getQuotaByFileSystemAndInode (fs : FileSystem) (inodeId : UInt64) : M (Except Err Quota) := do
  if inodeId = 0 then return .error .requestMissingParams
  match ← request (.getQuota fs.uid inodeId) with
  | .error (.api .notFound _ _ _) => return .error .objectNotFound
  | .error (.api .unreadable _ _ _) => die "nil API response of an internal error"
  | .error (.api .internal message s c) =>
    if contains message "Directory has no quota" then return .error .objectNotFound
    else return .error (.api .internal message s c)
  | .error e => return .error e
  | .ok data => return .ok { (data.getD ({} : Quota)) with filesystemUid := fs.uid, inodeId := inodeId }

def quotaStatusActive : Str := "ACTIVE"

def waitForQuotaActive (fsUid : Uid) (inodeId : UInt64) : Nat → M (Except Err Unit)
  | 0 => return .error (.plain "timed out waiting for the condition")
  | n + 1 => do
    match ← getQuotaByFileSystemAndInode { uid := fsUid } inodeId with
    | .error e => return .error e
    | .ok q => if q.status = quotaStatusActive then return .ok () else waitForQuotaActive fsUid inodeId n

def createQuota (qr : QuotaCreateRequest) : M (Except Err Unit) := do
  if qr.inodeId = 0 ∨ qr.filesystemUid = nilUid ∨ qr.capacityLimit = 0 then
    return .error .requestMissingParams
  match ← request (.putQuota qr) with
  | .error e => return .error e
  | .ok _ => waitForQuotaActive qr.filesystemUid qr.inodeId (← ask .pollBudget)

end CsiWekafs
