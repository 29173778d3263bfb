import Mathlib.Algebra.GroupWithZero.Nat
import Mathlib.Data.List.Basic
import Mathlib.Tactic.Common

namespace CsiWekafs

/-- Text. Requests and replies reach the driver as valid UTF-8, so a string is its characters. -/
abbrev Str : Type := List Char

instance : Coe String Str := ⟨String.toList⟩

instance instLawfulBEqStr : LawfulBEq Str := inferInstance

/-- The length Go's `len` gives: bytes of the UTF-8 encoding. -/
def byteLen (s : Str) : Nat := (s.map Char.utf8Size).sum

/-- The text occurs in the other. -/
def contains (s sub : Str) : Bool := s.tails.any sub.isPrefixOf

theorem contains_singleton (s : Str) (c : Char) : contains s [c] = true ↔ c ∈ s := by
  induction s with
  | nil => simp [contains]
  | cons d s ih =>
    have ht : contains (d :: s) [c] = ([c].isPrefixOf (d :: s) || contains s [c]) := rfl
    simp [ht, ih]

theorem forall_mem_of_all {l : List Char} {p : Char → Prop} [DecidablePred p]
    (h : (l.all fun c => decide (p c)) = true) : ∀ c ∈ l, p c := by
  simpa using h

theorem forall_mem_option_of_all {o : Option Char} {p : Char → Prop} [DecidablePred p]
    (h : (o.all fun c => decide (p c)) = true) : ∀ c ∈ o, p c := by
  cases o with
  | none => simp
  | some d => simpa using h

def itoa {α : Type} [ToString α] (a : α) : Str := (toString a).toList

/-- The zero time, in nanoseconds of the epoch. -/
def zeroTime : Int := -62135596800000000000

/-- The gRPC status codes the driver answers with. -/
inductive Code
  | invalidArgument | notFound | alreadyExists | permissionDenied | resourceExhausted
  | failedPrecondition | outOfRange | internal | unavailable | unknown
  deriving DecidableEq, Repr

/-- The kinds of error an API call ends with, after the answer's HTTP status. -/
inductive ApiErrorKind
  | general | noEndpoints | authorization | forbidden | badRequest | conflict | internal
  | unreadable | notAvailable | notFound | retriesExceeded | transport
  deriving DecidableEq, Repr

/-- The operating system errors the driver tells apart. -/
inductive Errno
  | notExist | exist | other
  deriving DecidableEq, Repr

/-- A Go error value. -/
inductive Err
  | status (code : Code) (text : Str)
  | plain (t : Str)
  | api (kind : ApiErrorKind) (text : Str) (statusCode : Nat) (errorCodes : List Str)
  | objectNotFound
  | multipleObjectsFound
  | requestMissingParams
  | asyncOperationTimedOut
  | objectMarkedForDeletion
  | mountPermissionDenied
  | os (errno : Errno)
  deriving DecidableEq, Repr

def ApiErrorKind.getType : ApiErrorKind → Str
  | .general => "ApiError"
  | .noEndpoints => "ApiNoEndpointsError"
  | .authorization => "ApiAuthorizationError"
  | .forbidden => "ApiForbiddenError"
  | .badRequest => "ApiBadRequestError"
  | .conflict => "ApiError"
  | .internal => "ApiInternalError"
  | .unreadable => "ApiInternalError"
  | .notAvailable => "ApiNotAvailableError"
  | .notFound => "ApiNotFoundError"
  | .retriesExceeded => "ApiError"
  | .transport => "transportError"

def Code.string : Code → Str
  | .invalidArgument => "InvalidArgument"
  | .notFound => "NotFound"
  | .alreadyExists => "AlreadyExists"
  | .permissionDenied => "PermissionDenied"
  | .resourceExhausted => "ResourceExhausted"
  | .failedPrecondition => "FailedPrecondition"
  | .outOfRange => "OutOfRange"
  | .internal => "Internal"
  | .unavailable => "Unavailable"
  | .unknown => "Unknown"

/-- The text of an error. The bodies that an API error quotes are left out. -/
def Err.error : Err → Str
  | .status code text => "rpc error: code = " ++ code.string ++ " desc = " ++ text
  | .plain t => t
  | .api .noEndpoints _ _ _ => "No endpoints could be found for API client"
  | .api .transport text _ _ => text
  | .api kind text statusCode _ => kind.getType ++ ": " ++ text ++ ", status code: " ++ itoa statusCode
  | .objectNotFound => "object not found"
  | .multipleObjectsFound => "ambiguous filter, multiple objects match"
  | .requestMissingParams => "request cannot be sent since some required params are missing"
  | .asyncOperationTimedOut => "Asynchronous operation timed out"
  | .objectMarkedForDeletion => "Object is marked for deletion!"
  | .mountPermissionDenied => "Permission denied for filesystem"
  | .os .notExist => "no such file or directory"
  | .os .exist => "file exists"
  | .os .other => "input/output error"

end CsiWekafs
