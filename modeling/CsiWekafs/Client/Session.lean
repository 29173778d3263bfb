import CsiWekafs.Api.Request
import CsiWekafs.Client.Endpoints
import CsiWekafs.Client.Store

namespace CsiWekafs

open Prog

structure LoginResponse where
  accessToken : Str := []
  expiresIn : Int64 := 0
  refreshToken : Str := []

structure RefreshResponse where
  accessToken : Str := []
  refreshToken : Str := []

structure TokenExpiryResponse where
  accessTokenExpiry : Int64 := 0
  refreshTokenExpiry : Int64 := 0

structure WhoamiResponse where
  role : Str := []

structure ClusterInfoResponse where
  name : Str := []

/-- The calls that a client makes of its own, and the others by their method, path and payload. -/
inductive ApiCall
  | login (username password org : Str)
  | refresh (refreshToken : Str)
  | tokenExpiry
  | whoami
  | clusterInfo
  | nodes
  | other (method path : Str) (payload : Option Str)
  deriving DecidableEq

def ApiCall.Resp : ApiCall → Type
  | .login _ _ _ => LoginResponse
  | .refresh _ => RefreshResponse
  | .tokenExpiry => TokenExpiryResponse
  | .whoami => WhoamiResponse
  | .clusterInfo => ClusterInfoResponse
  | .nodes => List WekaNode
  | .other _ _ _ => Str

/-- The caller's object before anything is decoded into it. -/
def ApiCall.zero : (c : ApiCall) → c.Resp
  | .login _ _ _ => ({} : LoginResponse)
  | .refresh _ => ({} : RefreshResponse)
  | .tokenExpiry => ({} : TokenExpiryResponse)
  | .whoami => ({} : WhoamiResponse)
  | .clusterInfo => ({} : ClusterInfoResponse)
  | .nodes => ([] : List WekaNode)
  | .other _ _ _ => ([] : Str)

/-- One exchange with an endpoint. A body that is not the JSON of a reply is malformed, an empty one
too; the data of a reply is what its decoding left in the caller's object. -/
inductive Exchange (α : Type)
  | transport (text : Str)
  | unreadable (status : Nat) (text : Str)
  | malformed (status : Nat) (empty : Bool)
  | reply (status : Nat) (errorCodes : List Str) (message : Str) (decoded : Bool) (data : α)

def Exchange.outcome {α : Type} : Exchange α → HttpOutcome α
  | .transport text => .transport text
  | .unreadable status text => .unreadable status text
  | .malformed status _ => .malformed status
  | .reply status errorCodes message _ data => .reply status errorCodes message data

/-- What a client asks of its surroundings. `relock` is the wait for a mutex that the same chain of
calls holds, `nilEndpoint` the use of an endpoint that is not there; neither is ever answered. -/
inductive ClientOp
  | now (last : ℤ)
  | choose
  | exchange (endpoint : ApiEndPoint) (c : ApiCall) (authorization : Option Str)
  | relock
  | nilEndpoint

def ClientOp.Ans : ClientOp → Type
  | .now last => {t : ℤ // last ≤ t}
  | .choose => Nat
  | .exchange _ c _ => Exchange c.Resp
  | .relock => Empty
  | .nilEndpoint => Empty

abbrev ClientM := Prog ClientOp.Ans

abbrev ClientEvent := Sigma ClientOp.Ans

abbrev perform (o : ClientOp) : ClientM o.Ans := op o

/-- A client: its credentials, endpoints and tokens. Times are in nanoseconds, intervals in seconds;
`clock` is the last time that was read. -/
structure Session where
  credentials : Credentials
  endpoints : Endpoints
  apiToken : Str := []
  refreshToken : Str := []
  apiTokenExpiryDate : ℤ
  refreshTokenExpiryDate : ℤ
  apiTokenExpiryInterval : Int64 := 0
  refreshTokenExpiryInterval : Int64 := 0
  apiUserRole : Str := []
  clusterName : Str := []
  clock : ℤ

/-- A new client. None where it cannot be made. -/
def newSession (credentials : Credentials) (now : ℤ) : Option Session :=
  (newEndpoints credentials.endpoints now).map fun endpoints =>
    { credentials, endpoints, apiTokenExpiryDate := zeroTime, refreshTokenExpiryDate := zeroTime,
      clock := now }

namespace Session

def timeNow (s : Session) : ClientM (ℤ × Session) := do
  let t ← perform (.now s.clock)
  return (t.1, { s with clock := t.1 })

def rotateEndpoint (s : Session) : ClientM Session := do
  let (now, s) ← s.timeNow
  let pick ← perform .choose
  return { s with endpoints := s.endpoints.rotateEndpoint now pick }

def chooseEndpoint (s : Session) : ClientM Session :=
  if s.endpoints.currentEndpoint = [] then s.rotateEndpoint else return s

def getEndpoint (s : Session) : ClientM (ApiEndPoint × Session) := do
  let s ← s.chooseEndpoint
  match s.endpoints.actualApiEndpoints.lookup s.endpoints.currentEndpoint with
  | some e => return (e, s)
  | none => return nomatch (← perform .nilEndpoint)

def isLoggedIn (s : Session) : ClientM (Bool × Session) := do
  if s.apiToken = [] then return (false, s)
  let (now, s) ← s.timeNow
  return (!(decide (s.refreshTokenExpiryDate < now) && decide (0 < s.refreshTokenExpiryInterval)), s)

/-- One exchange. Where there are no endpoints nothing is sent. -/
def send (s : Session) (c : ApiCall) : ClientM (Option (Exchange c.Resp) × Session) := do
  if s.credentials.endpoints.length < 1 then return (none, s)
  let (endpoint, s) ← s.getEndpoint
  let (loggedIn, s) ← s.isLoggedIn
  let o ← perform (.exchange endpoint c (if loggedIn then some s.apiToken else none))
  return (some o, s)

/-- The result of a request is nil or an error; with nil it is what the caller's object then holds. -/
def requestResult {c : ApiCall} (o : Exchange c.Resp) : Except Err c.Resp :=
  match answer o.outcome with
  | .error e => .error e
  | .ok data => .ok (data.getD c.zero)

/-- Sends a call and, after a transient error, sends it again to another endpoint so many times. -/
def retryBackoff (c : ApiCall) : Nat → Session → ClientM (Except Err c.Resp × Session)
  | n, s => do
    let (o, s) ← s.send c
    match o with
    | none => return (.error noEndpointsError, s)
    | some o =>
      if transientOutcome o.outcome then
        let s ← s.rotateEndpoint
        match n with
        | 0 => return (requestResult o, s)
        | n + 1 => retryBackoff c n s
      else return (requestResult o, s)

/-- A call without a look at the tokens. -/
def request (s : Session) (c : ApiCall) : ClientM (Except Err c.Resp × Session) :=
  retryBackoff c (apiRetryMaxCount - 1) s

def seconds (n : Int64) : ℤ := (n * 1000000000).toInt

/-- Looks after the token before a call: refreshes it when it has expired, or logs in. -/
def initWith (login : Session → ClientM (Except Err Unit × Session)) (s : Session) :
    ClientM (Except Err Unit × Session) := do
  let (now, s) ← s.timeNow
  if now < s.apiTokenExpiryDate then return (.ok (), s)
  let (loggedIn, s) ← s.isLoggedIn
  if !loggedIn then login s
  else
    let (r, s) ← s.request (.refresh s.refreshToken)
    match r with
    | .error _ => login s
    | .ok (data : RefreshResponse) =>
      let (now, s) ← s.timeNow
      return (.ok (), { s with
        refreshToken := data.refreshToken
        apiToken := data.accessToken
        apiTokenExpiryDate := now + seconds (s.apiTokenExpiryInterval - 30) })

def requestWith (login : Session → ClientM (Except Err Unit × Session)) (s : Session) (c : ApiCall) :
    ClientM (Except Err c.Resp × Session) := do
  let (r, s) ← s.initWith login
  match r with
  | .error e => return (.error e, s)
  | .ok () => s.request c

/-- Login where the chain of calls holds the mutex already. -/
def loginHeld (s : Session) : ClientM (Except Err Unit × Session) := do
  let (loggedIn, s) ← s.isLoggedIn
  if loggedIn then return (.ok (), s)
  return nomatch (← perform .relock)

/-- A call from inside Login. -/
def requestHeld (s : Session) (c : ApiCall) : ClientM (Except Err c.Resp × Session) :=
  s.requestWith loginHeld c

def updateTokensExpiryInterval (s : Session) : ClientM Session := do
  let (r, s) ← s.requestHeld .tokenExpiry
  match r with
  | .error _ => return s
  | .ok (data : TokenExpiryResponse) =>
    return { s with
      refreshTokenExpiryInterval := data.refreshTokenExpiry
      apiTokenExpiryInterval := data.accessTokenExpiry }

def fetchUserRole (s : Session) : ClientM Session := do
  let (r, s) ← s.requestHeld .whoami
  match r with
  | .error _ => return s
  | .ok (data : WhoamiResponse) => return { s with apiUserRole := data.role }

def hasCSIPermissions (s : Session) : Bool :=
  s.apiUserRole ∈ (["CSI", "ClusterAdmin", "OrgAdmin"] : List Str)

def insufficientPermissionsError (username : Str) : Err :=
  .plain ("user " ++ username ++
    " does not have sufficient permissions for performing CSI operations")

def ensureSufficientPermissions (s : Session) : ClientM (Except Err Unit × Session) := do
  let s ← s.fetchUserRole
  if s.hasCSIPermissions then return (.ok (), s)
  else return (.error (insufficientPermissionsError s.credentials.username), s)

def fetchClusterInfo (s : Session) : ClientM (Except Err Unit × Session) := do
  let (r, s) ← s.requestHeld .clusterInfo
  match r with
  | .error e => return (.error e, s)
  | .ok (data : ClusterInfoResponse) => return (.ok (), { s with clusterName := data.name })

/-- An error of the request is taken for an answer without nodes. -/
def updateApiEndpoints (s : Session) : ClientM (Except Err Unit × Session) := do
  let (r, s) ← s.requestHeld .nodes
  let res : List WekaNode := match r with
    | .error _ => []
    | .ok (data : List WekaNode) => data
  let (updateTime, s) ← s.timeNow
  let (now, s) ← s.timeNow
  let pick ← perform .choose
  let (endpoints, r) := s.endpoints.updateApiEndpoints res updateTime now pick
  return (r, { s with endpoints := endpoints })

/-- The endpoints after a login. The endpoint in use is read for the log. -/
def refreshEndpoints (s : Session) : ClientM Session := do
  if s.credentials.autoUpdateEndpoints then
    let (r, s) ← s.updateApiEndpoints
    match r with
    | .error _ => return s
    | .ok () =>
      let (_, s) ← s.getEndpoint
      return s
  else
    let (_, s) ← s.getEndpoint
    return s

def fetchTokensExpiryInterval (s : Session) : ClientM Session :=
  if s.refreshTokenExpiryInterval < 1 then s.updateTokensExpiryInterval else return s

def updateRefreshDate (s : Session) : ClientM Session := do
  let s ← s.fetchTokensExpiryInterval
  let (now, s) ← s.timeNow
  return { s with refreshTokenExpiryDate := now + seconds s.refreshTokenExpiryInterval }

def withLogin (s : Session) (data : LoginResponse) (now : ℤ) : Session :=
  { s with
    apiToken := data.accessToken
    refreshToken := data.refreshToken
    apiTokenExpiryDate := now + seconds (data.expiresIn - 30) }

/-- What Login does with the tokens of its reply. -/
def takeLogin (s : Session) (data : LoginResponse) : ClientM Session := do
  let (now, s) ← s.timeNow
  (s.withLogin data now).updateRefreshDate

def isAuthorizationError : Err → Bool
  | .api .authorization _ _ _ => true
  | _ => false

/-- The checks that follow once Login has its tokens. -/
def finishLogin (s : Session) : ClientM (Except Err Unit × Session) := do
  let (r, s) ← s.ensureSufficientPermissions
  match r with
  | .error e => return (.error e, s)
  | .ok () =>
    let (r, s) ← s.fetchClusterInfo
    match r with
    | .error e => return (.error e, s)
    | .ok () =>
      let s ← s.refreshEndpoints
      return (.ok (), s)

/-- Login's critical section. -/
def loginLocked (s : Session) : ClientM (Except Err Unit × Session) := do
  let c := s.credentials
  let (r, s) ← s.request (.login c.username c.password c.organization)
  match r with
  | .error e =>
    if isAuthorizationError e then
      let (_, s) ← s.getEndpoint
      return (.error e, s)
    else return (.error e, s)
  | .ok (data : LoginResponse) =>
    let s ← s.takeLogin data
    s.finishLogin

def login (s : Session) : ClientM (Except Err Unit × Session) := do
  let (loggedIn, s) ← s.isLoggedIn
  if loggedIn then return (.ok (), s)
  s.loginLocked

def init (s : Session) : ClientM (Except Err Unit × Session) := s.initWith login

/-- A call by a client that first makes sure that it is logged in. -/
def requestInit (s : Session) (c : ApiCall) : ClientM (Except Err c.Resp × Session) :=
  s.requestWith login c

end Session

end CsiWekafs
