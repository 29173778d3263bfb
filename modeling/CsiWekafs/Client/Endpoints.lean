import CsiWekafs.Lib.GoMap
import CsiWekafs.Lib.GoNet
import CsiWekafs.Lib.Split
import CsiWekafs.Numerals

namespace CsiWekafs

structure ApiEndPoint where
  ipAddress : Str
  mgmtPort : Int64
  lastActive : ℤ
  deriving DecidableEq, Repr

def endpointKey (ipAddress : Str) (mgmtPort : Int64) : Str := ipAddress ++ ":" ++ itoa mgmtPort

def ApiEndPoint.string (e : ApiEndPoint) : Str := endpointKey e.ipAddress e.mgmtPort

def isValidIPv6Address (ipStr : Str) : Bool :=
  match GoNet.parseIP ipStr with
  | some ip => !GoNet.isTo4 ip
  | none => false

def isValidIPv4Address (ipStr : Str) : Bool :=
  match GoNet.parseIP ipStr with
  | some ip => GoNet.isTo4 ip
  | none => false

def isAlphanumeric (c : Char) : Bool :=
  ('a' ≤ c && c ≤ 'z') || ('A' ≤ c && c ≤ 'Z') || ('0' ≤ c && c ≤ '9')

/-- A part of a hostname: letters, digits and inner hyphens. -/
def isHostnameLabel (s : Str) : Bool :=
  s ≠ [] && s.length ≤ 63 && s.all (fun c => isAlphanumeric c || c = '-') &&
    (s.head?.all isAlphanumeric) && (s.getLast?.all isAlphanumeric)

/-- The last part of a hostname has two characters at least. -/
def isValidHostname (hostname : Str) : Bool :=
  let labels := hostname.splitOn '.'
  byteLen hostname ≤ 253 && labels.all isHostnameLabel && 2 ≤ (labels.getLastD []).length

def defaultPort : Int64 := 14000

/-- The host and the port of a configured endpoint. -/
def splitEndpoint (e : Str) : Str × Int64 :=
  let split := e.splitOn ':'
  if 1 < split.length then
    ([':'].intercalate split.dropLast, (atoi (split.getLastD [])).getD defaultPort)
  else (e, defaultPort)

def isValidHost (ip : Str) : Bool :=
  isValidIPv4Address ip || isValidIPv6Address ip || isValidHostname ip

def isValidEndpoint (e : Str) : Bool := isValidHost (splitEndpoint e).1

def newEndpoint (e : Str) (now : ℤ) : ApiEndPoint where
  ipAddress := (splitEndpoint e).1
  mgmtPort := (splitEndpoint e).2
  lastActive := now

/-- The endpoints of a client: those of its credentials and those that it uses. -/
structure Endpoints where
  configured : List Str
  actualApiEndpoints : GoMap Str ApiEndPoint
  currentEndpoint : Str

/-- The readings of the clock in one loop are taken as one. -/
def Endpoints.resetDefaultEndpoints (s : Endpoints) (now : ℤ) : Endpoints :=
  { s with actualApiEndpoints := s.configured.foldl (fun m e =>
      if isValidEndpoint e then m.insert e (newEndpoint e now) else m) ∅ }

/-- Takes up the endpoint at the given place among the keys of the map. -/
def Endpoints.rotateEndpoint (s : Endpoints) (now : ℤ) (pick : Nat) : Endpoints :=
  let s := if s.actualApiEndpoints.entries = [] then s.resetDefaultEndpoints now else s
  if s.actualApiEndpoints.entries = [] then { s with currentEndpoint := [] }
  else
    let keys := s.actualApiEndpoints.keys
    { s with currentEndpoint := keys.getD (pick % keys.length) [] }

/-- The endpoint to work against. None is a nil pointer. -/
def Endpoints.getEndpoint (s : Endpoints) (now : ℤ) (pick : Nat) : Endpoints × Option ApiEndPoint :=
  let s := if s.currentEndpoint = [] then s.rotateEndpoint now pick else s
  (s, s.actualApiEndpoints.lookup s.currentEndpoint)

structure WekaNode where
  mode : Str := "backend"
  ips : List Str := []
  mgmtPort : Int64 := defaultPort
  roles : List Str := ["MANAGEMENT"]
  deriving DecidableEq, Repr

def WekaNode.hasRole (n : WekaNode) (role : Str) : Bool := role ∈ n.roles

def nodeRoleManagement : Str := "MANAGEMENT"

def nodeModeBackend : Str := "backend"

def getNodesByRole (res : List WekaNode) (role : Str) : List WekaNode := res.filter (·.hasRole role)

/-- The addresses of the backends. -/
def backendAddresses (nodes : List WekaNode) : List (Str × Int64) :=
  (nodes.filter (·.mode = nodeModeBackend)).flatMap fun n => n.ips.map fun ip => (ip, n.mgmtPort)

/-- One reported address. An endpoint under its key is taken over and marked as active, in both maps. -/
def reportEndpoint (updateTime : ℤ) (m : GoMap Str ApiEndPoint × GoMap Str ApiEndPoint)
    (a : Str × Int64) : GoMap Str ApiEndPoint × GoMap Str ApiEndPoint :=
  let key := endpointKey a.1 a.2
  match m.1.lookup key with
  | some existing =>
    let endpoint := { existing with lastActive := updateTime }
    (m.1.insert key endpoint, m.2.insert key endpoint)
  | none => (m.1, m.2.insert key ⟨a.1, a.2, updateTime⟩)

/-- Takes out the endpoints that are not active any more, each by its printed address. -/
def pruneEndpoints (updateTime : ℤ) (existing newEndpoints : GoMap Str ApiEndPoint) :
    GoMap Str ApiEndPoint :=
  existing.entries.foldl (fun m e => if e.2.lastActive < updateTime then m.erase e.2.string else m)
    newEndpoints

def noManagementNodesError : Err :=
  .plain "no management nodes found, could not update api endpoints"

/-- The update after the nodes were asked for. A request that failed leaves no nodes. -/
def Endpoints.updateApiEndpoints (s : Endpoints) (res : List WekaNode) (updateTime now : ℤ)
    (pick : Nat) : Endpoints × Except Err Unit :=
  let nodes := getNodesByRole res nodeRoleManagement
  if nodes = [] then (s, .error noManagementNodesError)
  else
    let m := (backendAddresses nodes).foldl (reportEndpoint updateTime) (s.actualApiEndpoints, ∅)
    let s := { s with actualApiEndpoints := pruneEndpoints updateTime m.1 m.2 }
    (s.rotateEndpoint now pick, .ok ())

/-- The endpoints of a new client. None where it cannot be made. -/
def newEndpoints (endpoints : List Str) (now : ℤ) : Option Endpoints :=
  if endpoints.length < 1 then none
  else some (Endpoints.resetDefaultEndpoints ⟨endpoints, ∅, []⟩ now)

example : isValidEndpoint "10.0.0.1" = true ∧ isValidEndpoint "fe80::1:14000" = true ∧
    isValidEndpoint "weka-1.local:14000" = true ∧ isValidEndpoint "weka_1" = false ∧
    isValidEndpoint "w" = false := by decide

end CsiWekafs
