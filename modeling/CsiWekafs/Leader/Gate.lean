import CsiWekafs.Lib.Machine
import CsiWekafs.MountOptions
import CsiWekafs.Volume.Params

namespace CsiWekafs

/-- The command line and the environment of wait-for-leader. -/
structure WaitForLeader where
  args : List Str
  getenv : Str → Str

def defaultPollIntervalSecs : Int64 := 1

def defaultLeaderLossDebounceSecs : Int64 := 3

def WaitForLeader.parseEnvInt (w : WaitForLeader) (name : Str) (defaultValue : Int64) : Int64 :=
  let raw := trimSpace (w.getenv name)
  if raw = [] then defaultValue
  else match atoi raw with
    | none => defaultValue
    | some parsed => if parsed ≤ 0 then defaultValue else parsed

/-- A number of seconds as a duration in nanoseconds, which wraps around. -/
def secondsDuration (n : Int64) : Int64 := n * 1000000000

def WaitForLeader.pollInterval (w : WaitForLeader) : Int64 :=
  secondsDuration (w.parseEnvInt "WAIT_POLL_INTERVAL" defaultPollIntervalSecs)

def WaitForLeader.leaderLossDebounce (w : WaitForLeader) : Int64 :=
  secondsDuration (w.parseEnvInt "LEADER_LOSS_DEBOUNCE" defaultLeaderLossDebounceSecs)

/-- What the wait for the child returns. -/
inductive ChildResult
  | success
  | exitError (code : Int)
  | otherError
  deriving DecidableEq, Repr

def ChildResult.exitCode : ChildResult → Int
  | .success => 0
  | .exitError code => code
  | .otherError => 1

inductive StopReason
  | signal | leadershipLost
  deriving DecidableEq, Repr

/-- Where the main goroutine stands: about to look at the leader file, to dial the socket or to
start the child, or blocked in a select. The monitor loop has its missingSince. -/
inductive GatePhase
  | leaderFile | leaderFileSelect
  | socketFile | socketDial | socketSelect
  | startChild
  | monitorSelect (missingSince : Int)
  | monitorFile (missingSince : Int)
  | monitorMissing (missingSince : Int)
  | terminateSelect (reason : StopReason)
  | killed (reason : StopReason)
  | exited (code : Int)
  | panicked
  deriving DecidableEq, Repr

/-- The children are numbered in the order of their starts. The channel childDone belongs to the
last one. -/
structure GateState where
  phase : GatePhase
  alive : List Nat
  started : Nat
  childDone : Option ChildResult
  terminated : Bool
  deriving DecidableEq, Repr

/-- What the system does to the program (a termination signal, the exit of a child), and what the
main goroutine does next with the result that it sees. -/
inductive GateEvent
  | signal
  | childExit (child : Nat) (result : ChildResult)
  | fileExists (present : Bool)
  | dial (connected : Bool)
  | start (ok : Bool)
  | clock (now : Int)
  | tick
  | graceElapsed
  | recvTerm
  | recvChild
  deriving DecidableEq, Repr

/-- The effects on the child process. -/
inductive GateAction
  | start (child : Nat)
  | terminate (reason : StopReason)
  deriving DecidableEq, Repr

namespace GateState

def goTo (s : GateState) (phase : GatePhase) : Option (GateState × Option GateAction) :=
  some ({ s with phase }, none)

/-- The select takes the branch of the termination context where it is done. -/
def onTerm (s : GateState) (next : Option (GateState × Option GateAction)) :
    Option (GateState × Option GateAction) :=
  if s.terminated then next else none

/-- The select takes the branch of childDone where the result was sent. -/
def onChildDone (s : GateState) (next : ChildResult → GatePhase) :
    Option (GateState × Option GateAction) :=
  s.childDone.bind fun result => s.goTo (next result)

/-- terminateChild begins with the signal to the child. -/
def terminateChild (s : GateState) (reason : StopReason) :
    Option (GateState × Option GateAction) :=
  some ({ s with phase := .terminateSelect reason }, some (.terminate reason))

/-- Where main goes on after terminateChild. -/
def afterTerminate : StopReason → GatePhase
  | .signal => .exited 0
  | .leadershipLost => .leaderFile

end GateState

namespace WaitForLeader

open GateState

def initialPhase (w : WaitForLeader) : GatePhase :=
  if w.args.length < 2 then .exited 1
  else if w.pollInterval ≤ 0 then .panicked
  else .leaderFile

def initial (w : WaitForLeader) : GateState :=
  { phase := w.initialPhase, alive := [], started := 0, childDone := none, terminated := false }

/-- A step of the main goroutine. -/
def mainStep (w : WaitForLeader) (s : GateState) (e : GateEvent) :
    Option (GateState × Option GateAction) :=
  match s.phase, e with
  | .leaderFile, .fileExists true => s.goTo .socketFile
  | .leaderFile, .fileExists false => s.goTo .leaderFileSelect
  | .leaderFileSelect, .recvTerm => s.onTerm (s.goTo (.exited 0))
  | .leaderFileSelect, .tick => s.goTo .leaderFile
  | .socketFile, .fileExists false => s.goTo .leaderFile
  | .socketFile, .fileExists true => s.goTo .socketDial
  | .socketDial, .dial true => s.goTo .startChild
  | .socketDial, .dial false => s.goTo .socketSelect
  | .socketSelect, .recvTerm => s.onTerm (s.goTo (.exited 0))
  | .socketSelect, .tick => s.goTo .socketFile
  | .startChild, .start false => s.goTo (.exited 1)
  | .startChild, .start true =>
    some ({ s with phase := .monitorSelect zeroTime, alive := s.started :: s.alive,
                   started := s.started + 1, childDone := none }, some (.start s.started))
  | .monitorSelect _, .recvTerm => s.onTerm (s.terminateChild .signal)
  | .monitorSelect _, .recvChild => s.onChildDone fun result => .exited result.exitCode
  | .monitorSelect missingSince, .tick => s.goTo (.monitorFile missingSince)
  | .monitorFile _, .fileExists true => s.goTo (.monitorSelect zeroTime)
  | .monitorFile missingSince, .fileExists false => s.goTo (.monitorMissing missingSince)
  | .monitorMissing missingSince, .clock now =>
    if missingSince = zeroTime then s.goTo (.monitorSelect now)
    else if now - missingSince < w.leaderLossDebounce.toInt then
      s.goTo (.monitorSelect missingSince)
    else s.terminateChild .leadershipLost
  | .terminateSelect reason, .recvChild => s.onChildDone fun _ => afterTerminate reason
  | .terminateSelect reason, .graceElapsed => s.goTo (.killed reason)
  | .killed reason, .recvChild => s.onChildDone fun _ => afterTerminate reason
  | _, _ => none

def step (w : WaitForLeader) (s : GateState) (e : GateEvent) :
    Option (GateState × Option GateAction) :=
  match e with
  | .signal => some ({ s with terminated := true }, none)
  | .childExit child result =>
    if child ∈ s.alive then
      some ({ s with alive := s.alive.erase child,
                     childDone := if child + 1 = s.started then some result else s.childDone }, none)
    else none
  | e => w.mainStep s e

end WaitForLeader

end CsiWekafs
