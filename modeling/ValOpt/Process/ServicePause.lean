import ValOpt.Process.Services
import ValOpt.Process.Terminator

/-!
# Pausing services

The other half of `process/services.rs`, which stops the services of tier 3, and the table of
service tiers of `process/safety_db.rs`.  A stop that the service control manager accepts is pending
until it completes, whenever that is; the optimizer looks for the end of it for two seconds.
-/

namespace ValOpt

/-! ### The table -/

/-- The names of the services in each tier. -/
def tier0Services : List String :=
  ["vgc", "vgk", "cryptsvc", "rpcss", "rpceptmapper", "bfe", "dnscache", "dhcp",
    "audioendpointbuilder", "audiosrv", "mpssvc", "windefend", "securityhealthservice", "wuauserv"]

@[inherit_doc tier0Services]
def tier3Services : List String := ["sysmain", "diagtrack", "spooler"]

/-- `ProcessSafetyDb::classify_service`. -/
def classifyService (name : String) : ProcessTier :=
  let clean := toLowercase name
  if clean ∈ tier0Services then .tier0Protected
  else if clean ∈ tier3Services then .tier3ServicePause
  else .unknown

/-- `SafetyViolationError` for services. -/
structure ProtectedService where
  name : String
  deriving DecidableEq, Repr

/-- `ProcessSafetyDb::assert_safe_to_stop_service`. -/
def assertSafeToStopService (name : String) : Except ProtectedService Unit :=
  if classifyService name = .tier0Protected then .error ⟨name⟩ else .ok ()

/-! ### The service control manager -/

/-- `SERVICE_STOPPED`. -/
def serviceStopped : UInt32 := 1

/-- `SERVICE_STOP_PENDING`. -/
def serviceStopPending : UInt32 := 3

namespace Machine

variable (m : Machine)

/-- The service named is in this state afterwards. -/
def setService (name : String) (state : UInt32) : Machine :=
  { m with services := Function.update m.services name (some state) }

/-- A pending stop of the service completes. -/
def completeStop (name : String) : Machine :=
  if m.services name = some serviceStopPending then m.setService name serviceStopped else m

/-- All pending stops complete. -/
def completePendingStops : Machine :=
  { m with services := fun name =>
      if m.services name = some serviceStopPending then some serviceStopped else m.services name }

end Machine

/-- One look at a service that is to stop: whether the stop completes before it, and whether the
query is answered. -/
structure StopPoll where
  completes : Bool
  answers : Bool
  deriving DecidableEq, Repr

/-- The machine as the look at the service finds it. -/
def StopPoll.finds (poll : StopPoll) (name : String) (m : Machine) : Machine :=
  if poll.completes then m.completeStop name else m

/-- What one call of `stop_service` is answered, and the looks it takes in its two seconds.  The
service is opened with `SERVICE_QUERY_STATUS | SERVICE_CONTROL_STOP`, where the second is not an
access right: Windows denies `ControlService` to such a handle, so that `accepts` is then
`false`. -/
structure StopAnswers where
  opensScm : Bool
  opensService : Bool
  queries : Bool
  accepts : Bool
  polls : List StopPoll
  deriving DecidableEq, Repr

/-! ### The optimizer -/

/-- `TARGET_TIER3_SERVICES`. -/
def targetTier3Services : List String := ["SysMain", "DiagTrack", "Spooler"]

/-- The loop of `stop_service` that waits for the service: whether it was seen stopped. -/
def waitForStop (serviceName : String) : List StopPoll → Machine → Bool × Machine
  | [], m => (false, m)
  | poll :: polls, m =>
    let m := poll.finds serviceName m
    if poll.answers && m.services serviceName = some serviceStopped then (true, m)
    else waitForStop serviceName polls m

/-- `stop_service`. -/
def stopService (a : StopAnswers) (serviceName : String) (m : Machine) :
    Except ProtectedService ServiceBackup × Machine :=
  match assertSafeToStopService serviceName with
  | .error e => (.error e, m)
  | .ok () =>
    let backup : ServiceBackup := ⟨serviceName, serviceName, serviceStopped, false⟩
    if a.opensScm && a.opensService then
      match m.services serviceName with
      -- a service that is not installed cannot be opened
      | none => (.ok backup, m)
      | some state =>
        if a.queries then
          let backup := { backup with previousState := state }
          if state = serviceRunning then
            -- the result of `ControlService` is not looked at
            let m := if a.accepts then m.setService serviceName serviceStopPending else m
            let (stopped, m) := waitForStop serviceName a.polls m
            (.ok { backup with wasPausedByOptimizer := stopped }, m)
          else (.ok backup, m)
        else (.ok backup, m)
    else (.ok backup, m)

/-- The loop of `pause_tier3_services`. -/
def pauseServices (answers : String → StopAnswers) :
    List String → Machine → List ServiceBackup × Machine
  | [], m => ([], m)
  | name :: names, m =>
    let (outcome, m) := stopService (answers name) name m
    let (backups, m) := pauseServices answers names m
    match outcome with
    | .ok backup => (if backup.wasPausedByOptimizer then backup :: backups else backups, m)
    | .error _ => (backups, m)

/-- `pause_tier3_services`. -/
def pauseTier3Services (answers : String → StopAnswers) (m : Machine) :
    List ServiceBackup × Machine := pauseServices answers targetTier3Services m

end ValOpt
