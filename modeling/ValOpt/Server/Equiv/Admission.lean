import ValOpt.Server.Handler

/-!
# The responses of a request

`Admits` lists what may come back for a request: its own kind of response, or one of its own errors.
No handler responds in another way (`admits_of_returned`), whatever the system answers it.
-/

namespace ValOpt

open Effect

variable {F V : Type}

/-- The codes of the errors that a request may end in. -/
def IpcRequest.errorCodes : IpcRequest F → List String
  | .inspectSystem => ["INSPECT_FAILED"]
  | .applyOptimizations => ["UNAUTHORIZED", "OPTIMIZE_FAILED"]
  | .rollbackOptimizations => ["UNAUTHORIZED", "ROLLBACK_FAILED"]
  | .trimWorkingSet => ["UNAUTHORIZED", "FEATURE_REMOVED"]
  | .purgeBloatware => ["UNAUTHORIZED", "PURGE_FAILED"]
  | .runBufferbloatTest => ["BUFFERBLOAT_FAILED"]
  | .launchOptimizedGame _ => ["VANGUARD_VIOLATION", "LAUNCH_FAILED"]
  | .shutdownDaemon => ["UNAUTHORIZED"]
  | .ping | .getStatus | .getLatencyReport _ => []

/-- What may come back for a request. -/
inductive IpcRequest.Admits : IpcRequest F → IpcResponse F V → Prop
  | pong : Admits .ping .pong
  | status (running : Bool) (profile : String) :
    Admits .getStatus (.status "0.1.0" running true profile)
  | manifest (v : V) : Admits .inspectSystem (.systemManifest v)
  | applied (id : String) (gameMode : Bool) (endpoints properties : UInt64) (qos : Bool) :
    Admits .applyOptimizations
      (.optimizationSuccess id gameMode "Gaming Optimized" endpoints properties qos)
  | rolledBack (message : String) : Admits .rollbackOptimizations (.rollbackSuccess message)
  | purged (count : UInt64) : Admits .purgeBloatware (.bloatwarePurged count)
  | latency (seconds : F) (report : LatencyReport F) :
    Admits (.getLatencyReport seconds) (.latencyReport report)
  | bufferbloat (report : BufferbloatReport F) :
    Admits .runBufferbloatTest (.bufferbloatReport report)
  | launched (autoRelaunchGui : Bool) (message : String) :
    Admits (.launchOptimizedGame autoRelaunchGui) (.gameLaunchAcknowledged message)
  | stopped : Admits .shutdownDaemon .pong
  | refused {request : IpcRequest F} {code : String} (e : String)
    (hcode : code ∈ request.errorCodes) : Admits request (.error code e)

theorem unauthorized_mem_errorCodes {request : IpcRequest F} (h : request.isPrivileged = true) :
    "UNAUTHORIZED" ∈ request.errorCodes := by
  cases request <;> simp_all [IpcRequest.isPrivileged, IpcRequest.errorCodes]

theorem admits_rollbackResponse (cr : Except String RecoveryReport) (co : Except String Bool) :
    IpcRequest.Admits (.rollbackOptimizations : IpcRequest F)
      (rollbackResponse cr co : IpcResponse F V) := by
  cases cr with
  | error e => exact .refused e (by simp [IpcRequest.errorCodes])
  | ok cr =>
    cases co with
    | error e => exact .refused e (by simp [IpcRequest.errorCodes])
    | ok co => exact .rolledBack _

/-- **A handler responds to its request.** -/
theorem admits_of_returned {P : Platform} {a : Answers F V} {request : IpcRequest F}
    {elevated : Bool} {d d' : Daemon} {r : IpcResponse F V}
    (h : handleRequestAuthorized P a request elevated d = .returned r d') : request.Admits r := by
  unfold handleRequestAuthorized at h
  split at h
  · next hprivileged =>
    cases h
    rw [Bool.and_eq_true] at hprivileged
    exact .refused _ (unauthorized_mem_errorCodes hprivileged.1)
  cases request <;> dsimp only at h
  case ping =>
    cases h
    exact .pong
  case getStatus =>
    obtain ⟨adapter, d₁, -, hr⟩ := Run.exists_of_bind_eq_returned h
    cases hr
    exact .status _ _
  case inspectSystem =>
    split at h <;> cases h
    · exact .manifest _
    · exact .refused _ (by simp [IpcRequest.errorCodes])
  case applyOptimizations =>
    obtain ⟨outcome, d₁, -, hr⟩ := Run.exists_of_bind_eq_returned h
    split at hr <;> cases hr
    · exact .applied _ _ _ _ _
    · exact .refused _ (by simp [IpcRequest.errorCodes])
  case rollbackOptimizations =>
    obtain ⟨cr, d₁, -, hr⟩ := Run.exists_of_bind_eq_returned h
    obtain ⟨co, d₂, -, hr⟩ := Run.exists_of_bind_eq_returned hr
    cases hr
    exact admits_rollbackResponse cr co
  case trimWorkingSet =>
    cases h
    exact .refused _ (by simp [IpcRequest.errorCodes])
  case purgeBloatware =>
    split at h <;> cases h
    · exact .purged _
    · exact .refused _ (by simp [IpcRequest.errorCodes])
  case getLatencyReport seconds =>
    split at h <;> cases h
    exact .latency _ _
  case runBufferbloatTest =>
    split at h <;> cases h
    · exact .bufferbloat _
    · exact .refused _ (by simp [IpcRequest.errorCodes])
  case launchOptimizedGame autoRelaunchGui =>
    split at h
    · cases h
      exact .refused _ (by simp [IpcRequest.errorCodes])
    · obtain ⟨outcome, d₁, -, hr⟩ := Run.exists_of_bind_eq_returned h
      split at hr <;> cases hr
      · exact .launched _ _
      · exact .refused _ (by simp [IpcRequest.errorCodes])
  case shutdownDaemon =>
    cases h
    exact .stopped

end ValOpt
