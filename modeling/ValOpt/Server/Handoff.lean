import ValOpt.Ipc.Message

/-!
# Unloading the user interface

`lifecycle.rs`: the interface asks for the launch of the game by `send_request`, after it may have
spawned a daemon, and decides by the response whether it exits.
-/

namespace ValOpt

/-- How `trigger_launch_and_unload` ends. -/
inductive Handoff where
  /-- The process exits. -/
  | unloads
  | acknowledged (message : String)
  | refused (e : String)
  deriving DecidableEq, Repr

/-- `trigger_launch_and_unload` from the response on, where `debug` is the `Debug` text of it. -/
def triggerLaunchAndUnload {F V : Type} (debug : IpcResponse F V → String) (terminateNow : Bool) :
    IpcResponse F V → Handoff
  | .gameLaunchAcknowledged message =>
    if terminateNow then .unloads else .acknowledged message
  | .error code message => .refused s!"[{code}] {message}"
  | other => .refused s!"Unexpected response: {debug other}"

end ValOpt
