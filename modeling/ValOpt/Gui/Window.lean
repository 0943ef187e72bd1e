import ValOpt.Hardware.Manifest
import ValOpt.Server.Handoff

/-!
# The window

`main.rs` and `lib.rs` of the user interface: the texts of the window as `appwindow.slint` has them
at first, and what the callbacks make of them once their request is answered.
-/

namespace ValOpt

/-- The properties of the window that the program reads or sets. -/
structure Window where
  cpuName : String
  gpuName : String
  adapterName : String
  dpcStatus : String
  bufferbloatGrade : String
  unloadedPing : String
  loadedPing : String
  bufferbloatDelta : String
  highestDpcDriver : String
  highestIsrDriver : String
  testStatusMsg : String
  unloadGuiOnLaunch : Bool
  deriving DecidableEq, Repr

/-- How numbers and responses are written: the `1` of the request for a latency report, `{:.1}`, and
`{:?}` of a response. -/
structure Texts (F V : Type) where
  one : F
  tenths : F → String
  debug : IpcResponse F V → String

/-- `{:?}` of a grade. -/
def BufferbloatGrade.debug : BufferbloatGrade → String
  | .aPlus => "APlus"
  | .a => "A"
  | .b => "B"
  | .c => "C"
  | .d => "D"
  | .f => "F"

namespace Window

variable {F V : Type}

/-- `AppWindow::new`. -/
def new : Window where
  cpuName := "Intel Core i7-14700K / 20 Cores"
  gpuName := "NVIDIA GeForce RTX 4080 (MSI Mode)"
  adapterName := "Realtek PCIe GbE Controller (1 Gbps)"
  dpcStatus := "OPTIMAL (< 80µs)"
  bufferbloatGrade := "A+"
  unloadedPing := "11.4 ms"
  loadedPing := "11.5 ms"
  bufferbloatDelta := "+0.1 ms"
  highestDpcDriver := "ndis.sys (79µs)"
  highestIsrDriver := "Wdf01000.sys (38µs)"
  testStatusMsg := "Diagnostics Ready. Zero latency bottlenecks detected."
  unloadGuiOnLaunch := true

/-! ### The start -/

/-- `initialize_telemetry` before its request. -/
def showManifest (w : Window) : Except String FullSystemManifest → Window
  | .ok manifest =>
    let network := manifest.primaryNetwork
    { w with
      cpuName := s!"{manifest.cpu.brand} / {manifest.cpu.physicalCores} Cores"
      gpuName := s!"{manifest.primaryGpu.name} ({manifest.primaryGpu.dedicatedVramMb} MB)"
      adapterName := s!"{network.adapterName} ({network.linkSpeedMbps} Mbps)" }
  | .error _ => w

/-- `initialize_telemetry` after its request. -/
def showStatus (w : Window) : Except String (IpcResponse F V) → Window
  | .ok (.status ..) => { w with dpcStatus := "OPTIMAL (< 80µs)", bufferbloatGrade := "A+" }
  | _ => w

/-! ### Buttons that wait -/

/-- `on_launch_clicked` after the handoff; `none` where the process exits in it. -/
def launchClicked (w : Window) (terminateNow : Bool) : Handoff → Option Window
  | .unloads => none
  | .acknowledged message =>
    some (if !terminateNow then { w with testStatusMsg := s!"Game launched: {message}" } else w)
  | .refused e => some { w with testStatusMsg := s!"Launch failed: {e}" }

/-- `on_apply_all_clicked` after the request. -/
def applyAllClicked (w : Window) : Except String (IpcResponse F V) → Window
  | .ok (.optimizationSuccess ..) =>
    { w with
      dpcStatus := "OPTIMAL (< 80µs)"
      testStatusMsg := "Profile successfully committed to system." }
  | .ok (.error _ message) => { w with testStatusMsg := s!"Commit failed: {message}" }
  | .ok _ => w
  | .error e => { w with testStatusMsg := s!"Commit failed: {e}" }

/-- `on_rollback_all_clicked` after the request. -/
def rollbackAllClicked (w : Window) : Except String (IpcResponse F V) → Window
  | .ok (.rollbackSuccess _) =>
    { w with
      dpcStatus := "DEFAULT (Unoptimized)"
      testStatusMsg := "System successfully rolled back to baseline configuration." }
  | .ok (.error _ message) => { w with testStatusMsg := s!"Rollback failed: {message}" }
  | .ok _ => w
  | .error e => { w with testStatusMsg := s!"Rollback failed: {e}" }

/-! ### Buttons that start a test -/

/-- `on_run_bufferbloat_clicked` before the request. -/
def runBufferbloatClicked (w : Window) : Window :=
  { w with testStatusMsg := "Executing saturating UDP/TCP bufferbloat diagnostics..." }

/-- What the thread of `on_run_bufferbloat_clicked` shows after the request. -/
def showBufferbloat (t : Texts F V) (w : Window) : Except String (IpcResponse F V) → Window
  | .ok (.bufferbloatReport report) =>
    { w with
      unloadedPing := s!"{t.tenths report.unloadedPingMs} ms"
      loadedPing := s!"{t.tenths report.loadedPingMs} ms"
      bufferbloatDelta := s!"+{t.tenths report.bufferbloatDeltaMs} ms"
      bufferbloatGrade := report.grade.debug
      testStatusMsg := "Bufferbloat analysis completed successfully." }
  | .ok (.error _ message) =>
    { w with testStatusMsg := s!"Bufferbloat diagnostic failed: {message}" }
  | .ok _ => w
  | .error e => { w with testStatusMsg := s!"Bufferbloat diagnostic failed: {e}" }

/-- `on_run_latency_profile_clicked` before the request. -/
def runLatencyProfileClicked (w : Window) : Window :=
  { w with testStatusMsg := "Capturing ETW kernel DPC/ISR events for 1.0s..." }

/-- What the thread of `on_run_latency_profile_clicked` shows after the request. -/
def showLatency (w : Window) : Except String (IpcResponse F V) → Window
  | .ok (.latencyReport report) =>
    let verdict :=
      if report.systemSuitableForCompetitive then "COMPETITIVE READY" else "DEGRADED"
    { w with
      highestDpcDriver := (report.highestDpcDriver.map fun driver =>
        s!"{driver} ({report.highestDpcUs}µs)").getD w.highestDpcDriver
      highestIsrDriver := (report.highestIsrDriver.map fun driver =>
        s!"{driver} ({report.highestIsrUs}µs)").getD w.highestIsrDriver
      testStatusMsg := s!"ETW profile complete. {report.totalDpcsCaptured} total DPCs captured. " ++
        s!"System is {verdict}." }
  | .ok (.error _ message) => { w with testStatusMsg := s!"Latency profiling failed: {message}" }
  | .ok _ => w
  | .error e => { w with testStatusMsg := s!"Latency profiling failed: {e}" }

end Window

end ValOpt
