import ValOpt.Ipc.Message
import ValOpt.Models.Json
import ValOpt.Text.Json.Schema
import ValOpt.Text.Json.Value

/-!
# Framing

`ipc/mod.rs`: a message is written as compact JSON, adjacently tagged by `type` and `payload`, and a
line feed.  `decodeMessage` trims the line and reads it; at most 127 arrays and objects may stand
inside one another.  Serializing the message types does not fail.
-/

namespace ValOpt

open Text Text.Json

variable {F : Type}

/-- What the framing takes from elsewhere: the text of floating-point numbers, and the messages of
`Utf8Error` and `serde_json::Error`. -/
structure Wire (F : Type) where
  floats : FloatText F
  utf8Error : Bytes → String
  serdeError : List Char → String

variable (w : Wire F)

/-- The JSON values of a system manifest. -/
abbrev Wire.Value : Type := Text.Json.Value (Number w.floats)

/-- The documents on the wire. -/
abbrev Wire.Doc : Type := Text.Json.Doc (Number w.floats)

namespace Wire

open Schema

/-! ### Reports -/

def telemetrySource : Schema (Number w.floats) TelemetrySource :=
  enumeration
    (fun
      | .realEtwPresentation => "RealEtwPresentation"
      | .realKernelDpcIsr => "RealKernelDpcIsr"
      | .syntheticFixture => "SyntheticFixture")
    [.realEtwPresentation, .realKernelDpcIsr, .syntheticFixture]
    (by rintro (_ | _ | _) <;> rfl)

def telemetryProvenance : Schema (Number w.floats) TelemetryProvenance :=
  record
    (.cons "source" w.telemetrySource <| .cons "collection_mechanism" str <|
      .cons "timestamp_source" str <| .cons "unit" str <| .cons "is_directly_measured" bool <|
      .cons "sample_count" (u64 w.floats) <| .cons "dropped_events" (u64 w.floats) <|
      .cons "known_limitations" (list str) <| .nil)
    (fun (source, mechanism, time, unit, direct, samples, dropped, limitations, _) =>
      ⟨source, mechanism, time, unit, direct, samples, dropped, limitations⟩)
    (fun p => (p.source, p.collectionMechanism, p.timestampSource, p.unit, p.isDirectlyMeasured,
      p.sampleCount, p.droppedEvents, p.knownLimitations, ()))
    fun _ => rfl

def latencyMeasurementStatus : Schema (Number w.floats) LatencyMeasurementStatus :=
  enumeration
    (fun
      | .realEtwCollected => "RealEtwCollected"
      | .unsupportedElevationRequired => "UnsupportedElevationRequired"
      | .unsupportedSessionInUse => "UnsupportedSessionInUse"
      | .sessionError => "SessionError"
      | .syntheticTestFixture => "SyntheticTestFixture")
    [.realEtwCollected, .unsupportedElevationRequired, .unsupportedSessionInUse, .sessionError,
      .syntheticTestFixture]
    (by rintro (_ | _ | _ | _ | _) <;> rfl)

def driverLatencyStat : Schema (Number w.floats) (DriverLatencyStat F) :=
  record
    (.cons "driver_name" str <| .cons "driver_path" str <|
      .cons "base_address" (u64 w.floats) <| .cons "max_execution_us" (u64 w.floats) <|
      .cons "total_execution_us" (u64 w.floats) <| .cons "execution_count" (u64 w.floats) <|
      .cons "avg_execution_us" (f64 w.floats) <| .cons "exceeds_500us_threshold" bool <| .nil)
    (fun (name, path, base, max, total, count, avg, exceeds, _) =>
      ⟨name, path, base, max, total, count, avg, exceeds⟩)
    (fun s => (s.driverName, s.driverPath, s.baseAddress, s.maxExecutionUs, s.totalExecutionUs,
      s.executionCount, s.avgExecutionUs, s.exceeds500usThreshold, ()))
    fun _ => rfl

/-- A nullable string. -/
def optStr : Schema (Number w.floats) (Option String) := opt str fun _ => nofun

def latencyReport : Schema (Number w.floats) (LatencyReport F) :=
  record
    (.cons "provenance" w.telemetryProvenance <| .cons "status" w.latencyMeasurementStatus <|
      .cons "total_dpcs_captured" (u64 w.floats) <| .cons "total_isrs_captured" (u64 w.floats) <|
      .cons "highest_dpc_us" (u64 w.floats) <| .cons "highest_isr_us" (u64 w.floats) <|
      .cons "highest_dpc_driver" w.optStr <| .cons "highest_isr_driver" w.optStr <|
      .cons "offending_drivers" (list w.driverLatencyStat) <|
      .cons "top_drivers" (list w.driverLatencyStat) <|
      .cons "system_suitable_for_competitive" bool <| .cons "recommendations" (list str) <|
      .cons "test_duration_secs" (f64 w.floats) <| .nil)
    (fun (provenance, status, dpcs, isrs, dpcUs, isrUs, dpcDriver, isrDriver, offending, top,
      suitable, recommendations, duration, _) => ⟨provenance, status, dpcs, isrs, dpcUs, isrUs,
        dpcDriver, isrDriver, offending, top, suitable, recommendations, duration⟩)
    (fun r => (r.provenance, r.status, r.totalDpcsCaptured, r.totalIsrsCaptured, r.highestDpcUs,
      r.highestIsrUs, r.highestDpcDriver, r.highestIsrDriver, r.offendingDrivers, r.topDrivers,
      r.systemSuitableForCompetitive, r.recommendations, r.testDurationSecs, ()))
    fun _ => rfl

def bufferbloatGrade : Schema (Number w.floats) BufferbloatGrade :=
  enumeration
    (fun
      | .aPlus => "APlus"
      | .a => "A"
      | .b => "B"
      | .c => "C"
      | .d => "D"
      | .f => "F")
    [.aPlus, .a, .b, .c, .d, .f]
    (by rintro (_ | _ | _ | _ | _ | _) <;> rfl)

def bufferbloatReport : Schema (Number w.floats) (BufferbloatReport F) :=
  record
    (.cons "unloaded_ping_ms" (f64 w.floats) <| .cons "unloaded_jitter_ms" (f64 w.floats) <|
      .cons "loaded_ping_ms" (f64 w.floats) <| .cons "loaded_jitter_ms" (f64 w.floats) <|
      .cons "bufferbloat_delta_ms" (f64 w.floats) <| .cons "grade" w.bufferbloatGrade <|
      .cons "packet_loss_pct" (f64 w.floats) <| .cons "target_host" str <|
      .cons "test_duration_secs" (f64 w.floats) <| .cons "recommendations" (list str) <| .nil)
    (fun (ping, jitter, loadedPing, loadedJitter, delta, grade, loss, host, duration,
      recommendations, _) => ⟨ping, jitter, loadedPing, loadedJitter, delta, grade, loss, host,
        duration, recommendations⟩)
    (fun r => (r.unloadedPingMs, r.unloadedJitterMs, r.loadedPingMs, r.loadedJitterMs,
      r.bufferbloatDeltaMs, r.grade, r.packetLossPct, r.targetHost, r.testDurationSecs,
      r.recommendations, ()))
    fun _ => rfl

/-! ### Requests -/

/-- The tag of a message and its contents have different keys. -/
theorem type_ne_payload : "type" ≠ "payload" := by decide

/-- The contents of `GetLatencyReport`. -/
def getLatencyReport : Schema (Number w.floats) F :=
  variant (.cons "duration_secs" (f64 w.floats) .nil) (fun (duration, _) => duration)
    (fun duration => (duration, ())) fun _ => rfl

/-- The contents of `LaunchOptimizedGame`. -/
def launchOptimizedGame : Schema (Number w.floats) Bool :=
  variant (.cons "auto_relaunch_gui" bool .nil) (fun (relaunch, _) => relaunch)
    (fun relaunch => (relaunch, ())) fun _ => rfl

def request : Adjacent (Number w.floats) (IpcRequest F) where
  tagKey := "type"
  contentKey := "payload"
  tag
    | .ping => "Ping"
    | .getStatus => "GetStatus"
    | .inspectSystem => "InspectSystem"
    | .applyOptimizations => "ApplyOptimizations"
    | .rollbackOptimizations => "RollbackOptimizations"
    | .trimWorkingSet => "TrimWorkingSet"
    | .purgeBloatware => "PurgeBloatware"
    | .getLatencyReport _ => "GetLatencyReport"
    | .runBufferbloatTest => "RunBufferbloatTest"
    | .launchOptimizedGame _ => "LaunchOptimizedGame"
    | .shutdownDaemon => "ShutdownDaemon"
  content
    | .getLatencyReport durationSecs => some (w.getLatencyReport.write durationSecs)
    | .launchOptimizedGame autoRelaunchGui => some (w.launchOptimizedGame.write autoRelaunchGui)
    | _ => none
  read
    | "Ping", c => (Adjacent.unit c).map fun _ => .ping
    | "GetStatus", c => (Adjacent.unit c).map fun _ => .getStatus
    | "InspectSystem", c => (Adjacent.unit c).map fun _ => .inspectSystem
    | "ApplyOptimizations", c => (Adjacent.unit c).map fun _ => .applyOptimizations
    | "RollbackOptimizations", c => (Adjacent.unit c).map fun _ => .rollbackOptimizations
    | "TrimWorkingSet", c => (Adjacent.unit c).map fun _ => .trimWorkingSet
    | "PurgeBloatware", c => (Adjacent.unit c).map fun _ => .purgeBloatware
    | "GetLatencyReport", some c => (w.getLatencyReport.read c).map .getLatencyReport
    | "RunBufferbloatTest", c => (Adjacent.unit c).map fun _ => .runBufferbloatTest
    | "LaunchOptimizedGame", some c => (w.launchOptimizedGame.read c).map .launchOptimizedGame
    | "ShutdownDaemon", c => (Adjacent.unit c).map fun _ => .shutdownDaemon
    | _, _ => none
  valid
    | .getLatencyReport durationSecs => w.floats.isFinite durationSecs = true
    | _ => True
  keys_ne := type_ne_payload
  read_content := by
    intro r hr
    cases r with
    | getLatencyReport durationSecs =>
      show (w.getLatencyReport.read (w.getLatencyReport.write durationSecs)).map _ = _
      rw [w.getLatencyReport.read_write durationSecs ⟨hr, trivial⟩, Option.map_some]
    | launchOptimizedGame autoRelaunchGui =>
      show (w.launchOptimizedGame.read (w.launchOptimizedGame.write autoRelaunchGui)).map _ = _
      rw [w.launchOptimizedGame.read_write autoRelaunchGui ⟨trivial, trivial⟩, Option.map_some]
    | _ => rfl

/-! ### Responses -/

/-- The contents of `Status`. -/
def status : Schema (Number w.floats) (String × Bool × Bool × String) :=
  variant (.cons "daemon_version" str <| .cons "is_game_running" bool <|
      .cons "is_optimized" bool <| .cons "active_profile" str <| .nil)
    (fun (version, running, optimized, profile, _) => (version, running, optimized, profile))
    (fun (version, running, optimized, profile) => (version, running, optimized, profile, ()))
    fun _ => rfl

/-- The contents of `OptimizationSuccess`. -/
def optimizationSuccess :
    Schema (Number w.floats) (String × Bool × String × UInt64 × UInt64 × Bool) :=
  variant (.cons "transaction_id" str <| .cons "game_mode" bool <| .cons "power_scheme" str <|
      .cons "audio_endpoints" (u64 w.floats) <| .cons "adapter_properties" (u64 w.floats) <|
      .cons "qos_policy_active" bool <| .nil)
    (fun (id, mode, scheme, audio, adapter, qos, _) => (id, mode, scheme, audio, adapter, qos))
    (fun (id, mode, scheme, audio, adapter, qos) => (id, mode, scheme, audio, adapter, qos, ()))
    fun _ => rfl

/-- The contents of a variant with one text. -/
def oneStr (key : String) : Schema (Number w.floats) String :=
  variant (.cons key str .nil) (fun (s, _) => s) (fun s => (s, ())) fun _ => rfl

/-- The contents of a variant with one count. -/
def oneU64 (key : String) : Schema (Number w.floats) UInt64 :=
  variant (.cons key (u64 w.floats) .nil) (fun (n, _) => n) (fun n => (n, ())) fun _ => rfl

/-- The contents of `Error`. -/
def error : Schema (Number w.floats) (String × String) :=
  variant (.cons "code" str <| .cons "message" str <| .nil)
    (fun (code, message, _) => (code, message)) (fun (code, message) => (code, message, ()))
    fun _ => rfl

def response : Adjacent (Number w.floats) (IpcResponse F w.Value) where
  tagKey := "type"
  contentKey := "payload"
  tag
    | .pong => "Pong"
    | .status .. => "Status"
    | .systemManifest _ => "SystemManifest"
    | .optimizationSuccess .. => "OptimizationSuccess"
    | .rollbackSuccess _ => "RollbackSuccess"
    | .workingSetTrimmed _ => "WorkingSetTrimmed"
    | .bloatwarePurged _ => "BloatwarePurged"
    | .latencyReport _ => "LatencyReport"
    | .bufferbloatReport _ => "BufferbloatReport"
    | .gameLaunchAcknowledged _ => "GameLaunchAcknowledged"
    | .error .. => "Error"
  content
    | .pong => none
    | .status version running optimized profile =>
      some (w.status.write (version, running, optimized, profile))
    | .systemManifest manifest => some manifest.1
    | .optimizationSuccess id mode scheme audio adapter qos =>
      some (w.optimizationSuccess.write (id, mode, scheme, audio, adapter, qos))
    | .rollbackSuccess message => some ((w.oneStr "message").write message)
    | .workingSetTrimmed bytes => some ((w.oneU64 "bytes_reclaimed").write bytes)
    | .bloatwarePurged count => some ((w.oneU64 "terminated_count").write count)
    | .latencyReport report => some (w.latencyReport.write report)
    | .bufferbloatReport report => some (w.bufferbloatReport.write report)
    | .gameLaunchAcknowledged message => some ((w.oneStr "message").write message)
    | .error code message => some (w.error.write (code, message))
  read
    | "Pong", c => (Adjacent.unit c).map fun _ => .pong
    | "Status", some c => (w.status.read c).map fun (version, running, optimized, profile) =>
      .status version running optimized profile
    | "SystemManifest", some c => some (.systemManifest (Value.ofDoc c))
    | "OptimizationSuccess", some c =>
      (w.optimizationSuccess.read c).map fun (id, mode, scheme, audio, adapter, qos) =>
        .optimizationSuccess id mode scheme audio adapter qos
    | "RollbackSuccess", some c => ((w.oneStr "message").read c).map .rollbackSuccess
    | "WorkingSetTrimmed", some c => ((w.oneU64 "bytes_reclaimed").read c).map .workingSetTrimmed
    | "BloatwarePurged", some c => ((w.oneU64 "terminated_count").read c).map .bloatwarePurged
    | "LatencyReport", some c => (w.latencyReport.read c).map .latencyReport
    | "BufferbloatReport", some c => (w.bufferbloatReport.read c).map .bufferbloatReport
    | "GameLaunchAcknowledged", some c =>
      ((w.oneStr "message").read c).map .gameLaunchAcknowledged
    | "Error", some c => (w.error.read c).map fun (code, message) => .error code message
    | _, _ => none
  valid
    | .latencyReport report => w.latencyReport.valid report
    | .bufferbloatReport report => w.bufferbloatReport.valid report
    | _ => True
  keys_ne := type_ne_payload
  read_content := by
    intro r hr
    have hmap : ∀ {α : Type} (s : Schema (Number w.floats) α) (a : α)
        (f : α → IpcResponse F w.Value), s.valid a → (s.read (s.write a)).map f = some (f a) := by
      intro α s a f ha
      rw [s.read_write a ha, Option.map_some]
    cases r with
    | pong => rfl
    | status version running optimized profile =>
      exact hmap w.status (version, running, optimized, profile)
        (fun (version, running, optimized, profile) => .status version running optimized profile)
        ⟨trivial, trivial, trivial, trivial, trivial⟩
    | systemManifest manifest =>
      show some (IpcResponse.systemManifest (Value.ofDoc manifest.1)) = _
      rw [Value.ofDoc_val]
    | optimizationSuccess id mode scheme audio adapter qos =>
      exact hmap w.optimizationSuccess (id, mode, scheme, audio, adapter, qos)
        (fun (id, mode, scheme, audio, adapter, qos) =>
          .optimizationSuccess id mode scheme audio adapter qos)
        ⟨trivial, trivial, trivial, trivial, trivial, trivial, trivial⟩
    | rollbackSuccess message =>
      exact hmap (w.oneStr "message") message .rollbackSuccess ⟨trivial, trivial⟩
    | workingSetTrimmed bytes =>
      exact hmap (w.oneU64 "bytes_reclaimed") bytes .workingSetTrimmed ⟨trivial, trivial⟩
    | bloatwarePurged count =>
      exact hmap (w.oneU64 "terminated_count") count .bloatwarePurged ⟨trivial, trivial⟩
    | latencyReport report => exact hmap w.latencyReport report .latencyReport hr
    | bufferbloatReport report => exact hmap w.bufferbloatReport report .bufferbloatReport hr
    | gameLaunchAcknowledged message =>
      exact hmap (w.oneStr "message") message .gameLaunchAcknowledged ⟨trivial, trivial⟩
    | error code message =>
      exact hmap w.error (code, message) (fun (code, message) => .error code message)
        ⟨trivial, trivial, trivial⟩

end Wire

/-! ### Messages -/

/-- The most arrays and objects that `serde_json` reads inside one another. -/
def nestingLimit : ℕ := 127

section Message

variable {α : Type} (s : Adjacent (Number w.floats) α)

/-- `encode_message`. -/
def encodeMessage (message : α) : Bytes :=
  (s.write message).print (numerals w.floats).format.print ++ [0x0A]

/-- `serde_json::from_str`. -/
def fromStr (text : List Char) : Except String α :=
  match (readDoc (numerals w.floats) Json.isBlank nestingLimit (bytesOf text)).bind s.readDoc with
  | some message => .ok message
  | none => .error (w.serdeError text)

/-- `decode_message`, over what reads the text. -/
def decodeMessageWith (utf8Error : Bytes → String) (fromStr : List Char → Except String α)
    (bytes : Bytes) : Except String α :=
  match fromUtf8 bytes with
  | none => .error s!"UTF-8 error: {utf8Error bytes}"
  | some text =>
    let trimmed := trimMatches isWhitespace text
    match fromStr trimmed with
    | .ok message => .ok message
    | .error e => .error s!"Deserialization error: {e} for '{String.ofList trimmed}'"

/-- `decode_message`. -/
def decodeMessage (bytes : Bytes) : Except String α :=
  decodeMessageWith w.utf8Error (fromStr w s) bytes

end Message

/-! ### Lines -/

/-- `read_line`: the bytes up to a line feed, with it, and what is left. -/
def readLine : Bytes → Bytes × Bytes
  | [] => ([], [])
  | c :: rest =>
    if c = 0x0A then ([c], rest)
    else (c :: (readLine rest).1, (readLine rest).2)

/-- The lines of what was sent, read one after the other. -/
def lines : Bytes → List Bytes
  | [] => []
  | c :: rest =>
    if c = 0x0A then [c] :: lines rest
    else match lines rest with
      | [] => [[c]]
      | l :: ls => (c :: l) :: ls

end ValOpt
