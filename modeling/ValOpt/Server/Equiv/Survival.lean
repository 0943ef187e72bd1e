import ValOpt.Ipc.Equiv.Framing
import ValOpt.Latency.Equiv.Accounting
import ValOpt.Latency.Equiv.Resolution
import ValOpt.Server.Equiv.CommandLine
import ValOpt.Server.Equiv.Exchange
import ValOpt.Server.Equiv.ForeignRecord
import ValOpt.State.Equiv.RecordKept

/-!
# What can kill the daemon

Where the calls of the system return, the programs of the optimizer return (`Eff.Returns`), and the
indices of the latency path are in range.  Two things are left that a message can make the daemon
panic on: a duration that `from_secs_f64` does not take, and a launch that cuts the command of the
protocol in the middle of a character or beyond its end.  This is so whatever reads the text of a
message (`responds_iff`).
-/

namespace ValOpt

open Effect Text

variable {F V : Type} {env : Env Call}

/-! ### The programs of the optimizer -/

section Programs

variable (hfree : env.CrashFree)

include hfree

theorem returns_setGameMode (enable : Bool) : Eff.Returns env (setGameMode enable) :=
  (preserves_setGameMode enable (fun _ _ => trivial) (fun _ _ _ _ => trivial)
    fun _ _ _ _ => trivial).returns hfree

theorem returns_rollback (tx : OptimizationTransaction) : Eff.Returns env (rollback tx) :=
  (preserves_rollback (tx.record.keeps_of_machine fun _ _ _ => trivial)
    fun _ _ _ => trivial).returns hfree

theorem returns_applyPowerStep (tx : OptimizationTransaction) :
    Eff.Returns env (applyPowerStep tx) := by
  have hset : ∀ g, Eff.Returns env (setActivePowerScheme g) := fun g =>
    (preserves_setActivePowerScheme g fun _ _ _ _ => trivial).returns hfree
  have happly : Eff.Returns env applyGamingPowerScheme := by
    unfold applyGamingPowerScheme
    apply Eff.Returns.bind
    · apply (Eff.returns_perform hfree).bind
      rintro (e | g) <;> exact Eff.returns_pure _
    rintro (e | g)
    · exact Eff.returns_pure _
    apply Eff.Returns.bind
    · apply (Eff.returns_perform hfree).bind
      rintro (e | flag) <;> exact Eff.returns_pure _
    intro laptop
    cases laptop with
    | true => exact Eff.returns_pure _
    | false =>
      apply (hset _).bind
      rintro (e | ⟨⟩)
      · apply (hset _).bind
        rintro (e | ⟨⟩) <;> exact Eff.returns_pure _
      · exact Eff.returns_pure _
  apply happly.bind
  rintro (e | g) <;> exact Eff.returns_pure _

theorem returns_disableEndpoints (endpoints : List AudioEndpointInfo) :
    Eff.Returns env (disableEndpoints endpoints) := by
  induction endpoints with
  | nil => exact Eff.returns_pure _
  | cons endpoint rest ih =>
    have hdisable : Eff.Returns env (disableEndpoint endpoint) := by
      apply (Eff.returns_perform hfree).bind
      rintro (e | ⟨⟩)
      · exact Eff.returns_pure _
      apply (Eff.returns_perform hfree).bind
      intro original
      apply (Eff.returns_perform hfree).bind
      rintro (e | ⟨⟩) <;> exact Eff.returns_pure _
    exact hdisable.bind fun _ => ih.bind fun _ => Eff.returns_pure _

theorem returns_applyAudioStep (tx : OptimizationTransaction) :
    Eff.Returns env (applyAudioStep tx) := by
  have henumerate : Eff.Returns env enumerateRenderEndpoints := by
    apply (Eff.returns_perform hfree).bind
    rintro (e | endpoints)
    · exact Eff.returns_pure _
    · exact ((preserves_enumerateFrom 0 endpoints).returns hfree).bind fun _ => Eff.returns_pure _
  have hdisable : Eff.Returns env disableAudioEnhancements := by
    apply henumerate.bind
    rintro (e | endpoints)
    · exact Eff.returns_pure _
    · exact (returns_disableEndpoints hfree endpoints).bind fun _ => Eff.returns_pure _
  apply hdisable.bind
  rintro (e | backups) <;> exact Eff.returns_pure _

theorem returns_applyOptimizations (P : Platform) (now : Ambient) :
    Eff.Returns env (applyOptimizations P now) := by
  have hpersist : ∀ tx, Eff.Returns env (persistTransaction P tx) := by
    intro tx
    apply (preserves_getWorld.returns hfree).bind
    intro w
    exact (Eff.returns_perform hfree).bind fun _ => Eff.returns_pure _
  apply (returns_setGameMode hfree true).bind
  rintro (e | prev)
  · apply (returns_rollback hfree _).bind
    rintro (e' | ⟨⟩) <;> exact Eff.returns_pure _
  · exact (returns_applyPowerStep hfree _).bind fun tx =>
      (returns_applyAudioStep hfree tx).bind fun tx => (hpersist tx).bind fun _ =>
        Eff.returns_pure _

theorem returns_recoverOrphanedTransaction (P : Platform) :
    Eff.Returns env (recoverOrphanedTransaction P) := by
  apply (preserves_getWorld.returns hfree).bind
  intro w
  apply (preserves_fileExists.returns hfree).bind
  intro found
  cases found with
  | false => exact Eff.returns_pure _
  | true =>
    apply (Eff.returns_perform hfree).bind
    rintro (e | content)
    · exact Eff.returns_pure _
    dsimp only
    cases P.transaction.fromStr content with
    | error e => exact Eff.returns_pure _
    | ok tx =>
      apply (returns_rollback hfree tx).bind
      rintro (e' | ⟨⟩) <;> exact Eff.returns_pure _

theorem returns_checkAndRecover (P : Platform) (now : Ambient) (path : Option Path) :
    Eff.Returns env (checkAndRecover P now path) := by
  apply (preserves_getWorld.returns hfree).bind
  intro w
  apply ((preserves_validateSnapshotPath _ _ _).returns hfree).bind
  rintro (e | target)
  · exact Eff.returns_pure _
  apply (preserves_pathExists.returns hfree).bind
  intro found
  cases found with
  | false => exact Eff.returns_pure _
  | true =>
    have hload : Eff.Returns env (loadAndVerifyWithBase P (some target) none) := by
      intro s
      obtain ⟨a, s', hr, -, -⟩ := (idle_loadAndVerifyWithBase hfree P (some target) none).returned s
        trivial
      exact ⟨a, s', hr⟩
    apply hload.bind
    rintro (e | snapshot)
    · exact ((preserves_reportUnreadable (fun _ _ _ _ => trivial) now e).returns hfree).bind
        fun _ => Eff.returns_pure _
    apply ((preserves_rollbackSnapshot
      (snapshot.record.keeps_of_machine fun _ _ _ => trivial)).returns hfree).bind
    rintro (e | report)
    · exact Eff.returns_pure _
    apply ((preserves_deleteSnapshotWithBase (some target) none (fun _ _ _ _ => trivial)
      fun _ _ _ => trivial).returns hfree).bind
    intro deleted
    exact ((preserves_appendRecoveryLog (fun _ _ _ _ => trivial) now _).returns hfree).bind
      fun _ => Eff.returns_pure _

end Programs

/-! ### The latency path -/

/-- The indices of `resolve_address` into the verified drivers, and those of `push` and `to_vec`
into the ring, whose capacity is what they divide by. -/
structure LatencyInRange (verified : List LoadedDriver) (address : UInt64)
    (ring : LatencyRingBuffer) : Prop where
  found : ∀ idx, binarySearchByKey (verified.map LoadedDriver.baseAddress) address = .ok idx →
    idx < verified.length
  below : ∀ idx,
    binarySearchByKey (verified.map LoadedDriver.baseAddress) address = .error (idx + 1) →
    idx < verified.length
  push : ring.head < ring.samples.length
  toVec : ∀ i, i % ring.capacity < ring.samples.length
  capacity : ring.capacity ≠ 0

theorem latencyInRange (verified : List LoadedDriver) (address : UInt64)
    (ring : LatencyRingBuffer) : LatencyInRange verified address ring where
  found idx h := by
    have hlt := binarySearchByKey_ok_lt h
    rwa [List.length_map] at hlt
  below idx h := by
    have hle := binarySearchByKey_error_le h
    rw [List.length_map] at hle
    omega
  push := ring.length_samples ▸ ring.head_lt
  toVec i := by
    rw [ring.length_samples]
    exact Nat.mod_lt _ (Nat.zero_lt_of_lt ring.head_lt)
  capacity := Nat.ne_of_gt (Nat.zero_lt_of_lt ring.head_lt)

/-! ### Whole requests -/

/-- `Duration::from_secs_f64` takes finite numbers that are not negative and fit into a `u64`. -/
def durationFits (secs : Option ℚ) : Bool :=
  match secs with
  | some secs => decide (0 ≤ secs) && decide (secs < 2 ^ 64)
  | none => false

/-- `launch_game` gets as far as the command of the protocol, and cuts it in the middle of a
character or beyond its end. -/
def LauncherAnswers.Panics (l : LauncherAnswers) (access : ProcessAccess) (running : List Process) :
    Prop :=
  findProcessWithPath access running valorantBinaryName = none ∧ l.installed.or l.located = none ∧
    ∃ cmd, l.protocolCommand = some cmd ∧ CutsAmid l.toLowercase cmd

/-- What the daemon panics on. -/
def IpcRequest.Panics (a : Answers F V) (d : Daemon) : IpcRequest F → Prop
  | .getLatencyReport durationSecs => a.validDuration durationSecs = false
  | .launchOptimizedGame _ =>
    a.vanguard = .ok () ∧ a.launcher.Panics a.access (d.closeApps a.access).processes
  | _ => False

theorem LauncherAnswers.launchGame_eq_none_iff (l : LauncherAnswers) (access : ProcessAccess)
    (running : List Process) : l.launchGame access running = none ↔ l.Panics access running := by
  unfold launchGame findRiotClientExecutable Panics
  cases findProcessWithPath access running valorantBinaryName with
  | some p => simp
  | none =>
    cases l.installed.or l.located with
    | some path => simp
    | none =>
      cases l.protocolCommand with
      | none => simp
      | some cmd => simp [extractExecutableFromCommand_eq_none_iff]

theorem Daemon.onWorld_of_returns {α : Type} {m : Prog α} (hm : Eff.Returns env m) (d : Daemon) :
    ∃ a w, d.onWorld m env = .returned a { d with world := w } := by
  obtain ⟨a, w, hr⟩ := hm d.world
  use a, w
  rw [onWorld, hr]

/-- **A request is answered** just if the daemon does not panic on it. -/
theorem answered_iff (P : Platform) {a : Answers F V} (hfree : a.env.CrashFree)
    (request : IpcRequest F) (elevated : Bool) (d : Daemon) :
    (handleRequestAuthorized P a request elevated d).value.isSome = true ↔
      ¬ request.Panics a d := by
  unfold handleRequestAuthorized
  split
  · next hdenied =>
    -- the requests that it panics on are for everybody
    cases request
    case getLatencyReport => cases hdenied
    case launchOptimizedGame => cases hdenied
    all_goals exact iff_of_true rfl id
  · cases request with
    | ping => exact iff_of_true rfl id
    | getStatus =>
      obtain ⟨adapter, w, hread⟩ := Daemon.onWorld_of_returns
        (preserves_readMachine.returns hfree :
          Eff.Returns a.env (readMachine .detectPrimary fun m => m.primaryAdapter)) d
      dsimp only
      rw [hread]
      exact iff_of_true rfl id
    | inspectSystem =>
      dsimp only
      split <;> exact iff_of_true rfl id
    | applyOptimizations =>
      obtain ⟨outcome, w, happly⟩ :=
        Daemon.onWorld_of_returns (returns_applyOptimizations hfree P a.now) d
      dsimp only
      rw [happly]
      cases outcome <;> exact iff_of_true rfl id
    | rollbackOptimizations =>
      obtain ⟨crash, w, hcrash⟩ :=
        Daemon.onWorld_of_returns (returns_checkAndRecover hfree P a.now none) d.stopActive
      obtain ⟨coord, w', hcoord⟩ := Daemon.onWorld_of_returns
        (returns_recoverOrphanedTransaction hfree P) { d.stopActive with world := w }
      dsimp only
      rw [hcrash, Run.bind_returned, hcoord]
      exact iff_of_true rfl id
    | trimWorkingSet => exact iff_of_true rfl id
    | purgeBloatware =>
      dsimp only
      split <;> exact iff_of_true rfl id
    | getLatencyReport durationSecs =>
      show _ ↔ ¬ a.validDuration durationSecs = false
      dsimp only
      split
      · next hvalid => exact iff_of_true rfl (by simp [hvalid])
      · next hvalid => exact iff_of_false nofun (by simpa using hvalid)
    | runBufferbloatTest =>
      dsimp only
      split <;> exact iff_of_true rfl id
    | launchOptimizedGame autoRelaunchGui =>
      show _ ↔ ¬ (a.vanguard = .ok () ∧ _)
      rw [← LauncherAnswers.launchGame_eq_none_iff]
      dsimp only
      cases hv : a.vanguard with
      | error e => exact iff_of_true rfl nofun
      | ok =>
        obtain ⟨outcome, w, happly⟩ := Daemon.onWorld_of_returns
          (returns_applyOptimizations hfree P a.now) (d.closeApps a.access)
        have hprocesses :
            ∀ d : Daemon, ∀ i, ((d.swapSignal i).spawn i).processes = d.processes := by
          intro d i
          unfold Daemon.swapSignal Daemon.spawn Daemon.setPhase Daemon.stopActive
          split <;> rfl
        dsimp only
        rw [happly, Run.bind_returned, hprocesses]
        cases a.launcher.launchGame a.access (d.closeApps a.access).processes with
        | none => exact iff_of_false nofun (by simp)
        | some outcome => cases outcome <;> exact iff_of_true rfl nofun
    | shutdownDaemon => exact iff_of_true rfl id

/-- Decoding and handling of a line, over what reads its text. -/
def respond (P : Platform) (utf8Error : Bytes → String)
    (fromStr : List Char → Except String (IpcRequest F)) (a : Answers F V) (line : Bytes)
    (elevated : Bool) (d : Daemon) : Run Daemon (IpcResponse F V) :=
  match decodeMessageWith utf8Error fromStr line with
  | .ok request => handleRequestAuthorized P a request elevated d
  | .error e => .returned (.error "INVALID_REQUEST" e) d

/-- **What can kill the daemon**, where the calls of the system return. -/
theorem responds_iff (P : Platform) (utf8Error : Bytes → String)
    (fromStr : List Char → Except String (IpcRequest F)) (value : F → Option ℚ) (a : Answers F V)
    (hvalid : ∀ x, a.validDuration x = durationFits (value x)) (hfree : a.env.CrashFree)
    (line : Bytes) (elevated : Bool) (d : Daemon) :
    (∀ verified address ring, LatencyInRange verified address ring) ∧
    ((respond P utf8Error fromStr a line elevated d).value.isSome = true ↔
      ¬ ((∃ secs, decodeMessageWith utf8Error fromStr line = .ok (.getLatencyReport secs) ∧
          durationFits (value secs) = false) ∨
        ∃ autoRelaunchGui,
          decodeMessageWith utf8Error fromStr line = .ok (.launchOptimizedGame autoRelaunchGui) ∧
          a.vanguard = .ok () ∧ a.launcher.Panics a.access (d.closeApps a.access).processes)) := by
  constructor
  · exact latencyInRange
  · unfold respond
    cases decodeMessageWith utf8Error fromStr line with
    | error e => exact iff_of_true rfl (by simp)
    | ok request =>
      dsimp only
      rw [answered_iff P hfree]
      cases request <;> simp [IpcRequest.Panics, hvalid]

/-! ### A wire with numbers in tenths -/

/-- The value of a number in tenths. -/
def tenthsValue (x : Option ℕ) : Option ℚ := x.map fun n => n / 10

/-- A system whose calls succeed, with a command of the protocol. -/
def Answers.tenths (command : Option String) : Answers (Option ℕ) Wire.tenths.Value :=
  { Answers.unable with
    validDuration := fun x => durationFits (tenthsValue x)
    launcher := { LauncherAnswers.absent with
      toLowercase := dottedCase.toLowercase
      registryString := fun root _ _ => command.filter fun _ => root = .classesRoot } }

/-- The line of a request reaches the daemon. -/
def respondTenths (command : Option String) (r : IpcRequest (Option ℕ)) :
    Run Daemon (IpcResponse (Option ℕ) Wire.tenths.Value) :=
  respond .portable Wire.tenths.utf8Error (fromStr Wire.tenths Wire.tenths.request)
    (.tenths command) (encodeMessage Wire.tenths Wire.tenths.request r) false
    (.start .desktop [] 4)

theorem decode_tenths {r : IpcRequest (Option ℕ)} (h : r.Finite Wire.tenths.floats) :
    decodeMessageWith Wire.tenths.utf8Error (fromStr Wire.tenths Wire.tenths.request)
      (encodeMessage Wire.tenths Wire.tenths.request r) = .ok r :=
  (decode_encode_iff Wire.tenths Wire.tenths.request (valid_request Wire.tenths h)).mpr
    (within_request Wire.tenths r)

/-- Anybody may ask for a report about two and a half seconds.  A launch survives a command that is
cut too late, but not one that is cut beyond its end. -/
theorem responds_tenths :
    (respondTenths none (.getLatencyReport (some 25))).value.isSome = true ∧
    (respondTenths (some "C:\\RİOT.exe %1") (.launchOptimizedGame false)).value.isSome = true ∧
    (respondTenths (some "İ.exe") (.launchOptimizedGame false)).value.isSome = false := by
  have hiff : ∀ command r, r.Finite Wire.tenths.floats → ((respondTenths command r).value.isSome =
      true ↔ ¬ r.Panics (.tenths command) (.start .desktop [] 4)) := by
    intro command r hr
    have hresponds := (responds_iff .portable Wire.tenths.utf8Error
      (fromStr Wire.tenths Wire.tenths.request) tenthsValue (.tenths command) (fun _ => rfl)
      (Env.crashFree_faultless errorText) (encodeMessage Wire.tenths Wire.tenths.request r) false
      (.start .desktop [] 4)).2
    rw [decode_tenths hr] at hresponds
    refine hresponds.trans (not_congr ?_)
    cases r <;> simp [IpcRequest.Panics, Answers.tenths]
  have hlaunch : IpcRequest.Finite Wire.tenths.floats (.launchOptimizedGame false) := trivial
  refine ⟨(hiff none (.getLatencyReport (some 25)) rfl).mpr ?_, (hiff _ _ hlaunch).mpr ?_, ?_⟩
  · show ¬ durationFits (tenthsValue (some 25)) = false
    decide +kernel
  · rintro ⟨-, -, -, cmd, hcmd, hcuts⟩
    obtain rfl : "C:\\RİOT.exe %1" = cmd := Option.some.inj hcmd
    rw [← extractExecutableFromCommand_eq_none_iff] at hcuts
    revert hcuts
    show ¬ extractExecutableFromCommand dottedCase.toLowercase "C:\\RİOT.exe %1" = none
    decide +kernel
  · rw [← Bool.not_eq_true, hiff _ _ hlaunch, not_not]
    refine ⟨rfl, rfl, rfl, "İ.exe", rfl, extractExecutableFromCommand_eq_none_iff.mp ?_⟩
    show extractExecutableFromCommand dottedCase.toLowercase "İ.exe" = none
    decide +kernel

/-- A duration of `2 ^ 64` seconds kills the daemon. -/
theorem long_report_kills : ¬ ∀ (line : Bytes) (elevated : Bool) (d : Daemon),
    (respond .portable Wire.tenths.utf8Error (fromStr Wire.tenths Wire.tenths.request)
      (.tenths none) line elevated d).value.isSome = true := by
  intro h
  have hsome := h (encodeMessage Wire.tenths Wire.tenths.request
    (.getLatencyReport (some (10 * 2 ^ 64)))) false (.start .desktop [] 4)
  unfold respond at hsome
  rw [decode_tenths (r := .getLatencyReport (some (10 * 2 ^ 64))) rfl] at hsome
  dsimp only at hsome
  rw [answered_iff .portable (Env.crashFree_faultless errorText)] at hsome
  apply hsome
  show durationFits (tenthsValue (some (10 * 2 ^ 64))) = false
  decide +kernel

end ValOpt
