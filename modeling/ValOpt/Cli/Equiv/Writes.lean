import Mathlib.Data.Set.Insert
import Mathlib.Logic.Relation
import ValOpt.Cli.Main
import ValOpt.State.Equiv.Confined
import ValOpt.State.Equiv.FailSecure
import ValOpt.State.Equiv.RecoveryLog

/-!
# What the commands write

`World.Write` is one call that changes something of a world.  Whatever becomes of its calls, a
command gets by with writes of its own areas (`CliCommand.writes`), so a history of commands leaves
every other area as it is (`runCommands_frame`).
-/

namespace ValOpt

open Effect

/-! ### Areas -/

/-- The parts of a world that are written on their own. -/
inductive Area where
  | gameBar
  | power
  | audio
  | adapters
  | qos
  | service (name : String)
  | file (p : Path)
  deriving DecidableEq

/-- The area is the same in both worlds. -/
def Area.Same : Area → World → World → Prop
  | .gameBar, w, w' => w'.machine.gameBar = w.machine.gameBar
  | .power, w, w' => w'.machine.activeScheme = w.machine.activeScheme
  | .audio, w, w' => w'.machine.fxProperties = w.machine.fxProperties
  | .adapters, w, w' => w'.machine.adapters = w.machine.adapters
  | .qos, w, w' => w'.machine.qosPolicies = w.machine.qosPolicies ∧
      w'.machine.nlaSetting = w.machine.nlaSetting
  | .service name, w, w' => w'.machine.services name = w.machine.services name
  | .file p, w, w' => w'.files p = w.files p

/-- What no command changes. -/
structure World.SameHost (w w' : World) : Prop where
  batteryFlag : w'.machine.batteryFlag = w.machine.batteryFlag
  installedSchemes : w'.machine.installedSchemes = w.machine.installedSchemes
  endpoints : w'.machine.endpoints = w.machine.endpoints
  friendlyName : w'.machine.friendlyName = w.machine.friendlyName
  primaryAdapter : w'.machine.primaryAdapter = w.machine.primaryAdapter
  drive : w'.drive = w.drive

/-- One call that changes something of the area. -/
inductive World.Write (w : World) : Area → World → Prop
  | createGameBar : w.Write .gameBar { w with machine := w.machine.createGameBar }
  | allowAutoGameMode {v : UInt32} {m : Machine} (h : w.machine.setAllowAutoGameMode v = some m) :
    w.Write .gameBar { w with machine := m }
  | autoGameModeEnabled {v : UInt32} {m : Machine}
    (h : w.machine.setAutoGameModeEnabled v = some m) : w.Write .gameBar { w with machine := m }
  | activeScheme {g : Guid} {m : Machine} (h : w.machine.setActiveScheme g = some m) :
    w.Write .power { w with machine := m }
  | fxProperties (id : String) (v : Option UInt32) :
    w.Write .audio { w with machine := w.machine.setFxProperties id v }
  | adapter {name kw v : String} {m : Machine} (h : w.machine.setAdapter name kw v = some m) :
    w.Write .adapters { w with machine := m }
  | policy (name : String) : w.Write .qos { w with machine := { w.machine with
      qosPolicies := w.machine.qosPolicies.filter (· ≠ name) } }
  | nla (v : String) : w.Write .qos { w with machine := { w.machine with nlaSetting := some v } }
  | service {name : String} (state : UInt32) (h : (w.machine.services name).isSome) :
    w.Write (.service name) { w with machine := w.machine.setService name state }
  | file (p : Path) (b : Bytes) : w.Write (.file p) (w.writeFile p b)
  | removed (p : Path) : w.Write (.file p) (w.removeFile p)

/-! ### Single writes -/

namespace Machine

variable {m m' : Machine}

/-- A value of Game Mode is written in its key only. -/
theorem exists_of_setAllowAutoGameMode {v : UInt32} (h : m.setAllowAutoGameMode v = some m') :
    ∃ gameBar, m' = { m with gameBar } := by
  obtain ⟨k, -, rfl⟩ := Option.map_eq_some_iff.mp h
  exact ⟨_, rfl⟩

@[inherit_doc exists_of_setAllowAutoGameMode]
theorem exists_of_setAutoGameModeEnabled {v : UInt32} (h : m.setAutoGameModeEnabled v = some m') :
    ∃ gameBar, m' = { m with gameBar } := by
  obtain ⟨k, -, rfl⟩ := Option.map_eq_some_iff.mp h
  exact ⟨_, rfl⟩

theorem exists_of_setActiveScheme {g : Guid} (h : m.setActiveScheme g = some m') :
    ∃ hg : g ∈ m.installedSchemes, m' = { m with activeScheme := g, active_installed := hg } := by
  rw [setActiveScheme] at h
  split at h
  · next hg => exact ⟨hg, (Option.some.inj h).symm⟩
  · cases h

theorem exists_of_setAdapter {name kw v : String} (h : m.setAdapter name kw v = some m') :
    ∃ adapters, m' = { m with adapters } := by
  rw [setAdapter] at h
  split at h
  · cases h
  · split at h
    · exact ⟨_, (Option.some.inj h).symm⟩
    · cases h

end Machine

/-- A write of the Game Mode key leaves the other areas. -/
theorem Area.same_gameBar {a : Area} (ha : a ≠ .gameBar) (w : World) (gameBar : Option GameBar) :
    a.Same w { w with machine := { w.machine with gameBar } } := by
  cases a with
  | gameBar => exact absurd rfl ha
  | qos => exact ⟨rfl, rfl⟩
  | _ => rfl

namespace World.Write

variable {w w' : World} {a : Area}

theorem sameHost (h : w.Write a w') : w.SameHost w' := by
  cases h with
  | allowAutoGameMode h =>
    obtain ⟨k, rfl⟩ := Machine.exists_of_setAllowAutoGameMode h
    exact ⟨rfl, rfl, rfl, rfl, rfl, rfl⟩
  | autoGameModeEnabled h =>
    obtain ⟨k, rfl⟩ := Machine.exists_of_setAutoGameModeEnabled h
    exact ⟨rfl, rfl, rfl, rfl, rfl, rfl⟩
  | activeScheme h =>
    obtain ⟨hg, rfl⟩ := Machine.exists_of_setActiveScheme h
    exact ⟨rfl, rfl, rfl, rfl, rfl, rfl⟩
  | adapter h =>
    obtain ⟨adapters, rfl⟩ := Machine.exists_of_setAdapter h
    exact ⟨rfl, rfl, rfl, rfl, rfl, rfl⟩
  | _ => exact ⟨rfl, rfl, rfl, rfl, rfl, rfl⟩

/-- Every other area stays as it is. -/
theorem same {b : Area} (h : w.Write a w') (hb : b ≠ a) : b.Same w w' := by
  cases h with
  | createGameBar => exact Area.same_gameBar hb w _
  | allowAutoGameMode h =>
    obtain ⟨k, rfl⟩ := Machine.exists_of_setAllowAutoGameMode h
    exact Area.same_gameBar hb w k
  | autoGameModeEnabled h =>
    obtain ⟨k, rfl⟩ := Machine.exists_of_setAutoGameModeEnabled h
    exact Area.same_gameBar hb w k
  | activeScheme h =>
    obtain ⟨hg, rfl⟩ := Machine.exists_of_setActiveScheme h
    cases b <;> first | exact absurd rfl hb | exact rfl | exact ⟨rfl, rfl⟩
  | adapter h =>
    obtain ⟨adapters, rfl⟩ := Machine.exists_of_setAdapter h
    cases b <;> first | exact absurd rfl hb | exact rfl | exact ⟨rfl, rfl⟩
  | @service name state h =>
    cases b with
    | service other =>
      exact Function.update_of_ne (fun hother => hb (congrArg Area.service hother)) _ _
    | _ => first | exact rfl | exact ⟨rfl, rfl⟩
  | file p bytes =>
    cases b with
    | file q => exact w.files_writeFile_of_ne bytes fun hq => hb (congrArg Area.file hq)
    | _ => first | exact rfl | exact ⟨rfl, rfl⟩
  | removed p =>
    cases b with
    | file q => exact w.files_removeFile_of_ne fun hq => hb (congrArg Area.file hq)
    | _ => first | exact rfl | exact ⟨rfl, rfl⟩
  | _ => cases b <;> first | exact absurd rfl hb | exact rfl | exact ⟨rfl, rfl⟩

end World.Write

/-! ### The areas of a command -/

/-- The file that a command of the store works on. -/
def storeTarget (dir : List String) (path : Option Path) : Path := path.getD ⟨dir, "snapshot.json"⟩

/-- The areas that a command is meant for, with the storage directory `dir`. -/
def CliCommand.writes (dir : List String) : CliCommand → Set Area
  | .optimize _ => {.gameBar, .power, .audio, .file ⟨dir, "active_transaction.json"⟩}
  | .restore =>
    {.gameBar, .power, .audio, .adapters, .qos, .file ⟨dir, "active_transaction.json"⟩}
  | .rollback _ path =>
    {.gameBar, .power, .audio, .adapters, .qos, .file ⟨dir, "recovery.log"⟩} ∪ Set.range .service ∪
      {a | (storeTarget dir path).Within dir ∧
        (a = .file (storeTarget dir path) ∨ a = .file (storeTarget dir path).keyPath)}
  | .snapshot now path => {a | (storeTarget dir path).Within dir ∧
      (a = .file (storeTarget dir path) ∨ a = .file (storeTarget dir path).keyPath ∨
        a = .file (tempPath now (storeTarget dir path)))}
  | .pauseServices _ | .resumeServices => Area.service '' {name | name ∈ targetTier3Services}
  | _ => ∅

/-- The path of a command is the storage directory itself, which the validation accepts. -/
def CliCommand.NamesDir (dir : List String) : CliCommand → Prop
  | .rollback _ path | .snapshot _ path => (storeTarget dir path).components = dir
  | _ => False

/-- The guard of a path looks only. -/
theorem preserves_rejectsPath {env : Env Call} {I : World → Prop} (path : Option Path) :
    Eff.Preserves env I (rejectsPath path) := by
  unfold rejectsPath
  rcases path with _ | p
  · exact Eff.preserves_pure _
  · refine Eff.Preserves.bind ?_ fun _ => Eff.preserves_pure _
    refine (preserves_validateSnapshotPath .guard p none).bind ?_
    rintro (e | target) <;> exact Eff.preserves_pure _

/-- Writes of the areas keep `I`, which knows the storage directory. -/
structure Admits (I : World → Prop) (dir : List String) (areas : Set Area) : Prop where
  write : ∀ a ∈ areas, ∀ w w', I w → w.Write a w' → I w'
  storageDir : ∀ w, I w → w.storageDir = dir

namespace Admits

variable {P : Platform} {env : Env Call} {I : World → Prop} {dir : List String} {areas : Set Area}
  (h : Admits I dir areas)

include h

/-! The settings. -/

theorem setGameMode (ha : .gameBar ∈ areas) (enable : Bool) :
    Eff.Preserves env I (setGameMode enable) := by
  apply preserves_setGameMode
  · exact fun w hw => h.write _ ha w _ hw .createGameBar
  · exact fun w m hw hm => h.write _ ha w _ hw (.allowAutoGameMode hm)
  · exact fun w m hw hm => h.write _ ha w _ hw (.autoGameModeEnabled hm)

theorem setActivePowerScheme (ha : .power ∈ areas) (g : Guid) :
    Eff.Preserves env I (setActivePowerScheme g) :=
  preserves_setActivePowerScheme g fun w _ hw hm => h.write _ ha w _ hw (.activeScheme hm)

theorem applyGamingPowerScheme (ha : .power ∈ areas) :
    Eff.Preserves env I applyGamingPowerScheme := by
  unfold ValOpt.applyGamingPowerScheme
  have hactive : Eff.Preserves env I getActivePowerScheme := by
    refine Eff.Preserves.bind preserves_readMachine ?_
    rintro (e | g) <;> exact Eff.preserves_pure _
  have hlaptop : Eff.Preserves env I isLaptop := by
    refine Eff.Preserves.bind preserves_readMachine ?_
    rintro (e | flag) <;> exact Eff.preserves_pure _
  refine hactive.bind ?_
  rintro (e | original)
  · exact Eff.preserves_pure _
  refine hlaptop.bind fun laptop => ?_
  split
  · exact Eff.preserves_pure _
  refine (h.setActivePowerScheme ha _).bind ?_
  rintro (e | ⟨⟩)
  · refine (h.setActivePowerScheme ha _).bind ?_
    rintro (e | ⟨⟩) <;> exact Eff.preserves_pure _
  · exact Eff.preserves_pure _

theorem disableEndpoints (ha : .audio ∈ areas) (endpoints : List AudioEndpointInfo) :
    Eff.Preserves env I (disableEndpoints endpoints) := by
  induction endpoints with
  | nil => exact Eff.preserves_pure _
  | cons endpoint endpoints ih =>
    have hset : ∀ c (f : Machine → Option UInt32), Eff.Preserves env I
        (writeMachine c fun m => some (m.setFxProperties endpoint.id (f m))) := by
      intro c f
      apply preserves_writeMachine
      rintro w m hw ⟨⟩
      exact h.write _ ha w _ hw (.fxProperties _ _)
    refine Eff.Preserves.bind ?_ fun backup => ih.bind fun backups => Eff.preserves_pure _
    refine (hset _ _).bind ?_
    rintro (e | ⟨⟩)
    · exact Eff.preserves_pure _
    refine Eff.Preserves.bind preserves_readMachine fun found => ?_
    refine (hset _ _).bind ?_
    rintro (e | ⟨⟩) <;> exact Eff.preserves_pure _

theorem disableAudioEnhancements (ha : .audio ∈ areas) :
    Eff.Preserves env I disableAudioEnhancements := by
  have henumerate : Eff.Preserves env I enumerateRenderEndpoints := by
    refine Eff.Preserves.bind preserves_readMachine ?_
    rintro (e | ids)
    · exact Eff.preserves_pure _
    · exact (preserves_enumerateFrom 0 ids).bind fun _ => Eff.preserves_pure _
  refine henumerate.bind ?_
  rintro (e | endpoints)
  · exact Eff.preserves_pure _
  · exact (h.disableEndpoints ha endpoints).bind fun _ => Eff.preserves_pure _

theorem startService {w : World} {m : Machine} {name : String} (ha : .service name ∈ areas)
    (hw : I w) (hm : w.machine.startService name = some m) : I { w with machine := m } := by
  obtain ⟨state, hstate, rfl⟩ := Option.map_eq_some_iff.mp hm
  exact h.write _ ha w _ hw (.service serviceRunning (Option.isSome_of_mem hstate))

/-- The values of a record may be written back. -/
theorem keeps {r : RollbackRecord} (hareas : {.gameBar, .power, .audio, .adapters, .qos} ⊆ areas)
    (hservices : ∀ b ∈ r.services, .service b.serviceName ∈ areas) : r.Keeps I where
  policy _ _ _ w hw := h.write .qos (hareas (by simp)) w _ hw (.policy _)
  nla _ _ _ _ w hw := h.write .qos (hareas (by simp)) w _ hw (.nla _)
  adapters _ _ w _ hw hm := h.write .adapters (hareas (by simp)) w _ hw (.adapter hm)
  audio _ _ w hw := h.write .audio (hareas (by simp)) w _ hw (.fxProperties _ _)
  power _ _ _ _ w _ hw hm := h.write .power (hareas (by simp)) w _ hw (.activeScheme hm)
  gameBar _ _ w hw := h.write .gameBar (hareas (by simp)) w _ hw .createGameBar
  allowAutoGameMode _ _ w _ hw hm :=
    h.write .gameBar (hareas (by simp)) w _ hw (.allowAutoGameMode hm)
  autoGameModeEnabled _ _ w _ hw hm :=
    h.write .gameBar (hareas (by simp)) w _ hw (.autoGameModeEnabled hm)
  services b hb _ _ _ hw hm := h.startService (hservices b hb) hw hm

/-! The stored transaction. -/

theorem removeRecord (ha : .file ⟨dir, "active_transaction.json"⟩ ∈ areas) :
    Eff.Preserves env I removeRecord := by
  intro w hw
  have hpath : w.transactionPath = ⟨dir, "active_transaction.json"⟩ := by
    rw [World.transactionPath, h.storageDir w hw]
  unfold ValOpt.removeRecord
  rw [Eff.run_bind, run_getWorld, Run.bind_returned, hpath]
  refine Eff.Preserves.bind preserves_fileExists (fun found => ?_) w hw
  split
  · exact Eff.Preserves.bind (preserves_removeFile fun w' hw' => h.write _ ha w' _ hw' (.removed _))
      fun _ => Eff.preserves_pure _
  · exact Eff.preserves_pure _

theorem rollback {tx : OptimizationTransaction} (hkeeps : tx.record.Keeps I)
    (ha : .file ⟨dir, "active_transaction.json"⟩ ∈ areas) :
    Eff.Preserves env I (rollback tx) :=
  (preserves_rollbackSettings hkeeps).bind fun _ => (h.removeRecord ha).bind fun _ =>
    Eff.preserves_pure _

theorem persistTransaction (ha : .file ⟨dir, "active_transaction.json"⟩ ∈ areas)
    (tx : OptimizationTransaction) : Eff.Preserves env I (persistTransaction P tx) := by
  intro w hw
  have hpath : w.transactionPath = ⟨dir, "active_transaction.json"⟩ := by
    rw [World.transactionPath, h.storageDir w hw]
  unfold ValOpt.persistTransaction
  rw [Eff.run_bind, run_getWorld, Run.bind_returned, hpath]
  exact Eff.Preserves.bind (preserves_writeFile fun w' b hw' => h.write _ ha w' _ hw' (.file _ b))
    (fun _ => Eff.preserves_pure _) w hw

/-! The commands. -/

theorem applyOptimizations (now : Ambient)
    (hareas : CliCommand.writes dir (.optimize now) ⊆ areas) :
    Eff.Preserves env I (applyOptimizations P now) := by
  have hfile : .file ⟨dir, "active_transaction.json"⟩ ∈ areas := hareas (by simp [CliCommand.writes])
  have hgameBar : .gameBar ∈ areas := hareas (by simp [CliCommand.writes])
  have hpower : .power ∈ areas := hareas (by simp [CliCommand.writes])
  have haudio : .audio ∈ areas := hareas (by simp [CliCommand.writes])
  unfold ValOpt.applyOptimizations
  refine (h.setGameMode hgameBar true).bind ?_
  rintro (e | prev)
  · -- the transaction that is rolled back is empty
    have hkeeps : (newTransaction now).record.Keeps I :=
      ⟨nofun, nofun, nofun, nofun, nofun, nofun, nofun, nofun, nofun⟩
    refine (h.rollback hkeeps hfile).bind ?_
    rintro (e' | ⟨⟩) <;> exact Eff.preserves_pure _
  · refine Eff.Preserves.bind ?power fun tx => Eff.Preserves.bind ?audio fun tx' =>
      (h.persistTransaction hfile tx').bind fun _ => Eff.preserves_pure _
    case power =>
      refine (h.applyGamingPowerScheme hpower).bind ?_
      rintro (e | guid) <;> exact Eff.preserves_pure _
    case audio =>
      refine (h.disableAudioEnhancements haudio).bind ?_
      rintro (e | backups) <;> exact Eff.preserves_pure _

theorem recoverOrphanedTransaction (hareas : CliCommand.writes dir .restore ⊆ areas) :
    Eff.Preserves env I (recoverOrphanedTransaction P) := by
  have hsettings : {.gameBar, .power, .audio, .adapters, .qos} ⊆ areas := by
    refine fun a ha => hareas ?_
    simp only [CliCommand.writes, Set.mem_insert_iff, Set.mem_singleton_iff] at ha ⊢
    tauto
  have hfile : .file ⟨dir, "active_transaction.json"⟩ ∈ areas := hareas (by simp [CliCommand.writes])
  unfold ValOpt.recoverOrphanedTransaction
  refine Eff.Preserves.bind preserves_getWorld fun w => ?_
  refine Eff.Preserves.bind preserves_fileExists fun found => ?_
  split
  · refine Eff.Preserves.bind preserves_readFile ?_
    rintro (e | content)
    · exact Eff.preserves_pure _
    dsimp only
    cases P.transaction.fromStr content with
    | error e => exact Eff.preserves_pure _
    | ok tx =>
      refine (h.rollback (h.keeps hsettings (List.forall_mem_nil _)) hfile).bind ?_
      rintro (e | ⟨⟩) <;> exact Eff.preserves_pure _
  · exact Eff.preserves_pure _

/-- A path that passes the check is the one that the command is meant for. -/
theorem holds_validateSnapshotPath (op : StoreOperation) {path : Option Path} {w : World}
    (hw : I w) :
    ((validateSnapshotPath op (path.getD w.defaultSnapshotPath) none).run env w).Holds
      (fun r w' => I w' ∧ ∀ t, r = .ok t →
        t = storeTarget dir path ∧ (storeTarget dir path).Within dir) I := by
  have hdir := h.storageDir w hw
  have htarget : path.getD w.defaultSnapshotPath = storeTarget dir path := by
    rw [World.defaultSnapshotPath, hdir, storeTarget]
  rw [htarget]
  refine (ValOpt.holds_validateSnapshotPath op (storeTarget dir path)).mono ?_ ?_
  · rintro r w' ⟨rfl, hok⟩
    refine ⟨hw, fun t ht => ?_⟩
    obtain ⟨hpath, haccepts⟩ := hok t ht
    have hwithin : (storeTarget dir path).Within (w'.baseDir none) := haccepts.1
    rw [World.baseDir, Option.getD_none, hdir] at hwithin
    exact ⟨hpath, hwithin⟩
  · rintro w' rfl
    exact hw

/-- What the log gets is a write of its file. -/
theorem logged (ha : .file ⟨dir, "recovery.log"⟩ ∈ areas) (w w' : World) (hw : I w)
    (hlog : w.Logged w') : I w' := by
  have hpath : w.recoveryLogPath = ⟨dir, "recovery.log"⟩ := by
    rw [World.recoveryLogPath, h.storageDir w hw]
  rcases hlog.eq_or with rfl | ⟨b, rfl⟩
  · exact hw
  · rw [hpath]
    exact h.write _ ha w _ hw (.file _ b)

theorem holds_checkAndRecover (now : Ambient) (path : Option Path)
    (hareas : CliCommand.writes dir (.rollback now path) ⊆ areas) {w : World} (hw : I w) :
    ((checkAndRecover P now path).run env w).Holds (fun _ => I) I := by
  have hsettings : {.gameBar, .power, .audio, .adapters, .qos} ⊆ areas := by
    refine fun a ha => hareas (.inl (.inl ?_))
    simp only [Set.mem_insert_iff, Set.mem_singleton_iff] at ha ⊢
    tauto
  have hlog : .file ⟨dir, "recovery.log"⟩ ∈ areas := hareas (.inl (.inl (by simp)))
  unfold checkAndRecover checkAndRecoverWithBase
  rw [Eff.run_bind, run_getWorld, Run.bind_returned]
  dsimp only
  rw [Eff.run_bind]
  refine Run.Holds.bind (h.holds_validateSnapshotPath .recover hw) ?_
  rintro (e | target) w₁ ⟨hw₁, htarget⟩
  · exact hw₁
  obtain ⟨rfl, hwithin⟩ := htarget target rfl
  have hfile : .file (storeTarget dir path) ∈ areas := hareas (.inr ⟨hwithin, .inl rfl⟩)
  have hkey : .file (storeTarget dir path).keyPath ∈ areas := hareas (.inr ⟨hwithin, .inr rfl⟩)
  dsimp only
  rw [Eff.run_bind, run_pathExists, Run.bind_returned]
  split
  · exact hw₁
  rw [Eff.run_bind]
  refine Run.Holds.bind ((holds_loadAndVerifyWithBase _).mono (fun r w' hr => (hr.1 ▸ hw₁ : I w'))
    fun w' hr => hr ▸ hw₁) ?_
  rintro (e | snapshot) w₂ hw₂
  · dsimp only
    rw [Eff.run_bind]
    exact Run.Holds.bind ((preserves_reportUnreadable (h.logged hlog) now e).holds hw₂)
      fun _ _ hw₃ => hw₃
  dsimp only
  rw [Eff.run_bind]
  have hkeeps : snapshot.record.Keeps I :=
    h.keeps hsettings fun b _ => hareas (.inl (.inr ⟨b.serviceName, rfl⟩))
  refine Run.Holds.bind ((preserves_rollbackSnapshot hkeeps).holds hw₂) ?_
  rintro (e | report) w₃ hw₃
  · exact hw₃
  dsimp only
  rw [Eff.run_bind]
  refine Run.Holds.bind (holds_deleteSnapshotWithBase ?_ ?_ hw₃) fun _ w₄ hw₄ => ?_
  · exact fun w b hw => h.write _ hkey w _ hw (.file _ b)
  · rintro w p (rfl | rfl) hw
    · exact h.write _ hfile w _ hw (.removed _)
    · exact h.write _ hkey w _ hw (.removed _)
  rw [Eff.run_bind]
  exact Run.Holds.bind ((preserves_appendRecoveryLog (h.logged hlog) now _).holds hw₄)
    fun _ _ hw₅ => hw₅

theorem holds_saveAtomicWithBase (now : Ambient) (snapshot : SystemStateSnapshot)
    (path : Option Path) (hareas : CliCommand.writes dir (.snapshot now path) ⊆ areas) {w : World}
    (hw : I w) :
    ((saveAtomicWithBase P now snapshot path none).run env w).Holds (fun _ => I) I := by
  unfold saveAtomicWithBase
  rw [Eff.run_bind, run_getWorld, Run.bind_returned]
  dsimp only
  rw [Eff.run_bind]
  refine Run.Holds.bind (h.holds_validateSnapshotPath .save hw) ?_
  rintro (e | target) w₁ ⟨hw₁, htarget⟩
  · exact hw₁
  obtain ⟨rfl, hwithin⟩ := htarget target rfl
  have hfile : .file (storeTarget dir path) ∈ areas := hareas ⟨hwithin, Or.inl rfl⟩
  have hkey : .file (storeTarget dir path).keyPath ∈ areas :=
    hareas ⟨hwithin, Or.inr (Or.inl rfl)⟩
  have htemp : .file (tempPath now (storeTarget dir path)) ∈ areas :=
    hareas ⟨hwithin, Or.inr (Or.inr rfl)⟩
  refine Eff.Preserves.holds ?_ hw₁
  refine Eff.Preserves.bind (m := createParent _) Eff.preserves_read ?_
  rintro (e | ⟨⟩)
  · exact Eff.preserves_pure _
  refine Eff.Preserves.bind (preserves_getOrGenerateKey now _ (storeTarget dir path)
    fun w b hw => h.write _ hkey w _ hw (.file _ b)) ?_
  rintro (e | key)
  · exact Eff.preserves_pure _
  apply preserves_writeSnapshot
  · rintro w p b (rfl | rfl) hw
    · exact h.write _ htemp w _ hw (.file _ b)
    · exact h.write _ hfile w _ hw (.file _ b)
  · rintro w p (rfl | rfl) hw
    · exact h.write _ htemp w _ hw (.removed _)
    · exact h.write _ hfile w _ hw (.removed _)

/-- What stopping services does to a machine is a sequence of writes. -/
theorem waitForStop {name : String} (ha : .service name ∈ areas) {w : World}
    (polls : List StopPoll) {m : Machine} (hw : I { w with machine := m }) :
    I { w with machine := (waitForStop name polls m).2 } := by
  induction polls generalizing m with
  | nil => exact hw
  | cons poll polls ih =>
    have hfinds : I { w with machine := poll.finds name m } := by
      unfold StopPoll.finds Machine.completeStop
      split
      · split
        · next hpending =>
          exact h.write _ ha _ _ hw (.service serviceStopped (Option.isSome_of_mem hpending))
        · exact hw
      · exact hw
    unfold ValOpt.waitForStop
    dsimp only
    split
    · exact hfinds
    · exact ih hfinds

theorem stopService {name : String} (ha : .service name ∈ areas) {w : World} (a : StopAnswers)
    {m : Machine} (hw : I { w with machine := m }) :
    I { w with machine := (stopService a name m).2 } := by
  unfold ValOpt.stopService
  cases assertSafeToStopService name with
  | error e => exact hw
  | ok =>
    dsimp only
    split
    · cases hstate : m.services name with
      | none => exact hw
      | some state =>
        dsimp only
        split
        · split
          · have hpending : I { w with machine :=
                if a.accepts then m.setService name serviceStopPending else m } := by
              split
              · exact h.write _ ha _ _ hw
                  (.service serviceStopPending (Option.isSome_of_mem hstate))
              · exact hw
            exact h.waitForStop ha a.polls hpending
          · exact hw
        · exact hw
    · exact hw

theorem pauseServices {names : List String} (ha : ∀ name ∈ names, .service name ∈ areas) {w : World}
    (answers : String → StopAnswers) {m : Machine} (hw : I { w with machine := m }) :
    I { w with machine := (pauseServices answers names m).2 } := by
  induction names generalizing m with
  | nil => exact hw
  | cons name names ih =>
    obtain ⟨hname, hnames⟩ := List.forall_mem_cons.mp ha
    have hstop := ih hnames (h.stopService hname (answers name) hw)
    unfold ValOpt.pauseServices
    dsimp only
    cases (ValOpt.stopService (answers name) name m).1 <;> exact hstop

end Admits

variable {P : Platform} {env : Env Call} {I : World → Prop} {dir : List String}

/-- Whatever becomes of its calls, a command makes writes of its areas only. -/
theorem CliCommand.holds_run (command : CliCommand) (h : Admits I dir (command.writes dir))
    {w : World} (hw : I w) : ((command.run P).run env w).Holds (fun _ => I) I := by
  cases command with
  | optimize now =>
    refine Eff.Preserves.holds ((h.applyOptimizations now subset_rfl).bind ?_) hw
    rintro (e | transaction) <;> exact Eff.preserves_pure _
  | restore =>
    refine Eff.Preserves.holds ((h.recoverOrphanedTransaction subset_rfl).bind ?_) hw
    rintro (e | restored) <;> exact Eff.preserves_pure _
  | rollback now path =>
    unfold CliCommand.run
    rw [Eff.run_bind]
    refine Run.Holds.bind ((preserves_rejectsPath path).holds hw) fun rejects w₁ hw₁ => ?_
    split
    · exact hw₁
    rw [Eff.run_bind]
    refine Run.Holds.bind (h.holds_checkAndRecover now path subset_rfl hw₁) ?_
    rintro (e | report) w₂ hw₂ <;> exact hw₂
  | snapshot now path =>
    unfold CliCommand.run
    rw [Eff.run_bind]
    refine Run.Holds.bind ((preserves_captureSystemBaseline now).holds hw) ?_
    rintro (e | baseline) w₁ hw₁
    · exact hw₁
    dsimp only
    rw [Eff.run_bind]
    refine Run.Holds.bind ((preserves_rejectsPath path).holds hw₁) fun rejects w₂ hw₂ => ?_
    split
    · exact hw₂
    rw [Eff.run_bind]
    refine Run.Holds.bind (h.holds_saveAtomicWithBase now baseline path subset_rfl hw₂) ?_
    rintro (e | ⟨target, signed⟩) w₃ hw₃ <;> exact hw₃
  | pauseServices answers =>
    exact h.pauseServices (fun name hname => ⟨name, hname, rfl⟩) answers hw
  | resumeServices =>
    refine Eff.Preserves.holds (Eff.Preserves.bind (preserves_restoreTier3Services _ ?_)
      fun _ => Eff.preserves_pure _) hw
    intro b hb _ w m hw hm
    obtain ⟨name, hname, rfl⟩ := List.mem_map.mp hb
    exact h.startService ⟨name, hname, rfl⟩ hw hm
  | netInspect =>
    refine Eff.Preserves.holds (Eff.Preserves.bind preserves_readMachine ?_) hw
    rintro (e | adapterName)
    · exact Eff.preserves_pure _
    exact Eff.Preserves.bind (preserves_queryAdapterProperties adapterName) fun _ =>
      Eff.preserves_pure _
  | qosCheck =>
    refine Eff.Preserves.holds (Eff.Preserves.bind ?_ ?_) hw
    · unfold queryQosPolicy
      cases validatePolicyName defaultValorantQosPolicyName with
      | error e => exact Eff.preserves_pure _
      | ok =>
        refine Eff.Preserves.bind preserves_readMachine ?_
        rintro (e | name) <;> exact Eff.preserves_pure _
    · rintro (e | policy) <;> exact Eff.preserves_pure _
  | _ => exact hw

/-- So does a history of commands. -/
theorem holds_runCommands {runs : List (Env Call × CliCommand)}
    (h : Admits I dir {a | ∃ r ∈ runs, a ∈ r.2.writes dir}) {w : World} (hw : I w) :
    I (runCommands P runs w) := by
  induction runs generalizing w with
  | nil => exact hw
  | cons r runs ih =>
    have hr : Admits I dir (r.2.writes dir) :=
      ⟨fun a ha => h.write a ⟨r, List.mem_cons_self, ha⟩, h.storageDir⟩
    have hruns : Admits I dir {a | ∃ r ∈ runs, a ∈ r.2.writes dir} := by
      refine ⟨?_, h.storageDir⟩
      rintro a ⟨r', hr', ha⟩
      exact h.write a ⟨r', List.mem_cons_of_mem r hr', ha⟩
    exact ih hruns (Run.holds_iff_state.mp (r.2.holds_run hr hw))

/-! ### Frame -/

theorem World.SameHost.refl (w : World) : w.SameHost w := ⟨rfl, rfl, rfl, rfl, rfl, rfl⟩

theorem World.SameHost.trans {w w' w'' : World} (h : w.SameHost w') (h' : w'.SameHost w'') :
    w.SameHost w'' where
  batteryFlag := h'.batteryFlag.trans h.batteryFlag
  installedSchemes := h'.installedSchemes.trans h.installedSchemes
  endpoints := h'.endpoints.trans h.endpoints
  friendlyName := h'.friendlyName.trans h.friendlyName
  primaryAdapter := h'.primaryAdapter.trans h.primaryAdapter
  drive := h'.drive.trans h.drive

theorem World.SameHost.storageDir {w w' : World} (h : w.SameHost w') :
    w'.storageDir = w.storageDir := by
  rw [World.storageDir, h.drive, World.storageDir]

theorem Area.Same.refl (a : Area) (w : World) : a.Same w w := by
  cases a <;> first | exact rfl | exact ⟨rfl, rfl⟩

theorem Area.Same.trans {a : Area} {w w' w'' : World} (h : a.Same w w') (h' : a.Same w' w'') :
    a.Same w w'' := by
  cases a with
  | qos => exact ⟨Eq.trans h'.1 h.1, Eq.trans h'.2 h.2⟩
  | _ => exact Eq.trans h' h

/-- The worlds differ in these areas at most. -/
def World.SameBut (areas : Set Area) (w w' : World) : Prop :=
  w.SameHost w' ∧ ∀ a ∉ areas, a.Same w w'

theorem admits_sameBut (areas : Set Area) (w : World) :
    Admits (w.SameBut areas) w.storageDir areas where
  write _ ha _ _ h hwrite :=
    ⟨h.1.trans hwrite.sameHost, fun b hb => (h.2 b hb).trans (hwrite.same fun hba => hb (hba ▸ ha))⟩
  storageDir _ h := h.1.storageDir

/-- The files that a command writes are in the storage directory, or next to it where that
directory is what the command is given as its path. -/
theorem CliCommand.dir_of_writes {command : CliCommand} {p : Path}
    (h : .file p ∈ command.writes dir) :
    dir <+: p.dir ∨ command.NamesDir dir ∧ p.dir = dir.dropLast := by
  -- what is in the directory of a target
  have hwithin : ∀ {target : Path}, target.Within dir →
      dir <+: target.dir ∨ target.components = dir ∧ target.dir = dir.dropLast := by
    intro target ht
    by_cases heq : target.components = dir
    · refine .inr ⟨heq, ?_⟩
      rw [← heq, Path.components, List.dropLast_concat]
    · exact .inl (Path.prefix_dir ht.2 heq)
  cases command with
  | optimize now =>
    simp only [writes, Set.mem_insert_iff, Set.mem_singleton_iff, reduceCtorEq, false_or,
      Area.file.injEq] at h
    exact .inl (h ▸ List.prefix_rfl)
  | restore =>
    simp only [writes, Set.mem_insert_iff, Set.mem_singleton_iff, reduceCtorEq, false_or,
      Area.file.injEq] at h
    exact .inl (h ▸ List.prefix_rfl)
  | rollback now path =>
    rcases h with (h | ⟨name, h⟩) | ⟨ht, h | h⟩
    · simp only [Set.mem_insert_iff, Set.mem_singleton_iff, reduceCtorEq, false_or,
        Area.file.injEq] at h
      exact .inl (h ▸ List.prefix_rfl)
    · cases h
    all_goals
      cases h
      exact hwithin ht
  | snapshot now path =>
    obtain ⟨ht, h | h | h⟩ := h
    all_goals
      cases h
      exact hwithin ht
  | _ => simp [writes] at h

/-- **Whatever fails, and wherever the runs die**, a history of commands changes only what its
commands are meant for, and no file outside the storage directory: but for the directory that this
one is in, and only if a command was given the storage directory itself as its path. -/
theorem runCommands_frame (P : Platform) (runs : List (Env Call × CliCommand)) (w : World) :
    w.SameBut {a | ∃ r ∈ runs, a ∈ r.2.writes w.storageDir} (runCommands P runs w) ∧
    ∀ p : Path, ¬ w.storageDir <+: p.dir →
      p.dir ≠ w.storageDir.dropLast ∨ (∀ r ∈ runs, ¬ r.2.NamesDir w.storageDir) →
        (runCommands P runs w).files p = w.files p := by
  have hframe : w.SameBut {a | ∃ r ∈ runs, a ∈ r.2.writes w.storageDir} (runCommands P runs w) :=
    holds_runCommands (admits_sameBut _ w) ⟨.refl w, fun a _ => .refl a w⟩
  refine ⟨hframe, fun p hp hnext => hframe.2 (.file p) ?_⟩
  rintro ⟨r, hr, hfile⟩
  obtain hin | ⟨hnames, hdir⟩ := CliCommand.dir_of_writes hfile
  · exact hp hin
  · rcases hnext with hother | hnone
    · exact hother hdir
    · exact hnone r hr hnames

/-- An optimization that dies while it stores its transaction, and a snapshot with the storage
directory as its path. -/
def strayRuns : List (Env Call × CliCommand) :=
  [(.crashAt .writeTransaction 1 errorText, .optimize default),
    (.faultless errorText, .snapshot default (some ⟨["C:", "ProgramData"], "ValorantOptimizer"⟩))]

/-- On the desktop, that snapshot leaves a key next to the storage directory, and no file anywhere
else. -/
theorem runCommands_frame_desktop :
    ((runCommands .portable strayRuns .desktop).files
        ⟨["C:", "ProgramData"], "snapshot.key"⟩).isSome ∧
      ∀ file, (runCommands .portable strayRuns .desktop).files ⟨["C:", "Users"], file⟩ = none := by
  refine ⟨rfl, fun file => ?_⟩
  exact (runCommands_frame .portable strayRuns .desktop).2 ⟨["C:", "Users"], file⟩
    (by decide : ¬ World.desktop.storageDir <+: ["C:", "Users"])
    (.inl (by decide : ["C:", "Users"] ≠ World.desktop.storageDir.dropLast))

end ValOpt
