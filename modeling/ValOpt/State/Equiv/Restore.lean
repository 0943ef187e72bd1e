import ValOpt.Effect.Trace
import ValOpt.State.Equiv.Rollback

/-!
# Which recorded values a rollback writes back

A record has `RecordItem`s, each with the calls that write it back.  The calls of a restore
may fail one by one, and every failure is passed over, so each item fares on its own:
`RecordItem.Restorable` says, of the environment and the machine the restore starts on, when all the
calls of one item succeed.  The machine changes as the restore goes on, but only within
`Machine.SameShape`, which none of the calls depends on.
-/

namespace ValOpt

open Effect Text

/-! ### The items of a record -/

/-- One value of a rollback record, with its position in the list it comes from. -/
inductive RecordItem where
  | qos (backup : QosPolicyBackup)
  | adapter (index : ℕ) (backup : AdapterPropertyBackup)
  | audio (index : ℕ) (backup : AudioEndpointBackup)
  | power (scheme : String)
  | gameMode (mode : Bool)
  | service (index : ℕ) (backup : ServiceBackup)

namespace RecordItem

/-- The calls that write the item back; `none` for a power scheme that is not a GUID, which no call
can activate.  A policy that was there before and has no NLA setting takes no call, and neither does
a service the optimizer did not pause. -/
def calls : RecordItem → Option (List Call)
  | qos b => some ((if b.wasPolicyPresentBefore then [] else [.removeQosPolicy]) ++
      if b.previousNlaSetting.isSome then [.setNla] else [])
  | adapter i _ => some [.setAdapter i]
  | audio i _ => some [.restoreFx i]
  | power s => (stringToGuid s).toOption.map fun g => [.setActiveScheme g]
  | gameMode _ => some [.setAllowAutoGameMode, .setAutoGameModeEnabled]
  | service i b => some (if b.wasPausedByOptimizer then [.startService i] else [])

/-- All that writes the item back was carried out, in a run with the calls `t`. -/
def writtenBack (t : List (Call × Bool)) (item : RecordItem) : Bool :=
  item.calls.any fun cs => cs.all fun c => (c, true) ∈ t

/-- A call restored the item. -/
def restored (t : List (Call × Bool)) (item : RecordItem) : Bool :=
  item.writtenBack t && item.calls != some []

end RecordItem

/-- What a rollback has to write back. -/
structure RollbackRecord where
  qos : Option QosPolicyBackup
  adapters : List AdapterPropertyBackup
  audio : List AudioEndpointBackup
  power : Option String
  gameMode : Option Bool
  services : List ServiceBackup

def OptimizationTransaction.record (tx : OptimizationTransaction) : RollbackRecord where
  qos := tx.previousQosPolicy
  adapters := tx.previousAdapterProperties
  audio := tx.previousAudioEndpoints
  power := tx.previousPowerScheme
  gameMode := tx.previousGameMode
  services := []

def SystemStateSnapshot.record (s : SystemStateSnapshot) : RollbackRecord where
  qos := s.previousQosPolicy
  adapters := s.previousAdapterProperties
  audio := s.previousAudioEndpoints
  power := s.previousPowerScheme
  gameMode := s.previousGameMode
  services := s.pausedServices

/-- The item is one of the record. -/
def RollbackRecord.Has (r : RollbackRecord) : RecordItem → Prop
  | .qos b => r.qos = some b
  | .adapter i b => r.adapters[i]? = some b
  | .audio i b => r.audio[i]? = some b
  | .power s => r.power = some s
  | .gameMode b => r.gameMode = some b
  | .service i b => r.services[i]? = some b

/-! ### The calls of a restore -/

/-- The calls that write a recorded value. -/
def Call.WritesBack : Call → Prop
  | .removeQosPolicy | .setNla | .setAdapter _ | .restoreFx _ | .setActiveScheme _
  | .setAllowAutoGameMode | .setAutoGameModeEnabled | .startService _ => True
  | _ => False

/-- The calls that a restore makes. -/
def Call.Restores : Call → Prop
  | .removeQosPolicy | .setNla | .elevationOfSet _ | .spawnAdapterSet _ | .setAdapter _
  | .reopenFxProperties _ | .restoreFx _ | .setActiveScheme _ | .openGameBar
  | .queryAllowAutoGameMode | .createGameBar | .setAllowAutoGameMode | .setAutoGameModeEnabled
  | .openScm _ | .openService _ | .startService _ => True
  | _ => False

/-- The program survives, and no call but those of a restore fails. -/
structure OnlyRestoresFail (env : Env Call) : Prop where
  crashFree : env.CrashFree
  outcome : ∀ c : Call, ¬ c.Restores → env.outcome c = .ok

/-- `unregister_qos_policy` accepts the backup. -/
def QosPolicyBackup.Accepted (b : QosPolicyBackup) : Prop :=
  validatePolicyName b.policyName = .ok () ∧
    ∀ v, b.previousNlaSetting = some v → v.toList.all Char.isAlphanum

/-- The item passes the checks of the code, what it belongs to is there, and each call on the way to
it is going to succeed. -/
def RecordItem.Restorable (env : Env Call) (m : Machine) : RecordItem → Prop
  | qos b =>
    (b.wasPolicyPresentBefore = false →
      validatePolicyName b.policyName = .ok () ∧ env.outcome .removeQosPolicy = .ok) ∧
    ∀ v, b.previousNlaSetting = some v →
      validatePolicyName b.policyName = .ok () ∧ v.toList.all Char.isAlphanum ∧
        env.outcome .setNla = .ok
  | adapter i b =>
    validateAdapterSet b.adapterName b.keyword b.originalValue = .ok () ∧
      env.outcome (.elevationOfSet i) = .ok ∧ env.outcome (.spawnAdapterSet i) = .ok ∧
      env.outcome (.setAdapter i) = .ok ∧
        (m.setAdapter b.adapterName b.keyword b.originalValue).isSome
  | audio i b =>
    env.outcome (.reopenFxProperties i) = .ok ∧ env.outcome (.restoreFx i) = .ok ∧
      (m.fxProperties b.endpointId).isSome
  | power s => ∃ g, stringToGuid s = .ok g ∧ g ∈ m.installedSchemes ∧
      env.outcome (.setActiveScheme g) = .ok
  | gameMode _ =>
    env.outcome .createGameBar = .ok ∧ env.outcome .setAllowAutoGameMode = .ok ∧
      env.outcome .setAutoGameModeEnabled = .ok
  | service i b => b.wasPausedByOptimizer →
      env.outcome (.openScm i) = .ok ∧ env.outcome (.openService i) = .ok ∧
        env.outcome (.startService i) = .ok ∧ (m.services b.serviceName).isSome

/-! ### What a restore does not change -/

namespace Machine

/-- The keywords of an adapter's properties. -/
def keywords (m : Machine) (adapter : String) : Option (List String) :=
  (m.adapters adapter).map fun A => A.rows.map (·.registryKeyword)

/-- The machines have the same schemes, endpoint keys, services and adapter properties, whatever
the values of these. -/
structure SameShape (m m' : Machine) : Prop where
  installedSchemes : m'.installedSchemes = m.installedSchemes
  fxProperties : ∀ id, (m'.fxProperties id).isSome = (m.fxProperties id).isSome
  services : ∀ name, (m'.services name).isSome = (m.services name).isSome
  keywords : ∀ adapter, m'.keywords adapter = m.keywords adapter

theorem SameShape.refl (m : Machine) : m.SameShape m :=
  ⟨rfl, fun _ => rfl, fun _ => rfl, fun _ => rfl⟩

/-- What else a machine holds does not matter. -/
theorem SameShape.congr {m m' m'' : Machine} (h : m.SameShape m')
    (hschemes : m''.installedSchemes = m'.installedSchemes)
    (hfx : m''.fxProperties = m'.fxProperties) (hservices : m''.services = m'.services)
    (hadapters : m''.adapters = m'.adapters) : m.SameShape m'' where
  installedSchemes := hschemes.trans h.installedSchemes
  fxProperties := by
    rw [hfx]
    exact h.fxProperties
  services := by
    rw [hservices]
    exact h.services
  keywords := by
    unfold Machine.keywords
    rw [hadapters]
    exact h.keywords

theorem isSome_setAdapter (m : Machine) (adapter kw v : String) :
    (m.setAdapter adapter kw v).isSome =
      (m.keywords adapter).any fun ks => ks.any (eqIgnoreAsciiCase · kw) := by
  unfold setAdapter keywords
  cases m.adapters adapter with
  | none => rfl
  | some A =>
    simp only [Option.map_some, Option.any_some, List.any_map, Function.comp_def]
    split <;> simp_all

namespace SameShape

variable {m m' : Machine}

theorem setAdapter (h : m.SameShape m') {adapter kw v : String} {m'' : Machine}
    (hset : m'.setAdapter adapter kw v = some m'') : m.SameShape m'' := by
  unfold Machine.setAdapter at hset
  cases hA : m'.adapters adapter with
  | none =>
    rw [hA] at hset
    cases hset
  | some A =>
    rw [hA] at hset
    dsimp only at hset
    split at hset
    · cases hset
      refine ⟨h.installedSchemes, h.fxProperties, h.services, fun adapter' => ?_⟩
      rw [← h.keywords adapter']
      unfold Machine.keywords
      by_cases ha : adapter' = adapter
      · subst ha
        simp [hA, AdapterProperties.assign]
      · simp [ha]
    · cases hset

theorem setFxProperties (h : m.SameShape m') {id : String} (v : Option UInt32)
    (hid : (m.fxProperties id).isSome) : m.SameShape (m'.setFxProperties id v) := by
  refine ⟨h.installedSchemes, fun id' => ?_, h.services, h.keywords⟩
  by_cases hid' : id' = id
  · subst hid'
    simp [Machine.setFxProperties, hid]
  · simp [Machine.setFxProperties, hid', h.fxProperties]

theorem startService (h : m.SameShape m') {name : String} {m'' : Machine}
    (hstart : m'.startService name = some m'') : m.SameShape m'' := by
  unfold Machine.startService at hstart
  obtain ⟨v, hv, rfl⟩ := Option.map_eq_some_iff.mp hstart
  refine ⟨h.installedSchemes, h.fxProperties, fun name' => ?_, h.keywords⟩
  by_cases hname : name' = name
  · subst hname
    simp [← h.services name', hv]
  · simp [hname, h.services]

end SameShape

end Machine

/-- What holds of the worlds `w'` that a restore goes through, from `w`. -/
structure World.Alike (w w' : World) : Prop where
  machine : w.machine.SameShape w'.machine
  files : w'.files = w.files
  drive : w'.drive = w.drive

theorem World.Alike.refl (w : World) : w.Alike w := ⟨.refl _, rfl, rfl⟩

theorem World.Alike.onMachine {w w' : World} (h : w.Alike w') {m : Machine}
    (hm : w.machine.SameShape m) : w.Alike { w' with machine := m } := ⟨hm, h.files, h.drive⟩

/-! ### The account of one call -/

section Calls

variable {env : Env Call} {c : Call} {I J : World → Prop} {p : Prop}

/-- Reading a setting, where `p` says whether it is there. -/
theorem carriesOut_readMachine {α : Type} {f : Machine → Option α} (hfree : env.CrashFree)
    (hc : ¬ c.WritesBack) (hp : ∀ w, I w → ((f w.machine).isSome ↔ p)) :
    Eff.CarriesOut env Call.WritesBack I (readMachine c f)
      (fun r => r.isOk = true ↔ env.outcome c = .ok ∧ p) I fun _ => False := by
  have hcall := Eff.CarriesOut.perform (W := Call.WritesBack) (c := c)
    (o := .read fun w : World => f w.machine) hfree (I := I) (p := p) ?_ ?_ fun _ _ hw => hw
  · refine hcall.congr fun c' hc' => ?_
    have hne : c' ≠ c := by
      intro h
      rw [h] at hc'
      exact hc hc'
    simp [hne]
  · intro w hw
    rw [← hp w hw]
    simp
  · intro w a w' hw h
    simp only [Op.full_read, Option.map_eq_some_iff, Prod.mk.injEq] at h
    obtain ⟨_, _, _, rfl⟩ := h
    exact hw

/-- Writing a setting, where `p` says whether it is there. -/
theorem carriesOut_writeMachine {f : Machine → Option Machine} (hfree : env.CrashFree)
    (hp : ∀ w, I w → ((f w.machine).isSome ↔ p))
    (hI : ∀ w m, I w → f w.machine = some m → I { w with machine := m }) :
    Eff.CarriesOut env Call.WritesBack I (writeMachine c f)
      (fun r => r.isOk = true ↔ env.outcome c = .ok ∧ p) I
      fun c' => c' = c ∧ env.outcome c = .ok ∧ p := by
  refine Eff.CarriesOut.perform hfree ?_ ?_ fun _ _ hw => hw
  · intro w hw
    rw [← hp w hw]
    simp [World.onMachine]
  · intro w a w' hw h
    simp only [World.onMachine, Op.full_atomic, Option.map_map, Option.map_eq_some_iff,
      Function.comp_apply, Prod.mk.injEq] at h
    obtain ⟨m, hm, _, rfl⟩ := h
    exact hI w m hw hm

/-- Writing a setting that is there. -/
theorem carriesOut_writeMachine_ok {f : Machine → Option Machine} (ho : env.outcome c = .ok)
    (hf : ∀ w, I w → ∃ m, f w.machine = some m ∧ J { w with machine := m }) :
    Eff.CarriesOut env Call.WritesBack I (writeMachine c f) (fun r => r = .ok ()) J (· = c) := by
  have hcall := Eff.CarriesOut.perform_ok (W := Call.WritesBack) (c := c) (I := I) (J := J)
    (o := .atomic fun w : World => w.onMachine f) ho ?_
  · refine hcall.mono ?_ (fun _ h => h) fun _ _ => Iff.rfl
    rintro r ⟨⟨⟩, rfl⟩
    rfl
  · intro w hw
    obtain ⟨m, hm, hj⟩ := hf w hw
    exact ⟨(), _, by simp [World.onMachine, hm], hj⟩

theorem idle_fileExists {env : Env Call} {q : Path} :
    Eff.Idle env Call.WritesBack (fileExists q) where
  returned := fun w _ => ⟨_, w, rfl, trivial, trivial⟩
  trace := by simp

theorem idle_pathExists {env : Env Call} {dir : List String} {q : Path} :
    Eff.Idle env Call.WritesBack (pathExists dir q) where
  returned := fun w _ => ⟨_, w, rfl, trivial, trivial⟩
  trace := by simp

theorem idle_isDirectory {env : Env Call} {dir : List String} {q : Path} :
    Eff.Idle env Call.WritesBack (isDirectory dir q) where
  returned := fun w _ => ⟨_, w, rfl, trivial, trivial⟩
  trace := by simp

theorem idle_unlessDirectory {α : Type} {env : Env Call} (hfree : env.CrashFree) {c : Call}
    (hc : ¬ c.WritesBack) {isDir : Bool} {m : Prog (Except String α)}
    (hm : Eff.Idle env Call.WritesBack m) :
    Eff.Idle env Call.WritesBack (unlessDirectory isDir c m) := by
  cases isDir with
  | false => exact hm
  | true =>
    rw [unlessDirectory_true]
    exact Eff.idle_perform hfree hc

theorem idle_getWorld {env : Env Call} : Eff.Idle env Call.WritesBack getWorld where
  returned := fun w _ => ⟨_, w, rfl, trivial, trivial⟩
  trace := by simp

end Calls

/-! ### The accounts of the items -/

section Accounts

variable {env : Env Call} {w : World}

/-- An endpoint is written back where its item is restorable. -/
theorem carriesOut_restoreEndpoint (hfree : env.CrashFree) (i : ℕ) (b : AudioEndpointBackup) :
    Eff.CarriesOut env Call.WritesBack w.Alike (restoreEndpoint i b) (fun _ => True) w.Alike
      fun c => c = .restoreFx i ∧ (RecordItem.audio i b).Restorable env w.machine := by
  simp only [RecordItem.Restorable]
  unfold restoreEndpoint
  have hopen := carriesOut_readMachine (c := .reopenFxProperties i) (I := w.Alike)
    (f := fun m => m.fxProperties b.endpointId) hfree id
    fun w' h => by rw [h.machine.fxProperties]
  refine (hopen.bind ?_).congr fun c _ => by rw [false_or]
  rintro (e | v) hr
  · simp only [Except.isOk, Except.toBool, Bool.false_eq_true, false_iff] at hr
    refine (Eff.CarriesOut.pure trivial).congr fun c _ => ?_
    tauto
  · simp only [Except.isOk, Except.toBool, true_iff] at hr
    have hset := carriesOut_writeMachine (c := .restoreFx i) (I := w.Alike) (p := True)
      (f := fun m => some (m.setFxProperties b.endpointId b.originalDisabledState)) hfree
      (by simp) ?_
    · refine (hset.bind fun _ _ => Eff.CarriesOut.pure trivial).congr fun c _ => ?_
      tauto
    · rintro w' m h ⟨⟩
      exact h.onMachine (h.machine.setFxProperties _ hr.2)

theorem carriesOut_setAdapterProperty (hfree : env.CrashFree) (i : ℕ) (adapter kw v : String) :
    Eff.CarriesOut env Call.WritesBack w.Alike (setAdapterProperty i adapter kw v)
      (fun _ => True) w.Alike fun c => c = .setAdapter i ∧
        validateAdapterSet adapter kw v = .ok () ∧ env.outcome (.elevationOfSet i) = .ok ∧
        env.outcome (.spawnAdapterSet i) = .ok ∧ env.outcome (.setAdapter i) = .ok ∧
        (w.machine.setAdapter adapter kw v).isSome := by
  unfold setAdapterProperty
  cases hvalid : validateAdapterSet adapter kw v with
  | error e => exact (Eff.CarriesOut.pure trivial).congr fun c _ => by simp
  | ok =>
    have helev := carriesOut_readMachine (c := .elevationOfSet i) (I := w.Alike) (p := True)
      (f := fun _ => some ()) hfree id fun _ _ => by simp
    refine (helev.bind ?_).congr fun c _ => by rw [false_or]
    rintro (e | ⟨⟩) hr
    · simp only [Except.isOk, Except.toBool, Bool.false_eq_true, false_iff] at hr
      refine (Eff.CarriesOut.pure trivial).congr fun c _ => ?_
      tauto
    · simp only [Except.isOk, Except.toBool, true_iff] at hr
      have hspawn := carriesOut_readMachine (c := .spawnAdapterSet i) (I := w.Alike) (p := True)
        (f := fun _ => some ()) hfree id fun _ _ => by simp
      refine (hspawn.bind ?_).congr fun c _ => by rw [false_or]
      rintro (e | ⟨⟩) hr'
      · simp only [Except.isOk, Except.toBool, Bool.false_eq_true, false_iff] at hr'
        refine (Eff.CarriesOut.pure trivial).congr fun c _ => ?_
        tauto
      · simp only [Except.isOk, Except.toBool, true_iff] at hr'
        have hset := carriesOut_writeMachine (c := .setAdapter i) (I := w.Alike)
          (f := fun m => m.setAdapter adapter kw v) hfree
          (p := (w.machine.setAdapter adapter kw v).isSome)
          (fun w' h => by
            rw [Machine.isSome_setAdapter, Machine.isSome_setAdapter, h.machine.keywords])
          fun w' m h hm => h.onMachine (h.machine.setAdapter hm)
        refine (hset.bind (E := fun _ => False) ?_).congr fun c _ => ?_
        · rintro (e | ⟨⟩) _ <;> exact Eff.CarriesOut.pure trivial
        · tauto

/-- An adapter property is written back where its item is restorable. -/
theorem carriesOut_restoreProperty (hfree : env.CrashFree) (i : ℕ) (b : AdapterPropertyBackup) :
    Eff.CarriesOut env Call.WritesBack w.Alike (restoreProperty i b) (fun _ => True) w.Alike
      fun c => c = .setAdapter i ∧ (RecordItem.adapter i b).Restorable env w.machine := by
  refine ((carriesOut_setAdapterProperty hfree i _ _ _).bind fun _ _ =>
    Eff.CarriesOut.pure trivial).congr fun c _ => ?_
  simp [RecordItem.Restorable]

theorem carriesOut_startService (hfree : env.CrashFree) (i : ℕ) (name : String) :
    Eff.CarriesOut env Call.WritesBack w.Alike (startService i name) (fun _ => True) w.Alike
      fun c => c = .startService i ∧ env.outcome (.openScm i) = .ok ∧
        env.outcome (.openService i) = .ok ∧ env.outcome (.startService i) = .ok ∧
        (w.machine.services name).isSome := by
  unfold startService
  have hscm := carriesOut_readMachine (c := .openScm i) (I := w.Alike) (p := True)
    (f := fun _ => some ()) hfree id fun _ _ => by simp
  have hopen := carriesOut_readMachine (c := .openService i) (I := w.Alike)
    (f := fun m => m.services name) hfree id fun w' h => by rw [h.machine.services]
  have hstart := carriesOut_writeMachine (c := .startService i) (I := w.Alike)
    (f := fun m => m.startService name) hfree (p := (w.machine.services name).isSome)
    (fun w' h => by rw [Machine.startService, Option.isSome_map, h.machine.services])
    fun w' m h hm => h.onMachine (h.machine.startService hm)
  refine (hscm.bind ?_).congr fun c _ => by rw [false_or]
  rintro (e | ⟨⟩) hscm
  · simp only [Except.isOk, Except.toBool, Bool.false_eq_true, false_iff] at hscm
    refine (Eff.CarriesOut.pure trivial).congr fun c _ => ?_
    tauto
  simp only [Except.isOk, Except.toBool, true_iff] at hscm
  refine (hopen.bind ?_).congr fun c _ => by rw [false_or]
  rintro (e | v) hopen
  · simp only [Except.isOk, Except.toBool, Bool.false_eq_true, false_iff] at hopen
    refine (Eff.CarriesOut.pure trivial).congr fun c _ => ?_
    tauto
  simp only [Except.isOk, Except.toBool, true_iff] at hopen
  refine (hstart.bind (E := fun _ => False) ?_).congr fun c _ => ?_
  · rintro (e | ⟨⟩) _ <;> exact Eff.CarriesOut.pure trivial
  · tauto

/-- A service is started where its item is restorable and says that it was paused. -/
theorem carriesOut_restoreService (hfree : env.CrashFree) (i : ℕ) (b : ServiceBackup) :
    Eff.CarriesOut env Call.WritesBack w.Alike (restoreService i b) (fun _ => True) w.Alike
      fun c => c = .startService i ∧ b.wasPausedByOptimizer ∧
        (RecordItem.service i b).Restorable env w.machine := by
  simp only [RecordItem.Restorable]
  unfold restoreService
  by_cases hpaused : b.wasPausedByOptimizer
  · rw [if_pos hpaused]
    refine ((carriesOut_startService hfree i b.serviceName).bind fun _ _ =>
      Eff.CarriesOut.pure trivial).congr fun c _ => ?_
    simp [hpaused]
  · rw [if_neg hpaused]
    exact (Eff.CarriesOut.pure trivial).congr fun c _ => by simp [hpaused]

/-- The power scheme is activated where its item is restorable. -/
theorem carriesOut_restorePowerScheme (hfree : env.CrashFree) (g : Guid) :
    Eff.CarriesOut env Call.WritesBack w.Alike (restorePowerScheme g) (fun _ => True) w.Alike
      fun c => c = .setActiveScheme g ∧ env.outcome (.setActiveScheme g) = .ok ∧
        g ∈ w.machine.installedSchemes := by
  unfold restorePowerScheme setActivePowerScheme
  have hset := carriesOut_writeMachine (c := .setActiveScheme g) (I := w.Alike)
    (f := fun m => m.setActiveScheme g) hfree (p := g ∈ w.machine.installedSchemes) ?_ ?_
  · refine (hset.bind (E := fun _ => False) ?_).congr fun c _ => by rw [or_false]
    rintro (e | ⟨⟩) _ <;> exact Eff.CarriesOut.pure trivial
  · intro w' h
    unfold Machine.setActiveScheme
    rw [h.machine.installedSchemes]
    split <;> simp_all
  · intro w' m h hm
    unfold Machine.setActiveScheme at hm
    split at hm
    · cases hm
      exact h.onMachine (h.machine.congr rfl rfl rfl rfl)
    · cases hm

/-- The NLA setting is written where the backup has one that passes. -/
theorem carriesOut_restoreNlaSetting (hfree : env.CrashFree) (setting : Option String) :
    Eff.CarriesOut env Call.WritesBack w.Alike (restoreNlaSetting setting)
      (fun r => r.isOk = true ↔ ∀ v, setting = some v → v.toList.all Char.isAlphanum) w.Alike
      fun c => c = .setNla ∧ ∃ v, setting = some v ∧ v.toList.all Char.isAlphanum ∧
        env.outcome .setNla = .ok := by
  unfold restoreNlaSetting
  cases setting with
  | none =>
    refine Eff.CarriesOut.congr (Eff.CarriesOut.pure ?_) fun c _ => by simp
    exact ⟨fun _ _ => nofun, fun _ => rfl⟩
  | some v =>
    by_cases hv : v.toList.all Char.isAlphanum
    · simp only [if_pos hv, Option.some.injEq, exists_eq_left', forall_eq']
      have hset := carriesOut_writeMachine (c := .setNla) (I := w.Alike) (p := True)
        (f := fun m => some { m with nlaSetting := some v }) hfree (by simp) ?_
      · refine (hset.bind fun _ _ => Eff.CarriesOut.pure ?_).congr fun c _ => ?_
        · exact ⟨fun _ => hv, fun _ => rfl⟩
        · simp only [hv, or_false, and_true, true_and]
      · rintro w' m h ⟨⟩
        exact h.onMachine (h.machine.congr rfl rfl rfl rfl)
    · simp only [if_neg hv, Option.some.injEq, exists_eq_left', forall_eq']
      refine Eff.CarriesOut.congr (Eff.CarriesOut.pure ?_) fun c _ => ?_
      · exact ⟨nofun, fun h => absurd h hv⟩
      · simp only [hv, false_and, and_false, Bool.false_eq_true]

/-- The policy is removed and the NLA setting written where the backup is accepted. -/
theorem carriesOut_unregisterQosPolicy (hfree : env.CrashFree) (b : QosPolicyBackup) :
    Eff.CarriesOut env Call.WritesBack w.Alike (unregisterQosPolicy b)
      (fun r => r.isOk = true ↔ b.Accepted) w.Alike
      fun c => validatePolicyName b.policyName = .ok () ∧
        ((c = .removeQosPolicy ∧ b.wasPolicyPresentBefore = false ∧
          env.outcome .removeQosPolicy = .ok) ∨
        (c = .setNla ∧ ∃ v, b.previousNlaSetting = some v ∧ v.toList.all Char.isAlphanum ∧
          env.outcome .setNla = .ok)) := by
  unfold unregisterQosPolicy QosPolicyBackup.Accepted
  cases hname : validatePolicyName b.policyName with
  | error e =>
    refine Eff.CarriesOut.congr (Eff.CarriesOut.pure ?_) fun c _ => by simp
    exact ⟨nofun, nofun⟩
  | ok =>
    have hnla := carriesOut_restoreNlaSetting (w := w) hfree b.previousNlaSetting
    have haccepted : ∀ r : Except String Unit, (r.isOk = true ↔
        ∀ v, b.previousNlaSetting = some v → v.toList.all Char.isAlphanum) →
        (r.isOk = true ↔ True ∧
          ∀ v, b.previousNlaSetting = some v → v.toList.all Char.isAlphanum) :=
      fun r hr => hr.trans (true_and _).to_iff.symm
    by_cases hpresent : b.wasPolicyPresentBefore
    · simp only [if_pos hpresent]
      exact hnla.mono haccepted (fun _ h => h) fun c _ => by simp [hpresent]
    · simp only [if_neg hpresent]
      have hremove := carriesOut_writeMachine (c := .removeQosPolicy) (I := w.Alike) (p := True)
        (f := fun m => some { m with qosPolicies := m.qosPolicies.filter (· ≠ b.policyName) })
        hfree (by simp) ?_
      · refine (hremove.bind fun _ _ => hnla).mono haccepted (fun _ h => h) fun c _ => ?_
        simp [hpresent]
      · rintro w' m h ⟨⟩
        exact h.onMachine (h.machine.congr rfl rfl rfl rfl)

/-- Game Mode is written where its key can be opened. -/
theorem carriesOut_restoreGameMode (hfree : env.CrashFree) (mode : Bool) :
    Eff.CarriesOut env Call.WritesBack w.Alike (restoreGameMode mode) (fun _ => True) w.Alike
      fun c => env.outcome .createGameBar = .ok ∧
        ((c = .setAllowAutoGameMode ∧ env.outcome .setAllowAutoGameMode = .ok) ∨
          (c = .setAutoGameModeEnabled ∧ env.outcome .setAutoGameModeEnabled = .ok)) := by
  -- reading the state writes nothing, whatever it finds
  have hread : Eff.CarriesOut env Call.WritesBack w.Alike getGameModeState (fun _ => True) w.Alike
      fun _ => False := by
    refine Eff.Idle.preserving ?_ hfree ?_
    · unfold getGameModeState
      refine Eff.Idle.bind (Eff.idle_perform hfree id) ?_
      rintro (_ | _)
      · exact Eff.idle_pure _
      refine Eff.Idle.bind (Eff.idle_perform hfree id) ?_
      rintro (_ | _) <;> exact Eff.idle_pure _
    · unfold getGameModeState
      refine Eff.Preserves.bind preserves_readMachine ?_
      rintro (_ | _)
      · exact Eff.preserves_pure _
      refine Eff.Preserves.bind preserves_readMachine ?_
      rintro (_ | _) <;> exact Eff.preserves_pure _
  have hset : Eff.CarriesOut env Call.WritesBack w.Alike (setGameMode mode) (fun _ => True) w.Alike
      fun c => env.outcome .createGameBar = .ok ∧
        ((c = .setAllowAutoGameMode ∧ env.outcome .setAllowAutoGameMode = .ok) ∨
          (c = .setAutoGameModeEnabled ∧ env.outcome .setAutoGameModeEnabled = .ok)) := by
    unfold setGameMode
    refine (hread.bind fun _ _ => ?_).congr fun c _ => by rw [false_or]
    by_cases ho : env.outcome .createGameBar = .ok
    · let hasKey : World → Prop := fun w' => w.Alike w' ∧ w'.machine.gameBar.isSome
      have hcreate := carriesOut_writeMachine_ok (c := .createGameBar) (I := w.Alike) (J := hasKey)
        (f := fun m => some m.createGameBar) ho
        fun w' h => ⟨_, rfl, h.onMachine (h.machine.congr rfl rfl rfl rfl), rfl⟩
      have hwrite : ∀ (c : Call) (f : GameBar → GameBar),
          Eff.CarriesOut env Call.WritesBack hasKey
            (writeMachine c fun m => m.gameBar.map fun k => { m with gameBar := some (f k) })
            (fun r => r.isOk = true ↔ env.outcome c = .ok ∧ True) hasKey
            fun c' => c' = c ∧ env.outcome c = .ok ∧ True := by
        intro c f
        refine carriesOut_writeMachine hfree ?_ ?_
        · rintro w' ⟨-, hk⟩
          simp [hk]
        · rintro w' m ⟨h, -⟩ hm
          obtain ⟨k, -, rfl⟩ := Option.map_eq_some_iff.mp hm
          exact ⟨h.onMachine (h.machine.congr rfl rfl rfl rfl), rfl⟩
      have hset1 := hwrite .setAllowAutoGameMode
        fun k => { k with allowAutoGameMode := some (if mode then 1 else 0) }
      have hset2 := hwrite .setAutoGameModeEnabled
        fun k => { k with autoGameModeEnabled := some (if mode then 1 else 0) }
      refine Eff.CarriesOut.congr (hcreate.bind (E := fun c =>
        (c = .setAllowAutoGameMode ∧ env.outcome .setAllowAutoGameMode = .ok) ∨
          (c = .setAutoGameModeEnabled ∧ env.outcome .setAutoGameModeEnabled = .ok)) ?_)
        fun c hc => ?_
      · rintro _ rfl
        refine (hset1.bind (K := hasKey) fun r1 _ =>
          hset2.bind (E := fun _ => False) fun r2 _ => ?_).mono
          (fun _ h => h) (fun _ h => h.1) fun c _ => by simp only [and_true, or_false]
        rcases r1 with _ | _ <;> rcases r2 with _ | _ <;> exact Eff.CarriesOut.pure trivial
      · have hne : c ≠ .createGameBar := by
          rintro rfl
          exact hc
        simp only [hne, false_or, ho, true_and]
    · have hcreate := carriesOut_writeMachine (c := .createGameBar) (I := w.Alike) (p := True)
        (f := fun m => some m.createGameBar) hfree (by simp) ?_
      · refine (hcreate.bind (E := fun _ => False) ?_).congr fun c _ => ?_
        · rintro (e | ⟨⟩) hr
          · exact Eff.CarriesOut.pure trivial
          · simp only [Except.isOk, Except.toBool, true_iff] at hr
            exact absurd hr.1 ho
        · simp [ho]
      · rintro w' m h ⟨⟩
        exact h.onMachine (h.machine.congr rfl rfl rfl rfl)
  unfold restoreGameMode
  refine (hset.bind (E := fun _ => False) ?_).congr fun c _ => by rw [or_false]
  rintro (_ | _) _ <;> exact Eff.CarriesOut.pure trivial

end Accounts

end ValOpt
