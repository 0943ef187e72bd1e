import ValOpt.State.Equiv.RecoveryLog
import ValOpt.State.Equiv.Restore

/-!
# Whether a rollback record outlives a failed restore

`rollback` and `checkAndRecoverWithBase` remove the stored record whatever became of the restore,
and the report of the latter counts the items it tried.  **`record_outlives_failed_restore_iff`**:
the record stays until all of it is written back, and the report counts no more than what was,
exactly when every item of the record is restorable and every item it counts takes a call.

The proof composes the accounts of the single restores into that of a whole record: the calls that
are carried out are those of the restorable items (`carriesOut_rollbackSettings`,
`carriesOut_rollbackSnapshot`).
-/

namespace ValOpt

open Effect

/-! ### The account of a record -/

/-- The restore of the item carries the call out. -/
def RecordItem.Carries (env : Env Call) (m : Machine) (c : Call) : RecordItem → Prop
  | qos b => validatePolicyName b.policyName = .ok () ∧
      ((c = .removeQosPolicy ∧ b.wasPolicyPresentBefore = false ∧
        env.outcome .removeQosPolicy = .ok) ∨
      (c = .setNla ∧ ∃ v, b.previousNlaSetting = some v ∧ v.toList.all Char.isAlphanum ∧
        env.outcome .setNla = .ok))
  | adapter i b => c = .setAdapter i ∧ (adapter i b).Restorable env m
  | audio i b => c = .restoreFx i ∧ (audio i b).Restorable env m
  | power s => ∃ g, stringToGuid s = .ok g ∧ c = .setActiveScheme g ∧
      env.outcome (.setActiveScheme g) = .ok ∧ g ∈ m.installedSchemes
  | gameMode _ => env.outcome .createGameBar = .ok ∧
      ((c = .setAllowAutoGameMode ∧ env.outcome .setAllowAutoGameMode = .ok) ∨
        (c = .setAutoGameModeEnabled ∧ env.outcome .setAutoGameModeEnabled = .ok))
  | service i b => c = .startService i ∧ b.wasPausedByOptimizer ∧
      (service i b).Restorable env m

theorem RecordItem.mem_calls_of_carries {item : RecordItem} {env : Env Call} {m : Machine}
    {c : Call} (h : item.Carries env m c) : ∃ cs, item.calls = some cs ∧ c ∈ cs := by
  cases item with
  | qos b =>
    refine ⟨_, rfl, List.mem_append.mpr ?_⟩
    rcases h.2 with ⟨rfl, hb, -⟩ | ⟨rfl, v, hv, -⟩
    · exact .inl (by simp [hb])
    · exact .inr (by simp [hv])
  | adapter i b => exact ⟨_, rfl, by simp [h.1]⟩
  | audio i b => exact ⟨_, rfl, by simp [h.1]⟩
  | power s =>
    obtain ⟨g, h⟩ := h
    refine ⟨[.setActiveScheme g], ?_, by simp [h.2.1]⟩
    simp [calls, h.1, Except.toOption]
  | gameMode b =>
    refine ⟨_, rfl, ?_⟩
    rcases h.2 with ⟨rfl, -⟩ | ⟨rfl, -⟩ <;> simp
  | service i b =>
    obtain ⟨rfl, hb, -⟩ := h
    exact ⟨_, rfl, by simp [hb]⟩

/-- The item that a call writes back. -/
def RollbackRecord.itemOf (r : RollbackRecord) : Call → Option RecordItem
  | .removeQosPolicy | .setNla => r.qos.map .qos
  | .setAdapter i => r.adapters[i]?.map (.adapter i)
  | .restoreFx i => r.audio[i]?.map (.audio i)
  | .setActiveScheme _ => r.power.map .power
  | .setAllowAutoGameMode | .setAutoGameModeEnabled => r.gameMode.map .gameMode
  | .startService i => r.services[i]?.map (.service i)
  | _ => none

/-- No two items share a call. -/
theorem RollbackRecord.Has.itemOf_eq {r : RollbackRecord} {item : RecordItem} {cs : List Call}
    {c : Call} (h : r.Has item) (hcs : item.calls = some cs) (hc : c ∈ cs) :
    c.WritesBack ∧ r.itemOf c = some item := by
  cases item with
  | qos b =>
    have hq : r.qos = some b := h
    cases hcs
    rcases List.mem_append.mp hc with hc | hc <;> split at hc <;>
      simp_all [Call.WritesBack, itemOf]
  | adapter i b =>
    have hb : r.adapters[i]? = some b := h
    cases hcs
    simp_all [Call.WritesBack, itemOf]
  | audio i b =>
    have hb : r.audio[i]? = some b := h
    cases hcs
    simp_all [Call.WritesBack, itemOf]
  | power s =>
    have hs : r.power = some s := h
    simp only [RecordItem.calls, Option.map_eq_some_iff] at hcs
    obtain ⟨g, -, rfl⟩ := hcs
    rw [List.mem_singleton] at hc
    simp [hc, Call.WritesBack, itemOf, hs]
  | gameMode b =>
    have hb : r.gameMode = some b := h
    cases hcs
    rcases List.mem_pair.mp hc with rfl | rfl <;> simp [Call.WritesBack, itemOf, hb]
  | service i b =>
    have hb : r.services[i]? = some b := h
    cases hcs
    split at hc <;> simp_all [Call.WritesBack, itemOf]

/-- An item is restorable where the restore carries out all its calls. -/
theorem RecordItem.restorable_iff {item : RecordItem} {env : Env Call} {m : Machine} :
    item.Restorable env m ↔ ∃ cs, item.calls = some cs ∧ ∀ c ∈ cs, item.Carries env m c := by
  cases item with
  | qos b =>
    cases hb : b.wasPolicyPresentBefore <;> cases hv : b.previousNlaSetting <;>
      simp [calls, Carries, Restorable, hb, hv]
  | adapter i b => simp [calls, Carries]
  | audio i b => simp [calls, Carries]
  | power s =>
    cases hs : stringToGuid s with
    | error e => simp [calls, Carries, Restorable, hs, Except.toOption]
    | ok g => simp [calls, Carries, Restorable, hs, Except.toOption, and_comm]
  | gameMode b => simp [calls, Carries, Restorable]; tauto
  | service i b =>
    by_cases hb : b.wasPausedByOptimizer <;> simp [calls, Carries, Restorable, hb]

/-- An item is written back where it is restorable. -/
theorem RollbackRecord.Has.writtenBack_iff {r : RollbackRecord} {env : Env Call} {m : Machine}
    {item : RecordItem} {t : List (Call × Bool)} (h : r.Has item)
    (ht : ∀ c : Call, c.WritesBack →
      ((c, true) ∈ t ↔ ∃ item, r.Has item ∧ item.Carries env m c)) :
    item.writtenBack t = true ↔ item.Restorable env m := by
  have hcall : ∀ cs, item.calls = some cs → ∀ c ∈ cs, ((c, true) ∈ t ↔ item.Carries env m c) := by
    intro cs hcs c hc
    obtain ⟨hwrites, hitem⟩ := h.itemOf_eq hcs hc
    rw [ht c hwrites]
    constructor
    · rintro ⟨item', h', hcarries⟩
      obtain ⟨cs', hcs', hc'⟩ := RecordItem.mem_calls_of_carries hcarries
      have heq := (h'.itemOf_eq hcs' hc').2.symm.trans hitem
      cases heq
      exact hcarries
    · exact fun hcarries => ⟨item, h, hcarries⟩
  rw [RecordItem.restorable_iff, RecordItem.writtenBack, Option.any_eq_true]
  constructor
  · rintro ⟨cs, hcs, hall⟩
    refine ⟨cs, hcs, fun c hc => (hcall cs hcs c hc).mp ?_⟩
    simpa using List.all_eq_true.mp hall c hc
  · rintro ⟨cs, hcs, hall⟩
    refine ⟨cs, hcs, List.all_eq_true.mpr fun c hc => ?_⟩
    simpa using (hcall cs hcs c hc).mpr (hall c hc)

/-- The items of a record, subsystem by subsystem. -/
theorem RollbackRecord.exists_item_iff {r : RollbackRecord} {p : RecordItem → Prop} :
    (∃ item, r.Has item ∧ p item) ↔
      (∃ b, r.qos = some b ∧ p (.qos b)) ∨ (∃ i b, r.adapters[i]? = some b ∧ p (.adapter i b)) ∨
      (∃ i b, r.audio[i]? = some b ∧ p (.audio i b)) ∨ (∃ s, r.power = some s ∧ p (.power s)) ∨
      (∃ b, r.gameMode = some b ∧ p (.gameMode b)) ∨
      ∃ i b, r.services[i]? = some b ∧ p (.service i b) := by
  constructor
  · rintro ⟨_ | _ | _ | _ | _ | _, h, hp⟩
    · exact .inl ⟨_, h, hp⟩
    · exact .inr (.inl ⟨_, _, h, hp⟩)
    · exact .inr (.inr (.inl ⟨_, _, h, hp⟩))
    · exact .inr (.inr (.inr (.inl ⟨_, h, hp⟩)))
    · exact .inr (.inr (.inr (.inr (.inl ⟨_, h, hp⟩))))
    · exact .inr (.inr (.inr (.inr (.inr ⟨_, _, h, hp⟩))))
  · rintro (⟨b, h, hp⟩ | ⟨i, b, h, hp⟩ | ⟨i, b, h, hp⟩ | ⟨s, h, hp⟩ | ⟨b, h, hp⟩ | ⟨i, b, h, hp⟩)
    · exact ⟨.qos b, h, hp⟩
    · exact ⟨.adapter i b, h, hp⟩
    · exact ⟨.audio i b, h, hp⟩
    · exact ⟨.power s, h, hp⟩
    · exact ⟨.gameMode b, h, hp⟩
    · exact ⟨.service i b, h, hp⟩

/-! ### The accounts of the subsystems -/

section Subsystems

variable {env : Env Call} {w : World}

theorem carriesOut_restoreAdapterProperties (hfree : env.CrashFree)
    (bs : List AdapterPropertyBackup) :
    Eff.CarriesOut env Call.WritesBack w.Alike (restoreAdapterProperties bs) (· = .ok ()) w.Alike
      fun c => ∃ i b, bs[i]? = some b ∧ (RecordItem.adapter i b).Carries env w.machine c := by
  unfold restoreAdapterProperties
  refine ((Eff.CarriesOut.forEach (carriesOut_restoreProperty hfree) 0 bs).bind fun _ _ =>
    Eff.CarriesOut.pure (by rfl)).congr fun c _ => ?_
  simp only [Nat.zero_add, or_false, RecordItem.Carries]

theorem carriesOut_restoreAudioEnhancements (hfree : env.CrashFree)
    (bs : List AudioEndpointBackup) :
    Eff.CarriesOut env Call.WritesBack w.Alike (restoreAudioEnhancements bs) (· = .ok ()) w.Alike
      fun c => ∃ i b, bs[i]? = some b ∧ (RecordItem.audio i b).Carries env w.machine c := by
  unfold restoreAudioEnhancements
  refine ((Eff.CarriesOut.forEach (carriesOut_restoreEndpoint hfree) 0 bs).bind fun _ _ =>
    Eff.CarriesOut.pure (by rfl)).congr fun c _ => ?_
  simp only [Nat.zero_add, or_false, RecordItem.Carries]

theorem carriesOut_rollbackQos (hfree : env.CrashFree) (q : Option QosPolicyBackup) :
    Eff.CarriesOut env Call.WritesBack w.Alike (rollbackQos q)
      (fun flag => flag = true ↔ ∃ b, q = some b ∧ b.Accepted) w.Alike
      fun c => ∃ b, q = some b ∧ (RecordItem.qos b).Carries env w.machine c := by
  unfold rollbackQos
  cases q with
  | none => exact Eff.CarriesOut.congr (Eff.CarriesOut.pure (by simp)) fun c _ => by simp
  | some b =>
    simp only [Option.some.injEq, exists_eq_left']
    exact ((carriesOut_unregisterQosPolicy hfree b).bind fun r hr =>
      Eff.CarriesOut.pure hr).congr fun c _ => by rw [or_false]; rfl

theorem carriesOut_rollbackAdapter (hfree : env.CrashFree) (bs : List AdapterPropertyBackup) :
    Eff.CarriesOut env Call.WritesBack w.Alike (rollbackAdapter bs) (· = bs.length) w.Alike
      fun c => ∃ i b, bs[i]? = some b ∧ (RecordItem.adapter i b).Carries env w.machine c := by
  unfold rollbackAdapter
  cases bs with
  | nil => exact Eff.CarriesOut.congr (Eff.CarriesOut.pure (by rfl)) fun c _ => by simp
  | cons b bs =>
    refine ((carriesOut_restoreAdapterProperties hfree (b :: bs)).bind (E := fun _ => False)
      ?_).congr fun c _ => by rw [or_false]
    rintro _ rfl
    exact Eff.CarriesOut.pure (by rfl)

theorem carriesOut_rollbackAudio (hfree : env.CrashFree) (bs : List AudioEndpointBackup) :
    Eff.CarriesOut env Call.WritesBack w.Alike (rollbackAudio bs) (· = bs.length) w.Alike
      fun c => ∃ i b, bs[i]? = some b ∧ (RecordItem.audio i b).Carries env w.machine c := by
  unfold rollbackAudio
  cases bs with
  | nil => exact Eff.CarriesOut.congr (Eff.CarriesOut.pure (by rfl)) fun c _ => by simp
  | cons b bs =>
    refine ((carriesOut_restoreAudioEnhancements hfree (b :: bs)).bind (E := fun _ => False)
      ?_).congr fun c _ => by rw [or_false]
    rintro _ rfl
    exact Eff.CarriesOut.pure (by rfl)

theorem carriesOut_rollbackPower (hfree : env.CrashFree) (scheme : Option String) :
    Eff.CarriesOut env Call.WritesBack w.Alike (rollbackPower scheme)
      (fun flag => flag = true → scheme.isSome) w.Alike
      fun c => ∃ s, scheme = some s ∧ (RecordItem.power s).Carries env w.machine c := by
  unfold rollbackPower
  cases scheme with
  | none => exact Eff.CarriesOut.congr (Eff.CarriesOut.pure (by simp)) fun c _ => by simp
  | some s =>
    simp only [Option.some.injEq, exists_eq_left', RecordItem.Carries]
    cases hg : stringToGuid s with
    | error e => exact Eff.CarriesOut.congr (Eff.CarriesOut.pure (by simp)) fun c _ => by simp
    | ok g =>
      refine ((carriesOut_restorePowerScheme hfree g).bind fun r _ =>
        Eff.CarriesOut.pure (by simp)).congr fun c _ => ?_
      simp only [or_false, Except.ok.injEq, exists_eq_left']

theorem carriesOut_rollbackGameMode (hfree : env.CrashFree) (mode : Option Bool) :
    Eff.CarriesOut env Call.WritesBack w.Alike (rollbackGameMode mode)
      (fun flag => flag = true → mode.isSome) w.Alike
      fun c => ∃ b, mode = some b ∧ (RecordItem.gameMode b).Carries env w.machine c := by
  unfold rollbackGameMode
  cases mode with
  | none => exact Eff.CarriesOut.congr (Eff.CarriesOut.pure (by simp)) fun c _ => by simp
  | some b =>
    simp only [Option.some.injEq, exists_eq_left', RecordItem.Carries]
    exact ((carriesOut_restoreGameMode hfree b).bind fun r _ =>
      Eff.CarriesOut.pure (by simp)).congr fun c _ => by rw [or_false]

theorem carriesOut_rollbackServices (hfree : env.CrashFree) (bs : List ServiceBackup) :
    Eff.CarriesOut env Call.WritesBack w.Alike (rollbackServices bs) (· = bs.length) w.Alike
      fun c => ∃ i b, bs[i]? = some b ∧ (RecordItem.service i b).Carries env w.machine c := by
  unfold rollbackServices
  cases bs with
  | nil => exact Eff.CarriesOut.congr (Eff.CarriesOut.pure (by rfl)) fun c _ => by simp
  | cons b bs =>
    unfold restoreTier3Services
    refine ((Eff.CarriesOut.forEach (carriesOut_restoreService hfree) 0 (b :: bs)).bind
      fun _ _ => Eff.CarriesOut.pure (by rfl)).congr fun c _ => ?_
    simp only [Nat.zero_add, or_false, RecordItem.Carries]

/-! The steps of `rollback` carry out the same calls. -/

theorem carriesOut_rollbackQosStep (hfree : env.CrashFree) (q : Option QosPolicyBackup) :
    Eff.CarriesOut env Call.WritesBack w.Alike (rollbackQosStep q) (fun _ => True) w.Alike
      fun c => ∃ b, q = some b ∧ (RecordItem.qos b).Carries env w.machine c := by
  unfold rollbackQosStep
  cases q with
  | none => exact (Eff.CarriesOut.pure trivial).congr fun c _ => by simp
  | some b =>
    simp only [Option.some.injEq, exists_eq_left']
    exact ((carriesOut_unregisterQosPolicy hfree b).bind fun _ _ =>
      Eff.CarriesOut.pure trivial).congr fun c _ => by rw [or_false]; rfl

theorem carriesOut_rollbackAdapterStep (hfree : env.CrashFree) (bs : List AdapterPropertyBackup) :
    Eff.CarriesOut env Call.WritesBack w.Alike (rollbackAdapterStep bs) (fun _ => True) w.Alike
      fun c => ∃ i b, bs[i]? = some b ∧ (RecordItem.adapter i b).Carries env w.machine c := by
  unfold rollbackAdapterStep
  cases bs with
  | nil => exact (Eff.CarriesOut.pure trivial).congr fun c _ => by simp
  | cons b bs =>
    exact ((carriesOut_restoreAdapterProperties hfree (b :: bs)).bind fun _ _ =>
      Eff.CarriesOut.pure trivial).congr fun c _ => by rw [or_false]

theorem carriesOut_rollbackAudioStep (hfree : env.CrashFree) (bs : List AudioEndpointBackup) :
    Eff.CarriesOut env Call.WritesBack w.Alike (rollbackAudioStep bs) (fun _ => True) w.Alike
      fun c => ∃ i b, bs[i]? = some b ∧ (RecordItem.audio i b).Carries env w.machine c := by
  unfold rollbackAudioStep
  cases bs with
  | nil => exact (Eff.CarriesOut.pure trivial).congr fun c _ => by simp
  | cons b bs =>
    exact ((carriesOut_restoreAudioEnhancements hfree (b :: bs)).bind fun _ _ =>
      Eff.CarriesOut.pure trivial).congr fun c _ => by rw [or_false]

theorem carriesOut_rollbackPowerStep (hfree : env.CrashFree) (scheme : Option String) :
    Eff.CarriesOut env Call.WritesBack w.Alike (rollbackPowerStep scheme) (fun _ => True) w.Alike
      fun c => ∃ s, scheme = some s ∧ (RecordItem.power s).Carries env w.machine c := by
  unfold rollbackPowerStep
  cases scheme with
  | none => exact (Eff.CarriesOut.pure trivial).congr fun c _ => by simp
  | some s =>
    simp only [Option.some.injEq, exists_eq_left', RecordItem.Carries]
    cases hg : stringToGuid s with
    | error e => exact (Eff.CarriesOut.pure trivial).congr fun c _ => by simp
    | ok g =>
      refine ((carriesOut_restorePowerScheme hfree g).bind fun _ _ =>
        Eff.CarriesOut.pure trivial).congr fun c _ => ?_
      simp only [or_false, Except.ok.injEq, exists_eq_left']

theorem carriesOut_rollbackGameModeStep (hfree : env.CrashFree) (mode : Option Bool) :
    Eff.CarriesOut env Call.WritesBack w.Alike (rollbackGameModeStep mode) (fun _ => True) w.Alike
      fun c => ∃ b, mode = some b ∧ (RecordItem.gameMode b).Carries env w.machine c := by
  unfold rollbackGameModeStep
  cases mode with
  | none => exact (Eff.CarriesOut.pure trivial).congr fun c _ => by simp
  | some b =>
    simp only [Option.some.injEq, exists_eq_left', RecordItem.Carries]
    exact ((carriesOut_restoreGameMode hfree b).bind fun _ _ =>
      Eff.CarriesOut.pure trivial).congr fun c _ => by rw [or_false]

end Subsystems

/-! ### The accounts of whole records -/

section Records

variable {env : Env Call} {w : World}

/-- What `rollback` writes back. -/
theorem carriesOut_rollbackSettings (hfree : env.CrashFree) (tx : OptimizationTransaction) :
    Eff.CarriesOut env Call.WritesBack w.Alike (rollbackSettings tx) (fun _ => True) w.Alike
      fun c => ∃ item, tx.record.Has item ∧ item.Carries env w.machine c := by
  unfold rollbackSettings
  refine ((carriesOut_rollbackQosStep hfree _).bind fun _ _ =>
    (carriesOut_rollbackAdapterStep hfree _).bind fun _ _ =>
    (carriesOut_rollbackAudioStep hfree _).bind fun _ _ =>
    (carriesOut_rollbackPowerStep hfree _).bind fun _ _ =>
    carriesOut_rollbackGameModeStep hfree _).congr fun c _ => ?_
  rw [RollbackRecord.exists_item_iff]
  simp [OptimizationTransaction.record]

/-- The counters and flags of a report, before any of them is compared with the calls. -/
structure RecoveryReport.Tried (report : RecoveryReport) (r : RollbackRecord) : Prop where
  services : report.servicesRestored = r.services.length
  audio : report.audioEndpointsRestored = r.audio.length
  adapter : report.adapterPropertiesRestored = r.adapters.length
  qos : report.qosPolicyRestored = true ↔ ∃ b, r.qos = some b ∧ b.Accepted
  power : report.powerSchemeRestored = true → r.power.isSome
  gameMode : report.gameModeRestored = true → r.gameMode.isSome

/-- The time a recovery took is no count. -/
theorem RecoveryReport.Tried.withDuration {report : RecoveryReport} {r : RollbackRecord}
    (h : report.Tried r) (durationMs : ℕ) :
    ({ report with durationMs := durationMs } : RecoveryReport).Tried r :=
  ⟨h.services, h.audio, h.adapter, h.qos, h.power, h.gameMode⟩

/-- What `rollbackSnapshot` writes back, and what it reports. -/
theorem carriesOut_rollbackSnapshot (hfree : env.CrashFree) (s : SystemStateSnapshot) :
    Eff.CarriesOut env Call.WritesBack w.Alike (rollbackSnapshot s)
      (fun r => ∃ report : RecoveryReport, r = .ok report ∧ report.Tried s.record) w.Alike
      fun c => ∃ item, s.record.Has item ∧ item.Carries env w.machine c := by
  unfold rollbackSnapshot
  refine ((carriesOut_rollbackQos hfree _).bind fun qos hqos =>
    (carriesOut_rollbackAdapter hfree _).bind fun adapter hadapter =>
    (carriesOut_rollbackAudio hfree _).bind fun audio haudio =>
    (carriesOut_rollbackPower hfree _).bind fun power hpower =>
    (carriesOut_rollbackGameMode hfree _).bind fun gameMode hgameMode =>
    (carriesOut_rollbackServices hfree _).bind fun services hservices =>
    Eff.CarriesOut.pure ?_).congr fun c _ => ?_
  · exact ⟨_, rfl, hservices, haudio, hadapter, hqos, hpower, hgameMode⟩
  · rw [RollbackRecord.exists_item_iff, or_false]
    rfl

end Records

/-! ### What a report counts -/

/-- The report counts no item that was not restored in a run with the calls `t`. -/
structure RecoveryReport.CountsRestored (report : RecoveryReport) (r : RollbackRecord)
    (t : List (Call × Bool)) : Prop where
  services : report.servicesRestored ≤
    (r.services.mapIdx RecordItem.service).countP (RecordItem.restored t)
  audio : report.audioEndpointsRestored ≤
    (r.audio.mapIdx RecordItem.audio).countP (RecordItem.restored t)
  adapter : report.adapterPropertiesRestored ≤
    (r.adapters.mapIdx RecordItem.adapter).countP (RecordItem.restored t)
  qos : report.qosPolicyRestored = true → ∃ b, r.qos = some b ∧ (RecordItem.qos b).restored t
  power : report.powerSchemeRestored = true →
    ∃ s, r.power = some s ∧ (RecordItem.power s).restored t
  gameMode : report.gameModeRestored = true →
    ∃ b, r.gameMode = some b ∧ (RecordItem.gameMode b).restored t

/-- The report counts the item: all items of the lists, and a policy whose backup is accepted. -/
def RecordItem.Counted : RecordItem → Prop
  | qos b => b.Accepted
  | _ => True

theorem length_le_countP_mapIdx_iff {α β : Type} (l : List α) (f : ℕ → α → β) (p : β → Bool) :
    l.length ≤ (l.mapIdx f).countP p ↔ ∀ (i : ℕ) (a : α), l[i]? = some a → p (f i a) = true := by
  have hle : (l.mapIdx f).countP p ≤ l.length := by
    simpa using List.countP_le_length (p := p) (l := l.mapIdx f)
  have heq : l.length ≤ (l.mapIdx f).countP p ↔
      (l.mapIdx f).countP p = (l.mapIdx f).length := by
    rw [List.length_mapIdx]
    exact ⟨fun h => le_antisymm hle h, fun h => h.ge⟩
  rw [heq, List.countP_eq_length]
  constructor
  · intro h i a ha
    refine h _ (List.mem_of_getElem? (i := i) ?_)
    rw [List.getElem?_mapIdx, ha, Option.map_some]
  · intro h b hb
    obtain ⟨i, hi, rfl⟩ := List.mem_mapIdx.mp hb
    exact h i _ (List.getElem?_eq_getElem hi)

/-- Where all is written back, the report is right if every item it counts takes a call. -/
theorem RecoveryReport.Tried.writtenBack_and_counts_iff {report : RecoveryReport}
    {r : RollbackRecord} {env : Env Call} {m : Machine} {t : List (Call × Bool)}
    (h : report.Tried r) (ht : ∀ c : Call, c.WritesBack →
      ((c, true) ∈ t ↔ ∃ item, r.Has item ∧ item.Carries env m c)) :
    ((∀ item, r.Has item → item.writtenBack t = true) ∧ report.CountsRestored r t) ↔
      ∀ item, r.Has item → item.Restorable env m ∧ (item.Counted → item.calls ≠ some []) := by
  -- An item is written back where each of its calls succeeds; a count further wants that there are
  -- such calls.
  have hback : ∀ item, r.Has item → (item.writtenBack t = true ↔ item.Restorable env m) :=
    fun item hitem => hitem.writtenBack_iff ht
  constructor
  · rintro ⟨hall, hcounts⟩ item hitem
    refine ⟨(hback item hitem).mp (hall item hitem), fun hcounted => ?_⟩
    cases item with
    | qos b =>
      obtain ⟨b', hb', hrestored⟩ := hcounts.qos (h.qos.mpr ⟨b, hitem, hcounted⟩)
      have heq : some b = some b' := hitem.symm.trans hb'
      cases heq
      simp only [RecordItem.restored, Bool.and_eq_true, bne_iff_ne] at hrestored
      exact hrestored.2
    | service i b =>
      have hle := hcounts.services
      rw [h.services, length_le_countP_mapIdx_iff] at hle
      have hrestored := hle i b hitem
      simp only [RecordItem.restored, Bool.and_eq_true, bne_iff_ne] at hrestored
      exact hrestored.2
    | power s =>
      simp [RecordItem.calls]
    | adapter | audio | gameMode => simp [RecordItem.calls]
  · intro hall
    have hrestored : ∀ item, r.Has item → item.Counted → item.restored t = true := by
      intro item hitem hcounted
      simp only [RecordItem.restored, Bool.and_eq_true, bne_iff_ne]
      exact ⟨(hback item hitem).mpr (hall item hitem).1, (hall item hitem).2 hcounted⟩
    refine ⟨fun item hitem => (hback item hitem).mpr (hall item hitem).1, ?_⟩
    constructor
    · rw [h.services, length_le_countP_mapIdx_iff]
      exact fun i b hb => hrestored (.service i b) hb trivial
    · rw [h.audio, length_le_countP_mapIdx_iff]
      exact fun i b hb => hrestored (.audio i b) hb trivial
    · rw [h.adapter, length_le_countP_mapIdx_iff]
      exact fun i b hb => hrestored (.adapter i b) hb trivial
    · intro hflag
      obtain ⟨b, hb, haccepted⟩ := h.qos.mp hflag
      exact ⟨b, hb, hrestored (.qos b) hb haccepted⟩
    · intro hflag
      obtain ⟨s, hs⟩ := Option.isSome_iff_exists.mp (h.power hflag)
      exact ⟨s, hs, hrestored (.power s) hs trivial⟩
    · intro hflag
      obtain ⟨b, hb⟩ := Option.isSome_iff_exists.mp (h.gameMode hflag)
      exact ⟨b, hb, hrestored (.gameMode b) hb trivial⟩

/-! ### Around the restore -/

section Around

variable {P : Platform} {env : Env Call} {w w' : World} {base : Option (List String)}
  {path : Option Path} {target : Path} {s : SystemStateSnapshot}

theorem idle_validateSnapshotPath (hfree : env.CrashFree) (op : StoreOperation) (target : Path)
    (base : Option (List String)) :
    Eff.Idle env Call.WritesBack (validateSnapshotPath op target base) := by
  have hinspect : Eff.Idle env Call.WritesBack (inspectPath op target) := by
    refine Eff.Idle.bind (Eff.idle_perform hfree id) ?_
    rintro (e | ⟨⟩) <;> exact Eff.idle_pure _
  unfold validateSnapshotPath
  refine Eff.Idle.bind idle_getWorld fun w => ?_
  dsimp only
  split
  · exact Eff.idle_pure _
  refine Eff.Idle.bind idle_pathExists fun found => ?_
  split
  · split
    · exact hinspect
    · exact Eff.idle_pure _
  refine Eff.Idle.bind idle_pathExists fun foundParent => ?_
  split
  · split
    · exact hinspect
    · exact Eff.idle_pure _
  · exact Eff.idle_pure _

theorem idle_loadAndVerifyWithBase (hfree : env.CrashFree) (P : Platform) (path : Option Path)
    (base : Option (List String)) :
    Eff.Idle env Call.WritesBack (loadAndVerifyWithBase P path base) := by
  unfold loadAndVerifyWithBase
  refine Eff.Idle.bind idle_getWorld fun w => ?_
  refine Eff.Idle.bind (idle_validateSnapshotPath hfree _ _ _) ?_
  rintro (e | target)
  · exact Eff.idle_pure _
  refine Eff.Idle.bind idle_fileExists fun found => ?_
  split
  · exact Eff.idle_pure _
  refine Eff.Idle.bind idle_pathExists fun haskey => ?_
  split
  · exact Eff.idle_pure _
  refine Eff.Idle.bind (Eff.idle_perform hfree id) ?_
  rintro (e | ciphertext)
  · exact Eff.idle_pure _
  refine Eff.Idle.bind (Eff.idle_perform hfree id) ?_
  rintro (e | plaintext)
  · exact Eff.idle_pure _
  dsimp only
  cases keyOfPlaintext plaintext with
  | none => exact Eff.idle_pure _
  | some key =>
    refine Eff.Idle.bind (Eff.idle_perform hfree id) ?_
    rintro (e | content)
    · exact Eff.idle_pure _
    dsimp only
    cases P.snapshot.fromStr content <;> exact Eff.idle_pure _

theorem idle_deleteSnapshotWithBase (hfree : env.CrashFree) (path : Option Path)
    (base : Option (List String)) :
    Eff.Idle env Call.WritesBack (deleteSnapshotWithBase path base) := by
  unfold deleteSnapshotWithBase
  refine Eff.Idle.bind idle_getWorld fun w => ?_
  refine Eff.Idle.bind (idle_validateSnapshotPath hfree _ _ _) ?_
  rintro (e | target)
  · exact Eff.idle_pure _
  refine Eff.Idle.bind idle_pathExists fun found => ?_
  have hfound : Eff.Idle env Call.WritesBack (removeFound found target) := by
    unfold removeFound
    split
    · exact Eff.idle_perform hfree id
    · exact Eff.idle_pure _
  refine Eff.Idle.bind hfound ?_
  rintro (e | ⟨⟩)
  · exact Eff.idle_pure _
  refine Eff.Idle.bind idle_pathExists fun haskey => ?_
  cases haskey with
  | false => exact Eff.idle_pure _
  | true =>
    refine Eff.Idle.bind (Eff.Idle.bind idle_isDirectory fun occupied => ?_) fun _ =>
      Eff.idle_pure _
    refine Eff.Idle.bind (idle_unlessDirectory hfree id (Eff.idle_perform hfree id)) fun _ => ?_
    exact Eff.Idle.bind (Eff.idle_perform hfree id) fun _ => Eff.idle_pure _

theorem idle_appendRecoveryLog (hfree : env.CrashFree) (P : Platform) (now : Ambient)
    (report : RecoveryReport) : Eff.Idle env Call.WritesBack (appendRecoveryLog P now report) :=
  Eff.Idle.bind idle_getWorld fun _ => Eff.Idle.bind idle_isDirectory fun _ =>
    idle_unlessDirectory hfree id (Eff.idle_perform hfree id)

theorem idle_removeRecord (hfree : env.CrashFree) : Eff.Idle env Call.WritesBack removeRecord := by
  unfold removeRecord
  refine Eff.Idle.bind idle_getWorld fun w => ?_
  refine Eff.Idle.bind idle_fileExists fun found => ?_
  split
  · exact Eff.Idle.bind (Eff.idle_perform hfree id) fun _ => Eff.idle_pure _
  · exact Eff.idle_pure _

/-- A load that succeeds was of a path that is accepted, and of a file that is there. -/
theorem accepts_of_load (henv : OnlyRestoresFail env)
    (hload : (loadAndVerifyWithBase P path base).run env w = .returned (.ok s) w) :
    w.Accepts base (w.targetOf path) ∧ (w.files (w.targetOf path)).isSome := by
  unfold loadAndVerifyWithBase at hload
  simp only [Eff.run_bind, run_getWorld, Run.bind_returned] at hload
  change ((validateSnapshotPath .load (w.targetOf path) base).run env w).bind _ = _ at hload
  by_cases hacc : w.Accepts base (w.targetOf path)
  · refine ⟨hacc, ?_⟩
    rw [run_validateSnapshotPath_of_ok hacc (henv.outcome _ id), Run.bind_returned] at hload
    cases hfile : w.files (w.targetOf path) with
    | some b => rfl
    | none =>
      simp only [Eff.run_bind, run_fileExists, Run.bind_returned, hfile] at hload
      cases hload
  · obtain ⟨e, he⟩ := run_validateSnapshotPath_of_not .load env hacc
    rw [he, Run.bind_returned] at hload
    cases hload

/-- A deletion that meets no failure removes the key with the target. -/
theorem run_deleteSnapshotWithBase_of_restores (henv : OnlyRestoresFail env)
    (hacc : w.Accepts base target) (hfile : (w.files target).isSome) : ∃ r w',
      (deleteSnapshotWithBase (some target) base).run env w = .returned r w' ∧
      w'.files target.keyPath = none := by
  have hdeletes : ∀ c ∈ Call.deletes, env.outcome c = .ok := by
    intro c hc
    refine henv.outcome c ?_
    simp only [Call.deletes, List.mem_cons, List.not_mem_nil, or_false] at hc
    rcases hc with rfl | rfl | rfl | rfl <;> exact id
  obtain ⟨found, w', hrun, -, hfiles⟩ :=
    run_deleteSnapshotWithBase hdeletes hacc (w.isDirectory_of_isSome hfile _)
  exact ⟨_, w', hrun, by rw [hfiles, if_pos (.inr rfl)]⟩

end Around

/-! ### The two recoveries -/

/-- After `rollback` the transaction file is still there, unless all of it was written back. -/
def World.RollbackKeepsRecord (env : Env Call) (w : World) (tx : OptimizationTransaction) : Prop :=
  ∃ w', (rollback tx).run env w = .returned (.ok ()) w' ∧
    ((w'.files w.transactionPath).isSome ∨
      ∀ item, tx.record.Has item → item.writtenBack ((rollback tx).trace env w) = true)

/-- After the start-up recovery the snapshot and its key are still there, unless all of it was
written back, and the report counts what was restored. -/
def World.RecoveryKeepsRecord (P : Platform) (env : Env Call) (w : World) (now : Ambient)
    (path : Option Path) (base : Option (List String)) (s : SystemStateSnapshot) : Prop :=
  ∃ report w', (checkAndRecoverWithBase P now path base).run env w = .returned (.ok report) w' ∧
    (((w'.files (w.targetOf path)).isSome ∧ (w'.files (w.targetOf path).keyPath).isSome) ∨
      ∀ item, s.record.Has item →
        item.writtenBack ((checkAndRecoverWithBase P now path base).trace env w) = true) ∧
    report.CountsRestored s.record ((checkAndRecoverWithBase P now path base).trace env w)

section Recoveries

variable {P : Platform} {env : Env Call} {w : World} {now : Ambient}
  {base : Option (List String)} {path : Option Path} {s : SystemStateSnapshot}

/-- What `rollback` carries out; the record is gone in any case. -/
theorem carriesOut_rollback (henv : OnlyRestoresFail env) (tx : OptimizationTransaction) :
    Eff.CarriesOut env Call.WritesBack w.Alike (rollback tx) (· = .ok ())
      (fun w' => w'.files w.transactionPath = none)
      fun c => ∃ item, tx.record.Has item ∧ item.Carries env w.machine c := by
  have hremove : Eff.CarriesOut env Call.WritesBack w.Alike removeRecord (fun _ => True)
      (fun w' => w'.files w.transactionPath = none) fun _ => False := by
    refine ⟨fun w' h => ?_, fun w' _ => (idle_removeRecord henv.crashFree).trace w' trivial⟩
    have hpath : w'.transactionPath = w.transactionPath := by
      unfold World.transactionPath World.storageDir
      rw [h.drive]
    unfold removeRecord
    simp only [Eff.run_bind, run_getWorld, Run.bind_returned, run_fileExists]
    cases hfile : w'.files w'.transactionPath with
    | none =>
      refine ⟨(), w', rfl, trivial, ?_⟩
      rw [← hpath, hfile]
    | some b =>
      have hthere : (w'.files w'.transactionPath).isSome := by rw [hfile, Option.isSome_some]
      have hrun := run_removeFile (henv.outcome .removeTransaction id) hthere
      simp only [Option.isSome_some, if_true, Eff.run_bind, hrun, Run.bind_returned, Eff.run_pure]
      refine ⟨(), _, rfl, trivial, ?_⟩
      rw [← hpath, World.files_removeFile_self]
  unfold rollback
  refine ((carriesOut_rollbackSettings henv.crashFree tx).bind fun _ _ => hremove.bind
    fun _ _ => Eff.CarriesOut.pure (by rfl)).congr fun c _ => ?_
  simp only [or_false]

theorem rollbackKeepsRecord_iff (henv : OnlyRestoresFail env) (tx : OptimizationTransaction) :
    w.RollbackKeepsRecord env tx ↔ ∀ item, tx.record.Has item → item.Restorable env w.machine := by
  have hcarries := carriesOut_rollback (w := w) henv tx
  obtain ⟨_, w', hr, rfl, hgone⟩ := hcarries.returned w (.refl w)
  have hback : ∀ item, tx.record.Has item →
      (item.writtenBack ((rollback tx).trace env w) = true ↔ item.Restorable env w.machine) :=
    fun item hitem => hitem.writtenBack_iff (hcarries.trace w (.refl w))
  unfold World.RollbackKeepsRecord
  rw [← forall₂_congr hback]
  constructor
  · rintro ⟨w'', hr', hkept⟩
    rw [hr] at hr'
    cases hr'
    rw [hgone] at hkept
    simpa using hkept
  · exact fun h => ⟨w', hr, .inr h⟩

/-- What the start-up recovery carries out; the key of the snapshot is gone in any case. -/
theorem carriesOut_checkAndRecoverWithBase (now : Ambient) (henv : OnlyRestoresFail env)
    (hload : (loadAndVerifyWithBase P path base).run env w = .returned (.ok s) w) :
    Eff.CarriesOut env Call.WritesBack (· = w) (checkAndRecoverWithBase P now path base)
      (fun r => ∃ report : RecoveryReport, r = .ok report ∧ report.Tried s.record)
      (fun w' => w'.files (w.targetOf path).keyPath = none)
      fun c => ∃ item, s.record.Has item ∧ item.Carries env w.machine c := by
  obtain ⟨hacc, hfile⟩ := accepts_of_load henv hload
  have hvalidate :=
    (idle_validateSnapshotPath henv.crashFree .recover (w.targetOf path) base).of_run
    (run_validateSnapshotPath_of_ok hacc (henv.outcome _ id))
  have hload' : (loadAndVerifyWithBase P (some (w.targetOf path)) base).run env w =
      .returned (.ok s) w := by
    rw [← hload]
    rfl
  have hloaded :=
    (idle_loadAndVerifyWithBase henv.crashFree P (some (w.targetOf path)) base).of_run hload'
  -- The deletion does not depend on the settings, so it still succeeds after the restores.
  have hdelete : Eff.CarriesOut env Call.WritesBack w.Alike
      (deleteSnapshotWithBase (some (w.targetOf path)) base) (fun _ => True)
      (fun w' => w'.files (w.targetOf path).keyPath = none) fun _ => False := by
    refine ⟨fun w' h => ?_, fun w' _ =>
      (idle_deleteSnapshotWithBase henv.crashFree _ _).trace w' trivial⟩
    have hfile' : (w'.files (w.targetOf path)).isSome := by
      rw [h.files]
      exact hfile
    obtain ⟨r, w'', hr, hgone⟩ :=
      run_deleteSnapshotWithBase_of_restores henv (hacc.congr h.drive hfile') hfile'
    exact ⟨r, w'', hr, trivial, hgone⟩
  -- The log is another file than the key.
  have hlog : ∀ report : RecoveryReport, Eff.CarriesOut env Call.WritesBack
      (fun w' => w'.files (w.targetOf path).keyPath = none) (appendRecoveryLog P now report)
      (fun _ => True) (fun w' => w'.files (w.targetOf path).keyPath = none) fun _ => False :=
    fun report => (idle_appendRecoveryLog henv.crashFree P now report).preserving henv.crashFree
      (preserves_appendRecoveryLog
        (fun _ _ hnone hlogged => (hlogged.files_keyPath _).trans hnone) now report)
  have hrestore : Eff.CarriesOut env Call.WritesBack (· = w) (rollbackSnapshot s)
      (fun r => ∃ report : RecoveryReport, r = .ok report ∧ report.Tried s.record) w.Alike
      fun c => ∃ item, s.record.Has item ∧ item.Carries env w.machine c :=
    (carriesOut_rollbackSnapshot henv.crashFree s).of_imp fun w' h => h ▸ .refl w
  have hworld : Eff.CarriesOut env Call.WritesBack (· = w) getWorld (· = w) (· = w)
      fun _ => False := idle_getWorld.of_run rfl
  have hexists : Eff.CarriesOut env Call.WritesBack (· = w)
      (pathExists (w.baseDir base) (w.targetOf path)) (· = true) (· = w) fun _ => False := by
    refine idle_pathExists.of_run ?_
    rw [run_pathExists, w.pathExists_of_isSome hfile]
  -- The calls up to the restore leave the world as it is; each is peeled off the front.
  unfold checkAndRecoverWithBase
  refine (hworld.bind (E := fun c => ∃ item, s.record.Has item ∧ item.Carries env w.machine c)
    ?_).congr fun c _ => by rw [false_or]
  rintro _ rfl
  refine (hvalidate.bind ?_).congr fun c _ => by rw [false_or]
  rintro _ rfl
  refine (hexists.bind ?_).congr fun c _ => by rw [false_or]
  rintro _ rfl
  refine (hloaded.bind ?_).congr fun c _ => by rw [false_or]
  rintro _ rfl
  refine (hrestore.bind (E := fun _ => False) ?_).congr fun c _ => by rw [or_false]
  rintro _ ⟨report, rfl, htried⟩
  refine (hdelete.bind (E := fun _ => False) ?_).congr fun c _ => by rw [or_false]
  rintro - -
  exact ((hlog _).bind fun _ _ => Eff.CarriesOut.pure ⟨_, rfl, htried.withDuration _⟩).congr
    fun c _ => by rw [or_false]

theorem recoveryKeepsRecord_iff (henv : OnlyRestoresFail env)
    (hload : (loadAndVerifyWithBase P path base).run env w = .returned (.ok s) w) :
    w.RecoveryKeepsRecord P env now path base s ↔ ∀ item, s.record.Has item →
      item.Restorable env w.machine ∧ (item.Counted → item.calls ≠ some []) := by
  have hcarries := carriesOut_checkAndRecoverWithBase now henv hload
  obtain ⟨_, w', hr, ⟨report, rfl, htried⟩, hgone⟩ := hcarries.returned w rfl
  rw [← htried.writtenBack_and_counts_iff (hcarries.trace w rfl)]
  unfold World.RecoveryKeepsRecord
  constructor
  · rintro ⟨report', w'', hr', hkept, hcounts⟩
    rw [hr] at hr'
    cases hr'
    rw [hgone] at hkept
    exact ⟨by simpa using hkept, hcounts⟩
  · rintro ⟨hall, hcounts⟩
    exact ⟨report, w', hr, .inr hall, hcounts⟩

/-- **Both recoveries remove the record they have used, whatever became of it.**  So a record
outlives a failed restore, and the report counts what was restored, exactly when no restore can
fail: every item of the record is restorable, and every item the report counts takes a call. -/
theorem record_outlives_failed_restore_iff (henv : OnlyRestoresFail env)
    (hload : (loadAndVerifyWithBase P path base).run env w = .returned (.ok s) w)
    (tx : OptimizationTransaction) :
    (w.RecoveryKeepsRecord P env now path base s ↔ ∀ item, s.record.Has item →
      item.Restorable env w.machine ∧ (item.Counted → item.calls ≠ some [])) ∧
    (w.RollbackKeepsRecord env tx ↔
      ∀ item, tx.record.Has item → item.Restorable env w.machine) :=
  ⟨recoveryKeepsRecord_iff henv hload, rollbackKeepsRecord_iff henv tx⟩

theorem onlyRestoresFail_faultless (text : Call → String) : OnlyRestoresFail (.faultless text) where
  crashFree := Env.crashFree_faultless text
  outcome := fun _ _ => rfl

/-- Undisturbed, the desktop's record of the Game Mode state is written back. -/
theorem record_outlives_failed_restore_desktop :
    World.desktopStored.RecoveryKeepsRecord .portable (.faultless errorText) default none none
        ({ SystemStateSnapshot.new "snap_0" "" with previousGameMode := some false }.signWithKey
          .portable (List.replicate 32 0)) ∧
      World.desktopStored.RollbackKeepsRecord (.faultless errorText)
        { newTransaction default with previousGameMode := some false } := by
  obtain ⟨hrecovery, hrollback⟩ := record_outlives_failed_restore_iff
    (onlyRestoresFail_faultless errorText) load_desktopStored
    { newTransaction default with previousGameMode := some false }
  refine ⟨hrecovery.mpr ?_, hrollback.mpr ?_⟩
  · rintro (b | ⟨i, b⟩ | ⟨i, b⟩ | g | b | ⟨i, b⟩) hb
    · cases hb
    · cases hb
    · cases hb
    · cases hb
    · exact ⟨⟨rfl, rfl, rfl⟩, fun _ => nofun⟩
    · cases hb
  · rintro (b | ⟨i, b⟩ | ⟨i, b⟩ | g | b | ⟨i, b⟩) hb
    · cases hb
    · cases hb
    · cases hb
    · cases hb
    · exact ⟨rfl, rfl, rfl⟩
    · cases hb

/-- An environment in which the first endpoint of a record cannot be written. -/
def deniesFirstFx : Env Call := ⟨fun c => if c = .restoreFx 0 then .fail 0 else .ok, errorText⟩

theorem onlyRestoresFail_deniesFirstFx : OnlyRestoresFail deniesFirstFx where
  crashFree := by
    intro c k
    by_cases h : c = .restoreFx 0 <;> simp [deniesFirstFx, h]
  outcome := by
    intro c hc
    have hne : c ≠ .restoreFx 0 := by
      rintro rfl
      exact hc trivial
    simp [deniesFirstFx, hne]

/-- A record that lists an endpoint is lost, although the endpoint was not written. -/
theorem rollback_loses_record :
    ¬ (World.desktop.applied .portable default).RollbackKeepsRecord deniesFirstFx
      (Machine.desktop.transaction default) := by
  rw [rollbackKeepsRecord_iff onlyRestoresFail_deniesFirstFx]
  intro h
  have hitem := h (.audio 0 (Machine.desktop.audioBackup speakerId)) rfl
  cases hitem.2.1

end Recoveries

end ValOpt
