import ValOpt.State.Equiv.Confined

/-!
# A machine with a record written back

`Machine.withRecord` lays all values of a rollback record over a machine.  Undisturbed, this is what
the rollback of a snapshot does (`run_rollbackSnapshot_record`) and that of a transaction
(`run_recoverOrphanedTransaction_record`).  A setting that changes takes a recorded value
(`explains_withRecord`), also where only some of the values get through
(`RollbackRecord.keeps_explains`), and nothing changes just if every recorded value is in force or
has nowhere to go (`withRecord_eq_self_iff`).
-/

namespace ValOpt

open Effect Text

/-- The value that the backups give to a property of an adapter: that of the last one the validators
let pass. -/
def recordedProperty (adapter kw : String) : List AdapterPropertyBackup → Option String
  | [] => none
  | b :: bs => (recordedProperty adapter kw bs).or
      (if b.adapterName = adapter ∧
          (validateAdapterSet b.adapterName b.keyword b.originalValue).isOk ∧
          eqIgnoreAsciiCase kw b.keyword then some b.originalValue else none)

/-- A row after the backups were written back. -/
theorem NicAdvancedProperty.restored_eq (adapter : String) (p : NicAdvancedProperty)
    (bs : List AdapterPropertyBackup) : p.restored adapter bs =
      match recordedProperty adapter p.registryKeyword bs with
      | some v => { p with registryValue := some [v] }
      | none => p := by
  induction bs generalizing p with
  | nil => rfl
  | cons b bs ih =>
    rw [restored, List.foldl_cons]
    change (ite _ _ _ : NicAdvancedProperty).restored adapter bs = _
    by_cases hb : b.adapterName = adapter ∧
        (validateAdapterSet b.adapterName b.keyword b.originalValue).isOk
    · rw [if_pos hb, ih, registryKeyword_assign, recordedProperty]
      cases hrest : recordedProperty adapter p.registryKeyword bs with
      | some v =>
        rw [Option.some_or]
        unfold assign
        by_cases hkw : eqIgnoreAsciiCase p.registryKeyword b.keyword <;> simp [hkw]
      | none =>
        rw [Option.none_or]
        by_cases hkw : eqIgnoreAsciiCase p.registryKeyword b.keyword
        · rw [if_pos ⟨hb.1, hb.2, hkw⟩]
          unfold assign
          rw [if_pos hkw]
        · rw [if_neg fun h => hkw h.2.2]
          unfold assign
          rw [if_neg hkw]
    · rw [if_neg hb, ih, recordedProperty, if_neg fun h => hb ⟨h.1, h.2.1⟩, Option.or_none]

/-- The value comes from one of the backups. -/
theorem exists_of_recordedProperty {adapter kw v : String} {bs : List AdapterPropertyBackup}
    (h : recordedProperty adapter kw bs = some v) : ∃ b ∈ bs, b.adapterName = adapter ∧
      eqIgnoreAsciiCase kw b.keyword ∧ b.originalValue = v := by
  induction bs with
  | nil => cases h
  | cons b bs ih =>
    rw [recordedProperty, Option.or_eq_some_iff] at h
    obtain h | ⟨-, h⟩ := h
    · obtain ⟨b', hb', hrest⟩ := ih h
      exact ⟨b', List.mem_cons_of_mem b hb', hrest⟩
    · split at h
      · next hb =>
        cases h
        exact ⟨b, List.mem_cons_self, hb.1, hb.2.2, rfl⟩
      · cases h

theorem exists_of_recordedFx {id : String} {v : Option UInt32} {bs : List AudioEndpointBackup}
    (h : recordedFx id bs = some v) :
    ∃ b ∈ bs, b.endpointId = id ∧ b.originalDisabledState = v := by
  induction bs with
  | nil => cases h
  | cons b bs ih =>
    rw [recordedFx, Option.or_eq_some_iff] at h
    obtain h | ⟨-, h⟩ := h
    · obtain ⟨b', hb', hrest⟩ := ih h
      exact ⟨b', List.mem_cons_of_mem b hb', hrest⟩
    · split at h
      · next hb =>
        cases h
        exact ⟨b, List.mem_cons_self, hb, rfl⟩
      · cases h

namespace Machine

variable (m : Machine)

/-- The policies after a recorded policy was removed. -/
def qosRecord (backup : Option QosPolicyBackup) : List String :=
  match backup with
  | some b =>
    if (validatePolicyName b.policyName).isOk ∧ ¬ b.wasPolicyPresentBefore then
      m.qosPolicies.filter (· ≠ b.policyName)
    else m.qosPolicies
  | none => m.qosPolicies

/-- The NLA setting after a recorded one was written back. -/
def nlaRecord (backup : Option QosPolicyBackup) : Option String :=
  match backup.bind fun b => if (validatePolicyName b.policyName).isOk then b.previousNlaSetting
    else none with
  | some v => if v.toList.all Char.isAlphanum then some v else m.nlaSetting
  | none => m.nlaSetting

/-- A recorded policy is removed and the NLA setting written back. -/
def withQosRecord (backup : Option QosPolicyBackup) : Machine :=
  { m with qosPolicies := m.qosRecord backup, nlaSetting := m.nlaRecord backup }

/-- The services that the optimizer paused are running. -/
def withServices (backups : List ServiceBackup) : Machine :=
  { m with services := fun name =>
      if backups.any fun b => b.wasPausedByOptimizer && b.serviceName == name then
        (m.services name).map fun _ => serviceRunning
      else m.services name }

/-- All values of a record are laid over the machine, in the order of `rollback`. -/
def withRecord (r : RollbackRecord) : Machine :=
  (((((m.withQosRecord r.qos).restoreAdapters r.adapters).restoreFx r.audio).withPowerRecord
    r.power).withGameModeRecord r.gameMode).withServices r.services

end Machine

/-! ### The settings after a record was written back -/

namespace Machine

variable (m : Machine) (r : RollbackRecord)

theorem exists_restoreAdapters (bs : List AdapterPropertyBackup) :
    ∃ ads, m.restoreAdapters bs = { m with adapters := ads } := by
  unfold restoreAdapters
  induction bs generalizing m with
  | nil => exact ⟨m.adapters, rfl⟩
  | cons b bs ih =>
    have hassign : ∃ ads, m.assignAdapter b.adapterName b.keyword b.originalValue =
        { m with adapters := ads } := by
      unfold assignAdapter
      split
      · exact ⟨_, rfl⟩
      · exact ⟨m.adapters, rfl⟩
    obtain ⟨ads, hads⟩ := hassign
    obtain ⟨ads', hads'⟩ := ih { m with adapters := ads }
    rw [List.foldl_cons, hads, hads']
    exact ⟨ads', rfl⟩

/-- The scheme that a record activates. -/
def schemeRecord (scheme : Option String) : Guid :=
  match scheme.bind fun s => (stringToGuid s).toOption with
  | some g => if g ∈ m.installedSchemes then g else m.activeScheme
  | none => m.activeScheme

/-- Game Mode as a record has it. -/
def gameBarRecord (mode : Option Bool) : Option GameBar :=
  match mode with
  | some b => some ⟨some (if b then 1 else 0), some (if b then 1 else 0)⟩
  | none => m.gameBar

/-- A record changes each setting by itself. -/
theorem withRecord_eq : m.withRecord r =
    { m with
      gameBar := m.gameBarRecord r.gameMode
      activeScheme := m.schemeRecord r.power
      fxProperties := (m.restoreFx r.audio).fxProperties
      adapters := (m.restoreAdapters r.adapters).adapters
      qosPolicies := m.qosRecord r.qos
      nlaSetting := m.nlaRecord r.qos
      services := (m.withServices r.services).services
      active_installed := by
        unfold schemeRecord
        have := m.active_installed
        split
        · split <;> assumption
        · assumption } := by
  obtain ⟨ads, hads⟩ := (m.withQosRecord r.qos).exists_restoreAdapters r.adapters
  have hadapters : ads = (m.restoreAdapters r.adapters).adapters := by
    have hqos : (m.withQosRecord r.qos).adapters = m.adapters := rfl
    have hsame := adapters_restoreAdapters_congr hqos r.adapters
    rw [hads] at hsame
    exact hsame
  unfold withRecord
  rw [hads, hadapters]
  unfold withPowerRecord withGameModeRecord schemeRecord gameBarRecord
  cases r.power.bind fun s => (stringToGuid s).toOption <;> cases r.gameMode <;> rfl

end Machine

/-! ### Records that change nothing -/

namespace Machine

variable {m : Machine}

theorem gameBarRecord_eq_self_iff {mode : Option Bool} : m.gameBarRecord mode = m.gameBar ↔
    ∀ b, mode = some b → m.gameBar =
      some ⟨some (if b then 1 else 0), some (if b then 1 else 0)⟩ := by
  cases mode with
  | none => exact ⟨fun _ _ h => (nomatch h), fun _ => rfl⟩
  | some b =>
    constructor
    · rintro h _ ⟨⟩
      exact h.symm
    · exact fun h => (h b rfl).symm

theorem schemeRecord_eq_self_iff {scheme : Option String} :
    m.schemeRecord scheme = m.activeScheme ↔ ∀ s g, scheme = some s → stringToGuid s = .ok g →
      g ∈ m.installedSchemes → m.activeScheme = g := by
  unfold schemeRecord
  cases scheme with
  | none => exact ⟨fun _ _ _ h => (nomatch h), fun _ => rfl⟩
  | some s =>
    cases hg : stringToGuid s with
    | error e =>
      refine ⟨?_, fun _ => by simp [hg, Except.toOption]⟩
      rintro - s' g ⟨⟩ hs'
      rw [hg] at hs'
      cases hs'
    | ok g =>
      simp only [Option.bind_some, hg, Except.toOption]
      constructor
      · rintro h s' g' ⟨⟩ hs' hmem
        rw [hg, Except.ok.injEq] at hs'
        subst hs'
        rw [if_pos hmem] at h
        exact h.symm
      · intro h
        split
        · next hmem => exact (h s g rfl hg hmem).symm
        · rfl

theorem fxProperties_restoreFx_eq_self_iff {bs : List AudioEndpointBackup} :
    (m.restoreFx bs).fxProperties = m.fxProperties ↔ ∀ id v, recordedFx id bs = some v →
      m.fxProperties id = none ∨ m.fxProperties id = some v := by
  have hfx : ∀ id, (m.restoreFx bs).fxProperties id =
      (m.fxProperties id).map (recordedFx id bs).getD := fun id => rfl
  constructor
  · intro h id v hv
    have hid := congrFun h id
    rw [hfx, hv] at hid
    cases hold : m.fxProperties id with
    | none => exact .inl rfl
    | some old =>
      rw [hold] at hid
      exact .inr hid.symm
  · intro h
    funext id
    rw [hfx]
    cases hv : recordedFx id bs with
    | none => cases m.fxProperties id <;> rfl
    | some v =>
      obtain hnone | hsome := h id v hv
      · rw [hnone]
        rfl
      · rw [hsome]
        rfl

theorem adapters_restoreAdapters_eq_self_iff {bs : List AdapterPropertyBackup} :
    (m.restoreAdapters bs).adapters = m.adapters ↔ ∀ adapter A, m.adapters adapter = some A →
      ∀ p ∈ A.rows, ∀ v, recordedProperty adapter p.registryKeyword bs = some v →
        p.registryValue = some [v] := by
  have hrows := adapters_restoreAdapters m bs
  constructor
  · intro h adapter A hA p hp v hv
    have hmap := hrows adapter
    rw [h, hA, Option.map_some, Option.map_some, Option.some.injEq] at hmap
    have hfix : p = p.restored adapter bs := by
      have hall : ∀ q ∈ A.rows, id q = q.restored adapter bs :=
        List.map_inj_left.mp (by rw [List.map_id]; exact hmap)
      exact hall p hp
    rw [NicAdvancedProperty.restored_eq, hv] at hfix
    rw [hfix]
  · intro h
    funext adapter
    have hmap := hrows adapter
    cases hA : m.adapters adapter with
    | none =>
      rw [hA] at hmap
      exact Option.map_eq_none_iff.mp hmap
    | some A =>
      rw [hA] at hmap
      obtain ⟨A', hA', hrows'⟩ := Option.map_eq_some_iff.mp hmap
      rw [hA', Option.some.injEq]
      apply AdapterProperties.ext_rows
      rw [hrows']
      conv_rhs => rw [← List.map_id A.rows]
      apply List.map_congr_left
      intro p hp
      rw [NicAdvancedProperty.restored_eq]
      cases hv : recordedProperty adapter p.registryKeyword bs with
      | none => rfl
      | some v =>
        show { p with registryValue := some [v] } = p
        rw [← h adapter A hA p hp v hv]

theorem qosRecord_eq_self_iff {backup : Option QosPolicyBackup} :
    m.qosRecord backup = m.qosPolicies ↔ ∀ b, backup = some b →
      (validatePolicyName b.policyName).isOk → b.wasPolicyPresentBefore = false →
        b.policyName ∉ m.qosPolicies := by
  unfold qosRecord
  cases backup with
  | none => exact ⟨fun _ _ h => (nomatch h), fun _ => rfl⟩
  | some b =>
    dsimp only
    constructor
    · rintro h _ ⟨⟩ hname hp hmem
      rw [if_pos ⟨hname, by simp [hp]⟩, List.filter_eq_self] at h
      simpa using h _ hmem
    · intro h
      split
      · next hb =>
        rw [List.filter_eq_self]
        intro name hname
        have hnot := h b rfl hb.1 (by simpa using hb.2)
        have hne : name ≠ b.policyName := by
          rintro rfl
          exact hnot hname
        simp [hne]
      · rfl

theorem nlaRecord_eq_self_iff {backup : Option QosPolicyBackup} :
    m.nlaRecord backup = m.nlaSetting ↔ ∀ b v, backup = some b →
      (validatePolicyName b.policyName).isOk → b.previousNlaSetting = some v →
        v.toList.all Char.isAlphanum → m.nlaSetting = some v := by
  unfold nlaRecord
  cases backup with
  | none => exact ⟨fun _ _ _ h => (nomatch h), fun _ => rfl⟩
  | some b =>
    rw [Option.bind_some]
    by_cases hname : (validatePolicyName b.policyName).isOk
    · rw [if_pos hname]
      cases hv : b.previousNlaSetting with
      | none =>
        refine ⟨?_, fun _ => rfl⟩
        rintro - _ v ⟨⟩ - hv'
        rw [hv] at hv'
        cases hv'
      | some v =>
        dsimp only
        constructor
        · rintro h _ v' ⟨⟩ - hv' hall
          rw [hv, Option.some.injEq] at hv'
          subst hv'
          rw [if_pos hall] at h
          exact h.symm
        · intro h
          split
          · next hall => exact (h b v rfl hname hv hall).symm
          · rfl
    · rw [if_neg hname]
      refine ⟨?_, fun _ => rfl⟩
      rintro - _ v ⟨⟩ hname'
      exact absurd hname' hname

theorem services_withServices_eq_self_iff {bs : List ServiceBackup} :
    (m.withServices bs).services = m.services ↔ ∀ b ∈ bs, b.wasPausedByOptimizer →
      m.services b.serviceName = none ∨ m.services b.serviceName = some serviceRunning := by
  have hservices : ∀ name, (m.withServices bs).services name =
      if bs.any fun b => b.wasPausedByOptimizer && b.serviceName == name then
        (m.services name).map fun _ => serviceRunning
      else m.services name := fun name => rfl
  constructor
  · intro h b hb hp
    have hname := congrFun h b.serviceName
    have hany : bs.any fun b' => b'.wasPausedByOptimizer && b'.serviceName == b.serviceName :=
      List.any_eq_true.mpr ⟨b, hb, by simp [hp]⟩
    rw [hservices, if_pos hany] at hname
    cases hold : m.services b.serviceName with
    | none => exact .inl rfl
    | some v =>
      rw [hold] at hname
      exact .inr hname.symm
  · intro h
    funext name
    rw [hservices]
    split
    · next hany =>
      obtain ⟨b, hb, hpb⟩ := List.any_eq_true.mp hany
      simp only [Bool.and_eq_true, beq_iff_eq] at hpb
      obtain ⟨hp, rfl⟩ := hpb
      obtain hnone | hsome := h b hb hp
      · rw [hnone]
        rfl
      · rw [hsome]
        rfl
    · rfl

end Machine

/-- Every value of the record that the code accepts is in force, or has nowhere to go. -/
structure RollbackRecord.InForce (r : RollbackRecord) (m : Machine) : Prop where
  gameMode : ∀ b, r.gameMode = some b →
    m.gameBar = some ⟨some (if b then 1 else 0), some (if b then 1 else 0)⟩
  power : ∀ s g, r.power = some s → stringToGuid s = .ok g → g ∈ m.installedSchemes →
    m.activeScheme = g
  audio : ∀ id v, recordedFx id r.audio = some v →
    m.fxProperties id = none ∨ m.fxProperties id = some v
  adapters : ∀ adapter A, m.adapters adapter = some A → ∀ p ∈ A.rows, ∀ v,
    recordedProperty adapter p.registryKeyword r.adapters = some v → p.registryValue = some [v]
  qos : ∀ b, r.qos = some b → (validatePolicyName b.policyName).isOk →
    b.wasPolicyPresentBefore = false → b.policyName ∉ m.qosPolicies
  nla : ∀ b v, r.qos = some b → (validatePolicyName b.policyName).isOk →
    b.previousNlaSetting = some v → v.toList.all Char.isAlphanum → m.nlaSetting = some v
  services : ∀ b ∈ r.services, b.wasPausedByOptimizer →
    m.services b.serviceName = none ∨ m.services b.serviceName = some serviceRunning

/-- Writing a record back changes nothing just if its values are in force. -/
theorem withRecord_eq_self_iff {m : Machine} {r : RollbackRecord} :
    m.withRecord r = m ↔ r.InForce m := by
  have hfields : m.withRecord r = m ↔ m.gameBarRecord r.gameMode = m.gameBar ∧
      m.schemeRecord r.power = m.activeScheme ∧
      (m.restoreFx r.audio).fxProperties = m.fxProperties ∧
      (m.restoreAdapters r.adapters).adapters = m.adapters ∧
      m.qosRecord r.qos = m.qosPolicies ∧ m.nlaRecord r.qos = m.nlaSetting ∧
      (m.withServices r.services).services = m.services := by
    rw [m.withRecord_eq r]
    constructor
    · intro h
      have hfx := congrArg Machine.fxProperties h
      have hadapters := congrArg Machine.adapters h
      have hservices := congrArg Machine.services h
      exact ⟨congrArg Machine.gameBar h, congrArg Machine.activeScheme h, hfx, hadapters,
        congrArg Machine.qosPolicies h, congrArg Machine.nlaSetting h, hservices⟩
    · rintro ⟨hgameBar, hscheme, hfx, hadapters, hqos, hnla, hservices⟩
      simp only [hgameBar, hscheme, hfx, hadapters, hqos, hnla, hservices]
  rw [hfields, Machine.gameBarRecord_eq_self_iff, Machine.schemeRecord_eq_self_iff,
    Machine.fxProperties_restoreFx_eq_self_iff, Machine.adapters_restoreAdapters_eq_self_iff,
    Machine.qosRecord_eq_self_iff, Machine.nlaRecord_eq_self_iff,
    Machine.services_withServices_eq_self_iff]
  constructor
  · rintro ⟨hgameMode, hpower, haudio, hadapters, hqos, hnla, hservices⟩
    exact ⟨hgameMode, hpower, haudio, hadapters, hqos, hnla, hservices⟩
  · rintro ⟨hgameMode, hpower, haudio, hadapters, hqos, hnla, hservices⟩
    exact ⟨hgameMode, hpower, haudio, hadapters, hqos, hnla, hservices⟩

/-! ### Where a changed setting comes from -/

/-- Each setting of `m'` is that of `m`, or one that the record gives. -/
structure RollbackRecord.Explains (r : RollbackRecord) (m m' : Machine) : Prop where
  gameBar : m'.gameBar = m.gameBar ∨ ∃ b k, r.gameMode = some b ∧ m'.gameBar = some k ∧
    (k.allowAutoGameMode = m.gameBar.bind (·.allowAutoGameMode) ∨
      k.allowAutoGameMode = some (if b then 1 else 0)) ∧
    (k.autoGameModeEnabled = m.gameBar.bind (·.autoGameModeEnabled) ∨
      k.autoGameModeEnabled = some (if b then 1 else 0))
  activeScheme : m'.activeScheme = m.activeScheme ∨
    ∃ s, r.power = some s ∧ stringToGuid s = .ok m'.activeScheme
  fxProperties : ∀ id, m'.fxProperties id = m.fxProperties id ∨
    ∃ b ∈ r.audio, b.endpointId = id ∧ m'.fxProperties id = some b.originalDisabledState
  adapters : ∀ adapter A', m'.adapters adapter = some A' → ∀ p' ∈ A'.rows,
    (∃ A, m.adapters adapter = some A ∧ p' ∈ A.rows) ∨
      ∃ b ∈ r.adapters, b.adapterName = adapter ∧
        eqIgnoreAsciiCase p'.registryKeyword b.keyword ∧ p'.registryValue = some [b.originalValue]
  qosPolicies : m'.qosPolicies = m.qosPolicies ∨
    ∃ b, r.qos = some b ∧ m'.qosPolicies = m.qosPolicies.filter (· ≠ b.policyName)
  nlaSetting : m'.nlaSetting = m.nlaSetting ∨
    ∃ b, r.qos = some b ∧ m'.nlaSetting = b.previousNlaSetting
  services : ∀ name, m'.services name = m.services name ∨
    ∃ b ∈ r.services, b.wasPausedByOptimizer ∧ b.serviceName = name ∧
      m'.services name = some serviceRunning

/-- Every setting that the record changes takes a recorded value. -/
theorem explains_withRecord (m : Machine) (r : RollbackRecord) :
    r.Explains m (m.withRecord r) := by
  rw [m.withRecord_eq r]
  constructor
  case gameBar =>
    cases hb : r.gameMode with
    | none => exact .inl rfl
    | some b => exact .inr ⟨b, _, rfl, rfl, .inr rfl, .inr rfl⟩
  case activeScheme =>
    show m.schemeRecord r.power = m.activeScheme ∨ ∃ s, r.power = some s ∧
      stringToGuid s = .ok (m.schemeRecord r.power)
    by_cases hsame : m.schemeRecord r.power = m.activeScheme
    · exact .inl hsame
    · right
      have hnot := mt Machine.schemeRecord_eq_self_iff.mpr hsame
      push Not at hnot
      obtain ⟨s, g, hs, hg, hmem, -⟩ := hnot
      refine ⟨s, hs, ?_⟩
      unfold Machine.schemeRecord
      simp only [hs, Option.bind_some, hg, Except.toOption, if_pos hmem]
  case fxProperties =>
    intro id
    show (m.fxProperties id).map (recordedFx id r.audio).getD = m.fxProperties id ∨
      ∃ b ∈ r.audio, b.endpointId = id ∧
        (m.fxProperties id).map (recordedFx id r.audio).getD = some b.originalDisabledState
    cases m.fxProperties id with
    | none => exact .inl rfl
    | some old =>
      cases hv : recordedFx id r.audio with
      | none => exact .inl rfl
      | some v =>
        obtain ⟨b, hb, hid, rfl⟩ := exists_of_recordedFx hv
        exact .inr ⟨b, hb, hid, rfl⟩
  case adapters =>
    intro adapter A' hA' p' hp'
    -- each row of the restored adapter comes from a row of the old one
    have hrows := adapters_restoreAdapters m r.adapters adapter
    have hA : (m.restoreAdapters r.adapters).adapters adapter = some A' := hA'
    rw [hA, Option.map_some] at hrows
    obtain ⟨A, hold, hmap⟩ := Option.map_eq_some_iff.mp hrows.symm
    rw [← hmap] at hp'
    obtain ⟨p, hp, rfl⟩ := List.mem_map.mp hp'
    rw [NicAdvancedProperty.restored_eq]
    cases hv : recordedProperty adapter p.registryKeyword r.adapters with
    | none => exact .inl ⟨A, hold, hp⟩
    | some v =>
      obtain ⟨b, hb, hname, hkw, rfl⟩ := exists_of_recordedProperty hv
      exact .inr ⟨b, hb, hname, hkw, rfl⟩
  case qosPolicies =>
    show m.qosRecord r.qos = m.qosPolicies ∨ ∃ b, r.qos = some b ∧
      m.qosRecord r.qos = m.qosPolicies.filter (· ≠ b.policyName)
    unfold Machine.qosRecord
    cases r.qos with
    | none => exact .inl rfl
    | some b =>
      dsimp only
      split
      · exact .inr ⟨b, rfl, rfl⟩
      · exact .inl rfl
  case nlaSetting =>
    show m.nlaRecord r.qos = m.nlaSetting ∨ ∃ b, r.qos = some b ∧
      m.nlaRecord r.qos = b.previousNlaSetting
    by_cases hsame : m.nlaRecord r.qos = m.nlaSetting
    · exact .inl hsame
    · right
      have hnot := mt Machine.nlaRecord_eq_self_iff.mpr hsame
      push Not at hnot
      obtain ⟨b, v, hb, hname, hv, hall, -⟩ := hnot
      refine ⟨b, hb, ?_⟩
      unfold Machine.nlaRecord
      rw [hb, Option.bind_some, if_pos hname, hv]
      exact if_pos hall
  case services =>
    intro name
    show (m.withServices r.services).services name = m.services name ∨
      ∃ b ∈ r.services, b.wasPausedByOptimizer ∧ b.serviceName = name ∧
        (m.withServices r.services).services name = some serviceRunning
    have hname : (m.withServices r.services).services name =
        if r.services.any fun b => b.wasPausedByOptimizer && b.serviceName == name then
          (m.services name).map fun _ => serviceRunning
        else m.services name := rfl
    rw [hname]
    split
    · next hany =>
      obtain ⟨b, hb, hpb⟩ := List.any_eq_true.mp hany
      simp only [Bool.and_eq_true, beq_iff_eq] at hpb
      -- a service that does not exist is not started
      cases m.services name with
      | none => exact .inl rfl
      | some v => exact .inr ⟨b, hb, hpb.1, hpb.2, rfl⟩
    · exact .inl rfl

/-! ### Disturbed runs -/

theorem RollbackRecord.explains_refl (r : RollbackRecord) (m : Machine) : r.Explains m m where
  gameBar := .inl rfl
  activeScheme := .inl rfl
  fxProperties _ := .inl rfl
  adapters _ A' hA' _ hp' := .inl ⟨A', hA', hp'⟩
  qosPolicies := .inl rfl
  nlaSetting := .inl rfl
  services _ := .inl rfl

/-- The two values of the `GameBar` key, one by one. -/
theorem RollbackRecord.Explains.gameBar_values {r : RollbackRecord} {m m' : Machine}
    (h : r.Explains m m') {b : Bool} {k : GameBar} (hb : r.gameMode = some b)
    (hk : m'.gameBar = some k) :
    (k.allowAutoGameMode = m.gameBar.bind (·.allowAutoGameMode) ∨
      k.allowAutoGameMode = some (if b then 1 else 0)) ∧
    (k.autoGameModeEnabled = m.gameBar.bind (·.autoGameModeEnabled) ∨
      k.autoGameModeEnabled = some (if b then 1 else 0)) := by
  obtain hsame | ⟨b', k', hb', hk', hvalues⟩ := h.gameBar
  · rw [← hsame, hk]
    exact ⟨.inl rfl, .inl rfl⟩
  · rw [hb, Option.some.injEq] at hb'
    rw [hk, Option.some.injEq] at hk'
    subst hb' hk'
    exact hvalues

/-- Each single write of a record takes a recorded value. -/
theorem RollbackRecord.keeps_explains (r : RollbackRecord) (m : Machine) :
    r.Keeps (fun w => r.Explains m w.machine) where
  policy b hb _ w h := by
    refine { h with qosPolicies := .inr ?_ }
    obtain hsame | ⟨b', hb', hfilter⟩ := h.qosPolicies
    · exact ⟨b, hb, congrArg _ hsame⟩
    · rw [hb, Option.some.injEq] at hb'
      subst hb'
      refine ⟨b, hb, ?_⟩
      show w.machine.qosPolicies.filter _ = _
      rw [hfilter, List.filter_filter]
      simp
  nla b v hb hv w h := { h with nlaSetting := .inr ⟨b, hb, hv.symm⟩ }
  adapters b hb w m' h hm' := by
    unfold Machine.setAdapter at hm'
    cases hA : w.machine.adapters b.adapterName with
    | none =>
      rw [hA] at hm'
      cases hm'
    | some A =>
      rw [hA] at hm'
      dsimp only at hm'
      split at hm'
      case isFalse => cases hm'
      cases hm'
      refine { h with adapters := fun adapter A' hA' p' hp' => ?_ }
      by_cases hname : adapter = b.adapterName
      · subst hname
        have hself : Function.update w.machine.adapters b.adapterName
            (some (A.assign b.keyword b.originalValue)) b.adapterName = some A' := hA'
        rw [Function.update_self, Option.some.injEq] at hself
        rw [← hself] at hp'
        obtain ⟨p, hp, rfl⟩ := List.mem_map.mp hp'
        unfold NicAdvancedProperty.assign
        split
        · next hkw => exact .inr ⟨b, hb, rfl, hkw, rfl⟩
        · exact h.adapters _ A hA p hp
      · have hother : Function.update w.machine.adapters b.adapterName
            (some (A.assign b.keyword b.originalValue)) adapter = some A' := hA'
        rw [Function.update_of_ne hname] at hother
        exact h.adapters adapter A' hother p' hp'
  audio b hb w h := by
    refine { h with fxProperties := fun id => ?_ }
    by_cases hid : id = b.endpointId
    · subst hid
      exact .inr ⟨b, hb, rfl, Function.update_self ..⟩
    · have hother : (w.machine.setFxProperties b.endpointId b.originalDisabledState).fxProperties
          id = w.machine.fxProperties id := Function.update_of_ne hid _ _
      rw [hother]
      exact h.fxProperties id
  power s g hs hg w m' h hm' := by
    unfold Machine.setActiveScheme at hm'
    split at hm'
    · cases hm'
      exact { h with activeScheme := .inr ⟨s, hs, hg⟩ }
    · cases hm'
  gameBar b hb w h := by
    refine { h with gameBar := ?_ }
    cases hk : w.machine.gameBar with
    | none =>
      -- a new key has no values yet
      have hnew : w.machine.createGameBar.gameBar = some ⟨none, none⟩ := by
        rw [Machine.createGameBar, hk]
        rfl
      obtain hsame | ⟨b', k', -, hk', -⟩ := h.gameBar
      · refine .inr ⟨b, ⟨none, none⟩, hb, hnew, .inl ?_, .inl ?_⟩ <;> rw [← hsame, hk] <;> rfl
      · rw [hk] at hk'
        cases hk'
    | some k =>
      have hnew : w.machine.createGameBar.gameBar = w.machine.gameBar := by
        rw [Machine.createGameBar, hk]
        rfl
      simpa only [hnew] using h.gameBar
  allowAutoGameMode b hb w m' h hm' := by
    obtain ⟨k, hk, rfl⟩ := Option.map_eq_some_iff.mp hm'
    have hauto := (h.gameBar_values hb hk).2
    exact { h with gameBar := .inr ⟨b, _, hb, rfl, .inr rfl, hauto⟩ }
  autoGameModeEnabled b hb w m' h hm' := by
    obtain ⟨k, hk, rfl⟩ := Option.map_eq_some_iff.mp hm'
    have hallow := (h.gameBar_values hb hk).1
    exact { h with gameBar := .inr ⟨b, _, hb, rfl, hallow, .inr rfl⟩ }
  services b hb hp w m' h hm' := by
    obtain ⟨v, hv, rfl⟩ := Option.map_eq_some_iff.mp hm'
    refine { h with services := fun name => ?_ }
    by_cases hname : name = b.serviceName
    · subst hname
      exact .inr ⟨b, hb, hp, rfl, Function.update_self ..⟩
    · have hother : Function.update w.machine.services b.serviceName (some serviceRunning) name =
          w.machine.services name := Function.update_of_ne hname _ _
      show Function.update w.machine.services b.serviceName (some serviceRunning) name = _ ∨
        ∃ b' ∈ r.services, b'.wasPausedByOptimizer ∧ b'.serviceName = name ∧
          Function.update w.machine.services b.serviceName (some serviceRunning) name = _
      rw [hother]
      exact h.services name

/-! ### Undisturbed runs -/

section Faultless

variable {P : Platform} {text : Call → String} {w : World}

theorem run_restoreNlaSetting (text : Call → String) (w : World) (setting : Option String) :
    ∃ r, (restoreNlaSetting setting).run (.faultless text) w = .returned r
      { w with machine := { w.machine with
        nlaSetting := match setting with
          | some v => if v.toList.all Char.isAlphanum then some v else w.machine.nlaSetting
          | none => w.machine.nlaSetting } } := by
  unfold restoreNlaSetting
  cases setting with
  | none => exact ⟨_, rfl⟩
  | some v =>
    by_cases hv : v.toList.all Char.isAlphanum
    · refine ⟨.ok (), ?_⟩
      simp only [hv, if_true]
      rfl
    · refine ⟨.error "Invalid NLA setting value", ?_⟩
      simp only [hv]
      rfl

theorem run_unregisterQosPolicy (text : Call → String) (w : World) (b : QosPolicyBackup) :
    ∃ r, (unregisterQosPolicy b).run (.faultless text) w =
      .returned r { w with machine := w.machine.withQosRecord (some b) } := by
  unfold unregisterQosPolicy Machine.withQosRecord Machine.qosRecord Machine.nlaRecord
  cases hname : validatePolicyName b.policyName with
  | error e => exact ⟨.error e, by simp [hname, Except.isOk, Except.toBool]⟩
  | ok =>
    have hok : (Except.ok () : Except String Unit).isOk = true := rfl
    by_cases hp : b.wasPolicyPresentBefore
    · obtain ⟨r, hr⟩ := run_restoreNlaSetting text w b.previousNlaSetting
      refine ⟨r, ?_⟩
      simp only [hname, hp, hok, Option.bind_some, if_true, not_true_eq_false, and_false, if_false]
      exact hr
    · obtain ⟨r, hr⟩ := run_restoreNlaSetting text { w with machine := { w.machine with
          qosPolicies := w.machine.qosPolicies.filter (· ≠ b.policyName) } } b.previousNlaSetting
      refine ⟨r, ?_⟩
      simp only [hname, hp, hok, Option.bind_some, if_true, Bool.false_eq_true, not_false_eq_true,
        and_true, if_false, Eff.run_bind, run_writeMachine_faultless, Run.bind_returned]
      exact hr

theorem run_rollbackQosStep (backup : Option QosPolicyBackup) :
    (rollbackQosStep backup).run (.faultless text) w =
      .returned () { w with machine := w.machine.withQosRecord backup } := by
  cases backup with
  | none => rfl
  | some b =>
    obtain ⟨r, hr⟩ := run_unregisterQosPolicy text w b
    unfold rollbackQosStep
    simp only [Eff.run_bind, hr, Run.bind_returned]
    rfl

theorem run_rollbackQos_record (text : Call → String) (w : World)
    (backup : Option QosPolicyBackup) : ∃ r, (rollbackQos backup).run (.faultless text) w =
      .returned r { w with machine := w.machine.withQosRecord backup } := by
  cases backup with
  | none => exact ⟨_, rfl⟩
  | some b =>
    obtain ⟨r, hr⟩ := run_unregisterQosPolicy text w b
    refine ⟨r.isOk, ?_⟩
    unfold rollbackQos
    simp only [Eff.run_bind, hr, Run.bind_returned]
    rfl

theorem run_rollbackAdapterStep (backups : List AdapterPropertyBackup) :
    (rollbackAdapterStep backups).run (.faultless text) w =
      .returned () { w with machine := w.machine.restoreAdapters backups } := by
  unfold rollbackAdapterStep
  cases backups with
  | nil => rfl
  | cons b bs => simp

/-- One service is started, if it exists. -/
theorem run_restoreService (i : ℕ) (b : ServiceBackup) (w : World) :
    (restoreService i b).run (.faultless text) w =
      .returned () { w with machine := w.machine.withServices [b] } := by
  unfold restoreService startService Machine.withServices
  by_cases hp : b.wasPausedByOptimizer
  · cases hs : w.machine.services b.serviceName with
    | none =>
      have hsame : (fun name => if [b].any fun b => b.wasPausedByOptimizer && b.serviceName == name
          then (w.machine.services name).map fun _ => serviceRunning
          else w.machine.services name) = w.machine.services := by
        funext name
        split
        · next h =>
          have hname : b.serviceName = name := by simpa [hp] using h
          rw [← hname, hs]
          rfl
        · rfl
      rw [hsame]
      simp [hp, hs]
    | some v =>
      have hupdate : Function.update w.machine.services b.serviceName (some serviceRunning) =
          fun name => if [b].any fun b => b.wasPausedByOptimizer && b.serviceName == name
            then (w.machine.services name).map fun _ => serviceRunning
            else w.machine.services name := by
        funext name
        by_cases hname : name = b.serviceName
        · subst hname
          simp [hp, hs]
        · simp [hname, Ne.symm hname]
      simp [hp, hs, Machine.startService, hupdate]
  · simp [hp]

theorem Machine.withServices_cons (m : Machine) (b : ServiceBackup) (bs : List ServiceBackup) :
    (m.withServices [b]).withServices bs = m.withServices (b :: bs) := by
  unfold withServices
  congr 1
  funext name
  by_cases hb : b.wasPausedByOptimizer && b.serviceName == name
  · by_cases hbs : bs.any fun b => b.wasPausedByOptimizer && b.serviceName == name
    · simp only [List.any_cons, List.any_nil, hb, hbs, Bool.or_false, if_true]
      cases m.services name <;> rfl
    · simp [hb, hbs]
  · simp [hb]

theorem run_restoreTier3Services (backups : List ServiceBackup) :
    (restoreTier3Services backups).run (.faultless text) w =
      .returned () { w with machine := w.machine.withServices backups } := by
  have hfold : ∀ (bs : List ServiceBackup) (m : Machine),
      bs.foldl (fun m b => m.withServices [b]) m = m.withServices bs := by
    intro bs
    induction bs with
    | nil => exact fun m => rfl
    | cons b bs ih =>
      intro m
      rw [List.foldl_cons, ih, Machine.withServices_cons]
  unfold restoreTier3Services
  rw [Eff.run_forEach run_restoreService, foldl_machine fun m (b : ServiceBackup) =>
    m.withServices [b], hfold]

/-- The rollback of a snapshot writes its whole record back. -/
theorem run_rollbackSnapshot_record (text : Call → String) (w : World) (s : SystemStateSnapshot) :
    ∃ report, (rollbackSnapshot s).run (.faultless text) w =
      .returned (.ok report) { w with machine := w.machine.withRecord s.record } := by
  have hservices : ∀ w : World, ∃ n, (rollbackServices s.pausedServices).run (.faultless text) w =
      .returned n { w with machine := w.machine.withServices s.pausedServices } := by
    intro w
    unfold rollbackServices
    cases s.pausedServices with
    | nil => exact ⟨0, rfl⟩
    | cons b bs =>
      simp only [List.isEmpty_cons, Bool.false_eq_true, if_false, Eff.run_bind,
        run_restoreTier3Services, Run.bind_returned]
      exact ⟨_, rfl⟩
  obtain ⟨qos, hqos⟩ := run_rollbackQos_record text w s.previousQosPolicy
  let m₁ := w.machine.withQosRecord s.previousQosPolicy
  let m₃ := (m₁.restoreAdapters s.previousAdapterProperties).restoreFx s.previousAudioEndpoints
  obtain ⟨power, hpower⟩ := run_rollbackPower text { w with machine := m₃ } s.previousPowerScheme
  let m₄ := m₃.withPowerRecord s.previousPowerScheme
  obtain ⟨mode, hmode⟩ := run_rollbackGameMode text { w with machine := m₄ } s.previousGameMode
  obtain ⟨n, hn⟩ := hservices { w with machine := m₄.withGameModeRecord s.previousGameMode }
  unfold rollbackSnapshot
  simp only [Eff.run_bind, hqos, Run.bind_returned, run_rollbackAdapter, run_rollbackAudio]
  rw [hpower, Run.bind_returned, hmode, Run.bind_returned, hn, Run.bind_returned]
  exact ⟨_, rfl⟩

/-- So does the rollback of a transaction, which has no services. -/
theorem run_rollbackSettings_record (tx : OptimizationTransaction) :
    (rollbackSettings tx).run (.faultless text) w =
      .returned () { w with machine := w.machine.withRecord tx.record } := by
  unfold rollbackSettings
  simp only [Eff.run_bind, run_rollbackQosStep, Run.bind_returned, run_rollbackAdapterStep,
    run_rollbackAudioStep, run_rollbackPowerStep, run_rollbackGameModeStep]
  rfl

/-- A stored transaction is written back and removed. -/
theorem run_recoverOrphanedTransaction_record {b : Bytes} {tx : OptimizationTransaction}
    (h : w.files w.transactionPath = some b) (hread : P.transaction.fromStr b = .ok tx) :
    (recoverOrphanedTransaction P).run (.faultless text) w = .returned (.ok true)
      ({ w with machine := w.machine.withRecord tx.record }.removeFile w.transactionPath) := by
  simp [recoverOrphanedTransaction, h, hread, rollback, run_rollbackSettings_record]
  rfl

end Faultless

end ValOpt
