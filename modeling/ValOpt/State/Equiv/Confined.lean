import ValOpt.State.Equiv.Baseline
import ValOpt.State.Equiv.Restore

/-!
# What a disturbed rollback may write

A rollback whose calls fail, or that is cut short, writes some of the values of its record.
`RollbackRecord.Keeps` says of each single write that it keeps an invariant; the rollback of a
transaction and that of a snapshot then keep it as well, whatever becomes of their calls
(`preserves_rollbackSettings`, `preserves_rollbackSnapshot`).
-/

namespace ValOpt

open Effect

variable {env : Env Call} {I : World → Prop}

/-! ### The programs of the settings -/

theorem preserves_setGameMode (enable : Bool)
    (hcreate : ∀ w, I w → I { w with machine := w.machine.createGameBar })
    (hallow : ∀ w m, I w → w.machine.setAllowAutoGameMode (if enable then 1 else 0) = some m →
      I { w with machine := m })
    (hauto : ∀ w m, I w → w.machine.setAutoGameModeEnabled (if enable then 1 else 0) = some m →
      I { w with machine := m }) : Eff.Preserves env I (setGameMode enable) := by
  unfold setGameMode
  refine Eff.Preserves.bind preserves_getGameModeState fun state => ?_
  refine Eff.Preserves.bind (preserves_writeMachine ?_) fun created => ?_
  · rintro w m hw ⟨⟩
    exact hcreate w hw
  cases created with
  | error e => exact Eff.preserves_pure _
  | ok =>
    refine Eff.Preserves.bind (preserves_writeMachine hallow) fun status₁ => ?_
    refine Eff.Preserves.bind (preserves_writeMachine hauto) fun status₂ => ?_
    cases status₁ <;> cases status₂ <;> exact Eff.preserves_pure _

theorem preserves_setActivePowerScheme (g : Guid)
    (h : ∀ w m, I w → w.machine.setActiveScheme g = some m → I { w with machine := m }) :
    Eff.Preserves env I (setActivePowerScheme g) := by
  unfold setActivePowerScheme
  refine Eff.Preserves.bind (preserves_writeMachine h) fun status => ?_
  cases status <;> exact Eff.preserves_pure _

theorem preserves_restoreAudioEnhancements (backups : List AudioEndpointBackup)
    (h : ∀ b ∈ backups, ∀ w, I w → I { w with
      machine := w.machine.setFxProperties b.endpointId b.originalDisabledState }) :
    Eff.Preserves env I (restoreAudioEnhancements backups) := by
  refine Eff.Preserves.bind (Eff.Preserves.forEach 0 backups fun i b hb => ?_) fun _ =>
    Eff.preserves_pure _
  unfold restoreEndpoint
  refine Eff.Preserves.bind preserves_readMachine fun opened => ?_
  cases opened with
  | error e => exact Eff.preserves_pure _
  | ok v =>
    refine Eff.Preserves.bind (preserves_writeMachine ?_) fun _ => Eff.preserves_pure _
    rintro w m hw ⟨⟩
    exact h b hb w hw

theorem preserves_restoreAdapterProperties (backups : List AdapterPropertyBackup)
    (h : ∀ b ∈ backups, ∀ w m, I w →
      w.machine.setAdapter b.adapterName b.keyword b.originalValue = some m →
        I { w with machine := m }) : Eff.Preserves env I (restoreAdapterProperties backups) := by
  refine Eff.Preserves.bind (Eff.Preserves.forEach 0 backups fun i b hb => ?_) fun _ =>
    Eff.preserves_pure _
  exact (preserves_setAdapterProperty i _ _ _ (h b hb)).bind fun _ => Eff.preserves_pure _

/-! ### Records -/

/-- Every value of the record can be written back by itself, and `I` holds afterwards. -/
structure RollbackRecord.Keeps (r : RollbackRecord) (I : World → Prop) : Prop where
  policy : ∀ b, r.qos = some b → b.wasPolicyPresentBefore = false → ∀ w, I w →
    I { w with machine := { w.machine with
      qosPolicies := w.machine.qosPolicies.filter (· ≠ b.policyName) } }
  nla : ∀ b v, r.qos = some b → b.previousNlaSetting = some v → ∀ w, I w →
    I { w with machine := { w.machine with nlaSetting := some v } }
  adapters : ∀ b ∈ r.adapters, ∀ w m, I w →
    w.machine.setAdapter b.adapterName b.keyword b.originalValue = some m →
      I { w with machine := m }
  audio : ∀ b ∈ r.audio, ∀ w, I w →
    I { w with machine := w.machine.setFxProperties b.endpointId b.originalDisabledState }
  power : ∀ s g, r.power = some s → stringToGuid s = .ok g → ∀ w m, I w →
    w.machine.setActiveScheme g = some m → I { w with machine := m }
  gameBar : ∀ b, r.gameMode = some b → ∀ w, I w → I { w with machine := w.machine.createGameBar }
  allowAutoGameMode : ∀ b, r.gameMode = some b → ∀ w m, I w →
    w.machine.setAllowAutoGameMode (if b then 1 else 0) = some m → I { w with machine := m }
  autoGameModeEnabled : ∀ b, r.gameMode = some b → ∀ w m, I w →
    w.machine.setAutoGameModeEnabled (if b then 1 else 0) = some m → I { w with machine := m }
  services : ∀ b ∈ r.services, b.wasPausedByOptimizer → ∀ w m, I w →
    w.machine.startService b.serviceName = some m → I { w with machine := m }

/-- An invariant that is not about the settings. -/
theorem RollbackRecord.keeps_of_machine (r : RollbackRecord)
    (h : ∀ w m, I w → I { w with machine := m }) : r.Keeps I where
  policy _ _ _ w := h w _
  nla _ _ _ _ w := h w _
  adapters _ _ w m hw _ := h w m hw
  audio _ _ w := h w _
  power _ _ _ _ w m hw _ := h w m hw
  gameBar _ _ w := h w _
  allowAutoGameMode _ _ w m hw _ := h w m hw
  autoGameModeEnabled _ _ w m hw _ := h w m hw
  services _ _ _ w m hw _ := h w m hw

section Rollback

variable {r : RollbackRecord} (h : r.Keeps I)

include h

theorem RollbackRecord.Keeps.restoreGameMode {b : Bool} (hb : r.gameMode = some b) :
    Eff.Preserves env I (restoreGameMode b) := by
  unfold ValOpt.restoreGameMode
  have hset : Eff.Preserves env I (setGameMode b) := preserves_setGameMode b (h.gameBar b hb)
    (h.allowAutoGameMode b hb) (h.autoGameModeEnabled b hb)
  refine hset.bind fun status => ?_
  cases status <;> exact Eff.preserves_pure _

theorem RollbackRecord.Keeps.unregisterQosPolicy {b : QosPolicyBackup} (hb : r.qos = some b) :
    Eff.Preserves env I (unregisterQosPolicy b) :=
  preserves_unregisterQosPolicy b (h.policy b hb) fun v hv => h.nla b v hb hv

end Rollback

/-- The rollback of a transaction, whatever becomes of its calls. -/
theorem preserves_rollbackSettings {tx : OptimizationTransaction} (h : tx.record.Keeps I) :
    Eff.Preserves env I (rollbackSettings tx) := by
  unfold rollbackSettings
  refine Eff.Preserves.bind ?qos fun _ => Eff.Preserves.bind ?adapters fun _ =>
    Eff.Preserves.bind ?audio fun _ => Eff.Preserves.bind ?power fun _ => ?gameMode
  case qos =>
    unfold rollbackQosStep
    cases hb : tx.previousQosPolicy with
    | none => exact Eff.preserves_pure _
    | some b => exact (h.unregisterQosPolicy hb).bind fun _ => Eff.preserves_pure _
  case adapters =>
    unfold rollbackAdapterStep
    split
    · exact Eff.preserves_pure _
    · exact (preserves_restoreAdapterProperties _ h.adapters).bind fun _ => Eff.preserves_pure _
  case audio =>
    unfold rollbackAudioStep
    split
    · exact Eff.preserves_pure _
    · exact (preserves_restoreAudioEnhancements _ h.audio).bind fun _ => Eff.preserves_pure _
  case power =>
    unfold rollbackPowerStep
    cases hs : tx.previousPowerScheme with
    | none => exact Eff.preserves_pure _
    | some s =>
      cases hg : stringToGuid s with
      | error e =>
        simp only [hg]
        exact Eff.preserves_pure _
      | ok g =>
        simp only [hg]
        exact (preserves_setActivePowerScheme g (h.power s g hs hg)).bind fun _ =>
          Eff.preserves_pure _
  case gameMode =>
    unfold rollbackGameModeStep
    cases hb : tx.previousGameMode with
    | none => exact Eff.preserves_pure _
    | some b => exact (h.restoreGameMode hb).bind fun _ => Eff.preserves_pure _

/-- The clean-up of a rollback removes files, and nothing else. -/
theorem preserves_removeRecord (h : ∀ w p, I w → I (w.removeFile p)) :
    Eff.Preserves env I removeRecord := by
  refine Eff.Preserves.bind preserves_getWorld fun w => ?_
  refine Eff.Preserves.bind preserves_fileExists fun found => ?_
  split
  · exact Eff.Preserves.bind (preserves_removeFile fun w' => h w' _) fun _ => Eff.preserves_pure _
  · exact Eff.preserves_pure _

/-- The whole rollback of a transaction, with its clean-up. -/
theorem preserves_rollback {tx : OptimizationTransaction} (h : tx.record.Keeps I)
    (hremove : ∀ w p, I w → I (w.removeFile p)) : Eff.Preserves env I (rollback tx) :=
  (preserves_rollbackSettings h).bind fun _ => (preserves_removeRecord hremove).bind fun _ =>
    Eff.preserves_pure _

/-- The rollback of a snapshot, whatever becomes of its calls. -/
theorem preserves_rollbackSnapshot {s : SystemStateSnapshot} (h : s.record.Keeps I) :
    Eff.Preserves env I (rollbackSnapshot s) := by
  unfold rollbackSnapshot
  refine Eff.Preserves.bind ?qos fun _ => Eff.Preserves.bind ?adapters fun _ =>
    Eff.Preserves.bind ?audio fun _ => Eff.Preserves.bind ?power fun _ =>
    Eff.Preserves.bind ?gameMode fun _ => Eff.Preserves.bind ?services fun _ =>
      Eff.preserves_pure _
  case qos =>
    unfold rollbackQos
    cases hb : s.previousQosPolicy with
    | none => exact Eff.preserves_pure _
    | some b => exact (h.unregisterQosPolicy hb).bind fun _ => Eff.preserves_pure _
  case adapters =>
    unfold rollbackAdapter
    split
    · exact Eff.preserves_pure _
    · refine (preserves_restoreAdapterProperties _ h.adapters).bind fun status => ?_
      cases status <;> exact Eff.preserves_pure _
  case audio =>
    unfold rollbackAudio
    split
    · exact Eff.preserves_pure _
    · refine (preserves_restoreAudioEnhancements _ h.audio).bind fun status => ?_
      cases status <;> exact Eff.preserves_pure _
  case power =>
    unfold rollbackPower
    cases hs : s.previousPowerScheme with
    | none => exact Eff.preserves_pure _
    | some text =>
      cases hg : stringToGuid text with
      | error e =>
        simp only [hg]
        exact Eff.preserves_pure _
      | ok g =>
        simp only [hg]
        exact (preserves_setActivePowerScheme g (h.power text g hs hg)).bind fun _ =>
          Eff.preserves_pure _
  case gameMode =>
    unfold rollbackGameMode
    cases hb : s.previousGameMode with
    | none => exact Eff.preserves_pure _
    | some b => exact (h.restoreGameMode hb).bind fun _ => Eff.preserves_pure _
  case services =>
    unfold rollbackServices
    split
    · exact Eff.preserves_pure _
    · exact (preserves_restoreTier3Services _ h.services).bind fun _ => Eff.preserves_pure _

end ValOpt
