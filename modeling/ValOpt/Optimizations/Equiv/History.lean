import ValOpt.Optimizations.Equiv.Coordinator
import ValOpt.Undo.Log

/-!
# Histories of applies and recoveries

`active_transaction.json` is the slot of an undo log: `applyOptimizations` overwrites the record of
an earlier apply, whose settings are then out of reach.  A history pairs the world with the machine
before the first apply that was not rolled back (the *baseline*); `History.simulates_run` relates it
to the undo log, and `record_holds_baseline_iff` says in which histories the stored record always
lists the baseline.
-/

namespace ValOpt

open Effect

/-! ### The undo log of the coordinator -/

/-- What a transaction lists of the settings. -/
def OptimizationTransaction.listed (tx : OptimizationTransaction) :
    Option Bool × Option String × List AudioEndpointBackup :=
  (tx.previousGameMode, tx.previousPowerScheme, tx.previousAudioEndpoints)

/-- The settings of a machine as a transaction lists them. -/
def Machine.recordedValues (m : Machine) : Option Bool × Option String × List AudioEndpointBackup :=
  (some m.gameMode, if m.HasGamingScheme then some (guidToString m.activeScheme) else none,
    m.endpoints.map m.audioBackup)

/-- Applying is the change, a rollback the undo. -/
def coordinatorLog : Undo.Log Ambient Machine OptimizationTransaction
    (Option Bool × Option String × List AudioEndpointBackup) Settings where
  change := Machine.optimized
  capture := fun now m => m.transaction now
  restore := fun tx m => m.rolledBack tx
  listed := OptimizationTransaction.listed
  values := Machine.recordedValues
  observe := Machine.settings

/-- A rollback depends on what the transaction lists only. -/
theorem Machine.rolledBack_congr (m : Machine) {tx tx' : OptimizationTransaction}
    (h : tx.listed = tx'.listed) : m.rolledBack tx = m.rolledBack tx' := by
  simp only [OptimizationTransaction.listed, Prod.mk.injEq] at h
  obtain ⟨hgame, hpower, haudio⟩ := h
  unfold rolledBack
  rw [hgame, hpower, haudio]

theorem coordinatorLog_lawful : coordinatorLog.Lawful where
  listed_capture := fun _ _ => rfl
  change_change := Machine.optimized_optimized
  observe_restore := by
    intro tx m h
    change (m.optimized.rolledBack tx).settings = m.settings
    have hlisted : tx.listed = (m.transaction default).listed := h
    rw [Machine.rolledBack_congr _ hlisted]
    exact m.settings_rolledBack_optimized default

/-! ### Histories -/

inductive HistoryOp where
  | apply (now : Ambient)
  | recover

/-- A world, and the machine before the first apply that was not rolled back. -/
structure History where
  world : World
  baseline : Option Machine

namespace History

variable (P : Platform) (text : Call → String)

/-- One undisturbed call.  A recovery that reports a rollback ends the baseline. -/
def step (h : History) : HistoryOp → History
  | .apply now =>
    ⟨((applyOptimizations P now).run (.faultless text) h.world).state,
      some (h.baseline.getD h.world.machine)⟩
  | .recover =>
    match (recoverOrphanedTransaction P).run (.faultless text) h.world with
    | .returned (.ok true) w => ⟨w, none⟩
    | r => ⟨r.state, h.baseline⟩

/-- The history after a list of calls. -/
def run (h : History) (ops : List HistoryOp) : History := ops.foldl (step P text) h

/-- The start of a history. -/
def start (w : World) : History := ⟨w, none⟩

/-- A stored record lists the settings of the baseline. -/
def RecordHoldsBaseline (h : History) : Prop :=
  ∀ b, h.world.files h.world.transactionPath = some b →
    ∃ tx m, P.transaction.fromStr b = .ok tx ∧ h.baseline = some m ∧
      tx.listed = m.recordedValues

/-- A recovery that reports a rollback brings the settings of the baseline back. -/
def RecoverRestores (h : History) : Prop :=
  ∀ w, (recoverOrphanedTransaction P).run (.faultless text) h.world = .returned (.ok true) w →
    ∃ m, h.baseline = some m ∧ w.machine.settings = m.settings

/-- There is no stored record, or it lists the current settings. -/
def AppliesCleanly (w : World) : Prop :=
  w.files w.transactionPath = none ∨ ∃ b tx, w.files w.transactionPath = some b ∧
    P.transaction.fromStr b = .ok tx ∧ tx.listed = w.machine.recordedValues

/-! ### The simulation -/

/-- The history and the state of the undo log agree. -/
structure Simulates (h : History) (s : Undo.State Machine OptimizationTransaction) : Prop where
  machine_eq : h.world.machine = s.cur
  files_eq : h.world.files h.world.transactionPath = s.slot.map P.transaction.toStringPretty
  baseline_eq : h.baseline = s.base
  qos_eq : ∀ tx, s.slot = some tx → tx.previousQosPolicy = none
  adapter_eq : ∀ tx, s.slot = some tx → tx.previousAdapterProperties = []

/-- The step of the undo log that a call is. -/
def toStep : HistoryOp → Undo.Step Ambient
  | .apply now => .change now
  | .recover => .undo

variable {P text} {h : History} {s : Undo.State Machine OptimizationTransaction} {w : World}

theorem Simulates.start (hnone : w.files w.transactionPath = none) :
    Simulates P (start w) (Undo.State.start w.machine) where
  machine_eq := rfl
  files_eq := hnone
  baseline_eq := rfl
  qos_eq := by rintro tx ⟨⟩
  adapter_eq := by rintro tx ⟨⟩

/-- Where the log has a record, a recovery rolls it back. -/
theorem Simulates.run_recover (hrt : ∀ tx, P.transaction.fromStr (P.transaction.toStringPretty tx) =
      .ok tx) (hs : Simulates P h s) {tx : OptimizationTransaction} (hslot : s.slot = some tx) :
    (recoverOrphanedTransaction P).run (.faultless text) h.world =
      .returned (.ok true) (h.world.rolledBack tx) := by
  refine run_recoverOrphanedTransaction ?_ (hrt tx) (hs.qos_eq tx hslot) (hs.adapter_eq tx hslot)
  rw [hs.files_eq, hslot]
  rfl

/-- Where the log has none, a recovery does nothing. -/
theorem Simulates.run_recover_of_none (hs : Simulates P h s) (hslot : s.slot = none) :
    (recoverOrphanedTransaction P).run (.faultless text) h.world =
      .returned (.ok false) h.world := by
  refine run_recoverOrphanedTransaction_of_none ?_
  rw [hs.files_eq, hslot]
  rfl

/-- After an apply, a recovery rolls its transaction back. -/
theorem run_recover_applied (hrt : ∀ tx, P.transaction.fromStr (P.transaction.toStringPretty tx) =
      .ok tx) (w : World) (now : Ambient) :
    (recoverOrphanedTransaction P).run (.faultless text) (w.applied P now) =
      .returned (.ok true) ((w.applied P now).rolledBack (w.machine.transaction now)) :=
  run_recoverOrphanedTransaction (World.files_writeFile_self ..) (hrt _) rfl rfl

/-- Each call is a step of the undo log. -/
theorem Simulates.step (hrt : ∀ tx, P.transaction.fromStr (P.transaction.toStringPretty tx) =
      .ok tx) (hs : Simulates P h s) (op : HistoryOp) :
    Simulates P (h.step P text op) (s.step coordinatorLog (toStep op)) := by
  cases op with
  | apply now =>
    simp only [History.step, run_applyOptimizations, Run.state_returned]
    refine ⟨?_, ?_, ?_, ?_, ?_⟩
    · exact congrArg Machine.optimized hs.machine_eq
    · change (h.world.applied P now).files h.world.transactionPath =
        some (P.transaction.toStringPretty (s.cur.transaction now))
      rw [← hs.machine_eq]
      exact World.files_writeFile_self ..
    · rw [hs.baseline_eq, hs.machine_eq]
      rfl
    · rintro tx ⟨⟩
      rfl
    · rintro tx ⟨⟩
      rfl
  | recover =>
    cases hslot : s.slot with
    | none =>
      simp only [History.step, hs.run_recover_of_none hslot, toStep, Undo.State.step, hslot,
        Run.state_returned]
      exact hs
    | some tx =>
      simp only [History.step, hs.run_recover hrt hslot, toStep, Undo.State.step, hslot]
      refine ⟨?_, ?_, rfl, by rintro tx ⟨⟩, by rintro tx ⟨⟩⟩
      · exact congrArg (Machine.rolledBack · tx) hs.machine_eq
      · exact World.files_removeFile_self ..

/-- A history is a run of the undo log. -/
theorem simulates_run (hrt : ∀ tx, P.transaction.fromStr (P.transaction.toStringPretty tx) = .ok tx)
    (text : Call → String) (hnone : w.files w.transactionPath = none) (ops : List HistoryOp) :
    Simulates P ((start w).run P text ops)
      ((Undo.State.start w.machine).run coordinatorLog (ops.map toStep)) := by
  induction ops using List.reverseRecOn with
  | nil => exact Simulates.start hnone
  | append_singleton ops op ih =>
    simp only [History.run, List.foldl_append, List.foldl_cons, List.foldl_nil] at ih ⊢
    rw [List.map_append, Undo.State.run_append]
    exact ih.step hrt op

/-! ### What the simulation carries over -/

theorem Simulates.sound_iff
    (hrt : ∀ tx, P.transaction.fromStr (P.transaction.toStringPretty tx) = .ok tx)
    (hs : Simulates P h s) : s.Sound coordinatorLog ↔ h.RecordHoldsBaseline P := by
  unfold Undo.State.Sound RecordHoldsBaseline
  rw [hs.files_eq, hs.baseline_eq]
  constructor
  · intro hsound b hb
    obtain ⟨tx, htx, rfl⟩ := Option.map_eq_some_iff.mp hb
    obtain ⟨m, hm, hlisted⟩ := hsound tx htx
    exact ⟨tx, m, hrt tx, hm, hlisted⟩
  · intro hrecord tx htx
    obtain ⟨tx', m, hread, hm, hlisted⟩ := hrecord _ (by rw [htx]; rfl)
    rw [hrt tx] at hread
    cases hread
    exact ⟨m, hm, hlisted⟩

theorem Simulates.restores_iff
    (hrt : ∀ tx, P.transaction.fromStr (P.transaction.toStringPretty tx) = .ok tx)
    (hs : Simulates P h s) : s.Restores coordinatorLog ↔ h.RecoverRestores P text := by
  unfold Undo.State.Restores RecoverRestores
  rw [hs.baseline_eq]
  constructor
  · intro hrestores w hrun
    cases hslot : s.slot with
    | none =>
      rw [hs.run_recover_of_none hslot] at hrun
      cases hrun
    | some tx =>
      rw [hs.run_recover hrt hslot] at hrun
      cases hrun
      obtain ⟨m, hm, hobs⟩ := hrestores tx hslot
      rw [← hs.machine_eq] at hobs
      exact ⟨m, hm, hobs⟩
  · intro hrecover tx hslot
    obtain ⟨m, hm, hsettings⟩ := hrecover _ (hs.run_recover hrt hslot)
    rw [← hs.machine_eq]
    exact ⟨m, hm, hsettings⟩

theorem Simulates.clean_iff
    (hrt : ∀ tx, P.transaction.fromStr (P.transaction.toStringPretty tx) = .ok tx)
    (hs : Simulates P h s) : s.Clean coordinatorLog ↔ AppliesCleanly P h.world := by
  unfold Undo.State.Clean AppliesCleanly
  rw [hs.files_eq, hs.machine_eq]
  cases hslot : s.slot with
  | none => simp
  | some tx =>
    constructor
    · intro hclean
      exact .inr ⟨_, tx, rfl, hrt tx, hclean tx rfl⟩
    · rintro (hnone | ⟨b, tx', hb, hread, hlisted⟩) r ⟨⟩
      · cases hnone
      · cases hb
        rw [hrt tx] at hread
        cases hread
        exact hlisted

/-- The prefixes of a mapped list. -/
theorem prefix_map_iff (ops : List HistoryOp) (steps : List (Undo.Step Ambient)) :
    steps <+: ops.map toStep ↔ ∃ pre, pre <+: ops ∧ steps = pre.map toStep := by
  constructor
  · intro h
    refine ⟨ops.take steps.length, List.take_prefix _ _, ?_⟩
    rw [List.map_take]
    exact List.prefix_iff_eq_take.mp h
  · rintro ⟨pre, hpre, rfl⟩
    exact hpre.map toStep

/-- **Histories of applies and recoveries.**  From a world without a stored record, the record
always lists the settings from before the first apply that was not rolled back, and a recovery would
always bring them back, iff each apply finds no record, or one that lists the current settings. -/
theorem record_holds_baseline_iff
    (hrt : ∀ tx, P.transaction.fromStr (P.transaction.toStringPretty tx) = .ok tx)
    (text : Call → String) (hnone : w.files w.transactionPath = none) (ops : List HistoryOp) :
    (∀ pre, pre <+: ops → ((start w).run P text pre).RecordHoldsBaseline P ∧
        ((start w).run P text pre).RecoverRestores P text) ↔
      ∀ pre now, pre ++ [.apply now] <+: ops →
        AppliesCleanly P ((start w).run P text pre).world := by
  have hlog := Undo.State.sound_iff coordinatorLog_lawful w.machine (ops.map toStep)
  constructor
  · intro h pre now hpre
    rw [← (simulates_run hrt text hnone pre).clean_iff hrt]
    refine hlog.mp ?_ (pre.map toStep) now ?_
    · intro steps hsteps
      obtain ⟨pre', hpre', rfl⟩ := (prefix_map_iff ops steps).mp hsteps
      have hsim := simulates_run hrt text hnone pre'
      rw [hsim.sound_iff hrt, hsim.restores_iff hrt]
      exact h pre' hpre'
    · exact (prefix_map_iff ops _).mpr ⟨_, hpre, by rw [List.map_append]; rfl⟩
  · intro h pre hpre
    have hsim := simulates_run hrt text hnone pre
    rw [← hsim.sound_iff hrt, ← hsim.restores_iff hrt]
    refine hlog.mpr ?_ (pre.map toStep) (hpre.map toStep)
    intro steps now hsteps
    obtain ⟨pre', hpre', heq⟩ := (prefix_map_iff ops _).mp hsteps
    -- the last call of the prefix is the apply behind the change
    obtain ⟨pre, last, rfl, rfl, hlast⟩ := List.append_eq_map_iff.mp heq
    obtain ⟨op, rfl, hop⟩ := List.map_eq_singleton_iff.mp hlast
    cases op with
    | apply _ =>
      cases hop
      rw [(simulates_run hrt text hnone pre).clean_iff hrt]
      exact h pre _ hpre'
    | recover => cases hop

/-- One apply and its recovery on the desktop. -/
theorem record_holds_baseline_desktop :
    ((start .desktop).run .portable errorText [.apply default]).RecordHoldsBaseline .portable ∧
      ((start .desktop).run .portable errorText [.apply default]).RecoverRestores .portable
        errorText := by
  refine (record_holds_baseline_iff lawful_transactionCodec.fromStr_toStringPretty errorText rfl
    [.apply default, .recover]).mpr ?_ [.apply default] ⟨[.recover], rfl⟩
  intro pre now hpre
  -- the only apply is the first call
  cases pre with
  | nil => exact .inl rfl
  | cons op pre =>
    rw [List.cons_append, List.cons_prefix_cons] at hpre
    obtain ⟨-, hrest⟩ := hpre
    cases pre with
    | nil => simp at hrest
    | cons op' pre => simp at hrest

/-- After two applies the baseline is still the first machine. -/
theorem run_apply_apply (w : World) :
    (start w).run P text [.apply default, .apply default] =
      ⟨(w.applied P default).applied P default, some w.machine⟩ := by
  simp only [run, step, start, List.foldl_cons, List.foldl_nil, run_applyOptimizations,
    Run.state_returned, Option.getD_none, Option.getD_some]

/-- The second apply on the desktop takes the record of the first one away. -/
theorem second_apply_hides_baseline : World.desktop.files World.desktop.transactionPath = none ∧
    ¬ ((start .desktop).run .portable errorText [.apply default, .apply default]).RecoverRestores
      .portable errorText := by
  refine ⟨rfl, ?_⟩
  rw [run_apply_apply]
  intro h
  have hrecover : (recoverOrphanedTransaction .portable).run (.faultless errorText) _ =
      .returned (.ok true) _ :=
    run_recover_applied Platform.lawful_portable.transaction.fromStr_toStringPretty
      (World.desktop.applied .portable default) default
  obtain ⟨m, hm, hsettings⟩ := h _ hrecover
  have hback := Machine.desktop.optimized.settings_rolledBack_optimized default
  have hopt : Machine.desktop.optimized.settings = m.settings := hback.symm.trans hsettings
  cases hm
  exact Machine.not_isOptimized_desktop hopt

end History

end ValOpt
