import ValOpt.State.CrashRecovery
import ValOpt.State.Equiv.Store

/-!
# The recovery log

The recovery adds to `recovery.log` and looks at nothing of it.  `World.Logged` says of two worlds
that they are the same but for what was added; the settings, the record of a transaction and the
snapshots under other names do not see it.
-/

namespace ValOpt

open Effect

variable {P : Platform} {env : Env Call} {w w' w'' : World}

/-- All that has changed is the recovery log, at the end of which something may have been added. -/
structure World.Logged (w w' : World) : Prop where
  machine : w'.machine = w.machine
  drive : w'.drive = w.drive
  files : ∀ q, q ≠ w.recoveryLogPath → w'.files q = w.files q
  log : w'.files w.recoveryLogPath = w.files w.recoveryLogPath ∨
    ∃ b, w'.files w.recoveryLogPath = some ((w.files w.recoveryLogPath).getD [] ++ b)

namespace World.Logged

theorem refl (w : World) : w.Logged w := ⟨rfl, rfl, fun _ _ => rfl, .inl rfl⟩

theorem appendFile (w : World) (b : Bytes) : w.Logged (w.appendFile w.recoveryLogPath b) where
  machine := rfl
  drive := rfl
  files _ hq := w.files_writeFile_of_ne _ hq
  log := .inr ⟨b, w.files_writeFile_self _ _⟩

theorem tornAppend (w : World) (b : Bytes) (k : ℕ) :
    w.Logged (w.tornAppend w.recoveryLogPath b k) := by
  cases k with
  | zero => exact refl w
  | succ n => exact appendFile w (b.take n)

/-- It is one write of that file at most. -/
theorem eq_or (h : w.Logged w') : w' = w ∨ ∃ b, w' = w.writeFile w.recoveryLogPath b := by
  rcases h.log with hsame | ⟨b, hb⟩
  · left
    ext q : 2
    · exact h.machine
    · by_cases hq : q = w.recoveryLogPath
      · rw [hq, hsame]
      · exact h.files q hq
    · exact h.drive
  · right
    refine ⟨(w.files w.recoveryLogPath).getD [] ++ b, ?_⟩
    ext q : 2
    · exact h.machine
    · by_cases hq : q = w.recoveryLogPath
      · rw [hq, hb, World.files_writeFile_self]
      · rw [h.files q hq, w.files_writeFile_of_ne _ hq]
    · exact h.drive

theorem storageDir (h : w.Logged w') : w'.storageDir = w.storageDir := by
  rw [World.storageDir, World.storageDir, h.drive]

/-- The transaction is in a file of its own. -/
theorem transactionPath (h : w.Logged w') : w'.transactionPath = w.transactionPath := by
  rw [World.transactionPath, World.transactionPath, h.storageDir]

theorem files_transactionPath (h : w.Logged w') :
    w'.files w.transactionPath = w.files w.transactionPath := by
  refine h.files _ fun heq => ?_
  have hfile := congrArg Path.file heq
  simp [World.transactionPath, World.recoveryLogPath] at hfile

/-- So is the key of every snapshot. -/
theorem files_keyPath (h : w.Logged w') (target : Path) :
    w'.files target.keyPath = w.files target.keyPath := by
  refine h.files _ fun heq => ?_
  have hfile := congrArg Path.file heq
  simp [Path.keyPath, World.recoveryLogPath, snapshotKeyFilename] at hfile

/-- Snapshots under other names are still the same. -/
theorem snapshotAt {target : Path} (h : w.Logged w') (hne : target ≠ w.recoveryLogPath) :
    w'.snapshotAt P target = w.snapshotAt P target :=
  World.snapshotAt_congr (h.files target hne) (h.files_keyPath target)

end World.Logged

/-! ### Adding to the log -/

theorem holds_appendRecoveryLog (now : Ambient) (report : RecoveryReport) :
    ((appendRecoveryLog P now report).run env w).Holds (fun _ => w.Logged)
      (fun w' => env.DiesIn .appendLog ∧ w.Logged w') := by
  unfold appendRecoveryLog
  simp only [Eff.run_bind, run_getWorld, Run.bind_returned, run_isDirectory]
  refine holds_unlessDirectory (holds_appendFile ?_ ?_ ?_) (.refl w) fun k hk => ⟨⟨k, hk⟩, .refl w⟩
  · exact .appendFile w _
  · exact .tornAppend w _
  · exact fun k hk => ⟨⟨k, hk⟩, .tornAppend w _ k⟩

theorem holds_reportUnreadable (now : Ambient) (e : SnapshotError) :
    ((reportUnreadable P now e).run env w).Holds (fun _ => w.Logged)
      (fun w' => env.DiesIn .appendLog ∧ w.Logged w') := by
  cases e with
  | integrityViolation path expectedHash computedHash =>
    unfold reportUnreadable
    rw [Eff.run_bind]
    exact Run.Holds.bind (holds_appendRecoveryLog now _) fun _ _ h => h
  | _ => exact .refl w

/-- An invariant that the log has no part in. -/
theorem preserves_appendRecoveryLog {I : World → Prop} (h : ∀ w w', I w → w.Logged w' → I w')
    (now : Ambient) (report : RecoveryReport) :
    Eff.Preserves env I (appendRecoveryLog P now report) := by
  intro w hw
  refine (holds_appendRecoveryLog now report).mono (fun _ w' hlog => h w w' hw hlog) ?_
  rintro w' ⟨⟨k, hk⟩, hlog⟩
  exact ⟨h w w' hw hlog, fun hfree => hfree _ k hk⟩

theorem preserves_reportUnreadable {I : World → Prop} (h : ∀ w w', I w → w.Logged w' → I w')
    (now : Ambient) (e : SnapshotError) : Eff.Preserves env I (reportUnreadable P now e) := by
  intro w hw
  refine (holds_reportUnreadable now e).mono (fun _ w' hlog => h w w' hw hlog) ?_
  rintro w' ⟨⟨k, hk⟩, hlog⟩
  exact ⟨h w w' hw hlog, fun hfree => hfree _ k hk⟩

/-- Undisturbed, the line is at the end of the log. -/
theorem run_appendRecoveryLog_faultless {text : Call → String} (now : Ambient)
    (report : RecoveryReport) (hfree : w.isDirectory w.storageDir w.recoveryLogPath = false) :
    (appendRecoveryLog P now report).run (.faultless text) w =
      .returned (.ok ()) (w.appendFile w.recoveryLogPath
        (asBytes (report.logEntry P now.debugTime))) := by
  unfold appendRecoveryLog
  simp only [Eff.run_bind, run_getWorld, Run.bind_returned, run_isDirectory, hfree,
    unlessDirectory_false]
  exact run_perform_ok rfl rfl

/-- A line is not empty: it ends with a line feed. -/
theorem asBytes_logEntry_ne_nil (report : RecoveryReport) (timestamp : String) :
    asBytes (report.logEntry P timestamp) ≠ [] := by
  intro h
  obtain ⟨text, htext⟩ : ∃ text, report.logEntry P timestamp = text ++ "\n" := ⟨_, rfl⟩
  have hempty : asBytes (text ++ "\n") = asBytes "" := by
    rw [← htext, h]
    rfl
  have htoList := congrArg String.toList (asBytes_injective hempty)
  simp at htoList

/-- As long as nothing kills the program, the line is written and the program goes on. -/
theorem run_appendRecoveryLog (hfree : env.CrashFree) (now : Ambient) (report : RecoveryReport)
    (w : World) :
    ∃ r w', (appendRecoveryLog P now report).run env w = .returned r w' ∧ w.Logged w' := by
  have hlog : ((appendRecoveryLog P now report).run env w).Holds _ _ :=
    holds_appendRecoveryLog now report
  cases hr : (appendRecoveryLog P now report).run env w with
  | returned r w' => exact ⟨r, w', rfl, hlog.of_returned hr⟩
  | crashed w' =>
    obtain ⟨⟨k, hk⟩, -⟩ := hlog.of_crashed hr
    exact absurd hk (hfree _ k)

theorem run_reportUnreadable (hfree : env.CrashFree) (now : Ambient) (e : SnapshotError)
    (w : World) :
    ∃ r w', (reportUnreadable P now e).run env w = .returned r w' ∧ w.Logged w' := by
  have hlog : ((reportUnreadable P now e).run env w).Holds _ _ := holds_reportUnreadable now e
  cases hr : (reportUnreadable P now e).run env w with
  | returned r w' => exact ⟨r, w', rfl, hlog.of_returned hr⟩
  | crashed w' =>
    obtain ⟨⟨k, hk⟩, -⟩ := hlog.of_crashed hr
    exact absurd hk (hfree _ k)

end ValOpt
