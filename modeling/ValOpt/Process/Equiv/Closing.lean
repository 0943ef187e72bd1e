import Mathlib.Data.List.Nodup
import ValOpt.Process.Closing

/-!
# The backups of a sweep

The loop records an entry for every process that it opens and that gives its path, whether it ends
or not (`backups_terminateEntriesAmid`).  So the backups are a list of the closed applications just
if the processes opened that give their path run different executables, and every process that ends
shares its executable with one of them (`describes_iff`).
-/

namespace ValOpt

variable {access : ProcessAccess} {exits : UInt32 → List UInt32} {currentPid : UInt32}

/-! ### The statement -/

/-- The list that is returned has the executable of every process that was terminated, and no
executable twice. -/
def ProcessTable.Describes (t : ProcessTable) (access : ProcessAccess)
    (exits : UInt32 → List UInt32) (currentPid : UInt32) : Prop :=
  ∀ backups left, terminateTier2Amid access exits currentPid t.running = (.ok backups, left) →
    (∀ p ∈ terminatedProcesses access exits currentPid t.running t.running,
      t.executable p.pid ∈ backups.map (·.executablePath)) ∧
    (backups.map (·.executablePath)).Nodup

/-- The entries that are still running when their turn comes. -/
def metEntries (exits : UInt32 → List UInt32) : List Process → List Process
  | [] => []
  | entry :: entries => entry :: (metEntries exits entries).filter fun p => p.pid ∉ exits entry.pid

/-- The processes that the loop opens. -/
def openedEntries (access : ProcessAccess) (exits : UInt32 → List UInt32) (currentPid : UInt32)
    (entries : List Process) : List Process :=
  (metEntries exits (entries.filter fun p => Targeted currentPid p)).filter
    fun p => access.opens p.pid

/-! ### One call -/

/-- Without exits, this is the loop of the daemon. -/
theorem terminateEntriesAmid_nil (access : ProcessAccess) (currentPid : UInt32)
    (entries running : List Process) :
    terminateEntriesAmid access (fun _ => []) currentPid entries running =
      terminateEntries access currentPid entries running := by
  induction entries generalizing running with
  | nil => rfl
  | cons entry entries ih =>
    have hall : ∀ running : List Process, (running.filter fun p => p.pid ∉ ([] : List UInt32)) =
        running := by simp
    rw [terminateEntriesAmid, terminateEntries]
    simp only [hall, ih]
    rfl

/-- The backup of a process whose path is given. -/
def Process.backup (p : Process) : Option TerminatedAppBackup :=
  p.imagePath.map fun path => ⟨p.name, path, none⟩

theorem assertSafeToKill_of_targeted {entry : Process} (h : Targeted currentPid entry) :
    assertSafeToKill entry.name = .ok () := by
  rw [assertSafeToKill, h.2.2]
  rfl

/-- A call for an entry of the snapshot, which is running as it was or gone. -/
theorem terminateProcessGracefully_targeted {entry : Process} {running : List Process}
    (h : Targeted currentPid entry) (hsame : ∀ p ∈ running, p.pid = entry.pid → p = entry) :
    terminateProcessGracefully access entry.pid entry.name running =
      if entry ∈ running ∧ access.opens entry.pid = true then
        (.ok entry.backup,
          if access.closes entry.pid then running.filter (·.pid ≠ entry.pid) else running)
      else (.ok none, running) := by
  rw [terminateProcessGracefully, assertSafeToKill_of_targeted h]
  by_cases hmem : entry ∈ running
  · have hfind : running.find? (·.pid = entry.pid) = some entry := by
      cases hfound : running.find? (·.pid = entry.pid) with
      | none =>
        have hnot := List.find?_eq_none.mp hfound entry hmem
        simp at hnot
      | some p =>
        have hpid : p.pid = entry.pid := by simpa using List.find?_some hfound
        rw [hsame p (List.mem_of_find?_eq_some hfound) hpid]
    dsimp only
    rw [hfind]
    by_cases hopens : access.opens entry.pid
    · simp [hmem, hopens, Process.backup]
    · simp [hopens]
  · have hfind : running.find? (·.pid = entry.pid) = none := by
      rw [List.find?_eq_none]
      intro p hp hpid
      exact hmem (hsame p hp (by simpa using hpid) ▸ hp)
    dsimp only
    rw [hfind]
    simp [hmem]

/-! ### The loop -/

/-- What the loop leaves running after the call for an entry. -/
def leftAfter (access : ProcessAccess) (exits : UInt32 → List UInt32) (entry : Process)
    (running : List Process) : List Process :=
  (terminateProcessGracefully access entry.pid entry.name running).2.filter
    fun p => p.pid ∉ exits entry.pid

/-- Of the other processes, those are left that do not exit. -/
theorem mem_leftAfter {entry other : Process} {running : List Process}
    (h : Targeted currentPid entry) (hsame : ∀ p ∈ running, p.pid = entry.pid → p = entry)
    (hne : other.pid ≠ entry.pid) : other ∈ leftAfter access exits entry running ↔
      other ∈ running ∧ other.pid ∉ exits entry.pid := by
  rw [leftAfter, List.mem_filter, terminateProcessGracefully_targeted h hsame]
  split
  · split <;> simp [hne]
  · simp

theorem mem_of_mem_leftAfter {entry other : Process} {running : List Process}
    (h : Targeted currentPid entry) (hsame : ∀ p ∈ running, p.pid = entry.pid → p = entry)
    (hother : other ∈ leftAfter access exits entry running) : other ∈ running := by
  rw [leftAfter, List.mem_filter, terminateProcessGracefully_targeted h hsame] at hother
  have hmem := hother.1
  split at hmem
  · split at hmem
    · exact (List.mem_filter.mp hmem).1
    · exact hmem
  · exact hmem

/-- The loop meets entries of the snapshot, in their order. -/
theorem metEntries_sublist (exits : UInt32 → List UInt32) (entries : List Process) :
    (metEntries exits entries).Sublist entries := by
  induction entries with
  | nil => exact .refl _
  | cons entry entries ih => exact (List.filter_sublist.trans ih).cons_cons entry

theorem mem_of_mem_metEntries {entries : List Process} {p : Process}
    (h : p ∈ metEntries exits entries) : p ∈ entries := (metEntries_sublist exits entries).mem h

/-- The entries that the loop meets and that have a property, by its first entry. -/
theorem filter_metEntries_cons (access : ProcessAccess) {entry : Process}
    {entries running : List Process}
    (htargeted : Targeted currentPid entry) (hnew : entry.pid ∉ entries.map (·.pid))
    (hsame : ∀ p ∈ running, p.pid = entry.pid → p = entry) (keep : Process → Bool) :
    (metEntries exits ((entry :: entries).filter fun p => Targeted currentPid p)).filter
        (fun p => decide (p ∈ running) && keep p) =
      (if entry ∈ running ∧ keep entry = true then [entry] else []) ++
        (metEntries exits (entries.filter fun p => Targeted currentPid p)).filter
          (fun p => decide (p ∈ leftAfter access exits entry running) && keep p) := by
  have hrest : ((metEntries exits (entries.filter fun p => Targeted currentPid p)).filter
      fun p => p.pid ∉ exits entry.pid).filter (fun p => decide (p ∈ running) && keep p) =
      (metEntries exits (entries.filter fun p => Targeted currentPid p)).filter
        (fun p => decide (p ∈ leftAfter access exits entry running) && keep p) := by
    rw [List.filter_filter]
    apply List.filter_congr
    intro p hp
    have hmem : p ∈ entries := (List.mem_filter.mp (mem_of_mem_metEntries hp)).1
    have hne : p.pid ≠ entry.pid := fun h => hnew (h ▸ List.mem_map_of_mem hmem)
    have hleft : p ∈ leftAfter access exits entry running ↔ _ := mem_leftAfter htargeted hsame hne
    by_cases hkeep : keep p
    · simp [hleft, hkeep]
    · simp [hkeep]
  rw [List.filter_cons_of_pos (by simpa using htargeted), metEntries, List.filter_cons, hrest]
  by_cases hhead : entry ∈ running ∧ keep entry = true
  · simp [hhead.1, hhead.2]
  · rw [if_neg hhead, if_neg (by simpa using hhead)]
    rfl

/-- Every call for an entry of a snapshot finds what the one before left. -/
structure Snapshot (entries running : List Process) : Prop where
  pid_nodup : (entries.map (·.pid)).Nodup
  same : ∀ entry ∈ entries, ∀ p ∈ running, p.pid = entry.pid → p = entry

theorem Snapshot.head {entry : Process} {entries running : List Process}
    (h : Snapshot (entry :: entries) running) : ∀ p ∈ running, p.pid = entry.pid → p = entry :=
  h.same entry List.mem_cons_self

theorem Snapshot.tail {entry : Process} {entries running running' : List Process}
    (h : Snapshot (entry :: entries) running) (hsub : ∀ p ∈ running', p ∈ running) :
    Snapshot entries running' where
  pid_nodup := (List.nodup_cons.mp h.pid_nodup).2
  same entry' hentry' p hp := h.same entry' (List.mem_cons_of_mem _ hentry') p (hsub p hp)

theorem Snapshot.leftAfter (access : ProcessAccess) (exits : UInt32 → List UInt32)
    {entry : Process} {entries running : List Process} (h : Snapshot (entry :: entries) running)
    (htargeted : Targeted currentPid entry) :
    Snapshot entries (leftAfter access exits entry running) :=
  h.tail fun _ hp => mem_of_mem_leftAfter htargeted h.head hp

/-- The loop records the entries that it opens and that give a path. -/
theorem backups_terminateEntriesAmid {entries running : List Process}
    (h : Snapshot entries running) :
    (terminateEntriesAmid access exits currentPid entries running).1 =
      ((metEntries exits (entries.filter fun p => Targeted currentPid p)).filter
        fun p => decide (p ∈ running) && access.opens p.pid).filterMap Process.backup := by
  induction entries generalizing running with
  | nil => rfl
  | cons entry entries ih =>
    rw [terminateEntriesAmid]
    by_cases htargeted : Targeted currentPid entry
    · have hnew := (List.nodup_cons.mp h.pid_nodup).1
      rw [if_pos htargeted, filter_metEntries_cons access htargeted hnew h.head,
        List.filterMap_append, ← ih (h.leftAfter access exits htargeted), leftAfter,
        terminateProcessGracefully_targeted htargeted h.head]
      by_cases hopened : entry ∈ running ∧ access.opens entry.pid = true
      · simp only [if_pos hopened]
        cases hbackup : entry.backup with
        | none => simp [hbackup]
        | some backup => simp [hbackup]
      · simp [if_neg hopened]
    · rw [if_neg htargeted, List.filter_cons_of_neg (by simpa using htargeted)]
      exact ih (h.tail fun _ hp => hp)

/-- A call ends the process of its entry, if it is opened and closes. -/
theorem mem_ended {entry p : Process} {running : List Process} (h : Targeted currentPid entry)
    (hsame : ∀ p ∈ running, p.pid = entry.pid → p = entry) :
    p ∈ running.filter (fun p =>
        p ∉ (terminateProcessGracefully access entry.pid entry.name running).2) ↔
      p = entry ∧ entry ∈ running ∧ access.opens p.pid = true ∧ access.closes p.pid = true := by
  rw [List.mem_filter, decide_eq_true_iff, terminateProcessGracefully_targeted h hsame]
  constructor
  · intro hended
    obtain ⟨hp, hgone⟩ := hended
    by_cases hopened : entry ∈ running ∧ access.opens entry.pid = true
    · by_cases hcloses : access.closes entry.pid = true
      · simp only [if_pos hopened, if_pos hcloses, List.mem_filter, hp, true_and, ne_eq,
          decide_eq_true_iff, not_not] at hgone
        have heq : p = entry := hsame p hp hgone
        rw [heq]
        exact ⟨rfl, hopened.1, hopened.2, hcloses⟩
      · simp only [if_pos hopened, if_neg hcloses] at hgone
        exact absurd hp hgone
    · simp only [if_neg hopened] at hgone
      exact absurd hp hgone
  · intro hended
    obtain ⟨rfl, hmem, hopens, hcloses⟩ := hended
    refine ⟨hmem, ?_⟩
    simp [hmem, hopens, hcloses]

/-- The loop ends the entries that it opens and that close. -/
theorem mem_terminatedProcesses {entries running : List Process} (h : Snapshot entries running)
    {p : Process} : p ∈ terminatedProcesses access exits currentPid entries running ↔
      p ∈ (metEntries exits (entries.filter fun p => Targeted currentPid p)).filter
        fun p => decide (p ∈ running) && (access.opens p.pid && access.closes p.pid) := by
  induction entries generalizing running with
  | nil => exact Iff.rfl
  | cons entry entries ih =>
    rw [terminatedProcesses]
    by_cases htargeted : Targeted currentPid entry
    · have hnew := (List.nodup_cons.mp h.pid_nodup).1
      have hhead : p ∈ (if entry ∈ running ∧
          (access.opens entry.pid && access.closes entry.pid) = true then [entry] else []) ↔
            p = entry ∧ entry ∈ running ∧ access.opens p.pid = true ∧
              access.closes p.pid = true := by
        rw [List.mem_ite_nil_right, List.mem_singleton, Bool.and_eq_true]
        exact ⟨fun h => ⟨h.2, h.1.1, h.2 ▸ h.1.2⟩, fun h => ⟨⟨h.2.1, h.1 ▸ h.2.2⟩, h.1⟩⟩
      rw [if_pos htargeted, filter_metEntries_cons access htargeted hnew h.head, List.mem_append,
        List.mem_append, ← ih (h.leftAfter access exits htargeted), hhead,
        mem_ended htargeted h.head]
      rfl
    · rw [if_neg htargeted, List.filter_cons_of_neg (by simpa using htargeted)]
      exact ih (h.tail fun _ hp => hp)

/-! ### Whole sweeps -/

namespace ProcessTable

variable (t : ProcessTable)

theorem snapshot : Snapshot t.running t.running where
  pid_nodup := t.pid_nodup
  same _ hentry _ hp hpid := List.inj_on_of_nodup_map t.pid_nodup hp hentry hpid

theorem openedEntries_eq : openedEntries access exits currentPid t.running =
    (metEntries exits (t.running.filter fun p => Targeted currentPid p)).filter
      fun p => decide (p ∈ t.running) && access.opens p.pid := by
  apply List.filter_congr
  intro p hp
  have hmem : p ∈ t.running := (List.mem_filter.mp (mem_of_mem_metEntries hp)).1
  simp [hmem]

theorem mem_of_mem_openedEntries {p : Process}
    (h : p ∈ openedEntries access exits currentPid t.running) : p ∈ t.running :=
  (List.mem_filter.mp (mem_of_mem_metEntries (List.mem_filter.mp h).1)).1

theorem paths_of_subset {entries : List Process} (h : ∀ p ∈ entries, p ∈ t.running) :
    (entries.filterMap Process.backup).map (·.executablePath) =
      (entries.filter (·.imagePath.isSome)).map fun p => t.executable p.pid := by
  induction entries with
  | nil => rfl
  | cons p entries ih =>
    have hrest := ih fun q hq => h q (List.mem_cons_of_mem _ hq)
    cases hpath : p.imagePath with
    | none =>
      have hbackup : p.backup = none := by rw [Process.backup, hpath, Option.map_none]
      rw [List.filterMap_cons_none hbackup, List.filter_cons_of_neg (by simp [hpath]), hrest]
    | some path =>
      have hbackup : p.backup = some ⟨p.name, path, none⟩ := by
        rw [Process.backup, hpath, Option.map_some]
      rw [List.filterMap_cons_some hbackup, List.filter_cons_of_pos (by simp [hpath]),
        List.map_cons, List.map_cons, hrest, t.imagePath_eq p (h p List.mem_cons_self) path hpath]

/-- The paths that are recorded are those of the executables of the processes that give one. -/
theorem paths_eq : (terminateEntriesAmid access exits currentPid t.running t.running).1.map
      (·.executablePath) =
    ((openedEntries access exits currentPid t.running).filter (·.imagePath.isSome)).map
      fun p => t.executable p.pid := by
  rw [backups_terminateEntriesAmid t.snapshot, ← t.openedEntries_eq]
  exact t.paths_of_subset fun _ hp => t.mem_of_mem_openedEntries hp

theorem nodup_openedEntries : (openedEntries access exits currentPid t.running).Nodup := by
  have hsub : (openedEntries access exits currentPid t.running).Sublist t.running :=
    List.filter_sublist.trans ((metEntries_sublist exits _).trans List.filter_sublist)
  exact hsub.nodup (List.Nodup.of_map _ t.pid_nodup)

theorem mem_terminated_iff {p : Process} :
    p ∈ terminatedProcesses access exits currentPid t.running t.running ↔
      p ∈ openedEntries access exits currentPid t.running ∧ access.closes p.pid = true := by
  rw [mem_terminatedProcesses t.snapshot, t.openedEntries_eq, List.mem_filter, List.mem_filter]
  simp [and_assoc]

/-- **The backups describe the closed applications**, each once, just if every process that ends
shares its executable with an opened one that gives its path, and no two opened ones that give their
paths run the same executable. -/
theorem describes_iff (access : ProcessAccess) (exits : UInt32 → List UInt32)
    (currentPid : UInt32) : t.Describes access exits currentPid ↔ (access.snapshot = .ok () →
      (∀ p ∈ openedEntries access exits currentPid t.running, access.closes p.pid = true →
        ∃ q ∈ openedEntries access exits currentPid t.running,
          q.imagePath.isSome = true ∧ t.executable q.pid = t.executable p.pid) ∧
      ∀ p ∈ openedEntries access exits currentPid t.running,
        ∀ q ∈ openedEntries access exits currentPid t.running,
          p.imagePath.isSome = true → q.imagePath.isSome = true →
          t.executable p.pid = t.executable q.pid → p = q) := by
  have hpaths : ∀ path, path ∈ (terminateEntriesAmid access exits currentPid t.running
      t.running).1.map (·.executablePath) ↔
      ∃ q ∈ openedEntries access exits currentPid t.running,
        q.imagePath.isSome = true ∧ t.executable q.pid = path := by
    intro path
    rw [t.paths_eq, List.mem_map]
    simp only [List.mem_filter, and_assoc]
  have hnodup : ((terminateEntriesAmid access exits currentPid t.running t.running).1.map
      (·.executablePath)).Nodup ↔ ∀ p ∈ openedEntries access exits currentPid t.running,
        ∀ q ∈ openedEntries access exits currentPid t.running,
          p.imagePath.isSome = true → q.imagePath.isSome = true →
          t.executable p.pid = t.executable q.pid → p = q := by
    rw [t.paths_eq, List.nodup_map_iff_inj_on (t.nodup_openedEntries.filter _)]
    simp only [List.mem_filter, and_imp]
    exact ⟨fun h p hp q hq hpsome hqsome => h p hp hpsome q hq hqsome,
      fun h p hp hpsome q hq hqsome => h p hp q hq hpsome hqsome⟩
  rw [Describes, terminateTier2Amid]
  cases access.snapshot with
  | error e => simp
  | ok =>
    have hdescribes : ∀ Q : List TerminatedAppBackup → Prop, (∀ backups left,
        (terminateEntriesAmid access exits currentPid t.running t.running).1 = backups →
        (terminateEntriesAmid access exits currentPid t.running t.running).2 = left →
        Q backups) ↔ Q (terminateEntriesAmid access exits currentPid t.running t.running).1 :=
      fun Q => ⟨fun h => h _ _ rfl rfl, fun h backups left hbackups _ => hbackups ▸ h⟩
    simp only [Prod.mk.injEq, Except.ok.injEq, and_imp, forall_true_left]
    rw [hdescribes, hnodup]
    simp only [hpaths, t.mem_terminated_iff, and_imp]

end ProcessTable

/-- A browser of two processes. -/
def ProcessTable.browser : ProcessTable where
  running := [⟨8, "chrome.exe", some "C:\\chrome.exe"⟩, ⟨12, "chrome.exe", some "C:\\chrome.exe"⟩]
  executable := fun _ => "C:\\chrome.exe"
  pid_nodup := by decide
  imagePath_eq := by decide

/-- **Counterexample.**  Both processes of the browser are recorded, so it is started twice. -/
theorem browser_recorded_twice : ¬ ProcessTable.browser.Describes
    ⟨.ok (), fun _ => true, fun _ => true⟩ (fun _ => []) 4 := by
  intro h
  have hbackups : terminateTier2Amid ⟨.ok (), fun _ => true, fun _ => true⟩ (fun _ => []) 4
      ProcessTable.browser.running = (.ok [⟨"chrome.exe", "C:\\chrome.exe", none⟩,
        ⟨"chrome.exe", "C:\\chrome.exe", none⟩], []) := by decide +kernel
  obtain ⟨-, hnodup⟩ := h _ _ hbackups
  exact absurd hnodup (by decide)

end ValOpt
