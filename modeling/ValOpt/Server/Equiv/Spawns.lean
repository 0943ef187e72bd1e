import ValOpt.Process.Equiv.RelaunchPath
import ValOpt.Server.Spawns

/-!
# Whose token the created processes have

A relaunch creates a process with the token of the daemon just if it does not find itself elevated,
or finds no token of the interactive user, and the direct spawn succeeds (`spawnsAsUser_relaunch`).
A launch does so where the spawn under the user's token is not made or fails, by the direct spawn or
by the protocol (`spawnsAsUser_launch`).  So no process inherits the elevated token in a run of
operations just if none of them falls back (`spawnsAsUser_iff_deescalates`).
-/

namespace ValOpt

variable {l : LauncherAnswers} {a : RelaunchAnswers} {app : TerminatedAppBackup}

/-! ### The statement -/

/-- Each process runs under the token of the interactive user. -/
def SpawnsAsUser (spawned : List SpawnedProcess) : Prop :=
  ∀ p ∈ spawned, p.token = .interactiveUser

/-- The relaunch finds the own elevation and a token of the user, or its direct spawn fails. -/
def RelaunchAnswers.Deescalates (a : RelaunchAnswers) (app : TerminatedAppBackup) : Prop :=
  ∀ validPath, validateRelaunchPath a.files app.executablePath = .ok validPath →
    (a.openOwnToken = true ∧ a.queryElevation = true ∧
      (getInteractiveUserToken a.tokens).isSome = true) ∨
    ∃ e, a.spawn validPath = .error e

/-- The protocol is not registered, or its dispatch fails. -/
def LauncherAnswers.UriFails (l : LauncherAnswers) : Prop :=
  l.uriRegistered = true → l.shellExecute ≤ 32

/-- The client is started under the token of the user, or neither directly nor by the protocol. -/
def LauncherAnswers.Deescalates (l : LauncherAnswers) (riotExe : Option String) : Prop :=
  (∃ exe pid, riotExe = some exe ∧ l.isElevated = true ∧ l.spawnAsUser exe = some (.ok pid)) ∨
  ((∀ exe, riotExe = some exe → ∃ e, l.spawn exe = .error e) ∧ l.UriFails)

/-- The operation does not fall back to a spawn under the own token. -/
def SpawnOperation.Deescalates : SpawnOperation → Prop
  | relaunch backups => ∀ b ∈ backups, b.2.Deescalates b.1
  | launch l access running =>
    findProcessWithPath access running valorantBinaryName = none →
      ∀ riotExe, l.findRiotClientExecutable = some riotExe → l.Deescalates riotExe

/-! ### Relaunches -/

theorem SpawnsAsUser.append {xs ys : List SpawnedProcess} :
    SpawnsAsUser (xs ++ ys) ↔ SpawnsAsUser xs ∧ SpawnsAsUser ys := List.forall_mem_append

@[simp] theorem spawnsAsUser_nil : SpawnsAsUser [] := fun _ h => nomatch h

theorem spawnsAsUser_singleton {program : String} {arguments : Option String}
    {token : ProcessToken} :
    SpawnsAsUser [⟨program, arguments, token⟩] ↔ token = .interactiveUser := by
  simp [SpawnsAsUser]

/-- One relaunch. -/
theorem spawnsAsUser_relaunchSingleApplication :
    SpawnsAsUser (relaunchSingleApplication true a app).2 ↔ a.Deescalates app := by
  rw [relaunchSingleApplication, RelaunchAnswers.Deescalates, isCurrentProcessElevated,
    Bool.and_true]
  cases validateRelaunchPath a.files app.executablePath with
  | error e => simp
  | ok validPath =>
    simp only [Except.ok.injEq, forall_eq']
    have hdirect : SpawnsAsUser (spawnDirectly a app validPath).2 ↔
        ∃ e, a.spawn validPath = .error e := by
      rw [spawnDirectly]
      cases a.spawn validPath <;> simp [spawnsAsUser_singleton]
    split
    next helevated =>
      obtain ⟨hopen, hquery⟩ := Bool.and_eq_true_iff.mp helevated
      cases htoken : getInteractiveUserToken a.tokens with
      | some userToken =>
        apply iff_of_true _ (Or.inl ⟨hopen, hquery, rfl⟩)
        dsimp only
        cases a.spawnAsUser userToken validPath <;> simp [spawnsAsUser_singleton]
      | none =>
        rw [or_iff_right fun h => Bool.noConfusion h.2.2]
        exact hdirect
    next hnot =>
      have hfails : ¬ (a.openOwnToken = true ∧ a.queryElevation = true ∧
          (getInteractiveUserToken a.tokens).isSome = true) := by
        rintro ⟨hopen, hquery, -⟩
        exact hnot (Bool.and_eq_true_iff.mpr ⟨hopen, hquery⟩)
      rw [or_iff_right hfails]
      exact hdirect

/-- The relaunches of a list of backups. -/
theorem spawnsAsUser_relaunch (backups : List (TerminatedAppBackup × RelaunchAnswers)) :
    SpawnsAsUser (relaunchApplications true backups).2 ↔ ∀ b ∈ backups, b.2.Deescalates b.1 := by
  induction backups with
  | nil => simp [relaunchApplications]
  | cons b backups ih =>
    obtain ⟨app, a⟩ := b
    have hcons : (relaunchApplications true ((app, a) :: backups)).2 =
        (relaunchSingleApplication true a app).2 ++ (relaunchApplications true backups).2 := rfl
    rw [hcons, SpawnsAsUser.append, spawnsAsUser_relaunchSingleApplication, ih,
      List.forall_mem_cons]

/-! ### Launches -/

theorem spawnsAsUser_uriSpawned : SpawnsAsUser l.uriSpawned ↔ l.UriFails := by
  rw [LauncherAnswers.uriSpawned, LauncherAnswers.UriFails]
  cases l.uriRegistered with
  | false => simp
  | true =>
    by_cases h : 32 < l.shellExecute
    · rw [if_pos rfl, if_pos h, spawnsAsUser_singleton]
      exact iff_of_false (fun h => nomatch h) fun hle => absurd (hle rfl) (by omega)
    · rw [if_pos rfl, if_neg h]
      exact iff_of_true spawnsAsUser_nil fun _ => by omega

/-- The direct spawn of the client. -/
theorem spawnsAsUser_directSpawned (exe : String) :
    SpawnsAsUser (l.directSpawned exe) ↔ (∃ e, l.spawn exe = .error e) ∧ l.UriFails := by
  rw [LauncherAnswers.directSpawned]
  cases l.spawn exe with
  | ok pid => simp [spawnsAsUser_singleton]
  | error e => simp [spawnsAsUser_uriSpawned]

/-- The launch of the client. -/
theorem spawnsAsUser_clientSpawned (riotExe : Option String) :
    SpawnsAsUser (l.clientSpawned riotExe) ↔ l.Deescalates riotExe := by
  cases riotExe with
  | none =>
    show SpawnsAsUser l.uriSpawned ↔ _
    simp [spawnsAsUser_uriSpawned, LauncherAnswers.Deescalates]
  | some exe =>
    have hfallback : SpawnsAsUser (l.directSpawned exe) ↔
        (∀ exe', some exe = some exe' → ∃ e, l.spawn exe' = .error e) ∧ l.UriFails := by
      rw [spawnsAsUser_directSpawned]
      simp
    -- What the spawn under the token of the user comes to.
    by_cases huser : l.isElevated = true ∧ ∃ pid, l.spawnAsUser exe = some (.ok pid)
    · obtain ⟨helevated, pid, hpid⟩ := huser
      have hspawned : l.clientSpawned (some exe) =
          [⟨exe, some LauncherAnswers.launchArguments, .interactiveUser⟩] := by
        simp [LauncherAnswers.clientSpawned, helevated, hpid]
      rw [hspawned]
      exact iff_of_true (spawnsAsUser_singleton.mpr rfl) (Or.inl ⟨exe, pid, rfl, helevated, hpid⟩)
    · have hspawned : l.clientSpawned (some exe) = l.directSpawned exe := by
        show (if l.isElevated then _ else _) = _
        split
        next helevated =>
          split
          next pid hpid => exact absurd ⟨helevated, pid, hpid⟩ huser
          next => rfl
        next => rfl
      rw [hspawned, hfallback, LauncherAnswers.Deescalates, or_iff_right]
      rintro ⟨exe', pid, heq, helevated, hpid⟩
      rw [← Option.some.inj heq] at hpid
      exact huser ⟨helevated, pid, hpid⟩

/-- The launch of the game. -/
theorem spawnsAsUser_launch (access : ProcessAccess) (running : List Process) :
    SpawnsAsUser (l.launchSpawned access running) ↔
      (SpawnOperation.launch l access running).Deescalates := by
  rw [LauncherAnswers.launchSpawned, SpawnOperation.Deescalates]
  cases findProcessWithPath access running valorantBinaryName with
  | some found => simp
  | none =>
    cases l.findRiotClientExecutable with
    | none => simp
    | some riotExe => simp [spawnsAsUser_clientSpawned]

/-- A launch reports success just if it created a process. -/
theorem isOk_launchClient_iff (riotExe : Option String) :
    (l.launchClient riotExe).isOk = true ↔ l.clientSpawned riotExe ≠ [] := by
  have huri : l.launchUri.isOk = true ↔ l.uriSpawned ≠ [] := by
    rw [LauncherAnswers.launchUri, LauncherAnswers.uriSpawned]
    split
    · split <;> simp [Except.isOk, Except.toBool]
    · simp [Except.isOk, Except.toBool]
  cases riotExe with
  | none => exact huri
  | some exe =>
    rw [LauncherAnswers.launchClient]
    show _ ↔ (if l.isElevated then _ else _) ≠ []
    dsimp only
    rw [LauncherAnswers.directSpawned]
    -- whatever the user's own process does, a direct one that starts settles it
    cases l.spawn exe with
    | ok pid =>
      split
      · cases l.spawnAsUser exe with
        | none => simp [Except.isOk, Except.toBool]
        | some result => cases result <;> simp [Except.isOk, Except.toBool]
      · simp [Except.isOk, Except.toBool]
    | error e =>
      split
      · cases l.spawnAsUser exe with
        | none => exact huri
        | some result =>
          cases result with
          | ok pid => simp [Except.isOk, Except.toBool]
          | error e => exact huri
      · exact huri

/-! ### Runs -/

/-- In a run of relaunches and launches of an elevated daemon, no process inherits its token just if
no operation falls back to a spawn of its own. -/
theorem spawnsAsUser_iff_deescalates (operations : List SpawnOperation) :
    SpawnsAsUser (operations.flatMap SpawnOperation.spawned) ↔
      ∀ operation ∈ operations, operation.Deescalates := by
  have hone : ∀ operation : SpawnOperation,
      SpawnsAsUser operation.spawned ↔ operation.Deescalates := by
    intro operation
    cases operation with
    | relaunch backups => exact spawnsAsUser_relaunch backups
    | launch l access running => exact spawnsAsUser_launch access running
  induction operations with
  | nil => simp
  | cons operation operations ih =>
    rw [List.flatMap_cons, List.forall_mem_cons]
    exact SpawnsAsUser.append.trans (and_congr (hone operation) ih)

/-- A relaunch while nobody is logged on at the console. -/
def noConsole : RelaunchAnswers where
  files := mappedFiles
  openOwnToken := true
  queryElevation := true
  tokens := ⟨0xFFFFFFFF, false, none, fun _ => none, fun _ => false, fun _ => false, fun _ => false⟩
  spawnAsUser := fun _ _ => .error "No token"
  spawn := fun _ => .ok 4711

/-- A launch whose spawn under the token of the user fails. -/
def deniedClient : LauncherAnswers :=
  { LauncherAnswers.absent with
    installs := fun _ => some "C:\\Riot Games\\Riot Client\\RiotClientServices.exe"
    isFile := fun _ => true
    isElevated := true
    spawnAsUser := fun _ => some (.error "A required privilege is not held by the client.")
    spawn := fun _ => .ok 4712 }

/-- Both create a process with the elevated token. -/
theorem spawned_with_elevated_token :
    ¬ SpawnsAsUser ([SpawnOperation.relaunch
      [(⟨"steam.exe", "C:\\steam.exe", none⟩, noConsole)]].flatMap SpawnOperation.spawned) ∧
    ¬ SpawnsAsUser ([SpawnOperation.launch deniedClient ⟨.ok (), fun _ => true, fun _ => true⟩
      []].flatMap SpawnOperation.spawned) := by
  have hrelaunch : (relaunchApplications true [(⟨"steam.exe", "C:\\steam.exe", none⟩, noConsole)]).2 =
      [⟨"C:\\steam.exe", none, .caller⟩] := by decide +kernel
  constructor
  · rw [List.flatMap_cons, List.flatMap_nil, List.append_nil]
    show ¬ SpawnsAsUser (relaunchApplications true _).2
    rw [hrelaunch, spawnsAsUser_singleton]
    exact fun h => nomatch h
  · show ¬ SpawnsAsUser [⟨_, _, .caller⟩]
    rw [spawnsAsUser_singleton]
    exact fun h => nomatch h

end ValOpt
