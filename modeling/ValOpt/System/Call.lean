import ValOpt.Effect.Logic
import ValOpt.System.Machine

/-!
# The calls the optimizer makes

`Call` names every operating system call of the modelled programs, so that an environment can decide
each of them on its own.  A call inside a loop carries the item it is made for; `ℕ` counts the items
of one list, a `String` is the identifier of an endpoint.  `Ambient` is what a program reads from
the system besides its settings.
-/

namespace ValOpt

open Effect

/-- The operation on the snapshot store that a path is validated for; `guard` is the check that a
command makes before its operation. -/
inductive StoreOperation where
  | guard
  | recover
  | load
  | save
  | delete
  deriving DecidableEq, Repr

inductive Call where
  -- Game Mode registry values
  | openGameBar
  | queryAllowAutoGameMode
  | createGameBar
  | setAllowAutoGameMode
  | setAutoGameModeEnabled
  -- power schemes
  | getSystemPowerStatus
  | getActiveScheme
  | setActiveScheme (g : Guid)
  -- audio endpoints, by index while enumerating, by identifier when changed
  | openRender
  | enumRender (index : ℕ)
  | openProperties (id : String)
  | queryFriendlyName (id : String)
  | openFxProperties (id : String)
  | queryFx (id : String)
  | createFxProperties (id : String)
  | queryOriginalFx (id : String)
  | setFx (id : String)
  -- audio endpoints, by position in a list of backups
  | reopenFxProperties (index : ℕ)
  | restoreFx (index : ℕ)
  -- network adapters and QoS
  | detectPrimary
  | spawnAdapterQuery
  | queryAdapter
  | parseAdapter
  | elevationOfSet (index : ℕ)
  | spawnAdapterSet (index : ℕ)
  | setAdapter (index : ℕ)
  | queryQosPolicy
  | removeQosPolicy
  | setNla
  -- services, by position in a list of backups
  | openScm (index : ℕ)
  | openService (index : ℕ)
  | startService (index : ℕ)
  -- the transaction file
  | readTransaction
  | writeTransaction
  | removeTransaction
  -- the snapshot store
  | validatePath (op : StoreOperation)
  | createDirAll
  | readKey
  | unprotectKey
  | genRandom
  | protectKey
  | writeKey
  | writeTemp
  | moveFileEx
  | removeTarget
  | renameTemp
  | removeTemp
  | readSnapshot
  | deleteSnapshot
  | zeroKey
  | removeKey
  -- the recovery log
  | appendLog
  deriving DecidableEq, Repr

/-- The programs of the optimizer. -/
abbrev Prog (α : Type) := Eff Call World α

/-- What one program reads from the system besides its settings: the clock, the process identifier
and the random number generators. -/
structure Ambient where
  unixMillis : ℕ
  unixNanos : ℕ
  debugTime : String
  elapsedMillis : ℕ
  pid : ℕ
  random32 : Bytes
  nonce : ℕ
  length_random32 : random32.length = 32

instance : Inhabited Ambient := ⟨⟨0, 0, "", 0, 0, List.replicate 32 0, 0, rfl⟩⟩

/-- A call that looks at the settings. -/
def readMachine {α : Type} (c : Call) (f : Machine → Option α) : Prog (Except String α) :=
  perform c (.read fun w => f w.machine)

/-- A call that changes the settings. -/
def writeMachine (c : Call) (f : Machine → Option Machine) : Prog (Except String Unit) :=
  perform c (.atomic fun w => w.onMachine f)

/-- `fs::read`. -/
def readFile (c : Call) (p : Path) : Prog (Except String Bytes) :=
  perform c (.read fun w => w.files p)

/-- `fs::write`: the file is truncated, then filled byte by byte. -/
def writeFile (c : Call) (p : Path) (b : Bytes) : Prog (Except String Unit) :=
  perform c
    { full := fun w => some ((), w.writeFile p b)
      torn := fun k w => w.tornWrite p b k }

/-- `write_all` to a file that was opened with `create` and `append`. -/
def appendFile (c : Call) (p : Path) (b : Bytes) : Prog (Except String Unit) :=
  perform c
    { full := fun w => some ((), w.appendFile p b)
      torn := fun k w => w.tornAppend p b k }

/-- `fs::remove_file`. -/
def removeFile (c : Call) (p : Path) : Prog (Except String Unit) :=
  perform c (.atomic fun w => (w.files p).map fun _ => w.removeFile p)

/-- `MoveFileExW` with replacement, and `fs::rename`, which is the same call on Windows. -/
def moveFile (c : Call) (src dst : Path) : Prog (Except String Unit) :=
  perform c (.atomic fun w => w.moveFile src dst)

/-- A file call on a path: it is refused where that is a directory. -/
def unlessDirectory {α : Type} (isDir : Bool) (c : Call) (p : Prog (Except String α)) :
    Prog (Except String α) := if isDir then perform c (.read fun _ => none) else p

/-- `Path::is_file`, and `Path::exists` of a path that is no directory; it reports no error. -/
def fileExists (p : Path) : Prog Bool := fun _ w => ⟨.returned (w.files p).isSome w, []⟩

/-- `Path::exists`, once the directory `base` was made. -/
def pathExists (base : List String) (p : Path) : Prog Bool :=
  fun _ w => ⟨.returned (w.pathExists base p) w, []⟩

/-- `Path::is_dir`, once the directory `base` was made. -/
def isDirectory (base : List String) (p : Path) : Prog Bool :=
  fun _ w => ⟨.returned (w.isDirectory base p) w, []⟩

/-- The state as it is, for the environment variables the program reads. -/
def getWorld : Prog World := fun _ w => ⟨.returned w w, []⟩

@[simp] theorem unlessDirectory_false {α : Type} (c : Call) (p : Prog (Except String α)) :
    unlessDirectory false c p = p := rfl
@[simp] theorem unlessDirectory_true {α : Type} (c : Call) (p : Prog (Except String α)) :
    unlessDirectory true c p = perform c (.read fun _ => none) := rfl

section Run

variable {env : Env Call} {w : World} {c : Call} {p src dst : Path} {b : Bytes}
  {base : List String}

@[simp] theorem run_fileExists : (fileExists p).run env w = .returned (w.files p).isSome w := rfl
@[simp] theorem trace_fileExists : (fileExists p).trace env w = [] := rfl
@[simp] theorem run_pathExists :
    (pathExists base p).run env w = .returned (w.pathExists base p) w := rfl
@[simp] theorem trace_pathExists : (pathExists base p).trace env w = [] := rfl
@[simp] theorem run_isDirectory :
    (isDirectory base p).run env w = .returned (w.isDirectory base p) w := rfl
@[simp] theorem trace_isDirectory : (isDirectory base p).trace env w = [] := rfl
@[simp] theorem run_getWorld : getWorld.run env w = .returned w w := rfl
@[simp] theorem trace_getWorld : getWorld.trace env w = [] := rfl

theorem run_readMachine {α : Type} {f : Machine → Option α} {a : α} (h : env.outcome c = .ok)
    (hf : f w.machine = some a) : (readMachine c f).run env w = .returned (.ok a) w :=
  run_perform_ok h (by simp [hf])

theorem run_readMachine_none {α : Type} {f : Machine → Option α} (h : env.outcome c = .ok)
    (hf : f w.machine = none) :
    (readMachine c f).run env w = .returned (.error (env.errorText c)) w :=
  run_perform_refused h (by simp [hf])

theorem run_writeMachine {f : Machine → Option Machine} {m : Machine} (h : env.outcome c = .ok)
    (hf : f w.machine = some m) :
    (writeMachine c f).run env w = .returned (.ok ()) { w with machine := m } :=
  run_perform_ok h (by simp [World.onMachine, hf])

theorem run_writeMachine_none {f : Machine → Option Machine} (h : env.outcome c = .ok)
    (hf : f w.machine = none) :
    (writeMachine c f).run env w = .returned (.error (env.errorText c)) w :=
  run_perform_refused h (by simp [World.onMachine, hf])

theorem run_readFile (h : env.outcome c = .ok) (hf : w.files p = some b) :
    (readFile c p).run env w = .returned (.ok b) w :=
  run_perform_ok h (by simp [hf])

theorem run_writeFile (h : env.outcome c = .ok) :
    (writeFile c p b).run env w = .returned (.ok ()) (w.writeFile p b) :=
  run_perform_ok h rfl

theorem run_removeFile (h : env.outcome c = .ok) (hf : (w.files p).isSome) :
    (removeFile c p).run env w = .returned (.ok ()) (w.removeFile p) := by
  obtain ⟨b, hb⟩ := Option.isSome_iff_exists.mp hf
  exact run_perform_ok h (by simp [hb])

theorem run_moveFile (h : env.outcome c = .ok) (hf : w.files src = some b) :
    (moveFile c src dst).run env w = .returned (.ok ()) ((w.removeFile src).writeFile dst b) :=
  run_perform_ok h (by simp [World.moveFile, hf])

/-! Without disturbance a call does what the state allows. -/

variable {text : Call → String}

@[simp] theorem run_readMachine_faultless {α : Type} {f : Machine → Option α} :
    (readMachine c f).run (.faultless text) w = match f w.machine with
      | some a => .returned (.ok a) w
      | none => .returned (.error (text c)) w := by
  cases hf : f w.machine with
  | some a => exact run_readMachine rfl hf
  | none => exact run_readMachine_none rfl hf

@[simp] theorem run_writeMachine_faultless {f : Machine → Option Machine} :
    (writeMachine c f).run (.faultless text) w = match f w.machine with
      | some m => .returned (.ok ()) { w with machine := m }
      | none => .returned (.error (text c)) w := by
  cases hf : f w.machine with
  | some m => exact run_writeMachine rfl hf
  | none => exact run_writeMachine_none rfl hf

@[simp] theorem run_readFile_faultless : (readFile c p).run (.faultless text) w =
    match w.files p with
      | some b => .returned (.ok b) w
      | none => .returned (.error (text c)) w := by
  cases hf : w.files p with
  | some b => exact run_readFile rfl hf
  | none => exact run_perform_refused rfl (by simp [hf])

@[simp] theorem run_writeFile_faultless :
    (writeFile c p b).run (.faultless text) w = .returned (.ok ()) (w.writeFile p b) :=
  run_writeFile rfl

@[simp] theorem run_removeFile_faultless : (removeFile c p).run (.faultless text) w =
    match w.files p with
      | some _ => .returned (.ok ()) (w.removeFile p)
      | none => .returned (.error (text c)) w := by
  cases hf : w.files p with
  | some b => exact run_removeFile rfl (by simp [hf])
  | none => exact run_perform_refused rfl (by simp [hf])

@[simp] theorem run_moveFile_faultless : (moveFile c src dst).run (.faultless text) w =
    match w.files src with
      | some b => .returned (.ok ()) ((w.removeFile src).writeFile dst b)
      | none => .returned (.error (text c)) w := by
  cases hf : w.files src with
  | some b => exact run_moveFile rfl hf
  | none => exact run_perform_refused rfl (by simp [World.moveFile, hf])

end Run

/-! ### Rules for the calls -/

section Rules

variable {env : Env Call} {w : World} {c : Call} {p src dst : Path} {b : Bytes} {I : World → Prop}
  {C : World → Prop}

/-- A call that looks at the settings leaves them, whatever becomes of it. -/
theorem holds_readMachine {α : Type} {f : Machine → Option α} {Q : Except String α → World → Prop}
    (hQ : ∀ r, (∀ a, r = .ok a → env.outcome c = .ok ∧ f w.machine = some a) → Q r w)
    (hC : ∀ k, env.outcome c = .crash k → C w) :
    ((readMachine c f).run env w).Holds Q C := holds_read hQ hC

/-- A call that changes the settings carries the change out, or leaves them. -/
theorem holds_writeMachine {f : Machine → Option Machine} {Q : Except String Unit → World → Prop}
    (hok : ∀ m, env.outcome c = .ok → f w.machine = some m → Q (.ok ()) { w with machine := m })
    (hno : ¬ (env.outcome c = .ok ∧ (f w.machine).isSome) → Q (.error (env.errorText c)) w)
    (hC : ∀ k, env.outcome c = .crash k → C w) :
    ((writeMachine c f).run env w).Holds Q C := by
  apply holds_atomic _ _ hC
  · intro w' ho h
    obtain ⟨m, hm, rfl⟩ := Option.map_eq_some_iff.mp h
    exact hok m ho hm
  · rintro (⟨-, h⟩ | ⟨k, hk⟩)
    · exact hno (by simp [Option.map_eq_none_iff.mp h])
    · exact hno (by simp [hk])

/-- What is known of a look at the settings in any environment. -/
theorem holds_readMachine_ok {α : Type} {f : Machine → Option α} :
    ((readMachine c f).run env w).Holds
      (fun r w' => w' = w ∧ ∀ a, r = .ok a → env.outcome c = .ok) (fun w' => w' = w) :=
  holds_readMachine (fun _ h => ⟨rfl, fun a ha => (h a ha).1⟩) fun _ _ => rfl

/-- Reading a file returns what it holds, if anything. -/
theorem holds_readFile {Q : Except String Bytes → World → Prop}
    (hQ : ∀ r, (∀ b, r = .ok b → env.outcome c = .ok ∧ w.files p = some b) → Q r w)
    (hC : ∀ k, env.outcome c = .crash k → C w) : ((readFile c p).run env w).Holds Q C :=
  holds_read hQ hC

/-- What is known of reading a file in any environment. -/
theorem holds_readFile_ok : ((readFile c p).run env w).Holds
    (fun r w' => w' = w ∧ ∀ b, r = .ok b → env.outcome c = .ok) (fun w' => w' = w) :=
  holds_readFile (fun _ h => ⟨rfl, fun b hb => (h b hb).1⟩) fun _ _ => rfl

theorem holds_writeFile {Q : Except String Unit → World → Prop}
    (hok : env.outcome c = .ok → Q (.ok ()) (w.writeFile p b))
    (hfail : ∀ k, env.outcome c = .fail k → Q (.error (env.errorText c)) (w.tornWrite p b k))
    (hC : ∀ k, env.outcome c = .crash k → C (w.tornWrite p b k)) :
    ((writeFile c p b).run env w).Holds Q C := by
  refine holds_perform ?_ ?_ hfail hC
  · intro ho a w' h
    simp only [Option.some.injEq, Prod.mk.injEq] at h
    obtain ⟨-, rfl⟩ := h
    exact hok ho
  · rintro - ⟨⟩

theorem holds_appendFile {Q : Except String Unit → World → Prop}
    (hok : Q (.ok ()) (w.appendFile p b))
    (hfail : ∀ k, Q (.error (env.errorText c)) (w.tornAppend p b k))
    (hC : ∀ k, env.outcome c = .crash k → C (w.tornAppend p b k)) :
    ((appendFile c p b).run env w).Holds Q C := by
  refine holds_perform ?_ ?_ (fun k _ => hfail k) hC
  · intro _ a w' h
    simp only [Option.some.injEq, Prod.mk.injEq] at h
    obtain ⟨-, rfl⟩ := h
    exact hok
  · rintro - ⟨⟩

/-- A call on a path is carried out, or refused because of a directory. -/
theorem holds_unlessDirectory {α : Type} {isDir : Bool} {m : Prog (Except String α)}
    {Q : Except String α → World → Prop} (hm : (m.run env w).Holds Q C)
    (hno : Q (.error (env.errorText c)) w) (hC : ∀ k, env.outcome c = .crash k → C w) :
    ((unlessDirectory isDir c m).run env w).Holds Q C := by
  cases isDir with
  | false => exact hm
  | true => exact holds_perform (by rintro - a w' ⟨⟩) (fun _ _ => hno) (fun _ _ => hno) hC

/-- A file is removed, or stays as it is. -/
theorem holds_removeFile {Q : Except String Unit → World → Prop}
    (hok : env.outcome c = .ok → (w.files p).isSome → Q (.ok ()) (w.removeFile p))
    (hno : (env.outcome c = .ok ∧ w.files p = none) ∨ (∃ k, env.outcome c = .fail k) →
      Q (.error (env.errorText c)) w)
    (hC : ∀ k, env.outcome c = .crash k → C w) :
    ((removeFile c p).run env w).Holds Q C := by
  apply holds_atomic _ _ hC
  · intro w' ho h
    obtain ⟨b, hb, rfl⟩ := Option.map_eq_some_iff.mp h
    exact hok ho (by simp [hb])
  · exact fun h => hno (h.imp_left fun ⟨ho, hnone⟩ => ⟨ho, Option.map_eq_none_iff.mp hnone⟩)

/-- A file is moved, or stays where it is. -/
theorem holds_moveFile {Q : Except String Unit → World → Prop}
    (hok : ∀ b, env.outcome c = .ok → w.files src = some b →
      Q (.ok ()) ((w.removeFile src).writeFile dst b))
    (hno : (env.outcome c = .ok ∧ w.files src = none) ∨ (∃ k, env.outcome c = .fail k) →
      Q (.error (env.errorText c)) w)
    (hC : ∀ k, env.outcome c = .crash k → C w) :
    ((moveFile c src dst).run env w).Holds Q C := by
  apply holds_atomic _ _ hC
  · intro w' ho h
    obtain ⟨b, hb, rfl⟩ := Option.map_eq_some_iff.mp h
    exact hok b ho hb
  · exact fun h => hno (h.imp_left fun ⟨ho, hnone⟩ => ⟨ho, Option.map_eq_none_iff.mp hnone⟩)

/-- What becomes of a file that is there to be removed. -/
theorem holds_removeFile_of_isSome (h : (w.files p).isSome) : ((removeFile c p).run env w).Holds
    (fun _ w' => (env.outcome c = .ok ∧ w' = w.removeFile p) ∨
      ((∃ k, env.outcome c = .fail k) ∧ w' = w))
    (fun w' => env.DiesIn c ∧ w' = w) := by
  refine holds_removeFile (fun ho _ => .inl ⟨ho, rfl⟩) ?_ (fun k hk => ⟨⟨k, hk⟩, rfl⟩)
  rintro (⟨-, hnone⟩ | hfail)
  · rw [hnone] at h
    cases h
  · exact .inr ⟨hfail, rfl⟩

/-- What becomes of a file that is there to be moved. -/
theorem holds_moveFile_of_some (h : w.files src = some b) : ((moveFile c src dst).run env w).Holds
    (fun r w' => (r = .ok () ∧ env.outcome c = .ok ∧ w' = (w.removeFile src).writeFile dst b) ∨
      ((∃ e, r = .error e) ∧ (∃ k, env.outcome c = .fail k) ∧ w' = w))
    (fun w' => env.DiesIn c ∧ w' = w) := by
  refine holds_moveFile ?_ ?_ (fun k hk => ⟨⟨k, hk⟩, rfl⟩)
  · intro b' ho hb'
    rw [h] at hb'
    cases hb'
    exact .inl ⟨rfl, ho, rfl⟩
  · rintro (⟨-, hnone⟩ | hfail)
    · rw [h] at hnone
      cases hnone
    · exact .inr ⟨⟨_, rfl⟩, hfail, rfl⟩

/-- A call that reports no error succeeds, or kills the program. -/
theorem follows_readMachine (hfree : env.ErrorFree) {α : Type} {f : Machine → Option α}
    (hC : env.DiesIn c → C w) : Eff.Follows env (readMachine c f) w C :=
  Eff.follows_perform hfree fun k hk => hC ⟨k, hk⟩

theorem follows_writeMachine (hfree : env.ErrorFree) {f : Machine → Option Machine}
    (hC : env.DiesIn c → C w) : Eff.Follows env (writeMachine c f) w C :=
  Eff.follows_perform hfree fun k hk => hC ⟨k, hk⟩

theorem follows_getWorld : Eff.Follows env getWorld w C := rfl

/-- After a look at the settings the state is the old one. -/
theorem state_of_run_readMachine {α : Type} {f : Machine → Option α} {r : Except String α}
    {w' : World} (h : (readMachine c f).run env w = .returned r w') : w' = w :=
  Run.Holds.of_returned (Q := fun _ w' => w' = w) (C := fun _ => True)
    (holds_readMachine (fun _ _ => rfl) (fun _ _ => trivial)) h

theorem preserves_readMachine {α : Type} {f : Machine → Option α} :
    Eff.Preserves env I (readMachine c f) := Eff.preserves_read

theorem preserves_writeMachine {f : Machine → Option Machine}
    (h : ∀ w m, I w → f w.machine = some m → I { w with machine := m }) :
    Eff.Preserves env I (writeMachine c f) := by
  refine Eff.preserves_atomic ?_
  intro w w' hw hf
  simp only [World.onMachine, Option.map_eq_some_iff] at hf
  obtain ⟨m, hm, rfl⟩ := hf
  exact h w m hw hm

theorem preserves_readFile : Eff.Preserves env I (readFile c p) := Eff.preserves_read

theorem preserves_fileExists : Eff.Preserves env I (fileExists p) := fun _ h => h

theorem preserves_pathExists {base : List String} : Eff.Preserves env I (pathExists base p) :=
  fun _ h => h

theorem preserves_isDirectory {base : List String} : Eff.Preserves env I (isDirectory base p) :=
  fun _ h => h

theorem preserves_getWorld : Eff.Preserves env I getWorld := fun _ h => h

/-- A call that is refused keeps everything. -/
theorem preserves_unlessDirectory {α : Type} {m : Prog (Except String α)} {isDir : Bool}
    (h : Eff.Preserves env I m) : Eff.Preserves env I (unlessDirectory isDir c m) := by
  cases isDir with
  | false => exact h
  | true => exact Eff.preserves_read

theorem preserves_writeFile (h : ∀ w b, I w → I (w.writeFile p b)) :
    Eff.Preserves env I (writeFile c p b) := by
  refine Eff.preserves_perform ?_ ?_
  · intro w a w' hw hf
    simp only [Option.some.injEq, Prod.mk.injEq] at hf
    obtain ⟨_, rfl⟩ := hf
    exact h w b hw
  · intro w k hw
    cases k with
    | zero => exact hw
    | succ n => exact h w _ hw

theorem preserves_removeFile (h : ∀ w, I w → I (w.removeFile p)) :
    Eff.Preserves env I (removeFile c p) := by
  refine Eff.preserves_atomic ?_
  intro w w' hw hf
  simp only [Option.map_eq_some_iff] at hf
  obtain ⟨_, _, rfl⟩ := hf
  exact h w hw

theorem preserves_moveFile (h : ∀ w b, I w → I ((w.removeFile src).writeFile dst b)) :
    Eff.Preserves env I (moveFile c src dst) := by
  refine Eff.preserves_atomic ?_
  intro w w' hw hf
  simp only [World.moveFile, Option.map_eq_some_iff] at hf
  obtain ⟨b, _, rfl⟩ := hf
  exact h w b hw

end Rules

end ValOpt
