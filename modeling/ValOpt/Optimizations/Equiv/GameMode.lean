import ValOpt.Optimizations.GameMode

/-!
# What the Game Mode functions do

`setGameMode` leaves both values of the `GameBar` key holding the DWORD of its argument and returns
what `getGameModeState` read before (`run_setGameMode`).  A run that reports an error has at most
made an empty key (`setGameMode_error`), and one that is cut short has at most written the first
value (`follows_setGameMode`).
-/

namespace ValOpt

open Effect

namespace Machine

variable (m : Machine)

/-- Both values of the `GameBar` key hold the DWORD of `b`. -/
def withGameMode (b : Bool) : Machine :=
  { m with gameBar := some ⟨some (if b then 1 else 0), some (if b then 1 else 0)⟩ }

/-- The `AllowAutoGameMode` value, when it is there. -/
def allowAutoGameMode : Option UInt32 := m.gameBar.bind (·.allowAutoGameMode)

/-- The `AutoGameModeEnabled` value, when it is there. -/
def autoGameModeEnabled : Option UInt32 := m.gameBar.bind (·.autoGameModeEnabled)

/-- The state that is read is that of `AllowAutoGameMode`; without a value it is on. -/
theorem gameMode_eq : m.gameMode = (m.allowAutoGameMode.map (· != 0)).getD true := by
  unfold gameMode allowAutoGameMode
  cases m.gameBar with
  | none => rfl
  | some k =>
    rcases k with ⟨_ | v, a⟩ <;> rfl

@[simp] theorem gameMode_withGameMode (b : Bool) : (m.withGameMode b).gameMode = b := by
  cases b <;> rfl

@[simp] theorem allowAutoGameMode_withGameMode (b : Bool) :
    (m.withGameMode b).allowAutoGameMode = some (if b then 1 else 0) := rfl

@[simp] theorem autoGameModeEnabled_withGameMode (b : Bool) :
    (m.withGameMode b).autoGameModeEnabled = some (if b then 1 else 0) := rfl

@[simp] theorem withGameMode_withGameMode (b b' : Bool) :
    (m.withGameMode b).withGameMode b' = m.withGameMode b' := rfl

/-- Opening the key makes no value. -/
@[simp] theorem allowAutoGameMode_createGameBar :
    m.createGameBar.allowAutoGameMode = m.allowAutoGameMode := by
  unfold allowAutoGameMode createGameBar
  cases m.gameBar <;> rfl

@[simp] theorem autoGameModeEnabled_createGameBar :
    m.createGameBar.autoGameModeEnabled = m.autoGameModeEnabled := by
  unfold autoGameModeEnabled createGameBar
  cases m.gameBar <;> rfl

@[simp] theorem gameMode_createGameBar : m.createGameBar.gameMode = m.gameMode := by
  rw [gameMode_eq, gameMode_eq, allowAutoGameMode_createGameBar]

/-- The state between the two writes of `setGameMode`. -/
def halfGameMode (b : Bool) : Machine :=
  { m with gameBar := some ⟨some (if b then 1 else 0), m.autoGameModeEnabled⟩ }

@[simp] theorem gameMode_halfGameMode (b : Bool) : (m.halfGameMode b).gameMode = b := by
  cases b <;> rfl

theorem setAllowAutoGameMode_createGameBar (b : Bool) :
    m.createGameBar.setAllowAutoGameMode (if b then 1 else 0) = some (m.halfGameMode b) := by
  unfold createGameBar setAllowAutoGameMode halfGameMode autoGameModeEnabled
  cases m.gameBar <;> rfl

theorem setAutoGameModeEnabled_halfGameMode (b : Bool) :
    (m.halfGameMode b).setAutoGameModeEnabled (if b then 1 else 0) = some (m.withGameMode b) := rfl

end Machine

/-! ### Undisturbed runs -/

section Faultless

variable {text : Call → String} {w : World}

@[simp] theorem run_getGameModeState :
    getGameModeState.run (.faultless text) w = .returned (.ok w.machine.gameMode) w := by
  unfold getGameModeState Machine.gameMode
  cases hk : w.machine.gameBar with
  | none => simp [hk]
  | some k =>
    rcases k with ⟨_ | v, a⟩ <;> simp [hk, GameBar.reading]

/-- `setGameMode` returns the state it found and writes both values. -/
@[simp] theorem run_setGameMode (enable : Bool) :
    (setGameMode enable).run (.faultless text) w =
      .returned (.ok w.machine.gameMode)
        { w with machine := w.machine.withGameMode enable } := by
  unfold setGameMode
  simp [Machine.setAllowAutoGameMode_createGameBar, Machine.setAutoGameModeEnabled_halfGameMode]

@[simp] theorem run_restoreGameMode (b : Bool) :
    (restoreGameMode b).run (.faultless text) w =
      .returned (.ok ()) { w with machine := w.machine.withGameMode b } := by
  simp [restoreGameMode]

end Faultless

/-! ### Disturbed runs -/

section Disturbed

variable {env : Env Call} {w w' : World} {C : World → Prop}

theorem follows_getGameModeState (hfree : env.ErrorFree)
    (hread : ∀ c ∈ [Call.openGameBar, .queryAllowAutoGameMode], env.DiesIn c → C w) :
    Eff.Follows env getGameModeState w C := by
  unfold getGameModeState
  refine Eff.Follows.bind (follows_readMachine hfree (hread _ (by simp))) ?_
  intro r w' h
  have hw : w' = w := by
    rw [run_readMachine_faultless] at h
    split at h <;> cases h <;> rfl
  subst hw
  cases r with
  | error e => exact Eff.follows_pure _
  | ok k =>
    refine Eff.Follows.bind (follows_readMachine hfree (hread _ (by simp))) ?_
    intro r _ _
    cases r <;> exact Eff.follows_pure _

/-- A `setGameMode` that is cut short stops before, between or inside its two writes. -/
theorem follows_setGameMode (hfree : env.ErrorFree) (enable : Bool)
    (hbefore : ∀ c ∈ [Call.openGameBar, .queryAllowAutoGameMode, .createGameBar],
      env.DiesIn c → C w)
    (hfirst : env.DiesIn .setAllowAutoGameMode →
      C { w with machine := w.machine.createGameBar })
    (hsecond : env.DiesIn .setAutoGameModeEnabled →
      C { w with machine := w.machine.halfGameMode enable }) :
    Eff.Follows env (setGameMode enable) w C := by
  unfold setGameMode
  refine Eff.Follows.bind (follows_getGameModeState hfree ?_) ?_
  · intro c hc
    exact hbefore c (by simp only [List.mem_cons] at hc ⊢; tauto)
  intro r w₁ h
  rw [run_getGameModeState] at h
  cases h
  refine Eff.Follows.bind (follows_writeMachine hfree (hbefore _ (by simp))) ?_
  intro r w₂ h
  rw [run_writeMachine_faultless] at h
  cases h
  refine Eff.Follows.bind (follows_writeMachine hfree hfirst) ?_
  intro r₁ w₃ h
  simp only [run_writeMachine_faultless, Machine.setAllowAutoGameMode_createGameBar] at h
  cases h
  refine Eff.Follows.bind (follows_writeMachine hfree hsecond) ?_
  intro r₂ w₄ _
  cases r₂ <;> exact Eff.follows_pure _

/-- A `setGameMode` that reports an error wrote no value: it made an empty key at most. -/
theorem setGameMode_error {enable : Bool} {e : String}
    (h : (setGameMode enable).run env w = .returned (.error e) w') :
    w' = w ∨ w' = { w with machine := w.machine.createGameBar } := by
  have hstate : (getGameModeState.run env w).Holds (fun _ w₁ => w₁ = w) (fun _ => True) := by
    unfold getGameModeState
    rw [Eff.run_bind]
    refine Run.Holds.bind (holds_readMachine (Q := fun _ w₁ => w₁ = w) (fun _ _ => rfl)
      (fun _ _ => trivial)) ?_
    rintro (e | k) w₁ rfl
    · rfl
    · rw [Eff.run_bind]
      refine Run.Holds.bind (holds_readMachine (Q := fun _ w₂ => w₂ = w₁) (fun _ _ => rfl)
        (fun _ _ => trivial)) ?_
      rintro (e | v) w₂ rfl <;> rfl
  have hrun : ((setGameMode enable).run env w).Holds
      (fun r w' => ∀ e, r = .error e →
        w' = w ∨ w' = { w with machine := w.machine.createGameBar }) (fun _ => True) := by
    unfold setGameMode
    rw [Eff.run_bind]
    refine Run.Holds.bind hstate ?_
    rintro r w₁ rfl
    rw [Eff.run_bind]
    refine Run.Holds.bind (holds_writeMachine
      (Q := fun r w₂ => (r = .ok () ∧ w₂ = { w₁ with machine := w₁.machine.createGameBar }) ∨
        ∃ e, r = .error e ∧ w₂ = w₁) ?_ ?_ (fun _ _ => trivial)) ?_
    · rintro m - ⟨⟩
      exact .inl ⟨rfl, rfl⟩
    · intro _
      exact .inr ⟨_, rfl, rfl⟩
    rintro _ w₂ (⟨rfl, rfl⟩ | ⟨e, rfl, rfl⟩)
    · rw [Eff.run_bind]
      -- the value is written, unless the call reports an error
      refine Run.Holds.bind (holds_writeMachine
        (Q := fun r w₃ => (∃ e, r = .error e) →
          w₃ = { w₁ with machine := w₁.machine.createGameBar }) ?_ (fun _ _ => rfl)
        (fun _ _ => trivial)) ?_
      · rintro m - - ⟨e, he⟩
        cases he
      intro r₁ w₃ h₁
      rw [Eff.run_bind]
      refine Run.Holds.bind (holds_writeMachine
        (Q := fun r w₄ => (∃ e, r = .error e) → w₄ = w₃) ?_ (fun _ _ => rfl)
        (fun _ _ => trivial)) ?_
      · rintro m - - ⟨e, he⟩
        cases he
      intro r₂ w₄ h₂
      rcases r₁ with e₁ | ⟨⟩ <;> rcases r₂ with e₂ | ⟨⟩
      · rw [h₂ ⟨e₂, rfl⟩, h₁ ⟨e₁, rfl⟩]
        intro e _
        exact .inr rfl
      all_goals
        intro e he
        cases he
    · intro e _
      exact .inl rfl
  exact Run.Holds.of_returned hrun h e rfl

end Disturbed

end ValOpt
