import ValOpt.Effect.Basic

/-!
# Rules for programs that may be interrupted

`Run.Holds Q C` is a pair of postconditions: `Q` where the program returns, `C` for what a crash
leaves.  `Eff.Preserves env I` says that a program keeps `I` however it ends in the environment, and
`Eff.Follows env m s C` that it runs undisturbed from `s`, unless a crash leaves a state in `C`.
Each has one rule for each way a program is built, so that a property of a program follows from
properties of its calls.
-/

namespace Effect

variable {Call σ α β : Type}

namespace Run

/-- `Q` holds where the run returns, `C` where it crashes. -/
def Holds (r : Run σ α) (Q : α → σ → Prop) (C : σ → Prop) : Prop :=
  match r with
  | returned a s => Q a s
  | crashed s => C s

variable {Q Q' : α → σ → Prop} {R : β → σ → Prop} {C C' : σ → Prop} {r : Run σ α}

@[simp] theorem holds_returned {a : α} {s : σ} : (returned a s).Holds Q C ↔ Q a s := Iff.rfl
@[simp] theorem holds_crashed {s : σ} : (crashed s).Holds Q C ↔ C s := Iff.rfl

theorem Holds.mono (h : r.Holds Q C) (hQ : ∀ a s, Q a s → Q' a s) (hC : ∀ s, C s → C' s) :
    r.Holds Q' C' := by
  cases r with
  | returned a s => exact hQ a s h
  | crashed s => exact hC s h

/-- The rule for sequencing: a crash of the first part is a crash of the whole. -/
theorem Holds.bind {f : α → σ → Run σ β} (h : r.Holds Q C)
    (hf : ∀ a s, Q a s → (f a s).Holds R C) : (r.bind f).Holds R C := by
  cases r with
  | returned a s => exact hf a s h
  | crashed s => exact h

theorem Holds.of_returned {a : α} {s : σ} (h : r.Holds Q C) (hr : r = returned a s) : Q a s := by
  rw [hr] at h
  exact h

/-- What holds at either end holds of the last state. -/
theorem Holds.state {J : σ → Prop} (h : r.Holds (fun _ => J) J) : J r.state := by
  cases r with
  | returned a s => exact h
  | crashed s => exact h

theorem Holds.of_crashed {s : σ} (h : r.Holds Q C) (hr : r = crashed s) : C s := by
  rw [hr] at h
  exact h

end Run

/-- The same postcondition, however the run ends. -/
theorem Run.holds_iff_state {I : σ → Prop} {r : Run σ α} : r.Holds (fun _ => I) I ↔ I r.state := by
  cases r <;> rfl

/-- The environment that kills the program inside the call `c`, after `k` units of it, and does not
disturb it before. -/
def Env.crashAt [DecidableEq Call] (c : Call) (k : ℕ) (text : Call → String) : Env Call :=
  ⟨fun c' => if c' = c then .crash k else .ok, text⟩

section CrashAt

variable [DecidableEq Call] {c c' : Call} {k : ℕ} {text : Call → String}

@[simp] theorem Env.outcome_crashAt_self : (Env.crashAt c k text).outcome c = .crash k := by
  simp [crashAt]

theorem Env.outcome_crashAt_of_ne (h : c' ≠ c) : (Env.crashAt c k text).outcome c' = .ok := by
  simp [crashAt, h]

theorem Env.errorFree_crashAt : (Env.crashAt c k text).ErrorFree := by
  intro c' k'
  by_cases h : c' = c
  · subst h
    simp
  · rw [Env.outcome_crashAt_of_ne h]
    simp

end CrashAt

/-! ### Calls -/

section Perform

variable {c : Call} {op : Op σ α} {env : Env Call} {s : σ} {Q : Except String α → σ → Prop}
  {C : σ → Prop}

/-- The rule for one call: all its fates. -/
theorem holds_perform (hok : env.outcome c = .ok → ∀ a s', op.full s = some (a, s') → Q (.ok a) s')
    (hno : env.outcome c = .ok → op.full s = none → Q (.error (env.errorText c)) s)
    (hfail : ∀ k, env.outcome c = .fail k → Q (.error (env.errorText c)) (op.torn k s))
    (hcrash : ∀ k, env.outcome c = .crash k → C (op.torn k s)) :
    ((perform c op).run env s).Holds Q C := by
  cases h : env.outcome c with
  | ok =>
    cases hf : op.full s with
    | none =>
      rw [run_perform_refused h hf]
      exact hno h hf
    | some p =>
      obtain ⟨a, s'⟩ := p
      rw [run_perform_ok h hf]
      exact hok h a s' hf
  | fail k =>
    rw [run_perform_fail h]
    exact hfail k h
  | crash k =>
    rw [run_perform_crash h]
    exact hcrash k h

/-- A call that only reads leaves the state, whatever becomes of it. -/
theorem holds_read {f : σ → Option α}
    (hQ : ∀ r, (∀ a, r = .ok a → env.outcome c = .ok ∧ f s = some a) → Q r s)
    (hC : ∀ k, env.outcome c = .crash k → C s) : ((perform c (.read f)).run env s).Holds Q C := by
  have herror : Q (.error (env.errorText c)) s := hQ _ fun _ h => nomatch h
  apply holds_perform _ (fun _ _ => herror) (fun _ _ => herror) hC
  intro hok a s' hfull
  rw [Op.full_read, Option.map_eq_some_iff] at hfull
  obtain ⟨a', hf, heq⟩ := hfull
  obtain ⟨rfl, rfl⟩ := Prod.mk.inj heq
  apply hQ
  intro a ha
  rw [← Except.ok.inj ha]
  exact ⟨hok, hf⟩

/-- A call that takes effect at once is carried out, or leaves the state. -/
theorem holds_atomic {f : σ → Option σ} {Q : Except String Unit → σ → Prop}
    (hok : ∀ s', env.outcome c = .ok → f s = some s' → Q (.ok ()) s')
    (hno : (env.outcome c = .ok ∧ f s = none) ∨ (∃ k, env.outcome c = .fail k) →
      Q (.error (env.errorText c)) s)
    (hC : ∀ k, env.outcome c = .crash k → C s) : ((perform c (.atomic f)).run env s).Holds Q C := by
  apply holds_perform _ _ (fun k hk => hno (Or.inr ⟨k, hk⟩)) hC
  · intro ho a s' hfull
    rw [Op.full_atomic, Option.map_eq_some_iff] at hfull
    obtain ⟨s₁, hf, heq⟩ := hfull
    rw [← (Prod.mk.inj heq).2]
    exact hok s₁ ho hf
  · intro ho hfull
    rw [Op.full_atomic, Option.map_eq_none_iff] at hfull
    exact hno (Or.inl ⟨ho, hfull⟩)

/-- The trace of one call: a call that came back is recorded with its success. -/
theorem trace_perform : (perform c op).trace env s = match env.outcome c with
    | .ok => [(c, (op.full s).isSome)]
    | .fail _ => [(c, false)]
    | .crash _ => [] := by
  unfold Eff.trace perform
  cases env.outcome c with
  | ok => cases op.full s <;> rfl
  | fail k => rfl
  | crash k => rfl

end Perform

/-! ### Invariants -/

/-- The program keeps `I` whether it returns or dies, and it dies only where a call kills it. -/
def Eff.Preserves (env : Env Call) (I : σ → Prop) (m : Eff Call σ α) : Prop :=
  ∀ s, I s → (m.run env s).Holds (fun _ s' => I s') (fun s' => I s' ∧ ¬ env.CrashFree)

namespace Eff

variable {env : Env Call} {I : σ → Prop}

theorem preserves_pure (a : α) : Preserves env I (pure a : Eff Call σ α) := fun _ h => h

theorem Preserves.bind {m : Eff Call σ α} {f : α → Eff Call σ β} (hm : Preserves env I m)
    (hf : ∀ a, Preserves env I (f a)) : Preserves env I (m >>= f) := by
  intro s hs
  rw [run_bind]
  exact Run.Holds.bind (hm s hs) fun a s' hs' => hf a s' hs'

theorem Preserves.forEach {body : ℕ → β → Eff Call σ Unit} (index : ℕ) (bs : List β)
    (h : ∀ i, ∀ b ∈ bs, Preserves env I (body i b)) :
    Preserves env I (forEach body index bs) := by
  induction bs generalizing index with
  | nil => exact preserves_pure ()
  | cons b bs ih =>
    exact (h index b List.mem_cons_self).bind fun _ =>
      ih (index + 1) fun i b' hb' => h i b' (List.mem_cons_of_mem b hb')

theorem preserves_perform {c : Call} {op : Op σ α} (hfull : ∀ s a s', I s →
    op.full s = some (a, s') → I s') (htorn : ∀ s k, I s → I (op.torn k s)) :
    Preserves env I (perform c op) := by
  intro s hs
  exact holds_perform (fun _ a s' h => hfull s a s' hs h) (fun _ _ => hs)
    (fun k _ => htorn s k hs) (fun k hk => ⟨htorn s k hs, fun hfree => hfree c k hk⟩)

theorem preserves_read {c : Call} {f : σ → Option α} :
    Preserves env I (perform c (.read f)) := by
  refine preserves_perform ?_ (fun s _ hs => hs)
  intro s a s' hs h
  simp only [Op.full_read, Option.map_eq_some_iff, Prod.mk.injEq] at h
  obtain ⟨_, _, _, rfl⟩ := h
  exact hs

theorem preserves_atomic {c : Call} {f : σ → Option σ} (h : ∀ s s', I s → f s = some s' → I s') :
    Preserves env I (perform c (.atomic f)) := by
  refine preserves_perform ?_ (fun s _ hs => hs)
  intro s a s' hs hf
  simp only [Op.full_atomic, Option.map_eq_some_iff, Prod.mk.injEq] at hf
  obtain ⟨_, hf, _, rfl⟩ := hf
  exact h s _ hs hf

/-- The invariant as a postcondition. -/
theorem Preserves.holds {m : Eff Call σ α} {s : σ} (h : Preserves env I m) (hs : I s) :
    (m.run env s).Holds (fun _ => I) I := (h s hs).mono (fun _ _ h => h) fun _ h => h.1

/-- Two invariants at once. -/
theorem Preserves.and {J : σ → Prop} {m : Eff Call σ α} (hI : Preserves env I m)
    (hJ : Preserves env J m) : Preserves env (fun s => I s ∧ J s) m := by
  intro s hs
  have hI' := hI s hs.1
  have hJ' := hJ s hs.2
  cases hr : m.run env s with
  | returned a s' =>
    rw [hr] at hI' hJ'
    exact ⟨hI', hJ'⟩
  | crashed s' =>
    rw [hr] at hI' hJ'
    exact ⟨⟨hI'.1, hJ'.1⟩, hI'.2⟩

/-- The last state of a run, dead or alive. -/
theorem Preserves.state {m : Eff Call σ α} {s : σ} (h : Preserves env I m) (hs : I s) :
    I (m.run env s).state := by
  have hrun := h s hs
  cases hr : m.run env s with
  | returned a s' =>
    rw [hr] at hrun
    exact hrun
  | crashed s' =>
    rw [hr] at hrun
    exact hrun.1

/-- Where no call kills the program it returns, and keeps the invariant. -/
theorem Preserves.returned {m : Eff Call σ α} {s : σ} (h : Preserves env I m)
    (hfree : env.CrashFree) (hs : I s) : ∃ a s', m.run env s = .returned a s' ∧ I s' := by
  have hrun := h s hs
  cases hr : m.run env s with
  | returned a s' =>
    rw [hr] at hrun
    exact ⟨a, s', rfl, hrun⟩
  | crashed s' =>
    rw [hr] at hrun
    exact absurd hfree hrun.2

/-! ### Programs that return -/

/-- The program returns from every state. -/
def Returns (env : Env Call) (m : Eff Call σ α) : Prop := ∀ s, ∃ a s', m.run env s = .returned a s'

theorem returns_pure (a : α) : Returns env (pure a : Eff Call σ α) := fun s => ⟨a, s, rfl⟩

theorem Returns.bind {m : Eff Call σ α} {f : α → Eff Call σ β} (hm : Returns env m)
    (hf : ∀ a, Returns env (f a)) : Returns env (m >>= f) := by
  intro s
  obtain ⟨a, s', hr⟩ := hm s
  rw [run_bind, hr]
  exact hf a s'

/-- A program dies only where a call kills it. -/
theorem Preserves.returns {m : Eff Call σ α} (h : Preserves env (fun _ => True) m)
    (hfree : env.CrashFree) : Returns env m := by
  intro s
  obtain ⟨a, s', hr, -⟩ := h.returned hfree trivial
  exact ⟨a, s', hr⟩

theorem returns_perform {c : Call} {op : Op σ α} (hfree : env.CrashFree) :
    Returns env (perform c op) :=
  (preserves_perform (fun _ _ _ _ _ => trivial) fun _ _ _ => trivial).returns hfree

/-! ### Runs that are only cut short -/

/-- The run is the undisturbed one, unless it was cut short and left a state in `C`. -/
def Follows (env : Env Call) (m : Eff Call σ α) (s : σ) (C : σ → Prop) : Prop :=
  (m.run env s).Holds (fun a s' => m.run (.faultless env.errorText) s = .returned a s') C

section Follows

variable {s : σ} {C : σ → Prop}

theorem follows_pure (a : α) : Follows env (pure a : Eff Call σ α) s C := rfl

/-- The rule for sequencing: the second part starts where the undisturbed first part ends. -/
theorem Follows.bind {m : Eff Call σ α} {f : α → Eff Call σ β} (hm : Follows env m s C)
    (hf : ∀ a s', m.run (.faultless env.errorText) s = .returned a s' → Follows env (f a) s' C) :
    Follows env (m >>= f) s C := by
  unfold Follows
  rw [run_bind, run_bind]
  refine Run.Holds.bind hm ?_
  intro a s' h
  rw [h]
  exact hf a s' h

theorem Follows.mono {m : Eff Call σ α} {C' : σ → Prop} (hm : Follows env m s C)
    (h : ∀ s', C s' → C' s') : Follows env m s C' := Run.Holds.mono hm (fun _ _ h => h) h

/-- A call that reports no error of its own succeeds, or kills the program. -/
theorem follows_perform (hfree : env.ErrorFree) {c : Call} {op : Op σ α}
    (hC : ∀ k, env.outcome c = .crash k → C (op.torn k s)) : Follows env (perform c op) s C := by
  refine holds_perform ?_ ?_ ?_ hC
  · intro _ a s' hf
    exact run_perform_ok rfl hf
  · intro _ hf
    exact run_perform_refused rfl hf
  · intro k h
    exact absurd h (hfree c k)

/-- Where the run was not cut short it is the undisturbed one. -/
theorem Follows.run_eq {m : Eff Call σ α} {a : α} {s' : σ} (h : Follows env m s C)
    (hr : m.run env s = .returned a s') : m.run (.faultless env.errorText) s = .returned a s' := by
  unfold Follows at h
  rw [hr] at h
  exact h

/-- What a run that was cut short leaves. -/
theorem Follows.of_crashed {m : Eff Call σ α} {s' : σ} (h : Follows env m s C)
    (hr : m.run env s = .crashed s') : C s' := by
  unfold Follows at h
  rw [hr] at h
  exact h

end Follows

end Eff

end Effect
