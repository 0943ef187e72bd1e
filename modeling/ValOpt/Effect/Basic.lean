import Mathlib.Logic.Function.Basic
import Mathlib.Tactic.Common

/-!
# Programs whose calls may fail or never return

`Eff Call σ α` is a program over a state `σ` that talks to its environment through calls named by
`Call` and returns an `α`.  An environment `Env Call` decides the fate of every call: it is carried
out, it reports an error, or the program dies inside it.  A call that is interrupted may leave part
of its effect behind; `Op.torn` says which part, by a number of completed units.

`run` is the outcome of a program (the value and the last state, or the state a crash leaves) and
`trace` the calls that came back, with whether they succeeded.  Both follow `bind`
(`run_bind`, `trace_bind`), so a program is evaluated one call at a time.
-/

namespace Effect

variable {Call σ α β : Type}

/-- The fate of one call.  `progress` counts the units of its effect that took place before the
call failed or the program died. -/
inductive Outcome where
  | ok
  | fail (progress : ℕ)
  | crash (progress : ℕ)
  deriving DecidableEq, Repr

/-- An environment: the fate of every call and the text of its error. -/
structure Env (Call : Type) where
  outcome : Call → Outcome
  errorText : Call → String

/-- The environment in which no call is disturbed. -/
def Env.faultless (text : Call → String) : Env Call := ⟨fun _ => .ok, text⟩

@[simp] theorem Env.outcome_faultless (text : Call → String) (c : Call) :
    (Env.faultless text).outcome c = .ok := rfl

/-- No call of the environment kills the program. -/
def Env.CrashFree (env : Env Call) : Prop := ∀ c k, env.outcome c ≠ .crash k

/-- No call of the environment reports an error: calls succeed until the program dies. -/
def Env.ErrorFree (env : Env Call) : Prop := ∀ c k, env.outcome c ≠ .fail k

/-- The program dies inside the call `c`. -/
def Env.DiesIn (env : Env Call) (c : Call) : Prop := ∃ k, env.outcome c = .crash k

theorem Env.crashFree_faultless (text : Call → String) : (Env.faultless text).CrashFree := by
  intro c k h
  simp at h

/-- How a program ends: it returns, or it dies and leaves a state. -/
inductive Run (σ α : Type) where
  | returned (a : α) (s : σ)
  | crashed (s : σ)

namespace Run

/-- The state a run ends in, dead or alive. -/
def state : Run σ α → σ
  | returned _ s => s
  | crashed s => s

/-- The value of a run that returned. -/
def value : Run σ α → Option α
  | returned a _ => some a
  | crashed _ => none

def bind (r : Run σ α) (f : α → σ → Run σ β) : Run σ β :=
  match r with
  | returned a s => f a s
  | crashed s => crashed s

@[simp] theorem state_returned (a : α) (s : σ) : (returned a s).state = s := rfl
@[simp] theorem state_crashed (s : σ) : (crashed s : Run σ α).state = s := rfl
@[simp] theorem value_returned (a : α) (s : σ) : (returned a s).value = some a := rfl
@[simp] theorem value_crashed (s : σ) : (crashed s : Run σ α).value = none := rfl
@[simp] theorem bind_returned (a : α) (s : σ) (f : α → σ → Run σ β) :
    (returned a s).bind f = f a s := rfl
@[simp] theorem bind_crashed (s : σ) (f : α → σ → Run σ β) :
    (crashed s : Run σ α).bind f = crashed s := rfl

/-- A run in two parts that returned. -/
theorem exists_of_bind_eq_returned {r : Run σ α} {f : α → σ → Run σ β} {b : β} {s' : σ}
    (h : r.bind f = returned b s') : ∃ a s, r = returned a s ∧ f a s = returned b s' := by
  cases r with
  | returned a s => exact ⟨a, s, rfl, h⟩
  | crashed s => cases h

end Run

/-- What a program did: how it ended, and the calls that came back. -/
structure Result (Call σ α : Type) where
  run : Run σ α
  trace : List (Call × Bool)

/-- Programs over the state `σ` that issue calls named by `Call`. -/
def Eff (Call σ α : Type) : Type := Env Call → σ → Result Call σ α

namespace Eff

/-- How the program ends in an environment, from a state. -/
def run (m : Eff Call σ α) (env : Env Call) (s : σ) : Run σ α := (m env s).run

/-- The calls that came back, oldest first, with whether they succeeded. -/
def trace (m : Eff Call σ α) (env : Env Call) (s : σ) : List (Call × Bool) := (m env s).trace

instance : Monad (Eff Call σ) where
  pure a := fun _ s => ⟨.returned a s, []⟩
  bind m f := fun env s =>
    match m env s with
    | ⟨.crashed s', t⟩ => ⟨.crashed s', t⟩
    | ⟨.returned a s', t⟩ =>
      let r := f a env s'
      ⟨r.run, t ++ r.trace⟩

@[simp] theorem run_pure (a : α) (env : Env Call) (s : σ) :
    (pure a : Eff Call σ α).run env s = .returned a s := rfl

@[simp] theorem trace_pure (a : α) (env : Env Call) (s : σ) :
    (pure a : Eff Call σ α).trace env s = [] := rfl

@[simp] theorem run_bind (m : Eff Call σ α) (f : α → Eff Call σ β) (env : Env Call) (s : σ) :
    (m >>= f).run env s = (m.run env s).bind fun a s' => (f a).run env s' := by
  change Result.run (match m env s with
    | ⟨.crashed s', t⟩ => ⟨.crashed s', t⟩
    | ⟨.returned a s', t⟩ => ⟨(f a env s').run, t ++ (f a env s').trace⟩) = _
  unfold run
  rcases h : m env s with ⟨_ | _, t⟩ <;> rfl

theorem trace_bind (m : Eff Call σ α) (f : α → Eff Call σ β) (env : Env Call) (s : σ) :
    (m >>= f).trace env s = m.trace env s ++
      match m.run env s with
      | .returned a s' => (f a).trace env s'
      | .crashed _ => [] := by
  change Result.trace (match m env s with
    | ⟨.crashed s', t⟩ => ⟨.crashed s', t⟩
    | ⟨.returned a s', t⟩ => ⟨(f a env s').run, t ++ (f a env s').trace⟩) = _
  unfold run trace
  rcases h : m env s with ⟨_ | _, t⟩ <;> simp

/-- A loop: the body runs on the items of a list, which are numbered from `index` on. -/
def forEach (body : ℕ → β → Eff Call σ Unit) (index : ℕ) : List β → Eff Call σ Unit
  | [] => pure ()
  | b :: bs => do
    body index b
    forEach body (index + 1) bs

/-- A loop whose bodies take the state from `s` to `step b s`. -/
theorem run_forEach {body : ℕ → β → Eff Call σ Unit} {env : Env Call} {step : β → σ → σ}
    (h : ∀ i b s, (body i b).run env s = .returned () (step b s)) (index : ℕ) (bs : List β)
    (s : σ) :
    (forEach body index bs).run env s = .returned () (bs.foldl (fun s b => step b s) s) := by
  induction bs generalizing index s with
  | nil => rfl
  | cons b bs ih => rw [forEach, run_bind, h, Run.bind_returned, ih, List.foldl_cons]

end Eff

/-- Of two checks after one another both have succeeded. -/
theorem bind_eq_ok {ε γ δ : Type} {x : Except ε γ} {f : γ → Except ε δ} {d : δ}
    (h : x >>= f = .ok d) : ∃ c, x = .ok c ∧ f c = .ok d := by
  cases x with
  | error e => exact nomatch h
  | ok c => exact ⟨c, rfl, h⟩

/-! ### Calls -/

/-- What one call does.  `full` is its effect when it is carried out, `none` when the state refuses
it; `torn k` is what an interruption after `k` units leaves. -/
structure Op (σ α : Type) where
  full : σ → Option (α × σ)
  torn : ℕ → σ → σ

namespace Op

/-- A call that only reads the state. -/
def read (f : σ → Option α) : Op σ α := ⟨fun s => (f s).map (·, s), fun _ s => s⟩

/-- A call that takes effect at once or not at all. -/
def atomic (f : σ → Option σ) : Op σ Unit := ⟨fun s => (f s).map ((), ·), fun _ s => s⟩

@[simp] theorem full_read (f : σ → Option α) (s : σ) : (read f).full s = (f s).map (·, s) := rfl
@[simp] theorem torn_read (f : σ → Option α) (k : ℕ) (s : σ) : (read f).torn k s = s := rfl
@[simp] theorem full_atomic (f : σ → Option σ) (s : σ) :
    (atomic f).full s = (f s).map ((), ·) := rfl
@[simp] theorem torn_atomic (f : σ → Option σ) (k : ℕ) (s : σ) : (atomic f).torn k s = s := rfl

end Op

/-- Issue the call `c`: its value, or the text of its error. -/
def perform (c : Call) (op : Op σ α) : Eff Call σ (Except String α) := fun env s =>
  match env.outcome c with
  | .ok =>
    match op.full s with
    | some (a, s') => ⟨.returned (.ok a) s', [(c, true)]⟩
    | none => ⟨.returned (.error (env.errorText c)) s, [(c, false)]⟩
  | .fail k => ⟨.returned (.error (env.errorText c)) (op.torn k s), [(c, false)]⟩
  | .crash k => ⟨.crashed (op.torn k s), []⟩

section Perform

variable {c : Call} {op : Op σ α} {env : Env Call} {s s' : σ} {a : α} {k : ℕ}

theorem run_perform_ok (h : env.outcome c = .ok) (hf : op.full s = some (a, s')) :
    (perform c op).run env s = .returned (.ok a) s' := by
  simp only [Eff.run, perform, h, hf]

theorem run_perform_refused (h : env.outcome c = .ok) (hf : op.full s = none) :
    (perform c op).run env s = .returned (.error (env.errorText c)) s := by
  simp only [Eff.run, perform, h, hf]

theorem run_perform_fail (h : env.outcome c = .fail k) :
    (perform c op).run env s = .returned (.error (env.errorText c)) (op.torn k s) := by
  simp only [Eff.run, perform, h]

theorem run_perform_crash (h : env.outcome c = .crash k) :
    (perform c op).run env s = .crashed (op.torn k s) := by
  simp only [Eff.run, perform, h]

end Perform

end Effect
