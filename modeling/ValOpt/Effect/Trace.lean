import ValOpt.Effect.Logic

/-!
# The calls a program carries out

`Eff.CarriesOut env W I m A J D` is a triple with an account of the calls: from every state in `I`
the program returns a value in `A` and leaves a state in `J`, and among the calls of `W` it carries
out exactly those of `D`; the others are not issued or do not succeed.  The rules compose such
accounts: sequencing joins them (`CarriesOut.bind`), and a loop joins those of its items
(`CarriesOut.forEach`).  A program is `Idle` when it carries out no call of `W` at all.
-/

namespace Effect

namespace Eff

variable {Call σ α β : Type} {env : Env Call} {W : Call → Prop} {I J K : σ → Prop}
  {A A' : α → Prop} {B : β → Prop} {D E : Call → Prop}

/-- From `I` the program returns with `A` and `J`, and of the calls in `W` it carries out `D`. -/
structure CarriesOut (env : Env Call) (W : Call → Prop) (I : σ → Prop) (m : Eff Call σ α)
    (A : α → Prop) (J : σ → Prop) (D : Call → Prop) : Prop where
  returned : ∀ s, I s → ∃ a s', m.run env s = .returned a s' ∧ A a ∧ J s'
  trace : ∀ s, I s → ∀ c, W c → ((c, true) ∈ m.trace env s ↔ D c)

namespace CarriesOut

variable {m : Eff Call σ α}

theorem pure {a : α} (h : A a) :
    CarriesOut env W I (Pure.pure a : Eff Call σ α) A I fun _ => False where
  returned := fun s hs => ⟨a, s, rfl, h, hs⟩
  trace := by simp

theorem mono (h : CarriesOut env W I m A J D) (hA : ∀ a, A a → A' a) (hJ : ∀ s, J s → K s)
    (hD : ∀ c, W c → (D c ↔ E c)) : CarriesOut env W I m A' K E where
  returned := by
    intro s hs
    obtain ⟨a, s', hr, ha, hj⟩ := h.returned s hs
    exact ⟨a, s', hr, hA a ha, hJ s' hj⟩
  trace := by
    intro s hs c hc
    rw [h.trace s hs c hc, hD c hc]

theorem of_imp (h : CarriesOut env W I m A J D) (hI : ∀ s, K s → I s) :
    CarriesOut env W K m A J D where
  returned := fun s hs => h.returned s (hI s hs)
  trace := fun s hs => h.trace s (hI s hs)

/-- Two descriptions of the same calls. -/
theorem congr (h : CarriesOut env W I m A J D) (hD : ∀ c, W c → (D c ↔ E c)) :
    CarriesOut env W I m A J E := h.mono (fun _ ha => ha) (fun _ hj => hj) hD

/-- The rule for sequencing. -/
theorem bind {f : α → Eff Call σ β} (hm : CarriesOut env W I m A J D)
    (hf : ∀ a, A a → CarriesOut env W J (f a) B K E) :
    CarriesOut env W I (m >>= f) B K fun c => D c ∨ E c where
  returned := by
    intro s hs
    obtain ⟨a, s', hr, ha, hj⟩ := hm.returned s hs
    rw [run_bind, hr]
    exact (hf a ha).returned s' hj
  trace := by
    intro s hs c hc
    obtain ⟨a, s', hr, ha, hj⟩ := hm.returned s hs
    rw [trace_bind, hr, List.mem_append, hm.trace s hs c hc, (hf a ha).trace s' hj c hc]

/-- The rule for a loop whose bodies keep `I`. -/
theorem forEach {body : ℕ → β → Eff Call σ Unit} {D : ℕ → β → Call → Prop}
    (h : ∀ i b, CarriesOut env W I (body i b) (fun _ => True) I (D i b)) (index : ℕ)
    (bs : List β) : CarriesOut env W I (Eff.forEach body index bs) (fun _ => True) I
      fun c => ∃ k b, bs[k]? = some b ∧ D (index + k) b c := by
  induction bs generalizing index with
  | nil =>
    have hdone : CarriesOut env W I (Pure.pure () : Eff Call σ Unit) (fun _ => True) I
        fun _ => False := CarriesOut.pure trivial
    refine hdone.congr fun c _ => ?_
    simp
  | cons b bs ih =>
    refine ((h index b).bind fun _ _ => ih (index + 1)).congr fun c _ => ?_
    constructor
    · rintro (hd | ⟨k, b', hb, hd⟩)
      · exact ⟨0, b, rfl, hd⟩
      · refine ⟨k + 1, b', hb, ?_⟩
        have hindex : index + (k + 1) = index + 1 + k := by omega
        rw [hindex]
        exact hd
    · rintro ⟨k, b', hb, hd⟩
      cases k with
      | zero =>
        cases hb
        exact .inl hd
      | succ k =>
        refine .inr ⟨k, b', hb, ?_⟩
        have hindex : index + 1 + k = index + (k + 1) := by omega
        rw [hindex]
        exact hd

/-- A call that succeeds from every state in `I`. -/
theorem perform_ok {c : Call} {o : Op σ α} (ho : env.outcome c = .ok)
    (hfull : ∀ s, I s → ∃ a s', o.full s = some (a, s') ∧ J s') :
    CarriesOut env W I (perform c o) (fun r => ∃ a, r = .ok a) J (· = c) where
  returned := by
    intro s hs
    obtain ⟨a, s', hf, hj⟩ := hfull s hs
    exact ⟨_, _, run_perform_ok ho hf, ⟨a, rfl⟩, hj⟩
  trace := by
    intro s hs c' _
    obtain ⟨a, s', hf, -⟩ := hfull s hs
    rw [trace_perform, ho]
    simp [hf]

/-- A call that keeps `I`, where `p` says whether the states in `I` let it succeed. -/
theorem perform {c : Call} {o : Op σ α} {p : Prop} (hfree : env.CrashFree)
    (hp : ∀ s, I s → ((o.full s).isSome ↔ p))
    (hfull : ∀ s a s', I s → o.full s = some (a, s') → I s')
    (htorn : ∀ s k, I s → I (o.torn k s)) :
    CarriesOut env W I (perform c o) (fun r => r.isOk = true ↔ env.outcome c = .ok ∧ p) I
      fun c' => c' = c ∧ env.outcome c = .ok ∧ p where
  returned := by
    intro s hs
    cases h : env.outcome c with
    | ok =>
      cases hf : o.full s with
      | some r =>
        obtain ⟨a, s'⟩ := r
        have hpp : p := (hp s hs).mp (by simp [hf])
        exact ⟨_, _, run_perform_ok h hf, by simp [Except.isOk, Except.toBool, hpp],
          hfull s a s' hs hf⟩
      | none =>
        have hnp : ¬ p := fun hpp => by simpa [hf] using (hp s hs).mpr hpp
        exact ⟨_, _, run_perform_refused h hf, by simp [Except.isOk, Except.toBool, hnp], hs⟩
    | fail k =>
      exact ⟨_, _, run_perform_fail h, by simp [Except.isOk, Except.toBool], htorn s k hs⟩
    | crash k => exact absurd h (hfree c k)
  trace := by
    intro s hs c' _
    rw [trace_perform, ← hp s hs]
    cases h : env.outcome c with
    | ok => simp [eq_comm (a := true)]
    | fail k => simp
    | crash k => exact absurd h (hfree c k)

end CarriesOut

/-- The program issues only calls of `W`, as far as they come back. -/
def Issues (env : Env Call) (W : Call → Prop) (m : Eff Call σ α) : Prop :=
  ∀ s, ∀ r ∈ m.trace env s, W r.1

theorem issues_pure (a : α) : Issues env W (pure a : Eff Call σ α) := fun _ _ h => nomatch h

theorem Issues.bind {m : Eff Call σ α} {f : α → Eff Call σ β} (hm : Issues env W m)
    (hf : ∀ a, Issues env W (f a)) : Issues env W (m >>= f) := by
  intro s r hr
  rw [trace_bind, List.mem_append] at hr
  obtain hr | hr := hr
  · exact hm s r hr
  · cases h : m.run env s with
    | returned a s' =>
      rw [h] at hr
      exact hf a s' r hr
    | crashed s' =>
      rw [h] at hr
      cases hr

theorem issues_perform {c : Call} {op : Op σ α} (hc : W c) : Issues env W (perform c op) := by
  intro s r hr
  rw [trace_perform] at hr
  cases h : env.outcome c with
  | ok =>
    rw [h] at hr
    cases List.mem_singleton.mp hr
    exact hc
  | fail k =>
    rw [h] at hr
    cases List.mem_singleton.mp hr
    exact hc
  | crash k =>
    rw [h] at hr
    cases hr

/-- From `s` the program issues only calls of `W`, and it ends in `J`. -/
def Quiet (env : Env Call) (W : Call → Prop) (J : σ → Prop) (m : Eff Call σ α) (s : σ) : Prop :=
  (∀ r ∈ m.trace env s, W r.1) ∧ J (m.run env s).state

theorem quiet_pure (a : α) {s : σ} (h : J s) : Quiet env W J (pure a : Eff Call σ α) s :=
  ⟨issues_pure a s, h⟩

/-- A program whose first part issues only calls of `W` and changes nothing: it is quiet as a whole,
unless what follows is not and `p` says why. -/
theorem Issues.quiet_or {m : Eff Call σ α} {f : α → Eff Call σ β} {s : σ} {Q : α → Prop} {p : Prop}
    (hm : Issues env W m) (hJ : J s)
    (hQ : (m.run env s).Holds (fun a s' => s' = s ∧ Q a) (· = s))
    (hf : ∀ a, Q a → m.run env s = .returned a s → Quiet env W J (f a) s ∨ p) :
    Quiet env W J (m >>= f) s ∨ p := by
  cases h : m.run env s with
  | crashed s' =>
    obtain rfl : s' = s := hQ.of_crashed h
    left
    refine ⟨?_, by rw [run_bind, h]; exact hJ⟩
    rw [trace_bind, h, List.append_nil]
    exact hm s'
  | returned a s' =>
    obtain ⟨rfl, ha⟩ := hQ.of_returned h
    obtain ⟨htrace, hstate⟩ | hp := hf a ha h
    · left
      refine ⟨?_, by rw [run_bind, h]; exact hstate⟩
      rw [trace_bind, h]
      intro r hr
      obtain hr | hr := List.mem_append.mp hr
      · exact hm s' r hr
      · exact htrace r hr
    · exact .inr hp

/-- The program returns, and carries out no call of `W`. -/
def Idle (env : Env Call) (W : Call → Prop) (m : Eff Call σ α) : Prop :=
  CarriesOut env W (fun _ => True) m (fun _ => True) (fun _ => True) fun _ => False

theorem idle_pure (a : α) : Idle env W (pure a : Eff Call σ α) := CarriesOut.pure trivial

theorem Idle.bind {m : Eff Call σ α} {f : α → Eff Call σ β} (hm : Idle env W m)
    (hf : ∀ a, Idle env W (f a)) : Idle env W (m >>= f) :=
  (CarriesOut.bind hm fun a _ => hf a).congr fun _ _ => or_self_iff

theorem idle_perform {c : Call} {op : Op σ α} (hfree : env.CrashFree) (hc : ¬ W c) :
    Idle env W (perform c op) where
  returned := by
    intro s _
    cases h : env.outcome c with
    | ok =>
      cases hf : op.full s with
      | some r => exact ⟨_, _, run_perform_ok h hf, trivial, trivial⟩
      | none => exact ⟨_, _, run_perform_refused h hf, trivial, trivial⟩
    | fail k => exact ⟨_, _, run_perform_fail h, trivial, trivial⟩
    | crash k => exact absurd h (hfree c k)
  trace := by
    intro s _ c' hc'
    have hne : c' ≠ c := by
      intro h
      rw [h] at hc'
      exact hc hc'
    rw [trace_perform]
    cases env.outcome c <;> simp [hne]

/-- An idle program that keeps `I`. -/
theorem Idle.preserving {m : Eff Call σ α} (h : Idle env W m) (hfree : env.CrashFree)
    (hI : Preserves env I m) : CarriesOut env W I m (fun _ => True) I fun _ => False where
  returned := by
    intro s hs
    obtain ⟨a, s', hr, hs'⟩ := hI.returned hfree hs
    exact ⟨a, s', hr, trivial, hs'⟩
  trace := fun s _ => h.trace s trivial

/-- An idle program whose outcome is known. -/
theorem Idle.of_run {m : Eff Call σ α} {s s' : σ} {a : α} (h : Idle env W m)
    (hr : m.run env s = .returned a s') :
    CarriesOut env W (· = s) m (· = a) (· = s') fun _ => False where
  returned := by
    rintro t rfl
    exact ⟨a, s', hr, rfl, rfl⟩
  trace := fun t _ => h.trace t trivial

/-- From `s` the program returns `a` and changes nothing, and its trace is `t`. -/
structure Yields (env : Env Call) (s : σ) (m : Eff Call σ α) (a : α) (t : List (Call × Bool)) :
    Prop where
  run : m.run env s = .returned a s
  trace : m.trace env s = t

namespace Yields

variable {m : Eff Call σ α} {s : σ} {a : α} {t u : List (Call × Bool)}

theorem pure (a : α) : Yields env s (Pure.pure a : Eff Call σ α) a [] := ⟨rfl, rfl⟩

theorem bind {f : α → Eff Call σ β} {b : β} (hm : Yields env s m a t)
    (hf : Yields env s (f a) b u) : Yields env s (m >>= f) b (t ++ u) where
  run := by rw [run_bind, hm.run, Run.bind_returned, hf.run]
  trace := by
    rw [trace_bind, hm.run, hm.trace]
    show t ++ (f a).trace env s = t ++ u
    rw [hf.trace]

/-- A call that looks at the state, and finds it. -/
theorem read_some {c : Call} {f : σ → Option α} (ho : env.outcome c = .ok) (hf : f s = some a) :
    Yields env s (perform c (.read f)) (.ok a) [(c, true)] where
  run := run_perform_ok ho (by rw [Op.full_read, hf, Option.map_some])
  trace := by rw [trace_perform, ho, Op.full_read, hf, Option.map_some, Option.isSome_some]

/-- A call that fails, or does not find what it looks for. -/
theorem read_none {c : Call} {f : σ → Option α} (hfree : ∀ k, env.outcome c ≠ .crash k)
    (h : env.outcome c = .ok → f s = none) :
    Yields env s (perform c (.read f)) (.error (env.errorText c)) [(c, false)] := by
  cases ho : env.outcome c with
  | ok =>
    constructor
    · exact run_perform_refused ho (by rw [Op.full_read, h ho, Option.map_none])
    · rw [trace_perform, ho, Op.full_read, h ho, Option.map_none, Option.isSome_none]
  | fail k =>
    constructor
    · exact run_perform_fail ho
    · rw [trace_perform, ho]
  | crash k => exact absurd ho (hfree k)

end Yields

end Eff

end Effect
