import ValOpt.Effect.Logic

/-!
# Programs that follow a script

A script is the list of the calls that a program issues if nothing stops it.  `Eff.Plays` says that
the calls of a run are the first ones of a script, and all of them where the run returns a value
that counts as complete: what a program does is known then from how far it came.  A program that
stops at the first error follows the scripts of its parts one after another (`Plays.bind`).
-/

namespace Effect

namespace Eff

variable {Call σ α β ε : Type} {env : Env Call} {s : σ}

/-- The calls of the run that came back, oldest first. -/
def calls (m : Eff Call σ α) (env : Env Call) (s : σ) : List Call := (m.trace env s).map Prod.fst

@[simp] theorem calls_pure (a : α) : (pure a : Eff Call σ α).calls env s = [] := rfl

theorem calls_bind_returned {m : Eff Call σ α} {f : α → Eff Call σ β} {a : α} {s' : σ}
    (h : m.run env s = .returned a s') :
    (m >>= f).calls env s = m.calls env s ++ (f a).calls env s' := by
  rw [calls, trace_bind, h, List.map_append]
  rfl

theorem calls_bind_crashed {m : Eff Call σ α} {f : α → Eff Call σ β} {s' : σ}
    (h : m.run env s = .crashed s') : (m >>= f).calls env s = m.calls env s := by
  rw [calls, trace_bind, h, List.append_nil]
  rfl

/-- What follows a program and does nothing leaves its state. -/
theorem state_bind_of_pure {m : Eff Call σ α} {f : α → Eff Call σ β}
    (hf : ∀ a, ∃ b, f a = pure b) : ((m >>= f).run env s).state = (m.run env s).state := by
  rw [run_bind]
  cases m.run env s with
  | crashed s' => rfl
  | returned a s' =>
    obtain ⟨b, hb⟩ := hf a
    rw [Run.bind_returned, hb]
    rfl

/-- The calls of `m` are the first ones of the script, and all of them where it returns with `P`. -/
structure Plays (env : Env Call) (m : Eff Call σ α) (s : σ) (script : List Call) (P : α → Prop) :
    Prop where
  isPrefix : m.calls env s <+: script
  complete : ∀ a s', m.run env s = .returned a s' → P a → m.calls env s = script

theorem plays_pure (a : α) (P : α → Prop) : Plays env (pure a : Eff Call σ α) s [] P where
  isPrefix := List.nil_prefix
  complete := fun _ _ _ _ => rfl

/-- One call, whatever comes of it. -/
theorem plays_perform (c : Call) (op : Op σ α) (P : Except String α → Prop) :
    Plays env (perform c op) s [c] P := by
  have hcalls : (perform c op).calls env s = match env.outcome c with
      | .crash _ => []
      | _ => [c] := by
    rw [calls, trace_perform]
    cases env.outcome c <;> rfl
  constructor
  · rw [hcalls]
    split
    · exact List.nil_prefix
    · exact List.prefix_rfl
  · intro a s' hrun _
    rw [hcalls]
    split
    · next k hcrash =>
      rw [run_perform_crash hcrash] at hrun
      cases hrun
    · rfl

/-- The rule for sequencing.  Where the first part is not complete the rest issues no call, and does
not complete the whole. -/
theorem Plays.bind {m : Eff Call σ α} {f : α → Eff Call σ β} {script script' : List Call}
    {P : α → Prop} {Q : β → Prop} (hm : Plays env m s script P)
    (hf : ∀ a s', m.run env s = .returned a s' → P a → Plays env (f a) s' script' Q)
    (hstop : ∀ a s', m.run env s = .returned a s' → ¬ P a →
      (f a).calls env s' = [] ∧ ∀ b s'', (f a).run env s' = .returned b s'' → ¬ Q b) :
    Plays env (m >>= f) s (script ++ script') Q := by
  cases hrun : m.run env s with
  | crashed s' =>
    constructor
    · rw [calls_bind_crashed hrun]
      exact hm.isPrefix.trans (List.prefix_append script script')
    · intro b s'' h
      rw [run_bind, hrun] at h
      cases h
  | returned a s' =>
    have hrest (b : β) (s'' : σ) : (m >>= f).run env s = .returned b s'' ↔
        (f a).run env s' = .returned b s'' := by rw [run_bind, hrun, Run.bind_returned]
    by_cases hP : P a
    · have hcalls := hm.complete a s' hrun hP
      obtain ⟨hrest', hcomplete⟩ := hf a s' hrun hP
      constructor
      · rw [calls_bind_returned hrun, hcalls]
        exact (List.prefix_append_right_inj script).mpr hrest'
      · intro b s'' h hQ
        rw [calls_bind_returned hrun, hcalls, hcomplete b s'' ((hrest b s'').mp h) hQ]
    · obtain ⟨hnil, hnot⟩ := hstop a s' hrun hP
      constructor
      · rw [calls_bind_returned hrun, hnil, List.append_nil]
        exact hm.isPrefix.trans (List.prefix_append script script')
      · intro b s'' h hQ
        exact absurd hQ (hnot b s'' ((hrest b s'').mp h))

/-- A first part whose result does not matter. -/
theorem Plays.then {m : Eff Call σ α} {f : α → Eff Call σ β} {script script' : List Call}
    {Q : β → Prop} (hm : Plays env m s script fun _ => True)
    (hf : ∀ a s', m.run env s = .returned a s' → Plays env (f a) s' script' Q) :
    Plays env (m >>= f) s (script ++ script') Q :=
  hm.bind (fun a s' h _ => hf a s' h) fun _ _ _ hno => absurd trivial hno

/-- A first part whose error ends the whole with an error. -/
theorem Plays.andThen {γ : Type} {m : Eff Call σ (Except ε α)}
    {f : Except ε α → Eff Call σ (Except ε γ)} {script script' : List Call}
    (hm : Plays env m s script fun r => r.isOk = true)
    (herror : ∀ e, ∃ e', f (.error e) = pure (.error e'))
    (hok : ∀ a s', m.run env s = .returned (.ok a) s' →
      Plays env (f (.ok a)) s' script' fun r => r.isOk = true) :
    Plays env (m >>= f) s (script ++ script') fun r => r.isOk = true := by
  apply hm.bind
  · rintro (e | a) s' hrun h
    · cases h
    · exact hok a s' hrun
  · rintro (e | a) s' hrun h
    · obtain ⟨e', he'⟩ := herror e
      rw [he']
      refine ⟨rfl, ?_⟩
      intro b s'' hb hisOk
      cases hb
      cases hisOk
    · exact absurd rfl h

end Eff

end Effect
