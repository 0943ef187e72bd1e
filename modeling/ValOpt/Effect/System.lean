import Mathlib.Data.List.Basic
import Mathlib.Data.List.Induction
import Mathlib.Logic.Basic

/-!
# Runs of a system

A system is a partial function `step` of labels and states: the label says what happens next, and
which labels are possible depends on the state.  `exec` is the state after a list of steps.
`Always step p` says that `p` holds in every state of a run, `Each step c` that `c` holds at every
one of its steps, and `Sometimes step c` at one of them.  The first two meet in `always_iff_each`: a
property that no step can break but the ones that violate a condition holds throughout a run just if
the condition does.
-/

namespace Effect

variable {σ ℓ : Type*} (step : ℓ → σ → Option σ)

/-- The state after the steps `ls`, if each of them was possible. -/
def exec : List ℓ → σ → Option σ
  | [], s => some s
  | l :: ls, s => (step l s).bind (exec ls)

/-- `p` holds in every state that the run reaches. -/
def Always (p : σ → Prop) : List ℓ → σ → Prop
  | [], s => p s
  | l :: ls, s => p s ∧ ∀ s', step l s = some s' → Always p ls s'

/-- `c` holds at every step that the run takes. -/
def Each (c : ℓ → σ → Prop) : List ℓ → σ → Prop
  | [], _ => True
  | l :: ls, s => ∀ s', step l s = some s' → c l s ∧ Each c ls s'

/-- `c` holds at some step that the run takes. -/
def Sometimes (c : ℓ → σ → Prop) : List ℓ → σ → Prop
  | [], _ => False
  | l :: ls, s => ∃ s', step l s = some s' ∧ (c l s ∨ Sometimes c ls s')

/-- The run itself tells whether the condition holds at its steps. -/
instance Each.decidable {c : ℓ → σ → Prop} [∀ l s, Decidable (c l s)] :
    (ls : List ℓ) → (s : σ) → Decidable (Each step c ls s)
  | [], _ => isTrue trivial
  | l :: ls, s =>
    match hstep : step l s with
    | none => isTrue fun s' hs => absurd (hstep.symm.trans hs) (Option.some_ne_none s').symm
    | some t =>
      have := Each.decidable (c := c) ls t
      decidable_of_iff (c l s ∧ Each step c ls t) <| by
        rw [Each, hstep]
        simp only [Option.some.injEq, forall_eq']

variable {step} {p I : σ → Prop} {c : ℓ → σ → Prop} {l : ℓ} {ls ls' : List ℓ} {s s' : σ}

@[simp] theorem exec_nil : exec step [] s = some s := rfl

theorem exec_cons : exec step (l :: ls) s = (step l s).bind (exec step ls) := rfl

theorem exec_append : exec step (ls ++ ls') s = (exec step ls s).bind (exec step ls') := by
  induction ls generalizing s with
  | nil => rfl
  | cons l ls ih =>
    rw [List.cons_append, exec_cons, exec_cons, Option.bind_assoc]
    congr 1
    funext s'
    exact ih

theorem exec_concat (hexec : exec step ls s = some s') : exec step (ls ++ [l]) s = step l s' := by
  rw [exec_append, hexec, Option.bind_some, exec_cons]
  cases step l s' <;> rfl

/-- A relation between the steps taken and the state, which every further step keeps. -/
theorem exec_history {I : List ℓ → σ → Prop} (hs : I [] s)
    (h : ∀ ls l t t', exec step ls s = some t → I ls t → step l t = some t' → I (ls ++ [l]) t')
    (hexec : exec step ls s = some s') : I ls s' := by
  induction ls using List.reverseRecOn generalizing s' with
  | nil =>
    cases hexec
    exact hs
  | append_singleton ls l ih =>
    rw [exec_append] at hexec
    obtain ⟨t, hpre, hlast⟩ := Option.bind_eq_some_iff.mp hexec
    have hstep : step l t = some s' := by
      rw [← exec_concat hpre, exec_append, hpre, Option.bind_some, hlast]
    exact h ls l t s' hpre (ih hpre) hstep

/-- What a step keeps, a run keeps. -/
theorem exec_invariant (h : ∀ l s s', I s → step l s = some s' → I s') (hs : I s)
    (hexec : exec step ls s = some s') : I s' := by
  induction ls generalizing s with
  | nil =>
    cases hexec
    exact hs
  | cons l ls ih =>
    obtain ⟨s₁, hstep, hrest⟩ := Option.bind_eq_some_iff.mp hexec
    exact ih (h l s s₁ hs hstep) hrest

/-- The last state of a run is one of its states. -/
theorem Always.of_exec (h : Always step p ls s) (hexec : exec step ls s = some s') : p s' := by
  induction ls generalizing s with
  | nil =>
    cases hexec
    exact h
  | cons l ls ih =>
    obtain ⟨s₁, hstep, hrest⟩ := Option.bind_eq_some_iff.mp hexec
    exact ih (h.2 s₁ hstep) hrest

/-- The first state of a run is one of its states. -/
theorem Always.head (h : Always step p ls s) : p s := by
  cases ls with
  | nil => exact h
  | cons l ls => exact h.1

/-- A condition that an invariant of the run implies. -/
theorem each_of_invariant (hI : ∀ l ∈ ls, ∀ s s', I s → step l s = some s' → I s')
    (hc : ∀ l ∈ ls, ∀ s, I s → c l s) (hs : I s) : Each step c ls s := by
  induction ls generalizing s with
  | nil => trivial
  | cons l ls ih =>
    intro s' hstep
    refine ⟨hc l List.mem_cons_self s hs, ?_⟩
    exact ih (fun l h => hI l (List.mem_cons_of_mem _ h))
      (fun l h => hc l (List.mem_cons_of_mem _ h))
      (hI l List.mem_cons_self s s' hs hstep)

/-- The condition holds at every step of a run in two parts. -/
theorem Each.append (h : Each step c ls s) (h' : ∀ s', exec step ls s = some s' →
    Each step c ls' s') : Each step c (ls ++ ls') s := by
  induction ls generalizing s with
  | nil => exact h' s rfl
  | cons l ls ih =>
    intro s' hstep
    refine ⟨(h s' hstep).1, ih (h s' hstep).2 fun s'' hexec => h' s'' ?_⟩
    rw [exec_cons, hstep, Option.bind_some, hexec]

/-- A step in the middle of a run meets the condition. -/
theorem Each.of_append_cons (h : Each step c (ls ++ l :: ls') s) {t t' : σ}
    (hexec : exec step ls s = some t) (hstep : step l t = some t') : c l t := by
  induction ls generalizing s with
  | nil =>
    cases hexec
    exact (h t' hstep).1
  | cons l₀ ls ih =>
    obtain ⟨s₁, hfirst, hrest⟩ := Option.bind_eq_some_iff.mp hexec
    exact ih (h s₁ hfirst).2 hrest

theorem each_cons_iff (hstep : step l s = some s') :
    Each step c (l :: ls) s ↔ c l s ∧ Each step c ls s' := by
  simp only [Each, hstep, Option.some.injEq, forall_eq']

theorem sometimes_cons_iff (hstep : step l s = some s') :
    Sometimes step c (l :: ls) s ↔ c l s ∨ Sometimes step c ls s' := by
  simp only [Sometimes, hstep, Option.some.injEq, exists_eq_left']

/-- A run that goes on still has its steps. -/
theorem Sometimes.append (h : Sometimes step c ls s) (ls' : List ℓ) :
    Sometimes step c (ls ++ ls') s := by
  induction ls generalizing s with
  | nil => exact h.elim
  | cons l ls ih =>
    obtain ⟨s₁, hstep, hl⟩ := h
    exact ⟨s₁, hstep, hl.imp_right ih⟩

/-- The step that meets the condition. -/
theorem Sometimes.exists_step (h : Sometimes step c ls s) : ∃ l t, c l t := by
  induction ls generalizing s with
  | nil => exact h.elim
  | cons l ls ih =>
    obtain ⟨s₁, -, hl | hrest⟩ := h
    · exact ⟨l, s, hl⟩
    · exact ih hrest

/-- A condition that follows from another one in the states of an invariant. -/
theorem Sometimes.imp {c' : ℓ → σ → Prop} (hc : Sometimes step c ls s)
    (hI : ∀ l s s', I s → step l s = some s' → I s') (h : ∀ l s, I s → c l s → c' l s) (hs : I s) :
    Sometimes step c' ls s := by
  induction ls generalizing s with
  | nil => exact hc.elim
  | cons l ls ih =>
    obtain ⟨s₁, hstep, hl⟩ := hc
    exact ⟨s₁, hstep, hl.imp (h l s hs) fun hrest => ih hrest (hI l s s₁ hs hstep)⟩

/-- The last step of a run meets the condition. -/
theorem Sometimes.of_exec (hexec : exec step ls s = some s') {t : σ} (hstep : step l s' = some t)
    (hc : c l s') : Sometimes step c (ls ++ [l]) s := by
  induction ls generalizing s with
  | nil =>
    cases hexec
    exact ⟨t, hstep, Or.inl hc⟩
  | cons l' ls ih =>
    obtain ⟨s₁, hfirst, hrest⟩ := Option.bind_eq_some_iff.mp hexec
    exact ⟨s₁, hfirst, Or.inr (ih hrest)⟩

/-- A property that every step keeps which meets the condition. -/
theorem always_of_each (hp : ∀ s, I s → p s)
    (h : ∀ l s s', I s → c l s → step l s = some s' → I s') (hs : I s) (hc : Each step c ls s) :
    Always step p ls s := by
  induction ls generalizing s with
  | nil => exact hp s hs
  | cons l ls ih =>
    refine ⟨hp s hs, fun s' hstep => ?_⟩
    have hl := hc s' hstep
    exact ih (h l s s' hs hl.1 hstep) hl.2

/-- A property that a step keeps just if it meets the condition.  The invariant `I` describes the
states of which this is known. -/
theorem always_iff_each (hkeep : ∀ l s s', I s → p s → step l s = some s' → (p s' ↔ c l s))
    (hI : ∀ l s s', I s → p s → p s' → step l s = some s' → I s') (hs : I s) (hps : p s) :
    Always step p ls s ↔ Each step c ls s := by
  induction ls generalizing s with
  | nil => exact ⟨fun _ => trivial, fun _ => hps⟩
  | cons l ls ih =>
    constructor
    · intro h s' hstep
      have hrest := h.2 s' hstep
      have hp' : p s' := hrest.head
      exact ⟨(hkeep l s s' hs hps hstep).mp hp', (ih (hI l s s' hs hps hp' hstep) hp').mp hrest⟩
    · intro h
      refine ⟨hps, fun s' hstep => ?_⟩
      obtain ⟨hc, hrest⟩ := h s' hstep
      have hp' := (hkeep l s s' hs hps hstep).mpr hc
      exact (ih (hI l s s' hs hps hp' hstep) hp').mpr hrest

/-- Steps that may be left out.  `R` relates a state of the whole run to one of the run that keeps
only the steps in `keep`. -/
theorem exec_filter {R : σ → σ → Prop} {keep : ℓ → Bool} {t : σ}
    (hsilent : ∀ l ∈ ls, keep l = false → ∀ s s' t, R s t → step l s = some s' → R s' t)
    (hkeep : ∀ l ∈ ls, keep l = true → ∀ s s' t, R s t → step l s = some s' →
      ∃ t', step l t = some t' ∧ R s' t')
    (hs : R s t) (hexec : exec step ls s = some s') :
    ∃ t', exec step (ls.filter keep) t = some t' ∧ R s' t' := by
  induction ls generalizing s t with
  | nil =>
    cases hexec
    exact ⟨t, rfl, hs⟩
  | cons l ls ih =>
    obtain ⟨s₁, hstep, hrest⟩ := Option.bind_eq_some_iff.mp hexec
    have ih' := fun t => ih (t := t) (s := s₁) (fun l h => hsilent l (List.mem_cons_of_mem _ h))
      fun l h => hkeep l (List.mem_cons_of_mem _ h)
    cases hl : keep l with
    | false =>
      rw [List.filter_cons_of_neg (by simp [hl])]
      exact ih' t (hsilent l List.mem_cons_self hl s s₁ t hs hstep) hrest
    | true =>
      obtain ⟨t₁, hstep', hR⟩ := hkeep l List.mem_cons_self hl s s₁ t hs hstep
      obtain ⟨t', hexec', hR'⟩ := ih' t₁ hR hrest
      refine ⟨t', ?_, hR'⟩
      rw [List.filter_cons_of_pos hl, exec_cons, hstep', Option.bind_some, hexec']

/-- A run of a system seen in another one.  `view` is what is seen of a state, and `see` the label
that is seen of a step, if any; the other steps leave the view as it is. -/
theorem exec_view {τ m : Type*} {step' : m → τ → Option τ} (view : σ → τ) {see : ℓ → Option m}
    (hseen : ∀ l k s s', see l = some k → step l s = some s' → step' k (view s) = some (view s'))
    (hunseen : ∀ l s s', see l = none → step l s = some s' → view s' = view s)
    (hexec : exec step ls s = some s') :
    exec step' (ls.filterMap see) (view s) = some (view s') := by
  induction ls generalizing s with
  | nil =>
    cases hexec
    rfl
  | cons l ls ih =>
    obtain ⟨s₁, hstep, hrest⟩ := Option.bind_eq_some_iff.mp hexec
    cases hl : see l with
    | none =>
      rw [List.filterMap_cons_none hl, ← hunseen l s s₁ hl hstep]
      exact ih hrest
    | some k =>
      rw [List.filterMap_cons_some hl, exec_cons, hseen l k s s₁ hl hstep, Option.bind_some]
      exact ih hrest

end Effect
