import Mathlib.Data.Nat.Find
import Mathlib.Logic.Function.Iterate
import Mathlib.Order.Basic

/-!
# Loops

A `while` loop over a state, in rounds.

* `EndsAfter p body n s`: started in `s`, the loop makes `n` rounds and ends.  This is what
  `whileLoop`, which takes a bound on the rounds, computes (`whileLoop_eq_some_iff`).
* A measure that each round makes smaller is enough for an end (`exists_endsAfter`).
* What the rounds advance over, they partition (`existsUnique_round`).
-/

namespace Loop

variable {σ : Type*} (p : σ → Prop) [DecidablePred p] (body : σ → σ)

/-- `while p { body }`, in at most a given number of rounds. -/
def whileLoop : ℕ → σ → Option σ
  | 0, s => if p s then none else some s
  | fuel + 1, s => if p s then whileLoop fuel (body s) else some s

omit [DecidablePred p] in
/-- The loop makes `n` rounds, and ends. -/
structure EndsAfter (n : ℕ) (s : σ) : Prop where
  runs : ∀ r < n, p (body^[r] s)
  ends : ¬ p (body^[n] s)

variable {p body} {n fuel : ℕ} {s t : σ}

omit [DecidablePred p] in
theorem endsAfter_zero (h : ¬ p s) : EndsAfter p body 0 s :=
  ⟨fun _ hr => absurd hr (Nat.not_lt_zero _), h⟩

omit [DecidablePred p] in
theorem endsAfter_succ_iff : EndsAfter p body (n + 1) s ↔ p s ∧ EndsAfter p body n (body s) := by
  constructor
  · intro h
    have hruns : ∀ r < n, p (body^[r] (body s)) := fun r hr => h.runs (r + 1) (by omega)
    exact ⟨h.runs 0 (by omega), hruns, h.ends⟩
  · intro ⟨hs, h⟩
    constructor
    · intro r hr
      cases r with
      | zero => exact hs
      | succ r => exact h.runs r (by omega)
    · exact h.ends

omit [DecidablePred p] in
/-- The loop ends once. -/
theorem EndsAfter.unique {m : ℕ} (hm : EndsAfter p body m s) (hn : EndsAfter p body n s) :
    m = n := by
  rcases lt_trichotomy m n with h | h | h
  · exact absurd (hn.runs m h) hm.ends
  · exact h
  · exact absurd (hm.runs n h) hn.ends

/-- The bounded loop has a result where the loop ends within the bound. -/
theorem whileLoop_eq_some_iff :
    whileLoop p body fuel s = some t ↔ ∃ n ≤ fuel, EndsAfter p body n s ∧ body^[n] s = t := by
  induction fuel generalizing s with
  | zero =>
    rw [whileLoop]
    constructor
    · intro h
      split at h
      · cases h
      next hp =>
        cases h
        exact ⟨0, le_refl 0, endsAfter_zero hp, rfl⟩
    · intro ⟨n, hn, h, heq⟩
      obtain rfl : n = 0 := by omega
      have hs : ¬ p s := h.ends
      rw [if_neg hs]
      exact congrArg some heq
  | succ fuel ih =>
    rw [whileLoop]
    split
    next hp =>
      rw [ih]
      constructor
      · intro ⟨n, hn, h, heq⟩
        exact ⟨n + 1, by omega, endsAfter_succ_iff.mpr ⟨hp, h⟩, heq⟩
      · intro ⟨n, hn, h, heq⟩
        cases n with
        | zero => exact absurd hp h.ends
        | succ n => exact ⟨n, by omega, (endsAfter_succ_iff.mp h).2, heq⟩
    next hp =>
      rw [Option.some_inj]
      constructor
      · rintro rfl
        exact ⟨0, by omega, endsAfter_zero hp, rfl⟩
      · intro ⟨n, _, h, heq⟩
        obtain rfl := h.unique (endsAfter_zero hp)
        exact heq

/-- Some bound is enough exactly if the loop ends. -/
theorem exists_whileLoop_iff :
    (∃ fuel t, whileLoop p body fuel s = some t) ↔ ∃ n, EndsAfter p body n s := by
  constructor
  · intro ⟨fuel, t, h⟩
    obtain ⟨n, _, hends, _⟩ := whileLoop_eq_some_iff.mp h
    exact ⟨n, hends⟩
  · intro ⟨n, h⟩
    exact ⟨n, body^[n] s, whileLoop_eq_some_iff.mpr ⟨n, le_refl n, h, rfl⟩⟩

/-! ### Progress -/

omit [DecidablePred p] in
/-- A loop whose rounds each make a measure smaller ends. -/
theorem exists_endsAfter {I : σ → Prop} (m : σ → ℕ)
    (hbody : ∀ t, I t → p t → I (body t) ∧ m (body t) < m t) (hs : I s) :
    ∃ n, EndsAfter p body n s := by
  induction hm : m s using Nat.strong_induction_on generalizing s with
  | _ k ih =>
    by_cases hp : p s
    · obtain ⟨hI, hlt⟩ := hbody s hs hp
      obtain ⟨n, h⟩ := ih (m (body s)) (by omega) hI rfl
      exact ⟨n + 1, endsAfter_succ_iff.mpr ⟨hp, h⟩⟩
    · exact ⟨0, endsAfter_zero hp⟩

/-- Rounds that each advance cover everything up to where they come, and nothing twice. -/
theorem existsUnique_round {f : ℕ → ℕ} (hf : ∀ r < n, f r < f (r + 1)) {k : ℕ} (h0 : f 0 ≤ k)
    (hk : k < f n) : ∃! r, r < n ∧ f r ≤ k ∧ k < f (r + 1) := by
  have hmono : ∀ {a b}, a ≤ b → b ≤ n → f a ≤ f b := by
    intro a b hab hb
    induction b, hab using Nat.le_induction with
    | base => exact le_refl _
    | succ b _ ih => exact (ih (by omega)).trans (hf b (by omega)).le
  -- the round before the first value above `k`
  have hex : ∃ r, k < f r := ⟨n, hk⟩
  obtain ⟨r, hr⟩ : ∃ r, Nat.find hex = r + 1 := by
    apply Nat.exists_eq_succ_of_ne_zero
    intro h
    have := Nat.find_spec hex
    rw [h] at this
    omega
  have hrn : r < n := by
    have := Nat.find_le (n := n) (h := hex) hk
    omega
  have hlow : f r ≤ k := not_lt.mp (Nat.find_min hex (by omega))
  refine ⟨r, ⟨hrn, hlow, hr ▸ Nat.find_spec hex⟩, ?_⟩
  intro q ⟨hqn, hq, hq'⟩
  rcases lt_trichotomy q r with h | h | h
  · have := hmono (show q + 1 ≤ r by omega) hrn.le
    omega
  · exact h
  · have := hmono (show r + 1 ≤ q by omega) hqn.le
    have := hr ▸ Nat.find_spec hex
    omega

end Loop
