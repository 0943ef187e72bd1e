import Mathlib.Data.List.Induction
import Mathlib.Tactic.Common

/-!
# Undo logs with a single slot

A change overwrites values after a record of them went into a slot; an undo writes the record in
the slot back and empties it.  The record of a later change takes the place of an earlier one, so
the slot is only of use if it still lists the values from before the oldest change that was not
undone, the *baseline*.  `sound_iff` says when it does in a whole run: every change finds the slot
empty, or holding a record that lists the current values anyway.

`V` are the values, `R` the records, `T` what a record holds besides (a time stamp, say), `D` the
values as a record lists them and `O` what is observed of the values.
-/

namespace Undo

variable {T V R D O : Type}

/-- The operations of an undo log. -/
structure Log (T V R D O : Type) where
  change : V → V
  capture : T → V → R
  restore : R → V → V
  listed : R → D
  values : V → D
  observe : V → O

/-- What an undo log relies on: a record lists the values it is made of, changing twice is changing
once, and a record of some values undoes a change of them, as far as can be observed. -/
structure Log.Lawful (L : Log T V R D O) : Prop where
  listed_capture : ∀ t v, L.listed (L.capture t v) = L.values v
  change_change : ∀ v, L.change (L.change v) = L.change v
  observe_restore : ∀ r v, L.listed r = L.values v →
    L.observe (L.restore r (L.change v)) = L.observe v

/-- The current values, the slot, and the values before the oldest change that was not undone. -/
structure State (V R : Type) where
  cur : V
  slot : Option R
  base : Option V

inductive Step (T : Type) where
  | change (t : T)
  | undo

namespace State

variable (L : Log T V R D O)

/-- A change fills the slot, an undo uses and empties it. -/
def step (s : State V R) : Step T → State V R
  | .change t => ⟨L.change s.cur, some (L.capture t s.cur), some (s.base.getD s.cur)⟩
  | .undo =>
    match s.slot with
    | none => s
    | some r => ⟨L.restore r s.cur, none, none⟩

/-- The state after a list of steps. -/
def run (s : State V R) (steps : List (Step T)) : State V R := steps.foldl (step L) s

/-- A record in the slot lists the values of the baseline. -/
def Sound (s : State V R) : Prop :=
  ∀ r, s.slot = some r → ∃ b, s.base = some b ∧ L.listed r = L.values b

/-- An undo would bring back what was observed of the baseline. -/
def Restores (s : State V R) : Prop :=
  ∀ r, s.slot = some r → ∃ b, s.base = some b ∧ L.observe (L.restore r s.cur) = L.observe b

/-- A change may be made: a record in the slot lists the current values. -/
def Clean (s : State V R) : Prop := ∀ r, s.slot = some r → L.listed r = L.values s.cur

/-- What holds in every run: there is a baseline iff the slot is in use, and the current values are
the changed baseline. -/
structure Tracked (s : State V R) : Prop where
  base_isSome : s.base.isSome = s.slot.isSome
  cur_eq : ∀ b, s.base = some b → s.cur = L.change b

/-- The start of a run, with an empty slot. -/
def start (v : V) : State V R := ⟨v, none, none⟩

@[simp] theorem run_nil (s : State V R) : s.run L [] = s := rfl

@[simp] theorem run_append (s : State V R) (steps steps' : List (Step T)) :
    s.run L (steps ++ steps') = (s.run L steps).run L steps' := List.foldl_append ..

@[simp] theorem run_singleton (s : State V R) (a : Step T) : s.run L [a] = s.step L a := rfl

theorem tracked_start (v : V) : (start v : State V R).Tracked L where
  base_isSome := rfl
  cur_eq := by
    rintro b ⟨⟩

variable {L} {s : State V R}

/-- A step keeps the baseline in step with the slot. -/
theorem Tracked.step (hL : L.Lawful) (h : s.Tracked L) (a : Step T) : (s.step L a).Tracked L := by
  cases a with
  | change t =>
    refine ⟨rfl, ?_⟩
    rintro b hb
    change some (s.base.getD s.cur) = some b at hb
    change L.change s.cur = L.change b
    rw [Option.some.injEq] at hb
    cases hbase : s.base with
    | none =>
      rw [← hb, hbase]
      rfl
    | some b' =>
      have hb' : b' = b := by rw [← hb, hbase]; rfl
      rw [h.cur_eq b' hbase, hL.change_change, hb']
  | undo =>
    unfold State.step
    cases hslot : s.slot with
    | none => exact h
    | some r => exact ⟨rfl, by rintro b ⟨⟩⟩

/-- A tracked state with a sound record can be undone. -/
theorem Sound.restores (hL : L.Lawful) (ht : s.Tracked L) (h : s.Sound L) : s.Restores L := by
  intro r hr
  obtain ⟨b, hb, hlisted⟩ := h r hr
  refine ⟨b, hb, ?_⟩
  rw [ht.cur_eq b hb]
  exact hL.observe_restore r b hlisted

/-- A clean change keeps the record sound. -/
theorem Sound.change (hL : L.Lawful) (ht : s.Tracked L) (h : s.Sound L) (hc : s.Clean L) (t : T) :
    (s.step L (.change t)).Sound L := by
  rintro r ⟨⟩
  refine ⟨s.base.getD s.cur, rfl, ?_⟩
  rw [hL.listed_capture]
  cases hbase : s.base with
  | none => rfl
  | some b =>
    have hsome : s.slot.isSome := by rw [← ht.base_isSome, hbase]; rfl
    obtain ⟨r, hr⟩ := Option.isSome_iff_exists.mp hsome
    obtain ⟨b', hb', hlisted⟩ := h r hr
    have hbb : b' = b := Option.some.inj (hb'.symm.trans hbase)
    rw [← hc r hr, hlisted, hbb]
    rfl

/-- An undo leaves no record. -/
theorem Sound.undo (h : s.Sound L) : (s.step L .undo).Sound L := by
  unfold State.step
  cases hslot : s.slot with
  | none => exact h
  | some r =>
    rintro r' ⟨⟩

/-- Where the record is sound before and after a change, the change was clean. -/
theorem Sound.clean (hL : L.Lawful) {t : T} (h : s.Sound L)
    (h' : (s.step L (.change t)).Sound L) : s.Clean L := by
  intro r hr
  obtain ⟨b, hb, hlisted⟩ := h r hr
  obtain ⟨b', hb', hlisted'⟩ := h' _ rfl
  have hbb : b = b' := by
    have hgetD : s.base.getD s.cur = b' := Option.some.inj hb'
    rw [← hgetD, hb]
    rfl
  rw [hlisted, hbb, ← hlisted', hL.listed_capture]

theorem tracked_run (hL : L.Lawful) (v : V) (steps : List (Step T)) :
    ((start v).run L steps).Tracked L := by
  induction steps using List.reverseRecOn with
  | nil => exact tracked_start L v
  | append_singleton steps a ih =>
    rw [run_append, run_singleton]
    exact ih.step hL a

/-- **Single-slot undo logs.**  In a run that starts with an empty slot, the record always lists
the baseline, and an undo would always bring it back, iff every change of the run is clean. -/
theorem sound_iff (hL : L.Lawful) (v : V) (steps : List (Step T)) :
    (∀ pre, pre <+: steps → ((start v).run L pre).Sound L ∧ ((start v).run L pre).Restores L) ↔
      ∀ pre t, pre ++ [.change t] <+: steps → ((start v).run L pre).Clean L := by
  constructor
  · intro h pre t hpre
    have hsound := (h pre ((List.prefix_append _ _).trans hpre)).1
    have hsound' := (h _ hpre).1
    rw [run_append, run_singleton] at hsound'
    exact hsound.clean hL hsound'
  · intro h pre hpre
    have hsound : ((start v).run L pre).Sound L := by
      -- over the steps from left to right: the last one keeps the record sound
      induction pre using List.reverseRecOn with
      | nil =>
        rintro r ⟨⟩
      | append_singleton pre a ih =>
        have ih := ih ((List.prefix_append _ _).trans hpre)
        rw [run_append, run_singleton]
        cases a with
        | change t => exact ih.change hL (tracked_run hL v pre) (h pre t hpre) t
        | undo => exact ih.undo
    exact ⟨hsound, hsound.restores hL (tracked_run hL v pre)⟩

end State

end Undo
