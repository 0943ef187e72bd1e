import Mathlib.Data.List.Perm.Basic
import Mathlib.Order.Lattice

/-!
# Rankings

A ranking is a list sorted by a score, the highest first.  The sort is stable, so elements of equal
score keep the order that they came in.  Where that order is arbitrary, as when they are the values
of a hash map, any ordered arrangement may come out (`forall_ranking_iff`), and so

* the first may be any element of the highest score (`forall_head?_ranking_iff`);
* the second may be any element that one other is not below and the rest are not above
  (`forall_second_ranking_iff`).
-/

namespace Ranking

variable {α κ : Type*} [LinearOrder κ] (score : α → κ)

/-- No element has a higher score than one before it. -/
def Ordered (w : List α) : Prop := w.Pairwise fun a b => score b ≤ score a

/-- The elements, the highest score first. -/
def ranking (l : List α) : List α := l.mergeSort fun a b => score b ≤ score a

theorem ranking_perm (l : List α) : (ranking score l).Perm l := List.mergeSort_perm ..

theorem ordered_ranking (l : List α) : Ordered score (ranking score l) := by
  have htrans : ∀ a b c, decide (score b ≤ score a) → decide (score c ≤ score b) →
      decide (score c ≤ score a) := by
    intro a b c hab hbc
    rw [decide_eq_true_eq] at *
    exact le_trans hbc hab
  have htotal : ∀ a b, decide (score b ≤ score a) || decide (score a ≤ score b) := by
    intro a b
    rw [Bool.or_eq_true, decide_eq_true_eq, decide_eq_true_eq]
    exact le_total ..
  apply (List.pairwise_mergeSort htrans htotal l).imp
  intro a b hab
  rw [decide_eq_true_eq] at hab
  exact hab

variable {score}

/-- What is ordered already stays as it is. -/
theorem ranking_of_ordered {w : List α} (h : Ordered score w) : ranking score w = w := by
  apply List.mergeSort_of_pairwise
  apply h.imp
  intro a b hab
  rw [decide_eq_true_eq]
  exact hab

/-- Of the elements in any order, any ordered arrangement may be the ranking. -/
theorem forall_ranking_iff {l : List α} {Q : List α → Prop} :
    (∀ v, v.Perm l → Q (ranking score v)) ↔ ∀ w, w.Perm l → Ordered score w → Q w := by
  constructor
  · intro h w hperm hordered
    have hw := h w hperm
    rwa [ranking_of_ordered hordered] at hw
  · intro h v hperm
    exact h _ ((ranking_perm score v).trans hperm) (ordered_ranking score v)

/-- The rest of the elements may be ordered behind some that are not below them. -/
theorem exists_ordered {l front rest : List α} (hperm : (front ++ rest).Perm l)
    (hfront : Ordered score front) (hrest : ∀ a ∈ front, ∀ b ∈ rest, score b ≤ score a) :
    ∃ w, (front ++ w).Perm l ∧ Ordered score (front ++ w) := by
  refine ⟨ranking score rest, ?_, ?_⟩
  · exact ((ranking_perm score rest).append_left front).trans hperm
  · apply List.pairwise_append.mpr
    refine ⟨hfront, ordered_ranking score rest, ?_⟩
    intro a ha b hb
    exact hrest a ha b ((ranking_perm score rest).mem_iff.mp hb)

/-- Two elements may be put in front of the rest. -/
theorem exists_perm_cons_cons {l : List α} {a b : α} (ha : a ∈ l) (hb : b ∈ l) (hne : a ≠ b) :
    ∃ rest, (a :: b :: rest).Perm l := by
  classical
  have hmem : b ∈ l.erase a := (List.mem_erase_of_ne hne.symm).mpr hb
  have hinner := List.perm_cons_erase hmem
  exact ⟨_, (hinner.symm.cons a).trans (List.perm_cons_erase ha).symm⟩

/-- **Who may be first.** -/
theorem forall_head?_ranking_iff {l : List α} {P : Option α → Prop} :
    (∀ v, v.Perm l → P (ranking score v).head?) ↔
      (l = [] → P none) ∧ ∀ a ∈ l, (∀ b ∈ l, score b ≤ score a) → P (some a) := by
  rw [forall_ranking_iff (Q := fun w => P w.head?)]
  constructor
  · intro h
    constructor
    · rintro rfl
      exact h [] (List.Perm.refl _) List.Pairwise.nil
    · intro a ha hmax
      obtain ⟨rest, hperm⟩ : ∃ rest, ([a] ++ rest).Perm l := by
        obtain ⟨before, after, rfl⟩ := List.append_of_mem ha
        use before ++ after
        show (a :: (before ++ after)).Perm _
        exact List.perm_middle.symm
      obtain ⟨w, hw, hordered⟩ := exists_ordered hperm (List.pairwise_singleton _ _) (by
        intro b hb c hc
        rw [List.mem_singleton.mp hb]
        exact hmax c (hperm.mem_iff.mp (List.mem_append_right _ hc)))
      exact h _ hw hordered
  · rintro ⟨hnil, hfirst⟩ w hperm hordered
    cases w with
    | nil => exact hnil (List.nil_perm.mp hperm)
    | cons a w =>
      apply hfirst a (hperm.mem_iff.mp List.mem_cons_self)
      intro b hb
      rcases List.mem_cons.mp (hperm.mem_iff.mpr hb) with rfl | hb
      · exact le_refl _
      · exact (List.pairwise_cons.mp hordered).1 b hb

/-- **Who may be second**, or first of one. -/
theorem forall_second_ranking_iff {l : List α} {P : Option α → Prop} :
    (∀ v, v.Perm l → P ((ranking score v)[1]?.or (ranking score v).head?)) ↔
      (l = [] → P none) ∧ (∀ a, l = [a] → P (some a)) ∧
        ∀ a b rest, (b :: a :: rest).Perm l → score a ≤ score b →
          (∀ c ∈ rest, score c ≤ score a) → P (some a) := by
  rw [forall_ranking_iff (Q := fun w => P (w[1]?.or w.head?))]
  constructor
  · intro h
    refine ⟨?_, ?_, ?_⟩
    · rintro rfl
      exact h [] (List.Perm.refl _) List.Pairwise.nil
    · rintro a rfl
      exact h [a] (List.Perm.refl _) (List.pairwise_singleton _ _)
    · intro a b rest hperm hle hrest
      have hfront : Ordered score [b, a] := List.pairwise_pair.mpr hle
      have hperm' : ([b, a] ++ rest).Perm l := hperm
      obtain ⟨w, hw, hordered⟩ := exists_ordered hperm' hfront (by
        intro c hc d hd
        rcases List.mem_pair.mp hc with rfl | rfl
        · exact le_trans (hrest d hd) hle
        · exact hrest d hd)
      exact h _ hw hordered
  · rintro ⟨hnil, hone, hsecond⟩ w hperm hordered
    match w with
    | [] => exact hnil (List.nil_perm.mp hperm)
    | [a] => exact hone a (List.singleton_perm.mp hperm).symm
    | b :: a :: rest =>
      obtain ⟨hb, ha⟩ := List.pairwise_cons.mp hordered
      exact hsecond a b rest hperm (hb a List.mem_cons_self) (List.pairwise_cons.mp ha).1

end Ranking
