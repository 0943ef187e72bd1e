import Mathlib.Algebra.BigOperators.Group.List.Lemmas
import Mathlib.Algebra.GroupWithZero.Nat
import Mathlib.Data.List.AList
import Mathlib.Data.List.Induction
import Mathlib.Data.List.Perm.Basic
import Mathlib.Order.BoundedOrder.Lattice

/-!
# Tallies

A tally keeps one account for each key.  An entry goes to the account of its key, which is opened
when there is none.  After a run, an account holds what the entries of its key make of it, in their
order (`lookup_tally`), and so

* what every entry adds to is, over all accounts, what all entries add (`foldr_tally`), such as a
  maximum (`max_tally`);
* every entry goes to one account (`sum_length_entriesOf`).
-/

namespace Tally

variable {κ ε α : Type*} [DecidableEq κ] (key : ε → κ) (fresh : ε → α) (add : ε → α → α)

/-- One more entry. -/
def enter (t : AList fun _ : κ => α) (x : ε) : AList fun _ : κ => α :=
  t.insert (key x) (add x ((t.lookup (key x)).getD (fresh x)))

/-- The accounts after the entries, from none. -/
def tally (xs : List ε) : AList fun _ : κ => α := xs.foldl (enter key fresh add) ∅

/-- The entries of a key. -/
def entriesOf (xs : List ε) (k : κ) : List ε := xs.filter fun x => key x = k

/-- The account that some entries make, if there are any. -/
def account : List ε → Option α
  | [] => none
  | x :: xs => some ((x :: xs).foldl (fun a y => add y a) (fresh x))

/-- The accounts themselves. -/
def accounts (t : AList fun _ : κ => α) : List α := t.entries.map (·.2)

variable {key fresh add}

theorem tally_append (xs : List ε) (x : ε) :
    tally key fresh add (xs ++ [x]) = enter key fresh add (tally key fresh add xs) x := by
  rw [tally, List.foldl_append]
  rfl

theorem entriesOf_append (xs : List ε) (x : ε) (k : κ) : entriesOf key (xs ++ [x]) k =
    entriesOf key xs k ++ if key x = k then [x] else [] := by
  rw [entriesOf, List.filter_append]
  congr 1
  by_cases h : key x = k
  · rw [if_pos h, List.filter_cons_of_pos (by simpa using h)]
    rfl
  · rw [if_neg h, List.filter_cons_of_neg (by simpa using h)]
    rfl

/-- One more entry opens the account or adds to it. -/
theorem account_append (xs : List ε) (x : ε) :
    account fresh add (xs ++ [x]) = some (add x ((account fresh add xs).getD (fresh x))) := by
  cases xs with
  | nil => rfl
  | cons y ys =>
    show some ((y :: (ys ++ [x])).foldl _ _) = _
    rw [← List.cons_append, List.foldl_append]
    rfl

/-- What holds of a fresh account, and is kept by every entry, holds of every account. -/
theorem account_induction {p : List ε → α → Prop} (hfresh : ∀ x, p [] (fresh x))
    (hadd : ∀ xs x a, p xs a → p (xs ++ [x]) (add x a)) {xs : List ε} {a : α}
    (h : account fresh add xs = some a) : p xs a := by
  induction xs using List.reverseRecOn generalizing a with
  | nil => cases h
  | append_singleton xs x ih =>
    rw [account_append, Option.some.injEq] at h
    rw [← h]
    apply hadd
    cases hxs : account fresh add xs with
    | none =>
      cases xs with
      | nil => exact hfresh x
      | cons y ys => cases hxs
    | some b => exact ih hxs

/-- What no entry changes stays as the first entry found it. -/
theorem account_fixed {β : Type*} {f : α → β} (hadd : ∀ x a, f (add x a) = f a)
    {xs : List ε} {a : α}
    (h : account fresh add xs = some a) : ∃ x ∈ xs, f a = f (fresh x) := by
  have hfold : ∀ (ys : List ε) a, f (ys.foldl (fun a y => add y a) a) = f a := by
    intro ys
    induction ys with
    | nil =>
      intro a
      rfl
    | cons y ys ih =>
      intro a
      rw [List.foldl_cons, ih, hadd]
  cases xs with
  | nil => cases h
  | cons x xs =>
    obtain rfl := Option.some.inj h
    exact ⟨x, List.mem_cons_self, hfold ..⟩

/-- **An account holds what the entries of its key make of it.** -/
theorem lookup_tally (xs : List ε) (k : κ) :
    (tally key fresh add xs).lookup k = account fresh add (entriesOf key xs k) := by
  induction xs using List.reverseRecOn with
  | nil => rfl
  | append_singleton xs x ih =>
    rw [tally_append, entriesOf_append, enter]
    by_cases h : key x = k
    · subst h
      rw [AList.lookup_insert, if_pos rfl, account_append, ih]
    · rw [AList.lookup_insert_ne (Ne.symm h), if_neg h, List.append_nil, ih]

theorem mem_accounts_iff {t : AList fun _ : κ => α} {a : α} :
    a ∈ accounts t ↔ ∃ k, t.lookup k = some a := by
  simp only [accounts, List.mem_map, ← Option.mem_def, AList.mem_lookup_iff]
  exact ⟨fun ⟨⟨k, b⟩, hmem, heq⟩ => ⟨k, heq ▸ hmem⟩, fun ⟨k, hmem⟩ => ⟨⟨k, a⟩, hmem, rfl⟩⟩

/-- An account exists just if its key was entered. -/
theorem lookup_tally_isSome (xs : List ε) (k : κ) :
    ((tally key fresh add xs).lookup k).isSome ↔ ∃ x ∈ xs, key x = k := by
  rw [lookup_tally]
  cases h : entriesOf key xs k with
  | nil =>
    have hnone := List.filter_eq_nil_iff.mp h
    simp only [account, Option.isSome_none, Bool.false_eq_true, false_iff]
    rintro ⟨x, hx, hk⟩
    exact hnone x hx (by simpa using hk)
  | cons y ys =>
    have hy : y ∈ entriesOf key xs k := h ▸ List.mem_cons_self
    obtain ⟨hmem, hkey⟩ := List.mem_filter.mp hy
    exact iff_of_true rfl ⟨y, hmem, by simpa using hkey⟩

/-- Every entry goes to one account. -/
theorem sum_length_entriesOf (xs : List ε) :
    ((tally key fresh add xs).keys.map fun k => (entriesOf key xs k).length).sum = xs.length := by
  have hkeys : (tally key fresh add xs).keys.Perm (xs.map key).dedup := by
    apply (List.perm_ext_iff_of_nodup (tally key fresh add xs).keys_nodup (List.nodup_dedup _)).mpr
    intro k
    rw [← AList.mem_keys, ← AList.lookup_isSome, lookup_tally_isSome, List.mem_dedup, List.mem_map]
  have hlength : ∀ k, (entriesOf key xs k).length = (xs.map key).count k := by
    intro k
    rw [entriesOf, ← List.countP_eq_length_filter, List.count, List.countP_map]
    apply List.countP_congr
    intro x _
    simp
  simp only [hlength]
  rw [(hkeys.map _).sum_eq, List.sum_map_count_dedup_eq_length, List.length_map]

/-- The accounts, with one of them first. -/
theorem accounts_perm {t : AList fun _ : κ => α} {k : κ} {a : α} (h : t.lookup k = some a) :
    (accounts t).Perm (a :: accounts (t.erase k)) := by
  have hk : k ∈ t.entries.keys := AList.mem_keys.mp (AList.lookup_isSome.mp (by simp [h]))
  obtain ⟨b, l₁, l₂, hnot, heq, herase⟩ := List.exists_of_kerase hk
  have hb : b = a := by
    have hmem : (⟨k, b⟩ : (_ : κ) × α) ∈ t.entries := by simp [heq]
    exact Option.some.inj ((AList.mem_lookup_iff.mpr hmem).symm.trans h)
  have hentries : (t.erase k).entries = l₁ ++ l₂ := herase
  subst hb
  rw [accounts, accounts, heq, hentries, List.map_append, List.map_cons, List.map_append]
  exact List.perm_middle

/-- The accounts change in one place. -/
theorem accounts_enter (t : AList fun _ : κ => α) (x : ε) :
    accounts (enter key fresh add t x) =
      add x ((t.lookup (key x)).getD (fresh x)) :: accounts (t.erase (key x)) := rfl

variable (key fresh add)

/-- **What every entry adds to** is over all accounts what all entries add, for any way of adding
that depends on neither order nor grouping. -/
theorem foldr_tally {M : Type*} {op : M → M → M} [hcomm : Std.Commutative op]
    [hassoc : Std.Associative op] {e : M} (hid : ∀ a, op e a = a) {m : α → M} {w : ε → M}
    (hfresh : ∀ x, m (fresh x) = e) (hadd : ∀ x a, m (add x a) = op (m a) (w x)) (xs : List ε) :
    ((accounts (tally key fresh add xs)).map m).foldr op e = (xs.map w).foldr op e := by
  have hswap : ∀ ys : List M, ∀ b, ys.foldr op (op b e) = op b (ys.foldr op e) := by
    intro ys b
    induction ys with
    | nil => rfl
    | cons y ys ih =>
      rw [List.foldr_cons, ih, List.foldr_cons, ← hassoc.assoc, hcomm.comm y b, hassoc.assoc]
  induction xs using List.reverseRecOn with
  | nil => rfl
  | append_singleton xs x ih =>
    rw [tally_append, accounts_enter, List.map_cons, List.foldr_cons, hadd, List.map_append,
      List.foldr_append, List.map_singleton, List.foldr_cons, List.foldr_nil, hswap, ← ih,
      hcomm.comm (m _), hassoc.assoc]
    congr 1
    cases h : (tally key fresh add xs).lookup (key x) with
    | none =>
      -- there was no account yet
      have hnot : key x ∉ (tally key fresh add xs).entries.keys := by
        intro hmem
        have hsome := AList.lookup_isSome.mpr (AList.mem_keys.mpr hmem)
        simp [h] at hsome
      have herase : (tally key fresh add xs).erase (key x) = tally key fresh add xs :=
        AList.ext (List.kerase_of_notMem_keys hnot)
      rw [herase, Option.getD_none, hfresh, hid]
    | some a =>
      have hperm : ((accounts (tally key fresh add xs)).map m).foldr op e =
          op (m a) (((accounts ((tally key fresh add xs).erase (key x))).map m).foldr op e) :=
        ((accounts_perm h).map m).foldr_op_eq
      exact hperm.symm

/-- The greatest of some values. -/
theorem max_tally {L : Type*} [LinearOrder L] [OrderBot L] {m : α → L} {w : ε → L}
    (hfresh : ∀ x, m (fresh x) = ⊥) (hadd : ∀ x a, m (add x a) = max (m a) (w x)) (xs : List ε) :
    ((accounts (tally key fresh add xs)).map m).foldr max ⊥ = (xs.map w).foldr max ⊥ :=
  foldr_tally key fresh add (fun _ => max_eq_right bot_le) hfresh hadd xs

end Tally
