import Mathlib.Data.List.TakeWhile
import ValOpt.Text.Utf8
import ValOpt.Text.WindowsPath

/-!
# Lower case

`str::to_lowercase` of the Rust standard library maps one character after the other by the tables of
Unicode, which a `CaseTable` stands for.  Only the capital sigma depends on the text around it: it
becomes the final sigma at the end of a word.

The backslash ends a word, so that the parts of a path are mapped one by one
(`toLowercase_append_cons`); and texts that are equal up to the case of `A`–`Z` are mapped to the
same text (`toLowercase_congr`).

An `AsciiCaseTable` says more about the ASCII characters, so that a word without `i` and `k` can be
looked for in the mapped text (`prefix_lowercaseAfter_iff`).  Where it is found in bytes is another
matter: a character may become a longer or a shorter one.
-/

namespace Text

/-- The tables of Unicode: what a character becomes, and the properties `Cased` and
`Case_Ignorable`. -/
structure CaseTable where
  lower : Char → List Char
  cased : Char → Bool
  ignorable : Char → Bool
  lower_ne_nil : ∀ c, lower c ≠ []
  lower_backslash : lower '\\' = ['\\']
  eq_of_mem : ∀ c, ∀ d ∈ lower c, d = '\\' ∨ d = '/' → c = d
  cased_backslash : cased '\\' = false
  ignorable_backslash : ignorable '\\' = false
  lower_toLower : ∀ c, lower c.toLower = lower c
  cased_toLower : ∀ c, cased c.toLower = cased c
  ignorable_toLower : ∀ c, ignorable c.toLower = ignorable c

namespace CaseTable

variable (t : CaseTable)

/-- `case_ignorable_then_cased`. -/
def ignorableThenCased (s : List Char) : Bool := (s.dropWhile t.ignorable).head?.any t.cased

/-- What a character becomes, with the text before it, last character first, and the text after
it. -/
def lowerIn (before : List Char) (c : Char) (after : List Char) : List Char :=
  if c = 'Σ' then [if t.ignorableThenCased before && !t.ignorableThenCased after then 'ς' else 'σ']
  else t.lower c

/-- The rest of a text, with the text before it, last character first. -/
def lowercaseAfter : List Char → List Char → List Char
  | _, [] => []
  | before, c :: s => t.lowerIn before c s ++ lowercaseAfter (c :: before) s

/-- `str::to_lowercase`. -/
def toLowercase (s : List Char) : List Char := t.lowercaseAfter [] s

variable {t} {s s' before before' : List Char}

/-! ### The parts of a path -/

/-- A backslash ends the word. -/
theorem ignorableThenCased_append_cons (s rest : List Char) :
    t.ignorableThenCased (s ++ '\\' :: rest) = t.ignorableThenCased s := by
  rw [ignorableThenCased, ignorableThenCased]
  induction s with
  | nil =>
    rw [List.nil_append, List.dropWhile_cons_of_neg (by simp [t.ignorable_backslash])]
    exact t.cased_backslash
  | cons c s ih =>
    rw [List.cons_append, List.dropWhile_cons, List.dropWhile_cons]
    split
    · exact ih
    · rfl

/-- What is before a backslash does not matter. -/
theorem lowercaseAfter_append_cons (before rest s : List Char) :
    t.lowercaseAfter (before ++ '\\' :: rest) s = t.lowercaseAfter before s := by
  induction s generalizing before with
  | nil => rfl
  | cons c s ih =>
    have hrest := ih (c :: before)
    rw [List.cons_append] at hrest
    rw [lowercaseAfter, lowercaseAfter, hrest, lowerIn, lowerIn, ignorableThenCased_append_cons]

/-- Nor does what is after it. -/
theorem lowercaseAfter_concat (before s rest : List Char) :
    t.lowercaseAfter before (s ++ '\\' :: rest) =
      t.lowercaseAfter before s ++ '\\' :: t.lowercaseAfter [] rest := by
  induction s generalizing before with
  | nil =>
    have hbackslash : t.lowerIn before '\\' rest = ['\\'] := by
      rw [lowerIn, if_neg (by decide), t.lower_backslash]
    have hrest := lowercaseAfter_append_cons (t := t) [] before rest
    rw [List.nil_append] at hrest
    show t.lowerIn before '\\' rest ++ t.lowercaseAfter ('\\' :: before) rest = _
    rw [hbackslash, hrest]
    rfl
  | cons c s ih =>
    have hc : t.lowerIn before c (s ++ '\\' :: rest) = t.lowerIn before c s := by
      rw [lowerIn, lowerIn, ignorableThenCased_append_cons]
    rw [List.cons_append, lowercaseAfter, lowercaseAfter, hc, ih, List.append_assoc]

/-- The parts of a path are mapped one by one. -/
theorem toLowercase_append_cons (s rest : List Char) :
    t.toLowercase (s ++ '\\' :: rest) = t.toLowercase s ++ '\\' :: t.toLowercase rest :=
  lowercaseAfter_concat [] s rest

theorem toLowercase_terminated_append (parts : List (List Char)) (s : List Char) :
    t.toLowercase (terminated parts ++ s) =
      terminated (parts.map t.toLowercase) ++ t.toLowercase s := by
  induction parts with
  | nil => rfl
  | cons p parts ih =>
    rw [List.map_cons, terminated_cons, terminated_cons, List.append_assoc, List.append_assoc,
      List.cons_append, List.cons_append, toLowercase_append_cons, ih]

/-- A separator comes from a separator only. -/
theorem mem_of_mem_toLowercase {d : Char} (hd : d = '\\' ∨ d = '/') (h : d ∈ t.toLowercase s) :
    d ∈ s := by
  have hafter : ∀ s before, d ∈ t.lowercaseAfter before s → d ∈ s := by
    intro s
    induction s with
    | nil => exact fun _ h => h
    | cons c s ih =>
      intro before h
      rcases List.mem_append.mp h with hc | hs
      · rw [lowerIn] at hc
        split at hc
        · have hsigma := List.mem_singleton.mp hc
          rw [hsigma] at hd
          split at hd
          · exact absurd hd (by decide)
          · exact absurd hd (by decide)
        · rw [t.eq_of_mem c d hc hd]
          exact List.mem_cons_self
      · exact List.mem_cons_of_mem c (ih _ hs)
  exact hafter s [] h

theorem toLowercase_eq_nil_iff : t.toLowercase s = [] ↔ s = [] := by
  constructor
  · intro h
    cases s with
    | nil => rfl
    | cons c s =>
      obtain ⟨hc, -⟩ := List.append_eq_nil_iff.mp h
      rw [lowerIn] at hc
      split at hc
      · exact absurd hc (List.cons_ne_nil _ _)
      · exact absurd hc (t.lower_ne_nil c)
  · intro h
    rw [h]
    rfl

/-! ### The letters `A`–`Z` -/

theorem ignorableThenCased_map_toLower (s : List Char) :
    t.ignorableThenCased (s.map Char.toLower) = t.ignorableThenCased s := by
  rw [ignorableThenCased, ignorableThenCased]
  induction s with
  | nil => rfl
  | cons c s ih =>
    rw [List.map_cons, List.dropWhile_cons, List.dropWhile_cons, t.ignorable_toLower]
    split
    · exact ih
    · exact t.cased_toLower c

/-- What is behind `Z` is left as it is. -/
theorem toLower_of_gt {c : Char} (hc : 90 < c.toNat) : c.toLower = c := by
  apply dif_neg
  intro hletter
  have hupper : c.toNat ≤ 90 := UInt32.le_iff_toNat_le.mp hletter.2
  omega

/-- What is not left as it is becomes one of `a`–`z`. -/
theorem toLower_cases (c : Char) :
    c.toLower = c ∨ 97 ≤ c.toLower.toNat ∧ c.toLower.toNat ≤ 122 := by
  by_cases hletter : c.val ≥ 'A'.val ∧ c.val ≤ 'Z'.val
  · have hlower : 65 ≤ c.val.toNat := UInt32.le_iff_toNat_le.mp hletter.1
    have hupper : c.val.toNat ≤ 90 := UInt32.le_iff_toNat_le.mp hletter.2
    have hsum : (c.val + ('a'.val - 'A'.val)).toNat = (c.val.toNat + 32) % 2 ^ 32 :=
      UInt32.toNat_add _ _
    have hval : c.toLower.toNat = (c.val + ('a'.val - 'A'.val)).toNat :=
      congrArg Char.toNat (dif_pos hletter)
    omega
  · exact Or.inl (dif_neg hletter)

/-- A separator is not what becomes of a letter. -/
theorem eq_of_mem_toLower {c d : Char} (hd : d ∈ [c.toLower]) (hsep : d = '\\' ∨ d = '/') :
    c = d := by
  rw [List.mem_singleton.mp hd] at hsep ⊢
  rcases toLower_cases c with heq | ⟨hle, -⟩
  · exact heq.symm
  · rcases hsep with heq | heq
    · rw [heq] at hle
      exact absurd hle (by decide)
    · rw [heq] at hle
      exact absurd hle (by decide)

theorem toLower_toLower (c : Char) : c.toLower.toLower = c.toLower := by
  rcases toLower_cases c with heq | ⟨hle, -⟩
  · rw [heq, heq]
  · exact toLower_of_gt (by omega)

theorem singleton_toLower_toLower (c : Char) : [c.toLower.toLower] = [c.toLower] := by
  rw [toLower_toLower]

theorem isLower_toLower_toLower (c : Char) : c.toLower.toLower.isLower = c.toLower.isLower := by
  rw [toLower_toLower]

theorem isLower_toLower_backslash : '\\'.toLower.isLower = false := by
  decide

/-- What is no letter is made of nothing else. -/
theorem toLower_eq_iff {c d : Char} (hd : d.toLower = d)
    (hletter : ¬ (97 ≤ d.toNat ∧ d.toNat ≤ 122)) : c.toLower = d ↔ c = d := by
  constructor
  · intro h
    rcases toLower_cases c with heq | hle
    · rw [← heq, h]
    · rw [h] at hle
      exact absurd hle hletter
  · intro h
    rw [h, hd]

theorem toLower_eq_sigma_iff (c : Char) : c.toLower = 'Σ' ↔ c = 'Σ' :=
  toLower_eq_iff (by decide) (by decide)

theorem lowercaseAfter_map_toLower (before s : List Char) :
    t.lowercaseAfter (before.map Char.toLower) (s.map Char.toLower) =
      t.lowercaseAfter before s := by
  induction s generalizing before with
  | nil => rfl
  | cons c s ih =>
    have hrest := ih (c :: before)
    rw [List.map_cons] at hrest
    have hc : t.lowerIn (before.map Char.toLower) c.toLower (s.map Char.toLower) =
        t.lowerIn before c s := by
      rw [lowerIn, lowerIn, ignorableThenCased_map_toLower, ignorableThenCased_map_toLower,
        t.lower_toLower, if_congr (toLower_eq_sigma_iff c) rfl rfl]
    rw [List.map_cons, lowercaseAfter, lowercaseAfter, hc, hrest]

/-- The case of these letters does not matter. -/
theorem toLowercase_congr (h : s.map Char.toLower = s'.map Char.toLower) :
    t.toLowercase s = t.toLowercase s' := by
  have hs := lowercaseAfter_map_toLower (t := t) [] s
  have hs' := lowercaseAfter_map_toLower (t := t) [] s'
  rw [toLowercase, toLowercase, ← hs, ← hs', h]

end CaseTable

/-- The case of the letters `A`–`Z` alone. -/
def letterCase : CaseTable where
  lower := fun c => [c.toLower]
  cased := fun c => c.toLower.isLower
  ignorable := fun _ => false
  lower_ne_nil := fun _ => List.cons_ne_nil _ _
  lower_backslash := rfl
  eq_of_mem := fun _ _ hd hsep => CaseTable.eq_of_mem_toLower hd hsep
  cased_backslash := CaseTable.isLower_toLower_backslash
  ignorable_backslash := rfl
  lower_toLower := CaseTable.singleton_toLower_toLower
  cased_toLower := CaseTable.isLower_toLower_toLower
  ignorable_toLower := fun _ => rfl

/-! ### Words of ASCII characters -/

theorem toLower_of_not_ascii {c : Char} (hc : 128 ≤ c.toNat) : c.toLower = c :=
  CaseTable.toLower_of_gt (by omega)

theorem toNat_toLower_lt {c : Char} (hc : c.toNat < 128) : c.toLower.toNat < 128 := by
  rcases CaseTable.toLower_cases c with heq | ⟨-, hle⟩
  · rw [heq]
    exact hc
  · omega

theorem utf8Size_toLower (c : Char) : c.toLower.utf8Size = c.utf8Size := by
  by_cases hc : c.toNat < 128
  · have hone : ∀ d : Char, d.toNat < 128 → d.utf8Size = 1 := by
      intro d hd
      apply Char.utf8Size_eq_one_iff.mpr
      apply UInt32.le_iff_toNat_le.mpr
      show d.toNat ≤ 127
      omega
    rw [hone _ (toNat_toLower_lt hc), hone _ hc]
  · rw [toLower_of_not_ascii (by omega)]

/-- A function of the characters that is the same for a letter of either case. -/
theorem apply_toLower {α : Type} {f : Char → α} (hf : ∀ c, c.toNat < 128 → f c.toLower = f c)
    (c : Char) : f c.toLower = f c := by
  by_cases hc : c.toNat < 128
  · exact hf c hc
  · rw [toLower_of_not_ascii (by omega)]

theorem length_bytesOf_map_toLower (s : List Char) :
    (bytesOf (s.map Char.toLower)).length = (bytesOf s).length := by
  induction s with
  | nil => rfl
  | cons c s ih =>
    rw [List.map_cons, length_bytesOf_cons, length_bytesOf_cons, utf8Size_toLower, ih]

/-- The tables of Unicode on the ASCII characters: `i` and `k` are the only ones that other
characters become, the dotted capital and the Kelvin sign. -/
structure AsciiCaseTable extends CaseTable where
  lower_ascii : ∀ c, c.toNat < 128 → lower c = [c.toLower]
  eq_of_ascii_mem : ∀ c, 128 ≤ c.toNat → ∀ d ∈ lower c, d.toNat < 128 → d = 'i' ∨ d = 'k'

namespace AsciiCaseTable

variable (t : AsciiCaseTable)

/-- An ASCII character other than `i` and `k`. -/
def IsPlain (d : Char) : Prop := d.toNat < 128 ∧ d ≠ 'i' ∧ d ≠ 'k'

instance (d : Char) : Decidable (IsPlain d) := inferInstanceAs (Decidable (_ ∧ _))

variable {t} {s w : List Char} {c d : Char}

theorem lowerIn_ascii (hc : c.toNat < 128) (before after : List Char) :
    t.lowerIn before c after = [c.toLower] := by
  have hsigma : c ≠ 'Σ' := by
    intro heq
    rw [heq] at hc
    exact absurd hc (by decide)
  rw [CaseTable.lowerIn, if_neg hsigma, t.lower_ascii c hc]

/-- No other character becomes a plain one. -/
theorem not_isPlain_of_mem_lowerIn (hc : 128 ≤ c.toNat) {before after : List Char}
    (hd : d ∈ t.lowerIn before c after) : ¬IsPlain d := by
  rintro ⟨hascii, hi, hk⟩
  rw [CaseTable.lowerIn] at hd
  split at hd
  · have hsigma := List.mem_singleton.mp hd
    rw [hsigma] at hascii
    split at hascii
    · exact absurd hascii (by decide)
    · exact absurd hascii (by decide)
  · rcases t.eq_of_ascii_mem c hc d hd hascii with heq | heq
    · exact hi heq
    · exact hk heq

theorem lowerIn_ne_nil (before : List Char) (c : Char) (after : List Char) :
    t.lowerIn before c after ≠ [] := by
  rw [CaseTable.lowerIn]
  split
  · exact List.cons_ne_nil _ _
  · exact t.lower_ne_nil c

/-- A plain word is at the front of the mapped text if it is at the front of the text, up to the
case of `A`–`Z`. -/
theorem prefix_lowercaseAfter_iff (hw : ∀ d ∈ w, IsPlain d) (before s : List Char) :
    w <+: t.lowercaseAfter before s ↔ w <+: s.map Char.toLower := by
  induction w generalizing before s with
  | nil => simp
  | cons d w ih =>
    have hd := hw d List.mem_cons_self
    cases s with
    | nil => rfl
    | cons c s =>
      rw [CaseTable.lowercaseAfter, List.map_cons, List.cons_prefix_cons]
      by_cases hc : c.toNat < 128
      · rw [lowerIn_ascii hc, List.singleton_append, List.cons_prefix_cons,
          ih fun e he => hw e (List.mem_cons_of_mem _ he)]
      · have hc : 128 ≤ c.toNat := by omega
        -- Neither text starts with a plain character.
        obtain ⟨e, es, hes⟩ := List.exists_cons_of_ne_nil (lowerIn_ne_nil (t := t) before c s)
        have hmem : e ∈ t.lowerIn before c s := by
          rw [hes]
          exact List.mem_cons_self
        have he := not_isPlain_of_mem_lowerIn hc hmem
        rw [hes, List.cons_append, List.cons_prefix_cons, toLower_of_not_ascii hc]
        constructor
        · rintro ⟨heq, -⟩
          rw [heq] at hd
          exact absurd hd he
        · rintro ⟨heq, -⟩
          have hascii := hd.1
          rw [heq] at hascii
          omega

/-! ### Lengths in bytes -/

/-- The two forms of the small sigma are equally long. -/
theorem length_bytesOf_lowerIn (before before' : List Char) (c : Char) (after after' : List Char) :
    (bytesOf (t.lowerIn before c after)).length =
      (bytesOf (t.lowerIn before' c after')).length := by
  rw [CaseTable.lowerIn, CaseTable.lowerIn]
  split
  · have hsigma : ∀ final : Bool, (bytesOf [if final then 'ς' else 'σ']).length = 2 := by decide
    rw [hsigma, hsigma]
  · rfl

/-- The length of the mapped text does not depend on the text around it. -/
theorem length_bytesOf_lowercaseAfter (before s : List Char) :
    (bytesOf (t.lowercaseAfter before s)).length = (bytesOf (t.toLowercase s)).length := by
  have hbefore : ∀ before', (bytesOf (t.lowercaseAfter before s)).length =
      (bytesOf (t.lowercaseAfter before' s)).length := by
    induction s generalizing before with
    | nil => exact fun _ => rfl
    | cons c s ih =>
      intro before'
      rw [CaseTable.lowercaseAfter, CaseTable.lowercaseAfter, bytesOf_append, bytesOf_append,
        List.length_append, List.length_append, length_bytesOf_lowerIn before before' c s s,
        ih (c :: before) (c :: before')]
  exact hbefore []

theorem length_bytesOf_toLowercase_cons (before : List Char) (c : Char) (after s : List Char) :
    (bytesOf (t.toLowercase (c :: s))).length =
      (bytesOf (t.lowerIn before c after)).length + (bytesOf (t.toLowercase s)).length := by
  rw [CaseTable.toLowercase, CaseTable.lowercaseAfter, bytesOf_append, List.length_append,
    length_bytesOf_lowercaseAfter, length_bytesOf_lowerIn]

end AsciiCaseTable

end Text
