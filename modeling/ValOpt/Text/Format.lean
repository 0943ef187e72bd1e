import Mathlib.Data.List.FinRange
import Mathlib.Tactic.Common

/-!
# Text formats: a writer and its reader

A `Format σ D α` writes values of `α` as texts over the symbols `σ` and reads them back from the
front of a text.  Its laws are part of the type: a text that was written reads back, whatever
follows, as long as what follows is in `D` (a number ends where no digit follows); what is read is a
first part of the text; and reading does not look beyond the rest it leaves, unless that is empty.

Formats are built from literals, single symbols, sequences, choices by the first symbol and
repetitions.  A format is `Closed` when it never looks beyond its end; a text of such a format
cannot be read from a first part of it (`parse_take`).
-/

namespace Text

variable {σ α β : Type}

/-- A writer for `α` and its reader, where a text in `D` follows. -/
structure Format (σ : Type) (D : List σ → Prop) (α : Type) where
  print : α → List σ
  parse : List σ → Option (α × List σ)
  parse_print : ∀ a rest, D rest → parse (print a ++ rest) = some (a, rest)
  suffix : ∀ xs a rest, parse xs = some (a, rest) → rest <:+ xs
  extend : ∀ xs a rest ys, parse xs = some (a, rest) → rest ≠ [] →
    parse (xs ++ ys) = some (a, rest ++ ys)

namespace Format

variable {D D' : List σ → Prop}

/-- Whatever is written starts with a symbol in `p`. -/
def Starts (f : Format σ D α) (p : σ → Prop) : Prop := ∀ a, ∃ c t, f.print a = c :: t ∧ p c

/-- The reader does not look beyond what it reads, and reads something. -/
structure Closed (f : Format σ D α) : Prop where
  parse_nil : f.parse [] = none
  extend : ∀ xs a rest ys, f.parse xs = some (a, rest) → f.parse (xs ++ ys) = some (a, rest ++ ys)

/-- A written text cannot be read from a proper first part of it. -/
theorem Closed.parse_take {f : Format σ D α} (hf : f.Closed) (hD : D []) (a : α) {n : ℕ}
    (hn : n < (f.print a).length) (b : α) (rest : List σ) :
    f.parse ((f.print a).take n) ≠ some (b, rest) := by
  intro h
  have hext := hf.extend _ b rest ((f.print a).drop n) h
  have hwhole := f.parse_print a [] hD
  rw [List.append_nil] at hwhole
  rw [List.take_append_drop, hwhole, Option.some.injEq, Prod.mk.injEq] at hext
  have hdrop : (f.print a).drop n = [] := (List.append_eq_nil_iff.mp hext.2.symm).2
  rw [List.drop_eq_nil_iff] at hdrop
  omega

/-- A text that is not read is not read from a first part of it either. -/
theorem Closed.parse_take_none {f : Format σ D α} (hf : f.Closed) {xs : List σ}
    (h : f.parse xs = none) (n : ℕ) : f.parse (xs.take n) = none := by
  rw [Option.eq_none_iff_forall_ne_some]
  rintro ⟨a, rest⟩ hparse
  have hext := hf.extend _ a rest (xs.drop n) hparse
  rw [List.take_append_drop, h] at hext
  cases hext

theorem Starts.mono {f : Format σ D α} {p q : σ → Prop} (hf : f.Starts p) (h : ∀ c, p c → q c) :
    f.Starts q := by
  intro a
  obtain ⟨c, t, hprint, hc⟩ := hf a
  exact ⟨c, t, hprint, h c hc⟩

/-- The same format where less may follow. -/
def weaken (f : Format σ D α) (h : ∀ rest, D' rest → D rest) : Format σ D' α where
  print := f.print
  parse := f.parse
  parse_print a rest hr := f.parse_print a rest (h rest hr)
  suffix := f.suffix
  extend := f.extend

theorem Closed.weaken {f : Format σ D α} (hf : f.Closed) (h : ∀ rest, D' rest → D rest) :
    (f.weaken h).Closed := ⟨hf.parse_nil, hf.extend⟩

/-! ### Literals and symbols -/

/-- A fixed text. -/
def lit [DecidableEq σ] (text : List σ) : Format σ D Unit where
  print _ := text
  parse xs := if text <+: xs then some ((), xs.drop text.length) else none
  parse_print := by
    intro _ rest _
    simp
  suffix := by
    intro xs _ rest h
    split at h
    · cases h
      exact List.drop_suffix _ _
    · cases h
  extend := by
    intro xs _ rest ys h _
    split at h
    · rename_i hpre
      cases h
      rw [if_pos (hpre.trans (List.prefix_append xs ys)),
        List.drop_append_of_le_length hpre.length_le]
    · cases h

theorem closed_lit [DecidableEq σ] {text : List σ} (h : text ≠ []) :
    (lit text : Format σ D Unit).Closed where
  parse_nil := by
    unfold lit
    simp [h]
  extend := by
    intro xs _ rest ys hparse
    simp only [lit] at hparse ⊢
    split at hparse
    · rename_i hpre
      cases hparse
      rw [if_pos (hpre.trans (List.prefix_append xs ys)),
        List.drop_append_of_le_length hpre.length_le]
    · cases hparse

theorem starts_lit [DecidableEq σ] (c : σ) (text : List σ) :
    (lit (c :: text) : Format σ D Unit).Starts (· = c) := fun _ => ⟨c, text, rfl, rfl⟩

/-- Any single symbol. -/
def symbol : Format σ D σ where
  print c := [c]
  parse
    | [] => none
    | c :: t => some (c, t)
  parse_print _ _ _ := rfl
  suffix := by
    rintro (_ | ⟨c, t⟩) a rest h
    · cases h
    · cases h
      exact List.suffix_cons _ _
  extend := by
    rintro (_ | ⟨c, t⟩) a rest ys h _
    · cases h
    · cases h
      rfl

/-! ### Another view of the values -/

/-- The values as elements of `β`, where `decode` undoes `encode`. -/
def refine (f : Format σ D α) (decode : α → Option β) (encode : β → α)
    (h : ∀ b, decode (encode b) = some b) : Format σ D β where
  print b := f.print (encode b)
  parse xs := (f.parse xs).bind fun p => (decode p.1).map (·, p.2)
  parse_print := by
    intro b rest hr
    simp [f.parse_print _ rest hr, h]
  suffix := by
    intro xs b rest hparse
    simp only [Option.bind_eq_some_iff, Option.map_eq_some_iff, Prod.mk.injEq] at hparse
    obtain ⟨⟨a, r⟩, ha, b', -, -, rfl⟩ := hparse
    exact f.suffix xs a r ha
  extend := by
    intro xs b rest ys hparse hrest
    simp only [Option.bind_eq_some_iff, Option.map_eq_some_iff, Prod.mk.injEq] at hparse ⊢
    obtain ⟨⟨a, r⟩, ha, b', hb, rfl, rfl⟩ := hparse
    exact ⟨_, f.extend xs a r ys ha hrest, b', hb, rfl, rfl⟩

theorem parse_of_parse_refine {f : Format σ D α} {decode : α → Option β} {encode : β → α}
    {h : ∀ b, decode (encode b) = some b} {xs rest : List σ} {b : β}
    (hparse : (f.refine decode encode h).parse xs = some (b, rest)) :
    ∃ a, f.parse xs = some (a, rest) := by
  simp only [Format.refine, Option.bind_eq_some_iff, Option.map_eq_some_iff,
    Prod.mk.injEq] at hparse
  obtain ⟨⟨a, r⟩, ha, b', -, -, rfl⟩ := hparse
  exact ⟨a, ha⟩

theorem Closed.refine {f : Format σ D α} (hf : f.Closed) (decode : α → Option β) (encode : β → α)
    (h : ∀ b, decode (encode b) = some b) : (f.refine decode encode h).Closed where
  parse_nil := by simp [Format.refine, hf.parse_nil]
  extend := by
    intro xs b rest ys hparse
    simp only [Format.refine, Option.bind_eq_some_iff, Option.map_eq_some_iff,
      Prod.mk.injEq] at hparse ⊢
    obtain ⟨⟨a, r⟩, ha, b', hb, rfl, rfl⟩ := hparse
    exact ⟨_, hf.extend xs a r ys ha, b', hb, rfl, rfl⟩

theorem Starts.refine {f : Format σ D α} {p : σ → Prop} (hf : f.Starts p) (decode : α → Option β)
    (encode : β → α) (h : ∀ b, decode (encode b) = some b) : (f.refine decode encode h).Starts p :=
  fun b => hf (encode b)

/-- One of the symbols `f 0`, …, `f (n - 1)`, for its number. -/
def oneOf [DecidableEq σ] {n : ℕ} (f : Fin n → σ) (hf : Function.Injective f) :
    Format σ D (Fin n) :=
  symbol.refine (fun c => (List.finRange n).find? (f · = c)) f (by
    intro i
    cases h : (List.finRange n).find? (f · = f i) with
    | none =>
      rw [List.find?_eq_none] at h
      simpa using h i (List.mem_finRange i)
    | some j =>
      have hj := List.find?_some h
      rw [decide_eq_true_eq] at hj
      rw [hf hj])

/-- The longest first part whose symbols are in `p`, as one word. -/
def word (p : σ → Bool) (print : β → List σ) (decode : List σ → Option β)
    (hp : ∀ b, ∀ c ∈ print b, p c = true) (h : ∀ b, decode (print b) = some b) :
    Format σ (fun rest => ∀ c t, rest = c :: t → p c = false) β where
  print := print
  parse xs := (decode (xs.takeWhile p)).map (·, xs.dropWhile p)
  parse_print := by
    intro b rest hr
    have hrest : rest.takeWhile p = [] ∧ rest.dropWhile p = rest := by
      cases rest with
      | nil => exact ⟨rfl, rfl⟩
      | cons c t => simp [hr c t rfl]
    rw [List.takeWhile_append_of_pos (hp b), List.dropWhile_append_of_pos (hp b), hrest.1, hrest.2,
      List.append_nil, h, Option.map_some]
  suffix := by
    intro xs b rest hparse
    obtain ⟨b', -, heq⟩ := Option.map_eq_some_iff.mp hparse
    cases heq
    exact List.dropWhile_suffix p
  extend := by
    intro xs b rest ys hparse hrest
    obtain ⟨b', hb, heq⟩ := Option.map_eq_some_iff.mp hparse
    cases heq
    -- the word has ended in the text, at a symbol that is not in `p`
    have hne : (xs.takeWhile p).length ≠ xs.length := by
      intro hlen
      apply hrest
      have hsplit := congrArg List.length (List.takeWhile_append_dropWhile (p := p) (l := xs))
      rw [List.length_append] at hsplit
      exact List.eq_nil_of_length_eq_zero (by omega)
    rw [List.takeWhile_append, if_neg hne, List.dropWhile_append, if_neg (by simpa using hrest), hb,
      Option.map_some]

/-! ### Sequences -/

/-- One after the other; what follows the first is the second. -/
def seq (f : Format σ D α) (g : Format σ D' β) (h : ∀ b rest, D' rest → D (g.print b ++ rest)) :
    Format σ D' (α × β) where
  print p := f.print p.1 ++ g.print p.2
  parse xs := (f.parse xs).bind fun p => (g.parse p.2).map fun q => ((p.1, q.1), q.2)
  parse_print := by
    rintro ⟨a, b⟩ rest hr
    rw [List.append_assoc, f.parse_print a _ (h b rest hr), Option.bind_some,
      g.parse_print b rest hr, Option.map_some]
  suffix := by
    intro xs p rest hparse
    simp only [Option.bind_eq_some_iff, Option.map_eq_some_iff, Prod.mk.injEq] at hparse
    obtain ⟨⟨a, r⟩, ha, ⟨b, r'⟩, hb, -, rfl⟩ := hparse
    exact (g.suffix r b r' hb).trans (f.suffix xs a r ha)
  extend := by
    intro xs p rest ys hparse hrest
    simp only [Option.bind_eq_some_iff, Option.map_eq_some_iff, Prod.mk.injEq] at hparse ⊢
    obtain ⟨⟨a, r⟩, ha, ⟨b, r'⟩, hb, rfl, rfl⟩ := hparse
    have hr : r ≠ [] := by
      rintro rfl
      exact hrest (List.suffix_nil.mp (g.suffix _ b r' hb))
    exact ⟨_, f.extend xs a r ys ha hr, _, g.extend r b r' ys hb hrest, rfl, rfl⟩

theorem Closed.seq (f : Format σ D α) {g : Format σ D' β} (hg : g.Closed)
    (h : ∀ b rest, D' rest → D (g.print b ++ rest)) : (f.seq g h).Closed where
  parse_nil := by
    simp only [Format.seq, Option.bind_eq_none_iff, Option.map_eq_none_iff]
    rintro ⟨a, r⟩ ha
    rw [List.suffix_nil.mp (f.suffix _ a r ha), hg.parse_nil]
  extend := by
    intro xs p rest ys hparse
    simp only [Format.seq, Option.bind_eq_some_iff, Option.map_eq_some_iff,
      Prod.mk.injEq] at hparse ⊢
    obtain ⟨⟨a, r⟩, ha, ⟨b, r'⟩, hb, rfl, rfl⟩ := hparse
    -- the second format reads something, so the first one has left something
    have hr : r ≠ [] := by
      rintro rfl
      rw [hg.parse_nil] at hb
      cases hb
    exact ⟨_, f.extend xs a r ys ha hr, _, hg.extend r b r' ys hb, rfl, rfl⟩

theorem Starts.seq {f : Format σ D α} {p : σ → Prop} (hf : f.Starts p) (g : Format σ D' β)
    (h : ∀ b rest, D' rest → D (g.print b ++ rest)) : (f.seq g h).Starts p := by
  rintro ⟨a, b⟩
  obtain ⟨c, t, hprint, hc⟩ := hf a
  exact ⟨c, t ++ g.print b, by simp [Format.seq, hprint], hc⟩

/-- A fixed text, and then the format. -/
def after [DecidableEq σ] (text : List σ) (g : Format σ D β) : Format σ D β :=
  (seq (D := fun _ => True) (lit text) g fun _ _ _ => trivial).refine (fun p => some p.2)
    (fun b => ((), b)) fun _ => rfl

section After

variable [DecidableEq σ] {text : List σ}

theorem prefix_of_parse_after {g : Format σ D β} {xs rest : List σ} {b : β}
    (h : (g.after text).parse xs = some (b, rest)) : text <+: xs := by
  simp only [after, refine, seq, lit, Option.bind_eq_some_iff, Option.map_eq_some_iff] at h
  obtain ⟨_, ⟨⟨_, r⟩, hlit, -⟩, -⟩ := h
  split at hlit
  · assumption
  · cases hlit

theorem Closed.after {g : Format σ D β} (hg : g.Closed) (text : List σ) :
    (g.after text).Closed := (Closed.seq _ hg _).refine _ _ _

theorem starts_after {p : σ → Prop} {c : σ} (hc : p c) (text : List σ) (g : Format σ D β) :
    (g.after (c :: text)).Starts p := fun b => ⟨c, text ++ g.print b, rfl, hc⟩

end After

/-! ### Choices -/

/-- The first symbol decides between two formats. -/
def branch (p : σ → Bool) (f : Format σ D α) (g : Format σ D β) (hf : f.Starts (p · = true))
    (hg : g.Starts (p · = false)) : Format σ D (α ⊕ β) where
  print
    | .inl a => f.print a
    | .inr b => g.print b
  parse
    | [] => none
    | c :: t => if p c then (f.parse (c :: t)).map fun q => (.inl q.1, q.2)
        else (g.parse (c :: t)).map fun q => (.inr q.1, q.2)
  parse_print := by
    rintro (a | b) rest hr
    · obtain ⟨c, t, hprint, hc⟩ := hf a
      have hparse := f.parse_print a rest hr
      dsimp only
      rw [hprint, List.cons_append] at hparse ⊢
      simp only [hc, if_true, hparse, Option.map_some]
    · obtain ⟨c, t, hprint, hc⟩ := hg b
      have hparse := g.parse_print b rest hr
      dsimp only
      rw [hprint, List.cons_append] at hparse ⊢
      simp only [hc, Bool.false_eq_true, if_false, hparse, Option.map_some]
  suffix := by
    rintro (_ | ⟨c, t⟩) q rest h
    · cases h
    · dsimp only at h
      split at h
      · obtain ⟨⟨a, r⟩, ha, heq⟩ := Option.map_eq_some_iff.mp h
        cases heq
        exact f.suffix _ a _ ha
      · obtain ⟨⟨b, r⟩, hb, heq⟩ := Option.map_eq_some_iff.mp h
        cases heq
        exact g.suffix _ b _ hb
  extend := by
    rintro (_ | ⟨c, t⟩) q rest ys h hrest
    · cases h
    · rw [List.cons_append]
      dsimp only at h ⊢
      split at h
      · rename_i hc
        obtain ⟨⟨a, r⟩, ha, heq⟩ := Option.map_eq_some_iff.mp h
        cases heq
        rw [if_pos hc, ← List.cons_append, f.extend _ a _ ys ha hrest, Option.map_some]
      · rename_i hc
        obtain ⟨⟨b, r⟩, hb, heq⟩ := Option.map_eq_some_iff.mp h
        cases heq
        rw [if_neg hc, ← List.cons_append, g.extend _ b _ ys hb hrest, Option.map_some]

theorem Closed.branch {p : σ → Bool} {f : Format σ D α} {g : Format σ D β} (hf : f.Closed)
    (hg : g.Closed) (hfs : f.Starts (p · = true)) (hgs : g.Starts (p · = false)) :
    (Format.branch p f g hfs hgs).Closed where
  parse_nil := rfl
  extend := by
    rintro (_ | ⟨c, t⟩) q rest ys h
    · cases h
    · rw [List.cons_append]
      simp only [Format.branch] at h ⊢
      split at h
      · rename_i hc
        obtain ⟨⟨a, r⟩, ha, heq⟩ := Option.map_eq_some_iff.mp h
        cases heq
        rw [if_pos hc, ← List.cons_append, hf.extend _ a _ ys ha, Option.map_some]
      · rename_i hc
        obtain ⟨⟨b, r⟩, hb, heq⟩ := Option.map_eq_some_iff.mp h
        cases heq
        rw [if_neg hc, ← List.cons_append, hg.extend _ b _ ys hb, Option.map_some]

theorem Starts.branch {p : σ → Bool} {q : σ → Prop} {f : Format σ D α} {g : Format σ D β}
    {hf : f.Starts (p · = true)} {hg : g.Starts (p · = false)} (hfq : f.Starts q)
    (hgq : g.Starts q) : (Format.branch p f g hf hg).Starts q := by
  rintro (a | b)
  · exact hfq a
  · exact hgq b

/-! ### Repetition -/

section Many

variable (p : σ → Bool) (f : Format σ D α)

/-- Read with `f` as long as the first symbol is in `p`, at most `fuel` times. -/
def parseMany : (fuel : ℕ) → List σ → Option (List α × List σ)
  | _, [] => some ([], [])
  | 0, c :: t => if p c then none else some ([], c :: t)
  | fuel + 1, c :: t =>
    if p c then
      (f.parse (c :: t)).bind fun q => (parseMany fuel q.2).map fun r => (q.1 :: r.1, r.2)
    else some ([], c :: t)

variable {p f}

theorem parseMany_stop {fuel : ℕ} {rest : List σ} (h : ∀ c t, rest = c :: t → p c = false) :
    parseMany p f fuel rest = some ([], rest) := by
  cases rest with
  | nil => cases fuel <;> rfl
  | cons c t => cases fuel <;> simp [parseMany, h c t rfl]

/-- Each item needs one unit of fuel. -/
theorem parseMany_print (hf : f.Starts (p · = true)) (hD : ∀ c t, p c = true → D (c :: t))
    (as : List α) {rest : List σ} (hrest : D rest ∧ ∀ c t, rest = c :: t → p c = false) {fuel : ℕ}
    (hfuel : as.length ≤ fuel) :
    parseMany p f fuel (as.flatMap f.print ++ rest) = some (as, rest) := by
  induction as generalizing fuel with
  | nil => exact parseMany_stop hrest.2
  | cons a as ih =>
    obtain ⟨fuel, rfl⟩ : ∃ n, fuel = n + 1 := ⟨fuel - 1, by simp at hfuel; omega⟩
    have hlen : as.length ≤ fuel := by
      rw [List.length_cons] at hfuel
      omega
    -- what follows the item is the next one, or the rest
    have hnext : D (as.flatMap f.print ++ rest) := by
      cases as with
      | nil => exact hrest.1
      | cons b bs =>
        obtain ⟨c, t, hprint, hc⟩ := hf b
        rw [List.flatMap_cons, hprint]
        exact hD c _ hc
    obtain ⟨c, t, hprint, hc⟩ := hf a
    have hparse := f.parse_print a (as.flatMap f.print ++ rest) hnext
    rw [List.flatMap_cons, List.append_assoc]
    rw [hprint, List.cons_append] at hparse ⊢
    simp only [parseMany, hc, if_true, hparse, Option.bind_some, ih hlen, Option.map_some]

/-- An item that cannot be read stops the whole list, however much fuel there is. -/
theorem parseMany_none (hf : f.Starts (p · = true)) (hD : ∀ c t, p c = true → D (c :: t))
    (as : List α) {c : σ} {bad : List σ} (hc : p c = true) (hbad : f.parse (c :: bad) = none)
    (fuel : ℕ) : parseMany p f fuel (as.flatMap f.print ++ c :: bad) = none := by
  induction as generalizing fuel with
  | nil =>
    cases fuel with
    | zero => simp [parseMany, hc]
    | succ fuel => simp [parseMany, hc, hbad]
  | cons a as ih =>
    have hnext : D (as.flatMap f.print ++ c :: bad) := by
      cases as with
      | nil => exact hD c bad hc
      | cons b bs =>
        obtain ⟨c', t, hprint, hc'⟩ := hf b
        rw [List.flatMap_cons, hprint]
        exact hD c' _ hc'
    obtain ⟨c', t, hprint, hc'⟩ := hf a
    have hparse := f.parse_print a _ hnext
    rw [List.flatMap_cons, List.append_assoc]
    rw [hprint, List.cons_append] at hparse ⊢
    cases fuel with
    | zero => simp [parseMany, hc']
    | succ fuel =>
      simp only [parseMany, hc', if_true, hparse, Option.bind_some, ih fuel, Option.map_none]

/-- Every item has at least one symbol. -/
theorem length_le_of_starts {q : σ → Prop} (hf : f.Starts q) (as : List α) :
    as.length ≤ (as.flatMap f.print).length := by
  induction as with
  | nil => simp
  | cons a as ih =>
    obtain ⟨c, t, hprint, -⟩ := hf a
    simp only [List.flatMap_cons, List.length_append, List.length_cons, hprint]
    omega

theorem suffix_of_parseMany {fuel : ℕ} {xs rest : List σ} {as : List α}
    (h : parseMany p f fuel xs = some (as, rest)) : rest <:+ xs := by
  induction fuel generalizing xs as with
  | zero =>
    cases xs with
    | nil =>
      cases h
      exact List.suffix_rfl
    | cons c t =>
      simp only [parseMany] at h
      split at h
      · cases h
      · cases h
        exact List.suffix_rfl
  | succ fuel ih =>
    cases xs with
    | nil =>
      cases h
      exact List.suffix_rfl
    | cons c t =>
      simp only [parseMany] at h
      split at h
      · simp only [Option.bind_eq_some_iff, Option.map_eq_some_iff, Prod.mk.injEq] at h
        obtain ⟨⟨a, r⟩, ha, ⟨bs, r'⟩, hbs, -, rfl⟩ := h
        exact (ih hbs).trans (f.suffix _ a r ha)
      · cases h
        exact List.suffix_rfl

/-- A run that left something stopped there, and so it does with more behind and more fuel. -/
theorem parseMany_extend {fuel : ℕ} {xs rest : List σ} {as : List α}
    (h : parseMany p f fuel xs = some (as, rest)) (hrest : rest ≠ []) (ys : List σ) {more : ℕ}
    (hmore : fuel ≤ more) : parseMany p f more (xs ++ ys) = some (as, rest ++ ys) := by
  induction fuel generalizing xs as more with
  | zero =>
    cases xs with
    | nil =>
      cases h
      exact absurd rfl hrest
    | cons c t =>
      simp only [parseMany] at h
      split at h
      · cases h
      · rename_i hc
        cases h
        refine parseMany_stop ?_
        rintro _ _ ⟨⟩
        simpa using hc
  | succ fuel ih =>
    cases xs with
    | nil =>
      cases h
      exact absurd rfl hrest
    | cons c t =>
      simp only [parseMany] at h
      split at h
      · rename_i hc
        obtain ⟨more, rfl⟩ : ∃ n, more = n + 1 := ⟨more - 1, by omega⟩
        simp only [Option.bind_eq_some_iff, Option.map_eq_some_iff, Prod.mk.injEq] at h
        obtain ⟨⟨a, r⟩, ha, ⟨bs, r'⟩, hbs, rfl, rfl⟩ := h
        -- Something is left over in the end, so something was left after this value.
        have hr : r ≠ [] := by
          rintro rfl
          exact hrest (List.suffix_nil.mp (suffix_of_parseMany hbs))
        rw [List.cons_append, parseMany, if_pos hc, ← List.cons_append, f.extend _ a r ys ha hr,
          Option.bind_some, ih hbs (by omega), Option.map_some]
      · rename_i hc
        cases h
        refine parseMany_stop ?_
        rintro _ _ ⟨⟩
        simpa using hc

/-- As many as there are: the items start with a symbol in `p`, and what follows does not. -/
def many (p : σ → Bool) (f : Format σ D α) (hf : f.Starts (p · = true)) (hD : ∀ rest, D rest) :
    Format σ (fun rest => ∀ c t, rest = c :: t → p c = false) (List α) where
  print as := as.flatMap f.print
  parse xs := parseMany p f xs.length xs
  parse_print := by
    intro as rest hr
    refine parseMany_print hf (fun _ _ _ => hD _) as ⟨hD rest, hr⟩ ?_
    have hitems := length_le_of_starts hf as
    rw [List.length_append]
    omega
  suffix _ _ _ h := suffix_of_parseMany h
  extend xs as rest ys h hrest := parseMany_extend h hrest ys (by simp)

/-- The same for items that another item may follow, or what is left. -/
def chain (p : σ → Bool) (f : Format σ D α) (hf : f.Starts (p · = true))
    (hD : ∀ c t, p c = true → D (c :: t)) :
    Format σ (fun rest => D rest ∧ ∀ c t, rest = c :: t → p c = false) (List α) where
  print as := as.flatMap f.print
  parse xs := parseMany p f xs.length xs
  parse_print := by
    intro as rest hr
    apply parseMany_print hf hD as hr
    have hitems := length_le_of_starts hf as
    rw [List.length_append]
    omega
  suffix _ _ _ h := suffix_of_parseMany h
  extend xs as rest ys h hrest := parseMany_extend h hrest ys (by simp)

end Many

/-! ### Texts that are not read -/

theorem parse_refine_none {f : Format σ D α} {decode : α → Option β} {encode : β → α}
    {h : ∀ b, decode (encode b) = some b} {xs : List σ} (hxs : f.parse xs = none) :
    (f.refine decode encode h).parse xs = none := by
  show (f.parse xs).bind _ = none
  rw [hxs, Option.bind_none]

/-- Neither is a text whose first part is not read. -/
theorem parse_seq_none {f : Format σ D α} {g : Format σ D' β}
    {h : ∀ b rest, D' rest → D (g.print b ++ rest)} {xs : List σ} (hxs : f.parse xs = none) :
    (f.seq g h).parse xs = none := by
  show (f.parse xs).bind _ = none
  rw [hxs, Option.bind_none]

/-- Or whose second part is not. -/
theorem parse_seq_print_none {f : Format σ D α} {g : Format σ D' β}
    {h : ∀ b rest, D' rest → D (g.print b ++ rest)} (a : α) {xs : List σ} (hD : D xs)
    (hxs : g.parse xs = none) : (f.seq g h).parse (f.print a ++ xs) = none := by
  show (f.parse (f.print a ++ xs)).bind _ = none
  rw [f.parse_print a xs hD, Option.bind_some, hxs, Option.map_none]

theorem parse_after_none [DecidableEq σ] {text : List σ} {g : Format σ D β} {xs : List σ}
    (hxs : g.parse xs = none) : (g.after text).parse (text ++ xs) = none :=
  parse_refine_none (parse_seq_print_none () trivial hxs)

theorem parse_branch_left {p : σ → Bool} {f : Format σ D α} {g : Format σ D β}
    {hf : f.Starts (p · = true)} {hg : g.Starts (p · = false)} {c : σ} {t : List σ}
    (hc : p c = true) : (branch p f g hf hg).parse (c :: t) =
      (f.parse (c :: t)).map fun q => (.inl q.1, q.2) := if_pos hc

theorem parse_branch_right {p : σ → Bool} {f : Format σ D α} {g : Format σ D β}
    {hf : f.Starts (p · = true)} {hg : g.Starts (p · = false)} {c : σ} {t : List σ}
    (hc : p c = false) : (branch p f g hf hg).parse (c :: t) =
      (g.parse (c :: t)).map fun q => (.inr q.1, q.2) := if_neg (by simp [hc])

/-! ### Whole texts -/

/-- Read a text that may end in symbols of the class `blank`. -/
def read (f : Format σ D α) (blank : σ → Bool) (xs : List σ) : Option α :=
  match f.parse xs with
  | some (a, rest) => if rest.all blank then some a else none
  | none => none

theorem read_print (f : Format σ D α) (hD : D []) (blank : σ → Bool) (a : α) :
    f.read blank (f.print a) = some a := by
  have hwhole := f.parse_print a [] hD
  rw [List.append_nil] at hwhole
  simp [read, hwhole]

/-- Different values have different texts. -/
theorem print_injective (f : Format σ D α) (hD : D []) : Function.Injective f.print := by
  intro a b h
  have hread := f.read_print hD (fun _ => false) a
  rw [h, f.read_print hD (fun _ => false) b] at hread
  exact (Option.some.inj hread).symm

theorem parse_of_read {f : Format σ D α} {blank : σ → Bool} {xs : List σ} {a : α}
    (h : f.read blank xs = some a) : ∃ rest, f.parse xs = some (a, rest) := by
  unfold read at h
  cases hparse : f.parse xs with
  | none =>
    rw [hparse] at h
    cases h
  | some p =>
    rw [hparse] at h
    dsimp only at h
    split at h
    · cases h
      exact ⟨p.2, rfl⟩
    · cases h

/-- A text that was cut off is not read. -/
theorem Closed.read_take {f : Format σ D α} (hf : f.Closed) (hD : D []) (blank : σ → Bool) (a : α)
    {n : ℕ} (hn : n < (f.print a).length) : f.read blank ((f.print a).take n) = none := by
  unfold read
  cases h : f.parse ((f.print a).take n) with
  | none => rfl
  | some p => exact absurd h (hf.parse_take hD a hn p.1 p.2)

end Format

end Text
