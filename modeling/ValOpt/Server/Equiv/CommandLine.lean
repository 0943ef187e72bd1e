import ValOpt.Server.Launcher
import ValOpt.Text.Lowercase

/-!
# The executable of a command line

`extract_executable_from_command` looks for `.exe` in the command in lower case, and cuts the
command at the position that it finds there.  The two positions are the same if what comes before
has the same length in lower case (`extractsExecutable_iff`).  A dotted capital `İ` is longer in
lower case, and the cut may then be beyond the end of the command, which panics; a Kelvin sign is
shorter, and too little is left.
-/

namespace ValOpt

open Text

/-! ### Positions in bytes -/

section Bytes

variable {pattern s p : List Char} {c : Char}

theorem findBytes_of_prefix (h : pattern <+: s) : findBytes pattern s = some 0 := by
  cases s with
  | nil => rw [findBytes, if_pos (List.prefix_nil.mp h)]
  | cons c s => rw [findBytes, if_pos h]

theorem findBytes_cons (h : ¬pattern <+: c :: s) :
    findBytes pattern (c :: s) = (findBytes pattern s).map (· + c.utf8Size) := by
  rw [findBytes, if_neg h]

/-- Characters at which the pattern cannot start are passed over. -/
theorem findBytes_append {d : Char} (s : List Char) :
    ∀ u : List Char, d ∉ u →
      findBytes (d :: pattern) (u ++ s) =
        (findBytes (d :: pattern) s).map (· + (bytesOf u).length) := by
  intro u hu
  induction u with
  | nil => simp
  | cons c u ih =>
    rw [List.mem_cons, not_or] at hu
    have hstart : ¬d :: pattern <+: c :: (u ++ s) := by
      rw [List.cons_prefix_cons]
      exact fun h => hu.1 h.1
    rw [List.cons_append, findBytes_cons hstart, ih hu.2, Option.map_map]
    congr 1
    ext n
    show n + (bytesOf u).length + c.utf8Size = n + (bytesOf (c :: u)).length
    rw [length_bytesOf_cons]
    omega

theorem sliceTo_cons (c : Char) (s : List Char) {n : ℕ} (h : n ≠ 0) : sliceTo (c :: s) n =
    if c.utf8Size ≤ n then (sliceTo s (n - c.utf8Size)).map (c :: ·) else none := by
  rw [sliceTo]
  exact h

/-- What is cut off is the first part of that many bytes. -/
theorem sliceTo_eq_some_iff (s p : List Char) (n : ℕ) :
    sliceTo s n = some p ↔ p <+: s ∧ (bytesOf p).length = n := by
  induction s generalizing p n with
  | nil =>
    cases n with
    | zero =>
      rw [sliceTo, Option.some.injEq, List.prefix_nil]
      constructor
      · intro h
        rw [← h]
        exact ⟨rfl, rfl⟩
      · exact fun h => h.1.symm
    | succ n =>
      rw [sliceTo, List.prefix_nil]
      constructor
      · intro h
        cases h
      · rintro ⟨rfl, h⟩
        cases h
  | cons c s ih =>
    have hpos := c.utf8Size_pos
    have hempty : (bytesOf p).length = 0 ↔ p = [] := by
      cases p with
      | nil => simp
      | cons d p =>
        have hd := d.utf8Size_pos
        rw [length_bytesOf_cons]
        simp only [reduceCtorEq, iff_false]
        omega
    cases n with
    | zero =>
      rw [sliceTo, Option.some.injEq, hempty]
      constructor
      · rintro rfl
        exact ⟨List.nil_prefix, rfl⟩
      · exact fun h => h.2.symm
    | succ n =>
      rw [sliceTo_cons c s (Nat.succ_ne_zero n)]
      cases p with
      | nil => simp
      | cons d p =>
        rw [List.cons_prefix_cons, length_bytesOf_cons]
        -- The first character is cut off as a whole, or the position lies inside it.
        split
        next hle =>
          rw [Option.map_eq_some_iff]
          constructor
          · rintro ⟨q, hq, heq⟩
            obtain ⟨rfl, rfl⟩ := List.cons.inj heq
            obtain ⟨hq, hlen⟩ := (ih q (n + 1 - c.utf8Size)).mp hq
            exact ⟨⟨rfl, hq⟩, by omega⟩
          · rintro ⟨⟨rfl, hp⟩, hlen⟩
            exact ⟨p, (ih p _).mpr ⟨hp, by omega⟩, rfl⟩
        next hlt =>
          constructor
          · intro h
            cases h
          · rintro ⟨⟨rfl, -⟩, hlen⟩
            omega

end Bytes

/-! ### The first `.exe` -/

section Exe

/-- `.exe` in any case. -/
def IsExe (exe : List Char) : Prop := exe.map Char.toLower = ".exe".toList

/-- The command with its first `.exe` between `before` and `after`. -/
structure FirstExe (command before exe after : List Char) : Prop where
  split : command = before ++ exe ++ after
  isExe : IsExe exe
  first : ∀ before' exe' after', command = before' ++ exe' ++ after' → IsExe exe' →
    before.length ≤ before'.length

variable {command before exe after before' exe' after' : List Char}

theorem IsExe.length (h : IsExe exe) : exe.length = 4 := by
  have hlen := congrArg List.length h
  rw [List.length_map] at hlen
  exact hlen

theorem IsExe.length_bytesOf (h : IsExe exe) : (bytesOf exe).length = 4 := by
  have hexe : (bytesOf ".exe".toList).length = 4 := by decide
  rw [← length_bytesOf_map_toLower, h, hexe]

/-- There is one at most. -/
theorem FirstExe.unique (h : FirstExe command before exe after)
    (h' : FirstExe command before' exe' after') : before = before' ∧ exe = exe' := by
  have hlen : before.length = before'.length :=
    le_antisymm (h.first _ _ _ h'.split h'.isExe) (h'.first _ _ _ h.split h.isExe)
  have hsplit : before ++ exe ++ after = before' ++ exe' ++ after' := h.split.symm.trans h'.split
  rw [List.append_assoc, List.append_assoc] at hsplit
  obtain ⟨hbefore, hrest⟩ := List.append_inj hsplit hlen
  have hexe := List.append_inj_left hrest (h.isExe.length.trans h'.isExe.length.symm)
  exact ⟨hbefore, hexe⟩

theorem prefix_map_toLower_iff :
    ".exe".toList <+: command.map Char.toLower ↔
      ∃ exe after, command = exe ++ after ∧ IsExe exe := by
  constructor
  · rintro ⟨rest, hrest⟩
    obtain ⟨exe, after, hcommand, hexe, -⟩ := List.map_eq_append_iff.mp hrest.symm
    exact ⟨exe, after, hcommand, hexe⟩
  · rintro ⟨exe, after, rfl, hexe⟩
    rw [List.map_append, hexe]
    exact List.prefix_append _ _

theorem firstExe_of_prefix (h : ".exe".toList <+: command.map Char.toLower) :
    ∃ exe after, FirstExe command [] exe after := by
  obtain ⟨exe, after, hcommand, hexe⟩ := prefix_map_toLower_iff.mp h
  exact ⟨exe, after, hcommand, hexe, fun _ _ _ _ _ => Nat.zero_le _⟩

/-- What does not start at the first character is in the rest. -/
theorem FirstExe.cons {c : Char} (hstart : ¬".exe".toList <+: (c :: command).map Char.toLower)
    (h : FirstExe command before exe after) : FirstExe (c :: command) (c :: before) exe after := by
  constructor
  case split => rw [h.split, List.cons_append, List.cons_append]
  case isExe => exact h.isExe
  case first =>
    intro before' exe' after' hsplit hexe'
    cases before' with
    | nil => exact absurd (prefix_map_toLower_iff.mpr ⟨exe', after', hsplit, hexe'⟩) hstart
    | cons d before' =>
      rw [List.cons_append, List.cons_append] at hsplit
      have hle := h.first before' exe' after' (List.cons.inj hsplit).2 hexe'
      rw [List.length_cons, List.length_cons]
      omega

variable (t : AsciiCaseTable)

/-- Where `.exe` is found in lower case. -/
theorem findBytes_lowercaseAfter (context command : List Char) :
    (findBytes ".exe".toList (t.lowercaseAfter context command) = none ∧
        ∀ before exe after, command = before ++ exe ++ after → ¬IsExe exe) ∨
      ∃ before exe after, FirstExe command before exe after ∧
        findBytes ".exe".toList (t.lowercaseAfter context command) =
          some (bytesOf (t.toLowercase before)).length := by
  have hplain : ∀ d ∈ ".exe".toList, AsciiCaseTable.IsPlain d := forall_mem_of_all (by decide)
  -- The text before decides the form of a sigma only, so it varies in the induction.
  induction command generalizing context with
  | nil =>
    refine Or.inl ⟨rfl, ?_⟩
    intro before exe after hsplit hexe
    have hlen := congrArg List.length hsplit
    rw [List.length_append, List.length_append, hexe.length, List.length_nil] at hlen
    omega
  | cons c command ih =>
    by_cases hstart : ".exe".toList <+: (c :: command).map Char.toLower
    · obtain ⟨exe, after, hfirst⟩ := firstExe_of_prefix hstart
      refine Or.inr ⟨[], exe, after, hfirst, ?_⟩
      exact findBytes_of_prefix ((AsciiCaseTable.prefix_lowercaseAfter_iff hplain _ _).mpr hstart)
    · -- The characters that the first one becomes are passed over.
      have hskip : findBytes ".exe".toList (t.lowercaseAfter context (c :: command)) =
          (findBytes ".exe".toList (t.lowercaseAfter (c :: context) command)).map
            (· + (bytesOf (t.lowerIn context c command)).length) := by
        have hnot : ¬".exe".toList <+: t.lowercaseAfter context (c :: command) := by
          rw [AsciiCaseTable.prefix_lowercaseAfter_iff hplain]
          exact hstart
        rw [CaseTable.lowercaseAfter] at hnot ⊢
        by_cases hc : c.toNat < 128
        · rw [AsciiCaseTable.lowerIn_ascii hc, List.singleton_append] at hnot ⊢
          rw [findBytes_cons hnot, length_bytesOf_cons]
          rfl
        · -- None of them is the dot.
          apply findBytes_append
          intro hdot
          exact AsciiCaseTable.not_isPlain_of_mem_lowerIn (by omega) hdot (by decide)
      rcases ih (c :: context) with ⟨hnone, hno⟩ | ⟨before, exe, after, hfirst, hsome⟩
      · refine Or.inl ⟨by rw [hskip, hnone, Option.map_none], ?_⟩
        intro before exe after hsplit hexe
        cases before with
        | nil => exact hstart (prefix_map_toLower_iff.mpr ⟨exe, after, hsplit, hexe⟩)
        | cons d before => exact hno before exe after (List.cons.inj hsplit).2 hexe
      · refine Or.inr ⟨c :: before, exe, after, hfirst.cons hstart, ?_⟩
        rw [hskip, hsome, Option.map_some,
          AsciiCaseTable.length_bytesOf_toLowercase_cons context c command, Nat.add_comm]

end Exe

/-! ### The executable -/

section Command

/-- The executable that the command names: the text between the first two quotes, or what ends with
the first `.exe`. -/
def Names (command : List Char) (executable : Option String) : Prop :=
  match command with
  | '"' :: rest => ∀ path, executable = some path ↔
      '"' ∉ path.toList ∧ ∃ after, rest = path.toList ++ '"' :: after
  | command =>
    (executable.isSome ↔ ∃ before exe after, command = before ++ exe ++ after ∧ IsExe exe) ∧
      ∀ path, executable = some path ↔
        ∃ before exe after, FirstExe command before exe after ∧ path.toList = before ++ exe

/-- The function returns the executable that the trimmed command names. -/
def ExtractsExecutable (lower : List Char → List Char) (cmd : String) : Prop :=
  ∃ executable, extractExecutableFromCommand lower cmd = some executable ∧
    Names (trimMatches isWhitespace cmd.toList) executable

/-- What comes before the first `.exe` of an unquoted command has the same length in lower case. -/
def KeepsPosition (lower : List Char → List Char) (cmd : String) : Prop :=
  (trimMatches isWhitespace cmd.toList).head? ≠ some '"' → ∀ before exe after,
    FirstExe (trimMatches isWhitespace cmd.toList) before exe after →
      (bytesOf (lower before)).length = (bytesOf before).length

theorem extractExecutableFromCommand_quoted {lower : List Char → List Char} {cmd : String}
    {rest : List Char} (h : trimMatches isWhitespace cmd.toList = '"' :: rest) :
    extractExecutableFromCommand lower cmd =
      some (if '"' ∈ rest then some (String.ofList (rest.takeWhile (· ≠ '"'))) else none) := by
  rw [extractExecutableFromCommand, h]
  show (if '"' ∈ rest then some (some (String.ofList (rest.takeWhile (· ≠ '"')))) else some none) =
    _
  split
  · rfl
  · rfl

theorem extractExecutableFromCommand_unquoted {lower : List Char → List Char} {cmd : String}
    (h : (trimMatches isWhitespace cmd.toList).head? ≠ some '"') :
    extractExecutableFromCommand lower cmd =
      match findBytes ".exe".toList (lower (trimMatches isWhitespace cmd.toList)) with
      | some pos => (sliceTo (trimMatches isWhitespace cmd.toList) (pos + 4)).map fun path =>
          some (String.ofList path)
      | none => some none := by
  rw [extractExecutableFromCommand]
  split
  · next rest hrest =>
    rw [hrest] at h
    exact absurd rfl h
  · rfl

/-- The cut after the `.exe` that is found in lower case is not between two characters of the
trimmed command, and not at its end. -/
def CutsAmid (lower : List Char → List Char) (cmd : String) : Prop :=
  (trimMatches isWhitespace cmd.toList).head? ≠ some '"' ∧
    ∃ pos, findBytes ".exe".toList (lower (trimMatches isWhitespace cmd.toList)) = some pos ∧
      ∀ before, before <+: trimMatches isWhitespace cmd.toList →
        (bytesOf before).length ≠ pos + 4

theorem sliceTo_eq_none_iff {s : List Char} {n : ℕ} :
    sliceTo s n = none ↔ ∀ before, before <+: s → (bytesOf before).length ≠ n := by
  rw [Option.eq_none_iff_forall_ne_some]
  refine forall_congr' fun before => ?_
  rw [ne_eq, sliceTo_eq_some_iff, not_and]

/-- The command kills the process just if it is cut there. -/
theorem extractExecutableFromCommand_eq_none_iff {lower : List Char → List Char} {cmd : String} :
    extractExecutableFromCommand lower cmd = none ↔ CutsAmid lower cmd := by
  rw [CutsAmid]
  by_cases hhead : (trimMatches isWhitespace cmd.toList).head? = some '"'
  · obtain ⟨rest, hrest⟩ := List.head?_eq_some_iff.mp hhead
    rw [extractExecutableFromCommand_quoted hrest]
    exact iff_of_false nofun fun hcuts => hcuts.1 hhead
  · rw [extractExecutableFromCommand_unquoted hhead, and_iff_right hhead]
    cases findBytes ".exe".toList (lower (trimMatches isWhitespace cmd.toList)) with
    | none => exact iff_of_false nofun nofun
    | some pos =>
      show (sliceTo _ (pos + 4)).map _ = none ↔ _
      rw [Option.map_eq_none_iff, sliceTo_eq_none_iff]
      constructor
      · exact fun hcut => ⟨pos, rfl, hcut⟩
      · rintro ⟨pos', hpos, hcut⟩
        rw [Option.some.injEq] at hpos
        rwa [hpos]

theorem names_unquoted {command : List Char} {executable : Option String}
    (h : command.head? ≠ some '"') : Names command executable ↔
      (executable.isSome ↔ ∃ before exe after, command = before ++ exe ++ after ∧ IsExe exe) ∧
        ∀ path, executable = some path ↔
          ∃ before exe after, FirstExe command before exe after ∧ path.toList = before ++ exe := by
  rw [Names.eq_def]
  split
  · exact absurd rfl h
  · rfl

theorem takeWhile_quote {inside after : List Char} (h : '"' ∉ inside) :
    (inside ++ '"' :: after).takeWhile (· ≠ '"') = inside := by
  have hinside : ∀ c ∈ inside, decide (c ≠ '"') = true := by
    intro c hc
    rw [decide_eq_true_eq]
    intro heq
    rw [heq] at hc
    exact h hc
  rw [List.takeWhile_append_of_pos hinside, List.takeWhile_cons_of_neg (by decide),
    List.append_nil]

/-- The text between the quotes is what is found. -/
theorem names_quoted (rest : List Char) : Names ('"' :: rest)
    (if '"' ∈ rest then some (String.ofList (rest.takeWhile (· ≠ '"'))) else none) := by
  intro path
  constructor
  · intro hpath
    split at hpath
    next hquote =>
      obtain ⟨inside, after, hrest, hinside⟩ := List.eq_append_cons_of_mem hquote
      rw [hrest, takeWhile_quote hinside, Option.some.injEq] at hpath
      rw [← hpath, String.toList_ofList]
      exact ⟨hinside, after, hrest⟩
    next => cases hpath
  · rintro ⟨hinside, after, rfl⟩
    rw [if_pos (List.mem_append_right _ List.mem_cons_self), takeWhile_quote hinside,
      String.ofList_toList]

/-- Without any `.exe` nothing is named. -/
theorem names_none {command : List Char} (hhead : command.head? ≠ some '"')
    (hno : ∀ before exe after, command = before ++ exe ++ after → ¬IsExe exe) :
    Names command none := by
  rw [names_unquoted hhead]
  constructor
  · constructor
    · intro h
      cases h
    · rintro ⟨before, exe, after, hsplit, hexe⟩
      exact absurd hexe (hno before exe after hsplit)
  · intro path
    constructor
    · intro h
      cases h
    · rintro ⟨before, exe, after, hfirst, -⟩
      exact absurd hfirst.isExe (hno before exe after hfirst.split)

/-- Otherwise the path ends with the first one. -/
theorem names_some_iff {command before exe after : List Char} {executable : Option String}
    (hhead : command.head? ≠ some '"') (hfirst : FirstExe command before exe after) :
    Names command executable ↔ executable = some (String.ofList (before ++ exe)) := by
  rw [names_unquoted hhead]
  constructor
  · rintro ⟨-, hpath⟩
    apply (hpath _).mpr
    exact ⟨before, exe, after, hfirst, String.toList_ofList⟩
  · rintro rfl
    constructor
    · constructor
      · exact fun _ => ⟨before, exe, after, hfirst.split, hfirst.isExe⟩
      · exact fun _ => rfl
    · intro path
      rw [Option.some.injEq]
      constructor
      · rintro rfl
        exact ⟨before, exe, after, hfirst, String.toList_ofList⟩
      · rintro ⟨before', exe', after', hfirst', hpath⟩
        obtain ⟨rfl, rfl⟩ := hfirst.unique hfirst'
        rw [← hpath, String.ofList_toList]

/-- The position in lower case cuts the command after the first `.exe` if it is the one there. -/
theorem sliceTo_add_four_iff {command before exe after : List Char} {pos : ℕ}
    (hfirst : FirstExe command before exe after) :
    sliceTo command (pos + 4) = some (before ++ exe) ↔ pos = (bytesOf before).length := by
  have hpre : before ++ exe <+: command := by
    rw [hfirst.split]
    exact List.prefix_append _ _
  rw [sliceTo_eq_some_iff, bytesOf_append, List.length_append, hfirst.isExe.length_bytesOf]
  constructor
  · rintro ⟨-, hlen⟩
    omega
  · intro hlen
    exact ⟨hpre, by omega⟩

/-- The executable is cut out of the command exactly if lower case keeps the position. -/
theorem extractsExecutable_iff (t : AsciiCaseTable) (cmd : String) :
    ExtractsExecutable t.toLowercase cmd ↔ KeepsPosition t.toLowercase cmd := by
  rw [ExtractsExecutable, KeepsPosition]
  by_cases hhead : (trimMatches isWhitespace cmd.toList).head? = some '"'
  · obtain ⟨rest, hrest⟩ := List.head?_eq_some_iff.mp hhead
    constructor
    · intro _ hnot
      exact absurd hhead hnot
    · intro _
      rw [extractExecutableFromCommand_quoted hrest, hrest]
      exact ⟨_, rfl, names_quoted rest⟩
  · rw [extractExecutableFromCommand_unquoted hhead]
    generalize trimMatches isWhitespace cmd.toList = command at hhead ⊢
    rcases findBytes_lowercaseAfter t [] command with
      ⟨hnone, hno⟩ | ⟨before, exe, after, hfirst, hsome⟩
    · -- There is no `.exe` in any case.
      rw [CaseTable.toLowercase, hnone]
      constructor
      · intro _ _ before exe after hfirst
        exact absurd hfirst.isExe (hno before exe after hfirst.split)
      · intro _
        exact ⟨none, rfl, names_none hhead hno⟩
    · have hkeeps : (command.head? ≠ some '"' → ∀ before exe after,
          FirstExe command before exe after →
            (bytesOf (t.toLowercase before)).length = (bytesOf before).length) ↔
          (bytesOf (t.toLowercase before)).length = (bytesOf before).length := by
        constructor
        · exact fun h => h hhead before exe after hfirst
        · intro h _ before' exe' after' hfirst'
          rw [← (hfirst.unique hfirst').1]
          exact h
      have hlower : findBytes ".exe".toList (t.toLowercase command) =
          some (bytesOf (t.toLowercase before)).length := hsome
      rw [hkeeps, ← sliceTo_add_four_iff hfirst, hlower]
      constructor
      · rintro ⟨executable, hslice, hnames⟩
        rw [names_some_iff hhead hfirst] at hnames
        rw [hnames, Option.map_eq_some_iff] at hslice
        obtain ⟨path, hpath, heq⟩ := hslice
        rw [String.ofList_injective (Option.some.inj heq)] at hpath
        exact hpath
      · intro hslice
        refine ⟨_, ?_, (names_some_iff hhead hfirst).mpr rfl⟩
        exact Option.map_eq_some_iff.mpr ⟨_, hslice, rfl⟩

end Command

/-! ### A dotted capital -/

section DottedCapital

/-- What the letters `A`–`Z`, the dotted capital and the Kelvin sign become. -/
def lowerChars (c : Char) : List Char :=
  if c = 'İ' then ['i', '\u0307'] else if c = '\u212A' then ['k'] else [c.toLower]

theorem lowerChars_of_ascii {c : Char} (hc : c.toNat < 128) : lowerChars c = [c.toLower] := by
  have hdotted : c ≠ 'İ' := by
    intro h
    rw [h] at hc
    exact absurd hc (by decide)
  have hkelvin : c ≠ '\u212A' := by
    intro h
    rw [h] at hc
    exact absurd hc (by decide)
  rw [lowerChars, if_neg hdotted, if_neg hkelvin]

/-- What another character becomes. -/
theorem mem_lowerChars {c d : Char} (hc : 128 ≤ c.toNat) (hd : d ∈ lowerChars c) :
    d = 'i' ∨ d = '\u0307' ∨ d = 'k' ∨ d = c := by
  rw [lowerChars] at hd
  split at hd
  · simp only [List.mem_cons, List.not_mem_nil, or_false] at hd
    rcases hd with hd | hd
    · exact Or.inl hd
    · exact Or.inr (Or.inl hd)
  · split at hd
    · exact Or.inr (Or.inr (Or.inl (List.mem_singleton.mp hd)))
    · rw [toLower_of_not_ascii hc] at hd
      exact Or.inr (Or.inr (Or.inr (List.mem_singleton.mp hd)))

/-- A table that knows nothing else. -/
def dottedCase : AsciiCaseTable where
  lower := lowerChars
  cased := fun c => c.toLower.isLower
  ignorable := fun c => decide (c = '\u0307')
  lower_ne_nil := by
    intro c
    rw [lowerChars]
    split
    · exact List.cons_ne_nil _ _
    · split
      · exact List.cons_ne_nil _ _
      · exact List.cons_ne_nil _ _
  lower_backslash := by decide
  eq_of_mem := by
    intro c d hd hsep
    by_cases hc : c.toNat < 128
    · rw [lowerChars_of_ascii hc] at hd
      exact CaseTable.eq_of_mem_toLower hd hsep
    · rcases mem_lowerChars (by omega) hd with heq | heq | heq | heq
      · rw [heq] at hsep
        exact absurd hsep (by decide)
      · rw [heq] at hsep
        exact absurd hsep (by decide)
      · rw [heq] at hsep
        exact absurd hsep (by decide)
      · exact heq.symm
  cased_backslash := CaseTable.isLower_toLower_backslash
  ignorable_backslash := rfl
  lower_toLower := by
    apply apply_toLower
    intro c hc
    rw [lowerChars_of_ascii hc, lowerChars_of_ascii (toNat_toLower_lt hc),
      CaseTable.toLower_toLower]
  cased_toLower := CaseTable.isLower_toLower_toLower
  ignorable_toLower := by
    apply apply_toLower (f := fun c => decide (c = '\u0307'))
    intro c hc
    have hne : ∀ d : Char, d.toNat < 128 → d ≠ '\u0307' := by
      intro d hd heq
      rw [heq] at hd
      exact absurd hd (by decide)
    rw [decide_eq_false (hne c hc), decide_eq_false (hne _ (toNat_toLower_lt hc))]
  lower_ascii := fun c hc => lowerChars_of_ascii hc
  eq_of_ascii_mem := by
    intro c hc d hd hascii
    rcases mem_lowerChars hc hd with heq | heq | heq | heq
    · exact Or.inl heq
    · rw [heq] at hascii
      exact absurd hascii (by decide)
    · exact Or.inr heq
    · rw [heq] at hascii
      omega

/-- The cut is beyond the end. -/
theorem not_extractsExecutable_dotted :
    ¬∀ (t : AsciiCaseTable) cmd, ExtractsExecutable t.toLowercase cmd := by
  intro h
  obtain ⟨executable, hextract, -⟩ := h dottedCase "İ.exe"
  have hnone : extractExecutableFromCommand dottedCase.toLowercase "İ.exe" = none := by
    decide +kernel
  rw [hnone] at hextract
  cases hextract

end DottedCapital

end ValOpt
