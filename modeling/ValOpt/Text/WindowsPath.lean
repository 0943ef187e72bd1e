import Mathlib.Data.List.Basic
import Mathlib.Tactic.Common
import ValOpt.Text.Str

/-!
# Windows paths

`parsePath` reads a path as the Rust standard library does: a prefix that names a volume, whether a
root follows it, and the components.  In a verbatim path, one that starts with `\\?\`, only the
backslash separates and no component is special.

A path of a drive that is written out with its names is read back (`parsePath_drive`); one that
starts with letters and no colon has no prefix (`volume_parsePath`).
-/

namespace Text

/-- `std::path::Prefix`. -/
inductive PathPrefix where
  | verbatim (name : String)
  | verbatimUnc (server share : String)
  | verbatimDisk (drive : Char)
  | deviceNs (name : String)
  | unc (server share : String)
  | disk (drive : Char)
  deriving DecidableEq, Repr

/-- A path: its prefix, whether a separator follows, and its components. -/
structure WindowsPath where
  volume : Option PathPrefix
  rooted : Bool
  comps : List String
  deriving DecidableEq, Repr

/-- `is_verbatim_sep` and `is_sep_byte`. -/
def isSeparator (verbatim : Bool) (c : Char) : Bool := c = '\\' || (!verbatim && c = '/')

/-- `parse_next_component`. -/
def nextComponent (verbatim : Bool) (s : List Char) : String × List Char :=
  (String.ofList (s.takeWhile fun c => !isSeparator verbatim c),
    (s.dropWhile fun c => !isSeparator verbatim c).drop 1)

/-- What follows the first component, with the separator. -/
def afterComponent (verbatim : Bool) (s : List Char) : List Char :=
  s.dropWhile fun c => !isSeparator verbatim c

/-- `parse_prefix` after two separators, and what follows the prefix. -/
def parseUnc (verbatim : Bool) (s : List Char) : String × String × List Char :=
  let (server, rest) := nextComponent verbatim s
  (server, (nextComponent verbatim rest).1, afterComponent verbatim rest)

/-- `parse_prefix` after `\\?\`. -/
def parseVerbatim (s : List Char) : PathPrefix × List Char :=
  match s with
  | 'U' :: 'N' :: 'C' :: c :: rest =>
    if isSeparator false c then
      let (server, share, rest) := parseUnc true rest
      (.verbatimUnc server share, rest)
    else (.verbatim (nextComponent true s).1, afterComponent true s)
  | drive :: ':' :: rest =>
    if drive.isAlpha && rest.head?.all (isSeparator true) then (.verbatimDisk drive.toUpper, rest)
    else (.verbatim (nextComponent true s).1, afterComponent true s)
  | _ => (.verbatim (nextComponent true s).1, afterComponent true s)

/-- `parse_prefix` after two separators, which are backslashes if `exact`. -/
def parseNetwork (exact : Bool) (s : List Char) : Option (PathPrefix × List Char) :=
  let unc :=
    let (server, share, rest) := parseUnc false s
    if server ≠ "" ∧ share ≠ "" then some (.unc server share, rest) else none
  match s with
  | '?' :: '\\' :: rest => if exact then some (parseVerbatim rest) else unc
  | '.' :: c :: rest =>
    if isSeparator false c then
      some (.deviceNs (nextComponent false rest).1, afterComponent false rest)
    else unc
  | _ => unc

/-- `parse_prefix`, and what follows the prefix. -/
def parsePrefix (s : List Char) : Option (PathPrefix × List Char) :=
  match s with
  | a :: b :: rest =>
    if isSeparator false a && isSeparator false b then
      parseNetwork (a = '\\' && b = '\\') rest
    else if a.isAlpha && b = ':' then some (.disk a.toUpper, rest)
    else none
  | _ => none

/-- `Prefix::is_verbatim`. -/
def PathPrefix.isVerbatim : PathPrefix → Bool
  | verbatim _ | verbatimUnc _ _ | verbatimDisk _ => true
  | deviceNs _ | unc _ _ | disk _ => false

/-- `Path::components`, without the prefix and the root. -/
def components (verbatim : Bool) (s : List Char) : List String :=
  ((s.splitOnP (isSeparator verbatim)).filter fun c => c ≠ [] ∧ (verbatim = true ∨ c ≠ ['.'])).map
    String.ofList

/-- `Path::new`. -/
def parsePath (s : List Char) : WindowsPath :=
  match parsePrefix s with
  | some (volume, rest) =>
    ⟨some volume, rest.head?.any (isSeparator volume.isVerbatim),
      components volume.isVerbatim rest⟩
  | none => ⟨none, s.head?.any (isSeparator false), components false s⟩

/-- What follows the last dot of a name, if something precedes it. -/
def extensionOf (name : String) : Option String :=
  let before := (name.toList.reverse.dropWhile (· ≠ '.')).drop 1
  if '.' ∈ name.toList ∧ before ≠ [] then
    some (String.ofList (name.toList.reverse.takeWhile (· ≠ '.')).reverse)
  else none

namespace WindowsPath

variable (p : WindowsPath)

/-- `Path::is_absolute`. -/
def isAbsolute : Bool :=
  match p.volume with
  | none => false
  | some (.disk _) => p.rooted
  | some _ => true

/-- `Path::file_name`. -/
def fileName : Option String := p.comps.getLast?.filter fun c => c ≠ ".." ∧ c ≠ "."

/-- `Path::extension`. -/
def extension : Option String := p.fileName.bind extensionOf

end WindowsPath

/-! ### Paths that are written out -/

/-- A name of a file: it has no separator, and is not read as something else. -/
structure IsName (name : String) : Prop where
  ne_empty : name ≠ ""
  ne_dot : name ≠ "."
  ne_dotdot : name ≠ ".."
  not_separator : ∀ c ∈ name.toList, isSeparator false c = false

instance (name : String) : Decidable (IsName name) :=
  decidable_of_iff (name ≠ "" ∧ name ≠ "." ∧ name ≠ ".." ∧
    name.toList.all (fun c => decide (isSeparator false c = false)) = true)
    ⟨fun ⟨h₁, h₂, h₃, h₄⟩ => ⟨h₁, h₂, h₃, forall_mem_of_all h₄⟩, fun ⟨h₁, h₂, h₃, h₄⟩ =>
      ⟨h₁, h₂, h₃, List.all_eq_true.mpr fun c hc => decide_eq_true (h₄ c hc)⟩⟩

/-- The names with backslashes between them. -/
def joinNames (names : List String) : List Char := ['\\'].intercalate (names.map String.toList)

theorem joinNames_cons_cons (n m : String) (names : List String) :
    joinNames (n :: m :: names) = n.toList ++ '\\' :: joinNames (m :: names) := by
  show ['\\'].intercalate (n.toList :: m.toList :: names.map String.toList) = _
  rw [List.intercalate_cons_cons]
  simp [joinNames]

theorem joinNames_singleton (n : String) : joinNames [n] = n.toList := by
  show ['\\'].intercalate [n.toList] = n.toList
  simp

/-- The names are the parts between the separators. -/
theorem splitOnP_joinNames {names : List String} (hnil : names ≠ [])
    (h : ∀ n ∈ names, ∀ c ∈ n.toList, isSeparator false c = false) :
    (joinNames names).splitOnP (isSeparator false) = names.map String.toList := by
  induction names with
  | nil => exact absurd rfl hnil
  | cons n names ih =>
    have hn := h n List.mem_cons_self
    cases names with
    | nil => rw [joinNames_singleton, List.splitOnP_eq_singleton hn, List.map_singleton]
    | cons m names =>
      have hrest := ih (List.cons_ne_nil m names) fun x hx => h x (List.mem_cons_of_mem n hx)
      rw [joinNames_cons_cons, List.splitOnP_append_cons_of_forall_mem hn '\\' rfl,
        hrest]
      rfl

/-- Written out, names are read back. -/
theorem components_joinNames {names : List String} (h : ∀ n ∈ names, IsName n) :
    components false ('\\' :: joinNames names) = names := by
  by_cases hnil : names = []
  · rw [hnil]
    rfl
  have hsplit : ('\\' :: joinNames names).splitOnP (isSeparator false) =
      [] :: (joinNames names).splitOnP (isSeparator false) := by
    have hsep : isSeparator false '\\' = true := rfl
    rw [List.splitOnP_cons_eq_if_modifyHead, if_pos hsep]
  rw [components, hsplit, splitOnP_joinNames hnil fun n hn => (h n hn).not_separator]
  have hkeep : (names.map String.toList).filter (fun c => decide (c ≠ [] ∧
      (false = true ∨ c ≠ ['.']))) = names.map String.toList := by
    rw [List.filter_eq_self]
    intro c hc
    obtain ⟨n, hn, rfl⟩ := List.mem_map.mp hc
    have hname := h n hn
    apply decide_eq_true
    refine ⟨?_, Or.inr ?_⟩
    · intro hempty
      exact hname.ne_empty (String.toList_injective hempty)
    · intro hdot
      exact hname.ne_dot (String.toList_injective hdot)
  rw [List.filter_cons_of_neg (by simp), hkeep, List.map_map]
  have hid : String.ofList ∘ String.toList = id := by
    funext s
    exact String.ofList_toList
  rw [hid, List.map_id]

/-- Texts, each with a backslash at its end. -/
def terminated (parts : List (List Char)) : List Char := parts.flatMap (· ++ ['\\'])

theorem terminated_cons (s : List Char) (parts : List (List Char)) :
    terminated (s :: parts) = s ++ '\\' :: terminated parts := by
  rw [terminated, List.flatMap_cons, List.append_assoc]
  rfl

theorem terminated_append (parts parts' : List (List Char)) :
    terminated (parts ++ parts') = terminated parts ++ terminated parts' := List.flatMap_append

/-- What is before the first backslash, and what is after it. -/
theorem append_cons_inj {s s' rest rest' : List Char} (hs : '\\' ∉ s) (hs' : '\\' ∉ s')
    (h : s ++ '\\' :: rest = s' ++ '\\' :: rest') : s = s' ∧ rest = rest' := by
  induction s generalizing s' with
  | nil =>
    cases s' with
    | nil => exact ⟨rfl, (List.cons.inj h).2⟩
    | cons c s' => exact absurd ((List.cons.inj h).1 ▸ List.mem_cons_self) hs'
  | cons c s ih =>
    cases s' with
    | nil => exact absurd ((List.cons.inj h).1 ▸ List.mem_cons_self) hs
    | cons c' s' =>
      obtain ⟨hc, hrest⟩ := List.cons.inj h
      obtain ⟨hs, hrest⟩ := ih (List.not_mem_of_not_mem_cons hs)
        (List.not_mem_of_not_mem_cons hs') hrest
      exact ⟨by rw [hc, hs], hrest⟩

/-- Whether one list of such texts continues another is seen from the text. -/
theorem prefix_of_terminated_prefix {parts parts' : List (List Char)}
    (hparts : ∀ s ∈ parts, '\\' ∉ s) (hparts' : ∀ s ∈ parts', '\\' ∉ s)
    (h : terminated parts <+: terminated parts') : parts <+: parts' := by
  induction parts generalizing parts' with
  | nil => exact List.nil_prefix
  | cons s parts ih =>
    obtain ⟨rest, hrest⟩ := h
    rw [terminated_cons, List.append_assoc, List.cons_append] at hrest
    cases parts' with
    | nil =>
      have hempty : s ++ '\\' :: (terminated parts ++ rest) = [] := hrest
      exact absurd hempty (by simp)
    | cons s' parts' =>
      rw [terminated_cons] at hrest
      obtain ⟨heq, htail⟩ := append_cons_inj (hparts s List.mem_cons_self)
        (hparts' s' List.mem_cons_self) hrest
      rw [← heq]
      apply (List.prefix_cons_inj s).mpr
      exact ih (fun x hx => hparts x (List.mem_cons_of_mem s hx))
        (fun x hx => hparts' x (List.mem_cons_of_mem s' hx)) ⟨rest, htail⟩

/-- The last name has no backslash at its end. -/
theorem joinNames_concat (names : List String) (n : String) :
    joinNames (names ++ [n]) = terminated (names.map String.toList) ++ n.toList := by
  induction names with
  | nil => exact joinNames_singleton n
  | cons m names ih =>
    rw [List.map_cons, terminated_cons, List.append_assoc, List.cons_append, List.cons_append, ← ih]
    cases names with
    | nil => exact joinNames_cons_cons m n []
    | cons m' names => exact joinNames_cons_cons m m' (names ++ [n])

/-- The prefix of a path of a drive. -/
theorem parsePrefix_drive {drive : Char} (hdrive : drive.isUpper = true) (rest : List Char) :
    parsePrefix (drive :: ':' :: rest) = some (.disk drive, rest) := by
  have hletter : 65 ≤ drive.toNat ∧ drive.toNat ≤ 90 := by
    have hbounds := of_decide_eq_true hdrive
    exact ⟨UInt32.le_iff_toNat_le.mp hbounds.1, UInt32.le_iff_toNat_le.mp hbounds.2⟩
  have halpha : drive.isAlpha = true := Bool.or_eq_true_iff.mpr (.inl hdrive)
  have hupper : drive.toUpper = drive := by
    apply dif_neg
    rintro ⟨hlower, -⟩
    have hlower' : 97 ≤ drive.toNat := UInt32.le_iff_toNat_le.mp hlower
    omega
  have hseparator : isSeparator false drive = false := by
    apply Bool.eq_false_iff.mpr
    intro hsep
    rcases Bool.or_eq_true _ _ ▸ hsep with heq | heq
    · rw [of_decide_eq_true heq] at hletter
      exact absurd hletter (by decide)
    · rw [of_decide_eq_true heq] at hletter
      exact absurd hletter (by decide)
  rw [parsePrefix, hseparator, halpha, hupper]
  rfl

/-- A path of a drive. -/
theorem parsePath_drive {drive : Char} {names : List String} (hdrive : drive.isUpper = true)
    (h : ∀ n ∈ names, IsName n) :
    parsePath (drive :: ':' :: '\\' :: joinNames names) = ⟨some (.disk drive), true, names⟩ := by
  rw [parsePath, parsePrefix_drive hdrive]
  show (⟨some (.disk drive), true, components false ('\\' :: joinNames names)⟩ : WindowsPath) = _
  rw [components_joinNames h]

/-- A component ends at a separator. -/
theorem nextComponent_append {verbatim : Bool} {d : Char} {name : String}
    (hname : ∀ c ∈ name.toList, isSeparator verbatim c = false) (hd : isSeparator verbatim d = true)
    (rest : List Char) : nextComponent verbatim (name.toList ++ d :: rest) = (name, rest) ∧
      afterComponent verbatim (name.toList ++ d :: rest) = d :: rest := by
  have hkeep : ∀ c ∈ name.toList, (!isSeparator verbatim c) = true := by
    intro c hc
    rw [hname c hc]
    rfl
  have hstop : ¬ (!isSeparator verbatim d) = true := by
    rw [hd]
    decide
  have htake : (name.toList ++ d :: rest).takeWhile (fun c => !isSeparator verbatim c) =
      name.toList := by
    rw [List.takeWhile_append_of_pos hkeep,
      List.takeWhile_cons_of_neg (p := fun c => !isSeparator verbatim c) hstop, List.append_nil]
  have hdrop : (name.toList ++ d :: rest).dropWhile (fun c => !isSeparator verbatim c) =
      d :: rest := by
    rw [List.dropWhile_append_of_pos hkeep,
      List.dropWhile_cons_of_neg (p := fun c => !isSeparator verbatim c) hstop]
  constructor
  · rw [nextComponent, htake, hdrop, String.ofList_toList]
    rfl
  · exact hdrop

/-- The prefix of a path of a share. -/
theorem parsePrefix_share {server share : String} (hserver : IsName server) (hquery : server ≠ "?")
    (hshare : IsName share) (rest : List Char) :
    parsePrefix ('\\' :: '\\' :: (server.toList ++ '\\' :: (share.toList ++ '\\' :: rest))) =
      some (.unc server share, '\\' :: rest) := by
  have hsep : isSeparator false '\\' = true := rfl
  have hunc : parseUnc false (server.toList ++ '\\' :: (share.toList ++ '\\' :: rest)) =
      (server, share, '\\' :: rest) := by
    rw [parseUnc, (nextComponent_append hserver.not_separator hsep _).1]
    show (server, (nextComponent false _).1, afterComponent false _) = _
    rw [(nextComponent_append hshare.not_separator hsep _).1,
      (nextComponent_append hshare.not_separator hsep _).2]
  -- a single character before a separator would be the whole name
  have hsingle : ∀ c d rest',
      server.toList ++ '\\' :: (share.toList ++ '\\' :: rest) = c :: d :: rest' →
      isSeparator false d = true → server = String.ofList [c] := by
    intro c d rest' heq hd
    cases hchars : server.toList with
    | nil => exact absurd (String.toList_injective hchars) hserver.ne_empty
    | cons c' s =>
      rw [hchars] at heq
      obtain ⟨hc, hafter⟩ := List.cons.inj heq
      cases s with
      | nil => rw [← hc, ← hchars, String.ofList_toList]
      | cons d' s =>
        have hmem : d' ∈ server.toList := by
          rw [hchars]
          exact List.mem_cons_of_mem _ List.mem_cons_self
        rw [← (List.cons.inj hafter).1, hserver.not_separator d' hmem] at hd
        exact Bool.noConfusion hd
  show parseNetwork true (server.toList ++ '\\' :: (share.toList ++ '\\' :: rest)) = _
  unfold parseNetwork
  dsimp only
  rw [hunc, if_pos ⟨hserver.ne_empty, hshare.ne_empty⟩]
  split
  next rest' heq => exact absurd (hsingle _ _ _ heq hsep) hquery
  next d rest' heq =>
    split
    next hd => exact absurd (hsingle _ _ _ heq hd) hserver.ne_dot
    next => rfl
  next => rfl

/-- A path of a share. -/
theorem parsePath_share {server share : String} {names : List String} (hserver : IsName server)
    (hquery : server ≠ "?") (hshare : IsName share) (h : ∀ n ∈ names, IsName n) :
    parsePath
        ('\\' :: '\\' :: (server.toList ++ '\\' :: (share.toList ++ '\\' :: joinNames names))) =
      ⟨some (.unc server share), true, names⟩ := by
  rw [parsePath, parsePrefix_share hserver hquery hshare]
  show (⟨some (.unc server share), true, components false ('\\' :: joinNames names)⟩ :
    WindowsPath) = _
  rw [components_joinNames h]

/-- Without a colon after its first letter a path has no prefix. -/
theorem volume_parsePath {a b : Char} {rest : List Char} (ha : isSeparator false a = false)
    (hb : b ≠ ':') : (parsePath (a :: b :: rest)).volume = none := by
  have hprefix : parsePrefix (a :: b :: rest) = none := by
    rw [parsePrefix, ha, decide_eq_false hb, Bool.and_false]
    rfl
  rw [parsePath, hprefix]

end Text
