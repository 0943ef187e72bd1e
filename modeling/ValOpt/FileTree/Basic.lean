import Mathlib.Data.List.AList
import Mathlib.Data.List.Infix
import Mathlib.Logic.Function.Basic
import Mathlib.Order.MinMax
import Mathlib.Tactic.Common

/-!
# File-system trees with links

A tree has directories, files and symbolic links.  A file may have several entries (hard links), so
its content is kept apart from them, under a number.  The entry of a name is found under the key
that `fold` makes of it, and a place in the tree is the list of the keys on the way to it from the
root.

`Tree.walk` follows a path through the links on it, and depends on the directories and links only
(`SameDirs.walk`).  `fileAt` is the file at a place, and `Untouched base` says that two trees have
the same files outside a directory.  A write keeps these just if the place it comes to is `Confined`
(`writeAt_untouched`, `writeAt_touched`), which earlier writes of this kind do not change
(`Grown.confined_iff`).
-/

namespace FileTree

/-- A place, by the keys from the root to it. -/
abbrev Loc := List String

/-- What a link leads to: from a root, or from the directory of the link. -/
structure LinkTarget where
  root : Option Loc
  comps : List String
  deriving DecidableEq, Repr

inductive Node where
  | dir
  | file (id : ℕ)
  | link (target : LinkTarget)
  deriving DecidableEq, Repr

/-- What is found under a key: the name as it is spelled, and what has it. -/
structure Entry where
  name : String
  node : Node
  deriving DecidableEq, Repr

/-- The content of a file, and how often it has been written. -/
structure FileData (δ : Type) where
  content : δ
  writes : ℕ
  deriving DecidableEq, Repr

structure Tree (δ : Type) where
  fold : String → String
  entries : AList fun _ : Loc => Entry
  files : ℕ → FileData δ

namespace Tree

variable {δ : Type}

/-! ### Places -/

/-- What is at a place. -/
def node (t : Tree δ) (loc : Loc) : Option Node :=
  if loc = [] then some .dir else (t.entries.lookup loc).map (·.node)

/-- A directory, or a link with its target. -/
def inner (t : Tree δ) (loc : Loc) : Option (Option LinkTarget) :=
  match t.node loc with
  | some .dir => some none
  | some (.link target) => some (some target)
  | _ => none

def isDir (t : Tree δ) (loc : Loc) : Bool := t.inner loc = some none

/-- A walk from a place, up to the first link, from whose target `next` goes on. -/
def walkFrom (t : Tree δ) (next : Loc → List String → Option Loc) : Loc → List String → Option Loc
  | loc, [] => some loc
  | loc, c :: cs =>
    if c = ".." then walkFrom t next loc.dropLast cs
    else
      match t.inner (loc ++ [t.fold c]) with
      | some none => walkFrom t next (loc ++ [t.fold c]) cs
      | some (some target) => next (target.root.getD loc) (target.comps ++ cs)
      | none => if cs = [] then some (loc ++ [t.fold c]) else none

/-- A walk through at most `n` links.  The last component need not exist. -/
def walk (t : Tree δ) : ℕ → Loc → List String → Option Loc
  | 0 => t.walkFrom fun _ _ => none
  | n + 1 => t.walkFrom (t.walk n)

/-- A walk through as many links as the system follows. -/
def resolve (t : Tree δ) (loc : Loc) (comps : List String) : Option Loc := t.walk 63 loc comps

/-! ### Changes -/

/-- A number that no entry has. -/
def freshId (t : Tree δ) : ℕ :=
  (t.entries.entries.map fun e => match e.2.node with | .file id => id + 1 | _ => 0).foldr max 0

def setNode (t : Tree δ) (loc : Loc) (n : Node) : Tree δ :=
  { t with entries := t.entries.insert loc ⟨loc.getLastD "", n⟩ }

/-- The tree without the entry at a place. -/
def eraseNode (t : Tree δ) (loc : Loc) : Tree δ := { t with entries := t.entries.erase loc }

/-- A file that exists is written. -/
def overwrite (t : Tree δ) (id : ℕ) (content : δ) : Tree δ :=
  { t with files := Function.update t.files id ⟨content, (t.files id).writes + 1⟩ }

/-- A file is written at a place, and created if there is nothing. -/
def writeAt (t : Tree δ) (loc : Loc) (content : δ) : Option (Tree δ) :=
  match t.node loc with
  | some (.file id) => some (t.overwrite id content)
  | some _ => none
  | none =>
    if t.isDir loc.dropLast then
      some ((t.setNode loc (.file t.freshId)).overwrite t.freshId content)
    else none

/-- The entry of a file or link is removed. -/
def unlink (t : Tree δ) (loc : Loc) : Option (Tree δ) :=
  match t.node loc with
  | some (.file _) | some (.link _) => some (t.eraseNode loc)
  | _ => none

/-- The entry of a file or link takes the place of another. -/
def moveEntry (t : Tree δ) (src dst : Loc) : Option (Tree δ) :=
  match t.node src with
  | none | some .dir => none
  | some n =>
    if t.node dst ≠ some .dir ∧ t.isDir dst.dropLast then some ((t.eraseNode src).setNode dst n)
    else none

/-- A directory is created. -/
def makeDir (t : Tree δ) (loc : Loc) : Option (Tree δ) :=
  if t.node loc = none ∧ t.isDir loc.dropLast then some (t.setNode loc .dir) else none

/-! ### Files -/

/-- The file at a place. -/
def fileAt (t : Tree δ) (loc : Loc) : Option (ℕ × FileData δ) :=
  match t.node loc with
  | some (.file id) => some (id, t.files id)
  | _ => none

/-- The trees have the same files outside a directory. -/
def Untouched (base : Loc) (t t' : Tree δ) : Prop :=
  ∀ loc, ¬ base <+: loc → t'.fileAt loc = t.fileAt loc

/-- The trees have the same directories and links. -/
structure SameDirs (t t' : Tree δ) : Prop where
  fold : t'.fold = t.fold
  inner : ∀ loc, t'.inner loc = t.inner loc

/-- The trees have the same files. -/
def SameFiles (t t' : Tree δ) : Prop := ∀ loc, t'.fileAt loc = t.fileAt loc

/-- A write succeeds. -/
def Writable (t : Tree δ) (loc : Loc) : Prop :=
  (∃ id, t.node loc = some (.file id)) ∨ (t.node loc = none ∧ t.isDir loc.dropLast = true)

/-- The file at a place, if there is one, has no entry outside the directory. -/
def OnlyInside (base : Loc) (t : Tree δ) (loc : Loc) : Prop :=
  ∀ id, t.node loc = some (.file id) → ∀ loc', t.node loc' = some (.file id) → base <+: loc'

/-- A write that comes to this place writes no file with an entry outside the directory. -/
structure Confined (base : Loc) (t : Tree δ) (loc : Loc) : Prop where
  file : OnlyInside base t loc
  missing : t.node loc = none → t.isDir loc.dropLast → base <+: loc

variable {t t' t'' : Tree δ} {base loc loc' : Loc} {id : ℕ} {content : δ} {n : Node}

theorem Untouched.refl : Untouched base t t := fun _ _ => rfl

theorem Untouched.trans (h : Untouched base t t') (h' : Untouched base t' t'') :
    Untouched base t t'' := fun loc hloc => (h' loc hloc).trans (h loc hloc)

theorem Untouched.symm (h : Untouched base t t') : Untouched base t' t :=
  fun loc hloc => (h loc hloc).symm

theorem SameFiles.trans (h : SameFiles t t') (h' : SameFiles t' t'') : SameFiles t t'' :=
  fun loc => (h' loc).trans (h loc)

theorem SameFiles.untouched (h : SameFiles t t') : Untouched base t t' := fun loc _ => h loc

theorem fileAt_of_node (h : t.node loc = some (.file id)) :
    t.fileAt loc = some (id, t.files id) := by
  rw [fileAt, h]

theorem node_of_fileAt {data : FileData δ} (h : t.fileAt loc = some (id, data)) :
    t.node loc = some (.file id) ∧ t.files id = data := by
  rw [fileAt] at h
  split at h
  next id' hnode =>
    obtain ⟨rfl, rfl⟩ := Prod.mk.inj (Option.some.inj h)
    exact ⟨hnode, rfl⟩
  next => exact absurd h (Option.some_ne_none _).symm

theorem fileAt_eq_none_iff : t.fileAt loc = none ↔ ∀ id, t.node loc ≠ some (.file id) := by
  rw [fileAt]
  split
  next id h => simp [h]
  next h => exact iff_of_true rfl h

theorem isDir_iff : t.isDir loc = true ↔ t.node loc = some .dir := by
  rw [isDir, decide_eq_true_eq, inner]
  split <;> simp_all

theorem inner_eq_link {target : LinkTarget} :
    t.inner loc = some (some target) ↔ t.node loc = some (.link target) := by
  rw [inner]
  split <;> simp_all

theorem SameDirs.isDir (h : SameDirs t t') : t'.isDir loc = t.isDir loc := by
  rw [Tree.isDir, Tree.isDir, h.inner]

/-- A walk depends on the directories and links. -/
theorem SameDirs.walk (h : SameDirs t t') (k : ℕ) (loc : Loc) (comps : List String) :
    t'.walk k loc comps = t.walk k loc comps := by
  have hfrom : ∀ next : Loc → List String → Option Loc, ∀ comps loc,
      t'.walkFrom next loc comps = t.walkFrom next loc comps := by
    intro next comps
    induction comps with
    | nil => exact fun _ => rfl
    | cons c cs ih =>
      intro loc
      rw [walkFrom, walkFrom, h.fold, h.inner, ih, ih]
  induction k generalizing loc comps with
  | zero => exact hfrom _ comps loc
  | succ k ih =>
    have hnext : t'.walk k = t.walk k := by
      funext loc comps
      exact ih loc comps
    rw [Tree.walk, Tree.walk, hnext]
    exact hfrom _ comps loc

theorem SameDirs.resolve (h : SameDirs t t') (loc : Loc) (comps : List String) :
    t'.resolve loc comps = t.resolve loc comps := h.walk 63 loc comps

/-- A name that is no link is found where it is. -/
theorem resolve_of_not_link {c : String} (hc : c ≠ "..")
    (h : ∀ target, t.node (loc ++ [t.fold c]) ≠ some (.link target)) :
    t.resolve loc [c] = some (loc ++ [t.fold c]) := by
  show t.walkFrom (t.walk 62) loc [c] = _
  rw [walkFrom, if_neg hc]
  cases hinner : t.inner (loc ++ [t.fold c]) with
  | none => rfl
  | some o =>
    cases o with
    | none => rfl
    | some target =>
      rw [inner] at hinner
      split at hinner
      next => exact absurd (Option.some.inj hinner) (Option.some_ne_none target).symm
      next target' hlink => exact absurd hlink (h target')
      next => exact absurd hinner (Option.some_ne_none _).symm

/-! ### Places that a walk comes to -/

/-- The name at a place, as it is spelled. -/
def nameAt (t : Tree δ) (loc : Loc) : String := ((t.entries.lookup loc).map (·.name)).getD ""

/-- The names of the keys that lead on from a place. -/
def spelling (t : Tree δ) (loc : Loc) : Loc → List String
  | [] => []
  | k :: ks => t.nameAt (loc ++ [k]) :: spelling t (loc ++ [k]) ks

/-- A directory, in directories. -/
def SolidDir (t : Tree δ) (loc : Loc) : Prop := ∀ l, l <+: loc → t.isDir l = true

/-- What is above the place are directories. -/
def UnderDirs (t : Tree δ) (loc : Loc) : Prop := ∀ l, l <+: loc → l ≠ loc → t.isDir l = true

/-- Links from a root start in a directory. -/
def RootedLinks (t : Tree δ) : Prop :=
  ∀ loc target root, t.node loc = some (.link target) → target.root = some root → t.SolidDir root

/-- The root is a directory. -/
theorem solidDir_nil (t : Tree δ) : t.SolidDir [] := by
  intro l hl
  rw [List.prefix_nil.mp hl]
  rfl

/-- Links may all start at the root. -/
theorem rootedLinks_of_root (h : ∀ loc e, t.entries.lookup loc = some e →
    ∀ target, e.node = .link target → target.root = some []) : t.RootedLinks := by
  intro loc target root hnode hroot
  by_cases hloc : loc = []
  · rw [hloc] at hnode
    cases hnode
  · rw [node, if_neg hloc] at hnode
    obtain ⟨e, he, hlink⟩ := Option.map_eq_some_iff.mp hnode
    rw [h loc e he target hlink] at hroot
    rw [← Option.some.inj hroot]
    exact t.solidDir_nil

theorem SolidDir.dropLast (h : t.SolidDir loc) : t.SolidDir loc.dropLast :=
  fun l hl => h l (hl.trans (List.dropLast_prefix loc))

theorem SolidDir.underDirs (h : t.SolidDir loc) : t.UnderDirs loc := fun l hl _ => h l hl

/-- The places above `loc ++ [k]` are `loc` and those above it. -/
theorem prefix_concat_cases {l : Loc} {k : String} (h : l <+: loc ++ [k]) (hne : l ≠ loc ++ [k]) :
    l <+: loc := by
  rcases List.prefix_concat_iff.mp h with heq | hprefix
  · exact absurd heq hne
  · exact hprefix

theorem length_concat_ne_one {k : String} (h : loc ≠ []) : (loc ++ [k]).length ≠ 1 := by
  have hpos := List.length_pos_iff.mpr h
  rw [List.length_append, List.length_singleton]
  omega

theorem SolidDir.concat {k : String} (h : t.SolidDir loc) (hdir : t.isDir (loc ++ [k]) = true) :
    t.SolidDir (loc ++ [k]) := by
  intro l hl
  by_cases heq : l = loc ++ [k]
  · rw [heq]
    exact hdir
  · exact h l (prefix_concat_cases hl heq)

/-- A walk from a directory ends under directories. -/
theorem underDirs_walk (hlinks : t.RootedLinks) (n : ℕ) (comps : List String)
    (hloc : t.SolidDir loc) (h : t.walk n loc comps = some loc') : t.UnderDirs loc' := by
  have hfrom : ∀ next : Loc → List String → Option Loc,
      (∀ loc comps, t.SolidDir loc → next loc comps = some loc' → t.UnderDirs loc') →
      ∀ comps loc, t.SolidDir loc → t.walkFrom next loc comps = some loc' → t.UnderDirs loc' := by
    intro next hnext comps
    induction comps with
    | nil =>
      intro loc hloc h
      rw [← Option.some.inj h]
      exact hloc.underDirs
    | cons c cs ih =>
      intro loc hloc h
      rw [walkFrom] at h
      split at h
      · exact ih _ hloc.dropLast h
      · split at h
        next hinner =>
          exact ih _ (hloc.concat (by rw [isDir, hinner]; exact decide_eq_true rfl)) h
        next target hinner =>
          apply hnext _ _ _ h
          cases hroot : target.root with
          | none => exact hloc
          | some root => exact hlinks _ target root (inner_eq_link.mp hinner) hroot
        next =>
          obtain ⟨-, heq⟩ := Option.ite_none_right_eq_some.mp h
          rw [← Option.some.inj heq]
          exact fun l hl hne => hloc l (prefix_concat_cases hl hne)
  induction n generalizing loc comps with
  | zero => exact hfrom (fun _ _ => none) (fun _ _ _ h => nomatch h) comps loc hloc h
  | succ n ih => exact hfrom (t.walk n) (fun loc comps hloc h => ih comps hloc h) comps loc hloc h

/-- A walk to a directory goes on to what is in it, if that is no link. -/
theorem walk_concat {c : String} {dir : Loc} (n : ℕ) (comps : List String)
    (h : t.walk n loc comps = some dir) (hdir : t.isDir dir = true) (hc : c ≠ "..")
    (hlink : ∀ target, t.node (dir ++ [t.fold c]) ≠ some (.link target)) :
    t.walk n loc (comps ++ [c]) = some (dir ++ [t.fold c]) := by
  have hfrom : ∀ next : Loc → List String → Option Loc,
      (∀ loc comps, next loc comps = some dir →
        next loc (comps ++ [c]) = some (dir ++ [t.fold c])) →
      ∀ comps loc, t.walkFrom next loc comps = some dir →
        t.walkFrom next loc (comps ++ [c]) = some (dir ++ [t.fold c]) := by
    intro next hnext comps
    induction comps with
    | nil =>
      intro loc h
      rw [List.nil_append, walkFrom, if_neg hc, Option.some.inj h]
      cases hinner : t.inner (dir ++ [t.fold c]) with
      | none => rfl
      | some o =>
        cases o with
        | none => rfl
        | some target => exact absurd (inner_eq_link.mp hinner) (hlink target)
    | cons c' cs ih =>
      intro loc h
      rw [walkFrom] at h
      rw [List.cons_append, walkFrom]
      split at h
      next hdots =>
        rw [if_pos hdots]
        exact ih _ h
      next hdots =>
        rw [if_neg hdots]
        cases hinner : t.inner (loc ++ [t.fold c']) with
        | none =>
          -- then there is no directory at the end
          rw [hinner] at h
          obtain ⟨-, heq⟩ := Option.ite_none_right_eq_some.mp h
          rw [isDir, ← Option.some.inj heq, hinner] at hdir
          exact absurd hdir (by simp)
        | some o =>
          rw [hinner] at h
          cases o with
          | none => exact ih _ h
          | some target =>
            have hrest := hnext _ _ h
            rw [List.append_assoc] at hrest
            exact hrest
  induction n generalizing loc comps with
  | zero => exact hfrom (fun _ _ => none) (fun _ _ h => nomatch h) comps loc h
  | succ n ih => exact hfrom (t.walk n) (fun loc comps h => ih comps h) comps loc h

/-- A walk that goes on has come to a directory. -/
theorem walk_init {c : String} {rest : List String} (hlinks : t.RootedLinks) (n : ℕ)
    (comps : List String) (hloc : t.SolidDir loc)
    (h : t.walk n loc (comps ++ c :: rest) = some loc') :
    ∃ dir, t.walk n loc comps = some dir ∧ t.SolidDir dir := by
  -- One walk without a link, for any way of going on behind one.
  have hfrom : ∀ next : Loc → List String → Option Loc,
      (∀ loc comps, t.SolidDir loc → next loc (comps ++ c :: rest) = some loc' →
        ∃ dir, next loc comps = some dir ∧ t.SolidDir dir) →
      ∀ comps loc, t.SolidDir loc → t.walkFrom next loc (comps ++ c :: rest) = some loc' →
        ∃ dir, t.walkFrom next loc comps = some dir ∧ t.SolidDir dir := by
    intro next hnext comps
    induction comps with
    | nil => exact fun loc hloc _ => ⟨loc, rfl, hloc⟩
    | cons c' cs ih =>
      intro loc hloc h
      rw [List.cons_append, walkFrom] at h
      rw [walkFrom]
      split at h
      next hdots =>
        rw [if_pos hdots]
        exact ih _ hloc.dropLast h
      next hdots =>
        rw [if_neg hdots]
        cases hinner : t.inner (loc ++ [t.fold c']) with
        | none =>
          rw [hinner] at h
          obtain ⟨hnil, -⟩ := Option.ite_none_right_eq_some.mp h
          exact absurd hnil (by simp)
        | some o =>
          rw [hinner] at h
          cases o with
          | none => exact ih _ (hloc.concat (by rw [isDir, hinner]; exact decide_eq_true rfl)) h
          | some target =>
            apply hnext
            · cases hroot : target.root with
              | none => exact hloc
              | some root => exact hlinks _ target root (inner_eq_link.mp hinner) hroot
            · rw [List.append_assoc]
              exact h
  induction n generalizing loc comps with
  | zero => exact hfrom (fun _ _ => none) (fun _ _ _ h => nomatch h) comps loc hloc h
  | succ n ih => exact hfrom (t.walk n) (fun loc comps hloc h => ih comps hloc h) comps loc hloc h

/-- A walk that comes to a place with `W`, which what is below has as well, and meets no link at
such places from there on, does not leave them. -/
theorem resolve_stays {W : Loc → Prop} (hlinks : t.RootedLinks)
    (hroot : t.SolidDir []) (hW : ∀ l k, W l → W (l ++ [k])) (rest : List String) :
    ∀ (comps : List String) (c : String) (dir : Loc),
      t.resolve [] comps = some dir → W (dir ++ [t.fold c]) → (∀ d ∈ c :: rest, d ≠ "..") →
      (∀ more d, more ++ [d] <+: rest → ∀ dir', t.resolve [] (comps ++ c :: more) = some dir' →
        W (dir' ++ [t.fold d]) → ∀ target, t.node (dir' ++ [t.fold d]) ≠ some (.link target)) →
      (∀ target, t.node (dir ++ [t.fold c]) ≠ some (.link target)) →
      t.resolve [] (comps ++ c :: rest) = some loc → W loc := by
  induction rest with
  | nil =>
    intro comps c dir hcomps hw hdots _ hlink h
    obtain ⟨dir', hdir', hsolid⟩ := walk_init hlinks 63 comps hroot h
    have hsame : dir' = dir := Option.some.inj (hdir'.symm.trans hcomps)
    rw [hsame] at hsolid
    have hend := walk_concat 63 comps hcomps (hsolid dir List.prefix_rfl)
      (hdots c List.mem_cons_self) hlink
    rw [← Option.some.inj (hend.symm.trans h)]
    exact hw
  | cons d rest ih =>
    intro comps c dir hcomps hw hdots hmore hlink h
    obtain ⟨dir', hdir', hsolid⟩ := walk_init hlinks 63 comps hroot h
    have hsame : dir' = dir := Option.some.inj (hdir'.symm.trans hcomps)
    rw [hsame] at hsolid
    have hnext : t.resolve [] (comps ++ [c]) = some (dir ++ [t.fold c]) :=
      walk_concat 63 comps hcomps (hsolid dir List.prefix_rfl) (hdots c List.mem_cons_self) hlink
    have happend : ∀ l, comps ++ c :: l = (comps ++ [c]) ++ l := by
      intro l
      rw [List.append_assoc, List.singleton_append]
    apply ih (comps ++ [c]) d _ hnext (hW _ _ hw) (fun x hx => hdots x (List.mem_cons_of_mem c hx))
    · intro more d' hprefix dir₂ hdir₂
      rw [← happend] at hdir₂
      exact hmore (d :: more) d' (by
        rw [List.cons_append]
        exact (List.prefix_cons_inj d).mpr hprefix) dir₂ hdir₂
    · exact hmore [] d (by simp) _ hnext (hW _ _ hw)
    · rw [← happend]
      exact h

/-- Spelled out, a place under directories that is no link is found again. -/
theorem resolve_spelling (hdirs : t.UnderDirs loc)
    (hlink : ∀ target, t.node loc ≠ some (.link target))
    (hname : ∀ l k, l ++ [k] <+: loc → t.nameAt (l ++ [k]) ≠ ".." ∧
      t.fold (t.nameAt (l ++ [k])) = k) :
    t.resolve [] (t.spelling [] loc) = some loc := by
  have hwalk : ∀ ks l, l ++ ks = loc → t.walkFrom (t.walk 62) l (t.spelling l ks) = some loc := by
    intro ks
    induction ks with
    | nil =>
      intro l hl
      rw [List.append_nil] at hl
      rw [hl]
      rfl
    | cons k ks ih =>
      intro l hl
      have hstep : (l ++ [k]) ++ ks = loc := by rw [List.append_assoc, List.singleton_append, hl]
      have hprefix : l ++ [k] <+: loc := ⟨ks, hstep⟩
      obtain ⟨hdots, hfold⟩ := hname l k hprefix
      rw [spelling, walkFrom, if_neg hdots, hfold]
      by_cases heq : l ++ [k] = loc
      · have hks : ks = [] := by
          rw [heq] at hstep
          exact List.append_right_eq_self.mp hstep
        rw [hks, spelling]
        cases hinner : t.inner (l ++ [k]) with
        | none => rw [← heq]; rfl
        | some o =>
          cases o with
          | none => rw [← heq]; rfl
          | some target => exact absurd (heq ▸ inner_eq_link.mp hinner) (hlink target)
      · have hdir : t.inner (l ++ [k]) = some none := of_decide_eq_true (hdirs _ hprefix heq)
        rw [hdir]
        exact ih _ hstep
  exact hwalk loc [] (List.nil_append loc)

/-! ### What the changes do -/

@[simp] theorem node_nil : t.node [] = some .dir := rfl

theorem node_setNode (hloc : loc ≠ []) (loc' : Loc) :
    (t.setNode loc n).node loc' = if loc' = loc then some n else t.node loc' := by
  by_cases heq : loc' = loc
  · rw [if_pos heq, heq, node, if_neg hloc, setNode, AList.lookup_insert]
    rfl
  · rw [if_neg heq, node, node, setNode]
    dsimp only
    rw [AList.lookup_insert_ne heq]

theorem node_eraseNode (hloc : loc ≠ []) (loc' : Loc) :
    (t.eraseNode loc).node loc' = if loc' = loc then none else t.node loc' := by
  by_cases heq : loc' = loc
  · rw [if_pos heq, heq, node, if_neg hloc, eraseNode, AList.lookup_erase]
    rfl
  · rw [if_neg heq, node, node, eraseNode]
    dsimp only
    rw [AList.lookup_erase_ne heq]

@[simp] theorem node_overwrite (loc : Loc) : (t.overwrite id content).node loc = t.node loc := rfl

theorem ne_nil_of_node (h : t.node loc ≠ some .dir) : loc ≠ [] := by
  intro hnil
  rw [hnil] at h
  exact h node_nil

/-- The number of a file that is there is not fresh. -/
theorem lt_freshId (h : t.node loc = some (.file id)) : id < t.freshId := by
  have hloc : loc ≠ [] := ne_nil_of_node (t := t) (by rw [h]; simp)
  rw [node, if_neg hloc] at h
  obtain ⟨entry, hentry, hnode⟩ := Option.map_eq_some_iff.mp h
  have hmem : (⟨loc, entry⟩ : Sigma fun _ : Loc => Entry) ∈ t.entries.entries :=
    AList.mem_lookup_iff.mp hentry
  have hle : ∀ es : List (Sigma fun _ : Loc => Entry), ⟨loc, entry⟩ ∈ es →
      id + 1 ≤ (es.map fun e => match e.2.node with | .file id => id + 1 | _ => 0).foldr max 0 := by
    intro es
    induction es with
    | nil => exact fun h => absurd h List.not_mem_nil
    | cons e es ih =>
      intro hmem
      rw [List.map_cons, List.foldr_cons]
      rcases List.mem_cons.mp hmem with rfl | hmem
      · apply le_max_of_le_left
        dsimp only
        rw [hnode]
      · exact le_max_of_le_right (ih hmem)
  exact hle _ hmem

/-- A file that is not the one written is as before. -/
theorem fileAt_overwrite_ne (h : t.node loc ≠ some (.file id)) :
    (t.overwrite id content).fileAt loc = t.fileAt loc := by
  rw [fileAt, fileAt, node_overwrite]
  split
  next id' hnode =>
    have hne : id' ≠ id := by
      intro heq
      rw [heq] at hnode
      exact h hnode
    rw [overwrite]
    dsimp only
    rw [Function.update_of_ne hne]
  next => rfl

theorem fileAt_overwrite_self (h : t.node loc = some (.file id)) :
    (t.overwrite id content).fileAt loc ≠ t.fileAt loc := by
  rw [fileAt_of_node h, fileAt_of_node (t := t.overwrite id content) h, overwrite]
  simp only [Function.update_self, ne_eq, Option.some.injEq, Prod.mk.injEq, true_and]
  intro heq
  have hwrites := congrArg FileData.writes heq
  exact absurd hwrites (Nat.succ_ne_self _)

/-- The file at a place depends on its node and its content. -/
theorem fileAt_congr (hnode : t'.node loc = t.node loc) (hfiles : t'.files = t.files) :
    t'.fileAt loc = t.fileAt loc := by
  rw [fileAt, fileAt, hnode, hfiles]

/-- The two ways in which a write goes. -/
theorem writeAt_cases (h : t.writeAt loc content = some t') :
    (∃ id, t.node loc = some (.file id) ∧ t' = t.overwrite id content) ∨
    (t.node loc = none ∧ t.isDir loc.dropLast = true ∧
      t' = (t.setNode loc (.file t.freshId)).overwrite t.freshId content) := by
  rw [writeAt] at h
  split at h
  next id hnode => exact Or.inl ⟨id, hnode, (Option.some.inj h).symm⟩
  next => exact absurd h (Option.some_ne_none t').symm
  next hnode =>
    obtain ⟨hdir, ht⟩ := Option.ite_none_right_eq_some.mp h
    exact Or.inr ⟨hnode, hdir, (Option.some.inj ht).symm⟩

theorem exists_writeAt (h : t.Writable loc) (content : δ) :
    ∃ t', t.writeAt loc content = some t' := by
  rcases h with ⟨id, hid⟩ | ⟨hnone, hdir⟩
  · exact ⟨_, by rw [writeAt, hid]⟩
  · exact ⟨_, by rw [writeAt, hnone]; exact if_pos hdir⟩

theorem writable_of_writeAt (h : t.writeAt loc content = some t') : t.Writable loc := by
  rcases writeAt_cases h with ⟨id, hid, -⟩ | ⟨hnone, hdir, -⟩
  · exact Or.inl ⟨id, hid⟩
  · exact Or.inr ⟨hnone, hdir⟩

/-- What has been written is a file. -/
theorem node_of_writeAt (h : t.writeAt loc content = some t') :
    ∃ id, t'.node loc = some (.file id) := by
  rcases writeAt_cases h with ⟨id, hid, rfl⟩ | ⟨hnone, -, rfl⟩
  · exact ⟨id, hid⟩
  · refine ⟨t.freshId, ?_⟩
    rw [node_overwrite, node_setNode (ne_nil_of_node (t := t) (by rw [hnone]; simp)), if_pos rfl]

/-- The files of a tree after a write that created one. -/
theorem fileAt_create (hnone : t.node loc = none) (hne : loc' ≠ loc) :
    ((t.setNode loc (.file t.freshId)).overwrite t.freshId content).fileAt loc' =
      t.fileAt loc' := by
  have hloc : loc ≠ [] := ne_nil_of_node (t := t) (by rw [hnone]; simp)
  have hnode : (t.setNode loc (.file t.freshId)).node loc' = t.node loc' := by
    rw [node_setNode hloc, if_neg hne]
  rw [fileAt_overwrite_ne]
  · exact fileAt_congr hnode rfl
  · rw [hnode]
    intro hfresh
    exact absurd (lt_freshId hfresh) (lt_irrefl _)

/-! ### Confined writes -/

/-- A confined write leaves the files outside as they are. -/
theorem writeAt_untouched (hconfined : Confined base t loc) (h : t.writeAt loc content = some t') :
    Untouched base t t' := by
  intro loc' hout
  rcases writeAt_cases h with ⟨id, hnode, rfl⟩ | ⟨hnone, hdir, rfl⟩
  · apply fileAt_overwrite_ne
    intro hnode'
    exact hout (hconfined.file id hnode loc' hnode')
  · apply fileAt_create hnone
    intro heq
    rw [heq] at hout
    exact hout (hconfined.missing hnone hdir)

/-- Any other write succeeds, and does not. -/
theorem writeAt_touched (hnot : ¬ Confined base t loc) (content : δ) :
    ∃ t', t.writeAt loc content = some t' ∧ ¬ Untouched base t t' := by
  by_cases hfile : OnlyInside base t loc
  · -- Then it creates a file outside.
    have hmissing : ¬ (t.node loc = none → t.isDir loc.dropLast → base <+: loc) :=
      fun h => hnot ⟨hfile, h⟩
    push Not at hmissing
    obtain ⟨hnone, hdir, hout⟩ := hmissing
    have hloc : loc ≠ [] := ne_nil_of_node (t := t) (by rw [hnone]; simp)
    refine ⟨_, by rw [writeAt, hnone]; exact if_pos hdir, ?_⟩
    intro h
    have hsame := h loc hout
    have hnew : (t.setNode loc (.file t.freshId)).node loc = some (.file t.freshId) := by
      rw [node_setNode hloc, if_pos rfl]
    rw [fileAt_of_node (t := (t.setNode loc (.file t.freshId)).overwrite t.freshId content) hnew,
      fileAt_eq_none_iff.mpr (by rw [hnone]; simp)] at hsame
    exact absurd hsame (Option.some_ne_none _)
  · rw [OnlyInside] at hfile
    push Not at hfile
    obtain ⟨id, hnode, loc', hnode', hout⟩ := hfile
    refine ⟨_, by rw [writeAt, hnode], ?_⟩
    intro h
    exact fileAt_overwrite_self hnode' (h loc' hout)

/-! ### Trees that have grown inside a directory -/

/-- What confined writes make of a tree: the directories and links are as before, and new files have
entries inside the directory only. -/
structure Grown (base : Loc) (t t' : Tree δ) : Prop extends SameDirs t t' where
  old : ∀ loc n, t.node loc = some n → t'.node loc = some n
  new : ∀ loc id, t'.node loc = some (.file id) → t.node loc = some (.file id) ∨
    (t.node loc = none ∧ t.isDir loc.dropLast = true ∧
      ∀ loc', t'.node loc' = some (.file id) → base <+: loc')
  untouched : Untouched base t t'

theorem Grown.refl : Grown base t t where
  fold := rfl
  inner := fun _ => rfl
  old := fun _ _ h => h
  new := fun _ _ h => Or.inl h
  untouched := Untouched.refl

theorem Grown.trans (h : Grown base t t') (h' : Grown base t' t'') : Grown base t t'' where
  fold := h'.fold.trans h.fold
  inner := fun loc => (h'.inner loc).trans (h.inner loc)
  old := fun loc n hn => h'.old loc n (h.old loc n hn)
  new := by
    intro loc id hid
    rcases h'.new loc id hid with hid' | ⟨hnone, hdir, hinside⟩
    · rcases h.new loc id hid' with hold | ⟨hnone, hdir, hinside⟩
      · exact Or.inl hold
      · refine Or.inr ⟨hnone, hdir, fun loc' hloc' => ?_⟩
        rcases h'.new loc' id hloc' with hmid | ⟨-, -, hinside'⟩
        · exact hinside loc' hmid
        · exact hinside' loc' hloc'
    · refine Or.inr ⟨?_, by rwa [← h.isDir], hinside⟩
      by_contra hne
      obtain ⟨n, hn⟩ := Option.ne_none_iff_exists'.mp hne
      rw [h.old loc n hn] at hnone
      exact Option.some_ne_none n hnone
  untouched := h.untouched.trans h'.untouched

/-- What is not a directory or link stays none, and what is none stays so but for files. -/
theorem Grown.node_none_or_file (h : Grown base t t') (hnone : t.node loc = none) :
    t'.node loc = none ∨ ∃ id, t'.node loc = some (.file id) := by
  have hinner : t'.inner loc = none := by rw [h.inner, Tree.inner, hnone]
  rw [Tree.inner] at hinner
  cases hnode : t'.node loc with
  | none => exact Or.inl rfl
  | some n =>
    rw [hnode] at hinner
    cases n with
    | dir => exact absurd hinner (Option.some_ne_none _)
    | file id => exact Or.inr ⟨id, rfl⟩
    | link target => exact absurd hinner (Option.some_ne_none _)

/-- Which writes are confined does not change. -/
theorem Grown.confined_iff (h : Grown base t t') : Confined base t' loc ↔ Confined base t loc := by
  constructor
  · intro hconfined
    refine ⟨fun id hid loc' hid' => hconfined.file id (h.old _ _ hid) loc' (h.old _ _ hid'), ?_⟩
    intro hnone hdir
    rcases h.node_none_or_file hnone with hnone' | ⟨id, hid⟩
    · exact hconfined.missing hnone' (by rwa [h.isDir])
    · exact hconfined.file id hid loc hid
  · intro hconfined
    refine ⟨fun id hid loc' hid' => ?_, fun hnone' hdir => ?_⟩
    · rcases h.new loc' id hid' with hold' | ⟨-, -, hinside⟩
      · rcases h.new loc id hid with hold | ⟨-, -, hinside⟩
        · exact hconfined.file id hold loc' hold'
        · exact hinside loc' hid'
      · exact hinside loc' hid'
    · apply hconfined.missing _ (by rwa [← h.isDir])
      by_contra hne
      obtain ⟨n, hn⟩ := Option.ne_none_iff_exists'.mp hne
      rw [h.old loc n hn] at hnone'
      exact Option.some_ne_none n hnone'

/-- Which writes succeed does not change. -/
theorem Grown.writable_iff (h : Grown base t t') : t'.Writable loc ↔ t.Writable loc := by
  have hdir : t'.isDir loc.dropLast = t.isDir loc.dropLast := h.isDir
  constructor
  · rintro (⟨id, hid⟩ | ⟨hnone, hwritable⟩)
    · rcases h.new loc id hid with hold | ⟨hnone, hwritable, -⟩
      · exact Or.inl ⟨id, hold⟩
      · exact Or.inr ⟨hnone, hwritable⟩
    · refine Or.inr ⟨?_, hdir ▸ hwritable⟩
      by_contra hne
      obtain ⟨n, hn⟩ := Option.ne_none_iff_exists'.mp hne
      rw [h.old loc n hn] at hnone
      exact Option.some_ne_none n hnone
  · rintro (⟨id, hid⟩ | ⟨hnone, hwritable⟩)
    · exact Or.inl ⟨id, h.old _ _ hid⟩
    · rcases h.node_none_or_file hnone with hnone' | ⟨id, hid⟩
      · exact Or.inr ⟨hnone', hdir ▸ hwritable⟩
      · exact Or.inl ⟨id, hid⟩

/-- A confined write makes a tree that has grown. -/
theorem writeAt_grown (hconfined : Confined base t loc) (h : t.writeAt loc content = some t') :
    Grown base t t' := by
  have huntouched := writeAt_untouched hconfined h
  rcases writeAt_cases h with ⟨id, hnode, rfl⟩ | ⟨hnone, hdir, rfl⟩
  · exact { fold := rfl, inner := fun _ => rfl, old := fun _ _ hn => hn
            new := fun _ _ hid => Or.inl hid, untouched := huntouched }
  · have hloc : loc ≠ [] := ne_nil_of_node (t := t) (by rw [hnone]; simp)
    have hnode := fun loc' => node_setNode (t := t) (n := .file t.freshId) hloc loc'
    exact {
      fold := rfl
      inner := by
        intro loc'
        show (t.setNode loc (.file t.freshId)).inner loc' = t.inner loc'
        rw [inner, inner, hnode]
        by_cases heq : loc' = loc
        · rw [if_pos heq, heq, hnone]
        · rw [if_neg heq]
      old := by
        intro loc' n hn
        show (t.setNode loc (.file t.freshId)).node loc' = some n
        rw [hnode, if_neg, hn]
        intro heq
        rw [heq, hnone] at hn
        exact Option.some_ne_none n hn.symm
      new := by
        intro loc' id hid
        have hid' : (t.setNode loc (.file t.freshId)).node loc' = some (.file id) := hid
        rw [hnode] at hid'
        split at hid'
        next heq =>
          rw [heq]
          refine Or.inr ⟨hnone, hdir, fun loc₂ hid₂ => ?_⟩
          -- The number is fresh, so that no other entry has it.
          have hfresh : id = t.freshId := by
            rw [Option.some.injEq, Node.file.injEq] at hid'
            exact hid'.symm
          have hid₃ : (t.setNode loc (.file t.freshId)).node loc₂ = some (.file id) := hid₂
          rw [hnode] at hid₃
          split at hid₃
          next heq' =>
            rw [heq']
            exact hconfined.missing hnone hdir
          next =>
            rw [hfresh] at hid₃
            exact absurd (lt_freshId hid₃) (lt_irrefl _)
        next => exact Or.inl hid'
      untouched := huntouched }

/-! ### Entries that go or move -/

theorem unlink_eq_some (h : t.unlink loc = some t') : t' = t.eraseNode loc ∧
    ((∃ id, t.node loc = some (.file id)) ∨ ∃ target, t.node loc = some (.link target)) := by
  rw [unlink] at h
  split at h
  next id hnode => exact ⟨(Option.some.inj h).symm, Or.inl ⟨id, hnode⟩⟩
  next target hnode => exact ⟨(Option.some.inj h).symm, Or.inr ⟨target, hnode⟩⟩
  next => exact absurd h (Option.some_ne_none t').symm

/-- The entry of a file is no directory or link. -/
theorem eraseNode_sameDirs (hfile : t.node loc = some (.file id)) :
    SameDirs t (t.eraseNode loc) where
  fold := rfl
  inner := by
    intro loc'
    have hloc : loc ≠ [] := ne_nil_of_node (t := t) (by rw [hfile]; simp)
    rw [inner, inner, node_eraseNode hloc]
    by_cases heq : loc' = loc
    · rw [if_pos heq, heq, hfile]
    · rw [if_neg heq]

/-- An entry that is none of a file outside may go. -/
theorem eraseNode_untouched (hloc : loc ≠ [])
    (hfile : ∀ id, t.node loc = some (.file id) → base <+: loc) :
    Untouched base t (t.eraseNode loc) := by
  intro loc' hout
  by_cases heq : loc' = loc
  · have hnone : t.fileAt loc = none :=
      fileAt_eq_none_iff.mpr fun id hid => hout (heq ▸ hfile id hid)
    rw [heq, hnone, fileAt_eq_none_iff, node_eraseNode hloc, if_pos rfl]
    exact fun _ => (Option.some_ne_none _).symm
  · have hnode : (t.eraseNode loc).node loc' = t.node loc' := by
      rw [node_eraseNode hloc, if_neg heq]
    exact fileAt_congr hnode rfl

theorem unlink_untouched (hfile : ∀ id, t.node loc = some (.file id) → base <+: loc)
    (h : t.unlink loc = some t') : Untouched base t t' := by
  obtain ⟨rfl, hnode⟩ := unlink_eq_some h
  apply eraseNode_untouched (ne_nil_of_node (t := t) _) hfile
  rcases hnode with ⟨id, hid⟩ | ⟨target, htarget⟩
  · rw [hid]
    simp
  · rw [htarget]
    simp

/-- What a move makes of a tree. -/
theorem moveEntry_eq_some {src dst : Loc} (h : t.moveEntry src dst = some t') :
    ∃ n, t.node src = some n ∧ n ≠ .dir ∧ t.node dst ≠ some .dir ∧ t.isDir dst.dropLast = true ∧
      t' = (t.eraseNode src).setNode dst n := by
  rw [moveEntry] at h
  split at h
  next => exact absurd h (Option.some_ne_none t').symm
  next => exact absurd h (Option.some_ne_none t').symm
  next n hne hnode =>
    obtain ⟨⟨hdst, hdir⟩, ht⟩ := Option.ite_none_right_eq_some.mp h
    exact ⟨n, hnode, hne, hdst, hdir, (Option.some.inj ht).symm⟩

/-- A file can be moved to where there is no directory. -/
theorem exists_moveEntry {src dst : Loc} (hsrc : t.node src = some (.file id))
    (hdst : t.node dst ≠ some .dir) (hdir : t.isDir dst.dropLast = true) :
    ∃ t', t.moveEntry src dst = some t' ∧ t'.node dst = some (.file id) := by
  refine ⟨(t.eraseNode src).setNode dst (.file id), ?_, ?_⟩
  · rw [moveEntry, hsrc]
    exact if_pos ⟨hdst, hdir⟩
  · rw [node_setNode (ne_nil_of_node hdst), if_pos rfl]

/-- A move that takes no file from outside, and brings or replaces none there. -/
theorem moveEntry_untouched {src dst : Loc}
    (hsrc : ∀ id, t.node src = some (.file id) → base <+: src ∧ base <+: dst)
    (hdst : ∀ id, t.node dst = some (.file id) → base <+: dst)
    (h : t.moveEntry src dst = some t') : Untouched base t t' := by
  obtain ⟨n, hnode, hn, hdir, -, rfl⟩ := moveEntry_eq_some h
  have hsrc_ne : src ≠ [] := ne_nil_of_node (t := t) (by
    rw [hnode]
    exact fun heq => hn (Option.some.inj heq))
  have hdst_ne : dst ≠ [] := ne_nil_of_node hdir
  have herase := eraseNode_untouched hsrc_ne fun id hid => (hsrc id hid).1
  intro loc hout
  by_cases heq : loc = dst
  · have hbefore : t.fileAt loc = none :=
      fileAt_eq_none_iff.mpr fun id hid => hout (heq ▸ hdst id (heq ▸ hid))
    rw [hbefore, heq, fileAt_eq_none_iff, node_setNode hdst_ne, if_pos rfl]
    intro id hid
    rw [Option.some.inj hid] at hnode
    exact hout (heq ▸ (hsrc id hnode).2)
  · rw [← herase loc hout]
    have hother : ((t.eraseNode src).setNode dst n).node loc = (t.eraseNode src).node loc := by
      rw [node_setNode hdst_ne, if_neg heq]
    exact fileAt_congr hother rfl

/-- A new directory is no file. -/
theorem makeDir_sameFiles (h : t.makeDir loc = some t') : SameFiles t t' := by
  intro loc'
  obtain ⟨⟨hnone, -⟩, ht⟩ := Option.ite_none_right_eq_some.mp h
  have hloc : loc ≠ [] := ne_nil_of_node (t := t) (by rw [hnone]; simp)
  have hnode := node_setNode (t := t) (n := .dir) hloc loc'
  rw [← Option.some.inj ht]
  by_cases heq : loc' = loc
  · rw [if_pos heq] at hnode
    rw [fileAt_eq_none_iff.mpr (by rw [hnode]; simp), heq,
      fileAt_eq_none_iff.mpr (by rw [hnone]; simp)]
  · rw [if_neg heq] at hnode
    exact fileAt_congr hnode rfl

end Tree

end FileTree
