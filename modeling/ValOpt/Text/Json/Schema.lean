import ValOpt.Text.Json.Number

/-!
# Types as JSON documents

A `Schema` says how the values of a type are written as documents and read back, in the way
`serde` derives it.  Its laws are part of it: a value that is `valid` reads back, and the nesting is
bounded.  Schemas are built for strings, numbers, options, lists, enumerations and records.  The
members of a record are looked up by their keys; their order does not matter, unknown ones are
passed over, a key that occurs twice is an error, and so is a missing one unless the field is an
option.  A record is also read from the array of its fields, all of them and in their order; the
contents of a variant with named fields are not.
-/

namespace Text.Json

variable {N α β : Type}

/-- A bound may be raised. -/
theorem Doc.Within.mono {n m : ℕ} {d : Doc N} (h : d.Within n) (hnm : n ≤ m) : d.Within m := by
  induction n generalizing d m with
  | zero => cases d <;> cases m <;> first | exact h.elim | trivial
  | succ n ih =>
    obtain ⟨m, rfl⟩ : ∃ k, m = k + 1 := ⟨m - 1, by omega⟩
    cases d with
    | array ts => exact fun t ht => ih (h t ht) (by omega)
    | object ms => exact fun m' hm => ih (h m' hm) (by omega)
    | _ => trivial

/-- How a type is written as a document and read back.  `missing` is read for a field that is not
there. -/
structure Schema (N α : Type) where
  write : α → Doc N
  read : Doc N → Option α
  missing : Option α
  valid : α → Prop
  nesting : ℕ
  read_write : ∀ a, valid a → read (write a) = some a
  within : ∀ a, (write a).Within nesting

namespace Schema

/-! ### Scalars -/

def str : Schema N String where
  write := .string
  read
    | .string s => some s
    | _ => none
  missing := none
  valid _ := True
  nesting := 0
  read_write _ _ := rfl
  within _ := trivial

def bool : Schema N Bool where
  write := .bool
  read
    | .bool b => some b
    | _ => none
  missing := none
  valid _ := True
  nesting := 0
  read_write _ _ := rfl
  within _ := trivial

section Numbers

variable {F : Type} (T : FloatText F)

def u64 : Schema (Number T) UInt64 where
  write n := .number (.int (.posInt n))
  read
    | .number (.int (.posInt n)) => some n
    | _ => none
  missing := none
  valid _ := True
  nesting := 0
  read_write _ _ := rfl
  within _ := trivial

/-- A number that is not finite is written as `null`, and does not read back. -/
def f64 : Schema (Number T) F where
  write x := if h : T.isFinite x = true then .number (.float ⟨x, h⟩) else .null
  read
    | .number (.float x) => some x.1
    | .number (.int i) => some (T.ofInteger i)
    | _ => none
  missing := none
  valid x := T.isFinite x = true
  nesting := 0
  read_write x h := by rw [dif_pos h]
  within x := by split <;> trivial

end Numbers

/-- One of the names of an enumeration, which may also stand as a key in front of `null`. -/
def enumeration (name : α → String) (variants : List α)
    (h : ∀ a, variants.find? (name · = name a) = some a) : Schema N α where
  write a := .string (name a)
  read
    | .string s | .object [(s, .null)] => variants.find? (name · = s)
    | _ => none
  missing := none
  valid _ := True
  nesting := 0
  read_write a _ := h a
  within _ := trivial

/-! ### Options and lists -/

/-- `null`, or a value that is written otherwise. -/
def opt (s : Schema N α) (h : ∀ a, s.write a ≠ .null) : Schema N (Option α) where
  write o := o.elim .null s.write
  read
    | .null => some none
    | d => (s.read d).map some
  missing := some none
  valid o := ∀ a ∈ o, s.valid a
  nesting := s.nesting
  read_write o ho := by
    cases o with
    | none => rfl
    | some a =>
      have hread := s.read_write a (ho a rfl)
      have hnull := h a
      show (match s.write a with
        | .null => some none
        | d => (s.read d).map some) = some (some a)
      split
      · next heq => exact absurd heq hnull
      · rw [hread, Option.map_some]
  within o := by
    cases o with
    | none => cases s.nesting <;> trivial
    | some a => exact s.within a

def list (s : Schema N α) : Schema N (List α) where
  write as := .array (as.map s.write)
  read
    | .array ts => ts.mapM s.read
    | _ => none
  missing := none
  valid as := ∀ a ∈ as, s.valid a
  nesting := s.nesting + 1
  read_write as h := by
    show (as.map s.write).mapM s.read = some as
    induction as with
    | nil => rfl
    | cons a as ih =>
      rw [List.forall_mem_cons] at h
      rw [List.map_cons, List.mapM_cons, s.read_write a h.1, ih h.2]
      rfl
  within as := by
    intro t ht
    obtain ⟨a, -, rfl⟩ := List.mem_map.mp ht
    exact s.within a

/-! ### Records -/

/-- The members with this key. -/
def members (ms : List (String × Doc N)) (k : String) : List (String × Doc N) :=
  ms.filter (·.1 = k)

/-- The value of a field. -/
def field (s : Schema N α) (ms : List (String × Doc N)) (k : String) : Option α :=
  match members ms k with
  | [] => s.missing
  | [m] => s.read m.2
  | _ => none

theorem members_of_ne {ms : List (String × Doc N)} {k : String} (h : ∀ m ∈ ms, m.1 ≠ k) :
    members ms k = [] := by
  rw [members, List.filter_eq_nil_iff]
  exact fun m hm hk => h m hm (of_decide_eq_true hk)

theorem members_cons (m : String × Doc N) {ms : List (String × Doc N)}
    (h : ∀ m' ∈ ms, m'.1 ≠ m.1) : members (m :: ms) m.1 = [m] := by
  have hrest : members ms m.1 = [] := members_of_ne h
  rw [members, List.filter_cons_of_pos (by simp)]
  exact congrArg (m :: ·) hrest

/-- A member in front of others with other keys is read. -/
theorem field_cons (s : Schema N α) {a : α} (ha : s.valid a) (k : String)
    {ms : List (String × Doc N)} (h : ∀ m ∈ ms, m.1 ≠ k) :
    s.field ((k, s.write a) :: ms) k = some a := by
  have hone := members_cons (k, s.write a) h
  rw [field, hone]
  exact s.read_write a ha

/-- The fields of a record from some place on.  `readSeq` reads them from the elements of an array.
-/
structure Fields (N α : Type) where
  keys : List String
  write : α → List (String × Doc N)
  read : List (String × Doc N) → Option α
  readSeq : List (Doc N) → Option α
  valid : α → Prop
  nesting : ℕ
  keys_write : ∀ a, (write a).map (·.1) = keys
  read_write : ∀ a, valid a → ∀ ms, (∀ k ∈ keys, members ms k = members (write a) k) →
    read ms = some a
  within : ∀ a, ∀ m ∈ write a, m.2.Within nesting

/-- No more fields. -/
def Fields.nil : Fields N Unit where
  keys := []
  write _ := []
  read _ := some ()
  readSeq
    | [] => some ()
    | _ :: _ => none
  valid _ := True
  nesting := 0
  keys_write _ := rfl
  read_write _ _ _ _ := rfl
  within _ _ h := (nomatch h)

@[simp] theorem Fields.keys_nil : (Fields.nil : Fields N Unit).keys = [] := rfl

/-- One field, and the others. -/
def Fields.cons (key : String) (s : Schema N α) (rest : Fields N β)
    (hkey : key ∉ rest.keys := by simp) : Fields N (α × β) where
  keys := key :: rest.keys
  write p := (key, s.write p.1) :: rest.write p.2
  read ms := (s.field ms key).bind fun a => (rest.read ms).map (a, ·)
  readSeq
    | [] => none
    | d :: ds => (s.read d).bind fun a => (rest.readSeq ds).map (a, ·)
  valid p := s.valid p.1 ∧ rest.valid p.2
  nesting := max s.nesting rest.nesting
  keys_write p := by rw [List.map_cons, rest.keys_write]
  read_write := by
    rintro ⟨a, b⟩ ⟨ha, hb⟩ ms hms
    have hfirst : s.field ms key = some a := by
      have hne : ∀ m ∈ rest.write b, m.1 ≠ key := by
        intro m hm heq
        apply hkey
        rw [← rest.keys_write b, ← heq]
        exact List.mem_map_of_mem hm
      have hread := s.field_cons ha key hne
      rw [field, hms key List.mem_cons_self]
      exact hread
    have hrest : rest.read ms = some b := by
      refine rest.read_write b hb ms fun k hk => ?_
      have hne : key ≠ k := fun heq => hkey (heq ▸ hk)
      rw [hms k (List.mem_cons_of_mem _ hk), members, List.filter_cons_of_neg (by simpa using hne)]
      rfl
    rw [hfirst, Option.bind_some, hrest, Option.map_some]
  within := by
    rintro ⟨a, b⟩ m hm
    rcases List.mem_cons.mp hm with rfl | hm
    · exact (s.within a).mono (le_max_left _ _)
    · exact (rest.within b m hm).mono (le_max_right _ _)

@[simp] theorem Fields.keys_cons (key : String) (s : Schema N α) (rest : Fields N β)
    (hkey : key ∉ rest.keys) : (Fields.cons key s rest hkey).keys = key :: rest.keys := rfl

/-- The contents of a variant with named fields, seen as the tuple of them. -/
def variant (fields : Fields N β) (decode : β → α) (encode : α → β)
    (h : ∀ a, decode (encode a) = a) : Schema N α where
  write a := .object (fields.write (encode a))
  read
    | .object ms => (fields.read ms).map decode
    | _ => none
  missing := none
  valid a := fields.valid (encode a)
  nesting := fields.nesting + 1
  read_write a ha := by
    show (fields.read (fields.write (encode a))).map decode = some a
    rw [fields.read_write _ ha _ fun _ _ => rfl, Option.map_some, h]
  within a := fields.within (encode a)

/-- A record, seen as the tuple of its fields. -/
def record (fields : Fields N β) (decode : β → α) (encode : α → β)
    (h : ∀ a, decode (encode a) = a) : Schema N α :=
  { variant fields decode encode h with
    read := fun
      | .object ms => (fields.read ms).map decode
      | .array ds => (fields.readSeq ds).map decode
      | _ => none }

end Schema

/-! ### Enumerations with contents -/

/-- An adjacently tagged enumeration: the name of the variant under one key, and what it contains
under another. -/
structure Adjacent (N α : Type) where
  tagKey : String
  contentKey : String
  tag : α → String
  content : α → Option (Doc N)
  read : String → Option (Doc N) → Option α
  valid : α → Prop
  keys_ne : tagKey ≠ contentKey
  read_content : ∀ a, valid a → read (tag a) (content a) = some a

namespace Adjacent

variable (s : Adjacent N α)

def write (a : α) : Doc N :=
  .object ((s.tagKey, .string (s.tag a)) ::
    ((s.content a).map fun c => (s.contentKey, c)).toList)

/-- The name of a variant, which may also stand as a key in front of `null`. -/
def readTag : Doc N → Option String
  | .string t | .object [(t, .null)] => some t
  | _ => none

/-- The name and the contents are found by their keys, or are the two elements of an array. -/
def readDoc : Doc N → Option α
  | .object ms =>
    match Schema.members ms s.tagKey, Schema.members ms s.contentKey with
    | [(_, t)], [] => (readTag t).bind fun t => s.read t none
    | [(_, t)], [(_, c)] => (readTag t).bind fun t => s.read t (some c)
    | _, _ => none
  | .array [.string t, c] => s.read t (some c)
  | _ => none

/-- The contents of a variant that has none may be missing. -/
def unit : Option (Doc N) → Option Unit
  | none | some .null => some ()
  | _ => none

/-- A written document is read by its name and its contents. -/
theorem readDoc_eq (a : α) : s.readDoc (s.write a) = s.read (s.tag a) (s.content a) := by
  have hne := s.keys_ne
  cases hcontent : s.content a with
  | none =>
    have htag : Schema.members [(s.tagKey, (.string (s.tag a) : Doc N))] s.tagKey =
        [(s.tagKey, .string (s.tag a))] :=
      Schema.members_cons (s.tagKey, .string (s.tag a)) fun _ h => (nomatch h)
    have hcontents : Schema.members [(s.tagKey, (.string (s.tag a) : Doc N))] s.contentKey = [] :=
      Schema.members_of_ne (by simpa using hne)
    rw [write, hcontent, Option.map_none, Option.toList_none, readDoc, htag, hcontents]
    rfl
  | some c =>
    have htag : Schema.members [(s.tagKey, .string (s.tag a)), (s.contentKey, c)] s.tagKey =
        [(s.tagKey, .string (s.tag a))] :=
      Schema.members_cons (s.tagKey, .string (s.tag a)) (by simpa using hne.symm)
    have hcontents : Schema.members [(s.tagKey, .string (s.tag a)), (s.contentKey, c)]
        s.contentKey = [(s.contentKey, c)] := by
      rw [Schema.members, List.filter_cons_of_neg (by simpa using hne)]
      exact Schema.members_cons (s.contentKey, c) fun _ h => (nomatch h)
    rw [write, hcontent, Option.map_some, Option.toList_some, readDoc, htag, hcontents]
    rfl

/-- The nesting is that of the contents, and one more. -/
theorem within_write {a : α} {n : ℕ} :
    (s.write a).Within (n + 1) ↔ ∀ c ∈ s.content a, c.Within n := by
  constructor
  · intro h c hc
    rw [Option.mem_def] at hc
    exact h (s.contentKey, c) (List.mem_cons_of_mem _ (by simp [hc]))
  · intro h m hm
    rcases List.mem_cons.mp hm with rfl | hm
    · cases n <;> trivial
    · cases hcontent : s.content a with
      | none =>
        rw [hcontent] at hm
        cases hm
      | some c =>
        rw [hcontent, Option.map_some, Option.toList_some, List.mem_singleton] at hm
        rw [hm]
        exact h c hcontent

end Adjacent

end Text.Json
