import ValOpt.Text.Json.Schema

/-!
# What reads back was valid

A schema is `Definite` if nothing reads back but what is valid, so that a value is read as itself or
not at all.  Schemas of this kind are closed under lists and records.  An option of a number is not:
a number that is not finite is written like one that is missing.
-/

namespace Text.Json

variable {N α β : Type}

namespace Schema

/-- Only valid values read back. -/
def Definite (s : Schema N α) : Prop := ∀ a a', s.read (s.write a) = some a' → s.valid a

/-- A value is read as itself, or not at all. -/
theorem Definite.read_iff {s : Schema N α} (hs : s.Definite) {a a' : α} :
    s.read (s.write a) = some a' ↔ s.valid a ∧ a' = a := by
  constructor
  · intro hread
    have ha := hs a a' hread
    rw [s.read_write a ha, Option.some.injEq] at hread
    exact ⟨ha, hread.symm⟩
  · rintro ⟨ha, rfl⟩
    exact s.read_write a' ha

theorem definite_of_valid {s : Schema N α} (h : ∀ a, s.valid a) : s.Definite := fun a _ _ => h a

/-- What is not finite is written as `null`. -/
theorem definite_f64 {F : Type} (T : FloatText F) : (f64 T).Definite := by
  intro x x' hread
  by_contra hx
  have hwrite : (f64 T).write x = .null := dif_neg hx
  rw [hwrite] at hread
  cases hread

theorem Definite.list {s : Schema N α} (hs : s.Definite) : s.list.Definite := by
  intro as
  show ∀ as', (as.map s.write).mapM s.read = some as' → ∀ a ∈ as, s.valid a
  induction as with
  | nil => exact fun _ _ _ h => absurd h List.not_mem_nil
  | cons a as ih =>
    intro as' hread
    rw [List.map_cons, List.mapM_cons] at hread
    obtain ⟨b, hb, hrest⟩ := Option.bind_eq_some_iff.mp hread
    obtain ⟨bs, hbs, -⟩ := Option.bind_eq_some_iff.mp hrest
    exact List.forall_mem_cons.mpr ⟨hs a b hb, ih bs hbs⟩

/-! ### Records -/

/-- Only valid fields read back, whatever other members there are. -/
def Fields.Definite (fields : Fields N β) : Prop :=
  ∀ b b' ms, (∀ k ∈ fields.keys, members ms k = members (fields.write b) k) →
    fields.read ms = some b' → fields.valid b

theorem Fields.definite_nil : (Fields.nil : Fields N Unit).Definite := fun _ _ _ _ _ => trivial

theorem Fields.Definite.cons {key : String} {s : Schema N α} {rest : Fields N β}
    (hkey : key ∉ rest.keys) (hs : s.Definite) (hrest : rest.Definite) :
    (Fields.cons key s rest hkey).Definite := by
  rintro ⟨a, b⟩ ⟨a', b'⟩ ms hms hread
  obtain ⟨a₁, ha, hb⟩ := Option.bind_eq_some_iff.mp hread
  obtain ⟨b₁, hb, -⟩ := Option.map_eq_some_iff.mp hb
  have hne : ∀ m ∈ rest.write b, m.1 ≠ key := by
    intro m hm heq
    apply hkey
    rw [← rest.keys_write b, ← heq]
    exact List.mem_map_of_mem hm
  constructor
  · have hone : members ((Fields.cons key s rest hkey).write (a, b)) key = [(key, s.write a)] :=
      members_cons (key, s.write a) hne
    rw [field, hms key List.mem_cons_self, hone] at ha
    exact hs a a₁ ha
  · refine hrest b b₁ ms (fun k hk => ?_) hb
    have hkk : key ≠ k := fun heq => hkey (heq ▸ hk)
    rw [hms k (List.mem_cons_of_mem _ hk), members, members]
    exact List.filter_cons_of_neg (by simpa using hkk)

theorem definite_variant {fields : Fields N β} (hfields : fields.Definite) {decode : β → α}
    {encode : α → β} (h : ∀ a, decode (encode a) = a) :
    (Schema.variant fields decode encode h).Definite := by
  intro a a' hread
  obtain ⟨b, hb, -⟩ := Option.map_eq_some_iff.mp hread
  exact hfields (encode a) b _ (fun _ _ => rfl) hb

/-- A record is written with its keys. -/
theorem definite_record {fields : Fields N β} (hfields : fields.Definite) {decode : β → α}
    {encode : α → β} (h : ∀ a, decode (encode a) = a) :
    (Schema.record fields decode encode h).Definite :=
  definite_variant hfields h

end Schema

/-! ### Enumerations with contents -/

namespace Adjacent

variable {s : Adjacent N α}

/-- Only valid values read back. -/
def Definite (s : Adjacent N α) : Prop :=
  ∀ a a', s.read (s.tag a) (s.content a) = some a' → s.valid a

theorem Definite.read_iff (hs : s.Definite) {a a' : α} :
    s.read (s.tag a) (s.content a) = some a' ↔ s.valid a ∧ a' = a := by
  constructor
  · intro hread
    have ha := hs a a' hread
    rw [s.read_content a ha, Option.some.injEq] at hread
    exact ⟨ha, hread.symm⟩
  · rintro ⟨ha, rfl⟩
    exact s.read_content a' ha

end Adjacent

end Text.Json
