import Mathlib.Data.List.Nodup
import ValOpt.Network.Adapter

/-!
# What the adapter functions do to the properties

Undisturbed, every function acts on each row of an adapter by itself, since a keyword names one row
(`AdapterProperties.ext_of_keyword`): `optimizeAdapterLatencyProperties` sets the targeted rows with
a value other than "0" to "0" (`optimizeAdapterLatencyProperties_ok`), and
`restoreAdapterProperties` gives each row the value that the list of backups has for it
(`run_restoreAdapterProperties`).
-/

namespace ValOpt

open Effect Text

/-! ### Rows -/

/-- The keyword is one of `keywords`, up to letter case. -/
def isTargeted (keywords : List String) (kw : String) : Bool :=
  keywords.any fun k => eqIgnoreAsciiCase kw k

/-- The row after `optimizeAdapterLatencyProperties` with these keywords. -/
def NicAdvancedProperty.zeroed (keywords : List String) (p : NicAdvancedProperty) :
    NicAdvancedProperty :=
  if isTargeted keywords p.registryKeyword ∧ p.firstValue.getD "0" ≠ "0" then
    { p with registryValue := some ["0"] }
  else p

@[simp] theorem NicAdvancedProperty.registryKeyword_zeroed (keywords : List String)
    (p : NicAdvancedProperty) : (p.zeroed keywords).registryKeyword = p.registryKeyword := by
  unfold zeroed
  split <;> rfl

/-- The row after a list of backups was written back, each for the adapter `adapter`. -/
def NicAdvancedProperty.restored (adapter : String) (p : NicAdvancedProperty)
    (backups : List AdapterPropertyBackup) : NicAdvancedProperty :=
  backups.foldl (fun p b =>
    if b.adapterName = adapter ∧
        (validateAdapterSet b.adapterName b.keyword b.originalValue).isOk then
      p.assign b.keyword b.originalValue
    else p) p

namespace AdapterProperties

theorem ext_rows {A B : AdapterProperties} (h : A.rows = B.rows) : A = B := by
  cases A
  cases B
  cases h
  rfl

@[simp] theorem rows_assign (A : AdapterProperties) (kw v : String) :
    (A.assign kw v).rows = A.rows.map (·.assign kw v) := rfl

/-- A keyword that no row has changes no row. -/
theorem assign_of_not_any {A : AdapterProperties} {kw v : String}
    (h : ¬ A.rows.any fun p => eqIgnoreAsciiCase p.registryKeyword kw) : A.assign kw v = A := by
  apply ext_rows
  rw [rows_assign]
  conv_rhs => rw [← List.map_id A.rows]
  apply List.map_congr_left
  intro p hp
  have hkw : eqIgnoreAsciiCase p.registryKeyword kw = false := by
    simp only [List.any_eq_true, not_exists, not_and, Bool.not_eq_true] at h
    exact h p hp
  unfold NicAdvancedProperty.assign
  rw [hkw]
  rfl

/-- Two rows of one adapter with the same keyword, up to letter case, are the same row. -/
theorem eq_of_keyword (A : AdapterProperties) {p q : NicAdvancedProperty} (hp : p ∈ A.rows)
    (hq : q ∈ A.rows) (h : eqIgnoreAsciiCase p.registryKeyword q.registryKeyword) : p = q :=
  List.inj_on_of_nodup_map A.nodup hp hq (eqIgnoreAsciiCase_iff.mp h)

/-- The row that a keyword search finds is the one with this keyword. -/
theorem find?_eq_some_iff (A : AdapterProperties) {p : NicAdvancedProperty} {kw : String} :
    (A.rows.find? fun p => eqIgnoreAsciiCase p.registryKeyword kw) = some p ↔
      p ∈ A.rows ∧ eqIgnoreAsciiCase p.registryKeyword kw := by
  constructor
  · intro h
    refine ⟨List.mem_of_find?_eq_some h, ?_⟩
    simpa using List.find?_some h
  · rintro ⟨hp, hkw⟩
    cases hfind : A.rows.find? fun p => eqIgnoreAsciiCase p.registryKeyword kw with
    | none =>
      rw [List.find?_eq_none] at hfind
      exact absurd hkw (hfind p hp)
    | some q =>
      have hq : eqIgnoreAsciiCase q.registryKeyword kw := by
        simpa using List.find?_some hfind
      have hqp : eqIgnoreAsciiCase q.registryKeyword p.registryKeyword := by
        rw [eqIgnoreAsciiCase_iff] at hkw hq ⊢
        exact hq.trans hkw.symm
      rw [A.eq_of_keyword (List.mem_of_find?_eq_some hfind) hp hqp]

end AdapterProperties

/-! ### One property -/

namespace Machine

variable (m : Machine)

/-- The properties of one adapter after one `setAdapterProperty`. -/
def assignAdapter (adapter kw v : String) : Machine :=
  if (validateAdapterSet adapter kw v).isOk then
    { m with adapters :=
        Function.update m.adapters adapter ((m.adapters adapter).map (·.assign kw v)) }
  else m

theorem setAdapter_getD (adapter kw v : String) : (m.setAdapter adapter kw v).getD m =
    { m with adapters :=
        Function.update m.adapters adapter ((m.adapters adapter).map (·.assign kw v)) } := by
  have hsame : Function.update m.adapters adapter (m.adapters adapter) = m.adapters :=
    Function.update_eq_self ..
  unfold setAdapter
  cases hA : m.adapters adapter with
  | none =>
    rw [hA] at hsame
    simp only [Option.getD_none, Option.map_none, hsame]
  | some A =>
    rw [hA] at hsame
    by_cases hany : A.rows.any fun p => eqIgnoreAsciiCase p.registryKeyword kw
    · simp only [if_pos hany, Option.getD_some, Option.map_some]
    · simp only [if_neg hany, Option.getD_none, Option.map_some,
        AdapterProperties.assign_of_not_any hany, hsame]

/-- The rows of the adapter that is named, and of the others. -/
theorem adapters_assignAdapter (adapter kw v adapter' : String) :
    (m.assignAdapter adapter kw v).adapters adapter' =
      if adapter = adapter' ∧ (validateAdapterSet adapter kw v).isOk then
        (m.adapters adapter').map (·.assign kw v)
      else m.adapters adapter' := by
  unfold assignAdapter
  by_cases hv : (validateAdapterSet adapter kw v).isOk
  · by_cases ha : adapter = adapter'
    · subst ha
      simp [hv]
    · simp [hv, ha, Ne.symm ha]
  · simp [hv]

end Machine

/-- The properties that a query of the adapter returns: not those of an adapter that has only
one. -/
def Machine.listedProperties (m : Machine) (adapter : String) : Option (List NicAdvancedProperty) :=
  if validateAdapterIdentifier adapter = .ok () then
    (m.adapters adapter).bind fun A => if A.rows.length = 1 then none else some A.rows
  else none

theorem Machine.listedProperties_eq_some_iff {m : Machine} {adapter : String}
    {props : List NicAdvancedProperty} : m.listedProperties adapter = some props ↔
      validateAdapterIdentifier adapter = .ok () ∧
        ∃ A, m.adapters adapter = some A ∧ A.rows.length ≠ 1 ∧ A.rows = props := by
  unfold listedProperties
  by_cases hid : validateAdapterIdentifier adapter = .ok ()
  · rw [if_pos hid, and_iff_right hid, Option.bind_eq_some_iff]
    refine exists_congr fun A => and_congr_right fun _ => ?_
    by_cases hone : A.rows.length = 1
    · simp [hone]
    · simp [hone]
  · rw [if_neg hid]
    exact iff_of_false nofun fun h => hid h.1

section Faultless

variable {text : Call → String} {w w' : World}

/-- A query changes nothing. -/
theorem run_queryAdapterProperties (text : Call → String) (w : World) (adapter : String) :
    ∃ r : Except String (List NicAdvancedProperty),
      (queryAdapterProperties adapter).run (.faultless text) w = .returned r w ∧
      r.toOption = w.machine.listedProperties adapter := by
  unfold queryAdapterProperties parseProperties Machine.listedProperties
  cases hid : validateAdapterIdentifier adapter with
  | error e => exact ⟨.error e, rfl, rfl⟩
  | ok =>
    cases hA : w.machine.adapters adapter with
    | none => exact ⟨_, by simp [hA]; rfl, rfl⟩
    | some A =>
      by_cases hone : A.rows.length = 1
      · exact ⟨_, by simp [hA, hone]; rfl, by simp [hone, Except.toOption]⟩
      · exact ⟨.ok A.rows, by simp [hA, hone], by simp [hone, Except.toOption]⟩

/-- `setAdapterProperty` assigns the value if the validators let it pass; it is only successful
when they do and the row exists. -/
theorem run_setAdapterProperty (text : Call → String) (w : World) (index : ℕ)
    (adapter kw v : String) : ∃ r : Except String Unit,
      (setAdapterProperty index adapter kw v).run (.faultless text) w =
        .returned r { w with machine := w.machine.assignAdapter adapter kw v } ∧
      (r = .ok () → (validateAdapterSet adapter kw v).isOk) := by
  unfold setAdapterProperty Machine.assignAdapter
  cases hv : validateAdapterSet adapter kw v with
  | error e => exact ⟨.error e, rfl, by rintro ⟨⟩⟩
  | ok =>
    have hset := w.machine.setAdapter_getD adapter kw v
    simp only [Except.isOk, Except.toBool, if_true, ← hset]
    cases hs : w.machine.setAdapter adapter kw v with
    | none =>
      refine ⟨.error s!"Failed to set '{kw}' on '{adapter}': {text (.setAdapter index)}", ?_, ?_⟩
      · simp [hs]
      · rintro ⟨⟩
    | some m =>
      refine ⟨.ok (), ?_, fun _ => trivial⟩
      simp [hs]

/-! ### Writing backups back -/

/-- The adapter properties after `restoreAdapterProperties`. -/
def Machine.restoreAdapters (m : Machine) (backups : List AdapterPropertyBackup) : Machine :=
  backups.foldl (fun m b => m.assignAdapter b.adapterName b.keyword b.originalValue) m

theorem run_restoreProperty (index : ℕ) (b : AdapterPropertyBackup) (w : World) :
    (restoreProperty index b).run (.faultless text) w = .returned ()
      { w with machine := w.machine.assignAdapter b.adapterName b.keyword b.originalValue } := by
  obtain ⟨r, hr, -⟩ :=
    run_setAdapterProperty text w index b.adapterName b.keyword b.originalValue
  simp only [restoreProperty, Eff.run_bind, hr, Run.bind_returned, Eff.run_pure]

/-- The world after the loop, whose bodies change the machine alone. -/
theorem foldl_machine {β : Type} (f : Machine → β → Machine) (bs : List β) (w : World) :
    bs.foldl (fun w b => { w with machine := f w.machine b }) w =
      { w with machine := bs.foldl f w.machine } := by
  induction bs generalizing w with
  | nil => rfl
  | cons b bs ih => rw [List.foldl_cons, ih, List.foldl_cons]

@[simp] theorem run_restoreAdapterProperties (backups : List AdapterPropertyBackup) :
    (restoreAdapterProperties backups).run (.faultless text) w =
      .returned (.ok ()) { w with machine := w.machine.restoreAdapters backups } := by
  unfold restoreAdapterProperties Machine.restoreAdapters
  rw [Eff.run_bind, Eff.run_forEach run_restoreProperty, Run.bind_returned, Eff.run_pure,
    foldl_machine fun m (b : AdapterPropertyBackup) =>
      m.assignAdapter b.adapterName b.keyword b.originalValue]

/-- Writing backups back acts on each row by itself. -/
theorem adapters_restoreAdapters (m : Machine) (backups : List AdapterPropertyBackup)
    (adapter : String) :
    ((m.restoreAdapters backups).adapters adapter).map (·.rows) =
      (m.adapters adapter).map fun A => A.rows.map (·.restored adapter backups) := by
  unfold Machine.restoreAdapters
  induction backups generalizing m with
  | nil =>
    rw [List.foldl_nil]
    cases m.adapters adapter with
    | none => rfl
    | some A => simp [NicAdvancedProperty.restored]
  | cons b bs ih =>
    rw [List.foldl_cons, ih, Machine.adapters_assignAdapter]
    cases m.adapters adapter with
    | none => split <;> rfl
    | some A =>
      by_cases hb : b.adapterName = adapter ∧
          (validateAdapterSet b.adapterName b.keyword b.originalValue).isOk
      · rw [if_pos hb]
        simp only [Option.map_some, AdapterProperties.rows_assign, List.map_map]
        congr 1
        apply List.map_congr_left
        intro p _
        simp only [Function.comp_apply, NicAdvancedProperty.restored, List.foldl_cons, if_pos hb]
      · rw [if_neg hb]
        simp only [Option.map_some]
        congr 1
        apply List.map_congr_left
        intro p _
        simp only [NicAdvancedProperty.restored, List.foldl_cons, if_neg hb]

/-- What becomes of the adapters depends on the adapters alone. -/
theorem adapters_restoreAdapters_congr {m m' : Machine} (h : m'.adapters = m.adapters)
    (backups : List AdapterPropertyBackup) :
    (m'.restoreAdapters backups).adapters = (m.restoreAdapters backups).adapters := by
  unfold Machine.restoreAdapters
  induction backups generalizing m m' with
  | nil => exact h
  | cons b bs ih =>
    refine ih ?_
    funext adapter
    rw [Machine.adapters_assignAdapter, Machine.adapters_assignAdapter, h]

/-! ### Optimizing -/

/-- The machine after the loop of `optimizeAdapterLatencyProperties` over `keywords`, which works
from the properties `props` it has queried. -/
def Machine.zeroKeywords (m : Machine) (adapter : String) (props : List NicAdvancedProperty)
    (keywords : List String) : Machine :=
  keywords.foldl (fun m k =>
    match props.find? fun p => eqIgnoreAsciiCase p.registryKeyword k with
    | some p =>
      if p.firstValue.getD "0" ≠ "0" then m.assignAdapter adapter p.registryKeyword "0" else m
    | none => m) m

/-- The validators let pass all that the loop writes. -/
def WritesPass (adapter : String) (props : List NicAdvancedProperty) (keywords : List String) :
    Prop :=
  ∀ k ∈ keywords, ∀ p, (props.find? fun p => eqIgnoreAsciiCase p.registryKeyword k) = some p →
    p.firstValue.getD "0" ≠ "0" → (validateAdapterSet adapter p.registryKeyword "0").isOk

theorem WritesPass.cons {adapter k : String} {props : List NicAdvancedProperty} {ks : List String}
    (hk : ∀ p, (props.find? fun p => eqIgnoreAsciiCase p.registryKeyword k) = some p →
      p.firstValue.getD "0" ≠ "0" → (validateAdapterSet adapter p.registryKeyword "0").isOk)
    (hks : WritesPass adapter props ks) : WritesPass adapter props (k :: ks) := by
  intro k' hk' p hp hne
  rcases List.mem_cons.mp hk' with rfl | hk'
  · exact hk p hp hne
  · exact hks k' hk' p hp hne

theorem optimizeKeywords_ok {adapter : String} {props : List NicAdvancedProperty} {index : ℕ}
    {keywords : List String} {backups : List AdapterPropertyBackup}
    (h : (optimizeKeywords adapter props index keywords).run (.faultless text) w =
      .returned (.ok backups) w') :
    w' = { w with machine := w.machine.zeroKeywords adapter props keywords } ∧
      WritesPass adapter props keywords := by
  induction keywords generalizing index w backups with
  | nil =>
    cases h
    exact ⟨rfl, by rintro k ⟨⟩⟩
  | cons k ks ih =>
    unfold optimizeKeywords at h
    unfold Machine.zeroKeywords
    rw [List.foldl_cons]
    cases hfind : props.find? fun p => eqIgnoreAsciiCase p.registryKeyword k with
    | none =>
      rw [hfind] at h
      obtain ⟨hw, hpass⟩ := ih h
      refine ⟨hw, hpass.cons ?_⟩
      intro p hp
      rw [hfind] at hp
      cases hp
    | some p =>
      simp only [hfind] at h
      by_cases hne : p.firstValue.getD "0" ≠ "0"
      · simp only [if_pos hne, Eff.run_bind] at h ⊢
        obtain ⟨r, hr, hvalid⟩ := run_setAdapterProperty text w index adapter p.registryKeyword "0"
        rw [hr, Run.bind_returned] at h
        cases r with
        | error e => cases h
        | ok =>
          simp only [Eff.run_bind] at h
          generalize hrest : (optimizeKeywords adapter props (index + 1) ks).run (.faultless text)
            { w with machine := w.machine.assignAdapter adapter p.registryKeyword "0" } = rest at h
          rcases rest with ⟨e | backups', w''⟩ | w''
          · cases h
          · cases h
            obtain ⟨hw, hpass⟩ := ih hrest
            refine ⟨hw, hpass.cons ?_⟩
            intro q hq _
            rw [hfind] at hq
            cases hq
            exact hvalid rfl
          · cases h
      · simp only [if_neg hne] at h ⊢
        -- The property already has the value, so nothing is written for this keyword.
        obtain ⟨hw, hpass⟩ := ih h
        refine ⟨hw, hpass.cons ?_⟩
        intro q hq hne'
        rw [hfind] at hq
        cases hq
        exact absurd hne' hne

end Faultless

theorem isTargeted_append (ks ks' : List String) (kw : String) :
    isTargeted (ks ++ ks') kw = (isTargeted ks kw || isTargeted ks' kw) := List.any_append

theorem isTargeted_singleton (k kw : String) : isTargeted [k] kw = eqIgnoreAsciiCase kw k := by
  simp [isTargeted]

/-- A keyword that does not target the row changes nothing. -/
theorem NicAdvancedProperty.zeroed_append_of_not {p : NicAdvancedProperty} {ks : List String}
    {k : String} (h : eqIgnoreAsciiCase p.registryKeyword k = false) :
    p.zeroed (ks ++ [k]) = p.zeroed ks := by
  unfold zeroed
  rw [isTargeted_append, isTargeted_singleton, h, Bool.or_false]

/-- A row with the value "0" stays as it is. -/
theorem NicAdvancedProperty.zeroed_of_zero {p : NicAdvancedProperty}
    (h : p.firstValue.getD "0" = "0") (ks : List String) : p.zeroed ks = p := by
  unfold zeroed
  rw [if_neg (fun hc => hc.2 h)]

/-- One step of the loop, on the rows of the adapter. -/
theorem Machine.rows_zeroKeywords_singleton {m : Machine} {adapter : String} {A : AdapterProperties}
    {ks : List String} {k : String}
    (hrows : (m.adapters adapter).map (·.rows) = some (A.rows.map (·.zeroed ks)))
    (hpass : WritesPass adapter A.rows [k]) :
    ((m.zeroKeywords adapter A.rows [k]).adapters adapter).map (·.rows) =
      some (A.rows.map (·.zeroed (ks ++ [k]))) := by
  unfold zeroKeywords
  rw [List.foldl_cons, List.foldl_nil]
  cases hfind : A.rows.find? fun p => eqIgnoreAsciiCase p.registryKeyword k with
  | none =>
    rw [List.find?_eq_none] at hfind
    rw [hrows]
    congr 1
    apply List.map_congr_left
    intro r hr
    rw [NicAdvancedProperty.zeroed_append_of_not (by simpa using hfind r hr)]
  | some p =>
    obtain ⟨hp, hpk⟩ := A.find?_eq_some_iff.mp hfind
    have hother : ∀ r ∈ A.rows, r ≠ p → eqIgnoreAsciiCase r.registryKeyword k = false := by
      intro r hr hne
      by_contra hk
      rw [Bool.not_eq_false] at hk
      refine hne (A.eq_of_keyword hr hp ?_)
      rw [eqIgnoreAsciiCase_iff] at hk hpk ⊢
      exact hk.trans hpk.symm
    by_cases hne : p.firstValue.getD "0" ≠ "0"
    · -- the row found is written
      have hvalid := hpass k List.mem_cons_self p hfind hne
      simp only [if_pos hne]
      rw [adapters_assignAdapter, if_pos ⟨rfl, hvalid⟩, Option.map_map]
      obtain ⟨B, hB, hBrows⟩ := Option.map_eq_some_iff.mp hrows
      rw [hB, Option.map_some]
      simp only [Function.comp_apply, AdapterProperties.rows_assign, hBrows, List.map_map]
      congr 1
      apply List.map_congr_left
      intro r hr
      rw [Function.comp_apply, NicAdvancedProperty.assign,
        NicAdvancedProperty.registryKeyword_zeroed]
      by_cases hrp : r = p
      · subst hrp
        have htarget : isTargeted (ks ++ [k]) r.registryKeyword := by
          rw [isTargeted_append, isTargeted_singleton, hpk, Bool.or_true]
        have hzeroed : r.zeroed (ks ++ [k]) = { r with registryValue := some ["0"] } :=
          if_pos ⟨htarget, hne⟩
        rw [if_pos (eqIgnoreAsciiCase_self _), hzeroed]
        unfold NicAdvancedProperty.zeroed
        split <;> rfl
      · have hrk := hother r hr hrp
        have hkw : ¬ eqIgnoreAsciiCase r.registryKeyword p.registryKeyword = true :=
          fun h => hrp (A.eq_of_keyword hr hp h)
        rw [if_neg hkw, NicAdvancedProperty.zeroed_append_of_not hrk]
    · simp only [if_neg hne]
      rw [hrows]
      congr 1
      apply List.map_congr_left
      intro r hr
      by_cases hrp : r = p
      · subst hrp
        rw [not_not] at hne
        rw [NicAdvancedProperty.zeroed_of_zero hne, NicAdvancedProperty.zeroed_of_zero hne]
      · rw [NicAdvancedProperty.zeroed_append_of_not (hother r hr hrp)]

/-- The loop sets the targeted rows to "0". -/
theorem Machine.rows_zeroKeywords {m : Machine} {adapter : String} {A : AdapterProperties}
    {ks : List String} (hrows : (m.adapters adapter).map (·.rows) = some (A.rows.map (·.zeroed ks)))
    (keywords : List String) (hpass : WritesPass adapter A.rows keywords) :
    ((m.zeroKeywords adapter A.rows keywords).adapters adapter).map (·.rows) =
      some (A.rows.map (·.zeroed (ks ++ keywords))) := by
  induction keywords generalizing m ks with
  | nil =>
    rw [List.append_nil]
    exact hrows
  | cons k keywords ih =>
    have hfirst := rows_zeroKeywords_singleton hrows (k := k) (by
      intro k' hk'
      rw [List.mem_singleton] at hk'
      rw [hk']
      exact hpass k List.mem_cons_self)
    have hrest := ih hfirst fun k' hk' => hpass k' (List.mem_cons_of_mem _ hk')
    rw [List.append_assoc] at hrest
    exact hrest

section Faultless

variable {text : Call → String} {w w' : World}

/-- `optimizeAdapterLatencyProperties`, when it succeeds, sets the targeted rows of the adapter to
"0". -/
theorem optimizeAdapterLatencyProperties_ok {adapter : String}
    {backups : List AdapterPropertyBackup}
    (h : (optimizeAdapterLatencyProperties adapter).run (.faultless text) w =
      .returned (.ok backups) w') :
    validateAdapterIdentifier adapter = .ok () ∧ ∃ A, w.machine.adapters adapter = some A ∧
      A.rows.length ≠ 1 ∧ (w'.machine.adapters adapter).map (·.rows) =
        some (A.rows.map (·.zeroed (eeeKeywords ++ greenEthernetKeywords))) := by
  obtain ⟨r, hquery, hlisted⟩ := run_queryAdapterProperties text w adapter
  rw [optimizeAdapterLatencyProperties, Eff.run_bind, hquery, Run.bind_returned] at h
  cases r with
  | error e => cases h
  | ok props =>
    obtain ⟨hid, A, hA, hmany, rfl⟩ := Machine.listedProperties_eq_some_iff.mp hlisted.symm
    refine ⟨hid, A, hA, hmany, ?_⟩
    dsimp only at h
    rw [Eff.run_bind] at h
    generalize heee : (optimizeKeywords adapter A.rows 0 eeeKeywords).run (.faultless text) w =
      eee at h
    rcases eee with ⟨e | eeeBackups, w₁⟩ | w₁
    · cases h
    · simp only [Run.bind_returned, Eff.run_bind] at h
      generalize hgreen : (optimizeKeywords adapter A.rows eeeKeywords.length
        greenEthernetKeywords).run (.faultless text) w₁ = green at h
      rcases green with ⟨e | greenBackups, w₂⟩ | w₂
      · cases h
      · cases h
        obtain ⟨rfl, hpass₁⟩ := optimizeKeywords_ok heee
        obtain ⟨rfl, hpass₂⟩ := optimizeKeywords_ok hgreen
        -- The two loops run one after the other, the second from the rows that the first has left.
        have hnil : (w.machine.adapters adapter).map (·.rows) =
            some (A.rows.map (·.zeroed [])) := by
          rw [hA, Option.map_some]
          congr 1
          conv_lhs => rw [← List.map_id A.rows]
          apply List.map_congr_left
          intro r _
          simp [NicAdvancedProperty.zeroed, isTargeted]
        have hfirst := Machine.rows_zeroKeywords hnil eeeKeywords hpass₁
        exact Machine.rows_zeroKeywords hfirst greenEthernetKeywords hpass₂
      · cases h
    · cases h

end Faultless

end ValOpt
