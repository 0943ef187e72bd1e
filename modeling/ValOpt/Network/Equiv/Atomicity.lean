import ValOpt.State.Equiv.WriteBack
import ValOpt.Text.Lowercase

/-!
# Optimizing an adapter as a transaction

The two loops of `optimize_adapter_latency_properties` are one loop over the properties that it sets
to "0" (`run_optimizeAdapterLatencyProperties`), each of which has a number of its own.  The loop
stops at the first call that fails and leaves the properties it has set before
(`setTargets_cases`).  Of a value it keeps the first text only, which the validators of
`set_adapter_property` need not let pass.  So the function is atomic and can be taken back exactly
if no call fails after another one, and all values are single texts that pass
(`atomicAndRestorable_iff`).
-/

namespace ValOpt

open Effect Text

/-! ### What is set -/

section Targets

variable (adapter : String) (props : List NicAdvancedProperty)

/-- `current_val`, which is backed up. -/
def NicAdvancedProperty.currentValue (p : NicAdvancedProperty) : String := p.firstValue.getD "0"

/-- The property that a keyword finds, unless its value is "0". -/
def findTarget (keyword : String) : Option NicAdvancedProperty :=
  (props.find? fun p => eqIgnoreAsciiCase p.registryKeyword keyword).filter
    fun p => p.currentValue ≠ "0"

/-- The properties that a loop sets, with the numbers of the calls. -/
def targets (index : ℕ) : List String → List (ℕ × NicAdvancedProperty)
  | [] => []
  | keyword :: keywords =>
    match findTarget props keyword with
    | none => targets (index + 1) keywords
    | some prop => (index, prop) :: targets (index + 1) keywords

/-- The properties that both loops set. -/
def latencyTargets : List (ℕ × NicAdvancedProperty) :=
  targets props 0 (eeeKeywords ++ greenEthernetKeywords)

/-- The backup of a property with the value `value`. -/
def NicAdvancedProperty.backup (value : String) (p : NicAdvancedProperty) : AdapterPropertyBackup :=
  ⟨adapter, p.registryKeyword, p.displayName, value⟩

/-- The backups of some properties. -/
def backupsOf (value : NicAdvancedProperty → String) (ts : List (ℕ × NicAdvancedProperty)) :
    List AdapterPropertyBackup :=
  ts.map fun t => t.2.backup adapter (value t.2)

/-- Some properties are set to "0" one after the other. -/
def setTargets : List (ℕ × NicAdvancedProperty) →
    Prog (Except String (List AdapterPropertyBackup))
  | [] => return .ok []
  | (index, prop) :: ts => do
    match ← setAdapterProperty index adapter prop.registryKeyword "0" with
    | .error e => return .error e
    | .ok () =>
      match ← setTargets ts with
      | .error e => return .error e
      | .ok backups => return .ok (prop.backup adapter prop.currentValue :: backups)

variable {adapter props} {env : Env Call} {w : World}

theorem targets_append (index : ℕ) (ks ks' : List String) :
    targets props index (ks ++ ks') =
      targets props index ks ++ targets props (index + ks.length) ks' := by
  induction ks generalizing index with
  | nil => rfl
  | cons k ks ih =>
    have hindex : index + 1 + ks.length = index + (k :: ks).length := by
      rw [List.length_cons]
      omega
    rw [List.cons_append, targets, targets, ih, hindex]
    cases findTarget props k with
    | none => rfl
    | some prop => rfl

/-- A loop sets its targets. -/
theorem run_optimizeKeywords (index : ℕ) (ks : List String) (w : World) :
    (optimizeKeywords adapter props index ks).run env w =
      (setTargets adapter (targets props index ks)).run env w := by
  induction ks generalizing index w with
  | nil => rfl
  | cons k ks ih =>
    rw [optimizeKeywords, targets, findTarget]
    cases props.find? fun p => eqIgnoreAsciiCase p.registryKeyword k with
    | none => exact ih (index + 1) w
    | some prop =>
      show ((if prop.currentValue ≠ "0" then _ else _ : Prog _)).run env w = _
      by_cases hzero : prop.currentValue = "0"
      · have hnone : (some prop).filter (fun p => decide (p.currentValue ≠ "0")) = none := by
          simp [hzero]
        rw [hnone, if_neg (not_not.mpr hzero)]
        exact ih (index + 1) w
      · have hsome : (some prop).filter (fun p => decide (p.currentValue ≠ "0")) = some prop := by
          simp [hzero]
        rw [hsome, if_pos hzero]
        simp only [setTargets, Eff.run_bind]
        congr 1
        ext r w'
        cases r with
        | error e => rfl
        | ok _ =>
          simp only [Eff.run_bind, ih]
          rfl

theorem run_setTargets_append (ts ts' : List (ℕ × NicAdvancedProperty)) (w : World) :
    (setTargets adapter (ts ++ ts')).run env w =
      ((setTargets adapter ts).run env w).bind fun r w' =>
        match r with
        | .error e => .returned (.error e) w'
        | .ok backups => ((setTargets adapter ts').run env w').bind fun r' w'' =>
          match r' with
          | .error e => .returned (.error e) w''
          | .ok backups' => .returned (.ok (backups ++ backups')) w'' := by
  induction ts generalizing w with
  | nil =>
    rw [List.nil_append]
    show _ = ((setTargets adapter ts').run env w).bind _
    rcases (setTargets adapter ts').run env w with ⟨e | backups, w'⟩ | w'
    · rfl
    · rfl
    · rfl
  | cons t ts ih =>
    obtain ⟨index, prop⟩ := t
    simp only [List.cons_append, setTargets, Eff.run_bind]
    rcases (setAdapterProperty index adapter prop.registryKeyword "0").run env w with
      ⟨e | _, w₁⟩ | w₁
    · rfl
    · simp only [Run.bind_returned, Eff.run_bind, ih]
      rcases (setTargets adapter ts).run env w₁ with ⟨e | backups, w₂⟩ | w₂
      · rfl
      · simp only [Run.bind_returned, Eff.run_pure]
        rcases (setTargets adapter ts').run env w₂ with ⟨e | backups', w₃⟩ | w₃
        · rfl
        · rfl
        · rfl
      · rfl
    · rfl

/-- Both loops together set the properties that were queried. -/
theorem run_optimizeAdapterLatencyProperties (env : Env Call) (adapter : String) (w : World) :
    (optimizeAdapterLatencyProperties adapter).run env w =
      ((queryAdapterProperties adapter).run env w).bind fun r w' =>
        match r with
        | .error e => .returned (.error e) w'
        | .ok props => (setTargets adapter (latencyTargets props)).run env w' := by
  rw [optimizeAdapterLatencyProperties, Eff.run_bind]
  rcases (queryAdapterProperties adapter).run env w with ⟨e | props, w₁⟩ | w₁
  · rfl
  · simp only [Run.bind_returned, Eff.run_bind, run_optimizeKeywords]
    rw [latencyTargets, targets_append, run_setTargets_append, Nat.zero_add]
    rcases (setTargets adapter (targets props 0 eeeKeywords)).run env w₁ with ⟨e | eee, w₂⟩ | w₂
    · rfl
    · simp only [Run.bind_returned, Eff.run_bind, run_optimizeKeywords]
      rcases (setTargets adapter (targets props eeeKeywords.length greenEthernetKeywords)).run env
        w₂ with ⟨e | green, w₃⟩ | w₃
      · rfl
      · rfl
      · rfl
    · rfl
  · rfl

end Targets

/-! ### The loop -/

section Loop

variable {env : Env Call} {w : World} {m : Machine} {adapter : String}
  {ts : List (ℕ × NicAdvancedProperty)}

/-- The calls of `set_adapter_property` number `index` succeed. -/
def Succeeds (env : Env Call) (index : ℕ) : Prop :=
  env.outcome (.elevationOfSet index) = .ok ∧ env.outcome (.spawnAdapterSet index) = .ok ∧
    env.outcome (.setAdapter index) = .ok

/-- The first of them that does not succeed reports an error. -/
def ReportsError (env : Env Call) (index : ℕ) : Prop :=
  (∃ k, env.outcome (.elevationOfSet index) = .fail k) ∨
    env.outcome (.elevationOfSet index) = .ok ∧
      ((∃ k, env.outcome (.spawnAdapterSet index) = .fail k) ∨
        env.outcome (.spawnAdapterSet index) = .ok ∧
          ∃ k, env.outcome (.setAdapter index) = .fail k)

/-- The adapter has a property with the keyword. -/
def Machine.HasKeyword (m : Machine) (adapter kw : String) : Prop :=
  ∃ A, m.adapters adapter = some A ∧
    (A.rows.any fun p => eqIgnoreAsciiCase p.registryKeyword kw) = true

theorem Machine.HasKeyword.assignAdapter {kw : String} (h : m.HasKeyword adapter kw)
    (adapter' kw' v : String) : (m.assignAdapter adapter' kw' v).HasKeyword adapter kw := by
  obtain ⟨A, hA, hany⟩ := h
  rw [HasKeyword, adapters_assignAdapter, hA]
  split
  · refine ⟨A.assign kw' v, rfl, ?_⟩
    rw [AdapterProperties.rows_assign, List.any_map]
    have hkw : ((fun p => eqIgnoreAsciiCase p.registryKeyword kw) ∘ (·.assign kw' v)) =
        fun p : NicAdvancedProperty => eqIgnoreAsciiCase p.registryKeyword kw := by
      ext p
      simp
    rw [hkw]
    exact hany
  · exact ⟨A, rfl, hany⟩

/-- What the validators let pass is a look at the elevation, the start of a process and a write. -/
theorem run_setAdapterProperty_valid {index : ℕ} {kw v : String}
    (hvalid : (validateAdapterSet adapter kw v).isOk) (w : World) :
    (setAdapterProperty index adapter kw v).run env w =
      ((readMachine (.elevationOfSet index) fun _ => some ()).run env w).bind fun r w₁ =>
        match r with
        | .error _ => .returned (.error
            "Administrator elevation required to modify network adapter advanced properties.") w₁
        | .ok () =>
          ((readMachine (.spawnAdapterSet index) fun _ => some ()).run env w₁).bind fun r w₂ =>
            match r with
            | .error e => .returned
                (.error s!"Failed to execute Set-NetAdapterAdvancedProperty: {e}") w₂
            | .ok () => ((writeMachine (.setAdapter index)
                fun m => m.setAdapter adapter kw v).run env w₂).bind fun r w₃ =>
              match r with
              | .error e => .returned (.error s!"Failed to set '{kw}' on '{adapter}': {e}") w₃
              | .ok () => .returned (.ok ()) w₃ := by
  rw [setAdapterProperty]
  cases hv : validateAdapterSet adapter kw v with
  | error e =>
    rw [hv] at hvalid
    cases hvalid
  | ok _ =>
    simp only [Eff.run_bind]
    congr 1
    ext r w₁
    cases r with
    | error e => rfl
    | ok _ =>
      simp only [Eff.run_bind]
      congr 1
      ext r w₂
      cases r with
      | error e => rfl
      | ok _ =>
        simp only [Eff.run_bind]
        congr 1
        ext r w₃
        cases r with
        | error e => rfl
        | ok _ => rfl

theorem run_setAdapterProperty_of_succeeds {index : ℕ} {kw v : String} (hs : Succeeds env index)
    (hvalid : (validateAdapterSet adapter kw v).isOk) (hkw : w.machine.HasKeyword adapter kw) :
    (setAdapterProperty index adapter kw v).run env w =
      .returned (.ok ()) { w with machine := w.machine.assignAdapter adapter kw v } := by
  obtain ⟨A, hA, hany⟩ := hkw
  obtain ⟨helevated, hspawned, hset⟩ := hs
  have hmachine : w.machine.setAdapter adapter kw v =
      some (w.machine.assignAdapter adapter kw v) := by
    rw [Machine.setAdapter, Machine.assignAdapter, hA, if_pos hvalid]
    exact if_pos hany
  have helevation : (readMachine (.elevationOfSet index) fun _ => some ()).run env w =
      .returned (.ok ()) w := run_readMachine helevated rfl
  have hspawn : (readMachine (.spawnAdapterSet index) fun _ => some ()).run env w =
      .returned (.ok ()) w := run_readMachine hspawned rfl
  rw [run_setAdapterProperty_valid hvalid, helevation, Run.bind_returned]
  dsimp only
  rw [hspawn, Run.bind_returned]
  dsimp only
  rw [run_writeMachine hset hmachine]
  rfl

/-- Without success nothing is set, and the function returns only if an error is reported. -/
theorem run_setAdapterProperty_of_not_succeeds {index : ℕ} {kw v : String}
    (hs : ¬Succeeds env index) (hvalid : (validateAdapterSet adapter kw v).isOk) :
    (ReportsError env index ∧ ∃ e, (setAdapterProperty index adapter kw v).run env w =
        .returned (.error e) w) ∨
      (¬ReportsError env index ∧ ∃ w', (setAdapterProperty index adapter kw v).run env w =
        .crashed w') := by
  rw [run_setAdapterProperty_valid hvalid, readMachine, writeMachine, ReportsError]
  have hlook : ∀ c : Call, env.outcome c = .ok → (perform c (.read fun w' : World =>
      (fun _ => some ()) w'.machine)).run env w = .returned (.ok ()) w :=
    fun c hc => run_perform_ok hc rfl
  cases helevation : env.outcome (.elevationOfSet index) with
  | fail k =>
    rw [run_perform_fail helevation]
    exact Or.inl ⟨Or.inl ⟨k, rfl⟩, _, rfl⟩
  | crash k =>
    rw [run_perform_crash helevation]
    exact Or.inr ⟨by simp, _, rfl⟩
  | ok =>
    rw [hlook _ helevation, Run.bind_returned]
    dsimp only
    rw [readMachine]
    cases hspawn : env.outcome (.spawnAdapterSet index) with
    | fail k =>
      rw [run_perform_fail hspawn]
      exact Or.inl ⟨Or.inr ⟨rfl, Or.inl ⟨k, rfl⟩⟩, _, rfl⟩
    | crash k =>
      rw [run_perform_crash hspawn]
      exact Or.inr ⟨by simp, _, rfl⟩
    | ok =>
      rw [hlook _ hspawn, Run.bind_returned]
      dsimp only
      cases hset : env.outcome (.setAdapter index) with
      | ok => exact absurd ⟨helevation, hspawn, hset⟩ hs
      | fail k =>
        rw [run_perform_fail hset]
        exact Or.inl ⟨Or.inr ⟨rfl, Or.inr ⟨rfl, k, rfl⟩⟩, _, rfl⟩
      | crash k =>
        rw [run_perform_crash hset]
        exact Or.inr ⟨by simp, _, rfl⟩

/-- The loop sets all its properties, or stops at one that is not set. -/
theorem setTargets_cases (env : Env Call)
    (hvalid : ∀ t ∈ ts, (validateAdapterSet adapter t.2.registryKeyword "0").isOk)
    (hkw : ∀ t ∈ ts, w.machine.HasKeyword adapter t.2.registryKeyword) :
    ((∀ t ∈ ts, Succeeds env t.1) ∧ (setTargets adapter ts).run env w =
        .returned (.ok (backupsOf adapter (·.currentValue) ts))
          { w with machine := w.machine.restoreAdapters (backupsOf adapter (fun _ => "0") ts) }) ∨
      ∃ before t after, ts = before ++ t :: after ∧ (∀ s ∈ before, Succeeds env s.1) ∧
        ¬Succeeds env t.1 ∧
        ((ReportsError env t.1 ∧ ∃ e, (setTargets adapter ts).run env w = .returned (.error e)
            { w with machine :=
                w.machine.restoreAdapters (backupsOf adapter (fun _ => "0") before) }) ∨
          (¬ReportsError env t.1 ∧ ∃ w', (setTargets adapter ts).run env w = .crashed w')) := by
  -- Every success changes the machine from which the rest is set.
  induction ts generalizing w with
  | nil =>
    refine Or.inl ⟨?_, rfl⟩
    intro t ht
    cases ht
  | cons t ts ih =>
    obtain ⟨index, prop⟩ := t
    have hfirst := hvalid _ List.mem_cons_self
    by_cases hs : Succeeds env index
    · -- What stops the rest stops the whole, behind one more success.
      have hset := run_setAdapterProperty_of_succeeds hs hfirst (hkw _ List.mem_cons_self)
      rcases ih (w := { w with machine :=
          w.machine.assignAdapter adapter prop.registryKeyword "0" })
        (fun t ht => hvalid t (List.mem_cons_of_mem _ ht))
        (fun t ht => (hkw t (List.mem_cons_of_mem _ ht)).assignAdapter _ _ _) with
        ⟨hall, hrun⟩ | ⟨before, t, after, hsplit, hbefore, ht, hstop⟩
      · refine Or.inl ⟨?_, ?_⟩
        · intro t ht
          rcases List.mem_cons.mp ht with rfl | ht
          · exact hs
          · exact hall t ht
        · simp only [setTargets, Eff.run_bind, hset, Run.bind_returned, hrun]
          rfl
      · refine Or.inr ⟨(index, prop) :: before, t, after, ?_, ?_, ht, ?_⟩
        · rw [hsplit, List.cons_append]
        · intro s hs'
          rcases List.mem_cons.mp hs' with rfl | hs'
          · exact hs
          · exact hbefore s hs'
        · rcases hstop with ⟨hreports, e, hrun⟩ | ⟨hreports, w', hrun⟩
          · refine Or.inl ⟨hreports, e, ?_⟩
            simp only [setTargets, Eff.run_bind, hset, Run.bind_returned, hrun]
            rfl
          · refine Or.inr ⟨hreports, w', ?_⟩
            simp only [setTargets, Eff.run_bind, hset, Run.bind_returned, hrun]
            rfl
    · refine Or.inr ⟨[], (index, prop), ts, rfl, ?_, hs, ?_⟩
      · intro s hs'
        cases hs'
      · rcases run_setAdapterProperty_of_not_succeeds (w := w) hs hfirst with
          ⟨hreports, e, hrun⟩ | ⟨hreports, w', hrun⟩
        · refine Or.inl ⟨hreports, e, ?_⟩
          simp only [setTargets, Eff.run_bind, hrun, Run.bind_returned]
          rfl
        · refine Or.inr ⟨hreports, w', ?_⟩
          simp only [setTargets, Eff.run_bind, hrun]
          rfl

end Loop

/-! ### The validators -/

section Validators

variable {s k adapter : String} {props : List NicAdvancedProperty}

theorem validateAdapterIdentifier_eq_ok_iff (s : String) : validateAdapterIdentifier s = .ok () ↔
    s ≠ "" ∧ (bytesOf s.toList).length ≤ 256 ∧ ∀ c ∈ s.toList, isIdentifierChar c = true := by
  have hbytes : (bytesOf s.toList).length = s.utf8ByteSize := by
    rw [bytesOf_toList]
    rfl
  rw [validateAdapterIdentifier, hbytes]
  split
  next hlen =>
    constructor
    · intro h
      cases h
    · rintro ⟨hne, hle, -⟩
      rcases hlen with hempty | hlt
      · exact absurd hempty hne
      · omega
  next hlen =>
    rw [not_or] at hlen
    cases hfind : s.toList.find? fun c => !isIdentifierChar c with
    | some c =>
      constructor
      · intro h
        cases h
      · rintro ⟨-, -, hall⟩
        have hbad := List.find?_some hfind
        rw [hall c (List.mem_of_find?_eq_some hfind)] at hbad
        cases hbad
    | none =>
      rw [List.find?_eq_none] at hfind
      refine ⟨fun _ => ⟨hlen.1, by omega, ?_⟩, fun _ => rfl⟩
      intro c hc
      simpa using hfind c hc

theorem isIdentifierChar_toLower (c : Char) : isIdentifierChar c.toLower = isIdentifierChar c := by
  apply apply_toLower
  have hascii : ∀ n < 128,
      isIdentifierChar (Char.ofNat n).toLower = isIdentifierChar (Char.ofNat n) := by
    decide
  intro c hc
  have h := hascii c.toNat hc
  rw [Char.ofNat_toNat] at h
  exact h

/-- The validator does not tell letters of different case apart. -/
theorem validateAdapterIdentifier_congr (h : eqIgnoreAsciiCase s k)
    (hk : validateAdapterIdentifier k = .ok ()) : validateAdapterIdentifier s = .ok () := by
  rw [validateAdapterIdentifier_eq_ok_iff] at hk ⊢
  obtain ⟨hne, hlen, hall⟩ := hk
  have hlower : s.toList.map Char.toLower = k.toList.map Char.toLower := eqIgnoreAsciiCase_iff.mp h
  refine ⟨?_, ?_, ?_⟩
  · intro hempty
    rw [hempty] at hlower
    have hnil := List.map_eq_nil_iff.mp hlower.symm
    exact hne (String.toList_inj.mp hnil)
  · rw [← length_bytesOf_map_toLower, hlower, length_bytesOf_map_toLower]
    exact hlen
  · intro c hc
    have hmem : c.toLower ∈ k.toList.map Char.toLower := by
      rw [← hlower]
      exact List.mem_map_of_mem hc
    obtain ⟨d, hd, heq⟩ := List.mem_map.mp hmem
    rw [← isIdentifierChar_toLower, ← heq, isIdentifierChar_toLower]
    exact hall d hd

theorem validateAdapterSet_eq_ok {kw v : String}
    (hadapter : validateAdapterIdentifier adapter = .ok ())
    (hkw : validateAdapterIdentifier kw = .ok ()) :
    validateAdapterSet adapter kw v = .ok () ↔ validatePropertyValue v = .ok () := by
  rw [validateAdapterSet, hadapter, hkw]
  rfl

/-- What a keyword finds to be set. -/
theorem of_findTarget {p : NicAdvancedProperty} (h : findTarget props k = some p) :
    p ∈ props ∧ eqIgnoreAsciiCase p.registryKeyword k ∧ p.currentValue ≠ "0" := by
  rw [findTarget, Option.filter_eq_some_iff] at h
  obtain ⟨hfind, hvalue⟩ := h
  have hkw := List.find?_some hfind
  exact ⟨List.mem_of_find?_eq_some hfind, hkw, of_decide_eq_true hvalue⟩

theorem exists_findTarget {t : ℕ × NicAdvancedProperty} {index : ℕ} {ks : List String}
    (h : t ∈ targets props index ks) : ∃ k ∈ ks, findTarget props k = some t.2 := by
  induction ks generalizing index with
  | nil => cases h
  | cons k ks ih =>
    rw [targets] at h
    cases hfind : findTarget props k with
    | none =>
      rw [hfind] at h
      obtain ⟨k', hk', ht⟩ := ih h
      exact ⟨k', List.mem_cons_of_mem k hk', ht⟩
    | some p =>
      rw [hfind] at h
      rcases List.mem_cons.mp h with heq | h
      · refine ⟨k, List.mem_cons_self, ?_⟩
        rw [heq, hfind]
      · obtain ⟨k', hk', ht⟩ := ih h
        exact ⟨k', List.mem_cons_of_mem k hk', ht⟩

/-- What is known of a property that is set. -/
theorem of_mem_latencyTargets {t : ℕ × NicAdvancedProperty} (h : t ∈ latencyTargets props) :
    t.2 ∈ props ∧ validateAdapterIdentifier t.2.registryKeyword = .ok () ∧
      t.2.currentValue ≠ "0" := by
  obtain ⟨k, hk, ht⟩ := exists_findTarget h
  obtain ⟨hmem, hkw, hvalue⟩ := of_findTarget ht
  have hkeywords : ∀ k ∈ eeeKeywords ++ greenEthernetKeywords,
      validateAdapterIdentifier k = .ok () := by
    decide +kernel
  exact ⟨hmem, validateAdapterIdentifier_congr hkw (hkeywords k hk), hvalue⟩

end Validators

/-! ### What is written back -/

section WriteBack

variable {m : Machine} {adapter kw : String} {A : AdapterProperties}
  {ts : List (ℕ × NicAdvancedProperty)}

theorem recordedProperty_append (bs bs' : List AdapterPropertyBackup) :
    recordedProperty adapter kw (bs ++ bs') =
      (recordedProperty adapter kw bs').or (recordedProperty adapter kw bs) := by
  induction bs with
  | nil =>
    rw [List.nil_append, recordedProperty, Option.or_none]
  | cons b bs ih =>
    rw [List.cons_append, recordedProperty, recordedProperty, ih, Option.or_assoc]

theorem isSome_recordedProperty {bs : List AdapterPropertyBackup} {b : AdapterPropertyBackup}
    (hb : b ∈ bs) (hname : b.adapterName = adapter)
    (hvalid : (validateAdapterSet b.adapterName b.keyword b.originalValue).isOk)
    (hkw : eqIgnoreAsciiCase kw b.keyword) : (recordedProperty adapter kw bs).isSome := by
  induction bs with
  | nil => cases hb
  | cons b' bs ih =>
    rw [recordedProperty, Option.isSome_or, Bool.or_eq_true]
    rcases List.mem_cons.mp hb with rfl | hb
    · rw [if_pos ⟨hname, hvalid, hkw⟩]
      exact Or.inr rfl
    · exact Or.inl (ih hb)

/-- All values are single and pass the validator. -/
def KeepsValues (ts : List (ℕ × NicAdvancedProperty)) : Prop :=
  ∀ t ∈ ts, ∃ v, t.2.registryValue = some [v] ∧ validatePropertyValue v = .ok ()

/-- The properties are those of the adapter, with keywords that pass and values other than "0". -/
def AreTargets (A : AdapterProperties) (ts : List (ℕ × NicAdvancedProperty)) : Prop :=
  ∀ t ∈ ts, t.2 ∈ A.rows ∧ validateAdapterIdentifier t.2.registryKeyword = .ok () ∧
    t.2.currentValue ≠ "0"

theorem validateAdapterSet_backup (hadapter : validateAdapterIdentifier adapter = .ok ())
    (hts : AreTargets A ts) {t : ℕ × NicAdvancedProperty} (ht : t ∈ ts) (v : String) :
    validateAdapterSet (t.2.backup adapter v).adapterName (t.2.backup adapter v).keyword
      (t.2.backup adapter v).originalValue = .ok () ↔ validatePropertyValue v = .ok () :=
  validateAdapterSet_eq_ok hadapter (hts t ht).2.1

/-- A property takes the value of its own backup, if it passes. -/
theorem recordedProperty_backupsOf (hadapter : validateAdapterIdentifier adapter = .ok ())
    (hts : AreTargets A ts) (value : NicAdvancedProperty → String) {t : ℕ × NicAdvancedProperty}
    (ht : t ∈ ts) (hvalid : validatePropertyValue (value t.2) = .ok ()) :
    recordedProperty adapter t.2.registryKeyword (backupsOf adapter value ts) =
      some (value t.2) := by
  have hset := (validateAdapterSet_backup hadapter hts ht _).mpr hvalid
  have hmem : t.2.backup adapter (value t.2) ∈ backupsOf adapter value ts :=
    List.mem_map.mpr ⟨t, ht, rfl⟩
  have hsome : (recordedProperty adapter t.2.registryKeyword
      (backupsOf adapter value ts)).isSome := by
    apply isSome_recordedProperty hmem rfl
    · rw [hset]
      rfl
    · exact eqIgnoreAsciiCase_self _
  obtain ⟨v, hv⟩ := Option.isSome_iff_exists.mp hsome
  obtain ⟨b, hb, -, hkw, hvalue⟩ := exists_of_recordedProperty hv
  obtain ⟨s, hs, rfl⟩ := List.mem_map.mp hb
  rw [hv, ← hvalue, A.eq_of_keyword (hts t ht).1 (hts s hs).1 hkw]
  rfl

/-- What is written back to a property is its own backup. -/
theorem of_recordedProperty_backupsOf {adapter' v : String} {value : NicAdvancedProperty → String}
    (h : recordedProperty adapter' kw (backupsOf adapter value ts) = some v) :
    adapter = adapter' ∧ ∃ t ∈ ts, eqIgnoreAsciiCase kw t.2.registryKeyword := by
  obtain ⟨b, hb, hname, hkw, -⟩ := exists_of_recordedProperty h
  obtain ⟨t, ht, rfl⟩ := List.mem_map.mp hb
  exact ⟨hname, t, ht, hkw⟩

/-- Every property that is set comes back exactly if its value is kept. -/
theorem restorable_iff (hA : m.adapters adapter = some A)
    (hadapter : validateAdapterIdentifier adapter = .ok ()) (hts : AreTargets A ts) :
    ((∀ b ∈ backupsOf adapter (·.currentValue) ts,
        validateAdapterSet b.adapterName b.keyword b.originalValue = .ok ()) ∧
      ((m.restoreAdapters (backupsOf adapter (fun _ => "0") ts)).restoreAdapters
        (backupsOf adapter (·.currentValue) ts)).adapters = m.adapters) ↔ KeepsValues ts := by
  have hpass : (∀ b ∈ backupsOf adapter (·.currentValue) ts,
        validateAdapterSet b.adapterName b.keyword b.originalValue = .ok ()) ↔
      ∀ t ∈ ts, validatePropertyValue t.2.currentValue = .ok () := by
    constructor
    · intro h t ht
      apply (validateAdapterSet_backup hadapter hts ht _).mp
      exact h _ (List.mem_map.mpr ⟨t, ht, rfl⟩)
    · intro h b hb
      obtain ⟨t, ht, rfl⟩ := List.mem_map.mp hb
      exact (validateAdapterSet_backup hadapter hts ht _).mpr (h t ht)
  have hboth : (m.restoreAdapters (backupsOf adapter (fun _ => "0") ts)).restoreAdapters
      (backupsOf adapter (·.currentValue) ts) = m.restoreAdapters
        (backupsOf adapter (fun _ => "0") ts ++ backupsOf adapter (·.currentValue) ts) :=
    List.foldl_append.symm
  rw [hpass, hboth, Machine.adapters_restoreAdapters_eq_self_iff]
  simp only [recordedProperty_append]
  constructor
  · rintro ⟨hvalid, hback⟩ t ht
    have hrecorded := recordedProperty_backupsOf hadapter hts (·.currentValue) ht (hvalid t ht)
    refine ⟨_, hback adapter A hA t.2 (hts t ht).1 _ ?_, hvalid t ht⟩
    rw [hrecorded, Option.some_or]
  · intro hkeeps
    have hvalue : ∀ t ∈ ts, t.2.registryValue = some [t.2.currentValue] ∧
        validatePropertyValue t.2.currentValue = .ok () := by
      intro t ht
      obtain ⟨v, hv, hvalid⟩ := hkeeps t ht
      have hfirst : t.2.currentValue = v := by
        rw [NicAdvancedProperty.currentValue, NicAdvancedProperty.firstValue, hv]
        rfl
      rw [hfirst]
      exact ⟨hv, hvalid⟩
    refine ⟨fun t ht => (hvalue t ht).2, ?_⟩
    intro adapter' A' hA' p hp v hv
    -- The property has a backup of its own, whichever of the two lists names it.
    have hmem : adapter = adapter' ∧ ∃ t ∈ ts,
        eqIgnoreAsciiCase p.registryKeyword t.2.registryKeyword := by
      rcases Option.or_eq_some_iff.mp hv with h | ⟨-, h⟩
      · exact of_recordedProperty_backupsOf h
      · exact of_recordedProperty_backupsOf h
    obtain ⟨rfl, t, ht, hkw⟩ := hmem
    rw [hA] at hA'
    obtain rfl := Option.some.inj hA'
    obtain rfl := A.eq_of_keyword hp (hts t ht).1 hkw
    rw [recordedProperty_backupsOf hadapter hts (·.currentValue) ht (hvalue t ht).2,
      Option.some_or] at hv
    rw [← Option.some.inj hv]
    exact (hvalue t ht).1

/-- What is set does not have its old value. -/
theorem adapters_zeroed_iff (hA : m.adapters adapter = some A)
    (hadapter : validateAdapterIdentifier adapter = .ok ()) (hts : AreTargets A ts) :
    (m.restoreAdapters (backupsOf adapter (fun _ => "0") ts)).adapters = m.adapters ↔
      ts = [] := by
  constructor
  · intro h
    cases ts with
    | nil => rfl
    | cons t ts =>
      rw [Machine.adapters_restoreAdapters_eq_self_iff] at h
      have ht : t ∈ t :: ts := List.mem_cons_self
      have hzero := recordedProperty_backupsOf hadapter hts (fun _ => "0") ht rfl
      have hfirst := h adapter A hA t.2 (hts t ht).1 _ hzero
      refine absurd ?_ (hts t ht).2.2
      rw [NicAdvancedProperty.currentValue, NicAdvancedProperty.firstValue, hfirst]
      rfl
  · intro h
    rw [h]
    rfl

end WriteBack

/-! ### The transaction -/

section Transaction

variable (env : Env Call) (w : World) (adapter : String)

/-- An error leaves every property as it was; and what a success returns passes the validators and
brings every property back. -/
def AtomicAndRestorable : Prop :=
  (∀ e w', (optimizeAdapterLatencyProperties adapter).run env w = .returned (.error e) w' →
      w'.machine.adapters = w.machine.adapters) ∧
    ∀ backups w',
      (optimizeAdapterLatencyProperties adapter).run env w = .returned (.ok backups) w' →
      (∀ b ∈ backups, validateAdapterSet b.adapterName b.keyword b.originalValue = .ok ()) ∧
        ∀ text, ∃ w'', (restoreAdapterProperties backups).run (.faultless text) w' =
          .returned (.ok ()) w'' ∧ w''.machine.adapters = w.machine.adapters

/-- The properties that the query returns, of which there is not just one. -/
structure Queries (A : AdapterProperties) : Prop where
  identifier : validateAdapterIdentifier adapter = .ok ()
  spawn : env.outcome .spawnAdapterQuery = .ok
  query : env.outcome .queryAdapter = .ok
  parse : env.outcome .parseAdapter = .ok
  rows : w.machine.adapters adapter = some A
  many : A.rows.length ≠ 1

/-- No call fails after another one has succeeded, and if all succeed, the values are kept. -/
structure CanBeUndone : Prop where
  atomic : ∀ A, Queries env w adapter A → ∀ before t after,
    latencyTargets A.rows = before ++ t :: after → (∀ s ∈ before, Succeeds env s.1) →
      ReportsError env t.1 → before = []
  restorable : ∀ A, Queries env w adapter A → (∀ t ∈ latencyTargets A.rows, Succeeds env t.1) →
    KeepsValues (latencyTargets A.rows)

variable {env w adapter}

theorem Succeeds.not_reportsError {index : ℕ} (h : Succeeds env index) :
    ¬ReportsError env index := by
  obtain ⟨helevation, hspawn, hset⟩ := h
  simp [ReportsError, helevation, hspawn, hset]

/-- The first element of a list without a property is in one place. -/
theorem eq_of_append_eq_append {α : Type} {p : α → Prop} {before before' after after' : List α}
    {t t' : α} (h : before ++ t :: after = before' ++ t' :: after') (hbefore : ∀ s ∈ before, p s)
    (ht : ¬p t) (hbefore' : ∀ s ∈ before', p s) (ht' : ¬p t') : before = before' ∧ t = t' := by
  induction before generalizing before' with
  | nil =>
    cases before' with
    | nil => exact ⟨rfl, (List.cons.inj h).1⟩
    | cons s before' =>
      have hs := hbefore' s List.mem_cons_self
      rw [← (List.cons.inj h).1] at hs
      exact absurd hs ht
  | cons s before ih =>
    cases before' with
    | nil =>
      have hs := hbefore s List.mem_cons_self
      rw [(List.cons.inj h).1] at hs
      exact absurd hs ht'
    | cons s' before' =>
      obtain ⟨rfl, hrest⟩ := List.cons.inj h
      obtain ⟨rfl, heq⟩ := ih hrest (fun a ha => hbefore a (List.mem_cons_of_mem s ha))
        fun a ha => hbefore' a (List.mem_cons_of_mem s ha)
      exact ⟨rfl, heq⟩

/-- Nothing is returned but an error, and nothing was changed before. -/
def Stops {α : Type} (r : Run World (Except String α)) (w : World) : Prop :=
  (∃ e, r = .returned (.error e) w) ∨ ∃ w', r = .crashed w'

/-- A program that passes on the errors of its first part stops where that stops. -/
theorem Stops.bind {α β : Type} {p : Prog (Except String α)}
    {f : Except String α → Prog (Except String β)} (h : Stops (p.run env w) w)
    (herror : ∀ e, ∃ e', f (.error e) = pure (.error e')) : Stops ((p >>= f).run env w) w := by
  rw [Eff.run_bind]
  rcases h with ⟨e, h⟩ | ⟨w', h⟩
  · obtain ⟨e', he'⟩ := herror e
    rw [h, Run.bind_returned, he']
    exact Or.inl ⟨e', rfl⟩
  · rw [h]
    exact Or.inr ⟨w', rfl⟩

/-- A look at the machine finds something, or stops. -/
theorem readMachine_cases {α : Type} (env : Env Call) (w : World) (c : Call)
    (f : Machine → Option α) :
    (∃ a, env.outcome c = .ok ∧ f w.machine = some a ∧
        (readMachine c f).run env w = .returned (.ok a) w) ∨
      ¬ (env.outcome c = .ok ∧ (f w.machine).isSome) ∧ Stops ((readMachine c f).run env w) w := by
  cases hc : env.outcome c with
  | ok =>
    cases hf : f w.machine with
    | some a => exact Or.inl ⟨a, rfl, rfl, run_readMachine hc hf⟩
    | none => exact Or.inr ⟨nofun, Or.inl ⟨_, run_readMachine_none hc hf⟩⟩
  | fail k => exact Or.inr ⟨nofun, Or.inl ⟨_, run_perform_fail hc⟩⟩
  | crash k => exact Or.inr ⟨nofun, Or.inr ⟨_, run_perform_crash hc⟩⟩

/-- Either the properties are queried, or nothing is done. -/
theorem queryAdapterProperties_cases (env : Env Call) (w : World) (adapter : String) :
    (∃ A, Queries env w adapter A ∧
        (queryAdapterProperties adapter).run env w = .returned (.ok A.rows) w) ∨
      (∀ A, ¬Queries env w adapter A) ∧ Stops ((queryAdapterProperties adapter).run env w) w := by
  rw [queryAdapterProperties]
  cases hadapter : validateAdapterIdentifier adapter with
  | error e =>
    refine Or.inr ⟨fun A hA => ?_, Or.inl ⟨e, rfl⟩⟩
    rw [hA.identifier] at hadapter
    cases hadapter
  | ok =>
    dsimp only
    rcases readMachine_cases env w .spawnAdapterQuery fun _ => some () with
      ⟨_, hspawn, -, hrun⟩ | ⟨hno, hstops⟩
    case inr =>
      exact Or.inr ⟨fun A hA => hno ⟨hA.spawn, rfl⟩, hstops.bind fun e => ⟨_, rfl⟩⟩
    rw [Eff.run_bind, hrun, Run.bind_returned]
    dsimp only
    rcases readMachine_cases env w .queryAdapter fun m => (m.adapters adapter).map (·.rows) with
      ⟨rows, hquery, hrows, hrun⟩ | ⟨hno, hstops⟩
    case inr =>
      refine Or.inr ⟨fun A hA => hno ⟨hA.query, ?_⟩, hstops.bind fun e => ⟨_, rfl⟩⟩
      rw [hA.rows]
      rfl
    obtain ⟨A, hA, rfl⟩ := Option.map_eq_some_iff.mp hrows
    rw [Eff.run_bind, hrun, Run.bind_returned]
    dsimp only
    rw [parseProperties]
    rcases readMachine_cases env w .parseAdapter fun _ =>
        if A.rows.length = 1 then none else some A.rows with
      ⟨rows, hparse, hmany, hrun⟩ | ⟨hno, hstops⟩
    case inr =>
      refine Or.inr ⟨fun A' hA' => hno ⟨hA'.parse, ?_⟩, hstops.bind fun e => ⟨_, rfl⟩⟩
      obtain rfl : A = A' := Option.some.inj (hA.symm.trans hA'.rows)
      rw [if_neg hA'.many]
      rfl
    by_cases hone : A.rows.length = 1
    · rw [if_pos hone] at hmany
      cases hmany
    · rw [if_neg hone, Option.some.injEq] at hmany
      subst hmany
      refine Or.inl ⟨A, ⟨hadapter, hspawn, hquery, hparse, hA, hone⟩, ?_⟩
      rw [Eff.run_bind, hrun]
      rfl

theorem atomicAndRestorable_of_ok {backups : List AdapterPropertyBackup} {w' : World}
    (h : (optimizeAdapterLatencyProperties adapter).run env w = .returned (.ok backups) w') :
    AtomicAndRestorable env w adapter ↔
      (∀ b ∈ backups, validateAdapterSet b.adapterName b.keyword b.originalValue = .ok ()) ∧
        (w'.machine.restoreAdapters backups).adapters = w.machine.adapters := by
  constructor
  · rintro ⟨-, hok⟩
    obtain ⟨hpass, hback⟩ := hok backups w' h
    obtain ⟨w'', hw'', hsame⟩ := hback fun _ => ""
    rw [run_restoreAdapterProperties] at hw''
    obtain ⟨-, rfl⟩ := Run.returned.inj hw''
    exact ⟨hpass, hsame⟩
  · rintro ⟨hpass, hsame⟩
    constructor
    · intro e w'' herror
      rw [h] at herror
      cases herror
    · intro backups' w'' hok
      rw [h] at hok
      obtain ⟨heq, rfl⟩ := Run.returned.inj hok
      rw [← Except.ok.inj heq]
      exact ⟨hpass, fun text => ⟨_, run_restoreAdapterProperties backups, hsame⟩⟩

theorem atomicAndRestorable_of_error {e : String} {w' : World}
    (h : (optimizeAdapterLatencyProperties adapter).run env w = .returned (.error e) w') :
    AtomicAndRestorable env w adapter ↔ w'.machine.adapters = w.machine.adapters := by
  constructor
  · exact fun hatomic => hatomic.1 e w' h
  · intro hsame
    constructor
    · intro e' w'' herror
      rw [h] at herror
      obtain ⟨-, rfl⟩ := Run.returned.inj herror
      exact hsame
    · intro backups w'' hok
      rw [h] at hok
      cases hok

theorem atomicAndRestorable_of_crashed {w' : World}
    (h : (optimizeAdapterLatencyProperties adapter).run env w = .crashed w') :
    AtomicAndRestorable env w adapter := by
  constructor
  · intro e w'' herror
    rw [h] at herror
    cases herror
  · intro backups w'' hok
    rw [h] at hok
    cases hok

theorem canBeUndone_iff {A : AdapterProperties} (h : Queries env w adapter A) :
    CanBeUndone env w adapter ↔
      (∀ before t after, latencyTargets A.rows = before ++ t :: after →
        (∀ s ∈ before, Succeeds env s.1) → ReportsError env t.1 → before = []) ∧
        ((∀ t ∈ latencyTargets A.rows, Succeeds env t.1) →
          KeepsValues (latencyTargets A.rows)) := by
  constructor
  · intro hundone
    exact ⟨hundone.atomic A h, hundone.restorable A h⟩
  · rintro ⟨hatomic, hrestorable⟩
    have hunique : ∀ A', Queries env w adapter A' → A = A' := by
      exact fun A' hA' => Option.some.inj (h.rows.symm.trans hA'.rows)
    constructor
    case atomic =>
      intro A' hA'
      rw [← hunique A' hA']
      exact hatomic
    case restorable =>
      intro A' hA'
      rw [← hunique A' hA']
      exact hrestorable

/-- Where all calls succeed, none reports an error. -/
theorem atomic_of_succeeds {ts : List (ℕ × NicAdvancedProperty)}
    (hall : ∀ t ∈ ts, Succeeds env t.1) : ∀ before t after, ts = before ++ t :: after →
      (∀ s ∈ before, Succeeds env s.1) → ReportsError env t.1 → before = [] := by
  intro before t after hsplit _ hreports
  have ht : t ∈ ts := by
    rw [hsplit]
    exact List.mem_append_right _ List.mem_cons_self
  exact absurd hreports (hall t ht).not_reportsError

/-- Where one does not succeed, it is the only one that may report an error after successes. -/
theorem atomic_iff_of_not_succeeds {ts before after : List (ℕ × NicAdvancedProperty)}
    {t : ℕ × NicAdvancedProperty} (hsplit : ts = before ++ t :: after)
    (hbefore : ∀ s ∈ before, Succeeds env s.1) (ht : ¬Succeeds env t.1) :
    (∀ before t after, ts = before ++ t :: after → (∀ s ∈ before, Succeeds env s.1) →
      ReportsError env t.1 → before = []) ↔ (ReportsError env t.1 → before = []) := by
  constructor
  · exact fun h => h before t after hsplit hbefore
  · intro h before' t' after' hsplit' hbefore' hreports
    have hsame : before = before' ∧ t = t' := by
      apply eq_of_append_eq_append (p := fun s => Succeeds env s.1) (hsplit.symm.trans hsplit')
        hbefore ht hbefore'
      exact fun hs => hs.not_reportsError hreports
    obtain ⟨rfl, rfl⟩ := hsame
    exact h hreports

/-- What is known of the properties that are set, before the first of them is. -/
theorem of_queries {A : AdapterProperties} (h : Queries env w adapter A) :
    AreTargets A (latencyTargets A.rows) ∧
      (∀ t ∈ latencyTargets A.rows,
        (validateAdapterSet adapter t.2.registryKeyword "0").isOk) ∧
      ∀ t ∈ latencyTargets A.rows, w.machine.HasKeyword adapter t.2.registryKeyword := by
  obtain ⟨hadapter, -, -, -, hA, -⟩ := h
  have hts : AreTargets A (latencyTargets A.rows) := fun t ht => of_mem_latencyTargets ht
  refine ⟨hts, ?_, ?_⟩
  · intro t ht
    have hset := (validateAdapterSet_backup hadapter hts ht "0").mpr rfl
    change validateAdapterSet adapter t.2.registryKeyword "0" = .ok () at hset
    rw [hset]
    rfl
  · intro t ht
    refine ⟨A, hA, List.any_eq_true.mpr ⟨t.2, (hts t ht).1, ?_⟩⟩
    exact eqIgnoreAsciiCase_self _

/-- The optimization is a transaction exactly if it can be undone. -/
theorem atomicAndRestorable_iff (env : Env Call) (w : World) (adapter : String) :
    AtomicAndRestorable env w adapter ↔ CanBeUndone env w adapter := by
  have hrun := run_optimizeAdapterLatencyProperties env adapter w
  rcases queryAdapterProperties_cases env w adapter with
    ⟨A, hquery, hproperties⟩ | ⟨hnone, hproperties⟩
  · rw [hproperties, Run.bind_returned] at hrun
    change _ = (setTargets adapter (latencyTargets A.rows)).run env w at hrun
    rw [canBeUndone_iff hquery]
    obtain ⟨hts, hvalid, hkw⟩ := of_queries hquery
    obtain ⟨hadapter, -, -, -, hA, -⟩ := hquery
    rcases setTargets_cases env hvalid hkw with
      ⟨hall, hset⟩ | ⟨before, t, after, hsplit, hbefore, ht, hstop⟩
    · -- Everything is set.
      rw [hset] at hrun
      rw [atomicAndRestorable_of_ok hrun, restorable_iff hA hadapter hts]
      exact ⟨fun hkeeps => ⟨atomic_of_succeeds hall, fun _ => hkeeps⟩, fun h => h.2 hall⟩
    · have hrest : ¬∀ t ∈ latencyTargets A.rows, Succeeds env t.1 := by
        intro hall
        apply ht
        apply hall t
        rw [hsplit]
        exact List.mem_append_right _ List.mem_cons_self
      rw [atomic_iff_of_not_succeeds hsplit hbefore ht]
      rcases hstop with ⟨hreports, e, hset⟩ | ⟨hreports, w', hset⟩
      · -- A call fails, and what was set before stays.
        have hbefore_ts : AreTargets A before := by
          intro s hs
          apply hts s
          rw [hsplit]
          exact List.mem_append_left _ hs
        rw [hset] at hrun
        rw [atomicAndRestorable_of_error hrun, adapters_zeroed_iff hA hadapter hbefore_ts]
        exact ⟨fun hnil => ⟨fun _ => hnil, fun hall => absurd hall hrest⟩, fun h => h.1 hreports⟩
      · -- The process dies, and nothing is returned.
        rw [hset] at hrun
        constructor
        · exact fun _ => ⟨fun h => absurd h hreports, fun hall => absurd hall hrest⟩
        · exact fun _ => atomicAndRestorable_of_crashed hrun
  · -- Nothing is queried, and nothing is done.
    constructor
    · intro _
      constructor
      case atomic => exact fun A hA => absurd hA (hnone A)
      case restorable => exact fun A hA => absurd hA (hnone A)
    · intro _
      rcases hproperties with ⟨e, herror⟩ | ⟨w', hcrash⟩
      · rw [herror, Run.bind_returned] at hrun
        exact (atomicAndRestorable_of_error hrun).mpr rfl
      · rw [hcrash, Run.bind_crashed] at hrun
        exact atomicAndRestorable_of_crashed hrun

/-- The second property of the desktop's adapter cannot be set. -/
def secondSetFails : Env Call :=
  ⟨fun c => if c = .setAdapter 5 then .fail 0 else .ok, errorText⟩

/-- The first one is set then, and stays so. -/
theorem not_atomicAndRestorable_desktop :
    ¬∀ env w adapter, AtomicAndRestorable env w adapter := by
  intro h
  have hrun : ∃ e w', (optimizeAdapterLatencyProperties "Ethernet").run secondSetFails .desktop =
      .returned (.error e) w' ∧ (w'.machine.adapters "Ethernet").map (·.rows) =
        some [⟨"Energy Efficient Ethernet", "*EEE", some ["0"]⟩,
          ⟨"Power Saving Mode", "PowerSavingMode", some ["1"]⟩] := ⟨_, _, rfl, rfl⟩
  obtain ⟨e, w', hrun, hrows⟩ := hrun
  rw [(h secondSetFails .desktop "Ethernet").1 e w' hrun] at hrows
  revert hrows
  decide

end Transaction

end ValOpt
