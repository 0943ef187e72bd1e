import Mathlib.Data.List.Pairwise
import ValOpt.Hardware.Equiv.Cpu

/-!
# Counting the cores

What `evaluate_topology` makes of a list of cores, in terms of the cores alone
(`evaluateTopology_spec`).  The cores of the greatest class are the performance cores and all others
are efficient cores, whatever the number of classes.  The affinity mask is there if the classes
differ, and has the bits that the performance cores own in the first processor group.  As the loops
only take minima, maxima, sums and unions, the order of the cores does not matter
(`evaluateTopology_of_perm`).
-/

namespace ValOpt

/-! ### Cores by class -/

/-- The logical processor `i` of the first processor group belongs to the core. -/
def CoreDescriptor.Owns (c : CoreDescriptor) (i : ℕ) : Prop :=
  ∃ mask, (0, mask) ∈ c.groupMasks ∧ mask.toNat.testBit i = true

/-- No core has a greater class. -/
def IsTopClass (cores : List CoreDescriptor) (c : CoreDescriptor) : Prop :=
  ∀ d ∈ cores, d.efficiencyClass ≤ c.efficiencyClass

/-- There are cores of different classes. -/
def HasClasses (cores : List CoreDescriptor) : Prop :=
  ∃ c ∈ cores, ∃ d ∈ cores, c.efficiencyClass < d.efficiencyClass

/-- The numbers of cores and of logical processors are `u32`. -/
structure CountsFit (cores : List CoreDescriptor) : Prop where
  cores_lt : cores.length < 2 ^ 32
  logical_lt : (cores.map fun c => c.logicalCoreCount.toNat).sum < 2 ^ 32

/-- The mask has the bits that the cores of the greatest class own, and no other. -/
def IsTopUnion (cores : List CoreDescriptor) (mask : UInt64) : Prop :=
  ∀ i, mask.toNat.testBit i = true ↔ ∃ c ∈ cores, IsTopClass cores c ∧ c.Owns i

/-- No logical processor of the first group belongs to two cores of the list. -/
def MasksDisjoint (cores : List CoreDescriptor) : Prop :=
  cores.Pairwise fun c d => ∀ i, ¬ (c.Owns i ∧ d.Owns i)

/-- The topology describes the cores. -/
structure Describes (topology : EvaluatedTopology) (cores : List CoreDescriptor) : Prop where
  physical : topology.physicalCores.toNat = cores.length
  byClass :
    topology.performanceCores.toNat + topology.efficientCores.toNat = topology.physicalCores.toNat
  logical : topology.logicalCores.toNat = (cores.map fun c => c.logicalCoreCount.toNat).sum
  hybrid : topology.isHybrid = true ↔ HasClasses cores
  mask (mask : UInt64) : topology.pCoreAffinityMask = some mask ↔
    HasClasses cores ∧ mask ≠ 0 ∧ IsTopUnion cores mask
  disjoint (mask : UInt64) : topology.pCoreAffinityMask = some mask → MasksDisjoint cores →
    ∀ c ∈ cores, ¬ IsTopClass cores c → ∀ i, c.Owns i → mask.toNat.testBit i = false

/-! ### The first loop -/

/-- What the first loop finds, started with the variables `s`. -/
structure ScanOf (s : CoreScan) (cores : List CoreDescriptor) (scan : CoreScan) : Prop where
  logical : scan.logicalCores =
    s.logicalCores + UInt32.ofNat (cores.map fun c => c.logicalCoreCount.toNat).sum
  minEff_le : scan.minEff ≤ s.minEff ∧ ∀ c ∈ cores, scan.minEff ≤ c.efficiencyClass
  le_maxEff : s.maxEff ≤ scan.maxEff ∧ ∀ c ∈ cores, c.efficiencyClass ≤ scan.maxEff
  minEff_eq : scan.minEff = s.minEff ∨ ∃ c ∈ cores, c.efficiencyClass = scan.minEff
  maxEff_eq : scan.maxEff = s.maxEff ∨ ∃ c ∈ cores, c.efficiencyClass = scan.maxEff

theorem CoreScan.add_spec (s : CoreScan) (c : CoreDescriptor) :
    (s.add c).minEff ≤ s.minEff ∧ (s.add c).minEff ≤ c.efficiencyClass ∧
      s.maxEff ≤ (s.add c).maxEff ∧ c.efficiencyClass ≤ (s.add c).maxEff ∧
      ((s.add c).minEff = s.minEff ∨ c.efficiencyClass = (s.add c).minEff) ∧
      ((s.add c).maxEff = s.maxEff ∨ c.efficiencyClass = (s.add c).maxEff) := by
  rw [CoreScan.add]
  grind

/-- The loop finds the least and the greatest class, and adds up the logical processors. -/
theorem scanOf_foldl (s : CoreScan) (cores : List CoreDescriptor) :
    ScanOf s cores (cores.foldl CoreScan.add s) := by
  induction cores generalizing s with
  | nil =>
    refine ⟨?_, ⟨UInt8.le_refl _, ?_⟩, ⟨UInt8.le_refl _, ?_⟩, .inl rfl, .inl rfl⟩
    · rw [List.map_nil, List.sum_nil]
      exact (UInt32.add_zero _).symm
    · exact fun c hc => nomatch hc
    · exact fun c hc => nomatch hc
  | cons c cores ih =>
    obtain ⟨hmin, hminc, hmax, hmaxc, hminEq, hmaxEq⟩ := s.add_spec c
    obtain ⟨hlogical, ⟨hmins, hminAll⟩, ⟨hmaxs, hmaxAll⟩, hminAt, hmaxAt⟩ := ih (s.add c)
    rw [List.foldl_cons]
    refine ⟨?_, ⟨UInt8.le_trans hmins hmin, ?_⟩, ⟨UInt8.le_trans hmax hmaxs, ?_⟩, ?_, ?_⟩
    · have hadd : (s.add c).logicalCores =
          s.logicalCores + UInt32.ofNat c.logicalCoreCount.toNat := by
        rw [UInt32.ofNat_toNat]
        rfl
      rw [hlogical, hadd, List.map_cons, List.sum_cons, UInt32.ofNat_add, UInt32.add_assoc]
    · rw [List.forall_mem_cons]
      exact ⟨UInt8.le_trans hmins hminc, hminAll⟩
    · rw [List.forall_mem_cons]
      exact ⟨UInt8.le_trans hmaxc hmaxs, hmaxAll⟩
    · rcases hminAt with heq | ⟨d, hd, hclass⟩
      · rcases hminEq with hs | hc
        · exact .inl (heq.trans hs)
        · exact .inr ⟨c, List.mem_cons_self, hc.trans heq.symm⟩
      · exact .inr ⟨d, List.mem_cons_of_mem c hd, hclass⟩
    · rcases hmaxAt with heq | ⟨d, hd, hclass⟩
      · rcases hmaxEq with hs | hc
        · exact .inl (heq.trans hs)
        · exact .inr ⟨c, List.mem_cons_self, hc.trans heq.symm⟩
      · exact .inr ⟨d, List.mem_cons_of_mem c hd, hclass⟩

section Scan

variable {cores : List CoreDescriptor} {scan : CoreScan}

/-- The greatest class is that of a core, also where it is the value the loop starts with. -/
theorem ScanOf.exists_maxEff (h : ScanOf .start cores scan) (hne : cores ≠ []) :
    ∃ c ∈ cores, c.efficiencyClass = scan.maxEff := by
  rcases h.maxEff_eq with hstart | hmem
  · obtain ⟨c, hc⟩ := List.exists_mem_of_ne_nil cores hne
    have hle := h.le_maxEff.2 c hc
    rw [hstart] at hle
    refine ⟨c, hc, UInt8.le_antisymm (hstart ▸ hle) ?_⟩
    rw [hstart, UInt8.le_iff_toNat_le]
    exact Nat.zero_le _
  · exact hmem

theorem ScanOf.exists_minEff (h : ScanOf .start cores scan) (hne : cores ≠ []) :
    ∃ c ∈ cores, c.efficiencyClass = scan.minEff := by
  rcases h.minEff_eq with hstart | hmem
  · obtain ⟨c, hc⟩ := List.exists_mem_of_ne_nil cores hne
    have hle := h.minEff_le.2 c hc
    refine ⟨c, hc, UInt8.le_antisymm ?_ hle⟩
    rw [hstart, UInt8.le_iff_toNat_le]
    exact Nat.le_of_lt_succ c.efficiencyClass.toNat_lt
  · exact hmem

/-- The classes differ exactly if the greatest exceeds the least. -/
theorem ScanOf.lt_iff (h : ScanOf .start cores scan) (hne : cores ≠ []) :
    scan.minEff < scan.maxEff ↔ HasClasses cores := by
  constructor
  · intro hlt
    obtain ⟨c, hc, hmin⟩ := h.exists_minEff hne
    obtain ⟨d, hd, hmax⟩ := h.exists_maxEff hne
    exact ⟨c, hc, d, hd, by rwa [hmin, hmax]⟩
  · rintro ⟨c, hc, d, hd, hlt⟩
    have hmin := h.minEff_le.2 c hc
    have hmax := h.le_maxEff.2 d hd
    exact UInt8.lt_of_le_of_lt hmin (UInt8.lt_of_lt_of_le hlt hmax)

theorem ScanOf.eq_maxEff_iff (h : ScanOf .start cores scan) {c : CoreDescriptor} (hc : c ∈ cores) :
    c.efficiencyClass = scan.maxEff ↔ IsTopClass cores c := by
  constructor
  · intro heq d hd
    rw [heq]
    exact h.le_maxEff.2 d hd
  · intro htop
    obtain ⟨d, hd, hmax⟩ := h.exists_maxEff (List.ne_nil_of_mem hc)
    exact UInt8.le_antisymm (h.le_maxEff.2 c hc) (hmax ▸ htop d hd)

theorem ScanOf.lt_maxEff_iff (h : ScanOf .start cores scan) {c : CoreDescriptor} (hc : c ∈ cores) :
    c.efficiencyClass < scan.maxEff ↔ ¬ IsTopClass cores c := by
  rw [← h.eq_maxEff_iff hc]
  have hle := h.le_maxEff.2 c hc
  grind

end Scan

/-! ### The mask -/

/-- The loop over the groups of a core adds the bits that the core owns. -/
theorem testBit_addGroupZero (mask : UInt64) (groupMasks : List (UInt16 × UInt64)) (i : ℕ) :
    (addGroupZero mask groupMasks).toNat.testBit i = true ↔ mask.toNat.testBit i = true ∨
      ∃ m, (0, m) ∈ groupMasks ∧ m.toNat.testBit i = true := by
  rw [addGroupZero]
  induction groupMasks generalizing mask with
  | nil => simp
  | cons groupMask groupMasks ih =>
    obtain ⟨group, m⟩ := groupMask
    rw [List.foldl_cons, ih]
    by_cases hgroup : group = 0
    · rw [if_pos hgroup, UInt64.toNat_or, Nat.testBit_or, Bool.or_eq_true, or_assoc]
      simp [hgroup, or_and_right, exists_or]
    · rw [if_neg hgroup]
      simp [Ne.symm hgroup]

/-- The loop over the performance cores makes the union of what they own. -/
theorem testBit_foldl_addGroupZero (mask : UInt64) (cores : List CoreDescriptor) (i : ℕ) :
    (cores.foldl (fun mask c => addGroupZero mask c.groupMasks) mask).toNat.testBit i = true ↔
      mask.toNat.testBit i = true ∨ ∃ c ∈ cores, c.Owns i := by
  induction cores generalizing mask with
  | nil => simp
  | cons c cores ih =>
    rw [List.foldl_cons, ih, testBit_addGroupZero, or_assoc, List.exists_mem_cons_iff]
    rfl

theorem IsTopUnion.unique {cores : List CoreDescriptor} {mask mask' : UInt64}
    (h : IsTopUnion cores mask) (h' : IsTopUnion cores mask') : mask = mask' := by
  apply UInt64.toNat_inj.mp
  apply Nat.eq_of_testBit_eq
  intro i
  rw [Bool.eq_iff_iff, h i, h' i]

/-! ### The topology -/

/-- The performance cores and the efficient cores are all cores. -/
theorem length_filter_add_length_filter {cores : List CoreDescriptor} {scan : CoreScan}
    (h : ScanOf .start cores scan) :
    (cores.filter fun c => c.efficiencyClass = scan.maxEff).length +
      (cores.filter fun c => c.efficiencyClass < scan.maxEff).length = cores.length := by
  rw [List.length_eq_length_filter_add (l := cores) fun c => c.efficiencyClass = scan.maxEff]
  congr 2
  apply List.filter_congr
  intro c hc
  have heq := h.eq_maxEff_iff hc
  have hlt := h.lt_maxEff_iff hc
  rw [Bool.eq_iff_iff, decide_eq_true_eq, hlt, ← heq]
  simp

theorem describes_nil : Describes (evaluateTopology []) [] where
  physical := rfl
  byClass := rfl
  logical := rfl
  hybrid := by
    refine iff_of_false Bool.false_ne_true ?_
    rintro ⟨c, hc, -⟩
    exact nomatch hc
  mask mask := by
    refine iff_of_false (fun h => nomatch h) ?_
    rintro ⟨⟨c, hc, -⟩, -⟩
    exact nomatch hc
  disjoint mask h := nomatch h

/-- The mask of a list of cores whose classes differ. -/
theorem isTopUnion_foldl {cores : List CoreDescriptor} {scan : CoreScan}
    (h : ScanOf .start cores scan) :
    IsTopUnion cores ((cores.filter fun c => c.efficiencyClass = scan.maxEff).foldl
      (fun mask c => addGroupZero mask c.groupMasks) 0) := by
  intro i
  rw [testBit_foldl_addGroupZero]
  simp only [UInt64.toNat_zero, Nat.zero_testBit, Bool.false_eq_true, false_or, List.mem_filter,
    decide_eq_true_eq, and_assoc]
  refine exists_congr fun c => and_congr_right fun hc => ?_
  rw [h.eq_maxEff_iff hc]

/-- What a core owns is not in the mask, if nothing belongs to two cores and its class is lower. -/
theorem IsTopUnion.testBit_eq_false {cores : List CoreDescriptor} {mask : UInt64}
    (h : IsTopUnion cores mask) (hdisjoint : MasksDisjoint cores) {c : CoreDescriptor}
    (hc : c ∈ cores) (hlow : ¬ IsTopClass cores c) {i : ℕ} (hi : c.Owns i) :
    mask.toNat.testBit i = false := by
  rw [← Bool.not_eq_true, h i]
  rintro ⟨d, hd, htop, hdi⟩
  have hne : c ≠ d := by
    rintro rfl
    exact hlow htop
  have : Std.Symm fun c d : CoreDescriptor => ∀ i, ¬ (c.Owns i ∧ d.Owns i) :=
    ⟨fun c d h i howns => h i howns.symm⟩
  exact hdisjoint.forall hc hd hne i ⟨hi, hdi⟩

theorem describes_evaluateTopology {cores : List CoreDescriptor} (h : CountsFit cores) :
    Describes (evaluateTopology cores) cores := by
  by_cases hne : cores = []
  · rw [hne]
    exact describes_nil
  have hscan := scanOf_foldl .start cores
  have hcount : ∀ {n}, n ≤ cores.length → (UInt32.ofNat n).toNat = n :=
    fun hle => UInt32.toNat_ofNat_of_lt' (hle.trans_lt h.cores_lt)
  have hlogical : (cores.foldl CoreScan.add .start).logicalCores.toNat =
      (cores.map fun c => c.logicalCoreCount.toNat).sum := by
    rw [hscan.logical, CoreScan.start, UInt32.zero_add]
    exact UInt32.toNat_ofNat_of_lt' h.logical_lt
  rw [evaluateTopology, if_neg (by rwa [List.isEmpty_iff])]
  by_cases hclasses : HasClasses cores
  · have hlt := (hscan.lt_iff hne).mpr hclasses
    have hunion := isTopUnion_foldl hscan
    have hsum := length_filter_add_length_filter hscan
    simp only [hlt, decide_true, ↓reduceIte]
    set scan := cores.foldl CoreScan.add .start
    set mask := (cores.filter fun c => c.efficiencyClass = scan.maxEff).foldl
      (fun mask c => addGroupZero mask c.groupMasks) 0
    have hmask : ∀ mask', (if mask ≠ 0 then some mask else none) = some mask' ↔
        mask' ≠ 0 ∧ IsTopUnion cores mask' := by
      intro mask'
      constructor
      · intro hsome
        split at hsome
        next hzero =>
          obtain rfl := Option.some.inj hsome
          exact ⟨hzero, hunion⟩
        next => exact nomatch hsome
      · rintro ⟨hzero, hunion'⟩
        obtain rfl := hunion.unique hunion'
        exact if_pos hzero
    refine ⟨hcount le_rfl, ?_, hlogical, iff_of_true rfl hclasses, ?_, ?_⟩
    · show (UInt32.ofNat _).toNat + (UInt32.ofNat _).toNat = (UInt32.ofNat _).toNat
      rw [hcount le_rfl, hcount (by omega), hcount (by omega), hsum]
    · intro mask'
      rw [and_iff_right hclasses]
      exact hmask mask'
    · intro mask' hsome hdisjoint c hc hlow i hi
      exact ((hmask mask').mp hsome).2.testBit_eq_false hdisjoint hc hlow hi
  · have hlt : ¬ _ := fun hlt => hclasses ((hscan.lt_iff hne).mp hlt)
    simp only [hlt, decide_false, Bool.false_eq_true, ↓reduceIte]
    refine ⟨hcount le_rfl, Nat.add_zero _, hlogical, iff_of_false Bool.false_ne_true hclasses,
      ?_, ?_⟩
    · intro mask
      exact iff_of_false (fun hsome => nomatch hsome) fun hmask => hclasses hmask.1
    · exact fun mask hsome => nomatch hsome

/-! ### The order of the cores -/

theorem CoreScan.add_right_comm (s : CoreScan) (c d : CoreDescriptor) :
    (s.add c).add d = (s.add d).add c := by
  simp only [CoreScan.add, CoreScan.mk.injEq]
  refine ⟨?_, ?_, ?_, ?_⟩ <;> grind

theorem addGroupZero_right_comm (mask : UInt64) (first second : List (UInt16 × UInt64)) :
    addGroupZero (addGroupZero mask first) second =
      addGroupZero (addGroupZero mask second) first := by
  apply UInt64.toNat_inj.mp
  apply Nat.eq_of_testBit_eq
  intro i
  rw [Bool.eq_iff_iff, testBit_addGroupZero, testBit_addGroupZero, testBit_addGroupZero,
    testBit_addGroupZero, or_right_comm]

/-- The topology is the same for every order of the cores. -/
theorem evaluateTopology_of_perm {cores cores' : List CoreDescriptor} (h : cores.Perm cores') :
    evaluateTopology cores' = evaluateTopology cores := by
  have hempty : cores'.isEmpty = cores.isEmpty := by
    rw [Bool.eq_iff_iff, List.isEmpty_iff, List.isEmpty_iff, ← List.length_eq_zero_iff,
      ← List.length_eq_zero_iff, h.length_eq]
  have hscan : cores'.foldl CoreScan.add .start = cores.foldl CoreScan.add .start :=
    (h.foldl_eq' (fun c _ d _ s => CoreScan.add_right_comm s c d) CoreScan.start).symm
  have hcount : ∀ p : CoreDescriptor → Bool, (cores'.filter p).length = (cores.filter p).length :=
    fun p => (h.filter p).length_eq.symm
  have hmask : ∀ p : CoreDescriptor → Bool,
      (cores'.filter p).foldl (fun mask c => addGroupZero mask c.groupMasks) 0 =
        (cores.filter p).foldl (fun mask c => addGroupZero mask c.groupMasks) 0 :=
    fun p => ((h.filter p).foldl_eq' (fun c _ d _ mask =>
      addGroupZero_right_comm mask c.groupMasks d.groupMasks) 0).symm
  simp only [evaluateTopology, hempty, hscan, hcount, hmask, h.length_eq]

/-- The topology of a machine whose records say of each core what they should. -/
theorem detectProcessorTopology_records (query : TopologyQuery) (records : List Record)
    {rest : List UInt8} (hrest : IsRest rest) (hsize : query.bufferSize ≠ 0)
    {buffer : Vector UInt8 query.bufferSize.toNat} (hfill : query.fill = .ok buffer)
    (hbuffer : buffer.toList = records.flatMap Record.bytes ++ rest) :
    detectProcessorTopology query =
      some (.ok (evaluateTopology (records.filterMap Record.descriptor?))) := by
  have hparse : parseProcessorCores (records.flatMap Record.bytes ++ rest) =
      some (records.filterMap Record.descriptor?) := parseCoresFrom_records [] records hrest
  rw [detectProcessorTopology, if_neg hsize, hfill]
  dsimp only
  rw [hbuffer, hparse]
  rfl

/-- **The topology describes the cores**, and does not depend on their order. -/
theorem evaluateTopology_spec (cores : List CoreDescriptor) (h : CountsFit cores) :
    Describes (evaluateTopology cores) cores ∧
      ∀ cores', cores.Perm cores' → evaluateTopology cores' = evaluateTopology cores :=
  ⟨describes_evaluateTopology h, fun _ hperm => evaluateTopology_of_perm hperm⟩

/-- Three classes: a core of each, the greatest with two logical processors. -/
def threeTiers : List CoreDescriptor :=
  [⟨0, false, 1, [(0, 1)]⟩, ⟨2, true, 2, [(1, 1), (0, 12)]⟩, ⟨1, false, 1, [(0, 2)]⟩]

theorem evaluateTopology_threeTiers : Describes ⟨3, 4, 1, 2, true, true, some 12⟩ threeTiers :=
  (evaluateTopology_spec threeTiers ⟨by decide, by decide⟩).1

end ValOpt
