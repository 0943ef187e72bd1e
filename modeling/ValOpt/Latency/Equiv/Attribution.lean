import ValOpt.Latency.Equiv.Accounting

/-!
# The drivers that a report names

`generate_report` names the first driver of the ranking with the longest DPC and the second with the
longest ISR, but the ranking is by the longest execution of either kind.  The map yields its values
in any order, so of the drivers with equal maxima any may come first.  `namesHolders_iff` says for
which samples the names are right whatever the order.
-/

namespace ValOpt

open Tally Ranking Text

variable {F : Type} (A : Averages F)

/-! ### Names and samples -/

/-- The driver that is named has a sample of this duration; if none is named, no driver has. -/
def NamesHolder (loaded : List LoadedDriver) (ys : List KernelSample) (longest : UInt64) :
    Option String → Prop
  | some name => ∃ x ∈ samplesOf loaded ys name, x.durationUs = longest
  | none => ∀ x ∈ ys, x.durationUs ≠ longest

/-- The DPCs and the ISRs of some samples. -/
def dpcsOf (xs : List KernelSample) : List KernelSample := xs.filter (·.isDpc)
def isrsOf (xs : List KernelSample) : List KernelSample := xs.filter (!·.isDpc)

/-- Both names of a report are right. -/
def NamesHolders (loaded : List LoadedDriver) (xs : List KernelSample) (report : LatencyReport F) :
    Prop :=
  NamesHolder loaded (dpcsOf xs) report.highestDpcUs report.highestDpcDriver ∧
    NamesHolder loaded (isrsOf xs) report.highestIsrUs report.highestIsrDriver

/-- A manager that has ingested these samples since its counters were cleared. -/
def KernelLatencySessionManager.measured (m : KernelLatencySessionManager F)
    (xs : List KernelSample) : KernelLatencySessionManager F :=
  { m with counters := xs.foldl (LatencyCounters.ingestSample A) m.counters.clear }

/-! ### Who may be named -/

/-- The driver has a sample. -/
def IsSampled (loaded : List LoadedDriver) (xs : List KernelSample) (name : String) : Prop :=
  ∃ x ∈ xs, driverOf loaded x = name

/-- The longest sample of a driver, of either kind. -/
def peakUs (loaded : List LoadedDriver) (xs : List KernelSample) (name : String) : ℕ :=
  longestUs (samplesOf loaded xs name)

/-- No driver has a longer sample than this one. -/
def MayLead (loaded : List LoadedDriver) (xs : List KernelSample) (name : String) : Prop :=
  IsSampled loaded xs name ∧
    ∀ other, IsSampled loaded xs other → peakUs loaded xs other ≤ peakUs loaded xs name

/-- This is the only driver, or one that another is not below and the rest are not above. -/
def MayFollow (loaded : List LoadedDriver) (xs : List KernelSample) (name : String) : Prop :=
  IsSampled loaded xs name ∧
    ((∀ other, IsSampled loaded xs other → other = name) ∨
      ∃ other, IsSampled loaded xs other ∧ other ≠ name ∧
        peakUs loaded xs name ≤ peakUs loaded xs other ∧
        ∀ third, IsSampled loaded xs third → third ≠ name → third ≠ other →
          peakUs loaded xs third ≤ peakUs loaded xs name)

/-- One of these samples is the driver's, and none is longer. -/
def HoldsLongest (loaded : List LoadedDriver) (ys : List KernelSample) (name : String) : Prop :=
  ∃ x ∈ samplesOf loaded ys name, ∀ y ∈ ys, y.durationUs ≤ x.durationUs

theorem le_longestUs {ys : List KernelSample} {y : KernelSample} (hy : y ∈ ys) :
    y.durationUs.toNat ≤ longestUs ys := by
  induction ys with
  | nil => cases hy
  | cons z ys ih =>
    show _ ≤ max z.durationUs.toNat (longestUs ys)
    rcases List.mem_cons.mp hy with rfl | hy
    · exact le_max_left ..
    · exact le_max_of_le_right (ih hy)

theorem exists_longestUs {ys : List KernelSample} (hys : ys ≠ []) :
    ∃ x ∈ ys, x.durationUs.toNat = longestUs ys := by
  induction ys with
  | nil => exact absurd rfl hys
  | cons z ys ih =>
    have hcons : longestUs (z :: ys) = max z.durationUs.toNat (longestUs ys) := rfl
    by_cases hle : longestUs ys ≤ z.durationUs.toNat
    · refine ⟨z, List.mem_cons_self, ?_⟩
      omega
    · have hne : ys ≠ [] := by
        rintro rfl
        exact hle (Nat.zero_le _)
      obtain ⟨x, hx, hlongest⟩ := ih hne
      refine ⟨x, List.mem_cons_of_mem _ hx, ?_⟩
      omega

/-- A sample is a longest one if it has the longest duration. -/
theorem forall_le_iff {ys : List KernelSample} {x : KernelSample} (hx : x ∈ ys) :
    (∀ y ∈ ys, y.durationUs ≤ x.durationUs) ↔ x.durationUs.toNat = longestUs ys := by
  constructor
  · intro h
    apply Nat.le_antisymm (le_longestUs hx)
    obtain ⟨y, hy, hlongest⟩ := exists_longestUs (List.ne_nil_of_mem hx)
    rw [← hlongest]
    exact UInt64.le_iff_toNat_le.mp (h y hy)
  · intro h y hy
    rw [UInt64.le_iff_toNat_le, h]
    exact le_longestUs hy

theorem namesHolder_some_iff {loaded : List LoadedDriver} {ys : List KernelSample}
    {longest : UInt64} (h : longest.toNat = longestUs ys) (name : String) :
    NamesHolder loaded ys longest (some name) ↔ HoldsLongest loaded ys name := by
  have hiff : ∀ x ∈ samplesOf loaded ys name,
      (x.durationUs = longest ↔ ∀ y ∈ ys, y.durationUs ≤ x.durationUs) := by
    intro x hx
    rw [forall_le_iff (List.mem_of_mem_filter hx), ← h, UInt64.toNat_inj]
  constructor
  · rintro ⟨x, hx, hduration⟩
    exact ⟨x, hx, (hiff x hx).mp hduration⟩
  · rintro ⟨x, hx, hlongest⟩
    exact ⟨x, hx, (hiff x hx).mpr hlongest⟩

/-! ### The statistics by name -/

namespace LatencyCounters

variable {A}
variable {c : LatencyCounters F} {xs : List KernelSample}

theorem Tallies.driverName (h : c.Tallies A xs) {name : String} {stat : DriverLatencyStat F}
    (hstat : c.stats.lookup name = some stat) : stat.driverName = name := by
  rw [h.stats, lookup_tally] at hstat
  obtain ⟨x, hx, heq⟩ := account_fixed (f := DriverLatencyStat.driverName)
    (by intro x a; rfl) hstat
  rw [heq]
  exact of_decide_eq_true (List.mem_filter.mp hx).2

/-- The statistics are those of the drivers that have samples, one for each name. -/
theorem Tallies.mem_values (h : c.Tallies A xs) {stat : DriverLatencyStat F}
    (hstat : stat ∈ c.stats.values) : IsSampled c.drivers xs stat.driverName ∧
      stat.maxExecutionUs.toNat = peakUs c.drivers xs stat.driverName := by
  obtain ⟨name, hlookup⟩ := mem_accounts_iff.mp hstat
  rw [h.driverName hlookup]
  constructor
  · apply (h.isSome_iff name).mp
    rw [hlookup]
    rfl
  · exact (h.ofDriver hlookup).longest

theorem Tallies.exists_mem_values (h : c.Tallies A xs) {name : String}
    (hname : IsSampled c.drivers xs name) : ∃ stat ∈ c.stats.values, stat.driverName = name := by
  obtain ⟨stat, hstat⟩ := Option.isSome_iff_exists.mp ((h.isSome_iff name).mpr hname)
  exact ⟨stat, mem_accounts_iff.mpr ⟨name, hstat⟩, h.driverName hstat⟩

theorem Tallies.eq_nil_of_values (h : c.Tallies A xs) (hnil : c.stats.values = []) : xs = [] := by
  by_contra hne
  obtain ⟨x, hx⟩ := List.exists_mem_of_ne_nil _ hne
  obtain ⟨stat, hstat, _⟩ := h.exists_mem_values ⟨x, hx, rfl⟩
  rw [hnil] at hstat
  cases hstat

theorem Tallies.nodup_values (h : c.Tallies A xs) :
    (c.stats.values.map (·.driverName)).Nodup := by
  have hkeys : c.stats.values.map (·.driverName) = c.stats.keys := by
    rw [DriverStats.values, List.map_map, AList.keys, List.keys]
    apply List.map_congr_left
    intro e he
    exact h.driverName (AList.mem_lookup_iff.mpr he)
  rw [hkeys]
  exact c.stats.keys_nodup

end LatencyCounters

/-! ### The names of a report -/

section Names

variable {A}
variable {c : LatencyCounters F} {xs : List KernelSample} (h : c.Tallies A xs)

include h

/-- Who leads the ranking: in some order of the values, any of the drivers that may. -/
theorem forall_first_iff {P : Option String → Prop} (hnone : xs = [] → P none) :
    (∀ values, values.Perm c.stats.values →
        P ((ranking (fun s => s.maxExecutionUs.toNat) values).head?.map (·.driverName))) ↔
      ∀ name, MayLead c.drivers xs name → P (some name) := by
  apply (forall_head?_ranking_iff
    (P := fun first : Option (DriverLatencyStat F) => P (first.map (·.driverName)))).trans
  constructor
  · rintro ⟨_, hfirst⟩ name ⟨hname, hmax⟩
    obtain ⟨stat, hstat, rfl⟩ := h.exists_mem_values hname
    apply hfirst stat hstat
    intro other hother
    obtain ⟨hsampled, hpeak⟩ := h.mem_values hother
    rw [hpeak, (h.mem_values hstat).2]
    exact hmax _ hsampled
  · intro hlead
    constructor
    · intro hnil
      exact hnone (h.eq_nil_of_values hnil)
    · intro stat hstat hmax
      apply hlead
      refine ⟨(h.mem_values hstat).1, ?_⟩
      intro other hother
      obtain ⟨stat', hstat', rfl⟩ := h.exists_mem_values hother
      rw [← (h.mem_values hstat).2, ← (h.mem_values hstat').2]
      exact hmax _ hstat'

/-- A driver that is alone. -/
theorem values_eq_singleton_iff {stat : DriverLatencyStat F} (hstat : stat ∈ c.stats.values) :
    c.stats.values = [stat] ↔
      ∀ other, IsSampled c.drivers xs other → other = stat.driverName := by
  constructor
  · intro hvalues other hother
    obtain ⟨stat', hstat', rfl⟩ := h.exists_mem_values hother
    rw [hvalues] at hstat'
    rw [List.mem_singleton.mp hstat']
  · intro honly
    -- The names are distinct, so there is one of them.
    have hnames : c.stats.values.map (·.driverName) = [stat.driverName] := by
      apply List.perm_singleton.mp
      apply (List.perm_ext_iff_of_nodup h.nodup_values (List.nodup_singleton _)).mpr
      intro name
      rw [List.mem_singleton, List.mem_map]
      constructor
      · rintro ⟨stat', hstat', rfl⟩
        exact honly _ (h.mem_values hstat').1
      · rintro rfl
        exact ⟨stat, hstat, rfl⟩
    have hlength : c.stats.values.length = 1 := by
      have hlen := congrArg List.length hnames
      rw [List.length_map] at hlen
      exact hlen
    obtain ⟨stat', hvalues⟩ := List.length_eq_one_iff.mp hlength
    rw [hvalues] at hstat ⊢
    rw [List.mem_singleton.mp hstat]

/-- The names of the first two and of the rest are different. -/
theorem names_ne_of_perm {first second : DriverLatencyStat F} {rest : List (DriverLatencyStat F)}
    (hperm : (first :: second :: rest).Perm c.stats.values) :
    first.driverName ≠ second.driverName ∧ ∀ third ∈ rest,
      third.driverName ≠ first.driverName ∧ third.driverName ≠ second.driverName := by
  have hnodup := ((hperm.map (·.driverName)).nodup_iff).mpr h.nodup_values
  simp only [List.map_cons, List.nodup_cons, List.mem_cons, List.mem_map, not_or] at hnodup
  refine ⟨hnodup.1.1, ?_⟩
  intro third hthird
  constructor
  · intro heq
    exact hnodup.1.2 ⟨third, hthird, heq⟩
  · intro heq
    exact hnodup.2.1 ⟨third, hthird, heq⟩

/-- A driver may follow if it is alone, or stands behind another in some order of the ranking. -/
theorem mayFollow_iff {stat : DriverLatencyStat F} (hstat : stat ∈ c.stats.values) :
    MayFollow c.drivers xs stat.driverName ↔ c.stats.values = [stat] ∨
      ∃ first rest, (first :: stat :: rest).Perm c.stats.values ∧
        stat.maxExecutionUs.toNat ≤ first.maxExecutionUs.toNat ∧
        ∀ third ∈ rest, third.maxExecutionUs.toNat ≤ stat.maxExecutionUs.toNat := by
  rw [values_eq_singleton_iff h hstat]
  constructor
  · rintro ⟨_, honly | ⟨other, hother, hne, hle, hrest⟩⟩
    · exact Or.inl honly
    · right
      obtain ⟨first, hfirst, rfl⟩ := h.exists_mem_values hother
      obtain ⟨rest, hperm⟩ := exists_perm_cons_cons hfirst hstat fun heq =>
        hne (congrArg DriverLatencyStat.driverName heq)
      refine ⟨first, rest, hperm, ?_, ?_⟩
      · rw [(h.mem_values hstat).2, (h.mem_values hfirst).2]
        exact hle
      · intro third hthird
        have hmem : third ∈ c.stats.values :=
          hperm.mem_iff.mp (List.mem_cons_of_mem _ (List.mem_cons_of_mem _ hthird))
        obtain ⟨hne_first, hne_second⟩ := (names_ne_of_perm h hperm).2 third hthird
        rw [(h.mem_values hstat).2, (h.mem_values hmem).2]
        exact hrest _ (h.mem_values hmem).1 hne_second hne_first
  · rintro (honly | ⟨first, rest, hperm, hle, hrest⟩)
    · exact ⟨(h.mem_values hstat).1, Or.inl honly⟩
    · have hfirst : first ∈ c.stats.values := hperm.mem_iff.mp List.mem_cons_self
      refine ⟨(h.mem_values hstat).1, Or.inr ⟨first.driverName, (h.mem_values hfirst).1,
        (names_ne_of_perm h hperm).1, ?_, ?_⟩⟩
      · rw [← (h.mem_values hstat).2, ← (h.mem_values hfirst).2]
        exact hle
      · intro third hthird hne_second hne_first
        obtain ⟨stat', hstat', rfl⟩ := h.exists_mem_values hthird
        rw [← (h.mem_values hstat).2, ← (h.mem_values hstat').2]
        rcases List.mem_cons.mp (hperm.mem_iff.mpr hstat') with rfl | hmem
        · exact absurd rfl hne_first
        · rcases List.mem_cons.mp hmem with rfl | hmem
          · exact absurd rfl hne_second
          · exact hrest _ hmem

/-- Who follows in the ranking, or leads it alone. -/
theorem forall_second_iff {P : Option String → Prop} (hnone : xs = [] → P none) :
    (∀ values, values.Perm c.stats.values →
        P (((ranking (fun s => s.maxExecutionUs.toNat) values)[1]?.or
          (ranking (fun s => s.maxExecutionUs.toNat) values).head?).map (·.driverName))) ↔
      ∀ name, MayFollow c.drivers xs name → P (some name) := by
  apply (forall_second_ranking_iff
    (P := fun second : Option (DriverLatencyStat F) => P (second.map (·.driverName)))).trans
  constructor
  · rintro ⟨_, hone, hsecond⟩ name hfollow
    obtain ⟨stat, hstat, rfl⟩ := h.exists_mem_values hfollow.1
    rcases (mayFollow_iff h hstat).mp hfollow with hvalues | ⟨first, rest, hperm, hle, hrest⟩
    · exact hone stat hvalues
    · exact hsecond stat first rest hperm hle hrest
  · intro hfollow
    refine ⟨?_, ?_, ?_⟩
    · intro hnil
      exact hnone (h.eq_nil_of_values hnil)
    · intro stat hvalues
      have hstat : stat ∈ c.stats.values := by
        rw [hvalues]
        exact List.mem_singleton_self _
      exact hfollow _ ((mayFollow_iff h hstat).mpr (Or.inl hvalues))
    · intro stat first rest hperm hle hrest
      have hstat : stat ∈ c.stats.values :=
        hperm.mem_iff.mp (List.mem_cons_of_mem _ List.mem_cons_self)
      exact hfollow _ ((mayFollow_iff h hstat).mpr (Or.inr ⟨first, rest, hperm, hle, hrest⟩))

end Names

/-- The names are those of the first two drivers of the ranking. -/
theorem namesHolders_generateReport (table : CaseTable) (dur : F) (loaded : List LoadedDriver)
    (xs : List KernelSample) (m : KernelLatencySessionManager F)
    (values : List (DriverLatencyStat F)) :
    NamesHolders loaded xs (generateReport table values m dur) ↔
      NamesHolder loaded (dpcsOf xs) m.counters.maxDpcUs
          ((ranking (fun s => s.maxExecutionUs.toNat) values).head?.map (·.driverName)) ∧
        NamesHolder loaded (isrsOf xs) m.counters.maxIsrUs
          (((ranking (fun s => s.maxExecutionUs.toNat) values)[1]?.or
            (ranking (fun s => s.maxExecutionUs.toNat) values).head?).map (·.driverName)) := by
  have htop : getTopDrivers values 10 =
      (ranking (fun s => s.maxExecutionUs.toNat) values).take 10 := by
    rw [getTopDrivers, mergeSort_ranks]
  simp only [NamesHolders, generateReport, htop, List.head?_take, List.getElem?_take, Option.map_or]
  rfl

/-- The names are right in every order of the map if every driver that may lead has the longest DPC,
and every driver that may follow the longest ISR. -/
theorem namesHolders_iff (table : CaseTable) (m : KernelLatencySessionManager F)
    (xs : List KernelSample) (dur : F) :
    (∀ values, values.Perm (m.measured A xs).counters.stats.values →
        NamesHolders m.counters.drivers xs (generateReport table values (m.measured A xs) dur)) ↔
      (∀ name, MayLead m.counters.drivers xs name →
          HoldsLongest m.counters.drivers (dpcsOf xs) name) ∧
        ∀ name, MayFollow m.counters.drivers xs name →
          HoldsLongest m.counters.drivers (isrsOf xs) name := by
  have h : (m.measured A xs).counters.Tallies A xs :=
    LatencyCounters.tallies_run m.counters.drivers m.counters.monitor xs
  have hdrivers : (m.measured A xs).counters.drivers = m.counters.drivers :=
    LatencyCounters.drivers_foldl _ xs
  have hdpc := forall_first_iff h
    (P := NamesHolder m.counters.drivers (dpcsOf xs) (m.measured A xs).counters.maxDpcUs) (by
      rintro rfl x hx
      cases hx)
  have hisr := forall_second_iff h
    (P := NamesHolder m.counters.drivers (isrsOf xs) (m.measured A xs).counters.maxIsrUs) (by
      rintro rfl x hx
      cases hx)
  have hmaxDpc : (m.measured A xs).counters.maxDpcUs.toNat = longestUs (dpcsOf xs) := h.maxDpc
  have hmaxIsr : (m.measured A xs).counters.maxIsrUs.toNat = longestUs (isrsOf xs) := h.maxIsr
  simp only [hdrivers, namesHolder_some_iff hmaxDpc] at hdpc
  simp only [hdrivers, namesHolder_some_iff hmaxIsr] at hisr
  simp only [namesHolders_generateReport]
  rw [← hdpc, ← hisr]
  constructor
  · intro hboth
    exact ⟨fun values hperm => (hboth values hperm).1, fun values hperm => (hboth values hperm).2⟩
  · rintro ⟨hfirst, hsecond⟩ values hperm
    exact ⟨hfirst values hperm, hsecond values hperm⟩

/-- Two drivers, and a sample of each: an ISR of 900 microseconds and a DPC of 700. -/
def twoDrivers : List LoadedDriver :=
  [⟨0xFFFFF80010000000, "ndis.sys", "ndis.sys", true⟩,
    ⟨0xFFFFF80020000000, "nvlddmkm.sys", "nvlddmkm.sys", true⟩]

def mixedSamples : List KernelSample :=
  [⟨0, 900, 0xFFFFF80010001000, false⟩, ⟨9, 700, 0xFFFFF80020001000, true⟩]

theorem driverOf_mixedSamples :
    driverOf twoDrivers ⟨0, 900, 0xFFFFF80010001000, false⟩ = "ndis.sys" ∧
      driverOf twoDrivers ⟨9, 700, 0xFFFFF80020001000, true⟩ = "nvlddmkm.sys" := by
  simp [driverOf, attribution, resolveAddress, twoDrivers, LoadedDriver.isAttributable,
    binarySearchByKey, binarySearchBase, Option.filter_some]

/-- The first driver is named for the DPC of the second. -/
theorem mixedSamples_not_namesHolders :
    ¬∀ (table : CaseTable) (m : KernelLatencySessionManager ℚ) (xs : List KernelSample)
        (dur : ℚ) values,
      values.Perm (m.measured rationalAverages xs).counters.stats.values →
        NamesHolders m.counters.drivers xs
          (generateReport table values (m.measured rationalAverages xs) dur) := by
  intro h
  obtain ⟨hndis, hnvlddmkm⟩ := driverOf_mixedSamples
  have hsampled : ∀ name, IsSampled twoDrivers mixedSamples name ↔
      name = "ndis.sys" ∨ name = "nvlddmkm.sys" := by
    intro name
    simp [IsSampled, mixedSamples, hndis, hnvlddmkm, eq_comm]
  have hlead : MayLead twoDrivers mixedSamples "ndis.sys" := by
    refine ⟨(hsampled _).mpr (Or.inl rfl), ?_⟩
    intro other hother
    rcases (hsampled other).mp hother with rfl | rfl
    · exact le_refl _
    · simp [peakUs, samplesOf, mixedSamples, hndis, hnvlddmkm, longestUs]
  have htallies := LatencyCounters.tallies_run (A := rationalAverages) twoDrivers
    LatencyMonitor.default.clear mixedSamples
  have hfirst := (forall_first_iff htallies (P := NamesHolder twoDrivers (dpcsOf mixedSamples)
    (LatencyCounters.run rationalAverages twoDrivers .default mixedSamples).maxDpcUs)
    (by simp [mixedSamples])).mp
    (fun values hperm => ((namesHolders_generateReport ..).mp
      (h letterCase (.new twoDrivers) mixedSamples 30 values hperm)).1) "ndis.sys" hlead
  obtain ⟨x, hx, _⟩ := hfirst
  simp [samplesOf, dpcsOf, mixedSamples, hnvlddmkm] at hx

end ValOpt
