import Mathlib.Algebra.Order.BigOperators.Group.List
import Mathlib.Data.Rat.Defs
import Mathlib.Data.UInt
import ValOpt.Latency.Report
import ValOpt.Ranking.Basic
import ValOpt.Tally.Basic

/-!
# The accounts of a latency session

The counters of a session are a tally of its samples (`LatencyCounters.Tallies`), by the driver
names that they are attributed to.  So the counts, totals and maxima are those of the samples, up to
the wrapping of the counts, and the rankings are those of the drivers.
-/

namespace ValOpt

open Tally

variable {F : Type} (A : Averages F)

/-! ### Samples of a driver -/

/-- The driver that a sample is attributed to. -/
def driverOf (drivers : List LoadedDriver) (x : KernelSample) : String :=
  (attribution drivers x.routineAddress).1

/-- The samples of a driver. -/
def samplesOf (drivers : List LoadedDriver) (xs : List KernelSample) (name : String) :
    List KernelSample :=
  xs.filter fun x => driverOf drivers x = name

/-- The total duration of some samples. -/
def totalUs (xs : List KernelSample) : ℕ := (xs.map (·.durationUs.toNat)).sum

/-- The longest duration of some samples, `0` if there is none. -/
def longestUs (xs : List KernelSample) : ℕ := (xs.map (·.durationUs.toNat)).foldr max 0

/-- The statistics of a driver before its first sample. -/
def freshStat (drivers : List LoadedDriver) (x : KernelSample) : DriverLatencyStat F :=
  let (driverName, driverPath, baseAddr) := attribution drivers x.routineAddress
  .new A driverName driverPath baseAddr

/-- Recording a sample is entering it in the tally of its driver. -/
theorem recordExecution_eq (drivers : List LoadedDriver) (stats : DriverStats F)
    (x : KernelSample) :
    recordExecution A drivers stats x.routineAddress x.durationUs = (driverOf drivers x,
      enter (driverOf drivers) (freshStat A drivers) (fun x => .add A x.durationUs) stats x) := rfl

/-! ### One driver -/

/-- The statistics of a driver that has these samples. -/
structure DriverLatencyStat.Accounts (xs : List KernelSample)
    (stat : DriverLatencyStat F) : Prop where
  count : stat.executionCount = UInt64.ofNat xs.length
  total : stat.totalExecutionUs = UInt64.ofNat (totalUs xs)
  longest : stat.maxExecutionUs.toNat = longestUs xs
  exceeds : stat.exceeds500usThreshold = true ↔ 500 ≤ stat.maxExecutionUs

variable {A}

theorem totalUs_append (xs : List KernelSample) (x : KernelSample) :
    totalUs (xs ++ [x]) = totalUs xs + x.durationUs.toNat := by
  simp [totalUs]

theorem longestUs_append (xs : List KernelSample) (x : KernelSample) :
    longestUs (xs ++ [x]) = max (longestUs xs) x.durationUs.toNat := by
  induction xs with
  | nil => simp [longestUs]
  | cons y ys ih =>
    show max y.durationUs.toNat (longestUs (ys ++ [x])) =
      max (max y.durationUs.toNat (longestUs ys)) x.durationUs.toNat
    rw [ih]
    omega

/-- The greater of two durations. -/
theorem toNat_longer (a b : UInt64) : (if a < b then b else a).toNat = max a.toNat b.toNat := by
  by_cases h : a < b
  · have hlt := UInt64.lt_iff_toNat_lt.mp h
    rw [if_pos h]
    omega
  · have hle := mt UInt64.lt_iff_toNat_lt.mpr h
    rw [if_neg h]
    omega

theorem DriverLatencyStat.accounts_new (name path : String) (base : UInt64) :
    (DriverLatencyStat.new A name path base).Accounts [] := by
  refine ⟨rfl, rfl, rfl, iff_of_false nofun ?_⟩
  show ¬ (500 : UInt64) ≤ 0
  decide

/-- **One more sample.** -/
theorem DriverLatencyStat.Accounts.add {xs : List KernelSample} {stat : DriverLatencyStat F}
    (h : stat.Accounts xs) (x : KernelSample) :
    (stat.add A x.durationUs).Accounts (xs ++ [x]) where
  count := by
    show stat.executionCount + 1 = _
    rw [h.count, List.length_append, UInt64.ofNat_add]
    rfl
  total := by
    show stat.totalExecutionUs + x.durationUs = _
    rw [h.total, totalUs_append, UInt64.ofNat_add, UInt64.ofNat_toNat]
  longest := by
    show (if stat.maxExecutionUs < x.durationUs then x.durationUs
      else stat.maxExecutionUs).toNat = _
    rw [toNat_longer, h.longest, longestUs_append]
  exceeds := by
    show (if offendingDriverThresholdUs ≤ (stat.add A x.durationUs).maxExecutionUs then true
      else stat.exceeds500usThreshold) = true ↔ offendingDriverThresholdUs ≤ _
    split
    · next hle => exact iff_of_true rfl hle
    · next hle =>
      -- a maximum does not shrink
      refine iff_of_false (fun hold => hle ?_) hle
      have hmax : stat.maxExecutionUs ≤ (stat.add A x.durationUs).maxExecutionUs := by
        rw [UInt64.le_iff_toNat_le]
        show _ ≤ (if stat.maxExecutionUs < x.durationUs then x.durationUs
          else stat.maxExecutionUs).toNat
        rw [toNat_longer]
        exact le_max_left ..
      exact UInt64.le_trans (h.exceeds.mp hold) hmax

/-! ### The counters -/

variable (A) in
/-- How the counters come about. -/
structure LatencyCounters.Tallies (c : LatencyCounters F) (xs : List KernelSample) : Prop where
  stats : c.stats = tally (driverOf c.drivers) (freshStat A c.drivers)
    (fun x => .add A x.durationUs) xs
  dpcs : c.totalDpcs = UInt64.ofNat (xs.countP (·.isDpc))
  isrs : c.totalIsrs = UInt64.ofNat (xs.countP (!·.isDpc))
  maxDpc : c.maxDpcUs.toNat = longestUs (xs.filter (·.isDpc))
  maxIsr : c.maxIsrUs.toNat = longestUs (xs.filter (!·.isDpc))

namespace LatencyCounters

theorem tallies_cleared (drivers : List LoadedDriver) (monitor : LatencyMonitor) :
    (cleared drivers monitor : LatencyCounters F).Tallies A [] :=
  ⟨rfl, rfl, rfl, rfl, rfl⟩

theorem Tallies.step {c : LatencyCounters F} {xs : List KernelSample} (h : c.Tallies A xs)
    (x : KernelSample) : (c.ingestSample A x).Tallies A (xs ++ [x]) where
  stats := by
    show enter (driverOf c.drivers) (freshStat A c.drivers) (fun x => .add A x.durationUs) c.stats
      x = _
    rw [h.stats, ← tally_append]
    rfl
  dpcs := by
    show (if x.isDpc then c.totalDpcs + 1 else c.totalDpcs) = _
    rw [h.dpcs, List.countP_append, UInt64.ofNat_add]
    cases hx : x.isDpc <;> simp [hx]
  isrs := by
    show (if x.isDpc then c.totalIsrs else c.totalIsrs + 1) = _
    rw [h.isrs, List.countP_append, UInt64.ofNat_add]
    cases hx : x.isDpc <;> simp [hx]
  maxDpc := by
    show (if x.isDpc && decide (c.maxDpcUs < x.durationUs) then x.durationUs
      else c.maxDpcUs).toNat = _
    rw [List.filter_append]
    cases hx : x.isDpc with
    | false => simpa [hx] using h.maxDpc
    | true =>
      simp only [hx, Bool.true_and, decide_eq_true_eq, List.filter_cons_of_pos, List.filter_nil]
      rw [toNat_longer, h.maxDpc, longestUs_append]
  maxIsr := by
    show (if !x.isDpc && decide (c.maxIsrUs < x.durationUs) then x.durationUs
      else c.maxIsrUs).toNat = _
    rw [List.filter_append]
    cases hx : x.isDpc with
    | true => simpa [hx] using h.maxIsr
    | false =>
      simp only [hx, Bool.not_false, Bool.true_and, decide_eq_true_eq, List.filter_cons_of_pos,
        List.filter_nil]
      rw [toNat_longer, h.maxIsr, longestUs_append]

/-- **What a run of samples keeps.** -/
theorem Tallies.foldl {c : LatencyCounters F} {xs : List KernelSample} (h : c.Tallies A xs)
    (ys : List KernelSample) : (ys.foldl (ingestSample A) c).Tallies A (xs ++ ys) := by
  induction ys generalizing c xs with
  | nil => rwa [List.append_nil]
  | cons y ys ih =>
    have hrest := ih (h.step y)
    rwa [List.append_assoc, List.singleton_append] at hrest

variable {c : LatencyCounters F} {xs : List KernelSample}

theorem countP_isDpc (xs : List KernelSample) :
    xs.countP (·.isDpc) + xs.countP (!·.isDpc) = xs.length := by
  induction xs with
  | nil => rfl
  | cons x xs ih =>
    rw [List.countP_cons, List.countP_cons, List.length_cons]
    cases x.isDpc <;> simp <;> omega

theorem Tallies.totals (h : c.Tallies A xs) :
    c.totalDpcs + c.totalIsrs = UInt64.ofNat xs.length := by
  rw [h.dpcs, h.isrs, ← UInt64.ofNat_add, countP_isDpc]

/-- The statistics are a tally of the samples. -/
theorem Tallies.values (h : c.Tallies A xs) : c.stats.values = accounts
    (tally (driverOf c.drivers) (freshStat A c.drivers) (fun x => .add A x.durationUs) xs) := by
  rw [DriverStats.values, h.stats]
  rfl

/-- Every sample is counted once. -/
theorem Tallies.counts (h : c.Tallies A xs) :
    (c.stats.values.map (·.executionCount)).sum = UInt64.ofNat xs.length := by
  have hsum := foldr_tally (driverOf c.drivers) (freshStat A c.drivers)
    (fun x => .add A x.durationUs) (m := fun stat => stat.executionCount) (w := fun _ => 1)
    UInt64.zero_add (fun _ => rfl) (fun _ _ => rfl) xs
  rw [h.values]
  apply hsum.trans
  clear h hsum
  induction xs with
  | nil => rfl
  | cons x xs ih =>
    rw [List.map_cons, List.foldr_cons, ih, List.length_cons, UInt64.ofNat_add, UInt64.add_comm]
    rfl

/-- The statistics of each driver are those of its samples. -/
theorem Tallies.ofDriver (h : c.Tallies A xs) {name : String} {stat : DriverLatencyStat F}
    (hstat : c.stats.lookup name = some stat) : stat.Accounts (samplesOf c.drivers xs name) := by
  rw [h.stats, lookup_tally] at hstat
  exact account_induction (fun _ => DriverLatencyStat.accounts_new ..)
    (fun _ x _ hs => hs.add x) hstat

theorem Tallies.isSome_iff (h : c.Tallies A xs) (name : String) :
    (c.stats.lookup name).isSome ↔ ∃ x ∈ xs, driverOf c.drivers x = name := by
  rw [h.stats]
  exact lookup_tally_isSome xs name

/-- Every sample is a DPC or an ISR. -/
theorem longestUs_isDpc (xs : List KernelSample) :
    max (longestUs (xs.filter (·.isDpc))) (longestUs (xs.filter (!·.isDpc))) = longestUs xs := by
  induction xs with
  | nil => rfl
  | cons x xs ih =>
    have hcons : ∀ ys, longestUs (x :: ys) = max x.durationUs.toNat (longestUs ys) := fun _ => rfl
    cases hx : x.isDpc <;> simp only [hx, List.filter_cons, Bool.not_true, Bool.not_false,
      Bool.false_eq_true, if_true, if_false, hcons] <;> omega

theorem Tallies.longest (h : c.Tallies A xs) : max c.maxDpcUs.toNat c.maxIsrUs.toNat =
    (c.stats.values.map (·.maxExecutionUs.toNat)).foldr max 0 := by
  have hmax := max_tally (driverOf c.drivers) (freshStat A c.drivers)
    (fun x => .add A x.durationUs) (m := fun stat => stat.maxExecutionUs.toNat)
    (w := fun x => x.durationUs.toNat) (fun _ => rfl) (fun x a => toNat_longer ..) xs
  rw [h.values, h.maxDpc, h.maxIsr, longestUs_isDpc]
  exact hmax.symm

/-- The numbers of samples of the drivers, when they are not too many to be counted. -/
theorem Tallies.counts_toNat (h : c.Tallies A xs) (hxs : xs.length < 2 ^ 64) :
    (c.stats.values.map (·.executionCount.toNat)).sum = xs.length := by
  have hcount : ∀ e ∈ c.stats.entries,
      e.2.executionCount.toNat = (entriesOf (driverOf c.drivers) xs e.1).length := by
    intro e he
    have hacc := h.ofDriver (AList.mem_lookup_iff.mpr he)
    have hle : (samplesOf c.drivers xs e.1).length ≤ xs.length := List.length_filter_le ..
    rw [hacc.count, UInt64.toNat_ofNat_of_lt' (Nat.lt_of_le_of_lt hle hxs)]
    rfl
  have hkeys : c.stats.keys.map (fun k => (entriesOf (driverOf c.drivers) xs k).length) =
      c.stats.entries.map fun e => (entriesOf (driverOf c.drivers) xs e.1).length := by
    rw [AList.keys, List.keys, List.map_map]
    rfl
  rw [DriverStats.values, List.map_map]
  calc (c.stats.entries.map fun e => e.2.executionCount.toNat).sum
      = (c.stats.keys.map fun k => (entriesOf (driverOf c.drivers) xs k).length).sum := by
        rw [hkeys, List.map_congr_left hcount]
    _ = xs.length := by
        rw [h.stats]
        exact sum_length_entriesOf xs

end LatencyCounters

/-! ### The rankings -/

section Rankings

variable {values : List (DriverLatencyStat F)}

/-- The order of the ranking is that of the longest executions. -/
theorem mergeSort_ranks (values : List (DriverLatencyStat F)) :
    values.mergeSort DriverLatencyStat.ranks =
      Ranking.ranking (fun s => s.maxExecutionUs.toNat) values:= rfl

/-- A ranking is ordered. -/
theorem ranked (values : List (DriverLatencyStat F)) :
    (values.mergeSort DriverLatencyStat.ranks).Pairwise
      fun s t => t.maxExecutionUs ≤ s.maxExecutionUs := by
  rw [mergeSort_ranks]
  apply (Ranking.ordered_ranking _ values).imp
  intro s t hle
  exact UInt64.le_iff_toNat_le.mpr hle

/-- The rankings of a session, where the map yields its values in the order of `values`. -/
structure Rankings (values : List (DriverLatencyStat F)) : Prop where
  offending : (getOffendingDrivers values).Perm (values.filter (·.exceeds500usThreshold))
  offendingOrder : (getOffendingDrivers values).Pairwise
    fun s t => t.maxExecutionUs ≤ s.maxExecutionUs
  top : ∀ limit, (getTopDrivers values limit).length = min limit values.length
  topOrder : ∀ limit, (getTopDrivers values limit).Pairwise
    fun s t => t.maxExecutionUs ≤ s.maxExecutionUs
  rest : ∀ limit, ∃ others, (getTopDrivers values limit ++ others).Perm values ∧
    ∀ s ∈ getTopDrivers values limit, ∀ t ∈ others, t.maxExecutionUs ≤ s.maxExecutionUs

theorem rankings (values : List (DriverLatencyStat F)) : Rankings values where
  offending := List.mergeSort_perm ..
  offendingOrder := ranked _
  top limit := by rw [getTopDrivers, List.length_take, List.length_mergeSort]
  topOrder limit := (ranked values).sublist (List.take_sublist ..)
  rest limit := by
    use (values.mergeSort DriverLatencyStat.ranks).drop limit
    have hsplit := List.take_append_drop limit (values.mergeSort DriverLatencyStat.ranks)
    constructor
    · rw [getTopDrivers, hsplit]
      exact List.mergeSort_perm ..
    · have hordered := ranked values
      rw [← hsplit, List.pairwise_append] at hordered
      exact hordered.2.2

end Rankings

/-! ### A session -/

/-- The counters after some samples, from cleared ones. -/
def LatencyCounters.run (A : Averages F) (drivers : List LoadedDriver) (monitor : LatencyMonitor)
    (xs : List KernelSample) : LatencyCounters F :=
  xs.foldl (ingestSample A) (cleared drivers monitor)

/-- What the counters say about the samples `xs` since they were cleared. -/
structure LatencyCounters.Accounted (c : LatencyCounters F) (loaded : List LoadedDriver)
    (xs : List KernelSample) : Prop where
  totals : c.totalDpcs + c.totalIsrs = UInt64.ofNat xs.length
  counts : (c.stats.values.map (·.executionCount)).sum = UInt64.ofNat xs.length
  exact : xs.length < 2 ^ 64 → c.totalDpcs.toNat + c.totalIsrs.toNat = xs.length ∧
    (c.stats.values.map (·.executionCount.toNat)).sum = xs.length
  longest : max c.maxDpcUs.toNat c.maxIsrUs.toNat =
    (c.stats.values.map (·.maxExecutionUs.toNat)).foldr max 0
  drivers : ∀ name, (c.stats.lookup name).isSome ↔ ∃ x ∈ xs, driverOf loaded x = name
  ofDriver : ∀ name stat, c.stats.lookup name = some stat →
    stat.executionCount = UInt64.ofNat (samplesOf loaded xs name).length ∧
    stat.totalExecutionUs.toNat = totalUs (samplesOf loaded xs name) ∧
    stat.maxExecutionUs.toNat = longestUs (samplesOf loaded xs name) ∧
    (stat.exceeds500usThreshold = true ↔ 500 ≤ stat.maxExecutionUs)
  rankings : ∀ values, values.Perm c.stats.values → Rankings values

theorem totalUs_samplesOf_le (drivers : List LoadedDriver) (xs : List KernelSample)
    (name : String) :
    totalUs (samplesOf drivers xs name) ≤ totalUs xs := by
  have hsub : (samplesOf drivers xs name).Sublist xs := List.filter_sublist
  exact (hsub.map _).sum_le_sum fun _ _ => Nat.zero_le _

theorem LatencyCounters.drivers_foldl (c : LatencyCounters F) (xs : List KernelSample) :
    (xs.foldl (LatencyCounters.ingestSample A) c).drivers = c.drivers := by
  induction xs generalizing c with
  | nil => rfl
  | cons x xs ih => exact ih _

theorem LatencyCounters.tallies_run (drivers : List LoadedDriver) (monitor : LatencyMonitor)
    (xs : List KernelSample) : (run A drivers monitor xs).Tallies A xs :=
  (tallies_cleared drivers monitor).foldl xs

/-- **The counters account for the samples.** -/
theorem session_accounted (A : Averages F) (drivers : List LoadedDriver) (monitor : LatencyMonitor)
    (xs : List KernelSample) (hxs : totalUs xs < 2 ^ 64) :
    (LatencyCounters.run A drivers monitor xs).Accounted drivers xs := by
  have h := LatencyCounters.tallies_run (A := A) drivers monitor xs
  have hdrivers : (LatencyCounters.run A drivers monitor xs).drivers = drivers :=
    LatencyCounters.drivers_foldl ..
  generalize LatencyCounters.run A drivers monitor xs = c at h hdrivers
  subst hdrivers
  constructor
  case totals => exact h.totals
  case counts => exact h.counts
  case exact =>
    intro hlength
    have hcountP := LatencyCounters.countP_isDpc xs
    have hsize : UInt64.size = 2 ^ 64 := rfl
    rw [h.dpcs, h.isrs, UInt64.toNat_ofNat_of_lt' (by omega), UInt64.toNat_ofNat_of_lt' (by omega)]
    exact ⟨hcountP, h.counts_toNat hlength⟩
  case longest => exact h.longest
  case drivers => exact h.isSome_iff
  case ofDriver =>
    intro name stat hstat
    have hacc := h.ofDriver hstat
    have hle := totalUs_samplesOf_le c.drivers xs name
    have htotal : stat.totalExecutionUs.toNat = totalUs (samplesOf c.drivers xs name) := by
      rw [hacc.total, UInt64.toNat_ofNat_of_lt' (Nat.lt_of_le_of_lt hle hxs)]
    exact ⟨hacc.count, htotal, hacc.longest, hacc.exceeds⟩
  case rankings => exact fun values _ => ValOpt.rankings values

/-- Rational averages. -/
def rationalAverages : Averages ℚ := ⟨0, fun a b => a.toNat / b.toNat⟩

/-- A long DPC of a driver and a short ISR of none. -/
theorem session_accounted_two :
    totalUs [⟨0, 700, 0x1010, true⟩, ⟨9, 20, 0, false⟩] < 2 ^ 64 ∧
    (LatencyCounters.run rationalAverages [⟨0x1000, "ndis.sys", "ndis.sys", true⟩] .default
      [⟨0, 700, 0x1010, true⟩, ⟨9, 20, 0, false⟩]).Accounted
        [⟨0x1000, "ndis.sys", "ndis.sys", true⟩]
        [⟨0, 700, 0x1010, true⟩, ⟨9, 20, 0, false⟩] :=
  ⟨by decide, session_accounted _ _ _ _ (by decide)⟩

/-- After `2 ^ 64` samples the counts are `0` again. -/
theorem counts_wrap : ¬ ∀ xs : List KernelSample, totalUs xs < 2 ^ 64 →
    (LatencyCounters.run rationalAverages [] .default xs).totalDpcs.toNat +
      (LatencyCounters.run rationalAverages [] .default xs).totalIsrs.toNat = xs.length := by
  intro h
  have hxs : totalUs (List.replicate (2 ^ 64) ⟨0, 0, 0, true⟩) = 0 := by
    rw [totalUs, List.map_replicate, List.sum_replicate]
    rfl
  have hlength := h (List.replicate (2 ^ 64) ⟨0, 0, 0, true⟩) (by omega)
  have htallies := LatencyCounters.tallies_run (A := rationalAverages) [] .default
    (List.replicate (2 ^ 64) ⟨0, 0, 0, true⟩)
  rw [htallies.dpcs, htallies.isrs] at hlength
  simp only [List.countP_replicate, List.length_replicate] at hlength
  norm_num at hlength

end ValOpt
