import Mathlib.Data.List.DropRight
import ValOpt.Latency.Monitor

/-!
# The monitor as a list of samples

What a `LatencyMonitor` shows after any calls is told by the samples since it was cleared:
`get_recent_samples` is the last of them, and `get_warnings` the last of the warnings that they give
rise to (`monitor_refines`).

The ring keeps sample number `i` in slot `i % capacity` until the next one comes there
(`LatencyRingBuffer.Holds`), so that the slots from the oldest sample on are the last samples in
order (`LatencyRingBuffer.Holds.toVec`).
-/

namespace ValOpt

/-! ### The ring -/

namespace LatencyRingBuffer

variable {r : LatencyRingBuffer} {xs : List DpcIsrSample}

/-- The ring holds the last of these samples. -/
structure Holds (r : LatencyRingBuffer) (xs : List DpcIsrSample) : Prop where
  count : r.count = min r.capacity xs.length
  head : r.head = xs.length % r.capacity
  samples : ∀ i, xs.length - r.count ≤ i → i < xs.length →
    r.samples.getD (i % r.capacity) none = xs[i]?

theorem holds_new (capacity : ℕ) (h : 0 < capacity) : (new capacity h).Holds [] where
  count := (Nat.min_zero capacity).symm
  head := (Nat.zero_mod capacity).symm
  samples := fun _ _ hi => absurd hi (Nat.not_lt_zero _)

/-- Places of the ring that are less than a round apart are different. -/
theorem mod_ne_of_lt {i n c : ℕ} (hlt : i < n) (hround : n < i + c) : i % c ≠ n % c := by
  intro heq
  have hdvd : c ∣ n - i := Nat.dvd_of_mod_eq_zero (Nat.sub_mod_eq_zero_of_mod_eq heq.symm)
  have hle := Nat.le_of_dvd (by omega) hdvd
  omega

/-- One more sample. -/
theorem Holds.push (h : r.Holds xs) (sample : DpcIsrSample) :
    (r.push sample).Holds (xs ++ [sample]) where
  count := by
    have hcount := h.count
    show (if r.count < r.capacity then r.count + 1 else r.count) = min r.capacity _
    rw [List.length_append, List.length_singleton]
    split <;> omega
  head := by
    show (r.head + 1) % r.capacity = _
    rw [h.head, List.length_append, Nat.mod_add_mod]
    rfl
  samples := by
    intro i hle hlt
    have hcount := h.count
    have hcapacity := r.head_lt
    have hlength := r.length_samples
    show (r.samples.set r.head (some sample)).getD (i % r.capacity) none = _
    have hnew : (r.push sample).count = if r.count < r.capacity then r.count + 1 else r.count := rfl
    rw [hnew] at hle
    rw [List.length_append, List.length_singleton] at hle hlt
    have hi : i % r.capacity < r.samples.length := by
      rw [hlength]
      exact Nat.mod_lt _ (by omega)
    by_cases hlast : i = xs.length
    · -- the slot of the new sample
      rw [hlast, ← h.head, List.getElem?_concat_length]
      rw [List.getD_eq_getElem?_getD, List.getElem?_set_self (by omega)]
      rfl
    · have hold : i < xs.length := by omega
      have hne : r.head ≠ i % r.capacity := by
        rw [h.head]
        apply Ne.symm
        apply mod_ne_of_lt hold
        split at hle <;> omega
      rw [List.getElem?_append_left hold, ← h.samples i (by split at hle <;> omega) hold,
        List.getD_eq_getElem?_getD, List.getD_eq_getElem?_getD, List.getElem?_set_ne hne]

/-- The elements of a list from some index on, one by one. -/
theorem filterMap_range_getElem? {α : Type} (l : List α) (k : ℕ) (hk : k ≤ l.length) :
    (List.range k).filterMap (fun i => l[l.length - k + i]?) = l.drop (l.length - k) := by
  induction k with
  | zero => simp
  | succ k ih =>
    have hlt : l.length - (k + 1) < l.length := by omega
    have hnext : ∀ i, l.length - (k + 1) + (i + 1) = l.length - k + i := by
      intro i
      omega
    have hdrop : l.length - (k + 1) + 1 = l.length - k := by omega
    rw [List.range_succ_eq_map, List.filterMap_cons, List.filterMap_map, Nat.add_zero,
      List.getElem?_eq_getElem hlt, List.drop_eq_getElem_cons hlt, hdrop]
    show _ :: _ = _
    rw [← ih (by omega)]
    congr 1
    apply List.filterMap_congr
    intro i _
    show l[l.length - (k + 1) + (i + 1)]? = _
    rw [hnext]

/-- The ring yields the last samples, in order. -/
theorem Holds.toVec (h : r.Holds xs) : r.toVec = xs.rtake r.capacity := by
  have hcount := h.count
  have hcapacity := r.head_lt
  have hslots : r.toVec = (List.range r.count).filterMap fun i => xs[xs.length - r.count + i]? := by
    apply List.filterMap_congr
    intro i hi
    have hlt := List.mem_range.mp hi
    rw [← h.samples (xs.length - r.count + i) (by omega) (by omega)]
    congr 1
    split
    next hpart =>
      have hall : r.count = xs.length := by omega
      rw [hall, Nat.sub_self]
    next hfull =>
      have hround : xs.length - r.count + i + r.capacity = xs.length + i := by omega
      rw [h.head, Nat.mod_add_mod, ← hround, Nat.add_mod_right]
  have hlast : xs.length - r.count = xs.length - r.capacity := by omega
  rw [hslots, filterMap_range_getElem? xs r.count (by omega), List.rtake, hlast]

end LatencyRingBuffer

/-! ### The monitor -/

namespace LatencyMonitor

variable {m : LatencyMonitor} {xs : List DpcIsrSample} {capacity : ℕ}

/-- The samples since the last clear. -/
def sinceClear (calls : List Call) : List DpcIsrSample :=
  calls.foldl (fun xs call =>
    match call with
    | .ingestSample sample => xs ++ [sample]
    | .clear => []) []

/-- The samples that a warning is given for. -/
def isLong (x : DpcIsrSample) : Bool := 500 ≤ x.durationUs

/-- The monitor shows the last of these samples. -/
structure Shows (capacity : ℕ) (m : LatencyMonitor) (xs : List DpcIsrSample) : Prop where
  ring : m.ringBuffer.Holds xs
  capacity : m.ringBuffer.capacity = capacity
  warnings : m.warningEvents = ((xs.filter isLong).map warningOf).rtake 1000
  history : m.maxWarningsHistory = 1000

theorem shows_new (h : 0 < capacity) : (new capacity h).Shows capacity [] where
  ring := LatencyRingBuffer.holds_new capacity h
  capacity := rfl
  warnings := rfl
  history := rfl

/-- A bounded list that makes room holds the last of its elements. -/
theorem rtake_concat {α : Type} (l : List α) (x : α) {k : ℕ} (hk : 0 < k) :
    (if k ≤ (l.rtake k).length then (l.rtake k).tail else l.rtake k) ++ [x] =
      (l ++ [x]).rtake k := by
  obtain ⟨k, rfl⟩ := Nat.exists_eq_succ_of_ne_zero hk.ne'
  rw [Nat.succ_eq_add_one, List.rtake_concat_succ]
  congr 1
  rw [List.rtake, List.rtake, List.length_drop, List.tail_drop]
  split
  · congr 1
    omega
  · congr 1
    omega

/-- One call. -/
theorem Shows.apply (h : m.Shows capacity xs) (call : Call) :
    (m.apply call).Shows capacity (match call with
      | .ingestSample sample => xs ++ [sample]
      | .clear => []) := by
  cases call with
  | ingestSample sample =>
    refine ⟨h.ring.push sample, h.capacity, ?_, h.history⟩
    show (if warningThresholdUs ≤ sample.durationUs then _ else m.warningEvents) = _
    rw [List.filter_append, List.map_append]
    by_cases hlong : warningThresholdUs ≤ sample.durationUs
    · have hfilter : [sample].filter isLong = [sample] :=
        List.filter_cons_of_pos (decide_eq_true hlong)
      rw [if_pos hlong, hfilter, h.warnings, h.history, List.map_singleton]
      exact rtake_concat _ _ (by decide)
    · have hfilter : [sample].filter isLong = [] :=
        List.filter_cons_of_neg fun hd => hlong (of_decide_eq_true hd)
      rw [if_neg hlong, hfilter, h.warnings, List.map_nil, List.append_nil]
  | clear =>
    refine ⟨LatencyRingBuffer.holds_new _ _, h.capacity, ?_, h.history⟩
    show [] = ([] : List LatencyWarningEvent).rtake 1000
    rw [List.rtake_nil]

/-- After any calls the monitor shows the samples since the last clear. -/
theorem shows_foldl (h : 0 < capacity) (calls : List Call) :
    (calls.foldl apply (new capacity h)).Shows capacity (sinceClear calls) := by
  have hrun : ∀ m xs, Shows capacity m xs → (calls.foldl apply m).Shows capacity
      (calls.foldl (fun xs call =>
        match call with
        | .ingestSample sample => xs ++ [sample]
        | .clear => []) xs) := by
    induction calls with
    | nil => exact fun _ _ hm => hm
    | cons call calls ih => exact fun m xs hm => ih _ _ (hm.apply call)
  exact hrun _ _ (shows_new h)

/-- The most recent samples are the last ones of the ring. -/
theorem Shows.getRecentSamples (h : m.Shows capacity xs) (k : ℕ) :
    m.getRecentSamples k = xs.rtake (min k (min capacity xs.length)) := by
  have hvec := h.ring.toVec
  rw [h.capacity, List.rtake] at hvec
  rw [LatencyMonitor.getRecentSamples, hvec, List.length_drop, List.rtake]
  split
  · rw [List.drop_drop]
    congr 1
    omega
  · congr 1
    omega

/-- What a warning says of its sample. -/
structure Marks (x : DpcIsrSample) (event : LatencyWarningEvent) : Prop where
  timestampUs : event.timestampUs = x.timestampUs
  durationUs : event.durationUs = x.durationUs
  routineAddress : event.routineAddress = x.routineAddress
  isDpc : event.isDpc = x.isDpc
  critical : event.severity = .critical ∧ event.thresholdUs = 1000 ↔ 1000 ≤ x.durationUs
  warning : event.severity = .warning ∧ event.thresholdUs = 500 ↔ ¬ 1000 ≤ x.durationUs

theorem marks_warningOf (x : DpcIsrSample) (hlong : isLong x = true) : Marks x (warningOf x) := by
  have hseverity :
      (warningOf x).severity = if 1000 ≤ x.durationUs then .critical else .warning := by
    show LatencySeverity.ofDurationUs x.durationUs = _
    rw [LatencySeverity.ofDurationUs, if_pos (of_decide_eq_true hlong)]
  have hthreshold : (warningOf x).thresholdUs = if 1000 ≤ x.durationUs then 1000 else 500 := by
    show (if (warningOf x).severity = .critical then criticalThresholdUs
      else warningThresholdUs) = _
    rw [hseverity]
    split <;> rfl
  refine ⟨rfl, rfl, rfl, rfl, ?_, ?_⟩
  · rw [hseverity, hthreshold]
    split
    next hcritical => exact iff_of_true ⟨rfl, rfl⟩ hcritical
    next hcritical => exact iff_of_false (fun h => nomatch h.1) hcritical
  · rw [hseverity, hthreshold]
    split
    next hcritical => exact iff_of_false (fun h => nomatch h.1) (not_not_intro hcritical)
    next hcritical => exact iff_of_true ⟨rfl, rfl⟩ hcritical

/-- What a monitor shows after any calls. -/
theorem monitor_refines (capacity : ℕ) (h : 0 < capacity) (calls : List Call) :
    (∀ k, (calls.foldl apply (new capacity h)).getRecentSamples k =
      (sinceClear calls).rtake (min k (min capacity (sinceClear calls).length))) ∧
    (calls.foldl apply (new capacity h)).getWarnings =
      (((sinceClear calls).filter isLong).rtake
        (min 1000 ((sinceClear calls).filter isLong).length)).map warningOf ∧
    ∀ x ∈ (sinceClear calls).filter isLong, Marks x (warningOf x) := by
  have hshows := shows_foldl h calls
  refine ⟨fun k => hshows.getRecentSamples k, ?_, ?_⟩
  · show (calls.foldl apply (new capacity h)).warningEvents = _
    have hlast : ∀ n, n - 1000 = n - min 1000 n := by
      intro n
      omega
    rw [hshows.warnings, List.rtake, List.rtake, List.length_map, List.map_drop, hlast]
  · intro x hx
    exact marks_warningOf x (List.mem_filter.mp hx).2

/-- A ring of one sample, which is cleared in between. -/
theorem monitor_refines_one :
    (([.ingestSample ⟨0, 700, 1, true, none⟩, .clear, .ingestSample ⟨1, 600, 1, true, none⟩,
      .ingestSample ⟨2, 10, 1, false, none⟩] : List Call).foldl apply
        (new 1 Nat.one_pos)).getRecentSamples 5 = [⟨2, 10, 1, false, none⟩] := by
  have hrecent := (monitor_refines 1 Nat.one_pos [.ingestSample ⟨0, 700, 1, true, none⟩, .clear,
    .ingestSample ⟨1, 600, 1, true, none⟩, .ingestSample ⟨2, 10, 1, false, none⟩]).1 5
  rw [hrecent]
  decide

end LatencyMonitor

end ValOpt
