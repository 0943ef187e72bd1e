import Mathlib.Algebra.Group.Nat.Defs
import Mathlib.Data.List.GetD
import Mathlib.Order.Bounds.Basic
import ValOpt.Latency.DriverIsolator
import ValOpt.Ranking.Basic

/-!
# Which driver an address belongs to

`resolve_address` looks for the greatest base not above the address among the verified drivers, and
takes it if the address is less than 64 MiB beyond it.  The binary search finds what a scan of the
list would (`binarySearchByKey_spec`); but the sum of a base and 64 MiB may wrap, and then only the
base itself is found (`resolvesLinearly_iff`).
-/

namespace ValOpt

/-! ### The binary search -/

theorem binarySearchBase_lt (keys : List UInt64) (key : UInt64) (base size : ℕ) (hsize : 0 < size)
    (hbase : base + size ≤ keys.length) : binarySearchBase keys key base size < keys.length := by
  fun_induction binarySearchBase keys key base size with
  | case1 base size hlt half mid ih =>
    apply ih
    · omega
    · split <;> omega
  | case2 base size hle => omega

theorem binarySearchByKey_ok_lt {keys : List UInt64} {key : UInt64} {idx : ℕ}
    (h : binarySearchByKey keys key = .ok idx) : idx < keys.length := by
  unfold binarySearchByKey at h
  split at h
  · cases h
  · next hkeys =>
    have hpos : 0 < keys.length := List.length_pos_of_ne_nil hkeys
    have hlt := binarySearchBase_lt keys key 0 keys.length hpos (by omega)
    dsimp only at h
    split at h
    · cases h
      exact hlt
    · cases h

theorem binarySearchByKey_error_le {keys : List UInt64} {key : UInt64} {idx : ℕ}
    (h : binarySearchByKey keys key = .error idx) : idx ≤ keys.length := by
  unfold binarySearchByKey at h
  split at h
  · cases h
    exact Nat.zero_le _
  · next hkeys =>
    have hpos : 0 < keys.length := List.length_pos_of_ne_nil hkeys
    have hlt := binarySearchBase_lt keys key 0 keys.length hpos (by omega)
    dsimp only at h
    split at h
    · cases h
    · obtain rfl := Except.error.inj h
      split <;> omega

/-- The keys grow. -/
theorem getD_le_getD {keys : List UInt64} (hs : keys.Pairwise (· ≤ ·)) {i j : ℕ} (hij : i ≤ j)
    (hj : j < keys.length) : keys.getD i 0 ≤ keys.getD j 0 := by
  have hi : i < keys.length := by omega
  rw [List.getD_eq_getElem keys 0 hi, List.getD_eq_getElem keys 0 hj]
  rcases Nat.eq_or_lt_of_le hij with heq | hlt
  · subst heq
    exact UInt64.le_refl _
  · exact List.pairwise_iff_getElem.mp hs i j hi hj hlt

/-- The search narrows down to the last key that is not above the one looked for, if there is
one. -/
theorem binarySearchBase_spec {keys : List UInt64} {key : UInt64} (hs : keys.Pairwise (· ≤ ·))
    (base size : ℕ) (hsize : 0 < size) (hbase : base + size ≤ keys.length)
    (hlow : base = 0 ∨ keys.getD base 0 ≤ key)
    (hhigh : ∀ j, base + size ≤ j → j < keys.length → key < keys.getD j 0) :
    (binarySearchBase keys key base size = 0 ∨
      keys.getD (binarySearchBase keys key base size) 0 ≤ key) ∧
    ∀ j, binarySearchBase keys key base size < j → j < keys.length → key < keys.getD j 0 := by
  fun_induction binarySearchBase keys key base size with
  | case1 base size hlt half mid ih =>
    have hhalf : half = size / 2 := rfl
    have hmid : mid = base + half := rfl
    by_cases hkey : key < keys.getD mid 0
    · simp only [hkey, ↓reduceDIte, ↓reduceIte] at ih ⊢
      apply ih (by omega) (by omega) hlow
      intro j hj hlength
      apply UInt64.lt_of_lt_of_le hkey
      exact getD_le_getD hs (by omega) hlength
    · simp only [hkey, ↓reduceDIte, ↓reduceIte] at ih ⊢
      apply ih (by omega) (by omega) (Or.inr (UInt64.not_lt.mp hkey))
      intro j hj hlength
      exact hhigh j (by omega) hlength
  | case2 base size hle =>
    refine ⟨hlow, ?_⟩
    intro j hj hlength
    exact hhigh j (by omega) hlength

theorem getD_of_binarySearchByKey_eq_ok {keys : List UInt64} {key : UInt64} {idx : ℕ}
    (h : binarySearchByKey keys key = .ok idx) : keys.getD idx 0 = key := by
  unfold binarySearchByKey at h
  split at h
  · cases h
  · dsimp only at h
    split at h
    · next hfound =>
      cases h
      exact hfound
    · cases h

/-- The index to insert a missing key at: the keys before it are less, those from it on greater. -/
theorem binarySearchByKey_eq_error {keys : List UInt64} {key : UInt64} {idx : ℕ}
    (hs : keys.Pairwise (· ≤ ·)) (h : binarySearchByKey keys key = .error idx) :
    (∀ j < idx, keys.getD j 0 < key) ∧ ∀ j, idx ≤ j → j < keys.length → key < keys.getD j 0 := by
  unfold binarySearchByKey at h
  split at h
  · next hkeys =>
    cases h
    rw [hkeys]
    constructor
    · intro j hj
      omega
    · intro j _ hj
      rw [List.length_nil] at hj
      omega
  · next hkeys =>
    have hpos : 0 < keys.length := List.length_pos_of_ne_nil hkeys
    have hlt := binarySearchBase_lt keys key 0 keys.length hpos (by omega)
    obtain ⟨hlow, hhigh⟩ := binarySearchBase_spec hs 0 keys.length hpos (by omega) (Or.inl rfl)
      (by intro j hj hlength; omega)
    dsimp only at h
    split at h
    · cases h
    · next hne =>
      obtain rfl := Except.error.inj h
      by_cases hkey : keys.getD (binarySearchBase keys key 0 keys.length) 0 < key
      · rw [if_pos hkey]
        constructor
        · intro j hj
          apply UInt64.lt_of_le_of_lt _ hkey
          exact getD_le_getD hs (by omega) hlt
        · intro j hj hlength
          exact hhigh j (by omega) hlength
      · rw [if_neg hkey]
        have hgt := UInt64.lt_of_le_of_ne (UInt64.not_lt.mp hkey) (Ne.symm hne)
        -- The loop stops above the key only if it has never moved.
        rcases hlow with hzero | hle
        · rw [hzero] at hgt ⊢
          constructor
          · intro j hj
            omega
          · intro j _ hlength
            apply UInt64.lt_of_lt_of_le hgt
            exact getD_le_getD hs (by omega) hlength
        · exact absurd (UInt64.lt_of_le_of_lt hle hgt) (UInt64.lt_irrefl _)

/-- A key that is to be inserted before all others is below them. -/
theorem lt_of_binarySearchByKey_eq_error_zero {keys : List UInt64} {key : UInt64}
    (hs : keys.Pairwise (· ≤ ·)) (h : binarySearchByKey keys key = .error 0) :
    ∀ k ∈ keys, key < k := by
  intro k hk
  obtain ⟨j, hj, rfl⟩ := List.getElem_of_mem hk
  have hlt := (binarySearchByKey_eq_error hs h).2 j (Nat.zero_le _) hj
  rw [List.getD_eq_getElem keys 0 hj] at hlt
  exact hlt

/-- Otherwise the key before the index is the greatest one below. -/
theorem of_binarySearchByKey_eq_error_succ {keys : List UInt64} {key : UInt64} {idx : ℕ}
    (hs : keys.Pairwise (· ≤ ·)) (h : binarySearchByKey keys key = .error (idx + 1)) :
    keys.getD idx 0 < key ∧ ∀ k ∈ keys, k ≤ key → k ≤ keys.getD idx 0 := by
  obtain ⟨hbelow, habove⟩ := binarySearchByKey_eq_error hs h
  have hidx := binarySearchByKey_error_le h
  refine ⟨hbelow idx (Nat.lt_succ_self _), ?_⟩
  intro k hk hle
  obtain ⟨j, hj, rfl⟩ := List.getElem_of_mem hk
  -- What is not above the key stands at the index or before it.
  have hnot : j ≤ idx := by
    by_contra hgt
    have hlt := habove j (by omega) hj
    rw [List.getD_eq_getElem keys 0 hj] at hlt
    exact UInt64.not_le.mpr hlt hle
  have hmono := getD_le_getD hs hnot (by omega)
  rw [List.getD_eq_getElem keys 0 hj] at hmono
  exact hmono

/-! ### The lists of drivers -/

/-- The lists that the isolator comes to hold. -/
inductive Listed : List LoadedDriver → Prop
  | refresh (enumerated : List DeviceDriver) (queried : List (List Char)) :
    Listed (refreshDriverList enumerated queried)
  | add {drivers : List LoadedDriver} (baseAddress : UInt64) (name path : String) :
    Listed drivers → Listed (addDriverForTesting drivers baseAddress name path)

theorem pairwise_sortByBase (drivers : List LoadedDriver) :
    (sortByBase drivers).Pairwise fun d e => d.baseAddress ≤ e.baseAddress := by
  -- The lowest base comes first.
  have hranking : sortByBase drivers =
      Ranking.ranking (fun d => OrderDual.toDual d.baseAddress.toNat) drivers := rfl
  rw [hranking]
  apply (Ranking.ordered_ranking _ drivers).imp
  intro d e hle
  exact UInt64.le_iff_toNat_le.mpr (OrderDual.toDual_le_toDual.mp hle)

theorem Listed.pairwise {drivers : List LoadedDriver} (h : Listed drivers) :
    drivers.Pairwise fun d e => d.baseAddress ≤ e.baseAddress := by
  cases h with
  | refresh enumerated queried => exact pairwise_sortByBase _
  | add baseAddress name path _ => exact pairwise_sortByBase _

/-! ### The nearest base -/

/-- The greatest verified base, other than zero, that is not above the address. -/
def IsNearestBase (drivers : List LoadedDriver) (address base : UInt64) : Prop :=
  IsGreatest {b | b ≤ address ∧ b ≠ 0 ∧ ∃ d ∈ drivers, d.isVerifiedBase ∧ d.baseAddress = b} base

theorem isNearestBase_iff (drivers : List LoadedDriver) (address base : UInt64) :
    IsNearestBase drivers address base ↔
      (base ≤ address ∧
        base ∈ (drivers.filter LoadedDriver.isAttributable).map LoadedDriver.baseAddress) ∧
      ∀ b ∈ (drivers.filter LoadedDriver.isAttributable).map LoadedDriver.baseAddress,
        b ≤ address → b ≤ base := by
  have hmem : ∀ b, (b ≠ 0 ∧ ∃ d ∈ drivers, d.isVerifiedBase ∧ d.baseAddress = b) ↔
      b ∈ (drivers.filter LoadedDriver.isAttributable).map LoadedDriver.baseAddress := by
    intro b
    rw [List.mem_map]
    constructor
    · rintro ⟨hne, d, hd, hverified, rfl⟩
      have hpos : 0 < d.baseAddress := UInt64.pos_iff_ne_zero.mpr hne
      refine ⟨d, List.mem_filter.mpr ⟨hd, ?_⟩, rfl⟩
      simp [LoadedDriver.isAttributable, hverified, hpos]
    · rintro ⟨d, hd, rfl⟩
      obtain ⟨hd, hattributable⟩ := List.mem_filter.mp hd
      simp only [LoadedDriver.isAttributable, Bool.and_eq_true, decide_eq_true_eq]
        at hattributable
      exact ⟨UInt64.pos_iff_ne_zero.mp hattributable.2, d, hd, hattributable.1, rfl⟩
  unfold IsNearestBase IsGreatest upperBounds
  simp only [Set.mem_ofPred_eq, hmem]
  constructor
  · rintro ⟨hbase, hupper⟩
    refine ⟨hbase, ?_⟩
    intro b hb hle
    exact hupper ⟨hle, hb⟩
  · rintro ⟨hbase, hupper⟩
    refine ⟨hbase, ?_⟩
    intro b hb
    exact hupper b hb.2 hb.1

theorem not_isNearestBase_zero (drivers : List LoadedDriver) (base : UInt64) :
    ¬IsNearestBase drivers 0 base := by
  rintro ⟨⟨hle, hne, _⟩, _⟩
  exact hne (UInt64.le_zero_iff.mp hle)

/-- A verified driver, by its index. -/
theorem getElem_attributable {drivers : List LoadedDriver} {idx : ℕ}
    (hidx : idx < (drivers.filter LoadedDriver.isAttributable).length) :
    ∃ d ∈ drivers, d.isVerifiedBase ∧
      (drivers.filter LoadedDriver.isAttributable)[idx]? = some d ∧
      d.baseAddress ∈ (drivers.filter LoadedDriver.isAttributable).map LoadedDriver.baseAddress ∧
      ((drivers.filter LoadedDriver.isAttributable).map LoadedDriver.baseAddress).getD idx 0 =
        d.baseAddress := by
  have hmem := List.getElem_mem hidx
  obtain ⟨hd, hattributable⟩ := List.mem_filter.mp hmem
  rw [LoadedDriver.isAttributable, Bool.and_eq_true] at hattributable
  refine ⟨_, hd, hattributable.1, List.getElem?_eq_getElem hidx, List.mem_map_of_mem hmem, ?_⟩
  rw [List.getD_eq_getElem _ 0 (by rw [List.length_map]; exact hidx), List.getElem_map]

/-- The driver with the nearest base is looked at, if there is one. -/
theorem resolveAddress_eq (drivers : List LoadedDriver) (address : UInt64)
    (hs : drivers.Pairwise fun d e => d.baseAddress ≤ e.baseAddress) :
    (resolveAddress drivers address = none ∧ ∀ b, ¬IsNearestBase drivers address b) ∨
      ∃ d ∈ drivers, d.isVerifiedBase ∧ IsNearestBase drivers address d.baseAddress ∧
        resolveAddress drivers address =
          if d.baseAddress = address ∨ address < d.baseAddress + 0x4000000 then some d
          else none := by
  by_cases haddress : address = 0
  · left
    rw [resolveAddress, if_pos haddress, haddress]
    exact ⟨rfl, not_isNearestBase_zero drivers⟩
  · have hsorted : ((drivers.filter LoadedDriver.isAttributable).map
        LoadedDriver.baseAddress).Pairwise (· ≤ ·) := List.pairwise_map.mpr (hs.filter _)
    simp only [resolveAddress, if_neg haddress, isNearestBase_iff]
    cases hsearch : binarySearchByKey
      ((drivers.filter LoadedDriver.isAttributable).map LoadedDriver.baseAddress) address with
    | ok idx =>
      have hidx := binarySearchByKey_ok_lt hsearch
      have hfound := getD_of_binarySearchByKey_eq_ok hsearch
      rw [List.length_map] at hidx
      obtain ⟨d, hd, hverified, hget, hmem, hbase⟩ := getElem_attributable hidx
      have heq : d.baseAddress = address := hbase.symm.trans hfound
      right
      refine ⟨d, hd, hverified, ⟨⟨?_, hmem⟩, ?_⟩, ?_⟩
      · rw [heq]
        exact UInt64.le_refl _
      · intro b _ hb
        rw [heq]
        exact hb
      · rw [if_pos (Or.inl heq)]
        exact hget
    | error idx =>
      have hidx := binarySearchByKey_error_le hsearch
      rw [List.length_map] at hidx
      cases idx with
      -- Every base is above the address.
      | zero =>
        left
        refine ⟨rfl, ?_⟩
        rintro b ⟨⟨hle, hb⟩, _⟩
        have hlt := lt_of_binarySearchByKey_eq_error_zero hsorted hsearch b hb
        exact UInt64.not_le.mpr hlt hle
      -- The driver before the place where the address would stand is the nearest one.
      | succ idx =>
        obtain ⟨hlt, hgreatest⟩ := of_binarySearchByKey_eq_error_succ hsorted hsearch
        obtain ⟨d, hd, hverified, hget, hmem, hbase⟩ := getElem_attributable hidx
        rw [hbase] at hlt hgreatest
        right
        refine ⟨d, hd, hverified, ⟨⟨UInt64.le_of_lt hlt, hmem⟩, hgreatest⟩, ?_⟩
        have hne : d.baseAddress ≠ address := UInt64.ne_of_lt hlt
        simp only [hget, Option.filter_some, hne, false_or, decide_eq_true_eq]

/-! ### The linear specification -/

/-- The address is resolved exactly if the nearest base is within 64 MiB of it, and then to a
verified driver with that base. -/
def ResolvesLinearly (drivers : List LoadedDriver) (address : UInt64) : Prop :=
  ((resolveAddress drivers address).isSome ↔
      address ≠ 0 ∧ ∃ b, IsNearestBase drivers address b ∧ address.toNat < b.toNat + 0x4000000) ∧
    ∀ d, resolveAddress drivers address = some d →
      d ∈ drivers ∧ d.isVerifiedBase ∧ d.baseAddress ≠ 0 ∧
        IsNearestBase drivers address d.baseAddress

/-- Once the sum has wrapped, no address is below it that is not below the base. -/
theorem lt_add_iff {address base : UInt64} (hle : base ≤ address) :
    address < base + 0x4000000 ↔
      address.toNat < base.toNat + 0x4000000 ∧ base.toNat + 0x4000000 < 2 ^ 64 := by
  have hbase := base.toNat_lt
  have haddress := address.toNat_lt
  rw [UInt64.le_iff_toNat_le] at hle
  rw [UInt64.lt_iff_toNat_lt, UInt64.toNat_add,
    show (0x4000000 : UInt64).toNat = 0x4000000 by decide]
  omega

theorem IsNearestBase.eq {drivers : List LoadedDriver} {address b b' : UInt64}
    (h : IsNearestBase drivers address b) (h' : IsNearestBase drivers address b') : b' = b :=
  UInt64.le_antisymm (h.2 h'.1) (h'.2 h.1)

/-- Without a base at or below it, an address is rightly left unresolved. -/
theorem resolvesLinearly_of_none {drivers : List LoadedDriver} {address : UInt64}
    (hnone : resolveAddress drivers address = none)
    (hno : ∀ b, ¬IsNearestBase drivers address b) : ResolvesLinearly drivers address := by
  constructor
  · rw [hnone]
    constructor
    · intro h
      cases h
    · rintro ⟨_, b, hb, _⟩
      exact absurd hb (hno b)
  · intro d hd
    rw [hnone] at hd
    cases hd

/-- The list is scanned correctly for an address whose nearest base is the address itself, or below
the last 64 MiB of the addresses: in these the bound of the check wraps. -/
theorem resolvesLinearly_iff {drivers : List LoadedDriver} (hlisted : Listed drivers)
    (address : UInt64) :
    ResolvesLinearly drivers address ↔
      ∀ b, IsNearestBase drivers address b → b = address ∨ b.toNat + 0x4000000 < 2 ^ 64 := by
  rcases resolveAddress_eq drivers address hlisted.pairwise with ⟨hnone, hno⟩ | ⟨d, hd, hv, hb, heq⟩
  · constructor
    · intro _ b hb
      exact absurd hb (hno b)
    · intro _
      exact resolvesLinearly_of_none hnone hno
  · have hle : d.baseAddress ≤ address := hb.1.1
    have hne : d.baseAddress ≠ 0 := hb.1.2.1
    have haddress : address ≠ 0 := by
      rintro rfl
      exact hne (UInt64.le_zero_iff.mp hle)
    -- A nearest base is unique, so the condition is about this driver alone.
    have hunique : ∀ b, IsNearestBase drivers address b ↔ b = d.baseAddress := by
      intro b
      constructor
      · intro hb'
        exact hb.eq hb'
      · rintro rfl
        exact hb
    have hsome : (resolveAddress drivers address).isSome ↔
        d.baseAddress = address ∨
          address.toNat < d.baseAddress.toNat + 0x4000000 ∧
            d.baseAddress.toNat + 0x4000000 < 2 ^ 64 := by
      rw [heq, ← lt_add_iff hle]
      split <;> simp_all
    -- With one nearest base, the two sides differ only in the sum that wraps.
    unfold ResolvesLinearly
    rw [hsome]
    simp only [hunique, exists_eq_left, forall_eq]
    constructor
    · rintro ⟨hiff, _⟩
      have haddress' := address.toNat_lt
      by_contra hnot
      have hresolved := hiff.mpr ⟨haddress, by omega⟩
      tauto
    · intro hcond
      constructor
      · constructor
        · rintro (rfl | ⟨hlt, _⟩)
          · exact ⟨haddress, by omega⟩
          · exact ⟨haddress, hlt⟩
        · rintro ⟨_, hlt⟩
          tauto
      · intro d' hd'
        rw [heq] at hd'
        split at hd'
        · obtain rfl := Option.some.inj hd'
          exact ⟨hd, hv, hne, rfl⟩
        · cases hd'

/-- An enumeration that finds a single driver. -/
theorem refreshDriverList_singleton {address : UInt64} (haddress : address ≠ 0)
    (name path : String) : refreshDriverList [⟨address, some name, some path⟩] [] =
      [⟨address, name, path, true⟩] := by
  simp [refreshDriverList, DeviceDriver.loaded, sortByBase, haddress]

theorem resolvesLinearly_ntoskrnl :
    ResolvesLinearly
      (refreshDriverList [⟨0xFFFFF80000000000, some "ntoskrnl.exe", some "ntoskrnl.exe"⟩] [])
      0xFFFFF80000001000 := by
  refine (resolvesLinearly_iff (.refresh _ _) _).mpr ?_
  rintro b ⟨⟨_, _, d, hd, _, rfl⟩, _⟩
  right
  rw [refreshDriverList_singleton (by decide), List.mem_singleton] at hd
  rw [hd]
  decide

/-- A routine 16 bytes into a driver 3 MiB below the end of the addresses is not resolved. -/
theorem hal_not_resolvesLinearly :
    ¬∀ drivers, Listed drivers → ∀ address, ResolvesLinearly drivers address := by
  intro h
  obtain ⟨hiff, _⟩ := h _ (.refresh [⟨0xFFFFFFFFFFD00000, some "hal.dll", some "hal.dll"⟩] [])
    0xFFFFFFFFFFD00010
  rw [refreshDriverList_singleton (by decide)] at hiff
  have hnone : resolveAddress [⟨0xFFFFFFFFFFD00000, "hal.dll", "hal.dll", true⟩]
      0xFFFFFFFFFFD00010 = none := by
    simp [resolveAddress, LoadedDriver.isAttributable, binarySearchByKey, binarySearchBase]
  rw [hnone] at hiff
  have hsome := hiff.mpr ⟨by decide, 0xFFFFFFFFFFD00000, ?_, by decide⟩
  · simp at hsome
  · constructor
    · exact ⟨by decide, by decide, _, List.mem_singleton_self _, rfl, rfl⟩
    · rintro b ⟨_, _, d, hd, _, rfl⟩
      rw [List.mem_singleton.mp hd]
      exact UInt64.le_refl _

end ValOpt
