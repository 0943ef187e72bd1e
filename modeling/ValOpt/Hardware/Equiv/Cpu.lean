import ValOpt.Hardware.Cpu

/-!
# Decoding the topology

The records of `GetLogicalProcessorInformationEx` are encoded as Windows lays them out (`Record`).
`parseProcessorCores` gives back the cores of any row of records, in order, and ignores what is left
of a record that was cut short (`parseProcessorCores_records`).
-/

namespace ValOpt

open Bytes

/-! ### Records -/

/-- `GROUP_AFFINITY`. -/
structure GroupAffinity where
  mask : UInt64
  group : UInt16
  reserved : Vector UInt8 6

def GroupAffinity.bytes (affinity : GroupAffinity) : List UInt8 :=
  leBytes 8 affinity.mask.toNat ++ (leBytes 2 affinity.group.toNat ++ affinity.reserved.toList)

/-- A record of a core, with room behind its groups. -/
structure CoreRecord where
  flags : UInt8
  efficiencyClass : UInt8
  reserved : Vector UInt8 20
  groups : List GroupAffinity
  padding : List UInt8
  groups_lt : groups.length < 2 ^ 16
  size_lt : 32 + 16 * groups.length + padding.length < 2 ^ 32

/-- A record of another relationship. -/
structure OtherRecord where
  relationship : UInt32
  body : List UInt8
  relationship_ne : relationship.toNat ≠ relationProcessorCore
  size_lt : 8 + body.length < 2 ^ 32

/-- `Size` of the record. -/
def CoreRecord.size (record : CoreRecord) : ℕ :=
  32 + 16 * record.groups.length + record.padding.length

def CoreRecord.bytes (record : CoreRecord) : List UInt8 :=
  leBytes 4 relationProcessorCore ++ (leBytes 4 record.size ++
    (record.flags :: record.efficiencyClass :: (record.reserved.toList ++
      (leBytes 2 record.groups.length ++
        (record.groups.flatMap GroupAffinity.bytes ++ record.padding)))))

/-- `Size` of the record. -/
def OtherRecord.size (record : OtherRecord) : ℕ := 8 + record.body.length

def OtherRecord.bytes (record : OtherRecord) : List UInt8 :=
  leBytes 4 record.relationship.toNat ++ (leBytes 4 record.size ++ record.body)

/-- What the records of a core say of it. -/
def CoreRecord.descriptor (record : CoreRecord) : CoreDescriptor where
  efficiencyClass := record.efficiencyClass
  hasSmt := record.flags &&& 1 ≠ 0
  logicalCoreCount := UInt32.ofNat (record.groups.map fun affinity => setBits affinity.mask).sum
  groupMasks := record.groups.map fun affinity => (affinity.group, affinity.mask)

/-- A record of the buffer. -/
inductive Record where
  | core (record : CoreRecord)
  | other (record : OtherRecord)

namespace Record

def bytes : Record → List UInt8
  | core record => record.bytes
  | other record => record.bytes

/-- `Relationship` of the record. -/
def relationship : Record → ℕ
  | core _ => relationProcessorCore
  | other record => record.relationship.toNat

/-- The core that the record is about, if it is about one. -/
def descriptor? : Record → Option CoreDescriptor
  | core record => some record.descriptor
  | other _ => none

end Record

/-! ### Reading a record -/

@[simp] theorem GroupAffinity.length_bytes (affinity : GroupAffinity) :
    affinity.bytes.length = 16 := by
  simp [GroupAffinity.bytes]

theorem CoreRecord.length_bytes (record : CoreRecord) : record.bytes.length = record.size := by
  simp [CoreRecord.bytes, CoreRecord.size]
  omega

theorem OtherRecord.length_bytes (record : OtherRecord) : record.bytes.length = record.size := by
  simp [OtherRecord.bytes, OtherRecord.size]
  omega

/-- The masks are read one after another. -/
theorem readGroupMasks_groups (groups : List GroupAffinity) (after : List UInt8) :
    readGroupMasks (groups.flatMap GroupAffinity.bytes ++ after) groups.length =
      some (groups.map fun affinity => (affinity.group, affinity.mask)) := by
  induction groups with
  | nil => rfl
  | cons affinity groups ih =>
    have hbytes : (affinity :: groups).flatMap GroupAffinity.bytes ++ after = affinity.bytes ++
        (groups.flatMap GroupAffinity.bytes ++ after) := by
      rw [List.flatMap_cons, List.append_assoc]
    have hmask : readLe (affinity.bytes ++ (groups.flatMap GroupAffinity.bytes ++ after)) 0 8 =
        some affinity.mask.toNat := by
      rw [GroupAffinity.bytes, List.append_assoc]
      exact readLe_field [] _ rfl affinity.mask.toNat_lt
    have hgroup : readLe (affinity.bytes ++ (groups.flatMap GroupAffinity.bytes ++ after)) 8 2 =
        some affinity.group.toNat := by
      rw [GroupAffinity.bytes, List.append_assoc, List.append_assoc]
      exact readLe_field _ _ (length_leBytes 8 _) affinity.group.toNat_lt
    have hrest : (affinity.bytes ++ (groups.flatMap GroupAffinity.bytes ++ after)).drop 16 =
        groups.flatMap GroupAffinity.bytes ++ after :=
      List.drop_left' affinity.length_bytes
    rw [hbytes, List.length_cons, readGroupMasks, hmask, hgroup, hrest, ih, List.map_cons]
    simp

/-- The number of set bits fits: there are not enough masks for an overflow. -/
theorem CoreRecord.sum_setBits_lt (record : CoreRecord) :
    (record.groups.map fun affinity => setBits affinity.mask).sum < 2 ^ 32 := by
  have hbits : ∀ mask, setBits mask ≤ 64 := by
    intro mask
    have hle := List.countP_le_length (p := fun i => mask.toNat.testBit i) (l := List.range 64)
    rwa [List.length_range] at hle
  have hsum : ∀ groups : List GroupAffinity,
      (groups.map fun affinity => setBits affinity.mask).sum ≤ 64 * groups.length := by
    intro groups
    induction groups with
    | nil => exact le_refl 0
    | cons affinity groups ih =>
      have hle := hbits affinity.mask
      rw [List.map_cons, List.sum_cons, List.length_cons]
      omega
  have hle := hsum record.groups
  have hlt := record.groups_lt
  omega

/-- The count adds up the set bits. -/
theorem foldl_countOnes (groupMasks : List (UInt16 × UInt64)) (count : ℕ) :
    groupMasks.foldl (fun count groupMask => count + countOnes groupMask.2) (UInt32.ofNat count) =
      UInt32.ofNat (count + (groupMasks.map fun groupMask => setBits groupMask.2).sum) := by
  induction groupMasks generalizing count with
  | nil => simp
  | cons groupMask groupMasks ih =>
    rw [List.foldl_cons, countOnes, ← UInt32.ofNat_add, ih, List.map_cons, List.sum_cons,
      Nat.add_assoc]

/-- The core of a record is read, whatever comes after the record. -/
theorem readCore_bytes (record : CoreRecord) (after : List UInt8) :
    readCore (record.bytes ++ after) = some record.descriptor := by
  have hbytes : record.bytes ++ after =
      (leBytes 4 relationProcessorCore ++ leBytes 4 record.size) ++
        record.flags :: record.efficiencyClass :: (record.reserved.toList ++
          (leBytes 2 record.groups.length ++
            (record.groups.flatMap GroupAffinity.bytes ++ (record.padding ++ after)))) := by
    simp [CoreRecord.bytes]
  have hcount : readLe (record.bytes ++ after) 30 2 = some record.groups.length := by
    have hsplit : record.bytes ++ after = (leBytes 4 relationProcessorCore ++
        leBytes 4 record.size ++
        record.flags :: record.efficiencyClass :: record.reserved.toList) ++
          (leBytes 2 record.groups.length ++
            (record.groups.flatMap GroupAffinity.bytes ++ (record.padding ++ after))) := by
      simp [hbytes]
    rw [hsplit]
    exact readLe_field _ _ (by simp) record.groups_lt
  have hgroups : (record.bytes ++ after).drop 32 =
      record.groups.flatMap GroupAffinity.bytes ++ (record.padding ++ after) := by
    have hsplit : record.bytes ++ after = (leBytes 4 relationProcessorCore ++
        leBytes 4 record.size ++ record.flags :: record.efficiencyClass ::
          (record.reserved.toList ++ leBytes 2 record.groups.length)) ++
            (record.groups.flatMap GroupAffinity.bytes ++ (record.padding ++ after)) := by
      simp [hbytes]
    rw [hsplit]
    exact List.drop_left' (by simp)
  have hflags : (record.bytes ++ after)[8]? = some record.flags := by
    rw [hbytes, List.getElem?_append_right (by simp)]
    simp
  have hclass : (record.bytes ++ after)[9]? = some record.efficiencyClass := by
    rw [hbytes, List.getElem?_append_right (by simp)]
    simp
  have hsum : (record.descriptor.groupMasks.map fun groupMask => setBits groupMask.2).sum =
      (record.groups.map fun affinity => setBits affinity.mask).sum := by
    rw [CoreRecord.descriptor, List.map_map]
    rfl
  have hfold := foldl_countOnes record.descriptor.groupMasks 0
  rw [hsum, Nat.zero_add] at hfold
  -- each field is read at its offset, and the padding is never reached
  rw [readCore, hflags, hclass, hcount, hgroups]
  simp only [Option.bind_eq_bind, Option.bind_some]
  rw [readGroupMasks_groups, Option.bind_some]
  exact congrArg (fun count => some { record.descriptor with logicalCoreCount := count }) hfold

/-! ### The loop -/

/-- The header of a record: its relationship, and its size, which is that of its bytes. -/
theorem Record.header (record : Record) : 8 ≤ record.bytes.length ∧
    readLe record.bytes 0 4 = some record.relationship ∧
    readLe record.bytes 4 4 = some record.bytes.length := by
  cases record with
  | core record =>
    have hsize : record.size < 2 ^ 32 := record.size_lt
    rw [bytes, record.length_bytes, relationship]
    refine ⟨?_, ?_, ?_⟩
    · rw [CoreRecord.size]
      omega
    · exact readLe_field [] _ rfl (by decide)
    · exact readLe_field _ _ (length_leBytes 4 _) hsize
  | other record =>
    have hsize : record.size < 2 ^ 32 := record.size_lt
    rw [bytes, record.length_bytes, relationship]
    refine ⟨?_, ?_, ?_⟩
    · rw [OtherRecord.size]
      omega
    · exact readLe_field [] _ rfl record.relationship.toNat_lt
    · exact readLe_field _ _ (length_leBytes 4 _) hsize

/-- What may follow the last record: too few bytes for a header, or the start of a record. -/
def IsRest (rest : List UInt8) : Prop :=
  rest.length < 8 ∨ ∃ record : Record, rest <+: record.bytes ∧ rest.length < record.bytes.length

/-- The loop stops at such a rest. -/
theorem parseCoresFrom_rest (before : List UInt8) {rest : List UInt8} (h : IsRest rest) :
    parseCoresFrom (before ++ rest) before.length = some [] := by
  rw [parseCoresFrom, List.length_append, List.drop_left]
  split
  next hlen =>
    rcases h with hshort | ⟨record, hprefix, hcut⟩
    · omega
    · -- the header is whole and names a size that is not there
      have hsize : readLe rest 4 4 = some record.bytes.length :=
        (readLe_of_append hprefix (by omega)).trans record.header.2.2
      simp only [hsize, Option.bind_eq_bind, Option.bind_some]
      exact if_pos (.inr (by omega))
  next => rfl

theorem readRecord_bytes (record : Record) (after : List UInt8) :
    readRecord (record.bytes ++ after) = some record.descriptor? := by
  obtain ⟨hlen, hrelationship, -⟩ := record.header
  rw [readLe_of_append (List.prefix_append _ after) (by omega)] at hrelationship
  rw [readRecord, hrelationship, Option.bind_eq_bind, Option.bind_some]
  cases record with
  | core record =>
    rw [Record.relationship, if_pos rfl, Record.bytes, readCore_bytes]
    rfl
  | other record =>
    rw [Record.relationship, if_neg record.relationship_ne]
    rfl

/-- The loop reads the record that it stands at, and goes on behind it. -/
theorem parseCoresFrom_record (before : List UInt8) (record : Record) (after : List UInt8) :
    parseCoresFrom (before ++ (record.bytes ++ after)) before.length =
      (parseCoresFrom (before ++ record.bytes ++ after) (before ++ record.bytes).length).map
        (record.descriptor?.toList ++ ·) := by
  obtain ⟨hlen, -, hsize⟩ := record.header
  rw [readLe_of_append (List.prefix_append _ after) (by omega)] at hsize
  have hheader : before.length + 8 ≤ (before ++ (record.bytes ++ after)).length := by
    rw [List.length_append, List.length_append]
    omega
  have hfits : ¬ (record.bytes.length < 8 ∨
      (before ++ (record.bytes ++ after)).length < before.length + record.bytes.length) := by
    rw [List.length_append, List.length_append]
    omega
  rw [parseCoresFrom, if_pos hheader, List.drop_left]
  simp only [hsize, Option.bind_eq_bind, Option.bind_some, if_neg hfits, readRecord_bytes]
  rw [List.append_assoc, List.length_append, Option.map_eq_bind]
  rfl

theorem parseCoresFrom_records (before : List UInt8) (records : List Record) {rest : List UInt8}
    (h : IsRest rest) :
    parseCoresFrom (before ++ (records.flatMap Record.bytes ++ rest)) before.length =
      some (records.filterMap Record.descriptor?) := by
  induction records generalizing before with
  | nil => exact parseCoresFrom_rest before h
  | cons record records ih =>
    rw [List.flatMap_cons, List.append_assoc, parseCoresFrom_record, ih, Option.map_some,
      List.filterMap_cons]
    cases record.descriptor? <;> rfl

/-- **The cores of a row of records are decoded**, in order, and what is left of a record that was
cut short is ignored. -/
theorem parseProcessorCores_records (records : List Record) {rest : List UInt8} (h : IsRest rest) :
    parseProcessorCores (records.flatMap Record.bytes ++ rest) =
        some (records.filterMap Record.descriptor?) ∧
      ∀ record : CoreRecord, record.descriptor.logicalCoreCount.toNat =
        (record.groups.map fun affinity => setBits affinity.mask).sum := by
  constructor
  · exact parseCoresFrom_records [] records h
  · intro record
    exact UInt32.toNat_ofNat_of_lt' record.sum_setBits_lt

/-! ### Instances -/

/-- A core with two logical processors. -/
def twoThreads : CoreRecord where
  flags := 1
  efficiencyClass := 1
  reserved := Vector.replicate 20 0
  groups := [⟨3, 0, Vector.replicate 6 0⟩]
  padding := []
  groups_lt := by decide
  size_lt := by decide

/-- A core of two groups, with eight bytes of padding. -/
def twoGroups : CoreRecord where
  flags := 0
  efficiencyClass := 0
  reserved := Vector.replicate 20 0
  groups := [⟨0x10, 0, Vector.replicate 6 0⟩, ⟨0xF, 1, Vector.replicate 6 0⟩]
  padding := List.replicate 8 0xFF
  groups_lt := by decide
  size_lt := by decide

/-- `RelationCache`. -/
def cacheRecord : OtherRecord where
  relationship := 2
  body := List.replicate 44 0
  relationship_ne := by decide
  size_lt := by decide

theorem parseProcessorCores_interleaved :
    parseProcessorCores (twoThreads.bytes ++ (cacheRecord.bytes ++ twoGroups.bytes) ++
        twoThreads.bytes.take 40) =
      some [⟨1, true, 2, [(0, 3)]⟩, ⟨0, false, 5, [(0, 0x10), (1, 0xF)]⟩] := by
  have hrest : IsRest (twoThreads.bytes.take 40) :=
    .inr ⟨.core twoThreads, List.take_prefix 40 _, by decide⟩
  have hparse :=
    (parseProcessorCores_records [.core twoThreads, .other cacheRecord, .core twoGroups] hrest).1
  exact hparse

end ValOpt
