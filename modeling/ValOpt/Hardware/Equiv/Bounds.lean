import ValOpt.Hardware.Cpu

/-!
# The bytes that the decoder interprets

`accesses` lists what `parse_processor_cores` interprets of a buffer, each field with the record it
is taken to be part of.  A field past the end of the buffer is the case in which
`parseProcessorCores` has no result (`parseProcessorCores_isSome_iff`).

The loop checks that the header of a record is there and that `Size` does not reach past the buffer,
but not that a record of a core is large enough for its fields.  So the decoder stays in bounds
exactly if every record of a core that it comes to has room for the groups it names
(`decoder_inBounds_iff`).
-/

namespace ValOpt

open Bytes

/-! ### Accesses -/

/-- A field that is interpreted: `width` bytes, from the byte `first` of a record on.  The record is
at `offset` and has `size` bytes. -/
structure Access where
  offset : ℕ
  size : ℕ
  first : ℕ
  width : ℕ
  deriving DecidableEq, Repr

/-- The field lies inside the buffer. -/
def Access.InBuffer (buffer : List UInt8) (access : Access) : Prop :=
  access.offset + (access.first + access.width) ≤ buffer.length

/-- The field lies inside its record. -/
def Access.InRecord (access : Access) : Prop := access.first + access.width ≤ access.size

/-- The fields of the groups, the first of which is at `start`.  The reserved bytes at the end of a
group are not interpreted. -/
def groupFields (start : ℕ) : ℕ → List (ℕ × ℕ)
  | 0 => []
  | count + 1 => (start, 8) :: (start + 8, 2) :: groupFields (start + 16) count

/-- The fields of a core.  The number of groups is itself one of them. -/
def coreFields (info : List UInt8) : List (ℕ × ℕ) :=
  (8, 1) :: (9, 1) :: (30, 2) ::
    match readLe info 30 2 with
    | some groupCount => groupFields 32 groupCount
    | none => []

/-- The fields of a record whose size is known. -/
def recordFields (info : List UInt8) : List (ℕ × ℕ) :=
  (0, 4) :: if readLe info 0 4 = some relationProcessorCore then coreFields info else []

/-- What the loop interprets from an offset on. -/
def accessesFrom (buffer : List UInt8) (offset : ℕ) : List Access :=
  if offset + 8 ≤ buffer.length then
    let info := buffer.drop offset
    -- before it is read, the size is a field of the header
    ⟨offset, 8, 4, 4⟩ ::
      match readLe info 4 4 with
      | none => []
      | some recordSize =>
        if recordSize < 8 ∨ buffer.length < offset + recordSize then []
        else
          (recordFields info).map (fun field => ⟨offset, recordSize, field.1, field.2⟩) ++
            accessesFrom buffer (offset + recordSize)
  else []
  termination_by buffer.length - offset

/-- What `parse_processor_cores` interprets of a buffer. -/
def accesses (buffer : List UInt8) : List Access := accessesFrom buffer 0

/-- The decoder reads nothing past the end of the buffer, and no field past that of its record. -/
structure DecodesInBounds (buffer : List UInt8) : Prop where
  returns : (parseProcessorCores buffer).isSome
  inBuffer : ∀ access ∈ accesses buffer, access.InBuffer buffer
  inRecord : ∀ access ∈ accesses buffer, access.InRecord

/-! ### Records with room for their groups -/

/-- The bytes of a core with this number of groups, up to the last one that is interpreted. -/
def coreLength (groupCount : ℕ) : ℕ := if groupCount = 0 then 32 else 26 + 16 * groupCount

/-- The record is a core's and has no room for the groups it names. -/
def CutShort (info : List UInt8) (size : ℕ) : Prop :=
  readLe info 0 4 = some relationProcessorCore ∧
    ∀ groupCount, readLe info 30 2 = some groupCount → size < coreLength groupCount

/-- A record of this size, from 8 bytes on, is at this offset and ends inside the buffer. -/
structure IsRecordAt (buffer : List UInt8) (offset size : ℕ) : Prop where
  size_eq : readLe (buffer.drop offset) 4 4 = some size
  header_le : 8 ≤ size
  end_le : offset + size ≤ buffer.length

/-- By the sizes of the records from `start` on, a record is at `offset`. -/
inductive RecordFrom (buffer : List UInt8) : ℕ → ℕ → ℕ → Prop
  | here {start size : ℕ} (h : IsRecordAt buffer start size) : RecordFrom buffer start start size
  | later {start skipped offset size : ℕ} (h : IsRecordAt buffer start skipped)
      (hrest : RecordFrom buffer (start + skipped) offset size) :
      RecordFrom buffer start offset size

/-- No record of a core is cut short. -/
def CoresFit (buffer : List UInt8) : Prop :=
  ∀ offset size, RecordFrom buffer 0 offset size → ¬ CutShort (buffer.drop offset) size

/-! ### One record -/

theorem readLe_isSome_iff (info : List UInt8) (first width : ℕ) :
    (readLe info first width).isSome ↔ first + width ≤ info.length := by
  rw [readLe]
  split
  next h => exact iff_of_true rfl h
  next h => exact iff_of_false Bool.false_ne_true h

theorem le_coreLength (groupCount : ℕ) : 32 ≤ coreLength groupCount := by
  rw [coreLength]
  split <;> omega

/-- Only the group number of the last group counts. -/
theorem forall_groupFields_iff (start groupCount size : ℕ) :
    (∀ field ∈ groupFields start groupCount, field.1 + field.2 ≤ size) ↔
      groupCount = 0 ∨ start + 16 * groupCount ≤ size + 6 := by
  induction groupCount generalizing start with
  | zero => simp [groupFields]
  | succ groupCount ih =>
    rw [groupFields, List.forall_mem_cons, List.forall_mem_cons, ih]
    omega

/-- The fields of a core end where its length says, if the number of groups can be read. -/
theorem forall_coreFields_iff {info : List UInt8} {size : ℕ} (h : size ≤ info.length) :
    (∀ field ∈ coreFields info, field.1 + field.2 ≤ size) ↔
      ∃ groupCount, readLe info 30 2 = some groupCount ∧ coreLength groupCount ≤ size := by
  rw [coreFields, List.forall_mem_cons, List.forall_mem_cons, List.forall_mem_cons]
  by_cases hsize : 32 ≤ size
  · obtain ⟨groupCount, hcount⟩ :=
      Option.isSome_iff_exists.mp ((readLe_isSome_iff info 30 2).mpr (by omega))
    simp only [hcount, forall_groupFields_iff, Option.some.injEq, exists_eq_left', coreLength]
    split <;> omega
  · constructor
    · intro ⟨_, _, hle, _⟩
      exact absurd hle hsize
    · intro ⟨groupCount, _, hle⟩
      exact absurd ((le_coreLength groupCount).trans hle) hsize

theorem readGroupMasks_isSome_iff (bytes : List UInt8) (start groupCount : ℕ) :
    (readGroupMasks (bytes.drop start) groupCount).isSome ↔
      ∀ field ∈ groupFields start groupCount, field.1 + field.2 ≤ bytes.length := by
  induction groupCount generalizing start with
  | zero => simp [readGroupMasks, groupFields]
  | succ groupCount ih =>
    have hfield : ∀ first width, 0 < width → ((readLe (bytes.drop start) first width).isSome ↔
        start + first + width ≤ bytes.length) := by
      intro first width hwidth
      rw [readLe_isSome_iff, List.length_drop]
      omega
    rw [groupFields, List.forall_mem_cons, List.forall_mem_cons, ← ih, ← List.drop_drop,
      readGroupMasks, ← hfield 8 2 (by omega), ← Nat.add_zero start, ← hfield 0 8 (by omega)]
    cases readLe (bytes.drop start) 0 8 <;> cases readLe (bytes.drop start) 8 2 <;>
      cases readGroupMasks ((bytes.drop start).drop 16) groupCount <;> simp

theorem readCore_isSome_iff (info : List UInt8) :
    (readCore info).isSome ↔ ∀ field ∈ coreFields info, field.1 + field.2 ≤ info.length := by
  have hbyte : ∀ i, info[i]?.isSome ↔ i + 1 ≤ info.length := by
    intro i
    rw [isSome_getElem?]
    exact Nat.lt_iff_add_one_le
  rw [coreFields, List.forall_mem_cons, List.forall_mem_cons, List.forall_mem_cons, ← hbyte,
    ← hbyte, ← readLe_isSome_iff, readCore]
  cases info[8]? <;> cases info[9]? <;> cases readLe info 30 2 <;> simp [-Prod.forall]
  next groupCount =>
    rw [← readGroupMasks_isSome_iff]
    cases readGroupMasks (info.drop 32) groupCount <;> simp

theorem readRecord_isSome_iff (info : List UInt8) :
    (readRecord info).isSome ↔ ∀ field ∈ recordFields info, field.1 + field.2 ≤ info.length := by
  rw [recordFields, List.forall_mem_cons, Nat.zero_add, ← Nat.zero_add 4, ← readLe_isSome_iff,
    Nat.zero_add, readRecord]
  cases hrelationship : readLe info 0 4 with
  | none => simp
  | some relationship =>
    by_cases hcore : relationship = relationProcessorCore
    · simp [hcore, readCore_isSome_iff, -Prod.forall]
    · simp [hcore]

/-- The fields of a record end in it, unless it is a core's and cut short. -/
theorem forall_recordFields_iff {info : List UInt8} {size : ℕ} (hheader : 8 ≤ size)
    (h : size ≤ info.length) :
    (∀ field ∈ recordFields info, field.1 + field.2 ≤ size) ↔ ¬ CutShort info size := by
  rw [recordFields, List.forall_mem_cons, and_iff_right (show 0 + 4 ≤ size by omega), CutShort]
  split
  next hrelationship =>
    rw [forall_coreFields_iff h]
    simp [hrelationship]
  next hrelationship => simp [hrelationship]

/-! ### The loop -/

section Loop

variable {buffer : List UInt8} {offset size : ℕ}

/-- There is one size at most that a record at an offset can have. -/
theorem IsRecordAt.unique {size' : ℕ} (h : IsRecordAt buffer offset size)
    (h' : IsRecordAt buffer offset size') : size' = size :=
  Option.some.inj (h'.size_eq.symm.trans h.size_eq)

variable (buffer) in
/-- What holds where there is no record, and of a record if it holds behind it, holds at every
offset. -/
theorem record_induction {motive : ℕ → Prop}
    (stop : ∀ offset, (∀ size, ¬ IsRecordAt buffer offset size) → motive offset)
    (step : ∀ offset size, IsRecordAt buffer offset size → motive (offset + size) → motive offset)
    (offset : ℕ) : motive offset := by
  induction hleft : buffer.length - offset using Nat.strong_induction_on generalizing offset with
  | _ left ih =>
    by_cases hrecord : ∃ size, IsRecordAt buffer offset size
    · obtain ⟨size, h⟩ := hrecord
      have hheader := h.header_le
      have hend := h.end_le
      exact step offset size h (ih _ (by omega) _ rfl)
    · exact stop offset (not_exists.mp hrecord)

/-- No record is behind the place where the loop stops. -/
theorem not_recordFrom (h : ∀ size, ¬ IsRecordAt buffer offset size) (offset' size' : ℕ) :
    ¬ RecordFrom buffer offset offset' size' := by
  intro hrecord
  cases hrecord with
  | here hat => exact h _ hat
  | later hat _ => exact h _ hat

/-- The records from one on are that record and those behind it. -/
theorem forall_recordFrom_iff (h : IsRecordAt buffer offset size) {P : ℕ → ℕ → Prop} :
    (∀ offset' size', RecordFrom buffer offset offset' size' → P offset' size') ↔
      P offset size ∧
        ∀ offset' size', RecordFrom buffer (offset + size) offset' size' → P offset' size' := by
  constructor
  · intro hall
    exact ⟨hall _ _ (.here h), fun offset' size' hrest => hall _ _ (.later h hrest)⟩
  · intro ⟨hfirst, hrest⟩ offset' size' hrecord
    cases hrecord with
    | here hat => rwa [h.unique hat]
    | later hat hlater =>
      rw [h.unique hat] at hlater
      exact hrest _ _ hlater

theorem accessesFrom_of_record (h : IsRecordAt buffer offset size) :
    accessesFrom buffer offset = ⟨offset, 8, 4, 4⟩ ::
      ((recordFields (buffer.drop offset)).map (fun field => ⟨offset, size, field.1, field.2⟩) ++
        accessesFrom buffer (offset + size)) := by
  obtain ⟨hsize, hheader, hend⟩ := h
  rw [accessesFrom, if_pos (by omega)]
  dsimp only
  rw [hsize]
  dsimp only
  rw [if_neg (by omega)]

/-- Where there is no record but a header, the loop stops at its size. -/
theorem exists_size_of_not_record (h : ∀ size, ¬ IsRecordAt buffer offset size)
    (hlen : offset + 8 ≤ buffer.length) : ∃ size, readLe (buffer.drop offset) 4 4 = some size ∧
      (size < 8 ∨ buffer.length < offset + size) := by
  have hreads : 4 + 4 ≤ (buffer.drop offset).length := by
    rw [List.length_drop]
    omega
  obtain ⟨size, hsize⟩ := Option.isSome_iff_exists.mp ((readLe_isSome_iff _ 4 4).mpr hreads)
  refine ⟨size, hsize, ?_⟩
  by_contra hfits
  exact h size ⟨hsize, by omega, by omega⟩

/-- A header that is there is read, whether or not a record follows. -/
theorem accessesFrom_of_not_record (h : ∀ size, ¬ IsRecordAt buffer offset size) {access : Access}
    (hmem : access ∈ accessesFrom buffer offset) :
    access = ⟨offset, 8, 4, 4⟩ ∧ offset + 8 ≤ buffer.length := by
  rw [accessesFrom] at hmem
  split at hmem
  next hlen =>
    obtain ⟨size, hsize, hstop⟩ := exists_size_of_not_record h hlen
    simp only [hsize, if_pos hstop, List.mem_singleton] at hmem
    exact ⟨hmem, hlen⟩
  next => cases hmem

theorem parseCoresFrom_isSome_of_record (h : IsRecordAt buffer offset size) :
    (parseCoresFrom buffer offset).isSome ↔
      (readRecord (buffer.drop offset)).isSome ∧
        (parseCoresFrom buffer (offset + size)).isSome := by
  obtain ⟨hsize, hheader, hend⟩ := h
  rw [parseCoresFrom, if_pos (by omega)]
  simp only [hsize, Option.bind_eq_bind, Option.bind_some, if_neg (show ¬ (size < 8 ∨
    buffer.length < offset + size) by omega)]
  cases readRecord (buffer.drop offset) <;> cases parseCoresFrom buffer (offset + size) <;> simp

theorem parseCoresFrom_of_not_record (h : ∀ size, ¬ IsRecordAt buffer offset size) :
    parseCoresFrom buffer offset = some [] := by
  rw [parseCoresFrom]
  split
  next hlen =>
    obtain ⟨size, hsize, hstop⟩ := exists_size_of_not_record h hlen
    simp only [hsize, Option.bind_eq_bind, Option.bind_some, if_pos hstop]
  next => rfl

/-- The decoder returns exactly if it reads nothing past the end of the buffer. -/
theorem parseCoresFrom_isSome_iff (offset : ℕ) : (parseCoresFrom buffer offset).isSome ↔
    ∀ access ∈ accessesFrom buffer offset, access.InBuffer buffer := by
  induction offset using record_induction buffer with
  | stop offset h =>
    rw [parseCoresFrom_of_not_record h]
    refine iff_of_true rfl fun access hmem => ?_
    obtain ⟨rfl, hlen⟩ := accessesFrom_of_not_record h hmem
    exact hlen
  | step offset size h ih =>
    have hfields : (∀ field ∈ recordFields (buffer.drop offset),
        field.1 + field.2 ≤ (buffer.drop offset).length) ↔
        ∀ field ∈ recordFields (buffer.drop offset),
          Access.InBuffer buffer ⟨offset, size, field.1, field.2⟩ := by
      have hend := h.end_le
      refine forall₂_congr fun field _ => ?_
      rw [Access.InBuffer, List.length_drop]
      dsimp only
      omega
    have hheader : Access.InBuffer buffer ⟨offset, 8, 4, 4⟩ := by
      have hle := h.header_le
      have hend := h.end_le
      show offset + (4 + 4) ≤ buffer.length
      omega
    rw [parseCoresFrom_isSome_of_record h, readRecord_isSome_iff, hfields, ih,
      accessesFrom_of_record h, List.forall_mem_cons, and_iff_right hheader, List.forall_mem_append,
      List.forall_mem_map]

/-- The fields lie inside their records exactly if no record of a core is cut short. -/
theorem forall_inRecord_iff (offset : ℕ) :
    (∀ access ∈ accessesFrom buffer offset, access.InRecord) ↔
      ∀ offset' size', RecordFrom buffer offset offset' size' →
        ¬ CutShort (buffer.drop offset') size' := by
  induction offset using record_induction buffer with
  | stop offset h =>
    apply iff_of_true
    · intro access hmem
      obtain ⟨rfl, -⟩ := accessesFrom_of_not_record h hmem
      exact le_refl 8
    · intro offset' size' hrecord
      exact absurd hrecord (not_recordFrom h offset' size')
  | step offset size h ih =>
    have hlen : size ≤ (buffer.drop offset).length := by
      have hend := h.end_le
      rw [List.length_drop]
      omega
    rw [accessesFrom_of_record h, List.forall_mem_cons, and_iff_right (show Access.InRecord
      ⟨offset, 8, 4, 4⟩ from le_refl 8), List.forall_mem_append, List.forall_mem_map, ih,
      forall_recordFrom_iff h, ← forall_recordFields_iff h.header_le hlen]
    rfl

/-- Records lie inside the buffer: this is what the loop checks. -/
theorem record_le_length (offset : ℕ) :
    ∀ access ∈ accessesFrom buffer offset, access.offset + access.size ≤ buffer.length := by
  induction offset using record_induction buffer with
  | stop offset h =>
    intro access hmem
    obtain ⟨rfl, hlen⟩ := accessesFrom_of_not_record h hmem
    exact hlen
  | step offset size h ih =>
    have hheader := h.header_le
    have hend := h.end_le
    rw [accessesFrom_of_record h, List.forall_mem_cons, List.forall_mem_append, List.forall_mem_map]
    refine ⟨?_, fun _ _ => hend, ih⟩
    show offset + 8 ≤ buffer.length
    omega

end Loop

/-- The branch in which the decoder reads past the end of the buffer. -/
theorem parseProcessorCores_isSome_iff (buffer : List UInt8) :
    (parseProcessorCores buffer).isSome ↔ ∀ access ∈ accesses buffer, access.InBuffer buffer :=
  parseCoresFrom_isSome_iff 0

/-- **The decoder stays in bounds exactly if no record of a core is cut short.** -/
theorem decoder_inBounds_iff (buffer : List UInt8) : DecodesInBounds buffer ↔ CoresFit buffer := by
  rw [CoresFit, ← forall_inRecord_iff]
  constructor
  · intro h
    exact h.inRecord
  · intro hrecord
    have hbuffer : ∀ access ∈ accesses buffer, access.InBuffer buffer := by
      intro access hmem
      have hfield := hrecord access hmem
      have hend := record_le_length 0 access hmem
      rw [Access.InRecord] at hfield
      rw [Access.InBuffer]
      omega
    exact ⟨(parseProcessorCores_isSome_iff buffer).mpr hbuffer, hbuffer, hrecord⟩

/-- A record of a core that is nothing but its header: the fields behind it are read all the
same. -/
theorem decoder_reads_past_header : ¬ DecodesInBounds [0, 0, 0, 0, 8, 0, 0, 0] := by
  intro h
  have hfits := (forall_inRecord_iff 0).mp h.inRecord
  exact hfits 0 8 (.here ⟨rfl, le_refl 8, le_refl 8⟩) ⟨rfl, fun groupCount hcount => nomatch hcount⟩

end ValOpt
