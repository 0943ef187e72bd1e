import Mathlib.Data.String.Basic
import ValOpt.Text.Json.Doc

/-!
# JSON values

`serde_json::Value` keeps the members of an object in a map, so they are sorted by their keys and no
key occurs twice.  A `Value` is such a document, and `Value.ofDoc` is what the reader makes of any
other: of two members with one key the later one counts.
-/

namespace Text.Json

variable {N : Type}

/-- The members of every object are sorted by their keys, without a key that occurs twice. -/
inductive Doc.Ordered : Doc N → Prop where
  | null : Ordered .null
  | bool (b : Bool) : Ordered (.bool b)
  | number (n : N) : Ordered (.number n)
  | string (s : String) : Ordered (.string s)
  | array {ts : List (Doc N)} (h : ∀ t ∈ ts, t.Ordered) : Ordered (.array ts)
  | object {ms : List (String × Doc N)} (h : ∀ m ∈ ms, m.2.Ordered)
      (hkeys : (ms.map (·.1)).Pairwise (· < ·)) : Ordered (.object ms)

/-- `serde_json::Value`. -/
abbrev Value (N : Type) : Type := {d : Doc N // d.Ordered}

/-- A member in front of others, sorted in; of two with one key the later one stays. -/
def insertMember {α : Type} (k : String) (a : α) : List (String × α) → List (String × α)
  | [] => [(k, a)]
  | m :: ms =>
    if k < m.1 then (k, a) :: m :: ms
    else if m.1 < k then m :: insertMember k a ms
    else m :: ms

mutual

/-- The members of every object, sorted. -/
def Doc.sorted : Doc N → Doc N
  | .array ts => .array (sortedItems ts)
  | .object ms => .object (sortedMembers ms)
  | .null => .null
  | .bool b => .bool b
  | .number n => .number n
  | .string s => .string s

def sortedItems : List (Doc N) → List (Doc N)
  | [] => []
  | t :: ts => t.sorted :: sortedItems ts

def sortedMembers : List (String × Doc N) → List (String × Doc N)
  | [] => []
  | (k, t) :: ms => insertMember k t.sorted (sortedMembers ms)

end

/-! ### The reader makes values -/

section Insert

variable {α : Type} {k : String} {a : α} {ms : List (String × α)}

theorem mem_insertMember {m : String × α} (h : m ∈ insertMember k a ms) : m = (k, a) ∨ m ∈ ms := by
  induction ms with
  | nil => exact Or.inl (List.mem_singleton.mp h)
  | cons m' ms ih =>
    unfold insertMember at h
    split_ifs at h
    · exact List.mem_cons.mp h
    · rcases List.mem_cons.mp h with rfl | h
      · exact Or.inr List.mem_cons_self
      · exact (ih h).imp_right (List.mem_cons_of_mem _)
    · exact Or.inr h

theorem pairwise_insertMember (h : (ms.map (·.1)).Pairwise (· < ·)) :
    ((insertMember k a ms).map (·.1)).Pairwise (· < ·) := by
  induction ms with
  | nil => exact List.pairwise_singleton _ _
  | cons m ms ih =>
    rw [List.map_cons, List.pairwise_cons] at h
    unfold insertMember
    split_ifs with hlt hgt
    · rw [List.map_cons, List.map_cons, List.pairwise_cons, List.pairwise_cons]
      refine ⟨fun k' hk' => ?_, h⟩
      rcases List.mem_cons.mp hk' with rfl | hk'
      · exact hlt
      · exact hlt.trans (h.1 k' hk')
    · rw [List.map_cons, List.pairwise_cons]
      refine ⟨fun k' hk' => ?_, ih h.2⟩
      obtain ⟨m', hm', rfl⟩ := List.mem_map.mp hk'
      rcases mem_insertMember hm' with rfl | hm'
      · exact hgt
      · exact h.1 _ (List.mem_map_of_mem hm')
    · rw [List.map_cons, List.pairwise_cons]
      exact h

/-- A member with a smaller key than all others stays in front. -/
theorem insertMember_of_lt (h : ((k, a) :: ms |>.map (·.1)).Pairwise (· < ·)) :
    insertMember k a ms = (k, a) :: ms := by
  cases ms with
  | nil => rfl
  | cons m ms =>
    rw [List.map_cons, List.pairwise_cons] at h
    exact if_pos (h.1 m.1 (List.mem_map_of_mem List.mem_cons_self))

end Insert

mutual

theorem Doc.ordered_sorted : ∀ d : Doc N, d.sorted.Ordered
  | .array ts => .array (ordered_sortedItems ts)
  | .object ms => .object (ordered_sortedMembers ms).1 (ordered_sortedMembers ms).2
  | .null => .null
  | .bool b => .bool b
  | .number n => .number n
  | .string s => .string s

theorem ordered_sortedItems : ∀ ts : List (Doc N), ∀ t ∈ sortedItems ts, t.Ordered
  | [] => fun _ h => (nomatch h)
  | t :: ts => List.forall_mem_cons.mpr ⟨t.ordered_sorted, ordered_sortedItems ts⟩

theorem ordered_sortedMembers : ∀ ms : List (String × Doc N),
    (∀ m ∈ sortedMembers ms, m.2.Ordered) ∧ ((sortedMembers ms).map (·.1)).Pairwise (· < ·)
  | [] => ⟨fun _ h => (nomatch h), .nil⟩
  | (k, t) :: ms => by
    have ih := ordered_sortedMembers ms
    refine ⟨fun m hm => ?_, pairwise_insertMember ih.2⟩
    rcases mem_insertMember hm with rfl | hm
    · exact t.ordered_sorted
    · exact ih.1 m hm

end

mutual

theorem Doc.sorted_of_ordered : ∀ d : Doc N, d.Ordered → d.sorted = d
  | .array ts, .array h => congrArg Doc.array (sortedItems_of_ordered ts h)
  | .object ms, .object h hkeys => congrArg Doc.object (sortedMembers_of_ordered ms h hkeys)
  | .null, _ => rfl
  | .bool _, _ => rfl
  | .number _, _ => rfl
  | .string _, _ => rfl

theorem sortedItems_of_ordered : ∀ ts : List (Doc N), (∀ t ∈ ts, t.Ordered) → sortedItems ts = ts
  | [], _ => rfl
  | t :: ts, h => by
    rw [List.forall_mem_cons] at h
    rw [sortedItems, t.sorted_of_ordered h.1, sortedItems_of_ordered ts h.2]

theorem sortedMembers_of_ordered : ∀ ms : List (String × Doc N), (∀ m ∈ ms, m.2.Ordered) →
    (ms.map (·.1)).Pairwise (· < ·) → sortedMembers ms = ms
  | [], _, _ => rfl
  | (k, t) :: ms, h, hkeys => by
    rw [List.forall_mem_cons] at h
    have hrest := (List.pairwise_cons.mp hkeys).2
    rw [sortedMembers, t.sorted_of_ordered h.1, sortedMembers_of_ordered ms h.2 hrest]
    exact insertMember_of_lt hkeys

end

/-- The value that a document reads as. -/
def Value.ofDoc (d : Doc N) : Value N := ⟨d.sorted, d.ordered_sorted⟩

@[simp] theorem Value.ofDoc_val (v : Value N) : Value.ofDoc v.1 = v :=
  Subtype.ext (v.1.sorted_of_ordered v.2)

end Text.Json
