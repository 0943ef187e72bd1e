import Mathlib.Data.List.Sort

/-!
# Mailboxes

A mailbox holds messages with the times of their arrival, those still on their way among them, in
the order in which they can be read.  What is read before a deadline is the first message, if it
arrives before the deadline (`Mailbox.take_cases`).  A message put into a mailbox becomes the first
one exactly if it arrives before all others (`Mailbox.put_of_first`), and otherwise one of the
others stays in front of it (`Mailbox.put_of_behind`).
-/

/-- Messages with their times of arrival, first to arrive first. -/
structure Mailbox (T α : Type) [LinearOrder T] where
  items : List (T × α)
  sorted : items.Pairwise (·.1 ≤ ·.1)

namespace Mailbox

variable {T α : Type} [LinearOrder T]

/-- A mailbox without messages. -/
def empty : Mailbox T α where
  items := []
  sorted := List.Pairwise.nil

/-- Messages that arrive at the same time are read in the order in which they were put. -/
theorem pairwise_orderedInsert (item : T × α) {items : List (T × α)}
    (h : items.Pairwise (·.1 ≤ ·.1)) :
    (items.orderedInsert (·.1 < ·.1) item).Pairwise (·.1 ≤ ·.1) := by
  induction items with
  | nil => exact List.pairwise_singleton _ _
  | cons first rest ih =>
    obtain ⟨hfirst, hrest⟩ := List.pairwise_cons.mp h
    rw [List.orderedInsert_cons]
    split_ifs with hlt
    · refine List.pairwise_cons.mpr ⟨?_, h⟩
      rintro other (_ | ⟨_, hother⟩)
      · exact hlt.le
      · exact hlt.le.trans (hfirst other hother)
    · refine List.pairwise_cons.mpr ⟨?_, ih hrest⟩
      intro other hother
      rcases (List.mem_orderedInsert _).mp hother with rfl | hother
      · exact not_lt.mp hlt
      · exact hfirst other hother

/-- A message that arrives at a time, behind those that have arrived by then. -/
def put (time : T) (message : α) (m : Mailbox T α) : Mailbox T α where
  items := m.items.orderedInsert (·.1 < ·.1) (time, message)
  sorted := pairwise_orderedInsert _ m.sorted

/-- The first message, if it arrives before the deadline, and what is left. -/
def take (deadline : T) (m : Mailbox T α) : Option (T × α) × Mailbox T α :=
  match m with
  | ⟨[], sorted⟩ => (none, ⟨[], sorted⟩)
  | ⟨first :: rest, sorted⟩ =>
    if first.1 < deadline then (some first, ⟨rest, (List.pairwise_cons.mp sorted).2⟩)
    else (none, ⟨first :: rest, sorted⟩)

variable {m : Mailbox T α} {time deadline : T} {message : α}

@[simp] theorem mem_put {item : T × α} :
    item ∈ (m.put time message).items ↔ item = (time, message) ∨ item ∈ m.items :=
  List.mem_orderedInsert _

/-- A read takes the first message, or there is none before the deadline and it takes nothing. -/
theorem take_cases (deadline : T) (m : Mailbox T α) :
    (∃ item rest, m.take deadline = (some item, rest) ∧ m.items = item :: rest.items ∧
        item.1 < deadline) ∨
      m.take deadline = (none, m) ∧ ∀ item ∈ m.items, deadline ≤ item.1 := by
  obtain ⟨_ | ⟨first, rest⟩, sorted⟩ := m
  · exact .inr ⟨rfl, List.forall_mem_nil _⟩
  · by_cases hlt : first.1 < deadline
    · exact .inl ⟨first, ⟨rest, (List.pairwise_cons.mp sorted).2⟩, if_pos hlt, rfl, hlt⟩
    · refine .inr ⟨if_neg hlt, ?_⟩
      rintro item (_ | ⟨_, hitem⟩)
      · exact not_lt.mp hlt
      · exact (not_lt.mp hlt).trans ((List.pairwise_cons.mp sorted).1 item hitem)

variable (message) in
/-- A message that arrives before all others is the first. -/
theorem put_of_first (h : ∀ item ∈ m.items, time < item.1) :
    (m.put time message).items = (time, message) :: m.items := by
  obtain ⟨_ | ⟨first, rest⟩, sorted⟩ := m
  · rfl
  · have hlt : time < first.1 := h first List.mem_cons_self
    exact if_pos hlt

variable (message) in
/-- A message that does not has another one in front of it. -/
theorem put_of_behind (h : ∃ item ∈ m.items, item.1 ≤ time) :
    ∃ first rest, first ∈ m.items ∧ first.1 ≤ time ∧ (time, message) ∈ rest ∧
      (m.put time message).items = first :: rest := by
  obtain ⟨_ | ⟨first, rest⟩, sorted⟩ := m
  · obtain ⟨item, hitem, -⟩ := h
    exact absurd hitem List.not_mem_nil
  · have hle : first.1 ≤ time := by
      obtain ⟨item, _ | ⟨_, hitem⟩, hitemle⟩ := h
      · exact hitemle
      · exact ((List.pairwise_cons.mp sorted).1 item hitem).trans hitemle
    refine ⟨first, rest.orderedInsert (·.1 < ·.1) (time, message), List.mem_cons_self, hle,
      (List.mem_orderedInsert _).mpr (.inl rfl), ?_⟩
    exact if_neg (not_lt.mpr hle)

end Mailbox
