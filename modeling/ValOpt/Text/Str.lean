import Mathlib.Data.List.Infix
import Mathlib.Data.List.TakeWhile
import Mathlib.Tactic.Common

/-!
# String operations of the Rust standard library

Strings are handled as their lists of characters.  `trimMatches` cuts a class of characters off
both ends, `eqIgnoreAsciiCase` compares up to the case of the letters `A`–`Z`, and
`containsStr` looks for a substring.
-/

namespace Text

/-- The Unicode `White_Space` property, which `str::trim` cuts off. -/
def isWhitespace (c : Char) : Bool :=
  let n := c.toNat
  (9 ≤ n && n ≤ 13) || n == 0x20 || n == 0x85 || n == 0xA0 || n == 0x1680 ||
    (0x2000 ≤ n && n ≤ 0x200A) || n == 0x2028 || n == 0x2029 || n == 0x202F || n == 0x205F ||
    n == 0x3000

/-- `str::trim_matches`: drop the characters with `p` from both ends. -/
def trimMatches (p : Char → Bool) (s : List Char) : List Char :=
  ((s.dropWhile p).reverse.dropWhile p).reverse

/-- A text without any character of the class loses nothing. -/
theorem trimMatches_eq_self {p : Char → Bool} {s : List Char} (h : ∀ c ∈ s, p c = false) :
    trimMatches p s = s := by
  have hdrop : ∀ l : List Char, (∀ c ∈ l, p c = false) → l.dropWhile p = l := by
    intro l hl
    rw [List.dropWhile_eq_self_iff]
    intro hlen
    simp [hl _ (List.getElem_mem hlen)]
  unfold trimMatches
  rw [hdrop s h, hdrop s.reverse (by simpa using h), List.reverse_reverse]

/-- What follows a text that ends in no character of the class is cut off, if it is of the class. -/
theorem trimMatches_append {p : Char → Bool} {s ws : List Char}
    (hhead : ∀ c ∈ s.head?, p c = false) (hlast : ∀ c ∈ s.getLast?, p c = false)
    (hws : ∀ c ∈ ws, p c = true) : trimMatches p (s ++ ws) = s := by
  have hdrop : ∀ l : List Char, (∀ c ∈ l.head?, p c = false) → l.dropWhile p = l := by
    intro l hl
    cases l with
    | nil => rfl
    | cons c t => rw [List.dropWhile_cons_of_neg (by simp [hl c rfl])]
  have hfront : (s ++ ws).dropWhile p = s ++ ws ∨ s = [] := by
    cases s with
    | nil => exact Or.inr rfl
    | cons c t => exact Or.inl (hdrop _ hhead)
  have hback : (ws.reverse ++ s.reverse).dropWhile p = s.reverse := by
    rw [List.dropWhile_append_of_pos (by simpa using hws)]
    exact hdrop _ (by simpa [List.head?_reverse] using hlast)
  unfold trimMatches
  rcases hfront with hfront | rfl
  · rw [hfront, List.reverse_append, hback, List.reverse_reverse]
  · have hall : ws.dropWhile p = [] := List.dropWhile_eq_nil_iff.mpr hws
    rw [List.nil_append, hall]
    rfl

/-- A text that starts with no character of the class keeps a first part. -/
theorem trimMatches_prefix {p : Char → Bool} {s : List Char}
    (hhead : ∀ c ∈ s.head?, p c = false) : trimMatches p s <+: s := by
  have hfront : s.dropWhile p = s := by
    cases s with
    | nil => rfl
    | cons c t => rw [List.dropWhile_cons_of_neg (by simp [hhead c rfl])]
  unfold trimMatches
  rw [hfront, ← List.reverse_suffix, List.reverse_reverse]
  exact List.dropWhile_suffix p

/-- A joined text consists of the separator and the parts. -/
theorem mem_intercalate {sep : List Char} {parts : List (List Char)} {c : Char}
    (h : c ∈ sep.intercalate parts) : c ∈ sep ∨ ∃ l ∈ parts, c ∈ l := by
  induction parts with
  | nil => simp at h
  | cons l parts ih =>
    cases parts with
    | nil => exact Or.inr ⟨l, List.mem_cons_self, by simpa using h⟩
    | cons l' parts =>
      rw [List.intercalate_cons_cons, List.mem_append, List.mem_append] at h
      rcases h with (h | h) | h
      · exact Or.inr ⟨l, List.mem_cons_self, h⟩
      · exact Or.inl h
      · rcases ih h with h | ⟨m, hm, hc⟩
        · exact Or.inl h
        · exact Or.inr ⟨m, List.mem_cons_of_mem _ hm, hc⟩

/-- A test of all characters of a text, one after the other. -/
theorem forall_mem_of_all {s : List Char} {P : Char → Prop} [DecidablePred P]
    (h : s.all (fun c => decide (P c)) = true) : ∀ c ∈ s, P c := by
  intro c hc
  exact of_decide_eq_true (List.all_eq_true.mp h c hc)

/-- `str::to_ascii_lowercase`. -/
def asciiLower (s : String) : List Char := s.toList.map Char.toLower

/-- `str::eq_ignore_ascii_case`. -/
def eqIgnoreAsciiCase (s t : String) : Bool := asciiLower s == asciiLower t

theorem eqIgnoreAsciiCase_iff {s t : String} :
    eqIgnoreAsciiCase s t = true ↔ asciiLower s = asciiLower t := by
  simp [eqIgnoreAsciiCase]

@[simp] theorem eqIgnoreAsciiCase_self (s : String) : eqIgnoreAsciiCase s s = true := by
  simp [eqIgnoreAsciiCase]

/-- `str::contains` for a literal. -/
def containsStr (s sub : String) : Bool := decide (sub.toList <:+: s.toList)

theorem containsStr_iff {s sub : String} :
    containsStr s sub = true ↔ sub.toList <:+: s.toList := by
  rw [containsStr, decide_eq_true_eq]

end Text
