import Mathlib.Tactic.Common

/-!
# Programs that ask questions

A `Dialogue` asks one question after the other and goes on with the answers, which are not part of
it: they come from any state machine (`run`).  What holds of every question that a dialogue may ask
as long as the answers are what it relies on (`Asks`) holds of all that a run asks (`Asks.log`), and
what the answers to such questions keep is kept by the run (`Asks.keeps`).
-/

namespace Effect

variable {Q : Type} {A : Q → Type} {α β σ : Type}

inductive Dialogue {Q : Type} (A : Q → Type) (α : Type) where
  | done (a : α)
  | ask (q : Q) (next : A q → Dialogue A α)

namespace Dialogue

protected def bind : Dialogue A α → (α → Dialogue A β) → Dialogue A β
  | done a, f => f a
  | ask q next, f => ask q fun answer => (next answer).bind f

instance : Monad (Dialogue A) where
  pure := done
  bind := Dialogue.bind

/-- Ask a question and return the answer. -/
def question (q : Q) : Dialogue A (A q) := ask q done

@[simp] theorem pure_eq (a : α) : (pure a : Dialogue A α) = done a := rfl

@[simp] theorem done_bind (a : α) (f : α → Dialogue A β) : done a >>= f = f a := rfl

@[simp] theorem ask_bind (q : Q) (next : A q → Dialogue A α) (f : α → Dialogue A β) :
    ask q next >>= f = ask q fun answer => next answer >>= f := rfl

@[simp] theorem question_bind (q : Q) (f : A q → Dialogue A β) : question q >>= f = ask q f := rfl

/-! ### What may be asked -/

/-- Every question that may be asked satisfies `W`, if all answers before it satisfy `R`. -/
def Asks (R : (q : Q) → A q → Prop) (W : Q → Prop) : Dialogue A α → Prop
  | done _ => True
  | ask q next => W q ∧ ∀ answer, R q answer → (next answer).Asks R W

variable {R : (q : Q) → A q → Prop} {W : Q → Prop} {m : Dialogue A α} {f : α → Dialogue A β}

theorem asks_done (a : α) : (done a : Dialogue A α).Asks R W := trivial

theorem asks_ask {q : Q} {next : A q → Dialogue A α} (h : W q)
    (hnext : ∀ answer, R q answer → (next answer).Asks R W) : (ask q next).Asks R W := ⟨h, hnext⟩

theorem Asks.bind (hm : m.Asks R W) (hf : ∀ a, (f a).Asks R W) : (m >>= f).Asks R W := by
  induction m with
  | done a => exact hf a
  | ask q next ih => exact ⟨hm.1, fun answer hanswer => ih answer (hm.2 answer hanswer)⟩

/-- Less may be relied on, and more may be asked. -/
theorem Asks.mono {S : (q : Q) → A q → Prop} {V : Q → Prop} (hm : m.Asks R W)
    (hS : ∀ q answer, S q answer → R q answer) (hV : ∀ q, W q → V q) : m.Asks S V := by
  induction m with
  | done a => trivial
  | ask q next ih =>
    exact ⟨hV q hm.1, fun answer hanswer => ih answer (hm.2 answer (hS q answer hanswer))⟩

/-! ### Answers -/

/-- Who answers the questions: a state machine. -/
abbrev Oracle {Q : Type} (A : Q → Type) (σ : Type) : Type := (q : Q) → σ → A q × σ

variable (oracle : Oracle A σ)

/-- How a dialogue ends. -/
def run : Dialogue A α → σ → α × σ
  | done a, s => (a, s)
  | ask q next, s =>
    let r := oracle q s
    (next r.1).run r.2

/-- The questions that are asked. -/
def log : Dialogue A α → σ → List Q
  | done _, _ => []
  | ask q next, s =>
    let r := oracle q s
    q :: (next r.1).log r.2

variable (s : σ)

@[simp] theorem run_done (a : α) : (done a : Dialogue A α).run oracle s = (a, s) := rfl

@[simp] theorem run_ask (q : Q) (next : A q → Dialogue A α) :
    (ask q next).run oracle s = (next (oracle q s).1).run oracle (oracle q s).2 := rfl

@[simp] theorem log_done (a : α) : (done a : Dialogue A α).log oracle s = [] := rfl

@[simp] theorem log_ask (q : Q) (next : A q → Dialogue A α) :
    (ask q next).log oracle s = q :: (next (oracle q s).1).log oracle (oracle q s).2 := rfl

theorem run_bind (m : Dialogue A α) (f : α → Dialogue A β) :
    (m >>= f).run oracle s = (f (m.run oracle s).1).run oracle (m.run oracle s).2 := by
  induction m generalizing s with
  | done a => rfl
  | ask q next ih => exact ih _ _

variable {oracle s}

/-- What a run asks. -/
theorem Asks.log (hm : m.Asks R W) (hR : ∀ q s, R q (oracle q s).1) :
    ∀ q ∈ m.log oracle s, W q := by
  induction m generalizing s with
  | done a => exact fun q hq => absurd hq List.not_mem_nil
  | ask q next ih => exact List.forall_mem_cons.mpr ⟨hm.1, ih _ (hm.2 _ (hR q s))⟩

/-- A run keeps what the answers to its questions keep. -/
theorem Asks.keeps {I : σ → Prop} (hm : m.Asks R W) (hR : ∀ q s, R q (oracle q s).1)
    (h : ∀ q, W q → ∀ s, I s → I (oracle q s).2) (hs : I s) : I (m.run oracle s).2 := by
  induction m generalizing s with
  | done a => exact hs
  | ask q next ih => exact ih _ (hm.2 _ (hR q s)) (h q hm.1 s hs)

end Dialogue

end Effect
