import Mathlib.Data.Rat.Cast.OfScientific
import ValOpt.Benchmarking.Stats

/-!
# The incomplete beta function

`regularized_incomplete_beta` of `benchmarking/stats.rs`, and the tests that make a p-value of it.
The function calls itself, and nothing bounds the number of calls.  So the functions here have a
stack that holds a given number of its calls, and `none` stands for an overflow.  The tests are
those of `Stats`, with a p-value that may overflow the stack.
-/

namespace ValOpt

/-- The functions of a number that a field does not have. -/
structure Elementary (K : Type) where
  exp : K → K
  ln : K → K
  pi : K

section

variable {K : Type} [Field K] [LinearOrder K]

/-! ### The Gamma function -/

/-- The coefficients of the Lanczos approximation. -/
def lanczosP : List K :=
  [0.99999999999980993, 676.5203681218851, -1259.1392167224028, 771.32342877765313,
    -176.61502916214059, 12.507343278686905, -0.13857109526572012, 9.9843695780195716e-6,
    1.5056327351493116e-7]

/-- `ln_gamma`. -/
def lnGamma (el : Elementary K) (z : K) : K :=
  if z ≤ 0 then 0
  else
    let x := (List.range' 1 8).foldl (fun x i => x + lanczosP.getD i 0 / (z + i - 1))
      (lanczosP.getD 0 0)
    let t := z + 7 - 0.5
    0.5 * el.ln (2 * el.pi) + (z - 0.5) * el.ln t - t + el.ln x

/-! ### The continued fraction -/

/-- `eps`. -/
def lentzEps : K := 1e-15

/-- A divisor that is too small is replaced. -/
def awayFromZero (v : K) : K := if |v| < lentzEps then lentzEps else v

/-- The variables of Lentz's method. -/
structure Lentz (K : Type) where
  c : K
  d : K
  h : K

/-- The variables before the loop. -/
def Lentz.start (a b x : K) : Lentz K :=
  let d := 1 / awayFromZero (1 - (a + b) * x / (a + 1))
  ⟨1, d, d⟩

/-- The factor that the last step has put to the product. -/
def Lentz.delta (s : Lentz K) : K := s.d * s.c

/-- A step, with the numerator of the next fraction. -/
def Lentz.step (num : K) (s : Lentz K) : Lentz K :=
  let d := awayFromZero (1 + num * s.d)
  let c := awayFromZero (1 + num / s.c)
  let d := 1 / d
  ⟨c, d, s.h * (d * c)⟩

/-- One round: an even step and an odd step. -/
def lentzRound (a b x : K) (m : ℕ) (s : Lentz K) : Lentz K :=
  let mf : K := m
  let numEven := -(a + mf) * (a + b + mf) * x / ((a + 2 * mf) * (a + 2 * mf + 1))
  let numOdd := mf * (b - mf) * x / ((a + 2 * mf - 1) * (a + 2 * mf))
  (s.step numEven).step numOdd

/-- The loop from the round `m` on.  It ends early if the last factor is close to one. -/
def lentzLoop (a b x : K) : ℕ → ℕ → Lentz K → Lentz K
  | 0, _, s => s
  | rounds + 1, m, s =>
    let s := lentzRound a b x m s
    if |s.delta - 1| < lentzEps then s else lentzLoop a b x rounds (m + 1) s

/-- The value of the continued fraction, after at most 200 rounds. -/
def continuedFraction (a b x : K) : K := (lentzLoop a b x 200 1 (Lentz.start a b x)).h

/-- The factor before the continued fraction. -/
def betaFront (el : Elementary K) (a b x : K) : K :=
  let lbeta := lnGamma el (a + b) - lnGamma el a - lnGamma el b
  el.exp (lbeta + a * el.ln x + b * el.ln (1 - x)) / a

/-! ### Calls on a stack -/

namespace Stack

/-- `regularized_incomplete_beta`, with room for `depth` calls. -/
def regularizedIncompleteBeta (el : Elementary K) : ℕ → K → K → K → Option K
  | 0, _, _, _ => none
  | depth + 1, a, b, x =>
    if x ≤ 0 then some 0
    else if 1 ≤ x then some 1
    else if (a + 1) / (a + b + 2) < x then do
      let p ← regularizedIncompleteBeta el depth b a (1 - x)
      some (1 - p)
    else some (betaFront el a b x * continuedFraction a b x)

/-- `compute_t_distribution_two_tailed_p`. -/
def computeTDistributionTwoTailedP (el : Elementary K) (depth : ℕ) (t df : K) :
    Option (Extended K) :=
  tDistributionP (fun a b x => (regularizedIncompleteBeta el depth a b x).map .finite) t df

/-- `welch_t_test`. -/
def welchTTest (num : Numerics K) (el : Elementary K) (depth : ℕ) (sampleA sampleB : List K) :
    Option (Except String (Extended K × K × Extended K)) :=
  welchTTestWith num (computeTDistributionTwoTailedP el depth) sampleA sampleB

/-- `paired_t_test`. -/
def pairedTTest (num : Numerics K) (el : Elementary K) (depth : ℕ) (sampleA sampleB : List K) :
    Option (Except String (Extended K × K × Extended K)) :=
  pairedTTestWith num (computeTDistributionTwoTailedP el depth) sampleA sampleB

/-- `levene_variance_test`. -/
def leveneVarianceTest [FloorSemiring K] (num : Numerics K) (el : Elementary K) (depth : ℕ)
    (sampleA sampleB : List K) : Option (Except String (K × Extended K)) :=
  leveneVarianceTestWith num (computeTDistributionTwoTailedP el depth) sampleA sampleB

end Stack

end

/-- The functions of the tests with the incomplete beta function of the source, on a stack that
holds two calls of it; NaN stands for an overflow. -/
def Numerics.withBeta {K : Type} [Field K] [LinearOrder K] (num : Numerics K)
    (el : Elementary K) : Numerics K :=
  match num with
  | ⟨sqrt, sqrt_zero, sqrt_pos, _, standardNormalCdf, toFixed2⟩ =>
    { sqrt
      sqrt_zero
      sqrt_pos
      regularizedIncompleteBeta := fun a b x =>
        match Stack.regularizedIncompleteBeta el 2 a b x with
        | some p => .finite p
        | none => .nan
      standardNormalCdf
      toFixed2 }

end ValOpt
