import Mathlib.Algebra.Order.Field.Rat
import Mathlib.Order.MinMax

/-! # Floats, as the detector's code uses them

`Fp α` is a NaN or a number of a linear order `α` (the infinities are numbers like the others, and
the two zeros are one). Comparisons are those of the language: false where one side is a NaN. The
arithmetic is a parameter (`Arith`), so that nothing is assumed about rounding.

* `clamp_eq_num` — a clamped value is a number between the bounds, whatever was clamped.
* `fminf_fmaxf_eq_clamp` — `fminf(hi, fmaxf(lo, x))` is the same as `clamp(x, lo, hi)`, although the
  two pairs of functions treat a NaN differently. -/

namespace DemoColombia.Detector

/-- A float. -/
inductive Fp (α : Type*)
  | nan
  | num (x : α)
  deriving DecidableEq

variable {α : Type*} [LinearOrder α]

namespace Fp

/-- `a < b`. -/
def lt : Fp α → Fp α → Bool
  | num x, num y => x < y
  | _, _ => false

/-- `std::max`: the first, unless it is less than the second. -/
def std_max (a b : Fp α) : Fp α := if a.lt b then b else a

/-- `std::min`: the first, unless the second is less. -/
def std_min (a b : Fp α) : Fp α := if b.lt a then b else a

/-- `fmaxf`: where one is a NaN, the other. -/
def fmaxf : Fp α → Fp α → Fp α
  | num x, num y => num (max x y)
  | nan, b => b
  | a, nan => a

/-- `fminf`: where one is a NaN, the other. -/
def fminf : Fp α → Fp α → Fp α
  | num x, num y => num (min x y)
  | nan, b => b
  | a, nan => a

/-- `clamp`; its assertion is `minVal <= maxVal`. -/
def clamp (val minVal maxVal : Fp α) : Fp α := std_min maxVal (std_max minVal val)

@[simp] theorem lt_num (x y : α) : (num x).lt (num y) = decide (x < y) := rfl

@[simp] theorem lt_nan (a : Fp α) : a.lt nan = false := by
  cases a <;> rfl

@[simp] theorem nan_lt (b : Fp α) : nan.lt b = false := rfl

/-- What is less than something is a number. -/
theorem eq_num_of_lt {a b : Fp α} (h : a.lt b = true) : ∃ x y, a = num x ∧ b = num y ∧ x < y := by
  cases a with
  | nan => cases h
  | num x => cases b with
    | nan => cases h
    | num y => exact ⟨x, y, rfl, rfl, of_decide_eq_true h⟩

/-- What is not above a number is not above a greater one. -/
theorem lt_eq_false_of_lt {x y : α} {b : Fp α} (h : (num x).lt b = false) (hxy : x < y) :
    (num y).lt b = false := by
  cases b with
  | nan => rfl
  | num z =>
    rw [lt_num, decide_eq_false_iff_not, not_lt] at h ⊢
    exact h.trans hxy.le

/-- `std::max` of two numbers. -/
theorem std_max_num (x y : α) : std_max (num x) (num y) = num (max x y) := by
  rcases lt_or_ge x y with h | h
  · simp [std_max, h, max_eq_right h.le]
  · simp [std_max, not_lt.mpr h, max_eq_left h]

/-- `std::min` of two numbers. -/
theorem std_min_num (x y : α) : std_min (num x) (num y) = num (min x y) := by
  rcases lt_or_ge y x with h | h
  · simp [std_min, h, min_eq_right h.le]
  · simp [std_min, not_lt.mpr h, min_eq_left h]

/-- A NaN is clamped to the lower bound. -/
theorem clamp_nan {lo hi : α} (h : lo ≤ hi) : clamp nan (num lo) (num hi) = num lo := by
  have hmax : std_max (num lo) nan = num lo := rfl
  rw [clamp, hmax, std_min_num, min_eq_right h]

theorem clamp_num (x lo hi : α) :
    clamp (num x) (num lo) (num hi) = num (min hi (max lo x)) := by
  rw [clamp, std_max_num, std_min_num]

/-- **A clamped value is a number between the bounds.** -/
theorem clamp_eq_num (a : Fp α) {lo hi : α} (h : lo ≤ hi) :
    ∃ c, clamp a (num lo) (num hi) = num c ∧ lo ≤ c ∧ c ≤ hi := by
  cases a with
  | nan => exact ⟨lo, clamp_nan h, le_rfl, h⟩
  | num x =>
    exact ⟨_, clamp_num x lo hi, le_min h (le_max_left lo x), min_le_left hi (max lo x)⟩

/-- **Both ways of clamping agree**, NaN included. -/
theorem fminf_fmaxf_eq_clamp (a : Fp α) {lo hi : α} (h : lo ≤ hi) :
    fminf (num hi) (fmaxf (num lo) a) = clamp a (num lo) (num hi) := by
  cases a with
  | nan =>
    rw [clamp_nan h]
    show num (min hi lo) = num lo
    rw [min_eq_right h]
  | num x =>
    rw [clamp_num]
    rfl

end Fp

/-- The arithmetic of floats: any functions, except that the conversion of an unsigned integer is a
number and not negative. -/
structure Arith (α : Type*) [LinearOrder α] [Zero α] where
  add : Fp α → Fp α → Fp α
  sub : Fp α → Fp α → Fp α
  mul : Fp α → Fp α → Fp α
  div : Fp α → Fp α → Fp α
  neg : Fp α → Fp α
  expf : Fp α → Fp α
  powf : Fp α → Fp α → Fp α
  /-- A constant of the program. -/
  lit : ℚ → Fp α
  /-- `-INFINITY`. -/
  negInf : Fp α
  /-- The conversion of an unsigned integer. -/
  ofUint : ℕ → α
  ofUint_nonneg : ∀ n, 0 ≤ ofUint n
  /-- The conversion of an `int`. -/
  ofInt : Int32 → Fp α
  /-- The conversion to `int`. -/
  toInt : Fp α → Int32

/-- An operation on numbers, a NaN where one argument is a NaN. -/
def Fp.lift₂ {β : Type*} (f : β → β → Fp β) : Fp β → Fp β → Fp β
  | .num x, .num y => f x y
  | _, _ => .nan

/-- Exact arithmetic on the rationals, which have no infinity, for concrete runs. -/
def Arith.rational (expf : Fp ℚ → Fp ℚ) (powf : Fp ℚ → Fp ℚ → Fp ℚ) : Arith ℚ where
  add := Fp.lift₂ fun x y => .num (x + y)
  sub := Fp.lift₂ fun x y => .num (x - y)
  mul := Fp.lift₂ fun x y => .num (x * y)
  div := Fp.lift₂ fun x y => if y = 0 then .nan else .num (x / y)
  neg
    | .nan => .nan
    | .num x => .num (-x)
  expf := expf
  powf := powf
  lit := .num
  negInf := .nan
  ofUint n := n
  ofUint_nonneg n := Nat.cast_nonneg n
  ofInt i := .num i.toInt
  toInt
    | .nan => 0
    | .num x => .ofInt (x.num.tdiv x.den)

end DemoColombia.Detector
