import Mathlib.Tactic.Common
import Mathlib.Algebra.Order.Ring.Rat
import Mathlib.Algebra.Order.Ring.Cast

/-! # Numbers

The values of the JavaScript type `number`, up to the sign of zero: a finite value is a rational. -/

namespace TicTacToe

/-- A number, infinite value or `NaN`. -/
inductive JsNumber where
  | finite (q : ℚ)
  | infinite (negative : Bool)
  | nan
  deriving DecidableEq

namespace JsNumber

/-- `Number.isFinite`. -/
def isFinite : JsNumber → Bool
  | finite _ => true
  | infinite _ => false
  | nan => false

/-- `Number.isInteger`. -/
def isInteger : JsNumber → Bool
  | finite q => q.den == 1
  | infinite _ => false
  | nan => false

/-- The comparison `a <= b`, false when either side is `NaN`. -/
def le : JsNumber → JsNumber → Bool
  | nan, _ => false
  | _, nan => false
  | infinite true, _ => true
  | _, infinite false => true
  | finite p, finite q => decide (p ≤ q)
  | _, _ => false

/-- The comparison `a < b`, false when either side is `NaN`. -/
def lt : JsNumber → JsNumber → Bool
  | nan, _ => false
  | _, nan => false
  | infinite true, infinite negative => !negative
  | infinite true, finite _ => true
  | infinite false, _ => false
  | finite _, infinite negative => !negative
  | finite p, finite q => decide (p < q)

def ofNat (n : Nat) : JsNumber := finite n

theorem isFinite_of_isInteger {x : JsNumber} (h : x.isInteger = true) : x.isFinite = true := by
  cases x with
  | finite q => rfl
  | infinite | nan => cases h

@[simp] theorem isInteger_nat (n : Nat) : (ofNat n).isInteger = true := by simp [ofNat, isInteger]

@[simp] theorem nat_le (m n : Nat) : (ofNat m).le (ofNat n) = decide (m ≤ n) := by simp [ofNat, le]

theorem zero_lt_int (n : Int) : (ofNat 0).lt (finite n) = decide (0 < n) := by simp [ofNat, lt]

/-- An integer that is not negative and at most two. -/
theorem eq_of_le_two {x : JsNumber} (hint : x.isInteger = true) (hlo : x.lt (ofNat 0) = false)
    (hhi : (ofNat 2).lt x = false) : x = ofNat 0 ∨ x = ofNat 1 ∨ x = ofNat 2 := by
  cases x with
  | infinite | nan => cases hint
  | finite q =>
    have hq : q = q.num := (Rat.coe_int_num_of_den_eq_one (by simpa [isInteger] using hint)).symm
    rw [hq] at hlo hhi ⊢
    simp only [ofNat, lt, decide_eq_false_iff_not, not_lt, Nat.cast_ofNat, Nat.cast_zero, Int.cast_nonneg_iff] at hlo hhi
    have hle : q.num ≤ 2 := by
      rw [← Int.cast_le (R := ℚ), Int.cast_ofNat]
      exact hhi
    obtain h | h | h : q.num = 0 ∨ q.num = 1 ∨ q.num = 2 := by omega
    · exact Or.inl (by simp [ofNat, h])
    · exact Or.inr (Or.inl (by simp [ofNat, h]))
    · exact Or.inr (Or.inr (by simp [ofNat, h]))

end JsNumber
end TicTacToe
