import Mathlib.Tactic.Common
import Mathlib.Data.Nat.Bitwise

/-!
# Support — Words

A machine word read as a row of fields of `w` bits, field `0` the lowest.  The fields of a
disjunction are the disjunctions of the fields (`field_or`), a value shifted to field `j` is
found there and nowhere else (`field_shiftLeft`), and the fields determine the word
(`eq_of_field_eq`).  `shiftLeft_or`: a field joins the ones above it.
-/

namespace Support.Words

/-- Field `i` of `x`, in fields of `w` bits. -/
def field (w i x : Nat) : Nat := x >>> (w * i) % 2 ^ w

@[simp] theorem field_zero (w i : Nat) : field w i 0 = 0 := by simp [field]

theorem testBit_field (w i x k : Nat) :
    (field w i x).testBit k = (decide (k < w) && x.testBit (w * i + k)) := by
  simp [field, Nat.testBit_mod_two_pow, Nat.testBit_shiftRight]

theorem field_or (w i x y : Nat) : field w i (x ||| y) = field w i x ||| field w i y := by
  refine Nat.eq_of_testBit_eq fun k => ?_
  simp only [testBit_field, Nat.testBit_or]
  cases decide (k < w) <;> simp

/-- A value of one field, shifted to field `j`. -/
theorem field_shiftLeft {w v : Nat} (hv : v < 2 ^ w) (i j : Nat) :
    field w i (v <<< (w * j)) = if i = j then v else 0 := by
  refine Nat.eq_of_testBit_eq fun k => ?_
  rw [testBit_field, Nat.testBit_shiftLeft]
  have high : ∀ m, w ≤ m → v.testBit m = false := fun m hm =>
    Nat.testBit_lt_two_pow (hv.trans_le (Nat.pow_le_pow_right (by decide) hm))
  rcases Nat.lt_trichotomy i j with h | h | h
  · have : w * (i + 1) ≤ w * j := Nat.mul_le_mul_left w h
    rw [Nat.mul_succ] at this
    rw [if_neg (by omega)]
    by_cases hk : k < w
    · simp [show ¬ w * j ≤ w * i + k by omega]
    · simp [hk]
  · subst h
    rw [if_pos rfl]
    by_cases hk : k < w
    · simp [hk]
    · simp [hk, high k (by omega)]
  · have : w * (j + 1) ≤ w * i := Nat.mul_le_mul_left w h
    rw [Nat.mul_succ] at this
    rw [if_neg (by omega), high _ (by omega)]
    simp

/-- A field joins the ones above it, which are shifted to make room. -/
theorem shiftLeft_or {w v : Nat} (hv : v < 2 ^ w) (x j : Nat) :
    x <<< (w + j) ||| v <<< j = (x * 2 ^ w + v) <<< j := by
  rw [Nat.shiftLeft_add, ← Nat.shiftLeft_or_distrib, ← Nat.shiftLeft_add_eq_or_of_lt hv,
    Nat.shiftLeft_eq x]

/-- A word of `n` fields is determined by them. -/
theorem eq_of_field_eq {w n x y : Nat} (hw : 0 < w) (hx : x < 2 ^ (w * n)) (hy : y < 2 ^ (w * n))
    (h : ∀ i < n, field w i x = field w i y) : x = y := by
  refine Nat.eq_of_testBit_eq fun k => ?_
  by_cases hk : k < w * n
  · have hi : k / w < n := Nat.div_lt_of_lt_mul hk
    have := congrArg (fun v => v.testBit (k % w)) (h _ hi)
    simpa [testBit_field, Nat.mod_lt k hw, Nat.div_add_mod] using this
  · have : 2 ^ (w * n) ≤ 2 ^ k := Nat.pow_le_pow_right (by decide) (by omega)
    rw [Nat.testBit_lt_two_pow (by omega), Nat.testBit_lt_two_pow (by omega)]

end Support.Words
