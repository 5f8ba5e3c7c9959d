import Mathlib.Tactic.Common
import Mathlib.Tactic.Ring
import Mathlib.Data.List.TakeWhile
import Mathlib.Data.Nat.Bitwise

/-!
# Support — Blocks

The numbers of `w` bits, cut into aligned blocks of `2 ^ h` numbers: `m` and `n` are in one block
when `m / 2 ^ h = n / 2 ^ h`.

* `ones w k`: the number whose first `k` of `w` bits are set, and no other.  Masking with it gives
  the first number of a block (`and_ones`), filling its zeros gives the last one
  (`or_zeros_ones`), and a block is what lies between the two (`same_block_iff`).
* `LeadsWith w n k`: `n` has `k` ones before its first zero.  `LeadsWith.append` is for a number
  made of two words.
-/

namespace Support.Blocks

/-! ### Masks -/

/-- `k` ones, then `w - k` zeros. -/
def ones (w k : Nat) : Nat := 2 ^ w - 2 ^ (w - k)

theorem two_pow_sub_le (w k : Nat) : 2 ^ (w - k) ≤ 2 ^ w :=
  Nat.pow_le_pow_right (by decide) (Nat.sub_le w k)

theorem testBit_ones {w k : Nat} (hk : k ≤ w) (i : Nat) :
    (ones w k).testBit i = decide (w - k ≤ i ∧ i < w) := by
  have split : ones w k = (2 ^ k - 1) * 2 ^ (w - k) := by
    rw [ones, Nat.sub_mul, Nat.one_mul, ← pow_add, Nat.add_sub_cancel' hk]
  rw [split, Nat.testBit_mul_two_pow, Nat.testBit_two_pow_sub_one, ← Bool.decide_and,
    decide_eq_decide]
  omega

/-- Wider masks are greater. -/
theorem ones_le_ones_iff {w j k : Nat} (hj : j ≤ w) (hk : k ≤ w) :
    ones w j ≤ ones w k ↔ j ≤ k := by
  have hj' := two_pow_sub_le w j
  have hk' := two_pow_sub_le w k
  have exponents : 2 ^ (w - k) ≤ 2 ^ (w - j) ↔ w - k ≤ w - j :=
    Nat.pow_le_pow_iff_right (by decide)
  rw [ones, ones]
  constructor
  · intro h
    have := exponents.mp (by omega)
    omega
  · intro h
    have := exponents.mpr (by omega)
    omega

theorem ones_inj {w j k : Nat} (hj : j ≤ w) (hk : k ≤ w) (h : ones w j = ones w k) : j = k :=
  Nat.le_antisymm ((ones_le_ones_iff hj hk).mp h.le) ((ones_le_ones_iff hk hj).mp h.ge)

/-- A number of `w` bits is a mask when its bits are those of one. -/
theorem eq_ones {w k n : Nat} (hk : k ≤ w) (hn : n < 2 ^ w)
    (h : ∀ i < w, n.testBit i = decide (w - k ≤ i)) : n = ones w k := by
  refine Nat.eq_of_testBit_eq fun i => ?_
  rw [testBit_ones hk]
  by_cases hi : i < w
  · rw [h i hi, decide_eq_decide]
    exact (and_iff_left hi).symm
  · rw [Nat.testBit_lt_two_pow (hn.trans_le (Nat.pow_le_pow_right (by decide) (by omega)))]
    simp [hi]

/-- **Masking** gives the first number of the block. -/
theorem and_ones {w k n : Nat} (hk : k ≤ w) (hn : n < 2 ^ w) :
    n &&& ones w k = n / 2 ^ (w - k) * 2 ^ (w - k) := by
  refine Nat.eq_of_testBit_eq fun i => ?_
  rw [Nat.testBit_and, testBit_ones hk, Nat.testBit_mul_two_pow, Nat.testBit_div_two_pow]
  by_cases hi : i < w
  · by_cases hki : w - k ≤ i
    · simp [hi, hki, Nat.sub_add_cancel hki]
    · simp [hki]
  · have high : n.testBit i = false :=
      Nat.testBit_lt_two_pow (hn.trans_le (Nat.pow_le_pow_right (by decide) (by omega)))
    by_cases hki : w - k ≤ i
    · simp [high, Nat.sub_add_cancel hki]
    · simp [hki]

/-- **Filling** the zeros of the mask gives the last number of the block. -/
theorem or_zeros_ones (w k n : Nat) :
    n ||| (2 ^ w - 1 - ones w k) = n / 2 ^ (w - k) * 2 ^ (w - k) + (2 ^ (w - k) - 1) := by
  have low : 2 ^ w - 1 - ones w k = 2 ^ (w - k) - 1 := by
    have := two_pow_sub_le w k
    have := Nat.two_pow_pos (w - k)
    rw [ones]
    omega
  rw [low]
  refine Nat.eq_of_testBit_eq fun i => ?_
  rw [Nat.testBit_or, Nat.testBit_two_pow_sub_one, Nat.mul_comm,
    Nat.testBit_two_pow_mul_add _ (Nat.sub_lt (Nat.two_pow_pos _) Nat.one_pos),
    Nat.testBit_two_pow_sub_one, Nat.testBit_div_two_pow]
  by_cases hi : i < w - k
  · simp [hi]
  · rw [if_neg hi, Nat.sub_add_cancel (Nat.not_lt.mp hi)]
    simp [hi]

/-! ### Blocks -/

/-- **A block** lies between its first and its last number. -/
theorem same_block_iff {h m n : Nat} : m / 2 ^ h = n / 2 ^ h ↔
    n / 2 ^ h * 2 ^ h ≤ m ∧ m ≤ n / 2 ^ h * 2 ^ h + (2 ^ h - 1) := by
  have pos := Nat.two_pow_pos h
  rw [Nat.div_eq_iff pos]
  have : n / 2 ^ h * 2 ^ h + 2 ^ h - 1 = n / 2 ^ h * 2 ^ h + (2 ^ h - 1) := by omega
  rw [this]

theorem block_le (h n : Nat) : n / 2 ^ h * 2 ^ h ≤ n := Nat.div_mul_le_self _ _

theorem le_block (h n : Nat) : n ≤ n / 2 ^ h * 2 ^ h + (2 ^ h - 1) := (same_block_iff.mp rfl).2

/-- The last number of a block of `w`-bit numbers has `w` bits. -/
theorem block_lt {w h n : Nat} (hh : h ≤ w) (hn : n < 2 ^ w) :
    n / 2 ^ h * 2 ^ h + (2 ^ h - 1) < 2 ^ w := by
  have split : 2 ^ w = 2 ^ (w - h) * 2 ^ h := by rw [← pow_add, Nat.sub_add_cancel hh]
  have block : n / 2 ^ h + 1 ≤ 2 ^ (w - h) := Nat.div_lt_of_lt_mul (by rwa [Nat.mul_comm, ← split])
  have := Nat.mul_le_mul_right (2 ^ h) block
  have := Nat.two_pow_pos h
  rw [Nat.add_mul, Nat.one_mul, ← split] at *
  omega

/-- A block lies in the greater block around it. -/
theorem same_block_mono {h j m n : Nat} (hhj : h ≤ j) (hmn : m / 2 ^ h = n / 2 ^ h) :
    m / 2 ^ j = n / 2 ^ j := by
  obtain ⟨d, rfl⟩ := Nat.exists_eq_add_of_le hhj
  rw [pow_add, ← Nat.div_div_eq_div_mul, hmn, Nat.div_div_eq_div_mul]

/-- Each block of `2 ^ h` numbers in the block of `2 ^ (h + 1)` numbers around `n` is met. -/
theorem exists_sibling {h n c : Nat} (hc : c / 2 = n / 2 ^ h / 2) :
    ∃ x, x / 2 ^ h = c ∧ x / 2 ^ (h + 1) = n / 2 ^ (h + 1) := by
  have pos := Nat.two_pow_pos h
  refine ⟨c * 2 ^ h, Nat.mul_div_cancel _ pos, ?_⟩
  rw [pow_succ, ← Nat.div_div_eq_div_mul, ← Nat.div_div_eq_div_mul, Nat.mul_div_cancel _ pos, hc]

/-! ### Leading ones -/

/-- `n` has, among its `w` bits, `k` ones before the first zero. -/
structure LeadsWith (w n k : Nat) : Prop where
  le : k ≤ w
  ones : ∀ i, w - k ≤ i → i < w → n.testBit i = true
  stop : k < w → n.testBit (w - 1 - k) = false

theorem LeadsWith.zero {w n : Nat} (h : n.testBit w = false) : LeadsWith (w + 1) n 0 where
  le := Nat.zero_le _
  ones i hi hi' := by omega
  stop _ := h

theorem LeadsWith.succ {w n k : Nat} (h : LeadsWith w n k) (hw : n.testBit w = true) :
    LeadsWith (w + 1) n (k + 1) where
  le := Nat.succ_le_succ h.le
  ones i hi hi' := by
    rcases Nat.eq_or_lt_of_le (Nat.le_of_lt_succ hi') with rfl | hlt
    · exact hw
    · exact h.ones i (by omega) hlt
  stop hk := by
    have := h.stop (Nat.lt_of_succ_lt_succ hk)
    rwa [show w + 1 - 1 - (k + 1) = w - 1 - k by omega]

theorem LeadsWith.unique {w n j k : Nat} (hj : LeadsWith w n j) (hk : LeadsWith w n k) :
    j = k := by
  have less : ∀ {j k : Nat}, LeadsWith w n j → LeadsWith w n k → ¬ j < k := by
    intro j k hj hk hlt
    have stop := hj.stop (hlt.trans_le hk.le)
    have := hk.le
    rw [hk.ones _ (by omega) (by omega)] at stop
    cases stop
  exact Nat.le_antisymm (Nat.not_lt.mp (less hk hj)) (Nat.not_lt.mp (less hj hk))

/-- The mask of `k` ones leads with them. -/
theorem leadsWith_ones {w k : Nat} (hk : k ≤ w) : LeadsWith w (ones w k) k where
  le := hk
  ones i hi hi' := by
    rw [testBit_ones hk]
    exact decide_eq_true ⟨hi, hi'⟩
  stop h := by
    rw [testBit_ones hk]
    exact decide_eq_false (by omega)

/-- The bits of a number of two words. -/
theorem testBit_two_words {w x y : Nat} (hy : y < 2 ^ w) (i : Nat) :
    (x * 2 ^ w + y).testBit i = if i < w then y.testBit i else x.testBit (i - w) := by
  rw [Nat.mul_comm, Nat.testBit_two_pow_mul_add _ hy]

/-- **Two words**: the ones of the second word count when the first one is full. -/
theorem LeadsWith.append {v w x y j k : Nat} (hy : y < 2 ^ w) (hx : LeadsWith v x j)
    (hyk : LeadsWith w y k) : LeadsWith (v + w) (x * 2 ^ w + y) (if j = v then v + k else j) := by
  have hj := hx.le
  have hk := hyk.le
  split
  · rename_i full
    refine ⟨by omega, fun i hi hi' => ?_, fun hlt => ?_⟩
    · rw [testBit_two_words hy]
      split
      · exact hyk.ones i (by omega) ‹_›
      · exact hx.ones _ (by omega) (by omega)
    · rw [testBit_two_words hy, if_pos (by omega), show v + w - 1 - (v + k) = w - 1 - k by omega]
      exact hyk.stop (by omega)
  · rename_i hne
    refine ⟨by omega, fun i hi hi' => ?_, fun _ => ?_⟩
    · rw [testBit_two_words hy, if_neg (by omega)]
      exact hx.ones _ (by omega) (by omega)
    · rw [testBit_two_words hy, if_neg (by omega), show v + w - 1 - j - w = v - 1 - j by omega]
      exact hx.stop (by omega)

/-- The ones at the start of the list of the bits. -/
theorem leadsWith_takeWhile (w n : Nat) :
    LeadsWith w n ((List.range w).takeWhile fun i => n.testBit (w - 1 - i)).length := by
  generalize hp : (fun i => n.testBit (w - 1 - i)) = p
  have bit : ∀ i, n.testBit (w - 1 - i) = p i := fun i => congrFun hp i
  have parts := List.takeWhile_append_dropWhile (p := p) (l := List.range w)
  generalize hones : (List.range w).takeWhile p = front at parts
  generalize hrest : (List.range w).dropWhile p = rest at parts
  have length := congrArg List.length parts
  rw [List.length_append, List.length_range] at length
  refine ⟨by omega, fun i hi hi' => ?_, fun hlt => ?_⟩
  · have get : front[w - 1 - i]? = some (w - 1 - i) := by
      have := congrArg (·[w - 1 - i]?) parts
      simp only [List.getElem?_range (show w - 1 - i < w by omega)] at this
      rwa [List.getElem?_append_left (by omega)] at this
    have mem := List.mem_of_getElem? get
    rw [← hones] at mem
    have := bit (w - 1 - i)
    rw [show w - 1 - (w - 1 - i) = i by omega] at this
    rw [this]
    exact List.mem_takeWhile_imp mem
  · rw [bit]
    obtain ⟨x, rest, rfl⟩ := List.exists_cons_of_length_pos (show 0 < rest.length by omega)
    have get := congrArg (·[front.length]?) parts
    simp only [List.getElem?_range hlt] at get
    rw [List.getElem?_append_right (Nat.le_refl _), Nat.sub_self] at get
    obtain rfl := Option.some.inj get
    have := List.head_dropWhile_not p (l := List.range w) (by rw [hrest]; simp)
    simpa [hrest] using this

end Support.Blocks
