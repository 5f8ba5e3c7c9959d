import Mathlib.Tactic.Common
import Mathlib.Tactic.Ring

/-!
# Support — Positional

Rows of digits in base `b`, the first digit the most significant: the number a row denotes
(`positional`), and the order of rows (`lexicographicalCompare`).

On rows of one length the two orders are the same (`lexicographicalCompare_iff`), and a row is
determined by its number (`positional_inj`).
-/

namespace Support.Positional

/-- The number the digits `ds` denote in base `b`. -/
def positional (b : Nat) : List Nat → Nat
  | []      => 0
  | d :: ds => d * b ^ ds.length + positional b ds

/-- `std::lexicographical_compare`. -/
def lexicographicalCompare {α : Type*} [LT α] [DecidableLT α] : List α → List α → Bool
  | _, []           => false
  | [], _ :: _      => true
  | x :: xs, y :: ys =>
      if x < y then true else if y < x then false else lexicographicalCompare xs ys

theorem positional_lt {b : Nat} {ds : List Nat} (h : ∀ d ∈ ds, d < b) :
    positional b ds < b ^ ds.length := by
  induction ds with
  | nil => simp [positional]
  | cons d ds ih =>
      have hd : d < b := h d List.mem_cons_self
      have hds : positional b ds < b ^ ds.length := ih fun e he => h e (List.mem_cons_of_mem _ he)
      rw [positional, List.length_cons, pow_succ]
      calc d * b ^ ds.length + positional b ds
          < d * b ^ ds.length + b ^ ds.length := Nat.add_lt_add_left hds _
        _ = (d + 1) * b ^ ds.length := by ring
        _ ≤ b * b ^ ds.length := Nat.mul_le_mul_right _ hd
        _ = b ^ ds.length * b := Nat.mul_comm _ _

/-- Two numbers of a leading digit and a rest below `B`. -/
theorem lead_lt_iff {B d e n m : Nat} (hn : n < B) (hm : m < B) :
    d * B + n < e * B + m ↔ d < e ∨ d = e ∧ n < m := by
  have less : ∀ {d e n m : Nat}, n < B → d < e → d * B + n < e * B + m := by
    intro d e n m hn hde
    have : (d + 1) * B ≤ e * B := Nat.mul_le_mul_right B hde
    rw [Nat.add_mul, Nat.one_mul] at this
    omega
  rcases Nat.lt_trichotomy d e with h | rfl | h
  · exact ⟨fun _ => .inl h, fun _ => less hn h⟩
  · simp
  · have := @less e d m n hm h
    constructor
    · intro hlt
      omega
    · intro hlt
      omega

theorem lead_inj {B d e n m : Nat} (hn : n < B) (hm : m < B) (h : d * B + n = e * B + m) :
    d = e ∧ n = m := by
  have up := (lead_lt_iff (d := d) (e := e) hn hm).not.mp (Nat.not_lt_of_ge h.ge)
  have down := (lead_lt_iff (d := e) (e := d) hm hn).not.mp (Nat.not_lt_of_ge h.le)
  obtain rfl : d = e := by omega
  exact ⟨rfl, by omega⟩

/-- **A row of digits** is determined by its length and its number. -/
theorem positional_inj {b : Nat} {ds es : List Nat} (hlen : ds.length = es.length)
    (hd : ∀ d ∈ ds, d < b) (he : ∀ e ∈ es, e < b) (h : positional b ds = positional b es) :
    ds = es := by
  induction ds generalizing es with
  | nil => exact (List.length_eq_zero_iff.mp hlen.symm).symm
  | cons d ds ih =>
      obtain ⟨e, es, rfl⟩ := List.exists_cons_of_length_eq_add_one hlen.symm
      have tails : ds.length = es.length := Nat.succ.inj hlen
      obtain ⟨hds, hes⟩ := (List.forall_mem_cons.mp hd).2, (List.forall_mem_cons.mp he).2
      rw [positional, positional, tails] at h
      obtain ⟨rfl, rest⟩ := lead_inj (tails ▸ positional_lt hds) (positional_lt hes) h
      rw [ih tails hds hes rest]

/-- **The order of rows** of one length is the order of the numbers they denote. -/
theorem lexicographicalCompare_iff {α : Type*} [LT α] [DecidableLT α] {b : Nat} {digit : α → Nat}
    (hlt : ∀ x y, x < y ↔ digit x < digit y) (hb : ∀ x, digit x < b) {xs ys : List α}
    (hlen : xs.length = ys.length) : lexicographicalCompare xs ys = true ↔
      positional b (xs.map digit) < positional b (ys.map digit) := by
  have bound : ∀ zs : List α, positional b (zs.map digit) < b ^ zs.length := fun zs => by
    have := @positional_lt b (zs.map digit) (by simpa using fun z _ => hb z)
    rwa [List.length_map] at this
  induction xs generalizing ys with
  | nil =>
      obtain rfl := List.length_eq_zero_iff.mp hlen.symm
      simp [lexicographicalCompare]
  | cons x xs ih =>
      obtain ⟨y, ys, rfl⟩ := List.exists_cons_of_length_eq_add_one hlen.symm
      have tails : xs.length = ys.length := Nat.succ.inj hlen
      rw [lexicographicalCompare, List.map_cons, List.map_cons, positional, positional,
        List.length_map, List.length_map, tails, lead_lt_iff (tails ▸ bound xs) (bound ys)]
      rcases Nat.lt_trichotomy (digit x) (digit y) with h | h | h
      · simp [hlt, h]
      · simp [hlt, h, ih tails]
      · simp [hlt, h, Nat.lt_asymm h, Nat.ne_of_gt h]

end Support.Positional
