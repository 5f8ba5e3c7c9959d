import Mathlib.Tactic.Common
import Mathlib.Data.List.Basic
import Mathlib.Data.List.Induction
import Mathlib.Data.List.TakeWhile
import Mathlib.Tactic.Ring

/-!
# Support — Numeral

Numerals as text, in the bases up to sixteen, and the two ways the C++ library reads them back
in the classic locale.

* `value`: the number a list of digits denotes.  `value_toDigits`: printing, then reading.
* `Writes b n t`: `t` is the canonical text of `n`.  `writes_toDigits`: what is printed is.
* `hexPair`: the two hexadecimal digits of a byte, in one case.
* `readUnsigned b w`: `std::istream >> x` for an unsigned `x` of `w` bits, in base `b`.  White
  space is skipped; a sign is allowed; in base 16 a `0x` is allowed before the digits; the
  longest run of digits is the numeral and what follows it is ignored.  No digit, or a magnitude
  that does not fit in `w` bits, is a failure; a minus sign negates modulo `2 ^ w`.
* `strtoll b`: the function of `<cstdlib>`, with the text it leaves unread.
-/

namespace Support.Numeral

/-! ### Digits -/

/-- The value of a digit. -/
def digitVal (c : Char) : Option Nat :=
  if '0' ≤ c ∧ c ≤ '9' then some (c.toNat - 48)
  else if 'a' ≤ c ∧ c ≤ 'f' then some (c.toNat - 87)
  else if 'A' ≤ c ∧ c ≤ 'F' then some (c.toNat - 55)
  else none

/-- `c` is a digit in base `b`. -/
def isDigit (b : Nat) (c : Char) : Bool := (digitVal c).any (· < b)

/-- The number the digits `ds` denote in base `b`, the first digit the most significant. -/
def value (b : Nat) (ds : List Char) : Nat := ds.foldl (fun v c => b * v + (digitVal c).getD 0) 0

theorem digitVal_digitChar : ∀ d < 16, digitVal (Nat.digitChar d) = some d := by decide

theorem isDigit_digitChar {b d : Nat} (hd : d < b) (hb : b ≤ 16) :
    isDigit b (Nat.digitChar d) = true := by
  simp [isDigit, digitVal_digitChar d (by omega), hd]

theorem value_append_singleton (b : Nat) (ds : List Char) (c : Char) :
    value b (ds ++ [c]) = b * value b ds + (digitVal c).getD 0 := by
  simp [value]

theorem value_append (b : Nat) (l m : List Char) :
    value b (l ++ m) = value b l * b ^ m.length + value b m := by
  induction m using List.reverseRecOn with
  | nil => simp [value]
  | append_singleton m c ih =>
      rw [← List.append_assoc, value_append_singleton, value_append_singleton, ih,
        List.length_append, List.length_singleton]
      ring

theorem digit_lt {b : Nat} {c : Char} (h : isDigit b c = true) : (digitVal c).getD 0 < b := by
  rw [isDigit] at h
  cases hc : digitVal c with
  | none => simp [hc] at h
  | some d => simpa [hc] using h

theorem value_lt {b : Nat} {ds : List Char} (h : ∀ c ∈ ds, isDigit b c = true) :
    value b ds < b ^ ds.length := by
  induction ds using List.reverseRecOn with
  | nil => simp [value]
  | append_singleton ds c ih =>
      have hv : value b ds < b ^ ds.length := ih fun c hc => h c (List.mem_append_left _ hc)
      have hd := digit_lt (h c (by simp))
      rw [value_append_singleton, List.length_append, List.length_singleton, pow_succ]
      calc b * value b ds + (digitVal c).getD 0
          < b * value b ds + b := by omega
        _ = b * (value b ds + 1) := by ring
        _ ≤ b * b ^ ds.length := Nat.mul_le_mul_left b hv
        _ = b ^ ds.length * b := Nat.mul_comm _ _

/-- Reading what was printed. -/
theorem value_toDigits {b : Nat} (hb : 1 < b) (hb' : b ≤ 16) (n : Nat) :
    value b (Nat.toDigits b n) = n := by
  induction n using Nat.strongRecOn with
  | ind n ih =>
      by_cases hn : n < b
      · simp [Nat.toDigits_of_lt_base hn, value, digitVal_digitChar n (by omega)]
      · have hm : n % b < b := Nat.mod_lt _ (by omega)
        rw [Nat.toDigits_of_base_le hb (by omega), value_append_singleton,
          ih _ (Nat.div_lt_self (by omega) hb), digitVal_digitChar _ (by omega)]
        exact Nat.div_add_mod n b

/-- The first digit of a number that is not zero. -/
theorem exists_toDigits_cons {b n : Nat} (hb : 1 < b) (hn : n ≠ 0) :
    ∃ d ds, 0 < d ∧ d < b ∧ Nat.toDigits b n = Nat.digitChar d :: ds := by
  induction n using Nat.strongRecOn with
  | ind n ih =>
      by_cases h : n < b
      · exact ⟨n, [], Nat.pos_of_ne_zero hn, h, Nat.toDigits_of_lt_base h⟩
      · obtain ⟨d, ds, pos, lt, hd⟩ := ih (n / b) (Nat.div_lt_self (by omega) hb)
          (Nat.div_pos (by omega) (by omega)).ne'
        exact ⟨d, ds ++ [Nat.digitChar (n % b)], pos, lt, by
          rw [Nat.toDigits_of_base_le hb (by omega), hd, List.cons_append]⟩

theorem value_cons_pos {b d : Nat} (hb : 0 < b) (hd : 0 < d) (hd' : d < 16) (ds : List Char) :
    0 < value b (Nat.digitChar d :: ds) := by
  have grows : ∀ (ds : List Char) (v : Nat), 0 < v →
      0 < ds.foldl (fun v c => b * v + (digitVal c).getD 0) v := by
    intro ds
    induction ds with
    | nil => exact fun v hv => hv
    | cons c ds ih => exact fun v hv => ih _ (Nat.add_pos_left (Nat.mul_pos hb hv) _)
  refine grows ds _ ?_
  show 0 < b * 0 + (digitVal (Nat.digitChar d)).getD 0
  rw [digitVal_digitChar d hd', Option.getD_some]
  omega

theorem digitChar_ne_zero : ∀ d < 16, 0 < d → Nat.digitChar d ≠ '0' := by decide

/-- A numeral that does not start with a zero is at least the power its length says. -/
theorem pow_le_value {b : Nat} {c : Char} (hc : 0 < (digitVal c).getD 0) (ds : List Char) :
    b ^ ds.length ≤ value b (c :: ds) := by
  induction ds using List.reverseRecOn with
  | nil =>
      have : value b [c] = (digitVal c).getD 0 := by simp [value]
      rw [List.length_nil, Nat.pow_zero, this]
      exact hc
  | append_singleton ds d ih =>
      rw [← List.cons_append, value_append_singleton, List.length_append, List.length_singleton,
        Nat.pow_succ, Nat.mul_comm]
      exact (Nat.mul_le_mul_left b ih).trans (Nat.le_add_right _ _)

/-- The only digit of value zero. -/
theorem digitVal_pos {b : Nat} {c : Char} (h : isDigit b c = true) (hc : c ≠ '0') :
    0 < (digitVal c).getD 0 := by
  have zero : c.toNat = 48 → c = '0' := fun h => Char.toNat_inj.mp h
  rw [isDigit] at h
  rw [digitVal] at h ⊢
  split at h
  · rename_i hd
    have low : 48 ≤ c.toNat := hd.1
    have : c.toNat ≠ 48 := fun h => hc (zero h)
    rw [if_pos hd, Option.getD_some]
    omega
  split at h
  · rename_i hd hl
    have low : 97 ≤ c.toNat := hl.1
    rw [if_neg hd, if_pos hl, Option.getD_some]
    omega
  split at h
  · rename_i hd hl hu
    have low : 65 ≤ c.toNat := hu.1
    rw [if_neg hd, if_neg hl, if_pos hu, Option.getD_some]
    omega
  · simp at h

/-! ### Canonical numerals -/

/-- The digits in base `b`, a letter being written in lower case. -/
def lowerDigits (b : Nat) : List Char := "0123456789abcdef".toList.take b

/-- `t` is the number `n` in base `b`, in lower case and without leading zeros. -/
structure Writes (b n : Nat) (t : List Char) : Prop where
  nonempty : t ≠ []
  digit : ∀ c ∈ t, c ∈ lowerDigits b
  reads : value b t = n
  noLeadingZero : t.head? = some '0' → t = ['0']

theorem digitChar_mem : ∀ b ≤ 16, ∀ d < b, Nat.digitChar d ∈ lowerDigits b := by decide

theorem mem_lowerDigits_of_mem_toDigits {b n : Nat} (hb : 1 < b) (hb' : b ≤ 16) {c : Char}
    (h : c ∈ Nat.toDigits b n) : c ∈ lowerDigits b := by
  induction n using Nat.strongRecOn with
  | ind n ih =>
      by_cases hn : n < b
      · rw [Nat.toDigits_of_lt_base hn, List.mem_singleton] at h
        exact h ▸ digitChar_mem b hb' n hn
      · rw [Nat.toDigits_of_base_le hb (by omega), List.mem_append, List.mem_singleton] at h
        rcases h with h | rfl
        · exact ih _ (Nat.div_lt_self (by omega) hb) h
        · exact digitChar_mem b hb' _ (Nat.mod_lt _ (by omega))

/-- What is printed is canonical. -/
theorem writes_toDigits {b : Nat} (hb : 1 < b) (hb' : b ≤ 16) (n : Nat) :
    Writes b n (Nat.toDigits b n) where
  nonempty := List.ne_nil_of_length_pos Nat.length_toDigits_pos
  digit _ hc := mem_lowerDigits_of_mem_toDigits hb hb' hc
  reads := value_toDigits hb hb' n
  noLeadingZero h := by
    by_cases hn : n = 0
    · subst hn
      rw [Nat.toDigits_of_lt_base (by omega)]
      rfl
    · obtain ⟨d, ds, pos, lt, hd⟩ := exists_toDigits_cons hb hn
      rw [hd, List.head?_cons, Option.some.injEq] at h
      exact absurd h (digitChar_ne_zero d (by omega) pos)

theorem all_lowerDigits : ∀ b ≤ 16, (lowerDigits b).all (isDigit b) = true := by decide

theorem isDigit_of_mem_toDigits {b n : Nat} (hb : 1 < b) (hb' : b ≤ 16) {c : Char}
    (h : c ∈ Nat.toDigits b n) : isDigit b c = true :=
  List.all_eq_true.mp (all_lowerDigits b hb') c (mem_lowerDigits_of_mem_toDigits hb hb' h)

/-! ### Hexadecimal digits of one case -/

/-- The hexadecimal digits, the letters in the case given. -/
def hexDigits (upperCase : Bool) : List Char :=
  if upperCase then "0123456789ABCDEF".toList else "0123456789abcdef".toList

/-- The digit for `d`. -/
def hexChar (upperCase : Bool) (d : Nat) : Char :=
  if upperCase then (Nat.digitChar d).toUpper else Nat.digitChar d

theorem hexChar_mem : ∀ upperCase, ∀ d < 16, hexChar upperCase d ∈ hexDigits upperCase := by decide

theorem digitVal_hexChar : ∀ upperCase, ∀ d < 16, digitVal (hexChar upperCase d) = some d := by
  decide

theorem all_hexChar_digitVal : ∀ upperCase,
    (hexDigits upperCase).all (fun c => hexChar upperCase ((digitVal c).getD 0) = c) = true := by
  decide

/-- A digit is the one for its value. -/
theorem hexChar_digitVal {upperCase : Bool} {c : Char} (h : c ∈ hexDigits upperCase) :
    hexChar upperCase ((digitVal c).getD 0) = c :=
  of_decide_eq_true (List.all_eq_true.mp (all_hexChar_digitVal upperCase) c h)

theorem all_hexDigits : ∀ upperCase, (hexDigits upperCase).all (isDigit 16) = true := by decide

theorem isDigit_of_mem_hexDigits {upperCase : Bool} {c : Char} (h : c ∈ hexDigits upperCase) :
    isDigit 16 c = true :=
  List.all_eq_true.mp (all_hexDigits upperCase) c h

/-- The two digits of a byte. -/
def hexPair (upperCase : Bool) (n : Nat) : List Char :=
  [hexChar upperCase (n / 16), hexChar upperCase (n % 16)]

theorem mem_hexPair {upperCase : Bool} {n : Nat} (hn : n < 256) {c : Char}
    (h : c ∈ hexPair upperCase n) : c ∈ hexDigits upperCase := by
  simp only [hexPair, List.mem_cons, List.not_mem_nil, or_false] at h
  rcases h with rfl | rfl
  · exact hexChar_mem upperCase _ (by omega)
  · exact hexChar_mem upperCase _ (by omega)

theorem value_pair (b : Nat) (c d : Char) :
    value b [c, d] = b * (digitVal c).getD 0 + (digitVal d).getD 0 := by simp [value]

theorem value_hexPair (upperCase : Bool) {n : Nat} (hn : n < 256) :
    value 16 (hexPair upperCase n) = n := by
  rw [hexPair, value_pair, digitVal_hexChar upperCase _ (by omega),
    digitVal_hexChar upperCase _ (by omega)]
  exact Nat.div_add_mod n 16

/-- Two digits of one case are the two digits of their value. -/
theorem hexPair_value {upperCase : Bool} {p : List Char} (h2 : p.length = 2)
    (hp : ∀ c ∈ p, c ∈ hexDigits upperCase) : hexPair upperCase (value 16 p) = p := by
  obtain ⟨c, d, rfl⟩ := List.length_eq_two.mp h2
  have hc := hp c (by simp)
  have hd := hp d (by simp)
  have low := digit_lt (isDigit_of_mem_hexDigits hd)
  have first : (16 * (digitVal c).getD 0 + (digitVal d).getD 0) / 16 = (digitVal c).getD 0 := by
    omega
  have second : (16 * (digitVal c).getD 0 + (digitVal d).getD 0) % 16 = (digitVal d).getD 0 := by
    omega
  rw [hexPair, value_pair, first, second, hexChar_digitVal hc, hexChar_digitVal hd]

/-! ### Reading from a stream -/

/-- The white space of the classic locale. -/
def isSpace (c : Char) : Bool := c = ' ' || ('\t' ≤ c && c ≤ '\r')

/-- An optional sign: whether it is a minus, and what follows it. -/
def splitSign : List Char → Bool × List Char
  | '-' :: s => (true, s)
  | '+' :: s => (false, s)
  | s        => (false, s)

/-- The base prefix a hexadecimal numeral may have. -/
def dropHexPrefix : List Char → List Char
  | '0' :: 'x' :: s => s
  | '0' :: 'X' :: s => s
  | s               => s

/-- The digits at the start of `s`, as an unsigned value of `w` bits. -/
def readDigits (b w : Nat) (negative : Bool) (s : List Char) : Option Nat :=
  let ds := s.takeWhile (isDigit b)
  if ds = [] ∨ 2 ^ w ≤ value b ds then none
  else some (if negative then (2 ^ w - value b ds) % 2 ^ w else value b ds)

/-- `std::istream >> x`, for an unsigned `x` of `w` bits. -/
def readUnsigned (b w : Nat) (s : List Char) : Option Nat :=
  let (negative, body) := splitSign (s.dropWhile isSpace)
  readDigits b w negative (if b = 16 then dropHexPrefix body else body)

/-- `strtoll(s, &end, b)`: the value, saturated to 64 bits, and the text from `end` on. -/
def strtoll (b : Nat) (s : List Char) : Int × List Char :=
  let (negative, body) := splitSign (s.dropWhile isSpace)
  let ds := body.takeWhile (isDigit b)
  if ds = [] then (0, s)
  else if negative then (max (-(value b ds : Int)) (-2 ^ 63), body.dropWhile (isDigit b))
  else (min (value b ds : Int) (2 ^ 63 - 1), body.dropWhile (isDigit b))

theorem isSpace_eq_false_of_isDigit {b : Nat} {c : Char} (h : isDigit b c = true) :
    isSpace c = false := by
  by_contra hs
  have hs : c = ' ' ∨ '\t' ≤ c ∧ c ≤ '\r' := by
    simpa only [isSpace, Bool.not_eq_false, Bool.or_eq_true, Bool.and_eq_true, decide_eq_true_eq]
      using hs
  have low : c.toNat < 48 := by
    rcases hs with rfl | ⟨-, hs⟩
    · decide
    · have : c.toNat ≤ 13 := hs
      omega
  have none : digitVal c = none := by
    have h₁ : ¬ '0' ≤ c := fun h => by have : 48 ≤ c.toNat := h; omega
    have h₂ : ¬ 'a' ≤ c := fun h => by have : 97 ≤ c.toNat := h; omega
    have h₃ : ¬ 'A' ≤ c := fun h => by have : 65 ≤ c.toNat := h; omega
    simp [digitVal, h₁, h₂, h₃]
  simp [isDigit, none] at h

theorem splitSign_of_isDigit {b : Nat} {c : Char} {s : List Char} (h : isDigit b c = true) :
    splitSign (c :: s) = (false, c :: s) := by
  have minus : c ≠ '-' := by rintro rfl; simp [isDigit, digitVal] at h
  have plus : c ≠ '+' := by rintro rfl; simp [isDigit, digitVal] at h
  unfold splitSign
  split <;> simp_all

/-- At a digit there is neither white space nor a sign. -/
theorem splitSign_dropWhile {b : Nat} {c : Char} {s : List Char} (h : isDigit b c = true) :
    splitSign ((c :: s).dropWhile isSpace) = (false, c :: s) := by
  rw [List.dropWhile_cons_of_neg (by simp [isSpace_eq_false_of_isDigit h]), splitSign_of_isDigit h]

theorem readDigits_eq_none {b w : Nat} {negative : Bool} {s : List Char} :
    readDigits b w negative s = none ↔
      s.takeWhile (isDigit b) = [] ∨ 2 ^ w ≤ value b (s.takeWhile (isDigit b)) := by
  rw [readDigits]
  by_cases h : s.takeWhile (isDigit b) = [] ∨ 2 ^ w ≤ value b (s.takeWhile (isDigit b))
  · exact iff_of_true (if_pos h) h
  · refine iff_of_false (fun none => ?_) h
    rw [if_neg h] at none
    cases none

theorem readDigits_eq_some {b w out : Nat} {negative : Bool} {s : List Char} :
    readDigits b w negative s = some out ↔ s.takeWhile (isDigit b) ≠ [] ∧
      value b (s.takeWhile (isDigit b)) < 2 ^ w ∧
      out = if negative then (2 ^ w - value b (s.takeWhile (isDigit b))) % 2 ^ w
        else value b (s.takeWhile (isDigit b)) := by
  rw [readDigits]
  generalize s.takeWhile (isDigit b) = ds
  by_cases h : ds = [] ∨ 2 ^ w ≤ value b ds
  · rw [if_pos h]
    refine ⟨fun h => (by cases h), fun ⟨hne, hlt, _⟩ => ?_⟩
    exact absurd h (not_or.mpr ⟨hne, Nat.not_le.mpr hlt⟩)
  · obtain ⟨hne, hlt⟩ := not_or.mp h
    rw [if_neg h, Option.some.injEq]
    exact ⟨fun h => ⟨hne, Nat.not_le.mp hlt, h.symm⟩, fun h => h.2.2.symm⟩

theorem readDigits_lt {b w v : Nat} {negative : Bool} {s : List Char}
    (h : readDigits b w negative s = some v) : v < 2 ^ w := by
  obtain ⟨-, hv, rfl⟩ := readDigits_eq_some.mp h
  split
  · exact Nat.mod_lt _ (Nat.two_pow_pos w)
  · exact hv

theorem readUnsigned_lt {b w v : Nat} {s : List Char} (h : readUnsigned b w s = some v) :
    v < 2 ^ w :=
  readDigits_lt h

/-- Reading, in decimal, a text that starts with a digit of any base other than zero. -/
theorem readUnsigned_pos {w d v : Nat} (hd : 0 < d) (hd' : d < 16) {s : List Char}
    (h : readUnsigned 10 w (Nat.digitChar d :: s) = some v) : 0 < v := by
  have digit : isDigit 16 (Nat.digitChar d) = true := isDigit_digitChar hd' (Nat.le_refl _)
  rw [readUnsigned, splitSign_dropWhile digit] at h
  obtain ⟨hne, -, rfl⟩ := readDigits_eq_some.mp h
  cases hdec : isDigit 10 (Nat.digitChar d) with
  | false => exact absurd (by simp [hdec]) hne
  | true =>
      change 0 < value 10 ((Nat.digitChar d :: s).takeWhile (isDigit 10))
      rw [List.takeWhile_cons_of_pos hdec]
      exact value_cons_pos (by decide) hd hd' _

/-- What `readDigits` makes of a numeral and the text after it. -/
theorem readDigits_eq {b w : Nat} {ds rest : List Char} (hne : ds ≠ [])
    (hd : ∀ c ∈ ds, isDigit b c = true) (hrest : ∀ c ∈ rest.head?, isDigit b c = false) :
    readDigits b w false (ds ++ rest) =
      if value b ds < 2 ^ w then some (value b ds) else none := by
  have span : (ds ++ rest).takeWhile (isDigit b) = ds := by
    rw [List.takeWhile_append_of_pos hd]
    cases rest with
    | nil => simp
    | cons c rest => simp [hrest c rfl]
  by_cases hv : value b ds < 2 ^ w
  · simp [readDigits, span, hne, hv]
  · simp [readDigits, span, hv]

theorem readDigits_append {b w : Nat} {ds rest : List Char} (hne : ds ≠ [])
    (hd : ∀ c ∈ ds, isDigit b c = true) (hrest : ∀ c ∈ rest.head?, isDigit b c = false)
    (hv : value b ds < 2 ^ w) : readDigits b w false (ds ++ rest) = some (value b ds) := by
  rw [readDigits_eq hne hd hrest, if_pos hv]

/-- Reading a decimal numeral, behind white space. -/
theorem readUnsigned_decimal_eq {w : Nat} {l ds rest : List Char}
    (hl : ∀ c ∈ l, isSpace c = true) (hne : ds ≠ []) (hd : ∀ c ∈ ds, isDigit 10 c = true)
    (hrest : ∀ c ∈ rest.head?, isDigit 10 c = false) : readUnsigned 10 w (l ++ (ds ++ rest)) =
      if value 10 ds < 2 ^ w then some (value 10 ds) else none := by
  cases ds with
  | nil => exact absurd rfl hne
  | cons c ds =>
      have hc := hd c (by simp)
      have start : (l ++ ((c :: ds) ++ rest)).dropWhile isSpace = c :: (ds ++ rest) := by
        rw [List.dropWhile_append_of_pos hl]
        simp [isSpace_eq_false_of_isDigit hc]
      rw [readUnsigned, start, splitSign_of_isDigit hc]
      exact readDigits_eq (by simp) hd hrest

/-- Reading a decimal numeral. -/
theorem readUnsigned_decimal {w : Nat} {ds rest : List Char} (hne : ds ≠ [])
    (hd : ∀ c ∈ ds, isDigit 10 c = true) (hrest : ∀ c ∈ rest.head?, isDigit 10 c = false)
    (hv : value 10 ds < 2 ^ w) : readUnsigned 10 w (ds ++ rest) = some (value 10 ds) := by
  have read := @readUnsigned_decimal_eq w [] ds rest (fun c hc => absurd hc List.not_mem_nil) hne
    hd hrest
  rwa [if_pos hv] at read

/-- Behind its prefix a hexadecimal numeral is read digit by digit. -/
theorem readUnsigned_hexPrefix (w : Nat) {x : Char} (hx : x = 'x' ∨ x = 'X') (s : List Char) :
    readUnsigned 16 w ('0' :: x :: s) = readDigits 16 w false s := by
  have start : ('0' :: x :: s).dropWhile isSpace = '0' :: x :: s := by simp [isSpace]
  rw [readUnsigned, start]
  rcases hx with rfl | rfl
  · rfl
  · rfl

theorem dropHexPrefix_of_digits {s : List Char} (h : ∀ c ∈ s, isDigit 16 c = true) :
    dropHexPrefix s = s := by
  have noX : ∀ x, isDigit 16 x = false → ∀ c r, s ≠ c :: x :: r := by
    rintro x hx c r rfl
    have := h x (by simp)
    rw [hx] at this
    cases this
  unfold dropHexPrefix
  split
  · exact absurd rfl (noX 'x' (by decide) _ _)
  · exact absurd rfl (noX 'X' (by decide) _ _)
  · rfl

/-- Reading a hexadecimal numeral written without its prefix, and nothing else. -/
theorem readUnsigned_hexDigits {w : Nat} {ds : List Char} (hne : ds ≠ [])
    (hd : ∀ c ∈ ds, isDigit 16 c = true) (hv : value 16 ds < 2 ^ w) :
    readUnsigned 16 w ds = some (value 16 ds) := by
  cases ds with
  | nil => exact absurd rfl hne
  | cons c ds =>
      have read := @readDigits_append 16 w _ [] hne hd (by simp) hv
      rw [List.append_nil] at read
      rw [readUnsigned, splitSign_dropWhile (hd c (by simp))]
      show readDigits 16 w false (dropHexPrefix (c :: ds)) = _
      rw [dropHexPrefix_of_digits hd, read]

/-- Reading a hexadecimal numeral written with its prefix. -/
theorem readUnsigned_hex {w : Nat} {ds rest : List Char} (hne : ds ≠ [])
    (hd : ∀ c ∈ ds, isDigit 16 c = true) (hrest : ∀ c ∈ rest.head?, isDigit 16 c = false)
    (hv : value 16 ds < 2 ^ w) :
    readUnsigned 16 w ('0' :: 'x' :: (ds ++ rest)) = some (value 16 ds) := by
  rw [readUnsigned_hexPrefix w (.inl rfl)]
  exact readDigits_append hne hd hrest hv

/-- `strtoll`, at a numeral with nothing before or behind it. -/
theorem strtoll_digits {b : Nat} {ds : List Char} (hne : ds ≠ [])
    (hd : ∀ c ∈ ds, isDigit b c = true) :
    strtoll b ds = (min (value b ds : Int) (2 ^ 63 - 1), []) := by
  have start : splitSign (ds.dropWhile isSpace) = (false, ds) := by
    cases ds with
    | nil => exact absurd rfl hne
    | cons c ds => exact splitSign_dropWhile (hd c (by simp))
  have span : ds.takeWhile (isDigit b) = ds := List.takeWhile_eq_self_iff.mpr hd
  rw [strtoll, start]
  simp [span, hne, List.dropWhile_eq_nil_iff.mpr hd]

/-- `strtoll` leaves nothing unread when there is nothing, or digits behind white space and a
sign. -/
theorem strtoll_rest_iff {b : Nat} {s : List Char} : (strtoll b s).2 = [] ↔
    s = [] ∨ (splitSign (s.dropWhile isSpace)).2 ≠ [] ∧
      ∀ c ∈ (splitSign (s.dropWhile isSpace)).2, isDigit b c = true := by
  by_cases hs : s = []
  · subst hs
    exact iff_of_true rfl (.inl rfl)
  rw [or_iff_right hs, strtoll]
  generalize splitSign (s.dropWhile isSpace) = signed
  obtain ⟨negative, body⟩ := signed
  dsimp only
  by_cases hds : body.takeWhile (isDigit b) = []
  · rw [if_pos hds]
    refine iff_of_false hs fun ⟨hne, all⟩ => hne ?_
    rwa [List.takeWhile_eq_self_iff.mpr all] at hds
  · have hne : body ≠ [] := fun h => hds (by rw [h]; rfl)
    rw [if_neg hds, and_iff_right hne, ← List.dropWhile_eq_nil_iff]
    cases negative <;> rfl

theorem mem_splitSign {c : Char} {s : List Char} (h : c ∈ s) :
    c = '+' ∨ c = '-' ∨ c ∈ (splitSign s).2 := by
  unfold splitSign
  split
  · exact .inr ((List.mem_cons.mp h))
  · exact (List.mem_cons.mp h).imp_right .inr
  · exact .inr (.inr h)

/-- Where `strtoll` leaves nothing unread, there is nothing but white space, signs and digits. -/
theorem mem_of_strtoll {b : Nat} {s : List Char} (h : (strtoll b s).2 = []) :
    ∀ c ∈ s, isSpace c = true ∨ c = '+' ∨ c = '-' ∨ isDigit b c = true := by
  intro c hs
  rcases strtoll_rest_iff.mp h with rfl | ⟨-, digits⟩
  · cases hs
  · rw [← List.takeWhile_append_dropWhile (p := isSpace) (l := s), List.mem_append] at hs
    rcases hs with hc | hc
    · exact .inl (List.mem_takeWhile_imp hc)
    · exact .inr ((mem_splitSign hc).imp_right fun hc => hc.imp_right (digits c))

end Support.Numeral
