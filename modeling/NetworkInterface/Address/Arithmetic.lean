import NetworkInterface.Address.Mask

/-!
# Address — Arithmetic

`operator+` and `operator-` of an address and a 32-bit value.  At IPv4 both are the operators of the
packed word.  At IPv6 they are made of operations on the two halves, and what is carried from one
half to the other is not the one that is owed.

`add_moves_iff`, `sub_moves_iff`: the result is the sum or the difference modulo the number of
addresses, unless the carry (or the borrow) is more than one and the upper half can take it.
-/

namespace NetworkInterface

/-! ### The operators -/

/-- `operator+` on the halves of a packed address. -/
def addPackedV6 (v : ValueTypePackedV6) (value : UInt32) : ValueTypePackedV6 :=
  if allOnes - v.2 < value.toUInt64 then
    let carry := value.toUInt64 - (allOnes - v.2)
    if allOnes - v.1 < carry then
      let carryBack := carry - (allOnes - v.1) - 1
      (0, carryBack)
    else (v.1 + carry, 0)
  else (v.1, v.2 + value.toUInt64)

/-- `operator-` on the halves of a packed address. -/
def subPackedV6 (v : ValueTypePackedV6) (value : UInt32) : ValueTypePackedV6 :=
  if v.2 < value.toUInt64 then
    let borrow := value.toUInt64 - v.2
    if v.1 < borrow then
      let borrowBack := borrow - v.1 - 1
      (allOnes, allOnes - borrowBack)
    else (v.1 - borrow, allOnes)
  else (v.1, v.2 - value.toUInt64)

namespace IPAddress

/-- `operator+(IPAddress const&, std::uint32_t)`. -/
def add (lhs : IPAddress) (value : UInt32) : Outcome IPAddress :=
  match lhs.type with
  | .v4   => do return ofPackedV4 ((← lhs.getIPV4Packed) + value)
  | .v6   => do return ofPackedV6 (addPackedV6 (← lhs.getIPV6Packed) value)
  | .none => .error (.invalidArgument "Invalid Type")

/-- `operator-(IPAddress const&, std::uint32_t)`. -/
def sub (lhs : IPAddress) (value : UInt32) : Outcome IPAddress :=
  match lhs.type with
  | .v4   => do return ofPackedV4 ((← lhs.getIPV4Packed) - value)
  | .v6   => do return ofPackedV6 (subPackedV6 (← lhs.getIPV6Packed) value)
  | .none => .error (.invalidArgument "Invalid Type")

end IPAddress

/-! ### Addresses as numbers -/

/-- The number the two halves make. -/
def packedNumber (v : ValueTypePackedV6) : Nat := v.1.toNat * 2 ^ 64 + v.2.toNat

namespace IPAddress

/-- The bits of an address. -/
def width (a : IPAddress) : Nat :=
  match a.type with
  | .v4   => 32
  | .v6   => 128
  | .none => 0

/-- The packed value of an address. -/
def number (a : IPAddress) : Nat :=
  match a.type with
  | .v4   => (packV4 a.ipv4).toNat
  | .v6   => packedNumber (packV6 a.ipv6)
  | .none => 0

/-- The result is the address `k` after `a`, modulo the number of addresses. -/
def Moves (a : IPAddress) (k : Int) (result : Outcome IPAddress) : Prop :=
  ∃ b, result = .ok b ∧ b.type = a.type ∧ (b.number : Int) = (a.number + k) % 2 ^ a.width

end IPAddress

/-! ### The halves -/

theorem toNat_allOnes : allOnes.toNat = 2 ^ 64 - 1 := rfl

theorem toNat_allOnes_sub (w : UInt64) : (allOnes - w).toNat = 2 ^ 64 - 1 - w.toNat := by
  have := w.toNat_lt
  have le : w ≤ allOnes := by
    rw [UInt64.le_iff_toNat_le, toNat_allOnes]
    omega
  rw [UInt64.toNat_sub_of_le _ _ le, toNat_allOnes]

theorem eq_allOnes_iff {w : UInt64} : w = allOnes ↔ w.toNat = 2 ^ 64 - 1 := UInt64.toNat_inj.symm

theorem eq_zero_iff {w : UInt64} : w = 0 ↔ w.toNat = 0 := UInt64.toNat_inj.symm

/-- What is carried out of the lower half, or borrowed from the upper one. -/
theorem toNat_sub_word {w : UInt64} {value : UInt32} (h : w < value.toUInt64) :
    (value.toUInt64 - w).toNat = value.toNat - w.toNat := by
  rw [UInt64.toNat_sub_of_le _ _ (UInt64.le_of_lt h), UInt32.toNat_toUInt64]

/-- **Addition** is the one modulo `2 ^ 128` exactly when at most one is carried, or the upper half
is at its end. -/
theorem packedNumber_add_iff (v : ValueTypePackedV6) (value : UInt32) :
    packedNumber (addPackedV6 v value) = (packedNumber v + value.toNat) % 2 ^ 128 ↔
      v.2.toNat + value.toNat ≤ 2 ^ 64 ∨ v.1 = allOnes := by
  obtain ⟨upper, lower⟩ := v
  have hu := upper.toNat_lt
  have hl := lower.toNat_lt
  have hv := value.toNat_lt
  have restUpper := toNat_allOnes_sub upper
  have restLower := toNat_allOnes_sub lower
  rw [eq_allOnes_iff, addPackedV6]
  dsimp only [packedNumber]
  by_cases hcarry : allOnes - lower < value.toUInt64
  · have carry := toNat_sub_word hcarry
    have owed : 2 ^ 64 - 1 - lower.toNat < value.toNat := by
      rwa [UInt64.lt_iff_toNat_lt, UInt32.toNat_toUInt64, restLower] at hcarry
    rw [restLower] at carry
    rw [if_pos hcarry]
    by_cases hback : allOnes - upper < value.toUInt64 - (allOnes - lower)
    · -- both halves wrap: only a full upper half takes a carry of one to get there
      have beyond : 2 ^ 64 - 1 - upper.toNat < value.toNat - (2 ^ 64 - 1 - lower.toNat) := by
        rwa [UInt64.lt_iff_toNat_lt, restUpper, carry] at hback
      have back : (value.toUInt64 - (allOnes - lower) - (allOnes - upper) - 1).toNat =
          value.toNat - (2 ^ 64 - 1 - lower.toNat) - (2 ^ 64 - 1 - upper.toNat) - 1 := by
        rw [UInt64.toNat_sub_of_le, UInt64.toNat_sub_of_le _ _ (UInt64.le_of_lt hback), carry,
          restUpper, UInt64.toNat_one]
        rw [UInt64.le_iff_toNat_le, UInt64.toNat_sub_of_le _ _ (UInt64.le_of_lt hback), carry,
          restUpper, UInt64.toNat_one]
        omega
      rw [if_pos hback, back, UInt64.toNat_zero]
      omega
    · have room : value.toNat - (2 ^ 64 - 1 - lower.toNat) ≤ 2 ^ 64 - 1 - upper.toNat := by
        rwa [UInt64.not_lt, UInt64.le_iff_toNat_le, restUpper, carry] at hback
      rw [if_neg hback, UInt64.toNat_add, carry, UInt64.toNat_zero]
      omega
  · have room : value.toNat ≤ 2 ^ 64 - 1 - lower.toNat := by
      rwa [UInt64.not_lt, UInt64.le_iff_toNat_le, UInt32.toNat_toUInt64, restLower] at hcarry
    rw [if_neg hcarry]
    dsimp only
    rw [UInt64.toNat_add, UInt32.toNat_toUInt64]
    omega

/-- **Subtraction** is the one modulo `2 ^ 128` exactly when at most one is borrowed, or the upper
half is at its start. -/
theorem packedNumber_sub_iff (v : ValueTypePackedV6) (value : UInt32) :
    (packedNumber (subPackedV6 v value) : Int) = (packedNumber v - value.toNat) % 2 ^ 128 ↔
      value.toNat ≤ v.2.toNat + 1 ∨ v.1 = 0 := by
  obtain ⟨upper, lower⟩ := v
  have hu := upper.toNat_lt
  have hl := lower.toNat_lt
  have hv := value.toNat_lt
  rw [eq_zero_iff, subPackedV6]
  dsimp only [packedNumber]
  by_cases hborrow : lower < value.toUInt64
  · have borrow := toNat_sub_word hborrow
    have owed : lower.toNat < value.toNat := by
      rwa [UInt64.lt_iff_toNat_lt, UInt32.toNat_toUInt64] at hborrow
    rw [if_pos hborrow]
    by_cases hback : upper < value.toUInt64 - lower
    · have beyond : upper.toNat < value.toNat - lower.toNat := by
        rwa [UInt64.lt_iff_toNat_lt, borrow] at hback
      have back : (value.toUInt64 - lower - upper - 1).toNat =
          value.toNat - lower.toNat - upper.toNat - 1 := by
        rw [UInt64.toNat_sub_of_le, UInt64.toNat_sub_of_le _ _ (UInt64.le_of_lt hback), borrow,
          UInt64.toNat_one]
        rw [UInt64.le_iff_toNat_le, UInt64.toNat_sub_of_le _ _ (UInt64.le_of_lt hback), borrow,
          UInt64.toNat_one]
        omega
      rw [if_pos hback, toNat_allOnes_sub, back, toNat_allOnes]
      omega
    · have room : value.toNat - lower.toNat ≤ upper.toNat := by
        rwa [UInt64.not_lt, UInt64.le_iff_toNat_le, borrow] at hback
      rw [if_neg hback, UInt64.toNat_sub_of_le _ _ (UInt64.not_lt.mp hback), borrow, toNat_allOnes]
      omega
  · have room : value.toNat ≤ lower.toNat := by
      rwa [UInt64.not_lt, UInt64.le_iff_toNat_le, UInt32.toNat_toUInt64] at hborrow
    rw [if_neg hborrow]
    dsimp only
    rw [UInt64.toNat_sub_of_le _ _ (UInt64.not_lt.mp hborrow), UInt32.toNat_toUInt64]
    omega

/-! ### Addresses -/

namespace IPAddress

theorem number_ofPackedV4 (ip : ValueTypePackedV4) : (ofPackedV4 ip).number = ip.toNat := by
  rw [ofPackedV4, setValuePackedV4, number]
  simp [packV4_unpackV4]

theorem number_ofPackedV6 (ip : ValueTypePackedV6) : (ofPackedV6 ip).number = packedNumber ip := by
  rw [ofPackedV6, setValuePackedV6, number]
  simp [packV6_unpackV6]

/-- An IPv4 address moves as its packed word does. -/
theorem moves_ofPackedV4 {a : IPAddress} (ha : a.type = .v4) {k : Int}
    {ip : ValueTypePackedV4} :
    a.Moves k (.ok (ofPackedV4 ip)) ↔
      (ip.toNat : Int) = ((packV4 a.ipv4).toNat + k) % 2 ^ 32 := by
  have type : (ofPackedV4 ip).type = .v4 := by
    rw [ofPackedV4, setValuePackedV4, type_setValueV4]
  have number : a.number = (packV4 a.ipv4).toNat := by rw [number, ha]
  have width : a.width = 32 := by rw [width, ha]
  rw [Moves, number, width]
  constructor
  · rintro ⟨b, hb, -, hn⟩
    cases hb
    rwa [number_ofPackedV4] at hn
  · intro hn
    exact ⟨_, rfl, type.trans ha.symm, by rwa [number_ofPackedV4]⟩

/-- An IPv6 address moves as its two halves do. -/
theorem moves_ofPackedV6 {a : IPAddress} (ha : a.type = .v6) {k : Int}
    {ip : ValueTypePackedV6} :
    a.Moves k (.ok (ofPackedV6 ip)) ↔
      (packedNumber ip : Int) = (packedNumber (packV6 a.ipv6) + k) % 2 ^ 128 := by
  have number : a.number = packedNumber (packV6 a.ipv6) := by rw [number, ha]
  have width : a.width = 128 := by rw [width, ha]
  rw [Moves, number, width]
  constructor
  · rintro ⟨b, hb, -, hn⟩
    cases hb
    rwa [number_ofPackedV6] at hn
  · intro hn
    exact ⟨_, rfl, (type_ofPackedV6 ip).trans ha.symm, by rwa [number_ofPackedV6]⟩

theorem not_moves_error {a : IPAddress} {k : Int} {e} : ¬ a.Moves k (.error e) := by
  rintro ⟨b, hb, -⟩
  cases hb

theorem add_v4 {a : IPAddress} (ha : a.type = .v4) (value : UInt32) :
    a.add value = .ok (ofPackedV4 (packV4 a.ipv4 + value)) := by
  rw [add, getIPV4Packed, if_pos ha, ha]
  rfl

theorem add_v6 {a : IPAddress} (ha : a.type = .v6) (value : UInt32) :
    a.add value = .ok (ofPackedV6 (addPackedV6 (packV6 a.ipv6) value)) := by
  rw [add, getIPV6Packed, if_pos ha, ha]
  rfl

theorem sub_v4 {a : IPAddress} (ha : a.type = .v4) (value : UInt32) :
    a.sub value = .ok (ofPackedV4 (packV4 a.ipv4 - value)) := by
  rw [sub, getIPV4Packed, if_pos ha, ha]
  rfl

theorem sub_v6 {a : IPAddress} (ha : a.type = .v6) (value : UInt32) :
    a.sub value = .ok (ofPackedV6 (subPackedV6 (packV6 a.ipv6) value)) := by
  rw [sub, getIPV6Packed, if_pos ha, ha]
  rfl

/-- **Addition is modular** at every IPv4 address, and at the IPv6 addresses whose lower half takes
the value or carries one, or whose upper half is at its end. -/
theorem add_moves_iff (a : IPAddress) (value : UInt32) :
    a.Moves value.toNat (a.add value) ↔
      a.type = .v4 ∨ a.type = .v6 ∧
        ((packV6 a.ipv6).2.toNat + value.toNat ≤ 2 ^ 64 ∨ (packV6 a.ipv6).1 = allOnes) := by
  cases ha : a.type with
  | v4 =>
    rw [add_v4 ha, moves_ofPackedV4 ha, UInt32.toNat_add]
    simp
  | v6 =>
    have halves := packedNumber_add_iff (packV6 a.ipv6) value
    rw [add_v6 ha, moves_ofPackedV6 ha, ← halves]
    simp only [reduceCtorEq, false_or, true_and]
    norm_cast
  | none =>
    rw [add, ha]
    simp [not_moves_error]

/-- The address after the lower half's end plus one: the carry of one is added twice. -/
theorem add_two_max_lower :
    ¬ (ofPackedV6 (0, allOnes)).Moves (2 : UInt32).toNat ((ofPackedV6 (0, allOnes)).add 2) ∧
      (ofPackedV6 (0, allOnes)).add 2 = .ok (ofPackedV6 (2, 0)) := by
  have type := type_ofPackedV6 (0, allOnes)
  rw [add_v6 type, packV6_ofPackedV6, moves_ofPackedV6 type, packV6_ofPackedV6]
  exact ⟨by decide, rfl⟩

/-- **Subtraction is modular** at every IPv4 address, and at the IPv6 addresses whose lower half
gives the value or borrows one, or whose upper half is at its start. -/
theorem sub_moves_iff (a : IPAddress) (value : UInt32) :
    a.Moves (-value.toNat) (a.sub value) ↔
      a.type = .v4 ∨ a.type = .v6 ∧
        (value.toNat ≤ (packV6 a.ipv6).2.toNat + 1 ∨ (packV6 a.ipv6).1 = 0) := by
  cases ha : a.type with
  | v4 =>
    have hv := value.toNat_lt
    have hl := (packV4 a.ipv4).toNat_lt
    rw [sub_v4 ha, moves_ofPackedV4 ha, UInt32.toNat_sub]
    simp only [true_or, iff_true]
    omega
  | v6 =>
    have halves := packedNumber_sub_iff (packV6 a.ipv6) value
    rw [sub_v6 ha, moves_ofPackedV6 ha, ← halves, Int.sub_eq_add_neg]
    simp only [reduceCtorEq, false_or, true_and]
  | none =>
    rw [sub, ha]
    simp [not_moves_error]

/-- Two before the start of a lower half: the borrow of one is taken twice. -/
theorem sub_two_min_lower :
    ¬ (ofPackedV6 (5, 0)).Moves (-(2 : UInt32).toNat) ((ofPackedV6 (5, 0)).sub 2) ∧
      (ofPackedV6 (5, 0)).sub 2 = .ok (ofPackedV6 (3, allOnes)) := by
  have type := type_ofPackedV6 (5, 0)
  rw [sub_v6 type, packV6_ofPackedV6, moves_ofPackedV6 type, packV6_ofPackedV6]
  exact ⟨by decide, rfl⟩

end IPAddress

end NetworkInterface
