import NetworkInterface.Address.Arithmetic
import NetworkInterface.Support.KeyOrder

/-!
# Address — Order

`operator<` and `operator<=` of addresses, which compare the stored arrays, and of `IPAddressInfo`,
which compare the netmasks where the addresses are equal.

All comparisons read one key: the type and the packed value of an address (`readsKey`), and the two
keys of an info, lexicographically (`IPAddressInfo.readsKey`).  `order_laws`: so each family is a
strict total order that agrees with `operator==`.
-/

namespace NetworkInterface
open Support
open Support.Positional (positional lexicographicalCompare lexicographicalCompare_iff)
open Support.KeyOrder (ReadsKey StrictTotal)

/-! ### The operators -/

namespace IPAddress

/-- The value of the enumerator. -/
def Type.underlying : IPAddress.Type → Nat
  | .none => 0
  | .v4   => 1
  | .v6   => 2

/-- `operator<(IPAddress const&, IPAddress const&)`. -/
def lt (lhs rhs : IPAddress) : Outcome Bool :=
  if lhs.type ≠ rhs.type then .ok (lhs.type.underlying < rhs.type.underlying)
  else match lhs.type with
    | .v4   => .ok (lexicographicalCompare lhs.ipv4.toList rhs.ipv4.toList)
    | .v6   => .ok (lexicographicalCompare lhs.ipv6.toList rhs.ipv6.toList)
    | .none => .error (.invalidArgument "Invalid Type")

/-- `operator<=(IPAddress const&, IPAddress const&)`; `operator<=` of two arrays is
`!(rhs < lhs)`. -/
def le (lhs rhs : IPAddress) : Outcome Bool :=
  if lhs.type ≠ rhs.type then .ok (lhs.type.underlying < rhs.type.underlying)
  else match lhs.type with
    | .v4   => .ok (!lexicographicalCompare rhs.ipv4.toList lhs.ipv4.toList)
    | .v6   => .ok (!lexicographicalCompare rhs.ipv6.toList lhs.ipv6.toList)
    | .none => .error (.invalidArgument "Invalid Type")

end IPAddress

namespace IPAddressInfo

/-- `operator<(IPAddressInfo const&, IPAddressInfo const&)`. -/
def lt (lhs rhs : IPAddressInfo) : Outcome Bool :=
  if lhs.address != rhs.address then lhs.address.lt rhs.address else lhs.netmask.lt rhs.netmask

/-- `operator<=(IPAddressInfo const&, IPAddressInfo const&)`. -/
def le (lhs rhs : IPAddressInfo) : Outcome Bool :=
  if lhs.address != rhs.address then lhs.address.lt rhs.address else lhs.netmask.le rhs.netmask

end IPAddressInfo

/-- The call returns, and what it returns is whether `p` holds. -/
def Decides (o : Outcome Bool) (p : Prop) : Prop := ∃ r, o = .ok r ∧ (r = true ↔ p)

theorem Decides.iff {o : Outcome Bool} {p : Prop} (h : Decides o p) : o = .ok true ↔ p := by
  obtain ⟨r, rfl, hr⟩ := h
  rw [← hr]
  exact Except.ok.injEq r true ▸ Iff.rfl

theorem Decides.congr {o : Outcome Bool} {p q : Prop} (h : Decides o p) (hpq : p ↔ q) :
    Decides o q := by
  obtain ⟨r, ho, hr⟩ := h
  exact ⟨r, ho, hr.trans hpq⟩

theorem decides_ok {r : Bool} {p : Prop} (h : r = true ↔ p) : Decides (.ok r) p := ⟨r, rfl, h⟩

/-! ### Arrays -/

/-- The bytes of an IPv4 value, in order, compare as its packed word. -/
theorem lexicographicalCompare_v4 (v w : ValueTypeV4) :
    lexicographicalCompare v.toList w.toList = true ↔ (packV4 v).toNat < (packV4 w).toNat := by
  rw [toNat_packV4_positional, toNat_packV4_positional]
  exact lexicographicalCompare_iff (fun _ _ => UInt8.lt_iff_toNat_lt) UInt8.toNat_lt (by simp)

/-- The groups of an IPv6 value are the digits of its packed value. -/
theorem packedNumber_packV6 (v : ValueTypeV6) :
    packedNumber (packV6 v) = positional (2 ^ 16) (v.toList.map UInt16.toNat) := by
  rw [packedNumber, packV6, toNat_pack_groups, toNat_pack_groups, toList_v6]
  simp only [List.map_cons, List.map_nil, positional, List.length_cons, List.length_nil]
  omega

/-- The groups of an IPv6 value, in order, compare as its packed value. -/
theorem lexicographicalCompare_v6 (v w : ValueTypeV6) :
    lexicographicalCompare v.toList w.toList = true ↔
      packedNumber (packV6 v) < packedNumber (packV6 w) := by
  rw [packedNumber_packV6, packedNumber_packV6]
  exact lexicographicalCompare_iff (fun _ _ => UInt16.lt_iff_toNat_lt) UInt16.toNat_lt (by simp)

theorem packedNumber_inj {x y : ValueTypePackedV6} (h : packedNumber x = packedNumber y) :
    x = y := by
  have hx := x.2.toNat_lt
  have hy := y.2.toNat_lt
  rw [packedNumber, packedNumber] at h
  refine Prod.ext (UInt64.toNat_inj.mp ?_) (UInt64.toNat_inj.mp ?_)
  · omega
  · omega

theorem packedNumber_lt (x : ValueTypePackedV6) : packedNumber x < 2 ^ 128 := by
  have h₁ := x.1.toNat_lt
  have h₂ := x.2.toNat_lt
  rw [packedNumber]
  omega

/-! ### Addresses -/

namespace IPAddress

/-- The type, then the packed value. -/
def key (a : IPAddress) : Nat ×ₗ Nat := toLex (a.type.underlying, a.number)

theorem Type.underlying_inj {s t : IPAddress.Type} : s.underlying = t.underlying ↔ s = t := by
  cases s <;> cases t <;> decide

theorem isValid_iff {a : IPAddress} : a.isValid = true ↔ a.type = .v4 ∨ a.type = .v6 := by
  rw [isValid]
  cases a.type <;> simp

/-- Of two valid addresses of different types, the IPv4 one is below. -/
theorem underlying_lt_iff {a b : IPAddress} (ha : a.isValid = true) (hb : b.isValid = true)
    (hne : a.type ≠ b.type) : a.type.underlying < b.type.underlying ↔ a.type = .v4 := by
  rcases isValid_iff.mp ha with h | h <;> rcases isValid_iff.mp hb with h' | h'
  · exact absurd (h.trans h'.symm) hne
  · simp [h, h', Type.underlying]
  · simp [h, h', Type.underlying]
  · exact absurd (h.trans h'.symm) hne

/-- Two addresses of one type are equal when their packed values are. -/
theorem beq_iff_number {a b : IPAddress} :
    (a == b) = true ↔ a.type = b.type ∧ a.number = b.number := by
  rw [beq_iff]
  refine and_congr_right fun ht => ?_
  rw [number, number, ← ht]
  cases a.type with
  | none => simp
  | v4 =>
      -- `operator==` compares the member in use only
      simp only [reduceCtorEq, false_implies, true_implies, and_true]
      exact ⟨fun h => by rw [h], fun h => packV4_inj (UInt32.toNat_inj.mp h)⟩
  | v6 =>
      simp only [reduceCtorEq, false_implies, true_implies, true_and]
      refine ⟨fun h => by rw [h], fun h => ?_⟩
      have packed := packedNumber_inj h
      rw [← unpackV6_packV6 a.ipv6, packed, unpackV6_packV6]

/-- `operator<` within a type. -/
theorem lt_decides {a b : IPAddress} (ht : a.type = b.type) (hvalid : a.isValid = true) :
    Decides (a.lt b) (a.number < b.number) := by
  rw [lt, if_neg (not_not_intro ht), number, number, ← ht]
  rcases isValid_iff.mp hvalid with h | h
  · rw [h]
    exact decides_ok (lexicographicalCompare_v4 _ _)
  · rw [h]
    exact decides_ok (lexicographicalCompare_v6 _ _)

/-- `operator<=` within a type. -/
theorem le_decides {a b : IPAddress} (ht : a.type = b.type) (hvalid : a.isValid = true) :
    Decides (a.le b) (a.number ≤ b.number) := by
  have flip : ∀ {r : Bool} {m n : Nat}, (r = true ↔ n < m) → ((!r) = true ↔ m ≤ n) := by
    intro r m n h
    rw [← Nat.not_lt, ← h]
    cases r <;> simp
  rw [le, if_neg (not_not_intro ht), number, number, ← ht]
  rcases isValid_iff.mp hvalid with h | h
  · rw [h]
    exact decides_ok (flip (lexicographicalCompare_v4 _ _))
  · rw [h]
    exact decides_ok (flip (lexicographicalCompare_v6 _ _))

theorem key_lt_iff {a b : IPAddress} : a.key < b.key ↔ a.type.underlying < b.type.underlying ∨
    a.type = b.type ∧ a.number < b.number := by
  rw [key, key, Prod.Lex.toLex_lt_toLex]
  simp only [Type.underlying_inj]

theorem key_le_iff {a b : IPAddress} : a.key ≤ b.key ↔ a.type.underlying < b.type.underlying ∨
    a.type = b.type ∧ a.number ≤ b.number := by
  rw [key, key, Prod.Lex.toLex_le_toLex]
  simp only [Type.underlying_inj]

theorem lt_decides_key {a b : IPAddress} (ha : a.isValid = true) :
    Decides (a.lt b) (a.key < b.key) := by
  by_cases ht : a.type = b.type
  · refine (lt_decides ht ha).congr ?_
    rw [key_lt_iff, ht]
    simp
  · rw [lt, if_pos ht]
    refine decides_ok ?_
    rw [key_lt_iff]
    simp [ht]

theorem le_decides_key {a b : IPAddress} (ha : a.isValid = true) :
    Decides (a.le b) (a.key ≤ b.key) := by
  by_cases ht : a.type = b.type
  · refine (le_decides ht ha).congr ?_
    rw [key_le_iff, ht]
    simp
  · rw [le, if_pos ht]
    refine decides_ok ?_
    rw [key_le_iff]
    simp [ht]

/-- **The comparisons of addresses** are those of the key. -/
theorem readsKey : ReadsKey (fun a : IPAddress => a.isValid = true) (fun a b => a.lt b = .ok true)
    (fun a b => a.le b = .ok true) (fun a b => (a == b) = true) key where
  lt_iff ha _ := (lt_decides_key ha).iff
  le_iff ha _ := (le_decides_key ha).iff
  eq_iff _ _ := by
    rw [beq_iff_number, key, key, toLex_inj, Prod.mk_inj, Type.underlying_inj]

end IPAddress

/-! ### Infos -/

namespace IPAddressInfo

/-- Both parts are addresses. -/
def IsValid (info : IPAddressInfo) : Prop :=
  info.address.isValid = true ∧ info.netmask.isValid = true

theorem lt_iff (i j : IPAddressInfo) : i.lt j = .ok true ↔
    ¬ (i.address == j.address) = true ∧ i.address.lt j.address = .ok true ∨
      (i.address == j.address) = true ∧ i.netmask.lt j.netmask = .ok true := by
  rw [lt, bne]
  cases i.address == j.address <;> simp

theorem le_iff (i j : IPAddressInfo) : i.le j = .ok true ↔
    ¬ (i.address == j.address) = true ∧ i.address.lt j.address = .ok true ∨
      (i.address == j.address) = true ∧ i.netmask.le j.netmask = .ok true := by
  rw [le, bne]
  cases i.address == j.address <;> simp

/-- **The comparisons of infos** are those of the two keys. -/
theorem readsKey : ReadsKey IsValid (fun i j => i.lt j = .ok true) (fun i j => i.le j = .ok true)
    (fun i j => (i == j) = true) fun i => toLex (i.address.key, i.netmask.key) :=
  IPAddress.readsKey.lex IPAddress.readsKey IPAddressInfo.address IPAddressInfo.netmask lt_iff
    le_iff fun _ _ => beq_iff

theorem lt_returns {i : IPAddressInfo} (hi : i.IsValid) (j : IPAddressInfo) :
    ∃ r, i.lt j = .ok r := by
  obtain ⟨r₁, h₁, -⟩ := IPAddress.lt_decides_key (b := j.address) hi.1
  obtain ⟨r₂, h₂, -⟩ := IPAddress.lt_decides_key (b := j.netmask) hi.2
  rw [lt]
  split
  · exact ⟨r₁, h₁⟩
  · exact ⟨r₂, h₂⟩

theorem le_returns {i : IPAddressInfo} (hi : i.IsValid) (j : IPAddressInfo) :
    ∃ r, i.le j = .ok r := by
  obtain ⟨r₁, h₁, -⟩ := IPAddress.lt_decides_key (b := j.address) hi.1
  obtain ⟨r₂, h₂, -⟩ := IPAddress.le_decides_key (b := j.netmask) hi.2
  rw [le]
  split
  · exact ⟨r₁, h₁⟩
  · exact ⟨r₂, h₂⟩

/-- Lexicographically below: the address, or the netmask where the addresses are equal. -/
def Below (i j : IPAddressInfo) : Prop :=
  i.address.lt j.address = .ok true ∨
    (i.address == j.address) = true ∧ i.netmask.lt j.netmask = .ok true

theorem lt_decides {i j : IPAddressInfo} (hi : i.IsValid) (hj : j.IsValid) :
    Decides (i.lt j) (i.Below j) := by
  obtain ⟨r, hr⟩ := lt_returns hi j
  refine ⟨r, hr, ?_⟩
  have order := IPAddress.readsKey.strictTotal.trichotomy hi.1 hj.1
  have run : r = true ↔ i.lt j = .ok true := by rw [hr, Except.ok.injEq]
  rw [run, lt_iff, Below]
  refine or_congr (and_iff_right_of_imp fun h heq => ?_) Iff.rfl
  rcases order with ⟨-, hne, -⟩ | ⟨hlt, -⟩ | ⟨hlt, -⟩
  · exact hne heq
  · exact hlt h
  · exact hlt h

end IPAddressInfo

/-- **Order.**  Packing and unpacking undo each other; addresses compare as their packed values,
IPv4 before IPv6, and infos lexicographically; both are strict total orders that agree with
`operator==` and `operator<=`. -/
theorem order_laws :
    ((∀ v, unpackV4 (packV4 v) = v) ∧ (∀ ip, packV4 (unpackV4 ip) = ip) ∧
      (∀ v, unpackV6 (packV6 v) = v) ∧ ∀ ip, packV6 (unpackV6 ip) = ip) ∧
    (∀ a b : IPAddress, a.isValid = true → b.isValid = true →
      Decides (a.lt b) (if a.type = b.type then a.number < b.number else a.type = .v4) ∧
        ∃ r, a.le b = .ok r) ∧
    StrictTotal (fun a : IPAddress => a.isValid = true) (fun a b => a.lt b = .ok true)
      (fun a b => a.le b = .ok true) (fun a b => (a == b) = true) ∧
    (∀ i j : IPAddressInfo, i.IsValid → j.IsValid →
      Decides (i.lt j) (i.Below j) ∧ ∃ r, i.le j = .ok r) ∧
    StrictTotal IPAddressInfo.IsValid (fun i j => i.lt j = .ok true)
      (fun i j => i.le j = .ok true) (fun i j => (i == j) = true) := by
  refine ⟨⟨unpackV4_packV4, packV4_unpackV4, unpackV6_packV6, packV6_unpackV6⟩, ?_,
    IPAddress.readsKey.strictTotal, ?_, IPAddressInfo.readsKey.strictTotal⟩
  · intro a b ha hb
    refine ⟨?_, ?_⟩
    · by_cases ht : a.type = b.type
      · rw [if_pos ht]
        exact IPAddress.lt_decides ht ha
      · refine (IPAddress.lt_decides_key ha).congr ?_
        rw [if_neg ht, IPAddress.key_lt_iff, or_iff_left fun h => ht h.1]
        exact IPAddress.underlying_lt_iff ha hb ht
    · obtain ⟨r, h, -⟩ := IPAddress.le_decides_key (b := b) ha
      exact ⟨r, h⟩
  · intro i j hi hj
    exact ⟨IPAddressInfo.lt_decides hi hj, IPAddressInfo.le_returns hi j⟩

end NetworkInterface
