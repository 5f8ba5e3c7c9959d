import NetworkInterface.Address.Validators

/-!
# Address — Subnet

The subnet of an address: `getNetworkBaseAddress` and `getBroadcastAddress` of an `IPAddressInfo`.

Under a netmask of `k` ones the addresses of width `w` are cut into blocks of `2 ^ (w - k)` packed
values.  The base address is the first one of the block (`getNetworkBaseAddress_ok`), the broadcast
address the last one (`getBroadcastAddress_ok`), and the subnet is what lies between the two
(`Spans`, `spans_of_block`).  `subnet_law`: this for every netmask the validators accept, and an
exception for every other one.
-/

namespace NetworkInterface
open Support
open Support.Blocks (ones)

/-- `IPAddressInfo::getBroadcastAddress`. -/
def IPAddressInfo.getBroadcastAddress (this : IPAddressInfo) : Outcome IPAddress := do
  checkValidIPAddressInfo this.address this.netmask
  match this.address.type with
  | .v4   => do
      return .ofPackedV4 ((← this.address.getIPV4Packed) ||| ~~~(← this.netmask.getIPV4Packed))
  | .v6   => throw (.invalidArgument "IPV6 doesn't support broadcast")
  | .none => throw (.invalidArgument "Invalid Type")

/-! ### Packed values -/

namespace IPAddress

theorem isValid_of_type {a : IPAddress} (h : a.type = .v4 ∨ a.type = .v6) : a.isValid = true :=
  isValid_iff.mpr h

/-- An address has as many bits as its type. -/
theorem number_lt (a : IPAddress) : a.number < 2 ^ a.width := by
  rw [number, width]
  cases a.type with
  | v4 => exact (packV4 a.ipv4).toNat_lt
  | v6 => exact packedNumber_lt _
  | none => exact Nat.two_pow_pos 0

end IPAddress

/-- The two halves of a number. -/
theorem exists_packedNumber {n : Nat} (h : n < 2 ^ 128) : ∃ ip, packedNumber ip = n := by
  refine ⟨(UInt64.ofNat (n / 2 ^ 64), UInt64.ofNat (n % 2 ^ 64)), ?_⟩
  have upper : n / 2 ^ 64 < 2 ^ 64 := by omega
  have lower : n % 2 ^ 64 < 2 ^ 64 := Nat.mod_lt _ (by decide)
  rw [packedNumber, UInt64.toNat_ofNat_of_lt' upper, UInt64.toNat_ofNat_of_lt' lower]
  exact Nat.div_add_mod' n (2 ^ 64)

/-- The bitwise and of packed addresses is the one of their numbers. -/
theorem packedNumber_and (x y : ValueTypePackedV6) :
    packedNumber (x.1 &&& y.1, x.2 &&& y.2) = packedNumber x &&& packedNumber y := by
  refine Nat.eq_of_testBit_eq fun i => ?_
  rw [Nat.testBit_and, packedNumber, packedNumber, packedNumber,
    Blocks.testBit_two_words (x.2 &&& y.2).toNat_lt, Blocks.testBit_two_words x.2.toNat_lt,
    Blocks.testBit_two_words y.2.toNat_lt, UInt64.toNat_and, UInt64.toNat_and, Nat.testBit_and,
    Nat.testBit_and]
  split <;> rfl

/-! ### Valid infos -/

/-- The netmask is a row of `k` ones followed by zeros, and at IPv4 `k` is not zero. -/
def IPAddress.IsNetmask (netmask : IPAddress) (k : Nat) : Prop :=
  netmask.IsMask k ∧ (netmask.type = .v4 → 1 ≤ k)

theorem IPAddress.isMask_ofPackedV4 {m : ValueTypePackedV4} {k : Nat} (hk : k ≤ 32)
    (h : m.toNat = ones 32 k) : (ofPackedV4 m).IsMask k := by
  rw [IsMask, width_v4 (type_ofPackedV4 m), number_ofPackedV4]
  exact ⟨hk, h⟩

/-- The common check of the operations on infos. -/
theorem checkValidIPAddressInfo_spec {a m : IPAddress} (ht : m.type = a.type)
    (ha : a.type = .v4 ∨ a.type = .v6) :
    Checks (checkValidIPAddressInfo a m) (∃ k, m.IsNetmask k) := by
  rw [checkValidIPAddressInfo, if_neg (not_not_intro ht.symm)]
  rcases ha with h | h
  · have hm := ht.trans h
    have same : (∃ k, m.IsNetmask k) ↔ ∃ k, 1 ≤ k ∧ m.IsMask k :=
      exists_congr fun k => ⟨fun hk => ⟨hk.2 hm, hk.1⟩, fun hk => ⟨hk.2, fun _ => hk.1⟩⟩
    rw [h, same]
    exact validateNetmaskV4_spec hm
  · have hm := ht.trans h
    have same : (∃ k, m.IsNetmask k) ↔ ∃ k, m.IsMask k := exists_congr fun k =>
      ⟨fun hk => hk.1, fun hk => ⟨hk, fun h₄ => by cases h₄.symm.trans hm⟩⟩
    rw [h, same]
    exact validateNetmaskV6_spec hm

theorem width_of_type {a m : IPAddress} (ht : m.type = a.type) : m.width = a.width := by
  rw [IPAddress.width, IPAddress.width, ht]

/-- **The base address** is the first one of the block. -/
theorem getNetworkBaseAddress_ok {a m : IPAddress} {k : Nat} (ht : m.type = a.type)
    (ha : a.type = .v4 ∨ a.type = .v6) (hk : m.IsNetmask k) :
    ∃ base, (IPAddressInfo.mk a m).getNetworkBaseAddress = .ok base ∧ base.type = a.type ∧
      base.number = a.number / 2 ^ (a.width - k) * 2 ^ (a.width - k) := by
  have check := (checkValidIPAddressInfo_spec ht ha).accepts ⟨k, hk⟩
  obtain ⟨le, number⟩ := hk.1
  rw [width_of_type ht] at le number
  rw [IPAddressInfo.getNetworkBaseAddress, check, ← Blocks.and_ones le a.number_lt, ← number]
  rcases ha with h | h
  · refine ⟨.ofPackedV4 (packV4 a.ipv4 &&& packV4 m.ipv4), ?_, ?_, ?_⟩
    · simp only [bind, Except.bind, h, IPAddress.and, IPAddress.getIPV4Packed_of_type h,
        IPAddress.getIPV4Packed_of_type (ht.trans h)]
      rfl
    · rw [IPAddress.type_ofPackedV4, h]
    · rw [IPAddress.number_ofPackedV4, IPAddress.number_v4 h, IPAddress.number_v4 (ht.trans h),
        UInt32.toNat_and]
  · refine ⟨.ofPackedV6 ((packV6 a.ipv6).1 &&& (packV6 m.ipv6).1,
      (packV6 a.ipv6).2 &&& (packV6 m.ipv6).2), ?_, ?_, ?_⟩
    · simp only [bind, Except.bind, h, IPAddress.and, IPAddress.getIPV6Packed_of_type h,
        IPAddress.getIPV6Packed_of_type (ht.trans h)]
      rfl
    · rw [IPAddress.type_ofPackedV6, h]
    · rw [IPAddress.number_ofPackedV6, IPAddress.number_v6 h, IPAddress.number_v6 (ht.trans h),
        packedNumber_and]

/-- **The broadcast address** is the last one of the block. -/
theorem getBroadcastAddress_ok {a m : IPAddress} {k : Nat} (ha : a.type = .v4) (hm : m.type = .v4)
    (hk : m.IsNetmask k) :
    ∃ bcast, (IPAddressInfo.mk a m).getBroadcastAddress = .ok bcast ∧ bcast.type = a.type ∧
      bcast.number =
        a.number / 2 ^ (a.width - k) * 2 ^ (a.width - k) + (2 ^ (a.width - k) - 1) := by
  have check := (checkValidIPAddressInfo_spec (hm.trans ha.symm) (.inl ha)).accepts ⟨k, hk⟩
  have number := hk.1.2
  rw [IPAddress.width_v4 hm, IPAddress.number_v4 hm] at number
  refine ⟨.ofPackedV4 (packV4 a.ipv4 ||| ~~~packV4 m.ipv4), ?_, ?_, ?_⟩
  · rw [IPAddressInfo.getBroadcastAddress, check]
    simp only [bind, Except.bind, ha, IPAddress.getIPV4Packed_of_type ha,
      IPAddress.getIPV4Packed_of_type hm]
    rfl
  · rw [IPAddress.type_ofPackedV4, ha]
  · rw [IPAddress.width_v4 ha, IPAddress.number_v4 ha, IPAddress.number_ofPackedV4,
      UInt32.toNat_or, UInt32.toNat_not, number, ← Blocks.or_zeros_ones 32 k]
    rfl

/-- A netmask the validator refuses. -/
theorem getNetworkBaseAddress_error {a m : IPAddress} (ht : m.type = a.type)
    (ha : a.type = .v4 ∨ a.type = .v6) (hm : ¬ ∃ k, m.IsNetmask k) :
    ∃ what, (IPAddressInfo.mk a m).getNetworkBaseAddress = .error (.invalidArgument what) := by
  obtain ⟨what, check⟩ := (checkValidIPAddressInfo_spec ht ha).refuses hm
  exact ⟨what, by rw [IPAddressInfo.getNetworkBaseAddress, check]; rfl⟩

theorem getBroadcastAddress_error {a m : IPAddress} (ht : m.type = a.type)
    (ha : a.type = .v4 ∨ a.type = .v6) (hm : ¬ ∃ k, m.IsNetmask k) :
    ∃ what, (IPAddressInfo.mk a m).getBroadcastAddress = .error (.invalidArgument what) := by
  obtain ⟨what, check⟩ := (checkValidIPAddressInfo_spec ht ha).refuses hm
  exact ⟨what, by rw [IPAddressInfo.getBroadcastAddress, check]; rfl⟩

/-! ### The subnet -/

/-- `base` and `last` are the ends of the subnet of `info`, whose netmask has `k` ones. -/
structure IPAddressInfo.Spans (info : IPAddressInfo) (k : Nat) (base last : IPAddress) : Prop where
  base_le : base.le info.address = .ok true
  le_last : info.address.le last = .ok true
  size : last.number = base.number + (2 ^ (info.address.width - k) - 1)
  /-- The addresses of the subnet are those with this base address. -/
  members : ∀ x : IPAddress, x.type = info.address.type →
    ((∃ b, (IPAddressInfo.mk x info.netmask).getNetworkBaseAddress = .ok b ∧ (b == base) = true) ↔
      base.le x = .ok true ∧ x.le last = .ok true)

/-- The addresses with the base address `base` are the ones of its block. -/
theorem base_eq_iff {a m x base : IPAddress} {k : Nat} (ht : m.type = a.type)
    (ha : a.type = .v4 ∨ a.type = .v6) (hk : m.IsNetmask k) (hx : x.type = a.type)
    (htype : base.type = a.type)
    (hbase : base.number = a.number / 2 ^ (a.width - k) * 2 ^ (a.width - k)) :
    (∃ b, (IPAddressInfo.mk x m).getNetworkBaseAddress = .ok b ∧ (b == base) = true) ↔
      x.number / 2 ^ (a.width - k) = a.number / 2 ^ (a.width - k) := by
  obtain ⟨b, run, type, number⟩ := getNetworkBaseAddress_ok (ht.trans hx.symm) (hx.symm ▸ ha) hk
  rw [width_of_type hx] at number
  have unique : (∃ b, (IPAddressInfo.mk x m).getNetworkBaseAddress = .ok b ∧ (b == base) = true) ↔
      (b == base) = true :=
    ⟨fun ⟨_, run', h⟩ => (Except.ok.inj (run.symm.trans run')) ▸ h, fun h => ⟨b, run, h⟩⟩
  rw [unique, IPAddress.beq_iff_number, number, hbase,
    Nat.mul_left_inj (Nat.two_pow_pos _).ne']
  exact and_iff_right (type.trans (hx.trans htype.symm))

theorem IPAddress.le_iff {a b : IPAddress} (ht : a.type = b.type)
    (ha : a.type = .v4 ∨ a.type = .v6) : a.le b = .ok true ↔ a.number ≤ b.number :=
  (le_decides ht (isValid_of_type ha)).iff

/-- **The block** of an address is its subnet. -/
theorem spans_of_block {a m base last : IPAddress} {k : Nat} (ht : m.type = a.type)
    (ha : a.type = .v4 ∨ a.type = .v6) (hk : m.IsNetmask k) (hbase : base.type = a.type)
    (hlast : last.type = a.type)
    (first : base.number = a.number / 2 ^ (a.width - k) * 2 ^ (a.width - k))
    (size : last.number = base.number + (2 ^ (a.width - k) - 1)) :
    (IPAddressInfo.mk a m).Spans k base last where
  base_le := by
    rw [IPAddress.le_iff hbase (hbase ▸ ha), first]
    exact Blocks.block_le _ _
  le_last := by
    rw [IPAddress.le_iff hlast.symm ha, size, first]
    exact Blocks.le_block _ _
  size := size
  members x hx := by
    have hx : x.type = a.type := hx
    rw [base_eq_iff ht ha hk hx hbase first,
      IPAddress.le_iff (hbase.trans hx.symm) (hbase ▸ ha), IPAddress.le_iff (hx.trans hlast.symm)
        (hx ▸ ha), size, first]
    exact Blocks.same_block_iff

/-- **The subnet law**, at IPv4 between the base and the broadcast address, at IPv6 between the base
address and the last one of its block. -/
theorem subnet_law :
    (∀ a m : IPAddress, a.type = .v4 → m.type = .v4 →
      (∀ k, m.IsMask k → 1 ≤ k → ∃ base bcast,
        (IPAddressInfo.mk a m).getNetworkBaseAddress = .ok base ∧
        (IPAddressInfo.mk a m).getBroadcastAddress = .ok bcast ∧
        base.type = .v4 ∧ bcast.type = .v4 ∧ (IPAddressInfo.mk a m).Spans k base bcast) ∧
      ((¬ ∃ k, m.IsMask k ∧ 1 ≤ k) →
        (∃ what, (IPAddressInfo.mk a m).getNetworkBaseAddress = .error (.invalidArgument what)) ∧
        ∃ what, (IPAddressInfo.mk a m).getBroadcastAddress = .error (.invalidArgument what))) ∧
    ∀ a m : IPAddress, a.type = .v6 → m.type = .v6 →
      (∀ k, m.IsMask k → ∃ base last,
        (IPAddressInfo.mk a m).getNetworkBaseAddress = .ok base ∧
        base.type = .v6 ∧ last.type = .v6 ∧ (IPAddressInfo.mk a m).Spans k base last) ∧
      ((¬ ∃ k, m.IsMask k) →
        ∃ what, (IPAddressInfo.mk a m).getNetworkBaseAddress = .error (.invalidArgument what)) := by
  refine ⟨fun a m ha hm => ⟨fun k hk pos => ?_, fun hno => ?_⟩,
    fun a m ha hm => ⟨fun k hk => ?_, fun hno => ?_⟩⟩
  · have ht := hm.trans ha.symm
    have mask : m.IsNetmask k := ⟨hk, fun _ => pos⟩
    obtain ⟨base, run, type, first⟩ := getNetworkBaseAddress_ok ht (.inl ha) mask
    obtain ⟨bcast, run', type', last⟩ := getBroadcastAddress_ok ha hm mask
    refine ⟨base, bcast, run, run', type.trans ha, type'.trans ha, ?_⟩
    exact spans_of_block ht (.inl ha) mask type type' first (first ▸ last)
  · have refused : ¬ ∃ k, m.IsNetmask k := fun ⟨k, hk⟩ => hno ⟨k, hk.1, hk.2 hm⟩
    have ht := hm.trans ha.symm
    exact ⟨getNetworkBaseAddress_error ht (.inl ha) refused,
      getBroadcastAddress_error ht (.inl ha) refused⟩
  · have ht := hm.trans ha.symm
    have mask : m.IsNetmask k := ⟨hk, fun h₄ => by cases h₄.symm.trans hm⟩
    obtain ⟨base, run, type, first⟩ := getNetworkBaseAddress_ok ht (.inr ha) mask
    -- the last address of the block
    have fits := Blocks.block_lt (Nat.sub_le a.width k) a.number_lt
    rw [← first, IPAddress.width_v6 ha] at fits
    obtain ⟨ip, hip⟩ := exists_packedNumber fits
    have type' := IPAddress.type_ofPackedV6 ip
    refine ⟨base, .ofPackedV6 ip, run, type.trans ha, type', ?_⟩
    refine spans_of_block ht (.inr ha) mask type (type'.trans ha.symm) first ?_
    rw [IPAddress.number_ofPackedV6, hip, IPAddress.width_v6 ha]
  · have refused : ¬ ∃ k, m.IsNetmask k := fun ⟨k, hk⟩ => hno ⟨k, hk.1⟩
    exact getNetworkBaseAddress_error (hm.trans ha.symm) (.inr ha) refused

/-- At `192.168.20.1` and a netmask of twenty ones. -/
theorem subnet_law_lan :
    let info : IPAddressInfo := ⟨.ofV4 #v[192, 168, 20, 1], .ofPackedV4 0xFFFFF000⟩
    ∃ base bcast, info.getNetworkBaseAddress = .ok base ∧ info.getBroadcastAddress = .ok bcast ∧
      base.type = .v4 ∧ bcast.type = .v4 ∧ info.Spans 20 base bcast :=
  (subnet_law.1 _ _ (IPAddress.type_ofV4 _) (IPAddress.type_ofPackedV4 _)).1 20
    (IPAddress.isMask_ofPackedV4 (by decide) (by decide)) (by decide)

end NetworkInterface
