import NetworkInterface.Address.Subnet

/-!
# Address — PrivateNetwork

`IPAddressInfo::isPrivateNetworkAddress`.  The code looks at the one address, and compares the
netmask with the one of the class as an integer.

`isPrivateNetworkAddress_iff`: this is the question whether every address of the subnet is private.
A netmask that is not less has as many ones, so the subnet lies in the block of the class; and a
subnet that is wider than the block also has the block beside it, which is not private.
-/

namespace NetworkInterface
open Support
open Support.Blocks (ones)

/-! ### The test -/

/-- The `isInRange` lambda. -/
def isInRange (rangeStart rangeEnd rangeMask adrs mask : ValueTypePackedV4) : Bool :=
  adrs ≥ rangeStart && adrs ≤ rangeEnd && mask ≥ rangeMask

def privateClassAStart : ValueTypePackedV4 := 0x0A000000
def privateClassAEnd : ValueTypePackedV4 := 0x0AFFFFFF
def privateClassAMask : ValueTypePackedV4 := 0xFF000000
def privateClassBStart : ValueTypePackedV4 := 0xAC100000
def privateClassBEnd : ValueTypePackedV4 := 0xAC1FFFFF
def privateClassBMask : ValueTypePackedV4 := 0xFFF00000
def privateClassCStart : ValueTypePackedV4 := 0xC0A80000
def privateClassCEnd : ValueTypePackedV4 := 0xC0A8FFFF
def privateClassCMask : ValueTypePackedV4 := 0xFFFF0000

/-- `IPAddressInfo::isPrivateNetworkAddress`. -/
def IPAddressInfo.isPrivateNetworkAddress (this : IPAddressInfo) : Outcome Bool := do
  checkValidIPAddressInfo this.address this.netmask
  match this.address.type with
  | .v4   => do
      let adrs ← this.address.getIPV4Packed
      let mask ← this.netmask.getIPV4Packed
      if isInRange privateClassAStart privateClassAEnd privateClassAMask adrs mask ||
          isInRange privateClassBStart privateClassBEnd privateClassBMask adrs mask ||
          isInRange privateClassCStart privateClassCEnd privateClassCMask adrs mask then
        return true
      return false
  | .v6   => throw (.invalidArgument "IPV6 not supported yet")
  | .none => throw (.invalidArgument "Invalid Type")

/-! ### Private addresses -/

/-- The address is one of `network/bits`. -/
def IPAddress.InNetwork (x : IPAddress) (network : ValueTypeV4) (bits : Nat) : Prop :=
  x.number / 2 ^ (32 - bits) = (packV4 network).toNat / 2 ^ (32 - bits)

/-- The address lies in `10.0.0.0/8`, `172.16.0.0/12` or `192.168.0.0/16`. -/
def IPAddress.IsPrivate (x : IPAddress) : Prop :=
  x.InNetwork #v[10, 0, 0, 0] 8 ∨ x.InNetwork #v[172, 16, 0, 0] 12 ∨
    x.InNetwork #v[192, 168, 0, 0] 16

/-- The packed value is in a private block. -/
def PrivateNumber (n : Nat) : Prop :=
  n / 2 ^ 24 = 0x0A ∨ n / 2 ^ 20 = 0xAC1 ∨ n / 2 ^ 16 = 0xC0A8

theorem IPAddress.isPrivate_iff_number {x : IPAddress} : x.IsPrivate ↔ PrivateNumber x.number :=
  Iff.rfl

/-- The range of a class is a block, and a netmask that is not less than the one of the class has as
many ones. -/
theorem isInRange_iff {first last mask adrs m : ValueTypePackedV4} {c bits k : Nat}
    (hbits : bits ≤ 32) (hk : k ≤ 32) (hm : m.toNat = ones 32 k) (hmask : mask.toNat = ones 32 bits)
    (hfirst : first.toNat = c * 2 ^ (32 - bits))
    (hlast : last.toNat = c * 2 ^ (32 - bits) + (2 ^ (32 - bits) - 1)) :
    isInRange first last mask adrs m = true ↔ adrs.toNat / 2 ^ (32 - bits) = c ∧ bits ≤ k := by
  have block := @Blocks.same_block_iff (32 - bits) adrs.toNat (c * 2 ^ (32 - bits))
  rw [Nat.mul_div_cancel _ (Nat.two_pow_pos _)] at block
  simp only [isInRange, Bool.and_eq_true, decide_eq_true_eq, ge_iff_le, UInt32.le_iff_toNat_le, hm,
    hmask, hfirst, hlast, Blocks.ones_le_ones_iff hbits hk, block]

/-- The class ranges, as blocks. -/
theorem isPrivate_ranges {adrs m : ValueTypePackedV4} {k : Nat} (hk : k ≤ 32)
    (hm : m.toNat = ones 32 k) :
    (isInRange privateClassAStart privateClassAEnd privateClassAMask adrs m ||
      isInRange privateClassBStart privateClassBEnd privateClassBMask adrs m ||
      isInRange privateClassCStart privateClassCEnd privateClassCMask adrs m) = true ↔
    adrs.toNat / 2 ^ 24 = 0x0A ∧ 8 ≤ k ∨ adrs.toNat / 2 ^ 20 = 0xAC1 ∧ 12 ≤ k ∨
      adrs.toNat / 2 ^ 16 = 0xC0A8 ∧ 16 ≤ k := by
  have classA := @isInRange_iff privateClassAStart privateClassAEnd privateClassAMask adrs m 0x0A
    8 k (by decide) hk hm (by decide) (by decide) (by decide)
  have classB := @isInRange_iff privateClassBStart privateClassBEnd privateClassBMask adrs m 0xAC1
    12 k (by decide) hk hm (by decide) (by decide) (by decide)
  have classC := @isInRange_iff privateClassCStart privateClassCEnd privateClassCMask adrs m 0xC0A8
    16 k (by decide) hk hm (by decide) (by decide) (by decide)
  rw [Bool.or_eq_true, Bool.or_eq_true, classA, classB, classC, or_assoc]

/-- A subnet wider than a private block is not private: it has the block beside it. -/
theorem exists_public {n h c j : Nat} (hwide : h + 1 ≤ j) (hc : c / 2 = n / 2 ^ h / 2)
    (hpublic : ∀ x, x / 2 ^ h = c → ¬ PrivateNumber x) :
    ∃ x, x / 2 ^ j = n / 2 ^ j ∧ ¬ PrivateNumber x := by
  obtain ⟨x, hx, block⟩ := Blocks.exists_sibling hc
  exact ⟨x, Blocks.same_block_mono hwide block, hpublic x hx⟩

/-- **A subnet is private** when it lies in one of the private blocks. -/
theorem private_block_iff {n k : Nat} (hk : k ≤ 32) :
    (∀ x, x / 2 ^ (32 - k) = n / 2 ^ (32 - k) → PrivateNumber x) ↔
      n / 2 ^ 24 = 0x0A ∧ 8 ≤ k ∨ n / 2 ^ 20 = 0xAC1 ∧ 12 ≤ k ∨ n / 2 ^ 16 = 0xC0A8 ∧ 16 ≤ k := by
  constructor
  · intro all
    have inside : ∀ {h c : Nat}, c / 2 = n / 2 ^ h / 2 → (∀ x, x / 2 ^ h = c → ¬ PrivateNumber x) →
        h ≤ 32 → 32 - h ≤ k := by
      intro h c hc hpublic hh
      by_contra hlt
      obtain ⟨x, block, hx⟩ := exists_public (j := 32 - k) (by omega) hc hpublic
      exact hx (all x block)
    have beside : ∀ x, x / 2 ^ 24 = 0x0B ∨ x / 2 ^ 20 = 0xAC0 ∨ x / 2 ^ 16 = 0xC0A9 →
        ¬ PrivateNumber x := by
      intro x hx hprivate
      rw [PrivateNumber] at hprivate
      omega
    rcases all n rfl with hA | hB | hC
    · exact .inl ⟨hA, inside (c := 0x0B) (by rw [hA]) (fun x hx => beside x (.inl hx)) (by decide)⟩
    · exact .inr (.inl ⟨hB, inside (c := 0xAC0) (by rw [hB])
        (fun x hx => beside x (.inr (.inl hx))) (by decide)⟩)
    · exact .inr (.inr ⟨hC, inside (c := 0xC0A9) (by rw [hC])
        (fun x hx => beside x (.inr (.inr hx))) (by decide)⟩)
  · intro hprivate x hx
    have within : ∀ {h : Nat}, 32 - h ≤ k → x / 2 ^ h = n / 2 ^ h := fun hh =>
      Blocks.same_block_mono (by omega) hx
    rcases hprivate with ⟨hA, h8⟩ | ⟨hB, h12⟩ | ⟨hC, h16⟩
    · exact .inl ((within h8).trans hA)
    · exact .inr (.inl ((within h12).trans hB))
    · exact .inr (.inr ((within h16).trans hC))

/-- The packed values of the IPv4 addresses are the numbers of 32 bits. -/
theorem exists_v4 {n : Nat} (h : n < 2 ^ 32) : ∃ x : IPAddress, x.type = .v4 ∧ x.number = n :=
  ⟨.ofPackedV4 (UInt32.ofNat n), IPAddress.type_ofPackedV4 _,
    (IPAddress.number_ofPackedV4 _).trans (UInt32.toNat_ofNat_of_lt' h)⟩

theorem isPrivateNetworkAddress_v4 {a m : IPAddress} (ha : a.type = .v4) (hm : m.type = .v4)
    (check : checkValidIPAddressInfo a m = .ok ()) :
    (IPAddressInfo.mk a m).isPrivateNetworkAddress = .ok
      (isInRange privateClassAStart privateClassAEnd privateClassAMask (packV4 a.ipv4)
          (packV4 m.ipv4) ||
        isInRange privateClassBStart privateClassBEnd privateClassBMask (packV4 a.ipv4)
          (packV4 m.ipv4) ||
        isInRange privateClassCStart privateClassCEnd privateClassCMask (packV4 a.ipv4)
          (packV4 m.ipv4)) := by
  rw [IPAddressInfo.isPrivateNetworkAddress, check]
  simp only [bind, Except.bind, ha, IPAddress.getIPV4Packed_of_type ha,
    IPAddress.getIPV4Packed_of_type hm]
  split
  · rename_i h
    rw [h]
    rfl
  · rename_i h
    rw [Bool.eq_false_iff.mpr h]
    rfl

/-- **The test** asks whether every address of the subnet is private. -/
theorem isPrivateNetworkAddress_iff {a m : IPAddress} (ha : a.type = .v4) (hm : m.type = .v4) :
    (∀ k, m.IsMask k → 1 ≤ k → ∃ r base bcast,
      (IPAddressInfo.mk a m).isPrivateNetworkAddress = .ok r ∧
      (IPAddressInfo.mk a m).getNetworkBaseAddress = .ok base ∧
      (IPAddressInfo.mk a m).getBroadcastAddress = .ok bcast ∧
      (r = true ↔ ∀ x : IPAddress, x.type = .v4 → base.le x = .ok true → x.le bcast = .ok true →
        x.IsPrivate)) ∧
    ((¬ ∃ k, m.IsMask k ∧ 1 ≤ k) → ∃ what,
      (IPAddressInfo.mk a m).isPrivateNetworkAddress = .error (.invalidArgument what)) := by
  have ht := hm.trans ha.symm
  refine ⟨fun k hk pos => ?_, fun hno => ?_⟩
  · have mask : m.IsNetmask k := ⟨hk, fun _ => pos⟩
    have check := (checkValidIPAddressInfo_spec ht (.inl ha)).accepts ⟨k, mask⟩
    obtain ⟨base, run, type, first⟩ := getNetworkBaseAddress_ok ht (.inl ha) mask
    obtain ⟨bcast, run', type', last⟩ := getBroadcastAddress_ok ha hm mask
    obtain ⟨le, number⟩ := hk
    rw [IPAddress.width_v4 hm] at le number
    rw [IPAddress.number_v4 hm] at number
    have ranges := @isPrivate_ranges (packV4 a.ipv4) _ k le number
    have members : ∀ x : IPAddress, x.type = .v4 → (base.le x = .ok true ∧ x.le bcast = .ok true ↔
        x.number / 2 ^ (32 - k) = a.number / 2 ^ (32 - k)) := fun x hx => by
      have hxa : x.type = a.type := hx.trans ha.symm
      rw [IPAddress.le_iff (type.trans hxa.symm) (.inl (type.trans ha)),
        IPAddress.le_iff (hxa.trans type'.symm) (.inl hx), first, last, IPAddress.width_v4 ha]
      exact Blocks.same_block_iff.symm
    refine ⟨_, base, bcast, isPrivateNetworkAddress_v4 ha hm check, run, run', ?_⟩
    rw [ranges, ← private_block_iff le, ← IPAddress.number_v4 ha]
    constructor
    · intro all x hx above below
      exact IPAddress.isPrivate_iff_number.mpr (all x.number ((members x hx).mp ⟨above, below⟩))
    · intro all n block
      have fits : n < 2 ^ 32 := by
        have := Blocks.block_lt (Nat.sub_le 32 k) (packV4 a.ipv4).toNat_lt
        rw [← IPAddress.number_v4 ha] at this
        exact Nat.lt_of_le_of_lt (Blocks.same_block_iff.mp block).2 this
      obtain ⟨x, hx, rfl⟩ := exists_v4 fits
      obtain ⟨above, below⟩ := (members x hx).mpr block
      exact IPAddress.isPrivate_iff_number.mp (all x hx above below)
  · have refused : ¬ ∃ k, m.IsNetmask k := fun ⟨k, hk⟩ => hno ⟨k, hk.1, hk.2 hm⟩
    obtain ⟨what, check⟩ := (checkValidIPAddressInfo_spec ht (.inl ha)).refuses refused
    exact ⟨what, by rw [IPAddressInfo.isPrivateNetworkAddress, check]; rfl⟩

/-- At `10.1.2.3` and a netmask of nine ones. -/
theorem isPrivateNetworkAddress_iff_classA :
    let info : IPAddressInfo := ⟨.ofV4 #v[10, 1, 2, 3], .ofPackedV4 0xFF800000⟩
    ∃ r base bcast, info.isPrivateNetworkAddress = .ok r ∧
      info.getNetworkBaseAddress = .ok base ∧ info.getBroadcastAddress = .ok bcast ∧
      (r = true ↔ ∀ x : IPAddress, x.type = .v4 → base.le x = .ok true → x.le bcast = .ok true →
        x.IsPrivate) :=
  (isPrivateNetworkAddress_iff (IPAddress.type_ofV4 _) (IPAddress.type_ofPackedV4 _)).1 9
    (IPAddress.isMask_ofPackedV4 (by decide) (by decide)) (by decide)

end NetworkInterface
