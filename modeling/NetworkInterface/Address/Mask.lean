import NetworkInterface.Address.Total

/-!
# Address — Mask

Netmasks: the two ways to make one from a prefix length (`packedV6FromPrefixLength`, which the
macOS delegate uses, and `makePackedMaskV6`, which the Windows one uses), the validators, and
`IPAddressInfo` with its network base address.

An IPv6 address is read bit by bit (`bitOf`), the bit written first at index `0`.  The mask of a
prefix length `p` has its first `p` bits set (`bitOf_packedV6FromPrefixLength`), the base address
under it keeps the first `p` bits (`getNetworkBaseAddress_prefix`), and `makePackedMaskV6` makes
that mask at `0` and at `128` only (`masksAgree_iff`).
-/

namespace NetworkInterface
open Support

/-! ### Shifts -/

/-- `word << count`. -/
def shiftLeft64 (word : UInt64) (count : Nat) : Outcome UInt64 :=
  if count < 64 then .ok (word <<< UInt64.ofNat count) else .error (.undefinedShift count)

/-- `word >> count`. -/
def shiftRight64 (word : UInt64) (count : Nat) : Outcome UInt64 :=
  if count < 64 then .ok (word >>> UInt64.ofNat count) else .error (.undefinedShift count)

/-- `~std::uint64_t(0)`. -/
def allOnes : UInt64 := 0xFFFFFFFFFFFFFFFF

/-! ### Masks -/

/-- `makePackedMaskV4`. -/
def makePackedMaskV4 (countBits : UInt8) : ValueTypePackedV4 :=
  if countBits ≥ 32 then 0xFFFFFFFF
  else if countBits = 0 then 0
  else 0xFFFFFFFF <<< (32 - countBits.toUInt32)

/-- `makePackedMaskV6`. -/
def makePackedMaskV6 (countBits : UInt8) : Outcome ValueTypePackedV6 :=
  if countBits ≥ 128 then .ok (allOnes, allOnes)
  else if countBits = 0 then .ok (0, 0)
  else do
    let lsbToShift := min countBits.toNat 64
    let second ← shiftLeft64 allOnes lsbToShift
    let msbToShift := countBits.toNat - lsbToShift
    let first ← shiftLeft64 allOnes msbToShift
    return (first, second)

/-- `IPAddress::packedV6FromPrefixLength`. -/
def packedV6FromPrefixLength (length : UInt8) : Outcome ValueTypePackedV6 :=
  if length = 64 then .ok (allOnes, 0)
  else if length = 128 then .ok (allOnes, allOnes)
  else if length < 64 then do
    return (~~~(← shiftRight64 allOnes length.toNat), 0)
  else do
    return (allOnes, ~~~(← shiftRight64 allOnes (length.toNat - 64)))

/-- `countOnes`, on the bits below `i`: how many ones there are before the first zero. -/
def countOnes (bits : UInt64) : (i : Nat) → Nat
  | 0 => 0
  | i + 1 => if bits.toNat.testBit i then countOnes bits i + 1 else 0

/-- `IPAddress::prefixLengthFromPackedV6`. -/
def prefixLengthFromPackedV6 (packed : ValueTypePackedV6) : UInt8 :=
  let firstPartCount := countOnes packed.1 64
  let secondPartCount := countOnes packed.2 64
  if firstPartCount = 64 then UInt8.ofNat (64 + secondPartCount) else UInt8.ofNat firstPartCount

namespace IPAddress

/-- `getIPV4Packed`. -/
def getIPV4Packed (this : IPAddress) : Outcome ValueTypePackedV4 :=
  if this.type = .v4 then .ok (packV4 this.ipv4) else .error (.invalidArgument "Not an IP V4")

/-- `getIPV6Packed`. -/
def getIPV6Packed (this : IPAddress) : Outcome ValueTypePackedV6 :=
  if this.type = .v6 then .ok (packV6 this.ipv6) else .error (.invalidArgument "Not an IP V6")

/-- `operator&(IPAddress const&, IPAddress const&)`. -/
def and (lhs rhs : IPAddress) : Outcome IPAddress :=
  match lhs.type with
  | .v4 => do return ofPackedV4 ((← lhs.getIPV4Packed) &&& (← rhs.getIPV4Packed))
  | .v6 => do
      let l ← lhs.getIPV6Packed
      let r ← rhs.getIPV6Packed
      return ofPackedV6 (l.1 &&& r.1, l.2 &&& r.2)
  | .none => .error (.invalidArgument "Invalid Type")

/-- `operator|(IPAddress const&, IPAddress const&)`. -/
def or (lhs rhs : IPAddress) : Outcome IPAddress :=
  match lhs.type with
  | .v4 => do return ofPackedV4 ((← lhs.getIPV4Packed) ||| (← rhs.getIPV4Packed))
  | .v6 => do
      let l ← lhs.getIPV6Packed
      let r ← rhs.getIPV6Packed
      return ofPackedV6 (l.1 ||| r.1, l.2 ||| r.2)
  | .none => .error (.invalidArgument "Invalid Type")

end IPAddress

/-! ### Validation -/

/-- The loop of `validateNetmaskV4`, over the bits from `i` on. -/
def scanNetmaskV4 (packed : ValueTypePackedV4) : (turns i : Nat) → (maskStarted : Bool) →
    Outcome Bool
  | 0, _, maskStarted => .ok maskStarted
  | turns + 1, i, maskStarted =>
      if packed.toNat.testBit i then scanNetmaskV4 packed turns (i + 1) true
      else if maskStarted then .error (.invalidArgument "netmask is not contiguous")
      else scanNetmaskV4 packed turns (i + 1) maskStarted

def validateNetmaskV4 (netmask : IPAddress) : Outcome Unit := do
  let packed ← netmask.getIPV4Packed
  let maskStarted ← scanNetmaskV4 packed 32 0 false
  if !maskStarted then throw (.invalidArgument "netmask cannot be empty")

def validateNetmaskV6 (netmask : IPAddress) : Outcome Unit := do
  let packedMask ← netmask.getIPV6Packed
  let prefixLength := prefixLengthFromPackedV6 packedMask
  let packedMaskFromPrefix ← packedV6FromPrefixLength prefixLength
  if packedMask ≠ packedMaskFromPrefix then throw (.invalidArgument "netmask is not contiguous")

/-! ### IPAddressInfo -/

structure IPAddressInfo where
  address : IPAddress
  netmask : IPAddress

/-- `operator==(IPAddressInfo const&, IPAddressInfo const&)`. -/
instance : BEq IPAddressInfo :=
  ⟨fun lhs rhs => lhs.address == rhs.address && lhs.netmask == rhs.netmask⟩

theorem IPAddressInfo.beq_iff {a b : IPAddressInfo} :
    (a == b) = true ↔ (a.address == b.address) = true ∧ (a.netmask == b.netmask) = true :=
  Bool.and_eq_true_iff

instance : EquivBEq IPAddressInfo where
  rfl := IPAddressInfo.beq_iff.mpr ⟨BEq.rfl, BEq.rfl⟩
  symm h := by
    obtain ⟨ha, hm⟩ := IPAddressInfo.beq_iff.mp h
    exact IPAddressInfo.beq_iff.mpr ⟨BEq.symm ha, BEq.symm hm⟩
  trans h h' := by
    obtain ⟨ha, hm⟩ := IPAddressInfo.beq_iff.mp h
    obtain ⟨ha', hm'⟩ := IPAddressInfo.beq_iff.mp h'
    exact IPAddressInfo.beq_iff.mpr ⟨BEq.trans ha ha', BEq.trans hm hm'⟩

def checkValidIPAddressInfo (address netmask : IPAddress) : Outcome Unit :=
  if address.type ≠ netmask.type then
    .error (.invalidArgument "address and netmask not of the same Type")
  else match address.type with
    | .v4   => validateNetmaskV4 netmask
    | .v6   => validateNetmaskV6 netmask
    | .none => .error (.invalidArgument "Invalid Type")

/-- `IPAddressInfo::getNetworkBaseAddress`. -/
def IPAddressInfo.getNetworkBaseAddress (this : IPAddressInfo) : Outcome IPAddress := do
  checkValidIPAddressInfo this.address this.netmask
  match this.address.type with
  | .v4 | .v6 => this.address.and this.netmask
  | .none     => throw (.invalidArgument "Invalid Type")

/-! ### The bits of a mask -/

/-- Bit `i` of an address, in the order it is written. -/
def bitOf (ip : ValueTypePackedV6) (i : Nat) : Bool :=
  if i < 64 then ip.1.toNat.testBit (63 - i) else ip.2.toNat.testBit (127 - i)

theorem bitOf_and (x y : ValueTypePackedV6) (i : Nat) :
    bitOf (x.1 &&& y.1, x.2 &&& y.2) i = (bitOf x i && bitOf y i) := by
  rw [bitOf, bitOf, bitOf]
  split <;> simp

/-- The first `n` bits of the word are set, and no other. -/
def LeadingOnes (word : UInt64) (n : Nat) : Prop :=
  ∀ k < 64, word.toNat.testBit k = decide (64 - n ≤ k)

theorem leadingOnes_zero : LeadingOnes 0 0 := fun k hk => by
  simp
  omega

theorem leadingOnes_allOnes : LeadingOnes allOnes 64 := fun k hk => by
  rw [show allOnes.toNat = 2 ^ 64 - 1 from rfl, Nat.testBit_two_pow_sub_one]
  simp [hk]

theorem leadingOnes_not_shiftRight {n : Nat} (hn : n < 64) :
    LeadingOnes (~~~(allOnes >>> UInt64.ofNat n)) n := by
  intro k hk
  have count : (UInt64.ofNat n).toNat % 64 = n := by
    rw [UInt64.toNat_ofNat', Nat.mod_eq_of_lt (show n < 2 ^ 64 by omega), Nat.mod_eq_of_lt hn]
  have ones : (allOnes >>> UInt64.ofNat n).toNat = (2 ^ 64 - 1) >>> n := by
    rw [UInt64.toNat_shiftRight, count]
    rfl
  have lt := (allOnes >>> UInt64.ofNat n).toNat_lt
  rw [UInt64.toNat_not, show UInt64.size - 1 - (allOnes >>> UInt64.ofNat n).toNat =
      2 ^ 64 - ((allOnes >>> UInt64.ofNat n).toNat + 1) by simp [UInt64.size],
    Nat.testBit_two_pow_sub_succ lt, ones, Nat.testBit_shiftRight, Nat.testBit_two_pow_sub_one,
    decide_eq_true hk, Bool.true_and, ← decide_not, decide_eq_decide]
  omega

theorem bitOf_leadingOnes {m : ValueTypePackedV6} {j k : Nat} (h₁ : LeadingOnes m.1 j)
    (h₂ : LeadingOnes m.2 k) {i : Nat} (hi : i < 128) :
    bitOf m i = if i < 64 then decide (i < j) else decide (i < 64 + k) := by
  rw [bitOf]
  split
  · rw [h₁ _ (by omega), decide_eq_decide]
    omega
  · rw [h₂ _ (by omega), decide_eq_decide]
    omega

/-- Counting from the first bit on. -/
theorem countOnes_eq {word : UInt64} {n : Nat} (h : LeadingOnes word n) :
    ∀ i ≤ 64, countOnes word i = i - (64 - n) := by
  intro i
  induction i with
  | zero => exact fun _ => (Nat.zero_sub _).symm
  | succ i ih =>
      intro hi
      rw [countOnes, h i hi, ih (by omega)]
      by_cases hk : 64 - n ≤ i
      · rw [if_pos (decide_eq_true hk)]
        omega
      · rw [if_neg (by simpa using hk)]
        omega

/-- **The mask of a prefix length**, word by word. -/
theorem packedV6FromPrefixLength_spec {p : UInt8} (hp : p.toNat ≤ 128) :
    ∃ m, packedV6FromPrefixLength p = .ok m ∧ LeadingOnes m.1 (min p.toNat 64) ∧
      LeadingOnes m.2 (p.toNat - 64) := by
  rw [packedV6FromPrefixLength]
  split
  · rename_i h
    exact ⟨_, rfl, by rw [h]; exact leadingOnes_allOnes, by rw [h]; exact leadingOnes_zero⟩
  rename_i h₆₄
  split
  · rename_i h
    exact ⟨_, rfl, by rw [h]; exact leadingOnes_allOnes, by rw [h]; exact leadingOnes_allOnes⟩
  rename_i h₁₂₈
  have ne : ∀ {q : UInt8}, p ≠ q → p.toNat ≠ q.toNat := fun h hc => h (UInt8.toNat_inj.mp hc)
  have h₆₄ : p.toNat ≠ 64 := ne h₆₄
  have h₁₂₈ : p.toNat ≠ 128 := ne h₁₂₈
  split
  · -- the mask ends in the first word
    rename_i h
    have h : p.toNat < 64 := h
    refine ⟨_, by rw [shiftRight64, if_pos h]; rfl, ?_, ?_⟩
    · rw [Nat.min_eq_left h.le]
      exact leadingOnes_not_shiftRight h
    · rw [Nat.sub_eq_zero_of_le h.le]
      exact leadingOnes_zero
  · -- or in the second one
    rename_i h
    have h : ¬ p.toNat < 64 := h
    refine ⟨_, by rw [shiftRight64, if_pos (show p.toNat - 64 < 64 by omega)]; rfl, ?_, ?_⟩
    · rw [Nat.min_eq_right (by omega)]
      exact leadingOnes_allOnes
    · exact leadingOnes_not_shiftRight (by omega)

theorem bitOf_packedV6FromPrefixLength {p : UInt8} (hp : p.toNat ≤ 128) {m : ValueTypePackedV6}
    (h : packedV6FromPrefixLength p = .ok m) {i : Nat} (hi : i < 128) :
    bitOf m i = decide (i < p.toNat) := by
  obtain ⟨m', h', h₁, h₂⟩ := packedV6FromPrefixLength_spec hp
  obtain rfl := Except.ok.inj (h'.symm.trans h)
  rw [bitOf_leadingOnes h₁ h₂ hi]
  split <;> rw [decide_eq_decide] <;> omega

/-- The prefix length is read back from its mask. -/
theorem prefixLengthFromPackedV6_spec {p : UInt8} (hp : p.toNat ≤ 128) {m : ValueTypePackedV6}
    (h : packedV6FromPrefixLength p = .ok m) : prefixLengthFromPackedV6 m = p := by
  obtain ⟨m', h', h₁, h₂⟩ := packedV6FromPrefixLength_spec hp
  obtain rfl := Except.ok.inj (h'.symm.trans h)
  rw [prefixLengthFromPackedV6, countOnes_eq h₁ 64 (Nat.le_refl _),
    countOnes_eq h₂ 64 (Nat.le_refl _)]
  split
  · rw [show 64 + (64 - (64 - (p.toNat - 64))) = p.toNat by omega, UInt8.ofNat_toNat]
  · rw [show 64 - (64 - min p.toNat 64) = p.toNat by omega, UInt8.ofNat_toNat]

/-! ### The base address -/

theorem IPAddress.getIPV6Packed_of_type {a : IPAddress} (h : a.type = .v6) :
    a.getIPV6Packed = .ok (packV6 a.ipv6) := if_pos h

theorem IPAddress.packV6_ofPackedV6 (ip : ValueTypePackedV6) : packV6 (ofPackedV6 ip).ipv6 = ip :=
  (congrArg packV6 (ipv6_setValueV6 _ _)).trans (packV6_unpackV6 ip)

/-- The mask of a prefix length is accepted. -/
theorem validateNetmaskV6_prefix {p : UInt8} (hp : p.toNat ≤ 128) {m : ValueTypePackedV6}
    (hm : packedV6FromPrefixLength p = .ok m) : validateNetmaskV6 (.ofPackedV6 m) = .ok () := by
  rw [validateNetmaskV6, IPAddress.getIPV6Packed_of_type (IPAddress.type_ofPackedV6 m),
    IPAddress.packV6_ofPackedV6]
  simp only [bind, Except.bind, prefixLengthFromPackedV6_spec hp hm, hm]
  exact if_neg (not_not_intro rfl)

/-- **The base address** under the mask of a prefix length keeps the first bits. -/
theorem getNetworkBaseAddress_prefix {a : IPAddress} (ha : a.type = .v6) {p : UInt8}
    (hp : p.toNat ≤ 128) {m : ValueTypePackedV6} (hm : packedV6FromPrefixLength p = .ok m) :
    ∃ b, (IPAddressInfo.mk a (.ofPackedV6 m)).getNetworkBaseAddress = .ok b ∧ b.type = .v6 ∧
      ∀ i < 128, bitOf (packV6 b.ipv6) i = (decide (i < p.toNat) && bitOf (packV6 a.ipv6) i) := by
  have type := IPAddress.type_ofPackedV6 m
  have valid : checkValidIPAddressInfo a (.ofPackedV6 m) = .ok () := by
    rw [checkValidIPAddressInfo, if_neg (not_not_intro (ha.trans type.symm)), ha]
    exact validateNetmaskV6_prefix hp hm
  refine ⟨.ofPackedV6 ((packV6 a.ipv6).1 &&& m.1, (packV6 a.ipv6).2 &&& m.2), ?_,
    IPAddress.type_ofPackedV6 _, fun i hi => ?_⟩
  · rw [IPAddressInfo.getNetworkBaseAddress, valid]
    simp only [bind, Except.bind, ha, IPAddress.and, IPAddress.getIPV6Packed_of_type ha,
      IPAddress.getIPV6Packed_of_type type, IPAddress.packV6_ofPackedV6]
    rfl
  · rw [IPAddress.packV6_ofPackedV6, bitOf_and, bitOf_packedV6FromPrefixLength hp hm hi,
      Bool.and_comm]

/-! ### Two masks for one prefix length -/

/-- `info` has a base address, which keeps the first `p` bits of the address and no other. -/
def KeepsPrefix (info : IPAddressInfo) (p : Nat) : Prop :=
  ∃ b, info.getNetworkBaseAddress = .ok b ∧ b.type = .v6 ∧
    ∀ i < 128, bitOf (packV6 b.ipv6) i = (decide (i < p) && bitOf (packV6 info.address.ipv6) i)

/-- The two masks for the prefix length `p` make the same information about `a`, and its base
address keeps the first `p` bits. -/
def MasksAgree (a : IPAddress) (p : UInt8) : Prop :=
  ∃ m m', makePackedMaskV6 p = .ok m ∧ packedV6FromPrefixLength p = .ok m' ∧
    (IPAddressInfo.mk a (.ofPackedV6 m) == IPAddressInfo.mk a (.ofPackedV6 m')) = true ∧
    KeepsPrefix ⟨a, .ofPackedV6 m⟩ p.toNat ∧ KeepsPrefix ⟨a, .ofPackedV6 m'⟩ p.toNat

/-- `makePackedMaskV6` counts its bits from the wrong end: up to `63` it clears that many bits, and
from `64` on it shifts a word out of its range. -/
theorem makePackedMaskV6_inside {p : UInt8} (h₀ : p ≠ 0) (h₁₂₈ : p.toNat < 128) :
    makePackedMaskV6 p = if p.toNat < 64 then .ok (allOnes, allOnes <<< UInt64.ofNat p.toNat)
      else .error (.undefinedShift 64) := by
  have small : ¬ p ≥ 128 := Nat.not_le.mpr h₁₂₈
  rw [makePackedMaskV6, if_neg small, if_neg h₀]
  split
  · rename_i h
    simp only [shiftLeft64, Nat.min_eq_left h.le, Nat.sub_self, if_pos h]
    rfl
  · rename_i h
    simp only [shiftLeft64, Nat.min_eq_right (Nat.not_lt.mp h)]
    rfl

theorem not_masksAgree {a : IPAddress} {p : UInt8} (h₀ : p ≠ 0) (h₁₂₈ : p.toNat < 128) :
    ¬ MasksAgree a p := by
  rintro ⟨m, m', hm, hm', heq, -, -⟩
  rw [makePackedMaskV6_inside h₀ h₁₂₈] at hm
  split at hm
  · rename_i h
    obtain rfl := Except.ok.inj hm
    -- the first words differ
    have same := ((IPAddressInfo.beq_iff.mp heq).2 |> IPAddress.beq_iff.mp).2.2
      (IPAddress.type_ofPackedV6 _)
    have first := congrArg Prod.fst (congrArg packV6 same)
    rw [IPAddress.packV6_ofPackedV6, IPAddress.packV6_ofPackedV6] at first
    obtain ⟨m'', hm'', ones, -⟩ := packedV6FromPrefixLength_spec h₁₂₈.le
    obtain rfl := Except.ok.inj (hm''.symm.trans hm')
    have bit := ones 0 (by decide)
    rw [← first, leadingOnes_allOnes 0 (by decide), decide_eq_decide] at bit
    omega
  · cases hm

theorem masksAgree_of_mask_eq {a : IPAddress} (ha : a.type = .v6) {p : UInt8}
    (hp : p.toNat ≤ 128) (h : makePackedMaskV6 p = packedV6FromPrefixLength p) :
    MasksAgree a p := by
  obtain ⟨m, hm, -⟩ := packedV6FromPrefixLength_spec hp
  exact ⟨m, m, h.trans hm, hm, BEq.rfl, getNetworkBaseAddress_prefix ha hp hm,
    getNetworkBaseAddress_prefix ha hp hm⟩

/-- **The two masks** agree at the two ends only. -/
theorem masksAgree_iff {a : IPAddress} (ha : a.type = .v6) {p : UInt8} (hp : p.toNat ≤ 128) :
    MasksAgree a p ↔ p = 0 ∨ p = 128 := by
  refine ⟨fun h => ?_, ?_⟩
  · by_cases h₀ : p = 0
    · exact .inl h₀
    · refine .inr (UInt8.toNat_inj.mp (Nat.le_antisymm hp (Nat.not_lt.mp fun h₁₂₈ => ?_)))
      exact not_masksAgree h₀ h₁₂₈ h
  · rintro (rfl | rfl)
    · exact masksAgree_of_mask_eq ha hp (by decide)
    · exact masksAgree_of_mask_eq ha hp (by decide)

/-- At `fe80::1` and the prefix length of most networks. -/
theorem masksAgree_iff_64 :
    MasksAgree (.ofV6 #v[0xfe80, 0, 0, 0, 0, 0, 0, 1]) 64 ↔ (64 : UInt8) = 0 ∨ (64 : UInt8) = 128 :=
  masksAgree_iff (IPAddress.type_ofV6 _) (by decide)

/-- At `fe80::1` the prefix length `10` gets a mask of `118` bits. -/
theorem not_forall_masksAgree :
    ¬ ∀ (a : IPAddress) (p : UInt8), a.type = .v6 → p.toNat ≤ 128 → MasksAgree a p := fun h =>
  not_masksAgree (p := 10) (by decide) (by decide)
    (h (.ofV6 #v[0xfe80, 0, 0, 0, 0, 0, 0, 1]) 10 (IPAddress.type_ofV6 _) (by decide))

end NetworkInterface
