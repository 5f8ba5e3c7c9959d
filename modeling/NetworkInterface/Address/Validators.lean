import NetworkInterface.Address.Order
import NetworkInterface.Support.Blocks

/-!
# Address — Validators

Which netmasks the validators accept.  `validateNetmaskV4` scans the bits from the last one and
wants the ones in a row at the end of its scan; `validateNetmaskV6` counts the leading ones and
builds the mask again.  Both accept the numbers of `k` ones followed by zeros, the first one only
if there is a one (`validateNetmaskV4_spec`, `validateNetmaskV6_spec`).

`validators_accept`: so they accept what the builders make, and the prefix length of an IPv6 mask is
the number of its leading ones, in both versions of the counting code.
-/

namespace NetworkInterface
open Support
open Support.Blocks (ones LeadsWith)

/-! ### Counting -/

/-- `std::countl_one`, on a word of 64 bits: the bits from the most significant one on, while they
are set. -/
def countlOne (x : UInt64) : Nat :=
  ((List.range 64).takeWhile fun i => x.toNat.testBit (64 - 1 - i)).length

/-- `IPAddress::prefixLengthFromPackedV6`, where `__cpp_lib_bitops` is there. -/
def prefixLengthFromPackedV6Bitops (packed : ValueTypePackedV6) : UInt8 :=
  let firstPartCount := UInt8.ofNat (countlOne packed.1)
  let secondPartCount := UInt8.ofNat (countlOne packed.2)
  if firstPartCount = 64 then 64 + secondPartCount else firstPartCount

/-- The loop over the bits of a word counts its leading ones. -/
theorem leadsWith_countOnes (bits : UInt64) (i : Nat) :
    LeadsWith i bits.toNat (countOnes bits i) := by
  induction i with
  | zero =>
      exact ⟨Nat.le_refl 0, fun i _ hi => absurd hi (Nat.not_lt_zero i),
        fun h => absurd h (Nat.lt_irrefl 0)⟩
  | succ i ih =>
      rw [countOnes]
      split
      · exact ih.succ ‹_›
      · exact .zero (Bool.eq_false_iff.mpr ‹_›)

/-- **The prefix length** is the number of leading ones. -/
theorem leadsWith_prefixLength (packed : ValueTypePackedV6) :
    LeadsWith 128 (packedNumber packed) (prefixLengthFromPackedV6 packed).toNat := by
  have first := leadsWith_countOnes packed.1 64
  have second := leadsWith_countOnes packed.2 64
  have both := first.append packed.2.toNat_lt second
  have le := both.le
  rw [prefixLengthFromPackedV6]
  split
  · rename_i full
    rw [if_pos full] at both le
    rwa [UInt8.toNat_ofNat_of_lt' (Nat.lt_of_le_of_lt le (by decide))]
  · rename_i full
    rw [if_neg full] at both le
    rwa [UInt8.toNat_ofNat_of_lt' (Nat.lt_of_le_of_lt le (by decide))]

theorem countlOne_eq (x : UInt64) : countlOne x = countOnes x 64 :=
  (Blocks.leadsWith_takeWhile 64 x.toNat).unique (leadsWith_countOnes x 64)

/-- The two versions count the same. -/
theorem prefixLengthFromPackedV6Bitops_eq (packed : ValueTypePackedV6) :
    prefixLengthFromPackedV6Bitops packed = prefixLengthFromPackedV6 packed := by
  have le := (leadsWith_countOnes packed.1 64).le
  have full : UInt8.ofNat (countOnes packed.1 64) = 64 ↔ countOnes packed.1 64 = 64 := by
    rw [← UInt8.toNat_inj, UInt8.toNat_ofNat_of_lt' (Nat.lt_of_le_of_lt le (by decide))]
    exact Iff.rfl
  simp only [prefixLengthFromPackedV6Bitops, prefixLengthFromPackedV6, countlOne_eq, full]
  rw [UInt8.ofNat_add]
  rfl

/-! ### The masks the builders make -/

/-- The mask of a prefix length, as a number. -/
theorem packedNumber_fromPrefixLength {p : UInt8} (hp : p.toNat ≤ 128) :
    ∃ m, packedV6FromPrefixLength p = .ok m ∧ packedNumber m = ones 128 p.toNat := by
  obtain ⟨m, hm, first, second⟩ := packedV6FromPrefixLength_spec hp
  refine ⟨m, hm, Blocks.eq_ones hp (packedNumber_lt m) fun i hi => ?_⟩
  rw [packedNumber, Blocks.testBit_two_words m.2.toNat_lt]
  split
  · rw [second i ‹_›, decide_eq_decide]
    omega
  · rw [first _ (by omega), decide_eq_decide]
    omega

theorem toNat_makePackedMaskV4 {k : UInt8} (hk : k.toNat ≤ 32) :
    (makePackedMaskV4 k).toNat = ones 32 k.toNat := by
  have all : ∀ n < 33, (makePackedMaskV4 (UInt8.ofNat n)).toNat = ones 32 n := by decide
  have := all k.toNat (Nat.lt_succ_of_le hk)
  rwa [UInt8.ofNat_toNat] at this

/-! ### The scan of an IPv4 mask -/

/-- Behind the first one, the scan wants ones only. -/
theorem scanNetmaskV4_started (packed : ValueTypePackedV4) (turns : Nat) : ∀ i,
    scanNetmaskV4 packed turns i true = .ok true ∧
        (∀ x, i ≤ x → x < i + turns → packed.toNat.testBit x = true) ∨
      (∃ what, scanNetmaskV4 packed turns i true = .error (.invalidArgument what)) ∧
        ∃ x, i ≤ x ∧ x < i + turns ∧ packed.toNat.testBit x = false := by
  induction turns with
  | zero => exact fun i => .inl ⟨rfl, fun x hx hx' => by omega⟩
  | succ turns ih =>
      intro i
      rw [scanNetmaskV4]
      cases hbit : packed.toNat.testBit i with
      | false => exact .inr ⟨⟨_, rfl⟩, i, Nat.le_refl i, by omega, hbit⟩
      | true =>
          rcases ih (i + 1) with ⟨run, all⟩ | ⟨run, x, hx, hx', hclear⟩
          · refine .inl ⟨run, fun x hx hx' => ?_⟩
            rcases Nat.eq_or_lt_of_le hx with rfl | hlt
            · exact hbit
            · exact all x hlt (by omega)
          · exact .inr ⟨run, x, by omega, by omega, hclear⟩

/-- Up to the first one the scan wants nothing: it passes over `j - i` zeros. -/
theorem scanNetmaskV4_fresh (packed : ValueTypePackedV4) (turns : Nat) : ∀ i,
    (∃ j, i ≤ j ∧ j ≤ i + turns ∧
        scanNetmaskV4 packed turns i false = .ok (decide (j < i + turns)) ∧
        ∀ x, i ≤ x → x < i + turns → packed.toNat.testBit x = decide (j ≤ x)) ∨
      (∃ what, scanNetmaskV4 packed turns i false = .error (.invalidArgument what)) ∧
        ∃ x y, x < y ∧ y < i + turns ∧ packed.toNat.testBit x = true ∧
          packed.toNat.testBit y = false := by
  induction turns with
  | zero =>
      intro i
      exact .inl ⟨i, Nat.le_refl i, Nat.le_refl i, by simp [scanNetmaskV4],
        fun x hx hx' => by omega⟩
  | succ turns ih =>
      intro i
      rw [scanNetmaskV4]
      cases hbit : packed.toNat.testBit i with
      | true =>
          -- the mask starts here
          rcases scanNetmaskV4_started packed turns (i + 1) with
            ⟨run, all⟩ | ⟨run, y, hy, hy', hclear⟩
          · refine .inl ⟨i, Nat.le_refl i, by omega, ?_, fun x hx hx' => ?_⟩
            · rw [if_pos rfl, run]
              simp
            · rw [decide_eq_true hx]
              rcases Nat.eq_or_lt_of_le hx with rfl | hlt
              · exact hbit
              · exact all x hlt (by omega)
          · exact .inr ⟨by simpa using run, i, y, by omega, by omega, hbit, hclear⟩
      | false =>
          rcases ih (i + 1) with ⟨j, hj, hj', run, bits⟩ | ⟨run, x, y, hxy, hy, hset, hclear⟩
          · refine .inl ⟨j, by omega, by omega, ?_, fun x hx hx' => ?_⟩
            · rw [if_neg Bool.false_ne_true, if_neg Bool.false_ne_true, run]
              simp only [Nat.add_assoc, Nat.add_comm 1 turns]
            · rcases Nat.eq_or_lt_of_le hx with rfl | hlt
              · rw [hbit]
                exact (decide_eq_false (by omega)).symm
              · exact bits x hlt (by omega)
          · exact .inr ⟨by simpa using run, x, y, hxy, by omega, hset, hclear⟩

/-! ### The validators -/

/-- The call returns where `p` holds, and throws `std::invalid_argument` where it does not. -/
structure Checks (o : Outcome Unit) (p : Prop) : Prop where
  accepts : p → o = .ok ()
  refuses : ¬ p → ∃ what, o = .error (.invalidArgument what)

theorem Checks.iff {o : Outcome Unit} {p : Prop} (h : Checks o p) : o = .ok () ↔ p := by
  refine ⟨fun ho => ?_, h.accepts⟩
  by_contra hp
  obtain ⟨what, he⟩ := h.refuses hp
  cases ho.symm.trans he

theorem checks_ok {p : Prop} (hp : p) : Checks (.ok ()) p := ⟨fun _ => rfl, fun h => absurd hp h⟩

theorem checks_error {p : Prop} (hp : ¬ p) (what : String) :
    Checks (.error (.invalidArgument what)) p := ⟨fun h => absurd h hp, fun _ => ⟨what, rfl⟩⟩

/-- The packed value is `k` ones followed by zeros. -/
def IPAddress.IsMask (netmask : IPAddress) (k : Nat) : Prop :=
  k ≤ netmask.width ∧ netmask.number = ones netmask.width k

theorem IPAddress.getIPV4Packed_of_type {a : IPAddress} (h : a.type = .v4) :
    a.getIPV4Packed = .ok (packV4 a.ipv4) := if_pos h

theorem IPAddress.number_v4 {a : IPAddress} (h : a.type = .v4) :
    a.number = (packV4 a.ipv4).toNat := by rw [number, h]

theorem IPAddress.number_v6 {a : IPAddress} (h : a.type = .v6) :
    a.number = packedNumber (packV6 a.ipv6) := by rw [number, h]

theorem IPAddress.width_v4 {a : IPAddress} (h : a.type = .v4) : a.width = 32 := by rw [width, h]

theorem IPAddress.width_v6 {a : IPAddress} (h : a.type = .v6) : a.width = 128 := by rw [width, h]

/-- **The IPv4 validator** accepts a row of ones, not empty, followed by zeros. -/
theorem validateNetmaskV4_spec {netmask : IPAddress} (h : netmask.type = .v4) :
    Checks (validateNetmaskV4 netmask) (∃ k, 1 ≤ k ∧ netmask.IsMask k) := by
  rw [validateNetmaskV4, IPAddress.getIPV4Packed_of_type h]
  simp only [IPAddress.IsMask, IPAddress.width_v4 h, IPAddress.number_v4 h]
  generalize packV4 netmask.ipv4 = packed
  rcases scanNetmaskV4_fresh packed 32 0 with
    ⟨j, -, hj, run, bits⟩ | ⟨⟨what, run⟩, x, y, hxy, hy, hset, hclear⟩
  · -- `j` zeros at the end
    have mask : packed.toNat = ones 32 (32 - j) := Blocks.eq_ones (by omega) packed.toNat_lt
      fun i hi => by
        rw [bits i (Nat.zero_le i) (by omega), decide_eq_decide]
        omega
    simp only [bind, Except.bind, run]
    by_cases hstarted : j < 32
    · have : decide (j < 0 + 32) = true := decide_eq_true (by omega)
      rw [this]
      exact checks_ok ⟨32 - j, by omega, by omega, mask⟩
    · have : decide (j < 0 + 32) = false := decide_eq_false (by omega)
      rw [this]
      refine checks_error ?_ _
      rintro ⟨k, hk, hk', hn⟩
      have := Blocks.ones_inj (by omega) hk' (mask.symm.trans hn)
      omega
  · simp only [bind, Except.bind, run]
    refine checks_error ?_ _
    rintro ⟨k, hk, hk', hn⟩
    rw [hn, Blocks.testBit_ones hk', decide_eq_true_eq] at hset
    rw [hn, Blocks.testBit_ones hk', decide_eq_false_iff_not] at hclear
    omega

/-- **The IPv6 validator** accepts a row of ones followed by zeros. -/
theorem validateNetmaskV6_spec {netmask : IPAddress} (h : netmask.type = .v6) :
    Checks (validateNetmaskV6 netmask) (∃ k, netmask.IsMask k) := by
  rw [validateNetmaskV6, IPAddress.getIPV6Packed_of_type h]
  simp only [IPAddress.IsMask, IPAddress.width_v6 h, IPAddress.number_v6 h]
  generalize packV6 netmask.ipv6 = packed
  have leads := leadsWith_prefixLength packed
  obtain ⟨m, hm, number⟩ := packedNumber_fromPrefixLength leads.le
  simp only [bind, Except.bind, hm]
  by_cases hsame : packed = m
  · rw [if_neg (not_not_intro hsame)]
    exact checks_ok ⟨_, leads.le, hsame ▸ number⟩
  · rw [if_pos hsame]
    refine checks_error ?_ _
    rintro ⟨k, hk, hn⟩
    -- a mask of `k` ones has `k` leading ones
    have : k = (prefixLengthFromPackedV6 packed).toNat :=
      (hn ▸ Blocks.leadsWith_ones hk).unique leads
    exact hsame (packedNumber_inj (by rw [hn, number, this]))

/-- **The validators** accept the masks the builders make, and the prefix length of an IPv6 mask is
the number of its leading ones. -/
theorem validators_accept :
    (∀ m : ValueTypePackedV4, validateNetmaskV4 (.ofPackedV4 m) = .ok () ↔
      ∃ k : UInt8, 1 ≤ k ∧ k ≤ 32 ∧ m = makePackedMaskV4 k) ∧
    (∀ m : ValueTypePackedV6,
      LeadsWith 128 (packedNumber m) (prefixLengthFromPackedV6 m).toNat ∧
      LeadsWith 128 (packedNumber m) (prefixLengthFromPackedV6Bitops m).toNat) ∧
    (∀ m : ValueTypePackedV6, validateNetmaskV6 (.ofPackedV6 m) = .ok () ↔
      ∃ k ≤ 128, packedNumber m = ones 128 k) ∧
    ∀ (m : ValueTypePackedV6) (k : Nat), k ≤ 128 → packedNumber m = ones 128 k →
      (prefixLengthFromPackedV6 m).toNat = k := by
  refine ⟨fun m => ?_, fun m => ⟨leadsWith_prefixLength m, ?_⟩, fun m => ?_, fun m k hk hm => ?_⟩
  · have type : (IPAddress.ofPackedV4 m).type = .v4 := IPAddress.type_ofPackedV4 _
    rw [(validateNetmaskV4_spec type).iff]
    simp only [IPAddress.IsMask, IPAddress.width_v4 type, IPAddress.number_ofPackedV4]
    constructor
    · rintro ⟨k, hk, hk', hn⟩
      have small : (UInt8.ofNat k).toNat = k :=
        UInt8.toNat_ofNat_of_lt' (Nat.lt_of_le_of_lt hk' (by decide))
      refine ⟨UInt8.ofNat k, ?_, ?_, UInt32.toNat_inj.mp ?_⟩
      · rwa [UInt8.le_iff_toNat_le, small]
      · rwa [UInt8.le_iff_toNat_le, small]
      · rw [hn, toNat_makePackedMaskV4 (small.symm ▸ hk'), small]
    · rintro ⟨k, hk, hk', rfl⟩
      exact ⟨k.toNat, hk, hk', toNat_makePackedMaskV4 hk'⟩
  · rw [prefixLengthFromPackedV6Bitops_eq]
    exact leadsWith_prefixLength m
  · have type := IPAddress.type_ofPackedV6 m
    rw [(validateNetmaskV6_spec type).iff]
    simp only [IPAddress.IsMask, IPAddress.width_v6 type, IPAddress.number_ofPackedV6]
  · exact (leadsWith_prefixLength m).unique (hm ▸ Blocks.leadsWith_ones hk)

end NetworkInterface
