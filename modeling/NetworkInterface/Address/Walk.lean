import NetworkInterface.Address.Subnet

/-!
# Address — Walk

`operator++` and `operator--`, and the walk over a subnet they are made for.

A step of one never carries or borrows more than one, so it is the successor modulo the number of
addresses (`inc_ok`, `dec_ok`), across the two halves of an IPv6 address too.  From the base address
the walk therefore visits the packed values in order (`walk_ok`), and the first `2 ^ (w - k)` of
them are the subnet: `walk_subnet`.
-/

namespace NetworkInterface
open Support

namespace IPAddress

/-- `operator++(IPAddress&)`: the object after the call. -/
def inc (lhs : IPAddress) : Outcome IPAddress :=
  match lhs.type with
  | .v4   => lhs.add 1
  | .v6   => lhs.add 1
  | .none => .error (.invalidArgument "Invalid Type")

/-- `operator--(IPAddress&)`: the object after the call. -/
def dec (lhs : IPAddress) : Outcome IPAddress :=
  match lhs.type with
  | .v4   => lhs.sub 1
  | .v6   => lhs.sub 1
  | .none => .error (.invalidArgument "Invalid Type")

/-- `operator++`, `k` times. -/
def walk (a : IPAddress) : Nat → Outcome IPAddress
  | 0     => .ok a
  | k + 1 => do (← a.walk k).inc

/-! ### Steps -/

/-- **A step forward** is the successor. -/
theorem inc_ok {a : IPAddress} (ha : a.type = .v4 ∨ a.type = .v6) : ∃ b, a.inc = .ok b ∧
    b.type = a.type ∧ b.number = (a.number + 1) % 2 ^ a.width := by
  rcases ha with h | h
  · refine ⟨.ofPackedV4 (packV4 a.ipv4 + 1), ?_, (type_ofPackedV4 _).trans h.symm, ?_⟩
    · rw [inc, h]
      exact add_v4 h 1
    · rw [number_ofPackedV4, number_v4 h, width_v4 h, UInt32.toNat_add]
      rfl
  · refine ⟨.ofPackedV6 (addPackedV6 (packV6 a.ipv6) 1), ?_, (type_ofPackedV6 _).trans h.symm, ?_⟩
    · rw [inc, h]
      exact add_v6 h 1
    · rw [number_ofPackedV6, number_v6 h, width_v6 h]
      -- adding one carries at most one
      exact (packedNumber_add_iff _ 1).mpr (.inl (packV6 a.ipv6).2.toNat_lt)

/-- **A step back** is the predecessor. -/
theorem dec_ok {a : IPAddress} (ha : a.type = .v4 ∨ a.type = .v6) : ∃ b, a.dec = .ok b ∧
    b.type = a.type ∧ (b.number : Int) = (a.number - 1) % 2 ^ a.width := by
  rcases ha with h | h
  · refine ⟨.ofPackedV4 (packV4 a.ipv4 - 1), ?_, (type_ofPackedV4 _).trans h.symm, ?_⟩
    · rw [dec, h]
      exact sub_v4 h 1
    · have := (packV4 a.ipv4).toNat_lt
      rw [number_ofPackedV4, number_v4 h, width_v4 h, UInt32.toNat_sub, UInt32.toNat_one]
      omega
  · refine ⟨.ofPackedV6 (subPackedV6 (packV6 a.ipv6) 1), ?_, (type_ofPackedV6 _).trans h.symm, ?_⟩
    · rw [dec, h]
      exact sub_v6 h 1
    · rw [number_ofPackedV6, number_v6 h, width_v6 h]
      -- nor does taking one borrow more
      exact (packedNumber_sub_iff _ 1).mpr (.inl (Nat.le_add_left 1 _))

/-- A step back undoes a step forward. -/
theorem dec_of_inc {a b : IPAddress} (ha : a.type = .v4 ∨ a.type = .v6) (h : a.inc = .ok b) :
    ∃ c, b.dec = .ok c ∧ (c == a) = true := by
  obtain ⟨b', run, type, number⟩ := inc_ok ha
  obtain rfl := Except.ok.inj (h.symm.trans run)
  obtain ⟨c, run', type', number'⟩ := dec_ok (type.symm ▸ ha)
  refine ⟨c, run', beq_iff_number.mpr ⟨type'.trans type, ?_⟩⟩
  have lt := a.number_lt
  rw [number, width_of_type type] at number'
  have back : ((((a.number + 1) % 2 ^ a.width : Nat) : Int) - 1) % 2 ^ a.width = a.number := by
    push_cast
    rw [Int.emod_sub_emod, Int.add_sub_cancel,
      Int.emod_eq_of_lt (Int.natCast_nonneg _) (by exact_mod_cast lt)]
  exact_mod_cast number'.trans back

/-- **The walk** visits the packed values in order. -/
theorem walk_ok {a : IPAddress} (ha : a.type = .v4 ∨ a.type = .v6) (k : Nat) :
    ∃ b, a.walk k = .ok b ∧ b.type = a.type ∧ b.number = (a.number + k) % 2 ^ a.width := by
  induction k with
  | zero => exact ⟨a, rfl, rfl, (Nat.mod_eq_of_lt a.number_lt).symm⟩
  | succ k ih =>
      obtain ⟨b, run, type, number⟩ := ih
      obtain ⟨c, run', type', number'⟩ := inc_ok (type.symm ▸ ha)
      refine ⟨c, ?_, type'.trans type, ?_⟩
      · rw [walk, run]
        exact run'
      · rw [number', number, width_of_type type, Nat.mod_add_mod, Nat.add_assoc]

theorem walk_succ {a b c : IPAddress} {k : Nat} (hb : a.walk k = .ok b)
    (hc : a.walk (k + 1) = .ok c) : b.inc = .ok c := by
  rw [walk, hb] at hc
  exact hc

end IPAddress

/-! ### The subnet -/

/-- A valid info has two addresses of one type, and a netmask of some prefix length. -/
theorem checkValidIPAddressInfo_ok {a m : IPAddress} (h : checkValidIPAddressInfo a m = .ok ()) :
    m.type = a.type ∧ (a.type = .v4 ∨ a.type = .v6) ∧ ∃ k, m.IsNetmask k := by
  have ht : m.type = a.type := by
    by_contra hne
    rw [checkValidIPAddressInfo, if_pos (fun h => hne h.symm)] at h
    cases h
  have ha : a.type = .v4 ∨ a.type = .v6 := by
    cases hty : a.type with
    | v4 => exact .inl rfl
    | v6 => exact .inr rfl
    | none =>
        rw [checkValidIPAddressInfo, if_neg (not_not_intro ht.symm), hty] at h
        cases h
  exact ⟨ht, ha, (checkValidIPAddressInfo_spec ht ha).iff.mp h⟩

/-- An address of another type has no base address under the netmask. -/
theorem type_of_base {x m b : IPAddress}
    (h : (IPAddressInfo.mk x m).getNetworkBaseAddress = .ok b) : x.type = m.type := by
  obtain ⟨_, check, -⟩ := Outcome.bind_eq_ok.mp h
  exact (checkValidIPAddressInfo_ok check).1.symm

/-- The addresses `x` are a walk over the subnet of `info`, whose netmask has `p` ones. -/
structure IPAddressInfo.Walks (info : IPAddressInfo) (p : Nat) (x : Nat → IPAddress) : Prop where
  start : info.getNetworkBaseAddress = .ok (x 0)
  next : ∀ k, (x k).inc = .ok (x (k + 1))
  up : ∀ i j, i < j → j ≤ 2 ^ (info.address.width - p) - 1 → (x i).lt (x j) = .ok true
  /-- The addresses visited are those with this base address. -/
  members : ∀ y : IPAddress,
    (∃ b, (IPAddressInfo.mk y info.netmask).getNetworkBaseAddress = .ok b ∧ (b == x 0) = true) ↔
      ∃ k ≤ 2 ^ (info.address.width - p) - 1, (y == x k) = true
  last : info.address.type = .v4 → ∃ bcast, info.getBroadcastAddress = .ok bcast ∧
    (x (2 ^ (info.address.width - p) - 1) == bcast) = true
  back : ∀ k, ∃ y, (x (k + 1)).dec = .ok y ∧ (y == x k) = true

/-- **Walking a subnet**: from the base address, `operator++` goes up through the addresses of the
subnet, up to the broadcast address, and `operator--` goes back. -/
theorem walk_subnet {info : IPAddressInfo} {p : Nat}
    (valid : checkValidIPAddressInfo info.address info.netmask = .ok ())
    (hp : info.netmask.IsMask p) : ∃ x, info.Walks p x := by
  obtain ⟨a, m⟩ := info
  obtain ⟨ht, ha, k, hk⟩ := checkValidIPAddressInfo_ok valid
  -- the prefix length is the one of the check
  obtain rfl : k = p := Blocks.ones_inj hk.1.1 hp.1 (hk.1.2.symm.trans hp.2)
  obtain ⟨base, run, type, first⟩ := getNetworkBaseAddress_ok ht ha hk
  have hbase : base.type = .v4 ∨ base.type = .v6 := type ▸ ha
  choose x walked typed numbered using IPAddress.walk_ok hbase
  have start : x 0 = base := (Except.ok.inj (walked 0)).symm
  have fits := Blocks.block_lt (Nat.sub_le a.width k) a.number_lt
  rw [← first] at fits
  have inside : ∀ j ≤ 2 ^ (a.width - k) - 1, (x j).number = base.number + j := fun j hj => by
    rw [numbered, width_of_type type,
      Nat.mod_eq_of_lt (Nat.lt_of_le_of_lt (Nat.add_le_add_left hj _) fits)]
  have typed' : ∀ j, (x j).type = a.type := fun j => (typed j).trans type
  have next : ∀ j, (x j).inc = .ok (x (j + 1)) := fun j => IPAddress.walk_succ (walked j) (walked _)
  refine ⟨x, start ▸ run, next, fun i j hij hj => ?_, fun y => ?_, fun h₄ => ?_,
    fun j => IPAddress.dec_of_inc ((typed' j).symm ▸ ha) (next j)⟩
  · have order := IPAddress.lt_decides ((typed' i).trans (typed' j).symm)
      (IPAddress.isValid_of_type ((typed' i).symm ▸ ha))
    rw [order.iff, inside i (hij.le.trans hj), inside j hj]
    exact Nat.add_lt_add_left hij _
  · have members : ∀ y : IPAddress, y.type = a.type → ((∃ b,
        (IPAddressInfo.mk y m).getNetworkBaseAddress = .ok b ∧ (b == x 0) = true) ↔
          base.number ≤ y.number ∧ y.number ≤ base.number + (2 ^ (a.width - k) - 1)) :=
      fun y hy => by
        rw [base_eq_iff ht ha hk hy (start ▸ type) (start ▸ first), first]
        exact Blocks.same_block_iff
    constructor
    · rintro ⟨b, hb, heq⟩
      have hy : y.type = a.type := (type_of_base hb).trans ht
      obtain ⟨above, below⟩ := (members y hy).mp ⟨b, hb, heq⟩
      refine ⟨y.number - base.number, by dsimp only; omega, ?_⟩
      refine IPAddress.beq_iff_number.mpr ⟨hy.trans (typed' _).symm, ?_⟩
      rw [inside _ (by omega), Nat.add_sub_cancel' above]
    · rintro ⟨j, hj, heq⟩
      obtain ⟨hy, number⟩ := IPAddress.beq_iff_number.mp heq
      refine (members y (hy.trans (typed' j))).mpr ?_
      rw [number, inside j hj]
      exact ⟨Nat.le_add_right _ _, Nat.add_le_add_left hj _⟩
  · obtain ⟨bcast, run', type', last⟩ := getBroadcastAddress_ok h₄ (ht.trans h₄) hk
    refine ⟨bcast, run', IPAddress.beq_iff_number.mpr ⟨(typed' _).trans type'.symm, ?_⟩⟩
    rw [inside _ (Nat.le_refl _), last, first]

/-- At `192.168.20.1` and a netmask of twenty ones. -/
theorem walk_subnet_lan :
    ∃ x, (IPAddressInfo.mk (.ofV4 #v[192, 168, 20, 1]) (.ofPackedV4 0xFFFFF000)).Walks 20 x := by
  have mask : (IPAddress.ofPackedV4 0xFFFFF000).IsMask 20 :=
    IPAddress.isMask_ofPackedV4 (by decide) (by decide)
  have type : (IPAddress.ofV4 #v[192, 168, 20, 1]).type = .v4 := IPAddress.type_ofV4 _
  have same := (IPAddress.type_ofPackedV4 0xFFFFF000).trans type.symm
  exact walk_subnet ((checkValidIPAddressInfo_spec same (.inl type)).accepts
    ⟨20, mask, fun _ => by decide⟩) mask

end NetworkInterface
