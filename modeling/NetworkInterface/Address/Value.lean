import Mathlib.Tactic.IntervalCases
import NetworkInterface.Support.Positional
import NetworkInterface.Support.Words

/-!
# Address — Value

The values an address holds: four bytes for IPv4, eight groups of sixteen bits for IPv6, and
the packed words the library computes with.  `pack` and `unpack` are overloaded in the source;
here each overload has its own name.

`packV4_unpackV4`, `unpackV4_packV4`, `unpackV6_packV6` and `packV6_unpackV6`: packing loses
nothing.  The last two are read off the fields of the two words (`toNat_getElem_unpackV6`,
`field_packV6`).
-/

namespace NetworkInterface
open Support
open Support.Positional (positional positional_inj)

/-- A `std::string`: its characters, a NUL among them or not. -/
abbrev Text := List Char

/-- `IPAddress::value_type_v4`: `a.b.c.d` is `#v[a, b, c, d]`. -/
abbrev ValueTypeV4 := Vector UInt8 4

/-- `IPAddress::value_type_v6`, the group written first at index `0`. -/
abbrev ValueTypeV6 := Vector UInt16 8

/-- Literals stand for the indices of the groups. -/
instance neZeroGroups : NeZero 8 := ⟨by decide⟩

/-- `IPAddress::value_type_packed_v4`, the first byte the most significant. -/
abbrev ValueTypePackedV4 := UInt32

/-- `IPAddress::value_type_packed_v6`: the first four groups, then the last four. -/
abbrev ValueTypePackedV6 := UInt64 × UInt64

/-! ### Packing and unpacking -/

/-- `IPAddress::pack(value_type_v4)`. -/
def packV4 (ipv4 : ValueTypeV4) : ValueTypePackedV4 :=
  ipv4[0].toUInt32 <<< 24 ||| ipv4[1].toUInt32 <<< 16 ||| ipv4[2].toUInt32 <<< 8 |||
    ipv4[3].toUInt32

/-- `IPAddress::unpack(value_type_packed_v4)`. -/
def unpackV4 (ipv4 : ValueTypePackedV4) : ValueTypeV4 :=
  #v[((ipv4 >>> 24) &&& 0xFF).toUInt8, ((ipv4 >>> 16) &&& 0xFF).toUInt8,
    ((ipv4 >>> 8) &&& 0xFF).toUInt8, (ipv4 &&& 0xFF).toUInt8]

/-- `IPAddress::pack(value_type_v6)`. -/
def packV6 (ipv6 : ValueTypeV6) : ValueTypePackedV6 :=
  (ipv6[0].toUInt64 <<< 48 ||| ipv6[1].toUInt64 <<< 32 ||| ipv6[2].toUInt64 <<< 16 |||
      ipv6[3].toUInt64,
    ipv6[4].toUInt64 <<< 48 ||| ipv6[5].toUInt64 <<< 32 ||| ipv6[6].toUInt64 <<< 16 |||
      ipv6[7].toUInt64)

/-- `IPAddress::unpack(value_type_packed_v6)`. -/
def unpackV6 (ipv6 : ValueTypePackedV6) : ValueTypeV6 :=
  #v[((ipv6.1 >>> 48) &&& 0xFFFF).toUInt16, ((ipv6.1 >>> 32) &&& 0xFFFF).toUInt16,
    ((ipv6.1 >>> 16) &&& 0xFFFF).toUInt16, (ipv6.1 &&& 0xFFFF).toUInt16,
    ((ipv6.2 >>> 48) &&& 0xFFFF).toUInt16, ((ipv6.2 >>> 32) &&& 0xFFFF).toUInt16,
    ((ipv6.2 >>> 16) &&& 0xFFFF).toUInt16, (ipv6.2 &&& 0xFFFF).toUInt16]

/-! ### IPv4 -/

/-- The bytes of a packed IPv4 address are the digits of a number in base `256`. -/
theorem toNat_packV4 (ipv4 : ValueTypeV4) : (packV4 ipv4).toNat =
    (((ipv4.get 0).toNat * 2 ^ 8 + (ipv4.get 1).toNat) * 2 ^ 8 + (ipv4.get 2).toNat) * 2 ^ 8 +
      (ipv4.get 3).toNat := by
  have shift : ∀ (v : UInt8) {k : Nat}, k < 4 →
      (v.toUInt32 <<< UInt32.ofNat (8 * k)).toNat = v.toNat <<< (8 * k) := fun v k hk => by
    have hv := v.toNat_lt
    have small : v.toNat <<< (8 * k) < 2 ^ 32 := by
      rw [Nat.shiftLeft_eq]
      interval_cases k <;> omega
    rw [UInt32.toNat_shiftLeft, UInt32.toNat_ofNat', UInt8.toNat_toUInt32,
      Nat.mod_eq_of_lt (show 8 * k < 2 ^ 32 by omega), Nat.mod_eq_of_lt (show 8 * k < 32 by omega),
      Nat.mod_eq_of_lt small]
  have join : ∀ (x : Nat) (v : UInt8) (j : Nat),
      x <<< (8 + j) ||| v.toNat <<< j = (x * 2 ^ 8 + v.toNat) <<< j := fun x v j =>
    Words.shiftLeft_or v.toNat_lt x j
  have h₀ : (ipv4[0].toUInt32 <<< 24).toNat = ipv4[0].toNat <<< 24 :=
    shift ipv4[0] (k := 3) (by decide)
  have h₁ : (ipv4[1].toUInt32 <<< 16).toNat = ipv4[1].toNat <<< 16 :=
    shift ipv4[1] (k := 2) (by decide)
  have h₂ : (ipv4[2].toUInt32 <<< 8).toNat = ipv4[2].toNat <<< 8 :=
    shift ipv4[2] (k := 1) (by decide)
  have h₃ : ipv4[3].toUInt32.toNat = ipv4[3].toNat <<< 0 := by simp
  rw [packV4, UInt32.toNat_or, UInt32.toNat_or, UInt32.toNat_or, h₀, h₁, h₂, h₃,
    join _ ipv4[1] 16, join _ ipv4[2] 8, join _ ipv4[3] 0, Nat.shiftLeft_zero]
  rfl

/-- **Packing undoes unpacking**, at IPv4. -/
theorem packV4_unpackV4 (ip : ValueTypePackedV4) : packV4 (unpackV4 ip) = ip := by
  have hip := ip.toNat_lt
  have byte : ∀ k < 4, ((ip >>> UInt32.ofNat (8 * k)) &&& 0xFF).toUInt8.toNat =
      ip.toNat / 2 ^ (8 * k) % 2 ^ 8 := fun k hk => by
    have mask : ∀ n : Nat, n &&& 255 = n % 2 ^ 8 := Nat.and_two_pow_sub_one_eq_mod (n := 8)
    interval_cases k <;> simp [mask, Nat.shiftRight_eq_div_pow]
  have h₀ : ((unpackV4 ip).get 0).toNat = ip.toNat / 2 ^ 24 % 2 ^ 8 := byte 3 (by decide)
  have h₁ : ((unpackV4 ip).get 1).toNat = ip.toNat / 2 ^ 16 % 2 ^ 8 := byte 2 (by decide)
  have h₂ : ((unpackV4 ip).get 2).toNat = ip.toNat / 2 ^ 8 % 2 ^ 8 := byte 1 (by decide)
  have h₃ : ((unpackV4 ip).get 3).toNat = ip.toNat % 2 ^ 8 := by
    have := byte 0 (by decide)
    rw [Nat.mul_zero, Nat.pow_zero, Nat.div_one] at this
    exact this
  refine UInt32.toNat_inj.mp ?_
  rw [toNat_packV4, h₀, h₁, h₂, h₃]
  omega

theorem toList_v4 (ipv4 : ValueTypeV4) :
    ipv4.toList = [ipv4.get 0, ipv4.get 1, ipv4.get 2, ipv4.get 3] := by
  refine List.ext_getElem (by simp) fun j hj hj' => ?_
  simp only [List.length_cons, List.length_nil] at hj'
  interval_cases j <;> simp <;> rfl

theorem toNat_packV4_positional (ipv4 : ValueTypeV4) :
    (packV4 ipv4).toNat = positional (2 ^ 8) (ipv4.toList.map UInt8.toNat) := by
  rw [toNat_packV4, toList_v4]
  simp only [List.map_cons, List.map_nil, positional, List.length_cons, List.length_nil]
  omega

/-- The bytes of a packed IPv4 address determine it. -/
theorem packV4_inj {v w : ValueTypeV4} (h : packV4 v = packV4 w) : v = w := by
  have digits := congrArg UInt32.toNat h
  rw [toNat_packV4_positional, toNat_packV4_positional] at digits
  have byte : ∀ u : ValueTypeV4, ∀ d ∈ u.toList.map UInt8.toNat, d < 2 ^ 8 := fun u d hd => by
    obtain ⟨b, -, rfl⟩ := List.mem_map.mp hd
    exact b.toNat_lt
  have same := positional_inj (by simp) (byte v) (byte w) digits
  exact Vector.toList_inj.mp ((List.map_inj_right fun _ _ => UInt8.toNat_inj.mp).mp same)

/-- **Unpacking undoes packing**, at IPv4. -/
theorem unpackV4_packV4 (ipv4 : ValueTypeV4) : unpackV4 (packV4 ipv4) = ipv4 :=
  packV4_inj (packV4_unpackV4 _)

/-- The upper half of a packed IPv4 address. -/
theorem toNat_upper (w : UInt32) : (w >>> 16).toUInt16.toNat = w.toNat / 2 ^ 16 := by
  have := w.toNat_lt
  rw [UInt32.toNat_toUInt16, UInt32.toNat_shiftRight]
  change w.toNat >>> 16 % 2 ^ 16 = _
  rw [Nat.shiftRight_eq_div_pow]
  omega

/-- The lower half. -/
theorem toNat_lower (w : UInt32) : (w &&& 0xFFFF).toUInt16.toNat = w.toNat % 2 ^ 16 := by
  rw [UInt32.toNat_toUInt16, UInt32.toNat_and]
  change (w.toNat &&& (2 ^ 16 - 1)) % 2 ^ 16 = _
  rw [Nat.and_two_pow_sub_one_eq_mod, Nat.mod_mod]

/-! ### IPv6 -/

/-- A group, in the list of the groups. -/
theorem getElem?_toList (ipv6 : ValueTypeV6) (i : Fin 8) :
    ipv6.toList[i.val]? = some (ipv6.get i) := by
  rw [List.getElem?_eq_getElem (by simp), Vector.getElem_toList]
  rfl

theorem toList_v6 (ipv6 : ValueTypeV6) : ipv6.toList = [ipv6[0], ipv6[1], ipv6[2], ipv6[3],
    ipv6[4], ipv6[5], ipv6[6], ipv6[7]] := by
  refine List.ext_getElem (by simp) fun j hj hj' => ?_
  simp only [List.length_cons, List.length_nil] at hj'
  interval_cases j <;> simp

theorem toList_split (ipv6 : ValueTypeV6) :
    ipv6.toList = ipv6.toList.take 6 ++ [ipv6.get 6, ipv6.get 7] := by
  rw [toList_v6]
  rfl

/-- The word of a packed address that holds group `i`. -/
def wordOf (ip : ValueTypePackedV6) (i : Nat) : UInt64 := if i < 4 then ip.1 else ip.2

/-- Group `i` is field `3 - i % 4` of its word. -/
theorem toNat_getElem_unpackV6 (ip : ValueTypePackedV6) {i : Nat} (hi : i < 8) :
    (unpackV6 ip)[i].toNat = Words.field 16 (3 - i % 4) (wordOf ip i).toNat := by
  have mask : ∀ n : Nat, n &&& 65535 = n % 2 ^ 16 := Nat.and_two_pow_sub_one_eq_mod (n := 16)
  interval_cases i <;> simp [unpackV6, wordOf, Words.field, mask]

/-- A group shifted to field `k` of a word. -/
theorem toNat_shiftLeft_group (v : UInt16) {k : Nat} (hk : k < 4) :
    (v.toUInt64 <<< UInt64.ofNat (16 * k)).toNat = v.toNat <<< (16 * k) := by
  have hv := v.toNat_lt
  have small : v.toNat <<< (16 * k) < 2 ^ 64 := by
    rw [Nat.shiftLeft_eq]
    interval_cases k <;> omega
  rw [UInt64.toNat_shiftLeft, UInt64.toNat_ofNat', UInt16.toNat_toUInt64,
    Nat.mod_eq_of_lt (show 16 * k < 2 ^ 64 by omega), Nat.mod_eq_of_lt (show 16 * k < 64 by omega),
    Nat.mod_eq_of_lt small]

/-- The fields of four groups packed in one word. -/
theorem field_pack_groups (a b c d : UInt16) {k : Nat} (hk : k < 4) :
    Words.field 16 k
        (a.toUInt64 <<< 48 ||| b.toUInt64 <<< 32 ||| c.toUInt64 <<< 16 ||| d.toUInt64).toNat =
      (#v[d, c, b, a])[k].toNat := by
  have shift := fun (v : UInt16) (k : Nat) (hk : k < 4) => toNat_shiftLeft_group v hk
  have ha : (a.toUInt64 <<< 48).toNat = a.toNat <<< (16 * 3) := shift a 3 (by decide)
  have hb : (b.toUInt64 <<< 32).toNat = b.toNat <<< (16 * 2) := shift b 2 (by decide)
  have hc : (c.toUInt64 <<< 16).toNat = c.toNat <<< (16 * 1) := shift c 1 (by decide)
  have hd : d.toUInt64.toNat = d.toNat <<< (16 * 0) := by simp
  rw [UInt64.toNat_or, UInt64.toNat_or, UInt64.toNat_or, ha, hb, hc, hd, Words.field_or,
    Words.field_or, Words.field_or, Words.field_shiftLeft a.toNat_lt,
    Words.field_shiftLeft b.toNat_lt, Words.field_shiftLeft c.toNat_lt,
    Words.field_shiftLeft d.toNat_lt]
  interval_cases k <;> simp

/-- Four groups packed in one word are the digits of a number in base `2 ^ 16`. -/
theorem toNat_pack_groups (a b c d : UInt16) :
    (a.toUInt64 <<< 48 ||| b.toUInt64 <<< 32 ||| c.toUInt64 <<< 16 ||| d.toUInt64).toNat =
      ((a.toNat * 2 ^ 16 + b.toNat) * 2 ^ 16 + c.toNat) * 2 ^ 16 + d.toNat := by
  have join : ∀ (x : Nat) (v : UInt16) (j : Nat),
      x <<< (16 + j) ||| v.toNat <<< j = (x * 2 ^ 16 + v.toNat) <<< j := fun x v j =>
    Words.shiftLeft_or v.toNat_lt x j
  have shift := fun (v : UInt16) (k : Nat) (hk : k < 4) => toNat_shiftLeft_group v hk
  have ha : (a.toUInt64 <<< 48).toNat = a.toNat <<< 48 := shift a 3 (by decide)
  have hb : (b.toUInt64 <<< 32).toNat = b.toNat <<< 32 := shift b 2 (by decide)
  have hc : (c.toUInt64 <<< 16).toNat = c.toNat <<< 16 := shift c 1 (by decide)
  have hd : d.toUInt64.toNat = d.toNat <<< 0 := by simp
  rw [UInt64.toNat_or, UInt64.toNat_or, UInt64.toNat_or, ha, hb, hc, hd, join _ b 32, join _ c 16,
    join _ d 0, Nat.shiftLeft_zero]

theorem field_packV6 (ipv6 : ValueTypeV6) {i : Nat} (hi : i < 8) :
    Words.field 16 (3 - i % 4) (wordOf (packV6 ipv6) i).toNat = ipv6[i].toNat := by
  have first := fun {k : Nat} => field_pack_groups ipv6[0] ipv6[1] ipv6[2] ipv6[3] (k := k)
  have second := fun {k : Nat} => field_pack_groups ipv6[4] ipv6[5] ipv6[6] ipv6[7] (k := k)
  interval_cases i
  · exact first (k := 3) (by decide)
  · exact first (k := 2) (by decide)
  · exact first (k := 1) (by decide)
  · exact first (k := 0) (by decide)
  · exact second (k := 3) (by decide)
  · exact second (k := 2) (by decide)
  · exact second (k := 1) (by decide)
  · exact second (k := 0) (by decide)

/-- **Unpacking undoes packing**, at IPv6. -/
theorem unpackV6_packV6 (ipv6 : ValueTypeV6) : unpackV6 (packV6 ipv6) = ipv6 := by
  refine Vector.ext fun i hi => UInt16.toNat_inj.mp ?_
  rw [toNat_getElem_unpackV6 _ hi, field_packV6 _ hi]

/-- Two packed addresses with the same groups are the same. -/
theorem packedV6_ext {x y : ValueTypePackedV6} (h : unpackV6 x = unpackV6 y) : x = y := by
  have groups : ∀ i < 8, Words.field 16 (3 - i % 4) (wordOf x i).toNat =
      Words.field 16 (3 - i % 4) (wordOf y i).toNat := fun i hi => by
    rw [← toNat_getElem_unpackV6 x hi, ← toNat_getElem_unpackV6 y hi]
    simp only [h]
  have word : ∀ {u v : UInt64}, (∀ k < 4, Words.field 16 k u.toNat = Words.field 16 k v.toNat) →
      u = v := fun {u v} huv =>
    UInt64.toNat_inj.mp (Words.eq_of_field_eq (n := 4) (by decide) u.toNat_lt v.toNat_lt huv)
  refine Prod.ext (word fun k hk => ?_) (word fun k hk => ?_)
  · have := groups (3 - k) (by omega)
    rwa [wordOf, wordOf, if_pos (by omega), if_pos (by omega), Nat.mod_eq_of_lt (by omega),
      show 3 - (3 - k) = k by omega] at this
  · have := groups (7 - k) (by omega)
    rwa [wordOf, wordOf, if_neg (by omega), if_neg (by omega),
      show 3 - (7 - k) % 4 = k by omega] at this

/-- **Packing undoes unpacking**, at IPv6. -/
theorem packV6_unpackV6 (ip : ValueTypePackedV6) : packV6 (unpackV6 ip) = ip :=
  packedV6_ext (unpackV6_packV6 _)

end NetworkInterface
