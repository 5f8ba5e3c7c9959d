import NetworkInterface.Address.RoundTrip
import NetworkInterface.Address.Validators

/-!
# Address — Embedding

IPv4 addresses inside IPv6 ones: the two tag constructors, which put the bytes of an IPv4 address
in the last two groups of a fixed value, and the two getters, which take them out again.

`embedding`: for both, getting undoes constructing and constructing undoes getting, the getter
throws at the addresses that embed nothing, and the text ends with the text of the IPv4 address.
-/

namespace NetworkInterface
open Support

namespace IPAddress

/-! ### Constructors and getters -/

/-- The body of the two tag constructors, which differ in the groups they start from. -/
def embed (value : ValueTypePackedV6) (ipv4 : IPAddress) : Outcome IPAddress := do
  let ipv6 := unpackV6 value
  -- throws for anything but an IPv4 address
  let packedV4 ← ipv4.getIPV4Packed
  let ipv6 := ipv6.setIfInBounds 6 (packedV4 >>> 16).toUInt16
  let ipv6 := ipv6.setIfInBounds 7 (packedV4 &&& 0xFFFF).toUInt16
  return { blank with type := .v6, ipv4 := zeroV4, ipv6 := ipv6 }.buildIPString

/-- `IPAddress(IPAddress const&, CompatibleV6Tag)`. -/
def ofCompatible (ipv4 : IPAddress) : Outcome IPAddress := embed embeddedIPv4CompatibleValue ipv4

/-- `IPAddress(IPAddress const&, MappedV6Tag)`. -/
def ofMapped (ipv4 : IPAddress) : Outcome IPAddress := embed embeddedIPv4MappedValue ipv4

def isIPV4Compatible (this : IPAddress) : Bool :=
  if this.type ≠ .v6 then false else isEmbeddedIPv4Compatible (packV6 this.ipv6)

def isIPV4Mapped (this : IPAddress) : Bool :=
  if this.type ≠ .v6 then false else isEmbeddedIPv4Mapped (packV6 this.ipv6)

/-- The address the two getters take out of the last two groups. -/
def lastGroups (this : IPAddress) : IPAddress :=
  ofPackedV4 ((this.ipv6.get 6).toUInt32 <<< 16 ||| (this.ipv6.get 7).toUInt32)

def getIPV4Compatible (this : IPAddress) : Outcome IPAddress := do
  if !this.isIPV4Compatible then throw (.invalidArgument "Not V4 Compatible")
  return this.lastGroups

def getIPV4Mapped (this : IPAddress) : Outcome IPAddress := do
  if !this.isIPV4Mapped then throw (.invalidArgument "Not V4 Mapped")
  return this.lastGroups

end IPAddress

/-! ### The two halves of a packed IPv4 address -/

theorem toNat_join (a b : UInt16) :
    (a.toUInt32 <<< 16 ||| b.toUInt32).toNat = a.toNat * 2 ^ 16 + b.toNat := by
  have ha := a.toNat_lt
  have shift : (a.toUInt32 <<< 16).toNat = a.toNat <<< 16 := by
    have small : a.toNat <<< 16 < 2 ^ 32 := by
      rw [Nat.shiftLeft_eq]
      omega
    rw [UInt32.toNat_shiftLeft, UInt16.toNat_toUInt32]
    exact Nat.mod_eq_of_lt small
  have join := Words.shiftLeft_or b.toNat_lt a.toNat 0
  rw [Nat.add_zero, Nat.shiftLeft_zero, Nat.shiftLeft_zero] at join
  rw [UInt32.toNat_or, shift, UInt16.toNat_toUInt32, join]

/-- The halves, joined. -/
theorem join_halves (w : UInt32) :
    (w >>> 16).toUInt16.toUInt32 <<< 16 ||| (w &&& 0xFFFF).toUInt16.toUInt32 = w := by
  refine UInt32.toNat_inj.mp ?_
  rw [toNat_join, toNat_upper, toNat_lower]
  omega

/-- What is joined, halved. -/
theorem halves_join (a b : UInt16) :
    ((a.toUInt32 <<< 16 ||| b.toUInt32) >>> 16).toUInt16 = a ∧
      ((a.toUInt32 <<< 16 ||| b.toUInt32) &&& 0xFFFF).toUInt16 = b := by
  have ha := a.toNat_lt
  have hb := b.toNat_lt
  refine ⟨UInt16.toNat_inj.mp ?_, UInt16.toNat_inj.mp ?_⟩
  · rw [toNat_upper, toNat_join]
    omega
  · rw [toNat_lower, toNat_join]
    omega

/-- The bytes of the halves. -/
theorem bytes_halves (ipv4 : ValueTypeV4) :
    (packV4 ipv4 >>> 16).toUInt16.toNat = (ipv4.get 0).toNat * 2 ^ 8 + (ipv4.get 1).toNat ∧
      (packV4 ipv4 &&& 0xFFFF).toUInt16.toNat =
        (ipv4.get 2).toNat * 2 ^ 8 + (ipv4.get 3).toNat := by
  have h₀ := (ipv4.get 0).toNat_lt
  have h₁ := (ipv4.get 1).toNat_lt
  have h₂ := (ipv4.get 2).toNat_lt
  have h₃ := (ipv4.get 3).toNat_lt
  rw [toNat_upper, toNat_lower, toNat_packV4]
  omega

/-! ### What is constructed -/

namespace IPAddress

/-- The groups of an embedded address: six of the fixed value, and the halves of the packed one. -/
def embeddedGroups (value : ValueTypePackedV6) (packedV4 : ValueTypePackedV4) : ValueTypeV6 :=
  ((unpackV6 value).setIfInBounds 6 (packedV4 >>> 16).toUInt16).setIfInBounds 7
    (packedV4 &&& 0xFFFF).toUInt16

theorem embed_eq (value : ValueTypePackedV6) {v : IPAddress} (h : v.type = .v4) :
    embed value v = .ok (ofV6 (embeddedGroups value (packV4 v.ipv4))) := by
  rw [embed, getIPV4Packed_of_type h]
  rfl

theorem toList_embeddedGroups (value : ValueTypePackedV6) (packedV4 : ValueTypePackedV4) :
    (embeddedGroups value packedV4).toList = (unpackV6 value).toList.take 6 ++
      [(packedV4 >>> 16).toUInt16, (packedV4 &&& 0xFFFF).toUInt16] := by
  rw [embeddedGroups, toList_v6, toList_v6]
  simp

theorem get_embeddedGroups (value : ValueTypePackedV6) (packedV4 : ValueTypePackedV4) :
    (embeddedGroups value packedV4).get 6 = (packedV4 >>> 16).toUInt16 ∧
      (embeddedGroups value packedV4).get 7 = (packedV4 &&& 0xFFFF).toUInt16 := by
  have groups := toList_embeddedGroups value packedV4
  rw [toList_split, toList_v6 (unpackV6 value)] at groups
  simpa using (List.append_inj' groups rfl).2

/-! ### Predicates and getters -/

theorem isIPV4Compatible_iff {x : IPAddress} : x.isIPV4Compatible = true ↔
    x.type = .v6 ∧ x.ipv6.toList.take 6 = [0, 0, 0, 0, 0, 0] := by
  rw [isIPV4Compatible, ← isEmbeddedIPv4Compatible_iff]
  by_cases h : x.type = .v6 <;> simp [h]

theorem isIPV4Mapped_iff {x : IPAddress} : x.isIPV4Mapped = true ↔
    x.type = .v6 ∧ x.ipv6.toList.take 6 = [0, 0, 0, 0, 0, 0xFFFF] := by
  rw [isIPV4Mapped, ← isEmbeddedIPv4Mapped_iff]
  by_cases h : x.type = .v6 <;> simp [h]

/-- The getter `get` throws where the predicate `is` does not hold, and takes out the last two
groups where it does. -/
def Takes (get : IPAddress → Outcome IPAddress) (is : IPAddress → Bool) : Prop :=
  ∀ x, (is x = true → get x = .ok x.lastGroups) ∧
    (is x = false → ∃ what, get x = .error (.invalidArgument what))

theorem takes_compatible : Takes getIPV4Compatible isIPV4Compatible := by
  intro x
  rw [getIPV4Compatible]
  refine ⟨fun h => ?_, fun h => ⟨"Not V4 Compatible", ?_⟩⟩
  · rw [h]
    rfl
  · rw [h]
    rfl

theorem takes_mapped : Takes getIPV4Mapped isIPV4Mapped := by
  intro x
  rw [getIPV4Mapped]
  refine ⟨fun h => ?_, fun h => ⟨"Not V4 Mapped", ?_⟩⟩
  · rw [h]
    rfl
  · rw [h]
    rfl

@[simp] theorem type_lastGroups (x : IPAddress) : x.lastGroups.type = .v4 := type_ofPackedV4 _

/-- Taking out what was put in. -/
theorem lastGroups_embedded (value : ValueTypePackedV6) {v : IPAddress} (h : v.type = .v4) :
    ((ofV6 (embeddedGroups value (packV4 v.ipv4))).lastGroups == v) = true := by
  obtain ⟨g₆, g₇⟩ := get_embeddedGroups value (packV4 v.ipv4)
  have packed : (ofV6 (embeddedGroups value (packV4 v.ipv4))).lastGroups = ofV4 v.ipv4 := by
    rw [lastGroups, ipv6_ofV6, g₆, g₇, join_halves]
    exact congrArg blank.setValueV4 (unpackV4_packV4 v.ipv4)
  rw [packed]
  exact ofV4_beq h

/-- Putting in what was taken out. -/
theorem embeddedGroups_lastGroups {value : ValueTypePackedV6} {x : IPAddress}
    (h : x.ipv6.toList.take 6 = (unpackV6 value).toList.take 6) :
    embeddedGroups value (packV4 x.lastGroups.ipv4) = x.ipv6 := by
  have packed : packV4 x.lastGroups.ipv4 =
      (x.ipv6.get 6).toUInt32 <<< 16 ||| (x.ipv6.get 7).toUInt32 :=
    (congrArg packV4 (ipv4_setValueV4 _ _)).trans (packV4_unpackV4 _)
  obtain ⟨upper, lower⟩ := halves_join (x.ipv6.get 6) (x.ipv6.get 7)
  refine Vector.toList_inj.mp ?_
  rw [toList_embeddedGroups, packed, upper, lower, ← h, ← toList_split]

/-! ### The text -/

/-- The text of an address whose first six groups are those of a mapped one. -/
theorem findLongestZeroSeq_mapped {w : ValueTypeV6}
    (h : w.toList.take 6 = [0, 0, 0, 0, 0, 0xFFFF]) : findLongestZeroSeq w = some (0, 5) := by
  rw [findLongestZeroSeq, toList_split, h]
  by_cases h₆ : w.get 6 = 0 <;> by_cases h₇ : w.get 7 = 0 <;>
    simp [scanZeroSeqs, keepLongest, h₆, h₇]

theorem findLongestZeroSeq_compatible {w : ValueTypeV6}
    (h : w.toList.take 6 = [0, 0, 0, 0, 0, 0]) (h₆ : w.get 6 ≠ 0) :
    findLongestZeroSeq w = some (0, 6) := by
  rw [findLongestZeroSeq, toList_split, h]
  by_cases h₇ : w.get 7 = 0 <;> simp [scanZeroSeqs, keepLongest, h₆, h₇]

/-- The dotted quad at the end is the text of the IPv4 address. -/
theorem embeddedIPV4Text_embeddedGroups (value : ValueTypePackedV6) (ipv4 : ValueTypeV4) :
    embeddedIPV4Text (embeddedGroups value (packV4 ipv4)) = buildIPV4String ipv4 := by
  have h₁ := (ipv4.get 1).toNat_lt
  have h₃ := (ipv4.get 3).toNat_lt
  obtain ⟨g₆, g₇⟩ := get_embeddedGroups value (packV4 ipv4)
  obtain ⟨b₆, b₇⟩ := bytes_halves ipv4
  have split : ∀ {x y : Nat}, y < 2 ^ 8 →
      (x * 2 ^ 8 + y) / 2 ^ 8 = x ∧ (x * 2 ^ 8 + y) % 2 ^ 8 = y := fun hy => by omega
  rw [embeddedIPV4Text, toNat_high, toNat_low, toNat_high, toNat_low, g₆, g₇, b₆, b₇,
    (split h₁).1, (split h₁).2, (split h₃).1, (split h₃).2, Quad.write_ofV4]
  simp [Quad.write, Quad.ofV4, Octet.of]

/-- The text, `first` being how many groups `::` is written for. -/
theorem toText_embedded {w : ValueTypeV6} {first : Nat}
    (hquad : (isEmbeddedIPv4Compatible (packV6 w) || isEmbeddedIPv4Mapped (packV6 w)) = true)
    (hseq : findLongestZeroSeq w = some (0, first)) (hfirst : first ≤ 6) :
    (ofV6 w).toText = ':' :: ':' ::
      joinColon (((w.toList.take 6).drop first).map hexGroup ++ [embeddedIPV4Text w]) := by
  have text := (Built.ofV6 w).toText_eq (by simp)
  rw [currentText, type_ofV6] at text
  simp only [ipv6_ofV6, hquad] at text
  rw [text, buildIPV6String_gap true hseq, Nat.zero_add, printedTokens, if_pos ⟨rfl, hfirst⟩]
  rfl

theorem take_embeddedGroups (value : ValueTypePackedV6) (packedV4 : ValueTypePackedV4) :
    (embeddedGroups value packedV4).toList.take 6 = (unpackV6 value).toList.take 6 := by
  rw [toList_embeddedGroups]
  exact List.take_left' (by simp)

theorem toText_mapped (ipv4 : ValueTypeV4) :
    (ofV6 (embeddedGroups embeddedIPv4MappedValue (packV4 ipv4))).toText =
      "::ffff:".toList ++ buildIPV4String ipv4 := by
  have groups := take_embeddedGroups embeddedIPv4MappedValue (packV4 ipv4)
  have six : (unpackV6 embeddedIPv4MappedValue).toList.take 6 = [0, 0, 0, 0, 0, 0xFFFF] := by decide
  rw [six] at groups
  rw [toText_embedded (by rw [isEmbeddedIPv4Mapped_iff.mpr groups, Bool.or_true])
      (findLongestZeroSeq_mapped groups) (by omega),
    groups, embeddedIPV4Text_embeddedGroups]
  have front : ':' :: ':' :: hexGroup 0xFFFF ++ [':'] = "::ffff:".toList := by decide
  show ':' :: ':' :: joinColon [hexGroup 0xFFFF, buildIPV4String ipv4] = _
  rw [← front, joinColon, List.intercalate_cons_cons, List.intercalate_singleton]
  simp only [List.append_assoc, List.cons_append]

theorem toText_compatible {ipv4 : ValueTypeV4} (h : ¬ (ipv4.get 0 = 0 ∧ ipv4.get 1 = 0)) :
    (ofV6 (embeddedGroups embeddedIPv4CompatibleValue (packV4 ipv4))).toText =
      "::".toList ++ buildIPV4String ipv4 := by
  have groups := take_embeddedGroups embeddedIPv4CompatibleValue (packV4 ipv4)
  have six : (unpackV6 embeddedIPv4CompatibleValue).toList.take 6 = [0, 0, 0, 0, 0, 0] := by decide
  -- the seventh group is the first two bytes, so `::` stops before it
  have h₆ : (embeddedGroups embeddedIPv4CompatibleValue (packV4 ipv4)).get 6 ≠ 0 := by
    intro hzero
    have bytes := (bytes_halves ipv4).1
    rw [← (get_embeddedGroups embeddedIPv4CompatibleValue (packV4 ipv4)).1, hzero] at bytes
    refine h ⟨UInt8.toNat_inj.mp ?_, UInt8.toNat_inj.mp ?_⟩
    · rw [UInt16.toNat_zero] at bytes
      rw [UInt8.toNat_zero]
      omega
    · rw [UInt16.toNat_zero] at bytes
      rw [UInt8.toNat_zero]
      omega
  rw [six] at groups
  rw [toText_embedded (by rw [isEmbeddedIPv4Compatible_iff.mpr groups, Bool.true_or])
      (findLongestZeroSeq_compatible groups h₆) (Nat.le_refl 6),
    groups, embeddedIPV4Text_embeddedGroups]
  have front : [':', ':'] = "::".toList := by decide
  rw [← front]
  exact congrArg ([':', ':'] ++ ·) (List.intercalate_singleton)

/-! ### Both ways -/

/-- `construct` makes of the IPv4 address `v` an address that `is` holds of and `isOther` does not,
from which `get` gives `v` back; its text is as `text` says. -/
def Embeds (construct get : IPAddress → Outcome IPAddress) (is isOther : IPAddress → Bool)
    (v : IPAddress) (text : Text → Prop) : Prop :=
  ∃ m, construct v = .ok m ∧ is m = true ∧ isOther m = false ∧
    (∃ b, get m = .ok b ∧ (b == v) = true) ∧ text m.toText

/-- `get` throws exactly where `is` does not hold, and `construct` undoes it elsewhere. -/
def Restores (construct get : IPAddress → Outcome IPAddress) (is : IPAddress → Bool)
    (x : IPAddress) : Prop :=
  (is x = true → ∃ v m, get x = .ok v ∧ construct v = .ok m ∧ (m == x) = true) ∧
    ((∃ what, get x = .error (.invalidArgument what)) ↔ is x = false)

theorem restores {value : ValueTypePackedV6} {get : IPAddress → Outcome IPAddress}
    {is : IPAddress → Bool} (hget : Takes get is) (his : ∀ x, is x = true ↔
      x.type = .v6 ∧ x.ipv6.toList.take 6 = (unpackV6 value).toList.take 6) (x : IPAddress) :
    Restores (embed value) get is x := by
  refine ⟨fun hx => ?_, fun ⟨what, hthrow⟩ => ?_, (hget x).2⟩
  · obtain ⟨type, groups⟩ := (his x).mp hx
    refine ⟨_, _, (hget x).1 hx, embed_eq value (type_lastGroups x), ?_⟩
    rw [embeddedGroups_lastGroups groups]
    exact ofV6_beq type
  · refine Bool.eq_false_iff.mpr fun hx => ?_
    rw [(hget x).1 hx] at hthrow
    cases hthrow

theorem embeds {value : ValueTypePackedV6} {get : IPAddress → Outcome IPAddress}
    {is isOther : IPAddress → Bool} (hget : Takes get is) (his : ∀ x, is x = true ↔
      x.type = .v6 ∧ x.ipv6.toList.take 6 = (unpackV6 value).toList.take 6)
    (hother : ∀ x, is x = true → isOther x = false) {v : IPAddress} (h : v.type = .v4)
    {text : Text → Prop} (htext : text (ofV6 (embeddedGroups value (packV4 v.ipv4))).toText) :
    Embeds (embed value) get is isOther v text := by
  have embedded : is (ofV6 (embeddedGroups value (packV4 v.ipv4))) = true := by
    refine (his _).mpr ⟨type_ofV6 _, ?_⟩
    rw [ipv6_ofV6, take_embeddedGroups]
  exact ⟨_, embed_eq value h, embedded, hother _ embedded,
    ⟨_, (hget _).1 embedded, lastGroups_embedded value h⟩, htext⟩

/-- **Embedding**: the two ways to put an IPv4 address in an IPv6 one, and back. -/
theorem embedding {v : IPAddress} (hbuilt : v.Built) (h₄ : v.type = .v4) (x : IPAddress) :
    Embeds ofMapped getIPV4Mapped isIPV4Mapped isIPV4Compatible v
        (fun text => text = "::ffff:".toList ++ v.toText) ∧
      Embeds ofCompatible getIPV4Compatible isIPV4Compatible isIPV4Mapped v
        (fun text => ¬ (v.ipv4.get 0 = 0 ∧ v.ipv4.get 1 = 0) →
          text = "::".toList ++ v.toText) ∧
      Restores ofMapped getIPV4Mapped isIPV4Mapped x ∧
      Restores ofCompatible getIPV4Compatible isIPV4Compatible x := by
  have vText : v.toText = buildIPV4String v.ipv4 := by
    rw [hbuilt.toText_eq (by simp [h₄]), currentText, h₄]
  have mapped : ∀ x : IPAddress, x.isIPV4Mapped = true ↔ x.type = .v6 ∧
      x.ipv6.toList.take 6 = (unpackV6 embeddedIPv4MappedValue).toList.take 6 := fun x =>
    isIPV4Mapped_iff
  have compatible : ∀ x : IPAddress, x.isIPV4Compatible = true ↔ x.type = .v6 ∧
      x.ipv6.toList.take 6 = (unpackV6 embeddedIPv4CompatibleValue).toList.take 6 := fun x =>
    isIPV4Compatible_iff
  have apart : ∀ x : IPAddress, ¬ (x.isIPV4Mapped = true ∧ x.isIPV4Compatible = true) := by
    rintro x ⟨hm, hc⟩
    have same := (isIPV4Mapped_iff.mp hm).2.symm.trans (isIPV4Compatible_iff.mp hc).2
    exact absurd same (by decide)
  refine ⟨embeds takes_mapped mapped (fun x hm => ?_) h₄ ?_,
    embeds takes_compatible compatible (fun x hc => ?_) h₄ fun hbytes => ?_,
    restores takes_mapped mapped x, restores takes_compatible compatible x⟩
  · exact Bool.eq_false_iff.mpr fun hc => apart x ⟨hm, hc⟩
  · rw [vText]
    exact toText_mapped v.ipv4
  · exact Bool.eq_false_iff.mpr fun hm => apart x ⟨hm, hc⟩
  · rw [vText]
    exact toText_compatible hbytes

/-- At `192.168.0.1` and `::ffff:10.0.0.1`. -/
theorem embedding_lan :
    Embeds ofMapped getIPV4Mapped isIPV4Mapped isIPV4Compatible (ofV4 #v[192, 168, 0, 1])
        (fun text => text = "::ffff:".toList ++ (ofV4 #v[192, 168, 0, 1]).toText) ∧
      Restores ofMapped getIPV4Mapped isIPV4Mapped
        (ofV6 #v[0, 0, 0, 0, 0, 0xFFFF, 0x0a00, 1]) :=
  have both := embedding (.ofV4 #v[192, 168, 0, 1]) (type_ofV4 _)
    (ofV6 #v[0, 0, 0, 0, 0, 0xFFFF, 0x0a00, 1])
  ⟨both.1, both.2.2.1⟩

end IPAddress

end NetworkInterface
