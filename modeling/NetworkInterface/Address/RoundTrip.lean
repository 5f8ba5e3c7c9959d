import NetworkInterface.Address.Printed

/-!
# Address — RoundTrip

**Parse undoes print** (`ofString_toText`): the text of an address, given back to the constructor,
makes an address of the same type and value.

`toText_buildIPString` is about the array in between: `buildIPString` never has to cut a text
(`currentText_fits`), writes no NUL of its own, and so what is read back from the array is the
text that was written, whatever the array held before.
-/

namespace NetworkInterface
open Support

/-! ### No NUL in the text -/

theorem mem_joinColon {c : Char} {tokens : List Text} (h : c ∈ joinColon tokens) :
    c = ':' ∨ ∃ t ∈ tokens, c ∈ t := by
  induction tokens with
  | nil => cases h
  | cons t tokens ih =>
      cases tokens with
      | nil => exact .inr ⟨t, List.mem_singleton_self t, by simpa [joinColon] using h⟩
      | cons u tokens =>
          rw [joinColon, List.intercalate_cons_cons, ← joinColon] at h
          rcases List.mem_append.mp h with h | h
          · rcases List.mem_append.mp h with h | h
            · exact .inr ⟨t, by simp, h⟩
            · exact .inl (List.mem_singleton.mp h)
          · obtain rfl | ⟨v, hv, hc⟩ := ih h
            · exact .inl rfl
            · exact .inr ⟨v, List.mem_cons_of_mem _ hv, hc⟩

theorem HexGroup.nul_not_mem (g : HexGroup) : '\x00' ∉ g.digits :=
  not_mem_of_digits g.digit (by decide)

theorem Groups.nul_not_mem (g : Groups) : '\x00' ∉ joinColon g.tokens := by
  intro h
  obtain h | ⟨t, ht, hc⟩ := mem_joinColon h
  · exact absurd h (by decide)
  · rcases List.mem_append.mp ht with ht | ht
    · obtain ⟨d, -, rfl⟩ := List.mem_map.mp ht
      exact d.nul_not_mem hc
    · obtain ⟨q, -, rfl⟩ := List.mem_map.mp ht
      exact q.not_mem_write (by decide) (by decide) hc

theorem TextV6.nul_not_mem (t : TextV6) : '\x00' ∉ t.write := by
  cases t with
  | full all _ => exact all.nul_not_mem
  | compressed left right _ =>
      have := (Groups.mk left none).nul_not_mem
      simp only [Groups.tokens, Option.toList_none, List.map_nil, List.append_nil] at this
      simp [TextV6.write, this, right.nul_not_mem]

/-! ### IPv4 -/

/-- The quad an IPv4 address is printed as. -/
def Quad.ofV4 (ipv4 : ValueTypeV4) : Quad where
  a := .of (ipv4.get 0).toNat (ipv4.get 0).toNat_lt
  b := .of (ipv4.get 1).toNat (ipv4.get 1).toNat_lt
  c := .of (ipv4.get 2).toNat (ipv4.get 2).toNat_lt
  d := .of (ipv4.get 3).toNat (ipv4.get 3).toNat_lt

theorem Quad.write_ofV4 (ipv4 : ValueTypeV4) : buildIPV4String ipv4 = (Quad.ofV4 ipv4).write := by
  rw [buildIPV4String, toList_v4]
  simp [Quad.write, Quad.ofV4, Octet.of]

theorem Quad.length_write_ofV4 (ipv4 : ValueTypeV4) : (Quad.ofV4 ipv4).write.length < 40 := by
  have h₀ := Octet.length_of (ipv4.get 0).toNat_lt
  have h₁ := Octet.length_of (ipv4.get 1).toNat_lt
  have h₂ := Octet.length_of (ipv4.get 2).toNat_lt
  have h₃ := Octet.length_of (ipv4.get 3).toNat_lt
  simp only [Quad.write, Quad.ofV4, List.length_append, List.length_cons]
  omega

/-- The constructor at a dotted quad. -/
theorem Quad.ofString_write (q : Quad) : IPAddress.ofString q.write = .ok (IPAddress.ofV4
    #v[UInt8.ofNat q.a.value, UInt8.ofNat q.b.value, UInt8.ofNat q.c.value,
      UInt8.ofNat q.d.value]) := by
  have noColon : ':' ∉ q.write := q.not_mem_write (by decide) (by decide)
  rw [ofString_noColon noColon, q.parse]
  rfl

theorem ofString_buildIPV4String (ipv4 : ValueTypeV4) :
    IPAddress.ofString (buildIPV4String ipv4) = .ok (IPAddress.ofV4 ipv4) := by
  have bytes : #v[UInt8.ofNat (ipv4.get 0).toNat, UInt8.ofNat (ipv4.get 1).toNat,
      UInt8.ofNat (ipv4.get 2).toNat, UInt8.ofNat (ipv4.get 3).toNat] = ipv4 := by
    refine Vector.ext fun j hj => ?_
    interval_cases j <;> simp <;> rfl
  rw [Quad.write_ofV4, Quad.ofString_write]
  simp only [Quad.ofV4, Octet.value_of, bytes]

/-! ### IPv6 -/

/-- An address that embeds an IPv4 address starts with two zero groups. -/
theorem isRun_of_embedded {ipv6 : ValueTypeV6} (h : (isEmbeddedIPv4Compatible (packV6 ipv6) ||
    isEmbeddedIPv4Mapped (packV6 ipv6)) = true) :
    LongestRun.IsRun isZero ipv6.toList (0, 2) := by
  have zeros : ∃ c, ipv6.toList.take 6 = [0, 0, 0, 0, 0, c] := by
    rw [Bool.or_eq_true, isEmbeddedIPv4Compatible_iff, isEmbeddedIPv4Mapped_iff] at h
    rcases h with h | h
    · exact ⟨_, h⟩
    · exact ⟨_, h⟩
  obtain ⟨c, hc⟩ := zeros
  refine ⟨by decide, by simp, fun i _ hi v hv => isZero_iff.mpr ?_⟩
  have : (ipv6.toList.take 6)[i]? = some v := by
    rwa [List.getElem?_take_of_lt (by omega)]
  rw [hc] at this
  have hi : i < 2 := by omega
  interval_cases i
  · exact (Option.some.inj this).symm
  · exact (Option.some.inj this).symm

theorem exists_currentText {a : IPAddress} (h : a.type = .v6) :
    ∃ t : TextV6, a.currentText = t.write ∧ t.value = a.ipv6 ∧ t.write.length < 40 := by
  rw [IPAddress.currentText, h]
  exact exists_text a.ipv6 isRun_of_embedded

/-! ### The array -/

namespace IPAddress

/-- The text fits the array and holds no NUL. -/
theorem currentText_fits (a : IPAddress) :
    a.currentText.length < ipStringMaxLength ∧ '\x00' ∉ a.currentText := by
  cases h : a.type with
  | none =>
      rw [currentText, h]
      exact (by decide : "Invalid IPAddress".toList.length < ipStringMaxLength ∧
        '\x00' ∉ "Invalid IPAddress".toList)
  | v4 =>
      rw [currentText, h]
      exact Quad.write_ofV4 a.ipv4 ▸ ⟨Quad.length_write_ofV4 a.ipv4,
        (Quad.ofV4 a.ipv4).not_mem_write (by decide) (by decide)⟩
  | v6 =>
      obtain ⟨t, ht, -, hlen⟩ := exists_currentText h
      exact ht ▸ ⟨hlen, t.nul_not_mem⟩

/-- **The array** gives back the text, whatever it held before. -/
theorem toText_buildIPString (a : IPAddress) : a.buildIPString.toText = a.currentText := by
  obtain ⟨hlen, hnul⟩ := a.currentText_fits
  have fits : a.currentText.take (ipStringMaxLength - 1) = a.currentText :=
    List.take_of_length_le (Nat.le_sub_one_of_lt hlen)
  rw [toText, buildIPString, fits]
  exact takeWhile_copyText hlen hnul

/-! ### Objects -/

/-- The objects a program can hold.  Every other constructor, operator and assignment gives a copy
of one of these. -/
inductive Built : IPAddress → Prop where
  | invalid : Built invalid
  | ofV4 (ipv4 : ValueTypeV4) : Built (ofV4 ipv4)
  | ofV6 (ipv6 : ValueTypeV6) : Built (ofV6 ipv6)
  | ofString {s : Text} {a : IPAddress} : ofString s = .ok a → Built a
  | setValueV4 {a : IPAddress} (ipv4 : ValueTypeV4) : Built a → Built (a.setValueV4 ipv4)
  | setValueV6 {a : IPAddress} (ipv6 : ValueTypeV6) : Built a → Built (a.setValueV6 ipv6)

/-- What the constructor makes when it does not throw. -/
theorem ofString_ok {s : Text} {a : IPAddress} (h : ofString s = .ok a) :
    (∃ v, a = IPAddress.ofV4 v) ∨ ∃ v, a = IPAddress.ofV6 v := by
  rw [ofString, tokenizeString_eq s (by simp), kept_true] at h
  change (if _ then _ else _) = _ at h
  split at h
  · obtain ⟨tokens, -, h⟩ := Outcome.bind_eq_ok.mp h
    obtain ⟨tokens, -, h⟩ := Outcome.bind_eq_ok.mp h
    obtain ⟨ip, -, h⟩ := Outcome.bind_eq_ok.mp h
    exact .inr ⟨unpackV6 ip, (Except.ok.inj h).symm⟩
  · obtain ⟨v, -, h⟩ := Outcome.bind_eq_ok.mp h
    exact .inl ⟨v, (Except.ok.inj h).symm⟩

theorem currentText_buildIPString (a : IPAddress) :
    a.buildIPString.currentText = a.currentText := by
  rw [currentText, currentText, type_buildIPString, ipv4_buildIPString, ipv6_buildIPString]

/-- The text of a valid object is the one of its value. -/
theorem Built.toText_eq {a : IPAddress} (h : Built a) (hvalid : a.type ≠ .none) :
    a.toText = a.currentText := by
  have built : ∀ b : IPAddress, b.buildIPString.toText = b.buildIPString.currentText := fun b =>
    (toText_buildIPString b).trans (currentText_buildIPString b).symm
  cases h with
  | invalid => exact absurd rfl hvalid
  | ofV4 | ofV6 | setValueV4 | setValueV6 => exact built _
  | ofString h =>
      obtain ⟨v, rfl⟩ | ⟨v, rfl⟩ := ofString_ok h
      · exact built _
      · exact built _

/-- **Parse undoes print**. -/
theorem ofString_toText {a : IPAddress} (h : Built a) (hvalid : a.type = .v4 ∨ a.type = .v6) :
    ∃ b, ofString a.toText = .ok b ∧ b.type = a.type ∧ (b == a) = true := by
  rcases hvalid with ht | ht
  · refine ⟨.ofV4 a.ipv4, ?_, (type_ofV4 _).trans ht.symm, ofV4_beq ht⟩
    rw [h.toText_eq (by simp [ht]), currentText, ht]
    exact ofString_buildIPV4String a.ipv4
  · obtain ⟨t, htext, hvalue, -⟩ := exists_currentText ht
    refine ⟨.ofV6 a.ipv6, ?_, (type_ofV6 _).trans ht.symm, ofV6_beq ht⟩
    rw [h.toText_eq (by simp [ht]), htext, t.ofString_write, hvalue]

/-- At `fe80::1`, in an object that held another address before. -/
theorem ofString_toText_linkLocal :
    let a := (ofV4 #v[192, 168, 0, 1]).setValueV6 #v[0xfe80, 0, 0, 0, 0, 0, 0, 1]
    ∃ b, ofString a.toText = .ok b ∧ b.type = a.type ∧ (b == a) = true :=
  ofString_toText (.setValueV6 _ (.ofV4 _)) (.inr (type_setValueV6 _ _))

end IPAddress

end NetworkInterface
