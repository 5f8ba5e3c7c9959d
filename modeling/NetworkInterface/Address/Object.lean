import NetworkInterface.Address.Print

/-!
# Address — Object

`IPAddress` as the class stores it: the type, both values, and the text, cached in an array of
forty characters that every change of value overwrites in place (`buildIPString`).  Constructors
are setters applied to a default-initialised object.

The array holds more than the text: what follows the terminating NUL is left from earlier texts.
So two objects of one value need not be equal as records; they are equal under `operator==`,
which is the `BEq` instance here.
-/

namespace NetworkInterface

/-- `IPAddress::Type`. -/
inductive IPAddress.Type where
  | none
  | v4
  | v6
  deriving DecidableEq, Repr

/-- `IPAddress::IPStringMaxLength`. -/
def ipStringMaxLength : Nat := 40

structure IPAddress where
  type : IPAddress.Type
  ipv4 : ValueTypeV4
  ipv6 : ValueTypeV6
  ipString : Vector Char ipStringMaxLength
  deriving DecidableEq

namespace IPAddress

def zeroV4 : ValueTypeV4 := Vector.replicate 4 0
def zeroV6 : ValueTypeV6 := Vector.replicate 8 0

/-! ### The cached text -/

/-- `std::copy(text.begin(), text.end(), buffer.begin()); buffer[text.size()] = 0;` -/
def copyText (buffer : Vector Char ipStringMaxLength) (text : Text) :
    Vector Char ipStringMaxLength :=
  Vector.ofFn fun i =>
    if i.val < text.length then text.getD i.val '\x00'
    else if i.val = text.length then '\x00'
    else buffer[i]

/-- The `switch` of `buildIPString`: the text of the current value. -/
def currentText (this : IPAddress) : Text :=
  match this.type with
  | .v4 => buildIPV4String this.ipv4
  | .v6 =>
      let packedIP := packV6 this.ipv6
      let displayAsEmbeddedIPV4 :=
        isEmbeddedIPv4Compatible packedIP || isEmbeddedIPv4Mapped packedIP
      buildIPV6String this.ipv6 packedIP displayAsEmbeddedIPV4
  | .none => "Invalid IPAddress".toList

/-- `IPAddress::buildIPString`.  A text that does not fit is cut; the assertion that this does
not happen is `currentText_fits`. -/
def buildIPString (this : IPAddress) : IPAddress :=
  { this with ipString := copyText this.ipString (this.currentText.take (ipStringMaxLength - 1)) }

/-- `operator std::string`: the array up to its first NUL. -/
def toText (this : IPAddress) : Text := this.ipString.toList.takeWhile (· ≠ '\x00')

/-! ### Setters and constructors -/

/-- `setValue(value_type_v4)`. -/
def setValueV4 (this : IPAddress) (ipv4 : ValueTypeV4) : IPAddress :=
  { this with type := .v4, ipv4 := ipv4, ipv6 := zeroV6 }.buildIPString

/-- `setValue(value_type_v6)`. -/
def setValueV6 (this : IPAddress) (ipv6 : ValueTypeV6) : IPAddress :=
  { this with type := .v6, ipv4 := zeroV4, ipv6 := ipv6 }.buildIPString

/-- `setValue(value_type_packed_v4)`. -/
def setValuePackedV4 (this : IPAddress) (ipv4 : ValueTypePackedV4) : IPAddress :=
  this.setValueV4 (unpackV4 ipv4)

/-- `setValue(value_type_packed_v6)`. -/
def setValuePackedV6 (this : IPAddress) (ipv6 : ValueTypePackedV6) : IPAddress :=
  this.setValueV6 (unpackV6 ipv6)

/-- The object the member initialisers leave, before the body of a constructor runs. -/
def blank : IPAddress := ⟨.none, zeroV4, zeroV6, Vector.replicate _ '\x00'⟩

/-- `IPAddress()`. -/
def invalid : IPAddress := { blank with ipString := copyText blank.ipString "Invalid IP".toList }

/-- `IPAddress(value_type_v4)`. -/
def ofV4 (ipv4 : ValueTypeV4) : IPAddress := blank.setValueV4 ipv4

/-- `IPAddress(value_type_v6)`. -/
def ofV6 (ipv6 : ValueTypeV6) : IPAddress := blank.setValueV6 ipv6

/-- `IPAddress(value_type_packed_v4)`. -/
def ofPackedV4 (ipv4 : ValueTypePackedV4) : IPAddress := blank.setValuePackedV4 ipv4

/-- `IPAddress(value_type_packed_v6)`. -/
def ofPackedV6 (ipv6 : ValueTypePackedV6) : IPAddress := blank.setValuePackedV6 ipv6

/-! ### Comparison -/

def isValid (this : IPAddress) : Bool := this.type ≠ .none

/-- `operator==(IPAddress const&, IPAddress const&)`. -/
def equals (lhs rhs : IPAddress) : Bool :=
  if !lhs.isValid && !rhs.isValid then true
  else if lhs.type ≠ rhs.type then false
  else match lhs.type with
    | .v4 => lhs.ipv4 == rhs.ipv4
    | .v6 => lhs.ipv6 == rhs.ipv6
    | .none => false

instance : BEq IPAddress := ⟨equals⟩

theorem beq_iff {a b : IPAddress} : (a == b) = true ↔
    a.type = b.type ∧ (a.type = .v4 → a.ipv4 = b.ipv4) ∧ (a.type = .v6 → a.ipv6 = b.ipv6) := by
  show equals a b = true ↔ _
  unfold equals isValid
  cases ha : a.type <;> cases hb : b.type <;> simp

instance : EquivBEq IPAddress where
  rfl := beq_iff.mpr ⟨rfl, fun _ => rfl, fun _ => rfl⟩
  symm h := by
    obtain ⟨ht, h₄, h₆⟩ := beq_iff.mp h
    exact beq_iff.mpr ⟨ht.symm, fun h => (h₄ (ht.trans h)).symm, fun h => (h₆ (ht.trans h)).symm⟩
  trans h h' := by
    obtain ⟨ht, h₄, h₆⟩ := beq_iff.mp h
    obtain ⟨ht', h₄', h₆'⟩ := beq_iff.mp h'
    exact beq_iff.mpr ⟨ht.trans ht', fun h => (h₄ h).trans (h₄' (ht ▸ h)),
      fun h => (h₆ h).trans (h₆' (ht ▸ h))⟩

/-! ### The fields after a change of value -/

@[simp] theorem type_buildIPString (a : IPAddress) : a.buildIPString.type = a.type := by
  rw [buildIPString]
@[simp] theorem ipv4_buildIPString (a : IPAddress) : a.buildIPString.ipv4 = a.ipv4 := by
  rw [buildIPString]
@[simp] theorem ipv6_buildIPString (a : IPAddress) : a.buildIPString.ipv6 = a.ipv6 := by
  rw [buildIPString]
@[simp] theorem type_setValueV4 (a : IPAddress) (v) : (a.setValueV4 v).type = .v4 :=
  type_buildIPString _
@[simp] theorem ipv4_setValueV4 (a : IPAddress) (v) : (a.setValueV4 v).ipv4 = v :=
  ipv4_buildIPString _
@[simp] theorem ipv6_setValueV4 (a : IPAddress) (v) : (a.setValueV4 v).ipv6 = zeroV6 :=
  ipv6_buildIPString _
@[simp] theorem type_setValueV6 (a : IPAddress) (v) : (a.setValueV6 v).type = .v6 :=
  type_buildIPString _
@[simp] theorem ipv4_setValueV6 (a : IPAddress) (v) : (a.setValueV6 v).ipv4 = zeroV4 :=
  ipv4_buildIPString _
@[simp] theorem ipv6_setValueV6 (a : IPAddress) (v) : (a.setValueV6 v).ipv6 = v :=
  ipv6_buildIPString _

@[simp] theorem type_ofV4 (v) : (ofV4 v).type = .v4 := type_setValueV4 _ _
@[simp] theorem ipv4_ofV4 (v) : (ofV4 v).ipv4 = v := ipv4_setValueV4 _ _
@[simp] theorem type_ofV6 (v) : (ofV6 v).type = .v6 := type_setValueV6 _ _
@[simp] theorem ipv6_ofV6 (v) : (ofV6 v).ipv6 = v := ipv6_setValueV6 _ _
@[simp] theorem type_ofPackedV4 (ip) : (ofPackedV4 ip).type = .v4 := type_setValueV4 _ _
@[simp] theorem type_ofPackedV6 (ip) : (ofPackedV6 ip).type = .v6 := type_setValueV6 _ _

/-- An IPv4 object made of the value of another one is equal to it. -/
theorem ofV4_beq {a : IPAddress} (h : a.type = .v4) : (ofV4 a.ipv4 == a) = true := by
  refine beq_iff.mpr ⟨(type_ofV4 _).trans h.symm, fun _ => ipv4_ofV4 _, fun h₆ => ?_⟩
  rw [type_ofV4] at h₆
  cases h₆

/-- And an IPv6 object. -/
theorem ofV6_beq {a : IPAddress} (h : a.type = .v6) : (ofV6 a.ipv6 == a) = true := by
  refine beq_iff.mpr ⟨(type_ofV6 _).trans h.symm, fun h₄ => ?_, fun _ => ipv6_ofV6 _⟩
  rw [type_ofV6] at h₄
  cases h₄

/-- What the array holds after a text of no NUL that fits was copied into it. -/
theorem takeWhile_copyText {buffer : Vector Char ipStringMaxLength} {text : Text}
    (hlen : text.length < ipStringMaxLength) (hnul : '\x00' ∉ text) :
    (copyText buffer text).toList.takeWhile (· ≠ '\x00') = text := by
  have split : (copyText buffer text).toList =
      text ++ '\x00' :: (copyText buffer text).toList.drop (text.length + 1) := by
    refine List.ext_getElem? fun i => ?_
    rw [copyText, Vector.toList_ofFn]
    rcases Nat.lt_trichotomy i text.length with h | h | h
    · have hi : i < ipStringMaxLength := by omega
      simp [List.getElem?_append_left h, hi, h, List.getD_eq_getElem?_getD]
    · subst h
      simp [hlen]
    · have next : i - text.length = (i - text.length - 1) + 1 := by omega
      have back : text.length + 1 + (i - text.length - 1) = i := by omega
      rw [List.getElem?_append_right (by omega), next, List.getElem?_cons_succ, List.getElem?_drop,
        back]
  rw [split, List.takeWhile_append_of_pos]
  · simp
  · intro c hc
    simpa using fun h : c = '\x00' => hnul (h ▸ hc)

end IPAddress

end NetworkInterface
