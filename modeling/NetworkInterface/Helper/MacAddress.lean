import NetworkInterface.Address.Parse
import NetworkInterface.Helper.Interface
import NetworkInterface.Support.OutStream

/-!
# Helper — MacAddress

The text of a MAC address: `macAddressToString` and `stringToMacAddress`.

The bytes are printed through one stream, each at width two; they are read back as one hexadecimal
number of 64 bits, once the separators are erased.

* `macAddress_roundTrip`: reading what was printed, and printing what was read, for every separator
  that is not a hexadecimal digit.
* `refusesOthers_iff`: the texts at which nothing but twelve hexadecimal digits is accepted.
-/

namespace NetworkInterface
open Support
open Support.Numeral (isDigit isSpace splitSign hexPair hexDigits)
open Support.Positional (positional)

/-! ### The two functions -/

/-- The body of the loop of `macAddressToString`: `isFirst`, and the stream. -/
def putByte (separator : Char) (st : Bool × OutStream) (v : UInt8) : Bool × OutStream :=
  let (isFirst, ss) := st
  let ss := if isFirst then ss else if separator ≠ '\x00' then ss.putChar separator else ss
  (false, (ss.setw 2).putUnsigned v.toNat)

/-- `NetworkInterfaceHelper::macAddressToString`.  The stream has the memory it asks for, so nothing
is thrown that the function would catch. -/
def macAddressToString (macAddress : MacAddress) (upperCase : Bool) (separator : Char) : Text :=
  let ss : OutStream := {}
  let ss := if upperCase then { ss with uppercase := true } else ss
  let ss := { ss with base := 16, fill := '0' }
  (macAddress.toList.foldl (putByte separator) (true, ss)).2.text

/-- The text that is put into the stream to be read. -/
def eraseSeparator (macAddressAsString : Text) (separator : Char) : Text :=
  if separator ≠ '\x00' then macAddressAsString.filter (· ≠ separator) else macAddressAsString

/-- The six bytes of an integer, from bit 47 down. -/
def macBytes (macAsInteger : UInt64) : MacAddress :=
  #v[(macAsInteger >>> 40 &&& 0xFF).toUInt8, (macAsInteger >>> 32 &&& 0xFF).toUInt8,
    (macAsInteger >>> 24 &&& 0xFF).toUInt8, (macAsInteger >>> 16 &&& 0xFF).toUInt8,
    (macAsInteger >>> 8 &&& 0xFF).toUInt8, (macAsInteger >>> 0 &&& 0xFF).toUInt8]

/-- `NetworkInterfaceHelper::stringToMacAddress`. -/
def stringToMacAddress (macAddressAsString : Text) (separator : Char) : Outcome MacAddress :=
  let str := eraseSeparator macAddressAsString separator
  match Numeral.readUnsigned 16 64 str with
  | some macAsInteger => .ok (macBytes (UInt64.ofNat macAsInteger))
  | none => .error (.invalidArgument
      ("Invalid MacAddress representation: " ++ String.ofList macAddressAsString))

/-! ### The form of a MAC address -/

/-- The parts with the separator between each two, or with nothing between them. -/
def joinWith (separator : Char) (parts : List Text) : Text :=
  if separator = '\x00' then parts.flatten else List.intercalate [separator] parts

/-- Two hexadecimal digits, for the byte `b`. -/
structure IsPair (p : Text) (b : UInt8) : Prop where
  length : p.length = 2
  digit : ∀ c ∈ p, isDigit 16 c = true
  value : Numeral.value 16 p = b.toNat

/-- The text is the six bytes, two hexadecimal digits each. -/
def DigitPairs (t : Text) (m : MacAddress) : Prop :=
  ∃ pairs, t = pairs.flatten ∧ List.Forall₂ IsPair pairs m.toList

def TwelveDigits (t : Text) : Prop := t.length = 12 ∧ ∀ c ∈ t, isDigit 16 c = true

/-- The digits the stream reads: behind white space, a sign and a prefix. -/
def hexField (t : Text) : Text :=
  (Numeral.dropHexPrefix (splitSign (t.dropWhile isSpace)).2).takeWhile (isDigit 16)

/-! ### Printing -/

section
variable {upperCase : Bool} {separator : Char} {os : OutStream}

/-- What is written between two bytes. -/
def between (separator : Char) : Text := if separator ≠ '\x00' then [separator] else []

/-- The first byte has no separator before it. -/
theorem putByte_first (separator : Char) (h : os.InHex upperCase) (v : UInt8) :
    ∃ os', putByte separator (true, os) v = (false, os') ∧ os'.InHex upperCase ∧
      os'.text = os.text ++ hexPair upperCase v.toNat :=
  ⟨_, rfl, h.putUnsigned 2 _, OutStream.text_setw_two h v.toNat_lt⟩

theorem putByte_later (separator : Char) (h : os.InHex upperCase) (v : UInt8) :
    ∃ os', putByte separator (false, os) v = (false, os') ∧ os'.InHex upperCase ∧
      os'.text = os.text ++ (between separator ++ hexPair upperCase v.toNat) := by
  by_cases hs : separator ≠ '\x00'
  · have written := OutStream.text_setw_two (h.putChar separator) v.toNat_lt
    rw [OutStream.text_putChar h, List.append_assoc] at written
    refine ⟨((os.putChar separator).setw 2).putUnsigned v.toNat, ?_,
      (h.putChar separator).putUnsigned 2 _, ?_⟩
    · simp [putByte, hs]
    · rw [written, between, if_pos hs]
  · refine ⟨(os.setw 2).putUnsigned v.toNat, ?_, h.putUnsigned 2 _, ?_⟩
    · simp [putByte, hs]
    · rw [OutStream.text_setw_two h v.toNat_lt, between, if_neg hs, List.nil_append]

/-- The loop, from the second byte on. -/
theorem text_foldl_putByte (bytes : List UInt8) (h : os.InHex upperCase) :
    (bytes.foldl (putByte separator) (false, os)).2.text =
      os.text ++ bytes.flatMap fun v => between separator ++ hexPair upperCase v.toNat := by
  induction bytes generalizing os with
  | nil => exact (List.append_nil _).symm
  | cons v bytes ih =>
      obtain ⟨os', run, h', text⟩ := putByte_later separator h v
      rw [List.foldl_cons, run, ih h', text, List.flatMap_cons, List.append_assoc]

theorem joinWith_cons (separator : Char) (p : Text) (parts : List Text) :
    joinWith separator (p :: parts) = p ++ parts.flatMap (between separator ++ ·) := by
  rw [joinWith, between]
  by_cases hs : separator = '\x00'
  · simp [hs, List.flatMap_def]
  · rw [if_neg hs, if_pos hs]
    induction parts generalizing p with
    | nil => simp [List.intercalate]
    | cons q parts ih =>
        rw [List.intercalate_cons_cons, ih, List.flatMap_cons, List.append_assoc,
          List.append_assoc]

/-- **What is printed**: the pairs of digits, joined. -/
theorem macAddressToString_eq (m : MacAddress) (upperCase : Bool) (separator : Char) :
    macAddressToString m upperCase separator =
      joinWith separator (m.toList.map fun v => hexPair upperCase v.toNat) := by
  have start : OutStream.InHex { text := [], base := 16, uppercase := upperCase, fill := '0' }
      upperCase := ⟨rfl, rfl, rfl, rfl⟩
  have stream : macAddressToString m upperCase separator = (m.toList.foldl (putByte separator)
      (true, { text := [], base := 16, uppercase := upperCase, fill := '0' })).2.text := by
    cases upperCase <;> rfl
  obtain ⟨v, bytes, hm⟩ : ∃ v bytes, m.toList = v :: bytes :=
    List.exists_cons_of_length_pos (by simp)
  obtain ⟨os, run, h, text⟩ := putByte_first separator start v
  rw [stream, hm, List.foldl_cons, run, text_foldl_putByte bytes h, text, List.map_cons,
    joinWith_cons, List.flatMap_map]
  rfl

/-! ### Erasing the separator -/

/-- What is joined by a separator that is in no part is what was joined. -/
theorem eraseSeparator_joinWith {parts : List Text} (h : ∀ p ∈ parts, separator ∉ p) :
    eraseSeparator (joinWith separator parts) separator = parts.flatten := by
  rw [eraseSeparator]
  by_cases hs : separator = '\x00'
  · rw [if_neg (not_not_intro hs), joinWith, if_pos hs]
  rw [if_pos hs]
  have kept : ∀ p ∈ parts, p.filter (· ≠ separator) = p := fun p hp =>
    List.filter_eq_self.mpr fun c hc => decide_eq_true fun heq => h p hp (heq ▸ hc)
  cases parts with
  | nil => simp [joinWith, List.intercalate]
  | cons p parts =>
      rw [List.forall_mem_cons] at kept
      have rest : (parts.flatMap (between separator ++ ·)).filter (· ≠ separator) =
          parts.flatten := by
        rw [List.filter_flatMap, ← List.flatMap_id']
        refine List.flatMap_congr fun q hq => ?_
        rw [List.filter_append, kept.2 q hq, between, if_pos hs]
        simp
      rw [joinWith_cons, List.filter_append, kept.1, rest, List.flatten_cons]

end

/-! ### Reading -/

/-- Pairs of digits are a numeral, whose digits in base `2 ^ 8` are the bytes. -/
theorem value_pairs {pairs : List Text} {bytes : List UInt8} (h : List.Forall₂ IsPair pairs bytes) :
    pairs.flatten.length = 2 * bytes.length ∧ (∀ c ∈ pairs.flatten, isDigit 16 c = true) ∧
      Numeral.value 16 pairs.flatten = positional (2 ^ 8) (bytes.map UInt8.toNat) := by
  induction h with
  | nil => exact ⟨rfl, fun c hc => absurd hc List.not_mem_nil, rfl⟩
  | @cons p b pairs bytes hp _ ih =>
      obtain ⟨length, digits, value⟩ := ih
      rw [List.flatten_cons]
      refine ⟨?_, List.forall_mem_append.mpr ⟨hp.digit, digits⟩, ?_⟩
      · rw [List.length_append, List.length_cons, hp.length, length]
        omega
      · rw [Numeral.value_append, hp.value, value, length, List.map_cons, positional,
          List.length_map, Nat.pow_mul]
        rfl

/-- Two digits are those of the byte they denote. -/
theorem isPair_value {p : Text} (length : p.length = 2) (digits : ∀ c ∈ p, isDigit 16 c = true) :
    IsPair p (UInt8.ofNat (Numeral.value 16 p)) := by
  have small := Numeral.value_lt digits
  rw [length] at small
  exact ⟨length, digits, (UInt8.toNat_ofNat_of_lt' small).symm⟩

/-- An even number of digits is a row of pairs. -/
theorem exists_pairs (k : Nat) : ∀ t : Text, t.length = 2 * k → (∀ c ∈ t, isDigit 16 c = true) →
    ∃ pairs bytes, t = pairs.flatten ∧ List.Forall₂ IsPair pairs bytes ∧ bytes.length = k := by
  induction k with
  | zero => exact fun t ht _ => ⟨[], [], List.length_eq_zero_iff.mp ht, .nil, rfl⟩
  | succ k ih =>
      intro t ht digits
      obtain ⟨pairs, bytes, hrest, h, length⟩ := ih (t.drop 2) (by rw [List.length_drop]; omega)
        fun c hc => digits c (List.mem_of_mem_drop hc)
      have first : IsPair (t.take 2) (UInt8.ofNat (Numeral.value 16 (t.take 2))) :=
        isPair_value (by rw [List.length_take]; omega) fun c hc =>
          digits c (List.mem_of_mem_take hc)
      refine ⟨t.take 2 :: pairs, _ :: bytes, ?_, .cons first h, by rw [List.length_cons, length]⟩
      rw [List.flatten_cons, ← hrest, List.take_append_drop]

section
variable {s t : Text} {m : MacAddress}

theorem DigitPairs.twelve (h : DigitPairs t m) : TwelveDigits t := by
  obtain ⟨pairs, rfl, h⟩ := h
  obtain ⟨length, digits, -⟩ := value_pairs h
  exact ⟨length.trans (by simp), digits⟩

theorem TwelveDigits.pairs (h : TwelveDigits t) : ∃ m, DigitPairs t m := by
  obtain ⟨pairs, bytes, ht, h, length⟩ := exists_pairs 6 t h.1 h.2
  exact ⟨⟨bytes.toArray, length⟩, pairs, ht, h⟩

theorem toList_mac (m : MacAddress) : m.toList = [m[0], m[1], m[2], m[3], m[4], m[5]] := by
  refine List.ext_getElem (by simp) fun j hj hj' => ?_
  simp only [List.length_cons, List.length_nil] at hj'
  interval_cases j <;> simp

/-- A byte of a word. -/
theorem toNat_byte (n : UInt64) {k : UInt64} (hk : k.toNat < 64) :
    (n >>> k &&& 0xFF).toUInt8.toNat = n.toNat / 2 ^ k.toNat % 2 ^ 8 := by
  rw [UInt64.toNat_toUInt8, UInt64.toNat_and, UInt64.toNat_shiftRight, Nat.mod_eq_of_lt hk]
  change (n.toNat >>> k.toNat &&& (2 ^ 8 - 1)) % 2 ^ 8 = _
  rw [Nat.and_two_pow_sub_one_eq_mod, Nat.mod_mod, Nat.shiftRight_eq_div_pow]

/-- The bytes of a number of 48 bits. -/
theorem macBytes_eq {n : Nat} (h : n = positional (2 ^ 8) (m.toList.map UInt8.toNat)) :
    macBytes (UInt64.ofNat n) = m := by
  have h₀ := m[0].toNat_lt
  have h₁ := m[1].toNat_lt
  have h₂ := m[2].toNat_lt
  have h₃ := m[3].toNat_lt
  have h₄ := m[4].toNat_lt
  have h₅ := m[5].toNat_lt
  rw [toList_mac] at h
  simp only [List.map_cons, List.map_nil, positional, List.length_cons, List.length_nil] at h
  have word : (UInt64.ofNat n).toNat = n := UInt64.toNat_ofNat_of_lt' (by
    show n < 2 ^ 64
    omega)
  have byte : ∀ {k : UInt64} {b : UInt8}, k.toNat < 64 → n / 2 ^ k.toNat % 2 ^ 8 = b.toNat →
      (UInt64.ofNat n >>> k &&& 0xFF).toUInt8 = b := fun hk hb => by
    rw [← UInt8.toNat_inj, toNat_byte _ hk, word, hb]
  rw [← Vector.toList_inj, toList_mac m]
  change [_, _, _, _, _, _] = _
  rw [byte (k := 40) (b := m[0]) (by decide) (by change n / 2 ^ 40 % 2 ^ 8 = _; omega),
    byte (k := 32) (b := m[1]) (by decide) (by change n / 2 ^ 32 % 2 ^ 8 = _; omega),
    byte (k := 24) (b := m[2]) (by decide) (by change n / 2 ^ 24 % 2 ^ 8 = _; omega),
    byte (k := 16) (b := m[3]) (by decide) (by change n / 2 ^ 16 % 2 ^ 8 = _; omega),
    byte (k := 8) (b := m[4]) (by decide) (by change n / 2 ^ 8 % 2 ^ 8 = _; omega),
    byte (k := 0) (b := m[5]) (by decide) (by change n / 2 ^ 0 % 2 ^ 8 = _; omega)]

/-- **Twelve digits** are read as their pairs. -/
theorem readUnsigned_twelve (h : DigitPairs t m) : ∃ n, Numeral.readUnsigned 16 64 t = some n ∧
    macBytes (UInt64.ofNat n) = m := by
  obtain ⟨pairs, rfl, h⟩ := h
  obtain ⟨length, digits, value⟩ := value_pairs h
  have hne : pairs.flatten ≠ [] := List.ne_nil_of_length_pos (by rw [length]; simp)
  have small := Numeral.value_lt digits
  rw [length, Vector.length_toList] at small
  exact ⟨_, Numeral.readUnsigned_hexDigits hne digits (small.trans (by decide)), macBytes_eq value⟩

/-! ### The round trip -/

/-- Pairs of digits, joined by what is not a digit. -/
theorem stringToMacAddress_joinWith {separator : Char} (hs : isDigit 16 separator = false)
    {pairs : List Text} (h : List.Forall₂ IsPair pairs m.toList) :
    stringToMacAddress (joinWith separator pairs) separator = .ok m := by
  have apart : ∀ p ∈ pairs, separator ∉ p := by
    intro p hp hc
    have digit := (value_pairs h).2.1 separator (List.mem_flatten_of_mem hp hc)
    rw [hs] at digit
    cases digit
  obtain ⟨n, read, bytes⟩ := readUnsigned_twelve ⟨pairs, rfl, h⟩
  rw [stringToMacAddress, eraseSeparator_joinWith apart, read]
  exact congrArg Except.ok bytes

theorem isPair_hexPair (upperCase : Bool) (v : UInt8) : IsPair (hexPair upperCase v.toNat) v where
  length := rfl
  digit _ hc := Numeral.isDigit_of_mem_hexDigits (Numeral.mem_hexPair v.toNat_lt hc)
  value := Numeral.value_hexPair upperCase v.toNat_lt

/-- **Round trip**: what is printed is read back, and what has the form of what is printed is
printed again, for every separator that is not a hexadecimal digit. -/
theorem macAddress_roundTrip {separator : Char} (hs : isDigit 16 separator = false) :
    (∀ m upperCase,
      stringToMacAddress (macAddressToString m upperCase separator) separator = .ok m) ∧
    ∀ upperCase (pairs : List Text), pairs.length = 6 →
      (∀ p ∈ pairs, p.length = 2 ∧ ∀ c ∈ p, c ∈ hexDigits upperCase) →
      ∃ m, stringToMacAddress (joinWith separator pairs) separator = .ok m ∧
        macAddressToString m upperCase separator = joinWith separator pairs := by
  constructor
  · intro m upperCase
    rw [macAddressToString_eq]
    refine stringToMacAddress_joinWith hs (List.forall₂_map_left_iff.mpr ?_)
    exact List.forall₂_same.mpr fun v _ => isPair_hexPair upperCase v
  · intro upperCase pairs length form
    have isPair : ∀ p ∈ pairs, IsPair p (UInt8.ofNat (Numeral.value 16 p)) := fun p hp =>
      isPair_value (form p hp).1 fun c hc =>
        Numeral.isDigit_of_mem_hexDigits ((form p hp).2 c hc)
    let m : MacAddress :=
      ⟨(pairs.map fun p => UInt8.ofNat (Numeral.value 16 p)).toArray, by simpa using length⟩
    have toList : m.toList = pairs.map fun p => UInt8.ofNat (Numeral.value 16 p) := rfl
    refine ⟨m, stringToMacAddress_joinWith hs ?_, ?_⟩
    · rw [toList]
      exact List.forall₂_map_right_iff.mpr (List.forall₂_same.mpr isPair)
    · rw [macAddressToString_eq, toList, List.map_map]
      refine congrArg (joinWith separator) ((List.map_congr_left fun p hp => ?_).trans
        (List.map_id pairs))
      show hexPair upperCase (UInt8.ofNat (Numeral.value 16 p)).toNat = p
      rw [← (isPair p hp).value, Numeral.hexPair_value (form p hp).1 (form p hp).2]

/-- A separator that could be taken for a part of a prefix. -/
theorem macAddress_roundTrip_x :
    stringToMacAddress (macAddressToString #v[0, 0x1B, 0x92, 1, 2, 3] false 'x') 'x' =
        .ok #v[0, 0x1B, 0x92, 1, 2, 3] ∧
      ∃ m, stringToMacAddress "0Ax00x00xFFx00x09".toList 'x' = .ok m ∧
        macAddressToString m true 'x' = "0Ax00x00xFFx00x09".toList := by
  have small : ∀ n ∈ [10, 0, 0, 255, 0, 9], n < 256 := by decide
  have form : ∀ p ∈ [10, 0, 0, 255, 0, 9].map (hexPair true),
      p.length = 2 ∧ ∀ c ∈ p, c ∈ hexDigits true := by
    intro p hp
    obtain ⟨n, hn, rfl⟩ := List.mem_map.mp hp
    exact ⟨rfl, fun c => Numeral.mem_hexPair (small n hn)⟩
  exact ⟨(@macAddress_roundTrip 'x' (by decide)).1 _ _,
    (@macAddress_roundTrip 'x' (by decide)).2 true _ rfl form⟩

/-! ### What is refused -/

/-- Nothing but twelve digits is accepted, and then for the bytes they are; everything else is
thrown at as an invalid argument. -/
def RefusesOthers (s : Text) (separator : Char) : Prop :=
  (∀ m, stringToMacAddress s separator = .ok m → DigitPairs (eraseSeparator s separator) m) ∧
    (¬ TwelveDigits (eraseSeparator s separator) →
      ∃ what, stringToMacAddress s separator = .error (.invalidArgument what))

theorem readUnsigned_eq_none : Numeral.readUnsigned 16 64 t = none ↔
    hexField t = [] ∨ 2 ^ 64 ≤ Numeral.value 16 (hexField t) :=
  Numeral.readDigits_eq_none

/-- **What is refused**: the texts in whose reading the stream fails, and no others. -/
theorem refusesOthers_iff (s : Text) (separator : Char) : RefusesOthers s separator ↔
    TwelveDigits (eraseSeparator s separator) ∨ hexField (eraseSeparator s separator) = [] ∨
      2 ^ 64 ≤ Numeral.value 16 (hexField (eraseSeparator s separator)) := by
  rw [← readUnsigned_eq_none, RefusesOthers, stringToMacAddress]
  constructor
  · rintro ⟨accepted, -⟩
    cases read : Numeral.readUnsigned 16 64 (eraseSeparator s separator) with
    | none => exact .inr rfl
    | some n =>
        rw [read] at accepted
        exact .inl (accepted _ rfl).twelve
  · rintro (twelve | refused)
    · obtain ⟨m, pairs⟩ := twelve.pairs
      obtain ⟨n, read, bytes⟩ := readUnsigned_twelve pairs
      rw [read]
      refine ⟨fun m' h => ?_, fun other => absurd twelve other⟩
      rw [← Except.ok.inj h, bytes]
      exact pairs
    · rw [refused]
      exact ⟨nofun, fun _ => ⟨_, rfl⟩⟩

/-- One digit is taken for an address, and so are seven pairs, of which the first is lost. -/
theorem not_refusesOthers :
    ¬ (∀ s separator, isDigit 16 separator = false → RefusesOthers s separator) ∧
      stringToMacAddress "1".toList ':' = .ok #v[0, 0, 0, 0, 0, 1] ∧
      stringToMacAddress "00:11:22:33:44:55:66".toList ':' =
        .ok #v[0x11, 0x22, 0x33, 0x44, 0x55, 0x66] := by
  refine ⟨fun h => ?_, by rfl, by rfl⟩
  have pairs := (h "1".toList ':' (by decide)).1 _ rfl
  exact absurd pairs.twelve.1 (by decide)

end

end NetworkInterface
