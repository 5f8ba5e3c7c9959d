import NetworkInterface.Address.DottedQuad

/-!
# Address — Conversion

What `convertFromString<std::uint16_t>` returns, against the number that is written.

`numeral` is what a text starts with, by its prefix, and `numeralValue` the number it denotes.  Read
from a stream, a numeral whose magnitude fits is taken modulo `2 ^ 16`, so that a negative one wraps
(`stream_cases`); read by `strtoll`, a binary numeral of any size is cut down to 16 bits, and one
behind white space or a sign, or none at all, is read too (`binary_cases`).

`noSilentWrap_iff`: at all other texts the conversion gives the number that is written, or throws;
and an octet for a number outside `0 … 255` is accepted only where it wraps to a byte.
-/

namespace NetworkInterface
open Support
open Support.Numeral (isDigit isSpace splitSign readDigits)

/-- The numeral a text starts with: whether it is negative, its base, and its digits. -/
def numeral (str : Text) : Bool × Nat × Text :=
  if str.take 2 = ['0', 'b'] then (false, 2, (str.drop 2).takeWhile (isDigit 2))
  else if str.take 2 = ['0', 'x'] ∨ str.take 2 = ['0', 'X'] then
    (false, 16, (str.drop 2).takeWhile (isDigit 16))
  else
    let (negative, body) := splitSign (str.dropWhile isSpace)
    (negative, 10, body.takeWhile (isDigit 10))

/-- The number the numeral denotes, if it has a digit. -/
def numeralValue (str : Text) : Option Int :=
  let (negative, base, ds) := numeral str
  if ds = [] then none
  else some (if negative then -(Numeral.value base ds : Int) else Numeral.value base ds)

/-- The conversion gives the number that is written, and throws where it does not fit. -/
structure NoSilentWrap (str : Text) : Prop where
  returns : ∀ v, convertFromString str = .ok v → numeralValue str = some (v.toNat : Int)
  throws : ∀ n ∈ numeralValue str, n < 0 ∨ 65535 < n →
    ∃ what, convertFromString str = .error (.invalidArgument what)

/-- `t` is one of the tokens an IPv4 parser is given for `s`. -/
def IsOctet (s t : Text) : Prop :=
  ∃ u, (s.splitOn ':').getLast? = some u ∧ (':' ∈ s → '.' ∈ u) ∧ t ∈ pieces u

/-- No text is accepted in which `t` is an octet, unless the number it denotes is one of a byte. -/
def OctetInRange (t : Text) : Prop :=
  ∀ s a, IsOctet s t → IPAddress.ofString s = .ok a → ∀ n ∈ numeralValue (cStr t), 0 ≤ n ∧ n ≤ 255

/-! ### The texts that go wrong -/

/-- Binary digits and nothing else, behind white space and a sign. -/
def ReadsBinary (rest : Text) : Prop :=
  (splitSign (rest.dropWhile isSpace)).2 ≠ [] ∧
    ∀ c ∈ (splitSign (rest.dropWhile isSpace)).2, isDigit 2 c = true

/-- What follows `0b` is nothing, or binary digits behind white space or a sign, or for a number
above `65535`. -/
def WrapsBinary (rest : Text) : Prop :=
  rest = [] ∨ ReadsBinary rest ∧
    ((splitSign (rest.dropWhile isSpace)).2 ≠ rest ∨ 65535 < Numeral.value 2 rest)

/-- The conversion is not the number that is written. -/
def Wraps (str : Text) : Prop :=
  if str.take 2 = ['0', 'b'] then WrapsBinary (str.drop 2)
  else ∃ n ∈ numeralValue str, -65535 ≤ n ∧ n < 0

/-- The number that is written is not one of a byte, but what the conversion makes of it is. -/
def WrapsToByte (str : Text) : Prop :=
  if str.take 2 = ['0', 'b'] then
    (∀ c ∈ str.drop 2, isDigit 2 c = true) ∧ 65535 < Numeral.value 2 (str.drop 2) ∧
      Numeral.value 2 (str.drop 2) < 2 ^ 63 ∧ Numeral.value 2 (str.drop 2) % 2 ^ 16 ≤ 255
  else ∃ n ∈ numeralValue str, -65535 ≤ n ∧ n ≤ -65281

/-! ### Reading from a stream -/

section
variable {str : Text}

theorem numeral_stream (hb : str.take 2 ≠ ['0', 'b']) : ∃ negative base body,
    numeral str = (negative, base, body.takeWhile (isDigit base)) ∧
      Numeral.readUnsigned (if str.take 2 = ['0', 'x'] ∨ str.take 2 = ['0', 'X'] then 16 else 10) 16
        str = readDigits base 16 negative body := by
  by_cases hx : str.take 2 = ['0', 'x'] ∨ str.take 2 = ['0', 'X']
  · refine ⟨false, 16, str.drop 2, by rw [numeral, if_neg hb, if_pos hx], ?_⟩
    obtain ⟨x, hx', split⟩ := exists_hexPrefix hx
    rw [if_pos hx, ← Numeral.readUnsigned_hexPrefix 16 hx' (str.drop 2), ← split]
  · refine ⟨_, 10, _, by rw [numeral, if_neg hb, if_neg hx], ?_⟩
    rw [if_neg hx]
    rfl

/-- **The stream**: a numeral whose magnitude fits is returned modulo `2 ^ 16`. -/
theorem stream_cases (hb : str.take 2 ≠ ['0', 'b']) :
    ((∃ what, convertFromString str = .error (.invalidArgument what)) ∧
      ∀ n ∈ numeralValue str, n < -65535 ∨ 65535 < n) ∨
    ∃ n ∈ numeralValue str, -65535 ≤ n ∧ n ≤ 65535 ∧
      ∃ v, convertFromString str = .ok v ∧ (v.toNat : Int) = n % 65536 := by
  obtain ⟨negative, base, body, hnum, read⟩ := numeral_stream hb
  rw [convertFromString, if_neg hb, numeralValue, hnum]
  dsimp only
  rw [read]
  by_cases hne : body.takeWhile (isDigit base) = []
  · -- no digit
    have failed : readDigits base 16 negative body = none :=
      Numeral.readDigits_eq_none.mpr (.inl hne)
    rw [failed, if_pos hne]
    exact .inl ⟨⟨_, rfl⟩, fun n hn => absurd hn (by simp)⟩
  rw [if_neg hne]
  generalize hv : Numeral.value base (body.takeWhile (isDigit base)) = v
  by_cases fits : v < 2 ^ 16
  · have done := (@Numeral.readDigits_eq_some base 16 _ negative body).mpr ⟨hne, hv ▸ fits, rfl⟩
    rw [done, hv]
    have small : (if negative then (2 ^ 16 - v) % 2 ^ 16 else v) < 2 ^ 16 := by
      split
      · exact Nat.mod_lt _ (by decide)
      · exact fits
    refine .inr ⟨_, rfl, ?_, ?_, _, rfl, ?_⟩
    · split <;> omega
    · split <;> omega
    · rw [UInt16.toNat_ofNat_of_lt' small]
      split <;> omega
  · have failed : readDigits base 16 negative body = none :=
      Numeral.readDigits_eq_none.mpr (.inr (hv ▸ Nat.not_lt.mp fits))
    rw [failed]
    refine .inl ⟨⟨_, rfl⟩, fun n hn => ?_⟩
    obtain rfl := Option.some.inj hn
    split <;> omega

/-! ### Reading by `strtoll` -/

/-- Digits are read as they are, with nothing before them. -/
theorem signed_of_takeWhile {rest : Text} (h : rest.takeWhile (isDigit 2) ≠ []) :
    (splitSign (rest.dropWhile isSpace)).2 = rest := by
  cases rest with
  | nil => exact absurd rfl h
  | cons c rest =>
      have hc : isDigit 2 c = true := by
        by_contra hc
        exact h (List.takeWhile_cons_of_neg hc)
      rw [Numeral.splitSign_dropWhile hc]

theorem signed_of_digits {rest : Text} (all : ∀ c ∈ rest, isDigit 2 c = true) (hne : rest ≠ []) :
    (splitSign (rest.dropWhile isSpace)).2 = rest :=
  signed_of_takeWhile ((List.takeWhile_eq_self_iff.mpr all).symm ▸ hne)

theorem ne_nil_of_large {rest : Text} (h : 65535 < Numeral.value 2 rest) : rest ≠ [] := by
  rintro rfl
  exact absurd h (by decide)

theorem readsBinary_of_digits {rest : Text} (all : ∀ c ∈ rest, isDigit 2 c = true)
    (large : 65535 < Numeral.value 2 rest) : ReadsBinary rest := by
  have hne := ne_nil_of_large large
  rw [ReadsBinary, signed_of_digits all hne]
  exact ⟨hne, all⟩

/-- **`strtoll`**: an empty numeral is read, one behind white space or a sign too, and all other
binary digits are cut down to 16 bits. -/
theorem binary_cases (hb : str.take 2 = ['0', 'b']) :
    ((∃ what, convertFromString str = .error (.invalidArgument what)) ∧ str.drop 2 ≠ [] ∧
      ¬ ReadsBinary (str.drop 2)) ∨
    ((∃ v, convertFromString str = .ok v) ∧ numeralValue str = none ∧
      (str.drop 2 = [] ∨ ReadsBinary (str.drop 2) ∧
        (splitSign ((str.drop 2).dropWhile isSpace)).2 ≠ str.drop 2)) ∨
    ∃ v, convertFromString str = .ok v ∧
      numeralValue str = some (Numeral.value 2 (str.drop 2) : Int) ∧ ReadsBinary (str.drop 2) ∧
      str.drop 2 ≠ [] ∧ (splitSign ((str.drop 2).dropWhile isSpace)).2 = str.drop 2 ∧
      v.toNat = min (Numeral.value 2 (str.drop 2)) (2 ^ 63 - 1) % 2 ^ 16 := by
  rw [convertFromString, if_pos hb, numeralValue, numeral, if_pos hb]
  dsimp only
  generalize str.drop 2 = rest
  have consumed : (Numeral.strtoll 2 rest).2 = [] ↔ rest = [] ∨ ReadsBinary rest :=
    Numeral.strtoll_rest_iff
  cases hread : Numeral.strtoll 2 rest with
  | mk c left =>
  rw [hread] at consumed
  cases left with
  | cons d left =>
      obtain ⟨hne, hno⟩ := not_or.mp fun h => List.cons_ne_nil _ _ (consumed.mpr h)
      exact .inl ⟨⟨_, rfl⟩, hne, hno⟩
  | nil =>
      have accepted := consumed.mp rfl
      refine .inr ?_
      by_cases hds : rest.takeWhile (isDigit 2) = []
      · refine .inl ⟨⟨_, rfl⟩, if_pos hds, accepted.imp_right fun h => ⟨h, fun same => ?_⟩⟩
        obtain ⟨hne, all⟩ := h
        rw [same] at hne all
        exact hne ((List.takeWhile_eq_self_iff.mpr all).symm.trans hds)
      · have same := signed_of_takeWhile hds
        have hne : rest ≠ [] := fun h => hds (by rw [h]; rfl)
        have reads : ReadsBinary rest := accepted.resolve_left hne
        have all := reads.2
        rw [same] at all
        rw [Numeral.strtoll_digits hne all] at hread
        obtain rfl := (Prod.mk.inj hread).1
        rw [List.takeWhile_eq_self_iff.mpr all]
        refine .inr ⟨_, rfl, if_neg hne, reads, hne, same, ?_⟩
        have narrow : ((min (Numeral.value 2 rest : Int) (2 ^ 63 - 1)) % 2 ^ 16).toNat =
            min (Numeral.value 2 rest) (2 ^ 63 - 1) % 2 ^ 16 := by omega
        rw [UInt16.ofInt, narrow]
        exact UInt16.toNat_ofNat_of_lt' (Nat.mod_lt _ (by decide))

/-! ### Which texts go wrong -/

theorem noSilentWrap_of_error (h : ∃ what, convertFromString str = .error (.invalidArgument what)) :
    NoSilentWrap str where
  returns v hv := by
    obtain ⟨what, h⟩ := h
    cases h.symm.trans hv
  throws _ _ _ := h

/-- The value of the numeral is the value returned, or it is not. -/
theorem noSilentWrap_of_ok {v : UInt16} (h : convertFromString str = .ok v) :
    NoSilentWrap str ↔ numeralValue str = some (v.toNat : Int) := by
  refine ⟨fun h' => h'.returns v h, fun hv => ⟨fun w hw => ?_, fun n hn out => ?_⟩⟩
  · obtain rfl := Except.ok.inj (h.symm.trans hw)
    exact hv
  · obtain rfl := Option.some.inj (hv.symm.trans hn)
    have := v.toNat_lt
    omega

theorem noSilentWrap_iff_not_wraps (str : Text) : NoSilentWrap str ↔ ¬ Wraps str := by
  rw [Wraps]
  by_cases hb : str.take 2 = ['0', 'b']
  · rw [if_pos hb]
    rcases binary_cases hb with ⟨error, hne, hno⟩ | ⟨⟨v, hv⟩, none, h⟩ |
      ⟨v, hv, some, reads, hne, same, narrow⟩
    · refine iff_of_true (noSilentWrap_of_error error) fun h => ?_
      rcases h with h | ⟨h, -⟩
      · exact hne h
      · exact hno h
    · rw [noSilentWrap_of_ok hv, none]
      refine iff_of_false (by simp) (not_not_intro ?_)
      exact h.imp_right fun h => ⟨h.1, .inl h.2⟩
    · rw [noSilentWrap_of_ok hv, some, narrow, Option.some.injEq]
      have wraps : WrapsBinary (str.drop 2) ↔ 65535 < Numeral.value 2 (str.drop 2) := by
        rw [WrapsBinary, or_iff_right hne, and_iff_right reads, same, or_iff_right (by simp)]
      rw [wraps]
      omega
  · rw [if_neg hb]
    rcases stream_cases hb with ⟨error, out⟩ | ⟨n, hn, low, high, v, hv, value⟩
    · refine iff_of_true (noSilentWrap_of_error error) fun ⟨n, hn, low, neg⟩ => ?_
      rcases out n hn with h | h
      · omega
      · omega
    · rw [noSilentWrap_of_ok hv, hn, Option.some.injEq]
      have wraps : (∃ m ∈ numeralValue str, -65535 ≤ m ∧ m < 0) ↔ n < 0 := by
        simp [Option.mem_def.mp hn, low]
      rw [hn] at wraps
      rw [wraps]
      omega

/-- The octets that are accepted and do not denote a byte. -/
theorem wrapsToByte_iff (str : Text) : WrapsToByte str ↔ ∃ v, convertFromString str = .ok v ∧
    v.toNat ≤ 255 ∧ ∃ n ∈ numeralValue str, ¬ (0 ≤ n ∧ n ≤ 255) := by
  rw [WrapsToByte]
  by_cases hb : str.take 2 = ['0', 'b']
  · rw [if_pos hb]
    rcases binary_cases hb with ⟨⟨what, error⟩, -, hno⟩ | ⟨-, none, h⟩ |
      ⟨v, hv, some, reads, -, same, narrow⟩
    · refine iff_of_false (fun ⟨all, large, _⟩ => hno (readsBinary_of_digits all large)) ?_
      rintro ⟨v, hv, -⟩
      cases error.symm.trans hv
    · refine iff_of_false (fun ⟨all, large, _⟩ => ?_) (by simp [none])
      have hne := ne_nil_of_large large
      rcases h with h | ⟨-, h⟩
      · exact hne h
      · exact h (signed_of_digits all hne)
    · have all := reads.2
      rw [same] at all
      rw [and_iff_right all, some]
      constructor
      · rintro ⟨large, fits, byte⟩
        exact ⟨v, hv, by omega, _, rfl, by omega⟩
      · rintro ⟨w, hw, byte, n, hn, out⟩
        obtain rfl := Except.ok.inj (hv.symm.trans hw)
        obtain rfl := Option.some.inj hn
        omega
  · rw [if_neg hb]
    rcases stream_cases hb with ⟨⟨what, error⟩, out⟩ | ⟨n, hn, low, high, v, hv, value⟩
    · refine iff_of_false (fun ⟨n, hn, low, _⟩ => ?_) ?_
      · rcases out n hn with h | h
        · omega
        · omega
      · rintro ⟨v, hv, -⟩
        cases error.symm.trans hv
    · rw [Option.mem_def.mp hn]
      constructor
      · rintro ⟨m, hm, low, high⟩
        obtain rfl := Option.some.inj hm
        exact ⟨v, hv, by omega, n, rfl, by omega⟩
      · rintro ⟨w, hw, byte, m, hm, out⟩
        obtain rfl := Except.ok.inj (hv.symm.trans hw)
        obtain rfl := Option.some.inj hm
        exact ⟨n, rfl, low, by omega⟩

/-! ### Octets -/

end

/-- The IPv4 parser has read each of its tokens. -/
theorem parse_of_mem_pieces {u t : Text} {v : ValueTypeV4} (h : parseIPV4 u = .ok v)
    (ht : t ∈ pieces u) : ∃ b, parseOctet t = .ok b :=
  exists_of_mem (pieces_eq u ▸ parseIPV4_iff.mp h) ht

section
variable {s t u : Text} {a : IPAddress}

/-- The last token of an accepted text, when it has a dot. -/
theorem parseIPV4_of_accepted (h : IPAddress.ofString s = .ok a)
    (hu : (s.splitOn ':').getLast? = some u) (hdot : ':' ∈ s → '.' ∈ u) :
    ∃ v, parseIPV4 u = .ok v := by
  by_cases hcolon : ':' ∈ s
  · obtain ⟨two, T, ip, herase, hparse, -⟩ := ofString_colon hcolon h
    have size := length_le_of_parse hparse
    obtain ⟨A, B, hs, hA, hB⟩ := erase_ok two herase size
    have quad := hdot hcolon
    have hne : T ≠ [] := by
      rintro rfl
      cases hparse
    obtain ⟨front, last, rfl⟩ := (List.eq_nil_or_concat T).resolve_left hne
    rw [List.concat_eq_append] at hs hparse size
    rcases hB with ⟨-, rfl⟩ | ⟨-, rfl, -⟩
    · rw [List.append_nil, ← List.append_assoc] at hs
      rw [hs, List.getLast?_concat] at hu
      obtain rfl := Option.some.inj hu
      exact (parseTokensV6_ok_quad hparse quad (by omega)).1
    · -- the token erased at the end has no dot
      rw [hs, List.getLast?_concat] at hu
      obtain rfl := Option.some.inj hu
      cases quad
  · rw [List.splitOn_eq_singleton hcolon] at hu
    obtain rfl := Option.some.inj hu
    rw [ofString_noColon hcolon] at h
    obtain ⟨v, hv, -⟩ := Outcome.bind_eq_ok.mp h
    exact ⟨v, hv⟩

theorem IsOctet.clean (h : IsOctet s t) : '.' ∉ t ∧ ':' ∉ t := by
  obtain ⟨u, hu, -, ht⟩ := h
  have hu := not_mem_of_mem_splitOn (List.mem_of_getLast? hu)
  have ht := (List.mem_filter.mp ht).1
  refine ⟨not_mem_of_mem_splitOn ht, fun hc => hu ?_⟩
  exact (mem_splitOn_iff (by decide) u).mpr ⟨t, ht, hc⟩

/-- An octet that is read can stand first, before three zeros. -/
theorem exists_accepted (ht : '.' ∉ t ∧ ':' ∉ t) {b : UInt8} (h : parseOctet t = .ok b) :
    ∃ s a, IsOctet s t ∧ IPAddress.ofString s = .ok a := by
  have hne : t ≠ [] := by
    rintro rfl
    cases h
  have zero : parseOctet ['0'] = .ok 0 := by decide
  have quad := parseIPV4_quad h zero zero zero (by simp [hne, ht.1])
  have noColon : ':' ∉ t ++ '.' :: (['0'] ++ '.' :: (['0'] ++ '.' :: ['0'])) := by simp [ht.2]
  have mem : t ∈ pieces (t ++ '.' :: (['0'] ++ '.' :: (['0'] ++ '.' :: ['0']))) := by
    rw [pieces, List.splitOn_append_cons_self_of_not_mem ht.1]
    simp [hne]
  generalize t ++ '.' :: (['0'] ++ '.' :: (['0'] ++ '.' :: ['0'])) = s at quad noColon mem
  have last : (s.splitOn ':').getLast? = some s := by
    rw [List.splitOn_eq_singleton noColon]
    rfl
  refine ⟨s, .ofV4 #v[b, 0, 0, 0], ⟨s, last, fun h => absurd h noColon, mem⟩, ?_⟩
  rw [ofString_noColon noColon, quad]
  rfl

theorem octetInRange_iff (t : Text) :
    OctetInRange t ↔ ¬ ('.' ∉ t ∧ ':' ∉ t ∧ WrapsToByte (cStr t)) := by
  constructor
  · rintro h ⟨hdot, hcolon, wraps⟩
    obtain ⟨v, hv, byte, n, hn, out⟩ := (wrapsToByte_iff _).mp wraps
    obtain ⟨s, a, octet, accepted⟩ :=
      exists_accepted ⟨hdot, hcolon⟩ (parseOctet_eq_ok.mpr ⟨v, hv, byte, rfl⟩)
    exact out (h s a octet accepted n hn)
  · intro h s a octet accepted n hn
    by_contra out
    obtain ⟨u, hu, hdot, ht⟩ := id octet
    obtain ⟨v, hv⟩ := parseIPV4_of_accepted accepted hu hdot
    obtain ⟨b, hb⟩ := parse_of_mem_pieces hv ht
    obtain ⟨w, hw, byte, -⟩ := parseOctet_eq_ok.mp hb
    exact h ⟨octet.clean.1, octet.clean.2, (wrapsToByte_iff _).mpr ⟨w, hw, byte, n, hn, out⟩⟩

end

/-- **No silent wrap** at a text exactly when it is none of those that go wrong; and as an octet,
for a number outside `0 … 255`, it is in no accepted text, unless it wraps to a byte. -/
theorem noSilentWrap_iff (str : Text) : (NoSilentWrap str ↔ ¬ Wraps str) ∧
    (OctetInRange str ↔ ¬ ('.' ∉ str ∧ ':' ∉ str ∧ WrapsToByte (cStr str))) :=
  ⟨noSilentWrap_iff_not_wraps str, octetInRange_iff str⟩

/-- A negative numeral, and a binary one of 17 bits, are read as one, as octets too. -/
theorem not_noSilentWrap :
    (¬ NoSilentWrap "-65535".toList ∧ ¬ OctetInRange "-65535".toList) ∧
      ¬ NoSilentWrap "0b10000000000000001".toList ∧
        ¬ OctetInRange "0b10000000000000001".toList := by
  refine ⟨⟨fun h => ?_, fun h => ?_⟩, fun h => ?_, fun h => ?_⟩
  · exact absurd (h.returns 1 (by decide)) (by decide)
  · have octet : IsOctet "-65535.0.0.1".toList "-65535".toList :=
      ⟨"-65535.0.0.1".toList, by decide, by decide, by decide⟩
    have accepted : IPAddress.ofString "-65535.0.0.1".toList = .ok (.ofV4 #v[1, 0, 0, 1]) := by
      decide
    exact absurd (h _ _ octet accepted (-65535) (by decide)).1 (by decide)
  · exact absurd (h.returns 1 (by decide)) (by decide)
  · have octet : IsOctet "0b10000000000000001.0.0.1".toList "0b10000000000000001".toList :=
      ⟨"0b10000000000000001.0.0.1".toList, by decide, by decide, by decide⟩
    have accepted : IPAddress.ofString "0b10000000000000001.0.0.1".toList =
        .ok (.ofV4 #v[1, 0, 0, 1]) := by decide
    exact absurd (h _ _ octet accepted 65537 (by decide)).2 (by decide)

end NetworkInterface
