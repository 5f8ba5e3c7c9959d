import NetworkInterface.Address.RoundTrip

/-!
# Address — Canonical

The text of an IPv6 address is the one RFC 5952 recommends.  `Canonical` says so of any text and any
value, with no word of how the text is made: which zeros `::` stands for, how a group is written,
when the last two groups are a dotted quad.

`canonical_toText`: the text of every IPv6 object is canonical.
-/

namespace NetworkInterface
open Support

/-! ### The recommendation -/

def AdjacentZeros (ipv6 : ValueTypeV6) : Prop :=
  ∃ i : Nat, ipv6.toList[i]? = some 0 ∧ ipv6.toList[i + 1]? = some 0

/-- The zero groups `::` is written for: the leftmost of the longest runs, if it has two groups. -/
def Replaced (ipv6 : ValueTypeV6) : Option ZeroSeq → Prop
  | none     => ¬ AdjacentZeros ipv6
  | some seq => LongestRun.Longest isZero ipv6.toList (some seq) ∧ 2 ≤ seq.2

/-- The address embeds an IPv4 address, and its seventh group is not one `::` is written for. -/
def DottedTail (ipv6 : ValueTypeV6) (replaced : Option ZeroSeq) : Prop :=
  (ipv6.toList.take 6 = [0, 0, 0, 0, 0, 0] ∨ ipv6.toList.take 6 = [0, 0, 0, 0, 0, 0xFFFF]) ∧
    ∀ seq ∈ replaced, ¬ (seq.1 ≤ 6 ∧ 6 < seq.1 + seq.2)

/-- A group in hexadecimal. -/
def WritesGroup (v : UInt16) (t : Text) : Prop := Numeral.Writes 16 v.toNat t

/-- A dotted quad of the bytes `bytes`. -/
def WritesQuad (bytes : List Nat) (t : Text) : Prop :=
  ∃ ts, List.Forall₂ (Numeral.Writes 10) bytes ts ∧ t = List.intercalate ['.'] ts

/-- The bytes of the last two groups. -/
def lastBytes (ipv6 : ValueTypeV6) : List Nat :=
  [ipv6.get 6, ipv6.get 7].flatMap fun v => [v.toNat / 2 ^ 8, v.toNat % 2 ^ 8]

/-- The items written for the groups from `i` on. -/
inductive Items (ipv6 : ValueTypeV6) (i : Nat) : (dotted : Prop) → List Text → Prop where
  | hex {dotted : Prop} {ts : List Text} : ¬ dotted →
      List.Forall₂ WritesGroup (ipv6.toList.drop i) ts → Items ipv6 i dotted ts
  | quad {dotted : Prop} {ts : List Text} {q : Text} : dotted → i ≤ 6 →
      List.Forall₂ WritesGroup ((ipv6.toList.take 6).drop i) ts → WritesQuad (lastBytes ipv6) q →
      Items ipv6 i dotted (ts ++ [q])

/-- The text with `::` in place of `replaced`. -/
inductive Spelled (ipv6 : ValueTypeV6) : (replaced : Option ZeroSeq) → Text → Prop where
  | full {ts : List Text} : Items ipv6 0 (DottedTail ipv6 none) ts →
      Spelled ipv6 none (joinColon ts)
  | gap {seq : ZeroSeq} {left right : List Text} :
      List.Forall₂ WritesGroup (ipv6.toList.take seq.1) left →
      Items ipv6 (seq.1 + seq.2) (DottedTail ipv6 (some seq)) right →
      Spelled ipv6 (some seq) (joinColon left ++ ':' :: ':' :: joinColon right)

/-- `text` is the canonical text of `ipv6`. -/
structure Canonical (ipv6 : ValueTypeV6) (text : Text) : Prop where
  gap_iff : [':', ':'] <:+: text ↔ AdjacentZeros ipv6
  gap_once {p q p' q' : Text} : text = p ++ ':' :: ':' :: q → text = p' ++ ':' :: ':' :: q' → p = p'
  spelled : ∃ replaced, Replaced ipv6 replaced ∧ Spelled ipv6 replaced text

/-! ### Adjacent zeros -/

theorem adjacentZeros_of_isRun {ipv6 : ValueTypeV6} {r : ZeroSeq}
    (h : LongestRun.IsRun isZero ipv6.toList r) (h2 : 2 ≤ r.2) : AdjacentZeros ipv6 := by
  obtain ⟨-, le, zero⟩ := h
  have at_ : ∀ i, r.1 ≤ i → i < r.1 + r.2 → ipv6.toList[i]? = some 0 := fun i hi hi' => by
    have hx := List.getElem?_eq_getElem (l := ipv6.toList) (i := i) (by omega)
    rw [hx, isZero_iff.mp (zero i hi hi' _ hx)]
  exact ⟨r.1, at_ _ (Nat.le_refl _) (by omega), at_ _ (Nat.le_succ _) (by omega)⟩

theorem AdjacentZeros.isRun {ipv6 : ValueTypeV6} (h : AdjacentZeros ipv6) :
    ∃ i, LongestRun.IsRun isZero ipv6.toList (i, 2) := by
  obtain ⟨i, h₀, h₁⟩ := h
  have bound := (List.getElem?_eq_some_iff.mp h₁).1
  refine ⟨i, Nat.two_pos, bound, fun j hj hj' x hx => isZero_iff.mpr ?_⟩
  obtain rfl | rfl : j = i ∨ j = i + 1 := by simp only at hj hj'; omega
  · exact Option.some.inj (hx.symm.trans h₀)
  · exact Option.some.inj (hx.symm.trans h₁)

/-! ### The items have no colon -/

theorem WritesGroup.clean {v : UInt16} {t : Text} (h : WritesGroup v t) : t ≠ [] ∧ ':' ∉ t := by
  refine ⟨h.nonempty, fun hc => absurd (h.digit ':' hc) ?_⟩
  decide

theorem clean_of_writesGroup {vs : List UInt16} {ts : List Text}
    (h : List.Forall₂ WritesGroup vs ts) : Clean ts := by
  induction h with
  | nil => exact fun t ht => absurd ht List.not_mem_nil
  | cons h _ ih => exact List.forall_mem_cons.mpr ⟨h.clean, ih⟩

theorem WritesQuad.clean {a b c d : Nat} {t : Text} (h : WritesQuad [a, b, c, d] t) :
    t ≠ [] ∧ ':' ∉ t := by
  obtain ⟨ts, hts, rfl⟩ := h
  have byte : ∀ {n u}, Numeral.Writes 10 n u → ':' ∉ u := fun h hc =>
    absurd (h.digit ':' hc) (by decide)
  cases hts with
  | cons ha h =>
  cases h with
  | cons hb h =>
  cases h with
  | cons hc h =>
  cases h with
  | cons hd h =>
  cases h with
  | nil =>
      have first := ha.nonempty
      simp [List.intercalate_cons_cons, first, byte ha, byte hb, byte hc, byte hd]

theorem Items.clean {ipv6 : ValueTypeV6} {i : Nat} {dotted : Prop} {ts : List Text}
    (h : Items ipv6 i dotted ts) : Clean ts := by
  cases h with
  | hex _ h => exact clean_of_writesGroup h
  | quad _ _ h hq =>
      exact List.forall_mem_append.mpr
        ⟨clean_of_writesGroup h, List.forall_mem_singleton.mpr hq.clean⟩

/-- Where `::` is in a text follows from how the text is spelled. -/
theorem Spelled.canonical {ipv6 : ValueTypeV6} {replaced : Option ZeroSeq} {text : Text}
    (hr : Replaced ipv6 replaced) (h : Spelled ipv6 replaced text) : Canonical ipv6 text := by
  have spelled := h
  cases h with
  | full items =>
      have none : ∀ p q, joinColon _ ≠ p ++ ':' :: ':' :: q := items.clean.no_gap
      refine ⟨⟨fun h => ?_, fun h => absurd h hr⟩, fun h => absurd h (none _ _), _, hr, spelled⟩
      obtain ⟨p, q, h⟩ := h
      exact absurd h.symm (by simpa using none p q)
  | @gap seq left right hleft items =>
      have once := fun {p q : Text} =>
        (clean_of_writesGroup hleft).one_gap items.clean (p := p) (q := q)
      have has : [':', ':'] <:+: joinColon left ++ ':' :: ':' :: joinColon right :=
        ⟨joinColon left, joinColon right, List.append_assoc _ _ _⟩
      exact ⟨⟨fun _ => adjacentZeros_of_isRun hr.1.1 hr.2, fun _ => has⟩,
        fun h h' => (once h).trans (once h').symm, _, hr, spelled⟩

/-! ### What the printer finds -/

/-- **The first pass** finds the zero groups `::` is written for. -/
theorem replaced_findLongestZeroSeq (ipv6 : ValueTypeV6) :
    Replaced ipv6 (findLongestZeroSeq ipv6) := by
  cases h : findLongestZeroSeq ipv6 with
  | none =>
      intro zeros
      obtain ⟨i, run⟩ := zeros.isRun
      obtain ⟨seq, hs⟩ := findLongestZeroSeq_isSome run (Nat.le_refl 2)
      rw [h] at hs
      cases hs
  | some seq => exact longest_findLongestZeroSeq h

/-! ### What the printer writes -/

theorem writesGroup_map (vs : List UInt16) : List.Forall₂ WritesGroup vs (vs.map hexGroup) := by
  induction vs with
  | nil => exact .nil
  | cons v vs ih => exact .cons (Numeral.writes_toDigits (by decide) (by decide) _) ih

theorem writesQuad_embedded (ipv6 : ValueTypeV6) :
    WritesQuad (lastBytes ipv6) (embeddedIPV4Text ipv6) := by
  have byte : ∀ n, Numeral.Writes 10 n (Nat.toDigits 10 n) :=
    Numeral.writes_toDigits (by decide) (by decide)
  refine ⟨(lastBytes ipv6).map (Nat.toDigits 10), ?_, ?_⟩
  · exact .cons (byte _) (.cons (byte _) (.cons (byte _) (.cons (byte _) .nil)))
  · rw [embeddedIPV4Text, toNat_high, toNat_low, toNat_high, toNat_low]
    simp [lastBytes, List.intercalate_cons_cons]

theorem items_printedTokens {ipv6 : ValueTypeV6} {quad : Bool} {i : Nat} {dotted : Prop}
    (h : dotted ↔ quad = true ∧ i ≤ 6) : Items ipv6 i dotted (printedTokens ipv6 quad i) := by
  rw [printedTokens]
  split
  · rename_i hq
    exact .quad (h.mpr hq) hq.2 (writesGroup_map _) (writesQuad_embedded ipv6)
  · rename_i hq
    exact .hex (fun hd => hq (h.mp hd)) (writesGroup_map _)

/-- The printer's own word for the addresses that embed an IPv4 address. -/
theorem embedded_iff_take {ipv6 : ValueTypeV6} : (isEmbeddedIPv4Compatible (packV6 ipv6) ||
    isEmbeddedIPv4Mapped (packV6 ipv6)) = true ↔
      ipv6.toList.take 6 = [0, 0, 0, 0, 0, 0] ∨ ipv6.toList.take 6 = [0, 0, 0, 0, 0, 0xFFFF] := by
  rw [Bool.or_eq_true, isEmbeddedIPv4Compatible_iff, isEmbeddedIPv4Mapped_iff]

theorem spelled_buildIPV6String (ipv6 : ValueTypeV6) :
    Spelled ipv6 (findLongestZeroSeq ipv6) (buildIPV6String ipv6 (packV6 ipv6)
      (isEmbeddedIPv4Compatible (packV6 ipv6) || isEmbeddedIPv4Mapped (packV6 ipv6))) := by
  have replaced := replaced_findLongestZeroSeq ipv6
  cases h : findLongestZeroSeq ipv6 with
  | none =>
      -- all eight groups are items, so the quad is written for the last two
      rw [buildIPV6String_full _ h]
      refine .full (items_printedTokens ?_)
      rw [DottedTail, embedded_iff_take]
      exact and_congr_right fun _ => by simp
  | some seq =>
      obtain ⟨longest, two⟩ := longest_findLongestZeroSeq h
      have le : seq.1 + seq.2 ≤ 8 := by simpa using longest.1.2.1
      rw [buildIPV6String_gap _ h]
      refine .gap (writesGroup_map _) (items_printedTokens ?_)
      rw [DottedTail, embedded_iff_take]
      refine and_congr_right fun _ => ?_
      -- the printer looks where the gap ends; a gap from 7 on would have one group
      simp
      omega

namespace IPAddress

/-- **Canonical text**: the text of every IPv6 object is the recommended one. -/
theorem canonical_toText {a : IPAddress} (h : a.Built) (ht : a.type = .v6) :
    Canonical a.ipv6 a.toText := by
  rw [h.toText_eq (by simp [ht]), currentText, ht]
  exact (spelled_buildIPV6String a.ipv6).canonical (replaced_findLongestZeroSeq a.ipv6)

/-- At `2001:db8::1:0:0:1`, whose two runs of zeros are of one length. -/
theorem canonical_toText_tie :
    Canonical #v[0x2001, 0xdb8, 0, 0, 1, 0, 0, 1]
      (ofV6 #v[0x2001, 0xdb8, 0, 0, 1, 0, 0, 1]).toText :=
  canonical_toText (.ofV6 _) (type_ofV6 _)

end IPAddress

end NetworkInterface
