import NetworkInterface.Address.Grammar

/-!
# Address — Printed

The text `buildIPV6String` makes is a text of the grammar, for the groups it was made from
(`exists_text`), it holds no NUL and fits the array it is copied to.

`printGroups_eq` and `printGroups_seq` follow the second pass: what it writes from a group on, when
no `::` is left to write, and up to the `::` and past it.  `buildIPV6String_full` and
`buildIPV6String_gap` are what it writes from the first group on.
-/

namespace NetworkInterface
open Support

/-! ### The second pass -/

/-- The tokens the second pass writes from group `i` on when it meets no sequence. -/
def printedTokens (ipv6 : ValueTypeV6) (quad : Bool) (i : Nat) : List Text :=
  if quad ∧ i ≤ 6 then ((ipv6.toList.take 6).drop i).map hexGroup ++ [embeddedIPV4Text ipv6]
  else (ipv6.toList.drop i).map hexGroup

/-- The tokens, with a colon before each. -/
def afterColons (tokens : List Text) : Text := tokens.flatMap (':' :: ·)

/-- The tokens, behind what is already written. -/
def appendTokens (mustAppendColon : Bool) (tokens : List Text) : Text :=
  if mustAppendColon then afterColons tokens else joinColon tokens

theorem appendTokens_cons (b : Bool) (t : Text) (tokens : List Text) :
    appendTokens b (t :: tokens) =
      (if b then [':'] else []) ++ (t ++ appendTokens true tokens) := by
  have join : joinColon (t :: tokens) = t ++ afterColons tokens := by
    induction tokens generalizing t with
    | nil => simp [joinColon, afterColons]
    | cons u tokens ih =>
        rw [joinColon, List.intercalate_cons_cons, ← joinColon, ih]
        simp [afterColons]
  cases b
  · exact join
  · simp [appendTokens, afterColons]

theorem appendTokens_nil (b : Bool) : appendTokens b [] = [] := by cases b <;> rfl

theorem printedTokens_past {ipv6 : ValueTypeV6} {quad : Bool} {i : Nat} (hi : 8 ≤ i) :
    printedTokens ipv6 quad i = [] := by
  rw [printedTokens, if_neg (by omega), List.drop_eq_nil_of_le (by simpa using hi)]
  rfl

/-- The tokens from a group that is written by itself. -/
theorem printedTokens_cons {ipv6 : ValueTypeV6} {quad : Bool} {i : Nat} (hi : i < 8)
    (hquad : ¬ (quad = true ∧ i = 6)) :
    printedTokens ipv6 quad i = hexGroup ipv6[i] :: printedTokens ipv6 quad (i + 1) := by
  have drop : ipv6.toList.drop i = ipv6[i] :: ipv6.toList.drop (i + 1) := by
    rw [List.drop_eq_getElem_cons (by simpa using hi)]
    simp
  have take : i < 6 → (ipv6.toList.take 6).drop i =
      ipv6[i] :: (ipv6.toList.take 6).drop (i + 1) := fun h => by
    rw [List.drop_eq_getElem_cons (by simp; omega)]
    simp
  rw [printedTokens, printedTokens]
  by_cases hq : quad = true
  · have h₆ : i ≠ 6 := fun h => hquad ⟨hq, h⟩
    by_cases hi6 : i < 6
    · rw [if_pos ⟨hq, by omega⟩, if_pos ⟨hq, by omega⟩, take hi6]
      rfl
    · rw [if_neg (by omega), if_neg (by omega), drop]
      rfl
  · rw [if_neg (fun h => hq h.1), if_neg (fun h => hq h.1), drop]
    rfl

/-- The second pass, when no sequence is left to meet. -/
theorem printGroups_eq {ipv6 : ValueTypeV6} {seq : Option ZeroSeq} {quad : Bool} :
    ∀ {turns i : Nat} {b : Bool}, 8 ≤ turns + i → (∀ s ∈ seq, s.1 < i) →
      printGroups ipv6 seq quad turns i b = appendTokens b (printedTokens ipv6 quad i) := by
  intro turns
  induction turns with
  | zero =>
      intro i b hturns _
      rw [printedTokens_past (by omega), appendTokens_nil]
      rfl
  | succ turns ih =>
      intro i b hturns hseq
      rw [printGroups]
      by_cases hi : i < 8
      · have notSeq : seq.map Prod.fst ≠ some i := by
          cases seq with
          | none => exact (Option.some_ne_none i).symm
          | some s => exact fun h => Nat.ne_of_lt (hseq s rfl) (Option.some.inj h)
        rw [dif_pos hi, if_neg notSeq]
        by_cases hquad : quad = true ∧ i = 6
        · -- the quad is the last thing written
          obtain ⟨rfl, rfl⟩ := hquad
          have last : printedTokens ipv6 true 6 = [embeddedIPV4Text ipv6] := by
            rw [printedTokens, if_pos ⟨rfl, Nat.le_refl 6⟩, List.drop_eq_nil_of_le (by simp)]
            rfl
          rw [last, appendTokens_cons, appendTokens_nil, List.append_nil,
            if_pos (show true = true ∧ 6 = 6 from ⟨rfl, rfl⟩)]
        · rw [if_neg hquad, ih (by omega) (fun s hs => Nat.lt_succ_of_lt (hseq s hs)),
            printedTokens_cons hi hquad, appendTokens_cons]
      · rw [dif_neg hi, printedTokens_past (by omega), appendTokens_nil]

/-- The second pass up to the sequence and past it. -/
theorem printGroups_seq {ipv6 : ValueTypeV6} {first length : Nat} {quad : Bool}
    (hlen : 0 < length) (hfirst : first < 8) (hquad : quad = true → first ≤ 6) {turns : Nat} :
    ∀ {i : Nat} {b : Bool}, 8 ≤ turns + i → i ≤ first →
      printGroups ipv6 (some (first, length)) quad turns i b =
        appendTokens b (((ipv6.toList.take first).drop i).map hexGroup) ++ ':' :: ':' ::
          joinColon (printedTokens ipv6 quad (first + length)) := by
  induction turns with
  | zero => exact fun hturns hi => absurd hturns (by omega)
  | succ turns ih =>
      intro i b hturns hi
      rw [printGroups, dif_pos (by omega)]
      rcases Nat.eq_or_lt_of_le hi with rfl | hi
      · -- at the sequence: `::`, and the pass goes on behind it
        have none : (ipv6.toList.take i).drop i = [] := List.drop_eq_nil_of_le (by simp)
        have next : i + (length - 1) + 1 = i + length := by omega
        rw [if_pos (show (some (i, length)).map Prod.fst = some i from rfl), none, List.map_nil,
          appendTokens_nil]
        simp only [Option.map_some, Option.getD_some, next]
        rw [printGroups_eq (by omega) (fun s hs => ?_)]
        · rfl
        · obtain rfl := Option.some.inj hs
          exact Nat.lt_add_of_pos_right hlen
      · have head : (ipv6.toList.take first).drop i =
            ipv6[i] :: (ipv6.toList.take first).drop (i + 1) := by
          rw [List.drop_eq_getElem_cons (by simp; omega)]
          simp
        have notSeq : (some (first, length)).map Prod.fst ≠ some i := fun h =>
          Nat.ne_of_gt hi (Option.some.inj h)
        have notQuad : ¬ (quad = true ∧ i = 6) := fun h => by
          have := hquad h.1
          omega
        rw [if_neg notSeq, if_neg notQuad, ih (by omega) hi, head, List.map_cons, appendTokens_cons]
        simp only [List.append_assoc]

/-! ### The text -/

/-- A text without `::`. -/
theorem buildIPV6String_full {ipv6 : ValueTypeV6} (quad : Bool)
    (h : findLongestZeroSeq ipv6 = none) :
    buildIPV6String ipv6 (packV6 ipv6) quad = joinColon (printedTokens ipv6 quad 0) := by
  have other : ∀ w : UInt64, findLongestZeroSeq (unpackV6 (0, w)) ≠ none →
      ¬ ((packV6 ipv6).1 = 0 ∧ (packV6 ipv6).2 = w) := by
    intro w hne hw
    rw [← (Prod.ext hw.1 hw.2 : packV6 ipv6 = (0, w)), unpackV6_packV6] at hne
    exact hne h
  rw [buildIPV6String, if_neg (other 0 (by decide)), if_neg (other 1 (by decide)), h,
    printGroups_eq (by omega) (by simp)]
  rfl

/-- A text with `::`, in place of the zero groups of `seq`.  The texts of the unspecified and of
the loopback address, which the code writes apart, are of this form too. -/
theorem buildIPV6String_gap {ipv6 : ValueTypeV6} {seq : ZeroSeq} (quad : Bool)
    (h : findLongestZeroSeq ipv6 = some seq) : buildIPV6String ipv6 (packV6 ipv6) quad =
      joinColon ((ipv6.toList.take seq.1).map hexGroup) ++ ':' :: ':' ::
        joinColon (printedTokens ipv6 quad (seq.1 + seq.2)) := by
  have unpacked : ∀ {ip : ValueTypePackedV6}, packV6 ipv6 = ip → ipv6 = unpackV6 ip :=
    fun h => by rw [← h, unpackV6_packV6]
  obtain ⟨longest, two⟩ := longest_findLongestZeroSeq h
  have le : seq.1 + seq.2 ≤ 8 := by simpa using longest.1.2.1
  rw [buildIPV6String]
  split
  · rename_i hzero
    obtain rfl := unpacked (Prod.ext hzero.1 hzero.2 : packV6 ipv6 = (0, 0))
    have all : findLongestZeroSeq (unpackV6 (0, 0)) = some (0, 8) := by decide
    obtain rfl := Option.some.inj (all.symm.trans h)
    rw [show (0, 8).1 + (0, 8).2 = 8 from rfl, printedTokens_past (Nat.le_refl 8)]
    rfl
  split
  · rename_i hone
    obtain rfl := unpacked (Prod.ext hone.1 hone.2 : packV6 ipv6 = (0, 1))
    have most : findLongestZeroSeq (unpackV6 (0, 1)) = some (0, 7) := by decide
    obtain rfl := Option.some.inj (most.symm.trans h)
    rw [printedTokens, if_neg (by omega)]
    decide
  · rw [h]
    exact printGroups_seq (by omega) (by omega) (fun _ => by omega) (by omega) (Nat.zero_le _)

/-! ### The tree of a printed text -/

/-- A group as it is printed. -/
def HexGroup.of (v : UInt16) : HexGroup where
  digits := hexGroup v
  nonempty := List.ne_nil_of_length_pos Nat.length_toDigits_pos
  length_le := (Nat.length_toDigits_le_iff (by decide) (by decide)).mpr v.toNat_lt
  digit _ hc := Numeral.isDigit_of_mem_toDigits (by decide) (by decide) hc

theorem HexGroup.value_of (v : UInt16) : (HexGroup.of v).value = v := by
  show UInt16.ofNat (Numeral.value 16 (Nat.toDigits 16 v.toNat)) = v
  rw [Numeral.value_toDigits (by decide) (by decide)]
  exact UInt16.ofNat_toNat

/-- An octet as it is printed. -/
def Octet.of (n : Nat) (h : n < 2 ^ 8) : Octet where
  digits := Nat.toDigits 10 n
  nonempty := List.ne_nil_of_length_pos Nat.length_toDigits_pos
  digit _ hc := Numeral.isDigit_of_mem_toDigits (by decide) (by decide) hc
  value_lt := by rwa [Numeral.value_toDigits (by decide) (by decide)]

theorem Octet.value_of {n : Nat} (h : n < 2 ^ 8) : (Octet.of n h).value = n :=
  Numeral.value_toDigits (by decide) (by decide) n

theorem Octet.length_of {n : Nat} (h : n < 2 ^ 8) : (Octet.of n h).digits.length ≤ 3 :=
  (Nat.length_toDigits_le_iff (by decide) (by decide)).mpr (h.trans (by decide))

theorem toNat_high (v : UInt16) : (v >>> 8).toNat = v.toNat / 2 ^ 8 := by
  rw [UInt16.toNat_shiftRight]
  exact Nat.shiftRight_eq_div_pow _ _

theorem toNat_low (v : UInt16) : (v &&& 0xFF).toNat = v.toNat % 2 ^ 8 := by
  rw [UInt16.toNat_and]
  exact Nat.and_two_pow_sub_one_eq_mod v.toNat 8

/-- The bytes of a group. -/
theorem bytes_lt (v : UInt16) : (v >>> 8).toNat < 2 ^ 8 ∧ (v &&& 0xFF).toNat < 2 ^ 8 := by
  have := v.toNat_lt
  rw [toNat_high, toNat_low]
  omega

/-- The quad the last two groups are printed as. -/
def Quad.of (ipv6 : ValueTypeV6) : Quad where
  a := .of (ipv6.get 6 >>> 8).toNat (bytes_lt _).1
  b := .of (ipv6.get 6 &&& 0xFF).toNat (bytes_lt _).2
  c := .of (ipv6.get 7 >>> 8).toNat (bytes_lt _).1
  d := .of (ipv6.get 7 &&& 0xFF).toNat (bytes_lt _).2

theorem Quad.write_of (ipv6 : ValueTypeV6) : (Quad.of ipv6).write = embeddedIPV4Text ipv6 := by
  simp [Quad.write, Quad.of, Octet.of, embeddedIPV4Text]

theorem Quad.groups_of (ipv6 : ValueTypeV6) : (Quad.of ipv6).groups = [ipv6.get 6, ipv6.get 7] := by
  have join : ∀ v : UInt16, UInt16.ofNat (256 * (v >>> 8).toNat + (v &&& 0xFF).toNat) = v := by
    intro v
    rw [toNat_high, toNat_low, show 256 = 2 ^ 8 from rfl, Nat.div_add_mod]
    exact UInt16.ofNat_toNat
  simp only [Quad.groups, Quad.of, Octet.value_of, join]

theorem Quad.length_write_of (ipv6 : ValueTypeV6) : (Quad.of ipv6).write.length ≤ 15 := by
  have ha := Octet.length_of (bytes_lt (ipv6.get 6)).1
  have hb := Octet.length_of (bytes_lt (ipv6.get 6)).2
  have hc := Octet.length_of (bytes_lt (ipv6.get 7)).1
  have hd := Octet.length_of (bytes_lt (ipv6.get 7)).2
  simp only [Quad.write, Quad.of, List.length_append, List.length_cons]
  omega

/-- What the second pass writes from group `i` on. -/
def Groups.of (ipv6 : ValueTypeV6) (quad : Bool) (i : Nat) : Groups :=
  if quad ∧ i ≤ 6 then ⟨((ipv6.toList.take 6).drop i).map .of, some (.of ipv6)⟩
  else ⟨(ipv6.toList.drop i).map .of, none⟩

theorem Groups.tokens_of (ipv6 : ValueTypeV6) (quad : Bool) (i : Nat) :
    (Groups.of ipv6 quad i).tokens = printedTokens ipv6 quad i := by
  have hex : ∀ vs : List UInt16, (vs.map HexGroup.of).map HexGroup.digits = vs.map hexGroup :=
    fun vs => by rw [List.map_map]; rfl
  rw [Groups.of, printedTokens]
  split <;> simp [Groups.tokens, hex, Quad.write_of]

theorem values_map_of (vs : List UInt16) : (vs.map HexGroup.of).map HexGroup.value = vs := by
  rw [List.map_map]
  exact (List.map_congr_left fun v _ => HexGroup.value_of v).trans (List.map_id _)

theorem Groups.values_of (ipv6 : ValueTypeV6) (quad : Bool) (i : Nat) :
    (Groups.of ipv6 quad i).values = ipv6.toList.drop i := by
  rw [Groups.of]
  split
  · simp only [Groups.values, values_map_of, Option.toList_some, List.flatMap_cons,
      List.flatMap_nil, Quad.groups_of, List.append_nil]
    conv => rhs; rw [toList_split]
    rw [List.drop_append_of_le_length (by simp; omega)]
  · simp only [Groups.values, Option.toList_none, List.flatMap_nil, List.append_nil]
    exact values_map_of _

/-! ### The printed text -/

theorem isZero_iff {v : UInt16} : isZero v = true ↔ v = 0 := by simp [isZero]

/-- The groups around a run of zeros. -/
theorem split_run {l : List UInt16} {seq : ZeroSeq} (h : LongestRun.IsRun isZero l seq) :
    l = l.take seq.1 ++ List.replicate seq.2 0 ++ l.drop (seq.1 + seq.2) := by
  obtain ⟨pos, le, zero⟩ := h
  have middle : (l.drop seq.1).take seq.2 = List.replicate seq.2 0 := by
    refine List.eq_replicate_iff.mpr ⟨by simp; omega, fun v hv => ?_⟩
    obtain ⟨i, hi, rfl⟩ := List.mem_iff_getElem.mp hv
    simp only [List.length_take, List.length_drop] at hi
    rw [List.getElem_take, List.getElem_drop]
    exact isZero_iff.mp (zero _ (Nat.le_add_right _ _) (by omega) _ (List.getElem?_eq_getElem _))
  rw [← middle, List.append_assoc, ← List.drop_drop, List.take_append_drop, List.take_append_drop]

/-! ### Lengths -/

/-- The length of the tokens, each with a colon. -/
def weight (tokens : List Text) : Nat := (tokens.map fun t => t.length + 1).sum

theorem length_afterColons (tokens : List Text) : (afterColons tokens).length = weight tokens := by
  simp [afterColons, weight, List.length_flatMap]

theorem length_joinColon (tokens : List Text) : (joinColon tokens).length = weight tokens - 1 := by
  cases tokens with
  | nil => rfl
  | cons t tokens =>
      have := appendTokens_cons false t tokens
      simp only [appendTokens, Bool.false_eq_true, if_false, if_true, List.nil_append] at this
      rw [this, List.length_append, length_afterColons, weight, weight, List.map_cons,
        List.sum_cons]
      omega

theorem weight_hex_le (gs : List HexGroup) : weight (gs.map HexGroup.digits) ≤ 5 * gs.length := by
  induction gs with
  | nil => exact Nat.le_refl _
  | cons g gs ih =>
      have := g.length_le
      simp only [weight, List.map_cons, List.sum_cons, List.length_cons] at ih ⊢
      omega

theorem weight_append (l m : List Text) : weight (l ++ m) = weight l + weight m := by
  simp [weight]

/-- The groups and the quad of a printed text. -/
theorem Groups.weight_of_le (ipv6 : ValueTypeV6) (quad : Bool) (i : Nat) :
    weight (Groups.of ipv6 quad i).tokens ≤
      if quad = true ∧ i ≤ 6 then 5 * (6 - i) + 16 else 5 * (8 - i) := by
  rw [Groups.of]
  split
  · have hex := weight_hex_le (((ipv6.toList.take 6).drop i).map HexGroup.of)
    have quad := Quad.length_write_of ipv6
    simp only [List.length_map, List.length_drop, List.length_take, Vector.length_toList] at hex
    simp only [Groups.tokens, weight_append, Option.toList_some, List.map_cons, List.map_nil]
    rw [weight] at hex ⊢
    simp only [weight, List.map_cons, List.map_nil, List.sum_cons, List.sum_nil]
    omega
  · have hex := weight_hex_le ((ipv6.toList.drop i).map HexGroup.of)
    simp only [List.length_map, List.length_drop, Vector.length_toList] at hex
    simpa only [Groups.tokens, Option.toList_none, List.map_nil, List.append_nil] using hex

/-! ### The whole text -/

/-- The text without `::`. -/
theorem exists_text_full (ipv6 : ValueTypeV6) :
    ∃ t : TextV6, joinColon (printedTokens ipv6 false 0) = t.write ∧ t.value = ipv6 ∧
      t.write.length < 40 := by
  have values : (Groups.of ipv6 false 0).values = ipv6.toList := Groups.values_of ipv6 false 0
  refine ⟨.full (.of ipv6 false 0) (by rw [values, Vector.length_toList]), ?_, ?_, ?_⟩
  · rw [TextV6.write, Groups.tokens_of]
  · exact (TextV6.value_eq (by rw [TextV6.groups, values])).symm
  · have := Groups.weight_of_le ipv6 false 0
    rw [TextV6.write, length_joinColon]
    simp only [Bool.false_eq_true, false_and, if_false] at this
    omega

/-- The text with `::` in place of the zeros of `seq`. -/
theorem exists_text_gap {ipv6 : ValueTypeV6} {seq : ZeroSeq} (quad : Bool)
    (h : LongestRun.IsRun isZero ipv6.toList seq) (h2 : 2 ≤ seq.2) :
    ∃ t : TextV6, joinColon ((ipv6.toList.take seq.1).map hexGroup) ++ ':' :: ':' ::
        joinColon (printedTokens ipv6 quad (seq.1 + seq.2)) = t.write ∧ t.value = ipv6 ∧
      t.write.length < 40 := by
  have le : seq.1 + seq.2 ≤ 8 := by simpa using h.2.1
  have values := Groups.values_of ipv6 quad (seq.1 + seq.2)
  have length : (ipv6.toList.drop (seq.1 + seq.2)).length = 8 - (seq.1 + seq.2) := by simp
  have left : ((ipv6.toList.take seq.1).map HexGroup.of).length = seq.1 := by simp; omega
  refine ⟨.compressed ((ipv6.toList.take seq.1).map .of) (.of ipv6 quad (seq.1 + seq.2)) ?_,
    ?_, ?_, ?_⟩
  · rw [left, values, length]
    omega
  · rw [TextV6.write, Groups.tokens_of, List.map_map]
    rfl
  · refine (TextV6.value_eq ?_).symm
    rw [TextV6.groups, values_map_of, values, left, length,
      show 8 - (seq.1 + (8 - (seq.1 + seq.2))) = seq.2 by omega]
    exact split_run h
  · have right := Groups.weight_of_le ipv6 quad (seq.1 + seq.2)
    have hex := weight_hex_le ((ipv6.toList.take seq.1).map HexGroup.of)
    rw [left] at hex
    simp only [TextV6.write, List.length_append, List.length_cons, length_joinColon]
    split at right <;> omega

/-- **The printed text** is a text of the grammar, `quad` being for addresses that start with two
zero groups. -/
theorem exists_text (ipv6 : ValueTypeV6) {quad : Bool}
    (hquad : quad = true → LongestRun.IsRun isZero ipv6.toList (0, 2)) :
    ∃ t : TextV6, buildIPV6String ipv6 (packV6 ipv6) quad = t.write ∧ t.value = ipv6 ∧
      t.write.length < 40 := by
  cases hseq : findLongestZeroSeq ipv6 with
  | none =>
      obtain rfl : quad = false := Bool.eq_false_iff.mpr fun hq => by
        obtain ⟨seq, hsome⟩ := findLongestZeroSeq_isSome (hquad hq) (Nat.le_refl 2)
        rw [hseq] at hsome
        cases hsome
      rw [buildIPV6String_full false hseq]
      exact exists_text_full ipv6
  | some seq =>
      obtain ⟨longest, two⟩ := longest_findLongestZeroSeq hseq
      rw [buildIPV6String_gap quad hseq]
      exact exists_text_gap quad longest.1 two

end NetworkInterface
