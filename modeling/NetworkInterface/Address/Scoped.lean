import NetworkInterface.Address.Mask

/-!
# Address — Scoped

A link-local address as `getnameinfo` writes it: the text of the address, a `%` and the name of an
interface.  Nothing in the parser knows of such a suffix: it is read past because the reading of the
last group stops at the `%`, and it is mistaken for an IPv4 address when the name has a dot.

* `ofString_scoped`: without a dot in the name the address is read back.
* `not_ofString_scoped`: with one, it is not.
-/

namespace NetworkInterface
open Support

/-- `fe80::/10`. -/
def isLinkLocal (ipv6 : ValueTypeV6) : Prop := ipv6.get 0 &&& 0xFFC0 = 0xFE80

instance (ipv6 : ValueTypeV6) : Decidable (isLinkLocal ipv6) :=
  inferInstanceAs (Decidable (_ = _))

/-- The text of a scoped address. -/
def scopedText (a : IPAddress) (zone : Text) : Text := a.toText ++ '%' :: zone

/-! ### The text of a link-local address -/

section
variable {ipv6 : ValueTypeV6}

theorem first_ne_zero (h : isLinkLocal ipv6) : (packV6 ipv6).1 ≠ 0 := by
  intro hc
  have zero : ipv6.get 0 = 0 := by
    refine UInt16.toNat_inj.mp ?_
    change ipv6[0].toNat = 0
    rw [← field_packV6 ipv6 (i := 0) (by decide), wordOf, if_pos (by decide), hc]
    exact Words.field_zero _ _
  rw [isLinkLocal, zero] at h
  exact absurd h (by decide)

/-- A link-local address is printed in groups only. -/
theorem currentText_linkLocal {a : IPAddress} (ht : a.type = .v6) (h : isLinkLocal a.ipv6) :
    a.currentText = printGroups a.ipv6 (findLongestZeroSeq a.ipv6) false 8 0 false := by
  have first := first_ne_zero h
  have notEmbedded : (isEmbeddedIPv4Compatible (packV6 a.ipv6) ||
      isEmbeddedIPv4Mapped (packV6 a.ipv6)) = false := by
    rw [Bool.eq_false_iff]
    intro hc
    have run := isRun_of_embedded hc
    have := run.2.2 0 (Nat.le_refl _) (by decide) _ (getElem?_toList a.ipv6 0)
    rw [isZero_iff] at this
    rw [isLinkLocal, this] at h
    exact absurd h (by decide)
  rw [IPAddress.currentText, ht]
  simp only [notEmbedded, buildIPV6String]
  rw [if_neg (fun hc => first hc.1), if_neg (fun hc => first hc.1)]

theorem joinColon_append (ts : List Text) (t u : Text) :
    joinColon (ts ++ [t]) ++ u = joinColon (ts ++ [t ++ u]) := by
  induction ts with
  | nil => simp [joinColon]
  | cons s ts ih =>
      have cons : ∀ v, joinColon (s :: (ts ++ [v])) = s ++ ':' :: joinColon (ts ++ [v]) :=
        fun v => by
        cases ts <;> simp [joinColon]
      rw [List.cons_append, List.cons_append, cons, cons, ← ih]
      simp

/-- The last group, with the suffix. -/
def scopedGroup (ipv6 : ValueTypeV6) (zone : Text) : Text := hexGroup (ipv6.get 7) ++ '%' :: zone

/-- The groups from `i` on, the last one apart. -/
theorem drop_eq_concat {i : Nat} (hi : i ≤ 7) :
    ipv6.toList.drop i = (ipv6.toList.take 7).drop i ++ [ipv6.get 7] := by
  have split : ipv6.toList.take 7 ++ [ipv6.get 7] = ipv6.toList := by
    have last : ipv6.toList[7]? = some (ipv6.get 7) := getElem?_toList ipv6 7
    rw [← Option.toList_some, ← last, ← List.take_add_one]
    exact List.take_of_length_le (by simp)
  rw [← List.drop_append_of_le_length (by simp; omega), split]

/-- **The scoped text** of a link-local address: its groups with the last one scoped, or those
before and behind a run of zeros with the last one scoped. -/
theorem scopedText_eq {a : IPAddress} (hbuilt : a.Built) (ht : a.type = .v6)
    (h : isLinkLocal a.ipv6) (hlast : a.ipv6.get 7 ≠ 0) (zone : Text) :
    scopedText a zone =
        joinColon ((a.ipv6.toList.take 7).map hexGroup ++ [scopedGroup a.ipv6 zone]) ∨
      ∃ seq : ZeroSeq, LongestRun.Longest isZero a.ipv6.toList (some seq) ∧ 2 ≤ seq.2 ∧
        seq.1 + seq.2 ≤ 7 ∧ scopedText a zone =
          joinColon ((a.ipv6.toList.take seq.1).map hexGroup) ++ ':' :: ':' ::
            joinColon (((a.ipv6.toList.take 7).drop (seq.1 + seq.2)).map hexGroup ++
              [scopedGroup a.ipv6 zone]) := by
  have text : a.toText = printGroups a.ipv6 (findLongestZeroSeq a.ipv6) false 8 0 false :=
    (hbuilt.toText_eq (by simp [ht])).trans (currentText_linkLocal ht h)
  -- the tokens from a group on, the last one apart
  have tokens : ∀ i ≤ 7, printedTokens a.ipv6 false i =
      ((a.ipv6.toList.take 7).drop i).map hexGroup ++ [hexGroup (a.ipv6.get 7)] := fun i hi => by
    rw [printedTokens, if_neg (fun hc => Bool.false_ne_true hc.1), drop_eq_concat hi,
      List.map_append]
    rfl
  rw [scopedText, text]
  cases hseq : findLongestZeroSeq a.ipv6 with
  | none =>
      refine .inl ?_
      rw [printGroups_eq (by omega) (by simp), tokens 0 (Nat.zero_le _)]
      exact joinColon_append _ _ _
  | some seq =>
      obtain ⟨longest, two⟩ := longest_findLongestZeroSeq hseq
      have le : seq.1 + seq.2 ≤ 8 := by simpa using longest.1.2.1
      have le₇ : seq.1 + seq.2 ≤ 7 := by
        -- the last group is not zero, so the run stops before it
        by_contra hc
        have := longest.1.2.2 7 (by omega) (by omega) _ (getElem?_toList a.ipv6 7)
        exact hlast (isZero_iff.mp this)
      refine .inr ⟨seq, longest, two, le₇, ?_⟩
      rw [printGroups_seq (by omega) (by omega) (fun _ => by omega) (by omega) (Nat.zero_le _),
        tokens _ le₇, List.append_assoc, List.cons_append, List.cons_append, joinColon_append]
      rfl

/-! ### Without a dot -/

theorem readsAs_hexGroup (v : UInt16) : ReadsAs (hexGroup v) v := by
  have := (HexGroup.of v).readsAs
  rwa [HexGroup.value_of] at this

theorem readsAs_map_hexGroup (vs : List UInt16) : List.Forall₂ ReadsAs (vs.map hexGroup) vs := by
  induction vs with
  | nil => exact .nil
  | cons v vs ih => exact .cons (readsAs_hexGroup v) ih

/-- A group is read up to the `%`. -/
theorem HexGroup.reads_scoped (g : HexGroup) (zone : Text) :
    convertFromString (cStr ('0' :: 'x' :: (g.digits ++ '%' :: zone))) = .ok g.value := by
  have small : Numeral.value 16 g.digits < 2 ^ 16 :=
    (Numeral.value_lt g.digit).trans_le (Nat.pow_le_pow_right (by decide) g.length_le)
  have noNul : '\x00' ∉ '0' :: 'x' :: (g.digits ++ ['%']) := by simpa using g.nul_not_mem
  have cut := cStr_append noNul zone
  simp only [List.cons_append, List.append_assoc, List.nil_append] at cut
  rw [cut, convertFromString_hex g.nonempty g.digit (by rintro c ⟨⟩; decide) small,
    HexGroup.value]

theorem readsAs_scopedGroup {zone : Text} (hdot : '.' ∉ zone) (hcolon : ':' ∉ zone) :
    ReadsAs (scopedGroup ipv6 zone) (ipv6.get 7) where
  nonempty := by simp [scopedGroup]
  noDot := by simp [scopedGroup, hdot, (readsAs_hexGroup _).noDot]
  noColon := by simp [scopedGroup, hcolon, (readsAs_hexGroup _).noColon]
  reads := ((HexGroup.of (ipv6.get 7)).reads_scoped zone).trans
    (congrArg Except.ok (HexGroup.value_of (ipv6.get 7)))

/-- **A name without a dot**: the address is read back. -/
theorem ofString_scoped {a : IPAddress} (hbuilt : a.Built) (ht : a.type = .v6)
    (h : isLinkLocal a.ipv6) (hlast : a.ipv6.get 7 ≠ 0) {zone : Text} (hdot : '.' ∉ zone)
    (hcolon : ':' ∉ zone) :
    IPAddress.ofString (scopedText a zone) = .ok (.ofV6 a.ipv6) := by
  have last : ReadsAs (scopedGroup a.ipv6 zone) (a.ipv6.get 7) := readsAs_scopedGroup hdot hcolon
  have tokens : ∀ i ≤ 7, List.Forall₂ ReadsAs
      (((a.ipv6.toList.take 7).drop i).map hexGroup ++ [scopedGroup a.ipv6 zone])
      (a.ipv6.toList.drop i) := fun i hi =>
    (drop_eq_concat hi : a.ipv6.toList.drop i = _) ▸
      List.rel_append (readsAs_map_hexGroup _) (.cons last .nil)
  obtain ⟨v, run, groups⟩ : ∃ v, IPAddress.ofString (scopedText a zone) = .ok (.ofV6 v) ∧
      v.toList = a.ipv6.toList := by
    rcases scopedText_eq hbuilt ht h hlast zone with text | ⟨seq, longest, two, le, text⟩
    · obtain ⟨v, run, groups⟩ := ofString_full (tokens 0 (Nat.zero_le _)) .nothing (by simp)
      rw [List.append_nil] at run groups
      exact ⟨v, text ▸ run, groups⟩
    · obtain ⟨v, run, groups⟩ := ofString_gap (readsAs_map_hexGroup (a.ipv6.toList.take seq.1))
        (tokens _ le) .nothing (by simp; omega)
      rw [List.append_nil] at run groups
      refine ⟨v, text ▸ run, groups.trans ?_⟩
      conv => rhs; rw [split_run longest.1]
      congr 2
      simp
      omega
  rw [run, Vector.toList_inj.mp groups]

/-! ### With a dot -/

/-- An octet that starts with a digit other than zero. -/
theorem parseOctet_pos {d : Nat} (hd : 0 < d) (hd' : d < 16) {s : Text} {b : UInt8}
    (h : parseOctet (Nat.digitChar d :: s) = .ok b) : 0 < b.toNat := by
  have cut : cStr (Nat.digitChar d :: s) = Nat.digitChar d :: cStr s :=
    List.takeWhile_cons_of_pos (by simp)
  -- neither binary nor hexadecimal
  have noPrefix : ∀ c, (Nat.digitChar d :: cStr s).take 2 ≠ ['0', c] := fun c hc =>
    Numeral.digitChar_ne_zero d hd' hd (List.cons.inj hc).1
  rw [parseOctet, cut] at h
  obtain ⟨w, hw, h⟩ := Outcome.bind_eq_ok.mp h
  rw [convertFromString, if_neg (noPrefix _), if_neg (not_or.mpr ⟨noPrefix _, noPrefix _⟩)] at hw
  cases hread : Numeral.readUnsigned 10 16 (Nat.digitChar d :: cStr s) with
  | none => simp [hread] at hw
  | some out =>
      simp only [hread] at hw
      obtain rfl := Except.ok.inj hw
      have pos := Numeral.readUnsigned_pos hd hd' hread
      have value := UInt16.toNat_ofNat_of_lt' (Numeral.readUnsigned_lt hread)
      by_cases hbig : UInt16.ofNat out > 255
      · rw [if_pos hbig] at h
        cases h
      · rw [if_neg hbig] at h
        obtain rfl := Except.ok.inj h
        have : ¬ 255 < (UInt16.ofNat out).toNat := hbig
        rw [UInt16.toNat_toUInt8, value] at *
        omega

/-- Read as an IPv4 address, the scoped group does not start with a zero. -/
theorem parseIPV4_scopedGroup {zone : Text} (hlast : ipv6.get 7 ≠ 0) {v : ValueTypeV4}
    (h : parseIPV4 (scopedGroup ipv6 zone) = .ok v) : 0 < (v.get 0).toNat := by
  have hne : (ipv6.get 7).toNat ≠ 0 := fun hc => hlast (UInt16.toNat_inj.mp hc)
  obtain ⟨d, ds, pos, lt, hdigits⟩ := Numeral.exists_toDigits_cons (b := 16) (by decide) hne
  -- the first token starts with the first digit
  obtain ⟨t, ts, htokens⟩ : ∃ t ts, kept false ((scopedGroup ipv6 zone).splitOn '.') =
      (Nat.digitChar d :: t) :: ts := by
    rw [scopedGroup, hexGroup, hdigits, List.cons_append, List.splitOn_cons_eq_if_modifyHead,
      if_neg (by simp)]
    cases hs : (ds ++ '%' :: zone).splitOn '.' with
    | nil => exact absurd hs (List.splitOn_ne_nil _ _)
    | cons t ts => exact ⟨t, kept false ts, rfl⟩
  rw [parseIPV4_iff, htokens, toList_v4] at h
  cases h with
  | cons h₀ _ => exact parseOctet_pos pos lt h₀

/-- The zero in front of what follows the longest run of zeros is still there, one group further
on, only if the run is longer. -/
theorem no_shift {x g₆ g₇ : UInt16} {mid : List UInt16} (hmid : ∀ v ∈ mid.head?, v ≠ 0)
    (hg : g₆ ≠ 0) (k : Nat) (front : List UInt16) :
    front ++ List.replicate k 0 ++ (mid ++ [g₆, g₇]) ≠
      front ++ List.replicate (k + 1) 0 ++ (mid ++ [x]) := by
  intro h
  rw [List.replicate_succ', List.append_assoc, List.append_assoc, List.append_assoc] at h
  have h := List.append_cancel_left (List.append_cancel_left h)
  cases mid with
  | nil => exact hg (List.cons.inj h).1
  | cons m mid => exact hmid m rfl (List.cons.inj h).1

/-- **A name with a dot**: the address is not read back. -/
theorem not_ofString_scoped {a : IPAddress} (hbuilt : a.Built) (ht : a.type = .v6)
    (h : isLinkLocal a.ipv6) (hlast : a.ipv6.get 7 ≠ 0) {zone : Text} (hdot : '.' ∈ zone)
    (hcolon : ':' ∉ zone) {b : IPAddress} (hb : IPAddress.ofString (scopedText a zone) = .ok b) :
    ¬ (b == a) = true := by
  have hq : '.' ∈ scopedGroup a.ipv6 zone := by simp [scopedGroup, hdot]
  have cleanQ : scopedGroup a.ipv6 zone ≠ [] ∧ ':' ∉ scopedGroup a.ipv6 zone :=
    ⟨by simp [scopedGroup], by simp [scopedGroup, hcolon, (readsAs_hexGroup _).noColon]⟩
  have clean : ∀ vs : List UInt16, Clean (vs.map hexGroup) := fun vs t ht => by
    obtain ⟨v, -, rfl⟩ := List.mem_map.mp ht
    exact ⟨(readsAs_hexGroup v).nonempty, (readsAs_hexGroup v).noColon⟩
  have cleanLast : ∀ vs : List UInt16, Clean (vs.map hexGroup ++ [scopedGroup a.ipv6 zone]) :=
    fun vs => List.forall_mem_append.mpr ⟨clean vs, List.forall_mem_singleton.mpr cleanQ⟩
  rcases scopedText_eq hbuilt ht h hlast zone with text | ⟨seq, longest, two, le, text⟩
  · -- eight tokens, where an embedded IPv4 address leaves room for seven
    rw [text, ofString_joinColon (cleanLast _) (by simp) (by simp)] at hb
    obtain ⟨ip, hparse, -⟩ := Outcome.bind_eq_ok.mp hb
    have := (parseTokensV6_ok_quad hparse hq (by simp)).2 (clean _).noEmpty
    simp at this
  · -- the embedded IPv4 address takes one group more, which the zeros miss
    obtain ⟨first, length⟩ := seq
    obtain ⟨k, rfl⟩ : ∃ k, length = k + 1 := ⟨length - 1, by omega⟩
    simp only at two le text
    obtain ⟨v, hv⟩ : ∃ v, parseIPV4 (scopedGroup a.ipv6 zone) = .ok v := by
      rw [text, ofString_joinColon_gap (clean _) (cleanLast _) (by simp; omega)] at hb
      obtain ⟨ip, hparse, -⟩ := Outcome.bind_eq_ok.mp hb
      rw [← List.cons_append, ← List.append_assoc] at hparse
      exact (parseTokensV6_ok_quad hparse hq (by simp; omega)).1
    obtain ⟨v', run, groups⟩ := ofString_gap (readsAs_map_hexGroup (a.ipv6.toList.take first))
      (readsAs_map_hexGroup ((a.ipv6.toList.take 7).drop (first + (k + 1))))
      (.quad hv hq cleanQ.2) (by simp [quadGroups]; omega)
    obtain rfl := Except.ok.inj (run.symm.trans (text ▸ hb))
    intro heq
    obtain rfl : v' = a.ipv6 :=
      (IPAddress.ipv6_ofV6 _).symm.trans
        ((IPAddress.beq_iff.mp heq).2.2 (IPAddress.type_ofV6 _))
    have zeros : 8 - ((a.ipv6.toList.take first).length +
        ((a.ipv6.toList.take 7).drop (first + (k + 1)) ++ quadGroups v).length) = k := by
      simp [quadGroups]
      omega
    have whole := split_run longest.1
    rw [drop_eq_concat le] at whole
    rw [zeros, quadGroups_eq] at groups
    refine no_shift (fun w hw => ?_) (fun hc => ?_) k _ (groups.symm.trans whole)
    · -- the run of zeros stops where it does
      rw [List.head?_drop, List.getElem?_take] at hw
      split at hw
      · have stops := longest.stops w hw
        exact fun hc => Bool.eq_false_iff.mp stops (isZero_iff.mpr hc)
      · cases hw
    · -- the first octet is not zero, so the group it is in is not either
      have pos := parseIPV4_scopedGroup hlast hv
      have lt₀ := (v.get 0).toNat_lt
      have lt₁ := (v.get 1).toNat_lt
      have := congrArg UInt16.toNat hc
      rw [UInt16.toNat_ofNat', UInt16.toNat_zero] at this
      omega

end
end NetworkInterface
