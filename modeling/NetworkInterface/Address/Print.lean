import NetworkInterface.Address.Value
import NetworkInterface.Support.Blocks
import NetworkInterface.Support.LongestRun
import NetworkInterface.Support.Numeral

/-!
# Address — Print

`buildIPV4String` and `buildIPV6String`.  The IPv6 text is made in two passes: the first finds
the zero groups that `::` will stand for (`findLongestZeroSeq`), the second writes the groups.

`longest_findLongestZeroSeq`: the first pass finds the leftmost of the longest runs of zero
groups, and forgets it when it is a single group.
-/

namespace NetworkInterface
open Support

/-! ### Embedded IPv4 -/

def embeddedIPv4Mask : ValueTypePackedV6 := (0xFFFFFFFFFFFFFFFF, 0xFFFFFFFF00000000)
def embeddedIPv4CompatibleValue : ValueTypePackedV6 := (0, 0)
def embeddedIPv4MappedValue : ValueTypePackedV6 := (0, 0x0000FFFF00000000)

def isEmbeddedIPv4Compatible (ip : ValueTypePackedV6) : Bool :=
  ip.1 &&& embeddedIPv4Mask.1 == embeddedIPv4CompatibleValue.1 &&
    ip.2 &&& embeddedIPv4Mask.2 == embeddedIPv4CompatibleValue.2

def isEmbeddedIPv4Mapped (ip : ValueTypePackedV6) : Bool :=
  ip.1 &&& embeddedIPv4Mask.1 == embeddedIPv4MappedValue.1 &&
    ip.2 &&& embeddedIPv4Mask.2 == embeddedIPv4MappedValue.2

theorem and_allOnes (w : UInt64) : w &&& 0xFFFFFFFFFFFFFFFF = w := by
  have : (0xFFFFFFFFFFFFFFFF : UInt64) = -1 := rfl
  rw [this, UInt64.and_neg_one]

theorem toNat_and_upper (w : UInt64) :
    (w &&& 0xFFFFFFFF00000000).toNat = w.toNat / 2 ^ 32 * 2 ^ 32 := by
  rw [UInt64.toNat_and]
  exact @Blocks.and_ones 64 32 w.toNat (by decide) w.toNat_lt

/-- The two tests, on the groups: five zero groups, and the one of the value. -/
theorem embedded_iff {ipv6 : ValueTypeV6} {value : UInt64} {c : UInt16}
    (hvalue : value.toNat = c.toNat * 2 ^ 32) :
    ((packV6 ipv6).1 &&& 0xFFFFFFFFFFFFFFFF == 0 &&
      (packV6 ipv6).2 &&& 0xFFFFFFFF00000000 == value) = true ↔
    ipv6.toList.take 6 = [0, 0, 0, 0, 0, c] := by
  rw [and_allOnes, Bool.and_eq_true, beq_iff_eq, beq_iff_eq, ← UInt64.toNat_inj,
    ← UInt64.toNat_inj, toNat_and_upper, hvalue, toList_v6, packV6, toNat_pack_groups,
    toNat_pack_groups]
  have h₀ := ipv6[0].toNat_lt
  have h₄ := ipv6[4].toNat_lt
  have h₅ := ipv6[5].toNat_lt
  have h₆ := ipv6[6].toNat_lt
  have h₇ := ipv6[7].toNat_lt
  have hc := c.toNat_lt
  simp only [List.take_succ_cons, List.take_zero, List.cons.injEq, and_true, ← UInt16.toNat_inj,
    UInt64.toNat_zero, UInt16.toNat_zero]
  omega

/-- **IPv4-compatible**: the first six groups are zero. -/
theorem isEmbeddedIPv4Compatible_iff {ipv6 : ValueTypeV6} :
    isEmbeddedIPv4Compatible (packV6 ipv6) = true ↔ ipv6.toList.take 6 = [0, 0, 0, 0, 0, 0] :=
  embedded_iff rfl

/-- **IPv4-mapped**: the first five groups are zero, and the sixth is `ffff`. -/
theorem isEmbeddedIPv4Mapped_iff {ipv6 : ValueTypeV6} :
    isEmbeddedIPv4Mapped (packV6 ipv6) = true ↔ ipv6.toList.take 6 = [0, 0, 0, 0, 0, 0xFFFF] :=
  embedded_iff rfl

/-! ### IPv4 -/

/-- `buildIPV4String`: the loop over the bytes. -/
def buildIPV4String (ipv4 : ValueTypeV4) : Text :=
  ipv4.toList.foldl
    (fun ip v => (if ip.isEmpty then ip else ip ++ ['.']) ++ Nat.toDigits 10 v.toNat) []

/-! ### IPv6, first pass -/

/-- A sequence of zero groups: the position of the first one, and how many there are. -/
abbrev ZeroSeq := Nat × Nat

/-- `longestZeroSeq = currentZeroSeq`, when the current sequence is strictly the longest. -/
def keepLongest (longestZeroSeq currentZeroSeq : Option ZeroSeq) : Option ZeroSeq :=
  match currentZeroSeq, longestZeroSeq with
  | none, longest => longest
  | some current, none => some current
  | some current, some longest => if current.2 > longest.2 then some current else some longest

/-- The loop of the first pass, from group `i` on. -/
def scanZeroSeqs : Nat → List UInt16 → Option ZeroSeq → Option ZeroSeq → Option ZeroSeq
  | _, [], longestZeroSeq, currentZeroSeq => keepLongest longestZeroSeq currentZeroSeq
  | i, v :: rest, longestZeroSeq, currentZeroSeq =>
      if v = 0 then
        let (first, length) := currentZeroSeq.getD (i, 0)
        scanZeroSeqs (i + 1) rest longestZeroSeq (some (first, length + 1))
      else scanZeroSeqs (i + 1) rest (keepLongest longestZeroSeq currentZeroSeq) none

/-- The first pass: a sequence of one group is not a sequence. -/
def findLongestZeroSeq (ipv6 : ValueTypeV6) : Option ZeroSeq :=
  (scanZeroSeqs 0 ipv6.toList none none).filter fun seq => seq.2 ≠ 1

/-- The group is zero. -/
def isZero (v : UInt16) : Bool := v = 0

theorem keepLongest_eq (closed opened : Option ZeroSeq) :
    keepLongest closed opened = LongestRun.longer closed opened := by
  cases closed <;> cases opened <;> rfl

/-- The sequence still open behind the groups `pre ++ run`. -/
def openSeq (pre run : List UInt16) : Option ZeroSeq :=
  if run = [] then none else some (pre.length, run.length)

/-- The scan at a group, `pre` being closed and `run` the zero groups since. -/
theorem scanZeroSeqs_spec (rest : List UInt16) :
    ∀ {pre run : List UInt16} {closed : Option ZeroSeq}, LongestRun.Longest isZero pre closed →
      (∀ v ∈ pre.getLast?, isZero v = false) → (∀ v ∈ run, isZero v = true) →
      LongestRun.Longest isZero (pre ++ run ++ rest)
        (scanZeroSeqs (pre ++ run).length rest closed (openSeq pre run)) := by
  induction rest with
  | nil =>
      intro pre run closed h hpre hrun
      rw [List.append_nil, scanZeroSeqs, keepLongest_eq]
      exact h.append_run hpre hrun
  | cons v rest ih =>
      intro pre run closed h hpre hrun
      rw [List.append_cons (pre ++ run) v rest, scanZeroSeqs]
      have position : (pre ++ run).length + 1 = (pre ++ run ++ [v]).length := by
        simp [Nat.add_assoc]
      by_cases hv : v = 0
      · -- a zero group opens a sequence or makes the open one longer
        obtain ⟨first, length, hget, opened⟩ : ∃ first length,
            (openSeq pre run).getD ((pre ++ run).length, 0) = (first, length) ∧
              some (first, length + 1) = openSeq pre (run ++ [v]) := by
          cases run <;> exact ⟨_, _, rfl, by simp [openSeq]⟩
        rw [if_pos hv, position, hget]
        simp only [opened, List.append_assoc pre run [v]]
        refine ih h hpre ?_
        exact List.forall_mem_append.mpr
          ⟨hrun, List.forall_mem_singleton.mpr (by simp [isZero, hv])⟩
      · -- any other group closes it
        have hz : isZero v = false := by simp [isZero, hv]
        rw [if_neg hv, position, keepLongest_eq]
        have closed' := (h.append_run hpre hrun).append_gap hz
        have := @ih (pre ++ run ++ [v]) [] _ closed' (by simp [hz]) (by simp)
        rwa [List.append_nil] at this

theorem longest_scanZeroSeqs (ipv6 : ValueTypeV6) :
    LongestRun.Longest isZero ipv6.toList (scanZeroSeqs 0 ipv6.toList none none) :=
  scanZeroSeqs_spec ipv6.toList LongestRun.longest_nil (by simp)
    (show ∀ v ∈ [], isZero v = true by simp)

/-- **The first pass** finds the leftmost of the longest runs of zero groups, if it has two
groups. -/
theorem longest_findLongestZeroSeq {ipv6 : ValueTypeV6} {seq : ZeroSeq}
    (h : findLongestZeroSeq ipv6 = some seq) :
    LongestRun.Longest isZero ipv6.toList (some seq) ∧ 2 ≤ seq.2 := by
  rw [findLongestZeroSeq, Option.filter_eq_some_iff] at h
  have longest := h.1 ▸ longest_scanZeroSeqs ipv6
  have pos := longest.1.1
  have two : seq.2 ≠ 1 := by simpa using h.2
  exact ⟨longest, by omega⟩

/-- A run of two zero groups is enough for the first pass to find one. -/
theorem findLongestZeroSeq_isSome {ipv6 : ValueTypeV6} {r : ZeroSeq}
    (h : LongestRun.IsRun isZero ipv6.toList r) (h2 : 2 ≤ r.2) :
    ∃ seq, findLongestZeroSeq ipv6 = some seq := by
  have longest := longest_scanZeroSeqs ipv6
  cases hs : scanZeroSeqs 0 ipv6.toList none none with
  | none => exact absurd h (LongestRun.not_isRun_of_longest_none (hs ▸ longest) r)
  | some seq =>
      have := (hs ▸ longest : LongestRun.Longest isZero ipv6.toList (some seq)).2 r h
      refine ⟨seq, ?_⟩
      rw [findLongestZeroSeq, hs, Option.filter_some, if_pos]
      simp
      omega

/-! ### IPv6, second pass -/

/-- A group as the stream prints it. -/
def hexGroup (v : UInt16) : Text := Nat.toDigits 16 v.toNat

/-- The last two groups as a dotted quad. -/
def embeddedIPV4Text (ipv6 : ValueTypeV6) : Text :=
  Nat.toDigits 10 (ipv6.get 6 >>> 8).toNat ++ '.' :: Nat.toDigits 10 (ipv6.get 6 &&& 0xFF).toNat ++
    '.' :: Nat.toDigits 10 (ipv6.get 7 >>> 8).toNat ++
    '.' :: Nat.toDigits 10 (ipv6.get 7 &&& 0xFF).toNat

/-- The loop of the second pass, from group `i` on.  `i` advances at each turn, so eight turns
are enough. -/
def printGroups (ipv6 : ValueTypeV6) (longestZeroSeq : Option ZeroSeq)
    (displayAsEmbeddedIPV4 : Bool) : (turns i : Nat) → (mustAppendColon : Bool) → Text
  | 0, _, _ => []
  | turns + 1, i, mustAppendColon =>
      if h : i < 8 then
        if longestZeroSeq.map Prod.fst = some i then
          let length := (longestZeroSeq.map Prod.snd).getD 0
          [':', ':'] ++
            printGroups ipv6 longestZeroSeq displayAsEmbeddedIPV4 turns (i + (length - 1) + 1) false
        else
          (if mustAppendColon then [':'] else []) ++
            if displayAsEmbeddedIPV4 ∧ i = 6 then embeddedIPV4Text ipv6
            else hexGroup ipv6[i] ++
              printGroups ipv6 longestZeroSeq displayAsEmbeddedIPV4 turns (i + 1) true
      else []

/-- `buildIPV6String`. -/
def buildIPV6String (ipv6 : ValueTypeV6) (packedIP : ValueTypePackedV6)
    (displayAsEmbeddedIPV4 : Bool) : Text :=
  if packedIP.1 = 0 ∧ packedIP.2 = 0 then [':', ':']
  else if packedIP.1 = 0 ∧ packedIP.2 = 1 then [':', ':', '1']
  else printGroups ipv6 (findLongestZeroSeq ipv6) displayAsEmbeddedIPV4 8 0 false

end NetworkInterface
