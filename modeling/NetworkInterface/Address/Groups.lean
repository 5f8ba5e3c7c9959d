import Mathlib.Data.List.Forall2
import NetworkInterface.Address.PackLoop
import NetworkInterface.Address.Tokens

/-!
# Address — Groups

The IPv6 branch of the constructor, from a list of tokens to the packed address.

* `scanTokens_spec`: what the scan finds out (`ScanOf`), or why it throws.
* `packTokens_groups`, `packTokens_end`: the packing loop over tokens that are read as groups,
  and over the dotted quad at the end.  `Packs ip gs` says that the groups of `ip` are `gs`, and
  zero from there on.
* `parseTokensV6_full`, `parseTokensV6_gap`: the tokens of an address without and with `::`.
-/

namespace NetworkInterface
open Support

/-! ### The scan -/

theorem sizeSub_of_le {a b : Nat} (h : b ≤ a) (ha : a < 2 ^ 64) : sizeSub a b = a - b := by
  rw [sizeSub]
  omega

/-- The number of zero groups an empty token stands for, among `size` tokens. -/
def gapLength (size : Nat) (ipv4 : Bool) : Nat :=
  let length := (sizeSub maxTokensV6 size + 1) % 2 ^ 64
  if ipv4 then sizeSub length 1 else length

theorem gapLength_true (size : Nat) : gapLength size true = sizeSub (gapLength size false) 1 := by
  simp only [gapLength, if_true, Bool.false_eq_true, if_false]

/-- Of at most eight tokens, the empty one stands for the missing groups. -/
theorem gapLength_eq {size : Nat} (h : size ≤ 8) (ipv4 : Bool) :
    gapLength size ipv4 = 9 - size - if ipv4 then 1 else 0 := by
  have length : gapLength size false = 9 - size := by
    rw [gapLength, if_neg Bool.false_ne_true, maxTokensV6, sizeSub_of_le h (by decide),
      Nat.mod_eq_of_lt (by omega)]
    omega
  cases ipv4 with
  | false => exact length
  | true => rw [gapLength_true, length, sizeSub_of_le (by omega) (by omega), if_pos rfl]

/-- What the scan knows of `size` tokens when it has seen the tokens `seen`. -/
structure ScanOf (size : Nat) (seen : List Text) (scan : TokenScan) : Prop where
  count : scan.emptyTokenCount = seen.count []
  absent : scan.emptyTokens = none → [] ∉ seen
  present : ∀ seq ∈ scan.emptyTokens,
    seen[seq.1]? = some [] ∧ seq.2 = gapLength size scan.isLastTokenIPv4
  ipv4 : scan.isLastTokenIPv4 = true ↔ seen.length = size ∧ ∃ token ∈ seen.getLast?, '.' ∈ token

theorem ScanOf.nil {size : Nat} : ScanOf size [] {} where
  count := rfl
  absent _ := List.not_mem_nil
  present _ h := absurd h (Option.not_mem_none _)
  ipv4 :=
    ⟨fun h => absurd h Bool.false_ne_true, fun ⟨_, _, h, _⟩ => absurd h (Option.not_mem_none _)⟩

/-- A token is seen that is not the last one with a dot in it. -/
theorem ScanOf.append {size : Nat} {seen : List Text} {scan : TokenScan}
    (h : ScanOf size seen scan) (hlt : seen.length < size) {token : Text} (hdot : '.' ∉ token) :
    ScanOf size (seen ++ [token])
      (if token.isEmpty then
        { scan with
          emptyTokenCount := scan.emptyTokenCount + 1
          emptyTokens := some (seen.length, gapLength size false) }
      else scan) := by
  have notLast : scan.isLastTokenIPv4 = false :=
    Bool.eq_false_iff.mpr fun hl => absurd (h.ipv4.mp hl).1 (Nat.ne_of_lt hlt)
  have ipv4 : scan.isLastTokenIPv4 = true ↔ (seen ++ [token]).length = size ∧
      ∃ t ∈ (seen ++ [token]).getLast?, '.' ∈ t := by
    simp [notLast, hdot]
  cases token with
  | nil =>
      -- the length is recorded without the quad, which the last token may still change
      refine ⟨?_, fun hnone => absurd hnone (by simp), ?_, ipv4⟩
      · simp [h.count]
      · rintro seq hseq
        obtain rfl := Option.some.inj hseq
        exact ⟨by simp, by simp [notLast]⟩
  | cons c token =>
      refine ⟨?_, fun hnone => ?_, fun seq hseq => ?_, ipv4⟩
      · simpa using h.count
      · simpa using h.absent hnone
      · obtain ⟨here, length⟩ := h.present seq hseq
        exact ⟨List.getElem?_append_left (List.getElem?_eq_some_iff.mp here).1 ▸ here, length⟩

/-- The last token has a dot in it. -/
theorem ScanOf.append_ipv4 {size : Nat} {seen : List Text} {scan : TokenScan}
    (h : ScanOf size seen scan) (hlast : seen.length + 1 = size) {token : Text}
    (hdot : '.' ∈ token) :
    ScanOf size (seen ++ [token])
      { scan with
        isLastTokenIPv4 := true
        emptyTokens := scan.emptyTokens.map fun (first, length) => (first, sizeSub length 1) } := by
  have notLast : scan.isLastTokenIPv4 = false :=
    Bool.eq_false_iff.mpr fun hl => absurd (h.ipv4.mp hl).1 (by omega)
  have hne : ¬ [] = token := by rintro rfl; cases hdot
  refine ⟨?_, fun hnone => ?_, ?_, by simp [hlast, hdot]⟩
  · simpa [List.count_append, List.count_singleton, Ne.symm hne] using h.count
  · simpa [hne] using h.absent (Option.map_eq_none_iff.mp hnone)
  · rintro seq hseq
    obtain ⟨⟨first, length⟩, hold, rfl⟩ := Option.map_eq_some_iff.mp hseq
    obtain ⟨here, hlength⟩ := h.present _ hold
    refine ⟨List.getElem?_append_left (List.getElem?_eq_some_iff.mp here).1 ▸ here, ?_⟩
    rw [gapLength_true, ← notLast, ← hlength]

theorem scanToken_ipv4 {size i : Nat} {token : Text} (scan : TokenScan) (hdot : '.' ∈ token)
    (hi : i = sizeSub size 1) : scanToken size i token scan = .ok { scan with
      isLastTokenIPv4 := true
      emptyTokens := scan.emptyTokens.map fun (first, length) => (first, sizeSub length 1) } := by
  have hne : ¬ token.isEmpty = true := by cases token with
    | nil => cases hdot
    | cons c token => exact Bool.false_ne_true
  rw [scanToken, if_neg hne, if_pos hdot, if_pos hi]

/-- One turn of the scan. -/
theorem ScanOf.step {size : Nat} {seen : List Text} {scan : TokenScan} (h : ScanOf size seen scan)
    (hlt : seen.length < size) (hsize : size < 2 ^ 64) (token : Text) :
    if '.' ∈ token ∧ seen.length + 1 ≠ size then
      scanToken size seen.length token scan = .error invalidV6
    else ∃ scan', scanToken size seen.length token scan = .ok scan' ∧
      ScanOf size (seen ++ [token]) scan' := by
  have last : sizeSub size 1 = size - 1 := sizeSub_of_le (by omega) hsize
  by_cases hdot : '.' ∈ token
  · by_cases hlast : seen.length + 1 = size
    · rw [if_neg (fun hc => hc.2 hlast)]
      exact ⟨_, scanToken_ipv4 scan hdot (by omega), h.append_ipv4 hlast hdot⟩
    · rw [if_pos ⟨hdot, hlast⟩, scanToken, if_pos hdot, if_neg (by omega)]
  · rw [if_neg (fun hc => hdot hc.1)]
    refine ⟨_, ?_, h.append hlt hdot⟩
    rw [scanToken, if_neg hdot]
    rfl

/-- **The scan** of a list of tokens: a dot before the last token is refused, and the rest is
recorded. -/
theorem scanTokens_spec {size : Nat} (hsize : size < 2 ^ 64) :
    ∀ {tokens seen : List Text} {scan : TokenScan}, ScanOf size seen scan →
      seen.length + tokens.length = size →
      ((∃ token ∈ tokens.dropLast, '.' ∈ token) ∧
        scanTokens size seen.length tokens scan = .error invalidV6) ∨
      ((∀ token ∈ tokens.dropLast, '.' ∉ token) ∧
        ∃ scan', scanTokens size seen.length tokens scan = .ok scan' ∧
          ScanOf size (seen ++ tokens) scan')
  | [], seen, scan, h, _ => .inr ⟨by simp, scan, rfl, by rwa [List.append_nil]⟩
  | token :: rest, seen, scan, h, hlen => by
      rw [List.length_cons] at hlen
      have step := h.step (by omega) hsize token
      by_cases hdot : '.' ∈ token ∧ seen.length + 1 ≠ size
      · -- a dot with tokens to come: the scan throws here
        rw [if_pos hdot] at step
        refine .inl ⟨⟨token, ?_, hdot.1⟩, by rw [scanTokens, step]; rfl⟩
        cases rest with
        | nil => exact absurd hlen hdot.2
        | cons next rest => exact List.mem_cons_self
      · rw [if_neg hdot] at step
        obtain ⟨scan₁, run, h₁⟩ := step
        have hlen₁ : (seen ++ [token]).length + rest.length = size := by
          rw [List.length_append, List.length_singleton]
          omega
        have ih := scanTokens_spec hsize h₁ hlen₁
        have turn : scanTokens size seen.length (token :: rest) scan =
            scanTokens size (seen ++ [token]).length rest scan₁ := by
          rw [scanTokens, run, List.length_append]
          rfl
        rw [turn]
        cases rest with
        | nil => exact .inr ⟨by simp, scan₁, rfl, h₁⟩
        | cons next rest =>
            have clean : '.' ∉ token := fun hc =>
              hdot ⟨hc, by rw [List.length_cons] at hlen; omega⟩
            rw [List.dropLast_cons_cons, List.append_cons seen token (next :: rest)]
            simpa only [List.mem_cons, exists_eq_or_imp, forall_eq_or_imp, clean, false_or,
              not_false_eq_true, true_and] using ih

/-- The sanity checks, as one condition. -/
theorem checkTokens_eq (size : Nat) (scan : TokenScan) : checkTokens size scan =
    if scan.emptyTokenCount ≤ 1 ∧ (scan.emptyTokens = none →
      size = if scan.isLastTokenIPv4 then maxTokensV6 - 1 else maxTokensV6) then .ok ()
    else .error invalidV6 := by
  obtain ⟨count, seq, quad⟩ := scan
  unfold checkTokens
  by_cases hcount : count ≤ 1
  · cases seq <;> cases quad <;>
      by_cases h₈ : size = maxTokensV6 <;> by_cases h₇ : size = maxTokensV6 - 1 <;>
      simp [hcount, h₈, h₇, bind, Except.bind, pure, Except.pure, throw, throwThe,
        MonadExceptOf.throw, Nat.not_lt.mpr]
  · simp [hcount, Nat.lt_of_not_le hcount, bind, Except.bind, throw, throwThe, MonadExceptOf.throw]

/-! ### Packing -/

/-- The groups of `ip` are `gs`, then zeros. -/
structure Packs (ip : ValueTypePackedV6) (gs : List UInt16) : Prop where
  length_le : gs.length ≤ 8
  group : ∀ i (h : i < 8), (unpackV6 ip)[i] = gs.getD i 0

theorem Packs.nil : Packs (0, 0) [] := ⟨by simp, by decide⟩

theorem Packs.zeros {ip : ValueTypePackedV6} {gs : List UInt16} (h : Packs ip gs) {k : Nat}
    (hk : gs.length + k ≤ 8) : Packs ip (gs ++ List.replicate k 0) := by
  refine ⟨by simpa using hk, fun i hi => ?_⟩
  rw [h.group i hi, List.getD_eq_getElem?_getD, List.getD_eq_getElem?_getD,
    List.getElem?_append]
  split
  · rfl
  · rename_i hge
    rw [List.getElem?_eq_none (by omega), List.getElem?_replicate]
    split <;> rfl

/-- A packed address of eight groups. -/
theorem Packs.toList_eq {ip : ValueTypePackedV6} {gs : List UInt16} (h : Packs ip gs)
    (hlen : gs.length = 8) : (unpackV6 ip).toList = gs := by
  refine List.ext_getElem (by simp [hlen]) fun i hi hi' => ?_
  have := h.group i (by omega)
  rw [List.getD_eq_getElem _ _ hi'] at this
  simpa using this

/-- `packValue` combines the value with the group that is there. -/
theorem packValue_or (ip : ValueTypePackedV6) (v : UInt16) {n : Nat} (hn : n < 8) :
    ∃ ip', packValue ip v n = .ok ip' ∧ ∀ i (h : i < 8),
      (unpackV6 ip')[i] = (unpackV6 ip)[i] ||| if i = n then v else 0 := by
  have combine : ∀ (w : UInt64) {j k : Nat}, j < 4 → k < 4 →
      Words.field 16 j (w ||| v.toUInt64 <<< UInt64.ofNat (16 * k)).toNat =
        Words.field 16 j w.toNat ||| if j = k then v.toNat else 0 := fun w {j k} _ hk => by
    rw [UInt64.toNat_or, Words.field_or, toNat_shiftLeft_group v hk,
      Words.field_shiftLeft v.toNat_lt]
  have elsewhere : ∀ {i : Nat}, i ≠ n → (if i = n then v else 0).toNat = 0 := fun hne => by
    rw [if_neg hne]
    rfl
  rw [packValue, if_neg (show ¬ n ≥ maxTokensV6 from Nat.not_le.mpr hn)]
  by_cases hhalf : n < 4
  · -- the group is in the high word, and the low one is left as it is
    refine ⟨_, if_pos hhalf, fun i hi => UInt16.toNat_inj.mp ?_⟩
    rw [UInt16.toNat_or, toNat_getElem_unpackV6 _ hi, toNat_getElem_unpackV6 _ hi,
      show 48 - n * 16 = 16 * (3 - n) by omega]
    by_cases hi4 : i < 4
    · rw [wordOf, wordOf, if_pos hi4, if_pos hi4, combine ip.1 (by omega) (by omega),
        apply_ite UInt16.toNat, if_congr (show 3 - i % 4 = 3 - n ↔ i = n by omega) rfl rfl]
      rfl
    · rw [wordOf, wordOf, if_neg hi4, if_neg hi4, elsewhere (by omega), Nat.or_zero]
  · -- the other way round
    refine ⟨_, if_neg hhalf, fun i hi => UInt16.toNat_inj.mp ?_⟩
    rw [UInt16.toNat_or, toNat_getElem_unpackV6 _ hi, toNat_getElem_unpackV6 _ hi,
      show 48 - (n - 4) * 16 = 16 * (3 - (n - 4)) by omega]
    by_cases hi4 : i < 4
    · rw [wordOf, wordOf, if_pos hi4, if_pos hi4, elsewhere (by omega), Nat.or_zero]
    · rw [wordOf, wordOf, if_neg hi4, if_neg hi4, combine ip.2 (by omega) (by omega),
        apply_ite UInt16.toNat,
        if_congr (show 3 - i % 4 = 3 - (n - 4) ↔ i = n by omega) rfl rfl]
      rfl

/-- Packing the next group. -/
theorem packValue_next {ip : ValueTypePackedV6} {gs : List UInt16} (h : Packs ip gs)
    (hlt : gs.length < 8) (v : UInt16) :
    ∃ ip', packValue ip v gs.length = .ok ip' ∧ Packs ip' (gs ++ [v]) := by
  obtain ⟨ip', run, groups⟩ := packValue_or ip v hlt
  refine ⟨ip', run, by simp; omega, fun i hi => ?_⟩
  rw [groups i hi, h.group i hi, List.getD_eq_getElem?_getD, List.getD_eq_getElem?_getD]
  rcases Nat.lt_trichotomy i gs.length with hlt | rfl | hgt
  · simp [List.getElem?_append_left hlt, Nat.ne_of_lt hlt]
  · simp
  · simp [List.getElem?_eq_none (show gs.length ≤ i by omega),
      List.getElem?_eq_none (show (gs ++ [v]).length ≤ i by simp; omega), Nat.ne_of_gt hgt]

/-! ### The packing loop -/

/-- The token `t` is read as the group `v`. -/
structure ReadsAs (t : Text) (v : UInt16) : Prop where
  nonempty : t ≠ []
  noDot : '.' ∉ t
  noColon : ':' ∉ t
  reads : convertFromString (cStr ('0' :: 'x' :: t)) = .ok v

/-- The two groups of a dotted quad. -/
def quadGroups (ipv4 : ValueTypeV4) : List UInt16 :=
  [(packV4 ipv4 >>> 16).toUInt16, (packV4 ipv4 &&& 0xFFFF).toUInt16]

/-- The groups of a quad, from its bytes. -/
theorem quadGroups_eq (ipv4 : ValueTypeV4) : quadGroups ipv4 =
    [UInt16.ofNat (256 * (ipv4.get 0).toNat + (ipv4.get 1).toNat),
      UInt16.ofNat (256 * (ipv4.get 2).toNat + (ipv4.get 3).toNat)] := by
  have h₀ := (ipv4.get 0).toNat_lt
  have h₁ := (ipv4.get 1).toNat_lt
  have h₂ := (ipv4.get 2).toNat_lt
  have h₃ := (ipv4.get 3).toNat_lt
  have high : (packV4 ipv4 >>> 16).toUInt16 =
      UInt16.ofNat (256 * (ipv4.get 0).toNat + (ipv4.get 1).toNat) := by
    refine UInt16.toNat_inj.mp ?_
    rw [toNat_upper, toNat_packV4, UInt16.toNat_ofNat']
    omega
  have low : (packV4 ipv4 &&& 0xFFFF).toUInt16 =
      UInt16.ofNat (256 * (ipv4.get 2).toNat + (ipv4.get 3).toNat) := by
    refine UInt16.toNat_inj.mp ?_
    rw [toNat_lower, toNat_packV4, UInt16.toNat_ofNat']
    omega
  rw [quadGroups, high, low]

/-- What follows the groups of an address: nothing, or a dotted quad for the last two. -/
inductive EndsAs : List Text → List UInt16 → Prop where
  | nothing : EndsAs [] []
  | quad {t : Text} {ipv4 : ValueTypeV4} :
      parseIPV4 t = .ok ipv4 → '.' ∈ t → ':' ∉ t → EndsAs [t] (quadGroups ipv4)

theorem EndsAs.length_eq {E : List Text} {ve : List UInt16} (h : EndsAs E ve) :
    ve.length = 2 * E.length := by
  cases h <;> rfl

theorem EndsAs.length_le {E : List Text} {ve : List UInt16} (h : EndsAs E ve) : E.length ≤ 1 := by
  cases h <;> simp

variable {size : Nat} {scan : TokenScan}

/-- The loop at the empty token. -/
theorem packTokens_gap {i k : Nat} (hseq : scan.emptyTokens = some (i, k)) {packPosition : Nat}
    (hle : packPosition + k < 2 ^ 32) (token : Text) (rest : List Text) (ip : ValueTypePackedV6) :
    packTokens size scan i (token :: rest) packPosition ip =
      packTokens size scan (i + 1) rest (packPosition + k) ip := by
  rw [packTokens, hseq, Option.map_some, if_pos rfl]
  simp only [Option.map_some, Option.getD_some]
  rw [Nat.mod_eq_of_lt (show k < 2 ^ 32 by omega), Nat.mod_eq_of_lt hle]

/-- The loop over tokens that are read as groups. -/
theorem packTokens_groups {ts : List Text} {vs : List UInt16} (h : List.Forall₂ ReadsAs ts vs)
    (rest : List Text) : ∀ {i : Nat} {ip : ValueTypePackedV6} {gs : List UInt16}, Packs ip gs →
      (gs ++ vs).length ≤ 8 → i + ts.length < 2 ^ 64 →
      (∀ j, i ≤ j → j < i + ts.length → scan.emptyTokens.map Prod.fst ≠ some j) →
      (scan.isLastTokenIPv4 = true → i + ts.length < size ∧ size < 2 ^ 64) →
      ∃ ip', Packs ip' (gs ++ vs) ∧ packTokens size scan i (ts ++ rest) gs.length ip =
        packTokens size scan (i + ts.length) rest (gs ++ vs).length ip' := by
  induction h with
  | nil =>
      intro i ip gs hp _ _ _ _
      exact ⟨ip, by rwa [List.append_nil], by simp⟩
  | @cons t v ts vs ht _ ih =>
      intro i ip gs hp hle hi hgap hlast
      simp only [List.length_cons, List.length_append] at hle hi hgap hlast
      obtain ⟨ip₁, run, hp₁⟩ := packValue_next hp (by omega) v
      have notGap : scan.emptyTokens.map Prod.fst ≠ some i := hgap i (Nat.le_refl _) (by omega)
      have notQuad : ¬ (i = sizeSub size 1 ∧ scan.isLastTokenIPv4 = true) := by
        rintro ⟨hi', hq⟩
        obtain ⟨hlt, hsize⟩ := hlast hq
        rw [sizeSub_of_le (by omega) hsize] at hi'
        omega
      have next : (gs.length + 1) % 2 ^ 32 = (gs ++ [v]).length := by
        rw [List.length_append, List.length_singleton]
        omega
      obtain ⟨ip', hp', run'⟩ := @ih (i + 1) ip₁ (gs ++ [v]) hp₁
        (by simp only [List.length_append, List.length_singleton]; omega) (by omega)
        (fun j hj hj' => hgap j (by omega) (by omega))
        (fun hq => ⟨by have := (hlast hq).1; omega, (hlast hq).2⟩)
      rw [← List.append_cons] at hp' run'
      refine ⟨ip', hp', ?_⟩
      rw [List.cons_append, packTokens, if_neg notGap, if_neg notQuad, ht.reads]
      simp only [bind, Except.bind, run, next, run', List.length_cons]
      rw [Nat.add_right_comm, Nat.add_assoc]

/-- The loop over what follows the groups. -/
theorem packTokens_end {E : List Text} {ve : List UInt16} (h : EndsAs E ve) {i : Nat}
    {ip : ValueTypePackedV6} {gs : List UInt16} (hp : Packs ip gs) (hlen : (gs ++ ve).length = 8)
    (hi : i + E.length = size) (hsize : size < 2 ^ 64)
    (hgap : scan.emptyTokens.map Prod.fst ≠ some i)
    (hquad : E ≠ [] → scan.isLastTokenIPv4 = true) :
    ∃ ip', packTokens size scan i E gs.length ip = .ok ip' ∧ Packs ip' (gs ++ ve) := by
  cases h with
  | nothing => exact ⟨ip, rfl, by rwa [List.append_nil]⟩
  | @quad t ipv4 ht _ _ =>
      simp only [quadGroups, List.length_append, List.length_cons, List.length_nil] at hlen hi ⊢
      obtain ⟨ip₁, run₁, hp₁⟩ := packValue_next hp (by omega) (packV4 ipv4 >>> 16).toUInt16
      obtain ⟨ip₂, run₂, hp₂⟩ := packValue_next hp₁
        (by rw [List.length_append, List.length_singleton]; omega) (packV4 ipv4 &&& 0xFFFF).toUInt16
      have position : gs.length = maxTokensV6 - 2 := by rw [maxTokensV6]; omega
      have next : (gs.length + 1) % 2 ^ 32 = (gs ++ [(packV4 ipv4 >>> 16).toUInt16]).length := by
        rw [List.length_append, List.length_singleton]
        omega
      refine ⟨ip₂, ?_, by simpa using hp₂⟩
      rw [packTokens, if_neg hgap, if_pos ⟨by rw [sizeSub_of_le (by omega) hsize]; omega,
        hquad (List.cons_ne_nil _ _)⟩, if_pos position, ht]
      simp only [bind, Except.bind, run₁, next, run₂]
      rfl

/-! ### The whole branch -/

theorem ReadsAs.forall {ts : List Text} {vs : List UInt16} (h : List.Forall₂ ReadsAs ts vs) :
    ∀ t ∈ ts, t ≠ [] ∧ '.' ∉ t ∧ ':' ∉ t := by
  induction h with
  | nil => exact fun t ht => absurd ht List.not_mem_nil
  | cons ht _ ih => exact List.forall_mem_cons.mpr ⟨⟨ht.nonempty, ht.noDot, ht.noColon⟩, ih⟩

theorem EndsAs.forall {E : List Text} {ve : List UInt16} (h : EndsAs E ve) :
    ∀ t ∈ E, t ≠ [] ∧ '.' ∈ t ∧ ':' ∉ t := by
  cases h with
  | nothing => exact fun t ht => absurd ht List.not_mem_nil
  | @quad t _ _ hdot hcolon =>
      refine List.forall_mem_singleton.mpr ⟨?_, hdot, hcolon⟩
      rintro rfl
      cases hdot

/-- The scan of the tokens of an address: the only dots are in the quad. -/
theorem scan_address {front E : List Text} {ve : List UInt16} (hE : EndsAs E ve)
    (hfront : ∀ t ∈ front, '.' ∉ t) (hsize : (front ++ E).length < 2 ^ 64) :
    ∃ scan, scanTokens (front ++ E).length 0 (front ++ E) {} = .ok scan ∧
      ScanOf (front ++ E).length (front ++ E) scan ∧ (scan.isLastTokenIPv4 = true ↔ E ≠ []) := by
  have dots : ∀ t ∈ (front ++ E).dropLast, '.' ∉ t := by
    cases hE with
    | nothing => exact fun t ht => hfront t (by simpa using List.dropLast_subset _ ht)
    | quad => simpa only [List.dropLast_concat] using hfront
  have last : (∃ token ∈ (front ++ E).getLast?, '.' ∈ token) ↔ E ≠ [] := by
    cases hE with
    | nothing =>
        refine ⟨fun ⟨t, ht, hdot⟩ => absurd hdot (hfront t ?_), fun h => absurd rfl h⟩
        simpa using List.mem_of_getLast? ht
    | @quad t _ _ hdot _ => exact ⟨fun _ => List.cons_ne_nil _ _, fun _ => ⟨t, by simp, hdot⟩⟩
  rcases scanTokens_spec hsize ScanOf.nil (Nat.zero_add _) with
    ⟨⟨t, ht, hdot⟩, -⟩ | ⟨-, scan, run, h⟩
  · exact absurd hdot (dots t ht)
  · exact ⟨scan, run, h, h.ipv4.trans ((and_iff_right rfl).trans last)⟩

/-- The only empty token is found where it stands. -/
theorem index_gap {L R : List Text} (hL : [] ∉ L) (hR : [] ∉ R) {k : Nat}
    (h : (L ++ [] :: R)[k]? = some []) : k = L.length := by
  rcases Nat.lt_trichotomy k L.length with hlt | heq | hgt
  · rw [List.getElem?_append_left hlt] at h
    exact absurd (List.mem_of_getElem? h) hL
  · exact heq
  · obtain ⟨j, rfl⟩ := Nat.exists_eq_add_of_lt hgt
    rw [List.getElem?_append_right (by omega), show L.length + j + 1 - L.length = j + 1 by omega,
      List.getElem?_cons_succ] at h
    exact absurd (List.mem_of_getElem? h) hR

/-- **An address without `::`**. -/
theorem parseTokensV6_full {L E : List Text} {vl ve : List UInt16}
    (hL : List.Forall₂ ReadsAs L vl) (hE : EndsAs E ve) (hlen : (vl ++ ve).length = 8) :
    ∃ ip, parseTokensV6 (L ++ E) = .ok ip ∧ (unpackV6 ip).toList = vl ++ ve := by
  have hlenL := hL.length_eq
  have hlenE := hE.length_eq
  rw [List.length_append] at hlen
  have hsize : (L ++ E).length < 2 ^ 64 := by rw [List.length_append]; omega
  obtain ⟨scan, run, h, hquad⟩ := scan_address hE (fun t ht => (ReadsAs.forall hL t ht).2.1) hsize
  have noEmpty : [] ∉ L ++ E := by
    rw [List.mem_append, not_or]
    exact ⟨fun hm => (ReadsAs.forall hL [] hm).1 rfl, fun hm => (hE.forall [] hm).1 rfl⟩
  have noGap : scan.emptyTokens = none := by
    refine Option.eq_none_iff_forall_not_mem.mpr fun seq hseq => noEmpty ?_
    exact List.mem_of_getElem? (h.present seq hseq).1
  have ipv4 : scan.isLastTokenIPv4 = true ↔ E.length = 1 := by
    rw [hquad, ← List.length_pos_iff]
    have := hE.length_le
    omega
  have hE₁ := hE.length_le
  have check : checkTokens (L ++ E).length scan = .ok () := by
    rw [checkTokens_eq, h.count, List.count_eq_zero_of_not_mem noEmpty, List.length_append]
    refine if_pos ⟨Nat.zero_le 1, fun _ => ?_⟩
    cases hq : scan.isLastTokenIPv4 <;> simp only [hq, maxTokensV6] at ipv4 ⊢ <;> simp at ipv4 ⊢ <;>
      omega
  obtain ⟨ip₁, hp₁, run₁⟩ := @packTokens_groups (L ++ E).length scan L vl hL E 0 (0, 0) []
    Packs.nil (by rw [List.nil_append]; omega) (by omega) (fun _ _ _ => by simp [noGap])
    (fun hq => ⟨by rw [List.length_append, ipv4.mp hq]; omega, hsize⟩)
  obtain ⟨ip, run₂, hp⟩ := packTokens_end hE hp₁
    (by rw [List.nil_append, List.length_append]; omega)
    (show 0 + L.length + E.length = (L ++ E).length by rw [List.length_append]; omega) hsize
    (by simp [noGap]) hquad.mpr
  refine ⟨ip, ?_, hp.toList_eq (by simpa using hlen)⟩
  rw [parseTokensV6, run]
  simp only [bind, Except.bind, check]
  exact run₁.trans run₂

section
variable {L R E : List Text} {vl vr ve : List UInt16}

/-- What the scan finds in an address with `::`, and that the checks let it pass. -/
theorem scan_gap (hL : List.Forall₂ ReadsAs L vl) (hR : List.Forall₂ ReadsAs R vr)
    (hE : EndsAs E ve) (hlen : vl.length + (vr ++ ve).length ≤ 7) :
    ∃ scan, scanTokens (L ++ [] :: (R ++ E)).length 0 (L ++ [] :: (R ++ E)) {} = .ok scan ∧
      checkTokens (L ++ [] :: (R ++ E)).length scan = .ok () ∧
      scan.emptyTokens = some (L.length, 8 - (vl.length + (vr ++ ve).length)) ∧
      (scan.isLastTokenIPv4 = true ↔ E.length = 1) := by
  have hlenL := hL.length_eq
  have hlenR := hR.length_eq
  have hlenE := hE.length_eq
  have hE₁ := hE.length_le
  rw [List.length_append] at hlen
  have regroup : L ++ [] :: R ++ E = L ++ [] :: (R ++ E) := by simp
  have hlength : (L ++ [] :: (R ++ E)).length = L.length + (R.length + 1) + E.length := by
    rw [← regroup]
    simp only [List.length_append, List.length_cons]
  have front : ∀ t ∈ L ++ [] :: R, '.' ∉ t := by
    simp only [List.forall_mem_append, List.forall_mem_cons]
    exact ⟨fun t ht => (ReadsAs.forall hL t ht).2.1, List.not_mem_nil,
      fun t ht => (ReadsAs.forall hR t ht).2.1⟩
  obtain ⟨scan, run, h, hquad⟩ := scan_address hE front (by rw [regroup]; omega)
  rw [regroup] at run h
  have hquad₁ : scan.isLastTokenIPv4 = true ↔ E.length = 1 := by
    rw [hquad, ← List.length_pos_iff]
    omega
  have noEmptyL : [] ∉ L := fun hm => (ReadsAs.forall hL [] hm).1 rfl
  have noEmptyR : [] ∉ R ++ E := by
    rw [List.mem_append, not_or]
    exact ⟨fun hm => (ReadsAs.forall hR [] hm).1 rfl, fun hm => (hE.forall [] hm).1 rfl⟩
  -- the empty token is the one between `L` and `R`
  have hseq : scan.emptyTokens = some (L.length, 8 - (vl.length + (vr ++ ve).length)) := by
    cases hs : scan.emptyTokens with
    | none => exact absurd (show [] ∈ L ++ [] :: (R ++ E) by simp) (h.absent hs)
    | some seq =>
        obtain ⟨here, length⟩ := h.present seq hs
        refine congrArg some (Prod.ext (index_gap noEmptyL noEmptyR here) (length.trans ?_))
        rw [gapLength_eq (by omega), if_congr hquad₁ rfl rfl, hlength, List.length_append]
        split <;> omega
  refine ⟨scan, run, ?_, hseq, hquad₁⟩
  rw [checkTokens_eq, h.count, List.count_append, List.count_cons_self,
    List.count_eq_zero_of_not_mem noEmptyL, List.count_eq_zero_of_not_mem noEmptyR]
  exact if_pos ⟨by simp, by simp [hseq]⟩

/-- **An address with `::`**, which stands for as many zero groups as are missing. -/
theorem parseTokensV6_gap (hL : List.Forall₂ ReadsAs L vl) (hR : List.Forall₂ ReadsAs R vr)
    (hE : EndsAs E ve) (hlen : vl.length + (vr ++ ve).length ≤ 7) :
    ∃ ip, parseTokensV6 (L ++ [] :: (R ++ E)) = .ok ip ∧ (unpackV6 ip).toList =
      vl ++ List.replicate (8 - (vl.length + (vr ++ ve).length)) 0 ++ (vr ++ ve) := by
  obtain ⟨scan, run, check, hseq, hquad⟩ := scan_gap hL hR hE hlen
  have hlenL := hL.length_eq
  have hlenR := hR.length_eq
  have hlenE := hE.length_eq
  have hE₁ := hE.length_le
  rw [List.length_append] at hlen
  have hlength : (L ++ [] :: (R ++ E)).length = L.length + (R.length + 1 + E.length) := by
    simp only [List.length_append, List.length_cons]
    omega
  generalize hsize : (L ++ [] :: (R ++ E)).length = size at run check hlength
  have notGap : ∀ j, j ≠ L.length → scan.emptyTokens.map Prod.fst ≠ some j := by
    intro j hj hc
    rw [hseq] at hc
    exact hj (Option.some.inj hc).symm
  obtain ⟨ip₁, hp₁, run₁⟩ := @packTokens_groups size scan L vl hL
    ([] :: (R ++ E)) 0 (0, 0) [] Packs.nil (by rw [List.nil_append]; omega) (by omega)
    (fun j _ _ => notGap j (by omega)) (fun _ => ⟨by omega, by omega⟩)
  rw [List.nil_append, Nat.zero_add] at run₁
  rw [List.nil_append] at hp₁
  -- the gap writes nothing, since the groups it passes are zero already
  have hp₂ := hp₁.zeros (k := 8 - (vl.length + (vr ++ ve).length))
    (by rw [List.length_append]; omega)
  generalize hk : 8 - (vl.length + (vr ++ ve).length) = k at hseq hp₂ ⊢
  rw [List.length_append] at hk
  have gap := @packTokens_gap size scan L.length k hseq vl.length (by omega) [] (R ++ E) ip₁
  have length₂ : (vl ++ List.replicate k 0).length = vl.length + k := by simp
  rw [← length₂] at gap
  obtain ⟨ip₃, hp₃, run₃⟩ := @packTokens_groups size scan R vr hR E (L.length + 1) ip₁ _ hp₂
    (by simp only [List.length_append, List.length_replicate]; omega) (by omega)
    (fun j _ _ => notGap j (by omega)) (fun hq => ⟨by have := hquad.mp hq; omega, by omega⟩)
  obtain ⟨ip, run₄, hp₄⟩ := packTokens_end hE hp₃
    (by simp only [List.length_append, List.length_replicate]; omega)
    (show L.length + 1 + R.length + E.length = size by omega) (by omega)
    (notGap _ (by omega)) fun hne => hquad.mpr (by have := List.length_pos_iff.mpr hne; omega)
  refine ⟨ip, ?_, ?_⟩
  · rw [parseTokensV6, hsize, run]
    simp only [bind, Except.bind, check]
    exact run₁.trans (gap.trans (run₃.trans run₄))
  · rw [hp₄.toList_eq (by simp only [List.length_append, List.length_replicate]; omega),
      List.append_assoc _ vr ve]

end

/-! ### What a success tells -/

theorem checkTokens_ok {scan : TokenScan} (h : checkTokens size scan = .ok ()) :
    scan.emptyTokenCount ≤ 1 ∧ (scan.emptyTokens = none →
      size = if scan.isLastTokenIPv4 then maxTokensV6 - 1 else maxTokensV6) := by
  rw [checkTokens_eq] at h
  by_contra hc
  rw [if_neg hc] at h
  cases h

/-- What the parser found, when it did not throw. -/
theorem parseTokensV6_ok {tokens : List Text} {ip : ValueTypePackedV6}
    (h : parseTokensV6 tokens = .ok ip) (hsize : tokens.length < 2 ^ 64) :
    (∀ token ∈ tokens.dropLast, '.' ∉ token) ∧
    ∃ scan, ScanOf tokens.length tokens scan ∧ scanTokens tokens.length 0 tokens {} = .ok scan ∧
      checkTokens tokens.length scan = .ok () ∧
      packTokens tokens.length scan 0 tokens 0 (0, 0) = .ok ip := by
  rw [parseTokensV6] at h
  obtain ⟨scan, run, h⟩ := Outcome.bind_eq_ok.mp h
  obtain ⟨⟨⟩, check, pack⟩ := Outcome.bind_eq_ok.mp h
  rcases scanTokens_spec hsize ScanOf.nil (Nat.zero_add _) with
    ⟨-, run'⟩ | ⟨dots, scan', run', hscan⟩
  · exact absurd (run.symm.trans run') (by simp)
  · obtain rfl := Except.ok.inj (run'.symm.trans run)
    exact ⟨dots, scan', hscan, run, check, pack⟩

/-- The packing loop reads the dotted quad. -/
theorem packTokens_ok_quad {q : Text} (ts : List Text) : ∀ {st : PackState} {r : ValueTypePackedV6},
    packTokens size scan st.i (ts ++ [q]) st.packPosition st.ip = .ok r →
      st.i + ts.length + 1 = size → size < 2 ^ 64 → scan.isLastTokenIPv4 = true →
      scan.emptyTokens.map Prod.fst ≠ some (st.i + ts.length) → ∃ v, parseIPV4 q = .ok v := by
  induction ts with
  | nil =>
      -- at the last token: neither the gap nor a group in hexadecimal
      intro st r h hi hsize hquad hgap
      rw [List.length_nil, Nat.add_zero] at hi hgap
      have last : st.i = sizeSub size 1 := by
        rw [sizeSub_of_le (by omega) hsize]
        omega
      obtain ⟨st', turn, -⟩ := packTokens_eq_ok.mp h
      rcases packTurn_cases turn with ⟨length, here, -⟩ | ⟨-, -, -, v, ip, hv, -⟩ | ⟨-, group, -⟩
      · exact absurd (by rw [here, Option.map_some]) hgap
      · exact ⟨v, hv⟩
      · exact absurd ⟨last, hquad⟩ group
  | cons t ts ih =>
      intro st r h hi hsize hquad hgap
      rw [List.length_cons] at hi hgap
      obtain ⟨st', turn, h⟩ := packTokens_eq_ok.mp h
      have next : st'.i + ts.length = st.i + (ts.length + 1) := by
        rw [packTurn_index turn]
        omega
      exact ih h (by omega) hsize hquad (next ▸ hgap)

/-- A last token with a dot was read as an IPv4 address. -/
theorem parseTokensV6_ok_quad {front : List Text} {q : Text} {ip : ValueTypePackedV6}
    (h : parseTokensV6 (front ++ [q]) = .ok ip) (hdot : '.' ∈ q)
    (hsize : (front ++ [q]).length < 2 ^ 64) :
    (∃ v, parseIPV4 q = .ok v) ∧ ([] ∉ front → front.length = 6) := by
  obtain ⟨-, scan, hscan, -, check, pack⟩ := parseTokensV6_ok h hsize
  have hquad : scan.isLastTokenIPv4 = true := hscan.ipv4.mpr ⟨rfl, q, by simp, hdot⟩
  have hq : q ≠ [] := by
    rintro rfl
    cases hdot
  refine ⟨@packTokens_ok_quad _ _ _ front {} _ pack (by simp) hsize hquad ?_, fun hfront => ?_⟩
  · -- the empty token is not the last one
    intro hc
    obtain ⟨seq, hseq, hfirst⟩ := Option.map_eq_some_iff.mp hc
    have here := (hscan.present seq hseq).1
    rw [hfirst, Nat.zero_add, List.getElem?_append_right (Nat.le_refl _), Nat.sub_self] at here
    exact hq (Option.some.inj here)
  · have noGap : scan.emptyTokens = none := by
      refine Option.eq_none_iff_forall_not_mem.mpr fun seq hseq => ?_
      rcases List.mem_append.mp (List.mem_of_getElem? (hscan.present seq hseq).1) with hm | hm
      · exact hfront hm
      · exact hq (List.mem_singleton.mp hm).symm
    have := (checkTokens_ok check).2 noGap
    rw [hquad, if_pos rfl, maxTokensV6, List.length_append, List.length_singleton] at this
    omega

end NetworkInterface
