import Mathlib.Data.List.TakeWhile
import NetworkInterface.Address.Total

/-!
# Address — Placement

How many groups an accepted IPv6 text writes, and where they go.

The positions the packing loop writes are followed on their own (`positionsWritten`), and the
result is what is written there, combined where two groups meet (`packTokens_writes`).  The number
of groups is only checked for a text with no empty token: with one, the length of the gap is
computed below zero and wraps, and the loop goes back over the groups it has packed.

`ofString_placed_iff`: the groups are the eight the text should have, in their places, exactly when
the text has no more colons than these leave room for.
-/

namespace NetworkInterface

/-! ### The groups of a text -/

/-- The groups a token is written for. -/
def groupCount (token : Text) : Nat := if '.' ∈ token then 2 else 1

/-- The groups a token is read as. -/
def tokenGroups (token : Text) : Outcome (List UInt16) := do
  if '.' ∈ token then return quadGroups (← parseIPV4 token)
  else return [← convertFromString (cStr ('0' :: 'x' :: token))]

def readGroups : List Text → Outcome (List UInt16)
  | [] => .ok []
  | token :: rest => do return (← tokenGroups token) ++ (← readGroups rest)

/-- The tokens in front of the empty one. -/
def tokensBefore (s : Text) : List Text := (s.splitOn ':').takeWhile (· ≠ [])

/-- The tokens behind the empty one. -/
def tokensAfter (s : Text) : List Text := ((s.splitOn ':').dropWhile (· ≠ [])).filter (· ≠ [])

/-- The number of groups written in a text. -/
def groupsWritten (s : Text) : Nat := (((s.splitOn ':').filter (· ≠ [])).map groupCount).sum

/-! ### The positions of a text -/

/-- The positions the packing loop writes, one for each group, in its order. -/
def positionsWritten (size : Nat) (scan : TokenScan) :
    (i : Nat) → List Text → (packPosition : Nat) → List Nat
  | _, [], _ => []
  | i, _ :: rest, packPosition =>
      if scan.emptyTokens.map Prod.fst = some i then
        let length := (scan.emptyTokens.map Prod.snd).getD 0
        positionsWritten size scan (i + 1) rest ((packPosition + length % 2 ^ 32) % 2 ^ 32)
      else if i = sizeSub size 1 ∧ scan.isLastTokenIPv4 then
        packPosition :: (packPosition + 1) % 2 ^ 32 ::
          positionsWritten size scan (i + 1) rest ((packPosition + 2) % 2 ^ 32)
      else
        packPosition :: positionsWritten size scan (i + 1) rest ((packPosition + 1) % 2 ^ 32)

/-- The positions the constructor writes. -/
def positionsOf (ipString : Text) : Outcome (List Nat) := do
  let tokensV6 ← tokenizeString ipString ':' true
  let tokensV6 ← eraseFirstToken tokensV6
  let tokensV6 ← eraseLastToken tokensV6
  let scan ← scanTokens tokensV6.length 0 tokensV6 {}
  return positionsWritten tokensV6.length scan 0 tokensV6 0

/-- The groups of the text are eight, or fewer where a token is empty, and in their places. -/
structure Placed (s : Text) (a : IPAddress) : Prop where
  type : a.type = .v6
  full : [] ∉ s.splitOn ':' → groupsWritten s = 8
  gap : [] ∈ s.splitOn ':' → groupsWritten s ≤ 7
  places : ∃ before after, readGroups (tokensBefore s) = .ok before ∧
    readGroups (tokensAfter s) = .ok after ∧
    a.ipv6.toList = before ++ List.replicate (8 - (before.length + after.length)) 0 ++ after
  once : ∃ positions, positionsOf s = .ok positions ∧ positions.Nodup

/-- The text has no more colons than eight groups leave room for, or seven and a gap. -/
def FewColons (s : Text) : Prop :=
  s.count ':' + (if '.' ∈ s then 1 else 0) ≤
    7 + (if [':', ':'] <+: s then 1 else 0) + (if [':', ':'] <:+ s then 1 else 0)

instance decidableFewColons (s : Text) : Decidable (FewColons s) :=
  inferInstanceAs (Decidable (_ ≤ _))

/-! ### What is written -/

variable {size : Nat} {scan : TokenScan}

theorem packValue_ok {ip r : ValueTypePackedV6} {v : UInt16} {n : Nat}
    (h : packValue ip v n = .ok r) :
    n < 8 ∧ ∀ i (hi : i < 8), (unpackV6 r)[i] = (unpackV6 ip)[i] ||| if i = n then v else 0 := by
  by_cases hn : n < 8
  · obtain ⟨ip', run, groups⟩ := packValue_or ip v hn
    obtain rfl := Except.ok.inj (run.symm.trans h)
    exact ⟨hn, groups⟩
  · rw [packValue, if_pos (show n ≥ maxTokensV6 from Nat.not_lt.mp hn)] at h
    cases h

/-- **One turn of the packing loop**, when it does not throw: the empty token, the dotted quad at
the end, or a group. -/
theorem packTokens_cases {i pos : Nat} {token : Text} {rest : List Text}
    {ip r : ValueTypePackedV6} (h : packTokens size scan i (token :: rest) pos ip = .ok r) :
    (scan.emptyTokens.map Prod.fst = some i ∧ packTokens size scan (i + 1) rest
      ((pos + (scan.emptyTokens.map Prod.snd).getD 0 % 2 ^ 32) % 2 ^ 32) ip = .ok r) ∨
    (scan.emptyTokens.map Prod.fst ≠ some i ∧ (i = sizeSub size 1 ∧ scan.isLastTokenIPv4 = true) ∧
      pos = 6 ∧ ∃ v ip₁ ip₂, parseIPV4 token = .ok v ∧
        packValue ip (packV4 v >>> 16).toUInt16 6 = .ok ip₁ ∧
        packValue ip₁ (packV4 v &&& 0xFFFF).toUInt16 7 = .ok ip₂ ∧
        packTokens size scan (i + 1) rest 8 ip₂ = .ok r) ∨
    (scan.emptyTokens.map Prod.fst ≠ some i ∧
      ¬ (i = sizeSub size 1 ∧ scan.isLastTokenIPv4 = true) ∧ pos < 8 ∧
      ∃ v ip₁, convertFromString (cStr ('0' :: 'x' :: token)) = .ok v ∧
        packValue ip v pos = .ok ip₁ ∧
        packTokens size scan (i + 1) rest (pos + 1) ip₁ = .ok r) := by
  obtain ⟨st, turn, h⟩ := (@packTokens_eq_ok scan ⟨i, pos, ip⟩ _ _ _ _).mp h
  rcases packTurn_cases turn with ⟨length, hseq, rfl⟩ | ⟨hgap, hquad, rfl, v, ip₂, hv, both, rfl⟩ |
    ⟨hgap, hquad, v, ip₁, hv, first, rfl⟩
  · rw [hseq]
    exact .inl ⟨rfl, h⟩
  · obtain ⟨ip₁, first, second⟩ := Outcome.bind_eq_ok.mp both
    exact .inr (.inl ⟨hgap, hquad, rfl, v, ip₁, ip₂, hv, first, second, h⟩)
  · have lt := (packValue_ok first).1
    dsimp only at h lt
    rw [Nat.mod_eq_of_lt (by omega)] at h
    exact .inr (.inr ⟨hgap, hquad, lt, v, ip₁, hv, first, h⟩)

/-- What group `i` is after the writes. -/
def combined (i : Nat) : List (Nat × UInt16) → UInt16 → UInt16
  | [], group => group
  | w :: writes, group => combined i writes (group ||| if i = w.1 then w.2 else 0)

/-- **The packing loop** combines a value with each group it writes. -/
theorem packTokens_writes {tokens : List Text} : ∀ {i pos : Nat} {ip r : ValueTypePackedV6},
    packTokens size scan i tokens pos ip = .ok r →
      (∀ p ∈ positionsWritten size scan i tokens pos, p < 8) ∧
      ∃ values, values.length = (positionsWritten size scan i tokens pos).length ∧
        ∀ j (hj : j < 8), (unpackV6 r)[j] =
          combined j ((positionsWritten size scan i tokens pos).zip values) (unpackV6 ip)[j] := by
  induction tokens with
  | nil =>
      rintro i pos ip r ⟨⟩
      exact ⟨nofun, [], rfl, fun _ _ => rfl⟩
  | cons token rest ih =>
      intro i pos ip r h
      rw [positionsWritten]
      rcases packTokens_cases h with ⟨hgap, h⟩ |
        ⟨hgap, hquad, rfl, v, ip₁, ip₂, -, first, second, h⟩ | ⟨hgap, hquad, -, v, ip₁, -, first, h⟩
      · rw [if_pos hgap]
        exact ih h
      · rw [if_neg hgap, if_pos hquad]
        obtain ⟨lt₁, groups₁⟩ := packValue_ok first
        obtain ⟨lt₂, groups₂⟩ := packValue_ok second
        obtain ⟨lt, values, length, groups⟩ := ih h
        refine ⟨List.forall_mem_cons.mpr ⟨lt₁, List.forall_mem_cons.mpr ⟨lt₂, lt⟩⟩,
          (packV4 v >>> 16).toUInt16 :: (packV4 v &&& 0xFFFF).toUInt16 :: values,
          congrArg (· + 2) length, fun j hj => ?_⟩
        rw [groups j hj, groups₂ j hj, groups₁ j hj]
        rfl
      · obtain ⟨lt₁, groups₁⟩ := packValue_ok first
        obtain ⟨lt, values, length, groups⟩ := ih h
        rw [if_neg hgap, if_neg hquad, Nat.mod_eq_of_lt (show pos + 1 < 2 ^ 32 by omega)]
        refine ⟨List.forall_mem_cons.mpr ⟨lt₁, lt⟩, v :: values, congrArg (· + 1) length,
          fun j hj => ?_⟩
        rw [groups j hj, groups₁ j hj]
        rfl

/-- Behind the empty token there is room for eight tokens. -/
theorem length_le_of_noGap {tokens : List Text} : ∀ {i pos : Nat} {ip r : ValueTypePackedV6},
    packTokens size scan i tokens pos ip = .ok r →
      (∀ j, i ≤ j → scan.emptyTokens.map Prod.fst ≠ some j) → tokens.length ≤ 8 - pos := by
  induction tokens with
  | nil => exact fun _ _ => Nat.zero_le _
  | cons token rest ih =>
      intro i pos ip r h hgap
      rw [List.length_cons]
      have later : ∀ j, i + 1 ≤ j → scan.emptyTokens.map Prod.fst ≠ some j :=
        fun j hj => hgap j (Nat.le_of_succ_le hj)
      rcases packTokens_cases h with ⟨here, -⟩ | ⟨-, -, rfl, v, ip₁, ip₂, -, -, -, h⟩ |
        ⟨-, -, lt, v, ip₁, -, -, h⟩
      · exact absurd here (hgap i (Nat.le_refl i))
      · have := ih h later
        omega
      · have := ih h later
        omega

/-- An accepted text has at most seventeen tokens. -/
theorem length_le_of_packTokens {tokens : List Text} : ∀ {i pos : Nat} {ip r : ValueTypePackedV6},
    packTokens size scan i tokens pos ip = .ok r → pos ≤ 8 → pos + tokens.length ≤ 17 := by
  induction tokens with
  | nil => exact fun _ hpos => by rw [List.length_nil]; omega
  | cons token rest ih =>
      intro i pos ip r h hpos
      rw [List.length_cons]
      rcases packTokens_cases h with ⟨here, h⟩ | ⟨-, -, rfl, v, ip₁, ip₂, -, -, -, h⟩ |
        ⟨-, -, lt, v, ip₁, -, -, h⟩
      · have := length_le_of_noGap h fun j hj hc => by
          have := Option.some.inj (here.symm.trans hc)
          omega
        omega
      · have := ih h (Nat.le_refl 8)
        omega
      · have := ih h (by omega)
        omega

/-- Positions that do not wrap are written in ascending order. -/
theorem positionsWritten_sorted {tokens : List Text}
    (hgap : (scan.emptyTokens.map Prod.snd).getD 0 ≤ 8) : ∀ {i pos : Nat},
      pos + 8 * tokens.length < 2 ^ 32 →
        (positionsWritten size scan i tokens pos).Pairwise (· < ·) ∧
          ∀ p ∈ positionsWritten size scan i tokens pos, pos ≤ p := by
  induction tokens with
  | nil => exact fun _ => ⟨.nil, nofun⟩
  | cons token rest ih =>
      intro i pos hpos
      rw [List.length_cons] at hpos
      rw [positionsWritten]
      split
      · dsimp only
        rw [Nat.mod_eq_of_lt (show (scan.emptyTokens.map Prod.snd).getD 0 < 2 ^ 32 by omega),
          Nat.mod_eq_of_lt (by omega)]
        obtain ⟨sorted, from'⟩ := @ih (i + 1)
          (pos + (scan.emptyTokens.map Prod.snd).getD 0) (by omega)
        exact ⟨sorted, fun p hp => (Nat.le_add_right _ _).trans (from' p hp)⟩
      split
      · rw [Nat.mod_eq_of_lt (show pos + 1 < 2 ^ 32 by omega), Nat.mod_eq_of_lt (by omega)]
        obtain ⟨sorted, from'⟩ := @ih (i + 1) (pos + 2) (by omega)
        simp only [List.pairwise_cons, List.forall_mem_cons]
        exact ⟨⟨⟨Nat.lt_succ_self _, fun p hp => Nat.lt_of_lt_of_le (by omega) (from' p hp)⟩,
          fun p hp => Nat.lt_of_lt_of_le (by omega) (from' p hp), sorted⟩,
          Nat.le_refl _, Nat.le_succ _, fun p hp => Nat.le_trans (by omega) (from' p hp)⟩
      · rw [Nat.mod_eq_of_lt (by omega)]
        obtain ⟨sorted, from'⟩ := @ih (i + 1) (pos + 1) (by omega)
        simp only [List.pairwise_cons, List.forall_mem_cons]
        exact ⟨⟨fun p hp => Nat.lt_of_lt_of_le (by omega) (from' p hp), sorted⟩,
          Nat.le_refl _, fun p hp => Nat.le_trans (by omega) (from' p hp)⟩

/-! ### The tokens of an accepted text -/

/-- Tokens that are read one by one are read as groups. -/
theorem exists_readsAs (tokens : List Text) (h : ∀ t ∈ tokens, ∃ v, ReadsAs t v) :
    ∃ vs, List.Forall₂ ReadsAs tokens vs := by
  induction tokens with
  | nil => exact ⟨[], .nil⟩
  | cons t tokens ih =>
      rw [List.forall_mem_cons] at h
      obtain ⟨v, hv⟩ := h.1
      obtain ⟨vs, hvs⟩ := ih h.2
      exact ⟨v :: vs, .cons hv hvs⟩

/-- What the packing loop passes over is the empty token, or is read. -/
theorem packTokens_reads {tokens rest : List Text} :
    ∀ {i pos : Nat} {ip r : ValueTypePackedV6},
      packTokens size scan i (tokens ++ rest) pos ip = .ok r → size < 2 ^ 64 →
      (scan.isLastTokenIPv4 = true → i + tokens.length < size) → ∀ k t, tokens[k]? = some t →
      scan.emptyTokens.map Prod.fst ≠ some (i + k) →
      ∃ v, convertFromString (cStr ('0' :: 'x' :: t)) = .ok v := by
  induction tokens with
  | nil => exact fun _ _ _ k t ht => absurd ht (by simp)
  | cons token tokens ih =>
      intro i pos ip r h hsize hlast k t ht hgap
      rw [List.length_cons] at hlast
      have next : ∀ {pos : Nat} {ip : ValueTypePackedV6} {k}, tokens[k]? = some t →
          scan.emptyTokens.map Prod.fst ≠ some (i + (k + 1)) →
          packTokens size scan (i + 1) (tokens ++ rest) pos ip = .ok r →
          ∃ v, convertFromString (cStr ('0' :: 'x' :: t)) = .ok v :=
        fun ht hgap h => ih h hsize (fun hq => by have := hlast hq; omega) _ _ ht
          (by rwa [Nat.add_right_comm, Nat.add_assoc])
      rcases packTokens_cases h with ⟨here, h⟩ | ⟨-, hquad, -⟩ | ⟨-, -, -, v, ip₁, hv, -, h⟩
      · cases k with
        | zero => exact absurd here hgap
        | succ k => exact next ht hgap h
      · have := hlast hquad.2
        rw [sizeSub_of_le (by omega) hsize] at hquad
        omega
      · cases k with
        | zero => exact ⟨v, Option.some.inj ht ▸ hv⟩
        | succ k => exact next ht hgap h

theorem length_le_of_parse {tokens : List Text} {ip : ValueTypePackedV6}
    (h : parseTokensV6 tokens = .ok ip) : tokens.length ≤ 17 := by
  rw [parseTokensV6] at h
  obtain ⟨scan, -, h⟩ := Outcome.bind_eq_ok.mp h
  obtain ⟨⟨⟩, -, h⟩ := Outcome.bind_eq_ok.mp h
  have := length_le_of_packTokens h (Nat.zero_le 8)
  omega

/-- The dotted quad at the end of an accepted text, if there is one. -/
theorem end_of_parse {tokens : List Text} {ip : ValueTypePackedV6}
    (h : parseTokensV6 tokens = .ok ip) (hcolon : ∀ t ∈ tokens, ':' ∉ t) :
    ∃ front E ve, tokens = front ++ E ∧ EndsAs E ve ∧ ∀ t ∈ front, '.' ∉ t := by
  have size := length_le_of_parse h
  have dots := (parseTokensV6_ok h (by omega)).1
  rcases List.eq_nil_or_concat tokens with rfl | ⟨front, last, rfl⟩
  · exact ⟨[], [], [], rfl, .nothing, fun t ht => absurd ht List.not_mem_nil⟩
  rw [List.concat_eq_append] at h hcolon dots ⊢
  rw [List.dropLast_concat] at dots
  by_cases hdot : '.' ∈ last
  · obtain ⟨v, hv⟩ := (parseTokensV6_ok_quad h hdot (by rw [← List.concat_eq_append]; omega)).1
    exact ⟨front, [last], quadGroups v, rfl, .quad hv hdot (hcolon last (by simp)), dots⟩
  · refine ⟨front ++ [last], [], [], by simp, .nothing, fun t ht => ?_⟩
    rcases List.mem_append.mp ht with ht | ht
    · exact dots t ht
    · exact List.mem_singleton.mp ht ▸ hdot

/-- **The tokens of an accepted text**: groups, at most one empty token among them, and at the end
a dotted quad or nothing. -/
theorem tokens_of_parse {tokens : List Text} {ip : ValueTypePackedV6}
    (h : parseTokensV6 tokens = .ok ip) (hcolon : ∀ t ∈ tokens, ':' ∉ t) :
    (∃ L E vl ve, tokens = L ++ E ∧ List.Forall₂ ReadsAs L vl ∧ EndsAs E ve ∧
      (vl ++ ve).length = 8) ∨
    ∃ L R E vl vr ve, tokens = L ++ [] :: (R ++ E) ∧ List.Forall₂ ReadsAs L vl ∧
      List.Forall₂ ReadsAs R vr ∧ EndsAs E ve := by
  have size := length_le_of_parse h
  obtain ⟨front, E, ve, rfl, hE, dots⟩ := end_of_parse h hcolon
  obtain ⟨-, scan, hscan, -, check, pack⟩ := parseTokensV6_ok h (by omega)
  obtain ⟨one, full⟩ := checkTokens_ok check
  have noEmptyE : [] ∉ E := fun hm => (hE.forall [] hm).1 rfl
  have quad : scan.isLastTokenIPv4 = true ↔ E ≠ [] := by
    rw [hscan.ipv4, and_iff_right rfl]
    cases hE with
    | nothing =>
        refine ⟨fun ⟨t, ht, hdot⟩ => absurd hdot (dots t ?_), fun hne => absurd rfl hne⟩
        simpa using List.mem_of_getLast? ht
    | @quad t _ _ hdot _ => exact ⟨fun _ => List.cons_ne_nil _ _, fun _ => ⟨t, by simp, hdot⟩⟩
  have lengthE : E.length = if scan.isLastTokenIPv4 then 1 else 0 := by
    cases hE with
    | nothing => rw [if_neg (fun hq => quad.mp hq rfl)]; rfl
    | quad => rw [if_pos (quad.mpr (List.cons_ne_nil _ _))]; rfl
  have reads : ∀ t ∈ front, t ≠ [] → ∃ v, ReadsAs t v := by
    intro t ht hne
    obtain ⟨k, hk⟩ := List.mem_iff_getElem?.mp ht
    have notGap : scan.emptyTokens.map Prod.fst ≠ some (0 + k) := by
      intro hc
      obtain ⟨seq, hseq, hfirst⟩ := Option.map_eq_some_iff.mp hc
      have here := (hscan.present seq hseq).1
      rw [hfirst, Nat.zero_add] at here
      rw [List.getElem?_append_left (List.getElem?_eq_some_iff.mp hk).1, hk] at here
      exact hne (Option.some.inj here)
    obtain ⟨v, hv⟩ := packTokens_reads pack (by omega)
      (fun hq => by rw [List.length_append, lengthE, if_pos hq]; omega) k t hk notGap
    exact ⟨v, hne, dots t ht, hcolon t (List.mem_append_left _ ht), hv⟩
  by_cases hempty : [] ∈ front
  · refine .inr ?_
    obtain ⟨L, R, rfl⟩ := List.append_of_mem hempty
    rw [hscan.count, List.append_assoc, List.cons_append, List.count_append,
      List.count_cons_self, List.count_append] at one
    have noEmptyL : [] ∉ L := List.count_eq_zero.mp (by omega)
    have noEmptyR : [] ∉ R := List.count_eq_zero.mp (by omega)
    obtain ⟨vl, hL⟩ := exists_readsAs L fun t ht =>
      reads t (List.mem_append_left _ ht) fun hc => noEmptyL (hc ▸ ht)
    obtain ⟨vr, hR⟩ := exists_readsAs R fun t ht =>
      reads t (List.mem_append_right _ (List.mem_cons_of_mem _ ht)) fun hc => noEmptyR (hc ▸ ht)
    exact ⟨L, R, E, vl, vr, ve, by simp, hL, hR, hE⟩
  · refine .inl ?_
    obtain ⟨vl, hL⟩ := exists_readsAs front fun t ht => reads t ht fun hc => hempty (hc ▸ ht)
    have noGap : scan.emptyTokens = none := by
      refine Option.eq_none_iff_forall_not_mem.mpr fun seq hseq => ?_
      rcases List.mem_append.mp (List.mem_of_getElem? (hscan.present seq hseq).1) with hm | hm
      · exact hempty hm
      · exact noEmptyE hm
    refine ⟨front, E, vl, ve, rfl, hL, hE, ?_⟩
    have := full noGap
    rw [List.length_append, lengthE, hL.length_eq] at this
    rw [List.length_append, hE.length_eq, lengthE]
    cases hq : scan.isLastTokenIPv4 <;> simp only [hq, maxTokensV6] at this ⊢ <;> simp at this ⊢ <;>
      omega

/-! ### The erased tokens -/

theorem length_eraseLastToken {tokens T : List Text} (h : eraseLastToken tokens = .ok T) :
    tokens.length ≤ T.length + 1 := by
  rw [eraseLastToken] at h
  obtain ⟨t, -, h⟩ := Outcome.bind_eq_ok.mp h
  split at h
  · obtain ⟨u, -, h⟩ := Outcome.bind_eq_ok.mp h
    split at h
    · obtain rfl := Except.ok.inj h
      rw [List.length_dropLast]
      omega
    · obtain rfl := Except.ok.inj h
      exact Nat.le_succ _
  · obtain rfl := Except.ok.inj h
    exact Nat.le_succ _

theorem eraseLastToken_spec (front : List Text) (t u : Text) (hlen : front.length + 2 < 2 ^ 64) :
    eraseLastToken (front ++ [t, u]) =
      .ok (if t = [] ∧ u = [] then front ++ [[]] else front ++ [t, u]) := by
  cases u with
  | nil =>
      cases t with
      | nil => exact eraseLastToken_gap front hlen
      | cons c t =>
          have last := tokenAt_last (front ++ [c :: t]) [] (by rw [List.length_append]; exact hlen)
          rw [List.append_assoc, List.singleton_append] at last
          rw [eraseLastToken, last]
          simp only [bind, Except.bind, tokenAt_beforeLast front _ _ hlen]
          rfl
  | cons c u =>
      have keep := eraseLastToken_concat (List.cons_ne_nil c u) (front ++ [t])
        (by rw [List.length_append]; exact hlen)
      rw [List.append_assoc, List.singleton_append] at keep
      rw [keep, if_neg (by simp)]

theorem exists_last_two {X : List Text} (h : 2 ≤ X.length) : ∃ front t u, X = front ++ [t, u] := by
  rcases List.eq_nil_or_concat X with rfl | ⟨X, u, rfl⟩
  · simp at h
  rcases List.eq_nil_or_concat X with rfl | ⟨X, t, rfl⟩
  · simp at h
  · exact ⟨X, t, u, by simp⟩

/-- Three tokens or more: the text starts with `::` when the first two are empty. -/
theorem prefix_iff_first {s : Text} {t u : Text} {rest : List Text}
    (hs : s.splitOn ':' = t :: u :: rest) (hrest : rest ≠ []) :
    [':', ':'] <+: s ↔ t = [] ∧ u = [] := by
  rw [prefix_iff, hs]
  constructor
  · rintro ⟨rest', -, heq⟩
    obtain ⟨ht, htail⟩ := List.cons.inj heq
    exact ⟨ht, (List.cons.inj htail).1⟩
  · rintro ⟨rfl, rfl⟩
    exact ⟨rest, hrest, rfl⟩

/-- Three tokens or more: the text ends with `::` when the last two are empty. -/
theorem suffix_iff_last {s : Text} {front : List Text} {t u : Text}
    (hs : s.splitOn ':' = front ++ [t, u]) (hfront : front ≠ []) :
    [':', ':'] <:+ s ↔ t = [] ∧ u = [] := by
  rw [suffix_iff, hs]
  constructor
  · rintro ⟨front', -, heq⟩
    simpa using List.append_inj_right' heq rfl
  · rintro ⟨rfl, rfl⟩
    exact ⟨front, hfront, rfl⟩

/-- The last token, once the first one is settled. -/
theorem eraseLastToken_ok_of_last {s : Text} {A front T : List Text} {t u : Text}
    (hs : s.splitOn ':' = A ++ (front ++ [t, u])) (hfront : A ++ front ≠ [])
    (h : eraseLastToken (front ++ [t, u]) = .ok T) (hlen : front.length + 2 < 2 ^ 64) :
    ∃ B, front ++ [t, u] = T ++ B ∧
      (¬ [':', ':'] <:+ s ∧ B = [] ∨ [':', ':'] <:+ s ∧ B = [[]] ∧ T.getLast? = some []) := by
  have hsuffix := suffix_iff_last (hs.trans (List.append_assoc A front _).symm) hfront
  rw [eraseLastToken_spec front t u hlen] at h
  obtain rfl := Except.ok.inj h
  by_cases hempty : t = [] ∧ u = []
  · rw [if_pos hempty, hempty.1, hempty.2]
    exact ⟨[[]], by simp, .inr ⟨hsuffix.mpr hempty, rfl, by simp⟩⟩
  · rw [if_neg hempty]
    exact ⟨[], by simp, .inl ⟨fun hc => hempty (hsuffix.mp hc), rfl⟩⟩

/-- Two tokens are too few for a `::` at an end. -/
theorem not_affix_of_two {s t u : Text} (hs : s.splitOn ':' = [t, u]) :
    ¬ [':', ':'] <+: s ∧ ¬ [':', ':'] <:+ s := by
  rw [prefix_iff, suffix_iff, hs]
  constructor
  · rintro ⟨rest, hrest, heq⟩
    exact hrest (List.cons.inj (List.cons.inj heq).2).2.symm
  · rintro ⟨front, hfront, heq⟩
    have length := congrArg List.length heq
    rw [List.length_append] at length
    exact hfront (by simpa using length)

/-- The tokens of an accepted text, behind and in front of those that were erased. -/
theorem erase_ok {s : Text} {T : List Text} (h2 : 2 ≤ (s.splitOn ':').length)
    (h : (eraseFirstToken (s.splitOn ':') >>= eraseLastToken) = .ok T) (hlen : T.length ≤ 17) :
    ∃ A B, s.splitOn ':' = A ++ T ++ B ∧
      (¬ [':', ':'] <+: s ∧ A = [] ∨ [':', ':'] <+: s ∧ A = [[]] ∧ T.head? = some []) ∧
      (¬ [':', ':'] <:+ s ∧ B = [] ∨ [':', ':'] <:+ s ∧ B = [[]] ∧ T.getLast? = some []) := by
  obtain ⟨T₁, hfirst, hlast⟩ := Outcome.bind_eq_ok.mp h
  have size := length_eraseLastToken hlast
  obtain ⟨t, tail, hs⟩ := List.exists_cons_of_length_pos (Nat.lt_of_succ_lt h2)
  obtain ⟨u, rest, rfl⟩ := List.exists_cons_of_length_pos (show 0 < tail.length by
    rw [hs, List.length_cons] at h2
    omega)
  rw [hs, eraseFirstToken_spec] at hfirst
  by_cases hempty : t = [] ∧ u = []
  · obtain ⟨rfl, rfl⟩ := hempty
    rw [if_pos ⟨rfl, rfl⟩] at hfirst
    obtain rfl := Except.ok.inj hfirst
    have hrest : rest ≠ [] := by
      rintro rfl
      cases hlast
    have two : 2 ≤ ([] :: rest).length := Nat.succ_le_succ (List.length_pos_iff.mpr hrest)
    obtain ⟨front, a, b, heq⟩ := exists_last_two two
    rw [heq] at hlast size
    rw [List.length_append, List.length_cons, List.length_singleton] at size
    obtain ⟨B, hB, hsuffix⟩ := @eraseLastToken_ok_of_last s [[]] front T a b
      (by rw [hs, ← heq]; rfl) (by simp) hlast (by omega)
    rw [← heq] at hB
    refine ⟨[[]], B, by rw [hs, List.append_assoc, ← hB]; rfl,
      .inr ⟨(prefix_iff_first hs hrest).mpr ⟨rfl, rfl⟩, rfl, ?_⟩, hsuffix⟩
    -- what is erased at the end is not the empty token at the start
    cases T with
    | nil =>
        have := congrArg List.length hB
        rcases hsuffix with ⟨-, rfl⟩ | ⟨-, rfl, hl⟩
        · simp at this
        · cases hl
    | cons t T => rw [List.cons_append] at hB; rw [← (List.cons.inj hB).1]; rfl
  rw [if_neg hempty] at hfirst
  obtain rfl := Except.ok.inj hfirst
  by_cases hrest : rest = []
  · subst hrest
    have keep := eraseLastToken_spec [] t u (by decide)
    rw [List.nil_append, if_neg hempty] at keep
    obtain rfl := Except.ok.inj (keep.symm.trans hlast)
    obtain ⟨noPrefix, noSuffix⟩ := not_affix_of_two hs
    exact ⟨[], [], by simp [hs], .inl ⟨noPrefix, rfl⟩, .inl ⟨noSuffix, rfl⟩⟩
  · have noPrefix : ¬ [':', ':'] <+: s := fun hc => hempty ((prefix_iff_first hs hrest).mp hc)
    have two : 2 ≤ (t :: u :: rest).length := by simp
    obtain ⟨front, a, b, heq⟩ := exists_last_two two
    have hfront : front ≠ [] := by
      rintro rfl
      exact hrest (List.cons.inj (List.cons.inj heq).2).2
    rw [heq] at hs hlast size
    rw [List.length_append, List.length_cons, List.length_singleton] at size
    obtain ⟨B, hB, hsuffix⟩ :=
      @eraseLastToken_ok_of_last s [] front T a b hs hfront hlast (by omega)
    exact ⟨[], B, by rw [hs, hB]; rfl, .inl ⟨noPrefix, rfl⟩, hsuffix⟩

section
variable {p q : Prop} {A B T L R : List Text}

/-- Nothing is erased at either end of tokens that are not empty. -/
theorem erased_nil (hA : ¬ p ∧ A = [] ∨ p ∧ A = [[]] ∧ T.head? = some [])
    (hB : ¬ q ∧ B = [] ∨ q ∧ B = [[]] ∧ T.getLast? = some []) (h : [] ∉ T) :
    A = [] ∧ B = [] := by
  constructor
  · rcases hA with ⟨-, hA⟩ | ⟨-, -, hhead⟩
    · exact hA
    · exact absurd (List.mem_of_head? hhead) h
  · rcases hB with ⟨-, hB⟩ | ⟨-, -, hlast⟩
    · exact hB
    · exact absurd (List.mem_of_getLast? hlast) h

/-- What is erased at the start stands before the gap. -/
theorem erased_left (hA : ¬ p ∧ A = [] ∨ p ∧ A = [[]] ∧ (L ++ [] :: R).head? = some [])
    (hL : [] ∉ L) : A = [] ∨ A = [[]] ∧ L = [] := by
  rcases hA with ⟨-, hA⟩ | ⟨-, hA, hhead⟩
  · exact .inl hA
  · refine .inr ⟨hA, ?_⟩
    cases L with
    | nil => rfl
    | cons t L => exact absurd (Option.some.inj hhead ▸ List.mem_cons_self) hL

/-- What is erased at the end stands behind it. -/
theorem erased_right (hB : ¬ q ∧ B = [] ∨ q ∧ B = [[]] ∧ (L ++ [] :: R).getLast? = some [])
    (hR : [] ∉ R) : B = [] ∨ B = [[]] ∧ R = [] := by
  rcases hB with ⟨-, hB⟩ | ⟨-, hB, hlast⟩
  · exact .inl hB
  · refine .inr ⟨hB, ?_⟩
    rcases List.eq_nil_or_concat R with rfl | ⟨R, t, rfl⟩
    · rfl
    · rw [List.concat_eq_append, ← List.cons_append, ← List.append_assoc,
        List.getLast?_concat] at hlast
      rw [List.concat_eq_append, ← Option.some.inj hlast] at hR
      exact absurd (by simp) hR

end

/-! ### The groups read -/

theorem readGroups_append {l m : List Text} {vl vm : List UInt16} (hl : readGroups l = .ok vl)
    (hm : readGroups m = .ok vm) : readGroups (l ++ m) = .ok (vl ++ vm) := by
  induction l generalizing vl with
  | nil =>
      obtain rfl := Except.ok.inj hl
      exact hm
  | cons t l ih =>
      obtain ⟨vt, ht, hl⟩ := Outcome.bind_eq_ok.mp hl
      obtain ⟨vs, hs, hl⟩ := Outcome.bind_eq_ok.mp hl
      obtain rfl := Except.ok.inj hl
      rw [List.cons_append, readGroups, ht, ih hs, List.append_assoc]
      rfl

theorem readGroups_of_readsAs {L : List Text} {vl : List UInt16} (h : List.Forall₂ ReadsAs L vl) :
    readGroups L = .ok vl := by
  induction h with
  | nil => rfl
  | cons ht _ ih =>
      rw [readGroups, tokenGroups, if_neg ht.noDot, ht.reads, ih]
      rfl

theorem readGroups_of_endsAs {E : List Text} {ve : List UInt16} (h : EndsAs E ve) :
    readGroups E = .ok ve := by
  cases h with
  | nothing => rfl
  | quad ht hdot _ =>
      rw [readGroups, tokenGroups, if_pos hdot, ht]
      rfl

/-- The groups written, counted token by token. -/
theorem groupCount_sum {L E : List Text} {vl ve : List UInt16} (hL : List.Forall₂ ReadsAs L vl)
    (hE : EndsAs E ve) : ((L ++ E).map groupCount).sum = L.length + 2 * E.length := by
  have left : (L.map groupCount).sum = L.length := by
    induction hL with
    | nil => rfl
    | cons ht _ ih =>
        rw [List.map_cons, List.sum_cons, ih, groupCount, if_neg ht.noDot, List.length_cons,
          Nat.add_comm]
  have right : (E.map groupCount).sum = 2 * E.length := by
    cases hE with
    | nothing => rfl
    | quad _ hdot _ => simp [groupCount, hdot]
  rw [List.map_append, List.sum_append, left, right]

/-! ### The places -/

section
variable {s : Text} {A B L R E : List Text} {vl vr ve : List UInt16}

/-- A text without an empty token. -/
theorem tokens_full (hs : s.splitOn ':' = L ++ E) (hL : List.Forall₂ ReadsAs L vl)
    (hE : EndsAs E ve) : [] ∉ s.splitOn ':' ∧ tokensBefore s = L ++ E ∧ tokensAfter s = [] ∧
      groupsWritten s = L.length + 2 * E.length := by
  have noEmpty : ∀ t ∈ L ++ E, t ≠ [] := by
    rw [List.forall_mem_append]
    exact ⟨fun t ht => (ReadsAs.forall hL t ht).1, fun t ht => (hE.forall t ht).1⟩
  have keep : ∀ t ∈ L ++ E, decide (t ≠ []) = true := fun t ht => decide_eq_true (noEmpty t ht)
  rw [tokensBefore, tokensAfter, groupsWritten, hs, List.filter_eq_self.mpr keep,
    groupCount_sum hL hE, List.takeWhile_eq_self_iff.mpr keep, List.dropWhile_eq_nil_iff.mpr keep]
  exact ⟨fun hm => noEmpty _ hm rfl, rfl, rfl, rfl⟩

/-- A text with an empty token, and those that were erased next to it. -/
theorem tokens_gap (hs : s.splitOn ':' = A ++ (L ++ [] :: (R ++ E)) ++ B)
    (hL : List.Forall₂ ReadsAs L vl) (hR : List.Forall₂ ReadsAs R vr) (hE : EndsAs E ve)
    (hA : A = [] ∨ A = [[]] ∧ L = []) (hB : B = [] ∨ B = [[]]) :
    [] ∈ s.splitOn ':' ∧ tokensBefore s = L ∧ tokensAfter s = R ++ E ∧
      groupsWritten s = L.length + R.length + 2 * E.length := by
  have keepL : ∀ t ∈ L, decide (t ≠ []) = true := fun t ht =>
    decide_eq_true (ReadsAs.forall hL t ht).1
  have keepR : ∀ t ∈ R ++ E, decide (t ≠ []) = true := by
    rw [List.forall_mem_append]
    exact ⟨fun t ht => decide_eq_true (ReadsAs.forall hR t ht).1,
      fun t ht => decide_eq_true (hE.forall t ht).1⟩
  have filterB : B.filter (fun t => decide (t ≠ [])) = [] := by
    rcases hB with rfl | rfl <;> rfl
  have filterR : (R ++ E ++ B).filter (fun t => decide (t ≠ [])) = R ++ E := by
    rw [List.filter_append, filterB, List.append_nil, List.filter_eq_self.mpr keepR]
  have count : groupsWritten s = L.length + R.length + 2 * E.length := by
    have left := groupCount_sum hL .nothing
    have right := groupCount_sum hR hE
    have all : (s.splitOn ':').filter (fun t => decide (t ≠ [])) = L ++ (R ++ E) := by
      have filterA : A.filter (fun t => decide (t ≠ [])) = [] := by
        rcases hA with rfl | ⟨rfl, -⟩ <;> rfl
      rw [hs, List.append_assoc, List.append_assoc, List.filter_append, filterA, List.filter_append,
        List.filter_eq_self.mpr keepL, List.cons_append, List.filter_cons_of_neg (by simp), filterR]
      rfl
    rw [List.append_nil, List.length_nil, Nat.mul_zero, Nat.add_zero] at left
    rw [groupsWritten, all, List.map_append, List.sum_append, left, right, Nat.add_assoc]
  refine ⟨by rw [hs]; simp, ?_, ?_, count⟩
  · rw [tokensBefore, hs]
    rcases hA with rfl | ⟨rfl, rfl⟩
    · rw [List.nil_append, List.append_assoc, List.takeWhile_append_of_pos keepL]
      simp
    · rfl
  · rw [tokensAfter, hs]
    rcases hA with rfl | ⟨rfl, rfl⟩
    · rw [List.nil_append, List.append_assoc, List.dropWhile_append_of_pos keepL, List.cons_append,
        List.dropWhile_cons_of_neg (by simp), List.filter_cons_of_neg (by simp), filterR]
    · rw [List.nil_append, List.append_assoc, List.singleton_append,
        List.dropWhile_cons_of_neg (by simp), List.filter_cons_of_neg (by simp), List.cons_append,
        List.filter_cons_of_neg (by simp), filterR]

end

/-- The positions of an accepted text with at most eight tokens are written once. -/
theorem positions_once {T : List Text} {ip : ValueTypePackedV6} (h : parseTokensV6 T = .ok ip)
    (hgap : [] ∈ T → T.length ≤ 8) : ∃ scan, scanTokens T.length 0 T {} = .ok scan ∧
      (positionsWritten T.length scan 0 T 0).Nodup := by
  have size := length_le_of_parse h
  obtain ⟨-, scan, hscan, run, -, -⟩ := parseTokensV6_ok h (by omega)
  have gap : (scan.emptyTokens.map Prod.snd).getD 0 ≤ 8 := by
    cases hseq : scan.emptyTokens with
    | none => exact Nat.zero_le 8
    | some seq =>
        obtain ⟨here, length⟩ := hscan.present seq hseq
        have := gapLength_eq (hgap (List.mem_of_getElem? here)) scan.isLastTokenIPv4
        rw [Option.map_some, Option.getD_some, length, this]
        have := List.length_pos_iff.mpr (List.ne_nil_of_mem (List.mem_of_getElem? here))
        omega
  refine ⟨scan, run, ?_⟩
  exact (positionsWritten_sorted gap (by omega)).1.imp Nat.ne_of_lt

theorem positionsOf_eq {s : Text} {T : List Text} {scan : TokenScan}
    (h : (eraseFirstToken (s.splitOn ':') >>= eraseLastToken) = .ok T)
    (hscan : scanTokens T.length 0 T {} = .ok scan) :
    positionsOf s = .ok (positionsWritten T.length scan 0 T 0) := by
  obtain ⟨T₁, hfirst, hlast⟩ := Outcome.bind_eq_ok.mp h
  rw [positionsOf, tokenizeString_eq s (by simp), kept_true]
  simp only [bind, Except.bind, hfirst, hlast, hscan]
  rfl

/-- The constructor at a text with a colon, taken apart. -/
theorem ofString_colon {s : Text} (hcolon : ':' ∈ s) {a : IPAddress}
    (h : IPAddress.ofString s = .ok a) : 2 ≤ (s.splitOn ':').length ∧ ∃ T ip,
      (eraseFirstToken (s.splitOn ':') >>= eraseLastToken) = .ok T ∧ parseTokensV6 T = .ok ip ∧
      a = .ofV6 (unpackV6 ip) := by
  have two : 2 ≤ (s.splitOn ':').length := by
    rw [length_splitOn]
    exact Nat.succ_le_succ (List.count_pos_iff.mpr hcolon)
  refine ⟨two, ?_⟩
  rw [IPAddress.ofString, tokenizeString_eq s (by simp), kept_true] at h
  obtain ⟨_, htokens, h⟩ := Outcome.bind_eq_ok.mp h
  obtain rfl := Except.ok.inj htokens
  rw [if_pos two] at h
  obtain ⟨T₁, hfirst, h⟩ := Outcome.bind_eq_ok.mp h
  obtain ⟨T, hlast, h⟩ := Outcome.bind_eq_ok.mp h
  obtain ⟨ip, hparse, h⟩ := Outcome.bind_eq_ok.mp h
  exact ⟨T, ip, Outcome.bind_eq_ok.mpr ⟨T₁, hfirst, hlast⟩, hparse, (Except.ok.inj h).symm⟩

section
variable {s : Text} {A B F L R E : List Text} {vl vr ve : List UInt16} {ip : ValueTypePackedV6}

/-- The only dots are in the quad. -/
theorem dots_eq (hs : s.splitOn ':' = A ++ (F ++ E) ++ B) (hA : A = [] ∨ A = [[]])
    (hB : B = [] ∨ B = [[]]) (hF : ∀ t ∈ F, '.' ∉ t) (hE : EndsAs E ve) :
    (if '.' ∈ s then 1 else 0) = E.length := by
  have erased : ∀ t ∈ A ++ B, '.' ∉ t := by
    rcases hA with rfl | rfl <;> rcases hB with rfl | rfl <;> simp
  have dot : '.' ∈ s ↔ ∃ t ∈ E, '.' ∈ t := by
    rw [mem_splitOn_iff (show '.' ≠ ':' by decide) s, hs]
    simp only [List.mem_append] at erased ⊢
    constructor
    · rintro ⟨t, (ht | ht | ht) | ht, hdot⟩
      · exact absurd hdot (erased t (.inl ht))
      · exact absurd hdot (hF t ht)
      · exact ⟨t, ht, hdot⟩
      · exact absurd hdot (erased t (.inr ht))
    · rintro ⟨t, ht, hdot⟩
      exact ⟨t, .inl (.inr (.inr ht)), hdot⟩
  cases hE with
  | nothing =>
      rw [if_neg (by rw [dot]; simp)]
      rfl
  | quad _ hdot _ =>
      rw [if_pos (dot.mpr ⟨_, List.mem_singleton_self _, hdot⟩)]
      rfl

/-- Without an empty token the sanity check asks for eight groups. -/
theorem placed_full (hs : s.splitOn ':' = L ++ E) (hL : List.Forall₂ ReadsAs L vl)
    (hE : EndsAs E ve) (hlen : (vl ++ ve).length = 8)
    (herase : (eraseFirstToken (s.splitOn ':') >>= eraseLastToken) = .ok (L ++ E))
    (hparse : parseTokensV6 (L ++ E) = .ok ip) :
    Placed s (.ofV6 (unpackV6 ip)) ∧ s.count ':' + (if '.' ∈ s then 1 else 0) = 7 := by
  have count := length_splitOn ':' s
  have dots := dots_eq (A := []) (B := []) (by rw [hs]; simp) (.inl rfl) (.inl rfl)
    (fun t ht => (ReadsAs.forall hL t ht).2.1) hE
  obtain ⟨noGap, before, after, written⟩ := tokens_full hs hL hE
  obtain ⟨ip', hparse', groups⟩ := parseTokensV6_full hL hE hlen
  obtain rfl := Except.ok.inj (hparse.symm.trans hparse')
  obtain ⟨scan, hscan, once⟩ := positions_once hparse fun hm => absurd (hs ▸ hm) noGap
  rw [List.length_append, ← hL.length_eq, hE.length_eq] at hlen
  rw [hs, List.length_append] at count
  refine ⟨⟨IPAddress.type_ofV6 _, fun _ => written.trans hlen,
    fun hm => absurd hm noGap, ⟨vl ++ ve, [], ?_, ?_, ?_⟩, _, positionsOf_eq herase hscan, once⟩,
    by omega⟩
  · rw [before]
    exact readGroups_append (readGroups_of_readsAs hL) (readGroups_of_endsAs hE)
  · rw [after]
    rfl
  · rw [IPAddress.ipv6_ofV6, groups, List.length_append, ← hL.length_eq,
      hE.length_eq, hlen]
    simp

/-- With an empty token the groups are in their places when there are at most seven. -/
theorem placed_gap (hs : s.splitOn ':' = A ++ (L ++ [] :: (R ++ E)) ++ B)
    (hL : List.Forall₂ ReadsAs L vl) (hR : List.Forall₂ ReadsAs R vr) (hE : EndsAs E ve)
    (hA : A = [] ∨ A = [[]] ∧ L = []) (hB : B = [] ∨ B = [[]])
    (herase : (eraseFirstToken (s.splitOn ':') >>= eraseLastToken) = .ok (L ++ [] :: (R ++ E)))
    (hparse : parseTokensV6 (L ++ [] :: (R ++ E)) = .ok ip) :
    Placed s (.ofV6 (unpackV6 ip)) ↔ L.length + R.length + 2 * E.length ≤ 7 := by
  obtain ⟨hgap, before, after, written⟩ := tokens_gap hs hL hR hE hA hB
  refine ⟨fun hplaced => written ▸ hplaced.gap hgap, fun hle => ?_⟩
  have lengths : vl.length + (vr ++ ve).length = L.length + R.length + 2 * E.length := by
    rw [List.length_append, ← hL.length_eq, ← hR.length_eq, hE.length_eq, Nat.add_assoc]
  obtain ⟨ip', hparse', groups⟩ := parseTokensV6_gap hL hR hE (by rw [lengths]; exact hle)
  obtain rfl := Except.ok.inj (hparse.symm.trans hparse')
  obtain ⟨scan, hscan, once⟩ := positions_once hparse fun _ => by
    simp only [List.length_append, List.length_cons]
    omega
  refine ⟨IPAddress.type_ofV6 _, fun hm => absurd hgap hm, fun _ => written ▸ hle,
    ⟨vl, vr ++ ve, ?_, ?_, ?_⟩, _, positionsOf_eq herase hscan, once⟩
  · rw [before]
    exact readGroups_of_readsAs hL
  · rw [after]
    exact readGroups_append (readGroups_of_readsAs hR) (readGroups_of_endsAs hE)
  · rw [IPAddress.ipv6_ofV6, groups]

end

/-- **Placement**: an accepted text with a colon writes the groups it should have, each at its
place, exactly when it has no more colons than these leave room for. -/
theorem ofString_placed_iff {s : Text} (hcolon : ':' ∈ s) {a : IPAddress}
    (h : IPAddress.ofString s = .ok a) : Placed s a ↔ FewColons s := by
  obtain ⟨two, T, ip, herase, hparse, rfl⟩ := ofString_colon hcolon h
  obtain ⟨A, B, hs, hA, hB⟩ := erase_ok two herase (length_le_of_parse hparse)
  have clean : ∀ t ∈ T, ':' ∉ t := fun t ht =>
    not_mem_of_mem_splitOn (s := s) (by rw [hs]; simp [ht])
  have lengthA : A.length = if [':', ':'] <+: s then 1 else 0 := by
    rcases hA with ⟨hp, rfl⟩ | ⟨hp, rfl, -⟩
    · rw [if_neg hp]; rfl
    · rw [if_pos hp]; rfl
  have lengthB : B.length = if [':', ':'] <:+ s then 1 else 0 := by
    rcases hB with ⟨hp, rfl⟩ | ⟨hp, rfl, -⟩
    · rw [if_neg hp]; rfl
    · rw [if_pos hp]; rfl
  rw [FewColons, ← lengthA, ← lengthB]
  rcases tokens_of_parse hparse clean with
    ⟨L, E, vl, ve, rfl, hL, hE, hlen⟩ | ⟨L, R, E, vl, vr, ve, rfl, hL, hR, hE⟩
  · -- no empty token, so that none was erased next to it
    have full : [] ∉ L ++ E := by
      rw [List.mem_append, not_or]
      exact ⟨fun hm => (ReadsAs.forall hL [] hm).1 rfl, fun hm => (hE.forall [] hm).1 rfl⟩
    obtain ⟨rfl, rfl⟩ := erased_nil hA hB full
    rw [List.nil_append, List.append_nil] at hs
    obtain ⟨placed, count⟩ := placed_full hs hL hE hlen herase hparse
    exact iff_of_true placed (by omega)
  · -- with an empty token, nothing checks the number of groups
    have atA := erased_left hA fun hm => (ReadsAs.forall hL [] hm).1 rfl
    have atB : B = [] ∨ B = [[]] := hB.imp And.right fun h => h.2.1
    have dots := dots_eq (F := L ++ [] :: R) (by rw [hs]; simp) (atA.imp id And.left) atB (by
      simp only [List.forall_mem_append, List.forall_mem_cons]
      exact ⟨fun t ht => (ReadsAs.forall hL t ht).2.1, List.not_mem_nil,
        fun t ht => (ReadsAs.forall hR t ht).2.1⟩) hE
    have count := length_splitOn ':' s
    rw [hs] at count
    simp only [List.length_append, List.length_cons] at count
    rw [placed_gap hs hL hR hE atA atB herase hparse, dots]
    omega

/-- An accepted text with a gap. -/
theorem ofString_placed_iff_short :
    Placed "1::2".toList (.ofV6 #v[1, 0, 0, 0, 0, 0, 0, 2]) ↔ FewColons "1::2".toList :=
  ofString_placed_iff (by decide) (by decide)

/-- A gap of no groups is accepted, and two times eight groups are, one half written over the
other. -/
theorem ofString_not_placed :
    (∃ a, IPAddress.ofString "1:2:3:4::5:6:7:8".toList = .ok a ∧
      ¬ Placed "1:2:3:4::5:6:7:8".toList a) ∧
    ∃ a, IPAddress.ofString "1:2:3:4:5:6:7:8::9:9:9:9:9:9:9:9".toList = .ok a ∧
      ¬ Placed "1:2:3:4:5:6:7:8::9:9:9:9:9:9:9:9".toList a := by
  refine ⟨⟨.ofV6 #v[1, 2, 3, 4, 5, 6, 7, 8], by decide, fun h => ?_⟩,
    .ofV6 #v[9, 11, 11, 13, 13, 15, 15, 9], by decide, fun h => ?_⟩
  · exact absurd (h.gap (by decide)) (by decide)
  · exact absurd (h.gap (by decide)) (by decide)

end NetworkInterface
