import NetworkInterface.Address.Parse

/-!
# Address — PackLoop

The packing loop, turn by turn.  `packTurn` is the body of the loop, and what it can do is said once
(`packTurn_cases`); `packTokens` takes a turn and goes on (`packTokens_cons`).
-/

namespace NetworkInterface

/-- The variables of the packing loop before a turn. -/
structure PackState where
  i : Nat := 0
  packPosition : Nat := 0
  ip : ValueTypePackedV6 := (0, 0)
  deriving DecidableEq

/-- The two calls of `packValue` for an embedded IPv4 address. -/
def packEmbedded (ip : ValueTypePackedV6) (ipv4 : ValueTypePackedV4) (packPosition : Nat) :
    Outcome ValueTypePackedV6 := do
  let ip ← packValue ip (ipv4 >>> 16).toUInt16 packPosition
  packValue ip (ipv4 &&& 0xFFFF).toUInt16 ((packPosition + 1) % 2 ^ 32)

/-- One turn of the packing loop, at token `st.i` of `size`. -/
def packTurn (size : Nat) (scan : TokenScan) (token : Text) (st : PackState) : Outcome PackState :=
  if scan.emptyTokens.map Prod.fst = some st.i then
    let length := (scan.emptyTokens.map Prod.snd).getD 0
    .ok ⟨st.i + 1, (st.packPosition + length % 2 ^ 32) % 2 ^ 32, st.ip⟩
  else if st.i = sizeSub size 1 ∧ scan.isLastTokenIPv4 then
    if st.packPosition = maxTokensV6 - 2 then do
      let ipv4 := packV4 (← parseIPV4 token)
      let ip ← packEmbedded st.ip ipv4 st.packPosition
      return ⟨st.i + 1, (st.packPosition + 2) % 2 ^ 32, ip⟩
    else .error (.assertion "packPosition == MaxTokensV6 - 2")
  else do
    let tokenValue ← convertFromString (cStr ('0' :: 'x' :: token))
    let ip ← packValue st.ip tokenValue st.packPosition
    return ⟨st.i + 1, (st.packPosition + 1) % 2 ^ 32, ip⟩

section
variable {scan : TokenScan} {st st' : PackState}

/-- **One turn**, when it does not throw: the empty token, the embedded IPv4 address at the end, or
a group. -/
theorem packTurn_cases {size : Nat} {token : Text} (h : packTurn size scan token st = .ok st') :
    (∃ length, scan.emptyTokens = some (st.i, length) ∧
      st' = ⟨st.i + 1, (st.packPosition + length % 2 ^ 32) % 2 ^ 32, st.ip⟩) ∨
    (scan.emptyTokens.map Prod.fst ≠ some st.i ∧
      (st.i = sizeSub size 1 ∧ scan.isLastTokenIPv4 = true) ∧ st.packPosition = 6 ∧
      ∃ v ip, parseIPV4 token = .ok v ∧ packEmbedded st.ip (packV4 v) st.packPosition = .ok ip ∧
        st' = ⟨st.i + 1, (st.packPosition + 2) % 2 ^ 32, ip⟩) ∨
    (scan.emptyTokens.map Prod.fst ≠ some st.i ∧
      ¬ (st.i = sizeSub size 1 ∧ scan.isLastTokenIPv4 = true) ∧
      ∃ v ip, convertFromString (cStr ('0' :: 'x' :: token)) = .ok v ∧
        packValue st.ip v st.packPosition = .ok ip ∧
        st' = ⟨st.i + 1, (st.packPosition + 1) % 2 ^ 32, ip⟩) := by
  rw [packTurn] at h
  by_cases hgap : scan.emptyTokens.map Prod.fst = some st.i
  · obtain ⟨⟨first, length⟩, hseq, rfl⟩ := Option.map_eq_some_iff.mp hgap
    rw [if_pos hgap, hseq] at h
    exact .inl ⟨length, hseq, (Except.ok.inj h).symm⟩
  rw [if_neg hgap] at h
  by_cases hlast : st.i = sizeSub size 1 ∧ scan.isLastTokenIPv4 = true
  · rw [if_pos hlast] at h
    by_cases hpos : st.packPosition = maxTokensV6 - 2
    · rw [if_pos hpos] at h
      obtain ⟨v, hv, h⟩ := Outcome.bind_eq_ok.mp h
      obtain ⟨ip, hip, h⟩ := Outcome.bind_eq_ok.mp h
      exact .inr (.inl ⟨hgap, hlast, hpos, v, ip, hv, hip, (Except.ok.inj h).symm⟩)
    · rw [if_neg hpos] at h
      cases h
  · rw [if_neg hlast] at h
    obtain ⟨v, hv, h⟩ := Outcome.bind_eq_ok.mp h
    obtain ⟨ip, hip, h⟩ := Outcome.bind_eq_ok.mp h
    exact .inr (.inr ⟨hgap, hlast, v, ip, hv, hip, (Except.ok.inj h).symm⟩)

theorem packTurn_index {size : Nat} {token : Text} (h : packTurn size scan token st = .ok st') :
    st'.i = st.i + 1 := by
  obtain ⟨_, -, rfl⟩ | ⟨-, -, -, _, _, -, -, rfl⟩ | ⟨-, -, _, _, -, -, rfl⟩ := packTurn_cases h
  · rfl
  · rfl
  · rfl

/-- The loop takes a turn, then goes on. -/
theorem packTokens_cons (size : Nat) (token : Text) (rest : List Text) (st : PackState) :
    packTokens size scan st.i (token :: rest) st.packPosition st.ip =
      packTurn size scan token st >>= fun st =>
        packTokens size scan st.i rest st.packPosition st.ip := by
  rw [packTokens, packTurn]
  split
  · rfl
  split
  · split
    · simp only [packEmbedded, bind_assoc, pure_bind]
    · rfl
  · simp only [bind_assoc, pure_bind]

theorem packTokens_eq_ok {size : Nat} {token : Text} {rest : List Text} {r : ValueTypePackedV6} :
    packTokens size scan st.i (token :: rest) st.packPosition st.ip = .ok r ↔
      ∃ st', packTurn size scan token st = .ok st' ∧
        packTokens size scan st'.i rest st'.packPosition st'.ip = .ok r := by
  rw [packTokens_cons, Outcome.bind_eq_ok]

end

end NetworkInterface
