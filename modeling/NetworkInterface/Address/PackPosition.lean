import NetworkInterface.Address.Total
import NetworkInterface.Support.Runs

/-!
# Address — PackPosition

The assertion of the packing loop.  The loop is followed turn by turn (`packTurn`), from the tokens
and the scan the constructor enters it with (`EntersLoop`); `packTokens` is its repetition
(`packFrom_of_reaches`).

The length of the gap may have wrapped below zero, and is narrowed to 32 bits before it is added.
In every state reached the position is still what the index and the gap make it, modulo `2 ^ 32`
(`packPosition_of_reaches`), so that it is six where an embedded IPv4 address is read
(`packPosition_embedded`).
-/

namespace NetworkInterface
open Support
open Support.Runs (Reaches Steps exec reaches_of_exec)

/-- The turn at `token`, if that is the next token and the turn does not throw. -/
def packNext (tokens : List Text) (scan : TokenScan) (st : PackState) (token : Text) :
    Option PackState :=
  if tokens[st.i]? = some token then (packTurn tokens.length scan token st).toOption else none

/-- The loop from `st` on. -/
def packFrom (tokens : List Text) (scan : TokenScan) (st : PackState) : Outcome ValueTypePackedV6 :=
  packTokens tokens.length scan st.i (tokens.drop st.i) st.packPosition st.ip

/-- The constructor enters the packing loop, with these tokens and what the scan found. -/
def EntersLoop (s : Text) (tokens : List Text) (scan : TokenScan) : Prop :=
  ∃ tokensV6 tokens₁, tokenizeString s ':' true = .ok tokensV6 ∧ 2 ≤ tokensV6.length ∧
    eraseFirstToken tokensV6 = .ok tokens₁ ∧ eraseLastToken tokens₁ = .ok tokens ∧
    scanTokens tokens.length 0 tokens {} = .ok scan ∧ checkTokens tokens.length scan = .ok ()

/-- The next turn is at the branch for the embedded IPv4 address. -/
def AtEmbedded (tokens : List Text) (scan : TokenScan) (st : PackState) : Prop :=
  st.i < tokens.length ∧ scan.emptyTokens.map Prod.fst ≠ some st.i ∧
    st.i = sizeSub tokens.length 1 ∧ scan.isLastTokenIPv4 = true

/-! ### The loop and the constructor -/

section
variable {s : Text} {tokens : List Text} {scan : TokenScan} {st st' : PackState}

theorem packNext_eq_some {token : Text} : packNext tokens scan st token = some st' ↔
    tokens[st.i]? = some token ∧ packTurn tokens.length scan token st = .ok st' := by
  rw [packNext, Option.ite_none_right_eq_some]
  refine and_congr_right fun _ => ?_
  cases packTurn tokens.length scan token st with
  | error e => simp [Except.toOption]
  | ok a => simp [Except.toOption]

theorem packFrom_next {token : Text} (h : packNext tokens scan st token = some st') :
    packFrom tokens scan st = packFrom tokens scan st' := by
  obtain ⟨htoken, hturn⟩ := packNext_eq_some.mp h
  obtain ⟨hi, rfl⟩ := List.getElem?_eq_some_iff.mp htoken
  rw [packFrom, packFrom, List.drop_eq_getElem_cons hi, packTokens_cons, hturn,
    ← packTurn_index hturn]
  rfl

/-- From a state it reaches, the loop goes on as it does from the start. -/
theorem packFrom_of_reaches (h : Reaches (Steps (packNext tokens scan)) {} st) :
    packFrom tokens scan {} = packFrom tokens scan st := by
  induction h with
  | refl => rfl
  | tail _ hlast ih =>
      obtain ⟨token, hstep⟩ := hlast
      exact ih.trans (packFrom_next hstep)

/-- The constructor is the loop, from the start. -/
theorem EntersLoop.ofString_eq (h : EntersLoop s tokens scan) : IPAddress.ofString s =
    packFrom tokens scan {} >>= fun ip => .ok (.ofV6 (unpackV6 ip)) := by
  obtain ⟨tokensV6, tokens₁, cut, two, first, last, scanned, checked⟩ := h
  rw [tokenizeString_eq s (by simp), kept_true] at cut
  obtain rfl := Except.ok.inj cut
  rw [ofString_of_tokens two (Outcome.bind_eq_ok.mpr ⟨tokens₁, first, last⟩), parseTokensV6,
    scanned]
  simp only [bind, Except.bind, checked]
  rfl

/-! ### The position -/

/-- Before a turn the position is what the index and the gap make it. -/
def Positioned (tokens : List Text) (scan : TokenScan) (st : PackState) : Prop :=
  st.i < tokens.length → st.packPosition = expectedPosition scan st.i

theorem Positioned.next (hsize : tokens.length < 2 ^ 64) {token : Text}
    (h : Positioned tokens scan st) (hstep : packNext tokens scan st token = some st') :
    Positioned tokens scan st' := by
  intro hi'
  obtain ⟨htoken, hturn⟩ := packNext_eq_some.mp hstep
  have position := h (List.getElem?_eq_some_iff.mp htoken).1
  rw [packTurn_index hturn] at hi'
  exact packTurn_position hsize hi' position hturn

/-- **The position**, in every state the loop reaches. -/
theorem packPosition_of_reaches (hsize : tokens.length < 2 ^ 64)
    (h : Reaches (Steps (packNext tokens scan)) {} st) : Positioned tokens scan st := by
  have start : Positioned tokens scan {} := fun _ => by
    rw [expectedPosition]
    split <;> simp
  exact h.invariant (fun _ _ _ => Positioned.next hsize) start

/-- Two groups fit at position six. -/
theorem packEmbedded_ok (ip : ValueTypePackedV6) (ipv4 : ValueTypePackedV4) :
    ∃ ip', packEmbedded ip ipv4 6 = .ok ip' := by
  obtain ⟨ip₁, h₁, -⟩ := packValue_or ip (ipv4 >>> 16).toUInt16 (show 6 < 8 by decide)
  obtain ⟨ip₂, h₂, -⟩ := packValue_or ip₁ (ipv4 &&& 0xFFFF).toUInt16 (show 7 < 8 by decide)
  exact ⟨ip₂, Outcome.bind_eq_ok.mpr ⟨ip₁, h₁, h₂⟩⟩

/-- **The assertion** of the packing loop holds where it stands, and neither of the two calls of
`packValue` behind it throws. -/
theorem packPosition_embedded (hloop : EntersLoop s tokens scan) (hsize : tokens.length < 2 ^ 32)
    (hrun : Reaches (Steps (packNext tokens scan)) {} st) (hat : AtEmbedded tokens scan st) :
    st.packPosition = maxTokensV6 - 2 ∧
      ∀ ipv4, ∃ ip, packEmbedded st.ip ipv4 st.packPosition = .ok ip := by
  obtain ⟨_, _, -, -, -, -, scanned, checked⟩ := hloop
  obtain ⟨hi, -, hlast, hquad⟩ := hat
  have hsize' : tokens.length < 2 ^ 64 := by omega
  have found : ScanOf tokens.length tokens scan := by
    rcases scanTokens_spec hsize' ScanOf.nil (Nat.zero_add _) with ⟨-, run⟩ | ⟨-, scan', run, h⟩
    · cases run.symm.trans scanned
    · obtain rfl := Except.ok.inj (run.symm.trans scanned)
      exact h
  rw [sizeSub_of_le (by omega) hsize'] at hlast
  have position : st.packPosition = 6 := by
    rw [packPosition_of_reaches hsize' hrun hi, hlast]
    exact expectedPosition_last found hsize.le checked hquad
  refine ⟨position, fun ipv4 => ?_⟩
  rw [position]
  exact packEmbedded_ok st.ip ipv4

end

/-- At a text with a group too many: the gap is one below zero, and takes the position back. -/
theorem packPosition_embedded_wrapped : ∃ tokens st,
    EntersLoop "1:2:3:4:5:6:7::1.2.3.4".toList tokens ⟨1, some (7, 2 ^ 64 - 1), true⟩ ∧
      Reaches (Steps (packNext tokens ⟨1, some (7, 2 ^ 64 - 1), true⟩)) {} st ∧
      st.packPosition = maxTokensV6 - 2 ∧
      ∀ ipv4, ∃ ip, packEmbedded st.ip ipv4 st.packPosition = .ok ip := by
  have enters : EntersLoop "1:2:3:4:5:6:7::1.2.3.4".toList
      (["1", "2", "3", "4", "5", "6", "7", "", "1.2.3.4"].map String.toList)
      ⟨1, some (7, 2 ^ 64 - 1), true⟩ :=
    ⟨_, _, rfl, by decide, rfl, rfl, rfl, rfl⟩
  have run : exec (packNext (["1", "2", "3", "4", "5", "6", "7", "", "1.2.3.4"].map String.toList)
      ⟨1, some (7, 2 ^ 64 - 1), true⟩) {}
      (["1", "2", "3", "4", "5", "6", "7", ""].map String.toList) =
        some ⟨8, 6, (0x0001000200030004, 0x0005000600070000)⟩ := rfl
  exact ⟨_, _, enters, reaches_of_exec run, packPosition_embedded enters (by decide)
    (reaches_of_exec run) ⟨by decide, by decide, by decide, rfl⟩⟩

end NetworkInterface
