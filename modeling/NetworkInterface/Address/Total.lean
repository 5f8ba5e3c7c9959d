import NetworkInterface.Address.RoundTrip

/-!
# Address — Total

What the string constructor does at an arbitrary text.  It throws `std::invalid_argument` or makes
an IPv4 or IPv6 address (`ofString_total`), except at one text: `":"` is cut into two empty tokens,
of which the first is erased, and the check of the last two tokens then reads in front of the only
one that is left.

A call is `Proper` when it returns, or throws `std::invalid_argument`.  The assertion of the packing
loop is what needs an argument: the position reached at the last token is known from the number of
tokens alone (`expectedPosition`), since the gap of the empty token makes up for whatever is
missing.
-/

namespace NetworkInterface
open Support

/-- The call returns, or throws `std::invalid_argument`. -/
def Proper {α : Type} (r : Outcome α) : Prop :=
  ∀ f, r = .error f → ∃ what, f = .invalidArgument what

section
variable {α β : Type}

theorem proper_ok (a : α) : Proper (.ok a : Outcome α) := nofun

theorem proper_invalidArgument (what : String) :
    Proper (.error (.invalidArgument what) : Outcome α) := by
  rintro f ⟨⟩
  exact ⟨what, rfl⟩

theorem Proper.bind {x : Outcome α} {f : α → Outcome β} (hx : Proper x)
    (hf : ∀ a, x = .ok a → Proper (f a)) : Proper (x >>= f) := by
  cases x with
  | error e =>
      rintro g ⟨⟩
      exact hx e rfl
  | ok a => exact hf a rfl

theorem proper_ite' {c : Prop} [Decidable c] {x y : Outcome α} (hx : c → Proper x)
    (hy : ¬ c → Proper y) : Proper (if c then x else y) := by
  split
  · exact hx ‹_›
  · exact hy ‹_›

theorem proper_ite {c : Prop} [Decidable c] {x y : Outcome α} (hx : Proper x) (hy : Proper y) :
    Proper (if c then x else y) :=
  proper_ite' (fun _ => hx) (fun _ => hy)

end

/-! ### The readers -/

theorem proper_convertFromString (str : Text) : Proper (convertFromString str) := by
  rw [convertFromString]
  split
  · split
    · exact proper_ok _
    · exact proper_invalidArgument _
  · dsimp only
    split
    · exact proper_ok _
    · exact proper_invalidArgument _

theorem proper_parseOctet (token : Text) : Proper (parseOctet token) := by
  refine (proper_convertFromString _).bind fun v _ => ?_
  exact proper_ite (proper_invalidArgument _) (proper_ok _)

theorem proper_parseIPV4 (ipString : Text) : Proper (parseIPV4 ipString) := by
  rw [parseIPV4, tokenizeString_eq _ (by simp)]
  refine (proper_ok _).bind fun tokens _ => ?_
  split
  · refine (proper_parseOctet _).bind fun b₀ _ => (proper_parseOctet _).bind fun b₁ _ => ?_
    exact (proper_parseOctet _).bind fun b₂ _ => (proper_parseOctet _).bind fun b₃ _ => proper_ok _
  · exact proper_invalidArgument _

theorem proper_packValue (ip : ValueTypePackedV6) (v : UInt16) (index : Nat) :
    Proper (packValue ip v index) := by
  rw [packValue]
  exact proper_ite (proper_invalidArgument _) (proper_ite (proper_ok _) (proper_ok _))

/-! ### The packing loop -/

/-- Where the packing loop is at token `i`. -/
def expectedPosition (scan : TokenScan) (i : Nat) : Nat :=
  match scan.emptyTokens with
  | some (first, length) => if first < i then (i - 1 + length) % 2 ^ 32 else i % 2 ^ 32
  | none                 => i % 2 ^ 32

theorem expectedPosition_gap {scan : TokenScan} {i length : Nat}
    (h : scan.emptyTokens = some (i, length)) :
    (expectedPosition scan i + length % 2 ^ 32) % 2 ^ 32 = expectedPosition scan (i + 1) := by
  simp only [expectedPosition, h, Nat.lt_irrefl, if_false, Nat.lt_succ_self, if_true]
  omega

theorem expectedPosition_next {scan : TokenScan} {i : Nat}
    (h : scan.emptyTokens.map Prod.fst ≠ some i) :
    (expectedPosition scan i + 1) % 2 ^ 32 = expectedPosition scan (i + 1) := by
  rw [expectedPosition, expectedPosition]
  cases hs : scan.emptyTokens with
  | none => simp only; omega
  | some seq =>
      obtain ⟨first, length⟩ := seq
      have hne : first ≠ i := fun hc => h (by rw [hs, Option.map_some, hc])
      by_cases hlt : first < i
      · simp only [if_pos hlt, if_pos (Nat.lt_succ_of_lt hlt)]
        omega
      · simp only [if_neg hlt, if_neg (show ¬ first < i + 1 by omega)]
        omega

section
variable {size : Nat} {scan : TokenScan} {st st' : PackState} {token : Text}

/-- A turn keeps to the position, while another token follows. -/
theorem packTurn_position (hsize : size < 2 ^ 64) (hi : st.i + 1 < size)
    (position : st.packPosition = expectedPosition scan st.i)
    (h : packTurn size scan token st = .ok st') :
    st'.packPosition = expectedPosition scan st'.i := by
  rcases packTurn_cases h with ⟨length, hgap, rfl⟩ | ⟨-, hlast, -, _, _, -, -, rfl⟩ |
    ⟨hgap, -, _, _, -, -, rfl⟩
  · simp only [position, expectedPosition_gap hgap]
  · rw [sizeSub_of_le (by omega) hsize] at hlast
    omega
  · simp only [position, expectedPosition_next hgap]

/-- A turn does not throw anything else, when the assertion holds. -/
theorem proper_packTurn (hassert : st.i = sizeSub size 1 ∧ scan.isLastTokenIPv4 = true →
    st.packPosition = maxTokensV6 - 2) : Proper (packTurn size scan token st) := by
  rw [packTurn]
  refine proper_ite (proper_ok _) (proper_ite' (fun hlast => ?_) fun _ => ?_)
  · rw [if_pos (hassert hlast)]
    refine (proper_parseIPV4 _).bind fun v _ => Proper.bind ?_ fun ip _ => proper_ok _
    exact (proper_packValue _ _ _).bind fun ip _ => proper_packValue _ _ _
  · refine (proper_convertFromString _).bind fun v _ => ?_
    exact (proper_packValue _ _ _).bind fun ip _ => proper_ok _

/-- The loop does not throw anything else, when the assertion holds at the last token. -/
theorem proper_packTokens (hsize : size < 2 ^ 64)
    (hassert : scan.isLastTokenIPv4 = true → expectedPosition scan (size - 1) = 6)
    (tokens : List Text) : ∀ {st : PackState}, st.i + tokens.length = size →
      (tokens ≠ [] → st.packPosition = expectedPosition scan st.i) →
      Proper (packTokens size scan st.i tokens st.packPosition st.ip) := by
  induction tokens with
  | nil => exact fun _ _ => proper_ok _
  | cons token rest ih =>
      intro st hi position
      rw [List.length_cons] at hi
      have here := position (List.cons_ne_nil _ _)
      rw [packTokens_cons]
      refine (proper_packTurn fun hlast => ?_).bind fun st' turn => ih ?_ fun more => ?_
      · rw [sizeSub_of_le (by omega) hsize] at hlast
        rw [here, hlast.1]
        exact hassert hlast.2
      · rw [packTurn_index turn]
        omega
      · have := List.length_pos_iff.mpr more
        exact packTurn_position hsize (by omega) here turn

end

/-- The assertion of the packing loop holds. -/
theorem expectedPosition_last {tokens : List Text} {scan : TokenScan}
    (h : ScanOf tokens.length tokens scan) (hsize : tokens.length ≤ 2 ^ 32)
    (hcheck : checkTokens tokens.length scan = .ok ()) (hquad : scan.isLastTokenIPv4 = true) :
    expectedPosition scan (tokens.length - 1) = 6 := by
  have hcheck : scan.emptyTokens = none → tokens.length = 7 := by
    rw [checkTokens_eq, hquad] at hcheck
    by_contra hc
    rw [if_neg (fun h => hc h.2)] at hcheck
    cases hcheck
  obtain ⟨-, last, hlast, hdot⟩ := h.ipv4.mp hquad
  rw [expectedPosition]
  cases hs : scan.emptyTokens with
  | none =>
      rw [hcheck hs]
      rfl
  | some seq =>
      obtain ⟨first, length⟩ := seq
      obtain ⟨hempty, hlength⟩ := h.present _ hs
      obtain ⟨hfirst, -⟩ := List.getElem?_eq_some_iff.mp hempty
      -- the empty token is not the last one, which has a dot
      have before : first ≠ tokens.length - 1 := by
        rintro rfl
        rw [List.getLast?_eq_getElem?, hempty] at hlast
        obtain rfl := Option.some.inj hlast
        cases hdot
      simp only at hfirst hlength
      rw [hquad, gapLength, if_pos rfl, sizeSub, sizeSub, maxTokensV6] at hlength
      simp only [if_pos (show first < tokens.length - 1 by omega)]
      omega

theorem proper_checkTokens (size : Nat) (scan : TokenScan) : Proper (checkTokens size scan) := by
  rw [checkTokens_eq]
  exact proper_ite (proper_ok _) (proper_invalidArgument _)

/-- The branch of the constructor for at least two tokens. -/
theorem proper_parseTokensV6 {tokens : List Text} (hsize : tokens.length ≤ 2 ^ 32) :
    Proper (parseTokensV6 tokens) := by
  have hsize' : tokens.length < 2 ^ 64 := by omega
  rw [parseTokensV6]
  rcases scanTokens_spec hsize' ScanOf.nil (Nat.zero_add _) with ⟨-, run⟩ | ⟨-, scan, run, h⟩
  · rw [List.length_nil] at run
    rw [run]
    exact proper_invalidArgument _
  · rw [List.length_nil] at run
    rw [List.nil_append] at h
    rw [run]
    refine (proper_ok scan).bind fun _ hscan => ?_
    obtain rfl := Except.ok.inj hscan
    refine (proper_checkTokens _ _).bind fun _ hcheck => ?_
    have start : expectedPosition scan 0 = 0 := by
      rw [expectedPosition]
      split <;> simp
    exact @proper_packTokens _ _ hsize' (expectedPosition_last h hsize hcheck) tokens {}
      (Nat.zero_add _) fun _ => start.symm

/-! ### The special cases -/

theorem eraseFirstToken_spec (t u : Text) (rest : List Text) :
    eraseFirstToken (t :: u :: rest) =
      .ok (if t = [] ∧ u = [] then u :: rest else t :: u :: rest) := by
  cases t <;> cases u <;> rfl

/-- With two tokens left, the check of the last two stays in bounds. -/
theorem eraseLastToken_ok {tokens : List Text} (h2 : 2 ≤ tokens.length)
    (hsize : tokens.length < 2 ^ 64) :
    ∃ tokens', eraseLastToken tokens = .ok tokens' ∧ tokens'.length ≤ tokens.length := by
  have last : ∃ t, tokenAt tokens (sizeSub tokens.length 1) = .ok t := by
    rw [sizeSub_of_le (by omega) hsize, tokenAt, List.getElem?_eq_getElem (by omega)]
    exact ⟨_, rfl⟩
  have beforeLast : ∃ t, tokenAt tokens (sizeSub tokens.length 2) = .ok t := by
    rw [sizeSub_of_le h2 hsize, tokenAt, List.getElem?_eq_getElem (by omega)]
    exact ⟨_, rfl⟩
  obtain ⟨t, ht⟩ := last
  obtain ⟨u, hu⟩ := beforeLast
  rw [eraseLastToken, ht]
  simp only [bind, Except.bind, hu]
  cases t <;> cases u
  · exact ⟨_, rfl, by simp⟩
  all_goals exact ⟨_, rfl, Nat.le_refl _⟩

theorem colon_outOfBounds :
    IPAddress.ofString [':'] = .error (.outOfBounds (2 ^ 64 - 1) 1) := by decide

theorem length_le_weight (tokens : List Text) : tokens.length ≤ weight tokens := by
  induction tokens with
  | nil => exact Nat.le_refl _
  | cons t tokens ih =>
      rw [weight, List.map_cons, List.sum_cons, ← weight, List.length_cons]
      omega

/-- The constructor at any text but a single colon. -/
theorem proper_ofString {s : Text} (hlen : s.length < 2 ^ 32) (hs : s ≠ [':']) :
    Proper (IPAddress.ofString s) := by
  have text : joinColon (s.splitOn ':') = s := List.intercalate_splitOn ':'
  have size : (s.splitOn ':').length ≤ s.length + 1 := by
    have := length_le_weight (s.splitOn ':')
    have := congrArg List.length text
    rw [length_joinColon] at this
    omega
  rw [IPAddress.ofString, tokenizeString_eq s (by simp), kept_true]
  refine (proper_ok _).bind fun _ htokens => ?_
  obtain rfl := Except.ok.inj htokens
  generalize s.splitOn ':' = tokens at size text
  refine proper_ite' (fun h2 => ?_) (fun _ => (proper_parseIPV4 s).bind fun _ _ => proper_ok _)
  obtain ⟨t, tokens, rfl⟩ := List.exists_cons_of_length_pos (show 0 < tokens.length by omega)
  obtain ⟨u, rest, rfl⟩ := List.exists_cons_of_length_pos (show 0 < tokens.length by
    rw [List.length_cons] at h2
    omega)
  rw [eraseFirstToken_spec]
  refine (proper_ok _).bind fun tokens₁ h₁ => ?_
  simp only [List.length_cons] at size
  have two : 2 ≤ tokens₁.length ∧ tokens₁.length ≤ rest.length + 2 := by
    rw [← Except.ok.inj h₁]
    split
    · -- the first token was erased, and the text is not `":"`, so there was a third one
      rename_i hempty
      obtain ⟨rfl, rfl⟩ := hempty
      have : rest ≠ [] := by
        rintro rfl
        exact hs text.symm
      have := List.length_pos_iff.mpr this
      simp only [List.length_cons]
      omega
    · simp
  obtain ⟨tokens₂, h₂, le⟩ := eraseLastToken_ok two.1 (by omega)
  rw [h₂]
  refine (proper_ok _).bind fun _ htokens => ?_
  obtain rfl := Except.ok.inj htokens
  exact (proper_parseTokensV6 (by omega)).bind fun ip _ => proper_ok _

/-- **Totality**: the constructor throws `std::invalid_argument` or makes an IPv4 or IPv6 address,
reading its tokens within bounds, at every text but `":"`. -/
theorem ofString_total {s : Text} (hlen : s.length < 2 ^ 32) :
    (∃ what, IPAddress.ofString s = .error (.invalidArgument what)) ∨
      (∃ a, IPAddress.ofString s = .ok a ∧ (a.type = .v4 ∨ a.type = .v6)) ↔ s ≠ [':'] := by
  have outcome : ∀ {r : Outcome IPAddress}, IPAddress.ofString s = r → Proper r →
      (∃ what, r = .error (.invalidArgument what)) ∨
        (∃ a, r = .ok a ∧ (a.type = .v4 ∨ a.type = .v6)) := by
    rintro (f | a) hr hproper
    · obtain ⟨what, rfl⟩ := hproper f rfl
      exact .inl ⟨what, rfl⟩
    · refine .inr ⟨a, rfl, ?_⟩
      obtain ⟨v, rfl⟩ | ⟨v, rfl⟩ := IPAddress.ofString_ok hr
      · exact .inl (IPAddress.type_ofV4 _)
      · exact .inr (IPAddress.type_ofV6 _)
  refine ⟨?_, fun hs => outcome rfl ?_⟩
  · rintro (⟨what, h⟩ | ⟨a, h, -⟩) rfl
    · cases (colon_outOfBounds.symm.trans h)
    · cases (colon_outOfBounds.symm.trans h)
  · exact proper_ofString hlen hs

/-- A text of several addresses is refused by an exception. -/
theorem ofString_total_longText :
    (∃ what, IPAddress.ofString "::1::".toList = .error (.invalidArgument what)) ∨
      (∃ a, IPAddress.ofString "::1::".toList = .ok a ∧ (a.type = .v4 ∨ a.type = .v6)) ↔
    "::1::".toList ≠ [':'] :=
  ofString_total (by decide)

/-- A single colon makes the constructor read outside its tokens. -/
theorem not_ofString_total : ¬ ∀ s : Text, s.length < 2 ^ 32 →
    (∃ what, IPAddress.ofString s = .error (.invalidArgument what)) ∨
      (∃ a, IPAddress.ofString s = .ok a ∧ (a.type = .v4 ∨ a.type = .v6)) := by
  intro h
  obtain ⟨what, h⟩ | ⟨a, h, -⟩ := h [':'] (by decide)
  · cases colon_outOfBounds.symm.trans h
  · cases colon_outOfBounds.symm.trans h

end NetworkInterface
