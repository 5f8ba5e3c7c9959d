import NetworkInterface.Address.Parse

/-!
# Address — Tokens

What `tokenizeString` returns (`tokenizeString_eq`): the pieces between the separators, without
the empty ones unless `emptyIsToken`.  It reads within the buffer and both of its loops end, for
every string; only a NUL separator with `emptyIsToken` false would read on behind the buffer.

The two loops are followed with one invariant, `Scanning`: the tokens pushed so far, and the
pieces of the text from `startPos` on, are the pieces of the whole text.

The second part is what the numeral readers make of the numerals an address is written with.
-/

namespace NetworkInterface
open Support

/-- The tokens among the pieces of a text. -/
def kept (emptyIsToken : Bool) (pieces : List Text) : List Text :=
  pieces.filter fun piece => emptyIsToken || !piece.isEmpty

@[simp] theorem kept_true (pieces : List Text) : kept true pieces = pieces := by simp [kept]

theorem kept_append (b : Bool) (l m : List Text) : kept b (l ++ m) = kept b l ++ kept b m :=
  List.filter_append ..

theorem kept_singleton (b : Bool) (piece : Text) :
    kept b [piece] = if !piece.isEmpty || b then [piece] else [] := by
  cases b <;> cases piece <;> rfl

theorem kept_splitOn (b : Bool) {separator : Char} {mid : Text} (h : separator ∉ mid)
    (rest : Text) : kept b ((mid ++ separator :: rest).splitOn separator) =
      kept b [mid] ++ kept b (rest.splitOn separator) := by
  rw [List.splitOn_append_cons_self_of_not_mem h, ← kept_append]
  rfl

/-- Separators in a row make empty pieces. -/
theorem kept_splitOn_replicate (separator : Char) (k : Nat) (rest : Text) :
    kept false ((List.replicate k separator ++ rest).splitOn separator) =
      kept false (rest.splitOn separator) := by
  induction k with
  | zero => rfl
  | succ k ih =>
      have clean : separator ∉ ([] : Text) := List.not_mem_nil
      rw [List.replicate_succ, List.cons_append]
      exact (kept_splitOn false clean (List.replicate k separator ++ rest)).trans ih

/-! ### The buffer -/

theorem charAt_cons (front : Text) (c : Char) (tail : Text) :
    charAt (front ++ c :: tail) front.length = .ok c := by
  simp [charAt]

theorem charAt_end (s : Text) : charAt s s.length = .ok '\x00' := by
  simp [charAt]

theorem substr_append (front mid tail : Text) :
    substr (front ++ (mid ++ tail)) front.length mid.length = .ok mid := by
  simp [substr]

/-! ### The loops -/

/-- The scan has pushed the tokens of `front`, is past `mid`, and has `tail` to read. -/
structure Scanning (s : Text) (separator : Char) (b : Bool) (all : List Text) (mid tail : Text)
    (st : TokenizeState) : Prop where
  ends : ∃ front, s = front ++ (mid ++ tail) ∧ st.startPos = front.length
  current : st.currentPos = st.startPos + mid.length
  clean : separator ∉ mid
  pieces : st.tokensArray ++ kept b ((mid ++ tail).splitOn separator) = all

variable {s : Text} {separator : Char} {b : Bool} {all : List Text}

theorem Scanning.length_eq {mid tail : Text} {st : TokenizeState}
    (h : Scanning s separator b all mid tail st) : st.currentPos + tail.length = s.length := by
  obtain ⟨front, hs, hstart⟩ := h.ends
  rw [h.current, hstart, hs, List.length_append, List.length_append, Nat.add_assoc]

theorem Scanning.charAt {mid tail : Text} {st : TokenizeState}
    (h : Scanning s separator b all mid tail st) :
    charAt s st.currentPos = .ok (tail.headD '\x00') := by
  obtain ⟨front, hs, hstart⟩ := h.ends
  have position : st.currentPos = (front ++ mid).length := by
    rw [h.current, hstart, List.length_append]
  rw [position, hs, ← List.append_assoc]
  cases tail with
  | nil => rw [List.append_nil]; exact charAt_end _
  | cons c tail => exact charAt_cons _ c tail

/-- Past the end, what is left is the last piece. -/
theorem Scanning.last {mid : Text} {st : TokenizeState} (h : Scanning s separator b all mid [] st) :
    ∃ front, s = front ++ mid ∧ st.startPos = front.length ∧
      st.tokensArray ++ kept b [mid] = all := by
  obtain ⟨front, hs, hstart⟩ := h.ends
  have pieces := h.pieces
  rw [List.append_nil] at hs pieces
  rw [List.splitOn_eq_singleton h.clean] at pieces
  exact ⟨front, hs, hstart, pieces⟩

/-- The scan moves over a character that is no separator. -/
theorem Scanning.next {mid tail : Text} {c : Char} {st : TokenizeState} (hc : c ≠ separator)
    (h : Scanning s separator b all mid (c :: tail) st) :
    Scanning s separator b all (mid ++ [c]) tail { st with currentPos := st.currentPos + 1 } := by
  obtain ⟨front, hs, hstart⟩ := h.ends
  refine ⟨⟨front, by simp [hs], hstart⟩, ?_, ?_, ?_⟩
  · show st.currentPos + 1 = st.startPos + (mid ++ [c]).length
    rw [h.current, List.length_append]
    rfl
  · simpa using ⟨h.clean, hc.symm⟩
  · simpa using h.pieces

/-- The innermost loop stops behind the separators. -/
theorem skipSeparators_eq (hnul : separator ≠ '\x00') (front : Text) (tail : Text) :
    ∀ turns, tail.length < turns → ∃ k rest, tail = List.replicate k separator ++ rest ∧
      skipSeparators (front ++ tail) separator turns front.length = .ok (front.length + k) := by
  induction tail generalizing front with
  | nil =>
      intro turns hturns
      obtain ⟨turns, rfl⟩ := Nat.exists_eq_add_of_lt hturns
      refine ⟨0, [], rfl, ?_⟩
      rw [List.append_nil, skipSeparators, charAt_end]
      exact if_neg hnul.symm
  | cons c tail ih =>
      intro turns hturns
      obtain ⟨turns, rfl⟩ := Nat.exists_eq_add_of_lt hturns
      by_cases hc : c = separator
      · obtain ⟨k, rest, htail, run⟩ :=
          ih (front ++ [c]) ((c :: tail).length + turns) (by simp; omega)
        refine ⟨k + 1, rest, by rw [hc, htail, List.replicate_succ, List.cons_append], ?_⟩
        rw [skipSeparators, charAt_cons]
        simp only [List.append_assoc, List.singleton_append, List.length_append,
          List.length_singleton] at run
        refine (if_pos hc).trans (run.trans ?_)
        rw [Nat.add_assoc, Nat.add_comm 1 k]
      · refine ⟨0, c :: tail, rfl, ?_⟩
        rw [skipSeparators, charAt_cons]
        exact if_neg hc

/-- One turn of the middle loop. -/
theorem takeTokens_turn (hnul : b = false → separator ≠ '\x00') {mid tail : Text}
    {st : TokenizeState} (h : Scanning s separator b all mid (separator :: tail) st)
    (turns : Nat) : ∃ tail' st', Scanning s separator b all [] tail' st' ∧
      tail'.length ≤ tail.length ∧
      takeTokens s separator b (turns + 1) st = takeTokens s separator b turns st' := by
  obtain ⟨front, hs, hstart⟩ := h.ends
  have found : charAt s st.currentPos = .ok separator := h.charAt
  have inside : st.currentPos < s.length := by
    have := h.length_eq
    rw [List.length_cons] at this
    omega
  have piece : substr s st.startPos (st.currentPos - st.startPos) = .ok mid := by
    rw [h.current, Nat.add_sub_cancel_left, hs, hstart]
    exact substr_append front mid _
  have push : ∀ rest : Text, kept b ((mid ++ separator :: tail).splitOn separator) =
      kept b [mid] ++ kept b (rest.splitOn separator) →
      (if !mid.isEmpty || b then st.tokensArray ++ [mid] else st.tokensArray) ++
        kept b (([] ++ rest).splitOn separator) = all := by
    intro rest hrest
    rw [← h.pieces, hrest, kept_singleton, List.nil_append]
    split <;> simp
  cases b with
  | true =>
      refine ⟨tail, ⟨st.currentPos + 1, st.currentPos + 1, st.tokensArray ++ [mid]⟩,
        ⟨⟨front ++ mid ++ [separator], by simp [hs], ?_⟩, rfl, List.not_mem_nil, ?_⟩,
        Nat.le_refl _, ?_⟩
      · simp only [h.current, hstart, List.length_append, List.length_singleton]
      · simpa using push tail (kept_splitOn true h.clean tail)
      · rw [takeTokens, found]
        simp [bind, Except.bind, pure, Except.pure, inside, piece]
  | false =>
      -- the innermost loop reads at least the separator the turn began with
      obtain ⟨k, rest, htail, skip⟩ := skipSeparators_eq (hnul rfl) (front ++ mid ++ [separator])
        tail s.length (by have := h.length_eq; simp only [List.length_cons] at this; omega)
      have skip : skipSeparators s separator (s.length + 1) st.currentPos =
          .ok (st.currentPos + 1 + k) := by
        rw [skipSeparators, found]
        refine (if_pos rfl).trans (Eq.trans ?_ (skip.trans ?_))
        · rw [hs, h.current, hstart]
          simp [Nat.add_assoc]
        · rw [h.current, hstart]
          simp [Nat.add_assoc]
      refine ⟨rest, ⟨st.currentPos + 1 + k, st.currentPos + 1 + k,
          if mid ≠ [] then st.tokensArray ++ [mid] else st.tokensArray⟩,
        ⟨⟨front ++ mid ++ separator :: List.replicate k separator, by simp [hs, htail], ?_⟩, rfl,
          List.not_mem_nil, ?_⟩, by simp [htail], ?_⟩
      · simp only [h.current, hstart, List.length_append, List.length_cons, List.length_replicate]
        omega
      · have := push rest (by
          rw [kept_splitOn false h.clean, htail, kept_splitOn_replicate])
        simpa using this
      · rw [takeTokens, found]
        simp [bind, Except.bind, inside, piece, skip]

/-- The middle loop ends at a character that is no separator, or at the end. -/
theorem takeTokens_spec (hnul : b = false → separator ≠ '\x00') {turns : Nat} :
    ∀ {mid tail : Text} {st : TokenizeState}, Scanning s separator b all mid tail st →
      tail.length < turns → ∃ mid' tail' st', takeTokens s separator b turns st = .ok st' ∧
        Scanning s separator b all mid' tail' st' ∧ tail'.length ≤ tail.length ∧
        tail'.head? ≠ some separator := by
  induction turns with
  | zero => exact fun _ hturns => absurd hturns (Nat.not_lt_zero _)
  | succ turns ih =>
      intro mid tail st h hturns
      by_cases hc : tail.head? = some separator
      · obtain ⟨tail, rfl⟩ : ∃ rest, tail = separator :: rest := List.head?_eq_some_iff.mp hc
        obtain ⟨tail₁, st₁, h₁, le₁, run₁⟩ := takeTokens_turn hnul h turns
        rw [List.length_cons] at hturns ⊢
        obtain ⟨mid', tail', st', run, h', le, stop⟩ := ih h₁ (by omega)
        exact ⟨mid', tail', st', run₁.trans run, h', by omega, stop⟩
      · refine ⟨mid, tail, st, ?_, h, Nat.le_refl _, hc⟩
        rw [takeTokens, h.charAt]
        -- at the end, the NUL may be the separator, but the position is not inside
        refine if_neg ?_
        rintro ⟨heq, hlt⟩
        have := h.length_eq
        cases tail with
        | nil => simp only [List.length_nil] at this; omega
        | cons c tail => exact hc (congrArg some heq)

/-- The outer loop leaves the last piece between `startPos` and the end. -/
theorem tokenizeLoop_spec (hnul : b = false → separator ≠ '\x00') {turns : Nat} :
    ∀ {mid tail : Text} {st : TokenizeState}, Scanning s separator b all mid tail st →
      tail.length < turns → ∃ front last st', tokenizeLoop s separator b turns st = .ok st' ∧
        s = front ++ last ∧ st'.startPos = front.length ∧
        st'.tokensArray ++ kept b [last] = all := by
  induction turns with
  | zero => exact fun _ hturns => absurd hturns (Nat.not_lt_zero _)
  | succ turns ih =>
      intro mid tail st h hturns
      rw [tokenizeLoop]
      by_cases hend : st.currentPos < s.length
      · obtain ⟨mid₁, tail₁, st₁, run₁, h₁, le₁, stop⟩ :=
          takeTokens_spec hnul h (show tail.length < s.length + 1 by have := h.length_eq; omega)
        rw [if_pos hend, run₁]
        cases tail₁ with
        | cons c tail₁ =>
            rw [List.length_cons] at le₁
            have hc : c ≠ separator := fun hc => stop (congrArg some hc)
            exact ih (h₁.next hc) (by omega)
        | nil =>
            -- one more turn, which finds the end
            obtain ⟨front, hs, hstart, pieces⟩ := h₁.last
            have last := h₁.length_eq
            have first := h.length_eq
            obtain ⟨turns, rfl⟩ : ∃ n, turns = n + 1 := ⟨turns - 1, by omega⟩
            have past : ¬ st₁.currentPos + 1 < s.length := by rw [← last]; simp
            exact ⟨front, mid₁, { st₁ with currentPos := st₁.currentPos + 1 }, if_neg past, hs,
              hstart, pieces⟩
      · obtain rfl : tail = [] := List.length_eq_zero_iff.mp (by have := h.length_eq; omega)
        obtain ⟨front, hs, hstart, pieces⟩ := h.last
        exact ⟨front, mid, st, if_neg hend, hs, hstart, pieces⟩

/-- **`tokenizeString`** returns the pieces between the separators. -/
theorem tokenizeString_eq (s : Text) {separator : Char} {b : Bool}
    (hnul : b = false → separator ≠ '\x00') :
    tokenizeString s separator b = .ok (kept b (s.splitOn separator)) := by
  have start : Scanning s separator b (kept b (s.splitOn separator)) [] s ⟨0, 0, []⟩ :=
    ⟨⟨[], rfl, rfl⟩, rfl, List.not_mem_nil, rfl⟩
  obtain ⟨front, last, st, run, hs, hstart, pieces⟩ :=
    tokenizeLoop_spec hnul start (Nat.lt_succ_self _)
  have rest : substr s st.startPos (s.length - st.startPos) = .ok last := by
    have := substr_append front last []
    rw [List.append_nil] at this
    rw [hstart, hs, List.length_append, Nat.add_sub_cancel_left, this]
  rw [tokenizeString, run]
  simp only [bind, Except.bind, pure, Except.pure, rest, ← pieces, kept_singleton]
  split <;> simp

/-! ### Numerals -/

theorem cStr_append {s : Text} (h : '\x00' ∉ s) (rest : Text) : cStr (s ++ rest) = s ++ cStr rest :=
  List.takeWhile_append_of_pos fun _ hc => decide_eq_true fun h₀ => h (h₀ ▸ hc)

theorem cStr_eq_self {s : Text} (h : '\x00' ∉ s) : cStr s = s := by
  simpa [cStr] using cStr_append h []

theorem not_mem_of_digits {b : Nat} {ds : Text} (hd : ∀ c ∈ ds, Numeral.isDigit b c = true)
    {c : Char} (hc : Numeral.isDigit b c = false) : c ∉ ds := fun h => by
  rw [hd c h] at hc
  cases hc

/-- A decimal numeral has no prefix. -/
theorem convertFromString_decimal {ds : Text} (hne : ds ≠ [])
    (hd : ∀ c ∈ ds, Numeral.isDigit 10 c = true) (hv : Numeral.value 10 ds < 2 ^ 16) :
    convertFromString ds = .ok (UInt16.ofNat (Numeral.value 10 ds)) := by
  have noPrefix : ∀ c : Char, Numeral.isDigit 10 c = false → ds.take 2 ≠ ['0', c] :=
    fun c hc h => not_mem_of_digits hd hc (List.mem_of_mem_take (h ▸ by simp : c ∈ ds.take 2))
  have read := @Numeral.readUnsigned_decimal 16 ds [] hne hd (by simp) hv
  rw [List.append_nil] at read
  rw [convertFromString, if_neg (noPrefix 'b' (by decide)),
    if_neg (not_or.mpr ⟨noPrefix 'x' (by decide), noPrefix 'X' (by decide)⟩)]
  simp only [read]

/-- A hexadecimal numeral behind the prefix `parseIPV6` puts, with what follows it. -/
theorem convertFromString_hex {ds rest : Text} (hne : ds ≠ [])
    (hd : ∀ c ∈ ds, Numeral.isDigit 16 c = true)
    (hrest : ∀ c ∈ rest.head?, Numeral.isDigit 16 c = false) (hv : Numeral.value 16 ds < 2 ^ 16) :
    convertFromString ('0' :: 'x' :: (ds ++ rest)) = .ok (UInt16.ofNat (Numeral.value 16 ds)) := by
  have read := Numeral.readUnsigned_hex hne hd hrest hv
  have take : ('0' :: 'x' :: (ds ++ rest)).take 2 = ['0', 'x'] := rfl
  rw [convertFromString, take, if_neg (by decide), if_pos (.inl rfl)]
  simp only [read]

/-- An octet, as `parseIPV4` reads it. -/
theorem parseOctet_decimal {ds : Text} (hne : ds ≠ [])
    (hd : ∀ c ∈ ds, Numeral.isDigit 10 c = true) (hv : Numeral.value 10 ds < 2 ^ 8) :
    parseOctet ds = .ok (UInt8.ofNat (Numeral.value 10 ds)) := by
  have small : (UInt16.ofNat (Numeral.value 10 ds)).toNat = Numeral.value 10 ds :=
    UInt16.toNat_ofNat_of_lt' (hv.trans (by decide))
  have fits : ¬ UInt16.ofNat (Numeral.value 10 ds) > 255 := by
    rw [gt_iff_lt, UInt16.lt_iff_toNat_lt, small]
    exact Nat.not_lt.mpr (Nat.le_of_lt_succ hv)
  rw [parseOctet, cStr_eq_self (not_mem_of_digits hd (by decide)),
    convertFromString_decimal hne hd (by omega)]
  refine (if_neg fits).trans (congrArg Except.ok (UInt8.toNat_inj.mp ?_))
  rw [UInt16.toNat_toUInt8, small, UInt8.toNat_ofNat']

/-- **The IPv4 parser** wants four tokens, and reads each as a byte. -/
theorem parseIPV4_iff {s : Text} {ipv4 : ValueTypeV4} : parseIPV4 s = .ok ipv4 ↔
    List.Forall₂ (fun t b => parseOctet t = .ok b) (kept false (s.splitOn '.')) ipv4.toList := by
  rw [parseIPV4, tokenizeString_eq _ (by simp)]
  simp only [bind, Except.bind]
  constructor
  · intro h
    split at h
    · rename_i heq
      obtain ⟨b₀, h₀, h⟩ := Outcome.bind_eq_ok.mp h
      obtain ⟨b₁, h₁, h⟩ := Outcome.bind_eq_ok.mp h
      obtain ⟨b₂, h₂, h⟩ := Outcome.bind_eq_ok.mp h
      obtain ⟨b₃, h₃, h⟩ := Outcome.bind_eq_ok.mp h
      obtain rfl := Except.ok.inj h
      rw [heq]
      exact .cons h₀ (.cons h₁ (.cons h₂ (.cons h₃ .nil)))
    · cases h
  · intro h
    rw [toList_v4] at h
    generalize kept false (s.splitOn '.') = tokens at h
    cases h with
    | cons h₀ h =>
    cases h with
    | cons h₁ h =>
    cases h with
    | cons h₂ h =>
    cases h with
    | cons h₃ h =>
    cases h with
    | nil =>
        simp only [h₀, h₁, h₂, h₃]
        exact congrArg Except.ok (Vector.toList_inj.mp (toList_v4 ipv4).symm)

/-- Four octets between dots. -/
theorem parseIPV4_quad {a b c d : Text} {va vb vc vd : UInt8} (ha : parseOctet a = .ok va)
    (hb : parseOctet b = .ok vb) (hc : parseOctet c = .ok vc) (hd : parseOctet d = .ok vd)
    (hne : ∀ t ∈ [a, b, c, d], t ≠ [] ∧ '.' ∉ t) :
    parseIPV4 (a ++ '.' :: (b ++ '.' :: (c ++ '.' :: d))) = .ok #v[va, vb, vc, vd] := by
  have one : ∀ t ∈ [a, b, c, d], ∀ l, kept false (t :: l) = t :: kept false l := fun t ht l => by
    rw [kept, List.filter_cons_of_pos]
    · rfl
    · simpa using (hne t ht).1
  rw [parseIPV4_iff, List.splitOn_append_cons_self_of_not_mem (hne a (by simp)).2,
    List.splitOn_append_cons_self_of_not_mem (hne b (by simp)).2,
    List.splitOn_append_cons_self_of_not_mem (hne c (by simp)).2,
    List.splitOn_eq_singleton (hne d (by simp)).2, one a (by simp), one b (by simp),
    one c (by simp), one d (by simp)]
  exact .cons ha (.cons hb (.cons hc (.cons hd .nil)))

end NetworkInterface
