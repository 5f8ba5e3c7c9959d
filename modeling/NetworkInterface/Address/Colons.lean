import NetworkInterface.Address.Groups

/-!
# Address — Colons

From the text of an IPv6 address to its tokens: the text is cut at each colon, and one of the two
empty tokens that a `::` leaves at either end is erased.  `joinColon` is the way back.

* `Clean.no_gap`, `Clean.one_gap`: where the `::` is in a text of tokens.
* `ofString_full`, `ofString_gap`: the constructor at a text without and with `::`, the tokens
  being any that are read as groups.
-/

namespace NetworkInterface

/-! ### Cutting and joining -/

/-- The tokens, with a colon between each two. -/
def joinColon (tokens : List Text) : Text := List.intercalate [':'] tokens

/-- What cutting at the colons makes of `joinColon tokens`: at least one token. -/
def orEmpty (tokens : List Text) : List Text := if tokens = [] then [[]] else tokens

theorem splitOn_joinColon {tokens : List Text} (h : ∀ t ∈ tokens, ':' ∉ t) :
    (joinColon tokens).splitOn ':' = orEmpty tokens := by
  rw [orEmpty]
  split
  · subst tokens
    rfl
  · exact List.splitOn_intercalate ':' h ‹_›

theorem splitOn_gap_eq (p q : Text) :
    (p ++ ':' :: ':' :: q).splitOn ':' = p.splitOn ':' ++ [] :: q.splitOn ':' := by
  rw [List.splitOn_append_cons_self]
  exact congrArg (p.splitOn ':' ++ ·) (List.splitOn_append_cons_self [] q)

theorem splitOn_gap {L R : List Text} (hL : ∀ t ∈ L, ':' ∉ t) (hR : ∀ t ∈ R, ':' ∉ t) :
    (joinColon L ++ ':' :: ':' :: joinColon R).splitOn ':' = orEmpty L ++ [] :: orEmpty R := by
  rw [splitOn_gap_eq, splitOn_joinColon hL, splitOn_joinColon hR]

theorem length_splitOn (separator : Char) (s : Text) :
    (s.splitOn separator).length = s.count separator + 1 := by
  induction s with
  | nil => rfl
  | cons c s ih =>
      rw [List.splitOn_cons_eq_if_modifyHead, List.count_cons]
      split
      · rw [List.length_cons, ih]
      · rw [List.length_modifyHead, ih, Nat.add_zero]

theorem mem_splitOn_iff {separator c : Char} (hne : c ≠ separator) (s : Text) :
    c ∈ s ↔ ∃ t ∈ s.splitOn separator, c ∈ t := by
  induction s with
  | nil => simp
  | cons d s ih =>
      rw [List.splitOn_cons_eq_if_modifyHead, List.mem_cons, ih]
      cases hs : s.splitOn separator with
      | nil => exact absurd hs (List.splitOn_ne_nil _ _)
      | cons t ts =>
          split
          · rename_i hd
            have : c ≠ d := fun hc => hne (hc.trans (beq_iff_eq.mp hd))
            simp [this]
          · simp [or_assoc]

theorem not_mem_of_mem_splitOn {separator : Char} {s t : Text} (h : t ∈ s.splitOn separator) :
    separator ∉ t := by
  induction s generalizing t with
  | nil => simp_all
  | cons d s ih =>
      rw [List.splitOn_cons_eq_if_modifyHead] at h
      cases hs : s.splitOn separator with
      | nil => exact absurd hs (List.splitOn_ne_nil _ _)
      | cons u us =>
          rw [hs] at h ih
          split at h
          · rcases List.mem_cons.mp h with rfl | h
            · exact List.not_mem_nil
            · exact ih h
          · rename_i hd
            rcases List.mem_cons.mp h with rfl | h
            · have := ih (List.mem_cons_self (a := u))
              simpa [this] using fun hc : separator = d => hd (hc ▸ beq_self_eq_true _)
            · exact ih (List.mem_cons_of_mem _ h)

theorem splitOn_inj {s u : Text} (h : s.splitOn ':' = u.splitOn ':') : s = u := by
  have join : ∀ t : Text, [':'].intercalate (t.splitOn ':') = t := fun t =>
    List.intercalate_splitOn ':'
  rw [← join s, h, join u]

/-- A text starts with `::` when its first two tokens are empty, and a third one follows. -/
theorem prefix_iff {s : Text} :
    [':', ':'] <+: s ↔ ∃ rest, rest ≠ [] ∧ s.splitOn ':' = [] :: [] :: rest := by
  have cut : ∀ u : Text, (':' :: ':' :: u).splitOn ':' = [] :: [] :: u.splitOn ':' := fun u =>
    splitOn_gap_eq [] u
  constructor
  · rintro ⟨u, rfl⟩
    exact ⟨u.splitOn ':', List.splitOn_ne_nil _ _, cut u⟩
  · rintro ⟨rest, hne, hs⟩
    have clean : ∀ t ∈ rest, ':' ∉ t := fun t ht =>
      not_mem_of_mem_splitOn (s := s) (by rw [hs]; simp [ht])
    have join : (':' :: ':' :: joinColon rest).splitOn ':' = s.splitOn ':' := by
      rw [cut, splitOn_joinColon clean, orEmpty, if_neg hne, hs]
    exact ⟨joinColon rest, splitOn_inj join⟩

/-- A text ends with `::` when its last two tokens are empty, and there is one before. -/
theorem suffix_iff {s : Text} :
    [':', ':'] <:+ s ↔ ∃ front, front ≠ [] ∧ s.splitOn ':' = front ++ [[], []] := by
  have cut : ∀ u : Text, (u ++ [':', ':']).splitOn ':' = u.splitOn ':' ++ [[], []] := fun u =>
    List.splitOn_append_cons_self ..
  constructor
  · rintro ⟨u, rfl⟩
    exact ⟨u.splitOn ':', List.splitOn_ne_nil _ _, cut u⟩
  · rintro ⟨front, hne, hs⟩
    have clean : ∀ t ∈ front, ':' ∉ t := fun t ht =>
      not_mem_of_mem_splitOn (s := s) (by rw [hs]; simp [ht])
    have join : (joinColon front ++ [':', ':']).splitOn ':' = s.splitOn ':' := by
      rw [cut, splitOn_joinColon clean, orEmpty, if_neg hne, hs]
    exact ⟨joinColon front, splitOn_inj join⟩

/-! ### Where `::` is -/

/-- Tokens as the parser takes them: neither empty nor with a colon. -/
def Clean (tokens : List Text) : Prop := ∀ t ∈ tokens, t ≠ [] ∧ ':' ∉ t

theorem Clean.noEmpty {tokens : List Text} (h : Clean tokens) : [] ∉ tokens :=
  fun hm => (h _ hm).1 rfl

theorem Clean.noColon {tokens : List Text} (h : Clean tokens) : ∀ t ∈ tokens, ':' ∉ t :=
  fun t ht => (h t ht).2

/-- An empty piece of a text of clean tokens has no other beside it. -/
theorem Clean.alone {tokens X Y : List Text} (h : Clean tokens)
    (hs : orEmpty tokens = X ++ [] :: Y) : X = [] ∧ Y = [] := by
  rw [orEmpty] at hs
  split at hs
  · simpa [List.cons_eq_append_iff] using hs
  · exact absurd (by simp [hs]) h.noEmpty

/-- A text of clean tokens has no `::`. -/
theorem Clean.no_gap {tokens : List Text} (h : Clean tokens) (p q : Text) :
    joinColon tokens ≠ p ++ ':' :: ':' :: q := by
  intro hs
  have pieces := congrArg (List.splitOn ':') hs
  rw [splitOn_joinColon h.noColon, splitOn_gap_eq] at pieces
  exact List.splitOn_ne_nil _ _ (h.alone pieces).1

/-- A text of clean tokens around `::` has no other. -/
theorem Clean.one_gap {L R : List Text} (hL : Clean L) (hR : Clean R) {p q : Text}
    (hs : joinColon L ++ ':' :: ':' :: joinColon R = p ++ ':' :: ':' :: q) : p = joinColon L := by
  have pieces := congrArg (List.splitOn ':') hs
  rw [splitOn_gap hL.noColon hR.noColon, splitOn_gap_eq] at pieces
  have same : p.splitOn ':' = orEmpty L := by
    rcases List.append_eq_append_iff.mp pieces with ⟨X, hp, hX⟩ | ⟨X, hl, hX⟩
    · -- `p` reaches into what is written behind the `::`
      cases X with
      | nil => rw [hp, List.append_nil]
      | cons x X =>
          have := (hR.alone (List.cons.inj hX).2).2
          exact absurd this (List.splitOn_ne_nil _ _)
    · -- `p` ends in what is written before the `::`
      cases X with
      | nil => rw [hl, List.append_nil]
      | cons x X =>
          obtain rfl := (List.cons.inj hX).1
          exact absurd (hL.alone hl).1 (List.splitOn_ne_nil _ _)
  exact splitOn_inj (same.trans (splitOn_joinColon hL.noColon).symm)

/-! ### Erasing -/

theorem tokenAt_last (front : List Text) (t : Text) (h : front.length + 1 < 2 ^ 64) :
    tokenAt (front ++ [t]) (sizeSub (front ++ [t]).length 1) = .ok t := by
  rw [List.length_append, List.length_singleton, sizeSub_of_le (by omega) h, Nat.add_sub_cancel,
    tokenAt, List.getElem?_append_right (Nat.le_refl _), Nat.sub_self]
  rfl

theorem tokenAt_beforeLast (front : List Text) (t u : Text) (h : front.length + 2 < 2 ^ 64) :
    tokenAt (front ++ [t, u]) (sizeSub (front ++ [t, u]).length 2) = .ok t := by
  rw [List.length_append, List.length_cons, List.length_singleton, sizeSub_of_le (by omega) h,
    Nat.add_sub_cancel, tokenAt, List.getElem?_append_right (Nat.le_refl _), Nat.sub_self]
  rfl

/-- A text that does not start with a colon keeps its first token. -/
theorem eraseFirstToken_cons {t : Text} (h : t ≠ []) (rest : List Text) :
    eraseFirstToken (t :: rest) = .ok (t :: rest) := by
  cases t with
  | nil => exact absurd rfl h
  | cons c t => rfl

theorem eraseFirstToken_gap (rest : List Text) :
    eraseFirstToken ([] :: [] :: rest) = .ok ([] :: rest) := rfl

theorem eraseLastToken_concat {t : Text} (h : t ≠ []) (front : List Text)
    (hlen : front.length + 1 < 2 ^ 64) : eraseLastToken (front ++ [t]) = .ok (front ++ [t]) := by
  rw [eraseLastToken, tokenAt_last front t hlen]
  cases t with
  | nil => exact absurd rfl h
  | cons c t => rfl

theorem eraseLastToken_gap (front : List Text) (hlen : front.length + 2 < 2 ^ 64) :
    eraseLastToken (front ++ [[], []]) = .ok (front ++ [[]]) := by
  have last := tokenAt_last (front ++ [[]]) [] (by rw [List.length_append]; exact hlen)
  rw [List.append_assoc, List.singleton_append] at last
  rw [eraseLastToken, last]
  simp only [bind, Except.bind, tokenAt_beforeLast front [] [] hlen]
  rw [List.append_cons, List.dropLast_concat]
  rfl

/-- The special cases leave a text with `::` one empty token. -/
theorem erase_gap {L R : List Text} (hL : [] ∉ L) (hR : [] ∉ R)
    (hlen : L.length + R.length + 3 < 2 ^ 64) :
    (eraseFirstToken (orEmpty L ++ [] :: orEmpty R) >>= eraseLastToken) =
      .ok (L ++ [] :: R) := by
  have first : eraseFirstToken (orEmpty L ++ [] :: orEmpty R) = .ok (L ++ [] :: orEmpty R) := by
    cases L with
    | nil => exact eraseFirstToken_gap _
    | cons t L => exact eraseFirstToken_cons (fun h => hL (h ▸ List.mem_cons_self)) _
  rw [first]
  show eraseLastToken (L ++ [] :: orEmpty R) = _
  rcases List.eq_nil_or_concat R with rfl | ⟨R, t, rfl⟩
  · exact eraseLastToken_gap L (by rw [List.length_nil] at hlen; omega)
  · have ht : t ≠ [] := fun h => hR (h ▸ by simp)
    rw [orEmpty, if_neg (by simp), List.concat_eq_append, ← List.cons_append, ← List.append_assoc]
    refine eraseLastToken_concat ht _ ?_
    simp only [List.concat_eq_append, List.length_append, List.length_cons] at hlen ⊢
    omega

/-- The special cases do not apply to a text without `::`. -/
theorem erase_full {tokens : List Text} (h : [] ∉ tokens) (hne : tokens ≠ [])
    (hlen : tokens.length < 2 ^ 64) :
    (eraseFirstToken tokens >>= eraseLastToken) = .ok tokens := by
  have first : eraseFirstToken tokens = .ok tokens := by
    cases tokens with
    | nil => exact absurd rfl hne
    | cons t rest => exact eraseFirstToken_cons (fun ht => h (ht ▸ List.mem_cons_self)) _
  rw [first]
  show eraseLastToken tokens = _
  rcases List.eq_nil_or_concat tokens with rfl | ⟨front, t, rfl⟩
  · exact absurd rfl hne
  · rw [List.concat_eq_append] at h hlen ⊢
    refine eraseLastToken_concat (fun ht => h (ht ▸ by simp)) _ ?_
    simpa using hlen

/-! ### The constructor -/

/-- A text without colon is left to the IPv4 parser. -/
theorem ofString_noColon {s : Text} (h : ':' ∉ s) :
    IPAddress.ofString s = parseIPV4 s >>= fun v => .ok (.ofV4 v) := by
  rw [IPAddress.ofString, tokenizeString_eq s (by simp), kept_true, List.splitOn_eq_singleton h]
  rfl

/-- The constructor, from the tokens on. -/
theorem ofString_of_tokens {s : Text} {tokens : List Text} (h2 : 2 ≤ (s.splitOn ':').length)
    (herase : (eraseFirstToken (s.splitOn ':') >>= eraseLastToken) = .ok tokens) :
    IPAddress.ofString s = parseTokensV6 tokens >>= fun ip => .ok (.ofV6 (unpackV6 ip)) := by
  rw [IPAddress.ofString, tokenizeString_eq s (by simp), kept_true]
  refine (if_pos h2).trans ?_
  obtain ⟨ts, hfirst, hlast⟩ := Outcome.bind_eq_ok.mp herase
  simp only [bind, Except.bind, hfirst, hlast]
  rfl

/-- A text without `::`. -/
theorem ofString_joinColon {tokens : List Text} (h : Clean tokens) (h2 : 2 ≤ tokens.length)
    (hlen : tokens.length < 2 ^ 64) : IPAddress.ofString (joinColon tokens) =
      parseTokensV6 tokens >>= fun ip => .ok (.ofV6 (unpackV6 ip)) := by
  have hne : tokens ≠ [] := List.ne_nil_of_length_pos (by omega)
  have pieces : (joinColon tokens).splitOn ':' = tokens :=
    (splitOn_joinColon h.noColon).trans (if_neg hne)
  refine ofString_of_tokens ?_ ?_
  · rwa [pieces]
  · rw [pieces]
    exact erase_full h.noEmpty hne hlen

/-- A text with `::`. -/
theorem ofString_joinColon_gap {L R : List Text} (hL : Clean L) (hR : Clean R)
    (hlen : L.length + R.length + 3 < 2 ^ 64) :
    IPAddress.ofString (joinColon L ++ ':' :: ':' :: joinColon R) =
      parseTokensV6 (L ++ [] :: R) >>= fun ip => .ok (.ofV6 (unpackV6 ip)) := by
  have pieces := splitOn_gap hL.noColon hR.noColon
  refine ofString_of_tokens ?_ ?_
  · have one : 1 ≤ (orEmpty L).length := by
      rw [orEmpty]
      split
      · exact Nat.le_refl 1
      · exact List.length_pos_iff.mpr ‹_›
    rw [pieces, List.length_append, List.length_cons]
    omega
  · rw [pieces]
    exact erase_gap hL.noEmpty hR.noEmpty hlen

section
variable {L R E : List Text} {vl vr ve : List UInt16}

theorem clean_of_readsAs (hL : List.Forall₂ ReadsAs L vl) (hE : EndsAs E ve) : Clean (L ++ E) := by
  refine List.forall_mem_append.mpr ⟨fun t ht => ?_, fun t ht => ?_⟩
  · exact ⟨(ReadsAs.forall hL t ht).1, (ReadsAs.forall hL t ht).2.2⟩
  · exact ⟨(hE.forall t ht).1, (hE.forall t ht).2.2⟩

/-- **A text without `::`** whose tokens are read as eight groups. -/
theorem ofString_full (hL : List.Forall₂ ReadsAs L vl) (hE : EndsAs E ve)
    (hlen : (vl ++ ve).length = 8) :
    ∃ v, IPAddress.ofString (joinColon (L ++ E)) = .ok (IPAddress.ofV6 v) ∧
      v.toList = vl ++ ve := by
  obtain ⟨ip, hparse, groups⟩ := parseTokensV6_full hL hE hlen
  have length : 2 ≤ (L ++ E).length ∧ (L ++ E).length < 2 ^ 64 := by
    have := hL.length_eq
    have := hE.length_eq
    rw [List.length_append] at hlen ⊢
    omega
  refine ⟨unpackV6 ip, ?_, groups⟩
  rw [ofString_joinColon (clean_of_readsAs hL hE) length.1 length.2, hparse]
  rfl

/-- **A text with `::`** whose tokens are read as at most seven groups. -/
theorem ofString_gap (hL : List.Forall₂ ReadsAs L vl) (hR : List.Forall₂ ReadsAs R vr)
    (hE : EndsAs E ve) (hlen : vl.length + (vr ++ ve).length ≤ 7) :
    ∃ v, IPAddress.ofString (joinColon L ++ ':' :: ':' :: joinColon (R ++ E)) =
        .ok (IPAddress.ofV6 v) ∧
      v.toList = vl ++ List.replicate (8 - (vl.length + (vr ++ ve).length)) 0 ++ (vr ++ ve) := by
  obtain ⟨ip, hparse, groups⟩ := parseTokensV6_gap hL hR hE hlen
  have length : L.length + (R ++ E).length + 3 < 2 ^ 64 := by
    have := hL.length_eq
    have := hR.length_eq
    have := hE.length_eq
    rw [List.length_append] at hlen ⊢
    omega
  have cleanL : Clean L := by simpa using clean_of_readsAs hL .nothing
  refine ⟨unpackV6 ip, ?_, groups⟩
  rw [ofString_joinColon_gap cleanL (clean_of_readsAs hR hE) length, hparse]
  rfl

end

end NetworkInterface
