import NetworkInterface.Address.Placement

/-!
# Address — Structure

Where the colons of an accepted IPv6 text are, and what stands between them.

An accepted text is one of four (`Shape`): its tokens joined by colons, two such joined by `::`, or,
which the parser takes for a gap like any other, a single colon before or behind tokens.  A token is
read as far as it is a numeral, and the rest of it is not looked at.

`tokenStructure_iff`: a text with no stray colon, whose tokens are read to their ends and not padded
with zeros, is structured as it should be, and no other is.
-/

namespace NetworkInterface
open Support
open Support.Numeral (isDigit)

/-- Colons and tokens as the text of an IPv6 address has them. -/
structure TokenStructure (s : Text) : Prop where
  first : [':'] <+: s → [':', ':'] <+: s
  last : [':'] <:+ s → [':', ':'] <:+ s
  noTriple : ¬ [':', ':', ':'] <:+: s
  once {p q p' q' : Text} : s = p ++ ':' :: ':' :: q → s = p' ++ ':' :: ':' :: q' → p = p'
  tokens : ∀ t ∈ (s.splitOn ':').dropLast,
    t = [] ∨ 1 ≤ t.length ∧ t.length ≤ 4 ∧ ∀ c ∈ t, isDigit 16 c = true

/-- A text that starts or ends with a colon has a `::`. -/
def NoStrayColon (s : Text) : Prop := [':', ':'] <:+: s ∨ ¬ [':'] <+: s ∧ ¬ [':'] <:+ s

/-- Nothing follows the hexadecimal digits the token starts with, and these are not padded with
zeros to more than four. -/
def ReadWhole (t : Text) : Prop :=
  t.dropWhile (isDigit 16) = [] ∧ (4 < t.length → t.head? ≠ some '0')

/-! ### The shapes of a text -/

/-- The texts the parser accepts, by their colons. -/
inductive Shape : Text → Prop where
  | full {T : List Text} : Clean T → Shape (joinColon T)
  | gap {L R : List Text} : Clean L → Clean R → Shape (joinColon L ++ ':' :: ':' :: joinColon R)
  | leading {R : List Text} : Clean R → Shape (':' :: joinColon R)
  | trailing {L : List Text} : Clean L → Shape (joinColon L ++ [':'])

theorem splitOn_leading (u : Text) : (':' :: u).splitOn ':' = [] :: u.splitOn ':' :=
  List.splitOn_append_cons_self [] u

theorem splitOn_trailing (u : Text) : (u ++ [':']).splitOn ':' = u.splitOn ':' ++ [[]] :=
  List.splitOn_append_cons_self u []

section
variable {T : List Text}

/-- A text of clean tokens does not start with a colon. -/
theorem Clean.no_leading (h : Clean T) (u : Text) : joinColon T ≠ ':' :: u := by
  intro hs
  have pieces := congrArg (List.splitOn ':') hs
  rw [splitOn_joinColon h.noColon, splitOn_leading] at pieces
  exact List.splitOn_ne_nil _ _ (h.alone (X := []) pieces).2

/-- Nor does it end with one. -/
theorem Clean.no_trailing (h : Clean T) (u : Text) : joinColon T ≠ u ++ [':'] := by
  intro hs
  have pieces := congrArg (List.splitOn ':') hs
  rw [splitOn_joinColon h.noColon, splitOn_trailing] at pieces
  exact List.splitOn_ne_nil _ _ (h.alone pieces).1

/-- A colon in front makes no `::`. -/
theorem Clean.leading_no_gap (h : Clean T) (p q : Text) :
    ':' :: joinColon T ≠ p ++ ':' :: ':' :: q := by
  intro hs
  have pieces := congrArg (List.splitOn ':') hs
  rw [splitOn_leading, splitOn_joinColon h.noColon, splitOn_gap_eq] at pieces
  cases hp : p.splitOn ':' with
  | nil => exact List.splitOn_ne_nil _ _ hp
  | cons x X =>
      rw [hp] at pieces
      exact List.splitOn_ne_nil _ _ (h.alone (List.cons.inj pieces).2).2

/-- Nor does one behind. -/
theorem Clean.trailing_no_gap (h : Clean T) (p q : Text) :
    joinColon T ++ [':'] ≠ p ++ ':' :: ':' :: q := by
  intro hs
  have pieces := congrArg (List.splitOn ':') hs
  rw [splitOn_trailing, splitOn_joinColon h.noColon, splitOn_gap_eq] at pieces
  rcases List.eq_nil_or_concat (q.splitOn ':') with hq | ⟨Y, y, hq⟩
  · exact List.splitOn_ne_nil _ _ hq
  · rw [hq, List.concat_eq_append, ← List.cons_append, ← List.append_assoc] at pieces
    exact List.splitOn_ne_nil _ _ (h.alone (List.append_inj' pieces rfl).1).1

end

/-- In each shape there is at most one `::`. -/
theorem Shape.once {s p q p' q' : Text} (h : Shape s) (hp : s = p ++ ':' :: ':' :: q)
    (hp' : s = p' ++ ':' :: ':' :: q') : p = p' := by
  cases h with
  | full h => exact absurd hp (h.no_gap p q)
  | gap hL hR => exact (hL.one_gap hR hp).trans (hL.one_gap hR hp').symm
  | leading h => exact absurd hp (h.leading_no_gap p q)
  | trailing h => exact absurd hp (h.trailing_no_gap p q)

/-- A text with `::` has no other colon at its ends. -/
theorem Shape.ends {s : Text} (h : Shape s) (hgap : [':', ':'] <:+: s) :
    ([':'] <+: s → [':', ':'] <+: s) ∧ ([':'] <:+ s → [':', ':'] <:+ s) := by
  obtain ⟨p, q, hpq⟩ := hgap
  rw [List.append_assoc] at hpq
  cases h with
  | full h => exact absurd hpq.symm (h.no_gap p q)
  | @gap L R hL hR =>
      refine ⟨fun ⟨u, hu⟩ => ?_, fun ⟨u, hu⟩ => ?_⟩
      · cases hl : joinColon L with
        | nil => exact ⟨joinColon R, rfl⟩
        | cons c l =>
            rw [hl] at hu
            obtain rfl : ':' = c := (List.cons.inj hu).1
            exact absurd hl (hL.no_leading l)
      · rcases List.eq_nil_or_concat (joinColon R) with hr | ⟨r, c, hr⟩
        · exact ⟨joinColon L, by rw [hr]⟩
        · rw [List.concat_eq_append] at hr
          rw [hr, ← List.cons_append, ← List.cons_append, ← List.append_assoc] at hu
          obtain rfl : ':' = c := (List.cons.inj (List.append_inj' hu rfl).2).1
          exact absurd hr (hR.no_trailing r)
  | leading h => exact absurd hpq.symm (h.leading_no_gap p q)
  | trailing h => exact absurd hpq.symm (h.trailing_no_gap p q)

/-! ### The shape of an accepted text -/

section
variable {s : Text} {a : IPAddress}

/-- The token is empty, or read as a group. -/
def ReadOrEmpty (t : Text) : Prop := t = [] ∨ ∃ v, ReadsAs t v

/-- All tokens but the last, when `front` is what stands before the quad. -/
theorem readOrEmpty_dropLast {front E : List Text} {ve : List UInt16} (hE : EndsAs E ve)
    (h : ∀ t ∈ front, ReadOrEmpty t) : ∀ t ∈ (front ++ E).dropLast, ReadOrEmpty t := by
  cases hE with
  | nothing =>
      rw [List.append_nil]
      exact fun t ht => h t (List.dropLast_subset _ ht)
  | quad =>
      -- the quad is the last token
      rw [List.dropLast_concat]
      exact h

theorem readOrEmpty_of_forall₂ {L : List Text} {vl : List UInt16}
    (h : List.Forall₂ ReadsAs L vl) : ∀ t ∈ L, ReadOrEmpty t := by
  induction h with
  | nil => exact fun t ht => absurd ht List.not_mem_nil
  | cons hv _ ih => exact List.forall_mem_cons.mpr ⟨.inr ⟨_, hv⟩, ih⟩

/-- What stands on one side of the gap: a text's tokens, or nothing where a stray colon is. -/
theorem beside_gap {A L : List Text} (h : A = [] ∨ A = [[]] ∧ L = []) :
    A ++ L = orEmpty L ∨ A ++ L = [] := by
  rcases h with rfl | ⟨rfl, rfl⟩
  · rw [List.nil_append, orEmpty]
    split
    · exact .inr ‹_›
    · exact .inl rfl
  · exact .inl rfl

/-- The tokens on both sides of the gap. -/
theorem around_gap {L R A B : List Text} (hs : s.splitOn ':' = A ++ (L ++ [] :: R) ++ B)
    (hL : Clean L) (hR : Clean R) (hA : A = [] ∨ A = [[]] ∧ L = [])
    (hB : B = [] ∨ B = [[]] ∧ R = []) (h2 : 2 ≤ (s.splitOn ':').length) : Shape s := by
  have pieces : s.splitOn ':' = (A ++ L) ++ [] :: (R ++ B) := by rw [hs]; simp
  have right : R ++ B = B ++ R := by
    rcases hB with rfl | ⟨rfl, rfl⟩ <;> simp
  rw [right] at pieces
  rcases beside_gap hA with hA | hA
  · rcases beside_gap hB with hB | hB
    · rw [hA, hB, ← splitOn_gap hL.noColon hR.noColon] at pieces
      exact splitOn_inj pieces ▸ .gap hL hR
    · rw [hA, hB, ← splitOn_joinColon hL.noColon, ← splitOn_trailing] at pieces
      exact splitOn_inj pieces ▸ .trailing hL
  · rcases beside_gap hB with hB | hB
    · rw [hA, hB, ← splitOn_joinColon hR.noColon, List.nil_append, ← splitOn_leading] at pieces
      exact splitOn_inj pieces ▸ .leading hR
    · rw [pieces, hA, hB] at h2
      exact absurd h2 (by decide)

/-- **The shape of an accepted text**, and what its tokens are. -/
theorem shape_of_ok (hcolon : ':' ∈ s) (h : IPAddress.ofString s = .ok a) :
    Shape s ∧ ∀ t ∈ (s.splitOn ':').dropLast, ReadOrEmpty t := by
  obtain ⟨two, T, ip, herase, hparse, -⟩ := ofString_colon hcolon h
  obtain ⟨A, B, hs, hA, hB⟩ := erase_ok two herase (length_le_of_parse hparse)
  have noColon : ∀ t ∈ T, ':' ∉ t := fun t ht =>
    not_mem_of_mem_splitOn (s := s) (by rw [hs]; simp [ht])
  rcases tokens_of_parse hparse noColon with ⟨L, E, vl, ve, rfl, hL, hE, -⟩ |
    ⟨L, R, E, vl, vr, ve, rfl, hL, hR, hE⟩
  · have clean := clean_of_readsAs hL hE
    obtain ⟨rfl, rfl⟩ := erased_nil hA hB clean.noEmpty
    rw [List.nil_append, List.append_nil] at hs
    have hne : L ++ E ≠ [] := fun hc => List.splitOn_ne_nil _ _ (hs.trans hc)
    have joined := splitOn_joinColon clean.noColon
    have text : joinColon (L ++ E) = s :=
      splitOn_inj (joined.trans ((if_neg hne).trans hs.symm))
    refine ⟨text ▸ .full clean, ?_⟩
    rw [hs]
    exact readOrEmpty_dropLast hE (readOrEmpty_of_forall₂ hL)
  · have cleanL : Clean L := by simpa using clean_of_readsAs hL .nothing
    have cleanR := clean_of_readsAs hR hE
    have hA := erased_left hA cleanL.noEmpty
    have hB := erased_right hB cleanR.noEmpty
    refine ⟨around_gap hs cleanL cleanR hA hB two, ?_⟩
    have front : ∀ t ∈ A ++ L ++ [] :: R, ReadOrEmpty t := by
      refine List.forall_mem_append.mpr ⟨List.forall_mem_append.mpr ⟨fun t ht => ?_,
        readOrEmpty_of_forall₂ hL⟩, List.forall_mem_cons.mpr ⟨.inl rfl, readOrEmpty_of_forall₂ hR⟩⟩
      rcases hA with rfl | ⟨rfl, -⟩
      · exact absurd ht List.not_mem_nil
      · exact .inl (List.mem_singleton.mp ht)
    rcases hB with rfl | ⟨rfl, hnil⟩
    · rw [hs, List.append_nil, ← List.cons_append, ← List.append_assoc, ← List.append_assoc]
      exact readOrEmpty_dropLast hE front
    · obtain ⟨rfl, rfl⟩ := List.append_eq_nil_iff.mp hnil
      rw [hs, List.dropLast_concat, List.append_nil, ← List.append_assoc]
      exact front

end

/-! ### What a token is read as -/

/-- A token of digits that is read denotes a value of sixteen bits. -/
theorem value_lt_of_reads {t : Text} {v : UInt16} (h : ReadsAs t v)
    (hd : ∀ c ∈ t, isDigit 16 c = true) : Numeral.value 16 t < 2 ^ 16 := by
  have noNul : '\x00' ∉ '0' :: 'x' :: t := by
    have : '\x00' ∉ t := not_mem_of_digits hd (by decide)
    simpa using this
  by_contra hbig
  have fails : Numeral.readUnsigned 16 16 ('0' :: 'x' :: t) = none := by
    rw [Numeral.readUnsigned_hexPrefix 16 (.inl rfl), Numeral.readDigits]
    refine if_pos (.inr ?_)
    rw [List.takeWhile_eq_self_iff.mpr hd]
    exact Nat.not_lt.mp hbig
  have reads := h.reads
  rw [cStr_eq_self noNul, convertFromString, if_neg (by simp), if_pos (by simp)] at reads
  simp only [fails] at reads
  cases reads

/-- A token that is read whole is a group as it should be written. -/
theorem ReadsAs.group {t : Text} {v : UInt16} (h : ReadsAs t v) (hw : ReadWhole t) :
    t.length ≤ 4 ∧ ∀ c ∈ t, isDigit 16 c = true := by
  have digits := List.dropWhile_eq_nil_iff.mp hw.1
  refine ⟨?_, digits⟩
  by_contra hlong
  have small := value_lt_of_reads h digits
  cases t with
  | nil => exact h.nonempty rfl
  | cons c ds =>
      have hc : c ≠ '0' := fun hc => hw.2 (by omega) (hc ▸ rfl)
      have large := Numeral.pow_le_value (b := 16)
        (Numeral.digitVal_pos (digits c List.mem_cons_self) hc) ds
      have power : 16 ^ 4 ≤ 16 ^ ds.length := Nat.pow_le_pow_right (by decide) (by
        rw [List.length_cons] at hlong
        omega)
      omega

/-- **The tokens of an accepted text** are structured as they should be when it has no stray colon
and they are read whole, and only then. -/
theorem tokenStructure_iff {s : Text} (hcolon : ':' ∈ s) {a : IPAddress}
    (h : IPAddress.ofString s = .ok a) : TokenStructure s ↔
      NoStrayColon s ∧ ∀ t ∈ (s.splitOn ':').dropLast, ReadWhole t := by
  obtain ⟨shape, reads⟩ := shape_of_ok hcolon h
  constructor
  · intro hs
    refine ⟨?_, fun t ht => ?_⟩
    · by_cases hgap : [':', ':'] <:+: s
      · exact .inl hgap
      · exact .inr ⟨fun hp => hgap (hs.first hp).isInfix, fun hp => hgap (hs.last hp).isInfix⟩
    · rcases hs.tokens t ht with rfl | ⟨-, hlen, hd⟩
      · exact ⟨rfl, fun h => absurd h (by decide)⟩
      · exact ⟨List.dropWhile_eq_nil_iff.mpr hd, fun h => absurd h (Nat.not_lt.mpr hlen)⟩
  · rintro ⟨hstray, hwhole⟩
    have ends : ([':'] <+: s → [':', ':'] <+: s) ∧ ([':'] <:+ s → [':', ':'] <:+ s) := by
      rcases hstray with hgap | ⟨hfirst, hlast⟩
      · exact shape.ends hgap
      · exact ⟨fun h => absurd h hfirst, fun h => absurd h hlast⟩
    refine ⟨ends.1, ends.2, fun ⟨p, q, hpq⟩ => ?_, shape.once, fun t ht => ?_⟩
    · -- three colons in a row are `::` at two places
      have one : s = p ++ ':' :: ':' :: (':' :: q) := by rw [← hpq]; simp
      have two : s = (p ++ [':']) ++ ':' :: ':' :: q := by rw [← hpq]; simp
      have := congrArg List.length (shape.once one two)
      simp at this
    · rcases reads t ht with rfl | ⟨v, hv⟩
      · exact .inl rfl
      · exact .inr ⟨List.length_pos_iff.mpr hv.nonempty, hv.group (hwhole t ht)⟩

/-- At a text with a gap. -/
theorem tokenStructure_iff_gap : TokenStructure "2001:db8::1".toList ↔
    NoStrayColon "2001:db8::1".toList ∧
      ∀ t ∈ ("2001:db8::1".toList.splitOn ':').dropLast, ReadWhole t :=
  tokenStructure_iff (by decide)
    (by decide : IPAddress.ofString "2001:db8::1".toList =
      .ok (.ofV6 #v[0x2001, 0xdb8, 0, 0, 0, 0, 0, 1]))

/-- A colon alone in front stands for a zero group, what follows a numeral is not read, and a group
of five digits is one if it starts with a zero. -/
theorem not_tokenStructure : ¬ ∀ s : Text, ':' ∈ s → ∀ a, IPAddress.ofString s = .ok a →
    TokenStructure s := by
  intro h
  have stray := h ":1:2:3:4:5:6:7".toList (by decide) (.ofV6 #v[0, 1, 2, 3, 4, 5, 6, 7]) (by decide)
  exact absurd (stray.first (by decide)) (by decide)

end NetworkInterface
