import NetworkInterface.Address.Placement

/-!
# Address — DottedQuad

The texts the IPv4 parser accepts.  It takes the pieces between the dots, of which empty ones do
not count, and reads each as a numeral: a decimal one with white space around it, a hexadecimal one
behind `0x`, or a binary one behind `0b`.

`ofString_quad`: a text whose pieces are such numerals is accepted when they are four, none above
`255`; an accepted text has four pieces, each with a numeral to read; and a text that is not
accepted is rejected with `std::invalid_argument`.  Nothing is said of the byte read from a numeral
with a sign or with something behind it.
-/

namespace NetworkInterface
open Support
open Support.Numeral (isDigit isSpace)

/-- The pieces between the dots, without the empty ones. -/
def pieces (s : Text) : List Text := (s.splitOn '.').filter (· ≠ [])

/-- `t` is a decimal numeral for `v`, with white space around it. -/
def DecimalNumeral (t : Text) (v : Nat) : Prop :=
  ∃ l ds r, t = l ++ (ds ++ r) ∧ (∀ c ∈ l, isSpace c = true) ∧ ds ≠ [] ∧
    (∀ c ∈ ds, isDigit 10 c = true) ∧ (∀ c ∈ r, isSpace c = true) ∧ v = Numeral.value 10 ds

/-- A dotted quad: four decimal numerals for bytes, between three dots. -/
def IsDottedQuad (s : Text) (vs : List Nat) : Prop :=
  vs.length = 4 ∧ (∀ v ∈ vs, v ≤ 255) ∧ List.Forall₂ DecimalNumeral (s.splitOn '.') vs

/-- `t` is a numeral for `v`, in one of the notations `convertFromString` knows. -/
inductive OctetNumeral : (t : Text) → (v : Nat) → Prop where
  | decimal {t : Text} {v : Nat} : DecimalNumeral t v → OctetNumeral t v
  | hex {x : Char} {ds r : Text} : x = 'x' ∨ x = 'X' → ds ≠ [] →
      (∀ c ∈ ds, isDigit 16 c = true) → (∀ c ∈ r, isSpace c = true) →
      OctetNumeral ('0' :: x :: (ds ++ r)) (Numeral.value 16 ds)
  | binary {ds : Text} : ds ≠ [] → (∀ c ∈ ds, isDigit 2 c = true) →
      Numeral.value 2 ds < 2 ^ 16 → OctetNumeral ('0' :: 'b' :: ds) (Numeral.value 2 ds)

def StartsWithDigit (b : Nat) (t : Text) : Prop := ∃ c ∈ t.head?, isDigit b c = true

/-- There is a numeral to read at the start of `t`, behind a prefix, or white space and a sign. -/
def HasNumeral (t : Text) : Prop :=
  if t.take 2 = ['0', 'b'] then
    ∀ c ∈ t.drop 2, isSpace c = true ∨ c = '+' ∨ c = '-' ∨ isDigit 2 c = true
  else if t.take 2 = ['0', 'x'] ∨ t.take 2 = ['0', 'X'] then StartsWithDigit 16 (t.drop 2)
  else StartsWithDigit 10 (Numeral.splitSign (t.dropWhile isSpace)).2

/-! ### One piece -/

theorem isDigit_eq_false_of_isSpace {b : Nat} {c : Char} (h : isSpace c = true) :
    isDigit b c = false := by
  by_contra hd
  rw [Bool.not_eq_false] at hd
  rw [Numeral.isSpace_eq_false_of_isDigit hd] at h
  cases h

theorem head_of_isSpace {b : Nat} {r : Text} (h : ∀ c ∈ r, isSpace c = true) :
    ∀ c ∈ r.head?, isDigit b c = false := fun c hc =>
  isDigit_eq_false_of_isSpace (h c (List.mem_of_head? hc))

/-- What `convertFromString` makes of a numeral. -/
def Converts (t : Text) (v : Nat) : Prop :=
  (v < 2 ^ 16 → convertFromString t = .ok (UInt16.ofNat v)) ∧
    (2 ^ 16 ≤ v → ∃ what, convertFromString t = .error (.invalidArgument what))

/-- The conversion by a stream. -/
theorem converts_of_read {t : Text} {base v : Nat} (hb : t.take 2 ≠ ['0', 'b'])
    (hbase : base = if t.take 2 = ['0', 'x'] ∨ t.take 2 = ['0', 'X'] then 16 else 10)
    (h : Numeral.readUnsigned base 16 t = if v < 2 ^ 16 then some v else none) : Converts t v := by
  rw [Converts, convertFromString, if_neg hb, ← hbase]
  refine ⟨fun hv => ?_, fun hv => ⟨String.ofList t, ?_⟩⟩
  · rw [if_pos hv] at h
    simp only [h]
  · rw [if_neg (Nat.not_lt.mpr hv)] at h
    simp only [h]

/-- No character of a numeral is any of these. -/
theorem OctetNumeral.noNul {t : Text} {v : Nat} (h : OctetNumeral t v) : '\x00' ∉ t := by
  have space : ∀ {r : Text}, (∀ c ∈ r, isSpace c = true) → '\x00' ∉ r := fun h hc =>
    absurd (h _ hc) (by decide)
  cases h with
  | decimal h =>
      obtain ⟨l, ds, r, rfl, hl, -, hd, hr, -⟩ := h
      have := not_mem_of_digits hd (show isDigit 10 '\x00' = false by decide)
      simp [space hl, this, space hr]
  | hex hx _ hd hr =>
      have := not_mem_of_digits hd (show isDigit 16 '\x00' = false by decide)
      rcases hx with rfl | rfl <;> simp [this, space hr]
  | binary _ hd _ =>
      have := not_mem_of_digits hd (show isDigit 2 '\x00' = false by decide)
      simp [this]

theorem OctetNumeral.converts {t : Text} {v : Nat} (h : OctetNumeral t v) : Converts t v := by
  cases h with
  | decimal h =>
      obtain ⟨l, ds, r, rfl, hl, hne, hd, hr, rfl⟩ := h
      -- no letter, so no prefix
      have noPrefix : ∀ c : Char, isDigit 10 c = false → isSpace c = false →
          (l ++ (ds ++ r)).take 2 ≠ ['0', c] := by
        intro c hc hs h
        have hm : c ∈ l ++ (ds ++ r) := List.mem_of_mem_take (h ▸ by simp : c ∈ List.take 2 _)
        rcases List.mem_append.mp hm with hm | hm
        · exact absurd (hl c hm) (by simp [hs])
        · rcases List.mem_append.mp hm with hm | hm
          · exact absurd (hd c hm) (by simp [hc])
          · exact absurd (hr c hm) (by simp [hs])
      have read := @Numeral.readUnsigned_decimal_eq 16 l ds r hl hne hd (head_of_isSpace hr)
      refine converts_of_read (noPrefix 'b' (by decide) (by decide)) ?_ read
      rw [if_neg (not_or.mpr ⟨noPrefix 'x' (by decide) (by decide),
        noPrefix 'X' (by decide) (by decide)⟩)]
  | @hex x ds r hx hne hd hr =>
      have read := @Numeral.readDigits_eq 16 16 ds r hne hd (head_of_isSpace hr)
      rw [← Numeral.readUnsigned_hexPrefix 16 hx] at read
      refine converts_of_read ?_ ?_ read
      · rcases hx with rfl | rfl <;> simp
      · rcases hx with rfl | rfl <;> simp
  | @binary ds hne hd hv =>
      refine ⟨fun _ => ?_, fun hbig => absurd hv (Nat.not_lt.mpr hbig)⟩
      have small : min (Numeral.value 2 ds : Int) (2 ^ 63 - 1) = Numeral.value 2 ds := by omega
      have narrow : ((Numeral.value 2 ds : Int) % 2 ^ 16).toNat = Numeral.value 2 ds := by omega
      rw [convertFromString, if_pos (by simp)]
      simp only [List.drop_succ_cons, List.drop_zero, Numeral.strtoll_digits hne hd, small,
        UInt16.ofInt, narrow]

/-- A token is read when it is converted, and to a byte. -/
theorem parseOctet_eq_ok {t : Text} {b : UInt8} : parseOctet t = .ok b ↔
    ∃ v, convertFromString (cStr t) = .ok v ∧ v.toNat ≤ 255 ∧ b = v.toUInt8 := by
  have small : ∀ v : UInt16, ¬ v > 255 ↔ v.toNat ≤ 255 := fun v => by
    rw [gt_iff_lt, UInt16.lt_iff_toNat_lt, Nat.not_lt]
    rfl
  rw [parseOctet, Outcome.bind_eq_ok]
  refine exists_congr fun v => and_congr_right fun _ => ?_
  by_cases h : v > 255
  · refine iff_of_false (fun hb => ?_) fun hb => (small v).mpr hb.1 h
    cases (if_pos h).symm.trans hb
  · rw [and_iff_right ((small v).mp h)]
    exact ⟨fun hb => (Except.ok.inj ((if_neg h).symm.trans hb)).symm, fun hb => hb ▸ if_neg h⟩

/-- A numeral is read as a byte if it is one. -/
theorem OctetNumeral.parse {t : Text} {v : Nat} (h : OctetNumeral t v) :
    (v ≤ 255 → parseOctet t = .ok (UInt8.ofNat v)) ∧ (255 < v → ∀ b, parseOctet t ≠ .ok b) := by
  obtain ⟨fits, fails⟩ := h.converts
  have value : ∀ hv : v < 2 ^ 16, (UInt16.ofNat v).toNat = v := UInt16.toNat_ofNat_of_lt'
  refine ⟨fun hv => ?_, fun hv b hb => ?_⟩
  · refine parseOctet_eq_ok.mpr ⟨UInt16.ofNat v, ?_, ?_, UInt8.toNat_inj.mp ?_⟩
    · rw [cStr_eq_self h.noNul]
      exact fits (by omega)
    · rw [value (by omega)]
      exact hv
    · rw [UInt16.toNat_toUInt8, value (by omega), UInt8.toNat_ofNat']
  · obtain ⟨w, hw, byte, -⟩ := parseOctet_eq_ok.mp hb
    rw [cStr_eq_self h.noNul] at hw
    by_cases hbig : v < 2 ^ 16
    · obtain rfl := Except.ok.inj ((fits hbig).symm.trans hw)
      rw [value hbig] at byte
      omega
    · obtain ⟨what, failed⟩ := fails (Nat.not_lt.mp hbig)
      cases failed.symm.trans hw

theorem startsWithDigit_of_readDigits {b w out : Nat} {negative : Bool} {s : Text}
    (h : Numeral.readDigits b w negative s = some out) : StartsWithDigit b s := by
  obtain ⟨hne, -, -⟩ := Numeral.readDigits_eq_some.mp h
  cases s with
  | nil => exact absurd rfl hne
  | cons c s =>
      refine ⟨c, rfl, ?_⟩
      by_contra hc
      exact hne (List.takeWhile_cons_of_neg hc)

theorem exists_hexPrefix {t : Text} (h : t.take 2 = ['0', 'x'] ∨ t.take 2 = ['0', 'X']) :
    ∃ x, (x = 'x' ∨ x = 'X') ∧ t = '0' :: x :: t.drop 2 := by
  have split := (List.take_append_drop 2 t).symm
  rcases h with h | h
  · exact ⟨'x', .inl rfl, by rw [h] at split; exact split⟩
  · exact ⟨'X', .inr rfl, by rw [h] at split; exact split⟩

/-- What is read has a numeral to read. -/
theorem hasNumeral_of_convert {t : Text} {w : UInt16} (h : convertFromString t = .ok w) :
    HasNumeral t := by
  rw [convertFromString] at h
  rw [HasNumeral]
  by_cases hb : t.take 2 = ['0', 'b']
  · rw [if_pos hb] at h ⊢
    refine Numeral.mem_of_strtoll ?_
    -- `strtoll` has stopped at the end, or the branch would have thrown
    generalize Numeral.strtoll 2 (t.drop 2) = read at h
    obtain ⟨c, rest⟩ := read
    cases rest with
    | nil => rfl
    | cons d rest => cases h
  rw [if_neg hb] at h ⊢
  obtain ⟨out, read⟩ : ∃ out, Numeral.readUnsigned
      (if t.take 2 = ['0', 'x'] ∨ t.take 2 = ['0', 'X'] then 16 else 10) 16 t = some out := by
    refine Option.ne_none_iff_exists'.mp fun none => ?_
    simp only [none] at h
    cases h
  by_cases hx : t.take 2 = ['0', 'x'] ∨ t.take 2 = ['0', 'X']
  · -- the stream skips the prefix itself
    rw [if_pos hx] at read ⊢
    obtain ⟨x, hx, split⟩ := exists_hexPrefix hx
    rw [split, Numeral.readUnsigned_hexPrefix 16 hx] at read
    exact startsWithDigit_of_readDigits read
  · rw [if_neg hx] at read ⊢
    exact startsWithDigit_of_readDigits read

/-! ### The whole text -/

section
variable {s : Text}

theorem pieces_eq (s : Text) : kept false (s.splitOn '.') = pieces s := by
  rw [kept, pieces]
  refine List.filter_congr fun t _ => ?_
  cases t <;> rfl

/-- The constructor throws `std::invalid_argument`. -/
def Rejected (s : Text) : Prop := ∃ what, IPAddress.ofString s = .error (.invalidArgument what)

theorem accepted_or_rejected (hcolon : ':' ∉ s) :
    (∃ a, IPAddress.ofString s = .ok a) ∨ Rejected s := by
  have proper := (proper_parseIPV4 s).bind (f := fun v => .ok (IPAddress.ofV4 v))
    fun _ _ => proper_ok _
  rw [← ofString_noColon hcolon] at proper
  cases h : IPAddress.ofString s with
  | ok a => exact .inl ⟨a, rfl⟩
  | error e =>
      obtain ⟨what, rfl⟩ := proper e h
      exact .inr ⟨what, h⟩

/-- An accepted text: the bytes its pieces are read as. -/
theorem ofString_iff (hcolon : ':' ∉ s) {a : IPAddress} : IPAddress.ofString s = .ok a ↔
    ∃ v : ValueTypeV4, a = .ofV4 v ∧
      List.Forall₂ (fun t b => parseOctet t = .ok b) (pieces s) v.toList := by
  rw [ofString_noColon hcolon, Outcome.bind_eq_ok]
  constructor
  · rintro ⟨v, hv, ha⟩
    exact ⟨v, (Except.ok.inj ha).symm, pieces_eq s ▸ parseIPV4_iff.mp hv⟩
  · rintro ⟨v, rfl, hv⟩
    exact ⟨v, parseIPV4_iff.mpr (pieces_eq s ▸ hv), rfl⟩

/-- Numerals for bytes are read as these. -/
theorem parse_of_numerals {ts : List Text} {vs : List Nat} (h : List.Forall₂ OctetNumeral ts vs)
    (hv : ∀ v ∈ vs, v ≤ 255) :
    List.Forall₂ (fun t b => parseOctet t = .ok b) ts (vs.map UInt8.ofNat) := by
  induction h with
  | nil => exact .nil
  | cons ht _ ih =>
      rw [List.forall_mem_cons] at hv
      exact .cons (ht.parse.1 hv.1) (ih hv.2)

/-- Numerals that are all read are for bytes. -/
theorem le_of_parse {ts : List Text} {vs : List Nat} {bs : List UInt8}
    (h : List.Forall₂ OctetNumeral ts vs)
    (hb : List.Forall₂ (fun t b => parseOctet t = .ok b) ts bs) : ∀ v ∈ vs, v ≤ 255 := by
  induction h generalizing bs with
  | nil => exact fun v hv => absurd hv List.not_mem_nil
  | cons ht _ ih =>
      cases hb with
      | cons hread hb =>
          refine List.forall_mem_cons.mpr ⟨?_, ih hb⟩
          by_contra hbig
          exact ht.parse.2 (Nat.not_le.mp hbig) _ hread

/-- Four numerals for bytes are accepted. -/
theorem accepted_of_numerals (hcolon : ':' ∉ s) {vs : List Nat}
    (h : List.Forall₂ OctetNumeral (pieces s) vs) (h4 : vs.length = 4) (hv : ∀ v ∈ vs, v ≤ 255) :
    ∃ a, IPAddress.ofString s = .ok a ∧ a.type = .v4 ∧ a.ipv4.toList.map UInt8.toNat = vs := by
  have length : (vs.map UInt8.ofNat).toArray.size = 4 := by simp [h4]
  have byte : ∀ v ∈ vs, (UInt8.toNat ∘ UInt8.ofNat) v = v := fun v hm =>
    UInt8.toNat_ofNat_of_lt' (Nat.lt_succ_of_le (hv v hm))
  refine ⟨.ofV4 ⟨(vs.map UInt8.ofNat).toArray, length⟩, ?_, IPAddress.type_ofV4 _, ?_⟩
  · exact (ofString_iff hcolon).mpr ⟨_, rfl, parse_of_numerals h hv⟩
  · rw [IPAddress.ipv4_ofV4]
    show (vs.map UInt8.ofNat).map UInt8.toNat = vs
    rw [List.map_map, List.map_congr_left byte, List.map_id']

/-- A dotted quad has no empty piece. -/
theorem IsDottedQuad.numerals {vs : List Nat} (h : IsDottedQuad s vs) :
    List.Forall₂ OctetNumeral (pieces s) vs := by
  have noEmpty : ∀ {ts : List Text} {vs : List Nat}, List.Forall₂ DecimalNumeral ts vs →
      List.Forall₂ OctetNumeral (ts.filter (· ≠ [])) vs := by
    intro ts vs h
    induction h with
    | nil => exact .nil
    | @cons t v ts vs ht _ ih =>
        have hne : t ≠ [] := by
          obtain ⟨l, ds, r, rfl, -, hds, -⟩ := ht
          simp [hds]
        rw [List.filter_cons_of_pos (by simpa using hne)]
        exact .cons (.decimal ht) ih
  exact noEmpty h.2.2

/-- **Dotted quads** are accepted. -/
theorem accepted_of_isDottedQuad (hcolon : ':' ∉ s) {vs : List Nat} (h : IsDottedQuad s vs) :
    ∃ a, IPAddress.ofString s = .ok a ∧ a.type = .v4 ∧ a.ipv4.toList.map UInt8.toNat = vs :=
  accepted_of_numerals hcolon h.numerals h.1 h.2.1

/-- Each token that was read is one that can be. -/
theorem exists_of_mem {ts : List Text} {bs : List UInt8}
    (h : List.Forall₂ (fun t b => parseOctet t = .ok b) ts bs) {t : Text} (ht : t ∈ ts) :
    ∃ b, parseOctet t = .ok b := by
  obtain ⟨i, hi, rfl⟩ := List.mem_iff_getElem.mp ht
  exact ⟨_, h.get hi (h.length_eq ▸ hi)⟩

/-- What an accepted text has. -/
theorem pieces_of_accepted (hcolon : ':' ∉ s) {a : IPAddress} (h : IPAddress.ofString s = .ok a) :
    a.type = .v4 ∧ (pieces s).length = 4 ∧ ∀ t ∈ pieces s, HasNumeral (cStr t) := by
  obtain ⟨v, rfl, reads⟩ := (ofString_iff hcolon).mp h
  refine ⟨IPAddress.type_ofV4 _, reads.length_eq.trans (by simp), fun t ht => ?_⟩
  obtain ⟨b, read⟩ := exists_of_mem reads ht
  obtain ⟨w, convert, -⟩ := parseOctet_eq_ok.mp read
  exact hasNumeral_of_convert convert

/-- **The IPv4 parser**, at the texts without colon: what it makes of numerals, what else it may
accept, and that it throws nothing but `std::invalid_argument`. -/
theorem ofString_quad (hcolon : ':' ∉ s) :
    (∀ vs, List.Forall₂ OctetNumeral (pieces s) vs →
      (vs.length = 4 ∧ (∀ v ∈ vs, v ≤ 255) → ∃ a, IPAddress.ofString s = .ok a ∧ a.type = .v4 ∧
        a.ipv4.toList.map UInt8.toNat = vs) ∧
      (¬ (vs.length = 4 ∧ ∀ v ∈ vs, v ≤ 255) → Rejected s)) ∧
    (¬ ((pieces s).length = 4 ∧ ∀ t ∈ pieces s, HasNumeral (cStr t)) → Rejected s) ∧
    ((∃ a, IPAddress.ofString s = .ok a ∧ a.type = .v4) ∨ Rejected s) := by
  refine ⟨fun vs h => ⟨fun hv => accepted_of_numerals hcolon h hv.1 hv.2, fun hv => ?_⟩,
    fun hp => ?_, ?_⟩
  · rcases accepted_or_rejected hcolon with ⟨a, ha⟩ | rejected
    · obtain ⟨v, rfl, reads⟩ := (ofString_iff hcolon).mp ha
      have length : vs.length = 4 := by
        rw [← h.length_eq, reads.length_eq]
        simp
      exact absurd ⟨length, le_of_parse h reads⟩ hv
    · exact rejected
  · rcases accepted_or_rejected hcolon with ⟨a, ha⟩ | rejected
    · exact absurd (pieces_of_accepted hcolon ha).2 hp
    · exact rejected
  · exact (accepted_or_rejected hcolon).imp_left fun ⟨a, ha⟩ =>
      ⟨a, ha, (pieces_of_accepted hcolon ha).1⟩

end

/-- Decimal, hexadecimal and binary numerals, an empty piece, and white space. -/
theorem ofString_quad_mixed : ∃ a, IPAddress.ofString "0x7f.0b1.. 2.3 ".toList = .ok a ∧
    a.type = .v4 ∧ a.ipv4.toList.map UInt8.toNat = [127, 1, 2, 3] := by
  have numerals : List.Forall₂ OctetNumeral (pieces "0x7f.0b1.. 2.3 ".toList) [127, 1, 2, 3] := by
    have split : pieces "0x7f.0b1.. 2.3 ".toList =
        ["0x7f".toList, "0b1".toList, " 2".toList, "3 ".toList] := by decide
    have noSpace : ∀ c ∈ ([] : Text), isSpace c = true := fun c hc => by cases hc
    have oneSpace : ∀ c ∈ [' '], isSpace c = true := List.forall_mem_singleton.mpr rfl
    have hex := @OctetNumeral.hex 'x' ['7', 'f'] [] (.inl rfl) (List.cons_ne_nil _ _)
      (List.all_eq_true.mp rfl) noSpace
    have binary := @OctetNumeral.binary ['1'] (List.cons_ne_nil _ _) (List.all_eq_true.mp rfl)
      (by decide)
    have before : DecimalNumeral " 2".toList 2 :=
      ⟨[' '], ['2'], [], by decide, oneSpace, List.cons_ne_nil _ _, List.all_eq_true.mp rfl,
        noSpace, rfl⟩
    have behind : DecimalNumeral "3 ".toList 3 :=
      ⟨[], ['3'], [' '], by decide, noSpace, List.cons_ne_nil _ _, List.all_eq_true.mp rfl,
        oneSpace, rfl⟩
    rw [split]
    exact .cons hex (.cons binary (.cons (.decimal before) (.cons (.decimal behind) .nil)))
  exact ((ofString_quad (by decide)).1 _ numerals).1 ⟨rfl, by decide⟩

/-- Accepted without being dotted quads: an empty piece, two prefixes. -/
theorem not_ofString_iff_isDottedQuad :
    (∃ a, IPAddress.ofString "10..0.0.1".toList = .ok a ∧
      ¬ ∃ vs, IsDottedQuad "10..0.0.1".toList vs) ∧
    ∃ a, IPAddress.ofString "0x7f.0.0.0b1".toList = .ok a ∧
      ¬ ∃ vs, IsDottedQuad "0x7f.0.0.0b1".toList vs := by
  refine ⟨⟨.ofV4 #v[10, 0, 0, 1], by decide, ?_⟩, .ofV4 #v[127, 0, 0, 1], by decide, ?_⟩
  · rintro ⟨vs, h4, -, h⟩
    exact absurd (h.length_eq.trans h4) (by decide)
  · rintro ⟨vs, -, -, h⟩
    have split : "0x7f.0.0.0b1".toList.splitOn '.' =
        ["0x7f".toList, ['0'], ['0'], "0b1".toList] := by decide
    rw [split] at h
    cases h with
    | cons h₀ _ =>
        obtain ⟨l, ds, r, ht, hl, -, hd, hr, -⟩ := h₀
        have letter : 'x' ∈ l ++ (ds ++ r) := ht ▸ (by decide : 'x' ∈ "0x7f".toList)
        rcases List.mem_append.mp letter with hm | hm
        · exact absurd (hl _ hm) (by decide)
        · rcases List.mem_append.mp hm with hm | hm
          · exact absurd (hd _ hm) (by decide)
          · exact absurd (hr _ hm) (by decide)

end NetworkInterface
