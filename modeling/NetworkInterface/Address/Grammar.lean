import NetworkInterface.Address.Colons

/-!
# Address — Grammar

The text representation of IPv6 addresses of RFC 4291, section 2.2, as syntax trees: groups of one
to four hexadecimal digits, at most one `::`, and a dotted quad in place of the last two groups.
A tree has a text (`write`) and the eight groups it denotes (`groups`).

`ofString_complete`: the constructor reads every text of the grammar, as the groups it denotes.
-/

namespace NetworkInterface
open Support

/-- One to four hexadecimal digits, of either case. -/
structure HexGroup where
  digits : Text
  nonempty : digits ≠ []
  length_le : digits.length ≤ 4
  digit : ∀ c ∈ digits, Numeral.isDigit 16 c = true

def HexGroup.value (g : HexGroup) : UInt16 := UInt16.ofNat (Numeral.value 16 g.digits)

/-- A decimal numeral up to `255`. -/
structure Octet where
  digits : Text
  nonempty : digits ≠ []
  digit : ∀ c ∈ digits, Numeral.isDigit 10 c = true
  value_lt : Numeral.value 10 digits < 2 ^ 8

def Octet.value (o : Octet) : Nat := Numeral.value 10 o.digits

/-- A dotted quad. -/
structure Quad where
  a : Octet
  b : Octet
  c : Octet
  d : Octet

def Quad.write (q : Quad) : Text :=
  q.a.digits ++ '.' :: (q.b.digits ++ '.' :: (q.c.digits ++ '.' :: q.d.digits))

/-- The two groups a quad is written in place of. -/
def Quad.groups (q : Quad) : List UInt16 :=
  [UInt16.ofNat (256 * q.a.value + q.b.value), UInt16.ofNat (256 * q.c.value + q.d.value)]

/-- The groups written to the right of `::`, or those of an address without it. -/
structure Groups where
  hex : List HexGroup
  quad : Option Quad

namespace Groups

def tokens (g : Groups) : List Text := g.hex.map HexGroup.digits ++ g.quad.toList.map Quad.write

def values (g : Groups) : List UInt16 :=
  g.hex.map HexGroup.value ++ g.quad.toList.flatMap Quad.groups

end Groups

/-- The text of an IPv6 address. -/
inductive TextV6 where
  /-- Eight groups. -/
  | full (all : Groups) (count : all.values.length = 8)
  /-- At most seven groups, and `::` for those that are missing. -/
  | compressed (left : List HexGroup) (right : Groups)
      (count : left.length + right.values.length ≤ 7)

namespace TextV6

def write : TextV6 → Text
  | full all _              => joinColon all.tokens
  | compressed left right _ =>
      joinColon (left.map HexGroup.digits) ++ ':' :: ':' :: joinColon right.tokens

/-- The groups the text denotes. -/
def groups : TextV6 → List UInt16
  | full all _              => all.values
  | compressed left right _ =>
      left.map HexGroup.value ++
        List.replicate (8 - (left.length + right.values.length)) 0 ++ right.values

theorem length_groups (t : TextV6) : t.groups.length = 8 := by
  cases t with
  | full all count => exact count
  | compressed left right count =>
      simp only [groups, List.length_append, List.length_map, List.length_replicate]
      omega

/-- The value the text denotes. -/
def value (t : TextV6) : ValueTypeV6 := ⟨t.groups.toArray, by simp [t.length_groups]⟩

theorem value_eq {t : TextV6} {v : ValueTypeV6} (h : v.toList = t.groups) : v = t.value :=
  Vector.toList_inj.mp (h.trans (by simp [value]))

end TextV6

/-! ### Reading the pieces -/

theorem HexGroup.readsAs (g : HexGroup) : ReadsAs g.digits g.value where
  nonempty := g.nonempty
  noDot := not_mem_of_digits g.digit (by decide)
  noColon := not_mem_of_digits g.digit (by decide)
  reads := by
    have small : Numeral.value 16 g.digits < 2 ^ 16 :=
      (Numeral.value_lt g.digit).trans_le (Nat.pow_le_pow_right (by decide) g.length_le)
    have noNul : '\x00' ∉ '0' :: 'x' :: g.digits := by
      have : '\x00' ∉ g.digits := not_mem_of_digits g.digit (by decide)
      simpa using this
    have read := @convertFromString_hex g.digits [] g.nonempty g.digit (by simp) small
    rw [List.append_nil] at read
    rw [cStr_eq_self noNul, read, HexGroup.value]

theorem readsAs_map (gs : List HexGroup) :
    List.Forall₂ ReadsAs (gs.map HexGroup.digits) (gs.map HexGroup.value) := by
  induction gs with
  | nil => exact .nil
  | cons g gs ih => exact .cons g.readsAs ih

theorem Octet.parse (o : Octet) : parseOctet o.digits = .ok (UInt8.ofNat o.value) :=
  parseOctet_decimal o.nonempty o.digit o.value_lt

theorem Quad.parse (q : Quad) : parseIPV4 q.write = .ok #v[UInt8.ofNat q.a.value,
    UInt8.ofNat q.b.value, UInt8.ofNat q.c.value, UInt8.ofNat q.d.value] := by
  refine parseIPV4_quad q.a.parse q.b.parse q.c.parse q.d.parse ?_
  have one : ∀ o : Octet, o.digits ≠ [] ∧ '.' ∉ o.digits := fun o =>
    ⟨o.nonempty, not_mem_of_digits o.digit (by decide)⟩
  simp only [List.forall_mem_cons]
  exact ⟨one q.a, one q.b, one q.c, one q.d, fun t ht => absurd ht List.not_mem_nil⟩

theorem Quad.not_mem_write {c : Char} (hc : Numeral.isDigit 10 c = false) (hdot : c ≠ '.')
    (q : Quad) : c ∉ q.write := by
  have one : ∀ o : Octet, c ∉ o.digits := fun o => not_mem_of_digits o.digit hc
  simp [Quad.write, one, hdot]

theorem Groups.endsAs (g : Groups) :
    EndsAs (g.quad.toList.map Quad.write) (g.quad.toList.flatMap Quad.groups) := by
  cases hq : g.quad with
  | none => exact .nothing
  | some q =>
      have value : ∀ o : Octet, (UInt8.ofNat o.value).toNat = o.value := fun o =>
        UInt8.toNat_ofNat_of_lt' o.value_lt
      have groups : quadGroups #v[UInt8.ofNat q.a.value, UInt8.ofNat q.b.value,
          UInt8.ofNat q.c.value, UInt8.ofNat q.d.value] = q.groups := by
        rw [quadGroups_eq]
        change [UInt16.ofNat (256 * (UInt8.ofNat q.a.value).toNat + (UInt8.ofNat q.b.value).toNat),
          UInt16.ofNat (256 * (UInt8.ofNat q.c.value).toNat + (UInt8.ofNat q.d.value).toNat)] = _
        rw [value, value, value, value, Quad.groups]
      have ends := EndsAs.quad q.parse (by simp [Quad.write])
        (q.not_mem_write (by decide) (by decide))
      rw [groups] at ends
      simpa using ends

/-- The constructor at a text of the grammar. -/
theorem TextV6.ofString_write (t : TextV6) :
    IPAddress.ofString t.write = .ok (IPAddress.ofV6 t.value) := by
  obtain ⟨v, run, groups⟩ : ∃ v, IPAddress.ofString t.write = .ok (IPAddress.ofV6 v) ∧
      v.toList = t.groups := by
    cases t with
    | full all count => exact ofString_full (readsAs_map all.hex) all.endsAs count
    | compressed left right count =>
        have := ofString_gap (readsAs_map left) (readsAs_map right.hex) right.endsAs
          (by simpa [Groups.values] using count)
        rw [List.length_map] at this
        exact this
  rw [run, value_eq groups]

/-- **Completeness**: every text of the grammar is read, as the groups it denotes. -/
theorem ofString_complete (t : TextV6) : ∃ a, IPAddress.ofString t.write = .ok a ∧
    a.type = .v6 ∧ a.ipv6 = t.value :=
  ⟨_, t.ofString_write, IPAddress.type_ofV6 _, IPAddress.ipv6_ofV6 _⟩

end NetworkInterface
