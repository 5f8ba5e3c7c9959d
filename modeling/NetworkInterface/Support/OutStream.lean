import NetworkInterface.Support.Numeral

/-!
# Support — OutStream

Formatted output to a `std::ostream` that writes into a string, in the classic locale.  The base,
`std::uppercase` and the fill character stay as they are set; the width is reset by each insertion.

`text_setw_two`: a byte inserted in base 16, at width two and filled with zeros, is `hexPair`.
-/

namespace Support

/-- A `std::ostream` into a string: what was written, and the format of what is inserted next. -/
structure OutStream where
  text : List Char := []
  base : Nat := 10
  uppercase : Bool := false
  fill : Char := ' '
  width : Nat := 0

namespace OutStream

/-- Writes `t`, with as much of the fill before it as the width asks for. -/
def put (os : OutStream) (t : List Char) : OutStream :=
  { os with text := os.text ++ (List.replicate (os.width - t.length) os.fill ++ t), width := 0 }

/-- `os << std::setw(n)`. -/
def setw (os : OutStream) (n : Nat) : OutStream := { os with width := n }

/-- `os << c`, for a character. -/
def putChar (os : OutStream) (c : Char) : OutStream := os.put [c]

/-- `os << n`, for an unsigned integer. -/
def putUnsigned (os : OutStream) (n : Nat) : OutStream :=
  let digits := Nat.toDigits os.base n
  os.put (if os.uppercase then digits.map Char.toUpper else digits)

/-- Bytes are inserted in hexadecimal, with zeros before them, and nothing is pending. -/
structure InHex (os : OutStream) (upperCase : Bool) : Prop where
  base : os.base = 16
  uppercase : os.uppercase = upperCase
  fill : os.fill = '0'
  width : os.width = 0

variable {os : OutStream} {upperCase : Bool}

theorem text_putChar (h : os.InHex upperCase) (c : Char) :
    (os.putChar c).text = os.text ++ [c] := by
  rw [putChar, put, h.width]
  rfl

theorem InHex.putChar (h : os.InHex upperCase) (c : Char) : (os.putChar c).InHex upperCase :=
  ⟨h.base, h.uppercase, h.fill, rfl⟩

theorem InHex.putUnsigned (h : os.InHex upperCase) (w n : Nat) :
    ((os.setw w).putUnsigned n).InHex upperCase :=
  ⟨h.base, h.uppercase, h.fill, rfl⟩

/-- A byte, at width two. -/
theorem text_setw_two (h : os.InHex upperCase) {n : Nat} (hn : n < 256) :
    ((os.setw 2).putUnsigned n).text = os.text ++ Numeral.hexPair upperCase n := by
  have digits : (if upperCase then (Nat.toDigits 16 n).map Char.toUpper else Nat.toDigits 16 n) =
      if n < 16 then [Numeral.hexChar upperCase n]
      else [Numeral.hexChar upperCase (n / 16), Numeral.hexChar upperCase (n % 16)] := by
    by_cases small : n < 16
    · rw [if_pos small, Nat.toDigits_of_lt_base small]
      cases upperCase <;> rfl
    · rw [if_neg small, Nat.toDigits_of_base_le (by decide) (by omega),
        Nat.toDigits_of_lt_base (show n / 16 < 16 by omega)]
      cases upperCase <;> rfl
  rw [putUnsigned, put, setw]
  dsimp only
  rw [h.base, h.uppercase, h.fill, digits, Numeral.hexPair]
  by_cases small : n < 16
  · have zero : n / 16 = 0 := Nat.div_eq_of_lt small
    rw [if_pos small, zero, Nat.mod_eq_of_lt small]
    cases upperCase <;> rfl
  · rw [if_neg small]
    rfl

end OutStream

end Support
