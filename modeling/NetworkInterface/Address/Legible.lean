import NetworkInterface.Address.RoundTrip

/-!
# Address — Legible

The text of an address as others hand it on: copied up to its NUL, it is read back as an equal
address (`parses_of_legible`).
-/

namespace NetworkInterface

/-- An address that has a text. -/
def Legible (address : IPAddress) : Prop := address.Built ∧ address.type ≠ .none

/-- The constructor gives back the address. -/
def Parses (text : Text) (address : IPAddress) : Prop :=
  ∃ read, IPAddress.ofString text = .ok read ∧ (read == address) = true

theorem cStr_toText (address : IPAddress) : cStr address.toText = address.toText := by
  refine cStr_eq_self fun h => ?_
  have hall := List.mem_takeWhile_imp h
  exact absurd rfl (of_decide_eq_true hall)

/-- What the constructor makes of a copy of the text. -/
theorem parses_of_legible {address : IPAddress} (h : Legible address) :
    Parses (cStr address.toText) address := by
  obtain ⟨hbuilt, hvalid⟩ := h
  rw [cStr_toText, Parses]
  cases htype : address.type with
  | none => exact absurd htype hvalid
  | v4 =>
      refine ⟨.ofV4 address.ipv4, ?_, IPAddress.ofV4_beq htype⟩
      rw [hbuilt.toText_eq hvalid, IPAddress.currentText, htype]
      exact ofString_buildIPV4String address.ipv4
  | v6 =>
      obtain ⟨t, htext, hvalue, -⟩ := exists_currentText htype
      refine ⟨.ofV6 address.ipv6, ?_, IPAddress.ofV6_beq htype⟩
      rw [hbuilt.toText_eq hvalid, htext, t.ofString_write, hvalue]

end NetworkInterface
