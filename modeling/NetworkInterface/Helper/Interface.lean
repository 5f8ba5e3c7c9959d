import Mathlib.Data.List.AList
import NetworkInterface.Address.Mask

/-!
# Helper — Interface

`Interface`, with the comparison the header gives it, and the table of interfaces the helper and
its delegates keep.

`ipAddressInfos` and `gateways` are compared element by element with `operator==`, which two objects
with different text arrays can satisfy.  So `Interface` is not compared with `=` but with `==`.
-/

namespace NetworkInterface

/-- `MacAddress`. -/
abbrev MacAddress := Vector UInt8 6

/-- `Interface::Type`. -/
inductive Interface.Type where
  | none
  | loopback
  | ethernet
  | wifi
  | awdl
  deriving DecidableEq, Repr

structure Interface where
  id : Text := []
  description : Text := []
  /-- `alias`, which is a keyword here. -/
  aliasName : Text := []
  macAddress : MacAddress := Vector.replicate 6 0
  ipAddressInfos : List IPAddressInfo := []
  gateways : List IPAddress := []
  type : Interface.Type := .none
  isEnabled : Bool := false
  isConnected : Bool := false
  isVirtual : Bool := false

/-- `operator==(Interface const&, Interface const&)`. -/
def Interface.equals (lhs rhs : Interface) : Bool :=
  lhs.id == rhs.id && lhs.description == rhs.description && lhs.aliasName == rhs.aliasName &&
    lhs.macAddress == rhs.macAddress && lhs.ipAddressInfos == rhs.ipAddressInfos &&
    lhs.gateways == rhs.gateways && lhs.type == rhs.type && lhs.isEnabled == rhs.isEnabled &&
    lhs.isConnected == rhs.isConnected && lhs.isVirtual == rhs.isVirtual

instance : BEq Interface := ⟨Interface.equals⟩

/-- Lists are compared element by element. -/
instance equivBEqList {α : Type*} [BEq α] [EquivBEq α] : EquivBEq (List α) where
  symm := by
    intro l l' h
    induction l generalizing l' with
    | nil =>
        cases l' with
        | nil => rfl
        | cons _ _ => cases h
    | cons a l ih =>
        cases l' with
        | nil => cases h
        | cons b l' =>
            obtain ⟨hab, hl⟩ := Bool.and_eq_true_iff.mp h
            exact Bool.and_eq_true_iff.mpr ⟨BEq.symm hab, ih hl⟩
  trans := by
    intro l l' l'' h h'
    induction l generalizing l' l'' with
    | nil =>
        cases l' with
        | nil => exact h'
        | cons _ _ => cases h
    | cons a l ih =>
        cases l' with
        | nil => cases h
        | cons b l' =>
            cases l'' with
            | nil => cases h'
            | cons c l'' =>
                obtain ⟨hab, hl⟩ := Bool.and_eq_true_iff.mp h
                obtain ⟨hbc, hl'⟩ := Bool.and_eq_true_iff.mp h'
                exact Bool.and_eq_true_iff.mpr ⟨BEq.trans hab hbc, ih hl hl'⟩

/-- `Interfaces`: an `std::unordered_map`.  The order of the entries is the one a loop over the
map meets them in. -/
abbrev Interfaces := AList fun _ : Text => Interface

/-- The interfaces a loop over the map meets. -/
def interfacesOf (interfaces : Interfaces) : List Interface :=
  interfaces.entries.map fun intfcKV => intfcKV.2

end NetworkInterface
