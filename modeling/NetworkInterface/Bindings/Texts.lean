import NetworkInterface.Address.Legible
import NetworkInterface.Bindings.Session

/-!
# Bindings — Texts

A structure has its addresses as texts.  A C++ program that gives them to the constructor of
`IPAddress` gets addresses that are equal to those of the interface (`parses_of_reaches`), provided
the delegate passed addresses that an `IPAddress` can be, and no default one.

What the table holds is what the operations carried into it (`Stores.exec`).
-/

namespace NetworkInterface

open Support.Runs

variable {O : Type*} [DecidableEq O]

/-! ### What the table holds -/

/-- What the operation puts in the table has the property, where what it changes has it. -/
def Operation.Carries (P : Interface → Prop) : Operation O → Prop
  | .onNewInterfacesList interfaces => ∀ name intfc, interfaces.lookup name = some intfc → P intfc
  | .onInterfaceAdded _ intfc       => P intfc
  | .onEnabledStateChanged _ value  => ∀ intfc, P intfc → P ((Property.isEnabled value).set intfc)
  | .onConnectedStateChanged _ value =>
      ∀ intfc, P intfc → P ((Property.isConnected value).set intfc)
  | .onAliasChanged _ value          => ∀ intfc, P intfc → P ((Property.aliasName value).set intfc)
  | .onIPAddressInfosChanged _ value =>
      ∀ intfc, P intfc → P ((Property.ipAddressInfos value).set intfc)
  | .onGatewaysChanged _ value       => ∀ intfc, P intfc → P ((Property.gateways value).set intfc)
  | _                                => True

/-- Each interface of the table has the property. -/
def Stores (P : Interface → Prop) (helper : Helper O) : Prop :=
  ∀ name intfc, helper.networkInterfaces.lookup name = some intfc → P intfc

section
variable {P : Interface → Prop} {helper : Helper O}

omit [DecidableEq O] in
theorem Stores.insert (h : Stores P helper) (name : Text) {intfc : Interface} (hP : P intfc)
    (received : O → List Delivery) :
    Stores P ({ helper with
      networkInterfaces := helper.networkInterfaces.insert name intfc, received }) := by
  intro name' found hfound
  by_cases hname : name' = name
  · subst hname
    rw [AList.lookup_insert] at hfound
    exact Option.some.inj hfound ▸ hP
  · rw [AList.lookup_insert_ne hname] at hfound
    exact h name' found hfound

theorem Stores.onPropertyChanged (h : Stores P helper) (interfaceName : Text) {property : Property}
    (hP : ∀ intfc, P intfc → P (property.set intfc)) :
    Stores P (helper.onPropertyChanged interfaceName property) := by
  rw [Helper.onPropertyChanged]
  split
  · rename_i intfc hfound
    split
    · exact h.insert interfaceName (hP intfc (h _ _ hfound)) _
    · exact h
  · exact h

/-- **The table holds** what the operations carried into it. -/
theorem Stores.exec (h : Stores P helper) {operation : Operation O} (hP : operation.Carries P) :
    Stores P (operation.exec helper) := by
  cases operation with
  | registerObserver observer =>
      cases observer with
      | none => exact h
      | some observer =>
          change Stores P (helper.registerObserver (some observer)).1
          rw [Helper.registerObserver]
          split
          · exact h
          · exact h
  | unregisterObserver observer =>
      cases observer with
      | none => exact h
      | some observer =>
          change Stores P (helper.unregisterObserver (some observer)).1
          rw [Helper.unregisterObserver]
          split
          · exact h
          · exact h
  | onNewInterfacesList interfaces => exact hP
  | onInterfaceAdded interfaceName intfc =>
      change Stores P (helper.onInterfaceAdded interfaceName intfc)
      rw [Helper.onInterfaceAdded]
      split
      · exact h
      · exact h.insert interfaceName hP _
  | onInterfaceRemoved interfaceName =>
      change Stores P (helper.onInterfaceRemoved interfaceName)
      rw [Helper.onInterfaceRemoved]
      split
      · intro name found hfound
        by_cases hname : name = interfaceName
        · subst hname
          rw [AList.lookup_erase] at hfound
          cases hfound
        · rw [AList.lookup_erase_ne hname] at hfound
          exact h name found hfound
      · exact h
  | onEnabledStateChanged name value => exact h.onPropertyChanged name hP
  | onConnectedStateChanged name value => exact h.onPropertyChanged name hP
  | onAliasChanged name value => exact h.onPropertyChanged name hP
  | onIPAddressInfosChanged name value => exact h.onPropertyChanged name hP
  | onGatewaysChanged name value => exact h.onPropertyChanged name hP

end

namespace Bindings

open Support.Separation

/-! ### The texts of addresses -/

/-- All the addresses have a text. -/
def LegibleInterface (intfc : Interface) : Prop :=
  (∀ info ∈ intfc.ipAddressInfos, Legible info.address) ∧
    ∀ gateway ∈ intfc.gateways, Legible gateway

/-! ### Sessions -/

variable (allocator : Allocator Block)

/-- The operation passes addresses that have a text. -/
def Event.Legible : Event O → Prop
  | .operation op => op.Carries LegibleInterface
  | _             => True

/-- What the table and the structures are copies of has a text. -/
structure LegibleSession (session : Session O) : Prop where
  table : Stores LegibleInterface session.helper
  held : ∀ copy ∈ session.held, LegibleInterface copy.2

section
variable {session session' : Session O}

omit [DecidableEq O] in
theorem LegibleSession.give {intfc : Interface} (h : LegibleSession session)
    (hintfc : LegibleInterface intfc) (hgive : session.give allocator intfc = some session') :
    LegibleSession session' := by
  obtain ⟨made, -, rfl⟩ := Option.map_eq_some_iff.mp hgive
  exact ⟨h.table, List.forall_mem_cons.mpr ⟨hintfc, h.held⟩⟩

theorem LegibleSession.next {event : Event O} (h : LegibleSession session)
    (hevent : event.Legible) (hnext : session.next allocator event = some session') :
    LegibleSession session' := by
  cases event with
  | operation operation =>
      obtain rfl := Option.some.inj hnext
      exact ⟨h.table.exec hevent, h.held⟩
  | enumerateInterfaces i =>
      rw [Session.next] at hnext
      split at hnext
      · rename_i intfc hfound
        obtain ⟨⟨name, found⟩, hentry, rfl⟩ := List.mem_map.mp (List.mem_of_getElem? hfound)
        exact h.give allocator (h.table name found (AList.mem_lookup_iff.mpr hentry)) hnext
      · obtain rfl := Option.some.inj hnext
        exact h
  | getInterfaceByName name =>
      rw [Session.next] at hnext
      split at hnext
      · rename_i intfc hfound
        rw [Helper.getInterfaceByName] at hfound
        split at hfound
        · rename_i found hlookup
          obtain rfl := Except.ok.inj hfound
          exact h.give allocator (h.table _ _ hlookup) hnext
        · cases hfound
      · obtain rfl := Option.some.inj hnext
        exact h
  | macAddressToString macAddress upperCase =>
      rw [Session.next, Session.giveText] at hnext
      obtain ⟨made, -, rfl⟩ := Option.map_eq_some_iff.mp hnext
      exact ⟨h.table, h.held⟩
  | freeNetworkInterface p =>
      obtain ⟨made, -, rfl⟩ := Option.map_eq_some_iff.mp hnext
      exact ⟨h.table, fun copy hcopy => h.held copy (List.mem_of_mem_eraseP hcopy)⟩

end

/-- **The addresses of a structure** can be read back, in every session. -/
theorem parses_of_reaches {heap : Heap Block}
    (hheap : ∀ a fields, heap.lookup a ≠ some (.intfc fields))
    {session : Session O}
    (h : Reaches (Meeting (fun _ event => event.Legible) (Steps (Session.next allocator)))
      { heap := heap, helper := {} } session)
    {p : Pointer} {intfc : Interface} (hheld : (p, intfc) ∈ session.held) :
    ∃ reading, (readStructure p session.heap).map Prod.fst = some reading ∧
      List.Forall₂ Parses reading.ipAddresses (intfc.ipAddressInfos.map IPAddressInfo.address) ∧
      List.Forall₂ Parses reading.gateways intfc.gateways ∧
      reading.macAddress = intfc.macAddress := by
  have hlegible : LegibleSession session :=
    h.invariant (fun _ _ _ hs hstep => hs.next allocator hstep.1 hstep.2)
      ⟨fun _ _ hfound => (by cases hfound), fun _ hmem => absurd hmem List.not_mem_nil⟩
  have howns : session.Owns heap :=
    h.invariant (fun _ _ _ hs hstep => hs.of_next allocator hheap hstep.2)
      (Session.owns_start heap _)
  obtain ⟨haddresses, hgateways⟩ := hlegible.held _ hheld
  refine ⟨.of intfc, howns.read hheld, ?_, ?_, rfl⟩
  · rw [List.forall₂_map_right_iff, Reading.of, List.forall₂_map_left_iff, List.forall₂_same]
    exact fun info hinfo => parses_of_legible (haddresses info hinfo)
  · rw [Reading.of, List.forall₂_map_left_iff, List.forall₂_same]
    exact fun gateway hgateway => parses_of_legible (hgateways gateway hgateway)

/-- An interface with an address and a gateway. -/
def lan : Interface where
  id := "en0".toList
  ipAddressInfos := [{ address := .ofV4 #v[192, 168, 0, 2], netmask := .ofV4 #v[255, 255, 255, 0] }]
  gateways := [.ofV4 #v[192, 168, 0, 1]]

theorem legible_lan : LegibleInterface lan := by
  refine ⟨fun info hinfo => ?_, fun gateway hgateway => ?_⟩
  · obtain rfl := List.mem_singleton.mp hinfo
    exact ⟨.ofV4 _, by decide⟩
  · obtain rfl := List.mem_singleton.mp hgateway
    exact ⟨.ofV4 _, by decide⟩

/-- It is added, and copied. -/
theorem parses_of_reaches_lan : ∃ (session : Session Unit) (p : Pointer),
    (p, lan) ∈ session.held ∧
    ∃ reading, (readStructure p session.heap).map Prod.fst = some reading ∧
      List.Forall₂ Parses reading.ipAddresses (lan.ipAddressInfos.map IPAddressInfo.address) ∧
      List.Forall₂ Parses reading.gateways lan.gateways ∧
      reading.macAddress = lan.macAddress := by
  let start : Session Unit := { heap := ∅, helper := {} }
  let added : Session Unit :=
    { start with helper := (Operation.onInterfaceAdded "en0".toList lan).exec {} }
  obtain ⟨p, heap, hmake, -⟩ := (triple_make .lowest lan).run rfl
  have hfound : added.helper.getInterfaceByName (cStr "en0".toList) = .ok lan := rfl
  have hnext : added.next .lowest (.getInterfaceByName "en0".toList) =
      some { added with heap := heap, held := [(p, lan)] } := by
    simp only [Session.next, hfound, Session.give]
    rw [hmake]
    rfl
  let adds : Event Unit := .operation (.onInterfaceAdded "en0".toList lan)
  let copies : Event Unit := .getInterfaceByName "en0".toList
  have hadds : adds.Legible ∧ start.next .lowest adds = some added := ⟨legible_lan, rfl⟩
  have hcopies : copies.Legible ∧ added.next .lowest copies = some _ := ⟨trivial, hnext⟩
  exact ⟨_, p, List.mem_singleton_self _, parses_of_reaches .lowest (by simp)
    (.more (.more .refl hadds) hcopies) (List.mem_singleton_self _)⟩

end Bindings

end NetworkInterface
