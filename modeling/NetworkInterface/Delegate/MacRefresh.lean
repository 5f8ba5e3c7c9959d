import Mathlib.Data.Finset.Dedup
import Mathlib.Data.Finset.Filter
import Mathlib.Data.List.Infix
import NetworkInterface.Delegate.Mac

/-!
# Delegate — Mac refresh

The dynamic store as a map from keys to dictionaries, the mapping from interfaces to services, and
`OsDependentDelegate_MacOS::refreshInterfaces`.

`Listed` is what the loop over the services keeps: the mapping and the list of interfaces say the
same, each interface being the one its service describes.  The mapping depends on the `/Interface`
entries alone (`mapping_foldlM`).
-/

namespace NetworkInterface

namespace MacOS

/-! ### Keys -/

/-- `DYNAMIC_STORE_NETWORK_STATE_INTERFACE_STRING`. -/
def stateInterfaceString : Text := "State:/Network/Interface/".toList
/-- `DYNAMIC_STORE_NETWORK_SETUP_SERVICE_STRING`. -/
def setupServiceString : Text := "Setup:/Network/Service/".toList
/-- `DYNAMIC_STORE_LINK_STRING`. -/
def linkString : Text := "/Link".toList
/-- `DYNAMIC_STORE_IPV4_STRING`. -/
def ipv4String : Text := "/IPv4".toList
/-- `DYNAMIC_STORE_IPV6_STRING`. -/
def ipv6String : Text := "/IPv6".toList
/-- `DYNAMIC_STORE_INTERFACE_STRING`. -/
def interfaceString : Text := "/Interface".toList

def hasPrefix (key start : Text) : Bool := start.isPrefixOf key

def hasSuffix (key ending : Text) : Bool := ending.isSuffixOf key

/-- `substringWithRange`, at the range between a prefix and a suffix. -/
def substringBetween (key start ending : Text) : Outcome Text :=
  if start.length + ending.length ≤ key.length then
    .ok ((key.drop start.length).take (key.length - start.length - ending.length))
  else .error (.outOfRange start.length key.length)

/-- The key matches the pattern `start [^/]+ ending`. -/
def Matches (start ending key : Text) : Prop :=
  ∃ segment, segment ≠ [] ∧ '/' ∉ segment ∧ key = start ++ (segment ++ ending)

theorem substringBetween_eq (start segment ending : Text) :
    substringBetween (start ++ (segment ++ ending)) start ending = .ok segment := by
  rw [substringBetween, if_pos (by simp only [List.length_append]; omega), List.drop_left]
  simp only [List.length_append]
  rw [Nat.add_sub_cancel_left, Nat.add_sub_cancel, List.take_left]

theorem hasPrefix_append (start rest : Text) : hasPrefix (start ++ rest) start = true :=
  List.isPrefixOf_iff_prefix.mpr (List.prefix_append start rest)

theorem hasSuffix_append (front ending : Text) : hasSuffix (front ++ ending) ending = true :=
  List.isSuffixOf_iff_suffix.mpr (List.suffix_append front ending)

/-- A key that starts and ends like this, with something between the two. -/
theorem substringBetween_ok {key start ending segment : Text} (hstart : hasPrefix key start = true)
    (hending : hasSuffix key ending = true)
    (h : substringBetween key start ending = .ok segment) : key = start ++ (segment ++ ending) := by
  obtain ⟨rest, rfl⟩ := List.isPrefixOf_iff_prefix.mp hstart
  by_cases hlen : start.length + ending.length ≤ (start ++ rest).length
  · rw [List.length_append, Nat.add_le_add_iff_left] at hlen
    obtain ⟨middle, rfl⟩ := List.suffix_of_suffix_length_le
      (List.isSuffixOf_iff_suffix.mp hending) (List.suffix_append start rest) hlen
    rw [Except.ok.inj ((substringBetween_eq start middle ending).symm.trans h)]
  · rw [substringBetween, if_neg hlen] at h
    cases h

/-- Whether a key matches is found out by looking at it. -/
instance decidableMatches (start ending key : Text) : Decidable (Matches start ending key) :=
  decidable_of_iff
    (∃ segment ∈ key.tails.flatMap List.inits,
      segment ≠ [] ∧ '/' ∉ segment ∧ key = start ++ (segment ++ ending)) (by
    constructor
    · rintro ⟨segment, -, h⟩
      exact ⟨segment, h⟩
    · rintro ⟨segment, hne, hslash, rfl⟩
      refine ⟨segment, List.mem_flatMap.mpr ⟨segment ++ ending, ?_, ?_⟩, hne, hslash, rfl⟩
      · exact (List.mem_tails _ _).mpr (List.suffix_append _ _)
      · exact (List.mem_inits _ _).mpr (List.prefix_append _ _))

/-! ### The store -/

/-- The dynamic store. -/
abbrev Store := AList fun _ : Text => Dictionary

/-- What the delegate asks the system about, besides the store. -/
structure System where
  /-- The order in which `SCDynamicStoreCopyKeyList` lists keys. -/
  listing : Finset Text → List Text
  mem_listing : ∀ {keys key}, key ∈ listing keys ↔ key ∈ keys
  /-- The `AF_LINK` entries of `getifaddrs` that have media and a link-layer address of six
  bytes. -/
  ifaddrs : List (Text × MacAddress)

/-- `SCDynamicStoreCopyKeyList`, at the pattern of the service keys. -/
def copyServiceKeys (os : System) (store : Store) : List Text :=
  os.listing (store.keys.toFinset.filter (Matches setupServiceString interfaceString))

theorem mem_copyServiceKeys {os : System} {store : Store} {key : Text} :
    key ∈ copyServiceKeys os store ↔
      key ∈ store ∧ Matches setupServiceString interfaceString key := by
  rw [copyServiceKeys, os.mem_listing, Finset.mem_filter, List.mem_toFinset, AList.mem_keys]

/-- The `/Interface` key of a service. -/
def interfaceKey (serviceID : Text) : Text := setupServiceString ++ (serviceID ++ interfaceString)

/-! ### The mapping -/

/-- `_interfaceToServiceMapping`. -/
abbrev ServiceMapping := AList fun _ : Text => Text

def getServiceForInterface (mapping : ServiceMapping) (interfaceName : Text) : Option Text :=
  mapping.lookup interfaceName

def getInterfaceForService (mapping : ServiceMapping) (serviceID : Text) : Option Text :=
  (mapping.entries.find? fun entry => entry.2 = serviceID).map Sigma.fst

/-! ### The fields of an interface -/

def getInterfaceType (hardware : Text) : Interface.Type :=
  if hardware = "AirPort".toList then .wifi
  else if hardware = "Ethernet".toList then .ethernet
  else .none

def getIsVirtualInterface (deviceName : Text) (type : Interface.Type) : Bool :=
  type = .loopback || hasPrefix deviceName "bridge".toList

def isInterfaceConnected (store : Store) (linkStateKey : Text) : Bool :=
  match store.lookup linkStateKey with
  | some value => value.active.getD false
  | none => false

def getUserDefinedName (store : Store) (serviceID : Text) : Text :=
  match store.lookup (setupServiceString ++ serviceID) with
  | some value => value.userDefinedName.getD []
  | none => []

/-- Either block of `getIPAddressInfo`: the `State` key, and the `Setup` key of the service if that
gave nothing. -/
def addFromStateOrSetup
    (addFromKey : Option Dictionary → IPAddressInfos → Outcome (Bool × IPAddressInfos))
    (ending : Text) (store : Store) (mapping : ServiceMapping) (interfaceName : Text)
    (ipInfos : IPAddressInfos) : Outcome IPAddressInfos := do
  let (inserted, ipInfos) ←
    addFromKey (store.lookup (stateInterfaceString ++ (interfaceName ++ ending))) ipInfos
  if inserted then return ipInfos
  else
    match getServiceForInterface mapping interfaceName with
    | some serviceID => do
        let (_, ipInfos) ←
          addFromKey (store.lookup (setupServiceString ++ (serviceID ++ ending))) ipInfos
        return ipInfos
    | none => return ipInfos

def getIPAddressInfo (store : Store) (mapping : ServiceMapping) (interfaceName : Text) :
    Outcome IPAddressInfos := do
  let ipInfos ← addFromStateOrSetup addIPAddressV4InfoFromKey ipv4String store mapping
    interfaceName []
  addFromStateOrSetup addIPAddressV6InfoFromKey ipv6String store mapping interfaceName ipInfos

/-! ### refreshInterfaces -/

/-- `getStdString`: a null pointer is read as characters. -/
def getStdString (nsString : Option Text) : Outcome Text :=
  match nsString with
  | some text => .ok text
  | none => .error (.outOfBounds 0 0)

/-- The interface object made for a service. -/
def serviceInterface (store : Store) (mapping : ServiceMapping) (deviceName hardware : Text)
    (userDefinedName : Option Text) (serviceID : Text) : Outcome Interface := do
  let type := getInterfaceType hardware
  let description ← getStdString userDefinedName
  let aliasName := getUserDefinedName store serviceID
  let aliasName :=
    if aliasName.isEmpty then description ++ " (".toList ++ deviceName ++ ")".toList
    else aliasName
  let ipAddressInfos ← getIPAddressInfo store mapping deviceName
  return {
    id := deviceName
    type := type
    description := description
    aliasName := aliasName
    isEnabled := true
    isConnected :=
      isInterfaceConnected store (stateInterfaceString ++ (deviceName ++ linkString))
    ipAddressInfos := ipAddressInfos
    isVirtual := getIsVirtualInterface deviceName type }

/-- The body of the loop over the services. -/
def refreshService (store : Store) (state : ServiceMapping × Interfaces) (key : Text) :
    Outcome (ServiceMapping × Interfaces) :=
  match store.lookup key with
  | some value =>
      match value.deviceName, value.hardware with
      | some deviceName, some hardware => do
          let serviceID ← substringBetween key setupServiceString interfaceString
          let mapping := state.1.insert deviceName serviceID
          let interface ←
            serviceInterface store mapping deviceName hardware value.userDefinedName serviceID
          return (mapping, state.2.insert deviceName interface)
      | _, _ => .ok state
  | none => .ok state

/-- `setOtherFieldsFromIOCTL`. -/
def setOtherFieldsFromIOCTL (os : System) (interfaces : Interfaces) : Interfaces :=
  os.ifaddrs.foldl (fun interfaces ifa =>
    match interfaces.lookup ifa.1 with
    | some interface => interfaces.insert ifa.1 { interface with macAddress := ifa.2 }
    | none => interfaces) interfaces

/-- The interface has a type and a MAC address. -/
def isComplete (interface : Interface) : Bool :=
  interface.type ≠ .none && interface.macAddress.toList.any (· ≠ 0)

/-- The last loop: interfaces that are not complete are removed. -/
def removeIncomplete (interfaces : Interfaces) : Interfaces where
  entries := interfaces.entries.filter fun entry => isComplete entry.2
  nodupKeys := interfaces.nodupKeys.sublist List.filter_sublist

/-- `refreshInterfaces`: the new mapping and the list of interfaces. -/
def refreshInterfaces (os : System) (store : Store) : Outcome (ServiceMapping × Interfaces) := do
  let (mapping, interfaces) ← (copyServiceKeys os store).foldlM (refreshService store) (∅, ∅)
  return (mapping, removeIncomplete (setOtherFieldsFromIOCTL os interfaces))

/-! ### What is read -/

/-- The keys `getIPAddressInfo` reads, if the service is needed. -/
def addressKeys (mapping : ServiceMapping) (interfaceName : Text) : List Text :=
  [ipv4String, ipv6String].flatMap fun ending =>
    (stateInterfaceString ++ (interfaceName ++ ending)) ::
      (mapping.lookup interfaceName).toList.map fun serviceID =>
        setupServiceString ++ (serviceID ++ ending)

variable {store store' : Store} {mapping mapping' : ServiceMapping} {interfaceName : Text}

theorem addFromStateOrSetup_congr
    {addFromKey : Option Dictionary → IPAddressInfos → Outcome (Bool × IPAddressInfos)}
    {ending : Text} (ipInfos : IPAddressInfos)
    (hmapping : mapping.lookup interfaceName = mapping'.lookup interfaceName)
    (hstate : store.lookup (stateInterfaceString ++ (interfaceName ++ ending)) =
      store'.lookup (stateInterfaceString ++ (interfaceName ++ ending)))
    (hsetup : ∀ serviceID, mapping.lookup interfaceName = some serviceID →
      store.lookup (setupServiceString ++ (serviceID ++ ending)) =
        store'.lookup (setupServiceString ++ (serviceID ++ ending))) :
    addFromStateOrSetup addFromKey ending store mapping interfaceName ipInfos =
      addFromStateOrSetup addFromKey ending store' mapping' interfaceName ipInfos := by
  rw [addFromStateOrSetup, addFromStateOrSetup, hstate, getServiceForInterface,
    getServiceForInterface, ← hmapping]
  cases hservice : mapping.lookup interfaceName with
  | none => rfl
  | some serviceID =>
      simp only [hsetup serviceID hservice]

/-- The addresses of an interface depend on the keys that are read. -/
theorem getIPAddressInfo_congr
    (hmapping : mapping.lookup interfaceName = mapping'.lookup interfaceName)
    (hkeys : ∀ key ∈ addressKeys mapping interfaceName, store.lookup key = store'.lookup key) :
    getIPAddressInfo store mapping interfaceName =
      getIPAddressInfo store' mapping' interfaceName := by
  have state : ∀ ending ∈ [ipv4String, ipv6String],
      store.lookup (stateInterfaceString ++ (interfaceName ++ ending)) =
        store'.lookup (stateInterfaceString ++ (interfaceName ++ ending)) := fun ending h =>
    hkeys _ (List.mem_flatMap.mpr ⟨ending, h, List.mem_cons_self⟩)
  have setup : ∀ ending ∈ [ipv4String, ipv6String], ∀ serviceID,
      mapping.lookup interfaceName = some serviceID →
        store.lookup (setupServiceString ++ (serviceID ++ ending)) =
          store'.lookup (setupServiceString ++ (serviceID ++ ending)) := by
    intro ending h serviceID hs
    exact hkeys _ (List.mem_flatMap.mpr ⟨ending, h, by rw [hs]; simp⟩)
  rw [getIPAddressInfo, getIPAddressInfo, addFromStateOrSetup_congr [] hmapping
    (state _ List.mem_cons_self) (setup _ List.mem_cons_self)]
  refine congrArg _ (funext fun ipInfos => ?_)
  exact addFromStateOrSetup_congr ipInfos hmapping (state _ (by simp)) (setup _ (by simp))

/-- The interface a service describes depends on the mapping at its device only. -/
theorem serviceInterface_congr {deviceName : Text}
    (hmapping : mapping.lookup deviceName = mapping'.lookup deviceName) (hardware : Text)
    (userDefinedName : Option Text) (serviceID : Text) :
    serviceInterface store mapping deviceName hardware userDefinedName serviceID =
      serviceInterface store mapping' deviceName hardware userDefinedName serviceID := by
  rw [serviceInterface, serviceInterface, getIPAddressInfo_congr hmapping fun _ _ => rfl]

/-- The fields of the interface a service describes. -/
theorem serviceInterface_ok {deviceName hardware serviceID : Text} {userDefinedName : Option Text}
    {interface : Interface} (h : serviceInterface store mapping deviceName hardware userDefinedName
      serviceID = .ok interface) :
    ∃ description, userDefinedName = some description ∧
      interface.type = getInterfaceType hardware ∧
      interface.macAddress = Vector.replicate 6 0 ∧
      interface.isConnected =
        isInterfaceConnected store (stateInterfaceString ++ (deviceName ++ linkString)) ∧
      interface.aliasName = (if (getUserDefinedName store serviceID).isEmpty then
        description ++ " (".toList ++ deviceName ++ ")".toList
        else getUserDefinedName store serviceID) ∧
      getIPAddressInfo store mapping deviceName = .ok interface.ipAddressInfos := by
  obtain ⟨description, hdescription, h⟩ := Outcome.bind_eq_ok.mp h
  obtain ⟨ipAddressInfos, hinfos, h⟩ := Outcome.bind_eq_ok.mp h
  obtain rfl := Except.ok.inj h
  cases userDefinedName with
  | none => cases hdescription
  | some text =>
      obtain rfl := Except.ok.inj hdescription
      exact ⟨text, rfl, rfl, rfl, rfl, rfl, hinfos⟩

/-! ### The loop over the services -/

/-- One turn of the loop, at the key of a service. -/
theorem refreshService_cases {state state' : ServiceMapping × Interfaces} {serviceID : Text}
    (h : refreshService store state (interfaceKey serviceID) = .ok state') :
    (∃ value deviceName hardware interface, store.lookup (interfaceKey serviceID) = some value ∧
      value.deviceName = some deviceName ∧ value.hardware = some hardware ∧
      serviceInterface store (state.1.insert deviceName serviceID) deviceName hardware
        value.userDefinedName serviceID = .ok interface ∧
      state' = (state.1.insert deviceName serviceID, state.2.insert deviceName interface)) ∨
    (∀ value, store.lookup (interfaceKey serviceID) = some value →
      value.deviceName = none ∨ value.hardware = none) ∧ state' = state := by
  rw [refreshService] at h
  cases hvalue : store.lookup (interfaceKey serviceID) with
  | none =>
      rw [hvalue] at h
      exact .inr ⟨nofun, (Except.ok.inj h).symm⟩
  | some value =>
      rw [hvalue] at h
      cases hname : value.deviceName with
      | none =>
          simp only [hname] at h
          refine .inr ⟨fun v hv => .inl ?_, (Except.ok.inj h).symm⟩
          rw [← Option.some.inj hv, hname]
      | some deviceName =>
          cases hhardware : value.hardware with
          | none =>
              simp only [hname, hhardware] at h
              refine .inr ⟨fun v hv => .inr ?_, (Except.ok.inj h).symm⟩
              rw [← Option.some.inj hv, hhardware]
          | some hardware =>
              simp only [hname, hhardware] at h
              obtain ⟨id, hid, h⟩ := Outcome.bind_eq_ok.mp h
              obtain rfl := Except.ok.inj ((substringBetween_eq _ _ _).symm.trans hid)
              obtain ⟨interface, hinterface, h⟩ := Outcome.bind_eq_ok.mp h
              exact .inl ⟨value, deviceName, hardware, interface, rfl, hname, hhardware, hinterface,
                (Except.ok.inj h).symm⟩

/-- The mapping and the list say the same, and the interfaces are those their services describe. -/
structure Listed (store : Store) (state : ServiceMapping × Interfaces) : Prop where
  service : ∀ deviceName serviceID, state.1.lookup deviceName = some serviceID →
    ∃ value hardware interface,
      Matches setupServiceString interfaceString (interfaceKey serviceID) ∧
      store.lookup (interfaceKey serviceID) = some value ∧ value.deviceName = some deviceName ∧
      value.hardware = some hardware ∧
      serviceInterface store state.1 deviceName hardware value.userDefinedName serviceID =
        .ok interface ∧ state.2.lookup deviceName = some interface
  only : ∀ deviceName, state.1.lookup deviceName = none → state.2.lookup deviceName = none

theorem Listed.nil : Listed store (∅, ∅) := ⟨nofun, fun _ _ => rfl⟩

theorem Listed.step {state state' : ServiceMapping × Interfaces} {key : Text}
    (h : Listed store state) (hkey : Matches setupServiceString interfaceString key)
    (hrun : refreshService store state key = .ok state') : Listed store state' := by
  obtain ⟨serviceID, hne, hslash, rfl⟩ := hkey
  rcases refreshService_cases hrun with
    ⟨value, deviceName, hardware, interface, hvalue, hname, hhardware, hinterface, rfl⟩ | ⟨-, rfl⟩
  · refine ⟨fun name id hid => ?_, fun name hnone => ?_⟩
    · by_cases hother : name = deviceName
      · subst hother
        obtain rfl := Option.some.inj ((AList.lookup_insert _).symm.trans hid)
        exact ⟨value, hardware, interface, ⟨serviceID, hne, hslash, rfl⟩, hvalue, hname, hhardware,
          hinterface, AList.lookup_insert _⟩
      · -- another interface keeps its service, and what that describes
        rw [AList.lookup_insert_ne hother] at hid
        obtain ⟨value', hardware', interface', hmatch, hvalue', hname', hhardware', hinterface',
          hlookup⟩ := h.service name id hid
        refine ⟨value', hardware', interface', hmatch, hvalue', hname', hhardware', ?_, ?_⟩
        · rwa [serviceInterface_congr (AList.lookup_insert_ne hother)]
        · rwa [AList.lookup_insert_ne hother]
    · by_cases hother : name = deviceName
      · subst hother
        cases (AList.lookup_insert _).symm.trans hnone
      · rw [AList.lookup_insert_ne hother] at hnone ⊢
        exact h.only name hnone
  · exact h

/-- **The loop** over the services keeps mapping and list together. -/
theorem Listed.run {keys : List Text}
    (hkeys : ∀ key ∈ keys, Matches setupServiceString interfaceString key) :
    ∀ {state state' : ServiceMapping × Interfaces}, Listed store state →
      keys.foldlM (refreshService store) state = .ok state' → Listed store state' := by
  induction keys with
  | nil =>
      intro state state' h hrun
      obtain rfl := Except.ok.inj hrun
      exact h
  | cons key keys ih =>
      intro state state' h hrun
      rw [List.foldlM_cons] at hrun
      obtain ⟨state₁, hfirst, hrun⟩ := Outcome.bind_eq_ok.mp hrun
      rw [List.forall_mem_cons] at hkeys
      exact ih hkeys.2 (h.step hkeys.1 hfirst) hrun

/-- **The mapping** depends on the values of the service keys alone. -/
theorem mapping_foldlM {keys : List Text}
    (hkeys : ∀ key ∈ keys, Matches setupServiceString interfaceString key)
    (hsame : ∀ key ∈ keys, store.lookup key = store'.lookup key) :
    ∀ {state state₁ state' state₁' : ServiceMapping × Interfaces}, state.1 = state'.1 →
      keys.foldlM (refreshService store) state = .ok state₁ →
      keys.foldlM (refreshService store') state' = .ok state₁' → state₁.1 = state₁'.1 := by
  induction keys with
  | nil =>
      intro state state₁ state' state₁' heq hrun hrun'
      obtain rfl := Except.ok.inj hrun
      obtain rfl := Except.ok.inj hrun'
      exact heq
  | cons key keys ih =>
      intro state state₁ state' state₁' heq hrun hrun'
      rw [List.forall_mem_cons] at hkeys hsame
      rw [List.foldlM_cons] at hrun hrun'
      obtain ⟨next, hfirst, hrun⟩ := Outcome.bind_eq_ok.mp hrun
      obtain ⟨next', hfirst', hrun'⟩ := Outcome.bind_eq_ok.mp hrun'
      refine ih hkeys.2 hsame.2 ?_ hrun hrun'
      obtain ⟨serviceID, -, -, rfl⟩ := hkeys.1
      have same : store.lookup (interfaceKey serviceID) = store'.lookup (interfaceKey serviceID) :=
        hsame.1
      rcases refreshService_cases hfirst with
        ⟨value, deviceName, hardware, interface, hvalue, hname, hhardware, -, rfl⟩ |
          ⟨hnone, rfl⟩ <;>
      rcases refreshService_cases hfirst' with
        ⟨value', deviceName', hardware', interface', hvalue', hname', hhardware', -, rfl⟩ |
          ⟨hnone', rfl⟩
      · obtain rfl := Option.some.inj (hvalue.symm.trans (same.trans hvalue'))
        obtain rfl := Option.some.inj (hname.symm.trans hname')
        rw [heq]
      · rcases hnone' value (same.symm.trans hvalue) with hc | hc
        · cases hname.symm.trans hc
        · cases hhardware.symm.trans hc
      · rcases hnone value' (same.trans hvalue') with hc | hc
        · cases hname'.symm.trans hc
        · cases hhardware'.symm.trans hc
      · exact heq

/-- No service is mapped to by two interfaces. -/
theorem Listed.inj {state : ServiceMapping × Interfaces} (h : Listed store state)
    {name name' serviceID : Text} (hname : state.1.lookup name = some serviceID)
    (hname' : state.1.lookup name' = some serviceID) : name = name' := by
  obtain ⟨value, -, -, -, hvalue, hdevice, -⟩ := h.service name serviceID hname
  obtain ⟨value', -, -, -, hvalue', hdevice', -⟩ := h.service name' serviceID hname'
  obtain rfl := Option.some.inj (hvalue.symm.trans hvalue')
  exact Option.some.inj (hdevice.symm.trans hdevice')

/-- The interface found for a service is the one that is mapped to it. -/
theorem Listed.getInterfaceForService {state : ServiceMapping × Interfaces} (h : Listed store state)
    {name serviceID : Text} (hname : state.1.lookup name = some serviceID) :
    getInterfaceForService state.1 serviceID = some name := by
  have entry := AList.mem_lookup_iff.mp (Option.mem_def.mpr hname)
  cases hfind : state.1.entries.find? (fun entry => entry.2 = serviceID) with
  | none =>
      have := List.find?_eq_none.mp hfind _ entry
      simp at this
  | some found =>
      obtain ⟨name', id⟩ := found
      obtain rfl : id = serviceID := by simpa using List.find?_some hfind
      have hname' := AList.mem_lookup_iff.mpr (List.mem_of_find?_eq_some hfind)
      rw [MacOS.getInterfaceForService, hfind]
      exact congrArg some (h.inj (Option.mem_def.mp hname') hname)

/-- What is found for a service is mapped to it. -/
theorem lookup_of_getInterfaceForService {name serviceID : Text}
    (h : getInterfaceForService mapping serviceID = some name) :
    mapping.lookup name = some serviceID := by
  obtain ⟨⟨name', id⟩, hfind, rfl⟩ := Option.map_eq_some_iff.mp h
  obtain rfl : id = serviceID := by simpa using List.find?_some hfind
  exact Option.mem_def.mp (AList.mem_lookup_iff.mpr (List.mem_of_find?_eq_some hfind))

/-! ### What is removed -/

/-- The MAC address the entries of `getifaddrs` give an interface. -/
def macAt (ifaddrs : List (Text × MacAddress)) (name : Text) (macAddress : MacAddress) :
    MacAddress :=
  ifaddrs.foldl (fun macAddress ifa => if ifa.1 = name then ifa.2 else macAddress) macAddress

theorem lookup_setOtherFieldsFromIOCTL (os : System) (interfaces : Interfaces) (name : Text) :
    (setOtherFieldsFromIOCTL os interfaces).lookup name = (interfaces.lookup name).map
      fun interface =>
        { interface with macAddress := macAt os.ifaddrs name interface.macAddress } := by
  rw [setOtherFieldsFromIOCTL]
  generalize os.ifaddrs = ifaddrs
  induction ifaddrs generalizing interfaces with
  | nil =>
      rw [List.foldl_nil]
      exact (Option.map_id_apply ..).symm
  | cons ifa ifaddrs ih =>
      rw [List.foldl_cons, ih]
      cases hfind : interfaces.lookup ifa.1 with
      | none =>
          by_cases hname : ifa.1 = name
          · rw [← hname, hfind]
            rfl
          · simp only [macAt, List.foldl_cons, if_neg hname]
      | some interface =>
          by_cases hname : ifa.1 = name
          · subst hname
            simp only [AList.lookup_insert, hfind, Option.map_some, macAt, List.foldl_cons, if_true]
          · rw [AList.lookup_insert_ne (Ne.symm hname)]
            simp only [macAt, List.foldl_cons, if_neg hname]

theorem lookup_removeIncomplete (interfaces : Interfaces) (name : Text) :
    (removeIncomplete interfaces).lookup name = (interfaces.lookup name).filter isComplete := by
  refine Option.ext fun interface => ?_
  rw [Option.filter_eq_some_iff, ← Option.mem_def, ← Option.mem_def, AList.mem_lookup_iff,
    AList.mem_lookup_iff]
  exact List.mem_filter

/-- **What a refresh lists**: the interfaces the services describe, with their MAC addresses, as far
as they are complete. -/
theorem refreshInterfaces_ok {os : System} {interfaces : Interfaces}
    (h : refreshInterfaces os store = .ok (mapping, interfaces)) :
    ∃ listed, Listed store (mapping, listed) ∧
      (copyServiceKeys os store).foldlM (refreshService store) (∅, ∅) = .ok (mapping, listed) ∧
      ∀ name, interfaces.lookup name = ((listed.lookup name).map fun interface =>
        { interface with
          macAddress := macAt os.ifaddrs name interface.macAddress }).filter isComplete := by
  obtain ⟨⟨m, listed⟩, hrun, h⟩ := Outcome.bind_eq_ok.mp h
  obtain ⟨rfl, rfl⟩ := Prod.mk.inj (Except.ok.inj h)
  refine ⟨listed, Listed.nil.run (fun key hkey => (mem_copyServiceKeys.mp hkey).2) hrun, hrun,
    fun name => ?_⟩
  rw [lookup_removeIncomplete, lookup_setOtherFieldsFromIOCTL]

/-! ### Readable stores -/

/-- The addresses in the store are ones the constructors are defined at. -/
def Readable (store : Store) : Prop := ∀ key, ∀ value ∈ store.lookup key, value.Readable

theorem addFromStateOrSetup_defined
    {addFromKey : Option Dictionary → IPAddressInfos → Outcome (Bool × IPAddressInfos)}
    (hadd : ∀ key ipInfos, ∃ result, addFromKey (store.lookup key) ipInfos = .ok result)
    (ending : Text) (mapping : ServiceMapping) (interfaceName : Text) (ipInfos : IPAddressInfos) :
    ∃ result, addFromStateOrSetup addFromKey ending store mapping interfaceName ipInfos =
      .ok result := by
  obtain ⟨⟨inserted, infos⟩, hstate⟩ :=
    hadd (stateInterfaceString ++ (interfaceName ++ ending)) ipInfos
  rw [addFromStateOrSetup, hstate]
  cases inserted with
  | true => exact ⟨_, rfl⟩
  | false =>
      simp only [bind, Except.bind]
      cases getServiceForInterface mapping interfaceName with
      | none => exact ⟨_, rfl⟩
      | some serviceID =>
          obtain ⟨result, hsetup⟩ := hadd (setupServiceString ++ (serviceID ++ ending)) infos
          exact ⟨result.2, by simp only [Bool.false_eq_true, if_false, hsetup]; rfl⟩

theorem getIPAddressInfo_defined (hread : Readable store) (mapping : ServiceMapping)
    (interfaceName : Text) : ∃ ipInfos, getIPAddressInfo store mapping interfaceName =
      .ok ipInfos := by
  obtain ⟨first, hfirst⟩ := addFromStateOrSetup_defined
    (fun key => addIPAddressV4InfoFromKey_defined (hread key)) ipv4String mapping interfaceName []
  obtain ⟨second, hsecond⟩ := addFromStateOrSetup_defined
    (fun key => addIPAddressV6InfoFromKey_defined (hread key)) ipv6String mapping interfaceName
    first
  exact ⟨second, Outcome.bind_eq_ok.mpr ⟨first, hfirst, hsecond⟩⟩

/-- A refresh returns, when the services are complete and the store is readable. -/
theorem refreshInterfaces_defined (os : System) (hread : Readable store)
    (hcomplete : ∀ key value, Matches setupServiceString interfaceString key →
      store.lookup key = some value → ∃ userDefinedName,
        value.userDefinedName = some userDefinedName) :
    ∃ result, refreshInterfaces os store = .ok result := by
  have turn : ∀ key, Matches setupServiceString interfaceString key →
      ∀ state, ∃ state', refreshService store state key = .ok state' := by
    intro key hkey state
    rw [refreshService]
    cases hvalue : store.lookup key with
    | none => exact ⟨_, rfl⟩
    | some value =>
        dsimp only
        split
        · rename_i deviceName hardware hname hhardware
          obtain ⟨description, hdescription⟩ := hcomplete key value hkey hvalue
          obtain ⟨serviceID, -, -, rfl⟩ := hkey
          obtain ⟨ipInfos, hinfos⟩ :=
            getIPAddressInfo_defined hread (state.1.insert deviceName serviceID) deviceName
          simp only [substringBetween_eq, serviceInterface, hdescription, getStdString, hinfos,
            bind, Except.bind]
          exact ⟨_, rfl⟩
        · exact ⟨_, rfl⟩
  have run : ∀ keys : List Text,
      (∀ key ∈ keys, Matches setupServiceString interfaceString key) →
      ∀ state, ∃ state', keys.foldlM (refreshService store) state = .ok state' := by
    intro keys
    induction keys with
    | nil => exact fun _ state => ⟨state, rfl⟩
    | cons key keys ih =>
        intro hkeys state
        rw [List.forall_mem_cons] at hkeys
        obtain ⟨state₁, hfirst⟩ := turn key hkeys.1 state
        obtain ⟨state₂, hrest⟩ := ih hkeys.2 state₁
        exact ⟨state₂, by rw [List.foldlM_cons]; exact Outcome.bind_eq_ok.mpr ⟨_, hfirst, hrest⟩⟩
  obtain ⟨state, hrun⟩ := run (copyServiceKeys os store)
    (fun key hkey => (mem_copyServiceKeys.mp hkey).2) (∅, ∅)
  exact ⟨_, Outcome.bind_eq_ok.mpr ⟨state, hrun, rfl⟩⟩

end MacOS

end NetworkInterface
