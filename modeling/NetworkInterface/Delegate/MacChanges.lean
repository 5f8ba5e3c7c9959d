import NetworkInterface.Delegate.MacRefresh
import NetworkInterface.Helper.Impl

/-!
# Delegate — Mac changes

`OsDependentDelegate_MacOS::dynamicStoreChangedCallback`: from each changed key, one event for the
helper, or a full refresh in place of the rest.

What the callback does at a key is read off the key's form (`keyAction_link` and its siblings), and
an event gives a property the value the store has for it (`current_of_notify`).  `processKeys_ok`
says what a run without a full refresh makes of the table.
-/

namespace NetworkInterface

namespace MacOS

variable {O : Type} [DecidableEq O]

/-- The helper, and the mapping of its delegate. -/
structure State (O : Type) where
  helper : Helper O
  interfaceToServiceMapping : ServiceMapping

/-! ### The callback -/

/-- What the callback does about a key. -/
inductive KeyAction where
  /-- A call of `onConnectedStateChanged`, `onAliasChanged` or `onIPAddressInfosChanged`. -/
  | notify (interfaceName : Text) (property : Property)
  | needsFullRefresh
  | ignored

/-- The branch of the keys of an interface. -/
def stateInterfaceAction (store : Store) (mapping : ServiceMapping) (key : Text) :
    Outcome KeyAction :=
  if hasSuffix key linkString then do
    let interfaceName ← substringBetween key stateInterfaceString linkString
    return .notify interfaceName (.isConnected (isInterfaceConnected store key))
  else if hasSuffix key ipv4String || hasSuffix key ipv6String then do
    let interfaceName ← substringBetween key stateInterfaceString
      (if hasSuffix key ipv4String then ipv4String else ipv6String)
    let ipAddressInfos ← getIPAddressInfo store mapping interfaceName
    return .notify interfaceName (.ipAddressInfos ipAddressInfos)
  else .ok .ignored

/-- The alias of an interface, from the root key of its service. -/
def changedAlias (store : Store) (serviceID interfaceName : Text) : Text :=
  let aliasName := getUserDefinedName store serviceID
  if aliasName.isEmpty then
    let aliasName :=
      match (store.lookup (interfaceKey serviceID)).bind Dictionary.userDefinedName with
      | some description => description ++ " (".toList ++ interfaceName ++ ")".toList
      | none => aliasName
    if aliasName.isEmpty then interfaceName else aliasName
  else aliasName

/-- The branch of the keys of a service. -/
def setupServiceAction (store : Store) (mapping : ServiceMapping) (key : Text) :
    Outcome KeyAction :=
  if hasSuffix key interfaceString then .ok .needsFullRefresh
  else if hasSuffix key ipv4String || hasSuffix key ipv6String then do
    let serviceID ← substringBetween key setupServiceString
      (if hasSuffix key ipv4String then ipv4String else ipv6String)
    match getInterfaceForService mapping serviceID with
    | some interfaceName => do
        let ipAddressInfos ← getIPAddressInfo store mapping interfaceName
        return .notify interfaceName (.ipAddressInfos ipAddressInfos)
    | none => return .needsFullRefresh
  else
    let serviceID := key.drop setupServiceString.length
    match getInterfaceForService mapping serviceID with
    | some interfaceName =>
        .ok (.notify interfaceName (.aliasName (changedAlias store serviceID interfaceName)))
    | none => .ok .needsFullRefresh

/-- The body of the loop over the changed keys, without the call itself. -/
def keyAction (store : Store) (mapping : ServiceMapping) (key : Text) : Outcome KeyAction :=
  if hasPrefix key stateInterfaceString then stateInterfaceAction store mapping key
  else if hasPrefix key setupServiceString then setupServiceAction store mapping key
  else .ok .ignored

/-- The loop over the changed keys, and whether it ends in `needsFullRefresh`. -/
def processKeys (store : Store) (mapping : ServiceMapping) :
    List Text → Helper O → Outcome (Helper O × Bool)
  | [], helper => .ok (helper, false)
  | key :: changedKeys, helper => do
      match ← keyAction store mapping key with
      | .notify interfaceName property =>
          processKeys store mapping changedKeys (helper.onPropertyChanged interfaceName property)
      | .needsFullRefresh => return (helper, true)
      | .ignored => processKeys store mapping changedKeys helper

/-- `refreshInterfaces`, then `onNewInterfacesList`. -/
def fullRefresh (os : System) (store : Store) (state : State O) : Outcome (State O) := do
  let (mapping, newList) ← refreshInterfaces os store
  return ⟨state.helper.onNewInterfacesList newList, mapping⟩

/-- `dynamicStoreChangedCallback`. -/
def dynamicStoreChangedCallback (os : System) (store : Store) (changedKeys : List Text)
    (state : State O) : Outcome (State O) := do
  let (helper, needsFullRefresh) ←
    processKeys store state.interfaceToServiceMapping changedKeys state.helper
  let state := { state with helper := helper }
  if needsFullRefresh then fullRefresh os store state else return state

/-! ### The store as the system keeps it -/

/-- The keys `onFirstObserverRegistered` asks to be told about. -/
def Monitored (key : Text) : Prop :=
  Matches stateInterfaceString linkString key ∨ Matches stateInterfaceString ipv4String key ∨
  Matches setupServiceString ipv4String key ∨ Matches stateInterfaceString ipv6String key ∨
  Matches setupServiceString ipv6String key ∨ Matches setupServiceString [] key ∨
  Matches setupServiceString interfaceString key

/-- A UUID, as text: five groups of hexadecimal digits with hyphens between them. -/
def IsUUID (serviceID : Text) : Prop :=
  serviceID.length = 36 ∧ ∀ i c, serviceID[i]? = some c →
    if i ∈ [8, 13, 18, 23] then c = '-' else Support.Numeral.isDigit 16 c = true

/-- What is known of the store. -/
structure WellFormed (store : Store) : Prop where
  /-- Services are identified by UUIDs. -/
  uuid : ∀ serviceID, '/' ∉ serviceID → serviceID ≠ [] → interfaceKey serviceID ∈ store →
    IsUUID serviceID
  /-- The `/Interface` entries are complete, and name the device by its BSD name. -/
  complete : ∀ key value, Matches setupServiceString interfaceString key →
    store.lookup key = some value → ∃ deviceName hardware userDefinedName,
      value.deviceName = some deviceName ∧ value.hardware = some hardware ∧
      value.userDefinedName = some userDefinedName ∧ deviceName ≠ [] ∧ '/' ∉ deviceName

/-- The system tells about keys it was asked for, and identifies services by UUIDs. -/
structure FromSystem (changedKeys : List Text) : Prop where
  monitored : ∀ key ∈ changedKeys, Monitored key
  uuid : ∀ serviceID, '/' ∉ serviceID → serviceID ≠ [] →
    setupServiceString ++ serviceID ∈ changedKeys → IsUUID serviceID

/-- The two interfaces agree on connection, alias and addresses. -/
structure SameFields (lhs rhs : Interface) : Prop where
  isConnected : lhs.isConnected = rhs.isConnected
  aliasName : lhs.aliasName = rhs.aliasName
  ipAddressInfos : (lhs.ipAddressInfos == rhs.ipAddressInfos) = true

/-- The tables have the same names, and per interface the same connection, alias and addresses. -/
def TablesAgree (lhs rhs : Interfaces) : Prop :=
  ∀ name, Option.Rel SameFields (lhs.lookup name) (rhs.lookup name)

/-! ### The action at a key -/

variable {store : Store} {mapping : ServiceMapping}

/-- The start of a key tells keys of services from keys of interfaces. -/
theorem hasPrefix_setup (rest : Text) :
    hasPrefix (setupServiceString ++ rest) stateInterfaceString = false := by
  have setup : setupServiceString = 'S' :: 'e' :: setupServiceString.drop 2 := by decide
  have state : stateInterfaceString = 'S' :: 't' :: stateInterfaceString.drop 2 := by decide
  refine Bool.eq_false_iff.mpr fun h => ?_
  obtain ⟨rest', heq⟩ := List.isPrefixOf_iff_prefix.mp h
  rw [setup, state] at heq
  cases (List.cons.inj (List.cons.inj heq).2).1

/-- An ending that is not the one written. -/
theorem hasSuffix_of_ne {front ending ending' : Text} (hlen : ending.length = ending'.length)
    (hne : ending ≠ ending') : hasSuffix (front ++ ending) ending' = false := by
  refine Bool.eq_false_iff.mpr fun h => hne ?_
  obtain ⟨front', heq⟩ := List.isSuffixOf_iff_suffix.mp h
  exact (List.append_inj_right' heq.symm hlen)

/-- A name without a slash has no ending with one. -/
theorem hasSuffix_of_notMem {front segment ending : Text} (hslash : '/' ∉ segment)
    (hending : '/' ∈ ending) (hlen : ending.length ≤ segment.length) :
    hasSuffix (front ++ segment) ending = false := by
  refine Bool.eq_false_iff.mpr fun h => hslash ?_
  have := List.suffix_of_suffix_length_le (List.isSuffixOf_iff_suffix.mp h)
    (List.suffix_append front segment) hlen
  exact this.subset hending

theorem slash_mem_endings :
    ∀ ending ∈ [linkString, ipv4String, ipv6String, interfaceString], '/' ∈ ending ∧
      ending.length ≤ 10 := by decide

/-- The ending of a key of addresses, as the callback finds it. -/
theorem address_ending {ending : Text} (h : ending ∈ [ipv4String, ipv6String]) (front : Text) :
    (hasSuffix (front ++ ending) ipv4String || hasSuffix (front ++ ending) ipv6String) = true ∧
      (if hasSuffix (front ++ ending) ipv4String then ipv4String else ipv6String) = ending := by
  rcases List.mem_pair.mp h with rfl | rfl
  · rw [hasSuffix_append, if_pos rfl]
    exact ⟨rfl, rfl⟩
  · have noV4 : hasSuffix (front ++ ipv6String) ipv4String = false :=
      hasSuffix_of_ne (by decide) (by decide)
    rw [hasSuffix_append, noV4, if_neg Bool.false_ne_true]
    exact ⟨rfl, rfl⟩

theorem ending_of_address {key : Text}
    (h : (hasSuffix key ipv4String || hasSuffix key ipv6String) = true) :
    (if hasSuffix key ipv4String then ipv4String else ipv6String) ∈ [ipv4String, ipv6String] ∧
      hasSuffix key (if hasSuffix key ipv4String then ipv4String else ipv6String) = true := by
  by_cases hv4 : hasSuffix key ipv4String = true
  · rw [if_pos hv4]
    exact ⟨by simp, hv4⟩
  · rw [if_neg hv4]
    exact ⟨by simp, (Bool.or_eq_true_iff.mp h).resolve_left hv4⟩

/-- The link of an interface changed. -/
theorem keyAction_link (name : Text) :
    keyAction store mapping (stateInterfaceString ++ (name ++ linkString)) =
      .ok (.notify name (.isConnected
        (isInterfaceConnected store (stateInterfaceString ++ (name ++ linkString))))) := by
  rw [keyAction, if_pos (hasPrefix_append _ _), stateInterfaceAction,
    if_pos (by rw [← List.append_assoc]; exact hasSuffix_append _ _), substringBetween_eq]
  rfl

/-- The addresses of an interface changed. -/
theorem keyAction_state {ending : Text} (hending : ending ∈ [ipv4String, ipv6String])
    (name : Text) : keyAction store mapping (stateInterfaceString ++ (name ++ ending)) =
      (getIPAddressInfo store mapping name).map fun ipAddressInfos =>
        .notify name (.ipAddressInfos ipAddressInfos) := by
  have noLink : hasSuffix (stateInterfaceString ++ (name ++ ending)) linkString = false := by
    rw [← List.append_assoc]
    rcases List.mem_pair.mp hending with rfl | rfl
    · exact hasSuffix_of_ne (by decide) (by decide)
    · exact hasSuffix_of_ne (by decide) (by decide)
  have address := address_ending hending (stateInterfaceString ++ name)
  rw [List.append_assoc] at address
  rw [keyAction, if_pos (hasPrefix_append _ _), stateInterfaceAction, noLink,
    if_neg Bool.false_ne_true, if_pos address.1, address.2, substringBetween_eq]
  simp only [bind, Except.bind]
  cases getIPAddressInfo store mapping name with
  | error f => rfl
  | ok ipAddressInfos => rfl

/-- The structure of a service changed. -/
theorem keyAction_interface (serviceID : Text) :
    keyAction store mapping (interfaceKey serviceID) = .ok .needsFullRefresh := by
  rw [keyAction, interfaceKey, hasPrefix_setup, if_neg Bool.false_ne_true,
    if_pos (hasPrefix_append _ _), setupServiceAction,
    if_pos (by rw [← List.append_assoc]; exact hasSuffix_append _ _)]

/-- What the branches that look for the interface of a service do. -/
def serviceAction (mapping : ServiceMapping) (serviceID : Text)
    (action : Text → Outcome KeyAction) : Outcome KeyAction :=
  match getInterfaceForService mapping serviceID with
  | some interfaceName => action interfaceName
  | none => .ok .needsFullRefresh

/-- The addresses of a service changed. -/
theorem keyAction_setup {ending : Text} (hending : ending ∈ [ipv4String, ipv6String])
    (serviceID : Text) : keyAction store mapping (setupServiceString ++ (serviceID ++ ending)) =
      serviceAction mapping serviceID fun name =>
        (getIPAddressInfo store mapping name).map fun ipAddressInfos =>
          .notify name (.ipAddressInfos ipAddressInfos) := by
  have noInterface :
      hasSuffix (setupServiceString ++ (serviceID ++ ending)) interfaceString = false := by
    refine Bool.eq_false_iff.mpr fun h => ?_
    have suffix := List.isSuffixOf_iff_suffix.mp h
    rw [← List.append_assoc] at suffix
    have := List.suffix_of_suffix_length_le (List.suffix_append _ ending) suffix
    rcases List.mem_pair.mp hending with rfl | rfl
    · exact absurd (this (by decide)) (by decide)
    · exact absurd (this (by decide)) (by decide)
  have address := address_ending hending (setupServiceString ++ serviceID)
  rw [List.append_assoc] at address
  rw [keyAction, hasPrefix_setup, if_neg Bool.false_ne_true, if_pos (hasPrefix_append _ _),
    setupServiceAction, noInterface, if_neg Bool.false_ne_true, if_pos address.1, address.2,
    substringBetween_eq, serviceAction]
  cases hname : getInterfaceForService mapping serviceID with
  | none => simp only [bind, Except.bind, hname]; rfl
  | some name =>
      simp only [bind, Except.bind, hname]
      cases getIPAddressInfo store mapping name with
      | error f => rfl
      | ok ipAddressInfos => rfl

/-- The root key of a service changed. -/
theorem keyAction_root {serviceID : Text} (hid : IsUUID serviceID) (hslash : '/' ∉ serviceID) :
    keyAction store mapping (setupServiceString ++ serviceID) =
      serviceAction mapping serviceID fun name =>
        .ok (.notify name (.aliasName (changedAlias store serviceID name))) := by
  have none : ∀ ending ∈ [linkString, ipv4String, ipv6String, interfaceString],
      hasSuffix (setupServiceString ++ serviceID) ending = false := fun ending h =>
    hasSuffix_of_notMem hslash (slash_mem_endings ending h).1
      ((slash_mem_endings ending h).2.trans (by rw [hid.1]; decide))
  rw [keyAction, hasPrefix_setup, if_neg Bool.false_ne_true, if_pos (hasPrefix_append _ _),
    setupServiceAction, none _ (by simp), none ipv4String (by simp), none ipv6String (by simp),
    if_neg Bool.false_ne_true, if_neg (by decide), List.drop_left]
  rfl

/-! ### The events -/

/-- What the callback may give an interface: the value the store has for it. -/
inductive Current (store : Store) (mapping : ServiceMapping) (name : Text) : Property → Prop where
  | isConnected : Current store mapping name
      (.isConnected (isInterfaceConnected store (stateInterfaceString ++ (name ++ linkString))))
  | ipAddressInfos {ipAddressInfos : IPAddressInfos} :
      getIPAddressInfo store mapping name = .ok ipAddressInfos →
      Current store mapping name (.ipAddressInfos ipAddressInfos)
  | aliasName {serviceID : Text} : mapping.lookup name = some serviceID →
      Current store mapping name (.aliasName (changedAlias store serviceID name))

theorem current_of_map {name name' : Text} {property : Property}
    (h : ((getIPAddressInfo store mapping name').map fun ipAddressInfos =>
      KeyAction.notify name' (.ipAddressInfos ipAddressInfos)) = .ok (.notify name property)) :
    Current store mapping name property := by
  cases hinfos : getIPAddressInfo store mapping name' with
  | error f =>
      rw [hinfos] at h
      cases h
  | ok ipAddressInfos =>
      rw [hinfos] at h
      cases h
      exact .ipAddressInfos hinfos

theorem serviceAction_notify {serviceID name : Text} {property : Property}
    {action : Text → Outcome KeyAction}
    (h : serviceAction mapping serviceID action = .ok (.notify name property)) :
    ∃ name', mapping.lookup name' = some serviceID ∧
      action name' = .ok (.notify name property) := by
  rw [serviceAction] at h
  cases hname : getInterfaceForService mapping serviceID with
  | none =>
      rw [hname] at h
      cases h
  | some name' =>
      rw [hname] at h
      exact ⟨name', lookup_of_getInterfaceForService hname, h⟩

/-- The branch a key takes that leads to an event. -/
theorem keyAction_notify {key name : Text} {property : Property}
    (h : keyAction store mapping key = .ok (.notify name property)) :
    (∃ name', key = stateInterfaceString ++ (name' ++ linkString)) ∨
    (∃ name', ∃ ending ∈ [ipv4String, ipv6String],
      key = stateInterfaceString ++ (name' ++ ending)) ∨
    (∃ serviceID, ∃ ending ∈ [ipv4String, ipv6String],
      key = setupServiceString ++ (serviceID ++ ending)) ∨
    ∃ serviceID, serviceAction mapping serviceID (fun name =>
      .ok (.notify name (.aliasName (changedAlias store serviceID name)))) =
        .ok (.notify name property) := by
  rw [keyAction] at h
  by_cases hstate : hasPrefix key stateInterfaceString = true
  · rw [if_pos hstate, stateInterfaceAction] at h
    by_cases hlink : hasSuffix key linkString = true
    · rw [if_pos hlink] at h
      obtain ⟨name', hname, -⟩ := Outcome.bind_eq_ok.mp h
      exact .inl ⟨name', substringBetween_ok hstate hlink hname⟩
    rw [if_neg hlink] at h
    by_cases haddress : (hasSuffix key ipv4String || hasSuffix key ipv6String) = true
    · rw [if_pos haddress] at h
      obtain ⟨hending, hsuffix⟩ := ending_of_address haddress
      obtain ⟨name', hname, -⟩ := Outcome.bind_eq_ok.mp h
      exact .inr (.inl ⟨name', _, hending, substringBetween_ok hstate hsuffix hname⟩)
    · rw [if_neg haddress] at h
      cases h
  rw [if_neg hstate] at h
  by_cases hsetup : hasPrefix key setupServiceString = true
  · rw [if_pos hsetup, setupServiceAction] at h
    by_cases hinterface : hasSuffix key interfaceString = true
    · rw [if_pos hinterface] at h
      cases h
    rw [if_neg hinterface] at h
    by_cases haddress : (hasSuffix key ipv4String || hasSuffix key ipv6String) = true
    · rw [if_pos haddress] at h
      obtain ⟨hending, hsuffix⟩ := ending_of_address haddress
      obtain ⟨serviceID, hid, -⟩ := Outcome.bind_eq_ok.mp h
      exact .inr (.inr (.inl ⟨serviceID, _, hending, substringBetween_ok hsetup hsuffix hid⟩))
    · rw [if_neg haddress] at h
      exact .inr (.inr (.inr ⟨key.drop setupServiceString.length, h⟩))
  · rw [if_neg hsetup] at h
    cases h

/-- **Every event** gives an interface the value the store has for it. -/
theorem current_of_notify {key name : Text} {property : Property}
    (h : keyAction store mapping key = .ok (.notify name property)) :
    Current store mapping name property := by
  rcases keyAction_notify h with ⟨name', rfl⟩ | ⟨name', ending, hending, rfl⟩ |
    ⟨serviceID, ending, hending, rfl⟩ | ⟨serviceID, hroot⟩
  · rw [keyAction_link] at h
    cases h
    exact .isConnected
  · rw [keyAction_state hending] at h
    exact current_of_map h
  · rw [keyAction_setup hending] at h
    obtain ⟨name', -, h⟩ := serviceAction_notify h
    exact current_of_map h
  · obtain ⟨name', hname, h⟩ := serviceAction_notify hroot
    cases h
    exact .aliasName hname

/-- The alias of the callback is the one of a refresh. -/
theorem changedAlias_eq {serviceID description : Text} {value : Dictionary}
    (hvalue : store.lookup (interfaceKey serviceID) = some value)
    (hdescription : value.userDefinedName = some description) (name : Text) :
    changedAlias store serviceID name = if (getUserDefinedName store serviceID).isEmpty then
      description ++ " (".toList ++ name ++ ")".toList
      else getUserDefinedName store serviceID := by
  rw [changedAlias, hvalue, Option.bind_some, hdescription]
  dsimp only
  split
  · rw [if_neg]
    simp
  · rfl

/-- **The value the store has** for an interface is the one a refresh gives it. -/
theorem Current.mem_properties {listed : Interfaces} (h : Listed store (mapping, listed))
    {name : Text} {interface : Interface} (hlookup : listed.lookup name = some interface)
    {property : Property} (hcurrent : Current store mapping name property) :
    property ∈ interface.properties := by
  cases hservice : mapping.lookup name with
  | none => cases hlookup.symm.trans (h.only name hservice)
  | some serviceID =>
      obtain ⟨value, hardware, interface', -, hvalue, -, -, hinterface, hlookup'⟩ :=
        h.service name serviceID hservice
      obtain rfl := Option.some.inj (hlookup'.symm.trans hlookup)
      obtain ⟨description, hdescription, -, -, hconnected, halias, hinfos⟩ :=
        serviceInterface_ok hinterface
      cases hcurrent with
      | isConnected => simp [Interface.properties, hconnected]
      | ipAddressInfos hinfos' =>
          obtain rfl := Except.ok.inj (hinfos'.symm.trans hinfos)
          simp [Interface.properties]
      | aliasName hservice' =>
          obtain rfl := Option.some.inj (hservice.symm.trans hservice')
          simp [Interface.properties, halias, changedAlias_eq hvalue hdescription]

/-! ### The loop over the changed keys -/

/-- What an event about its interface does to an entry of the table. -/
def giveProperty (interface : Interface) (property : Property) : Interface :=
  if property.differs interface then property.set interface else interface

theorem lookup_onPropertyChanged (helper : Helper O) (name : Text) (property : Property)
    (other : Text) : (helper.onPropertyChanged name property).networkInterfaces.lookup other =
      (helper.networkInterfaces.lookup other).map fun interface =>
        if other = name then giveProperty interface property else interface := by
  rw [Helper.onPropertyChanged]
  cases hfind : helper.networkInterfaces.lookup name with
  | none =>
      by_cases hother : other = name
      · rw [hother, hfind]
        rfl
      · simp only [if_neg hother]
        exact (Option.map_id_apply ..).symm
  | some interface =>
      by_cases hother : other = name
      · subst hother
        rw [hfind, Option.map_some, if_pos rfl, giveProperty]
        dsimp only
        split
        · exact AList.lookup_insert _
        · exact hfind
      · simp only [if_neg hother]
        split
        · exact (AList.lookup_insert_ne hother).trans (Option.map_id_apply ..).symm
        · exact (Option.map_id_apply ..).symm

theorem observers_onPropertyChanged (helper : Helper O) (name : Text) (property : Property) :
    (helper.onPropertyChanged name property).observers = helper.observers := by
  rw [Helper.onPropertyChanged]
  split
  · split
    · rfl
    · rfl
  · rfl

/-- **The loop**, when it does not end in a full refresh: each entry is given, in turn, the
properties the keys have for it. -/
theorem processKeys_ok {changedKeys : List Text} :
    ∀ {helper helper' : Helper O},
      processKeys store mapping changedKeys helper = .ok (helper', false) →
      (∀ key ∈ changedKeys, keyAction store mapping key ≠ .ok .needsFullRefresh) ∧
      ∀ name, ∃ properties : List Property,
        (∀ property, property ∈ properties ↔
          ∃ key ∈ changedKeys, keyAction store mapping key = .ok (.notify name property)) ∧
        helper'.networkInterfaces.lookup name =
          (helper.networkInterfaces.lookup name).map fun interface =>
            properties.foldl giveProperty interface := by
  induction changedKeys with
  | nil =>
      intro helper helper' h
      obtain ⟨rfl, -⟩ := Prod.mk.inj (Except.ok.inj h)
      exact ⟨nofun, fun name => ⟨[], by simp, (Option.map_id_apply ..).symm⟩⟩
  | cons key changedKeys ih =>
      intro helper helper' h
      rw [processKeys] at h
      obtain ⟨action, haction, h⟩ := Outcome.bind_eq_ok.mp h
      -- at a name the key is not about, the rest of the loop says it all
      have other : ∀ {helper₁ : Helper O} {name : Text},
          (∀ property, action ≠ .notify name property) →
          helper₁.networkInterfaces.lookup name = helper.networkInterfaces.lookup name →
          (∃ properties : List Property,
            (∀ property, property ∈ properties ↔
              ∃ key ∈ changedKeys, keyAction store mapping key = .ok (.notify name property)) ∧
            helper'.networkInterfaces.lookup name =
              (helper₁.networkInterfaces.lookup name).map fun interface =>
                properties.foldl giveProperty interface) →
          ∃ properties : List Property,
            (∀ property, property ∈ properties ↔ ∃ k ∈ key :: changedKeys,
              keyAction store mapping k = .ok (.notify name property)) ∧
            helper'.networkInterfaces.lookup name =
              (helper.networkInterfaces.lookup name).map fun interface =>
                properties.foldl giveProperty interface := by
        rintro helper₁ name hne hsame ⟨properties, hmem, hlookup⟩
        refine ⟨properties, fun property => (hmem property).trans ?_, hsame ▸ hlookup⟩
        simp [haction, hne property]
      cases action with
      | needsFullRefresh => cases (Prod.mk.inj (Except.ok.inj h)).2
      | ignored =>
          obtain ⟨noRefresh, names⟩ := ih h
          have goesOn : keyAction store mapping key ≠ .ok .needsFullRefresh := by
            rw [haction]
            exact nofun
          refine ⟨List.forall_mem_cons.mpr ⟨goesOn, noRefresh⟩, fun name => ?_⟩
          exact other (fun _ => nofun) rfl (names name)
      | notify interfaceName property =>
          obtain ⟨noRefresh, names⟩ := ih h
          have goesOn : keyAction store mapping key ≠ .ok .needsFullRefresh := by
            rw [haction]
            exact nofun
          refine ⟨List.forall_mem_cons.mpr ⟨goesOn, noRefresh⟩, fun name => ?_⟩
          by_cases hname : name = interfaceName
          · subst hname
            obtain ⟨properties, hmem, hlookup⟩ := names name
            refine ⟨property :: properties, fun p => ?_, ?_⟩
            · rw [List.mem_cons, hmem]
              simp [haction, eq_comm]
            · rw [hlookup, lookup_onPropertyChanged, Option.map_map]
              simp only [if_true]
              rfl
          · refine other (fun p hp => hname ?_) ?_ (names name)
            · cases hp
              rfl
            · rw [lookup_onPropertyChanged]
              simp only [if_neg hname]
              exact Option.map_id_apply ..

/-- Once a property is given, or was there, it stays. -/
theorem differs_foldl_giveProperty {target : Interface} {properties : List Property}
    (hsub : properties ⊆ target.properties) {property : Property}
    (hproperty : property ∈ target.properties) : ∀ {interface : Interface},
      property.differs interface = false ∨ property ∈ properties →
      property.differs (properties.foldl giveProperty interface) = false := by
  induction properties with
  | nil => exact fun h => h.resolve_right List.not_mem_nil
  | cons first properties ih =>
      intro interface h
      obtain ⟨hfirst, hrest⟩ := List.cons_subset.mp hsub
      refine ih hrest ?_
      rcases h with h | h
      · refine .inl ?_
        rw [giveProperty]
        split
        · exact differs_set hfirst hproperty h
        · exact h
      · rcases List.mem_cons.mp h with rfl | h
        · refine .inl ?_
          rw [giveProperty]
          split
          · exact differs_set_self interface property
          · exact Bool.eq_false_iff.mpr ‹_›
        · exact .inr h

end MacOS

end NetworkInterface
