import NetworkInterface.Delegate.MacAgreement
import NetworkInterface.Support.Invalidation

/-!
# Delegate — Mac cache

The table and the service mapping of the macOS delegate as a cache of the dynamic store.  The
callback and the refresh read the store entry by entry while it changes, so what they read (`seen`
below) may be older than the store at the keys whose change is still to be told (`outdated`).

- `Consistent.deal`: to deal with a changed key keeps the cache right up to the keys that are left.
- `Listing.refreshService`, `Listing.finish`: a refresh makes a cache that is right up to the keys
  that change meanwhile.
- `Consistent.agrees`: but for the keys that are left, the table is the one of a refresh.
-/

namespace NetworkInterface

namespace MacOS

open Support

variable {O : Type} [DecidableEq O]
variable {store store' seen : Store} {mapping mapping' : ServiceMapping}

/-! ### The view of an interface -/

/-- What the callback keeps up. -/
inductive Field where
  | isConnected
  | aliasName
  | ipAddressInfos
  deriving DecidableEq

/-- What the store gives a field of the interface `name`. -/
def fieldValue (mapping : ServiceMapping) (store : Store) (name : Text) : Field → Property → Prop
  | .isConnected, property => property =
      .isConnected (isInterfaceConnected store (stateInterfaceString ++ (name ++ linkString)))
  | .aliasName, property => ∃ serviceID, mapping.lookup name = some serviceID ∧
      property = .aliasName (changedAlias store serviceID name)
  | .ipAddressInfos, property => ∃ infos, getIPAddressInfo store mapping name = .ok infos ∧
      property = .ipAddressInfos infos

/-- The keys it is computed from. -/
def fieldReads (mapping : ServiceMapping) (name : Text) : Field → Set Text
  | .isConnected => {stateInterfaceString ++ (name ++ linkString)}
  | .aliasName => {key | ∃ serviceID, mapping.lookup name = some serviceID ∧
      (key = setupServiceString ++ serviceID ∨ key = interfaceKey serviceID)}
  | .ipAddressInfos => {key | key ∈ addressKeys mapping name}

theorem changedAlias_congr {serviceID : Text}
    (hroot : store.lookup (setupServiceString ++ serviceID) =
      store'.lookup (setupServiceString ++ serviceID))
    (hinterface : store.lookup (interfaceKey serviceID) = store'.lookup (interfaceKey serviceID))
    (name : Text) : changedAlias store serviceID name = changedAlias store' serviceID name := by
  rw [changedAlias, changedAlias, getUserDefinedName, getUserDefinedName, hroot, hinterface]

/-- A field depends on the keys it is computed from. -/
theorem fieldValue_congr {name : Text} {field : Field}
    (h : ∀ key ∈ fieldReads mapping name field, store.lookup key = store'.lookup key) :
    fieldValue mapping store name field = fieldValue mapping store' name field := by
  funext property
  cases field with
  | isConnected =>
      simp only [fieldValue, isInterfaceConnected]
      rw [h _ rfl]
  | aliasName =>
      refine propext (exists_congr fun serviceID => and_congr_right fun hservice => ?_)
      rw [changedAlias_congr (h _ ⟨serviceID, hservice, .inl rfl⟩)
        (h _ ⟨serviceID, hservice, .inr rfl⟩)]
  | ipAddressInfos =>
      simp only [fieldValue]
      rw [getIPAddressInfo_congr rfl h]

/-- The fields of the interfaces, by name. -/
def view (mapping : ServiceMapping) :
    View Store Text (Option Dictionary) (Text × Field) (Property → Prop) where
  get store key := store.lookup key
  reads item := fieldReads mapping item.1 item.2
  value item store := fieldValue mapping store item.1 item.2
  value_congr h := fieldValue_congr h

/-- The entry, if there is one, has the value. -/
def Has (entry : Option Interface) (value : Property → Prop) : Prop :=
  ∀ interface ∈ entry, ∀ property, value property → property.differs interface = false

theorem has_none (value : Property → Prop) : Has none value := nofun

/-- The fields of the interfaces are right, but for those that read a key of `P`. -/
def Kept (mapping : ServiceMapping) (P : Set Text) (store : Store) (interfaces : Interfaces) :
    Prop :=
  ∀ name field, (view mapping).UpTo Has P store (name, field) (interfaces.lookup name)

/-- The mapping counts at the name only. -/
theorem fieldReads_congr {name : Text} (hmapping : mapping.lookup name = mapping'.lookup name)
    (field : Field) : fieldReads mapping name field = fieldReads mapping' name field := by
  cases field with
  | isConnected => rfl
  | aliasName => simp only [fieldReads, hmapping]
  | ipAddressInfos => simp only [fieldReads, addressKeys, hmapping]

theorem fieldValue_congr_mapping {name : Text}
    (hmapping : mapping.lookup name = mapping'.lookup name) (store : Store) (field : Field) :
    fieldValue mapping store name field = fieldValue mapping' store name field := by
  funext property
  cases field with
  | isConnected => rfl
  | aliasName => simp only [fieldValue, hmapping]
  | ipAddressInfos =>
      simp only [fieldValue]
      rw [getIPAddressInfo_congr hmapping fun _ _ => rfl]

theorem upTo_view_congr {name : Text} (hmapping : mapping.lookup name = mapping'.lookup name)
    {P : Set Text} {field : Field} {entry : Option Interface}
    (h : (view mapping).UpTo Has P store (name, field) entry) :
    (view mapping').UpTo Has P store (name, field) entry := by
  intro hreads
  have old := h fun key hkey =>
    hreads key ((fieldReads_congr hmapping field).subset hkey)
  exact Eq.mp (congrArg (Has entry) (fieldValue_congr_mapping hmapping store field)) old

/-! ### The rest of an interface -/

/-- The interface without what the callback keeps up. -/
def fixed (interface : Interface) : Interface :=
  { interface with isConnected := false, aliasName := [], ipAddressInfos := [] }

/-- What the entry of a service says of the rest. -/
def fixedOf (store : Store) (mapping : ServiceMapping) (name : Text) : Option Interface := do
  let serviceID ← mapping.lookup name
  let value ← store.lookup (interfaceKey serviceID)
  let hardware ← value.hardware
  let description ← value.userDefinedName
  return {
    id := name
    description := description
    type := getInterfaceType hardware
    isEnabled := true
    isVirtual := getIsVirtualInterface name (getInterfaceType hardware) }

/-- The interface with its MAC address. -/
def withMac (os : System) (name : Text) (interface : Interface) : Interface :=
  { interface with macAddress := macAt os.ifaddrs name interface.macAddress }

theorem fixedOf_congr {name : Text} (hmapping : mapping.lookup name = mapping'.lookup name)
    (hstore : ∀ serviceID, mapping.lookup name = some serviceID →
      store.lookup (interfaceKey serviceID) = store'.lookup (interfaceKey serviceID)) :
    fixedOf store mapping name = fixedOf store' mapping' name := by
  rw [fixedOf, fixedOf, ← hmapping]
  cases hservice : mapping.lookup name with
  | none => rfl
  | some serviceID =>
      change (store.lookup (interfaceKey serviceID)).bind _ = _
      rw [hstore serviceID hservice]
      rfl

/-! ### The mapping -/

/-- The service ID, cut out of an `/Interface` key. -/
def serviceIDOf (key : Text) : Text :=
  (key.drop setupServiceString.length).take
    (key.length - setupServiceString.length - interfaceString.length)

/-- The device of a service, if its entry is complete. -/
def deviceAt (store : Store) (key : Text) : Option Text :=
  (store.lookup key).bind fun value => value.hardware.bind fun _ => value.deviceName

/-- What the loop over the services makes of the mapping. -/
def mapService (store : Store) (mapping : ServiceMapping) (key : Text) : ServiceMapping :=
  match deviceAt store key with
  | some deviceName => mapping.insert deviceName (serviceIDOf key)
  | none => mapping

/-- The mapping of the services. -/
def serviceMapping (store : Store) (keys : List Text) : ServiceMapping :=
  keys.foldl (mapService store) ∅

theorem serviceIDOf_interfaceKey (serviceID : Text) :
    serviceIDOf (interfaceKey serviceID) = serviceID := by
  have h := substringBetween_eq setupServiceString serviceID interfaceString
  rw [substringBetween, if_pos (by simp only [List.length_append]; omega)] at h
  exact Except.ok.inj h

theorem deviceAt_eq_some {key deviceName : Text} : deviceAt store key = some deviceName ↔
    ∃ value hardware, store.lookup key = some value ∧ value.deviceName = some deviceName ∧
      value.hardware = some hardware := by
  simp only [deviceAt, Option.bind_eq_some_iff]
  constructor
  · rintro ⟨value, hvalue, hardware, hhardware, hdevice⟩
    exact ⟨value, hardware, hvalue, hdevice, hhardware⟩
  · rintro ⟨value, hardware, hvalue, hdevice, hhardware⟩
    exact ⟨value, hvalue, hardware, hhardware, hdevice⟩

/-- The mapping of a refresh. -/
theorem refreshService_mapping {state state' : ServiceMapping × Interfaces} {key : Text}
    (hkey : Matches setupServiceString interfaceString key)
    (hrun : refreshService store state key = .ok state') :
    state'.1 = mapService store state.1 key := by
  obtain ⟨serviceID, -, -, rfl⟩ := hkey
  change refreshService store state (interfaceKey serviceID) = .ok state' at hrun
  change state'.1 = mapService store state.1 (interfaceKey serviceID)
  rw [mapService]
  rcases refreshService_cases hrun with
    ⟨value, deviceName, hardware, interface, hvalue, hname, hhardware, -, rfl⟩ | ⟨hnone, rfl⟩
  · rw [deviceAt_eq_some.mpr ⟨value, hardware, hvalue, hname, hhardware⟩, serviceIDOf_interfaceKey]
  · cases hdevice : deviceAt store (interfaceKey serviceID) with
    | none => rfl
    | some deviceName =>
        obtain ⟨value, hardware, hvalue, hname, hhardware⟩ := deviceAt_eq_some.mp hdevice
        rcases hnone value hvalue with hc | hc
        · cases hname.symm.trans hc
        · cases hhardware.symm.trans hc

/-- Each interface is mapped to a service that names it. -/
def Mapped (store : Store) (mapping : ServiceMapping) : Prop :=
  ∀ name serviceID, mapping.lookup name = some serviceID →
    Matches setupServiceString interfaceString (interfaceKey serviceID) ∧
      deviceAt store (interfaceKey serviceID) = some name

theorem mapped_mapService {key : Text} (hkey : Matches setupServiceString interfaceString key)
    (h : Mapped store mapping) : Mapped store (mapService store mapping key) := by
  rw [mapService]
  cases hdevice : deviceAt store key with
  | none => exact h
  | some deviceName =>
      intro name serviceID hservice
      by_cases hname : name = deviceName
      · subst hname
        obtain rfl := Option.some.inj ((AList.lookup_insert _).symm.trans hservice)
        obtain ⟨id, hne, hslash, rfl⟩ := hkey
        change Matches _ _ (interfaceKey (serviceIDOf (interfaceKey id))) ∧
          deviceAt store (interfaceKey (serviceIDOf (interfaceKey id))) = some name
        rw [serviceIDOf_interfaceKey]
        exact ⟨⟨id, hne, hslash, rfl⟩, hdevice⟩
      · rw [AList.lookup_insert_ne hname] at hservice
        exact h name serviceID hservice

theorem mapped_serviceMapping {keys : List Text}
    (hkeys : ∀ key ∈ keys, Matches setupServiceString interfaceString key) :
    Mapped store (serviceMapping store keys) := by
  have gen : ∀ mapping, Mapped store mapping → Mapped store (keys.foldl (mapService store) mapping)
      := by
    induction keys with
    | nil => exact fun _ h => h
    | cons key keys ih =>
        rw [List.forall_mem_cons] at hkeys
        exact fun mapping h => ih hkeys.2 _ (mapped_mapService hkeys.1 h)
  exact gen ∅ nofun

theorem Mapped.getInterfaceForService (hmapped : Mapped store mapping) {name serviceID : Text}
    (hservice : mapping.lookup name = some serviceID) :
    MacOS.getInterfaceForService mapping serviceID = some name := by
  have entry := AList.mem_lookup_iff.mp (Option.mem_def.mpr hservice)
  cases hfind : MacOS.getInterfaceForService mapping serviceID with
  | none =>
      have := List.find?_eq_none.mp (Option.map_eq_none_iff.mp hfind) _ entry
      exact absurd rfl (of_decide_eq_false (Bool.eq_false_iff.mpr this))
  | some other =>
      have found := hmapped other serviceID (lookup_of_getInterfaceForService hfind)
      exact found.2.symm.trans (hmapped name serviceID hservice).2

/-- Mappings that agree are extended alike. -/
theorem lookup_mapService (hmapping : ∀ name, mapping.lookup name = mapping'.lookup name)
    (key name : Text) : (mapService store mapping key).lookup name =
      (mapService store mapping' key).lookup name := by
  rw [mapService, mapService]
  cases deviceAt store key with
  | none => exact hmapping name
  | some deviceName =>
      by_cases hname : name = deviceName
      · subst hname
        change (mapping.insert name _).lookup name = (mapping'.insert name _).lookup name
        rw [AList.lookup_insert, AList.lookup_insert]
      · exact (AList.lookup_insert_ne hname).trans
          ((hmapping name).trans (AList.lookup_insert_ne hname).symm)

/-! ### What is still to be told -/

/-- The keys at which what was read may be older than the store: those that are still to be told,
and those nobody asked for. -/
def outdated (changedKeys : List Text) : Set Text := {key | Monitored key → key ∈ changedKeys}

/-- The entries are the same but at the keys of `P`. -/
def SameBut (P : Set Text) (store store' : Store) : Prop :=
  ∀ key ∉ P, store.lookup key = store'.lookup key

/-- The structure of a service is among what changed. -/
def Restructured (changedKeys : List Text) : Prop :=
  ∃ key ∈ changedKeys, Matches setupServiceString interfaceString key

section
variable {keys keys' : List Text} {key : Text}

theorem notMem_outdated : key ∉ outdated keys ↔ Monitored key ∧ key ∉ keys := Classical.not_imp

theorem sameBut_of_covers (h : Covers keys store store') :
    SameBut (outdated keys) store store' := by
  intro key hkey
  obtain ⟨hmonitored, hmem⟩ := notMem_outdated.mp hkey
  by_contra hne
  exact hmem (h key hmonitored hne)

theorem outdated_mono (h : keys ⊆ keys') : outdated keys ⊆ outdated keys' :=
  fun _ hkey hmonitored => h (hkey hmonitored)

theorem outdated_union : outdated keys ∪ outdated keys' ⊆ outdated (keys ++ keys') :=
  Set.union_subset (outdated_mono (List.subset_append_left _ _))
    (outdated_mono (List.subset_append_right _ _))

theorem outdated_cons : outdated (key :: keys) ⊆ insert key (outdated keys) := by
  intro other hother
  by_cases heq : other = key
  · exact .inl heq
  · exact .inr fun hmonitored => (List.mem_cons.mp (hother hmonitored)).resolve_left heq

/-- Unless a service is restructured, its `/Interface` entry is what it was. -/
theorem SameBut.lookup_interfaceKey (h : SameBut (outdated keys) store store')
    (hstructure : ¬ Restructured keys) (hkey : Matches setupServiceString interfaceString key) :
    store.lookup key = store'.lookup key := by
  refine h key (notMem_outdated.mpr ⟨?_, fun hmem => hstructure ⟨key, hmem, hkey⟩⟩)
  exact .inr (.inr (.inr (.inr (.inr (.inr hkey)))))

theorem SameBut.copyServiceKeys_eq (h : SameBut (outdated keys) store store')
    (hstructure : ¬ Restructured keys) (os : System) :
    copyServiceKeys os store = copyServiceKeys os store' := by
  refine congrArg os.listing (Finset.ext fun key => ?_)
  rw [Finset.mem_filter, Finset.mem_filter, List.mem_toFinset, List.mem_toFinset,
    ← AList.mem_keys, ← AList.mem_keys]
  refine and_congr_left fun hkey => ?_
  rw [← AList.lookup_isSome, ← AList.lookup_isSome, h.lookup_interfaceKey hstructure hkey]

/-- Then the mapping of the services is what it was. -/
theorem SameBut.serviceMapping_eq (h : SameBut (outdated keys) store store')
    (hstructure : ¬ Restructured keys) {services : List Text}
    (hservices : ∀ key ∈ services, Matches setupServiceString interfaceString key) :
    serviceMapping store services = serviceMapping store' services := by
  refine List.foldl_ext _ _ _ fun mapping key hmem => ?_
  rw [mapService, mapService, deviceAt, deviceAt,
    h.lookup_interfaceKey hstructure (hservices key hmem)]

end

/-! ### The refresh -/

/-- What a refresh has made of the mapping and the list, after the services `done`: the mapping is
theirs, and the interfaces are those they describe, right but for the keys of `P`. -/
structure Listing (store : Store) (P : Set Text) (done : List Text)
    (state : ServiceMapping × Interfaces) : Prop where
  mapped : ∀ name, state.1.lookup name = (serviceMapping store done).lookup name
  rest : ∀ name, (state.2.lookup name).map fixed = fixedOf store state.1 name
  kept : Kept state.1 P store state.2

theorem Listing.nil (store : Store) (P : Set Text) : Listing store P [] (∅, ∅) where
  mapped _ := rfl
  rest _ := rfl
  kept _ _ _ := has_none _

section
variable {deviceName hardware description serviceID : Text} {value : Dictionary}
  {interface : Interface}

/-- The fields of the interface a service describes. -/
theorem has_serviceInterface (hvalue : seen.lookup (interfaceKey serviceID) = some value)
    (hservice : mapping.lookup deviceName = some serviceID)
    (hrun : serviceInterface seen mapping deviceName hardware value.userDefinedName serviceID =
      .ok interface) (field : Field) :
    Has (some interface) (fieldValue mapping seen deviceName field) := by
  obtain ⟨description, hdescription, -, -, hconnected, halias, hinfos⟩ := serviceInterface_ok hrun
  rintro _ ⟨⟩ property hproperty
  cases field with
  | isConnected =>
      obtain rfl := hproperty
      rw [Property.differs, hconnected]
      exact bne_self_eq_false _
  | aliasName =>
      obtain ⟨id, hid, rfl⟩ := hproperty
      obtain rfl := Option.some.inj (hservice.symm.trans hid)
      rw [Property.differs, halias, changedAlias_eq hvalue hdescription]
      exact bne_self_eq_false _
  | ipAddressInfos =>
      obtain ⟨infos, hinfos', rfl⟩ := hproperty
      obtain rfl := Except.ok.inj (hinfos.symm.trans hinfos')
      rw [Property.differs, bne, BEq.rfl]
      rfl

/-- The rest of it. -/
theorem fixed_serviceInterface (hvalue : store.lookup (interfaceKey serviceID) = some value)
    (hhardware : value.hardware = some hardware)
    (hservice : mapping.lookup deviceName = some serviceID)
    (hrun : serviceInterface seen mapping deviceName hardware value.userDefinedName serviceID =
      .ok interface) : some (fixed interface) = fixedOf store mapping deviceName := by
  obtain ⟨description, hdescription, hrun⟩ := Outcome.bind_eq_ok.mp hrun
  obtain ⟨infos, -, hrun⟩ := Outcome.bind_eq_ok.mp hrun
  obtain rfl := Except.ok.inj hrun
  rw [fixedOf, hservice]
  change _ = (store.lookup (interfaceKey serviceID)).bind _
  rw [hvalue]
  change _ = value.hardware.bind _
  rw [hhardware]
  cases hname : value.userDefinedName with
  | none =>
      rw [hname] at hdescription
      cases hdescription
  | some text =>
      rw [hname] at hdescription
      obtain rfl := Except.ok.inj hdescription
      rfl

end

section
variable {pending : List Text} (hstructure : ¬ Restructured pending)
include hstructure

/-- **A service** is read: what has been made is right but for what changes meanwhile. -/
theorem Listing.refreshService {done : List Text} {key : Text}
    {state state' : ServiceMapping × Interfaces}
    (h : Listing store (outdated pending) done state)
    (hkey : Matches setupServiceString interfaceString key)
    (hseen : SameBut (outdated pending) store seen)
    (hrun : MacOS.refreshService seen state key = .ok state') :
    Listing store (outdated pending) (done ++ [key]) state' := by
  have hlookup := hseen.lookup_interfaceKey hstructure hkey
  have mapped : ∀ name, state'.1.lookup name =
      (serviceMapping store (done ++ [key])).lookup name := by
    intro name
    rw [refreshService_mapping hkey hrun, serviceMapping, List.foldl_append]
    -- the entry of the service has not changed since
    have same : mapService seen state.1 key = mapService store state.1 key := by
      rw [mapService, mapService, deviceAt, deviceAt, hlookup]
    rw [same]
    exact lookup_mapService h.mapped key name
  obtain ⟨serviceID, -, -, rfl⟩ := hkey
  rcases refreshService_cases hrun with
    ⟨value, deviceName, hardware, interface, hvalue, hdevice, hhardware, hinterface, rfl⟩ |
      ⟨-, rfl⟩
  · have hservice : (state.1.insert deviceName serviceID).lookup deviceName = some serviceID :=
      AList.lookup_insert _
    refine ⟨mapped, fun name => ?_, fun name field => ?_⟩
    · by_cases hname : name = deviceName
      · subst hname
        change Option.map fixed ((state.2.insert name interface).lookup name) = _
        rw [AList.lookup_insert]
        exact fixed_serviceInterface (hlookup.trans hvalue) hhardware hservice hinterface
      · have hother : state.1.lookup name = (state.1.insert deviceName serviceID).lookup name :=
          (AList.lookup_insert_ne hname).symm
        change Option.map fixed ((state.2.insert deviceName interface).lookup name) = _
        rw [AList.lookup_insert_ne hname, h.rest name]
        exact fixedOf_congr hother fun _ _ => rfl
    · by_cases hname : name = deviceName
      · subst hname
        change (view _).UpTo Has _ _ _ ((state.2.insert name interface).lookup name)
        rw [AList.lookup_insert]
        exact .computed (V := view _) hseen (has_serviceInterface hvalue hservice hinterface field)
      · have hother : state.1.lookup name = (state.1.insert deviceName serviceID).lookup name :=
          (AList.lookup_insert_ne hname).symm
        change (view _).UpTo Has _ _ _ ((state.2.insert deviceName interface).lookup name)
        rw [AList.lookup_insert_ne hname]
        exact upTo_view_congr hother (h.kept name field)
  · exact ⟨mapped, h.rest, h.kept⟩

end

/-! ### The cache -/

/-- The mapping is the one of the services, and the table has the interfaces they describe, right
but for the keys of `P`. -/
structure Consistent (os : System) (store : Store) (P : Set Text) (mapping : ServiceMapping)
    (interfaces : Interfaces) : Prop where
  mapped : ∀ name, mapping.lookup name =
    (serviceMapping store (copyServiceKeys os store)).lookup name
  rest : ∀ name, (interfaces.lookup name).map fixed =
    ((fixedOf store mapping name).map (withMac os name)).filter isComplete
  kept : Kept mapping P store interfaces

theorem Listing.finish {os : System} {P : Set Text} {state : ServiceMapping × Interfaces}
    (h : Listing store P (copyServiceKeys os store) state) :
    Consistent os store P state.1 (removeIncomplete (setOtherFieldsFromIOCTL os state.2)) := by
  have lookup : ∀ name, (removeIncomplete (setOtherFieldsFromIOCTL os state.2)).lookup name =
      ((state.2.lookup name).map (withMac os name)).filter isComplete := by
    intro name
    rw [lookup_removeIncomplete, lookup_setOtherFieldsFromIOCTL]
    rfl
  refine ⟨h.mapped, fun name => ?_, fun name field hreads => ?_⟩
  · rw [lookup, ← h.rest name]
    cases state.2.lookup name with
    | none => rfl
    | some interface =>
        have complete : isComplete (withMac os name (fixed interface)) =
          isComplete (withMac os name interface) := rfl
        rw [Option.map_some, Option.map_some, Option.map_some, Option.filter_some,
          Option.filter_some, complete]
        split
        · rfl
        · rfl
  · rw [lookup]
    intro interface hinterface property hproperty
    obtain ⟨hmap, -⟩ := Option.mem_filter_iff.mp hinterface
    obtain ⟨listed, hlisted, rfl⟩ := Option.mem_map.mp hmap
    have right := h.kept name field hreads listed hlisted property hproperty
    cases property <;> exact right

/-! ### The store changes -/

section
variable {os : System} {pending changedKeys : List Text}

/-- What the entries of the services say is what they said. -/
theorem fixedOf_eq (hsame : SameBut (outdated changedKeys) store store')
    (hstructure : ¬ Restructured changedKeys) (hmapped : Mapped store mapping) (name : Text) :
    fixedOf store mapping name = fixedOf store' mapping name :=
  fixedOf_congr rfl fun serviceID hservice =>
    hsame.lookup_interfaceKey hstructure (hmapped name serviceID hservice).1

/-- The keys that change are still to be told. -/
theorem Kept.change {interfaces : Interfaces}
    (h : Kept mapping (outdated pending) store interfaces)
    (hsame : SameBut (outdated changedKeys) store store') :
    Kept mapping (outdated (pending ++ changedKeys)) store' interfaces :=
  fun name field => ((h name field).change (V := view mapping) hsame).mono outdated_union

theorem mapped_of_lookup {services : List Text}
    (hmapped : ∀ name, mapping.lookup name = (serviceMapping store services).lookup name)
    (hservices : ∀ key ∈ services, Matches setupServiceString interfaceString key) :
    Mapped store mapping := fun name serviceID hservice =>
  mapped_serviceMapping hservices name serviceID ((hmapped name).symm.trans hservice)

theorem Consistent.isMapped {P : Set Text} {interfaces : Interfaces}
    (h : Consistent os store P mapping interfaces) : Mapped store mapping :=
  mapped_of_lookup h.mapped fun _ hkey => (mem_copyServiceKeys.mp hkey).2

theorem Listing.change {done : List Text} {state : ServiceMapping × Interfaces}
    (h : Listing store (outdated pending) done state)
    (hdone : ∀ key ∈ done, Matches setupServiceString interfaceString key)
    (hsame : SameBut (outdated changedKeys) store store')
    (hstructure : ¬ Restructured changedKeys) :
    Listing store' (outdated (pending ++ changedKeys)) done state where
  mapped := hsame.serviceMapping_eq hstructure hdone ▸ h.mapped
  rest name := (h.rest name).trans
    (fixedOf_eq hsame hstructure (mapped_of_lookup h.mapped hdone) name)
  kept := h.kept.change hsame

theorem Consistent.change {interfaces : Interfaces}
    (h : Consistent os store (outdated pending) mapping interfaces)
    (hsame : SameBut (outdated changedKeys) store store')
    (hstructure : ¬ Restructured changedKeys) :
    Consistent os store' (outdated (pending ++ changedKeys)) mapping interfaces where
  mapped := by
    rw [← hsame.copyServiceKeys_eq hstructure os,
      ← hsame.serviceMapping_eq hstructure fun _ hkey => (mem_copyServiceKeys.mp hkey).2]
    exact h.mapped
  rest name := by
    rw [← fixedOf_eq hsame hstructure h.isMapped name]
    exact h.rest name
  kept := h.kept.change hsame

end

/-! ### The callback -/

section
variable {name : Text} {field : Field} {key : Text} {property : Property}

/-- The property is a value of one of the fields. -/
theorem fieldValue_of_current (h : Current store mapping name property) :
    ∃ field, fieldValue mapping store name field property := by
  cases h with
  | isConnected => exact ⟨.isConnected, rfl⟩
  | ipAddressInfos hinfos => exact ⟨.ipAddressInfos, _, hinfos, rfl⟩
  | aliasName hservice => exact ⟨.aliasName, _, hservice, rfl⟩

/-- What the callback does about a key the field is computed from: it gives the field its value, or
asks for a full refresh. -/
theorem keyAction_of_reads (hwell : WellFormed store) (hmapped : Mapped store mapping)
    (hkey : key ∈ fieldReads mapping name field) {action : KeyAction}
    (haction : keyAction seen mapping key = .ok action) :
    action = .needsFullRefresh ∨
      ∃ property, action = .notify name property ∧ fieldValue mapping seen name field property := by
  have addresses : ((getIPAddressInfo seen mapping name).map fun infos =>
      KeyAction.notify name (.ipAddressInfos infos)) = .ok action →
      ∃ property, action = .notify name property ∧
        fieldValue mapping seen name .ipAddressInfos property := by
    intro h
    cases hinfos : getIPAddressInfo seen mapping name with
    | error f =>
        rw [hinfos] at h
        cases h
    | ok infos =>
        rw [hinfos] at h
        exact ⟨_, (Except.ok.inj h).symm, infos, hinfos, rfl⟩
  cases field with
  | isConnected =>
      obtain rfl := Set.mem_singleton_iff.mp hkey
      rw [keyAction_link] at haction
      exact .inr ⟨_, (Except.ok.inj haction).symm, rfl⟩
  | aliasName =>
      obtain ⟨serviceID, hservice, rfl | rfl⟩ := hkey
      · obtain ⟨hmatch, hdevice⟩ := hmapped name serviceID hservice
        obtain ⟨value, -, hvalue, -⟩ := deviceAt_eq_some.mp hdevice
        obtain ⟨segment, hne, hslash, heq⟩ := hmatch
        obtain rfl : serviceID = segment := List.append_cancel_right (List.append_cancel_left heq)
        -- with an id such as `IPv4` the key of the service would end like another kind of key
        have uuid := hwell.uuid serviceID hslash hne
          (AList.lookup_isSome.mp (Option.isSome_iff_exists.mpr ⟨value, hvalue⟩))
        rw [keyAction_root uuid hslash, serviceAction,
          hmapped.getInterfaceForService hservice] at haction
        exact .inr ⟨_, (Except.ok.inj haction).symm, serviceID, hservice, rfl⟩
      · rw [keyAction_interface] at haction
        exact .inl (Except.ok.inj haction).symm
  | ipAddressInfos =>
      obtain ⟨ending, hending, hmem⟩ := List.mem_flatMap.mp hkey
      rcases List.mem_cons.mp hmem with rfl | hmem
      · rw [keyAction_state hending] at haction
        exact .inr (addresses haction)
      · obtain ⟨serviceID, hservice, rfl⟩ := List.mem_map.mp hmem
        rw [keyAction_setup hending, serviceAction,
          hmapped.getInterfaceForService (Option.mem_toList.mp hservice)] at haction
        exact .inr (addresses haction)

theorem fieldValue_unique {property' : Property} (h : fieldValue mapping store name field property)
    (h' : fieldValue mapping store name field property') : property = property' := by
  cases field with
  | isConnected => exact h.trans h'.symm
  | aliasName =>
      obtain ⟨serviceID, hservice, rfl⟩ := h
      obtain ⟨serviceID', hservice', rfl⟩ := h'
      rw [Option.some.inj (hservice.symm.trans hservice')]
  | ipAddressInfos =>
      obtain ⟨infos, hinfos, rfl⟩ := h
      obtain ⟨infos', hinfos', rfl⟩ := h'
      rw [Except.ok.inj (hinfos.symm.trans hinfos')]

/-- The field the property is of. -/
def fieldOf : Property → Option Field
  | .isConnected _    => some .isConnected
  | .aliasName _      => some .aliasName
  | .ipAddressInfos _ => some .ipAddressInfos
  | _                 => none

theorem fieldOf_eq (h : fieldValue mapping store name field property) :
    fieldOf property = some field := by
  cases field with
  | isConnected =>
      obtain rfl := h
      rfl
  | aliasName =>
      obtain ⟨serviceID, -, rfl⟩ := h
      rfl
  | ipAddressInfos =>
      obtain ⟨infos, -, rfl⟩ := h
      rfl

/-- To set a field leaves the others alone, and the rest. -/
theorem differs_set_of_ne {p q : Property} (hne : fieldOf p ≠ fieldOf q) (interface : Interface) :
    q.differs (p.set interface) = q.differs interface := by
  cases p <;> cases q <;> first | rfl | exact absurd rfl hne

theorem fixed_set {p : Property} (h : fieldOf p = some field) (interface : Interface) :
    fixed (p.set interface) = fixed interface := by
  cases p with
  | isEnabled value => cases h
  | isConnected value => rfl
  | aliasName value => rfl
  | ipAddressInfos value => rfl
  | gateways value => cases h

/-- What the action makes of the entry `name`. -/
def KeyAction.give (name : Text) (interface : Interface) : KeyAction → Interface
  | .notify interfaceName property =>
      if name = interfaceName then giveProperty interface property else interface
  | _ => interface

/-- The field that is given a value has it. -/
theorem differs_giveProperty (property : Property) (interface : Interface) :
    property.differs (giveProperty interface property) = false := by
  rw [giveProperty]
  split
  · exact differs_set_self interface property
  · exact Bool.eq_false_iff.mpr ‹_›

theorem differs_giveProperty_of_ne {p q : Property} (hne : fieldOf p ≠ fieldOf q)
    (interface : Interface) : q.differs (giveProperty interface p) = q.differs interface := by
  rw [giveProperty]
  split
  · exact differs_set_of_ne hne interface
  · rfl

theorem fixed_giveProperty (h : fieldOf property = some field) (interface : Interface) :
    fixed (giveProperty interface property) = fixed interface := by
  rw [giveProperty]
  split
  · exact fixed_set h interface
  · rfl

variable {os : System} {P : Set Text} {interfaces interfaces' : Interfaces} {action : KeyAction}

/-- **A changed key** is dealt with: the cache is right up to the keys that are left. -/
theorem Consistent.deal (h : Consistent os store (insert key P) mapping interfaces)
    (hwell : WellFormed store) (hseen : SameBut P store seen)
    (haction : keyAction seen mapping key = .ok action) (hgoes : action ≠ .needsFullRefresh)
    (hlookup : ∀ name, interfaces'.lookup name =
      (interfaces.lookup name).map fun interface => action.give name interface) :
    Consistent os store P mapping interfaces' where
  mapped := h.mapped
  rest name := by
    have same : ∀ interface, fixed (action.give name interface) = fixed interface := by
      intro interface
      cases action with
      | notify interfaceName property =>
          obtain ⟨field, hfield⟩ := fieldValue_of_current (current_of_notify haction)
          rw [KeyAction.give]
          split
          · exact fixed_giveProperty (fieldOf_eq hfield) interface
          · rfl
      | needsFullRefresh => rfl
      | ignored => rfl
    rw [hlookup, Option.map_map, ← h.rest name]
    exact congrArg (Option.map · _) (funext same)
  kept name field := by
    rw [hlookup]
    -- a value that is given to the field is the one that was read
    have given : ∀ property, action = .notify name property →
        fieldValue mapping seen name field property →
        (view mapping).UpTo Has P store (name, field)
          ((interfaces.lookup name).map fun interface => action.give name interface) := by
      rintro property rfl hfield
      refine .computed (V := view mapping) hseen fun interface' hinterface' property' h' => ?_
      obtain rfl := fieldValue_unique hfield h'
      obtain ⟨interface, -, rfl⟩ := Option.mem_map.mp hinterface'
      rw [KeyAction.give, if_pos rfl]
      exact differs_giveProperty property interface
    by_cases hreads : key ∈ fieldReads mapping name field
    · obtain ⟨property, rfl, hfield⟩ :=
        (keyAction_of_reads hwell h.isMapped hreads haction).resolve_left hgoes
      exact given property rfl hfield
    by_cases hset : ∃ property, action = .notify name property ∧ fieldOf property = some field
    · obtain ⟨property, rfl, hof⟩ := hset
      obtain ⟨field', hfield'⟩ := fieldValue_of_current (current_of_notify haction)
      obtain rfl := Option.some.inj (hof.symm.trans (fieldOf_eq hfield'))
      exact given property rfl hfield'
    · intro hkept interface' hinterface' property' hproperty'
      obtain ⟨interface, hinterface, rfl⟩ := Option.mem_map.mp hinterface'
      have old := (h.kept name field).handled (V := view mapping) hreads hkept interface hinterface
        property' hproperty'
      cases action with
      | notify interfaceName property =>
          rw [KeyAction.give]
          split
          · rename_i hname
            subst hname
            rw [differs_giveProperty_of_ne fun hc => hset ⟨property, rfl, ?_⟩]
            · exact old
            · rw [hc, fieldOf_eq hproperty']
          · exact old
      | needsFullRefresh => exact old
      | ignored => exact old

theorem Consistent.mono {Q : Set Text} (h : Consistent os store P mapping interfaces)
    (hsub : P ⊆ Q) : Consistent os store Q mapping interfaces :=
  { h with kept := fun name field => (h.kept name field).mono hsub }

end

/-! ### Nothing is left -/

/-- The keys the fields of a device are computed from are monitored. -/
theorem monitored_of_reads {name : Text} {field : Field} (hwell : WellFormed store)
    (hmapped : Mapped store mapping) {serviceID : Text}
    (hservice : mapping.lookup name = some serviceID) {key : Text}
    (hkey : key ∈ fieldReads mapping name field) : Monitored key := by
  obtain ⟨hmatch, hdevice⟩ := hmapped name serviceID hservice
  obtain ⟨value, hardware, hvalue, hname, -⟩ := deviceAt_eq_some.mp hdevice
  obtain ⟨device, -, -, hdevice', -, -, hne, hslash⟩ := hwell.complete _ value hmatch hvalue
  obtain rfl := Option.some.inj (hname.symm.trans hdevice')
  have interface : Monitored (interfaceKey serviceID) :=
    .inr (.inr (.inr (.inr (.inr (.inr hmatch)))))
  obtain ⟨segment, hid, hidSlash, heq⟩ := hmatch
  obtain rfl : serviceID = segment := List.append_cancel_right (List.append_cancel_left heq)
  cases field with
  | isConnected =>
      obtain rfl := Set.mem_singleton_iff.mp hkey
      exact .inl ⟨name, hne, hslash, rfl⟩
  | aliasName =>
      obtain ⟨id, hid', rfl | rfl⟩ := hkey
      · obtain rfl := Option.some.inj (hservice.symm.trans hid')
        exact .inr (.inr (.inr (.inr (.inr (.inl
          ⟨serviceID, hid, hidSlash, by rw [List.append_nil]⟩)))))
      · obtain rfl := Option.some.inj (hservice.symm.trans hid')
        exact interface
  | ipAddressInfos =>
      obtain ⟨ending, hending, hmem⟩ := List.mem_flatMap.mp hkey
      rcases List.mem_cons.mp hmem with rfl | hmem
      · exact (monitored_address hne hslash hending).1
      · obtain ⟨id, hid', rfl⟩ := List.mem_map.mp hmem
        obtain rfl := Option.some.inj (hservice.symm.trans (Option.mem_toList.mp hid'))
        exact (monitored_address hid hidSlash hending).2

theorem Listing.foldlM {keys done : List Text} {state state' : ServiceMapping × Interfaces}
    (h : Listing store (outdated []) done state)
    (hkeys : ∀ key ∈ keys, Matches setupServiceString interfaceString key)
    (hrun : keys.foldlM (MacOS.refreshService store) state = .ok state') :
    Listing store (outdated []) (done ++ keys) state' := by
  induction keys generalizing done state with
  | nil =>
      obtain rfl := Except.ok.inj hrun
      rwa [List.append_nil]
  | cons key keys ih =>
      rw [List.foldlM_cons] at hrun
      obtain ⟨state₁, hfirst, hrest⟩ := Outcome.bind_eq_ok.mp hrun
      rw [List.forall_mem_cons] at hkeys
      rw [List.append_cons]
      refine ih (h.refreshService ?_ hkeys.1 (fun _ _ => rfl) hfirst) hkeys.2 hrest
      rintro ⟨key, hmem, -⟩
      cases hmem

/-- A refresh of a store that stays as it is makes a cache that is right. -/
theorem consistent_of_refreshInterfaces {os : System} {interfaces : Interfaces}
    (h : refreshInterfaces os store = .ok (mapping, interfaces)) :
    Consistent os store (outdated []) mapping interfaces := by
  obtain ⟨⟨m, listed⟩, hrun, h⟩ := Outcome.bind_eq_ok.mp h
  obtain ⟨rfl, rfl⟩ := Prod.mk.inj (Except.ok.inj h)
  have listing := (Listing.nil store (outdated [])).foldlM
    (fun key hkey => (mem_copyServiceKeys.mp hkey).2) hrun
  rw [List.nil_append] at listing
  exact listing.finish

/-- Interfaces that agree on the fields and on the rest are the same by `operator==`. -/
theorem beq_of_fixed {lhs rhs : Interface} (hfixed : fixed lhs = fixed rhs)
    (hconnected : lhs.isConnected = rhs.isConnected) (halias : lhs.aliasName = rhs.aliasName)
    (hinfos : (lhs.ipAddressInfos == rhs.ipAddressInfos) = true) : (lhs == rhs) = true := by
  have id : lhs.id = rhs.id := congrArg (·.id) hfixed
  have description : lhs.description = rhs.description := congrArg (·.description) hfixed
  have macAddress : lhs.macAddress = rhs.macAddress := congrArg (·.macAddress) hfixed
  have gateways : lhs.gateways = rhs.gateways := congrArg (·.gateways) hfixed
  have type : lhs.type = rhs.type := congrArg (·.type) hfixed
  have isEnabled : lhs.isEnabled = rhs.isEnabled := congrArg (·.isEnabled) hfixed
  have isVirtual : lhs.isVirtual = rhs.isVirtual := congrArg (·.isVirtual) hfixed
  change lhs.equals rhs = true
  rw [Interface.equals, id, description, macAddress, gateways, type, isEnabled, isVirtual,
    hconnected, halias, hinfos]
  simp

/-- A field of the interface is computed from a key of `missed`. -/
def Touched (mapping : ServiceMapping) (missed : List Text) (name : Text) : Prop :=
  ∃ field, ∃ key ∈ fieldReads mapping name field, key ∈ missed

/-- **But for the keys that are left**, mapping and table are those of a refresh. -/
theorem Consistent.agrees {os : System} {missed : List Text} {interfaces interfaces' : Interfaces}
    (h : Consistent os store (outdated missed) mapping interfaces) (hwell : WellFormed store)
    (hrefresh : refreshInterfaces os store = .ok (mapping', interfaces')) :
    (∀ name, mapping.lookup name = mapping'.lookup name) ∧
    (∀ name, name ∈ interfaces ↔ name ∈ interfaces') ∧
    ∀ name, ¬ Touched mapping missed name →
      Option.Rel (fun l r : Interface => (l == r) = true) (interfaces.lookup name)
        (interfaces'.lookup name) := by
  have h' := consistent_of_refreshInterfaces hrefresh
  obtain ⟨listed, hlisted, -, -⟩ := refreshInterfaces_ok hrefresh
  have mapped (name : Text) : mapping.lookup name = mapping'.lookup name :=
    (h.mapped name).trans (h'.mapped name).symm
  have rest (name : Text) :
      (interfaces.lookup name).map fixed = (interfaces'.lookup name).map fixed := by
    rw [h.rest, h'.rest, fixedOf_congr (mapped name) fun _ _ => rfl]
  refine ⟨mapped, fun name => ?_, fun name huntouched => ?_⟩
  · rw [← AList.lookup_isSome, ← AList.lookup_isSome, ← Option.isSome_map (f := fixed), rest,
      Option.isSome_map]
  have rest := rest name
  cases hlookup : interfaces.lookup name with
  | none =>
      rw [hlookup] at rest
      rw [Option.map_eq_none_iff.mp rest.symm]
      exact .none
  | some interface =>
      rw [hlookup] at rest
      obtain ⟨interface', hlookup', hfixed⟩ := Option.map_eq_some_iff.mp rest.symm
      rw [hlookup']
      -- the interface is mapped to a service, so its fields have values
      obtain ⟨serviceID, hservice⟩ : ∃ serviceID, mapping.lookup name = some serviceID := by
        refine Option.ne_none_iff_exists'.mp fun hnone => ?_
        have := h.rest name
        rw [hlookup, fixedOf, hnone] at this
        cases this
      have hservice' := (mapped name).symm.trans hservice
      obtain ⟨value, hardware, interface₀, -, -, -, -, hinterface₀, -⟩ :=
        hlisted.service name serviceID hservice'
      obtain ⟨-, -, -, -, -, -, hinfos⟩ := serviceInterface_ok hinterface₀
      have agree : ∀ (field : Field) (property : Property),
          fieldValue mapping' store name field property →
          property.differs interface = false ∧ property.differs interface' = false := by
        intro field property hproperty
        refine ⟨?_, ?_⟩
        · have reads : ∀ key ∈ fieldReads mapping name field, key ∉ outdated missed :=
            fun key hkey hc => huntouched ⟨field, key, hkey,
              hc (monitored_of_reads hwell h.isMapped hservice hkey)⟩
          have value := (congrFun (fieldValue_congr_mapping (mapped name) store field) property).mpr
            hproperty
          exact h.kept name field reads interface hlookup property value
        · have reads : ∀ key ∈ fieldReads mapping' name field, key ∉ outdated [] :=
            fun key hkey hc => absurd (hc (monitored_of_reads hwell h'.isMapped hservice' hkey))
              List.not_mem_nil
          exact h'.kept name field reads interface' hlookup' property hproperty
      have connected := agree .isConnected _ rfl
      have aliasName := agree .aliasName _ ⟨serviceID, hservice', rfl⟩
      have infos := agree .ipAddressInfos _ ⟨_, hinfos, rfl⟩
      simp only [Property.differs, bne_eq_false_iff_eq] at connected aliasName
      simp only [Property.differs, bne, Bool.not_eq_false'] at infos
      exact .some (beq_of_fixed hfixed.symm (connected.1.trans connected.2.symm)
        (aliasName.1.trans aliasName.2.symm) (BEq.trans infos.1 (BEq.symm infos.2)))

end MacOS

end NetworkInterface
