import Mathlib.Data.Finset.Sort
import Mathlib.Data.List.Lex
import NetworkInterface.Delegate.MacChanges

/-!
# Delegate — Mac agreement

What `dynamicStoreChangedCallback` makes of the table, next to what a full refresh makes of it.

`dynamicStoreChangedCallback_agrees`: the two tables agree as far as names, connection, alias and
addresses go.  A run without a full refresh sees no changed `/Interface` entry, so the mapping is
the one a refresh would make; then every event gives a property the value of the refresh, and every
property that has another value gets an event.
-/

namespace NetworkInterface

namespace MacOS

variable {O : Type} [DecidableEq O]
variable {store : Store} {mapping : ServiceMapping}

/-! ### Without a full refresh -/

section
variable {S₀ S₁ : Store} {changedKeys : List Text}

/-- The keys that are monitored and differ are among the changed ones. -/
def Covers (changedKeys : List Text) (S₀ S₁ : Store) : Prop :=
  ∀ key, Monitored key → S₀.lookup key ≠ S₁.lookup key → key ∈ changedKeys

theorem monitored_address {name : Text} (hne : name ≠ []) (hslash : '/' ∉ name) {ending : Text}
    (hending : ending ∈ [ipv4String, ipv6String]) :
    Monitored (stateInterfaceString ++ (name ++ ending)) ∧
      Monitored (setupServiceString ++ (name ++ ending)) := by
  rcases List.mem_pair.mp hending with rfl | rfl
  · exact ⟨.inr (.inl ⟨name, hne, hslash, rfl⟩), .inr (.inr (.inl ⟨name, hne, hslash, rfl⟩))⟩
  · exact ⟨.inr (.inr (.inr (.inl ⟨name, hne, hslash, rfl⟩))),
      .inr (.inr (.inr (.inr (.inl ⟨name, hne, hslash, rfl⟩))))⟩

/-- Without a full refresh, the service keys have the values they had. -/
theorem lookup_serviceKey (hcovers : Covers changedKeys S₀ S₁)
    (hrefresh : ∀ key ∈ changedKeys, keyAction S₁ mapping key ≠ .ok .needsFullRefresh) {key : Text}
    (hkey : Matches setupServiceString interfaceString key) : S₀.lookup key = S₁.lookup key := by
  by_contra hne
  obtain ⟨segment, hsegment, hslash, rfl⟩ := hkey
  have changed := hcovers _
    (.inr (.inr (.inr (.inr (.inr (.inr ⟨segment, hsegment, hslash, rfl⟩)))))) hne
  exact hrefresh _ changed (keyAction_interface segment)

theorem copyServiceKeys_eq (os : System) (hcovers : Covers changedKeys S₀ S₁)
    (hrefresh : ∀ key ∈ changedKeys, keyAction S₁ mapping key ≠ .ok .needsFullRefresh) :
    copyServiceKeys os S₀ = copyServiceKeys os S₁ := by
  refine congrArg os.listing (Finset.ext fun key => ?_)
  rw [Finset.mem_filter, Finset.mem_filter, List.mem_toFinset, List.mem_toFinset,
    ← AList.mem_keys, ← AList.mem_keys]
  refine and_congr_left fun hkey => ?_
  rw [← AList.lookup_isSome, ← AList.lookup_isSome, lookup_serviceKey hcovers hrefresh hkey]

/-! ### What differs gets an event -/

section
variable {name serviceID : Text}

/-- The connection, which is in the link entry of the device. -/
theorem notified_link (hcovers : Covers changedKeys S₀ S₁) (hname : name ≠ [])
    (hslash : '/' ∉ name) :
    isInterfaceConnected S₀ (stateInterfaceString ++ (name ++ linkString)) =
        isInterfaceConnected S₁ (stateInterfaceString ++ (name ++ linkString)) ∨
      ∃ key ∈ changedKeys, keyAction S₁ mapping key = .ok (.notify name (.isConnected
        (isInterfaceConnected S₁ (stateInterfaceString ++ (name ++ linkString))))) := by
  by_cases hsame : S₀.lookup (stateInterfaceString ++ (name ++ linkString)) =
    S₁.lookup (stateInterfaceString ++ (name ++ linkString))
  · exact .inl (by rw [isInterfaceConnected, isInterfaceConnected, hsame])
  · exact .inr ⟨_, hcovers _ (.inl ⟨name, hname, hslash, rfl⟩) hsame, keyAction_link name⟩

/-- The alias, which is in the root entry of the service. -/
theorem notified_root (hcovers : Covers changedKeys S₀ S₁) (hid : serviceID ≠ [])
    (hslash : '/' ∉ serviceID) (uuid : IsUUID serviceID)
    (found : getInterfaceForService mapping serviceID = some name) :
    getUserDefinedName S₀ serviceID = getUserDefinedName S₁ serviceID ∨
      ∃ key ∈ changedKeys, keyAction S₁ mapping key =
        .ok (.notify name (.aliasName (changedAlias S₁ serviceID name))) := by
  by_cases hsame : S₀.lookup (setupServiceString ++ serviceID) =
    S₁.lookup (setupServiceString ++ serviceID)
  · exact .inl (by rw [getUserDefinedName, getUserDefinedName, hsame])
  · have root : Monitored (setupServiceString ++ serviceID) :=
      .inr (.inr (.inr (.inr (.inr (.inl ⟨serviceID, hid, hslash, by rw [List.append_nil]⟩)))))
    refine .inr ⟨_, hcovers _ root hsame, ?_⟩
    rw [keyAction_root uuid hslash, serviceAction, found]

/-- The addresses, which are in the entries of the device and of the service. -/
theorem notified_addresses (hcovers : Covers changedKeys S₀ S₁) (hname : name ≠ [])
    (hslash : '/' ∉ name) (hid : serviceID ≠ []) (hidSlash : '/' ∉ serviceID)
    (hservice : mapping.lookup name = some serviceID)
    (found : getInterfaceForService mapping serviceID = some name) {infos : IPAddressInfos}
    (hinfos : getIPAddressInfo S₁ mapping name = .ok infos) :
    getIPAddressInfo S₀ mapping name = getIPAddressInfo S₁ mapping name ∨
      ∃ key ∈ changedKeys, keyAction S₁ mapping key =
        .ok (.notify name (.ipAddressInfos infos)) := by
  by_cases hsame : ∀ key ∈ addressKeys mapping name, S₀.lookup key = S₁.lookup key
  · exact .inl (getIPAddressInfo_congr rfl hsame)
  push Not at hsame
  obtain ⟨key, hmem, hne⟩ := hsame
  obtain ⟨ending, hending, hmem⟩ := List.mem_flatMap.mp hmem
  refine .inr ⟨key, ?_⟩
  rw [hservice] at hmem
  rcases List.mem_cons.mp hmem with rfl | hmem
  · refine ⟨hcovers _ (monitored_address hname hslash hending).1 hne, ?_⟩
    rw [keyAction_state hending, hinfos]
    rfl
  · obtain rfl : key = setupServiceString ++ (serviceID ++ ending) := by simpa using hmem
    refine ⟨hcovers _ (monitored_address hid hidSlash hending).2 hne, ?_⟩
    rw [keyAction_setup hending, serviceAction, found]
    simp only [hinfos]
    rfl

end

/-- **Every property** that differs from the one of a refresh gets an event. -/
theorem notified_of_differs (hwell : WellFormed S₁) (hcovers : Covers changedKeys S₀ S₁)
    (hrefresh : ∀ key ∈ changedKeys, keyAction S₁ mapping key ≠ .ok .needsFullRefresh)
    {listed₀ listed₁ : Interfaces} (h₀ : Listed S₀ (mapping, listed₀))
    (h₁ : Listed S₁ (mapping, listed₁)) {name : Text} {interface₀ interface₁ : Interface}
    (hlookup₀ : listed₀.lookup name = some interface₀)
    (hlookup₁ : listed₁.lookup name = some interface₁) :
    ∀ property ∈ [.isConnected interface₁.isConnected, .aliasName interface₁.aliasName,
        Property.ipAddressInfos interface₁.ipAddressInfos],
      property.differs interface₀ = false ∨
        ∃ key ∈ changedKeys, keyAction S₁ mapping key = .ok (.notify name property) := by
  cases hservice : mapping.lookup name with
  | none => cases hlookup₁.symm.trans (h₁.only name hservice)
  | some serviceID =>
  obtain ⟨value, hardware, i₁, hkey, hvalue, hdevice, hhardware, hinterface₁, hl₁⟩ :=
    h₁.service name serviceID hservice
  obtain ⟨value₀, hardware₀, i₀, -, hvalue₀, -, -, hinterface₀, hl₀⟩ :=
    h₀.service name serviceID hservice
  obtain rfl := Option.some.inj (hl₁.symm.trans hlookup₁)
  obtain rfl := Option.some.inj (hl₀.symm.trans hlookup₀)
  obtain rfl := Option.some.inj
    (hvalue.symm.trans ((lookup_serviceKey hcovers hrefresh hkey).symm.trans hvalue₀))
  obtain ⟨description, hdescription, -, -, hconnected₁, halias₁, hinfos₁⟩ :=
    serviceInterface_ok hinterface₁
  obtain ⟨description₀, hdescription₀, -, -, hconnected₀, halias₀, hinfos₀⟩ :=
    serviceInterface_ok hinterface₀
  obtain rfl := Option.some.inj (hdescription.symm.trans hdescription₀)
  -- the names in the keys are ones the patterns match
  obtain ⟨_, _, _, hdevice', -, -, hname, hnameSlash⟩ := hwell.complete _ value hkey hvalue
  obtain rfl := Option.some.inj (hdevice.symm.trans hdevice')
  obtain ⟨segment, hid, hidSlash, heq⟩ := hkey
  obtain rfl : serviceID = segment :=
    List.append_cancel_right (List.append_cancel_left heq)
  have found := h₁.getInterfaceForService hservice
  have uuid := hwell.uuid serviceID hidSlash hid
    (AList.lookup_isSome.mp (Option.isSome_iff_exists.mpr ⟨value, hvalue⟩))
  simp only [List.forall_mem_cons]
  refine ⟨?_, ?_, ?_, fun _ h => absurd h List.not_mem_nil⟩
  · refine (@notified_link mapping _ _ _ _ hcovers hname hnameSlash).imp (fun same => ?_)
      fun event => ?_
    · rw [Property.differs, hconnected₀, hconnected₁, same]
      exact bne_self_eq_false _
    · rw [hconnected₁]
      exact event
  · refine (notified_root hcovers hid hidSlash uuid found).imp (fun same => ?_) fun event => ?_
    · rw [Property.differs, halias₀, halias₁, same]
      exact bne_self_eq_false _
    · rw [halias₁, ← changedAlias_eq hvalue hdescription]
      exact event
  · refine Or.imp_left (fun same => ?_)
      (notified_addresses hcovers hname hnameSlash hid hidSlash hservice found hinfos₁)
    rw [hinfos₀, hinfos₁] at same
    rw [Property.differs, Except.ok.inj same, bne, BEq.rfl]
    rfl

/-- The incremental run and the refresh agree at each name. -/
theorem tablesAgree_of_processKeys {os : System} (hwell : WellFormed S₁)
    (hcovers : Covers changedKeys S₀ S₁) {table₀ table₁ : Interfaces} {mapping₁ : ServiceMapping}
    {helper helper' : Helper O} (h₀ : refreshInterfaces os S₀ = .ok (mapping, table₀))
    (htable : helper.networkInterfaces = table₀)
    (h₁ : refreshInterfaces os S₁ = .ok (mapping₁, table₁))
    (hrun : processKeys S₁ mapping changedKeys helper = .ok (helper', false)) :
    TablesAgree helper'.networkInterfaces table₁ := by
  obtain ⟨hrefresh, names⟩ := processKeys_ok hrun
  obtain ⟨listed₀, hlisted₀, run₀, lookup₀⟩ := refreshInterfaces_ok h₀
  obtain ⟨listed₁, hlisted₁, run₁, lookup₁⟩ := refreshInterfaces_ok h₁
  -- the loops over the services make the same mapping
  have same : mapping = mapping₁ := by
    rw [copyServiceKeys_eq os hcovers hrefresh] at run₀
    exact mapping_foldlM (fun key hkey => (mem_copyServiceKeys.mp hkey).2)
      (fun key hkey => lookup_serviceKey hcovers hrefresh (mem_copyServiceKeys.mp hkey).2) rfl
      run₀ run₁
  subst same
  intro name
  obtain ⟨properties, hmem, hlookup⟩ := names name
  rw [hlookup, htable, lookup₀, lookup₁]
  cases hservice : mapping.lookup name with
  | none =>
      rw [hlisted₀.only name hservice, hlisted₁.only name hservice]
      exact .none
  | some serviceID =>
      obtain ⟨value₀, hardware₀, i₀, hkey, hvalue₀, -, hhardware₀, hinterface₀, hl₀⟩ :=
        hlisted₀.service name serviceID hservice
      obtain ⟨value₁, hardware₁, i₁, -, hvalue₁, -, hhardware₁, hinterface₁, hl₁⟩ :=
        hlisted₁.service name serviceID hservice
      obtain rfl := Option.some.inj
        (hvalue₀.symm.trans ((lookup_serviceKey hcovers hrefresh hkey).trans hvalue₁))
      obtain rfl := Option.some.inj (hhardware₀.symm.trans hhardware₁)
      obtain ⟨_, -, htype₀, hmac₀, -⟩ := serviceInterface_ok hinterface₀
      obtain ⟨_, -, htype₁, hmac₁, -⟩ := serviceInterface_ok hinterface₁
      have complete : isComplete
            { i₀ with macAddress := macAt os.ifaddrs name i₀.macAddress } =
          isComplete { i₁ with macAddress := macAt os.ifaddrs name i₁.macAddress } := by
        rw [isComplete, isComplete]
        dsimp only
        rw [htype₀, htype₁, hmac₀, hmac₁]
      have differs := notified_of_differs hwell hcovers hrefresh hlisted₀ hlisted₁ hl₀ hl₁
      have sub : properties ⊆ i₁.properties := fun property hproperty => by
        obtain ⟨key, -, haction⟩ := (hmem property).mp hproperty
        exact (current_of_notify haction).mem_properties hlisted₁ hl₁
      have given : ∀ property ∈ [.isConnected i₁.isConnected, .aliasName i₁.aliasName,
            Property.ipAddressInfos i₁.ipAddressInfos], property.differs
          (properties.foldl giveProperty
            { i₀ with macAddress := macAt os.ifaddrs name i₀.macAddress }) = false := by
        intro property hproperty
        refine differs_foldl_giveProperty sub ?_ ?_
        · simp only [List.mem_cons, List.not_mem_nil, or_false] at hproperty
          rcases hproperty with rfl | rfl | rfl <;> simp [Interface.properties]
        · refine (differs property hproperty).imp (fun h => ?_) (hmem property).mpr
          simp only [List.mem_cons, List.not_mem_nil, or_false] at hproperty
          rcases hproperty with rfl | rfl | rfl <;> exact h
      rw [hl₀, hl₁, Option.map_some, Option.map_some]
      cases hcomplete : isComplete
          { i₁ with macAddress := macAt os.ifaddrs name i₁.macAddress } with
      | false =>
          rw [Option.filter_some, Option.filter_some, complete, hcomplete]
          exact .none
      | true =>
          rw [Option.filter_some, Option.filter_some, complete, hcomplete, if_pos rfl, if_pos rfl]
          simp only [List.forall_mem_cons, Property.differs, bne_eq_false_iff_eq] at given
          refine .some ⟨given.1, given.2.1, ?_⟩
          simpa [bne] using given.2.2.1

end

/-! ### The callback returns -/

theorem keyAction_defined {changedKeys : List Text} (hkeys : FromSystem changedKeys)
    (hread : Readable store) {key : Text} (hkey : key ∈ changedKeys) :
    ∃ action, keyAction store mapping key = .ok action := by
  have mapped : ∀ name name' : Text, ∃ action,
      ((getIPAddressInfo store mapping name').map fun ipAddressInfos =>
        KeyAction.notify name (.ipAddressInfos ipAddressInfos)) = .ok action := by
    intro name name'
    obtain ⟨ipInfos, hinfos⟩ := getIPAddressInfo_defined hread mapping name'
    exact ⟨_, by rw [hinfos]; rfl⟩
  have service : ∀ (serviceID : Text) {action : Text → Outcome KeyAction},
      (∀ name, ∃ a, action name = .ok a) →
      ∃ a, serviceAction mapping serviceID action = .ok a := by
    intro serviceID action h
    rw [serviceAction]
    split
    · exact h _
    · exact ⟨_, rfl⟩
  rcases hkeys.monitored key hkey with hm | hm | hm | hm | hm | hm | hm <;>
    obtain ⟨segment, hne, hslash, rfl⟩ := hm
  · exact ⟨_, keyAction_link segment⟩
  · rw [keyAction_state (by simp)]
    exact mapped _ _
  · rw [keyAction_setup (by simp)]
    exact service _ fun name => mapped _ _
  · rw [keyAction_state (by simp)]
    exact mapped _ _
  · rw [keyAction_setup (by simp)]
    exact service _ fun name => mapped _ _
  · rw [List.append_nil] at hkey ⊢
    rw [keyAction_root (hkeys.uuid segment hslash hne hkey) hslash]
    exact service _ fun name => ⟨_, rfl⟩
  · exact ⟨_, keyAction_interface segment⟩

theorem processKeys_defined {changedKeys : List Text}
    (h : ∀ key ∈ changedKeys, ∃ action, keyAction store mapping key = .ok action) :
    ∀ helper : Helper O, ∃ result,
      processKeys store mapping changedKeys helper = .ok result := by
  induction changedKeys with
  | nil => exact fun helper => ⟨_, rfl⟩
  | cons key changedKeys ih =>
      intro helper
      rw [List.forall_mem_cons] at h
      obtain ⟨action, haction⟩ := h.1
      rw [processKeys, haction]
      cases action with
      | notify name property => exact ih h.2 _
      | needsFullRefresh => exact ⟨_, rfl⟩
      | ignored => exact ih h.2 _

/-! ### Agreement -/

theorem TablesAgree.refl (interfaces : Interfaces) : TablesAgree interfaces interfaces := by
  intro name
  cases interfaces.lookup name with
  | none => exact .none
  | some interface => exact .some ⟨rfl, rfl, BEq.rfl⟩

/-- **Incremental updates agree with a full refresh**: from the table and the mapping of a refresh
at `S₀`, the callback at `S₁` leaves the table a refresh at `S₁` does, as far as names, connection,
alias and addresses go.  Both return when the addresses in the store can be read and the changed
keys are ones the system tells about. -/
theorem dynamicStoreChangedCallback_agrees (os : System) {S₀ S₁ : Store} {changedKeys : List Text}
    (hwell : WellFormed S₁) (hcovers : Covers changedKeys S₀ S₁) {state : State O}
    (hstate : refreshInterfaces os S₀ =
      .ok (state.interfaceToServiceMapping, state.helper.networkInterfaces)) :
    (∀ incremental full,
      dynamicStoreChangedCallback os S₁ changedKeys state = .ok incremental →
      fullRefresh os S₁ state = .ok full →
      TablesAgree incremental.helper.networkInterfaces full.helper.networkInterfaces) ∧
    (Readable S₁ → FromSystem changedKeys →
      (∃ incremental, dynamicStoreChangedCallback os S₁ changedKeys state = .ok incremental) ∧
      ∃ full, fullRefresh os S₁ state = .ok full) := by
  refine ⟨fun incremental full hincremental hfull => ?_, fun hread hkeys => ?_⟩
  · obtain ⟨⟨mapping₁, table₁⟩, h₁, hfull⟩ := Outcome.bind_eq_ok.mp hfull
    obtain rfl := Except.ok.inj hfull
    obtain ⟨⟨helper, needsFullRefresh⟩, hrun, hincremental⟩ := Outcome.bind_eq_ok.mp hincremental
    cases needsFullRefresh with
    | true =>
        obtain ⟨⟨mapping', table'⟩, h', hincremental⟩ := Outcome.bind_eq_ok.mp hincremental
        obtain rfl := Except.ok.inj hincremental
        obtain ⟨rfl, rfl⟩ := Prod.mk.inj (Except.ok.inj (h'.symm.trans h₁))
        exact TablesAgree.refl _
    | false =>
        obtain rfl := Except.ok.inj hincremental
        exact tablesAgree_of_processKeys hwell hcovers hstate rfl h₁ hrun
  · have named : ∀ key value, Matches setupServiceString interfaceString key →
        S₁.lookup key = some value →
        ∃ userDefinedName, value.userDefinedName = some userDefinedName := by
      intro key value hkey hvalue
      obtain ⟨-, -, userDefinedName, -, -, h, -⟩ := hwell.complete key value hkey hvalue
      exact ⟨userDefinedName, h⟩
    obtain ⟨refreshed, hrefreshed⟩ := refreshInterfaces_defined os hread named
    have full : ∀ state : State O, ∃ full, fullRefresh os S₁ state = .ok full := fun state =>
      ⟨_, Outcome.bind_eq_ok.mpr ⟨refreshed, hrefreshed, rfl⟩⟩
    obtain ⟨⟨helper, needsFullRefresh⟩, hrun⟩ := processKeys_defined
      (fun key hkey => keyAction_defined hkeys hread hkey) state.helper
    refine ⟨?_, full state⟩
    cases needsFullRefresh with
    | true =>
        obtain ⟨result, hresult⟩ := full { state with helper := helper }
        exact ⟨result, Outcome.bind_eq_ok.mpr ⟨_, hrun, hresult⟩⟩
    | false => exact ⟨_, Outcome.bind_eq_ok.mpr ⟨_, hrun, rfl⟩⟩

/-! ### A link goes up -/

/-- The service of the tests, on `en0`. -/
def ethernetService : Text := "5D0E4B2C-63F1-4A0B-8E7D-1A2B3C4D5E6F".toList

/-- The link key of `en0`. -/
def en0Link : Text := stateInterfaceString ++ ("en0".toList ++ linkString)

def ethernetEntry : Dictionary where
  deviceName := "en0".toList
  hardware := "Ethernet".toList
  userDefinedName := "Ethernet".toList

/-- A store with that service, and the state of its link. -/
def linkStore (active : Bool) : Store :=
  (AList.singleton (interfaceKey ethernetService) ethernetEntry).insert en0Link { active := active }

/-- Alphabetical order. -/
def alphabetical (a b : Text) : Prop := @LE.le Text List.instLE a b

instance decidableAlphabetical : DecidableRel alphabetical := fun a b => List.decidableLE a b

instance isTrans_alphabetical : IsTrans Text alphabetical := ⟨fun _ _ _ => List.le_trans⟩

instance antisymm_alphabetical : Std.Antisymm alphabetical := ⟨fun _ _ => List.le_antisymm⟩

instance total_alphabetical : Std.Total alphabetical := ⟨List.le_total⟩

/-- A system that lists keys in alphabetical order. -/
def sortedSystem : System where
  listing keys := keys.sort alphabetical
  mem_listing := Finset.mem_sort _
  ifaddrs := [("en0".toList, #v[2, 0, 0, 0, 0, 1])]

theorem isUUID_ethernetService : IsUUID ethernetService := by
  refine ⟨rfl, fun i c hc => ?_⟩
  have all : ∀ i (h : i < ethernetService.length),
      if i ∈ [8, 13, 18, 23] then ethernetService[i] = '-'
      else Support.Numeral.isDigit 16 ethernetService[i] = true := by decide
  obtain ⟨hi, rfl⟩ := List.getElem?_eq_some_iff.mp hc
  exact all i hi

theorem lookup_linkStore {active : Bool} {key : Text} {value : Dictionary}
    (h : (linkStore active).lookup key = some value) :
    key = en0Link ∧ value = { active := active } ∨
      key = interfaceKey ethernetService ∧ value = ethernetEntry := by
  by_cases hkey : key = en0Link
  · subst hkey
    exact .inl ⟨rfl, (Option.some.inj ((AList.lookup_insert _).symm.trans h)).symm⟩
  · rw [linkStore, AList.lookup_insert_ne hkey] at h
    have entry := AList.mem_lookup_iff.mp (Option.mem_def.mpr h)
    obtain ⟨rfl, heq⟩ := Sigma.mk.inj (List.mem_singleton.mp entry)
    exact .inr ⟨rfl, eq_of_heq heq⟩

theorem readable_linkStore (active : Bool) : Readable (linkStore active) := by
  intro key value h
  rcases lookup_linkStore h with ⟨-, rfl⟩ | ⟨-, rfl⟩
  · exact ⟨nofun, nofun, nofun⟩
  · exact ⟨nofun, nofun, nofun⟩

theorem wellFormed_linkStore : WellFormed (linkStore true) where
  uuid := by
    intro serviceID _ _ hmem
    obtain ⟨value, hvalue⟩ := Option.isSome_iff_exists.mp (AList.lookup_isSome.mpr hmem)
    rcases lookup_linkStore hvalue with ⟨hkey, -⟩ | ⟨hkey, -⟩
    · have := hasPrefix_setup (serviceID ++ interfaceString)
      rw [← interfaceKey, hkey, en0Link, hasPrefix_append] at this
      cases this
    · rw [List.append_cancel_right (List.append_cancel_left hkey)]
      exact isUUID_ethernetService
  complete := by
    intro key value hmatch hvalue
    rcases lookup_linkStore hvalue with ⟨rfl, -⟩ | ⟨-, rfl⟩
    · obtain ⟨segment, -, -, heq⟩ := hmatch
      have := hasPrefix_setup (segment ++ interfaceString)
      rw [← heq, en0Link, hasPrefix_append] at this
      cases this
    · exact ⟨_, _, _, rfl, rfl, rfl, by decide, by decide⟩

/-- A key with a new value is noted. -/
theorem covers_insert (store : Store) (key : Text) (old new : Dictionary) :
    Covers [key] (store.insert key old) (store.insert key new) := by
  intro other _ hne
  by_contra hother
  have hother : other ≠ key := fun hc => hother (List.mem_singleton.mpr hc)
  exact hne (by rw [AList.lookup_insert_ne hother, AList.lookup_insert_ne hother])

theorem covers_linkStore : Covers [en0Link] (linkStore false) (linkStore true) :=
  covers_insert _ _ _ _

/-- The link of `en0` goes up. -/
theorem dynamicStoreChangedCallback_agrees_en0 : ∃ state : State Unit,
    refreshInterfaces sortedSystem (linkStore false) =
      .ok (state.interfaceToServiceMapping, state.helper.networkInterfaces) ∧
    (∀ incremental full,
      dynamicStoreChangedCallback sortedSystem (linkStore true) [en0Link] state =
        .ok incremental →
      fullRefresh sortedSystem (linkStore true) state = .ok full →
      TablesAgree incremental.helper.networkInterfaces full.helper.networkInterfaces) ∧
    (Readable (linkStore true) → FromSystem [en0Link] →
      (∃ incremental, dynamicStoreChangedCallback sortedSystem (linkStore true) [en0Link] state =
        .ok incremental) ∧
      ∃ full, fullRefresh sortedSystem (linkStore true) state = .ok full) := by
  obtain ⟨⟨mapping, table⟩, h⟩ := refreshInterfaces_defined sortedSystem
    (readable_linkStore false) fun key value hmatch hvalue => by
      rcases lookup_linkStore hvalue with ⟨rfl, -⟩ | ⟨-, rfl⟩
      · obtain ⟨segment, -, -, heq⟩ := hmatch
        have := hasPrefix_setup (segment ++ interfaceString)
        rw [← heq, en0Link, hasPrefix_append] at this
        cases this
      · exact ⟨_, rfl⟩
  exact ⟨⟨{ networkInterfaces := table }, mapping⟩, h,
    dynamicStoreChangedCallback_agrees sortedSystem wellFormed_linkStore covers_linkStore h⟩

end MacOS

end NetworkInterface
