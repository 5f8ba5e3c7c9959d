import NetworkInterface.Address.Legible
import NetworkInterface.Delegate.Keyed

/-!
# Delegate — Win32

What `OsDependentDelegate_Win32` makes of the list `GetAdaptersAddresses` gives.  The list is read
at two places: `refreshInterfaces_WinAPI` sets up the interfaces from it, and the second pass of
`refreshInterfaces_WMI` adds the addresses to the interfaces that WMI found.

`readings_isOk_iff`: a reading is defined exactly when no interface it lists has an IPv6 address
with a prefix length from 64 to 127.  Where both are defined they agree on the addresses
(`sameAddresses`).
-/

namespace NetworkInterface

namespace Windows

/-! ### What the system gives -/

/-- A wide string. -/
abbrev Wide := List UInt16

/-- The functions of Windows that are called. -/
structure Api where
  /-- `WideCharToMultiByte`, into a buffer of that size.  `none`: it returns zero. -/
  wideCharToMultiByte : Wide → Nat → Option Text
  /-- `RtlIpv6AddressToStringA`. -/
  rtlIpv6AddressToString : Vector UInt8 16 → Text

/-- A `SOCKADDR`: its family is `AF_INET6`, or another one. -/
inductive SockAddr where
  | inet6 (sin6_addr : Vector UInt8 16)
  | other (s_addr : ValueTypeV4)

/-- `IP_ADAPTER_UNICAST_ADDRESS`. -/
structure UnicastAddress where
  address : SockAddr
  onLinkPrefixLength : UInt8

/-- `IP_ADAPTER_ADDRESSES`. -/
structure Adapter where
  adapterName : Text
  description : Wide
  friendlyName : Wide
  /-- The first `PhysicalAddressLength` bytes. -/
  physicalAddress : List UInt8
  ifType : UInt32
  /-- `OperStatus == IfOperStatusUp`. -/
  isUp : Bool
  unicastAddresses : List UnicastAddress
  gatewayAddresses : List SockAddr

def IF_TYPE_ETHERNET_CSMACD : UInt32 := 6
def IF_TYPE_SOFTWARE_LOOPBACK : UInt32 := 24
def IF_TYPE_IEEE80211 : UInt32 := 71

/-! ### One adapter -/

variable (api : Api)

/-- `windows::wideCharToUtf8`. -/
def wideCharToUtf8 (str : Wide) (sizeHint : Nat) : Outcome Text :=
  let maxConvertedBytes := if sizeHint = 0 then str.length * 4 else sizeHint
  match api.wideCharToMultiByte str maxConvertedBytes with
  | some result =>
      if result.length = 0 ∨ maxConvertedBytes < result.length then
        .error (.invalidArgument "Failed to convert from WideChar to MultiByte")
      else .ok result
  | none        => .error (.invalidArgument "Failed to convert from WideChar to MultiByte")

/-- `wideCharToUTF8`, of what stands before the NUL. -/
def wideCharToUTF8 (wide : Wide) : Text :=
  match wideCharToUtf8 api (wide.takeWhile (· ≠ 0)) 0 with
  | .ok result => result
  | .error _   => []

/-- `getInterfaceType`. -/
def getInterfaceType (ifType : UInt32) : Interface.Type :=
  if ifType = IF_TYPE_ETHERNET_CSMACD then .ethernet
  else if ifType = IF_TYPE_SOFTWARE_LOOPBACK then .loopback
  else if ifType = IF_TYPE_IEEE80211 then .wifi
  else .none

/-- `IPAddress{ std::string(ip.data()) }`. -/
def addressOf (sin6_addr : Vector UInt8 16) : Outcome IPAddress :=
  IPAddress.ofString (cStr (api.rtlIpv6AddressToString sin6_addr))

/-- `IPAddress{ ntohl(..) }`. -/
def addressOfV4 (s_addr : ValueTypeV4) : IPAddress := .ofPackedV4 (packV4 s_addr)

/-- `IPAddressInfo{ .., IPAddress{ makePackedMaskV6(..) } }`. -/
def infoOfUnicast (sin6_addr : Vector UInt8 16) (prefixLength : UInt8) : Outcome IPAddressInfo := do
  return ⟨← addressOf api sin6_addr, .ofPackedV6 (← makePackedMaskV6 prefixLength)⟩

/-- The body of the loop over the unicast addresses.  Exceptions are swallowed. -/
def addUnicast (i : Interface) (ua : UnicastAddress) : Outcome Interface :=
  match ua.address with
  | .inet6 sin6_addr =>
      match infoOfUnicast api sin6_addr ua.onLinkPrefixLength with
      | .ok info                    => .ok { i with ipAddressInfos := i.ipAddressInfos ++ [info] }
      | .error (.invalidArgument _) => .ok i
      | .error f                    => .error f
  | .other s_addr    =>
      let info := ⟨addressOfV4 s_addr, .ofPackedV4 (makePackedMaskV4 ua.onLinkPrefixLength)⟩
      .ok { i with ipAddressInfos := i.ipAddressInfos ++ [info] }

/-- The body of the loop over the gateways.  Exceptions are swallowed. -/
def addGateway (i : Interface) (ga : SockAddr) : Outcome Interface :=
  match ga with
  | .inet6 sin6_addr =>
      match addressOf api sin6_addr with
      | .ok gateway                 => .ok { i with gateways := i.gateways ++ [gateway] }
      | .error (.invalidArgument _) => .ok i
      | .error f                    => .error f
  | .other s_addr    => .ok { i with gateways := i.gateways ++ [addressOfV4 s_addr] }

/-- The two loops, which `refreshInterfaces_WMI` and `refreshInterfaces_WinAPI` both have. -/
def addAddresses (adapter : Adapter) (i : Interface) : Outcome Interface := do
  let i ← adapter.unicastAddresses.foldlM (addUnicast api) i
  adapter.gatewayAddresses.foldlM (addGateway api) i

/-- What both of them set up from an adapter, before its addresses. -/
def interfaceOfAdapter (type : Interface.Type) (adapter : Adapter) : Interface where
  id := adapter.adapterName
  description := wideCharToUTF8 api adapter.description
  aliasName := wideCharToUTF8 api adapter.friendlyName
  macAddress :=
    if h : adapter.physicalAddress.length = 6 then ⟨adapter.physicalAddress.toArray, h⟩
    else Vector.replicate 6 0
  type := type
  isEnabled := true
  isConnected := adapter.isUp
  isVirtual := type == .loopback

/-! ### The list of adapters -/

/-- `interfaces.emplace`: an entry that is there stays. -/
def emplace (interfaces : Interfaces) (name : Text) (i : Interface) : Interfaces :=
  if name ∈ interfaces then interfaces else interfaces.insert name i

/-- The body of the loop of `refreshInterfaces_WinAPI`. -/
def refreshAdapter (interfaces : Interfaces) (adapter : Adapter) : Outcome Interfaces :=
  let type := getInterfaceType adapter.ifType
  if type = .none then .ok interfaces
  else do
    let i ← addAddresses api adapter (interfaceOfAdapter api type adapter)
    return emplace interfaces adapter.adapterName i

/-- `refreshInterfaces_WinAPI`.  `none`: `GetAdaptersAddresses` fails. -/
def refreshInterfacesWinAPI (adapters : Option (List Adapter)) (interfaces : Interfaces) :
    Outcome Interfaces :=
  match adapters with
  | none          => .ok interfaces
  | some adapters => adapters.foldlM (refreshAdapter api) interfaces

/-- The interface the second pass adds the addresses to: one that is there, or the loopback
interface, which WMI does not find. -/
def configured (interfaces : Interfaces) (adapter : Adapter) : Option Interface :=
  match interfaces.lookup adapter.adapterName with
  | some i => some i
  | none   =>
      if adapter.ifType ≠ IF_TYPE_SOFTWARE_LOOPBACK then none
      else some (interfaceOfAdapter api .loopback adapter)

/-- The body of the loop of the second pass of `refreshInterfaces_WMI`. -/
def configureAdapter (interfaces : Interfaces) (adapter : Adapter) : Outcome Interfaces :=
  match configured api interfaces adapter with
  | some i => do return interfaces.insert adapter.adapterName (← addAddresses api adapter i)
  | none   => .ok interfaces

/-- The second pass of `refreshInterfaces_WMI`: whether it succeeds, and the interfaces. -/
def secondPass (adapters : Option (List Adapter)) (interfaces : Interfaces) :
    Outcome (Bool × Interfaces) :=
  match adapters with
  | none          => .ok (false, interfaces)
  | some adapters => do return (true, ← adapters.foldlM (configureAdapter api) interfaces)

/-! ### The addresses of an adapter -/

/-- The interface, with more addresses and gateways. -/
def appendTo (i : Interface) (more : List IPAddressInfo × List IPAddress) : Interface :=
  { i with
    ipAddressInfos := i.ipAddressInfos ++ more.1
    gateways := i.gateways ++ more.2 }

/-- Whatever the interface is, the same is appended to it. -/
def Appends (f : Interface → Outcome Interface) : Prop :=
  ∃ more : Outcome (List IPAddressInfo × List IPAddress), ∀ i, f i = more.map (appendTo i)

/-- The interfaces have the same addresses and gateways. -/
structure SameAddresses (i j : Interface) : Prop where
  ipAddressInfos : i.ipAddressInfos = j.ipAddressInfos
  gateways : i.gateways = j.gateways

section
variable {f g : Interface → Outcome Interface} {i i' j : Interface}

theorem Appends.bind (hf : Appends f) (hg : Appends g) : Appends fun i => f i >>= g := by
  obtain ⟨first, hf⟩ := hf
  obtain ⟨second, hg⟩ := hg
  refine ⟨do let x ← first; let y ← second; return (x.1 ++ y.1, x.2 ++ y.2), fun i => ?_⟩
  change f i >>= g = _
  rw [hf]
  cases first with
  | error e => rfl
  | ok x =>
      change g (appendTo i x) = _
      rw [hg]
      cases second with
      | error e => rfl
      | ok y =>
          refine congrArg Except.ok ?_
          rw [appendTo, appendTo, appendTo, List.append_assoc, List.append_assoc]

theorem Appends.foldlM {ε : Type} {f : Interface → ε → Outcome Interface}
    (hf : ∀ e, Appends fun i => f i e) (es : List ε) : Appends fun i => es.foldlM f i := by
  induction es with
  | nil =>
      refine ⟨.ok ([], []), fun i => congrArg Except.ok ?_⟩
      rw [appendTo, List.append_nil, List.append_nil]
  | cons e es ih => exact (hf e).bind ih

theorem Appends.same (hf : Appends f) (hi : f i = .ok i') (h : SameAddresses i j) :
    ∃ j', f j = .ok j' ∧ SameAddresses i' j' := by
  obtain ⟨more, hf⟩ := hf
  rw [hf] at hi ⊢
  cases more with
  | error e => cases hi
  | ok more =>
      obtain rfl := Except.ok.inj hi
      refine ⟨_, rfl, ?_, ?_⟩
      · rw [appendTo, appendTo, h.ipAddressInfos]
      · rw [appendTo, appendTo, h.gateways]

theorem Appends.id_eq (hf : Appends f) (hi : f i = .ok i') : i'.id = i.id := by
  obtain ⟨more, hf⟩ := hf
  rw [hf] at hi
  cases more with
  | error e => cases hi
  | ok more =>
      obtain rfl := Except.ok.inj hi
      rfl

end

theorem appends_addUnicast (ua : UnicastAddress) : Appends fun i => addUnicast api i ua := by
  obtain ⟨address, prefixLength⟩ := ua
  cases address with
  | other s_addr =>
      refine ⟨.ok ([⟨addressOfV4 s_addr, .ofPackedV4 (makePackedMaskV4 prefixLength)⟩], []),
        fun i => congrArg Except.ok ?_⟩
      rw [appendTo, List.append_nil]
  | inet6 sin6_addr =>
      simp only [addUnicast]
      split
      · rename_i info _
        refine ⟨.ok ([info], []), fun i => congrArg Except.ok ?_⟩
        rw [appendTo, List.append_nil]
      · refine ⟨.ok ([], []), fun i => congrArg Except.ok ?_⟩
        rw [appendTo, List.append_nil, List.append_nil]
      · rename_i f _ _
        exact ⟨.error f, fun i => rfl⟩

theorem appends_addGateway (ga : SockAddr) : Appends fun i => addGateway api i ga := by
  cases ga with
  | other s_addr =>
      refine ⟨.ok ([], [addressOfV4 s_addr]), fun i => congrArg Except.ok ?_⟩
      rw [appendTo, List.append_nil]
  | inet6 sin6_addr =>
      simp only [addGateway]
      split
      · rename_i gateway _
        refine ⟨.ok ([], [gateway]), fun i => congrArg Except.ok ?_⟩
        rw [appendTo, List.append_nil]
      · refine ⟨.ok ([], []), fun i => congrArg Except.ok ?_⟩
        rw [appendTo, List.append_nil, List.append_nil]
      · rename_i f _ _
        exact ⟨.error f, fun i => rfl⟩

theorem appends_addAddresses (adapter : Adapter) : Appends (addAddresses api adapter) :=
  (Appends.foldlM (appends_addUnicast api) adapter.unicastAddresses).bind
    (Appends.foldlM (appends_addGateway api) adapter.gatewayAddresses)

/-! ### The two readings -/

section
variable {api : Api} {adapters : List Adapter} {interfaces interfaces' : Interfaces}
  {adapter : Adapter}

theorem keyed_refreshAdapter (h : Keyed interfaces)
    (hrun : refreshAdapter api interfaces adapter = .ok interfaces') : Keyed interfaces' := by
  rw [refreshAdapter] at hrun
  split at hrun
  · rw [← Except.ok.inj hrun]
    exact h
  · obtain ⟨i, hi, hrun⟩ := Outcome.bind_eq_ok.mp hrun
    rw [← Except.ok.inj hrun, emplace]
    split
    · exact h
    · exact h.insert ((appends_addAddresses api adapter).id_eq hi)

theorem id_configured (h : Keyed interfaces) {i : Interface}
    (hi : configured api interfaces adapter = some i) : i.id = adapter.adapterName := by
  rw [configured] at hi
  split at hi
  · rename_i found hfound
    rw [← Option.some.inj hi]
    exact h _ _ hfound
  · split at hi
    · cases hi
    · rw [← Option.some.inj hi]
      rfl

theorem keyed_configureAdapter (h : Keyed interfaces)
    (hrun : configureAdapter api interfaces adapter = .ok interfaces') : Keyed interfaces' := by
  rw [configureAdapter] at hrun
  split at hrun
  · rename_i i hi
    obtain ⟨i', hi', hrun⟩ := Outcome.bind_eq_ok.mp hrun
    rw [← Except.ok.inj hrun]
    exact h.insert (((appends_addAddresses api adapter).id_eq hi').trans (id_configured h hi))
  · rw [← Except.ok.inj hrun]
    exact h

theorem keyed_foldlM {step : Interfaces → Adapter → Outcome Interfaces}
    (hstep : ∀ t a t', Keyed t → step t a = .ok t' → Keyed t') (h : Keyed interfaces)
    (hrun : adapters.foldlM step interfaces = .ok interfaces') : Keyed interfaces' := by
  induction adapters generalizing interfaces with
  | nil =>
      rw [← Except.ok.inj hrun]
      exact h
  | cons adapter adapters ih =>
      obtain ⟨t, hfirst, hrest⟩ := Outcome.bind_eq_ok.mp hrun
      exact ih (hstep _ _ _ h hfirst) hrest

/-- `refreshInterfaces_WinAPI`. -/
theorem keyed_refreshInterfacesWinAPI {adapters : Option (List Adapter)} (h : Keyed interfaces)
    (hrun : refreshInterfacesWinAPI api adapters interfaces = .ok interfaces') :
    Keyed interfaces' := by
  cases adapters with
  | none =>
      rw [← Except.ok.inj hrun]
      exact h
  | some adapters => exact keyed_foldlM (fun _ _ _ => keyed_refreshAdapter) h hrun

/-- What `refreshInterfaces_WinAPI` lists comes from an adapter. -/
theorem lookup_foldlM_refreshAdapter
    (hrun : adapters.foldlM (refreshAdapter api) interfaces = .ok interfaces') {name : Text}
    {j : Interface} (hj : interfaces'.lookup name = some j) :
    interfaces.lookup name = some j ∨ ∃ adapter ∈ adapters, adapter.adapterName = name ∧
      addAddresses api adapter
        (interfaceOfAdapter api (getInterfaceType adapter.ifType) adapter) = .ok j := by
  induction adapters generalizing interfaces with
  | nil =>
      rw [← Except.ok.inj hrun] at hj
      exact .inl hj
  | cons adapter adapters ih =>
      obtain ⟨t, hfirst, hrest⟩ := Outcome.bind_eq_ok.mp hrun
      rcases ih hrest with hlisted | ⟨later, hlater, hmade⟩
      · rw [refreshAdapter] at hfirst
        split at hfirst
        · rw [← Except.ok.inj hfirst] at hlisted
          exact .inl hlisted
        · obtain ⟨i, hi, hfirst⟩ := Outcome.bind_eq_ok.mp hfirst
          rw [← Except.ok.inj hfirst, emplace] at hlisted
          split at hlisted
          · exact .inl hlisted
          · by_cases hname : name = adapter.adapterName
            · subst hname
              rw [AList.lookup_insert] at hlisted
              obtain rfl := Option.some.inj hlisted
              exact .inr ⟨adapter, List.mem_cons_self, rfl, hi⟩
            · rw [AList.lookup_insert_ne hname] at hlisted
              exact .inl hlisted
      · exact .inr ⟨later, List.mem_cons_of_mem _ hlater, hmade⟩

/-- One turn of the second pass leaves the other names alone. -/
theorem lookup_configureAdapter
    (hrun : configureAdapter api interfaces adapter = .ok interfaces') {name : Text}
    (hname : name ≠ adapter.adapterName) : interfaces'.lookup name = interfaces.lookup name := by
  rw [configureAdapter] at hrun
  split at hrun
  · obtain ⟨i', -, hrun⟩ := Outcome.bind_eq_ok.mp hrun
    rw [← Except.ok.inj hrun, AList.lookup_insert_ne hname]
  · rw [← Except.ok.inj hrun]

theorem configured_congr (h : interfaces'.lookup adapter.adapterName =
    interfaces.lookup adapter.adapterName) :
    configured api interfaces' adapter = configured api interfaces adapter := by
  rw [configured, configured, h]

/-- What the second pass makes of the adapters, which have different names. -/
theorem lookup_foldlM_configureAdapter (hdistinct : (adapters.map Adapter.adapterName).Nodup)
    (hrun : adapters.foldlM (configureAdapter api) interfaces = .ok interfaces') :
    (∀ name, name ∉ adapters.map Adapter.adapterName →
      interfaces'.lookup name = interfaces.lookup name) ∧
    ∀ adapter ∈ adapters, ∀ i, interfaces'.lookup adapter.adapterName = some i →
      ∃ i₀, configured api interfaces adapter = some i₀ ∧ addAddresses api adapter i₀ = .ok i := by
  induction adapters generalizing interfaces with
  | nil =>
      rw [← Except.ok.inj hrun]
      exact ⟨fun _ _ => rfl, fun _ hmem => absurd hmem List.not_mem_nil⟩
  | cons first adapters ih =>
      obtain ⟨hnotMem, hdistinct⟩ := List.nodup_cons.mp hdistinct
      obtain ⟨t, hfirst, hrest⟩ := Outcome.bind_eq_ok.mp hrun
      obtain ⟨other, made⟩ := ih hdistinct hrest
      refine ⟨fun name hname => ?_, fun adapter hadapter i hi => ?_⟩
      · rw [List.map_cons, List.mem_cons, not_or] at hname
        rw [other name hname.2, lookup_configureAdapter hfirst hname.1]
      · rcases List.mem_cons.mp hadapter with rfl | hlater
        · rw [other _ hnotMem] at hi
          rw [configureAdapter] at hfirst
          split at hfirst
          · rename_i i₀ hi₀
            obtain ⟨i', hi', hfirst⟩ := Outcome.bind_eq_ok.mp hfirst
            rw [← Except.ok.inj hfirst, AList.lookup_insert] at hi
            exact ⟨i₀, hi₀, Option.some.inj hi ▸ hi'⟩
          · rename_i hnone
            obtain rfl := Except.ok.inj hfirst
            rw [configured, hi] at hnone
            cases hnone
        · obtain ⟨i₀, hi₀, hmade⟩ := made adapter hlater i hi
          have hne : adapter.adapterName ≠ first.adapterName := fun hc =>
            hnotMem (hc ▸ List.mem_map_of_mem hlater)
          rw [configured_congr (lookup_configureAdapter hfirst hne)] at hi₀
          exact ⟨i₀, hi₀, hmade⟩

/-- No interface has an address yet, as the first pass leaves them. -/
def Blank (interfaces : Interfaces) : Prop :=
  ∀ name i, interfaces.lookup name = some i → i.ipAddressInfos = [] ∧ i.gateways = []

theorem configured_blank (h : Blank interfaces) {i : Interface}
    (hi : configured api interfaces adapter = some i) :
    i.ipAddressInfos = [] ∧ i.gateways = [] := by
  rw [configured] at hi
  split at hi
  · rename_i found hfound
    rw [← Option.some.inj hi]
    exact h _ _ hfound
  · split at hi
    · cases hi
    · rw [← Option.some.inj hi]
      exact ⟨rfl, rfl⟩

/-- **The two readings agree**: an interface that both list has the same addresses and gateways, in
the same order. -/
theorem sameAddresses {wmi winAPI : Interfaces} {succeeds : Bool} (hblank : Blank interfaces)
    (hdistinct : (adapters.map Adapter.adapterName).Nodup)
    (hwmi : secondPass api (some adapters) interfaces = .ok (succeeds, wmi))
    (hwinAPI : refreshInterfacesWinAPI api (some adapters) ∅ = .ok winAPI) {name : Text}
    {i j : Interface} (hi : wmi.lookup name = some i) (hj : winAPI.lookup name = some j) :
    SameAddresses i j := by
  obtain ⟨t, ht, hwmi⟩ := Outcome.bind_eq_ok.mp hwmi
  obtain ⟨-, rfl⟩ := Prod.mk.inj (Except.ok.inj hwmi)
  rcases lookup_foldlM_refreshAdapter hwinAPI hj with hempty | ⟨adapter, hmem, rfl, hmade⟩
  · cases hempty
  · obtain ⟨i₀, hi₀, hi⟩ := (lookup_foldlM_configureAdapter hdistinct ht).2 adapter hmem i hi
    obtain ⟨hinfos, hgateways⟩ := configured_blank hblank hi₀
    obtain ⟨j', hj', same⟩ := (appends_addAddresses api adapter).same hi
      (j := interfaceOfAdapter api (getInterfaceType adapter.ifType) adapter) ⟨hinfos, hgateways⟩
    obtain rfl := Except.ok.inj (hj'.symm.trans hmade)
    exact same

/-! ### The reading is defined -/

/-- `makePackedMaskV6` is defined at the prefix length, if it is needed. -/
def Maskable (ua : UnicastAddress) : Prop :=
  ∀ sin6_addr, ua.address = .inet6 sin6_addr →
    ua.onLinkPrefixLength.toNat < 64 ∨ 128 ≤ ua.onLinkPrefixLength.toNat

theorem makePackedMaskV6_cases (p : UInt8) :
    ((p.toNat < 64 ∨ 128 ≤ p.toNat) ∧ ∃ m, makePackedMaskV6 p = .ok m) ∨
      (¬ (p.toNat < 64 ∨ 128 ≤ p.toNat) ∧ makePackedMaskV6 p = .error (.undefinedShift 64)) := by
  by_cases h₀ : p = 0
  · subst h₀
    exact .inl ⟨.inl (by decide), _, rfl⟩
  · by_cases h₁₂₈ : p.toNat < 128
    · rw [makePackedMaskV6_inside h₀ h₁₂₈]
      split
      · rename_i h
        exact .inl ⟨.inl h, _, rfl⟩
      · rename_i h
        exact .inr ⟨by omega, rfl⟩
    · have hlarge : p ≥ 128 := Nat.not_lt.mp h₁₂₈
      rw [makePackedMaskV6, if_pos hlarge]
      exact .inl ⟨.inr (Nat.not_lt.mp h₁₂₈), _, rfl⟩

/-- `RtlIpv6AddressToStringA` writes a text that the constructor reads. -/
def Api.WritesAddresses (api : Api) : Prop :=
  ∀ sin6_addr, ∃ a, addressOf api sin6_addr = .ok a

theorem addUnicast_isOk_iff (hapi : api.WritesAddresses) (i : Interface) (ua : UnicastAddress) :
    (∃ i', addUnicast api i ua = .ok i') ↔ Maskable ua := by
  obtain ⟨address, prefixLength⟩ := ua
  cases address with
  | other s_addr => exact ⟨fun _ _ hc => (by cases hc), fun _ => ⟨_, rfl⟩⟩
  | inet6 sin6_addr =>
      obtain ⟨a, ha⟩ := hapi sin6_addr
      rcases makePackedMaskV6_cases prefixLength with ⟨hp, m, hm⟩ | ⟨hp, hm⟩
      · have hinfo : infoOfUnicast api sin6_addr prefixLength = .ok ⟨a, .ofPackedV6 m⟩ := by
          rw [infoOfUnicast, ha, hm]
          rfl
        simp only [addUnicast, hinfo]
        exact ⟨fun _ _ _ => hp, fun _ => ⟨_, rfl⟩⟩
      · have hinfo : infoOfUnicast api sin6_addr prefixLength = .error (.undefinedShift 64) := by
          rw [infoOfUnicast, ha, hm]
          rfl
        simp only [addUnicast, hinfo]
        exact ⟨fun ⟨_, hc⟩ => (by cases hc), fun hc => absurd (hc sin6_addr rfl) hp⟩

theorem addGateway_isOk (hapi : api.WritesAddresses) (i : Interface) (ga : SockAddr) :
    ∃ i', addGateway api i ga = .ok i' := by
  cases ga with
  | other s_addr => exact ⟨_, rfl⟩
  | inet6 sin6_addr =>
      obtain ⟨a, ha⟩ := hapi sin6_addr
      simp only [addGateway, ha]
      exact ⟨_, rfl⟩

/-- A loop is defined when its turns are. -/
theorem foldlM_isOk_iff {σ ε : Type} {f : σ → ε → Outcome σ} {good : ε → Prop}
    (h : ∀ s e, (∃ s', f s e = .ok s') ↔ good e) (es : List ε) (s : σ) :
    (∃ s', es.foldlM f s = .ok s') ↔ ∀ e ∈ es, good e := by
  induction es generalizing s with
  | nil => exact ⟨fun _ _ hmem => absurd hmem List.not_mem_nil, fun _ => ⟨s, rfl⟩⟩
  | cons e es ih =>
      rw [List.forall_mem_cons, ← h s e]
      refine ⟨fun ⟨s', hs'⟩ => ?_, fun ⟨⟨t, ht⟩, hrest⟩ => ?_⟩
      · obtain ⟨t, ht, hrest⟩ := Outcome.bind_eq_ok.mp hs'
        exact ⟨⟨t, ht⟩, (ih t).mp ⟨s', hrest⟩⟩
      · obtain ⟨s', hs'⟩ := (ih t).mpr hrest
        exact ⟨s', Outcome.bind_eq_ok.mpr ⟨t, ht, hs'⟩⟩

theorem addAddresses_isOk_iff (hapi : api.WritesAddresses) (adapter : Adapter) (i : Interface) :
    (∃ i', addAddresses api adapter i = .ok i') ↔
      ∀ ua ∈ adapter.unicastAddresses, Maskable ua := by
  rw [← foldlM_isOk_iff (addUnicast_isOk_iff hapi) adapter.unicastAddresses i]
  refine ⟨fun ⟨i', hi'⟩ => ?_, fun ⟨i', hi'⟩ => ?_⟩
  · obtain ⟨t, ht, -⟩ := Outcome.bind_eq_ok.mp hi'
    exact ⟨t, ht⟩
  · have gateways : (∃ i'', adapter.gatewayAddresses.foldlM (addGateway api) i' = .ok i'') ↔
        ∀ ga ∈ adapter.gatewayAddresses, True :=
      foldlM_isOk_iff (fun i ga => iff_of_true (addGateway_isOk hapi i ga) trivial) _ i'
    obtain ⟨i'', hi''⟩ := gateways.mpr fun _ _ => trivial
    exact ⟨i'', Outcome.bind_eq_ok.mpr ⟨i', hi', hi''⟩⟩

theorem refreshAdapter_isOk_iff (hapi : api.WritesAddresses) (interfaces : Interfaces)
    (adapter : Adapter) :
    (∃ t, refreshAdapter api interfaces adapter = .ok t) ↔
      (getInterfaceType adapter.ifType ≠ .none →
        ∀ ua ∈ adapter.unicastAddresses, Maskable ua) := by
  rw [refreshAdapter]
  split
  · rename_i htype
    exact ⟨fun _ hc => absurd htype hc, fun _ => ⟨_, rfl⟩⟩
  · rename_i htype
    rw [← addAddresses_isOk_iff hapi adapter
      (interfaceOfAdapter api (getInterfaceType adapter.ifType) adapter)]
    refine ⟨fun ⟨t, ht⟩ _ => ?_, fun h => ?_⟩
    · obtain ⟨i, hi, -⟩ := Outcome.bind_eq_ok.mp ht
      exact ⟨i, hi⟩
    · obtain ⟨i, hi⟩ := h htype
      exact ⟨_, Outcome.bind_eq_ok.mpr ⟨i, hi, rfl⟩⟩

/-- The second pass adds the addresses of the adapter. -/
def Configures (interfaces : Interfaces) (adapter : Adapter) : Prop :=
  adapter.adapterName ∈ interfaces ∨ adapter.ifType = IF_TYPE_SOFTWARE_LOOPBACK

theorem configured_eq_none_iff :
    configured api interfaces adapter = none ↔ ¬ Configures interfaces adapter := by
  rw [configured, Configures, ← AList.lookup_isSome]
  cases interfaces.lookup adapter.adapterName with
  | some i => exact ⟨fun hc => (by cases hc), fun hc => absurd (.inl rfl) hc⟩
  | none =>
      by_cases hloopback : adapter.ifType = IF_TYPE_SOFTWARE_LOOPBACK
      · simp [hloopback]
      · simp [hloopback]

theorem configureAdapter_isOk_iff (hapi : api.WritesAddresses) :
    (∃ t, configureAdapter api interfaces adapter = .ok t) ↔
      (Configures interfaces adapter → ∀ ua ∈ adapter.unicastAddresses, Maskable ua) := by
  rw [configureAdapter]
  cases hi : configured api interfaces adapter with
  | none => exact ⟨fun _ hc => absurd hc (configured_eq_none_iff.mp hi), fun _ => ⟨_, rfl⟩⟩
  | some i =>
      have hconfigures : Configures interfaces adapter := by
        by_contra hc
        rw [configured_eq_none_iff.mpr hc] at hi
        cases hi
      rw [← addAddresses_isOk_iff hapi adapter i]
      refine ⟨fun ⟨t, ht⟩ _ => ?_, fun h => ?_⟩
      · obtain ⟨i', hi', -⟩ := Outcome.bind_eq_ok.mp ht
        exact ⟨i', hi'⟩
      · obtain ⟨i', hi'⟩ := h hconfigures
        exact ⟨_, Outcome.bind_eq_ok.mpr ⟨i', hi', rfl⟩⟩

theorem foldlM_configureAdapter_isOk_iff (hapi : api.WritesAddresses)
    (hdistinct : (adapters.map Adapter.adapterName).Nodup) :
    (∃ t, adapters.foldlM (configureAdapter api) interfaces = .ok t) ↔
      ∀ adapter ∈ adapters, Configures interfaces adapter →
        ∀ ua ∈ adapter.unicastAddresses, Maskable ua := by
  induction adapters generalizing interfaces with
  | nil => exact ⟨fun _ _ hmem => absurd hmem List.not_mem_nil, fun _ => ⟨_, rfl⟩⟩
  | cons first adapters ih =>
      obtain ⟨hnotMem, hdistinct⟩ := List.nodup_cons.mp hdistinct
      rw [List.forall_mem_cons, ← configureAdapter_isOk_iff hapi]
      -- The first turn does not change what is configured later.
      have later {t : Interfaces} (ht : configureAdapter api interfaces first = .ok t) :
          ∀ adapter ∈ adapters, (Configures t adapter ↔ Configures interfaces adapter) := by
        intro adapter hmem
        have hne : adapter.adapterName ≠ first.adapterName := fun hc =>
          hnotMem (hc ▸ List.mem_map_of_mem hmem)
        rw [Configures, Configures, ← AList.lookup_isSome, ← AList.lookup_isSome,
          lookup_configureAdapter ht hne]
      refine ⟨fun ⟨t', ht'⟩ => ?_, fun ⟨⟨t, ht⟩, hrest⟩ => ?_⟩
      · obtain ⟨t, ht, hrest⟩ := Outcome.bind_eq_ok.mp ht'
        exact ⟨⟨t, ht⟩, fun adapter hmem hconfigures =>
          (ih hdistinct).mp ⟨t', hrest⟩ adapter hmem ((later ht adapter hmem).mpr hconfigures)⟩
      · obtain ⟨t', ht'⟩ := (ih hdistinct).mpr fun adapter hmem hconfigures =>
          hrest adapter hmem ((later ht adapter hmem).mp hconfigures)
        exact ⟨t', Outcome.bind_eq_ok.mpr ⟨t, ht, ht'⟩⟩

/-- **The readings are defined** exactly when no interface they list has an IPv6 address with a
prefix length from 64 to 127. -/
theorem readings_isOk_iff (hapi : api.WritesAddresses)
    (hdistinct : (adapters.map Adapter.adapterName).Nodup) :
    ((∃ r, secondPass api (some adapters) interfaces = .ok r) ↔
      ∀ adapter ∈ adapters, Configures interfaces adapter →
        ∀ ua ∈ adapter.unicastAddresses, Maskable ua) ∧
    ((∃ t, refreshInterfacesWinAPI api (some adapters) interfaces = .ok t) ↔
      ∀ adapter ∈ adapters, getInterfaceType adapter.ifType ≠ .none →
        ∀ ua ∈ adapter.unicastAddresses, Maskable ua) := by
  refine ⟨?_, foldlM_isOk_iff (refreshAdapter_isOk_iff hapi) adapters interfaces⟩
  rw [← foldlM_configureAdapter_isOk_iff hapi hdistinct]
  refine ⟨fun ⟨r, hr⟩ => ?_, fun ⟨t, ht⟩ => ⟨_, Outcome.bind_eq_ok.mpr ⟨t, ht, rfl⟩⟩⟩
  obtain ⟨t, ht, -⟩ := Outcome.bind_eq_ok.mp hr
  exact ⟨t, ht⟩

end

/-- The groups of an `in6_addr`. -/
def groupsOf (bytes : Vector UInt8 16) : ValueTypeV6 :=
  Vector.ofFn fun i => (bytes.get ⟨2 * i, by omega⟩).toUInt16 <<< 8 |||
    (bytes.get ⟨2 * i + 1, by omega⟩).toUInt16

/-- The functions of Windows: at texts in ASCII, and at addresses, which are written as the library
writes them. -/
def asciiApi : Api where
  wideCharToMultiByte wide _ := some (wide.map fun unit => Char.ofNat unit.toNat)
  rtlIpv6AddressToString bytes := (IPAddress.ofV6 (groupsOf bytes)).toText

theorem legible_ofV6 (groups : ValueTypeV6) : Legible (.ofV6 groups) := by
  refine ⟨.ofV6 groups, ?_⟩
  rw [IPAddress.type_ofV6]
  decide

theorem writesAddresses_asciiApi : asciiApi.WritesAddresses := fun bytes => by
  simp only [addressOf, asciiApi]
  exact (parses_of_legible (legible_ofV6 (groupsOf bytes))).imp fun _ h => h.1

/-- An adapter with an address and a gateway. -/
def lanAdapter (unicastAddresses : List UnicastAddress) : Adapter where
  adapterName := "lan".toList
  description := []
  friendlyName := []
  physicalAddress := [0, 1, 2, 3, 4, 5]
  ifType := IF_TYPE_ETHERNET_CSMACD
  isUp := true
  unicastAddresses := ⟨.other #v[10, 20, 30, 2], 24⟩ :: unicastAddresses
  gatewayAddresses := [.other #v[10, 20, 30, 1]]

/-- What the first pass leaves of that adapter. -/
def foundLan : Interfaces := (∅ : Interfaces).insert "lan".toList { id := "lan".toList }

/-- At `fe80::1/64` the readings are not defined. -/
theorem readings_isOk_iff_lan :
    let adapters :=
      [lanAdapter [⟨.inet6 #v[0xfe, 0x80, 0, 0, 0, 0, 0, 0, 0, 0, 0, 0, 0, 0, 0, 1], 64⟩]]
    ((∃ r, secondPass asciiApi (some adapters) foundLan = .ok r) ↔
      ∀ adapter ∈ adapters, Configures foundLan adapter →
        ∀ ua ∈ adapter.unicastAddresses, Maskable ua) ∧
    ((∃ t, refreshInterfacesWinAPI asciiApi (some adapters) foundLan = .ok t) ↔
      ∀ adapter ∈ adapters, getInterfaceType adapter.ifType ≠ .none →
        ∀ ua ∈ adapter.unicastAddresses, Maskable ua) :=
  readings_isOk_iff writesAddresses_asciiApi (by simp)

end Windows

end NetworkInterface
