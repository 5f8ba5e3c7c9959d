import NetworkInterface.Address.Scoped
import NetworkInterface.Helper.Interface

/-!
# Delegate — Unix

`OsDependentDelegate_Unix::refreshInterfaces`: the loop over the list `getifaddrs` gives.  What the
loop asks the system about an entry (`getnameinfo`, the type of the interface) comes with the entry.

`recorded_of_refresh`: an address whose text the constructor reads is in the table at the end.  A
link-local address is, exactly when the name of its interface has no dot
(`survivesEnumeration_iff`).
-/

namespace NetworkInterface

/-! ### The loop -/

/-- What an entry of the list holds, besides the name of the interface. -/
inductive IfAddr.Payload where
  /-- `AF_PACKET`, with data: the type of the interface, its flags, and its link-layer address when
  that has six bytes. -/
  | packet (type : Interface.Type) (isUp isRunning : Bool) (sllAddr : Option MacAddress)
  /-- `AF_INET` or `AF_INET6`: what `getnameinfo` writes for the address and for the mask. -/
  | inet (host mask : Option Text)
  /-- No address, no data or another family. -/
  | ignored

/-- An entry of the list. -/
structure IfAddr where
  name : Text
  payload : IfAddr.Payload

/-- The interface an `AF_PACKET` entry sets up. -/
def interfaceOf (name : Text) (type : Interface.Type) (isUp isRunning : Bool)
    (sllAddr : Option MacAddress) : Interface where
  id := name
  description := name
  aliasName := name
  type := type
  isEnabled := isUp
  isConnected := isUp && isRunning
  isVirtual := type == .loopback
  macAddress := sllAddr.getD (Vector.replicate 6 0)

/-- `IPAddressInfo{ IPAddress{ host }, IPAddress{ mask } }`. -/
def infoOf (host mask : Text) : Outcome IPAddressInfo := do
  return ⟨← IPAddress.ofString host, ← IPAddress.ofString mask⟩

/-- The `AF_INET*` branch, once the interface is found.  Exceptions are swallowed. -/
def addIPAddress (interface : Interface) (host mask : Option Text) : Outcome Interface :=
  match host, mask with
  | some host, some mask =>
      match infoOf host mask with
      | .ok info                    =>
          .ok { interface with ipAddressInfos := interface.ipAddressInfos ++ [info] }
      | .error (.invalidArgument _) => .ok interface
      | .error f                    => .error f
  | _, _ => .ok interface

/-- The body of the loop. -/
def refreshEntry (interfaces : Interfaces) (ifa : IfAddr) : Outcome Interfaces :=
  match ifa.payload with
  | .packet type isUp isRunning sllAddr =>
      .ok (interfaces.insert ifa.name (interfaceOf ifa.name type isUp isRunning sllAddr))
  | .inet host mask =>
      match interfaces.lookup ifa.name with
      | some interface => do return interfaces.insert ifa.name (← addIPAddress interface host mask)
      | none           => .ok interfaces
  | .ignored => .ok interfaces

/-- `refreshInterfaces`, once the list and the socket are there. -/
def refreshInterfaces (ifaddr : List IfAddr) : Outcome Interfaces := ifaddr.foldlM refreshEntry ∅

/-! ### The loop ends -/

/-- The texts of the entry are ones the constructor is defined at: `getnameinfo` fits them in
`NI_MAXHOST` characters, and none of them is a single colon. -/
def IfAddr.Readable (ifa : IfAddr) : Prop :=
  ∀ host mask, ifa.payload = .inet host mask →
    ∀ t, t ∈ host ∨ t ∈ mask → t.length < 2 ^ 32 ∧ t ≠ [':']

theorem proper_infoOf {host mask : Text} (hhost : host.length < 2 ^ 32 ∧ host ≠ [':'])
    (hmask : mask.length < 2 ^ 32 ∧ mask ≠ [':']) : Proper (infoOf host mask) := by
  refine (proper_ofString hhost.1 hhost.2).bind fun a _ => ?_
  exact (proper_ofString hmask.1 hmask.2).bind fun m _ => proper_ok _

theorem addIPAddress_ok (interface : Interface) {host mask : Option Text}
    (h : ∀ t, t ∈ host ∨ t ∈ mask → t.length < 2 ^ 32 ∧ t ≠ [':']) :
    ∃ infos, addIPAddress interface host mask =
      .ok { interface with ipAddressInfos := interface.ipAddressInfos ++ infos } := by
  have same : addIPAddress interface host mask = .ok interface → ∃ infos,
      addIPAddress interface host mask =
        .ok { interface with ipAddressInfos := interface.ipAddressInfos ++ infos } :=
    fun hsame => ⟨[], by rw [hsame, List.append_nil]⟩
  cases host with
  | none => exact same rfl
  | some host =>
      cases mask with
      | none => exact same rfl
      | some mask =>
          cases hinfo : infoOf host mask with
          | ok info => exact ⟨[info], by simp only [addIPAddress, hinfo]⟩
          | error f =>
              obtain ⟨what, rfl⟩ := proper_infoOf (h host (.inl rfl)) (h mask (.inr rfl)) f hinfo
              exact same (by simp only [addIPAddress, hinfo])

/-- What one turn of the loop does to the interface `name`: unless it is set up anew, it keeps the
addresses it has. -/
theorem refreshEntry_spec {ifa : IfAddr} (h : ifa.Readable) (interfaces : Interfaces) :
    ∃ interfaces', refreshEntry interfaces ifa = .ok interfaces' ∧
      ∀ name interface, interfaces.lookup name = some interface →
        (ifa.name = name → ∀ t u r a, ifa.payload ≠ .packet t u r a) →
        ∃ interface', interfaces'.lookup name = some interface' ∧
          interface.ipAddressInfos ⊆ interface'.ipAddressInfos := by
  obtain ⟨name, payload⟩ := ifa
  cases payload with
  | ignored => exact ⟨interfaces, rfl, fun _ interface hl _ => ⟨interface, hl, fun _ => id⟩⟩
  | packet t u r a =>
      refine ⟨_, rfl, fun other interface hl hkeep => ⟨interface, ?_, fun _ => id⟩⟩
      have hne : other ≠ name := fun hc => hkeep hc.symm t u r a rfl
      rwa [AList.lookup_insert_ne hne]
  | inet host mask =>
      cases hfind : interfaces.lookup name with
      | none =>
          exact ⟨interfaces, by simp only [refreshEntry, hfind],
            fun _ interface hl _ => ⟨interface, hl, fun _ => id⟩⟩
      | some found =>
          obtain ⟨infos, hadd⟩ := addIPAddress_ok found (h host mask rfl)
          refine ⟨_, by simp only [refreshEntry, hfind, hadd]; rfl, fun other interface hl _ => ?_⟩
          by_cases hname : other = name
          · subst hname
            obtain rfl := Option.some.inj (hfind.symm.trans hl)
            exact ⟨_, AList.lookup_insert _, List.subset_append_left _ _⟩
          · exact ⟨interface, by rwa [AList.lookup_insert_ne hname], fun _ => id⟩

/-- The interface `name` is not set up in `ifaddr`. -/
def NoPacket (name : Text) (ifaddr : List IfAddr) : Prop :=
  ∀ ifa ∈ ifaddr, ifa.name = name → ∀ t u r a, ifa.payload ≠ .packet t u r a

/-- The loop keeps the addresses of an interface that is not set up anew. -/
theorem foldlM_refreshEntry {ifaddr : List IfAddr} (h : ∀ ifa ∈ ifaddr, ifa.Readable) :
    ∀ interfaces : Interfaces, ∃ interfaces',
      ifaddr.foldlM refreshEntry interfaces = .ok interfaces' ∧
      ∀ name interface, interfaces.lookup name = some interface → NoPacket name ifaddr →
        ∃ interface', interfaces'.lookup name = some interface' ∧
          interface.ipAddressInfos ⊆ interface'.ipAddressInfos := by
  induction ifaddr with
  | nil =>
      intro interfaces
      exact ⟨interfaces, rfl, fun _ interface hl _ => ⟨interface, hl, fun _ => id⟩⟩
  | cons ifa ifaddr ih =>
      intro interfaces
      obtain ⟨ifas₁, run₁, keep₁⟩ := refreshEntry_spec (h ifa List.mem_cons_self) interfaces
      obtain ⟨ifas₂, run₂, keep₂⟩ := ih (fun e he => h e (List.mem_cons_of_mem _ he)) ifas₁
      refine ⟨ifas₂, by rw [List.foldlM_cons, run₁]; exact run₂, fun name interface hl hno => ?_⟩
      obtain ⟨interface₁, hl₁, sub₁⟩ := keep₁ name interface hl (hno ifa List.mem_cons_self)
      obtain ⟨interface₂, hl₂, sub₂⟩ :=
        keep₂ name interface₁ hl₁ fun e he => hno e (List.mem_cons_of_mem _ he)
      exact ⟨interface₂, hl₂, fun _ hx => sub₂ (sub₁ hx)⟩

/-! ### What is recorded -/

/-- In the list, the interface `name` is set up, and one of its addresses after that is `host`. -/
inductive Lists (name host : Text) : List IfAddr → Prop where
  | mk {pre mid post : List IfAddr} {t : Interface.Type} {u r : Bool} {a : Option MacAddress}
      {mask : Text} {m : IPAddress} :
      NoPacket name mid → NoPacket name post → IPAddress.ofString mask = .ok m →
      Lists name host (pre ++ ⟨name, .packet t u r a⟩ ::
        (mid ++ ⟨name, .inet (some host) (some mask)⟩ :: post))

/-- The table has an interface `name`, with the address `a`. -/
def Recorded (name : Text) (a : IPAddress) (interfaces : Interfaces) : Prop :=
  ∃ interface, interfaces.lookup name = some interface ∧
    ∃ info ∈ interface.ipAddressInfos, (info.address == a) = true

/-- **What the constructor reads is recorded**. -/
theorem recorded_of_refresh {name host : Text} {ifaddr : List IfAddr} (h : Lists name host ifaddr)
    (hread : ∀ ifa ∈ ifaddr, ifa.Readable) {b : IPAddress} (hb : IPAddress.ofString host = .ok b) :
    ∃ interfaces, refreshInterfaces ifaddr = .ok interfaces ∧ Recorded name b interfaces := by
  obtain ⟨hmid, hpost, hm⟩ := h
  rename_i pre mid post t u r a mask m
  simp only [List.forall_mem_append, List.forall_mem_cons] at hread
  obtain ⟨hpre, -, hmidR, -, hpostR⟩ := hread
  obtain ⟨ifas₀, run₀, -⟩ := foldlM_refreshEntry hpre ∅
  -- the interface is there from its `AF_PACKET` entry to the one of the address
  obtain ⟨ifas₁, run₁, keep₁⟩ := foldlM_refreshEntry hmidR
    (ifas₀.insert name (interfaceOf name t u r a))
  obtain ⟨found, hfound, -⟩ := keep₁ name _ (AList.lookup_insert _) hmid
  have hinfo : infoOf host mask = .ok ⟨b, m⟩ := by
    rw [infoOf, hb, hm]
    rfl
  have add : refreshEntry ifas₁ ⟨name, .inet (some host) (some mask)⟩ = .ok (ifas₁.insert name
      { found with ipAddressInfos := found.ipAddressInfos ++ [⟨b, m⟩] }) := by
    simp only [refreshEntry, hfound, addIPAddress, hinfo]
    rfl
  -- and keeps the address to the end
  obtain ⟨ifas₂, run₂, keep₂⟩ := foldlM_refreshEntry hpostR (ifas₁.insert name
    { found with ipAddressInfos := found.ipAddressInfos ++ [⟨b, m⟩] })
  obtain ⟨final, hfinal, sub⟩ := keep₂ name _ (AList.lookup_insert _) hpost
  refine ⟨ifas₂, ?_, final, hfinal, ⟨b, m⟩, sub (by simp), BEq.rfl⟩
  rw [refreshInterfaces, List.foldlM_append]
  refine Outcome.bind_eq_ok.mpr ⟨_, run₀, ?_⟩
  rw [List.foldlM_cons]
  refine Outcome.bind_eq_ok.mpr ⟨_, rfl, ?_⟩
  rw [List.foldlM_append]
  refine Outcome.bind_eq_ok.mpr ⟨_, run₁, ?_⟩
  rw [List.foldlM_cons]
  exact Outcome.bind_eq_ok.mpr ⟨_, add, run₂⟩

/-- The scoped text of the address is read back as the address, and the loop records the address,
wherever it meets it. -/
structure SurvivesEnumeration (a : IPAddress) (zone : Text) : Prop where
  parsed : ∃ b, IPAddress.ofString (scopedText a zone) = .ok b ∧ b.type = .v6 ∧ (b == a) = true
  recorded : ∀ ifaddr, Lists zone (scopedText a zone) ifaddr → (∀ ifa ∈ ifaddr, ifa.Readable) →
    ∃ interfaces, refreshInterfaces ifaddr = .ok interfaces ∧ Recorded zone a interfaces

/-- **A link-local address survives enumeration** exactly when the name of its interface has no
dot. -/
theorem survivesEnumeration_iff {a : IPAddress} (hbuilt : a.Built) (ht : a.type = .v6)
    (h : isLinkLocal a.ipv6) (hlast : a.ipv6.get 7 ≠ 0) {zone : Text} (hcolon : ':' ∉ zone) :
    SurvivesEnumeration a zone ↔ '.' ∉ zone := by
  refine ⟨fun hs hdot => ?_, fun hdot => ?_⟩
  · obtain ⟨b, hb, -, heq⟩ := hs.parsed
    exact not_ofString_scoped hbuilt ht h hlast hdot hcolon hb heq
  · have parsed := ofString_scoped hbuilt ht h hlast hdot hcolon
    have same := IPAddress.ofV6_beq ht
    refine ⟨⟨_, parsed, IPAddress.type_ofV6 _, same⟩, fun ifaddr hl hread => ?_⟩
    obtain ⟨ifas, run, interface, hlookup, info, hinfo, heq⟩ := recorded_of_refresh hl hread parsed
    exact ⟨ifas, run, interface, hlookup, info, hinfo, BEq.trans heq same⟩

/-- `fe80::1`. -/
def linkLocalOne : IPAddress := .ofV6 #v[0xfe80, 0, 0, 0, 0, 0, 0, 1]

theorem ipv6_linkLocalOne : linkLocalOne.ipv6 = #v[0xfe80, 0, 0, 0, 0, 0, 0, 1] :=
  IPAddress.ipv6_ofV6 _

/-- At `fe80::1` on `eth0`. -/
theorem survivesEnumeration_iff_eth0 :
    SurvivesEnumeration linkLocalOne "eth0".toList ↔ '.' ∉ "eth0".toList :=
  survivesEnumeration_iff (a := linkLocalOne) (.ofV6 _) (IPAddress.type_ofV6 _)
    (by rw [ipv6_linkLocalOne]; decide) (by rw [ipv6_linkLocalOne]; decide) (by decide)

/-- On `eth0.100`, an interface of a tagged network, `fe80::1` is refused. -/
theorem not_forall_survivesEnumeration :
    ¬ ∀ (a : IPAddress) (zone : Text), a.Built → a.type = .v6 → isLinkLocal a.ipv6 →
      a.ipv6.get 7 ≠ 0 → zone ≠ [] → ':' ∉ zone → '%' ∉ zone → SurvivesEnumeration a zone := by
  intro h
  have ll : isLinkLocal linkLocalOne.ipv6 := by rw [ipv6_linkLocalOne]; decide
  have last : linkLocalOne.ipv6.get 7 ≠ 0 := by rw [ipv6_linkLocalOne]; decide
  obtain ⟨b, hb, -, heq⟩ := (h linkLocalOne "eth0.100".toList (.ofV6 _)
    (IPAddress.type_ofV6 _) ll last (by decide) (by decide) (by decide)).parsed
  exact not_ofString_scoped (.ofV6 _) (IPAddress.type_ofV6 _) ll last (by decide)
    (by decide) hb heq

end NetworkInterface
