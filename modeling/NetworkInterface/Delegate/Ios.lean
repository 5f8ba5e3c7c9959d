import NetworkInterface.Delegate.Keyed
import NetworkInterface.Support.Related

/-!
# Delegate — Ios

`OsDependentDelegate_IOS::refreshInterfaces`: the loop of the Unix delegate, but for three things.
The MAC addresses are made up, the Wi-Fi interfaces are found in a second pass, and nothing catches
what the constructors of the addresses throw, though the function is `noexcept`.

- `isOk_refreshInterfaces_iff`: the process ends exactly when a text the constructor refuses is met
  after the interface it belongs to was set up.
- `follows_refreshInterfaces`: where it does not end, the Unix delegate makes the same list of the
  same entries, but for the MAC addresses and the types.
- `distinct_macAddress_iff`: the made-up addresses are different exactly when there are at most 256
  interfaces.
-/

namespace NetworkInterface

namespace Ios

open Support.Related

/-! ### The loop -/

/-- What an entry of the list holds, besides the name of the interface. -/
inductive IfAddr.Payload where
  /-- `AF_LINK`, and the flags. -/
  | link (isLoopback isUp isRunning : Bool)
  /-- `AF_INET` or `AF_INET6`: what `getnameinfo` writes for the address and for the mask. -/
  | inet (host mask : Option Text)
  /-- No address, or another family. -/
  | ignored

/-- An entry of the list. -/
structure IfAddr where
  name : Text
  payload : IfAddr.Payload

/-- `getInterfaceType`. -/
def getInterfaceType (name : Text) (isLoopback : Bool) : Interface.Type :=
  if name.take 4 = "awdl".toList then .awdl
  else if isLoopback then .loopback
  else .ethernet

/-- The address that is made up. -/
def fakeMacAddress (pos : UInt8) : MacAddress := #v[0x00, 0x01, 0x02, 0x03, 0x04, pos]

/-- The interface an `AF_LINK` entry sets up. -/
def interfaceOf (name : Text) (isLoopback isUp isRunning : Bool) (pos : UInt8) : Interface where
  id := name
  description := name
  aliasName := name
  type := getInterfaceType name isLoopback
  isEnabled := isUp
  isConnected := isUp && isRunning
  isVirtual := getInterfaceType name isLoopback == .loopback
  macAddress := fakeMacAddress pos

/-- The `AF_INET*` branch, once the interface is found. -/
def addIPAddress (interface : Interface) (host mask : Option Text) : Outcome Interface :=
  match host, mask with
  | some host, some mask => do
      let info ← infoOf host mask
      return { interface with ipAddressInfos := interface.ipAddressInfos ++ [info] }
  | _, _ => .ok interface

/-- The body of the loop, over the interfaces and `pos`. -/
def refreshEntry (st : Interfaces × UInt8) (ifa : IfAddr) : Outcome (Interfaces × UInt8) :=
  match ifa.payload with
  | .link isLoopback isUp isRunning =>
      .ok (st.1.insert ifa.name (interfaceOf ifa.name isLoopback isUp isRunning st.2), st.2 + 1)
  | .inet host mask =>
      match st.1.lookup ifa.name with
      | some interface => do
          return (st.1.insert ifa.name (← addIPAddress interface host mask), st.2)
      | none           => .ok st
  | .ignored => .ok st

/-- The body of the loop over the names of the Wi-Fi interfaces. -/
def setWiFi (interfaces : Interfaces) (ifname : Text) : Interfaces :=
  match interfaces.lookup ifname with
  | some interface => interfaces.insert ifname { interface with type := .wifi }
  | none           => interfaces

/-- `refreshInterfaces`, once the list and the socket are there.  `ifs` is what
`CNCopySupportedInterfaces` gives, and `en0` alone on a simulator.  An exception ends the
process. -/
def refreshInterfaces (ifaddr : List IfAddr) (ifs : List Text) : Outcome Interfaces := do
  let (interfaces, _) ← ifaddr.foldlM refreshEntry (∅, 0)
  return ifs.foldl setWiFi interfaces

/-! ### The process ends -/

/-- The interface `name` is set up in `ifaddr`. -/
def Recorded (name : Text) (ifaddr : List IfAddr) : Prop :=
  ∃ isLoopback isUp isRunning, ⟨name, .link isLoopback isUp isRunning⟩ ∈ ifaddr

/-- Each address that comes after the interface it belongs to can be read. -/
def Legible (ifaddr : List IfAddr) : Prop :=
  ∀ pre name host mask post, ifaddr = pre ++ ⟨name, .inet (some host) (some mask)⟩ :: post →
    Recorded name pre → ∃ info, infoOf host mask = .ok info

theorem recorded_singleton {name : Text} {ifa : IfAddr} : Recorded name [ifa] ↔
    ifa.name = name ∧ ∃ isLoopback isUp isRunning,
      ifa.payload = .link isLoopback isUp isRunning := by
  obtain ⟨ifaName, payload⟩ := ifa
  simp only [Recorded, List.mem_singleton, IfAddr.mk.injEq]
  exact ⟨fun ⟨l, u, r, hname, hpayload⟩ => ⟨hname.symm, l, u, r, hpayload.symm⟩,
    fun ⟨hname, l, u, r, hpayload⟩ => ⟨l, u, r, hname.symm, hpayload.symm⟩⟩

theorem recorded_cons {name : Text} {ifa : IfAddr} {ifaddr : List IfAddr} :
    Recorded name (ifa :: ifaddr) ↔ Recorded name [ifa] ∨ Recorded name ifaddr := by
  simp only [Recorded, List.mem_cons, List.not_mem_nil, or_false]
  refine ⟨?_, ?_⟩
  · rintro ⟨l, u, r, h | h⟩
    · exact .inl ⟨l, u, r, h⟩
    · exact .inr ⟨l, u, r, h⟩
  · rintro (⟨l, u, r, h⟩ | ⟨l, u, r, h⟩)
    · exact ⟨l, u, r, .inl h⟩
    · exact ⟨l, u, r, .inr h⟩

/-- What the `AF_INET*` branch makes of the interface. -/
theorem addIPAddress_isOk_iff (interface : Interface) (host mask : Option Text) :
    (∃ interface', addIPAddress interface host mask = .ok interface') ↔
      ∀ h m, host = some h → mask = some m → ∃ info, infoOf h m = .ok info := by
  cases host with
  | none => exact ⟨fun _ _ _ hc => (by cases hc), fun _ => ⟨interface, rfl⟩⟩
  | some host =>
      cases mask with
      | none => exact ⟨fun _ _ _ _ hc => (by cases hc), fun _ => ⟨interface, rfl⟩⟩
      | some mask =>
          refine ⟨fun ⟨interface', hrun⟩ h m hh hm => ?_, fun hread => ?_⟩
          · obtain ⟨info, hinfo, -⟩ := Outcome.bind_eq_ok.mp hrun
            obtain rfl := Option.some.inj hh
            obtain rfl := Option.some.inj hm
            exact ⟨info, hinfo⟩
          · obtain ⟨info, hinfo⟩ := hread host mask rfl rfl
            exact ⟨_, Outcome.bind_eq_ok.mpr ⟨info, hinfo, rfl⟩⟩

/-- A turn of the loop goes on unless it meets a text that is refused. -/
theorem refreshEntry_isOk_iff (st : Interfaces × UInt8) (ifa : IfAddr) :
    (∃ st', refreshEntry st ifa = .ok st') ↔ ∀ host mask,
      ifa.payload = .inet (some host) (some mask) → ifa.name ∈ st.1 →
        ∃ info, infoOf host mask = .ok info := by
  obtain ⟨name, payload⟩ := ifa
  cases payload with
  | link => exact ⟨fun _ _ _ hc => (by cases hc), fun _ => ⟨_, rfl⟩⟩
  | ignored => exact ⟨fun _ _ _ hc => (by cases hc), fun _ => ⟨_, rfl⟩⟩
  | inet host mask =>
      rw [refreshEntry, ← AList.lookup_isSome]
      cases hfind : st.1.lookup name with
      | none => exact ⟨fun _ _ _ _ hc => (by cases hc), fun _ => ⟨st, rfl⟩⟩
      | some interface =>
          have hadd := addIPAddress_isOk_iff interface host mask
          refine ⟨fun ⟨st', hrun⟩ h m hpayload _ => ?_, fun hread => ?_⟩
          · obtain ⟨interface', hinterface, -⟩ := Outcome.bind_eq_ok.mp hrun
            obtain ⟨hhost, hmask⟩ := IfAddr.Payload.inet.inj hpayload
            exact hadd.mp ⟨interface', hinterface⟩ h m hhost hmask
          · obtain ⟨interface', hinterface⟩ := hadd.mpr fun h m hh hm =>
              hread h m (by rw [hh, hm]) rfl
            exact ⟨_, Outcome.bind_eq_ok.mpr ⟨interface', hinterface, rfl⟩⟩

/-- The names that are there after a turn. -/
theorem mem_refreshEntry {st st' : Interfaces × UInt8} {ifa : IfAddr}
    (hrun : refreshEntry st ifa = .ok st') (name : Text) :
    name ∈ st'.1 ↔ name ∈ st.1 ∨ Recorded name [ifa] := by
  rw [recorded_singleton]
  obtain ⟨ifaName, payload⟩ := ifa
  cases payload with
  | link isLoopback isUp isRunning =>
      obtain rfl := Except.ok.inj hrun
      rw [AList.mem_insert]
      refine ⟨?_, ?_⟩
      · rintro (rfl | h)
        · exact .inr ⟨rfl, isLoopback, isUp, isRunning, rfl⟩
        · exact .inl h
      · rintro (h | ⟨rfl, -⟩)
        · exact .inr h
        · exact .inl rfl
  | ignored =>
      obtain rfl := Except.ok.inj hrun
      exact ⟨.inl, fun h => h.resolve_right (by rintro ⟨-, l, u, r, hc⟩; cases hc)⟩
  | inet host mask =>
      rw [refreshEntry] at hrun
      have same : name ∈ st.1 ↔ name ∈ st.1 ∨ ifaName = name ∧ ∃ isLoopback isUp isRunning,
          IfAddr.Payload.inet host mask = .link isLoopback isUp isRunning :=
        ⟨.inl, fun h => h.resolve_right (by rintro ⟨-, l, u, r, hc⟩; cases hc)⟩
      rw [← same]
      cases hfind : st.1.lookup ifaName with
      | none =>
          simp only [hfind] at hrun
          obtain rfl := Except.ok.inj hrun
          exact Iff.rfl
      | some interface =>
          simp only [hfind] at hrun
          obtain ⟨interface', -, hrun⟩ := Outcome.bind_eq_ok.mp hrun
          obtain rfl := Except.ok.inj hrun
          rw [AList.mem_insert]
          refine ⟨fun h => h.elim (fun heq => ?_) id, .inr⟩
          subst heq
          exact AList.lookup_isSome.mp (by rw [hfind]; rfl)

/-- The loop, when the names of `st` are there already. -/
theorem foldlM_refreshEntry_isOk_iff (ifaddr : List IfAddr) (st : Interfaces × UInt8) :
    (∃ st', ifaddr.foldlM refreshEntry st = .ok st') ↔
      ∀ pre name host mask post, ifaddr = pre ++ ⟨name, .inet (some host) (some mask)⟩ :: post →
        (name ∈ st.1 ∨ Recorded name pre) → ∃ info, infoOf host mask = .ok info := by
  induction ifaddr generalizing st with
  | nil =>
      refine ⟨fun _ pre _ _ _ _ hc => ?_, fun _ => ⟨st, rfl⟩⟩
      exact absurd hc.symm (by simp)
  | cons ifa ifaddr ih =>
      refine ⟨fun ⟨st'', hrun⟩ pre name host mask post hsplit hthere => ?_, fun hread => ?_⟩
      · obtain ⟨st', hfirst, hrest⟩ := Outcome.bind_eq_ok.mp hrun
        cases pre with
        | nil =>
            obtain ⟨rfl, -⟩ := List.cons.inj hsplit
            have hmem := hthere.resolve_right (by rintro ⟨l, u, r, hc⟩; cases hc)
            exact (refreshEntry_isOk_iff st _).mp ⟨st', hfirst⟩ host mask rfl hmem
        | cons first pre =>
            obtain ⟨hfirst', hlater⟩ := List.cons.inj hsplit
            subst hfirst'
            refine (ih st').mp ⟨st'', hrest⟩ pre name host mask post hlater ?_
            rw [mem_refreshEntry hfirst, or_assoc, ← recorded_cons]
            exact hthere
      · obtain ⟨st', hfirst⟩ := (refreshEntry_isOk_iff st ifa).mpr fun host mask hpayload hmem => by
          obtain ⟨name, payload⟩ := ifa
          obtain rfl : payload = .inet (some host) (some mask) := hpayload
          exact hread [] name host mask ifaddr rfl (.inl hmem)
        obtain ⟨st'', hrest⟩ := (ih st').mpr fun pre name host mask post hsplit hthere => by
          rw [mem_refreshEntry hfirst, or_assoc, ← recorded_cons] at hthere
          exact hread (ifa :: pre) name host mask post (by rw [hsplit, List.cons_append]) hthere
        exact ⟨st'', Outcome.bind_eq_ok.mpr ⟨st', hfirst, hrest⟩⟩

/-- **The process goes on** exactly when every text that is met can be read. -/
theorem isOk_refreshInterfaces_iff (ifaddr : List IfAddr) (ifs : List Text) :
    (∃ interfaces, refreshInterfaces ifaddr ifs = .ok interfaces) ↔ Legible ifaddr := by
  have loop := foldlM_refreshEntry_isOk_iff ifaddr (∅, 0)
  have hempty (name : Text) : name ∉ (∅ : Interfaces) := AList.notMem_empty name
  refine ⟨fun ⟨interfaces, hrun⟩ pre name host mask post hsplit hrecorded => ?_, fun h => ?_⟩
  · obtain ⟨st, hst, -⟩ := Outcome.bind_eq_ok.mp hrun
    exact loop.mp ⟨st, hst⟩ pre name host mask post hsplit (.inr hrecorded)
  · obtain ⟨st, hst⟩ := loop.mpr fun pre name host mask post hsplit hthere =>
      h pre name host mask post hsplit (hthere.resolve_left (hempty name))
    exact ⟨_, Outcome.bind_eq_ok.mpr ⟨st, hst, rfl⟩⟩

/-! ### The Unix delegate -/

/-- The entries mean the same on the two systems. -/
inductive Matches : IfAddr → NetworkInterface.IfAddr → Prop where
  | link (name : Text) (isLoopback isUp isRunning : Bool) (type : Interface.Type)
      (sllAddr : Option MacAddress) :
      Matches ⟨name, .link isLoopback isUp isRunning⟩ ⟨name, .packet type isUp isRunning sllAddr⟩
  | inet (name : Text) (host mask : Option Text) :
      Matches ⟨name, .inet host mask⟩ ⟨name, .inet host mask⟩
  | ignored (name : Text) : Matches ⟨name, .ignored⟩ ⟨name, .ignored⟩

/-- The interfaces are the same, but for the MAC address and what depends on the type. -/
structure Follows (interface unix : Interface) : Prop where
  id : interface.id = unix.id
  description : interface.description = unix.description
  aliasName : interface.aliasName = unix.aliasName
  ipAddressInfos : interface.ipAddressInfos = unix.ipAddressInfos
  gateways : interface.gateways = unix.gateways
  isEnabled : interface.isEnabled = unix.isEnabled
  isConnected : interface.isConnected = unix.isConnected

/-- Under each name. -/
def FollowsAll (interfaces unix : Interfaces) : Prop :=
  ∀ name, Option.Rel Follows (interfaces.lookup name) (unix.lookup name)

section
variable {interfaces unix : Interfaces}

theorem FollowsAll.insert (h : FollowsAll interfaces unix) (name : Text) {i j : Interface}
    (hij : Follows i j) : FollowsAll (interfaces.insert name i) (unix.insert name j) :=
  rel_insert h name hij

theorem addIPAddress_follows {i i' j : Interface} (hij : Follows i j) {host mask : Option Text}
    (hrun : addIPAddress i host mask = .ok i') :
    ∃ j', NetworkInterface.addIPAddress j host mask = .ok j' ∧ Follows i' j' := by
  cases host with
  | none =>
      obtain rfl := Except.ok.inj hrun
      exact ⟨j, rfl, hij⟩
  | some host =>
      cases mask with
      | none =>
          obtain rfl := Except.ok.inj hrun
          exact ⟨j, rfl, hij⟩
      | some mask =>
          obtain ⟨info, hinfo, hrun⟩ := Outcome.bind_eq_ok.mp hrun
          obtain rfl := Except.ok.inj hrun
          refine ⟨{ j with ipAddressInfos := j.ipAddressInfos ++ [info] }, ?_, ?_⟩
          · simp only [NetworkInterface.addIPAddress, hinfo]
          · exact { hij with ipAddressInfos := congrArg (· ++ [info]) hij.ipAddressInfos }

theorem refreshEntry_follows {pos : UInt8} {st : Interfaces × UInt8} {ifa : IfAddr}
    {unixIfa : NetworkInterface.IfAddr} (h : FollowsAll interfaces unix)
    (hifa : Matches ifa unixIfa) (hrun : refreshEntry (interfaces, pos) ifa = .ok st) :
    ∃ unix', NetworkInterface.refreshEntry unix unixIfa = .ok unix' ∧ FollowsAll st.1 unix' := by
  cases hifa with
  | link name isLoopback isUp isRunning type sllAddr =>
      obtain rfl := Except.ok.inj hrun
      exact ⟨_, rfl, h.insert name ⟨rfl, rfl, rfl, rfl, rfl, rfl, rfl⟩⟩
  | ignored name =>
      obtain rfl := Except.ok.inj hrun
      exact ⟨unix, rfl, h⟩
  | inet name host mask =>
      have hname := h name
      rw [refreshEntry] at hrun
      cases hfind : interfaces.lookup name with
      | none =>
          simp only [hfind] at hrun
          rw [hfind] at hname
          obtain rfl := Except.ok.inj hrun
          have hnone : unix.lookup name = none := eq_none_of_rel_none hname
          exact ⟨unix, by simp only [NetworkInterface.refreshEntry, hnone], h⟩
      | some i =>
          simp only [hfind] at hrun
          rw [hfind] at hname
          obtain ⟨i', hi', hrun⟩ := Outcome.bind_eq_ok.mp hrun
          obtain rfl := Except.ok.inj hrun
          obtain ⟨j, hunix, hij⟩ := exists_of_some_rel hname
          obtain ⟨j', hj', hij'⟩ := addIPAddress_follows hij hi'
          refine ⟨unix.insert name j', ?_, h.insert name hij'⟩
          simp only [NetworkInterface.refreshEntry, hunix, hj']
          rfl

theorem setWiFi_follows (h : FollowsAll interfaces unix) (ifname : Text) :
    FollowsAll (setWiFi interfaces ifname) unix := by
  rw [setWiFi]
  cases hfind : interfaces.lookup ifname with
  | none => exact h
  | some i =>
      have hname := h ifname
      rw [hfind] at hname
      obtain ⟨j, hunix, hij⟩ := exists_of_some_rel hname
      -- only the type changes
      have same : Follows { i with type := .wifi } j := { hij with }
      exact rel_insert_left h hunix same

end

/-- The loops go on side by side. -/
theorem foldlM_refreshEntry_follows {ifaddr : List IfAddr}
    {unixIfaddr : List NetworkInterface.IfAddr} (hmatches : List.Forall₂ Matches ifaddr unixIfaddr)
    {st st' : Interfaces × UInt8} {unix : Interfaces} (h : FollowsAll st.1 unix)
    (hrun : ifaddr.foldlM refreshEntry st = .ok st') :
    ∃ unix', unixIfaddr.foldlM NetworkInterface.refreshEntry unix = .ok unix' ∧
      FollowsAll st'.1 unix' := by
  induction hmatches generalizing st unix with
  | nil =>
      obtain rfl := Except.ok.inj hrun
      exact ⟨unix, rfl, h⟩
  | cons hifa _ ih =>
      obtain ⟨st₁, hfirst, hrest⟩ := Outcome.bind_eq_ok.mp hrun
      obtain ⟨unix₁, hunix₁, h₁⟩ := refreshEntry_follows h hifa hfirst
      obtain ⟨unix', hunix', h'⟩ := ih h₁ hrest
      exact ⟨unix', Outcome.bind_eq_ok.mpr ⟨unix₁, hunix₁, hunix'⟩, h'⟩

theorem foldl_setWiFi_follows (h : FollowsAll interfaces unix) (ifs : List Text) :
    FollowsAll (ifs.foldl setWiFi interfaces) unix := by
  induction ifs generalizing interfaces with
  | nil => exact h
  | cons ifname ifs ih => exact ih (setWiFi_follows h ifname)

/-- **The Unix delegate follows**: it makes the same list of the same entries, but for the MAC
addresses and the types. -/
theorem follows_refreshInterfaces {ifaddr : List IfAddr}
    {unixIfaddr : List NetworkInterface.IfAddr} (hmatches : List.Forall₂ Matches ifaddr unixIfaddr)
    {ifs : List Text} {interfaces : Interfaces}
    (hrun : refreshInterfaces ifaddr ifs = .ok interfaces) :
    ∃ unix, NetworkInterface.refreshInterfaces unixIfaddr = .ok unix ∧
      FollowsAll interfaces unix := by
  obtain ⟨st, hst, hrun⟩ := Outcome.bind_eq_ok.mp hrun
  obtain rfl := Except.ok.inj hrun
  have start : FollowsAll ((∅, 0) : Interfaces × UInt8).1 ∅ := fun _ => .none
  obtain ⟨unix, hunix, h⟩ := foldlM_refreshEntry_follows hmatches start hst
  exact ⟨unix, hunix, foldl_setWiFi_follows h ifs⟩

/-- The entry, on Unix. -/
def toUnix (ifa : IfAddr) : NetworkInterface.IfAddr where
  name := ifa.name
  payload :=
    match ifa.payload with
    | .link isLoopback isUp isRunning =>
        .packet (getInterfaceType ifa.name isLoopback) isUp isRunning none
    | .inet host mask => .inet host mask
    | .ignored => .ignored

theorem matches_toUnix (ifaddr : List IfAddr) :
    List.Forall₂ Matches ifaddr (ifaddr.map toUnix) := by
  rw [List.forall₂_map_right_iff, List.forall₂_same]
  rintro ⟨name, payload⟩ -
  cases payload with
  | link isLoopback isUp isRunning => exact .link ..
  | inet host mask => exact .inet ..
  | ignored => exact .ignored ..

/-- A Wi-Fi interface with an address. -/
def enumerated : List IfAddr :=
  [⟨"en0".toList, .link false true true⟩,
    ⟨"en0".toList, .inet (some "10.0.0.2".toList) (some "255.255.255.0".toList)⟩]

theorem follows_refreshInterfaces_en0 : ∃ interfaces,
    refreshInterfaces enumerated ["en0".toList] = .ok interfaces ∧
      ∃ unix, NetworkInterface.refreshInterfaces (enumerated.map toUnix) = .ok unix ∧
        FollowsAll interfaces unix := by
  obtain ⟨interfaces, hrun⟩ : ∃ interfaces,
      refreshInterfaces enumerated ["en0".toList] = .ok interfaces := ⟨_, rfl⟩
  exact ⟨interfaces, hrun, follows_refreshInterfaces (matches_toUnix enumerated) hrun⟩

/-! ### The MAC addresses -/

/-- The names that are set up, in order. -/
def linked : List IfAddr → List Text
  | []                          => []
  | ⟨name, .link ..⟩ :: ifaddr  => name :: linked ifaddr
  | _ :: ifaddr                 => linked ifaddr

/-- Of the names set up so far, each has the address made up at its place in the list. -/
structure MadeUp (names : List Text) (st : Interfaces × UInt8) : Prop where
  pos : st.2 = UInt8.ofNat names.length
  macAddress : ∀ name, (st.1.lookup name).map Interface.macAddress =
    if name ∈ names then some (fakeMacAddress (UInt8.ofNat (names.idxOf name))) else none

section
variable {names : List Text} {st st' : Interfaces × UInt8}

/-- A new value with the old MAC address. -/
theorem map_macAddress_insert {interfaces : Interfaces} {name : Text} {i j : Interface}
    (hfind : interfaces.lookup name = some i) (hmac : j.macAddress = i.macAddress) (other : Text) :
    ((interfaces.insert name j).lookup other).map Interface.macAddress =
      (interfaces.lookup other).map Interface.macAddress := by
  by_cases hname : other = name
  · subst hname
    rw [AList.lookup_insert, hfind, Option.map_some, Option.map_some, hmac]
  · rw [AList.lookup_insert_ne hname]

theorem macAddress_addIPAddress {i j : Interface} {host mask : Option Text}
    (hrun : addIPAddress i host mask = .ok j) : j.macAddress = i.macAddress := by
  cases host with
  | none => rw [← Except.ok.inj hrun]
  | some host =>
      cases mask with
      | none => rw [← Except.ok.inj hrun]
      | some mask =>
          obtain ⟨info, -, hrun⟩ := Outcome.bind_eq_ok.mp hrun
          rw [← Except.ok.inj hrun]

theorem MadeUp.link (h : MadeUp names st) {name : Text} (hnew : name ∉ names)
    (isLoopback isUp isRunning : Bool) :
    MadeUp (names ++ [name])
      (st.1.insert name (interfaceOf name isLoopback isUp isRunning st.2), st.2 + 1) where
  pos := by
    rw [h.pos, List.length_append, List.length_singleton]
    simp
  macAddress other := by
    by_cases hname : other = name
    · subst hname
      rw [AList.lookup_insert, if_pos (by simp), List.idxOf_append_of_notMem hnew]
      simp [interfaceOf, h.pos]
    · rw [AList.lookup_insert_ne hname, h.macAddress other]
      by_cases hmem : other ∈ names
      · rw [if_pos hmem, if_pos (List.mem_append_left _ hmem), List.idxOf_append_of_mem hmem]
      · rw [if_neg hmem, if_neg (by simp [hmem, hname])]

/-- The loop, from where `names` are set up. -/
theorem MadeUp.foldlM {ifaddr : List IfAddr} (h : MadeUp names st)
    (hdistinct : (names ++ linked ifaddr).Nodup)
    (hrun : ifaddr.foldlM refreshEntry st = .ok st') : MadeUp (names ++ linked ifaddr) st' := by
  induction ifaddr generalizing names st with
  | nil =>
      obtain rfl := Except.ok.inj hrun
      rw [linked, List.append_nil]
      exact h
  | cons ifa ifaddr ih =>
      obtain ⟨st₁, hfirst, hrest⟩ := Outcome.bind_eq_ok.mp hrun
      obtain ⟨name, payload⟩ := ifa
      cases payload with
      | link isLoopback isUp isRunning =>
          obtain rfl := Except.ok.inj hfirst
          rw [linked, List.append_cons] at hdistinct ⊢
          have hnew : name ∉ names := fun hmem =>
            (List.nodup_append.mp (List.nodup_append.mp hdistinct).1).2.2 name hmem name
              (List.mem_singleton_self _) rfl
          exact ih (h.link hnew isLoopback isUp isRunning) hdistinct hrest
      | ignored =>
          obtain rfl := Except.ok.inj hfirst
          exact ih h hdistinct hrest
      | inet host mask =>
          refine ih ?_ hdistinct hrest
          rw [refreshEntry] at hfirst
          cases hfind : st.1.lookup name with
          | none =>
              simp only [hfind] at hfirst
              obtain rfl := Except.ok.inj hfirst
              exact h
          | some i =>
              simp only [hfind] at hfirst
              obtain ⟨j, hj, hfirst⟩ := Outcome.bind_eq_ok.mp hfirst
              obtain rfl := Except.ok.inj hfirst
              exact ⟨h.pos, fun other =>
                (map_macAddress_insert hfind (macAddress_addIPAddress hj) other).trans
                  (h.macAddress other)⟩

theorem map_macAddress_setWiFi (ifs : List Text) (interfaces : Interfaces) (name : Text) :
    ((ifs.foldl setWiFi interfaces).lookup name).map Interface.macAddress =
      (interfaces.lookup name).map Interface.macAddress := by
  induction ifs generalizing interfaces with
  | nil => rfl
  | cons ifname ifs ih =>
      refine (ih (setWiFi interfaces ifname)).trans ?_
      rw [setWiFi]
      cases hfind : interfaces.lookup ifname with
      | none => rfl
      | some i => exact map_macAddress_insert (j := { i with type := .wifi }) hfind rfl name

end

/-- Different interfaces have different MAC addresses. -/
def Distinct (interfaces : Interfaces) : Prop :=
  ∀ name name' i i', interfaces.lookup name = some i → interfaces.lookup name' = some i' →
    i.macAddress = i'.macAddress → name = name'

theorem fakeMacAddress_inj {p q : UInt8} : fakeMacAddress p = fakeMacAddress q ↔ p = q :=
  ⟨fun h => congrArg (fun m : MacAddress => m.get 5) h, fun h => h ▸ rfl⟩

/-- **The made-up addresses are different** exactly when there are at most 256 interfaces. -/
theorem distinct_macAddress_iff {ifaddr : List IfAddr} {ifs : List Text} {interfaces : Interfaces}
    (hdistinct : (linked ifaddr).Nodup)
    (hrun : refreshInterfaces ifaddr ifs = .ok interfaces) :
    Distinct interfaces ↔ (linked ifaddr).length ≤ 256 := by
  obtain ⟨st, hst, hrun⟩ := Outcome.bind_eq_ok.mp hrun
  obtain rfl := Except.ok.inj hrun
  have start : MadeUp [] ((∅, 0) : Interfaces × UInt8) := ⟨rfl, fun _ => rfl⟩
  have madeUp : MadeUp (linked ifaddr) st := start.foldlM hdistinct hst
  have mac (name : Text) : ((ifs.foldl setWiFi st.1).lookup name).map Interface.macAddress =
      if name ∈ linked ifaddr then
        some (fakeMacAddress (UInt8.ofNat ((linked ifaddr).idxOf name)))
      else none := (map_macAddress_setWiFi ifs st.1 name).trans (madeUp.macAddress name)
  have found {name : Text} (hmem : name ∈ linked ifaddr) :
      ∃ i, (ifs.foldl setWiFi st.1).lookup name = some i ∧
        i.macAddress = fakeMacAddress (UInt8.ofNat ((linked ifaddr).idxOf name)) :=
    Option.map_eq_some_iff.mp ((mac name).trans (if_pos hmem))
  have placed {name : Text} {i : Interface}
      (hi : (ifs.foldl setWiFi st.1).lookup name = some i) : name ∈ linked ifaddr ∧
        i.macAddress = fakeMacAddress (UInt8.ofNat ((linked ifaddr).idxOf name)) := by
    have hmac := mac name
    rw [hi, Option.map_some] at hmac
    by_cases hmem : name ∈ linked ifaddr
    · rw [if_pos hmem] at hmac
      exact ⟨hmem, Option.some.inj hmac⟩
    · rw [if_neg hmem] at hmac
      cases hmac
  refine ⟨fun h => ?_, fun hlength name name' i i' hi hi' hmac => ?_⟩
  · -- The first interface and the one 256 places later
    by_contra hlong
    have h₀ : 0 < (linked ifaddr).length := by omega
    have h₂₅₆ : 256 < (linked ifaddr).length := by omega
    obtain ⟨i, hi, hmac⟩ := found (List.getElem_mem h₀)
    obtain ⟨i', hi', hmac'⟩ := found (List.getElem_mem h₂₅₆)
    rw [hdistinct.idxOf_getElem] at hmac hmac'
    have hname := h _ _ i i' hi hi' (hmac.trans hmac'.symm)
    exact absurd ((List.Nodup.getElem_inj_iff hdistinct).mp hname) (by omega)
  · obtain ⟨hmem, hplace⟩ := placed hi
    obtain ⟨hmem', hplace'⟩ := placed hi'
    have hpos := fakeMacAddress_inj.mp (hplace.symm.trans (hmac.trans hplace'))
    have hlt := List.idxOf_lt_length_of_mem hmem
    have hlt' := List.idxOf_lt_length_of_mem hmem'
    have hplaces : (linked ifaddr).idxOf name = (linked ifaddr).idxOf name' := by
      have := congrArg UInt8.toNat hpos
      simp only [UInt8.toNat_ofNat'] at this
      omega
    exact (List.idxOf_inj hmem).mp hplaces

/-- The loopback interface, two Wi-Fi ones and a mobile one, the addresses in between. -/
def enumeratedFour : List IfAddr :=
  [⟨"lo0".toList, .link true true true⟩,
    ⟨"lo0".toList, .inet (some "127.0.0.1".toList) (some "255.0.0.0".toList)⟩,
    ⟨"en0".toList, .link false true true⟩,
    ⟨"en1".toList, .link false true false⟩,
    ⟨"en0".toList, .inet (some "10.0.0.2".toList) (some "255.255.255.0".toList)⟩,
    ⟨"pdp_ip0".toList, .link false true true⟩]

theorem distinct_macAddress_iff_four : ∃ interfaces,
    refreshInterfaces enumeratedFour ["en0".toList, "en1".toList] = .ok interfaces ∧
      interfaces.entries.length = 4 ∧ Distinct interfaces := by
  obtain ⟨interfaces, hrun, hfour⟩ : ∃ interfaces,
      refreshInterfaces enumeratedFour ["en0".toList, "en1".toList] = .ok interfaces ∧
        interfaces.entries.length = 4 := ⟨_, rfl, rfl⟩
  have names : (linked enumeratedFour).Nodup := by decide
  have few : (linked enumeratedFour).length ≤ 256 := by decide
  exact ⟨interfaces, hrun, hfour, (distinct_macAddress_iff names hrun).mpr few⟩

/-! ### The list is keyed -/

theorem Follows.keyed {interfaces unix : Interfaces} (h : FollowsAll interfaces unix)
    (hunix : Keyed unix) : Keyed interfaces := by
  intro name i hi
  have hname := h name
  rw [hi] at hname
  obtain ⟨j, hfind, hij⟩ := exists_of_some_rel hname
  exact hij.id.trans (hunix name j hfind)

/-- `OsDependentDelegate_IOS::refreshInterfaces`. -/
theorem keyed_refreshInterfaces {ifaddr : List IfAddr} {ifs : List Text} {interfaces : Interfaces}
    (hrun : refreshInterfaces ifaddr ifs = .ok interfaces) : Keyed interfaces := by
  obtain ⟨st, hst, hrun⟩ := Outcome.bind_eq_ok.mp hrun
  obtain rfl := Except.ok.inj hrun
  have start : FollowsAll ((∅, 0) : Interfaces × UInt8).1 ∅ := fun _ => .none
  obtain ⟨unix, hunix, h⟩ := foldlM_refreshEntry_follows (matches_toUnix ifaddr) start hst
  exact Follows.keyed (foldl_setWiFi_follows h ifs) (NetworkInterface.keyed_refreshInterfaces hunix)

end Ios

end NetworkInterface
