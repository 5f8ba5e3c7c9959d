import NetworkInterface.Delegate.MacRefresh
import NetworkInterface.Delegate.Unix
import NetworkInterface.Helper.Replica

/-!
# Delegate — Keyed

What the helper relies on: the lists the delegates make store every interface under its `id`.
-/

namespace NetworkInterface

theorem Keyed.insert {interfaces : Interfaces} (h : Keyed interfaces) {name : Text}
    {intfc : Interface} (hid : intfc.id = name) : Keyed (interfaces.insert name intfc) := by
  subst hid
  exact keyed_insert h intfc

/-! ### Unix -/

theorem id_addIPAddress {interface interface' : Interface} {host mask : Option Text}
    (h : addIPAddress interface host mask = .ok interface') : interface'.id = interface.id := by
  cases host with
  | none => rw [← Except.ok.inj h]
  | some host =>
      cases mask with
      | none => rw [← Except.ok.inj h]
      | some mask =>
          rw [addIPAddress] at h
          split at h
          · rw [← Except.ok.inj h]
          · rw [← Except.ok.inj h]
          · cases h

theorem keyed_refreshEntry {ifa : IfAddr} {interfaces interfaces' : Interfaces}
    (h : Keyed interfaces) (hrun : refreshEntry interfaces ifa = .ok interfaces') :
    Keyed interfaces' := by
  obtain ⟨name, payload⟩ := ifa
  cases payload with
  | ignored =>
      rw [← Except.ok.inj hrun]
      exact h
  | packet type isUp isRunning sllAddr =>
      rw [← Except.ok.inj hrun]
      exact h.insert rfl
  | inet host mask =>
      rw [refreshEntry] at hrun
      dsimp only at hrun
      cases hfind : interfaces.lookup name with
      | none =>
          rw [hfind] at hrun
          rw [← Except.ok.inj hrun]
          exact h
      | some interface =>
          rw [hfind] at hrun
          obtain ⟨interface', hadd, hrun⟩ := Outcome.bind_eq_ok.mp hrun
          rw [← Except.ok.inj hrun]
          exact h.insert ((id_addIPAddress hadd).trans (h _ _ hfind))

/-- `OsDependentDelegate_Unix::refreshInterfaces`. -/
theorem keyed_refreshInterfaces {ifaddr : List IfAddr} {interfaces : Interfaces}
    (h : refreshInterfaces ifaddr = .ok interfaces) : Keyed interfaces := by
  have run : ∀ table, Keyed table → ifaddr.foldlM refreshEntry table = .ok interfaces →
      Keyed interfaces := by
    clear h
    induction ifaddr with
    | nil =>
        intro table htable hrun
        rw [← Except.ok.inj hrun]
        exact htable
    | cons ifa ifaddr ih =>
        intro table htable hrun
        obtain ⟨table', hfirst, hrest⟩ := Outcome.bind_eq_ok.mp hrun
        exact ih table' (keyed_refreshEntry htable hfirst) hrest
  exact run ∅ (fun _ _ hfound => by cases hfound) h

/-! ### macOS -/

namespace MacOS

theorem id_serviceInterface {store : Store} {mapping : ServiceMapping}
    {deviceName hardware serviceID : Text} {userDefinedName : Option Text} {interface : Interface}
    (h : serviceInterface store mapping deviceName hardware userDefinedName serviceID =
      .ok interface) : interface.id = deviceName := by
  obtain ⟨description, -, h⟩ := Outcome.bind_eq_ok.mp h
  obtain ⟨ipAddressInfos, -, h⟩ := Outcome.bind_eq_ok.mp h
  rw [← Except.ok.inj h]

/-- `OsDependentDelegate_MacOS::refreshInterfaces`. -/
theorem keyed_refreshInterfaces {os : System} {store : Store} {mapping : ServiceMapping}
    {interfaces : Interfaces} (h : refreshInterfaces os store = .ok (mapping, interfaces)) :
    Keyed interfaces := by
  obtain ⟨listed, hlisted, -, lookup⟩ := refreshInterfaces_ok h
  intro name intfc hfound
  rw [lookup] at hfound
  obtain ⟨hsome, -⟩ := Option.filter_eq_some_iff.mp hfound
  obtain ⟨interface, hinterface, rfl⟩ := Option.map_eq_some_iff.mp hsome
  cases hservice : mapping.lookup name with
  | none => cases hinterface.symm.trans (hlisted.only name hservice)
  | some serviceID =>
      obtain ⟨value, hardware, interface', -, -, -, -, hmade, hlookup⟩ :=
        hlisted.service name serviceID hservice
      obtain rfl := Option.some.inj (hlookup.symm.trans hinterface)
      have hid : interface'.id = name := id_serviceInterface hmade
      exact hid

end MacOS

end NetworkInterface
