import NetworkInterface.Helper.Diff
import NetworkInterface.Support.Runs

/-!
# Helper — Replica

An observer that keeps a map of the interfaces it was told about.  Whatever operations are run, and
whenever the observer was registered, it is told nothing its map does not expect, and its map agrees
with the table (`replica_agrees`).

The invariant (`Mirrored`) is kept name by name.  An event of the delegate is its list of deliveries
and a new table; it is enough that the deliveries about a name take what agrees with the old entry
to what agrees with the new one (`Mirrored.notifyAll`).
-/

namespace NetworkInterface

open Support Runs

variable {O : Type*}

/-! ### The operations -/

/-- The operations, each of which holds the lock from its start to its end. -/
inductive Operation (O : Type*) where
  | registerObserver (observer : Option O)
  | unregisterObserver (observer : Option O)
  | onNewInterfacesList (interfaces : Interfaces)
  | onInterfaceAdded (interfaceName : Text) (intfc : Interface)
  | onInterfaceRemoved (interfaceName : Text)
  | onEnabledStateChanged (interfaceName : Text) (isEnabled : Bool)
  | onConnectedStateChanged (interfaceName : Text) (isConnected : Bool)
  | onAliasChanged (interfaceName aliasName : Text)
  | onIPAddressInfosChanged (interfaceName : Text) (ipAddressInfos : List IPAddressInfo)
  | onGatewaysChanged (interfaceName : Text) (gateways : List IPAddress)

/-- The helper after the operation. -/
def Operation.exec [DecidableEq O] (helper : Helper O) : Operation O → Helper O
  | .registerObserver observer             => (helper.registerObserver observer).1
  | .unregisterObserver observer           => (helper.unregisterObserver observer).1
  | .onNewInterfacesList interfaces        => helper.onNewInterfacesList interfaces
  | .onInterfaceAdded interfaceName intfc  => helper.onInterfaceAdded interfaceName intfc
  | .onInterfaceRemoved interfaceName      => helper.onInterfaceRemoved interfaceName
  | .onEnabledStateChanged name value      => helper.onEnabledStateChanged name value
  | .onConnectedStateChanged name value    => helper.onConnectedStateChanged name value
  | .onAliasChanged name value             => helper.onAliasChanged name value
  | .onIPAddressInfosChanged name value    => helper.onIPAddressInfosChanged name value
  | .onGatewaysChanged name value          => helper.onGatewaysChanged name value

/-- Each interface is stored under its `id`. -/
def Keyed (interfaces : Interfaces) : Prop :=
  ∀ name intfc, interfaces.lookup name = some intfc → intfc.id = name

/-- The interfaces the delegate passes are stored under their `id`. -/
def Operation.Keyed : Operation O → Prop
  | .onNewInterfacesList interfaces       => NetworkInterface.Keyed interfaces
  | .onInterfaceAdded interfaceName intfc => intfc.id = interfaceName
  | _                                     => True

/-- A step: the operation runs, and the map may come out of it in another order. -/
def Helper.Step [DecidableEq O] (helper : Helper O) (operation : Operation O)
    (helper' : Helper O) : Prop :=
  ∃ networkInterfaces : Interfaces,
    networkInterfaces.entries.Perm (operation.exec helper).networkInterfaces.entries ∧
      helper' = { operation.exec helper with networkInterfaces := networkInterfaces }

/-- A step whose interfaces are stored under their `id`, as every delegate does. -/
def Helper.KeyedStep [DecidableEq O] : Helper O → Operation O → Helper O → Prop :=
  Meeting (fun _ operation => operation.Keyed) Helper.Step

/-! ### The map of an observer -/

/-- What an observer makes of what it is called with: `onInterfaceAdded` inserts the interface,
`onInterfaceRemoved` deletes it, and the other methods set one property.  It expects
`onInterfaceAdded` for interfaces it does not know, and the others for those it knows. -/
def replicaFeed : Feed Text Interface Delivery where
  key delivery := delivery.notification.intfc.id
  act delivery known :=
    match delivery.notification with
    | .onInterfaceAdded intfc        => some intfc
    | .onInterfaceRemoved _          => none
    | .onInterfaceChanged _ property => known.map fun intfc => property.set intfc
  allows delivery known :=
    match delivery.notification with
    | .onInterfaceAdded _ => known = none
    | _                   => known ≠ none

/-- The map of an observer that received the deliveries. -/
def replica (deliveries : List Delivery) : Text → Option Interface :=
  replicaFeed.replay (fun _ => none) deliveries

/-- Each delivery comes when the map of the observer expects it. -/
def WellFormed (deliveries : List Delivery) : Prop := replicaFeed.Fits (fun _ => none) deliveries

/-- The map has the keys of the table, and the same properties at each of them. -/
def Agrees (known : Text → Option Interface) (interfaces : Interfaces) : Prop :=
  ∀ name, Option.Rel SameProperties (known name) (interfaces.lookup name)

/-! ### The deliveries about one name -/

/-- The deliveries about the differences take the old properties to the new ones. -/
theorem reportDifferences_replicaFeed {known previousIntfc : Interface} (name : Text)
    (newIntfc : Interface) (h : SameProperties known previousIntfc) :
    replicaFeed.FitsAt (some known) (reportDifferences name previousIntfc newIntfc) ∧
      ∃ intfc, replicaFeed.replayAt (some known) (reportDifferences name previousIntfc newIntfc) =
        some intfc ∧ SameProperties intfc newIntfc := by
  have gen : ∀ (properties : List Property) (known : Interface),
      let deliveries : List Delivery := properties.map fun property =>
        ⟨name, .onInterfaceChanged newIntfc property⟩
      replicaFeed.FitsAt (some known) deliveries ∧ replicaFeed.replayAt (some known) deliveries =
        some (properties.foldl (fun intfc property => property.set intfc) known) := by
    intro properties
    induction properties with
    | nil => exact fun _ => ⟨trivial, rfl⟩
    | cons property properties ih =>
        intro known
        obtain ⟨fits, run⟩ := ih (property.set known)
        exact ⟨⟨Option.some_ne_none known, fits⟩, run⟩
  obtain ⟨fits, run⟩ := gen (newIntfc.properties.filter (·.differs previousIntfc)) known
  exact ⟨fits, _, run, sameProperties_foldl h⟩

/-- The bulk update, at one name. -/
theorem reportAt_replicaFeed {known previous : Option Interface} (name : Text)
    (new : Option Interface) (h : Option.Rel SameProperties known previous) :
    replicaFeed.FitsAt known (reportAt name previous new) ∧
      Option.Rel SameProperties (replicaFeed.replayAt known (reportAt name previous new)) new := by
  cases h with
  | none =>
      cases new with
      | none => exact ⟨trivial, .none⟩
      | some newIntfc => exact ⟨⟨rfl, trivial⟩, .some (.refl newIntfc)⟩
  | some h =>
      cases new with
      | none => exact ⟨⟨Option.some_ne_none _, trivial⟩, .none⟩
      | some newIntfc =>
          obtain ⟨fits, intfc, run, same⟩ := reportDifferences_replicaFeed name newIntfc h
          refine ⟨fits, ?_⟩
          rw [reportAt, run]
          exact .some same

/-! ### The invariant -/

/-- The table is keyed, what each observer received is well formed, and the map of each registered
observer agrees with the table. -/
structure Mirrored (helper : Helper O) : Prop where
  keyed : Keyed helper.networkInterfaces
  wellFormed : ∀ obs, WellFormed (helper.received obs)
  agrees : ∀ obs ∈ helper.observers, Agrees (replica (helper.received obs)) helper.networkInterfaces

theorem mirrored_empty : Mirrored ({} : Helper O) where
  keyed _ _ hfound := by cases hfound
  wellFormed _ := trivial
  agrees obs hobs := absurd hobs (Finset.notMem_empty obs)

/-- The invariant does not see the order of the table. -/
theorem Mirrored.perm {helper : Helper O} (h : Mirrored helper) {interfaces : Interfaces}
    (hperm : interfaces.entries.Perm helper.networkInterfaces.entries) :
    Mirrored { helper with networkInterfaces := interfaces } where
  keyed name intfc hfound := h.keyed name intfc ((AList.perm_lookup hperm).symm.trans hfound)
  wellFormed := h.wellFormed
  agrees obs hobs name := by
    change Option.Rel _ _ (interfaces.lookup name)
    rw [AList.perm_lookup hperm]
    exact h.agrees obs hobs name

variable [DecidableEq O]

/-- **An event** keeps the invariant, when at each name its deliveries take what agrees with the
entry to what agrees with the new entry. -/
theorem Mirrored.notifyAll {helper : Helper O} (h : Mirrored helper) {deliveries : List Delivery}
    {interfaces : Interfaces} (hkeyed : Keyed interfaces)
    (hat : ∀ name known, Option.Rel SameProperties known (helper.networkInterfaces.lookup name) →
      replicaFeed.FitsAt known (about replicaFeed.key name deliveries) ∧
      Option.Rel SameProperties
        (replicaFeed.replayAt known (about replicaFeed.key name deliveries))
        (interfaces.lookup name)) :
    Mirrored { helper.notifyAll deliveries with networkInterfaces := interfaces } where
  keyed := hkeyed
  wellFormed obs := by
    change WellFormed ((helper.notifyAll deliveries).received obs)
    by_cases hobs : obs ∈ helper.observers
    · rw [Helper.received_notifyAll _ hobs]
      refine (Feed.fits_append _).mpr ⟨h.wellFormed obs, (Feed.fits_iff _).mpr fun name => ?_⟩
      exact (hat name _ (h.agrees obs hobs name)).1
    · -- what it received before it was unregistered
      rw [Helper.received_notifyAll_of_notMem _ hobs]
      exact h.wellFormed obs
  agrees obs hobs name := by
    have hobs' : obs ∈ helper.observers := by
      rwa [← Helper.observers_notifyAll deliveries helper]
    change Option.Rel _ (replica ((helper.notifyAll deliveries).received obs) name) _
    rw [Helper.received_notifyAll _ hobs', replica, Feed.replay_append, Feed.replay_apply]
    exact (hat name _ (h.agrees obs hobs' name)).2

/-- An event with one delivery, about `interfaceName`. -/
theorem Mirrored.notify {helper : Helper O} (h : Mirrored helper) {delivery : Delivery}
    {interfaces : Interfaces} (hkeyed : Keyed interfaces) {interfaceName : Text}
    (hkey : replicaFeed.key delivery = interfaceName)
    (hother : ∀ name, name ≠ interfaceName →
      interfaces.lookup name = helper.networkInterfaces.lookup name)
    (hself : ∀ known,
      Option.Rel SameProperties known (helper.networkInterfaces.lookup interfaceName) →
      replicaFeed.allows delivery known ∧
      Option.Rel SameProperties (replicaFeed.act delivery known)
        (interfaces.lookup interfaceName)) :
    Mirrored { helper.notifyObserversMethod delivery with networkInterfaces := interfaces } := by
  have event : ∀ name known,
      Option.Rel SameProperties known (helper.networkInterfaces.lookup name) →
      replicaFeed.FitsAt known (about replicaFeed.key name [delivery]) ∧
      Option.Rel SameProperties
        (replicaFeed.replayAt known (about replicaFeed.key name [delivery]))
        (interfaces.lookup name) := by
    intro name known hknown
    by_cases hname : interfaceName = name
    · subst hname
      obtain ⟨allowed, same⟩ := hself known hknown
      rw [about_eq_self _ fun d hd => by rw [List.mem_singleton.mp hd, hkey]]
      exact ⟨⟨allowed, trivial⟩, same⟩
    · rw [about_eq_nil _ fun d hd => by rwa [List.mem_singleton.mp hd, hkey],
        hother name (Ne.symm hname)]
      exact ⟨trivial, hknown⟩
  exact h.notifyAll hkeyed event

theorem keyed_insert {interfaces : Interfaces} (h : Keyed interfaces) (intfc : Interface) :
    Keyed (interfaces.insert intfc.id intfc) := by
  intro name found hfound
  by_cases hname : name = intfc.id
  · subst hname
    rw [AList.lookup_insert] at hfound
    rw [← Option.some.inj hfound]
  · rw [AList.lookup_insert_ne hname] at hfound
    exact h name found hfound

theorem keyed_erase {interfaces : Interfaces} (h : Keyed interfaces) (interfaceName : Text) :
    Keyed (interfaces.erase interfaceName) := by
  intro name found hfound
  by_cases hname : name = interfaceName
  · subst hname
    rw [AList.lookup_erase] at hfound
    cases hfound
  · rw [AList.lookup_erase_ne hname] at hfound
    exact h name found hfound

/-! ### The events -/

theorem key_of_mem_report {previous interfaces : Interfaces} (hprevious : Keyed previous)
    (hnew : Keyed interfaces) {delivery : Delivery} (h : delivery ∈ report previous interfaces) :
    replicaFeed.key delivery = delivery.name := by
  have keyed {t : Interfaces} (ht : Keyed t) {x : Sigma fun _ : Text => Interface}
      (hx : x ∈ t.entries) : x.2.id = x.1 := ht x.1 x.2 (AList.mem_lookup_iff.mpr hx)
  rw [report, List.mem_append, List.mem_append] at h
  simp only [List.mem_flatMap] at h
  obtain (⟨x, hx, hd⟩ | ⟨x, hx, hd⟩) | ⟨x, hx, hd⟩ := h
  · rw [eq_of_mem_reportMissing hd]
    exact keyed hprevious hx
  · rw [eq_of_mem_reportMissing hd]
    exact keyed hnew hx
  · obtain ⟨newIntfc, property, hl, rfl⟩ := eq_of_mem_reportChanged hd
    exact hnew x.1 newIntfc hl

theorem Mirrored.onNewInterfacesList {helper : Helper O} (h : Mirrored helper)
    {interfaces : Interfaces} (hnew : Keyed interfaces) :
    Mirrored (helper.onNewInterfacesList interfaces) := by
  rw [Helper.onNewInterfacesList_eq]
  refine h.notifyAll hnew fun name known hknown => ?_
  rw [about_report (fun _ hd => key_of_mem_report h.keyed hnew hd)]
  exact reportAt_replicaFeed name _ hknown

theorem Mirrored.onInterfaceAdded {helper : Helper O} (h : Mirrored helper) (intfc : Interface) :
    Mirrored (helper.onInterfaceAdded intfc.id intfc) := by
  rw [Helper.onInterfaceAdded]
  split
  · exact h
  · rename_i hnew
    have hkey : replicaFeed.key ⟨intfc.id, .onInterfaceAdded intfc⟩ = intfc.id := rfl
    refine h.notify (keyed_insert h.keyed intfc) hkey
      (fun name hname => AList.lookup_insert_ne hname) fun known hknown => ?_
    rw [AList.lookup_eq_none.mpr hnew] at hknown
    cases hknown
    rw [AList.lookup_insert]
    exact ⟨rfl, .some (.refl intfc)⟩

theorem Mirrored.onInterfaceRemoved {helper : Helper O} (h : Mirrored helper)
    (interfaceName : Text) : Mirrored (helper.onInterfaceRemoved interfaceName) := by
  rw [Helper.onInterfaceRemoved]
  split
  · rename_i intfc hfound
    refine h.notify (keyed_erase h.keyed interfaceName) (h.keyed _ _ hfound)
      (fun name hname => AList.lookup_erase_ne hname) fun known hknown => ?_
    rw [hfound] at hknown
    cases hknown
    rw [AList.lookup_erase]
    exact ⟨Option.some_ne_none _, .none⟩
  · exact h

theorem Mirrored.onPropertyChanged {helper : Helper O} (h : Mirrored helper)
    (interfaceName : Text) (property : Property) :
    Mirrored (helper.onPropertyChanged interfaceName property) := by
  rw [Helper.onPropertyChanged]
  split
  · rename_i intfc hfound
    split
    · have hid : (property.set intfc).id = interfaceName :=
        (property.id_set intfc).trans (h.keyed _ _ hfound)
      have hkeyed := keyed_insert h.keyed (property.set intfc)
      rw [hid] at hkeyed
      refine h.notify hkeyed hid (fun name hname => AList.lookup_insert_ne hname)
        fun known hknown => ?_
      rw [hfound] at hknown
      cases hknown with
      | some hsame =>
          rw [AList.lookup_insert]
          exact ⟨Option.some_ne_none _, .some (hsame.set property)⟩
    · exact h
  · exact h

/-! ### Observers come and go -/

/-- What a new observer is told about a name. -/
theorem about_introduction {interfaces : Interfaces} (h : Keyed interfaces) (name : Text) :
    about replicaFeed.key name (Helper.introduction interfaces) =
      (interfaces.lookup name).elim [] fun intfc => [⟨name, .onInterfaceAdded intfc⟩] := by
  rw [Helper.introduction, List.map_eq_flatMap]
  refine about_entries replicaFeed.key (fun name intfc => [⟨name, .onInterfaceAdded intfc⟩])
    interfaces (fun x hx delivery hd => ?_) name
  rw [List.mem_singleton.mp hd]
  exact h x.1 x.2 (AList.mem_lookup_iff.mpr hx)

/-- What a new observer is told is well formed, and gives it the table. -/
theorem introduction_replicaFeed {interfaces : Interfaces} (h : Keyed interfaces) :
    WellFormed (Helper.introduction interfaces) ∧
      Agrees (replica (Helper.introduction interfaces)) interfaces := by
  refine ⟨(Feed.fits_iff _).mpr fun name => ?_, fun name => ?_⟩
  · rw [about_introduction h]
    cases interfaces.lookup name with
    | none => exact trivial
    | some intfc => exact ⟨rfl, trivial⟩
  · rw [replica, Feed.replay_apply, about_introduction h]
    cases interfaces.lookup name with
    | none => exact .none
    | some intfc => exact .some (.refl intfc)

theorem Mirrored.registerObserver {helper : Helper O} (h : Mirrored helper)
    (observer : Option O) : Mirrored (helper.registerObserver observer).1 := by
  cases observer with
  | none => exact h
  | some observer =>
      rw [Helper.registerObserver]
      split
      · exact h
      · obtain ⟨wellFormed, agrees⟩ := introduction_replicaFeed h.keyed
        refine ⟨h.keyed, fun obs => ?_, fun obs hobs => ?_⟩
        · change WellFormed (Function.update helper.received observer _ obs)
          by_cases hobs : obs = observer
          · -- its record begins anew
            subst hobs
            rwa [Function.update_self]
          · rw [Function.update_of_ne hobs]
            exact h.wellFormed obs
        · change Agrees (replica (Function.update helper.received observer _ obs)) _
          rcases Finset.mem_insert.mp hobs with rfl | hmem
          · rwa [Function.update_self]
          · rename_i hnew
            have hne : obs ≠ observer := fun hc => hnew (hc ▸ hmem)
            rw [Function.update_of_ne hne]
            exact h.agrees obs hmem

theorem Mirrored.unregisterObserver {helper : Helper O} (h : Mirrored helper)
    (observer : Option O) : Mirrored (helper.unregisterObserver observer).1 := by
  cases observer with
  | none => exact h
  | some observer =>
      rw [Helper.unregisterObserver]
      split
      · exact ⟨h.keyed, h.wellFormed, fun obs hobs => h.agrees obs (Finset.mem_of_mem_erase hobs)⟩
      · exact h

/-! ### Runs -/

theorem Mirrored.exec {helper : Helper O} (h : Mirrored helper) {operation : Operation O}
    (hop : operation.Keyed) : Mirrored (operation.exec helper) := by
  cases operation with
  | registerObserver observer => exact h.registerObserver observer
  | unregisterObserver observer => exact h.unregisterObserver observer
  | onNewInterfacesList interfaces => exact h.onNewInterfacesList hop
  | onInterfaceAdded interfaceName intfc =>
      obtain rfl : intfc.id = interfaceName := hop
      exact h.onInterfaceAdded intfc
  | onInterfaceRemoved interfaceName => exact h.onInterfaceRemoved interfaceName
  | onEnabledStateChanged name value => exact h.onPropertyChanged name _
  | onConnectedStateChanged name value => exact h.onPropertyChanged name _
  | onAliasChanged name value => exact h.onPropertyChanged name _
  | onIPAddressInfosChanged name value => exact h.onPropertyChanged name _
  | onGatewaysChanged name value => exact h.onPropertyChanged name _

theorem Mirrored.step {helper helper' : Helper O} {operation : Operation O} (h : Mirrored helper)
    (hstep : helper.KeyedStep operation helper') :
    Mirrored helper' := by
  obtain ⟨hop, networkInterfaces, hperm, rfl⟩ := hstep
  exact (h.exec hop).perm hperm

/-- **The replica invariant**: in every run, what each observer receives is well formed, and the map
of each registered observer agrees with the table. -/
theorem replica_agrees {helper : Helper O}
    (h : Reaches Helper.KeyedStep {} helper) :
    (∀ obs, WellFormed (helper.received obs)) ∧
      ∀ obs ∈ helper.observers,
        Agrees (replica (helper.received obs)) helper.networkInterfaces := by
  have mirrored : Mirrored helper := h.invariant (fun _ _ _ ha hab => ha.step hab) mirrored_empty
  exact ⟨mirrored.wellFormed, mirrored.agrees⟩

/-- An observer has registered. -/
def observed : Helper Unit := (Operation.registerObserver (some ())).exec {}

/-- Then `en0` has come. -/
def observedEn0 : Helper Unit :=
  (Operation.onInterfaceAdded "en0".toList (en0 1)).exec observed

theorem replica_agrees_en0 :
    (∀ obs, WellFormed (observedEn0.received obs)) ∧
      ∀ obs ∈ observedEn0.observers,
        Agrees (replica (observedEn0.received obs)) observedEn0.networkInterfaces := by
  have registers : Helper.KeyedStep {} (.registerObserver (some ())) observed :=
    ⟨trivial, _, .refl _, rfl⟩
  have adds : observed.KeyedStep (.onInterfaceAdded "en0".toList (en0 1)) observedEn0 :=
    ⟨rfl, _, .refl _, rfl⟩
  exact replica_agrees (.more (.more .refl registers) adds)

end NetworkInterface
