import Mathlib.Data.Finset.Basic
import NetworkInterface.Helper.Observer

/-!
# Helper — Impl

`NetworkInterfaceHelperImpl`: its observers, its table of interfaces, and the ten methods that
change them, as they run under the lock with observers that do not call back.  Next to these two
members, the state keeps what each observer was called with.

The calls of `waitForFirstEnumeration` and of the delegate, which stand outside the lock, are the
business of whoever calls these methods.
-/

namespace NetworkInterface

/-- The members of `NetworkInterfaceHelperImpl`, over the observers `O`. -/
structure Helper (O : Type*) where
  observers : Finset O := ∅
  networkInterfaces : Interfaces := ∅
  /-- What the observer was called with, since it was last registered. -/
  received : O → List Delivery := fun _ => []

namespace Helper

variable {O : Type*} [DecidableEq O]

/-! ### The public methods -/

/-- The interfaces `enumerateInterfaces` calls its handler with. -/
def enumerateInterfaces (helper : Helper O) : List Interface :=
  interfacesOf helper.networkInterfaces

/-- `getInterfaceByName`. -/
def getInterfaceByName (name : Text) (helper : Helper O) : Outcome Interface :=
  match helper.networkInterfaces.lookup name with
  | some intfc => .ok intfc
  | none       => .error (.invalidArgument
      "getInterfaceByName() error: No interface found with specified name")

/-- What `registerObserver` calls the new observer with. -/
def introduction (networkInterfaces : Interfaces) : List Delivery :=
  networkInterfaces.entries.map fun intfcKV => ⟨intfcKV.1, .onInterfaceAdded intfcKV.2⟩

/-- `registerObserver`, and whether it ends with `onFirstObserverRegistered`. -/
def registerObserver (observer : Option O) (helper : Helper O) : Helper O × Bool :=
  match observer with
  | none          => (helper, false)
  | some observer =>
      if observer ∈ helper.observers then (helper, false)
      else
        ({ helper with
            observers := insert observer helper.observers
            received :=
              Function.update helper.received observer (introduction helper.networkInterfaces) },
          decide (helper.observers = ∅))

/-- `unregisterObserver`, and whether it ends with `onLastObserverUnregistered`. -/
def unregisterObserver (observer : Option O) (helper : Helper O) : Helper O × Bool :=
  match observer with
  | none          => (helper, false)
  | some observer =>
      if observer ∈ helper.observers then
        ({ helper with observers := helper.observers.erase observer },
          decide (helper.observers.erase observer = ∅))
      else (helper, false)

theorem registerObserver_of_mem {helper : Helper O} {observer : O}
    (h : observer ∈ helper.observers) :
    helper.registerObserver (some observer) = (helper, false) := if_pos h

theorem registerObserver_of_notMem {helper : Helper O} {observer : O}
    (h : observer ∉ helper.observers) :
    helper.registerObserver (some observer) =
      ({ helper with
          observers := insert observer helper.observers
          received :=
            Function.update helper.received observer (introduction helper.networkInterfaces) },
        decide (helper.observers = ∅)) := if_neg h

theorem unregisterObserver_of_mem {helper : Helper O} {observer : O}
    (h : observer ∈ helper.observers) :
    helper.unregisterObserver (some observer) =
      ({ helper with observers := helper.observers.erase observer },
        decide (helper.observers.erase observer = ∅)) := if_pos h

theorem unregisterObserver_of_notMem {helper : Helper O} {observer : O}
    (h : observer ∉ helper.observers) :
    helper.unregisterObserver (some observer) = (helper, false) := if_neg h

/-! ### Notifications -/

/-- `notifyObserversMethod`: each registered observer is called. -/
def notifyObserversMethod (delivery : Delivery) (helper : Helper O) : Helper O :=
  { helper with
    received := fun obs =>
      if obs ∈ helper.observers then helper.received obs ++ [delivery] else helper.received obs }

/-- `notifyEnabledStateChanged` and its four siblings. -/
def notifyChanged (name : Text) (intfc : Interface) (property : Property) (helper : Helper O) :
    Helper O :=
  helper.notifyObserversMethod ⟨name, .onInterfaceChanged intfc property⟩

/-! ### The events of the delegate -/

/-- A loop over a map. -/
def forEach (interfaces : Interfaces) (body : Text → Interface → Helper O → Helper O)
    (helper : Helper O) : Helper O :=
  interfaces.entries.foldl (fun helper intfcKV => body intfcKV.1 intfcKV.2 helper) helper

/-- The five comparisons of `onNewInterfacesList`. -/
def notifyDifferences (name : Text) (previousIntfc newIntfc : Interface) (helper : Helper O) :
    Helper O :=
  newIntfc.properties.foldl (fun helper property =>
    if property.differs previousIntfc then helper.notifyChanged name newIntfc property
    else helper) helper

/-- The observers are called when `name` is not in the other map. -/
def notifyMissing (other : Interfaces) (name : Text) (notification : Notification)
    (helper : Helper O) : Helper O :=
  if name ∈ other then helper else helper.notifyObserversMethod ⟨name, notification⟩

/-- The first loop of `onNewInterfacesList`: is the previous interface still there? -/
def checkRemoved (interfaces : Interfaces) (name : Text) (previousIntfc : Interface) :
    Helper O → Helper O :=
  notifyMissing interfaces name (.onInterfaceRemoved previousIntfc)

/-- The second loop: was the new interface there before? -/
def checkAdded (previous : Interfaces) (name : Text) (newIntfc : Interface) :
    Helper O → Helper O :=
  notifyMissing previous name (.onInterfaceAdded newIntfc)

/-- The third loop: did some property change? -/
def checkChanged (interfaces : Interfaces) (name : Text) (previousIntfc : Interface)
    (helper : Helper O) : Helper O :=
  match interfaces.lookup name with
  | some newIntfc => helper.notifyDifferences name previousIntfc newIntfc
  | none          => helper

/-- `onNewInterfacesList`. -/
def onNewInterfacesList (interfaces : Interfaces) (helper : Helper O) : Helper O :=
  let previous := helper.networkInterfaces
  let helper := helper.forEach previous (checkRemoved interfaces)
  let helper := helper.forEach interfaces (checkAdded previous)
  let helper := helper.forEach previous (checkChanged interfaces)
  { helper with networkInterfaces := interfaces }

/-- `onInterfaceAdded`. -/
def onInterfaceAdded (interfaceName : Text) (intfc : Interface) (helper : Helper O) : Helper O :=
  if interfaceName ∈ helper.networkInterfaces then helper
  else
    { helper with networkInterfaces := helper.networkInterfaces.insert interfaceName intfc
      }.notifyObserversMethod ⟨interfaceName, .onInterfaceAdded intfc⟩

/-- `onInterfaceRemoved`. -/
def onInterfaceRemoved (interfaceName : Text) (helper : Helper O) : Helper O :=
  match helper.networkInterfaces.lookup interfaceName with
  | some intfc =>
      { helper.notifyObserversMethod ⟨interfaceName, .onInterfaceRemoved intfc⟩ with
        networkInterfaces := helper.networkInterfaces.erase interfaceName }
  | none       => helper

/-- The five events about one property: the table is updated, then the observers are told. -/
def onPropertyChanged (interfaceName : Text) (property : Property) (helper : Helper O) :
    Helper O :=
  match helper.networkInterfaces.lookup interfaceName with
  | some intfc =>
      if property.differs intfc then
        { helper with
          networkInterfaces := helper.networkInterfaces.insert interfaceName (property.set intfc)
          }.notifyChanged interfaceName (property.set intfc) property
      else helper
  | none       => helper

/-- `onEnabledStateChanged`. -/
def onEnabledStateChanged (interfaceName : Text) (isEnabled : Bool) : Helper O → Helper O :=
  onPropertyChanged interfaceName (.isEnabled isEnabled)

/-- `onConnectedStateChanged`. -/
def onConnectedStateChanged (interfaceName : Text) (isConnected : Bool) : Helper O → Helper O :=
  onPropertyChanged interfaceName (.isConnected isConnected)

/-- `onAliasChanged`. -/
def onAliasChanged (interfaceName aliasName : Text) : Helper O → Helper O :=
  onPropertyChanged interfaceName (.aliasName aliasName)

/-- `onIPAddressInfosChanged`. -/
def onIPAddressInfosChanged (interfaceName : Text) (ipAddressInfos : List IPAddressInfo) :
    Helper O → Helper O :=
  onPropertyChanged interfaceName (.ipAddressInfos ipAddressInfos)

/-- `onGatewaysChanged`. -/
def onGatewaysChanged (interfaceName : Text) (gateways : List IPAddress) : Helper O → Helper O :=
  onPropertyChanged interfaceName (.gateways gateways)

/-! ### What a notification leaves alone -/

/-- The observers are called with each of the deliveries in turn. -/
def notifyAll (deliveries : List Delivery) (helper : Helper O) : Helper O :=
  deliveries.foldl (fun helper delivery => helper.notifyObserversMethod delivery) helper

@[simp]
theorem observers_notifyAll (deliveries : List Delivery) (helper : Helper O) :
    (helper.notifyAll deliveries).observers = helper.observers := by
  induction deliveries generalizing helper with
  | nil => rfl
  | cons delivery deliveries ih => exact ih _

theorem received_notifyAll (deliveries : List Delivery) {helper : Helper O} {obs : O}
    (h : obs ∈ helper.observers) :
    (helper.notifyAll deliveries).received obs = helper.received obs ++ deliveries := by
  induction deliveries generalizing helper with
  | nil => exact (List.append_nil _).symm
  | cons delivery deliveries ih =>
      have first : (helper.notifyObserversMethod delivery).received obs =
          helper.received obs ++ [delivery] := if_pos h
      calc (helper.notifyAll (delivery :: deliveries)).received obs
          = (helper.notifyObserversMethod delivery).received obs ++ deliveries := ih h
        _ = helper.received obs ++ delivery :: deliveries := by
            rw [first, List.append_assoc]
            rfl

theorem received_notifyAll_of_notMem (deliveries : List Delivery) {helper : Helper O} {obs : O}
    (h : obs ∉ helper.observers) :
    (helper.notifyAll deliveries).received obs = helper.received obs := by
  induction deliveries generalizing helper with
  | nil => rfl
  | cons delivery deliveries ih =>
      have first : (helper.notifyObserversMethod delivery).received obs = helper.received obs :=
        if_neg h
      calc (helper.notifyAll (delivery :: deliveries)).received obs
          = (helper.notifyObserversMethod delivery).received obs := ih h
        _ = helper.received obs := first

theorem notifyAll_append (deliveries deliveries' : List Delivery) (helper : Helper O) :
    helper.notifyAll (deliveries ++ deliveries') =
      (helper.notifyAll deliveries).notifyAll deliveries' := List.foldl_append ..

end Helper

end NetworkInterface
