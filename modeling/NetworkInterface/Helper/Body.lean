import NetworkInterface.Helper.Replica

/-!
# Helper — Body

What each operation does under the lock, one instruction at a time: the members it changes, and the
loops that call observers, in the order of the source.  `onNewInterfacesList` tells the observers
everything and then replaces the table; an event about one interface changes the table first, except
`onInterfaceRemoved`.

Run one after the other, the instructions of an operation are the operation (`run_body`).
-/

namespace NetworkInterface

variable {O : Type*} [DecidableEq O]

/-- What an operation does to the members, or a loop of callbacks. -/
inductive Instruction (O : Type*) where
  /-- `_observers.insert`, and the loop of `registerObserver` over the table. -/
  | insert (observer : O)
  /-- `_observers.erase`. -/
  | erase (observer : O)
  /-- A call of `notifyObserversMethod`. -/
  | notify (delivery : Delivery)
  /-- `_networkInterfaces` gets another value. -/
  | assign (networkInterfaces : Interfaces)

/-- The helper after the instruction. -/
def Instruction.run (helper : Helper O) : Instruction O → Helper O
  | .insert observer => { helper with
      observers := Insert.insert observer helper.observers
      received := Function.update helper.received observer
        (Helper.introduction helper.networkInterfaces) }
  | .erase observer => { helper with observers := helper.observers.erase observer }
  | .notify delivery => helper.notifyObserversMethod delivery
  | .assign networkInterfaces => { helper with networkInterfaces := networkInterfaces }

/-- The helper after the instructions. -/
def runAll (helper : Helper O) (instructions : List (Instruction O)) : Helper O :=
  instructions.foldl Instruction.run helper

/-! ### The bodies -/

/-- The five events about one property. -/
def propertyBody (networkInterfaces : Interfaces) (interfaceName : Text) (property : Property) :
    List (Instruction O) :=
  match networkInterfaces.lookup interfaceName with
  | some intfc =>
      if property.differs intfc then
        [.assign (networkInterfaces.insert interfaceName (property.set intfc)),
          .notify ⟨interfaceName, .onInterfaceChanged (property.set intfc) property⟩]
      else []
  | none       => []

/-- What the operation does under the lock. -/
def Operation.body (helper : Helper O) : Operation O → List (Instruction O)
  | .registerObserver none            => []
  | .registerObserver (some observer) =>
      if observer ∈ helper.observers then [] else [.insert observer]
  | .unregisterObserver none            => []
  | .unregisterObserver (some observer) =>
      if observer ∈ helper.observers then [.erase observer] else []
  | .onNewInterfacesList interfaces =>
      (report helper.networkInterfaces interfaces).map .notify ++ [.assign interfaces]
  | .onInterfaceAdded interfaceName intfc =>
      if interfaceName ∈ helper.networkInterfaces then []
      else
        [.assign (helper.networkInterfaces.insert interfaceName intfc),
          .notify ⟨interfaceName, .onInterfaceAdded intfc⟩]
  | .onInterfaceRemoved interfaceName =>
      match helper.networkInterfaces.lookup interfaceName with
      | some intfc =>
          [.notify ⟨interfaceName, .onInterfaceRemoved intfc⟩,
            .assign (helper.networkInterfaces.erase interfaceName)]
      | none       => []
  | .onEnabledStateChanged name value   =>
      propertyBody helper.networkInterfaces name (.isEnabled value)
  | .onConnectedStateChanged name value =>
      propertyBody helper.networkInterfaces name (.isConnected value)
  | .onAliasChanged name value          =>
      propertyBody helper.networkInterfaces name (.aliasName value)
  | .onIPAddressInfosChanged name value =>
      propertyBody helper.networkInterfaces name (.ipAddressInfos value)
  | .onGatewaysChanged name value       =>
      propertyBody helper.networkInterfaces name (.gateways value)

theorem runAll_notify (deliveries : List Delivery) (helper : Helper O) :
    runAll helper (deliveries.map .notify) = helper.notifyAll deliveries := by
  induction deliveries generalizing helper with
  | nil => rfl
  | cons delivery deliveries ih => exact ih _

theorem runAll_append (instructions instructions' : List (Instruction O)) (helper : Helper O) :
    runAll helper (instructions ++ instructions') =
      runAll (runAll helper instructions) instructions' := List.foldl_append ..

theorem runAll_propertyBody (helper : Helper O) (interfaceName : Text) (property : Property) :
    runAll helper (propertyBody helper.networkInterfaces interfaceName property) =
      helper.onPropertyChanged interfaceName property := by
  rw [propertyBody, Helper.onPropertyChanged]
  cases helper.networkInterfaces.lookup interfaceName with
  | none => rfl
  | some intfc =>
      dsimp only
      split
      · rfl
      · rfl

/-- **The body is the operation**. -/
theorem run_body (operation : Operation O) (helper : Helper O) :
    runAll helper (operation.body helper) = operation.exec helper := by
  cases operation with
  | registerObserver observer =>
      cases observer with
      | none => rfl
      | some observer =>
          rw [Operation.body, Operation.exec, Helper.registerObserver]
          split
          · rfl
          · rfl
  | unregisterObserver observer =>
      cases observer with
      | none => rfl
      | some observer =>
          rw [Operation.body, Operation.exec, Helper.unregisterObserver]
          split
          · rfl
          · rfl
  | onNewInterfacesList interfaces =>
      rw [Operation.body, Operation.exec, Helper.onNewInterfacesList_eq, runAll_append,
        runAll_notify]
      rfl
  | onInterfaceAdded interfaceName intfc =>
      rw [Operation.body, Operation.exec, Helper.onInterfaceAdded]
      split
      · rfl
      · rfl
  | onInterfaceRemoved interfaceName =>
      rw [Operation.body, Operation.exec, Helper.onInterfaceRemoved]
      cases helper.networkInterfaces.lookup interfaceName with
      | none => rfl
      | some intfc => rfl
  | onEnabledStateChanged name value => exact runAll_propertyBody ..
  | onConnectedStateChanged name value => exact runAll_propertyBody ..
  | onAliasChanged name value => exact runAll_propertyBody ..
  | onIPAddressInfosChanged name value => exact runAll_propertyBody ..
  | onGatewaysChanged name value => exact runAll_propertyBody ..

end NetworkInterface
