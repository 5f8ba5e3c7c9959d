import NetworkInterface.Helper.Body
import NetworkInterface.Helper.Reentrancy
import NetworkInterface.Support.RecursiveMutex

/-!
# Helper — Threads

Threads that call the helper at the same time, from outside any callback.  A step takes or releases
the lock, makes a single callback, or changes a member; between two steps of a thread the others
take theirs.  `notifyObserversMethod` locks the mutex its caller has locked already.  An observer
that is destroyed calls `unregisterObserver` like anyone else.

A thread that changes a member or is in a loop holds the lock, and nobody else does
(`Inv.alone`), so the loops run over members that stay as they are.
-/

namespace NetworkInterface

open Support Runs

/-! ### Operations and events -/

/-- The delegate raises the operation. -/
def Operation.IsEvent {O : Type*} : Operation O → Prop
  | .registerObserver _ | .unregisterObserver _ => False
  | _                                           => True

/-- The instructions of events. -/
def Instruction.OfEvent {O : Type*} : Instruction O → Prop
  | .insert _ | .erase _  => False
  | .notify _ | .assign _ => True

/-! ### The threads -/

/-- Where a thread is. -/
inductive Position (O : Type*) where
  | outside
  /-- About to take the lock. -/
  | calling (operation : Operation O)
  /-- Under the lock, with the rest of the body to be run. -/
  | running (operation : Operation O) (rest : List (Instruction O))
  /-- In the loop of `registerObserver`, at the entry with that index. -/
  | introducing (operation : Operation O) (observer : O) (index : Nat)
      (rest : List (Instruction O))
  /-- In the loop of `notifyObserversMethod`, about to call the observer the iterator is on. -/
  | looping (operation : Operation O) (delivery : Delivery) (iterator : Iterator O)
      (rest : List (Instruction O))

/-- The observer is called with each of the deliveries in turn. -/
def Helper.hears {O : Type*} [DecidableEq O] (observer : O) (deliveries : List Delivery)
    (helper : Helper O) : Helper O :=
  { helper with
    received :=
      Function.update helper.received observer (helper.received observer ++ deliveries) }

/-- How many times a thread there has locked the mutex. -/
def Position.acquired {O : Type*} : Position O → Nat
  | .outside | .calling _         => 0
  | .running .. | .introducing .. => 1
  | .looping ..                   => 2

def Position.isOutside {O : Type*} : Position O → Bool
  | .outside                                              => true
  | .calling _ | .running .. | .introducing .. | .looping .. => false

theorem Position.eq_outside {O : Type*} {position : Position O} (h : position.isOutside = true) :
    position = .outside := by
  cases position with
  | outside => rfl
  | calling operation => cases h
  | running operation rest => cases h
  | introducing operation observer index rest => cases h
  | looping operation delivery iterator rest => cases h

/-- What the threads are seen to do. -/
inductive Moment (T O : Type*) where
  /-- `registerObserver` inserts the observer, with the table as it stands. -/
  | inserted (thread : T) (observer : O) (networkInterfaces : Interfaces)
  /-- A callback of `registerObserver`. -/
  | introduced (thread : T) (observer : O) (delivery : Delivery)
  /-- `unregisterObserver` erases the observer. -/
  | erased (thread : T) (observer : O)
  /-- `notifyObserversMethod` takes the lock. -/
  | loopBegins (thread : T) (delivery : Delivery)
  /-- A callback of `notifyObserversMethod`. -/
  | notified (thread : T) (observer : O) (delivery : Delivery)
  | loopEnds (thread : T)
  /-- The operation releases the lock. -/
  | returned (thread : T) (operation : Operation O)
  /-- The destructor of the class derived from `Observer` has completed. -/
  | destroyed (thread : T) (observer : O)

/-- The helper, and the threads that call it. -/
structure Threads (T O : Type*) where
  helper : Helper O := {}
  lock : RecursiveMutex T := .free
  position : T → Position O := fun _ => .outside
  history : List (Moment T O) := []

/-- A step of a thread. -/
inductive Turn (T O : Type*) where
  /-- The thread calls an operation. -/
  | call (thread : T) (operation : Operation O)
  /-- The destructor of the class derived from `Observer` completes, and `~Observer` calls
  `unregisterObserver`. -/
  | destroy (thread : T) (observer : O)
  /-- The thread goes on. -/
  | advance (thread : T)

section
variable {T O : Type*} [DecidableEq T] [LinearOrder O]

namespace Threads

/-- The thread comes to the position. -/
def moves (s : Threads T O) (t : T) (position : Position O) (moments : List (Moment T O)) :
    Threads T O :=
  { s with
    position := Function.update s.position t position
    history := s.history ++ moments }

/-- The thread runs the next instruction of its operation. -/
def run (s : Threads T O) (t : T) (operation : Operation O) :
    List (Instruction O) → Option (Threads T O)
  | []                           => (s.lock.unlock t).map fun lock =>
      { s.moves t .outside [.returned t operation] with lock := lock }
  | .insert observer :: rest     => some
      { s.moves t (.introducing operation observer 0 rest)
          [.inserted t observer s.helper.networkInterfaces] with
        helper := { s.helper with
          observers := insert observer s.helper.observers
          received := Function.update s.helper.received observer [] } }
  | .erase observer :: rest      => some
      { s.moves t (.running operation rest) [.erased t observer] with
        helper := { s.helper with observers := s.helper.observers.erase observer } }
  | .notify delivery :: rest     => (s.lock.lock t).map fun lock =>
      { s.moves t (.looping operation delivery (.first s.helper.observers) rest)
          [.loopBegins t delivery] with
        lock := lock }
  | .assign interfaces :: rest   => some
      { s.moves t (.running operation rest) [] with
        helper := { s.helper with networkInterfaces := interfaces } }

/-- The thread goes on from where it is. -/
def advance (s : Threads T O) (t : T) : Option (Threads T O) :=
  match s.position t with
  | .outside                                    => none
  | .calling operation                          => (s.lock.lock t).map fun lock =>
      { s.moves t (.running operation (operation.body s.helper)) [] with lock := lock }
  | .running operation rest                     => s.run t operation rest
  | .introducing operation observer index rest  => some <|
      match (Helper.introduction s.helper.networkInterfaces)[index]? with
      | some delivery =>
          { s.moves t (.introducing operation observer (index + 1) rest)
              [.introduced t observer delivery] with
            helper := s.helper.hears observer [delivery] }
      | none          => s.moves t (.running operation rest) []
  | .looping operation delivery iterator rest   =>
      match iterator with
      | .element observer     => some
          { s.moves t
              (.looping operation delivery
                (.first (s.helper.observers.filter (observer < ·))) rest)
              [.notified t observer delivery] with
            helper := s.helper.hears observer [delivery] }
      | .stop                 => (s.lock.unlock t).map fun lock =>
          { s.moves t (.running operation rest) [.loopEnds t] with lock := lock }
      | .erased _ | .undefined => none

/-- The steps. -/
def next (s : Threads T O) : Turn T O → Option (Threads T O)
  | .call t operation   =>
      if (s.position t).isOutside then some (s.moves t (.calling operation) []) else none
  | .destroy t observer =>
      if (s.position t).isOutside then some
        (s.moves t (.calling (.unregisterObserver (some observer))) [.destroyed t observer])
      else none
  | .advance t          => s.advance t

/-! ### What a step does -/

/-- A step of the thread `t`. -/
inductive Effect (s : Threads T O) (t : T) : Threads T O → Prop where
  | call (operation : Operation O) : s.position t = .outside →
      Effect s t (s.moves t (.calling operation) [])
  | destroy (observer : O) : s.position t = .outside →
      Effect s t
        (s.moves t (.calling (.unregisterObserver (some observer))) [.destroyed t observer])
  | enter (operation : Operation O) (lock : RecursiveMutex T) :
      s.position t = .calling operation → s.lock.lock t = some lock →
      Effect s t { s.moves t (.running operation (operation.body s.helper)) [] with lock := lock }
  | leave (operation : Operation O) (lock : RecursiveMutex T) :
      s.position t = .running operation [] → s.lock.unlock t = some lock →
      Effect s t { s.moves t .outside [.returned t operation] with lock := lock }
  | insert (operation : Operation O) (observer : O) (rest : List (Instruction O)) :
      s.position t = .running operation (.insert observer :: rest) →
      Effect s t { s.moves t (.introducing operation observer 0 rest)
          [.inserted t observer s.helper.networkInterfaces] with
        helper := { s.helper with
          observers := insert observer s.helper.observers
          received := Function.update s.helper.received observer [] } }
  | introduce (operation : Operation O) (observer : O) (index : Nat) (rest : List (Instruction O))
      (delivery : Delivery) : s.position t = .introducing operation observer index rest →
      (Helper.introduction s.helper.networkInterfaces)[index]? = some delivery →
      Effect s t { s.moves t (.introducing operation observer (index + 1) rest)
          [.introduced t observer delivery] with
        helper := s.helper.hears observer [delivery] }
  | introduced (operation : Operation O) (observer : O) (index : Nat)
      (rest : List (Instruction O)) : s.position t = .introducing operation observer index rest →
      (Helper.introduction s.helper.networkInterfaces)[index]? = none →
      Effect s t (s.moves t (.running operation rest) [])
  | erase (operation : Operation O) (observer : O) (rest : List (Instruction O)) :
      s.position t = .running operation (.erase observer :: rest) →
      Effect s t { s.moves t (.running operation rest) [.erased t observer] with
        helper := { s.helper with observers := s.helper.observers.erase observer } }
  | assign (operation : Operation O) (interfaces : Interfaces) (rest : List (Instruction O)) :
      s.position t = .running operation (.assign interfaces :: rest) →
      Effect s t { s.moves t (.running operation rest) [] with
        helper := { s.helper with networkInterfaces := interfaces } }
  | loopBegins (operation : Operation O) (delivery : Delivery) (rest : List (Instruction O))
      (lock : RecursiveMutex T) : s.position t = .running operation (.notify delivery :: rest) →
      s.lock.lock t = some lock →
      Effect s t { s.moves t (.looping operation delivery (.first s.helper.observers) rest)
          [.loopBegins t delivery] with
        lock := lock }
  | notify (operation : Operation O) (delivery : Delivery) (observer : O)
      (rest : List (Instruction O)) :
      s.position t = .looping operation delivery (.element observer) rest →
      Effect s t { s.moves t
          (.looping operation delivery (.first (s.helper.observers.filter (observer < ·))) rest)
          [.notified t observer delivery] with
        helper := s.helper.hears observer [delivery] }
  | loopEnds (operation : Operation O) (delivery : Delivery) (rest : List (Instruction O))
      (lock : RecursiveMutex T) : s.position t = .looping operation delivery .stop rest →
      s.lock.unlock t = some lock →
      Effect s t { s.moves t (.running operation rest) [.loopEnds t] with lock := lock }

theorem effect_of_run {s s' : Threads T O} {t : T} {operation : Operation O}
    {rest : List (Instruction O)} (hposition : s.position t = .running operation rest)
    (h : s.run t operation rest = some s') : Effect s t s' := by
  cases rest with
  | nil =>
      obtain ⟨lock, hlock, rfl⟩ := Option.map_eq_some_iff.mp h
      exact .leave operation lock hposition hlock
  | cons instruction rest =>
      cases instruction with
      | insert observer =>
          obtain rfl := Option.some.inj h
          exact .insert operation observer rest hposition
      | erase observer =>
          obtain rfl := Option.some.inj h
          exact .erase operation observer rest hposition
      | notify delivery =>
          obtain ⟨lock, hlock, rfl⟩ := Option.map_eq_some_iff.mp h
          exact .loopBegins operation delivery rest lock hposition hlock
      | assign interfaces =>
          obtain rfl := Option.some.inj h
          exact .assign operation interfaces rest hposition

theorem effect_of_advance {s s' : Threads T O} {t : T} (h : s.advance t = some s') :
    Effect s t s' := by
  rw [advance] at h
  cases hposition : s.position t with
  | outside => rw [hposition] at h; cases h
  | calling operation =>
      rw [hposition] at h
      obtain ⟨lock, hlock, rfl⟩ := Option.map_eq_some_iff.mp h
      exact .enter operation lock hposition hlock
  | running operation rest =>
      rw [hposition] at h
      exact effect_of_run hposition h
  | introducing operation observer index rest =>
      rw [hposition] at h
      obtain rfl := Option.some.inj h
      cases hentry : (Helper.introduction s.helper.networkInterfaces)[index]? with
      | none => exact .introduced operation observer index rest hposition hentry
      | some delivery =>
          exact .introduce operation observer index rest delivery hposition hentry
  | looping operation delivery iterator rest =>
      rw [hposition] at h
      cases iterator with
      | element observer =>
          obtain rfl := Option.some.inj h
          exact .notify operation delivery observer rest hposition
      | stop =>
          obtain ⟨lock, hlock, rfl⟩ := Option.map_eq_some_iff.mp h
          exact .loopEnds operation delivery rest lock hposition hlock
      | erased _ => cases h
      | undefined => cases h

/-- **What a step does**. -/
theorem effect_of_next {s s' : Threads T O} {turn : Turn T O} (h : s.next turn = some s') :
    ∃ t, Effect s t s' := by
  cases turn with
  | call t operation =>
      obtain ⟨houtside, ⟨⟩⟩ := Option.ite_none_right_eq_some.mp h
      exact ⟨t, .call operation (Position.eq_outside houtside)⟩
  | destroy t observer =>
      obtain ⟨houtside, ⟨⟩⟩ := Option.ite_none_right_eq_some.mp h
      exact ⟨t, .destroy observer (Position.eq_outside houtside)⟩
  | advance t => exact ⟨t, effect_of_advance h⟩

/-! ### The invariant -/

/-- What the thread that holds the lock is doing, while the observers are these. -/
inductive Doing (observers : Finset O) : Operation O → List (Instruction O) → Prop where
  | inserting (observer : O) (h : observer ∉ observers) :
      Doing observers (.registerObserver (some observer)) [.insert observer]
  | registered (observer : Option O) : Doing observers (.registerObserver observer) []
  | erasing (observer : O) (h : observer ∈ observers) :
      Doing observers (.unregisterObserver (some observer)) [.erase observer]
  | unregistered (observer : Option O) (h : ∀ obs, observer = some obs → obs ∉ observers) :
      Doing observers (.unregisterObserver observer) []
  | event {operation : Operation O} {rest : List (Instruction O)} (hop : operation.IsEvent)
      (hrest : ∀ instruction ∈ rest, instruction.OfEvent) : Doing observers operation rest

omit [LinearOrder O] in
theorem ofEvent_propertyBody (networkInterfaces : Interfaces) (name : Text)
    (property : Property) :
    ∀ instruction ∈ (propertyBody networkInterfaces name property : List (Instruction O)),
      instruction.OfEvent := by
  intro instruction hmem
  rw [propertyBody] at hmem
  cases hfound : networkInterfaces.lookup name with
  | none =>
      rw [hfound] at hmem
      cases hmem
  | some intfc =>
      rw [hfound] at hmem
      dsimp only at hmem
      split at hmem
      · rcases List.mem_pair.mp hmem with rfl | rfl
        · exact trivial
        · exact trivial
      · cases hmem

/-- A thread that has just taken the lock. -/
theorem doing_body (operation : Operation O) (helper : Helper O) :
    Doing helper.observers operation (operation.body helper) := by
  cases operation with
  | registerObserver observer =>
      cases observer with
      | none => exact .registered none
      | some observer =>
          rw [Operation.body]
          split
          · exact .registered _
          · exact .inserting observer ‹_›
  | unregisterObserver observer =>
      cases observer with
      | none => exact .unregistered none fun _ hc => by cases hc
      | some observer =>
          rw [Operation.body]
          split
          · exact .erasing observer ‹_›
          · rename_i hmem
            exact .unregistered _ fun obs hobs => Option.some.inj hobs ▸ hmem
  | onNewInterfacesList interfaces =>
      refine .event trivial fun instruction hmem => ?_
      rcases List.mem_append.mp hmem with hmem | hmem
      · obtain ⟨delivery, -, rfl⟩ := List.mem_map.mp hmem
        exact trivial
      · rw [List.mem_singleton.mp hmem]
        exact trivial
  | onInterfaceAdded interfaceName intfc =>
      refine .event trivial fun instruction hmem => ?_
      rw [Operation.body] at hmem
      split at hmem
      · cases hmem
      · rcases List.mem_pair.mp hmem with rfl | rfl
        · exact trivial
        · exact trivial
  | onInterfaceRemoved interfaceName =>
      refine .event trivial fun instruction hmem => ?_
      rw [Operation.body] at hmem
      cases hfound : helper.networkInterfaces.lookup interfaceName with
      | none =>
          rw [hfound] at hmem
          cases hmem
      | some intfc =>
          rw [hfound] at hmem
          rcases List.mem_pair.mp hmem with rfl | rfl
          · exact trivial
          · exact trivial
  | onEnabledStateChanged name value => exact .event trivial (ofEvent_propertyBody _ _ _)
  | onConnectedStateChanged name value => exact .event trivial (ofEvent_propertyBody _ _ _)
  | onAliasChanged name value => exact .event trivial (ofEvent_propertyBody _ _ _)
  | onIPAddressInfosChanged name value => exact .event trivial (ofEvent_propertyBody _ _ _)
  | onGatewaysChanged name value => exact .event trivial (ofEvent_propertyBody _ _ _)

/-- Whether `obs` is registered, after the moment. -/
def registeredBy (obs : O) (registered : Bool) : Moment T O → Bool
  | .inserted _ observer _ => if observer = obs then true else registered
  | .erased _ observer     => if observer = obs then false else registered
  | _                      => registered

/-- Whether `obs` is registered, at the end of the history. -/
def isRegistered (obs : O) (history : List (Moment T O)) : Bool :=
  history.foldl (registeredBy obs) false

/-- What holds of a thread at the position while the observers are these. -/
def Sound (observers : Finset O) : Position O → Prop
  | .outside | .calling _                  => True
  | .running operation rest                => Doing observers operation rest
  | .introducing operation observer _ rest =>
      operation = .registerObserver (some observer) ∧ rest = [] ∧ observer ∈ observers
  | .looping operation _ iterator rest     =>
      operation.IsEvent ∧ (∀ instruction ∈ rest, instruction.OfEvent) ∧
        (iterator = .stop ∨ ∃ obs ∈ observers, iterator = .element obs)

/-- The lock is taken as often as the positions say, and the observers are those of the history. -/
structure Inv (s : Threads T O) : Prop where
  locked : ∀ t, s.lock.acquisitions t = (s.position t).acquired
  sound : ∀ t, Sound s.helper.observers (s.position t)
  registered : ∀ obs, isRegistered obs s.history = decide (obs ∈ s.helper.observers)

theorem inv_empty : Inv ({} : Threads T O) where
  locked _ := rfl
  sound _ := trivial
  registered _ := rfl

omit [DecidableEq T] [LinearOrder O] in
theorem acquired_of_running {s : Threads T O} {t : T} {operation : Operation O}
    {rest : List (Instruction O)} (h : s.position t = .running operation rest) :
    0 < (s.position t).acquired := by
  rw [h]
  exact Nat.one_pos

omit [DecidableEq T] [LinearOrder O] in
theorem acquired_of_introducing {s : Threads T O} {t : T} {operation : Operation O} {observer : O}
    {index : Nat} {rest : List (Instruction O)}
    (h : s.position t = .introducing operation observer index rest) :
    0 < (s.position t).acquired := by
  rw [h]
  exact Nat.one_pos

omit [DecidableEq T] [LinearOrder O] in
theorem acquired_of_looping {s : Threads T O} {t : T} {operation : Operation O}
    {delivery : Delivery} {iterator : Iterator O} {rest : List (Instruction O)}
    (h : s.position t = .looping operation delivery iterator rest) :
    0 < (s.position t).acquired := by
  rw [h]
  exact Nat.two_pos

/-- **Alone**: while a thread is under the lock, no other is. -/
theorem Inv.alone {s : Threads T O} (h : s.Inv) {t t' : T} (ht : 0 < (s.position t).acquired)
    (ht' : 0 < (s.position t').acquired) : t' = t :=
  RecursiveMutex.eq_of_acquisitions ((h.locked t).symm ▸ ht) ((h.locked t').symm ▸ ht')

omit [LinearOrder O] in
theorem sound_of_acquired {observers observers' : Finset O} {position : Position O}
    (h : ¬ 0 < position.acquired) (hsound : Sound observers position) :
    Sound observers' position := by
  cases position with
  | outside => exact trivial
  | calling operation => exact trivial
  | running operation rest => exact absurd Nat.one_pos h
  | introducing operation observer index rest => exact absurd Nat.one_pos h
  | looping operation delivery iterator rest => exact absurd Nat.two_pos h

/-- A thread comes to a sound position. -/
theorem Inv.moves {s : Threads T O} (h : s.Inv) {t : T} {position : Position O}
    {moments : List (Moment T O)} {lock : RecursiveMutex T} {helper : Helper O}
    (hlock : lock.acquisitions = Function.update s.lock.acquisitions t position.acquired)
    (hothers : helper.observers = s.helper.observers ∨ 0 < (s.position t).acquired)
    (hsound : Sound helper.observers position)
    (hregistered : ∀ obs, isRegistered obs (s.history ++ moments) =
      decide (obs ∈ helper.observers)) :
    Inv { s.moves t position moments with helper := helper, lock := lock } where
  locked t' := by
    change lock.acquisitions t' = (Function.update s.position t position t').acquired
    rw [hlock]
    by_cases ht : t' = t
    · rw [ht, Function.update_self, Function.update_self]
    · rw [Function.update_of_ne ht, Function.update_of_ne ht]
      exact h.locked t'
  sound t' := by
    change Sound helper.observers (Function.update s.position t position t')
    by_cases ht : t' = t
    · rw [ht, Function.update_self]
      exact hsound
    · rw [Function.update_of_ne ht]
      rcases hothers with hsame | hheld
      · rw [hsame]
        exact h.sound t'
      · exact sound_of_acquired (fun ht' => ht (h.alone hheld ht')) (h.sound t')
  registered := hregistered

/-- The lock stays as it is. -/
theorem Inv.lock_eq {s : Threads T O} (h : s.Inv) {t : T} {acquired : Nat}
    (hacquired : (s.position t).acquired = acquired) :
    s.lock.acquisitions = Function.update s.lock.acquisitions t acquired := by
  rw [← hacquired, ← h.locked t]
  exact (Function.update_eq_self t _).symm

/-- The lock is taken. -/
theorem Inv.lock_lock {s : Threads T O} (h : s.Inv) {t : T} {lock : RecursiveMutex T}
    {acquired : Nat} (hlock : s.lock.lock t = some lock)
    (hacquired : (s.position t).acquired + 1 = acquired) :
    lock.acquisitions = Function.update s.lock.acquisitions t acquired := by
  rw [(RecursiveMutex.acquisitions_lock hlock).1, h.locked t, hacquired]

/-- The lock is released. -/
theorem Inv.lock_unlock {s : Threads T O} (h : s.Inv) {t : T} {lock : RecursiveMutex T}
    {acquired : Nat} (hlock : s.lock.unlock t = some lock)
    (hacquired : (s.position t).acquired - 1 = acquired) :
    lock.acquisitions = Function.update s.lock.acquisitions t acquired := by
  rw [RecursiveMutex.acquisitions_unlock hlock, h.locked t, hacquired]

omit [DecidableEq T] in
theorem isRegistered_concat (obs : O) (history : List (Moment T O)) (moment : Moment T O) :
    isRegistered obs (history ++ [moment]) = registeredBy obs (isRegistered obs history) moment :=
  List.foldl_concat ..

/-- A moment that is not about membership. -/
theorem Inv.registered_concat {s : Threads T O} (h : s.Inv) {moment : Moment T O}
    (hmoment : ∀ obs registered, registeredBy obs registered moment = registered) (obs : O) :
    isRegistered obs (s.history ++ [moment]) = decide (obs ∈ s.helper.observers) := by
  rw [isRegistered_concat, hmoment]
  exact h.registered obs

theorem Inv.registered_nil {s : Threads T O} (h : s.Inv) (obs : O) :
    isRegistered obs (s.history ++ []) = decide (obs ∈ s.helper.observers) := by
  rw [List.append_nil]
  exact h.registered obs

theorem valid_first (rest observers : Finset O) (hsub : rest ⊆ observers) :
    Iterator.first rest = .stop ∨ ∃ obs ∈ observers, Iterator.first rest = .element obs := by
  rcases Iterator.first_eq rest with ⟨-, hfirst⟩ | ⟨c, hc, -, hfirst⟩
  · exact .inl hfirst
  · exact .inr ⟨c, hsub hc, hfirst⟩

/-- **One step** keeps the invariant. -/
theorem Inv.effect {s s' : Threads T O} {t : T} (h : s.Inv) (heffect : Effect s t s') :
    s'.Inv := by
  have hsound := h.sound t
  cases heffect with
  | call operation hposition =>
      exact h.moves (h.lock_eq (by rw [hposition]; rfl)) (.inl rfl) trivial h.registered_nil
  | destroy observer hposition =>
      exact h.moves (h.lock_eq (by rw [hposition]; rfl)) (.inl rfl) trivial
        (h.registered_concat fun _ _ => rfl)
  | enter operation lock hposition hlock =>
      exact h.moves (h.lock_lock hlock (by rw [hposition]; rfl)) (.inl rfl)
        (doing_body operation s.helper) h.registered_nil
  | leave operation lock hposition hlock =>
      exact h.moves (h.lock_unlock hlock (by rw [hposition]; rfl)) (.inl rfl) trivial
        (h.registered_concat fun _ _ => rfl)
  | insert operation observer rest hposition =>
      rw [hposition] at hsound
      cases hsound with
      | inserting _ hnot =>
          have held := acquired_of_running hposition
          refine h.moves (h.lock_eq (by rw [hposition]; rfl)) (.inr held)
            ⟨rfl, rfl, Finset.mem_insert_self ..⟩ fun obs => ?_
          -- set and history gain the same observer
          rw [isRegistered_concat, registeredBy, h.registered]
          by_cases hobs : observer = obs
          · rw [if_pos hobs, hobs]
            exact (decide_eq_true (Finset.mem_insert_self ..)).symm
          · rw [if_neg hobs]
            exact decide_eq_decide.mpr
              ⟨Finset.mem_insert_of_mem,
                fun hmem => Finset.mem_of_mem_insert_of_ne hmem (Ne.symm hobs)⟩
      | event hop hrest => exact absurd (hrest _ List.mem_cons_self) id
  | introduce operation observer index rest delivery hposition hentry =>
      rw [hposition] at hsound
      exact h.moves (h.lock_eq (by rw [hposition]; rfl)) (.inl rfl) hsound
        (h.registered_concat fun _ _ => rfl)
  | introduced operation observer index rest hposition hentry =>
      rw [hposition] at hsound
      obtain ⟨rfl, rfl, -⟩ := hsound
      exact h.moves (h.lock_eq (by rw [hposition]; rfl)) (.inl rfl) (Doing.registered _)
        h.registered_nil
  | erase operation observer rest hposition =>
      rw [hposition] at hsound
      cases hsound with
      | erasing _ hmem =>
          have held := acquired_of_running hposition
          refine h.moves (h.lock_eq (by rw [hposition]; rfl)) (.inr held)
            (Doing.unregistered _ fun obs hobs => ?_) fun obs => ?_
          · rw [← Option.some.inj hobs]
            exact Finset.notMem_erase observer _
          · -- set and history lose the same observer
            rw [isRegistered_concat, registeredBy, h.registered]
            by_cases hobs : observer = obs
            · rw [if_pos hobs, hobs]
              exact (decide_eq_false (Finset.notMem_erase obs _)).symm
            · rw [if_neg hobs]
              exact decide_eq_decide.mpr
                ⟨fun hmem => Finset.mem_erase.mpr ⟨Ne.symm hobs, hmem⟩, Finset.mem_of_mem_erase⟩
      | event hop hrest => exact absurd (hrest _ List.mem_cons_self) id
  | assign operation interfaces rest hposition =>
      rw [hposition] at hsound
      cases hsound with
      | event hop hrest =>
          exact h.moves (h.lock_eq (by rw [hposition]; rfl)) (.inl rfl)
            (Doing.event hop fun i hi => hrest i (List.mem_cons_of_mem _ hi)) h.registered_nil
  | loopBegins operation delivery rest lock hposition hlock =>
      rw [hposition] at hsound
      cases hsound with
      | event hop hrest =>
          exact h.moves (h.lock_lock hlock (by rw [hposition]; rfl)) (.inl rfl)
            ⟨hop, fun i hi => hrest i (List.mem_cons_of_mem _ hi),
              valid_first _ _ (Finset.Subset.refl _)⟩
            (h.registered_concat fun _ _ => rfl)
  | notify operation delivery observer rest hposition =>
      rw [hposition] at hsound
      obtain ⟨hop, hrest, -⟩ := hsound
      exact h.moves (h.lock_eq (by rw [hposition]; rfl)) (.inl rfl)
        ⟨hop, hrest, valid_first _ _ (Finset.filter_subset ..)⟩
        (h.registered_concat fun _ _ => rfl)
  | loopEnds operation delivery rest lock hposition hlock =>
      rw [hposition] at hsound
      obtain ⟨hop, hrest, -⟩ := hsound
      exact h.moves (h.lock_unlock hlock (by rw [hposition]; rfl)) (.inl rfl)
        (Doing.event hop hrest) (h.registered_concat fun _ _ => rfl)

/-- **No deadlock**: a thread that has the lock can always go on. -/
theorem Inv.advances {s : Threads T O} (h : s.Inv) {t : T}
    (hheld : 0 < (s.position t).acquired) : (s.next (.advance t)).isSome = true := by
  have hsound := h.sound t
  rw [← h.locked] at hheld
  obtain ⟨hlock, hunlock⟩ := RecursiveMutex.isSome_lock_unlock hheld
  rw [next, advance]
  cases hposition : s.position t with
  | outside =>
      rw [h.locked, hposition] at hheld
      cases hheld
  | calling operation =>
      rw [h.locked, hposition] at hheld
      cases hheld
  | running operation rest =>
      cases rest with
      | nil => exact Option.isSome_map.trans hunlock
      | cons instruction rest =>
          cases instruction with
          | insert observer => rfl
          | erase observer => rfl
          | notify delivery => exact Option.isSome_map.trans hlock
          | assign interfaces => rfl
  | introducing operation observer index rest => rfl
  | looping operation delivery iterator rest =>
      rw [hposition] at hsound
      obtain ⟨-, -, rfl | ⟨obs, -, rfl⟩⟩ := hsound
      · exact Option.isSome_map.trans hunlock
      · rfl

theorem Inv.of_reaches {s : Threads T O} (h : Reaches (Steps next) {} s) : s.Inv := by
  refine h.invariant (fun _ _ _ ha hab => ?_) inv_empty
  obtain ⟨t, heffect⟩ := effect_of_next hab
  exact ha.effect heffect

/-! ### How far a loop is -/

/-- The loop has not called `obs` yet. -/
def Ahead (iterator : Iterator O) (obs : O) : Prop :=
  match iterator with
  | .element c                    => c ≤ obs
  | .stop | .erased _ | .undefined => False

instance decidableAhead (obs : O) : (iterator : Iterator O) → Decidable (Ahead iterator obs)
  | .element c => inferInstanceAs (Decidable (c ≤ obs))
  | .stop | .erased _ | .undefined => inferInstanceAs (Decidable False)

/-- A loop that begins has called nobody. -/
theorem ahead_first {observers : Finset O} {obs : O} (hobs : obs ∈ observers) :
    Ahead (.first observers) obs := by
  rcases Iterator.first_eq observers with ⟨rfl, -⟩ | ⟨c, -, hleast, hfirst⟩
  · exact absurd hobs (Finset.notMem_empty obs)
  · rw [hfirst]
    exact hleast obs hobs

/-- A loop that has called `c` goes on after it. -/
theorem ahead_filter {observers : Finset O} {c obs : O} (hobs : obs ∈ observers) :
    Ahead (.first (observers.filter (c < ·))) obs ↔ c < obs := by
  constructor
  · intro h
    rcases Iterator.first_eq (observers.filter (c < ·)) with ⟨-, hfirst⟩ | ⟨c', hc', -, hfirst⟩
    · rw [hfirst] at h
      exact h.elim
    · rw [hfirst] at h
      exact lt_of_lt_of_le (Finset.mem_filter.mp hc').2 h
  · intro h
    exact ahead_first (Finset.mem_filter.mpr ⟨hobs, h⟩)

end Threads

end

end NetworkInterface
