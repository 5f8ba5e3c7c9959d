import NetworkInterface.Delegate.Win32
import NetworkInterface.Helper.MacAddress
import NetworkInterface.Support.Separation

/-!
# Delegate — Wmi

The observer thread of `OsDependentDelegate_Win32`: at each poll it asks WMI for the adapters, as
long as WMI has not failed, and otherwise `refreshInterfaces_WinAPI`.  What COM hands out has to be
given back: an object is released, a string freed, an initialisation undone.  Guards do so at the
end of their scope.

`triple_observerThread`: whatever the system answers, as long as the adapters can be read
(`published` gives lists; `readings_isOk_iff` says when), the thread ends with everything given back
but the strings of `DeviceID`, which have no guard: one for each adapter that WMI lists, at each
poll.  WMI is used up to the first poll at which it fails, and each table holds what one of the two
functions found, and is keyed.
-/

namespace NetworkInterface

namespace Windows

open Support.Separation

/-! ### What the system answers -/

/-- What has to be given back. -/
inductive Resource where
  /-- `CoInitializeEx`, until `CoUninitialize`. -/
  | initialisation
  /-- A COM object, until `Release`. -/
  | object
  /-- A string, until `SysFreeString`, or `VariantClear` of the variant that has it. -/
  | string

/-- The `vt` of a `VARIANT`: `VT_BOOL`, `VT_BSTR` or something else. -/
inductive VarType where
  | bool
  | bstr
  | other
  deriving DecidableEq

/-- A `VARIANT`.  Its other members share their memory: each is what is read there. -/
structure Variant where
  vt : VarType
  boolVal : Bool
  uintVal : UInt32
  bstrVal : Wide

/-- A `MSFT_NetAdapter`: what `Get` gives for each property.  `none`: it fails. -/
structure NetAdapter where
  hidden : Option Variant
  interfaceType : Option Variant
  deviceID : Option Variant
  permanentAddress : Option Variant
  interfaceDescription : Option Variant
  name : Option Variant
  state : Option Variant
  interfaceOperationalStatus : Option Variant
  virtual : Option Variant

/-- What `Next` gives: nothing, for it fails, or an adapter. -/
inductive Next where
  | fails
  | adapter (adapter : NetAdapter)

/-- What WMI answers during a poll.  After the last of `nexts`, there are no more adapters. -/
structure WmiAnswers where
  coCreateInstance : Bool
  connectServer : Bool
  coSetProxyBlanket : Bool
  execQuery : Bool
  nexts : List Next

/-- What the system answers during a poll. -/
structure Answers where
  wmi : WmiAnswers
  adapters : Option (List Adapter)

/-! ### The first pass -/

variable (allocator : Allocator Resource) (api : Api)

/-- A guard, for the rest of its scope. -/
def withGuard {α : Type} (resource : Resource) (scope : Program Resource α) :
    Program Resource α := do
  let a ← alloc allocator resource
  let result ← scope
  free a
  return result

/-- `Get`, without a guard: the string of the variant is not given back. -/
def getUnguarded (answer : Option Variant) : Program Resource (Option Variant) :=
  match answer with
  | none         => return none
  | some variant => do
      if variant.vt = .bstr then
        let _ ← alloc allocator .string
        return some variant
      else return some variant

/-- `Get`, and what is looked at before the guard calls `VariantClear`. -/
def get {α : Type} (answer : Option Variant) (look : Variant → α) : Program Resource (Option α) :=
  match answer with
  | none         => return none
  | some variant =>
      if variant.vt = .bstr then withGuard allocator .string (return some (look variant))
      else return some (look variant)

/-- `continue`, where the value is not there. -/
def orContinue {α β : Type} (value : Program Resource (Option α))
    (rest : α → Program Resource (Option β)) : Program Resource (Option β) := do
  match ← value with
  | some a => rest a
  | none   => return none

/-- The adapter is visible. -/
def isVisible (hidden : Variant) : Bool := ¬ (hidden.vt ≠ .bool ∨ hidden.boolVal)

/-- The MAC address, from `PermanentAddress`. -/
def macAddressOf (macAddress : Variant) : Option MacAddress :=
  if macAddress.vt ≠ .bstr then none
  else
    let mac := wideCharToUTF8 api macAddress.bstrVal
    if mac.isEmpty then none else (stringToMacAddress mac '\x00').toOption

/-- An optional text. -/
def textOf (variant : Variant) : Text :=
  if variant.vt = .bstr then wideCharToUTF8 api variant.bstrVal else []

/-- `Started`. -/
def isStarted (state : Variant) : Bool := state.uintVal = 2

/-- `IfOperStatusUp`. -/
def isOperational (operationalStatus : Variant) : Bool := operationalStatus.uintVal = 1

/-- The body of the loop over the adapters.  `none`: the adapter is not saved. -/
def readAdapter (adapter : NetAdapter) : Program Resource (Option Interface) :=
  orContinue (get allocator adapter.hidden isVisible) fun visible =>
  if ¬ visible then return none else
  orContinue (get allocator adapter.interfaceType fun v => getInterfaceType v.uintVal) fun type =>
  if type = .none then return none else
  orContinue (getUnguarded allocator adapter.deviceID) fun deviceID =>
  if deviceID.vt ≠ .bstr then return none else
  orContinue (get allocator adapter.permanentAddress (macAddressOf api)) fun macAddress => do
  match macAddress with
  | none            => return none
  | some macAddress =>
      let description ← get allocator adapter.interfaceDescription (textOf api)
      let aliasName ← get allocator adapter.name (textOf api)
      let isEnabled ← get allocator adapter.state isStarted
      let isConnected ← get allocator adapter.interfaceOperationalStatus isOperational
      let isVirtual ← get allocator adapter.virtual fun v => decide (v.vt = .bool) && v.boolVal
      return some {
        id := wideCharToUTF8 api deviceID.bstrVal
        description := description.getD []
        aliasName := aliasName.getD []
        macAddress := macAddress
        type := type
        isEnabled := isEnabled.getD true
        isConnected := isConnected.getD true
        isVirtual := isVirtual.getD false }

/-- `interfaces[i.id] = i`, unless the adapter is not saved. -/
def save (interfaces : Interfaces) : Option Interface → Interfaces
  | some i => interfaces.insert i.id i
  | none   => interfaces

/-- `while (adapterEnumerator)`. -/
def enumerateAdapters : List Next → Interfaces → Program Resource Interfaces
  | [], interfaces                       => return interfaces
  | .fails :: _, interfaces              => return interfaces
  | .adapter adapter :: nexts, interfaces => do
      let i ← withGuard allocator .object (readAdapter allocator api adapter)
      enumerateAdapters nexts (save interfaces i)

/-- The first pass of `refreshInterfaces_WMI`: `wmiSucceeded`, and the interfaces. -/
def firstPass (wmi : WmiAnswers) (interfaces : Interfaces) :
    Program Resource (Bool × Interfaces) :=
  if ¬ wmi.coCreateInstance then return (false, interfaces) else
  withGuard allocator .object <| withGuard allocator .string <|
  if ¬ wmi.connectServer then return (false, interfaces) else
  withGuard allocator .object <|
  if ¬ wmi.coSetProxyBlanket then return (false, interfaces) else
  withGuard allocator .string <| withGuard allocator .string <|
  if ¬ wmi.execQuery then return (false, interfaces) else
  withGuard allocator .object do
    let interfaces ← enumerateAdapters allocator api wmi.nexts interfaces
    return (true, interfaces)

/-! ### The thread -/

/-- What does not use COM. -/
def ofOutcome {α : Type} : Outcome α → Program Resource α
  | .ok a    => return a
  | .error _ => undefined

/-- `refreshInterfaces_WMI`. -/
def refreshInterfacesWMI (answers : Answers) (interfaces : Interfaces) :
    Program Resource (Bool × Interfaces) := do
  let (wmiSucceeded, interfaces) ← firstPass allocator api answers.wmi interfaces
  if wmiSucceeded then ofOutcome (secondPass api answers.adapters interfaces)
  else return (false, interfaces)

/-- `_comGuard.reset()`. -/
def resetComGuard (comGuard : Option Nat) : Program Resource Unit :=
  match comGuard with
  | some com => free com
  | none     => return ()

/-- The first half of `refreshInterfaces`: `_comGuard`, and the interfaces, which are cleared when
WMI fails. -/
def tryWMI (comGuard : Option Nat) (answers : Answers) (interfaces : Interfaces) :
    Program Resource (Option Nat × Interfaces) := do
  if comGuard.isNone then return (none, interfaces)
  else
    let (succeeds, interfaces) ← refreshInterfacesWMI allocator api answers interfaces
    if succeeds then return (comGuard, interfaces)
    else
      resetComGuard comGuard
      return (none, ∅)

/-- `refreshInterfaces`. -/
def refreshInterfaces (comGuard : Option Nat) (answers : Answers) :
    Program Resource (Option Nat × Interfaces) := do
  let (comGuard, interfaces) ← tryWMI allocator api comGuard answers ∅
  if comGuard.isNone then
    let interfaces ← ofOutcome (refreshInterfacesWinAPI api answers.adapters interfaces)
    return (comGuard, interfaces)
  else return (comGuard, interfaces)

/-- `while (!_shouldTerminate)`: the polls, each of which passes a list to `onNewInterfacesList`. -/
def poll (comGuard : Option Nat) : List Answers → Program Resource (Option Nat × List Interfaces)
  | []               => return (comGuard, [])
  | answers :: polls => do
      let (comGuard, newList) ← refreshInterfaces allocator api comGuard answers
      let (comGuard, newLists) ← poll comGuard polls
      return (comGuard, newList :: newLists)

/-- `CoInitializeEx`, and `_comGuard.emplace()`. -/
def emplaceComGuard (initializes : Bool) : Program Resource (Option Nat) := do
  if initializes then
    let com ← alloc allocator .initialisation
    return some com
  else return none

/-- The observer thread: the lists it passes on. -/
def observerThread (initializes : Bool) (polls : List Answers) :
    Program Resource (List Interfaces) := do
  let comGuard ← emplaceComGuard allocator initializes
  let (comGuard, newLists) ← poll allocator api comGuard polls
  resetComGuard comGuard
  return newLists

/-! ### What WMI finds -/

/-- The interface an adapter is saved as. -/
def interfaceOf (adapter : NetAdapter) : Option Interface := do
  let visible ← adapter.hidden.map isVisible
  if ¬ visible then none
  else
    let type ← adapter.interfaceType.map fun v => getInterfaceType v.uintVal
    if type = .none then none
    else
      let deviceID ← adapter.deviceID
      if deviceID.vt ≠ .bstr then none
      else
        let macAddress ← adapter.permanentAddress.bind (macAddressOf api)
        return {
          id := wideCharToUTF8 api deviceID.bstrVal
          description := (adapter.interfaceDescription.map (textOf api)).getD []
          aliasName := (adapter.name.map (textOf api)).getD []
          macAddress := macAddress
          type := type
          isEnabled := (adapter.state.map isStarted).getD true
          isConnected := (adapter.interfaceOperationalStatus.map isOperational).getD true
          isVirtual :=
            (adapter.virtual.map fun v => decide (v.vt = .bool) && v.boolVal).getD false }

/-- How many strings of the adapter are lost: the one of `DeviceID`, once it is asked for. -/
def NetAdapter.lost (adapter : NetAdapter) : Nat :=
  if adapter.hidden.any isVisible ∧
      adapter.interfaceType.any (fun v => decide (getInterfaceType v.uintVal ≠ .none)) ∧
      adapter.deviceID.any (fun v => decide (v.vt = .bstr)) then 1
  else 0

/-- Strings that nobody gives back. -/
def Lost (n : Nat) : Assertion Resource :=
  sepAll (List.replicate n (any fun a => pointsTo a .string))

theorem lost_add (m n : Nat) : Lost (m + n) = sep (Lost m) (Lost n) := by
  rw [Lost, Lost, Lost, List.replicate_add, sepAll_append]

section
variable {α β : Type} {P Q F : Assertion Resource}

theorem triple_withGuard {R : α → Assertion Resource} {scope : Program Resource α}
    (h : Triple emp scope R) (resource : Resource) :
    Triple emp (withGuard allocator resource scope) R := by
  refine (triple_alloc allocator resource).bind fun a => (h.beside _).bind fun result => ?_
  refine ((triple_free a resource).frameLeft _).bind fun _ => .pure fun _ h => ?_
  rwa [sep_emp] at h

theorem triple_get (answer : Option Variant) (look : Variant → α) :
    Triple F (get allocator answer look) fun found => only (found = answer.map look) F := by
  have atEmp : Triple emp (get allocator answer look) fun found =>
      only (found = answer.map look) emp := by
    cases answer with
    | none => exact .pure fun _ h => ⟨rfl, h⟩
    | some variant =>
        rw [get]
        split
        · exact triple_withGuard allocator (.pure fun _ h => ⟨rfl, h⟩) _
        · exact .pure fun _ h => ⟨rfl, h⟩
  refine (atEmp.beside F).consequence (fun _ h => h) fun _ _ h => ?_
  rwa [only_sep, emp_sep] at h

theorem triple_getUnguarded (answer : Option Variant) :
    Triple emp (getUnguarded allocator answer) fun found => only (found = answer)
      (Lost (if answer.any fun v => decide (v.vt = .bstr) then 1 else 0)) := by
  cases answer with
  | none => exact .pure fun _ h => ⟨rfl, h⟩
  | some variant =>
      rw [getUnguarded]
      by_cases hvt : variant.vt = .bstr
      · rw [if_pos hvt]
        refine (triple_alloc allocator _).bind fun a => .pure fun _ h => ⟨rfl, ?_⟩
        simp only [Option.any_some, hvt, decide_true, if_true]
        change sep _ emp _
        rw [sep_emp]
        exact ⟨a, h⟩
      · rw [if_neg hvt]
        refine .pure fun _ h => ⟨rfl, ?_⟩
        simp only [Option.any_some, hvt, decide_false, Bool.false_eq_true, if_false]
        exact h

theorem triple_orContinue {value : Program Resource (Option α)}
    {rest : α → Program Resource (Option β)} {v : Option α}
    {R : Option β → Assertion Resource}
    (hvalue : Triple P value fun found => only (found = v) Q)
    (hsome : ∀ a, v = some a → Triple Q (rest a) R)
    (hnone : v = none → ∀ heap, Q heap → R none heap) : Triple P (orContinue value rest) R := by
  refine hvalue.bind fun found => .only fun hfound => ?_
  subst hfound
  cases found with
  | none => exact .pure (hnone rfl)
  | some a => exact hsome a rfl

end

/-- An adapter that is passed over before `DeviceID` is asked for. -/
theorem passed {adapter : NetAdapter} {heap : Heap Resource} (h : emp heap)
    (hinterface : interfaceOf api adapter = none)
    (hlost : ¬ (adapter.hidden.any isVisible ∧
      adapter.interfaceType.any (fun v => decide (getInterfaceType v.uintVal ≠ .none)) ∧
      adapter.deviceID.any (fun v => decide (v.vt = .bstr)))) :
    only (none = interfaceOf api adapter) (Lost adapter.lost) heap := by
  have hzero : adapter.lost = 0 := if_neg hlost
  rw [hzero]
  exact ⟨hinterface.symm, h⟩

theorem triple_readAdapter (adapter : NetAdapter) :
    Triple emp (readAdapter allocator api adapter) fun i =>
      only (i = interfaceOf api adapter) (Lost adapter.lost) := by
  obtain ⟨hidden, interfaceType, deviceID, permanentAddress, interfaceDescription, name, state,
    interfaceOperationalStatus, virtual⟩ := adapter
  rw [readAdapter]
  refine triple_orContinue (triple_get allocator _ _) (fun visible hhidden => ?_)
    fun hhidden _ h => ?_
  swap
  · have hnone : hidden = none := Option.map_eq_none_iff.mp hhidden
    subst hnone
    exact passed api h rfl (by simp)
  obtain ⟨hidden, rfl, rfl⟩ := Option.map_eq_some_iff.mp hhidden
  split
  · rename_i hinvisible
    exact .pure fun _ h => passed api h (by simp [interfaceOf, hinvisible]) (by simp [hinvisible])
  rename_i hvisible
  rw [not_not] at hvisible
  refine triple_orContinue (triple_get allocator _ _) (fun type htype => ?_) fun htype _ h => ?_
  swap
  · have hnone : interfaceType = none := Option.map_eq_none_iff.mp htype
    subst hnone
    exact passed api h (by simp [interfaceOf]) (by simp)
  obtain ⟨interfaceType, rfl, rfl⟩ := Option.map_eq_some_iff.mp htype
  split
  · rename_i hunsupported
    exact .pure fun _ h => passed api h (by simp [interfaceOf, hunsupported])
      (by simp [hunsupported])
  rename_i hsupported
  refine triple_orContinue (triple_getUnguarded allocator _) (fun deviceID hdeviceID => ?_)
    fun hdeviceID _ h => ?_
  swap
  · subst hdeviceID
    exact passed api h (by simp [interfaceOf]) (by simp)
  subst hdeviceID
  by_cases hvt : deviceID.vt = .bstr
  swap
  · rw [if_pos hvt]
    refine .pure fun heap h => ?_
    rw [if_neg (by simpa using hvt)] at h
    exact passed api h (by simp [interfaceOf, hvt]) (by simp [hvt])
  -- From here on the string is lost, whatever comes of the adapter.
  have hlost : NetAdapter.lost ⟨some hidden, some interfaceType, some deviceID, permanentAddress,
      interfaceDescription, name, state, interfaceOperationalStatus, virtual⟩ = 1 :=
    if_pos ⟨hvisible, decide_eq_true hsupported, decide_eq_true hvt⟩
  rw [hlost, if_pos (by simpa using hvt), if_neg (not_not_intro hvt)]
  refine triple_orContinue (triple_get allocator _ _) (fun macAddress hmacAddress => ?_)
    fun hmacAddress _ h => ⟨?_, h⟩
  swap
  · have hnone : permanentAddress = none := Option.map_eq_none_iff.mp hmacAddress
    simp [interfaceOf, hnone]
  obtain ⟨permanentAddress, rfl, rfl⟩ := Option.map_eq_some_iff.mp hmacAddress
  split
  · rename_i hnone
    exact .pure fun _ h => ⟨by simp [interfaceOf, hnone], h⟩
  rename_i macAddress hmac
  refine (triple_get allocator _ _).bind fun description => .only fun hdescription => ?_
  refine (triple_get allocator _ _).bind fun aliasName => .only fun haliasName => ?_
  refine (triple_get allocator _ _).bind fun isEnabled => .only fun hisEnabled => ?_
  refine (triple_get allocator _ _).bind fun isConnected => .only fun hisConnected => ?_
  refine (triple_get allocator _ _).bind fun isVirtual => .only fun hisVirtual => ?_
  subst hdescription haliasName hisEnabled hisConnected hisVirtual
  refine .pure fun _ h => ⟨?_, h⟩
  simp [interfaceOf, hvisible, hsupported, hvt, hmac]

/-! ### A poll -/

/-- The adapters `Next` gives. -/
def netAdapters : List Next → List NetAdapter
  | .adapter adapter :: nexts => adapter :: netAdapters nexts
  | _                         => []

/-- WMI gets as far as the query. -/
def WmiAnswers.queried (wmi : WmiAnswers) : Bool :=
  wmi.coCreateInstance && wmi.connectServer && wmi.coSetProxyBlanket && wmi.execQuery

/-- The adapters that are looked at. -/
def WmiAnswers.adapters (wmi : WmiAnswers) : List NetAdapter :=
  if wmi.queried then netAdapters wmi.nexts else []

/-- What is saved of them. -/
def saveAll (adapters : List NetAdapter) (interfaces : Interfaces) : Interfaces :=
  adapters.foldl (fun interfaces adapter => save interfaces (interfaceOf api adapter)) interfaces

/-- The strings that are lost. -/
def WmiAnswers.lost (wmi : WmiAnswers) : Nat := (wmi.adapters.map NetAdapter.lost).sum

/-- WMI does not fail. -/
def Answers.works (answers : Answers) : Bool := answers.wmi.queried && answers.adapters.isSome

/-- The list WMI makes, when it works. -/
def wmiList (answers : Answers) : Outcome Interfaces :=
  (answers.adapters.getD []).foldlM (configureAdapter api) (saveAll api answers.wmi.adapters ∅)

/-- The list made without WMI. -/
def winAPIList (answers : Answers) : Outcome Interfaces :=
  refreshInterfacesWinAPI api answers.adapters ∅

theorem triple_enumerateAdapters (nexts : List Next) (interfaces : Interfaces) :
    Triple emp (enumerateAdapters allocator api nexts interfaces) fun found =>
      only (found = saveAll api (netAdapters nexts) interfaces)
        (Lost ((netAdapters nexts).map NetAdapter.lost).sum) := by
  induction nexts generalizing interfaces with
  | nil => exact .pure fun _ h => ⟨rfl, h⟩
  | cons next nexts ih =>
      cases next with
      | fails => exact .pure fun _ h => ⟨rfl, h⟩
      | adapter adapter =>
          refine (triple_withGuard allocator (triple_readAdapter allocator api adapter) _).bind
            fun i => .only fun hi => ?_
          subst hi
          refine ((ih (save interfaces (interfaceOf api adapter))).beside _).consequence
            (fun _ h => h) fun found _ h => ?_
          rw [only_sep, sep_comm, ← lost_add] at h
          exact h

theorem triple_firstPass (wmi : WmiAnswers) (interfaces : Interfaces) :
    Triple emp (firstPass allocator api wmi interfaces) fun found =>
      only (found = (wmi.queried, saveAll api wmi.adapters interfaces)) (Lost wmi.lost) := by
  have fails {heap : Heap Resource} (h : emp heap) (hqueried : wmi.queried = false) :
      only ((false, interfaces) = (wmi.queried, saveAll api wmi.adapters interfaces))
        (Lost wmi.lost) heap := by
    rw [WmiAnswers.lost, WmiAnswers.adapters, hqueried]
    exact ⟨rfl, h⟩
  rw [firstPass]
  split
  · rename_i hcreates
    exact .pure fun _ h => fails h (by simp [WmiAnswers.queried, hcreates])
  rename_i hcreates
  refine triple_withGuard allocator (triple_withGuard allocator ?_ _) _
  split
  · rename_i hconnects
    exact .pure fun _ h => fails h (by simp [WmiAnswers.queried, hconnects])
  rename_i hconnects
  refine triple_withGuard allocator ?_ _
  split
  · rename_i hblanket
    exact .pure fun _ h => fails h (by simp [WmiAnswers.queried, hblanket])
  rename_i hblanket
  refine triple_withGuard allocator (triple_withGuard allocator ?_ _) _
  split
  · rename_i hqueries
    exact .pure fun _ h => fails h (by simp [WmiAnswers.queried, hqueries])
  rename_i hqueries
  have hqueried : wmi.queried = true := by
    simp only [not_not] at hcreates hconnects hblanket hqueries
    simp [WmiAnswers.queried, hcreates, hconnects, hblanket, hqueries]
  refine triple_withGuard allocator ?_ _
  refine (triple_enumerateAdapters allocator api wmi.nexts interfaces).bind fun found =>
    .only fun hfound => .pure fun _ h => ?_
  rw [WmiAnswers.lost, WmiAnswers.adapters, hqueried, hfound]
  exact ⟨rfl, h⟩

/-- `refreshInterfaces_WMI`, when WMI works. -/
theorem triple_refreshInterfacesWMI {answers : Answers} (hworks : answers.works = true)
    {newList : Interfaces} (hlist : wmiList api answers = .ok newList) :
    Triple emp (refreshInterfacesWMI allocator api answers ∅) fun result =>
      only (result = (true, newList)) (Lost answers.wmi.lost) := by
  obtain ⟨hqueried, hadapters⟩ := Bool.and_eq_true_iff.mp hworks
  obtain ⟨adapters, hadapters⟩ := Option.isSome_iff_exists.mp hadapters
  refine (triple_firstPass allocator api answers.wmi ∅).bind fun found => .only fun hfound => ?_
  subst hfound
  have hpass : secondPass api answers.adapters (saveAll api answers.wmi.adapters ∅) =
      .ok (true, newList) := by
    rw [wmiList, hadapters] at hlist
    rw [hadapters]
    exact Outcome.bind_eq_ok.mpr ⟨newList, hlist, rfl⟩
  simp only [hqueried, if_true, hpass]
  exact .pure fun _ h => ⟨rfl, h⟩

/-- When it does not. -/
theorem triple_refreshInterfacesWMI_fails {answers : Answers} (hworks : answers.works = false) :
    Triple emp (refreshInterfacesWMI allocator api answers ∅) fun result =>
      only (result.1 = false) (Lost answers.wmi.lost) := by
  refine (triple_firstPass allocator api answers.wmi ∅).bind fun found => .only fun hfound => ?_
  subst hfound
  cases hqueried : answers.wmi.queried with
  | false => exact .pure fun _ h => ⟨rfl, h⟩
  | true =>
      have hadapters : answers.adapters = none := by
        rw [Answers.works, hqueried, Bool.true_and] at hworks
        exact Option.not_isSome_iff_eq_none.mp (by simp [hworks])
      simp only [if_true, hadapters]
      exact .pure fun _ h => ⟨rfl, h⟩

/-! ### The thread -/

/-- `_comGuard`. -/
def ComGuard : Option Nat → Assertion Resource
  | some com => pointsTo com .initialisation
  | none     => emp

theorem triple_resetComGuard (comGuard : Option Nat) :
    Triple (ComGuard comGuard) (resetComGuard comGuard) fun _ => emp := by
  cases comGuard with
  | none => exact .pure fun _ h => h
  | some com => exact triple_free com _

/-- The polls that use WMI: those before the first one at which it fails. -/
def withWMI (initialized : Bool) (polls : List Answers) : List Answers :=
  if initialized then polls.takeWhile Answers.works else []

/-- The lists that are passed on. -/
def published (initialized : Bool) (polls : List Answers) : Outcome (List Interfaces) := do
  let found ← (withWMI initialized polls).mapM (wmiList api)
  let listed ← (polls.drop (withWMI initialized polls).length).mapM (winAPIList api)
  return found ++ listed

/-- The strings that are lost, at these polls and at the one at which WMI fails. -/
def lostStrings (initialized : Bool) (polls : List Answers) : Nat :=
  if initialized then
    ((polls.take ((withWMI initialized polls).length + 1)).map fun answers => answers.wmi.lost).sum
  else 0

section
variable {api : Api} {answers : Answers} {polls : List Answers} {newLists : List Interfaces}

theorem published_without (polls : List Answers) :
    published api false polls = polls.mapM (winAPIList api) := by
  change (do let listed ← polls.mapM (winAPIList api); return [] ++ listed) = _
  simp

theorem published_works (hworks : answers.works = true)
    (h : published api true (answers :: polls) = .ok newLists) :
    ∃ newList rest, wmiList api answers = .ok newList ∧ published api true polls = .ok rest ∧
      newLists = newList :: rest := by
  have hwith : withWMI true (answers :: polls) = answers :: withWMI true polls := by
    simp [withWMI, hworks]
  rw [published, hwith, List.mapM_cons, List.length_cons, List.drop_succ_cons] at h
  obtain ⟨found, hfound, h⟩ := Outcome.bind_eq_ok.mp h
  obtain ⟨newList, hnewList, hfound⟩ := Outcome.bind_eq_ok.mp hfound
  obtain ⟨more, hmore, hfound⟩ := Outcome.bind_eq_ok.mp hfound
  obtain rfl := Except.ok.inj hfound
  obtain ⟨listed, hlisted, h⟩ := Outcome.bind_eq_ok.mp h
  obtain rfl := Except.ok.inj h
  refine ⟨newList, more ++ listed, hnewList, ?_, rfl⟩
  exact Outcome.bind_eq_ok.mpr ⟨more, hmore, Outcome.bind_eq_ok.mpr ⟨listed, hlisted, rfl⟩⟩

theorem published_fails {initialized : Bool} (hfails : (initialized && answers.works) = false)
    (h : published api initialized (answers :: polls) = .ok newLists) :
    ∃ newList rest, winAPIList api answers = .ok newList ∧ published api false polls = .ok rest ∧
      newLists = newList :: rest := by
  have hwith : withWMI initialized (answers :: polls) = [] := by
    cases initialized with
    | false => rfl
    | true => simp [withWMI, (Bool.true_and _).symm.trans hfails]
  rw [published, hwith] at h
  obtain ⟨found, hfound, h⟩ := Outcome.bind_eq_ok.mp h
  obtain rfl := Except.ok.inj hfound
  obtain ⟨listed, hlisted, h⟩ := Outcome.bind_eq_ok.mp h
  obtain rfl := Except.ok.inj h
  change (answers :: polls).mapM (winAPIList api) = .ok listed at hlisted
  rw [List.mapM_cons] at hlisted
  obtain ⟨newList, hnewList, hlisted⟩ := Outcome.bind_eq_ok.mp hlisted
  obtain ⟨rest, hrest, hlisted⟩ := Outcome.bind_eq_ok.mp hlisted
  obtain rfl := Except.ok.inj hlisted
  exact ⟨newList, rest, hnewList, (published_without polls).trans hrest, rfl⟩

theorem lostStrings_works (hworks : answers.works = true) :
    lostStrings true (answers :: polls) = answers.wmi.lost + lostStrings true polls := by
  simp [lostStrings, withWMI, hworks]

theorem lostStrings_fails (hfails : answers.works = false) :
    lostStrings true (answers :: polls) = answers.wmi.lost := by
  simp [lostStrings, withWMI, hfails]

end

theorem triple_winAPI {answers : Answers} {newList : Interfaces}
    (hlist : winAPIList api answers = .ok newList) {F : Assertion Resource} :
    Triple F (ofOutcome (refreshInterfacesWinAPI api answers.adapters ∅)) fun found =>
      only (found = newList) F := by
  rw [winAPIList] at hlist
  rw [hlist]
  exact .pure fun _ h => ⟨rfl, h⟩

/-- **A poll** with WMI, which works. -/
theorem triple_refreshInterfaces_works {com : Nat} {answers : Answers}
    (hworks : answers.works = true) {newList : Interfaces}
    (hlist : wmiList api answers = .ok newList) :
    Triple (ComGuard (some com)) (refreshInterfaces allocator api (some com) answers)
      fun result => only (result = (some com, newList))
        (sep (Lost answers.wmi.lost) (ComGuard (some com))) := by
  have htry : Triple (ComGuard (some com)) (tryWMI allocator api (some com) answers ∅)
      fun result => only (result = (some com, newList))
        (sep (Lost answers.wmi.lost) (ComGuard (some com))) := by
    refine ((triple_refreshInterfacesWMI allocator api hworks hlist).beside _).bind fun result => ?_
    rw [only_sep]
    refine .only fun hresult => ?_
    subst hresult
    exact .pure fun _ h => ⟨rfl, h⟩
  refine htry.bind fun result => .only fun hresult => ?_
  subst hresult
  exact .pure fun _ h => ⟨rfl, h⟩

/-- **A poll** at which WMI fails. -/
theorem triple_refreshInterfaces_fails {com : Nat} {answers : Answers}
    (hfails : answers.works = false) {newList : Interfaces}
    (hlist : winAPIList api answers = .ok newList) :
    Triple (ComGuard (some com)) (refreshInterfaces allocator api (some com) answers)
      fun result => only (result = (none, newList)) (Lost answers.wmi.lost) := by
  have htry : Triple (ComGuard (some com)) (tryWMI allocator api (some com) answers ∅)
      fun result => only (result = (none, ∅)) (Lost answers.wmi.lost) := by
    refine ((triple_refreshInterfacesWMI_fails allocator api hfails).beside _).bind fun result => ?_
    rw [only_sep]
    refine .only fun hresult => ?_
    obtain ⟨succeeds, interfaces⟩ := result
    subst hresult
    refine ((triple_resetComGuard (some com)).frameLeft _).bind fun _ => .pure fun _ h => ⟨rfl, ?_⟩
    rwa [sep_emp] at h
  refine htry.bind fun result => .only fun hresult => ?_
  subst hresult
  refine (triple_winAPI api hlist).bind fun found => .only fun hfound => ?_
  subst hfound
  exact .pure fun _ h => ⟨rfl, h⟩

/-- A poll without WMI. -/
theorem triple_refreshInterfaces_without {answers : Answers} {newList : Interfaces}
    (hlist : winAPIList api answers = .ok newList) :
    Triple emp (refreshInterfaces allocator api none answers)
      fun result => only (result = (none, newList)) emp := by
  have htry : Triple emp (tryWMI allocator api none answers ∅)
      fun result => only (result = (none, ∅)) emp := .pure fun _ h => ⟨rfl, h⟩
  refine htry.bind fun result => .only fun hresult => ?_
  subst hresult
  refine (triple_winAPI api hlist).bind fun found => .only fun hfound => ?_
  subst hfound
  exact .pure fun _ h => ⟨rfl, h⟩

/-- The polls. -/
theorem triple_poll (comGuard : Option Nat) (polls : List Answers) {newLists : List Interfaces}
    (h : published api comGuard.isSome polls = .ok newLists) :
    Triple (ComGuard comGuard) (poll allocator api comGuard polls) fun result =>
      only (result.2 = newLists)
        (sep (ComGuard result.1) (Lost (lostStrings comGuard.isSome polls))) := by
  induction polls generalizing comGuard newLists with
  | nil =>
      have hnone : newLists = [] ∧ lostStrings comGuard.isSome [] = 0 := by
        cases comGuard with
        | none => exact ⟨(Except.ok.inj h).symm, rfl⟩
        | some com => exact ⟨(Except.ok.inj h).symm, rfl⟩
      rw [hnone.1, hnone.2]
      refine .pure fun _ h => ⟨rfl, ?_⟩
      change sep _ emp _
      rwa [sep_emp]
  | cons answers polls ih =>
      -- What is left to do after this poll, from the guard it leaves.
      have after (comGuard' : Option Nat) (newList : Interfaces) {rest : List Interfaces}
          (hrest : published api comGuard'.isSome polls = .ok rest) (n : Nat) :
          Triple (sep (Lost n) (ComGuard comGuard')) (do
            let (comGuard, newLists) ← poll allocator api comGuard' polls
            return (comGuard, newList :: newLists)) fun result =>
            only (result.2 = newList :: rest)
              (sep (ComGuard result.1) (Lost (n + lostStrings comGuard'.isSome polls))) := by
        refine ((ih comGuard' hrest).frameLeft (Lost n)).bind fun result => ?_
        rw [sep_comm, only_sep]
        refine .only fun hresult => .pure fun _ h => ⟨by rw [hresult], ?_⟩
        rw [sep_comm, sep_left_comm, ← lost_add] at h
        exact h
      cases comGuard with
      | none =>
          obtain ⟨newList, rest, hlist, hrest, rfl⟩ := published_fails rfl h
          refine (triple_refreshInterfaces_without allocator api hlist).bind fun result =>
            .only fun hresult => ?_
          subst hresult
          have more := after none newList hrest 0
          change Triple (sep emp emp) _ _ at more
          rw [sep_emp] at more
          exact more
      | some com =>
          cases hworks : answers.works with
          | true =>
              obtain ⟨newList, rest, hlist, hrest, rfl⟩ := published_works hworks h
              refine (triple_refreshInterfaces_works allocator api hworks hlist).bind fun result =>
                .only fun hresult => ?_
              subst hresult
              rw [Option.isSome_some, lostStrings_works hworks]
              exact after (some com) newList hrest _
          | false =>
              obtain ⟨newList, rest, hlist, hrest, rfl⟩ := published_fails (by rw [hworks]; rfl) h
              refine (triple_refreshInterfaces_fails allocator api hworks hlist).bind fun result =>
                .only fun hresult => ?_
              subst hresult
              rw [Option.isSome_some, lostStrings_fails hworks]
              have more := after none newList hrest answers.wmi.lost
              change Triple (sep (Lost _) emp) _ _ at more
              rw [sep_emp] at more
              exact more

theorem triple_emplaceComGuard (initializes : Bool) :
    Triple emp (emplaceComGuard allocator initializes) fun comGuard =>
      only (comGuard.isSome = initializes) (ComGuard comGuard) := by
  cases initializes with
  | false => exact .pure fun _ h => ⟨rfl, h⟩
  | true => exact (triple_alloc allocator _).bind fun a => .pure fun _ h => ⟨rfl, h⟩

/-! ### The lists -/

section
variable {api : Api}

theorem keyed_saveAll (adapters : List NetAdapter) {interfaces : Interfaces}
    (h : Keyed interfaces) : Keyed (saveAll api adapters interfaces) := by
  induction adapters generalizing interfaces with
  | nil => exact h
  | cons adapter adapters ih =>
      have hsave : Keyed (save interfaces (interfaceOf api adapter)) := by
        cases interfaceOf api adapter with
        | none => exact h
        | some i => exact h.insert rfl
      exact ih hsave

theorem blank_interfaceOf {adapter : NetAdapter} {i : Interface}
    (h : interfaceOf api adapter = some i) : i.ipAddressInfos = [] ∧ i.gateways = [] := by
  obtain ⟨visible, -, h⟩ := Option.bind_eq_some_iff.mp h
  split at h
  · cases h
  obtain ⟨type, -, h⟩ := Option.bind_eq_some_iff.mp h
  split at h
  · cases h
  obtain ⟨deviceID, -, h⟩ := Option.bind_eq_some_iff.mp h
  split at h
  · cases h
  obtain ⟨macAddress, -, h⟩ := Option.bind_eq_some_iff.mp h
  obtain rfl := Option.some.inj h
  exact ⟨rfl, rfl⟩

theorem blank_saveAll (adapters : List NetAdapter) {interfaces : Interfaces}
    (h : Blank interfaces) : Blank (saveAll api adapters interfaces) := by
  induction adapters generalizing interfaces with
  | nil => exact h
  | cons adapter adapters ih =>
      have hsave : Blank (save interfaces (interfaceOf api adapter)) := by
        cases hinterface : interfaceOf api adapter with
        | none => exact h
        | some i =>
            intro name found hfound
            rw [save] at hfound
            by_cases hname : name = i.id
            · subst hname
              rw [AList.lookup_insert] at hfound
              exact Option.some.inj hfound ▸ blank_interfaceOf hinterface
            · rw [AList.lookup_insert_ne hname] at hfound
              exact h name found hfound
      exact ih hsave

/-- **The two functions agree**: an interface that both of them list has the same addresses and
gateways, in the same order. -/
theorem sameAddresses_lists {answers : Answers} {adapters : List Adapter}
    (hadapters : answers.adapters = some adapters)
    (hdistinct : (adapters.map Adapter.adapterName).Nodup) {found listed : Interfaces}
    (hfound : wmiList api answers = .ok found) (hlisted : winAPIList api answers = .ok listed)
    {name : Text} {i j : Interface} (hi : found.lookup name = some i)
    (hj : listed.lookup name = some j) : SameAddresses i j := by
  rw [wmiList, hadapters] at hfound
  rw [winAPIList, hadapters] at hlisted
  have hempty : Blank ∅ := fun _ _ hc => by cases hc
  exact sameAddresses (blank_saveAll _ hempty) hdistinct
    (Outcome.bind_eq_ok.mpr ⟨found, hfound, rfl⟩) hlisted hi hj

theorem keyed_empty : Keyed ∅ := fun _ _ hfound => by cases hfound

theorem keyed_of_mem_published {initialized : Bool} {polls : List Answers}
    {newLists : List Interfaces} (h : published api initialized polls = .ok newLists) :
    ∀ newList ∈ newLists, Keyed newList := by
  have keyed_mapM {list : Answers → Outcome Interfaces}
      (hlist : ∀ answers newList, list answers = .ok newList → Keyed newList)
      (polls : List Answers) : ∀ newLists, polls.mapM list = .ok newLists →
        ∀ newList ∈ newLists, Keyed newList := by
    induction polls with
    | nil =>
        intro newLists h
        obtain rfl := Except.ok.inj h
        exact fun _ hmem => absurd hmem List.not_mem_nil
    | cons answers polls ih =>
        intro newLists h
        rw [List.mapM_cons] at h
        obtain ⟨newList, hnewList, h⟩ := Outcome.bind_eq_ok.mp h
        obtain ⟨rest, hrest, h⟩ := Outcome.bind_eq_ok.mp h
        obtain rfl := Except.ok.inj h
        exact List.forall_mem_cons.mpr ⟨hlist _ _ hnewList, ih rest hrest⟩
  obtain ⟨found, hfound, h⟩ := Outcome.bind_eq_ok.mp h
  obtain ⟨listed, hlisted, h⟩ := Outcome.bind_eq_ok.mp h
  obtain rfl := Except.ok.inj h
  refine List.forall_mem_append.mpr ⟨?_, ?_⟩
  · exact keyed_mapM (fun answers newList hlist =>
      keyed_foldlM (fun _ _ _ => keyed_configureAdapter) (keyed_saveAll _ keyed_empty) hlist)
      _ found hfound
  · exact keyed_mapM (fun answers newList hlist =>
      keyed_refreshInterfacesWinAPI keyed_empty hlist) _ listed hlisted

end

/-- **The observer thread** gives back everything but the strings of `DeviceID`.  It uses WMI up to
the first poll at which that fails, and passes on keyed lists. -/
theorem triple_observerThread (initializes : Bool) (polls : List Answers)
    {newLists : List Interfaces} (h : published api initializes polls = .ok newLists) :
    Triple emp (observerThread allocator api initializes polls) fun result =>
      only (result = newLists ∧ ∀ newList ∈ result, Keyed newList)
        (Lost (lostStrings initializes polls)) := by
  refine (triple_emplaceComGuard allocator initializes).bind fun comGuard => .only fun hguard => ?_
  subst hguard
  refine (triple_poll allocator api comGuard polls h).bind fun result => .only fun hresult => ?_
  obtain ⟨comGuard', result⟩ := result
  obtain rfl := hresult
  refine ((triple_resetComGuard comGuard').frame _).bind fun _ => ?_
  rw [emp_sep]
  exact .pure fun _ hlost => ⟨⟨rfl, keyed_of_mem_published h⟩, hlost⟩

/-- A variant with a text. -/
def textVariant (text : String) : Variant where
  vt := .bstr
  boolVal := true
  uintVal := 0
  bstrVal := text.toList.map fun c => UInt16.ofNat c.toNat

/-- WMI finds one adapter. -/
def lanAnswers : Answers where
  wmi := {
    coCreateInstance := true
    connectServer := true
    coSetProxyBlanket := true
    execQuery := true
    nexts := [.adapter {
      hidden := some ⟨.bool, false, 0, []⟩
      interfaceType := some ⟨.other, true, IF_TYPE_ETHERNET_CSMACD, []⟩
      deviceID := some (textVariant "lan")
      permanentAddress := some (textVariant "000102030405")
      interfaceDescription := none
      name := none
      state := none
      interfaceOperationalStatus := none
      virtual := none }] }
  adapters := some [lanAdapter []]

theorem sameAddresses_lists_lan : ∃ found listed i j,
    wmiList asciiApi lanAnswers = .ok found ∧ winAPIList asciiApi lanAnswers = .ok listed ∧
      found.lookup "lan".toList = some i ∧ listed.lookup "lan".toList = some j ∧
      SameAddresses i j := by
  obtain ⟨found, listed, i, j, hfound, hlisted, hi, hj⟩ : ∃ found listed i j,
      wmiList asciiApi lanAnswers = .ok found ∧ winAPIList asciiApi lanAnswers = .ok listed ∧
        found.lookup "lan".toList = some i ∧ listed.lookup "lan".toList = some j :=
    ⟨_, _, _, _, rfl, rfl, rfl, rfl⟩
  exact ⟨found, listed, i, j, hfound, hlisted, hi, hj,
    sameAddresses_lists rfl (by simp) hfound hlisted hi hj⟩

/-- WMI works once, then it fails, and is left alone though it would work again. -/
theorem triple_observerThread_lan : ∃ newLists,
    published asciiApi true
        [lanAnswers, { lanAnswers with adapters := none }, lanAnswers] = .ok newLists ∧
      lostStrings true [lanAnswers, { lanAnswers with adapters := none }, lanAnswers] = 2 ∧
      Triple emp (observerThread .lowest asciiApi true
          [lanAnswers, { lanAnswers with adapters := none }, lanAnswers]) fun result =>
        only (result = newLists ∧ ∀ newList ∈ result, Keyed newList)
          (Lost (lostStrings true
            [lanAnswers, { lanAnswers with adapters := none }, lanAnswers])) := by
  obtain ⟨newLists, h⟩ : ∃ newLists, published asciiApi true
      [lanAnswers, { lanAnswers with adapters := none }, lanAnswers] = .ok newLists := ⟨_, rfl⟩
  exact ⟨newLists, h, rfl, triple_observerThread .lowest asciiApi true _ h⟩

end Windows

end NetworkInterface
