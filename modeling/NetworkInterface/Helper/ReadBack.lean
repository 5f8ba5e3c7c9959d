import NetworkInterface.Helper.Body

/-!
# Helper — Read back

What an observer reads when it asks the helper, from inside a callback, for the interface it is told
about.  The lock is recursive, so `getInterfaceByName` sees the table as it stands at the callback.

An event about one interface has put the new value there before it tells the observers.
`onNewInterfacesList` replaces the table after its last callback, so it reads back only when it
announces nothing (`readsBack_iff`).
-/

namespace NetworkInterface

open Support

variable {O : Type*} [DecidableEq O]

/-! ### Callbacks -/

/-- The notifications of the instructions, each with the helper as it stands then. -/
def notifications : Helper O → List (Instruction O) → List (Delivery × Helper O)
  | _, []                                       => []
  | helper, .notify delivery :: instructions    =>
      (delivery, helper) :: notifications (helper.notifyObserversMethod delivery) instructions
  | helper, instruction :: instructions         =>
      notifications (instruction.run helper) instructions

/-- The operation calls `observer` with the delivery, while the helper stands as `current`. -/
def Calls (helper : Helper O) (operation : Operation O) (observer : O) (delivery : Delivery)
    (current : Helper O) : Prop :=
  (delivery, current) ∈ notifications helper (operation.body helper) ∧ observer ∈ current.observers

/-- The notification gives an interface as it is now: it is not `onInterfaceRemoved`. -/
def Notification.Announces : Notification → Prop
  | .onInterfaceRemoved _                          => False
  | .onInterfaceAdded _ | .onInterfaceChanged _ _ => True

/-- Whatever interface a callback of the operation announces, `getInterfaceByName` called from
inside it returns an equal one. -/
def ReadsBack (helper : Helper O) (operation : Operation O) : Prop :=
  ∀ observer delivery current, Calls helper operation observer delivery current →
    delivery.notification.Announces →
    ∃ intfc, current.getInterfaceByName delivery.notification.intfc.id = .ok intfc ∧
      (intfc == delivery.notification.intfc) = true

/-- The operation is not a bulk update that adds an interface, or changes one of the five properties
of one. -/
def Operation.AddsNothing (networkInterfaces : Interfaces) : Operation O → Prop
  | .onNewInterfacesList interfaces => ∀ name intfc, interfaces.lookup name = some intfc →
      ∃ previousIntfc, networkInterfaces.lookup name = some previousIntfc ∧
        SameProperties previousIntfc intfc
  | _                               => True

/-! ### The two orders -/

theorem beq_self_interface (intfc : Interface) : (intfc == intfc) = true := by
  change intfc.equals intfc = true
  simp [Interface.equals]

theorem sameProperties_of_beq {lhs rhs : Interface} (h : (lhs == rhs) = true) :
    SameProperties lhs rhs := by
  change lhs.equals rhs = true at h
  simp only [Interface.equals, Bool.and_eq_true, beq_iff_eq] at h
  exact ⟨h.1.1.2, h.1.2, h.1.1.1.1.1.1.1.2, h.1.1.1.1.1.2, h.1.1.1.1.2⟩

omit [DecidableEq O] in
/-- `getInterfaceByName` of what is stored. -/
theorem getInterfaceByName_eq_ok {helper : Helper O} {name : Text} {intfc : Interface} :
    helper.getInterfaceByName name = .ok intfc ↔
      helper.networkInterfaces.lookup name = some intfc := by
  rw [Helper.getInterfaceByName]
  cases helper.networkInterfaces.lookup name with
  | none => exact ⟨nofun, nofun⟩
  | some found =>
      exact ⟨fun h => congrArg some (Except.ok.inj h),
        fun h => congrArg Except.ok (Option.some.inj h)⟩

/-- A loop of notifications leaves the table as it is. -/
theorem mem_notifications {deliveries : List Delivery} {interfaces : Interfaces}
    {helper current : Helper O} {delivery : Delivery}
    (h : (delivery, current) ∈
      notifications helper (deliveries.map .notify ++ [.assign interfaces])) :
    delivery ∈ deliveries ∧ current.networkInterfaces = helper.networkInterfaces ∧
      current.observers = helper.observers := by
  induction deliveries generalizing helper with
  | nil => cases h
  | cons first deliveries ih =>
      rcases List.mem_cons.mp h with heq | hrest
      · obtain ⟨rfl, rfl⟩ := Prod.mk.inj heq
        exact ⟨List.mem_cons_self, rfl, rfl⟩
      · obtain ⟨hmem, htable, hobservers⟩ := ih hrest
        exact ⟨List.mem_cons_of_mem _ hmem, htable, hobservers⟩

/-- Each of them is made, over that table. -/
theorem exists_notifications {deliveries : List Delivery} {delivery : Delivery}
    (h : delivery ∈ deliveries) (interfaces : Interfaces) (helper : Helper O) :
    ∃ current, (delivery, current) ∈
        notifications helper (deliveries.map .notify ++ [.assign interfaces]) ∧
      current.networkInterfaces = helper.networkInterfaces ∧
      current.observers = helper.observers := by
  induction deliveries generalizing helper with
  | nil => cases h
  | cons first deliveries ih =>
      rcases List.mem_cons.mp h with rfl | hrest
      · exact ⟨helper, List.mem_cons_self, rfl, rfl⟩
      · obtain ⟨current, hmem, htable, hobservers⟩ := ih hrest (helper.notifyObserversMethod first)
        exact ⟨current, List.mem_cons_of_mem _ hmem, htable, hobservers⟩

/-- The value is stored before it is announced. -/
theorem readsBack_of_assign {helper current : Helper O} {name : Text} {delivery : Delivery}
    {notification : Notification} (hid : notification.intfc.id = name)
    (h : (delivery, current) ∈ notifications helper
      [.assign (helper.networkInterfaces.insert name notification.intfc),
        .notify ⟨name, notification⟩]) :
    ∃ found, current.getInterfaceByName delivery.notification.intfc.id = .ok found ∧
      (found == delivery.notification.intfc) = true := by
  obtain ⟨rfl, rfl⟩ := Prod.mk.inj (List.mem_singleton.mp h)
  refine ⟨notification.intfc, getInterfaceByName_eq_ok.mpr ?_, beq_self_interface _⟩
  dsimp only
  rw [hid]
  exact AList.lookup_insert _

theorem readsBack_property {helper : Helper O} (hkeyed : Keyed helper.networkInterfaces)
    {operation : Operation O} {name : Text} {property : Property}
    (hbody : operation.body helper = propertyBody helper.networkInterfaces name property) :
    ReadsBack helper operation := by
  rintro observer delivery current ⟨hcall, -⟩ -
  rw [hbody, propertyBody] at hcall
  cases hfound : helper.networkInterfaces.lookup name with
  | none =>
      rw [hfound] at hcall
      cases hcall
  | some intfc =>
      rw [hfound] at hcall
      dsimp only at hcall
      split at hcall
      · refine readsBack_of_assign ?_ hcall
        exact (property.id_set intfc).trans (hkeyed _ _ hfound)
      · cases hcall

/-! ### Bulk updates -/

/-- What a bulk update announces is in its report. -/
theorem mem_report_announces {previous interfaces : Interfaces} {delivery : Delivery}
    (h : delivery ∈ report previous interfaces) (hannounces : delivery.notification.Announces) :
    interfaces.lookup delivery.name = some delivery.notification.intfc ∧
      ∀ previousIntfc, previous.lookup delivery.name = some previousIntfc →
        ¬ SameProperties previousIntfc delivery.notification.intfc := by
  have at_name : delivery ∈ reportAt delivery.name (previous.lookup delivery.name)
      (interfaces.lookup delivery.name) := by
    rw [← about_report fun _ _ => rfl, about]
    exact List.mem_filter.mpr ⟨h, decide_eq_true rfl⟩
  cases hprevious : previous.lookup delivery.name with
  | none =>
      cases hnew : interfaces.lookup delivery.name with
      | none =>
          rw [hprevious, hnew] at at_name
          cases at_name
      | some newIntfc =>
          rw [hprevious, hnew] at at_name
          rw [List.mem_singleton.mp at_name]
          exact ⟨rfl, fun _ hc => by cases hc⟩
  | some previousIntfc =>
      cases hnew : interfaces.lookup delivery.name with
      | none =>
          rw [hprevious, hnew] at at_name
          rw [List.mem_singleton.mp at_name] at hannounces
          exact hannounces.elim
      | some newIntfc =>
          rw [hprevious, hnew] at at_name
          have differ := reportDifferences_ne_nil.mp (List.ne_nil_of_mem at_name)
          obtain ⟨property, -, heq⟩ := List.mem_map.mp at_name
          rw [← heq]
          exact ⟨rfl, fun _ hfound => Option.some.inj hfound ▸ differ⟩

/-- Every interface that is new, or has a new property, is announced. -/
theorem exists_mem_report {previous interfaces : Interfaces} {name : Text} {intfc : Interface}
    (hnew : interfaces.lookup name = some intfc)
    (hdiffers : ∀ previousIntfc, previous.lookup name = some previousIntfc →
      ¬ SameProperties previousIntfc intfc) :
    ∃ delivery ∈ report previous interfaces,
      delivery.notification.intfc = intfc ∧ delivery.notification.Announces := by
  have reported : ∀ delivery ∈ reportAt name (previous.lookup name) (interfaces.lookup name),
      delivery ∈ report previous interfaces := fun delivery h => by
    rw [← about_report fun _ _ => rfl] at h
    exact (List.mem_filter.mp h).1
  cases hprevious : previous.lookup name with
  | none =>
      rw [hprevious, hnew] at reported
      exact ⟨_, reported _ List.mem_cons_self, rfl, trivial⟩
  | some previousIntfc =>
      rw [hprevious, hnew] at reported
      obtain ⟨delivery, hmem⟩ := List.exists_mem_of_ne_nil _
        (reportDifferences_ne_nil.mpr (hdiffers previousIntfc hprevious))
      obtain ⟨property, -, rfl⟩ := List.mem_map.mp hmem
      exact ⟨_, reported _ hmem, rfl, trivial⟩

/-- With an observer, a bulk update reads back only what was there before. -/
theorem readsBack_onNewInterfacesList {helper : Helper O} {interfaces : Interfaces}
    (hnew : Keyed interfaces) {observer : O} (hobserver : observer ∈ helper.observers) :
    ReadsBack helper (.onNewInterfacesList interfaces) ↔
      Operation.AddsNothing (O := O) helper.networkInterfaces
        (.onNewInterfacesList interfaces) := by
  constructor
  · intro h name intfc hfound
    by_contra hnone
    obtain ⟨delivery, hmem, rfl, hannounces⟩ := exists_mem_report hfound fun previousIntfc
      hprevious hsame => hnone ⟨previousIntfc, hprevious, hsame⟩
    obtain ⟨current, hcall, htable, hobservers⟩ := exists_notifications hmem interfaces helper
    obtain ⟨stored, hget, heq⟩ := h observer delivery current
      ⟨hcall, hobservers ▸ hobserver⟩ hannounces
    have lookup := getInterfaceByName_eq_ok.mp hget
    rw [htable, hnew _ _ hfound] at lookup
    exact hnone ⟨stored, lookup, sameProperties_of_beq heq⟩
  · rintro h _ delivery current ⟨hcall, -⟩ hannounces
    obtain ⟨hfound, hdiffers⟩ := mem_report_announces (mem_notifications hcall).1 hannounces
    obtain ⟨previousIntfc, hprevious, hsame⟩ := h _ _ hfound
    exact absurd hsame (hdiffers previousIntfc hprevious)

/-! ### When a callback reads back -/

/-- **What is announced can be read back**, in any event over tables that store interfaces under
their `id`, exactly when no observer is there to be called, or the event is not a bulk update that
adds an interface or changes one of the five properties. -/
theorem readsBack_iff (helper : Helper O) (operation : Operation O)
    (htable : Keyed helper.networkInterfaces) (hkeyed : operation.Keyed) :
    ReadsBack helper operation ↔
      helper.observers = ∅ ∨ operation.AddsNothing helper.networkInterfaces := by
  cases operation with
  | onNewInterfacesList interfaces =>
      rcases helper.observers.eq_empty_or_nonempty with hempty | ⟨observer, hobserver⟩
      · -- nobody is called, so nothing is announced
        refine iff_of_true ?_ (.inl hempty)
        rintro observer delivery current ⟨hcall, hobserver⟩ -
        rw [(mem_notifications hcall).2.2, hempty] at hobserver
        exact absurd hobserver (Finset.notMem_empty observer)
      · rw [readsBack_onNewInterfacesList hkeyed hobserver]
        exact (or_iff_right (Finset.ne_empty_of_mem hobserver)).symm
  | registerObserver observer =>
      refine iff_of_true ?_ (.inr trivial)
      rintro obs delivery current ⟨hcall, -⟩ -
      cases observer with
      | none => cases hcall
      | some observer =>
          rw [Operation.body] at hcall
          split at hcall
          · cases hcall
          · cases hcall
  | unregisterObserver observer =>
      refine iff_of_true ?_ (.inr trivial)
      rintro obs delivery current ⟨hcall, -⟩ -
      cases observer with
      | none => cases hcall
      | some observer =>
          rw [Operation.body] at hcall
          split at hcall
          · cases hcall
          · cases hcall
  | onInterfaceAdded interfaceName intfc =>
      refine iff_of_true ?_ (.inr trivial)
      rintro observer delivery current ⟨hcall, -⟩ -
      rw [Operation.body] at hcall
      split at hcall
      · cases hcall
      · -- here the table is changed before the observers are called
        refine readsBack_of_assign ?_ hcall
        exact hkeyed
  | onInterfaceRemoved interfaceName =>
      refine iff_of_true ?_ (.inr trivial)
      rintro observer delivery current ⟨hcall, -⟩ hannounces
      rw [Operation.body] at hcall
      cases hfound : helper.networkInterfaces.lookup interfaceName with
      | none =>
          rw [hfound] at hcall
          cases hcall
      | some intfc =>
          rw [hfound] at hcall
          obtain ⟨rfl, -⟩ := Prod.mk.inj (List.mem_singleton.mp hcall)
          exact hannounces.elim
  | onEnabledStateChanged name value =>
      exact iff_of_true (readsBack_property htable rfl) (.inr trivial)
  | onConnectedStateChanged name value =>
      exact iff_of_true (readsBack_property htable rfl) (.inr trivial)
  | onAliasChanged name value =>
      exact iff_of_true (readsBack_property htable rfl) (.inr trivial)
  | onIPAddressInfosChanged name value =>
      exact iff_of_true (readsBack_property htable rfl) (.inr trivial)
  | onGatewaysChanged name value =>
      exact iff_of_true (readsBack_property htable rfl) (.inr trivial)

theorem keyed_onlyEn0 (last : UInt8) : Keyed (onlyEn0 last) := by
  intro name intfc hfound
  have entry := AList.mem_lookup_iff.mp (Option.mem_def.mpr hfound)
  obtain ⟨rfl, heq⟩ := Sigma.mk.inj (List.mem_singleton.mp entry)
  rw [eq_of_heq heq]
  rfl

/-- The link of `en0` goes up. -/
theorem readsBack_iff_en0 :
    ReadsBack (watched (onlyEn0 1)) (.onConnectedStateChanged "en0".toList true) ↔
      (watched (onlyEn0 1)).observers = ∅ ∨
        Operation.AddsNothing (O := Unit) (onlyEn0 1)
          (.onConnectedStateChanged "en0".toList true) :=
  readsBack_iff (watched (onlyEn0 1)) _ (keyed_onlyEn0 1) trivial

/-- A bulk update adds `en0`: inside `onInterfaceAdded`, `getInterfaceByName` throws. -/
theorem not_readsBack_added :
    ¬ ReadsBack (watched ∅) (.onNewInterfacesList (onlyEn0 1)) := by
  intro h
  obtain ⟨intfc, hget, -⟩ := h () ⟨"en0".toList, .onInterfaceAdded (en0 1)⟩ (watched ∅)
    ⟨List.mem_cons_self, Finset.mem_singleton_self ()⟩ trivial
  cases hget

end NetworkInterface
