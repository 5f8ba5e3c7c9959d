import NetworkInterface.Helper.Impl
import NetworkInterface.Support.Feed

/-!
# Helper — Diff

What `onNewInterfacesList` reports.  Its three loops are one list of deliveries (`report`), and
what that list holds about a name depends only on the two entries for the name (`reportAt`).

An observer hears about a name exactly when the entries for it differ in presence or in one of the
five properties that have a method of `Observer` (`reported_onNewInterfacesList`); the other
fields that `operator!=` compares are not looked at.
-/

namespace NetworkInterface

open Support

/-! ### The list of deliveries -/

/-- The notification, when `name` is not in the other map. -/
def reportMissing (other : Interfaces) (name : Text) (notification : Notification) :
    List Delivery :=
  (other.lookup name).elim [⟨name, notification⟩] fun _ => []

/-- The five comparisons. -/
def reportDifferences (name : Text) (previousIntfc newIntfc : Interface) : List Delivery :=
  (newIntfc.properties.filter (·.differs previousIntfc)).map fun property =>
    ⟨name, .onInterfaceChanged newIntfc property⟩

/-- The third loop, at an entry of the previous table. -/
def reportChanged (interfaces : Interfaces) (name : Text) (previousIntfc : Interface) :
    List Delivery :=
  (interfaces.lookup name).elim [] (reportDifferences name previousIntfc)

/-- The three loops. -/
def report (previous interfaces : Interfaces) : List Delivery :=
  (previous.entries.flatMap fun intfcKV =>
    reportMissing interfaces intfcKV.1 (.onInterfaceRemoved intfcKV.2)) ++
  (interfaces.entries.flatMap fun intfcKV =>
    reportMissing previous intfcKV.1 (.onInterfaceAdded intfcKV.2)) ++
  previous.entries.flatMap fun intfcKV => reportChanged interfaces intfcKV.1 intfcKV.2

/-- What is reported about a name, from its two entries. -/
def reportAt (name : Text) : Option Interface → Option Interface → List Delivery
  | none, none                        => []
  | some previousIntfc, none          => [⟨name, .onInterfaceRemoved previousIntfc⟩]
  | none, some newIntfc               => [⟨name, .onInterfaceAdded newIntfc⟩]
  | some previousIntfc, some newIntfc => reportDifferences name previousIntfc newIntfc

/-! ### The loops make the list -/

section
variable {O : Type*} [DecidableEq O]

/-- A loop whose body only notifies, only notifies. -/
theorem Helper.forEach_eq {body : Text → Interface → Helper O → Helper O}
    {f : Text → Interface → List Delivery}
    (h : ∀ name intfc helper, body name intfc helper = helper.notifyAll (f name intfc))
    (interfaces : Interfaces) (helper : Helper O) :
    helper.forEach interfaces body =
      helper.notifyAll (interfaces.entries.flatMap fun intfcKV => f intfcKV.1 intfcKV.2) := by
  obtain ⟨l, hl⟩ := interfaces
  change l.foldl _ helper = helper.notifyAll (l.flatMap _)
  clear hl
  induction l generalizing helper with
  | nil => rfl
  | cons intfcKV l ih =>
      rw [List.flatMap_cons, notifyAll_append, ← h]
      exact ih _

theorem Helper.notifyDifferences_eq (name : Text) (previousIntfc newIntfc : Interface)
    (helper : Helper O) :
    helper.notifyDifferences name previousIntfc newIntfc =
      helper.notifyAll (reportDifferences name previousIntfc newIntfc) := by
  rw [notifyDifferences, reportDifferences]
  induction newIntfc.properties generalizing helper with
  | nil => rfl
  | cons property properties ih =>
      rw [List.foldl_cons, List.filter_cons, ih]
      cases property.differs previousIntfc with
      | true => rfl
      | false => rfl

theorem Helper.notifyMissing_eq (other : Interfaces) (name : Text) (notification : Notification)
    (helper : Helper O) : helper.notifyMissing other name notification =
      helper.notifyAll (reportMissing other name notification) := by
  rw [notifyMissing, reportMissing]
  cases hl : other.lookup name with
  | none =>
      rw [if_neg (AList.lookup_eq_none.mp hl)]
      rfl
  | some _ =>
      rw [if_pos (AList.lookup_isSome.mp (hl ▸ rfl))]
      rfl

theorem Helper.checkChanged_eq (interfaces : Interfaces) (name : Text) (previousIntfc : Interface)
    (helper : Helper O) : helper.checkChanged interfaces name previousIntfc =
      helper.notifyAll (reportChanged interfaces name previousIntfc) := by
  rw [checkChanged, reportChanged]
  cases interfaces.lookup name with
  | none => rfl
  | some newIntfc => exact notifyDifferences_eq name previousIntfc newIntfc helper

/-- **The bulk update** is its report, then the new table. -/
theorem Helper.onNewInterfacesList_eq (interfaces : Interfaces) (helper : Helper O) :
    helper.onNewInterfacesList interfaces =
      { helper.notifyAll (report helper.networkInterfaces interfaces) with
        networkInterfaces := interfaces } := by
  have removed (name : Text) (previousIntfc : Interface) (helper : Helper O) :
      helper.checkRemoved interfaces name previousIntfc =
        helper.notifyAll (reportMissing interfaces name (.onInterfaceRemoved previousIntfc)) :=
    notifyMissing_eq ..
  have added (previous : Interfaces) (name : Text) (newIntfc : Interface) (helper : Helper O) :
      helper.checkAdded previous name newIntfc =
        helper.notifyAll (reportMissing previous name (.onInterfaceAdded newIntfc)) :=
    notifyMissing_eq ..
  rw [onNewInterfacesList, report, notifyAll_append, notifyAll_append, forEach_eq removed,
    forEach_eq (added helper.networkInterfaces), forEach_eq (checkChanged_eq interfaces)]

end

/-! ### The list, name by name -/

theorem eq_of_mem_reportMissing {other : Interfaces} {name : Text} {notification : Notification}
    {delivery : Delivery} (h : delivery ∈ reportMissing other name notification) :
    delivery = ⟨name, notification⟩ := by
  rw [reportMissing] at h
  cases hl : other.lookup name with
  | none =>
      rw [hl] at h
      exact List.mem_singleton.mp h
  | some _ =>
      rw [hl] at h
      cases h

theorem eq_of_mem_reportChanged {interfaces : Interfaces} {name : Text} {previousIntfc : Interface}
    {delivery : Delivery} (h : delivery ∈ reportChanged interfaces name previousIntfc) :
    ∃ newIntfc property, interfaces.lookup name = some newIntfc ∧
      delivery = ⟨name, .onInterfaceChanged newIntfc property⟩ := by
  rw [reportChanged] at h
  cases hl : interfaces.lookup name with
  | none =>
      rw [hl] at h
      cases h
  | some newIntfc =>
      rw [hl] at h
      obtain ⟨property, -, rfl⟩ := List.mem_map.mp h
      exact ⟨newIntfc, property, rfl, rfl⟩

/-- **What is reported about a name** is decided by its two entries.  The name of a delivery may be
taken by any `key` that gives the right one for the deliveries of the report. -/
theorem about_report {key : Delivery → Text} {previous interfaces : Interfaces}
    (hkey : ∀ delivery ∈ report previous interfaces, key delivery = delivery.name) (name : Text) :
    about key name (report previous interfaces) =
      reportAt name (previous.lookup name) (interfaces.lookup name) := by
  simp only [report, List.forall_mem_append, List.mem_flatMap, forall_exists_index, and_imp]
    at hkey
  obtain ⟨⟨hremoved, hadded⟩, hchanged⟩ := hkey
  have removed := about_entries key
    (fun name intfc => reportMissing interfaces name (.onInterfaceRemoved intfc)) previous
    fun x hx d hd => (hremoved d x hx hd).trans (by rw [eq_of_mem_reportMissing hd])
  have added := about_entries key
    (fun name intfc => reportMissing previous name (.onInterfaceAdded intfc)) interfaces
    fun x hx d hd => (hadded d x hx hd).trans (by rw [eq_of_mem_reportMissing hd])
  have changed := about_entries key (reportChanged interfaces) previous fun x hx d hd => by
    obtain ⟨newIntfc, property, -, rfl⟩ := eq_of_mem_reportChanged hd
    exact hchanged _ x hx hd
  rw [report, about_append, about_append, removed, added, changed]
  cases hprevious : previous.lookup name with
  | none =>
      cases hnew : interfaces.lookup name with
      | none => rfl
      | some newIntfc =>
          simp only [Option.elim_none, Option.elim_some, reportMissing, hprevious]
          rfl
  | some previousIntfc =>
      cases hnew : interfaces.lookup name with
      | none =>
          simp only [Option.elim_none, Option.elim_some, reportMissing, reportChanged, hnew]
          rfl
      | some newIntfc =>
          simp only [Option.elim_some, reportMissing, reportChanged, hprevious, hnew]
          rfl

/-! ### No silent change -/

/-- The entries for a name differ in presence or in one of the five properties. -/
def Reported : Option Interface → Option Interface → Prop
  | none, none                        => False
  | some previousIntfc, some newIntfc => ¬ SameProperties previousIntfc newIntfc
  | _, _                              => True

theorem reportDifferences_ne_nil {name : Text} {previousIntfc newIntfc : Interface} :
    reportDifferences name previousIntfc newIntfc ≠ [] ↔
      ¬ SameProperties previousIntfc newIntfc := by
  rw [sameProperties_iff, reportDifferences, ne_eq, List.map_eq_nil_iff, List.filter_eq_nil_iff]
  simp only [Bool.not_eq_true]

theorem reportAt_ne_nil {name : Text} {previous new : Option Interface} :
    reportAt name previous new ≠ [] ↔ Reported previous new := by
  cases previous with
  | none =>
      cases new with
      | none => exact ⟨fun h => h rfl, False.elim⟩
      | some newIntfc => exact ⟨fun _ => trivial, fun _ => List.cons_ne_nil _ _⟩
  | some previousIntfc =>
      cases new with
      | none => exact ⟨fun _ => trivial, fun _ => List.cons_ne_nil _ _⟩
      | some newIntfc => exact reportDifferences_ne_nil

/-- **No silent change**: a registered observer hears about a name exactly when its entries differ
in presence or in one of the five properties. -/
theorem reported_onNewInterfacesList {O : Type*} [DecidableEq O] (helper : Helper O)
    (interfaces : Interfaces) (name : Text) {obs : O} (h : obs ∈ helper.observers) :
    ∃ deliveries,
      (helper.onNewInterfacesList interfaces).received obs = helper.received obs ++ deliveries ∧
      ((∃ delivery ∈ deliveries, delivery.name = name) ↔
        Reported (helper.networkInterfaces.lookup name) (interfaces.lookup name)) := by
  refine ⟨report helper.networkInterfaces interfaces, ?_, ?_⟩
  · rw [Helper.onNewInterfacesList_eq]
    exact Helper.received_notifyAll _ h
  · rw [← reportAt_ne_nil, ← about_report fun _ _ => rfl, about, ne_eq, List.filter_eq_nil_iff]
    simp

/-- A helper with the table, and one observer. -/
def watched (networkInterfaces : Interfaces) : Helper Unit where
  observers := {()}
  networkInterfaces := networkInterfaces

/-- `en0`, with the last byte of its address. -/
def en0 (last : UInt8) : Interface where
  id := "en0".toList
  macAddress := #v[0, 0, 0, 0, 0, last]

/-- The table with that interface alone. -/
def onlyEn0 (last : UInt8) : Interfaces := AList.singleton "en0".toList (en0 last)

/-- `en0` comes. -/
theorem reported_onNewInterfacesList_en0 :
    ∃ deliveries,
      ((watched ∅).onNewInterfacesList (onlyEn0 1)).received () =
        (watched ∅).received () ++ deliveries ∧
      ((∃ delivery ∈ deliveries, delivery.name = "en0".toList) ↔
        Reported ((watched ∅).networkInterfaces.lookup "en0".toList)
          ((onlyEn0 1).lookup "en0".toList)) :=
  reported_onNewInterfacesList (watched ∅) _ _ (Finset.mem_singleton_self ())

/-- The entries for a name differ in presence or by `operator!=`. -/
def Differ : Option Interface → Option Interface → Prop
  | none, none                        => False
  | some previousIntfc, some newIntfc => (previousIntfc != newIntfc) = true
  | _, _                              => True

/-- No observer hears that the `macAddress` of `en0` changed. -/
theorem not_forall_reported :
    ¬ ∀ (helper : Helper Unit) (interfaces : Interfaces) (name : Text),
      ∀ obs ∈ helper.observers, ∃ deliveries,
        (helper.onNewInterfacesList interfaces).received obs =
          helper.received obs ++ deliveries ∧
        ((∃ delivery ∈ deliveries, delivery.name = name) ↔
          Differ (helper.networkInterfaces.lookup name) (interfaces.lookup name)) := by
  intro h
  obtain ⟨deliveries, hreceived, hiff⟩ := h (watched (onlyEn0 0)) (onlyEn0 1) "en0".toList ()
    (Finset.mem_singleton_self ())
  have silent : ((watched (onlyEn0 0)).onNewInterfacesList (onlyEn0 1)).received () =
      (watched (onlyEn0 0)).received () := by
    rw [Helper.onNewInterfacesList_eq]
    exact Helper.received_notifyAll [] (Finset.mem_singleton_self ())
  have nothing : deliveries = [] := List.append_cancel_left
    ((hreceived.symm.trans silent).trans (List.append_nil _).symm)
  have differ : (en0 0 != en0 1) = true := by decide
  obtain ⟨delivery, hmem, -⟩ := hiff.mpr differ
  rw [nothing] at hmem
  cases hmem

end NetworkInterface
