import NetworkInterface.Helper.Interface

/-!
# Helper — Observer

What an `Observer` is called with.  Two of its methods say that an interface was added or removed;
the other five each give the new value of one property of an interface, and are one constructor
here, with the property (`Property`).
-/

namespace NetworkInterface

/-- A property of an interface that observers are told about, with a value. -/
inductive Property where
  | isEnabled (value : Bool)
  | isConnected (value : Bool)
  | aliasName (value : Text)
  | ipAddressInfos (value : List IPAddressInfo)
  | gateways (value : List IPAddress)

namespace Property

/-- The interface has another value of the property: the five tests on `operator!=`. -/
def differs (intfc : Interface) : Property → Bool
  | .isEnabled value      => intfc.isEnabled != value
  | .isConnected value    => intfc.isConnected != value
  | .aliasName value      => intfc.aliasName != value
  | .ipAddressInfos value => intfc.ipAddressInfos != value
  | .gateways value       => intfc.gateways != value

/-- The interface with the value. -/
def set (intfc : Interface) : Property → Interface
  | .isEnabled value      => { intfc with isEnabled := value }
  | .isConnected value    => { intfc with isConnected := value }
  | .aliasName value      => { intfc with aliasName := value }
  | .ipAddressInfos value => { intfc with ipAddressInfos := value }
  | .gateways value       => { intfc with gateways := value }

@[simp]
theorem id_set (intfc : Interface) (p : Property) : (p.set intfc).id = intfc.id := by
  cases p <;> rfl

end Property

/-- The properties of the interface, in the order `onNewInterfacesList` compares them. -/
def Interface.properties (intfc : Interface) : List Property :=
  [.isEnabled intfc.isEnabled, .isConnected intfc.isConnected, .aliasName intfc.aliasName,
    .ipAddressInfos intfc.ipAddressInfos, .gateways intfc.gateways]

/-- A call of a method of an `Observer`. -/
inductive Notification where
  | onInterfaceAdded (intfc : Interface)
  | onInterfaceRemoved (intfc : Interface)
  /-- `onInterfaceEnabledStateChanged`, `onInterfaceConnectedStateChanged`,
  `onInterfaceAliasChanged`, `onInterfaceIPAddressInfosChanged` and
  `onInterfaceGateWaysChanged`. -/
  | onInterfaceChanged (intfc : Interface) (property : Property)

/-- The interface the method is called with. -/
def Notification.intfc : Notification → Interface
  | .onInterfaceAdded intfc | .onInterfaceRemoved intfc | .onInterfaceChanged intfc _ => intfc

/-- A notification, and the name its interface is stored under.  The observer gets the
notification only. -/
structure Delivery where
  name : Text
  notification : Notification

/-! ### Interfaces that agree on the properties -/

/-- The two interfaces have the same properties, those with an `operator==` up to it. -/
structure SameProperties (lhs rhs : Interface) : Prop where
  isEnabled : lhs.isEnabled = rhs.isEnabled
  isConnected : lhs.isConnected = rhs.isConnected
  aliasName : lhs.aliasName = rhs.aliasName
  ipAddressInfos : (lhs.ipAddressInfos == rhs.ipAddressInfos) = true
  gateways : (lhs.gateways == rhs.gateways) = true

/-- The comparisons `onNewInterfacesList` makes. -/
theorem sameProperties_iff {lhs rhs : Interface} :
    SameProperties lhs rhs ↔ ∀ p ∈ rhs.properties, p.differs lhs = false := by
  constructor
  · rintro ⟨h₁, h₂, h₃, h₄, h₅⟩
    simp only [Interface.properties, List.forall_mem_cons, Property.differs, bne_eq_false_iff_eq]
    exact ⟨h₁, h₂, h₃, by rw [bne, h₄]; rfl, by rw [bne, h₅]; rfl,
      fun _ h => absurd h List.not_mem_nil⟩
  · intro h
    simp only [Interface.properties, List.forall_mem_cons, Property.differs,
      bne_eq_false_iff_eq] at h
    obtain ⟨h₁, h₂, h₃, h₄, h₅, -⟩ := h
    exact ⟨h₁, h₂, h₃, by simpa [bne] using h₄, by simpa [bne] using h₅⟩

theorem SameProperties.refl (intfc : Interface) : SameProperties intfc intfc :=
  ⟨rfl, rfl, rfl, BEq.rfl, BEq.rfl⟩

/-- What agrees on the properties differs from the same values. -/
theorem SameProperties.differs {lhs rhs : Interface} (h : SameProperties lhs rhs) (p : Property) :
    p.differs lhs = p.differs rhs := by
  cases p with
  | isEnabled value => rw [Property.differs, Property.differs, h.isEnabled]
  | isConnected value => rw [Property.differs, Property.differs, h.isConnected]
  | aliasName value => rw [Property.differs, Property.differs, h.aliasName]
  | ipAddressInfos value => exact congrArg (!·) (BEq.congr_left h.ipAddressInfos)
  | gateways value => exact congrArg (!·) (BEq.congr_left h.gateways)

theorem SameProperties.set {lhs rhs : Interface} (h : SameProperties lhs rhs) (p : Property) :
    SameProperties (p.set lhs) (p.set rhs) := by
  cases p with
  | isEnabled value => exact { h with isEnabled := rfl }
  | isConnected value => exact { h with isConnected := rfl }
  | aliasName value => exact { h with aliasName := rfl }
  | ipAddressInfos value => exact { h with ipAddressInfos := BEq.rfl }
  | gateways value => exact { h with gateways := BEq.rfl }

/-- Of two properties of one interface, giving a value to the first does not undo the second. -/
theorem differs_set {intfc other : Interface} {p q : Property} (hp : p ∈ intfc.properties)
    (hq : q ∈ intfc.properties) (h : q.differs other = false) :
    q.differs (p.set other) = false := by
  simp only [Interface.properties, List.mem_cons, List.not_mem_nil, or_false] at hp hq
  obtain rfl | rfl | rfl | rfl | rfl := hp <;> obtain rfl | rfl | rfl | rfl | rfl := hq <;>
    first | exact h | simp [Property.differs, Property.set, bne]

theorem differs_set_self (intfc : Interface) (p : Property) : p.differs (p.set intfc) = false := by
  cases p <;> simp [Property.differs, Property.set, bne]

/-- Once every property that differs is set, none does. -/
theorem sameProperties_foldl {lhs previous rhs : Interface} (h : SameProperties lhs previous) :
    SameProperties
      ((rhs.properties.filter (·.differs previous)).foldl (fun intfc p => p.set intfc) lhs)
      rhs := by
  have gen : ∀ ps : List Property, ps ⊆ rhs.properties → ∀ q ∈ rhs.properties, ∀ intfc,
      q ∈ ps ∨ q.differs intfc = false →
      q.differs (ps.foldl (fun intfc p => p.set intfc) intfc) = false := by
    intro ps
    induction ps with
    | nil => exact fun _ q _ intfc hq => hq.resolve_left List.not_mem_nil
    | cons p ps ih =>
        intro hsub q hq intfc hor
        obtain ⟨hp, hps⟩ := List.cons_subset.mp hsub
        refine ih hps q hq (p.set intfc) ?_
        rcases hor with hmem | hdiff
        · rcases List.mem_cons.mp hmem with rfl | hmem
          · exact .inr (differs_set_self intfc q)
          · exact .inl hmem
        · exact .inr (differs_set hp hq hdiff)
  refine sameProperties_iff.mpr fun q hq => gen _ (List.filter_subset_self _) q hq lhs ?_
  cases hdiff : q.differs previous with
  | true => exact .inl (List.mem_filter.mpr ⟨hq, hdiff⟩)
  | false => exact .inr ((h.differs q).trans hdiff)

end NetworkInterface
