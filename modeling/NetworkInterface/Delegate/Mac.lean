import NetworkInterface.Delegate.Unix

/-!
# Delegate — Mac

What `OsDependentDelegate_MacOS` reads from the dynamic store about the addresses of an interface.
A value of the store is a dictionary of which the delegate looks at seven entries.

`addIPAddressInfo_collects_iff`: the loops over the arrays collect every address that can be read,
in order, exactly when there is at most one, for the loop returns at the first.
-/

namespace NetworkInterface

/-- `IPAddressInfos`. -/
abbrev IPAddressInfos := List IPAddressInfo

namespace MacOS

/-- A value of the store: an `NSDictionary`, with the entries the delegate looks at. -/
structure Dictionary where
  /-- `Active`, as `boolValue` gives it. -/
  active : Option Bool := none
  userDefinedName : Option Text := none
  deviceName : Option Text := none
  hardware : Option Text := none
  addresses : Option (List Text) := none
  subnetMasks : Option (List Text) := none
  /-- `PrefixLength`: an array of `NSNumber`. -/
  prefixLength : Option (List Int) := none

/-! ### The loops -/

/-- The loop of both functions, over what each index gives: `push_back`, then `return true`.
Exceptions are swallowed. -/
def addIPAddressInfos : List (Outcome IPAddressInfo) → IPAddressInfos →
    Outcome (Bool × IPAddressInfos)
  | [], ipAddressInfos => .ok (false, ipAddressInfos)
  | .ok info :: _, ipAddressInfos => .ok (true, ipAddressInfos ++ [info])
  | .error (.invalidArgument _) :: rest, ipAddressInfos => addIPAddressInfos rest ipAddressInfos
  | .error f :: _, _ => .error f

def defaultNetmask : Text := "255.255.255.255".toList

/-- The netmask at an index: an empty one is allowed, and none at all. -/
def netmaskAt (netmasks : Option (List Text)) (ipIndex : Nat) : Text :=
  match netmasks with
  | none => defaultNetmask
  | some netmasks =>
      let mask := netmasks.getD ipIndex []
      if mask.length > 0 then mask else defaultNetmask

/-- What the indices of `Addresses` give at IPv4. -/
def infosV4 (addresses : List Text) (netmasks : Option (List Text)) :
    List (Outcome IPAddressInfo) :=
  (List.range addresses.length).map fun ipIndex =>
    infoOf (addresses.getD ipIndex []) (netmaskAt netmasks ipIndex)

/-- `IPAddressInfo{ IPAddress{ address }, IPAddress{ packedV6FromPrefixLength(..) } }`. -/
def infoOfPrefix (address : Text) (prefixLength : Int) : Outcome IPAddressInfo := do
  return ⟨← IPAddress.ofString address,
    .ofPackedV6 (← packedV6FromPrefixLength (UInt8.ofInt prefixLength))⟩

/-- What the indices of `Addresses` give at IPv6. -/
def infosV6 (addresses : List Text) (prefixLengths : List Int) : List (Outcome IPAddressInfo) :=
  (List.range addresses.length).map fun ipIndex =>
    infoOfPrefix (addresses.getD ipIndex []) (prefixLengths.getD ipIndex 0)

/-- `addIPAddressV4InfoFromKey`, at the value of the key.  The `count` of no array is `0`. -/
def addIPAddressV4InfoFromKey (value : Option Dictionary) (ipAddressInfos : IPAddressInfos) :
    Outcome (Bool × IPAddressInfos) :=
  match value with
  | some value =>
      let addresses := value.addresses.getD []
      if value.subnetMasks = none ∨ addresses.length = (value.subnetMasks.getD []).length then
        addIPAddressInfos (infosV4 addresses value.subnetMasks) ipAddressInfos
      else .ok (false, ipAddressInfos)
  | none => .ok (false, ipAddressInfos)

/-- `addIPAddressV6InfoFromKey`, at the value of the key. -/
def addIPAddressV6InfoFromKey (value : Option Dictionary) (ipAddressInfos : IPAddressInfos) :
    Outcome (Bool × IPAddressInfos) :=
  match value with
  | some value =>
      let addresses := value.addresses.getD []
      let prefixLengths := value.prefixLength.getD []
      if addresses.length = prefixLengths.length then
        addIPAddressInfos (infosV6 addresses prefixLengths) ipAddressInfos
      else .ok (false, ipAddressInfos)
  | none => .ok (false, ipAddressInfos)

/-! ### What is collected -/

/-- The infos that could be made, in order. -/
def parsed (items : List (Outcome IPAddressInfo)) : IPAddressInfos :=
  items.filterMap Except.toOption

/-- The call appends every info that could be made, and says whether there was one. -/
def Collects (items : List (Outcome IPAddressInfo)) (ipAddressInfos : IPAddressInfos)
    (result : Outcome (Bool × IPAddressInfos)) : Prop :=
  ∃ inserted, result = .ok (inserted, ipAddressInfos ++ parsed items) ∧
    (inserted = true ↔ parsed items ≠ [])

/-- To make the info is undefined. -/
def Undefined (item : Outcome IPAddressInfo) : Prop := ¬ Proper item

/-- At most one info could be made, and what is undefined stands behind it. -/
structure OneParses (items : List (Outcome IPAddressInfo)) : Prop where
  one : (parsed items).length ≤ 1
  defined : ∀ front item rest, items = front ++ item :: rest → Undefined item → parsed front ≠ []

@[simp] theorem parsed_nil : parsed [] = [] := rfl

@[simp]
theorem parsed_ok (info : IPAddressInfo) (rest : List (Outcome IPAddressInfo)) :
    parsed (.ok info :: rest) = info :: parsed rest := rfl

theorem oneParses_nil : OneParses [] :=
  ⟨Nat.zero_le 1, fun front item rest h => absurd h.symm (by simp)⟩

theorem oneParses_ok {info : IPAddressInfo} {rest : List (Outcome IPAddressInfo)} :
    OneParses (.ok info :: rest) ↔ parsed rest = [] := by
  constructor
  · intro h
    exact List.length_eq_zero_iff.mp (Nat.le_zero.mp (Nat.le_of_succ_le_succ h.one))
  · intro h
    refine ⟨by rw [parsed_ok, h]; rfl, fun front item rest' heq hbad => ?_⟩
    cases front with
    | nil =>
        obtain ⟨rfl, -⟩ := List.cons.inj heq
        exact absurd (proper_ok info) hbad
    | cons first front =>
        obtain ⟨rfl, -⟩ := List.cons.inj heq
        exact List.cons_ne_nil _ _

/-- An entry that is refused is passed over. -/
theorem oneParses_refused {what : String} {rest : List (Outcome IPAddressInfo)} :
    OneParses (.error (.invalidArgument what) :: rest) ↔ OneParses rest := by
  constructor
  · rintro ⟨one, defined⟩
    refine ⟨one, fun front item rest' heq hbad => ?_⟩
    exact defined (.error (.invalidArgument what) :: front) item rest' (by rw [heq]; rfl) hbad
  · rintro ⟨one, defined⟩
    refine ⟨one, fun front item rest' heq hbad => ?_⟩
    cases front with
    | nil =>
        obtain ⟨rfl, -⟩ := List.cons.inj heq
        exact absurd (proper_invalidArgument what) hbad
    | cons first front =>
        obtain ⟨rfl, htail⟩ := List.cons.inj heq
        exact defined front item rest' htail hbad

theorem not_oneParses_undefined {f : Failure} {rest : List (Outcome IPAddressInfo)}
    (h : Undefined (.error f)) : ¬ OneParses (.error f :: rest) :=
  fun hone => hone.defined [] _ rest rfl h rfl

/-- **The loop** collects every info exactly when there is at most one. -/
theorem addIPAddressInfos_collects_iff (items : List (Outcome IPAddressInfo))
    (ipAddressInfos : IPAddressInfos) :
    Collects items ipAddressInfos (addIPAddressInfos items ipAddressInfos) ↔ OneParses items := by
  induction items with
  | nil =>
      refine iff_of_true ⟨false, ?_, by simp⟩ oneParses_nil
      rw [parsed_nil, List.append_nil]
      rfl
  | cons item rest ih =>
      cases item with
      | ok info =>
          rw [oneParses_ok]
          constructor
          · rintro ⟨inserted, hrun, -⟩
            have := congrArg Prod.snd (Except.ok.inj hrun)
            exact ((List.cons.inj (List.append_cancel_left this)).2).symm
          · intro h
            exact ⟨true, by rw [parsed_ok, h]; rfl, by simp⟩
      | error f =>
          cases f with
          | invalidArgument what => exact ih.trans oneParses_refused.symm
          | _ =>
              refine iff_of_false ?_ (not_oneParses_undefined fun h => ?_)
              · rintro ⟨inserted, hrun, -⟩
                cases hrun
              · obtain ⟨what, hwhat⟩ := h _ rfl
                cases hwhat

/-- **Collecting the addresses**: both functions append all that can be read, and tell whether there
was one, exactly when at most one can. -/
theorem addIPAddressInfo_collects_iff (addresses : List Text) (ipAddressInfos : IPAddressInfos) :
    (∀ netmasks : Option (List Text), (∀ m ∈ netmasks, m.length = addresses.length) →
      (Collects (infosV4 addresses netmasks) ipAddressInfos
        (addIPAddressV4InfoFromKey (some { addresses := addresses, subnetMasks := netmasks })
          ipAddressInfos) ↔ OneParses (infosV4 addresses netmasks))) ∧
    ∀ prefixLengths : List Int, prefixLengths.length = addresses.length →
      (Collects (infosV6 addresses prefixLengths) ipAddressInfos
        (addIPAddressV6InfoFromKey
          (some { addresses := addresses, prefixLength := prefixLengths }) ipAddressInfos) ↔
        OneParses (infosV6 addresses prefixLengths)) := by
  refine ⟨fun netmasks hlen => ?_, fun prefixLengths hlen => ?_⟩
  · rw [addIPAddressV4InfoFromKey]
    dsimp only
    rw [if_pos, Option.getD_some]
    · exact addIPAddressInfos_collects_iff _ _
    · cases netmasks with
      | none => exact .inl rfl
      | some m => exact .inr (hlen m rfl).symm
  · rw [addIPAddressV6InfoFromKey]
    dsimp only
    rw [if_pos (by rw [Option.getD_some, Option.getD_some, hlen]), Option.getD_some,
      Option.getD_some]
    exact addIPAddressInfos_collects_iff _ _

/-- One entry that can be read, between entries that cannot. -/
theorem oneParses_between {items rest : List (Outcome IPAddressInfo)} {what : String}
    {info : IPAddressInfo} (heq : items = .error (.invalidArgument what) :: .ok info :: rest)
    (hrest : parsed rest = []) : OneParses items := by
  rw [heq]
  exact oneParses_refused.mpr (oneParses_ok.mpr hrest)

/-- Addresses of which one can be read. -/
def readableBetween : List Text := ["10.0.0.256".toList, "10.0.0.1".toList, "".toList, "x".toList]

/-- Their masks. -/
def masksBetween : List Text := ["".toList, "255.0.0.0".toList, "".toList, "".toList]

/-- IPv6 addresses of which one can be read. -/
def readableBetweenV6 : List Text := ["fe80::g".toList, "fe80::1".toList, "fe80:::2".toList]

/-- What there was before. -/
def infosBefore : IPAddressInfos := [⟨.ofPackedV4 0xC0A80102, .ofPackedV4 0xFFFFFF00⟩]

theorem addIPAddressInfo_collects_iff_between :
    Collects (infosV4 readableBetween (some masksBetween)) infosBefore
        (addIPAddressV4InfoFromKey
          (some { addresses := readableBetween, subnetMasks := masksBetween }) infosBefore) ∧
      Collects (infosV6 readableBetweenV6 [64, 10, 200]) infosBefore
        (addIPAddressV6InfoFromKey
          (some { addresses := readableBetweenV6, prefixLength := some [64, 10, 200] })
          infosBefore) := by
  have oneV4 : OneParses (infosV4 readableBetween (some masksBetween)) := by
    obtain ⟨what, info, rest, heq, hrest⟩ : ∃ what info rest,
        infosV4 readableBetween (some masksBetween) =
          .error (.invalidArgument what) :: .ok info :: rest ∧ parsed rest = [] :=
      ⟨_, _, _, rfl, rfl⟩
    exact oneParses_between heq hrest
  have oneV6 : OneParses (infosV6 readableBetweenV6 [64, 10, 200]) := by
    obtain ⟨what, info, rest, heq, hrest⟩ : ∃ what info rest,
        infosV6 readableBetweenV6 [64, 10, 200] =
          .error (.invalidArgument what) :: .ok info :: rest ∧ parsed rest = [] :=
      ⟨_, _, _, rfl, rfl⟩
    exact oneParses_between heq hrest
  have lengths : ∀ masks ∈ some masksBetween, masks.length = readableBetween.length := by
    rintro masks ⟨⟩
    rfl
  exact ⟨((addIPAddressInfo_collects_iff readableBetween infosBefore).1 _ lengths).mpr oneV4,
    ((addIPAddressInfo_collects_iff readableBetweenV6 infosBefore).2 _ rfl).mpr oneV6⟩

/-- Of two addresses the second is lost. -/
theorem not_collects_two :
    ¬ Collects (infosV4 ["10.0.0.1".toList, "10.0.0.2".toList] none) []
        (addIPAddressV4InfoFromKey
          (some { addresses := some ["10.0.0.1".toList, "10.0.0.2".toList] }) []) := by
  rintro ⟨inserted, hrun, -⟩
  have first : ∃ infos, addIPAddressV4InfoFromKey
      (some { addresses := some ["10.0.0.1".toList, "10.0.0.2".toList] }) [] = .ok (true, infos) ∧
      infos.length = 1 := ⟨_, rfl, rfl⟩
  obtain ⟨infos, hfirst, hlen⟩ := first
  obtain ⟨-, rfl⟩ := Prod.mk.inj (Except.ok.inj (hfirst.symm.trans hrun))
  have two : (parsed (infosV4 ["10.0.0.1".toList, "10.0.0.2".toList] none)).length = 2 := rfl
  rw [List.nil_append, two] at hlen
  cases hlen

/-! ### Readable dictionaries -/

/-- The texts and prefix lengths are ones the constructors are defined at. -/
structure Dictionary.Readable (value : Dictionary) : Prop where
  address : ∀ addresses ∈ value.addresses, ∀ t ∈ addresses, t.length < 2 ^ 32 ∧ t ≠ [':']
  netmask : ∀ netmasks ∈ value.subnetMasks, ∀ t ∈ netmasks, t.length < 2 ^ 32 ∧ t ≠ [':']
  prefixLength : ∀ prefixLengths ∈ value.prefixLength, ∀ p ∈ prefixLengths,
    (UInt8.ofInt p).toNat ≤ 128

/-- The loop ends when no entry is undefined. -/
theorem addIPAddressInfos_defined {items : List (Outcome IPAddressInfo)}
    (h : ∀ item ∈ items, Proper item) (ipAddressInfos : IPAddressInfos) :
    ∃ result, addIPAddressInfos items ipAddressInfos = .ok result := by
  induction items with
  | nil => exact ⟨_, rfl⟩
  | cons item rest ih =>
      rw [List.forall_mem_cons] at h
      cases item with
      | ok info => exact ⟨_, rfl⟩
      | error f =>
          obtain ⟨what, rfl⟩ := h.1 f rfl
          exact ih h.2

theorem getD_mem {α : Type} {l : List α} {i : Nat} (h : i < l.length) (a : α) : l.getD i a ∈ l := by
  rw [List.getD_eq_getElem _ _ h]
  exact List.getElem_mem h

/-- The netmask at an index is the one in the array, or the default. -/
theorem netmaskAt_cases (netmasks : Option (List Text)) (ipIndex : Nat) :
    netmaskAt netmasks ipIndex = defaultNetmask ∨
      ∃ masks ∈ netmasks, netmaskAt netmasks ipIndex ∈ masks := by
  cases netmasks with
  | none => exact .inl rfl
  | some masks =>
      rw [netmaskAt]
      by_cases hmask : (masks.getD ipIndex []).length > 0
      · refine .inr ⟨masks, rfl, ?_⟩
        rw [if_pos hmask]
        by_cases hlt : ipIndex < masks.length
        · exact getD_mem hlt _
        · rw [List.getD_eq_default _ _ (Nat.not_lt.mp hlt)] at hmask
          exact absurd hmask (Nat.lt_irrefl 0)
      · exact .inl (if_neg hmask)

theorem readable_defaultNetmask : defaultNetmask.length < 2 ^ 32 ∧ defaultNetmask ≠ [':'] := by
  have length : defaultNetmask.length = 15 := by decide
  rw [length]
  exact ⟨by decide, by decide⟩

theorem proper_infosV4 {addresses : List Text} {netmasks : Option (List Text)}
    (haddresses : ∀ t ∈ addresses, t.length < 2 ^ 32 ∧ t ≠ [':'])
    (hnetmasks : ∀ masks ∈ netmasks, ∀ t ∈ masks, t.length < 2 ^ 32 ∧ t ≠ [':']) :
    ∀ item ∈ infosV4 addresses netmasks, Proper item := by
  intro item hitem
  obtain ⟨i, hi, rfl⟩ := List.mem_map.mp hitem
  refine proper_infoOf (haddresses _ (getD_mem (List.mem_range.mp hi) _)) ?_
  rcases netmaskAt_cases netmasks i with hmask | ⟨masks, hmasks, hmask⟩
  · rw [hmask]
    exact readable_defaultNetmask
  · exact hnetmasks masks hmasks _ hmask

theorem proper_infosV6 {addresses : List Text} {prefixLengths : List Int}
    (haddresses : ∀ t ∈ addresses, t.length < 2 ^ 32 ∧ t ≠ [':'])
    (hlens : ∀ p ∈ prefixLengths, (UInt8.ofInt p).toNat ≤ 128)
    (hlen : addresses.length = prefixLengths.length) :
    ∀ item ∈ infosV6 addresses prefixLengths, Proper item := by
  intro item hitem
  obtain ⟨i, hi, rfl⟩ := List.mem_map.mp hitem
  have hi := List.mem_range.mp hi
  have address := haddresses _ (getD_mem hi [])
  refine (proper_ofString address.1 address.2).bind fun a _ => ?_
  obtain ⟨m, hm, -⟩ := packedV6FromPrefixLength_spec (hlens _ (getD_mem (hlen ▸ hi) 0))
  rw [hm]
  exact (proper_ok m).bind fun _ _ => proper_ok _

/-- At a readable dictionary both functions return. -/
theorem addIPAddressV4InfoFromKey_defined {value : Option Dictionary}
    (h : ∀ v ∈ value, v.Readable) (ipAddressInfos : IPAddressInfos) :
    ∃ result, addIPAddressV4InfoFromKey value ipAddressInfos = .ok result := by
  cases value with
  | none => exact ⟨_, rfl⟩
  | some value =>
      obtain ⟨haddress, hnetmask, -⟩ := h value rfl
      rw [addIPAddressV4InfoFromKey]
      split
      · refine addIPAddressInfos_defined (proper_infosV4 ?_ hnetmask) _
        cases haddresses : value.addresses with
        | none => exact fun t ht => absurd ht List.not_mem_nil
        | some addresses => exact haddress addresses haddresses
      · exact ⟨_, rfl⟩

theorem addIPAddressV6InfoFromKey_defined {value : Option Dictionary}
    (h : ∀ v ∈ value, v.Readable) (ipAddressInfos : IPAddressInfos) :
    ∃ result, addIPAddressV6InfoFromKey value ipAddressInfos = .ok result := by
  cases value with
  | none => exact ⟨_, rfl⟩
  | some value =>
      obtain ⟨haddress, -, hlens⟩ := h value rfl
      rw [addIPAddressV6InfoFromKey]
      split
      · refine addIPAddressInfos_defined (proper_infosV6 ?_ ?_ ‹_›) _
        · cases haddresses : value.addresses with
          | none => exact fun t ht => absurd ht List.not_mem_nil
          | some addresses => exact haddress addresses haddresses
        · cases hlengths : value.prefixLength with
          | none => exact fun p hp => absurd hp List.not_mem_nil
          | some prefixLengths => exact hlens prefixLengths hlengths
      · exact ⟨_, rfl⟩

end MacOS

end NetworkInterface
