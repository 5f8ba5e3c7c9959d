import NetworkInterface.Helper.MacAddress
import NetworkInterface.Support.Separation

/-!
# Bindings — Structure

`nih_network_interface_t`, the structure the C bindings copy an `Interface` into: its texts come
from `strdup`, its two lists from `new[]`, with a null pointer behind the last text, and the
structure itself from `new`.  Each kind of block has its own way to be freed, and to free it
otherwise is undefined, as it is to read a slot that was not written.

`triple_make`: `make_nih_network_interface` allocates what `Nih` describes, and nothing else.
`triple_delete`: `delete_nih_network_interface` frees all of that, and nothing else.

There is always memory: neither `new` nor `strdup` fails.
-/

namespace NetworkInterface.Bindings

open Support.Separation

/-! ### The blocks -/

/-- A pointer.  `none`: the null pointer. -/
abbrev Pointer := Option Nat

/-- `nih_network_interface_t`. -/
structure NihNetworkInterface where
  id : Pointer := none
  description : Pointer := none
  /-- `alias`, which is a keyword here. -/
  aliasName : Pointer := none
  macAddress : MacAddress := Vector.replicate 6 0
  ipAddresses : Pointer := none
  gateways : Pointer := none
  /-- The value of the enumerator. -/
  type : Nat := 0
  isEnabled : Bool := false
  isConnected : Bool := false
  isVirtual : Bool := false

/-- A block. -/
inductive Block where
  /-- Of `malloc`, by `strdup`: a C string. -/
  | chars (text : Text)
  /-- Of `new nih_string_t[]`.  `none`: a slot that was not written yet. -/
  | strings (slots : List (Option Pointer))
  /-- Of `new nih_network_interface_t()`. -/
  | intfc (fields : NihNetworkInterface)

/-- The values of the enumerators of `Interface::Type`, which are those of
`nih_network_interface_type_e`. -/
def typeValue : Interface.Type → Nat
  | .none     => 0
  | .loopback => 1
  | .ethernet => 2
  | .wifi     => 3
  | .awdl     => 4

/-! ### Memory -/

variable (allocator : Allocator Block)

def strdup (s : Text) : Program Block Pointer := do
  let a ← alloc allocator (.chars (cStr s))
  return some a

/-- `std::free`. -/
def stdFree : Pointer → Program Block Unit
  | none   => return ()
  | some a => do
      match ← load a with
      | .chars _ => free a
      | _        => undefined

/-- `array[i] = p`. -/
def setSlot (array i : Nat) (p : Pointer) : Program Block Unit := do
  match ← load array with
  | .strings slots =>
      if i < slots.length then store array (.strings (slots.set i (some p))) else undefined
  | _              => undefined

/-- The slots of an array. -/
def slotsOf (array : Nat) : Program Block (List (Option Pointer)) := do
  match ← load array with
  | .strings slots => return slots
  | _              => undefined

/-- `delete[]`. -/
def deleteStrings (array : Nat) : Program Block Unit := do
  let _ ← slotsOf array
  free array

/-- The members of the structure. -/
def membersOf (ifc : Nat) : Program Block NihNetworkInterface := do
  match ← load ifc with
  | .intfc fields => return fields
  | _             => undefined

/-- A member of the structure is assigned. -/
def setMember (ifc : Nat) (set : NihNetworkInterface → NihNetworkInterface) :
    Program Block Unit := do
  let fields ← membersOf ifc
  store ifc (.intfc (set fields))

/-- `delete`. -/
def deleteStructure (ifc : Nat) : Program Block Unit := do
  let _ ← membersOf ifc
  free ifc

/-! ### The structure is made -/

/-- A member that is a text. -/
def setText (ifc : Nat) (set : Pointer → NihNetworkInterface → NihNetworkInterface) (s : Text) :
    Program Block Unit := do
  let p ← strdup allocator s
  setMember ifc (set p)

/-- The loop over `ipAddressInfos`, or over `gateways`, from the `i`-th element on. -/
def copyStrings (array : Nat) : Nat → List Text → Program Block Unit
  | _, []         => return ()
  | i, s :: texts => do
      let p ← strdup allocator s
      setSlot array i p
      copyStrings array (i + 1) texts

/-- `ip_addresses`, or `gateways`. -/
def setStrings (ifc : Nat) (set : Pointer → NihNetworkInterface → NihNetworkInterface)
    (texts : List Text) : Program Block Unit := do
  if texts.isEmpty then
    setMember ifc (set none)
  else
    let count := texts.length
    let array ← alloc allocator (.strings (List.replicate (count + 1) none))
    setMember ifc (set (some array))
    copyStrings allocator array 0 texts
    setSlot array count none

/-- `make_nih_network_interface`. -/
def makeNihNetworkInterface (intfc : Interface) : Program Block Pointer := do
  let ifc ← alloc allocator (.intfc {})
  setText allocator ifc (fun p fields => { fields with id := p }) intfc.id
  setText allocator ifc (fun p fields => { fields with description := p }) intfc.description
  setText allocator ifc (fun p fields => { fields with aliasName := p }) intfc.aliasName
  setMember ifc fun fields => { fields with macAddress := intfc.macAddress }
  setStrings allocator ifc (fun p fields => { fields with ipAddresses := p })
    (intfc.ipAddressInfos.map fun info => info.address.toText)
  setStrings allocator ifc (fun p fields => { fields with gateways := p })
    (intfc.gateways.map IPAddress.toText)
  setMember ifc fun fields => { fields with type := typeValue intfc.type }
  setMember ifc fun fields => { fields with isEnabled := intfc.isEnabled }
  setMember ifc fun fields => { fields with isConnected := intfc.isConnected }
  setMember ifc fun fields => { fields with isVirtual := intfc.isVirtual }
  return some ifc

/-! ### The structure is freed -/

/-- `while (*ptr != nullptr)`, at the slots from `ptr` on.  To read beyond the last one is
undefined. -/
def freeStrings : List (Option Pointer) → Program Block Unit
  | some (some a) :: slots => do
      stdFree (some a)
      freeStrings slots
  | some none :: _         => return ()
  | _                      => undefined

/-- `ip_addresses`, or `gateways`. -/
def freeList : Pointer → Program Block Unit
  | none       => return ()
  | some array => do
      freeStrings (← slotsOf array)
      deleteStrings array

/-- `delete_nih_network_interface`. -/
def deleteNihNetworkInterface : Pointer → Program Block Unit
  | none     => return ()
  | some ifc => do
      let fields ← membersOf ifc
      stdFree fields.id
      stdFree fields.description
      stdFree fields.aliasName
      freeList fields.ipAddresses
      freeList fields.gateways
      deleteStructure ifc

/-! ### What is allocated -/

/-- A copy of the text. -/
def Chars : Pointer → Text → Assertion Block
  | none, _   => fun _ => False
  | some a, s => pointsTo a (.chars (cStr s))

/-- A copy of each of the texts. -/
def Copies : List Nat → List Text → Assertion Block
  | [], []                  => emp
  | a :: copies, s :: texts => sep (Chars (some a) s) (Copies copies texts)
  | _, _                    => fun _ => False

/-- Slots that were written. -/
def written (copies : List Nat) : List (Option Pointer) := copies.map fun a => some (some a)

/-- A list of texts, with a null pointer behind the last one; a null pointer when there is none. -/
def Strings : Pointer → List Text → Assertion Block
  | none, texts       => only (texts = []) emp
  | some array, texts => any fun copies =>
      sep (pointsTo array (.strings (written copies ++ [some none]))) (Copies copies texts)

/-- The members that are no pointers. -/
structure SameScalars (fields : NihNetworkInterface) (intfc : Interface) : Prop where
  macAddress : fields.macAddress = intfc.macAddress
  type : fields.type = typeValue intfc.type
  isEnabled : fields.isEnabled = intfc.isEnabled
  isConnected : fields.isConnected = intfc.isConnected
  isVirtual : fields.isVirtual = intfc.isVirtual

/-- What the members of a structure point to. -/
def Owned (fields : NihNetworkInterface) (intfc : Interface) : List (Assertion Block) :=
  [Chars fields.id intfc.id, Chars fields.description intfc.description,
    Chars fields.aliasName intfc.aliasName,
    Strings fields.ipAddresses (intfc.ipAddressInfos.map fun info => info.address.toText),
    Strings fields.gateways (intfc.gateways.map IPAddress.toText)]

/-- A structure that is a copy of the interface. -/
def Nih : Pointer → Interface → Assertion Block
  | none, _         => fun _ => False
  | some ifc, intfc => any fun fields => only (SameScalars fields intfc)
      (sepAll (pointsTo ifc (.intfc fields) :: Owned fields intfc))

/-! ### The rules of the blocks -/

section
variable {a array ifc i : Nat} {s : Text} {slots : List (Option Pointer)}
  {fields : NihNetworkInterface}

theorem triple_strdup (s : Text) : Triple emp (strdup allocator s) fun p => Chars p s :=
  (triple_alloc allocator _).bind fun _ => .pure fun _ h => h

theorem triple_stdFree (p : Pointer) (s : Text) : Triple (Chars p s) (stdFree p) fun _ => emp := by
  cases p with
  | none => exact fun _ _ _ h => h.elim
  | some a =>
      exact (triple_load a _).bind fun _ => .only fun hb => by
        subst hb
        exact triple_free a _

theorem triple_slotsOf :
    Triple (pointsTo array (.strings slots)) (slotsOf array) fun found =>
      only (found = slots) (pointsTo array (.strings slots)) :=
  (triple_load array _).bind fun _ => .only fun hb => by
    subst hb
    exact .pure fun _ h => ⟨rfl, h⟩

theorem triple_setSlot (hi : i < slots.length) (p : Pointer) :
    Triple (pointsTo array (.strings slots)) (setSlot array i p) fun _ =>
      pointsTo array (.strings (slots.set i (some p))) :=
  (triple_load array _).bind fun _ => .only fun hb => by
    subst hb
    change Triple _ (if i < slots.length then _ else _) _
    rw [if_pos hi]
    exact triple_store array _ _

theorem triple_deleteStrings :
    Triple (pointsTo array (.strings slots)) (deleteStrings array) fun _ => emp :=
  triple_slotsOf.bind fun _ => .only fun _ => triple_free array _

theorem triple_membersOf :
    Triple (pointsTo ifc (.intfc fields)) (membersOf ifc) fun found =>
      only (found = fields) (pointsTo ifc (.intfc fields)) :=
  (triple_load ifc _).bind fun _ => .only fun hb => by
    subst hb
    exact .pure fun _ h => ⟨rfl, h⟩

theorem triple_setMember (set : NihNetworkInterface → NihNetworkInterface) :
    Triple (pointsTo ifc (.intfc fields)) (setMember ifc set) fun _ =>
      pointsTo ifc (.intfc (set fields)) :=
  triple_membersOf.bind fun _ => .only fun hfound => by
    subst hfound
    exact triple_store ifc _ _

theorem triple_deleteStructure :
    Triple (pointsTo ifc (.intfc fields)) (deleteStructure ifc) fun _ => emp :=
  triple_membersOf.bind fun _ => .only fun _ => triple_free ifc _

end

/-! ### The structure is made -/

theorem written_concat (copies : List Nat) (a : Nat) :
    written (copies ++ [a]) = written copies ++ [some (some a)] := List.map_append

/-- The loop, when the slots before `i` are written. -/
theorem triple_copyStrings (array : Nat) (texts : List Text) (copied : List Nat) :
    Triple (pointsTo array (.strings (written copied ++ List.replicate (texts.length + 1) none)))
      (copyStrings allocator array copied.length texts) fun _ => any fun copies =>
        only (copies.length = texts.length)
          (sep (pointsTo array (.strings (written (copied ++ copies) ++ [none])))
            (Copies copies texts)) := by
  induction texts generalizing copied with
  | nil =>
      refine .pure fun heap h => ⟨[], rfl, ?_⟩
      change sep (pointsTo array (.strings (written (copied ++ []) ++ [none]))) emp heap
      rw [List.append_nil, sep_emp]
      exact h
  | cons s texts ih =>
      refine ((triple_strdup allocator s).beside _).bind fun p => ?_
      obtain _ | a := p
      · rintro _ _ - ⟨_, _, -, -, hfalse, -⟩
        exact hfalse.elim
      have hi : copied.length <
          (written copied ++ List.replicate ((s :: texts).length + 1) none).length := by
        simp [written]
      have hset : (written copied ++ List.replicate ((s :: texts).length + 1) none).set
          copied.length (some (some a)) =
          written (copied ++ [a]) ++ List.replicate (texts.length + 1) none := by
        have hlen : copied.length = (written copied).length := (List.length_map _).symm
        rw [written_concat, hlen, List.set_append_right _ _ (Nat.le_refl _), Nat.sub_self,
          List.append_assoc]
        rfl
      refine ((triple_setSlot hi (some a)).frameLeft _).bind fun _ => ?_
      rw [hset]
      have rest := ih (copied ++ [a])
      rw [List.length_append] at rest
      refine (rest.frameLeft (Chars (some a) s)).consequence (fun _ h => h) fun _ heap h => ?_
      rw [sep_comm, any_sep] at h
      obtain ⟨copies, h⟩ := h
      rw [only_sep] at h
      obtain ⟨hlen, h⟩ := h
      refine ⟨a :: copies, congrArg (· + 1) hlen, ?_⟩
      change sep (pointsTo array (.strings (written (copied ++ a :: copies) ++ [none])))
        (sep (Chars (some a) s) (Copies copies texts)) heap
      rw [sep_comm (Chars _ _), ← sep_assoc, List.append_cons copied]
      exact h

section
variable {ifc : Nat} {fields : NihNetworkInterface}
  (set : Pointer → NihNetworkInterface → NihNetworkInterface) (Ps : List (Assertion Block))

theorem triple_setText (s : Text) :
    Triple (sepAll (pointsTo ifc (.intfc fields) :: Ps)) (setText allocator ifc set s) fun _ =>
      any fun p => sepAll (pointsTo ifc (.intfc (set p fields)) :: Chars p s :: Ps) := by
  refine ((triple_strdup allocator s).beside _).bind fun p => ?_
  rw [sepAll, sep_left_comm]
  exact ((triple_setMember (set p)).frame _).consequence (fun _ h => h) fun _ _ h => ⟨p, h⟩

theorem triple_setStrings (texts : List Text) :
    Triple (sepAll (pointsTo ifc (.intfc fields) :: Ps)) (setStrings allocator ifc set texts)
      fun _ => any fun p =>
        sepAll (pointsTo ifc (.intfc (set p fields)) :: Strings p texts :: Ps) := by
  rw [setStrings]
  split
  · rename_i hempty
    refine ((triple_setMember (set none)).frame _).consequence (fun _ h => h)
      fun _ heap h => ⟨none, ?_⟩
    have hnone : Strings none texts = emp :=
      funext fun heap => propext ⟨fun h => h.2, fun h => ⟨List.isEmpty_iff.mp hempty, h⟩⟩
    change sep _ (sep (Strings none texts) (sepAll Ps)) heap
    rw [hnone, emp_sep]
    exact h
  · refine ((triple_alloc allocator _).beside _).bind fun array => ?_
    rw [sepAll, sep_left_comm]
    refine ((triple_setMember (set (some array))).frame _).bind fun _ => ?_
    have copies := triple_copyStrings allocator array texts []
    rw [sep_left_comm]
    refine (copies.frame _).bind fun _ => ?_
    rw [any_sep]
    refine .any fun copies => ?_
    rw [only_sep]
    refine .only fun hlen => ?_
    rw [sep_assoc]
    have hlast : texts.length < (written copies ++ [none]).length := by simp [written, hlen]
    have hset : (written copies ++ [none]).set texts.length (some none) =
        written copies ++ [some none] := by
      rw [← hlen, ← List.length_map (f := fun a => some (some a)), written,
        List.set_append_right _ _ (Nat.le_refl _), Nat.sub_self]
      rfl
    refine ((triple_setSlot hlast none).frame _).consequence (fun _ h => h)
      fun _ heap h => ⟨some array, ?_⟩
    rw [hset, ← sep_assoc, sep_left_comm] at h
    have strings : ∀ heap, sep (pointsTo array (.strings (written copies ++ [some none])))
        (Copies copies texts) heap → Strings (some array) texts heap := fun _ h => ⟨copies, h⟩
    exact sep_mono (fun _ h => h) (fun _ h => sep_mono strings (fun _ h => h) h) h

end

/-- **`make_nih_network_interface`** allocates a copy, and nothing else. -/
theorem triple_make (intfc : Interface) :
    Triple emp (makeNihNetworkInterface allocator intfc) fun p => Nih p intfc := by
  refine (triple_alloc allocator _).bind fun ifc => ?_
  rw [← sep_emp (pointsTo ifc _)]
  refine (triple_setText allocator _ [] _).bind fun _ => .any fun id => ?_
  refine (triple_setText allocator _ _ _).bind fun _ => .any fun description => ?_
  refine (triple_setText allocator _ _ _).bind fun _ => .any fun aliasName => ?_
  refine ((triple_setMember _).frame _).bind fun _ => ?_
  refine (triple_setStrings allocator _ _ _).bind fun _ => .any fun ipAddresses => ?_
  refine (triple_setStrings allocator _ _ _).bind fun _ => .any fun gateways => ?_
  refine ((triple_setMember _).frame _).bind fun _ => ?_
  refine ((triple_setMember _).frame _).bind fun _ => ?_
  refine ((triple_setMember _).frame _).bind fun _ => ?_
  refine ((triple_setMember _).frame _).bind fun _ => ?_
  let fields : NihNetworkInterface :=
    ⟨id, description, aliasName, intfc.macAddress, ipAddresses, gateways, typeValue intfc.type,
      intfc.isEnabled, intfc.isConnected, intfc.isVirtual⟩
  refine .pure fun heap h => ⟨fields, ⟨rfl, rfl, rfl, rfl, rfl⟩, ?_⟩
  -- The members were set in the order in which the structure lists them.
  rw [← sepAll_perm ((List.reverse_perm (Owned fields intfc)).cons _)]
  exact h

/-! ### The structure is freed -/

/-- The loop ends at the null pointer. -/
theorem triple_freeStrings (texts : List Text) (copies : List Nat) :
    Triple (Copies copies texts) (freeStrings (written copies ++ [some none])) fun _ => emp := by
  induction copies generalizing texts with
  | nil =>
      cases texts with
      | nil => exact .pure fun _ h => h
      | cons s texts => exact fun _ _ _ h => h.elim
  | cons a copies ih =>
      cases texts with
      | nil => exact fun _ _ _ h => h.elim
      | cons s texts =>
          refine ((triple_stdFree _ _).frame (Copies copies texts)).bind fun _ => ?_
          rw [emp_sep]
          exact ih texts

theorem triple_freeList (p : Pointer) (texts : List Text) :
    Triple (Strings p texts) (freeList p) fun _ => emp := by
  cases p with
  | none => exact .pure fun _ h => h.2
  | some array =>
      refine .any fun copies => (triple_slotsOf.frame _).bind fun slots => ?_
      rw [only_sep]
      refine .only fun hslots => ?_
      subst hslots
      refine ((triple_freeStrings texts copies).frameLeft _).bind fun _ => ?_
      rw [sep_emp]
      exact triple_deleteStrings

/-- **`delete_nih_network_interface`** frees the copy, and nothing else. -/
theorem triple_delete (p : Pointer) (intfc : Interface) :
    Triple (Nih p intfc) (deleteNihNetworkInterface p) fun _ => emp := by
  obtain _ | ifc := p
  · exact fun _ _ _ h => h.elim
  refine .any fun fields => .only fun _ => (triple_membersOf.frame _).bind fun found => ?_
  rw [only_sep]
  refine .only fun hfound => ?_
  subst hfound
  refine (triple_stdFree _ _).second.bind fun _ => ?_
  refine (triple_stdFree _ _).second.bind fun _ => ?_
  refine (triple_stdFree _ _).second.bind fun _ => ?_
  refine (triple_freeList _ _).second.bind fun _ => ?_
  refine (triple_freeList _ _).second.bind fun _ => ?_
  rw [sepAll, sepAll, sep_emp]
  exact triple_deleteStructure

end NetworkInterface.Bindings
