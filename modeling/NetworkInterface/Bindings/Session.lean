import NetworkInterface.Address.RoundTrip
import NetworkInterface.Bindings.Structure
import NetworkInterface.Helper.Replica

/-!
# Bindings — Session

A C program that uses the bindings: it is given structures and texts, and frees structures, in any
order, while the interfaces change.  Calls are made under the lock of the helper or after it, so
each is one step; `LA_NIH_enumerateInterfaces` is one step for each structure it hands out.

Whatever the program does (`accounts_of_reaches`), a step is defined unless it frees what it was
not given or frees a structure twice; what it was given and did not free is what is allocated,
beside its own memory, and each structure still reads as the interface did when it was copied.
Nothing frees the texts of `LA_NIH_macAddressToString`: the header names a `LA_NIH_freeString` that
the bindings do not have.
-/

namespace NetworkInterface.Bindings

open Support.Separation Support.Runs

variable (allocator : Allocator Block) {O : Type*} [DecidableEq O]

/-! ### What a C program reads -/

/-- What is read in a structure. -/
structure Reading where
  id : Text
  description : Text
  aliasName : Text
  macAddress : MacAddress
  ipAddresses : List Text
  gateways : List Text
  type : Nat
  isEnabled : Bool
  isConnected : Bool
  isVirtual : Bool

/-- A text. -/
def readText : Pointer → Program Block Text
  | none   => undefined
  | some a => do
      match ← load a with
      | .chars text => return text
      | _           => undefined

/-- The texts of a list, from a slot on, to the null pointer. -/
def readTexts : List (Option Pointer) → Program Block (List Text)
  | some (some a) :: slots => do
      let s ← readText (some a)
      let texts ← readTexts slots
      return s :: texts
  | some none :: _         => return []
  | _                      => undefined

/-- `ip_addresses`, or `gateways`. -/
def readList : Pointer → Program Block (List Text)
  | none       => return []
  | some array => do
      let slots ← slotsOf array
      readTexts slots

/-- A structure. -/
def readStructure : Pointer → Program Block Reading
  | none     => undefined
  | some ifc => do
      let fields ← membersOf ifc
      let id ← readText fields.id
      let description ← readText fields.description
      let aliasName ← readText fields.aliasName
      let ipAddresses ← readList fields.ipAddresses
      let gateways ← readList fields.gateways
      return ⟨id, description, aliasName, fields.macAddress, ipAddresses, gateways, fields.type,
        fields.isEnabled, fields.isConnected, fields.isVirtual⟩

/-- What is read in a copy of the interface. -/
def Reading.of (intfc : Interface) : Reading where
  id := cStr intfc.id
  description := cStr intfc.description
  aliasName := cStr intfc.aliasName
  macAddress := intfc.macAddress
  ipAddresses := intfc.ipAddressInfos.map fun info => cStr info.address.toText
  gateways := intfc.gateways.map fun gateway => cStr gateway.toText
  type := typeValue intfc.type
  isEnabled := intfc.isEnabled
  isConnected := intfc.isConnected
  isVirtual := intfc.isVirtual

theorem triple_readText (p : Pointer) (s : Text) :
    Triple (Chars p s) (readText p) fun text => only (text = cStr s) (Chars p s) := by
  cases p with
  | none => exact fun _ _ _ h => h.elim
  | some a =>
      exact (triple_load a _).bind fun _ => .only fun hb => by
        subst hb
        exact .pure fun _ h => ⟨rfl, h⟩

theorem triple_readTexts (texts : List Text) (copies : List Nat) :
    Triple (Copies copies texts) (readTexts (written copies ++ [some none])) fun read =>
      only (read = texts.map cStr) (Copies copies texts) := by
  induction copies generalizing texts with
  | nil =>
      cases texts with
      | nil => exact .pure fun _ h => ⟨rfl, h⟩
      | cons s texts => exact fun _ _ _ h => h.elim
  | cons a copies ih =>
      cases texts with
      | nil => exact fun _ _ _ h => h.elim
      | cons s texts =>
          refine ((triple_readText (some a) s).frame (Copies copies texts)).bind fun _ => ?_
          rw [only_sep]
          refine .only fun hs => ((ih texts).frameLeft _).bind fun _ => ?_
          rw [sep_comm, only_sep]
          refine .only fun htexts => .pure fun _ h => ⟨?_, ?_⟩
          · rw [hs, htexts, List.map_cons]
          · rwa [sep_comm] at h

theorem triple_readList (p : Pointer) (texts : List Text) :
    Triple (Strings p texts) (readList p) fun read =>
      only (read = texts.map cStr) (Strings p texts) := by
  cases p with
  | none =>
      exact .only fun htexts => by
        subst htexts
        exact .pure fun _ h => ⟨rfl, rfl, h⟩
  | some array =>
      refine .any fun copies => (triple_slotsOf.frame _).bind fun slots => ?_
      rw [only_sep]
      refine .only fun hslots => ?_
      subst hslots
      refine ((triple_readTexts texts copies).frameLeft _).consequence (fun _ h => h)
        fun _ _ h => ?_
      rw [sep_comm, only_sep, sep_comm] at h
      exact ⟨h.1, copies, h.2⟩

theorem triple_readStructure (p : Pointer) (intfc : Interface) :
    Triple (Nih p intfc) (readStructure p) fun reading =>
      only (reading = .of intfc) (Nih p intfc) := by
  obtain _ | ifc := p
  · exact fun _ _ _ h => h.elim
  refine .any fun fields => .only fun hsame => ?_
  refine (triple_membersOf.reads List.mem_cons_self).bind fun found => .only fun hfound => ?_
  subst hfound
  refine ((triple_readText found.id intfc.id).reads (by simp [Owned])).bind fun _ =>
    .only fun hid => ?_
  refine ((triple_readText found.description intfc.description).reads (by simp [Owned])).bind
    fun _ => .only fun hdescription => ?_
  refine ((triple_readText found.aliasName intfc.aliasName).reads (by simp [Owned])).bind
    fun _ => .only fun haliasName => ?_
  refine ((triple_readList found.ipAddresses
    (intfc.ipAddressInfos.map fun info => info.address.toText)).reads (by simp [Owned])).bind
    fun _ => .only fun hipAddresses => ?_
  refine ((triple_readList found.gateways (intfc.gateways.map IPAddress.toText)).reads
    (by simp [Owned])).bind fun _ => .only fun hgateways => ?_
  refine .pure fun _ h => ⟨?_, found, hsame, h⟩
  rw [hid, hdescription, haliasName, hipAddresses, hgateways, hsame.macAddress, hsame.type,
    hsame.isEnabled, hsame.isConnected, hsame.isVirtual, Reading.of, List.map_map, List.map_map]
  rfl

/-! ### The calls -/

/-- What the program was given, next to the heap and to the helper. -/
structure Session (O : Type*) where
  heap : Heap Block
  helper : Helper O
  /-- The structures that were not freed, each with the interface it is a copy of. -/
  held : List (Pointer × Interface) := []
  /-- The texts of `LA_NIH_macAddressToString`. -/
  strings : List (Pointer × Text) := []

/-- What can come next. -/
inductive Event (O : Type*) where
  /-- Something else calls the helper. -/
  | operation (operation : Operation O)
  /-- `LA_NIH_enumerateInterfaces` calls `onInterface` with the `i`-th interface. -/
  | enumerateInterfaces (i : Nat)
  | getInterfaceByName (name : Text)
  | macAddressToString (macAddress : MacAddress) (upperCase : Bool)
  | freeNetworkInterface (intfc : Pointer)

/-- The program is given a structure. -/
def Session.give (intfc : Interface) (session : Session O) : Option (Session O) :=
  (makeNihNetworkInterface allocator intfc session.heap).map fun made =>
    { session with heap := made.2, held := (made.1, intfc) :: session.held }

/-- The program is given a text. -/
def Session.giveText (text : Text) (session : Session O) : Option (Session O) :=
  (strdup allocator text session.heap).map fun made =>
    { session with heap := made.2, strings := (made.1, text) :: session.strings }

/-- The structure goes. -/
def Session.release (p : Pointer) (held : List (Pointer × Interface)) :
    List (Pointer × Interface) :=
  held.eraseP fun copy => copy.1 = p

def Session.next (session : Session O) : Event O → Option (Session O)
  | .operation operation => some { session with helper := operation.exec session.helper }
  | .enumerateInterfaces i =>
      match session.helper.enumerateInterfaces[i]? with
      | some intfc => session.give allocator intfc
      | none       => some session
  -- The null pointer, where `getInterfaceByName` throws.
  | .getInterfaceByName name =>
      match session.helper.getInterfaceByName (cStr name) with
      | .ok intfc => session.give allocator intfc
      | .error _  => some session
  | .macAddressToString macAddress upperCase =>
      session.giveText allocator (macAddressToString macAddress upperCase ':')
  | .freeNetworkInterface p =>
      (deleteNihNetworkInterface p session.heap).map fun made =>
        { session with heap := made.2, held := Session.release p session.held }

/-- What the program may do: it frees nothing but what it holds, or the null pointer. -/
def Session.Allows (session : Session O) : Event O → Prop
  | .freeNetworkInterface p => p = none ∨ ∃ intfc, (p, intfc) ∈ session.held
  | _                       => True

/-! ### What is allocated -/

/-- What the program was given and did not free. -/
def Session.given (session : Session O) : List (Assertion Block) :=
  session.held.map (fun copy => Nih copy.1 copy.2) ++
    session.strings.map fun copy => Chars copy.1 copy.2

/-- It stands beside the memory the program had before. -/
def Session.Owns (heap : Heap Block) (session : Session O) : Prop :=
  sep (· = heap) (sepAll session.given) session.heap

section
variable {session : Session O} {heap : Heap Block}

omit [DecidableEq O] in
theorem Session.Owns.give {intfc : Interface} (h : session.Owns heap) :
    ∃ session', session.give allocator intfc = some session' ∧ session'.Owns heap := by
  obtain ⟨p, heap', hrun, hpart⟩ := ((triple_make allocator intfc).beside _).run h
  refine ⟨{ session with heap := heap', held := (p, intfc) :: session.held }, ?_, ?_⟩
  · rw [Session.give, hrun]
    rfl
  · rw [sep_left_comm] at hpart
    exact hpart

omit [DecidableEq O] in
theorem Session.Owns.giveText {text : Text} (h : session.Owns heap) :
    ∃ session', session.giveText allocator text = some session' ∧ session'.Owns heap := by
  obtain ⟨p, heap', hrun, hpart⟩ := ((triple_strdup allocator text).beside _).run h
  refine ⟨{ session with heap := heap', strings := (p, text) :: session.strings }, ?_, ?_⟩
  · rw [Session.giveText, hrun]
    rfl
  · rw [sep_left_comm] at hpart
    have hperm : (Chars p text :: session.given).Perm
        (session.held.map (fun copy => Nih copy.1 copy.2) ++
          Chars p text :: session.strings.map fun copy => Chars copy.1 copy.2) :=
      List.perm_middle.symm
    change sep _ (sepAll (Chars p text :: session.given)) heap' at hpart
    rw [sepAll_perm hperm] at hpart
    exact hpart

omit [DecidableEq O] in
/-- A structure that is held can be freed. -/
theorem Session.Owns.free {p : Pointer} {intfc : Interface} (h : session.Owns heap)
    (hheld : (p, intfc) ∈ session.held) :
    ∃ heap', deleteNihNetworkInterface p session.heap = some ((), heap') ∧
      ({ session with heap := heap', held := Session.release p session.held }).Owns heap := by
  let isHeld : Pointer × Interface → Bool := fun copy => copy.1 = p
  have hfound : isHeld (p, intfc) = true := decide_eq_true rfl
  obtain ⟨copy, l, r, -, hp, hsplit, hrelease⟩ := List.exists_of_eraseP (p := isHeld) hheld hfound
  obtain rfl := of_decide_eq_true hp
  have hperm : session.given.Perm (Nih copy.1 copy.2 ::
      ({ session with held := l ++ r }).given) := by
    rw [Session.given, hsplit, List.map_append, List.map_cons, List.append_assoc]
    refine List.perm_middle.trans (.cons _ ?_)
    rw [Session.given, List.map_append, List.append_assoc]
    exact .refl _
  rw [Session.Owns, sepAll_perm hperm] at h
  obtain ⟨_, heap', hrun, hpart⟩ :=
    (((triple_delete copy.1 copy.2).frame _).frameLeft _).run h
  refine ⟨heap', hrun, ?_⟩
  rw [emp_sep] at hpart
  rw [Session.release, hrelease]
  exact hpart

/-! ### The structures -/

/-- If the block is a structure, it is the one at `ifc`. -/
def StructureAt (at' : Nat → Prop) (a : Nat) (b : Block) : Prop :=
  ∀ fields, b = .intfc fields → at' a

variable {at' : Nat → Prop}

theorem everywhere_chars (p : Pointer) (s : Text) :
    Everywhere (StructureAt at') (Chars p s) := by
  cases p with
  | none => exact fun _ h => h.elim
  | some a => exact everywhere_pointsTo (by rintro fields ⟨⟩)

theorem everywhere_copies (copies : List Nat) (texts : List Text) :
    Everywhere (StructureAt at') (Copies copies texts) := by
  induction copies generalizing texts with
  | nil =>
      cases texts with
      | nil => exact everywhere_emp
      | cons s texts => exact fun _ h => h.elim
  | cons a copies ih =>
      cases texts with
      | nil => exact fun _ h => h.elim
      | cons s texts => exact (everywhere_chars (some a) s).sep (ih texts)

theorem everywhere_strings (p : Pointer) (texts : List Text) :
    Everywhere (StructureAt at') (Strings p texts) := by
  cases p with
  | none => exact fun heap h => everywhere_emp heap h.2
  | some array =>
      rintro heap ⟨copies, h⟩
      have hslots : StructureAt at' array (.strings (written copies ++ [some none])) := by
        rintro fields ⟨⟩
      exact (everywhere_pointsTo hslots).sep (everywhere_copies copies texts) heap h

theorem everywhere_nih {p : Pointer} (intfc : Interface) (h : ∀ ifc, p = some ifc → at' ifc) :
    Everywhere (StructureAt at') (Nih p intfc) := by
  obtain _ | ifc := p
  · exact fun _ h => h.elim
  rintro heap ⟨fields, -, hpart⟩
  refine everywhere_sepAll (fun P hP => ?_) heap hpart
  simp only [Owned, List.mem_cons, List.not_mem_nil, or_false] at hP
  rcases hP with rfl | rfl | rfl | rfl | rfl | rfl
  · exact everywhere_pointsTo fun _ _ => h ifc rfl
  · exact everywhere_chars _ _
  · exact everywhere_chars _ _
  · exact everywhere_chars _ _
  · exact everywhere_strings _ _
  · exact everywhere_strings _ _

/-- Where there is no structure, none can be freed. -/
theorem delete_eq_none {ifc : Nat} (h : ∀ fields, heap.lookup ifc ≠ some (.intfc fields)) :
    deleteNihNetworkInterface (some ifc) heap = none := by
  have hmembers : membersOf ifc heap = none := by
    change ((heap.lookup ifc).map (·, heap)).bind _ = none
    cases hlookup : heap.lookup ifc with
    | none => rfl
    | some b =>
        cases b with
        | intfc fields => exact absurd hlookup (h fields)
        | chars text => rfl
        | strings slots => rfl
  change (membersOf ifc heap).bind _ = none
  rw [hmembers]
  rfl

omit [DecidableEq O] in
theorem Session.Owns.held_of_lookup (h : session.Owns heap)
    (hheap : ∀ a fields, heap.lookup a ≠ some (.intfc fields)) {ifc : Nat}
    {fields : NihNetworkInterface} (hlookup : session.heap.lookup ifc = some (.intfc fields)) :
    ∃ intfc, (some ifc, intfc) ∈ session.held := by
  let at' (a : Nat) : Prop := ∃ intfc, (some a, intfc) ∈ session.held
  have hbefore : Everywhere (StructureAt at') (· = heap) := by
    rintro _ rfl a b hb fields rfl
    exact absurd hb (hheap a fields)
  have hgiven : Everywhere (StructureAt at') (sepAll session.given) := by
    refine everywhere_sepAll fun P hP => ?_
    rcases List.mem_append.mp hP with hP | hP
    · obtain ⟨copy, hcopy, rfl⟩ := List.mem_map.mp hP
      refine everywhere_nih copy.2 fun ifc hifc => ⟨copy.2, ?_⟩
      rw [← hifc]
      exact hcopy
    · obtain ⟨copy, -, rfl⟩ := List.mem_map.mp hP
      exact everywhere_chars _ _
  exact (hbefore.sep hgiven) session.heap h ifc _ hlookup fields rfl

end

/-! ### Steps -/

section
variable {session session' : Session O} {heap : Heap Block} {event : Event O}

/-- An allowed step is defined, and keeps the accounts. -/
theorem Session.Owns.next (h : session.Owns heap) (hallows : session.Allows event) :
    ∃ session', session.next allocator event = some session' ∧ session'.Owns heap := by
  cases event with
  | operation operation => exact ⟨_, rfl, h⟩
  | enumerateInterfaces i =>
      rw [Session.next]
      split
      · exact h.give allocator
      · exact ⟨session, rfl, h⟩
  | getInterfaceByName name =>
      rw [Session.next]
      split
      · exact h.give allocator
      · exact ⟨session, rfl, h⟩
  | macAddressToString macAddress upperCase => exact h.giveText allocator
  | freeNetworkInterface p =>
      by_cases hheld : ∃ intfc, (p, intfc) ∈ session.held
      · obtain ⟨intfc, hheld⟩ := hheld
        obtain ⟨heap', hrun, howns⟩ := h.free hheld
        exact ⟨_, by rw [Session.next, hrun]; rfl, howns⟩
      · obtain rfl := hallows.resolve_right hheld
        have hrelease : Session.release none session.held = session.held :=
          List.eraseP_of_forall_not fun copy hcopy hc =>
            hheld ⟨copy.2, of_decide_eq_true hc ▸ hcopy⟩
        refine ⟨_, rfl, ?_⟩
        rw [hrelease]
        exact h

/-- **A step** is undefined exactly when it is not allowed. -/
theorem Session.Owns.isSome_next_iff (h : session.Owns heap)
    (hheap : ∀ a fields, heap.lookup a ≠ some (.intfc fields)) (event : Event O) :
    (session.next allocator event).isSome = true ↔ session.Allows event := by
  refine ⟨fun hsome => ?_, fun hallows => ?_⟩
  · cases event with
    | freeNetworkInterface p =>
        by_contra hc
        obtain ⟨hnone, hheld⟩ := not_or.mp hc
        obtain ⟨ifc, rfl⟩ := Option.ne_none_iff_exists'.mp hnone
        have hundefined : deleteNihNetworkInterface (some ifc) session.heap = none :=
          delete_eq_none fun fields hlookup => hheld (h.held_of_lookup hheap hlookup)
        rw [Session.next, hundefined] at hsome
        cases hsome
    | operation _ => trivial
    | enumerateInterfaces _ => trivial
    | getInterfaceByName _ => trivial
    | macAddressToString _ _ => trivial
  · obtain ⟨session', hrun, -⟩ := h.next allocator hallows
    rw [hrun]
    rfl

omit [DecidableEq O] in
/-- What is held reads as the interface did. -/
theorem Session.Owns.read {p : Pointer} {intfc : Interface} (h : session.Owns heap)
    (hheld : (p, intfc) ∈ session.held) :
    (readStructure p session.heap).map Prod.fst = some (.of intfc) := by
  have hmem : Nih p intfc ∈ session.given :=
    List.mem_append_left _ (List.mem_map_of_mem hheld)
  obtain ⟨reading, heap', hrun, hpart⟩ :=
    (((triple_readStructure p intfc).reads hmem).frameLeft _).run h
  rw [sep_comm, only_sep] at hpart
  rw [hrun, ← hpart.1]
  rfl

omit [DecidableEq O] in
theorem occupied_of_mem_given {P : Assertion Block} (h : P ∈ session.given) : Occupied P := by
  rcases List.mem_append.mp h with h | h
  · obtain ⟨⟨p, intfc⟩, -, rfl⟩ := List.mem_map.mp h
    obtain _ | ifc := p
    · exact fun _ h => h.elim
    · rintro heap ⟨fields, -, hpart⟩
      exact (occupied_pointsTo ifc _).sep heap hpart
  · obtain ⟨⟨p, text⟩, -, rfl⟩ := List.mem_map.mp h
    obtain _ | a := p
    · exact fun _ h => h.elim
    · exact occupied_pointsTo a _

omit [DecidableEq O] in
/-- Nothing is left exactly when all was freed. -/
theorem Session.Owns.heap_eq_iff (h : session.Owns heap) :
    session.heap = heap ↔ session.held = [] ∧ session.strings = [] := by
  refine ⟨fun heq => ?_, fun ⟨hheld, hstrings⟩ => ?_⟩
  · have hgiven : session.given = [] := by
      by_contra hc
      obtain ⟨P, Ps, hsplit⟩ := List.exists_cons_of_ne_nil hc
      have hoccupied : Occupied P := occupied_of_mem_given (hsplit ▸ List.mem_cons_self)
      rw [Session.Owns, hsplit] at h
      exact ne_of_sep hoccupied.sep h heq
    obtain ⟨hheld, hstrings⟩ := List.append_eq_nil_iff.mp hgiven
    exact ⟨List.map_eq_nil_iff.mp hheld, List.map_eq_nil_iff.mp hstrings⟩
  · rw [Session.Owns, Session.given, hheld, hstrings] at h
    change sep _ emp _ at h
    rwa [sep_emp] at h

end

/-- A defined step keeps the accounts. -/
theorem Session.Owns.of_next {session session' : Session O} {heap : Heap Block} {event : Event O}
    (h : session.Owns heap) (hheap : ∀ a fields, heap.lookup a ≠ some (.intfc fields))
    (hnext : session.next allocator event = some session') : session'.Owns heap := by
  have hallows := (h.isSome_next_iff allocator hheap event).mp (by rw [hnext]; rfl)
  obtain ⟨session'', hrun, howns⟩ := h.next allocator hallows
  obtain rfl := Option.some.inj (hnext.symm.trans hrun)
  exact howns

omit [DecidableEq O] in
theorem Session.owns_start (heap : Heap Block) (helper : Helper O) :
    Session.Owns heap { heap := heap, helper := helper } := by
  change sep _ emp _
  rw [sep_emp]

/-- **Every session**. -/
theorem accounts_of_reaches {heap : Heap Block}
    (hheap : ∀ a fields, heap.lookup a ≠ some (.intfc fields))
    {helper : Helper O} {session : Session O}
    (h : Reaches (Steps (Session.next allocator)) { heap := heap, helper := helper } session) :
    session.Owns heap ∧
      (∀ event, (session.next allocator event).isSome = true ↔ session.Allows event) ∧
      (∀ p intfc, (p, intfc) ∈ session.held →
        (readStructure p session.heap).map Prod.fst = some (.of intfc)) ∧
      (session.heap = heap ↔ session.held = [] ∧ session.strings = []) := by
  have howns : session.Owns heap :=
    h.invariant (fun _ _ _ hs hstep => hs.of_next allocator hheap hstep)
      (Session.owns_start heap helper)
  exact ⟨howns, howns.isSome_next_iff allocator hheap, fun _ _ => howns.read,
    howns.heap_eq_iff⟩

/-- The program's own memory, and one interface. -/
def atStart : Session Unit where
  heap := Finmap.singleton 0 (.chars "own".toList)
  helper := { networkInterfaces := onlyEn0 1 }

/-- `en0` is copied twice, its MAC address is made a text, and the first copy is freed. -/
def copiesEn0 (p : Pointer) : List (Event Unit) :=
  [.enumerateInterfaces 0, .macAddressToString (en0 1).macAddress true,
    .getInterfaceByName "en0".toList, .freeNetworkInterface p]

/-- Of two copies of an interface one is left. -/
theorem release_pair (p p' : Pointer) (intfc : Interface) :
    Session.release p [(p', intfc), (p, intfc)] = [(p', intfc)] := by
  by_cases hp : p' = p
  · simp [Session.release, hp]
  · simp [Session.release, hp]

theorem exists_exec_copiesEn0 : ∃ (session : Session Unit) (p p' q : Pointer),
    exec (Session.next .lowest) atStart (copiesEn0 p) = some session ∧
      session.held = [(p', en0 1)] ∧
      session.strings = [(q, macAddressToString (en0 1).macAddress true ':')] := by
  have owns : atStart.Owns atStart.heap := Session.owns_start atStart.heap atStart.helper
  have copied {s : Session Unit} (h : s.Owns atStart.heap) :
      ∃ s', s.give .lowest (en0 1) = some s' ∧ s'.Owns atStart.heap := h.give .lowest
  have printed {s : Session Unit} (h : s.Owns atStart.heap) :
      ∃ s', s.giveText .lowest (macAddressToString (en0 1).macAddress true ':') = some s' ∧
        s'.Owns atStart.heap := h.giveText .lowest
  obtain ⟨s₁, hcopy, owns₁⟩ := copied owns
  obtain ⟨⟨p, heap₁⟩, -, rfl⟩ := Option.map_eq_some_iff.mp hcopy
  obtain ⟨s₂, htext, owns₂⟩ := printed owns₁
  obtain ⟨⟨q, heap₂⟩, -, rfl⟩ := Option.map_eq_some_iff.mp htext
  obtain ⟨s₃, hcopy', owns₃⟩ := copied owns₂
  obtain ⟨⟨p', heap₃⟩, -, rfl⟩ := Option.map_eq_some_iff.mp hcopy'
  -- the first copy is freed, whichever address the second has
  have held₁ : (p, en0 1) ∈ [(p', en0 1), (p, en0 1)] :=
    List.mem_cons_of_mem _ List.mem_cons_self
  obtain ⟨heap₄, hfree, -⟩ := owns₃.free held₁
  refine ⟨⟨heap₄, atStart.helper, Session.release p [(p', en0 1), (p, en0 1)],
    [(q, macAddressToString (en0 1).macAddress true ':')]⟩, p, p', q, ?_, release_pair .., rfl⟩
  refine Option.bind_eq_some_iff.mpr ⟨_, hcopy, Option.bind_eq_some_iff.mpr ⟨_, htext,
    Option.bind_eq_some_iff.mpr ⟨_, hcopy', Option.bind_eq_some_iff.mpr ⟨_, ?_, rfl⟩⟩⟩⟩
  rw [Session.next, hfree]
  rfl

/-- One copy and the text are left. -/
theorem accounts_of_reaches_copiesEn0 : ∃ (session : Session Unit) (p p' q : Pointer),
    exec (Session.next .lowest) atStart (copiesEn0 p) = some session ∧
      session.held = [(p', en0 1)] ∧
      session.strings = [(q, macAddressToString (en0 1).macAddress true ':')] ∧
      session.Owns atStart.heap ∧
      (∀ event, (session.next .lowest event).isSome = true ↔ session.Allows event) ∧
      (readStructure p' session.heap).map Prod.fst = some (.of (en0 1)) ∧
      session.heap ≠ atStart.heap := by
  obtain ⟨session, p, p', q, hrun, hheld, hstrings⟩ := exists_exec_copiesEn0
  have hheap : ∀ a fields, atStart.heap.lookup a ≠ some (.intfc fields) := by
    intro a fields hc
    have hmem : a ∈ atStart.heap := Finmap.lookup_isSome.mp (Option.isSome_of_eq_some hc)
    obtain rfl := (Finmap.mem_singleton _ _ _).mp hmem
    rw [atStart, Finmap.lookup_singleton_eq] at hc
    cases hc
  obtain ⟨owns, defined, read, leak⟩ :=
    accounts_of_reaches .lowest hheap (reaches_of_exec hrun)
  refine ⟨session, p, p', q, hrun, hheld, hstrings, owns, defined, read p' (en0 1) ?_, fun hc => ?_⟩
  · rw [hheld]
    exact List.mem_cons_self
  · have none := (leak.mp hc).1
    rw [hheld] at none
    cases none

end NetworkInterface.Bindings
