import NetworkInterface.Address.Embedding
import NetworkInterface.Address.Walk
import NetworkInterface.Support.Runs

/-!
# Address — Reachable

The objects of a program, and what it can do to them: construct, copy, move, assign, set a value,
and compute with the operators.  An operation that throws has assigned nothing.

`representation`: whatever the operations and their order, the member an object does not use is
zero, and the cached text is the whole text of the current value; `buildIPString` is never given a
text that does not fit.
-/

namespace NetworkInterface
open Support
open Support.Runs (Reaches Steps)

/-! ### Operations -/

/-- The objects of a program, by name.  A name not yet used holds a default-constructed object. -/
abbrev Objects := Nat → IPAddress

/-- What makes an object, from values and from the objects named. -/
inductive Making where
  | default
  | ofV4 (ipv4 : ValueTypeV4)
  | ofV6 (ipv6 : ValueTypeV6)
  | ofPackedV4 (ipv4 : ValueTypePackedV4)
  | ofPackedV6 (ipv6 : ValueTypePackedV6)
  | ofString (ipString : Text)
  | ofCompatible (ipv4 : Nat)
  | ofMapped (ipv4 : Nat)
  | copy (other : Nat)
  | move (other : Nat)
  | getIPV4Compatible (this : Nat)
  | getIPV4Mapped (this : Nat)
  | add (lhs : Nat) (value : UInt32)
  | sub (lhs : Nat) (value : UInt32)
  | and (lhs rhs : Nat)
  | or (lhs rhs : Nat)

/-- The object made.  Copying and moving are defaulted and all members are arrays and enumerators,
so both copy every member and leave the other object as it is. -/
def Making.eval (s : Objects) : Making → Outcome IPAddress
  | default                => .ok .invalid
  | ofV4 ipv4              => .ok (.ofV4 ipv4)
  | ofV6 ipv6              => .ok (.ofV6 ipv6)
  | ofPackedV4 ipv4        => .ok (.ofPackedV4 ipv4)
  | ofPackedV6 ipv6        => .ok (.ofPackedV6 ipv6)
  | ofString ipString      => IPAddress.ofString ipString
  | ofCompatible ipv4      => (s ipv4).ofCompatible
  | ofMapped ipv4          => (s ipv4).ofMapped
  | copy other             => .ok (s other)
  | move other             => .ok (s other)
  | getIPV4Compatible this => (s this).getIPV4Compatible
  | getIPV4Mapped this     => (s this).getIPV4Mapped
  | add lhs value          => (s lhs).add value
  | sub lhs value          => (s lhs).sub value
  | and lhs rhs            => (s lhs).and (s rhs)
  | or lhs rhs             => (s lhs).or (s rhs)

/-- What a program does to the object named first. -/
inductive Statement where
  /-- Construct it, or assign to it. -/
  | put (this : Nat) (making : Making)
  | setValueV4 (this : Nat) (ipv4 : ValueTypeV4)
  | setValueV6 (this : Nat) (ipv6 : ValueTypeV6)
  | setValuePackedV4 (this : Nat) (ipv4 : ValueTypePackedV4)
  | setValuePackedV6 (this : Nat) (ipv6 : ValueTypePackedV6)
  | inc (lhs : Nat)
  | dec (lhs : Nat)

/-- The object an operation is done to. -/
def Statement.target : Statement → Nat
  | put this _              => this
  | setValueV4 this _       => this
  | setValueV6 this _       => this
  | setValuePackedV4 this _ => this
  | setValuePackedV6 this _ => this
  | inc lhs                 => lhs
  | dec lhs                 => lhs

/-- That object afterwards. -/
def Statement.result (s : Objects) : Statement → Outcome IPAddress
  | put _ making               => making.eval s
  | setValueV4 this ipv4       => .ok ((s this).setValueV4 ipv4)
  | setValueV6 this ipv6       => .ok ((s this).setValueV6 ipv6)
  | setValuePackedV4 this ipv4 => .ok ((s this).setValuePackedV4 ipv4)
  | setValuePackedV6 this ipv6 => .ok ((s this).setValuePackedV6 ipv6)
  | inc lhs                    => (s lhs).inc
  | dec lhs                    => (s lhs).dec

/-- The objects after an operation.  An exception leaves them as they were: whatever throws does so
before it assigns.  Undefined behaviour has no outcome. -/
def execute (s : Objects) (op : Statement) : Option Objects :=
  match op.result s with
  | .ok a => some (Function.update s op.target a)
  | .error (.invalidArgument _) => some s
  | .error _ => none

/-- No object has been given a value. -/
def untouched : Objects := fun _ => .invalid

namespace IPAddress

/-! ### The representation -/

/-- The member not in use is zero, and the cached text is the text of the value. -/
structure Represents (a : IPAddress) : Prop where
  v4 : a.type = .v4 → a.ipv6 = zeroV6
  v6 : a.type = .v6 → a.ipv4 = zeroV4
  text : a.type ≠ .none → a.toText = a.currentText

theorem Built.made {a : IPAddress} (h : a.Built) :
    a = IPAddress.invalid ∨ (∃ (b : IPAddress) (v : _), a = b.setValueV4 v) ∨
      ∃ (b : IPAddress) (v : _), a = b.setValueV6 v := by
  cases h with
  | invalid => exact .inl rfl
  | ofV4 v => exact .inr (.inl ⟨_, v, rfl⟩)
  | ofV6 v => exact .inr (.inr ⟨_, v, rfl⟩)
  | setValueV4 v _ => exact .inr (.inl ⟨_, v, rfl⟩)
  | setValueV6 v _ => exact .inr (.inr ⟨_, v, rfl⟩)
  | ofString h =>
      obtain ⟨v, rfl⟩ | ⟨v, rfl⟩ := ofString_ok h
      · exact .inr (.inl ⟨_, v, rfl⟩)
      · exact .inr (.inr ⟨_, v, rfl⟩)

theorem Built.represents {a : IPAddress} (h : a.Built) : a.Represents := by
  have text := h.toText_eq
  obtain rfl | ⟨b, v, rfl⟩ | ⟨b, v, rfl⟩ := h.made
  · exact ⟨fun ht => absurd ht (by decide), fun ht => absurd ht (by decide), text⟩
  · refine ⟨fun _ => ipv6_setValueV4 b v, fun ht => ?_, text⟩
    rw [type_setValueV4] at ht
    cases ht
  · refine ⟨fun ht => ?_, fun _ => ipv4_setValueV6 b v, text⟩
    rw [type_setValueV6] at ht
    cases ht

/-! ### What is made -/

/-- If the call returns an object, the object is one of a program's. -/
def Makes (result : Outcome IPAddress) : Prop := ∀ a, result = .ok a → a.Built

theorem makes_ok {a : IPAddress} (h : a.Built) : Makes (.ok a) := by
  intro b hb
  obtain rfl := Except.ok.inj hb
  exact h

theorem makes_error (e : Failure) : Makes (.error e) := by
  intro b hb
  cases hb

theorem makes_bind {α : Type} (x : Outcome α) {f : α → Outcome IPAddress}
    (hf : ∀ p, Makes (f p)) : Makes (x >>= f) := by
  intro b hb
  obtain ⟨p, -, hp⟩ := Outcome.bind_eq_ok.mp hb
  exact hf p b hp

theorem makes_embed (value : ValueTypePackedV6) (v : IPAddress) : Makes (embed value v) :=
  makes_bind _ fun _ => makes_ok (.ofV6 _)

theorem makes_add (a : IPAddress) (value : UInt32) : Makes (a.add value) := by
  rw [add]
  split
  · exact makes_bind _ fun _ => makes_ok (.ofV4 _)
  · exact makes_bind _ fun _ => makes_ok (.ofV6 _)
  · exact makes_error _

theorem makes_sub (a : IPAddress) (value : UInt32) : Makes (a.sub value) := by
  rw [sub]
  split
  · exact makes_bind _ fun _ => makes_ok (.ofV4 _)
  · exact makes_bind _ fun _ => makes_ok (.ofV6 _)
  · exact makes_error _

theorem makes_and (a b : IPAddress) : Makes (a.and b) := by
  rw [IPAddress.and]
  split
  · exact makes_bind _ fun _ => makes_bind _ fun _ => makes_ok (.ofV4 _)
  · exact makes_bind _ fun _ => makes_bind _ fun _ => makes_ok (.ofV6 _)
  · exact makes_error _

theorem makes_or (a b : IPAddress) : Makes (a.or b) := by
  rw [IPAddress.or]
  split
  · exact makes_bind _ fun _ => makes_bind _ fun _ => makes_ok (.ofV4 _)
  · exact makes_bind _ fun _ => makes_bind _ fun _ => makes_ok (.ofV6 _)
  · exact makes_error _

theorem makes_inc (a : IPAddress) : Makes a.inc := by
  rw [inc]
  split
  · exact makes_add a 1
  · exact makes_add a 1
  · exact makes_error _

theorem makes_dec (a : IPAddress) : Makes a.dec := by
  rw [dec]
  split
  · exact makes_sub a 1
  · exact makes_sub a 1
  · exact makes_error _

theorem makes_getter {get : IPAddress → Outcome IPAddress} {is : IPAddress → Bool}
    (h : Takes get is) (x : IPAddress) : Makes (get x) := by
  cases hx : is x with
  | false =>
      obtain ⟨what, hget⟩ := (h x).2 hx
      rw [hget]
      exact makes_error _
  | true =>
      rw [(h x).1 hx]
      exact makes_ok (.ofV4 _)

end IPAddress

/-! ### Runs -/

/-- What is made of a program's objects is one of them. -/
theorem Making.makes {s : Objects} (hs : ∀ x, (s x).Built) (making : Making) :
    IPAddress.Makes (making.eval s) := by
  cases making with
  | default => exact IPAddress.makes_ok .invalid
  | ofV4 v => exact IPAddress.makes_ok (.ofV4 v)
  | ofV6 v => exact IPAddress.makes_ok (.ofV6 v)
  | ofPackedV4 v => exact IPAddress.makes_ok (.ofV4 _)
  | ofPackedV6 v => exact IPAddress.makes_ok (.ofV6 _)
  | ofString text => exact fun a h => .ofString h
  | ofCompatible x => exact IPAddress.makes_embed _ _
  | ofMapped x => exact IPAddress.makes_embed _ _
  | copy x => exact IPAddress.makes_ok (hs x)
  | move x => exact IPAddress.makes_ok (hs x)
  | getIPV4Compatible x => exact IPAddress.makes_getter IPAddress.takes_compatible _
  | getIPV4Mapped x => exact IPAddress.makes_getter IPAddress.takes_mapped _
  | add x value => exact IPAddress.makes_add _ _
  | sub x value => exact IPAddress.makes_sub _ _
  | and x y => exact IPAddress.makes_and _ _
  | or x y => exact IPAddress.makes_or _ _

theorem Statement.makes {s : Objects} (hs : ∀ x, (s x).Built) (op : Statement) :
    IPAddress.Makes (op.result s) := by
  cases op with
  | put x making => exact making.makes hs
  | setValueV4 x v => exact IPAddress.makes_ok (.setValueV4 _ (hs x))
  | setValueV6 x v => exact IPAddress.makes_ok (.setValueV6 _ (hs x))
  | setValuePackedV4 x v => exact IPAddress.makes_ok (.setValueV4 _ (hs x))
  | setValuePackedV6 x v => exact IPAddress.makes_ok (.setValueV6 _ (hs x))
  | inc x => exact IPAddress.makes_inc _
  | dec x => exact IPAddress.makes_dec _

/-- **A step** changes one object at most, and leaves it one of a program's. -/
theorem execute_built {s s' : Objects} {op : Statement} (h : execute s op = some s')
    (hs : ∀ x, (s x).Built) : ∀ x, (s' x).Built := by
  rw [execute] at h
  cases hr : op.result s with
  | ok a =>
      rw [hr] at h
      obtain rfl := Option.some.inj h
      exact (Function.forall_update_iff s fun _ b => IPAddress.Built b).mpr
        ⟨op.makes hs a hr, fun x _ => hs x⟩
  | error e =>
      rw [hr] at h
      cases e with
      | invalidArgument what =>
          obtain rfl := Option.some.inj h
          exact hs
      | _ => cases h

/-- **A run** leaves every object one of a program's. -/
theorem built_of_reaches {s : Objects} (h : Reaches (Steps execute) untouched s) :
    ∀ x, (s x).Built :=
  h.invariant (fun _ _ _ hs hstep => execute_built hstep hs) fun _ => .invalid

namespace IPAddress

/-- **The representation invariant**, after any operations in any order. -/
theorem representation {s : Objects} (h : Reaches (Steps execute) untouched s) (x : Nat) :
    (s x).Represents ∧ ∀ this : IPAddress, this.currentText.length < ipStringMaxLength :=
  ⟨(built_of_reaches h x).represents, fun this => this.currentText_fits.1⟩

/-- Over a long text, a short one; and an operator that throws. -/
theorem representation_shorter : ∃ s, Reaches (Steps execute) untouched s ∧
    (s 0).Represents ∧ ∀ this : IPAddress, this.currentText.length < ipStringMaxLength := by
  have long : Reaches (Steps execute) untouched _ := Reaches.more .refl
    (rfl : execute untouched (.put 0 (.ofV6 (Vector.replicate 8 0xFFFF))) = some _)
  have short := long.more (rfl : execute _ (.setValueV4 0 #v[1, 2, 3, 4]) = some _)
  have thrown := short.more (rfl : execute _ (.put 0 (.and 0 1)) = some _)
  exact ⟨_, thrown, representation thrown 0⟩

end IPAddress

end NetworkInterface
