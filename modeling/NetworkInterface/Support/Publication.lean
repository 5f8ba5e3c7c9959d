import Mathlib.Logic.Function.Basic
import NetworkInterface.Support.Runs

/-!
# Support — Publication

A register whose value changes, and parties that read it and publish what they have read, in two
steps.  A reading says how many were made before it, and which of the values it is of.

As long as nobody reads while a reading is held, the readings are published in the order in which
they were made (`newest_of_reaches`).  Once somebody does, they may not be (`not_inOrder`).
-/

namespace Support.Publication

open Runs

/-- A reading. -/
structure Reading (V : Type*) where
  /-- How many readings were made before. -/
  number : Nat
  /-- How many values the register had before. -/
  version : Nat
  value : V

/-- The register, what the parties hold and what they have published. -/
structure Board (P V : Type*) where
  value : V
  /-- The values before, the oldest first. -/
  earlier : List V := []
  readings : Nat := 0
  held : P → Option (Reading V) := fun _ => none
  published : List (Reading V) := []

/-- A step. -/
inductive Act (P V : Type*) where
  | change (value : V)
  | read (party : P)
  | publish (party : P)

namespace Board

variable {P V : Type*}

/-- What a party that reads now gets. -/
def reading (b : Board P V) : Reading V := ⟨b.readings, b.earlier.length, b.value⟩

/-- The values so far. -/
def values (b : Board P V) : List V := b.earlier ++ [b.value]

/-- The steps.  A party publishes what it holds before it reads again. -/
def next [DecidableEq P] (b : Board P V) : Act P V → Option (Board P V)
  | .change value  => some { b with value := value, earlier := b.values }
  | .read party    =>
      if (b.held party).isNone then some
        { b with
          readings := b.readings + 1
          held := Function.update b.held party (some b.reading) }
      else none
  | .publish party =>
      (b.held party).map fun reading =>
        { b with
          held := Function.update b.held party none
          published := b.published ++ [reading] }

/-- Nobody reads while a reading is held. -/
def Alone (b : Board P V) : Act P V → Prop
  | .read _                => ∀ party, b.held party = none
  | .change _ | .publish _ => True

/-- The readings are published in the order in which they were made, so the values published never
go back. -/
structure InOrder (b : Board P V) : Prop where
  numbers : b.published.Pairwise fun older newer => older.number < newer.number
  versions : b.published.Pairwise fun older newer => older.version ≤ newer.version

/-! ### Readings are of values -/

/-- The reading was made, and the register had that value. -/
structure Genuine (b : Board P V) (reading : Reading V) : Prop where
  number : reading.number < b.readings
  value : b.values[reading.version]? = some reading.value

/-- What is held or published was read. -/
structure Sound (b : Board P V) : Prop where
  held : ∀ party reading, b.held party = some reading → b.Genuine reading
  published : ∀ reading ∈ b.published, b.Genuine reading

theorem Genuine.version {b : Board P V} {reading : Reading V} (h : b.Genuine reading) :
    reading.version ≤ b.earlier.length := by
  obtain ⟨hlt, -⟩ := List.getElem?_eq_some_iff.mp h.value
  rw [values, List.length_append] at hlt
  exact Nat.le_of_lt_succ hlt

theorem Genuine.change {b : Board P V} {reading : Reading V} (h : b.Genuine reading) (value : V) :
    Genuine { b with value := value, earlier := b.values } reading where
  number := h.number
  value := by
    obtain ⟨hlt, -⟩ := List.getElem?_eq_some_iff.mp h.value
    exact (List.getElem?_append_left hlt).trans h.value

theorem sound_start (value : V) : Sound ({ value := value } : Board P V) where
  held _ _ h := by cases h
  published _ h := by cases h

variable [DecidableEq P]

theorem Sound.read {b : Board P V} (h : b.Sound) (party : P) :
    Sound { b with
      readings := b.readings + 1
      held := Function.update b.held party (some b.reading) } where
  held party' reading hheld := by
    change Function.update b.held party (some b.reading) party' = some reading at hheld
    by_cases hparty : party' = party
    · rw [hparty, Function.update_self] at hheld
      rw [← Option.some.inj hheld]
      exact ⟨Nat.lt_succ_self _, List.getElem?_concat_length⟩
    · rw [Function.update_of_ne hparty] at hheld
      have genuine := h.held party' reading hheld
      exact ⟨Nat.lt_succ_of_lt genuine.number, genuine.value⟩
  published reading hmem :=
    ⟨Nat.lt_succ_of_lt (h.published reading hmem).number, (h.published reading hmem).value⟩

theorem Sound.publish {b : Board P V} (h : b.Sound) {party : P} {reading : Reading V}
    (hheld : b.held party = some reading) :
    Sound { b with
      held := Function.update b.held party none
      published := b.published ++ [reading] } where
  held party' reading' hheld' := by
    change Function.update b.held party none party' = some reading' at hheld'
    by_cases hparty : party' = party
    · rw [hparty, Function.update_self] at hheld'
      cases hheld'
    · rw [Function.update_of_ne hparty] at hheld'
      have genuine := h.held party' reading' hheld'
      exact ⟨genuine.number, genuine.value⟩
  published reading' hmem := by
    have genuine : b.Genuine reading' := by
      rcases List.mem_append.mp hmem with hold | hnew
      · exact h.published reading' hold
      · rw [List.mem_singleton.mp hnew]
        exact h.held party reading hheld
    exact ⟨genuine.number, genuine.value⟩

theorem Sound.next {b b' : Board P V} {act : Act P V} (h : b.Sound)
    (hstep : Steps Board.next b act b') : b'.Sound := by
  cases act with
  | change value =>
      obtain ⟨⟩ := hstep
      exact ⟨fun party reading hheld => (h.held party reading hheld).change value,
        fun reading hmem => (h.published reading hmem).change value⟩
  | read party =>
      obtain ⟨-, ⟨⟩⟩ := Option.ite_none_right_eq_some.mp hstep
      exact h.read party
  | publish party =>
      obtain ⟨reading, hheld, rfl⟩ := Option.map_eq_some_iff.mp hstep
      exact h.publish hheld

/-! ### The order -/

omit [DecidableEq P] in
theorem InOrder.concat {b b' : Board P V} (h : b.InOrder) {reading : Reading V}
    (hnewer : ∀ older ∈ b.published,
      older.number < reading.number ∧ older.version ≤ reading.version)
    (hpublished : b'.published = b.published ++ [reading]) : b'.InOrder where
  numbers := by
    rw [hpublished]
    refine List.pairwise_append.mpr
      ⟨h.numbers, List.pairwise_singleton _ _, fun older hmem r hr => ?_⟩
    rw [List.mem_singleton.mp hr]
    exact (hnewer older hmem).1
  versions := by
    rw [hpublished]
    refine List.pairwise_append.mpr
      ⟨h.versions, List.pairwise_singleton _ _, fun older hmem r hr => ?_⟩
    rw [List.mem_singleton.mp hr]
    exact (hnewer older hmem).2

/-- One reading is held at a time, and it is newer than those published. -/
structure Newest (b : Board P V) : Prop where
  sound : b.Sound
  inOrder : b.InOrder
  single : ∀ party party', b.held party ≠ none → b.held party' ≠ none → party = party'
  newer : ∀ party reading, b.held party = some reading → ∀ older ∈ b.published,
    older.number < reading.number ∧ older.version ≤ reading.version

omit [DecidableEq P] in
theorem newest_start (value : V) : Newest ({ value := value } : Board P V) where
  sound := sound_start value
  inOrder := ⟨List.Pairwise.nil, List.Pairwise.nil⟩
  single _ _ h := absurd rfl h
  newer _ _ h := by cases h

theorem Newest.read {b b' : Board P V} (h : b.Newest) {party : P}
    (halone : ∀ party, b.held party = none) (hstep : Steps Board.next b (.read party) b') :
    b'.Newest := by
  have sound := h.sound.next hstep
  obtain ⟨-, ⟨⟩⟩ := Option.ite_none_right_eq_some.mp hstep
  have reader {party' : P} {reading : Reading V}
      (hheld : Function.update b.held party (some b.reading) party' = some reading) :
      party' = party ∧ reading = b.reading := by
    by_cases hparty : party' = party
    · rw [hparty, Function.update_self] at hheld
      exact ⟨hparty, (Option.some.inj hheld).symm⟩
    · rw [Function.update_of_ne hparty, halone] at hheld
      cases hheld
  refine ⟨sound, ⟨h.inOrder.numbers, h.inOrder.versions⟩, ?_, ?_⟩
  · intro p q hp hq
    obtain ⟨r, hr⟩ := Option.ne_none_iff_exists'.mp hp
    obtain ⟨r', hr'⟩ := Option.ne_none_iff_exists'.mp hq
    exact (reader hr).1.trans (reader hr').1.symm
  · intro p r hr older hmem
    rw [(reader hr).2]
    exact ⟨(h.sound.published older hmem).number, (h.sound.published older hmem).version⟩

theorem Newest.publish {b b' : Board P V} (h : b.Newest) {party : P}
    (hstep : Steps Board.next b (.publish party) b') : b'.Newest := by
  have sound := h.sound.next hstep
  obtain ⟨reading, hheld, rfl⟩ := Option.map_eq_some_iff.mp hstep
  have nobody (p : P) : Function.update b.held party none p = none := by
    by_cases hp : p = party
    · rw [hp, Function.update_self]
    · rw [Function.update_of_ne hp]
      by_contra hc
      exact hp (h.single p party hc (by rw [hheld]; exact Option.some_ne_none _))
  refine ⟨sound, h.inOrder.concat (h.newer party reading hheld) rfl, ?_, ?_⟩
  · exact fun p _ hp _ => absurd (nobody p) hp
  · exact fun p r hr => absurd ((nobody p).symm.trans hr) (Option.some_ne_none r).symm

theorem Newest.next {b b' : Board P V} {act : Act P V} (h : b.Newest)
    (hstep : Meeting Alone (Steps Board.next) b act b') : b'.Newest := by
  obtain ⟨halone, hnext⟩ := hstep
  cases act with
  | change value =>
      have sound := h.sound.next hnext
      obtain ⟨⟩ := hnext
      exact ⟨sound, ⟨h.inOrder.numbers, h.inOrder.versions⟩, h.single, h.newer⟩
  | read party => exact h.read halone hnext
  | publish party => exact h.publish hnext

/-- Read by one party at a time, the register is published in order. -/
theorem newest_of_reaches {value : V} {b : Board P V}
    (h : Reaches (Meeting Alone (Steps next)) { value := value } b) : b.Newest :=
  h.invariant (fun _ _ _ ha hab => ha.next hab) (newest_start value)

theorem held_read {b b' : Board P V} {party : P} (h : Steps next b (.read party) b') :
    b'.held = Function.update b.held party (some b.reading) := by
  obtain ⟨-, ⟨⟩⟩ := Option.ite_none_right_eq_some.mp h
  rfl

theorem held_publish {b b' : Board P V} {party : P} (h : Steps next b (.publish party) b') :
    b'.held = Function.update b.held party none := by
  obtain ⟨reading, -, rfl⟩ := Option.map_eq_some_iff.mp h
  rfl

theorem ne_of_read {b b' : Board P V} {p q : P} {reading : Reading V}
    (hheld : b.held p = some reading) (h : Steps next b (.read q) b') : p ≠ q := by
  obtain ⟨hnone, -⟩ := Option.ite_none_right_eq_some.mp h
  rintro rfl
  rw [hheld] at hnone
  cases hnone

/-- Two parties have read, and the one that read last publishes first. -/
theorem not_inOrder {b b₁ b₂ b₃ : Board P V} (h : b.Sound) {p q : P} {reading : Reading V}
    (hheld : b.held p = some reading) (hread : Steps next b (.read q) b₁)
    (hfirst : Steps next b₁ (.publish q) b₂) (hsecond : Steps next b₂ (.publish p) b₃) :
    ¬ b₃.InOrder := by
  have hne := ne_of_read hheld hread
  have held₁ := held_read hread
  have held₂ := held_publish hfirst
  obtain ⟨newer, hnewer, rfl⟩ := Option.map_eq_some_iff.mp hfirst
  obtain ⟨older, holder, rfl⟩ := Option.map_eq_some_iff.mp hsecond
  rw [held₁, Function.update_self] at hnewer
  rw [held₂, held₁, Function.update_of_ne hne, Function.update_of_ne hne, hheld] at holder
  obtain rfl := Option.some.inj hnewer
  obtain rfl := Option.some.inj holder
  intro horder
  have swapped := (List.pairwise_append.mp horder.numbers).2.2 b.reading
    (List.mem_append_right _ (List.mem_singleton_self _)) reading (List.mem_singleton_self _)
  exact Nat.lt_asymm swapped (h.held p reading hheld).number

end Board

end Support.Publication
