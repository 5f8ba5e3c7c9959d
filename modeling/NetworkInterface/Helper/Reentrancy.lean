import Mathlib.Data.Finset.Max
import NetworkInterface.Helper.Impl
import NetworkInterface.Support.Runs

/-!
# Helper — Reentrancy

The loop of `notifyObserversMethod`, element by element, with callbacks that call back.  The lock is
recursive, so a callback may register and unregister observers, and may set off other
notifications, whose loops are inside the first.  The loops in progress make a stack.

`_observers` is an `std::set`: erasing an element invalidates the iterators on it and no others, and
incrementing an iterator gives the next greater element of the set as it then is.

A loop whose callbacks do not call back is `Helper.notifyObserversMethod` (`exec_notify`).  As long
as no callback unregisters the observer that a loop is at, nor registers again, ahead of a loop, an
observer unregistered during it, every loop is safe (`loops_safe`).
-/

namespace NetworkInterface

open Support Runs

/-! ### Loops in progress -/

/-- The iterator of a loop over `_observers`. -/
inductive Iterator (O : Type*) where
  /-- On an element, whose callback is running. -/
  | element (obs : O)
  /-- On an element that was erased after the loop had come to it; its callback is running. -/
  | erased (obs : O)
  /-- At `end()`. -/
  | stop
  /-- Incremented from an erased element. -/
  | undefined
  deriving DecidableEq

/-- What happens while a loop is in progress, as far as the loop can tell. -/
inductive Event (O : Type*) where
  /-- The loop calls `obs`. -/
  | called (obs : O)
  /-- A call of `registerObserver` inserts `obs`. -/
  | registered (obs : O)
  /-- A call of `unregisterObserver` erases `obs`. -/
  | unregistered (obs : O)
  deriving DecidableEq

/-- A loop in progress. -/
structure Loop (O : Type*) where
  delivery : Delivery
  iterator : Iterator O
  /-- The observers when the loop began. -/
  before : Finset O
  /-- What happened since. -/
  events : List (Event O)

/-- The helper, and the loops in progress, the innermost first. -/
structure Notifying (O : Type*) where
  helper : Helper O
  loops : List (Loop O) := []

/-- What the thread that holds the lock does. -/
inductive Action (O : Type*) where
  /-- `notifyObserversMethod` is called. -/
  | notify (delivery : Delivery)
  | registerObserver (observer : Option O)
  | unregisterObserver (observer : Option O)
  /-- The callback of the innermost loop returns, and the loop goes on. -/
  | callbackReturns
  /-- The innermost loop is at `end()`, and ends. -/
  | loopEnds

section
variable {O : Type*} [LinearOrder O]

/-- The iterator on the first element, when the elements from there on are `rest`. -/
def Iterator.first (rest : Finset O) : Iterator O :=
  if h : rest.Nonempty then .element (rest.min' h) else .stop

/-- The event of coming to where the iterator is. -/
def Iterator.calls : Iterator O → List (Event O)
  | .element obs => [.called obs]
  | _            => []

/-- The callback of the element the iterator is on. -/
def Helper.callAt (iterator : Iterator O) (delivery : Delivery) (helper : Helper O) : Helper O :=
  match iterator with
  | .element obs => { helper with
      received := Function.update helper.received obs (helper.received obs ++ [delivery]) }
  | _            => helper

namespace Loop

/-- The loop moves its iterator. -/
def reach (loop : Loop O) (iterator : Iterator O) : Loop O :=
  { loop with iterator := iterator, events := loop.events ++ iterator.calls }

/-- `obs` is inserted into the set. -/
def onInsert (obs : O) (loop : Loop O) : Loop O :=
  { loop with events := loop.events ++ [.registered obs] }

/-- `obs` is erased from the set. -/
def onErase (obs : O) (loop : Loop O) : Loop O :=
  { loop with
    iterator := if loop.iterator = .element obs then .erased obs else loop.iterator
    events := loop.events ++ [.unregistered obs] }

/-- A callback of the loop is running. -/
def inCallback (loop : Loop O) : Bool :=
  match loop.iterator with
  | .element _ | .erased _ => true
  | .stop | .undefined     => false

end Loop

namespace Notifying

/-- The code of a callback, or of whoever raises the notifications, is running. -/
def isRunning (s : Notifying O) : Bool := s.loops.head?.all Loop.inCallback

/-- What `registerObserver` does to the loops. -/
def insertInto (observer : Option O) (s : Notifying O) : List (Loop O) :=
  match observer with
  | some obs => if obs ∈ s.helper.observers then s.loops else s.loops.map (Loop.onInsert obs)
  | none     => s.loops

/-- What `unregisterObserver` does to the loops. -/
def eraseFrom (observer : Option O) (s : Notifying O) : List (Loop O) :=
  match observer with
  | some obs => if obs ∈ s.helper.observers then s.loops.map (Loop.onErase obs) else s.loops
  | none     => s.loops

/-- The steps. -/
def next (s : Notifying O) : Action O → Option (Notifying O)
  | .notify delivery =>
      let iterator := Iterator.first s.helper.observers
      if s.isRunning then some
        { helper := s.helper.callAt iterator delivery
          loops := ⟨delivery, iterator, s.helper.observers, iterator.calls⟩ :: s.loops }
      else none
  | .registerObserver observer =>
      if s.isRunning then some
        { helper := (s.helper.registerObserver observer).1, loops := s.insertInto observer }
      else none
  | .unregisterObserver observer =>
      if s.isRunning then some
        { helper := (s.helper.unregisterObserver observer).1, loops := s.eraseFrom observer }
      else none
  | .callbackReturns =>
      match s.loops with
      | []            => none
      | loop :: loops =>
          match loop.iterator with
          | .element obs =>
              let iterator := Iterator.first (s.helper.observers.filter (obs < ·))
              some
                { helper := s.helper.callAt iterator loop.delivery
                  loops := loop.reach iterator :: loops }
          | .erased _ => some { s with loops := loop.reach .undefined :: loops }
          | .stop | .undefined => none
  | .loopEnds =>
      match s.loops with
      | []            => none
      | loop :: loops => if loop.iterator = .stop then some { s with loops := loops } else none

end Notifying

/-! ### Safe loops -/

/-- The loop has been at the place of `obs`. -/
def Iterator.passed : Iterator O → O → Prop
  | .element c, obs              => obs ≤ c
  | .stop, _                     => True
  | .erased _, _ | .undefined, _ => False

/-- A loop goes on from elements of the set only; at its end, it has called each observer that was
registered all along exactly once; and it calls no observer after an `unregisterObserver` that
removed it. -/
structure Loop.Safe (loop : Loop O) : Prop where
  defined : loop.iterator ≠ .undefined
  once : loop.iterator = .stop → ∀ obs ∈ loop.before, .unregistered obs ∉ loop.events →
    loop.events.count (.called obs) = 1
  registered : ∀ obs earlier, earlier ++ [.called obs] <+: loop.events →
    .unregistered obs ∉ earlier

/-- No loop in progress is at the observer that is unregistered, and none that has the observer that
is registered ahead of it has seen it unregistered. -/
def Spares (s : Notifying O) : Action O → Prop
  | .unregisterObserver (some obs) => ∀ loop ∈ s.loops, loop.iterator ≠ .element obs
  | .registerObserver (some obs)   =>
      ∀ loop ∈ s.loops, .unregistered obs ∈ loop.events → loop.iterator.passed obs
  | .notify _ | .registerObserver none | .unregisterObserver none | .callbackReturns
  | .loopEnds                      => True

/-! ### How far a loop is -/

/-- Where a loop is: the observers it has `passed` it has called, those ahead of it not yet, and
these have not been unregistered. -/
structure Progress (observers : Finset O) (passed : O → Prop) (before : Finset O)
    (events : List (Event O)) : Prop where
  kept : ∀ obs ∈ before, .unregistered obs ∉ events → obs ∈ observers
  called : ∀ obs ∈ before, .unregistered obs ∉ events → passed obs →
    events.count (.called obs) = 1
  ahead : ∀ obs ∈ before, .unregistered obs ∉ events → ¬ passed obs →
    events.count (.called obs) = 0
  present : ∀ obs ∈ observers, ¬ passed obs → .unregistered obs ∉ events
  registered : ∀ obs earlier, earlier ++ [.called obs] <+: events → .unregistered obs ∉ earlier

omit [LinearOrder O] in
theorem registered_concat {events : List (Event O)} {event : Event O}
    (h : ∀ obs earlier, earlier ++ [.called obs] <+: events → .unregistered obs ∉ earlier)
    (hevent : ∀ obs, event = .called obs → .unregistered obs ∉ events) :
    ∀ obs earlier, earlier ++ [.called obs] <+: events ++ [event] →
      .unregistered obs ∉ earlier := by
  intro obs earlier hprefix
  rcases List.prefix_concat_iff.mp hprefix with heq | hprefix
  · obtain ⟨rfl, hlast⟩ := List.append_inj' heq rfl
    exact hevent obs (List.cons.inj hlast).1.symm
  · exact h obs earlier hprefix

section
variable {observers before : Finset O} {passed : O → Prop} {events : List (Event O)}

theorem Progress.insert (h : Progress observers passed before events) {new : O}
    (hnew : .unregistered new ∈ events → passed new) :
    Progress (Insert.insert new observers) passed before (events ++ [.registered new]) where
  kept obs hobs hnot :=
    Finset.mem_insert_of_mem (h.kept obs hobs fun hc => hnot (List.mem_append_left _ hc))
  called obs hobs hnot hpassed := by
    rw [List.count_append, h.called obs hobs (fun hc => hnot (List.mem_append_left _ hc)) hpassed]
    rfl
  ahead obs hobs hnot hpassed := by
    rw [List.count_append, h.ahead obs hobs (fun hc => hnot (List.mem_append_left _ hc)) hpassed]
    rfl
  present obs hobs hnot hmem := by
    have hold : .unregistered obs ∈ events := (List.mem_append.mp hmem).resolve_right (by simp)
    rcases Finset.mem_insert.mp hobs with rfl | hobs
    · exact hnot (hnew hold)
    · exact h.present obs hobs hnot hold
  registered := registered_concat h.registered fun _ hc => by cases hc

theorem Progress.erase (h : Progress observers passed before events) (old : O) :
    Progress (observers.erase old) passed before (events ++ [.unregistered old]) where
  kept obs hobs hnot := by
    refine Finset.mem_erase.mpr ⟨fun hc => hnot ?_, ?_⟩
    · rw [hc]
      exact List.mem_append_right _ List.mem_cons_self
    · exact h.kept obs hobs fun hc => hnot (List.mem_append_left _ hc)
  called obs hobs hnot hpassed := by
    rw [List.count_append, h.called obs hobs (fun hc => hnot (List.mem_append_left _ hc)) hpassed]
    rfl
  ahead obs hobs hnot hpassed := by
    rw [List.count_append, h.ahead obs hobs (fun hc => hnot (List.mem_append_left _ hc)) hpassed]
    rfl
  present obs hobs hnot hmem := by
    obtain ⟨hne, hobs⟩ := Finset.mem_erase.mp hobs
    rcases List.mem_append.mp hmem with hold | hnew
    · exact h.present obs hobs hnot hold
    · exact hne (Event.unregistered.inj (List.mem_singleton.mp hnew))
  registered := registered_concat h.registered fun _ hc => by cases hc

/-- The loop calls `c`, the first observer ahead of it. -/
theorem Progress.call (h : Progress observers passed before events) {c : O} (hc : c ∈ observers)
    (hahead : ¬ passed c) {passed' : O → Prop}
    (hpassed : ∀ obs ∈ observers, passed' obs ↔ passed obs ∨ obs = c) :
    Progress observers passed' before (events ++ [.called c]) := by
  have back : ∀ {obs}, .unregistered obs ∉ events ++ [.called c] → .unregistered obs ∉ events :=
    fun hnot hmem => hnot (List.mem_append_left _ hmem)
  refine ⟨fun obs hobs hnot => h.kept obs hobs (back hnot), fun obs hobs hnot hp => ?_,
    fun obs hobs hnot hp => ?_, fun obs hobs hnot => ?_,
    registered_concat h.registered fun obs heq => ?_⟩
  · rw [List.count_append]
    -- called before, or now for the first time
    rcases (hpassed obs (h.kept obs hobs (back hnot))).mp hp with hold | rfl
    · have hne : obs ≠ c := fun heq => hahead (heq ▸ hold)
      rw [h.called obs hobs (back hnot) hold,
        List.count_eq_zero.mpr fun hmem => hne (Event.called.inj (List.mem_singleton.mp hmem))]
    · rw [h.ahead obs hobs (back hnot) hahead, List.count_singleton_self]
  · have hnew := mt (hpassed obs (h.kept obs hobs (back hnot))).mpr hp
    rw [List.count_append, h.ahead obs hobs (back hnot) fun hold => hnew (.inl hold),
      List.count_eq_zero.mpr fun hmem =>
        hnew (.inr (Event.called.inj (List.mem_singleton.mp hmem)))]
  · have hold := mt (hpassed obs hobs).mpr hnot
    intro hmem
    exact h.present obs hobs (fun hc => hold (.inl hc))
      ((List.mem_append.mp hmem).resolve_right (by simp))
  · obtain rfl := Event.called.inj heq
    exact h.present c hc hahead

end

/-- The loop is on an element of the set or at `end()`, and is as far as its iterator says. -/
structure Loop.Inv (observers : Finset O) (loop : Loop O) : Prop where
  valid : loop.iterator = .stop ∨ ∃ obs ∈ observers, loop.iterator = .element obs
  progress : Progress observers loop.iterator.passed loop.before loop.events

theorem Loop.Inv.safe {observers : Finset O} {loop : Loop O} (h : loop.Inv observers) :
    loop.Safe where
  defined := by
    rintro hc
    rcases h.valid with hstop | ⟨obs, -, hobs⟩
    · cases hstop.symm.trans hc
    · cases hobs.symm.trans hc
  once hstop obs hobs hnot := by
    refine h.progress.called obs hobs hnot ?_
    rw [hstop]
    exact trivial
  registered := h.progress.registered

theorem Iterator.first_eq (rest : Finset O) :
    rest = ∅ ∧ Iterator.first rest = .stop ∨
      ∃ c ∈ rest, (∀ obs ∈ rest, c ≤ obs) ∧ Iterator.first rest = .element c := by
  rcases rest.eq_empty_or_nonempty with rfl | hne
  · exact .inl ⟨rfl, rfl⟩
  · exact .inr
      ⟨rest.min' hne, rest.min'_mem hne, fun obs hobs => rest.min'_le obs hobs, dif_pos hne⟩

/-- The loop comes to the first of the elements ahead of it. -/
theorem Progress.first {observers before : Finset O} {passed : O → Prop} {events : List (Event O)}
    (h : Progress observers passed before events) {rest : Finset O} (hsub : rest ⊆ observers)
    (hrest : ∀ obs ∈ observers, obs ∉ rest → passed obs)
    (hahead : ∀ obs, passed obs → ∀ other ∈ rest, obs < other) (delivery : Delivery) :
    Loop.Inv observers ⟨delivery, .first rest, before, events ++ (Iterator.first rest).calls⟩ := by
  rcases Iterator.first_eq rest with ⟨rfl, hfirst⟩ | ⟨c, hc, hleast, hfirst⟩
  · -- nothing is ahead: the loop has passed every observer that is still there
    rw [hfirst]
    refine ⟨.inl rfl, ?_⟩
    have all : ∀ obs ∈ observers, passed obs := fun obs hobs =>
      hrest obs hobs (Finset.notMem_empty obs)
    change Progress observers (fun _ => True) before (events ++ [])
    rw [List.append_nil]
    exact ⟨h.kept, fun obs hobs hnot _ => h.called obs hobs hnot (all obs (h.kept obs hobs hnot)),
      fun _ _ _ hc => absurd trivial hc, fun _ _ hc => absurd trivial hc, h.registered⟩
  · rw [hfirst]
    refine ⟨.inr ⟨c, hsub hc, rfl⟩, ?_⟩
    refine h.call (hsub hc) (fun hc' => lt_irrefl c (hahead c hc' c hc)) fun obs hobs => ?_
    constructor
    · intro hle
      by_cases hmem : obs ∈ rest
      · exact .inr (le_antisymm hle (hleast obs hmem))
      · exact .inl (hrest obs hobs hmem)
    · rintro (hpassed | rfl)
      · exact (hahead obs hpassed c hc).le
      · exact le_refl obs

/-! ### The steps -/

@[simp]
theorem Helper.observers_callAt (iterator : Iterator O) (delivery : Delivery) (helper : Helper O) :
    (helper.callAt iterator delivery).observers = helper.observers := by
  cases iterator <;> rfl

theorem Loop.Inv.onInsert {observers : Finset O} {loop : Loop O} (h : loop.Inv observers) {new : O}
    (hspares : .unregistered new ∈ loop.events → loop.iterator.passed new) :
    (loop.onInsert new).Inv (insert new observers) where
  valid := by
    rcases h.valid with hstop | ⟨obs, hmem, hobs⟩
    · exact .inl hstop
    · exact .inr ⟨obs, Finset.mem_insert_of_mem hmem, hobs⟩
  progress := h.progress.insert hspares

theorem Loop.Inv.onErase {observers : Finset O} {loop : Loop O} (h : loop.Inv observers) {old : O}
    (hspares : loop.iterator ≠ .element old) : (loop.onErase old).Inv (observers.erase old) := by
  have hsame : (loop.onErase old).iterator = loop.iterator := if_neg hspares
  refine ⟨?_, ?_⟩
  · rw [hsame]
    rcases h.valid with hstop | ⟨obs, hmem, hobs⟩
    · exact .inl hstop
    · have hne : obs ≠ old := fun hc => hspares (hc ▸ hobs)
      exact .inr ⟨obs, Finset.mem_erase.mpr ⟨hne, hmem⟩, hobs⟩
  · rw [hsame]
    exact h.progress.erase old

theorem Loop.Inv.callbackReturns {observers : Finset O} {loop : Loop O} (h : loop.Inv observers)
    {c : O} (hc : loop.iterator = .element c) :
    (loop.reach (.first (observers.filter (c < ·)))).Inv observers := by
  have hprogress := h.progress
  rw [hc] at hprogress
  refine hprogress.first (Finset.filter_subset ..) (fun obs hobs hnot => ?_)
    (fun obs hle other hother => ?_) loop.delivery
  · exact not_lt.mp fun hlt => hnot (Finset.mem_filter.mpr ⟨hobs, hlt⟩)
  · exact lt_of_le_of_lt hle (Finset.mem_filter.mp hother).2

/-- A loop that begins. -/
theorem Loop.Inv.begin (observers : Finset O) (delivery : Delivery) :
    Loop.Inv observers
      ⟨delivery, .first observers, observers, (Iterator.first observers).calls⟩ := by
  have start : Progress observers (fun _ => False) observers [] :=
    ⟨fun _ hobs _ => hobs, fun _ _ _ hc => hc.elim, fun _ _ _ _ => rfl,
      fun _ _ _ => List.not_mem_nil,
      fun obs earlier hprefix => absurd (List.prefix_nil.mp hprefix) (by simp)⟩
  exact start.first (Finset.Subset.refl _) (fun obs hobs hnot => absurd hobs hnot)
    (fun _ hc => hc.elim) delivery

namespace Notifying

/-- Every loop in progress is as far as its iterator says. -/
def Inv (s : Notifying O) : Prop := ∀ loop ∈ s.loops, loop.Inv s.helper.observers

theorem Inv.registerObserver {s : Notifying O} (h : s.Inv) {observer : Option O}
    (hspares : Spares s (.registerObserver observer)) :
    Inv ⟨(s.helper.registerObserver observer).1, s.insertInto observer⟩ := by
  cases observer with
  | none => exact h
  | some obs =>
      rw [Helper.registerObserver, insertInto]
      split
      · exact h
      · intro loop hloop
        obtain ⟨loop, hmem, rfl⟩ := List.mem_map.mp hloop
        exact (h loop hmem).onInsert (hspares loop hmem)

theorem Inv.unregisterObserver {s : Notifying O} (h : s.Inv) {observer : Option O}
    (hspares : Spares s (.unregisterObserver observer)) :
    Inv ⟨(s.helper.unregisterObserver observer).1, s.eraseFrom observer⟩ := by
  cases observer with
  | none => exact h
  | some obs =>
      rw [Helper.unregisterObserver, eraseFrom]
      split
      · intro loop hloop
        obtain ⟨loop, hmem, rfl⟩ := List.mem_map.mp hloop
        exact (h loop hmem).onErase (hspares loop hmem)
      · exact h

/-- **One step** that spares the loops in progress keeps the invariant. -/
theorem Inv.next {s s' : Notifying O} {action : Action O} (h : s.Inv)
    (hstep : Meeting Spares (Steps Notifying.next) s action s') : s'.Inv := by
  obtain ⟨hspares, hnext⟩ := hstep
  cases action with
  | notify delivery =>
      obtain ⟨-, ⟨⟩⟩ := Option.ite_none_right_eq_some.mp hnext
      intro loop hloop
      rw [Helper.observers_callAt]
      rcases List.mem_cons.mp hloop with rfl | hmem
      · exact .begin s.helper.observers delivery
      · exact h loop hmem
  | registerObserver observer =>
      obtain ⟨-, ⟨⟩⟩ := Option.ite_none_right_eq_some.mp hnext
      exact h.registerObserver hspares
  | unregisterObserver observer =>
      obtain ⟨-, ⟨⟩⟩ := Option.ite_none_right_eq_some.mp hnext
      exact h.unregisterObserver hspares
  | callbackReturns =>
      rw [Steps, Notifying.next] at hnext
      split at hnext
      · cases hnext
      · rename_i loop loops hloops
        have hinv := h loop (hloops ▸ List.mem_cons_self)
        split at hnext
        · rename_i obs hobs
          obtain rfl := Option.some.inj hnext
          intro other hother
          rw [Helper.observers_callAt]
          rcases List.mem_cons.mp hother with rfl | hmem
          · exact hinv.callbackReturns hobs
          · exact h other (hloops ▸ List.mem_cons_of_mem _ hmem)
        · -- the element was not erased
          rename_i obs hobs
          rcases hinv.valid with hstop | ⟨_, -, helement⟩
          · cases hstop.symm.trans hobs
          · cases helement.symm.trans hobs
        · cases hnext
        · cases hnext
  | loopEnds =>
      rw [Steps, Notifying.next] at hnext
      split at hnext
      · cases hnext
      · rename_i loop loops hloops
        obtain ⟨-, ⟨⟩⟩ := Option.ite_none_right_eq_some.mp hnext
        exact fun other hmem => h other (hloops ▸ List.mem_cons_of_mem _ hmem)

end Notifying

/-! ### Runs -/

/-- **Re-entrant observers are safe**, as long as no loop is at an observer that is unregistered,
and no observer that a loop has seen unregistered is registered again ahead of it. -/
theorem loops_safe {helper : Helper O} {s : Notifying O}
    (h : Reaches (Meeting Spares (Steps Notifying.next)) { helper := helper } s) :
    ∀ loop ∈ s.loops, loop.Safe := by
  have start : Notifying.Inv ⟨helper, []⟩ := fun _ hloop => absurd hloop List.not_mem_nil
  have inv : s.Inv := h.invariant (fun _ _ _ ha hab => Notifying.Inv.next ha hab) start
  exact fun loop hloop => (inv loop hloop).safe

/-- Someone raises a notification. -/
def someDelivery : Delivery := ⟨[], .onInterfaceAdded {}⟩

instance decidablePassed (iterator : Iterator O) (obs : O) : Decidable (iterator.passed obs) :=
  match iterator with
  | .element c             => inferInstanceAs (Decidable (obs ≤ c))
  | .stop                  => inferInstanceAs (Decidable True)
  | .erased _ | .undefined => inferInstanceAs (Decidable False)

instance decidableSpares (s : Notifying O) (action : Action O) : Decidable (Spares s action) :=
  match action with
  | .unregisterObserver (some obs) =>
      inferInstanceAs (Decidable (∀ loop ∈ s.loops, loop.iterator ≠ .element obs))
  | .registerObserver (some obs)   =>
      inferInstanceAs (Decidable
        (∀ loop ∈ s.loops, .unregistered obs ∈ loop.events → loop.iterator.passed obs))
  | .notify _ | .registerObserver none | .unregisterObserver none | .callbackReturns
  | .loopEnds                      => inferInstanceAs (Decidable True)

/-- The first of three observers unregisters the last one, registers a new one and raises another
notification; the second one unregisters the first one and registers it again. -/
def callingBack : List (Action Nat) :=
  [.notify someDelivery, .unregisterObserver (some 2), .registerObserver (some 3),
    .notify someDelivery, .callbackReturns, .callbackReturns, .callbackReturns, .loopEnds,
    .callbackReturns, .unregisterObserver (some 0), .registerObserver (some 0), .callbackReturns,
    .callbackReturns]

theorem loops_safe_callingBack :
    ∃ s loop, exec Notifying.next { helper := { observers := {0, 1, 2} } } callingBack = some s ∧
      s.loops = [loop] ∧ loop.iterator = .stop ∧ loop.Safe := by
  obtain ⟨s, loop, hrun, hloops, hstop⟩ :
      ∃ s loop, exec (guarded Spares Notifying.next) { helper := { observers := {0, 1, 2} } }
          callingBack = some s ∧ s.loops = [loop] ∧ loop.iterator = .stop :=
    ⟨_, _, rfl, rfl, rfl⟩
  have safe : ∀ loop ∈ s.loops, loop.Safe := loops_safe (reaches_of_exec_guarded hrun)
  exact ⟨s, loop, exec_of_guarded hrun, hloops, hstop, safe loop (hloops ▸ List.mem_cons_self)⟩

/-- An observer that unregisters itself while a loop is at it: the loop goes on from the erased
element. -/
theorem undefined_of_unregister {s : Notifying O} {loop : Loop O} {loops : List (Loop O)}
    (hloops : s.loops = loop :: loops) {obs : O} (hat : loop.iterator = .element obs)
    (hobs : obs ∈ s.helper.observers) :
    ∃ s', exec Notifying.next s [.unregisterObserver (some obs), .callbackReturns] = some s' ∧
      ∃ loop' ∈ s'.loops, loop'.iterator = .undefined := by
  have running : s.isRunning = true := by
    simp [Notifying.isRunning, hloops, Loop.inCallback, hat]
  have erased : s.eraseFrom (some obs) = loop.onErase obs :: loops.map (Loop.onErase obs) := by
    rw [Notifying.eraseFrom, if_pos hobs, hloops, List.map_cons]
  have dangling : (loop.onErase obs).iterator = .erased obs := if_pos hat
  have run : exec Notifying.next s [.unregisterObserver (some obs), .callbackReturns] =
      some ⟨(s.helper.unregisterObserver (some obs)).1,
        (loop.onErase obs).reach .undefined :: loops.map (Loop.onErase obs)⟩ := by
    rw [exec, Notifying.next, if_pos running, Option.bind_some, erased, exec, Notifying.next]
    simp only [dangling]
    rfl
  exact ⟨_, run, _, List.mem_cons_self, rfl⟩

theorem next_callbackReturns {s : Notifying O} {loop : Loop O} {loops : List (Loop O)}
    (hloops : s.loops = loop :: loops) {c : O} (hat : loop.iterator = .element c) :
    s.next .callbackReturns = some
      ⟨s.helper.callAt (.first (s.helper.observers.filter (c < ·))) loop.delivery,
        loop.reach (.first (s.helper.observers.filter (c < ·))) :: loops⟩ := by
  rw [Notifying.next, hloops]
  simp only [hat]

/-- Callbacks that return take a loop to any observer ahead of it. -/
theorem exists_called {obs : O} {s : Notifying O} {loop : Loop O} {loops : List (Loop O)} {c : O}
    (hloops : s.loops = loop :: loops) (hat : loop.iterator = .element c) (hahead : c < obs)
    (hobs : obs ∈ s.helper.observers) :
    ∃ n s' loop' earlier, exec Notifying.next s (List.replicate n .callbackReturns) = some s' ∧
      s'.loops = loop' :: loops ∧ loop'.events = earlier ++ [.called obs] ∧
      loop.events <+: earlier := by
  induction hm : (s.helper.observers.filter fun other => c < other ∧ other < obs).card using
    Nat.strongRecOn generalizing s loop c with
  | ind m ih =>
      have hreturns := next_callbackReturns hloops hat
      have hrest : obs ∈ s.helper.observers.filter (c < ·) :=
        Finset.mem_filter.mpr ⟨hobs, hahead⟩
      rcases Iterator.first_eq (s.helper.observers.filter (c < ·)) with
        ⟨hnone, -⟩ | ⟨d, hd, hleast, hfirst⟩
      · rw [hnone] at hrest
        cases Finset.notMem_empty obs hrest
      · obtain ⟨hmem, hlt⟩ := Finset.mem_filter.mp hd
        rw [hfirst] at hreturns
        rcases (hleast obs hrest).eq_or_lt with rfl | hbefore
        · -- it is the next one
          refine ⟨1, ⟨s.helper.callAt (.element d) loop.delivery, loop.reach (.element d) :: loops⟩,
            loop.reach (.element d), loop.events, ?_, rfl, rfl, List.prefix_refl _⟩
          rw [List.replicate_one, exec, hreturns]
          rfl
        · -- the observers between are fewer from there
          have fewer :
              (s.helper.observers.filter fun other => d < other ∧ other < obs).card < m := by
            rw [← hm]
            refine Finset.card_lt_card ⟨fun other hother => ?_, fun hc => ?_⟩
            · obtain ⟨hthere, hgt, hless⟩ := Finset.mem_filter.mp hother
              exact Finset.mem_filter.mpr ⟨hthere, hlt.trans hgt, hless⟩
            · have hback := hc (Finset.mem_filter.mpr ⟨hmem, hlt, hbefore⟩)
              exact lt_irrefl d (Finset.mem_filter.mp hback).2.1
          obtain ⟨n, s', loop', earlier, hrun, hloops', hevents, hprefix⟩ :=
            ih _ fewer (s := ⟨s.helper.callAt (.element d) loop.delivery,
              loop.reach (.element d) :: loops⟩) rfl rfl hbefore hobs rfl
          refine ⟨n + 1, s', loop', earlier, ?_, hloops', hevents,
            (List.prefix_append ..).trans hprefix⟩
          rw [List.replicate_succ, exec, hreturns]
          exact hrun

/-- An observer that a loop has seen unregistered, and that is registered again ahead of it: when
the callbacks have returned, the loop has called it. -/
theorem called_of_register {s : Notifying O} {loop : Loop O} {loops : List (Loop O)}
    (hloops : s.loops = loop :: loops) {c obs : O} (hat : loop.iterator = .element c)
    (hahead : c < obs) (hremoved : .unregistered obs ∈ loop.events) :
    ∃ n s', exec Notifying.next s
        (.registerObserver (some obs) :: List.replicate n .callbackReturns) = some s' ∧
      ∃ loop' ∈ s'.loops, ¬ loop'.Safe := by
  have running : s.isRunning = true := by
    simp [Notifying.isRunning, hloops, Loop.inCallback, hat]
  obtain ⟨helper, loop₁, loops₁, hregisters, hthere, hat₁, hremoved₁⟩ :
      ∃ helper loop₁ loops₁,
        s.next (.registerObserver (some obs)) = some ⟨helper, loop₁ :: loops₁⟩ ∧
        obs ∈ helper.observers ∧ loop₁.iterator = .element c ∧
        .unregistered obs ∈ loop₁.events := by
    rw [Notifying.next, if_pos running, Notifying.insertInto, hloops]
    -- where it is there already, the loop has seen it unregistered none the less
    by_cases hmem : obs ∈ s.helper.observers
    · rw [Helper.registerObserver_of_mem hmem]
      simp only [if_pos hmem]
      exact ⟨_, _, _, rfl, hmem, hat, hremoved⟩
    · rw [Helper.registerObserver_of_notMem hmem]
      simp only [if_neg hmem]
      exact ⟨_, _, _, rfl, Finset.mem_insert_self .., hat, List.mem_append_left _ hremoved⟩
  obtain ⟨n, s', loop', earlier, hrun, hloops', hevents, hcalled⟩ :=
    exists_called (s := ⟨helper, loop₁ :: loops₁⟩) rfl hat₁ hahead hthere
  refine ⟨n, s', ?_, loop', hloops' ▸ List.mem_cons_self, fun safe => ?_⟩
  · rw [exec, hregisters]
    exact hrun
  · exact safe.registered obs earlier (hevents ▸ List.prefix_refl _) (hcalled.subset hremoved₁)

/-- A helper with one observer. -/
def alone : Helper Nat := { observers := {0} }

/-- The one observer is called. -/
def aloneCalled : Notifying Nat where
  helper := alone.callAt (.element 0) someDelivery
  loops := [⟨someDelivery, .element 0, {0}, [.called 0]⟩]

/-- It unregisters itself. -/
theorem not_loops_safe :
    ¬ ∀ (helper : Helper Nat) (s : Notifying Nat),
      Reaches (Steps Notifying.next) { helper := helper } s → ∀ loop ∈ s.loops, loop.Safe := by
  intro h
  have notifies : Steps Notifying.next { helper := alone } (.notify someDelivery) aloneCalled := rfl
  have called : Reaches (Steps Notifying.next) { helper := alone } aloneCalled :=
    .more .refl notifies
  obtain ⟨s', hrun, loop, hmem, hloop⟩ : ∃ s', exec Notifying.next aloneCalled
      [.unregisterObserver (some 0), .callbackReturns] = some s' ∧
        ∃ loop ∈ s'.loops, loop.iterator = .undefined :=
    undefined_of_unregister rfl rfl (Finset.mem_singleton_self 0)
  exact (h alone s' (called.trans (reaches_of_exec hrun)) loop hmem).defined hloop

/-! ### Callbacks that do not call back -/

/-- The observers of `rest` are called. -/
def Helper.callEach (rest : Finset O) (delivery : Delivery) (helper : Helper O) : Helper O :=
  { helper with
    received := fun obs =>
      if obs ∈ rest then helper.received obs ++ [delivery] else helper.received obs }

/-- Calling the observers of `rest` is calling one of them, then the others. -/
theorem Helper.callEach_erase {rest : Finset O} {c : O} (hc : c ∈ rest) (delivery : Delivery)
    (helper : Helper O) :
    (helper.callAt (.element c) delivery).callEach (rest.erase c) delivery =
      helper.callEach rest delivery := by
  refine congrArg (Helper.mk _ _) (funext fun obs => ?_)
  by_cases hobs : obs = c
  · subst hobs
    rw [if_neg (Finset.notMem_erase obs rest), if_pos hc]
    exact Function.update_self ..
  · have hother : (helper.callAt (.element c) delivery).received obs = helper.received obs :=
      Function.update_of_ne hobs ..
    simp only [Finset.mem_erase, hother, hobs, ne_eq, not_false_eq_true, true_and]

/-- Returning callbacks take a loop from the first element of `rest` to its end. -/
theorem exec_callbackReturns (delivery : Delivery) (before : Finset O) (loops : List (Loop O))
    (n : Nat) : ∀ (helper : Helper O) (rest : Finset O) (events : List (Event O)),
      rest.card = n → rest ⊆ helper.observers →
      (∀ obs ∈ helper.observers, ∀ other ∈ rest, other ≤ obs → obs ∈ rest) →
      exec Notifying.next
        ⟨helper.callAt (.first rest) delivery, ⟨delivery, .first rest, before, events⟩ :: loops⟩
        (List.replicate n .callbackReturns ++ [.loopEnds]) =
      some ⟨helper.callEach rest delivery, loops⟩ := by
  induction n with
  | zero =>
      intro helper rest events hcard hsub hupper
      obtain rfl := Finset.card_eq_zero.mp hcard
      rfl
  | succ n ih =>
      intro helper rest events hcard hsub hupper
      rcases Iterator.first_eq rest with ⟨rfl, -⟩ | ⟨c, hc, hleast, hfirst⟩
      · cases hcard
      · -- what is ahead of `c` is `rest` without it
        have ahead : (helper.callAt (.element c) delivery).observers.filter (c < ·) =
            rest.erase c := by
          ext obs
          rw [Helper.observers_callAt, Finset.mem_filter, Finset.mem_erase]
          constructor
          · rintro ⟨hobs, hlt⟩
            exact ⟨hlt.ne', hupper obs hobs c hc hlt.le⟩
          · rintro ⟨hne, hobs⟩
            exact ⟨hsub hobs, lt_of_le_of_ne (hleast obs hobs) (Ne.symm hne)⟩
        rw [hfirst, List.replicate_succ, List.cons_append, exec, Notifying.next]
        simp only [ahead, Option.bind_some]
        rw [← Helper.callEach_erase hc]
        refine ih _ _ _ ?_ ?_ ?_
        · rw [Finset.card_erase_of_mem hc, hcard]
          rfl
        · rw [Helper.observers_callAt]
          exact (Finset.erase_subset c rest).trans hsub
        · intro obs hobs other hother hle
          rw [Helper.observers_callAt] at hobs
          obtain ⟨hne, hmem⟩ := Finset.mem_erase.mp hother
          have hlt : c < obs := (lt_of_le_of_ne (hleast other hmem) (Ne.symm hne)).trans_le hle
          exact Finset.mem_erase.mpr ⟨hlt.ne', hupper obs hobs other hmem hle⟩

/-- **A loop whose callbacks return at once** is `Helper.notifyObserversMethod`. -/
theorem exec_notify {helper : Helper O} {loops : List (Loop O)}
    (hrunning : (⟨helper, loops⟩ : Notifying O).isRunning = true) (delivery : Delivery) :
    exec Notifying.next ⟨helper, loops⟩
      (.notify delivery ::
        (List.replicate helper.observers.card .callbackReturns ++ [.loopEnds])) =
    some ⟨helper.notifyObserversMethod delivery, loops⟩ := by
  rw [exec, Notifying.next, if_pos hrunning, Option.bind_some]
  exact exec_callbackReturns delivery helper.observers loops helper.observers.card helper
    helper.observers (Iterator.first helper.observers).calls rfl (Finset.Subset.refl _)
    fun obs hobs _ _ _ => hobs

end

end NetworkInterface
