import Mathlib.Data.Fintype.Defs
import NetworkInterface.Helper.Threads
import NetworkInterface.Support.History

/-!
# Helper — Destruction

An observer that is destroyed while it is registered.  `~Observer` removes it, but runs only once
the destructor of the derived class has completed; a loop that comes to the observer in between
calls a pure virtual method.

No loop does, as long as no derived destructor completes while a loop still has its observer ahead,
and no loop begins before `~Observer` has removed it (`spared_of_reaches`).
-/

namespace NetworkInterface

open Support Runs History

namespace Threads

variable {T O : Type*} [DecidableEq T] [LinearOrder O]

/-! ### Half-destroyed observers -/

/-- The derived destructor of `obs` has completed. -/
def isDestroyed (obs : O) (history : List (Moment T O)) : Bool :=
  history.any fun moment =>
    match moment with
    | .destroyed _ observer => observer = obs
    | _                     => false

/-- The moment is a callback of a loop of notifications. -/
def isNotified : Moment T O → Bool
  | .notified .. => true
  | .inserted .. | .introduced .. | .erased .. | .loopBegins .. | .loopEnds _ | .returned ..
  | .destroyed .. => false

/-- No loop of notifications calls an observer whose derived destructor has completed. -/
def NeverHalfDestroyed (history : List (Moment T O)) : Prop :=
  ∀ before t obs between t' delivery after,
    history ≠ before ++ .destroyed t obs :: between ++ .notified t' obs delivery :: after

/-- A thread at the position is in a loop that has not called `obs` yet. -/
def HasAhead (observers : Finset O) (obs : O) : Position O → Prop
  | .looping _ _ iterator _                                => obs ∈ observers ∧ Ahead iterator obs
  | .outside | .calling _ | .running _ _ | .introducing .. => False

/-- The thread at the position is about to begin a loop of notifications. -/
def AboutToLoop : Position O → Prop
  | .running _ (.notify _ :: _) => True
  | _                           => False

/-- No derived destructor completes while a loop has its observer ahead, and no loop begins while a
registered observer is half destroyed. -/
def InTime (s : Threads T O) : Turn T O → Prop
  | .call _ _       => True
  | .destroy _ obs  => ∀ t, ¬ HasAhead s.helper.observers obs (s.position t)
  | .advance t      => AboutToLoop (s.position t) →
      ∀ obs ∈ s.helper.observers, isDestroyed obs s.history = false

/-! ### The invariant -/

/-- The loops in progress have no half-destroyed observer ahead, and none called one. -/
structure Spared (s : Threads T O) : Prop where
  ahead : ∀ t obs, isDestroyed obs s.history = true →
    ¬ HasAhead s.helper.observers obs (s.position t)
  called : Throughout (fun before moment _ => ∀ t obs delivery,
    moment = .notified t obs delivery → isDestroyed obs before = false) s.history

omit [DecidableEq T] in
theorem spared_empty : Spared ({} : Threads T O) where
  ahead _ _ h := by cases h
  called := throughout_nil _

omit [DecidableEq T] in
theorem isDestroyed_append (obs : O) (history moments : List (Moment T O)) :
    isDestroyed obs (history ++ moments) = (isDestroyed obs history || isDestroyed obs moments) :=
  List.any_append

omit [DecidableEq T] in
theorem HasAhead.mono {observers observers' : Finset O} (hsub : observers ⊆ observers') {obs : O}
    {position : Position O} (h : HasAhead observers obs position) :
    HasAhead observers' obs position := by
  cases position with
  | looping operation delivery iterator rest => exact ⟨hsub h.1, h.2⟩
  | outside => exact h
  | calling operation => exact h
  | running operation rest => exact h
  | introducing operation observer index rest => exact h

theorem HasAhead.acquired {observers : Finset O} {obs : O} {position : Position O}
    (h : HasAhead observers obs position) : 0 < position.acquired := by
  cases position with
  | looping operation delivery iterator rest => exact Nat.two_pos
  | outside => exact h.elim
  | calling operation => exact h.elim
  | running operation rest => exact h.elim
  | introducing operation observer index rest => exact h.elim

/-- A step that destroys nothing. -/
theorem Spared.moves {s : Threads T O} (h : s.Spared) (hinv : s.Inv) {t : T}
    {position : Position O} {moments : List (Moment T O)} {lock : RecursiveMutex T}
    {helper : Helper O} (hmoments : ∀ obs, isDestroyed obs moments = false)
    (hothers : helper.observers ⊆ s.helper.observers ∨ 0 < (s.position t).acquired)
    (hposition : ∀ obs, isDestroyed obs s.history = true →
      ¬ HasAhead helper.observers obs position)
    (hcalled : Throughout (fun before moment _ => ∀ t obs delivery,
      moment = .notified t obs delivery → isDestroyed obs before = false)
      (s.history ++ moments)) :
    Spared { s.moves t position moments with helper := helper, lock := lock } where
  ahead t' obs hdestroyed := by
    change isDestroyed obs (s.history ++ moments) = true at hdestroyed
    rw [isDestroyed_append, hmoments, Bool.or_false] at hdestroyed
    change ¬ HasAhead helper.observers obs (Function.update s.position t position t')
    by_cases ht : t' = t
    · rw [ht, Function.update_self]
      exact hposition obs hdestroyed
    · rw [Function.update_of_ne ht]
      intro hahead
      rcases hothers with hsub | hheld
      · exact h.ahead t' obs hdestroyed (hahead.mono hsub)
      · exact ht (hinv.alone hheld hahead.acquired)
  called := hcalled

omit [DecidableEq T] in
/-- A moment that is not a callback. -/
theorem Spared.called_concat {s : Threads T O} (h : s.Spared) {moment : Moment T O}
    (hmoment : isNotified moment = false) :
    Throughout (fun before moment _ => ∀ t obs delivery,
      moment = .notified t obs delivery → isDestroyed obs before = false)
      (s.history ++ [moment]) :=
  throughout_concat_back h.called fun t obs delivery heq => by
    rw [heq] at hmoment
    cases hmoment

omit [DecidableEq T] in
theorem Spared.called_nil {s : Threads T O} (h : s.Spared) :
    Throughout (fun before moment _ => ∀ t obs delivery,
      moment = .notified t obs delivery → isDestroyed obs before = false) (s.history ++ []) := by
  rw [List.append_nil]
  exact h.called

/-- The derived destructor completes in time. -/
theorem Spared.destroy {s : Threads T O} (h : s.Spared) {t : T} {observer : O}
    {operation : Operation O}
    (hclear : ∀ t, ¬ HasAhead s.helper.observers observer (s.position t)) :
    Spared (s.moves t (.calling operation) [.destroyed t observer]) where
  ahead t' obs hdestroyed := by
    change isDestroyed obs (s.history ++ [.destroyed t observer]) = true at hdestroyed
    change ¬ HasAhead s.helper.observers obs (Function.update s.position t _ t')
    by_cases ht : t' = t
    · rw [ht, Function.update_self]
      exact id
    · rw [Function.update_of_ne ht]
      rw [isDestroyed_append] at hdestroyed
      rcases Bool.or_eq_true_iff.mp hdestroyed with hold | hnew
      · exact h.ahead t' obs hold
      · have heq : observer = obs := by simpa [isDestroyed] using hnew
        rw [← heq]
        exact hclear t'
  called := h.called_concat rfl

/-- **One step** in time keeps the invariant. -/
theorem Spared.next {s s' : Threads T O} {turn : Turn T O} (h : s.Spared) (hinv : s.Inv)
    (hstep : Meeting InTime (Steps Threads.next) s turn s') : s'.Spared := by
  obtain ⟨hok, hnext⟩ := hstep
  cases turn with
  | call t operation =>
      obtain ⟨-, ⟨⟩⟩ := Option.ite_none_right_eq_some.mp hnext
      exact h.moves hinv (fun _ => rfl) (.inl (Finset.Subset.refl _)) (fun _ _ => id) h.called_nil
  | destroy t observer =>
      obtain ⟨-, ⟨⟩⟩ := Option.ite_none_right_eq_some.mp hnext
      exact h.destroy hok
  | advance t =>
      have hsound := hinv.sound t
      cases effect_of_advance hnext with
      | call operation hposition =>
          rw [Steps, Threads.next, advance, hposition] at hnext
          cases hnext
      | destroy observer hposition =>
          rw [Steps, Threads.next, advance, hposition] at hnext
          cases hnext
      | enter operation lock hposition hlock =>
          exact h.moves hinv (fun _ => rfl) (.inl (Finset.Subset.refl _)) (fun _ _ => id)
            h.called_nil
      | leave operation lock hposition hlock =>
          exact h.moves hinv (fun _ => rfl) (.inl (Finset.Subset.refl _)) (fun _ _ => id)
            (h.called_concat rfl)
      | insert operation observer rest hposition =>
          have held := acquired_of_running hposition
          exact h.moves hinv (fun _ => rfl) (.inr held) (fun _ _ => id)
            (h.called_concat rfl)
      | introduce operation observer index rest delivery hposition hentry =>
          exact h.moves hinv (fun _ => rfl) (.inl (Finset.Subset.refl _)) (fun _ _ => id)
            (h.called_concat rfl)
      | introduced operation observer index rest hposition hentry =>
          exact h.moves hinv (fun _ => rfl) (.inl (Finset.Subset.refl _)) (fun _ _ => id)
            h.called_nil
      | erase operation observer rest hposition =>
          exact h.moves hinv (fun _ => rfl) (.inl (Finset.erase_subset ..)) (fun _ _ => id)
            (h.called_concat rfl)
      | assign operation interfaces rest hposition =>
          exact h.moves hinv (fun _ => rfl) (.inl (Finset.Subset.refl _)) (fun _ _ => id)
            h.called_nil
      | loopBegins operation delivery rest lock hposition hlock =>
          refine h.moves hinv (fun _ => rfl) (.inl (Finset.Subset.refl _)) ?_
            (h.called_concat rfl)
          -- in time: nobody who is half destroyed is ahead of a loop that begins
          intro obs hdestroyed hahead
          have clear := hok (by rw [hposition]; exact trivial) obs hahead.1
          exact Bool.false_ne_true (clear.symm.trans hdestroyed)
      | notify operation delivery observer rest hposition =>
          -- nor ahead of one that goes on, or where it is
          have clear : ∀ obs, isDestroyed obs s.history = true →
              ¬ (obs ∈ s.helper.observers ∧ observer ≤ obs) := by
            intro obs hdestroyed
            have ahead := h.ahead t obs hdestroyed
            rwa [hposition] at ahead
          refine h.moves hinv (fun _ => rfl) (.inl (Finset.Subset.refl _)) ?_
            (throughout_concat_back h.called ?_)
          · intro obs hdestroyed hahead
            exact clear obs hdestroyed ⟨hahead.1, ((ahead_filter hahead.1).mp hahead.2).le⟩
          · intro t' obs delivery' heq
            cases heq
            rw [hposition] at hsound
            obtain ⟨-, -, hstop | ⟨obs, hmem, hobs⟩⟩ := hsound
            · cases hstop
            · cases hobs
              exact Bool.eq_false_iff.mpr fun hdestroyed =>
                clear observer hdestroyed ⟨hmem, le_refl observer⟩
      | loopEnds operation delivery rest lock hposition hlock =>
          exact h.moves hinv (fun _ => rfl) (.inl (Finset.Subset.refl _)) (fun _ _ => id)
            (h.called_concat rfl)

/-! ### Runs -/

omit [DecidableEq T] in
theorem Spared.neverHalfDestroyed {s : Threads T O} (h : s.Spared) :
    NeverHalfDestroyed s.history := by
  intro before t obs between t' delivery after heq
  have clear := h.called _ _ _ heq t' obs delivery rfl
  rw [isDestroyed_append] at clear
  have destroyed : isDestroyed obs ((.destroyed t obs : Moment T O) :: between) = true := by
    simp [isDestroyed]
  rw [destroyed, Bool.or_true] at clear
  cases clear

/-- **Never half-destroyed**: in every run whose derived destructors all complete in time, no loop
calls an observer after its derived destructor has completed. -/
theorem neverHalfDestroyed_of_reaches {s : Threads T O}
    (h : Reaches (Meeting InTime (Steps next)) {} s) : NeverHalfDestroyed s.history := by
  have step : ∀ (a : Threads T O) turn b, a.Inv ∧ a.Spared → Meeting InTime (Steps next) a turn b →
      b.Inv ∧ b.Spared := by
    intro a turn b ha hab
    obtain ⟨t, heffect⟩ := effect_of_next hab.2
    exact ⟨ha.1.effect heffect, ha.2.next ha.1 hab⟩
  exact (h.invariant step ⟨inv_empty, spared_empty⟩).2.neverHalfDestroyed

instance decidableHasAhead (observers : Finset O) (obs : O) :
    (position : Position O) → Decidable (HasAhead observers obs position)
  | .looping _ _ iterator _ => inferInstanceAs (Decidable (obs ∈ observers ∧ Ahead iterator obs))
  | .outside | .calling _ | .running _ _ | .introducing .. => inferInstanceAs (Decidable False)

instance decidableAboutToLoop : (position : Position O) → Decidable (AboutToLoop position)
  | .running _ (.notify _ :: _) => inferInstanceAs (Decidable True)
  | .running _ [] | .running _ (.insert _ :: _) | .running _ (.erase _ :: _)
  | .running _ (.assign _ :: _) | .outside | .calling _ | .introducing .. | .looping .. =>
      inferInstanceAs (Decidable False)

instance decidableInTime [Fintype T] (s : Threads T O) :
    (turn : Turn T O) → Decidable (InTime s turn)
  | .call _ _      => inferInstanceAs (Decidable True)
  | .destroy _ obs =>
      inferInstanceAs (Decidable (∀ t, ¬ HasAhead s.helper.observers obs (s.position t)))
  | .advance t     => inferInstanceAs (Decidable (AboutToLoop (s.position t) →
      ∀ obs ∈ s.helper.observers, isDestroyed obs s.history = false))

/-- Thread `false` registers the observer. -/
def registersFalse : List (Turn Bool Bool) :=
  [.call false (.registerObserver (some false)), .advance false, .advance false, .advance false,
    .advance false]

/-- Thread `true` adds `en0`, as far as the first step of the loop. -/
def addsEn0 : List (Turn Bool Bool) :=
  [.call true (.onInterfaceAdded "en0".toList (en0 1)), .advance true, .advance true, .advance true,
    .advance true]

/-- `~Observer` has removed the observer when the event comes. -/
def removedRun : List (Turn Bool Bool) :=
  registersFalse ++ [.destroy false false, .advance false, .advance false, .advance false] ++
    addsEn0

theorem neverHalfDestroyed_of_reaches_removed :
    ∃ s, exec next ({} : Threads Bool Bool) removedRun = some s ∧
      NeverHalfDestroyed s.history := by
  have goes : (exec (guarded InTime next) ({} : Threads Bool Bool) removedRun).isSome = true := by
    decide
  obtain ⟨s, hrun⟩ := Option.isSome_iff_exists.mp goes
  exact ⟨s, exec_of_guarded hrun, neverHalfDestroyed_of_reaches (reaches_of_exec_guarded hrun)⟩

/-- The event comes between the two destructors. -/
theorem not_neverHalfDestroyed :
    ¬ ∀ s : Threads Bool Bool, Reaches (Steps next) {} s → NeverHalfDestroyed s.history := by
  intro h
  obtain ⟨s, hrun, before, between, delivery, hhistory⟩ :
      ∃ s, exec next ({} : Threads Bool Bool)
          (registersFalse ++ [.destroy false false] ++ addsEn0) = some s ∧
        ∃ before between delivery, s.history =
          before ++ .destroyed false false :: between ++ [.notified true false delivery] :=
    ⟨_, rfl, [_, _], [_], _, rfl⟩
  exact h s (reaches_of_exec hrun) before false false between true delivery [] hhistory

end Threads

end NetworkInterface
