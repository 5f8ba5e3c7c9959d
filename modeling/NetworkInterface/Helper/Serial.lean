import NetworkInterface.Helper.Threads

/-!
# Helper — Serial

Operations on several threads, one after the other: whenever no thread has the lock, the helper is
what the operations that have returned make of it, in the order in which they returned (`serial`).

A step of a thread that has the lock leaves the rest of its operation to do (`finish`), and no other
thread takes a step that matters meanwhile.
-/

namespace NetworkInterface

open Support Runs

variable {T O : Type*} [DecidableEq T] [LinearOrder O]

theorem Helper.hears_hears (observer : O)
    (deliveries deliveries' : List Delivery) (helper : Helper O) :
    (helper.hears observer deliveries).hears observer deliveries' =
      helper.hears observer (deliveries ++ deliveries') := by
  rw [hears, hears, hears]
  dsimp only
  rw [Function.update_self, Function.update_idem, List.append_assoc]

theorem Helper.hears_nil (observer : O) (helper : Helper O) :
    helper.hears observer [] = helper := by
  rw [hears, List.append_nil, Function.update_eq_self]

namespace Threads

/-! ### The rest of an operation -/

/-- The helper, when a thread at the position has done the rest of its operation. -/
def finish (helper : Helper O) : Position O → Helper O
  | .outside | .calling _                => helper
  | .running _ rest                      => runAll helper rest
  | .introducing _ observer index rest   =>
      runAll (helper.hears observer
        ((Helper.introduction helper.networkInterfaces).drop index)) rest
  | .looping _ delivery iterator rest    =>
      runAll { helper with
        received := fun obs =>
          if obs ∈ helper.observers ∧ Ahead iterator obs then
            helper.received obs ++ [delivery]
          else helper.received obs } rest

/-- The operation of a thread that has the lock. -/
def underLock : Position O → Option (Operation O)
  | .outside | .calling _                => none
  | .running operation _                 => some operation
  | .introducing operation _ _ _         => some operation
  | .looping operation _ _ _             => some operation

/-- The operations that have returned, in that order. -/
def operations (history : List (Moment T O)) : List (Operation O) :=
  history.filterMap fun moment =>
    match moment with
    | .returned _ operation => some operation
    | _                     => none

/-- A step under the lock leaves the rest of the operation to do. -/
theorem finish_insert (helper : Helper O) (operation : Operation O) (observer : O)
    (rest : List (Instruction O)) :
    finish { helper with
        observers := insert observer helper.observers
        received := Function.update helper.received observer [] }
      (.introducing operation observer 0 rest) =
        finish helper (.running operation (.insert observer :: rest)) := by
  rw [finish, finish, List.drop_zero, Helper.hears]
  dsimp only
  rw [Function.update_self, List.nil_append, Function.update_idem]
  rfl

theorem finish_introduce {helper : Helper O} {index : Nat} {delivery : Delivery}
    (hentry : (Helper.introduction helper.networkInterfaces)[index]? = some delivery)
    (operation : Operation O) (observer : O) (rest : List (Instruction O)) :
    finish (helper.hears observer [delivery])
      (.introducing operation observer (index + 1) rest) =
        finish helper (.introducing operation observer index rest) := by
  obtain ⟨hlt, hget⟩ := List.getElem?_eq_some_iff.mp hentry
  have drop : (Helper.introduction helper.networkInterfaces).drop index =
      [delivery] ++ (Helper.introduction helper.networkInterfaces).drop (index + 1) := by
    rw [List.drop_eq_getElem_cons hlt, hget]
    rfl
  rw [finish, finish, drop, ← Helper.hears_hears]
  rfl

theorem finish_introduced {helper : Helper O} {index : Nat}
    (hentry : (Helper.introduction helper.networkInterfaces)[index]? = none)
    (operation : Operation O) (observer : O) (rest : List (Instruction O)) :
    finish helper (.running operation rest) =
      finish helper (.introducing operation observer index rest) := by
  rw [finish, finish, List.drop_eq_nil_of_le (List.getElem?_eq_none_iff.mp hentry),
    Helper.hears_nil]

theorem finish_loopBegins (helper : Helper O) (operation : Operation O) (delivery : Delivery)
    (rest : List (Instruction O)) :
    finish helper (.looping operation delivery (.first helper.observers) rest) =
      finish helper (.running operation (.notify delivery :: rest)) := by
  have all : ∀ obs, obs ∈ helper.observers ∧ Ahead (.first helper.observers) obs ↔
      obs ∈ helper.observers := by
    intro obs
    exact and_iff_left_of_imp ahead_first
  simp only [finish, all]
  rfl

theorem finish_notify (helper : Helper O) (operation : Operation O) (delivery : Delivery)
    {observer : O} (hmem : observer ∈ helper.observers) (rest : List (Instruction O)) :
    finish (helper.hears observer [delivery])
      (.looping operation delivery (.first (helper.observers.filter (observer < ·))) rest) =
        finish helper (.looping operation delivery (.element observer) rest) := by
  refine congrArg (runAll · rest) ?_
  refine congrArg (Helper.mk helper.observers helper.networkInterfaces) (funext fun obs => ?_)
  change (if obs ∈ helper.observers ∧
        Ahead (.first (helper.observers.filter (observer < ·))) obs then
      Function.update helper.received observer (helper.received observer ++ [delivery]) obs ++
        [delivery]
    else Function.update helper.received observer (helper.received observer ++ [delivery]) obs) =
    if obs ∈ helper.observers ∧ observer ≤ obs then helper.received obs ++ [delivery]
    else helper.received obs
  by_cases hobs : obs = observer
  · subst hobs
    have called : ¬ (obs ∈ helper.observers ∧
        Ahead (.first (helper.observers.filter (obs < ·))) obs) := by
      intro h
      exact lt_irrefl obs ((ahead_filter h.1).mp h.2)
    rw [Function.update_self, if_neg called, if_pos ⟨hmem, le_refl obs⟩]
  · rw [Function.update_of_ne hobs]
    refine if_congr (and_congr_right fun hmem => ?_) rfl rfl
    rw [ahead_filter hmem]
    exact ⟨le_of_lt, fun h => lt_of_le_of_ne h (Ne.symm hobs)⟩

theorem finish_loopEnds (helper : Helper O) (operation : Operation O) (delivery : Delivery)
    (rest : List (Instruction O)) :
    finish helper (.running operation rest) =
      finish helper (.looping operation delivery .stop rest) := by
  have none : ∀ obs, ¬ (obs ∈ helper.observers ∧ Ahead .stop obs) := fun obs h => h.2
  simp only [finish, none, if_false]

/-- The helper after the operations that have returned. -/
def settled (s : Threads T O) : Helper O := (operations s.history).foldl Operation.exec {}

/-- The operations that have returned made the helper, and the one under the lock is on the way from
there to its end. -/
structure Serial (s : Threads T O) : Prop where
  free : s.lock = .free → s.helper = s.settled
  held : ∀ t operation, underLock (s.position t) = some operation →
    finish s.helper (s.position t) = operation.exec s.settled

omit [LinearOrder O] in
theorem acquired_of_underLock {position : Position O} {operation : Operation O}
    (h : underLock position = some operation) : 0 < position.acquired := by
  cases position with
  | outside => cases h
  | calling operation => cases h
  | running operation rest => exact Nat.one_pos
  | introducing operation observer index rest => exact Nat.one_pos
  | looping operation delivery iterator rest => exact Nat.two_pos

omit [DecidableEq T] in
theorem serial_empty : Serial ({} : Threads T O) where
  free _ := rfl
  held _ _ h := by cases h

/-- A step of the operation that has the lock. -/
theorem Serial.within {s : Threads T O} (h : s.Serial) (hinv : s.Inv) {t : T}
    {position : Position O} {moments : List (Moment T O)} {lock : RecursiveMutex T}
    {helper : Helper O} {operation : Operation O}
    (hinv' : Inv { s.moves t position moments with helper := helper, lock := lock })
    (hold : underLock (s.position t) = some operation) (hnew : underLock position = some operation)
    (hmoments : operations moments = [])
    (hfinish : finish helper position = finish s.helper (s.position t)) :
    Serial { s.moves t position moments with helper := helper, lock := lock } := by
  have settled_eq : settled { s.moves t position moments with helper := helper, lock := lock } =
      s.settled := by
    change (operations (s.history ++ moments)).foldl Operation.exec {} = _
    rw [operations, List.filterMap_append]
    rw [operations] at hmoments
    rw [hmoments, List.append_nil]
    rfl
  refine ⟨fun hfree => ?_, fun t' operation' hunder => ?_⟩
  · have acquired := hinv'.locked t
    change lock.acquisitions t = (Function.update s.position t position t).acquired at acquired
    change lock = .free at hfree
    rw [hfree, Function.update_self] at acquired
    exact absurd acquired (acquired_of_underLock hnew).ne
  · rw [settled_eq]
    change underLock (Function.update s.position t position t') = _ at hunder
    change finish helper (Function.update s.position t position t') = _
    by_cases ht : t' = t
    · subst ht
      rw [Function.update_self] at hunder ⊢
      obtain rfl := Option.some.inj (hnew.symm.trans hunder)
      rw [hfinish]
      exact h.held t' operation hold
    · rw [Function.update_of_ne ht] at hunder
      exact absurd
        (hinv.alone (acquired_of_underLock hold) (acquired_of_underLock hunder)) ht

/-- A thread outside calls an operation. -/
theorem Serial.outside {s : Threads T O} (h : s.Serial) {t : T} {operation : Operation O}
    {moments : List (Moment T O)}
    (hmoments : operations (s.history ++ moments) = operations s.history) :
    Serial (s.moves t (.calling operation) moments) := by
  refine ⟨fun hfree => ?_, fun t' operation' hunder => ?_⟩
  · change s.helper = (operations (s.history ++ moments)).foldl Operation.exec {}
    rw [hmoments]
    exact h.free hfree
  · change underLock (Function.update s.position t (.calling operation) t') = _ at hunder
    change finish s.helper (Function.update s.position t (.calling operation) t') =
      operation'.exec ((operations (s.history ++ moments)).foldl Operation.exec {})
    rw [hmoments]
    by_cases ht : t' = t
    · rw [ht, Function.update_self] at hunder
      cases hunder
    · rw [Function.update_of_ne ht] at hunder ⊢
      exact h.held t' operation' hunder

/-- **One step** of one operation after the other. -/
theorem Serial.effect {s s' : Threads T O} {t : T} (h : s.Serial) (hinv : s.Inv)
    (heffect : Effect s t s') : s'.Serial := by
  have hinv' := hinv.effect heffect
  have hsound := hinv.sound t
  cases heffect with
  | call operation hposition => exact h.outside (congrArg operations (List.append_nil _))
  | destroy observer hposition =>
      refine h.outside ?_
      rw [operations, List.filterMap_append]
      exact List.append_nil _
  | enter operation lock hposition hlock =>
      have hfree : s.lock = .free := by
        refine RecursiveMutex.eq_free_of_lock hlock ?_
        rw [hinv.locked, hposition]
        rfl
      refine ⟨fun hlock' => ?_, fun t' operation' hunder => ?_⟩
      · have acquired := hinv'.locked t
        change lock.acquisitions t =
          (Function.update s.position t (.running operation _) t).acquired at acquired
        change lock = .free at hlock'
        rw [hlock', Function.update_self] at acquired
        cases acquired
      · change underLock (Function.update s.position t _ t') = _ at hunder
        change finish s.helper (Function.update s.position t _ t') =
          operation'.exec ((operations (s.history ++ [])).foldl Operation.exec {})
        rw [List.append_nil]
        by_cases ht : t' = t
        · rw [ht, Function.update_self] at hunder ⊢
          obtain rfl := Option.some.inj hunder
          rw [finish, run_body, h.free hfree]
          rfl
        · rw [Function.update_of_ne ht] at hunder
          -- no other thread has the lock
          have none := (RecursiveMutex.acquisitions_lock hlock).2 t' ht
          rw [hinv.locked] at none
          exact absurd none (acquired_of_underLock hunder).ne'
  | leave operation lock hposition hlock =>
      have under : underLock (s.position t) = some operation := by rw [hposition]; rfl
      refine ⟨fun _ => ?_, fun t' operation' hunder => ?_⟩
      · -- nothing of the operation is left, and the history has it now
        have done := h.held t operation under
        rw [hposition] at done
        change s.helper = (operations (s.history ++ [.returned t operation])).foldl _ {}
        rw [operations, List.filterMap_append, List.foldl_append]
        exact done
      · change underLock (Function.update s.position t .outside t') = _ at hunder
        by_cases ht : t' = t
        · rw [ht, Function.update_self] at hunder
          cases hunder
        · rw [Function.update_of_ne ht] at hunder
          exact absurd
            (hinv.alone (acquired_of_underLock under) (acquired_of_underLock hunder)) ht
  | insert operation observer rest hposition =>
      refine h.within hinv hinv' (by rw [hposition]; rfl) rfl rfl ?_
      rw [hposition]
      exact finish_insert s.helper operation observer rest
  | introduce operation observer index rest delivery hposition hentry =>
      refine h.within hinv hinv' (by rw [hposition]; rfl) rfl rfl ?_
      rw [hposition]
      exact finish_introduce hentry operation observer rest
  | introduced operation observer index rest hposition hentry =>
      refine h.within hinv hinv' (by rw [hposition]; rfl) rfl rfl ?_
      rw [hposition]
      exact finish_introduced hentry operation observer rest
  | erase operation observer rest hposition =>
      refine h.within hinv hinv' (by rw [hposition]; rfl) rfl rfl ?_
      rw [hposition]
      rfl
  | assign operation interfaces rest hposition =>
      refine h.within hinv hinv' (by rw [hposition]; rfl) rfl rfl ?_
      rw [hposition]
      rfl
  | loopBegins operation delivery rest lock hposition hlock =>
      refine h.within hinv hinv' (by rw [hposition]; rfl) rfl rfl ?_
      rw [hposition]
      exact finish_loopBegins s.helper operation delivery rest
  | notify operation delivery observer rest hposition =>
      rw [hposition] at hsound
      obtain ⟨-, -, hstop | ⟨obs, hmem, hobs⟩⟩ := hsound
      · cases hstop
      · cases hobs
        refine h.within hinv hinv' (by rw [hposition]; rfl) rfl rfl ?_
        rw [hposition]
        exact finish_notify s.helper operation delivery hmem rest
  | loopEnds operation delivery rest lock hposition hlock =>
      refine h.within hinv hinv' (by rw [hposition]; rfl) rfl rfl ?_
      rw [hposition]
      exact finish_loopEnds s.helper operation delivery rest

/-- **One operation after the other**: when no thread has the lock, the helper is what the
operations make of it, in the order in which they returned. -/
theorem serial {s : Threads T O} (h : Reaches (Steps next) {} s) (hfree : s.lock = .free) :
    s.helper = (operations s.history).foldl Operation.exec {} := by
  have step : ∀ (a : Threads T O) turn b, a.Inv ∧ a.Serial → Steps next a turn b →
      b.Inv ∧ b.Serial := by
    intro a turn b ha hab
    obtain ⟨t, heffect⟩ := effect_of_next hab
    exact ⟨ha.1.effect heffect, ha.2.effect ha.1 heffect⟩
  exact (h.invariant step ⟨inv_empty, serial_empty⟩).2.free hfree

end Threads

end NetworkInterface
