import NetworkInterface.Helper.Threads
import NetworkInterface.Support.History

/-!
# Helper — Window

What an observer is called with while several threads use the helper: from its insertion to its
removal, first the table as it stood at the insertion, then every notification whose loop takes the
lock (`window_of_reaches`).

The history is followed with the state.  An insertion is followed by the loop that introduces the
table, for as long as that loop is in progress; the beginning of a loop of notifications is followed
by what the loop has delivered.
-/

namespace NetworkInterface

open Support Runs History

namespace Threads

variable {T O : Type*} [DecidableEq T] [LinearOrder O]

/-! ### The delivery window -/

/-- The moment is a callback of `obs`. -/
def calls (obs : O) : Moment T O → Bool
  | .introduced _ observer _ | .notified _ observer _ => observer = obs
  | _                                                 => false

/-- The callbacks of `obs`. -/
def callbacksOf (obs : O) (moments : List (Moment T O)) : List (Moment T O) :=
  moments.filter (calls obs)

/-- The callbacks of `registerObserver`, one for each entry of the table. -/
def introductions (t : T) (obs : O) (networkInterfaces : Interfaces) : List (Moment T O) :=
  (Helper.introduction networkInterfaces).map (.introduced t obs)

/-- What the loops of the thread call `obs` with. -/
def notifiedBy (t : T) (obs : O) (moments : List (Moment T O)) : List Delivery :=
  moments.filterMap fun moment =>
    match moment with
    | .notified t' observer delivery =>
        if t' = t ∧ observer = obs then some delivery else none
    | _                              => none

/-- What each observer is called with, and when. -/
structure Window (history : List (Moment T O)) : Prop where
  /-- Once `unregisterObserver` has returned, the observer is not called until it is inserted
  again. -/
  afterUnregister : ∀ before t obs between moment after,
    history = before ++ .returned t (.unregisterObserver (some obs)) :: between ++
      moment :: after →
    calls obs moment = true → ∃ t' networkInterfaces, .inserted t' obs networkInterfaces ∈ between
  /-- Once it is inserted, the observer is introduced to the table before it is called otherwise. -/
  introducedFirst : ∀ before t obs networkInterfaces after,
    history = before ++ .inserted t obs networkInterfaces :: after →
    callbacksOf obs after <+: introductions t obs networkInterfaces ∨
      introductions t obs networkInterfaces <+: callbacksOf obs after
  /-- The introduction is over when `registerObserver` returns. -/
  introducedWhole : ∀ before t obs networkInterfaces between operation after,
    history = before ++ .inserted t obs networkInterfaces :: between ++
      .returned t operation :: after →
    introductions t obs networkInterfaces <+: callbacksOf obs between
  /-- A loop calls each observer that is registered when it takes the lock exactly once. -/
  notifiedOnce : ∀ before t delivery between after,
    history = before ++ .loopBegins t delivery :: between ++ .loopEnds t :: after →
    .loopEnds t ∉ between → ∀ obs, notifiedBy t obs between =
      if isRegistered obs before = true then [delivery] else []

/-! ### What follows an insertion and the beginning of a loop -/

/-- After the insertion of `obs`, the introduction is over, or as far as its loop is. -/
def Introducing (s : Threads T O) (t : T) (obs : O) (networkInterfaces : Interfaces)
    (after : List (Moment T O)) : Prop :=
  introductions t obs networkInterfaces <+: callbacksOf obs after ∨
    ∃ operation index rest, s.position t = .introducing operation obs index rest ∧
      s.helper.networkInterfaces = networkInterfaces ∧
      callbacksOf obs after = (introductions t obs networkInterfaces).take index

/-- The loop is in progress: the observers are those of its beginning, and it has called those that
are not ahead of it. -/
def Looping (s : Threads T O) (t : T) (delivery : Delivery) (before after : List (Moment T O)) :
    Prop :=
  ∃ operation iterator rest, s.position t = .looping operation delivery iterator rest ∧
    ∀ obs, isRegistered obs before = decide (obs ∈ s.helper.observers) ∧
      notifiedBy t obs after =
        if obs ∈ s.helper.observers ∧ ¬ Ahead iterator obs then [delivery] else []

/-- What a moment says of what came before it, and what follows it up to now. -/
def Fits (s : Threads T O) (before after : List (Moment T O)) : Moment T O → Prop
  | .inserted t obs networkInterfaces            => Introducing s t obs networkInterfaces after
  | .introduced _ obs _ | .notified _ obs _      => isRegistered obs before = true
  | .erased _ _ | .destroyed _ _                 => True
  | .loopBegins t delivery                       =>
      .loopEnds t ∉ after → Looping s t delivery before after
  | .loopEnds t                                  =>
      ∀ earlier delivery between, before = earlier ++ .loopBegins t delivery :: between →
        .loopEnds t ∉ between → ∀ obs, notifiedBy t obs between =
          if isRegistered obs earlier = true then [delivery] else []
  | .returned t operation                        =>
      (∀ obs, operation = .unregisterObserver (some obs) → isRegistered obs before = false) ∧
        ∀ earlier obs networkInterfaces between,
          before = earlier ++ .inserted t obs networkInterfaces :: between →
          introductions t obs networkInterfaces <+: callbacksOf obs between

/-- Every moment of the history fits. -/
def Tracked (s : Threads T O) : Prop :=
  Throughout (fun before moment after => Fits s before after moment) s.history

/-- The loops in progress go on being followed. -/
structure Follows (s s' : Threads T O) (moments : List (Moment T O)) : Prop where
  introducing : ∀ t obs networkInterfaces after, Introducing s t obs networkInterfaces after →
    Introducing s' t obs networkInterfaces (after ++ moments)
  looping : ∀ t delivery before after, .loopEnds t ∉ after ++ moments →
    Looping s t delivery before after → Looping s' t delivery before (after ++ moments)

theorem Fits.append {s s' : Threads T O} {before after moments : List (Moment T O)}
    {moment : Moment T O} (h : Fits s before after moment) (hfollows : Follows s s' moments) :
    Fits s' before (after ++ moments) moment := by
  cases moment with
  | inserted t obs networkInterfaces => exact hfollows.introducing t obs networkInterfaces after h
  | introduced t obs delivery => exact h
  | erased t obs => exact trivial
  | loopBegins t delivery =>
      intro hends
      refine hfollows.looping t delivery before after hends (h fun hmem => hends ?_)
      exact List.mem_append_left _ hmem
  | notified t obs delivery => exact h
  | loopEnds t => exact h
  | returned t operation => exact h
  | destroyed t obs => exact trivial

theorem Tracked.concat {s s' : Threads T O} {moment : Moment T O} (h : s.Tracked)
    (hhistory : s'.history = s.history ++ [moment]) (hfits : Fits s' s.history [] moment)
    (hfollows : Follows s s' [moment]) : s'.Tracked := by
  rw [Tracked, hhistory]
  exact throughout_concat h hfits fun before e after _ hold => hold.append hfollows

/-- A step that nobody sees. -/
theorem Tracked.silent {s s' : Threads T O} (h : s.Tracked)
    (hhistory : s'.history = s.history) (hfollows : Follows s s' []) : s'.Tracked := by
  rw [Tracked, hhistory]
  intro before moment after heq
  have fits := (h before moment after heq).append hfollows
  rwa [List.append_nil] at fits

/-! ### The steps -/

/-- The thread is in the loop of `registerObserver`. -/
def isIntroducing : Position O → Bool
  | .introducing ..                            => true
  | .outside | .calling _ | .running .. | .looping .. => false

/-- The thread is in the loop of `notifyObserversMethod`. -/
def isLooping : Position O → Bool
  | .looping ..                                    => true
  | .outside | .calling _ | .running .. | .introducing .. => false

omit [DecidableEq T] in
theorem callbacksOf_append (obs : O) (moments moments' : List (Moment T O)) :
    callbacksOf obs (moments ++ moments') = callbacksOf obs moments ++ callbacksOf obs moments' :=
  List.filter_append ..

theorem notifiedBy_append (t : T) (obs : O) (moments moments' : List (Moment T O)) :
    notifiedBy t obs (moments ++ moments') =
      notifiedBy t obs moments ++ notifiedBy t obs moments' :=
  List.filterMap_append

/-- No moment is a callback. -/
def NoCallback (moments : List (Moment T O)) : Prop :=
  (∀ obs, callbacksOf obs moments = []) ∧ ∀ t obs, notifiedBy t obs moments = []

section
variable {s : Threads T O} {t : T} {position : Position O} {moments : List (Moment T O)}
  {lock : RecursiveMutex T} {helper : Helper O}

/-- The introductions in progress, while another thread takes its step. -/
theorem Inv.introducing_moves (h : s.Inv)
    (hother : isIntroducing (s.position t) = false)
    (hstep : 0 < (s.position t).acquired ∨ helper = s.helper ∧ NoCallback moments) {t' : T}
    {obs : O} {networkInterfaces : Interfaces} {after : List (Moment T O)}
    (hold : Introducing s t' obs networkInterfaces after) :
    Introducing { s.moves t position moments with helper := helper, lock := lock } t' obs
      networkInterfaces (after ++ moments) := by
  rcases hold with hwhole | ⟨operation, index, rest, hposition, htable, hheard⟩
  · refine .inl (hwhole.trans ?_)
    rw [callbacksOf_append]
    exact List.prefix_append ..
  · have ht : t' ≠ t := by
      rintro rfl
      rw [hposition] at hother
      cases hother
    rcases hstep with hheld | ⟨rfl, hnone, -⟩
    · exact absurd (h.alone hheld (acquired_of_introducing hposition)) ht
    · refine .inr ⟨operation, index, rest, ?_, htable, ?_⟩
      · exact (Function.update_of_ne ht ..).trans hposition
      · rw [callbacksOf_append, hnone, List.append_nil]
        exact hheard

/-- The loops in progress, while another thread takes its step. -/
theorem Inv.looping_moves (h : s.Inv)
    (hother : isLooping (s.position t) = false)
    (hstep : 0 < (s.position t).acquired ∨ helper = s.helper ∧ NoCallback moments) {t' : T}
    {delivery : Delivery} {before after : List (Moment T O)}
    (hold : Looping s t' delivery before after) :
    Looping { s.moves t position moments with helper := helper, lock := lock } t' delivery before
      (after ++ moments) := by
  obtain ⟨operation, iterator, rest, hposition, hobs⟩ := hold
  have ht : t' ≠ t := by
    rintro rfl
    rw [hposition] at hother
    cases hother
  rcases hstep with hheld | ⟨rfl, -, hnone⟩
  · exact absurd (h.alone hheld (acquired_of_looping hposition)) ht
  · refine ⟨operation, iterator, rest, (Function.update_of_ne ht ..).trans hposition, ?_⟩
    intro obs
    rw [notifiedBy_append, hnone, List.append_nil]
    exact hobs obs

/-- A step outside the loops. -/
theorem Inv.follows (h : s.Inv)
    (hintroducing : isIntroducing (s.position t) = false)
    (hlooping : isLooping (s.position t) = false)
    (hstep : 0 < (s.position t).acquired ∨ helper = s.helper ∧ NoCallback moments) :
    Follows s { s.moves t position moments with helper := helper, lock := lock } moments where
  introducing _ _ _ _ hold := h.introducing_moves hintroducing hstep hold
  looping _ _ _ _ _ hold := h.looping_moves hlooping hstep hold

end

/-- When `registerObserver` returns, its introduction is over. -/
theorem Tracked.introductions_prefix {s : Threads T O} (h : s.Tracked) {t : T}
    (hposition : isIntroducing (s.position t) = false) {earlier between : List (Moment T O)}
    {obs : O} {networkInterfaces : Interfaces}
    (heq : s.history = earlier ++ .inserted t obs networkInterfaces :: between) :
    introductions t obs networkInterfaces <+: callbacksOf obs between := by
  rcases h _ _ _ heq with hwhole | ⟨operation, index, rest, hintroducing, -⟩
  · exact hwhole
  · rw [hintroducing] at hposition
    cases hposition

/-- The loop of `registerObserver` makes a callback. -/
theorem Inv.introducing_introduce {s : Threads T O} (hinv : s.Inv) {t : T}
    {operation : Operation O} {observer : O} {index : Nat} {rest : List (Instruction O)}
    {delivery : Delivery} (hposition : s.position t = .introducing operation observer index rest)
    (hentry : (Helper.introduction s.helper.networkInterfaces)[index]? = some delivery) {t' : T}
    {obs : O} {networkInterfaces : Interfaces} {after : List (Moment T O)}
    (hold : Introducing s t' obs networkInterfaces after) :
    Introducing { s.moves t (.introducing operation observer (index + 1) rest)
        [.introduced t observer delivery] with
      helper := s.helper.hears observer [delivery] } t' obs networkInterfaces
      (after ++ [.introduced t observer delivery]) := by
  rw [Introducing, callbacksOf_append]
  rcases hold with hwhole | ⟨operation', index', rest', hposition', htable, hheard⟩
  · exact .inl (hwhole.trans (List.prefix_append ..))
  · obtain rfl : t' = t :=
      hinv.alone (acquired_of_introducing hposition) (acquired_of_introducing hposition')
    cases hposition'.symm.trans hposition
    refine .inr ⟨operation, index + 1, rest, Function.update_self .., htable, ?_⟩
    rw [hheard, introductions, ← htable, List.take_add_one, List.getElem?_map, hentry]
    simp [callbacksOf, calls]

/-- The loop of `registerObserver` ends. -/
theorem Inv.introducing_introduced {s : Threads T O} (hinv : s.Inv) {t : T}
    {operation : Operation O} {observer : O} {index : Nat} {rest : List (Instruction O)}
    (hposition : s.position t = .introducing operation observer index rest)
    (hentry : (Helper.introduction s.helper.networkInterfaces)[index]? = none) {t' : T} {obs : O}
    {networkInterfaces : Interfaces} {after : List (Moment T O)}
    (hold : Introducing s t' obs networkInterfaces after) :
    Introducing (s.moves t (.running operation rest) []) t' obs networkInterfaces
      (after ++ []) := by
  rw [Introducing, List.append_nil]
  rcases hold with hwhole | ⟨operation', index', rest', hposition', htable, hheard⟩
  · exact .inl hwhole
  · obtain rfl : t' = t :=
      hinv.alone (acquired_of_introducing hposition) (acquired_of_introducing hposition')
    cases hposition'.symm.trans hposition
    refine .inl ?_
    rw [hheard, ← htable, List.take_of_length_le]
    rw [introductions, List.length_map]
    exact List.getElem?_eq_none_iff.mp hentry

/-- The loop of `notifyObserversMethod` makes a callback. -/
theorem Inv.looping_notify {s : Threads T O} (hinv : s.Inv) {t : T} {operation : Operation O}
    {delivery : Delivery} {observer : O} {rest : List (Instruction O)}
    (hposition : s.position t = .looping operation delivery (.element observer) rest)
    (hmem : observer ∈ s.helper.observers) {t' : T} {delivery' : Delivery}
    {before after : List (Moment T O)} (hold : Looping s t' delivery' before after) :
    Looping { s.moves t
        (.looping operation delivery (.first (s.helper.observers.filter (observer < ·))) rest)
        [.notified t observer delivery] with
      helper := s.helper.hears observer [delivery] } t' delivery' before
      (after ++ [.notified t observer delivery]) := by
  obtain ⟨operation', iterator', rest', hposition', hobs⟩ := hold
  obtain rfl : t' = t :=
    hinv.alone (acquired_of_looping hposition) (acquired_of_looping hposition')
  cases hposition'.symm.trans hposition
  refine ⟨operation, _, rest, Function.update_self .., fun obs => ⟨(hobs obs).1, ?_⟩⟩
  rw [notifiedBy_append, (hobs obs).2]
  change _ = if obs ∈ s.helper.observers ∧
    ¬ Ahead (.first (s.helper.observers.filter (observer < ·))) obs then [delivery] else []
  by_cases hcalled : observer = obs
  · -- called now, for the first time
    subst hcalled
    have ahead : ¬ (observer ∈ s.helper.observers ∧ ¬ Ahead (.element observer) observer) :=
      fun h => h.2 (le_refl observer)
    have past : ¬ Ahead (.first (s.helper.observers.filter (observer < ·))) observer :=
      fun h => lt_irrefl observer ((ahead_filter hmem).mp h)
    rw [if_neg ahead, if_pos ⟨hmem, past⟩]
    simp [notifiedBy]
  · have none : notifiedBy t' obs [(.notified t' observer delivery : Moment T O)] = [] := by
      simp [notifiedBy, hcalled]
    rw [none, List.append_nil]
    refine if_congr (and_congr_right fun hobs => not_congr ?_) rfl rfl
    rw [ahead_filter hobs]
    exact ⟨fun hle => lt_of_le_of_ne hle hcalled, le_of_lt⟩

/-- **One step** is followed. -/
theorem Tracked.effect {s s' : Threads T O} {t : T} (h : s.Tracked) (hinv : s.Inv)
    (heffect : Effect s t s') : s'.Tracked := by
  have hsound := hinv.sound t
  cases heffect with
  | call operation hposition =>
      exact h.silent (List.append_nil _)
        (hinv.follows (by rw [hposition]; rfl) (by rw [hposition]; rfl)
          (.inr ⟨rfl, fun _ => rfl, fun _ _ => rfl⟩))
  | destroy observer hposition =>
      exact h.concat rfl trivial
        (hinv.follows (by rw [hposition]; rfl) (by rw [hposition]; rfl)
          (.inr ⟨rfl, fun _ => rfl, fun _ _ => rfl⟩))
  | enter operation lock hposition hlock =>
      exact h.silent (List.append_nil _)
        (hinv.follows (by rw [hposition]; rfl) (by rw [hposition]; rfl)
          (.inr ⟨rfl, fun _ => rfl, fun _ _ => rfl⟩))
  | leave operation lock hposition hlock =>
      have held := acquired_of_running hposition
      have outside : isIntroducing (s.position t) = false := by rw [hposition]; rfl
      rw [hposition] at hsound
      refine h.concat rfl ⟨?_, ?_⟩ (hinv.follows outside (by rw [hposition]; rfl) (.inl held))
      · -- `unregisterObserver` returns: the observer is not in the set
        rintro obs rfl
        rw [hinv.registered]
        cases hsound with
        | unregistered _ hnot => exact decide_eq_false (hnot obs rfl)
        | event hop _ => exact hop.elim
      · intro earlier obs networkInterfaces between heq
        exact h.introductions_prefix outside heq
  | insert operation observer rest hposition =>
      have held := acquired_of_running hposition
      exact h.concat rfl (.inr ⟨operation, 0, rest, Function.update_self .., rfl, rfl⟩)
        (hinv.follows (by rw [hposition]; rfl) (by rw [hposition]; rfl) (.inl held))
  | introduce operation observer index rest delivery hposition hentry =>
      have held := acquired_of_introducing hposition
      rw [hposition] at hsound
      refine h.concat rfl ((hinv.registered observer).trans (decide_eq_true hsound.2.2)) ⟨?_, ?_⟩
      · intro t' obs networkInterfaces after hold
        exact hinv.introducing_introduce hposition hentry hold
      · intro t' delivery' before after _ hold
        exact hinv.looping_moves (by rw [hposition]; rfl) (.inl held) hold
  | introduced operation observer index rest hposition hentry =>
      have held := acquired_of_introducing hposition
      refine h.silent (List.append_nil _) ⟨?_, ?_⟩
      · intro t' obs networkInterfaces after hold
        exact hinv.introducing_introduced hposition hentry hold
      · intro t' delivery' before after _ hold
        exact hinv.looping_moves (by rw [hposition]; rfl) (.inl held) hold
  | erase operation observer rest hposition =>
      have held := acquired_of_running hposition
      exact h.concat rfl trivial
        (hinv.follows (by rw [hposition]; rfl) (by rw [hposition]; rfl) (.inl held))
  | assign operation interfaces rest hposition =>
      have held := acquired_of_running hposition
      exact h.silent (List.append_nil _)
        (hinv.follows (by rw [hposition]; rfl) (by rw [hposition]; rfl) (.inl held))
  | loopBegins operation delivery rest lock hposition hlock =>
      have held := acquired_of_running hposition
      refine h.concat rfl (fun _ => ?_)
        (hinv.follows (by rw [hposition]; rfl) (by rw [hposition]; rfl) (.inl held))
      -- everyone registered is still ahead
      refine ⟨operation, _, rest, Function.update_self .., fun obs => ⟨hinv.registered obs, ?_⟩⟩
      exact (if_neg fun hc => hc.2 (ahead_first hc.1)).symm
  | notify operation delivery observer rest hposition =>
      have held := acquired_of_looping hposition
      have hmem : observer ∈ s.helper.observers := by
        rw [hposition] at hsound
        obtain ⟨-, -, hstop | ⟨obs, hmem, hobs⟩⟩ := hsound
        · cases hstop
        · cases hobs
          exact hmem
      refine h.concat rfl ((hinv.registered observer).trans (decide_eq_true hmem)) ⟨?_, ?_⟩
      · intro t' obs networkInterfaces after hold
        exact hinv.introducing_moves (by rw [hposition]; rfl) (.inl held) hold
      · intro t' delivery' before after _ hold
        exact hinv.looping_notify hposition hmem hold
  | loopEnds operation delivery rest lock hposition hlock =>
      have held := acquired_of_looping hposition
      refine h.concat rfl ?_ ⟨?_, ?_⟩
      · -- nobody is ahead of `end()`, so everyone registered has been called
        intro earlier delivery' between heq hends obs
        obtain ⟨operation', iterator, rest', hposition', hobs⟩ := h _ _ _ heq hends
        cases hposition'.symm.trans hposition
        rw [(hobs obs).2, (hobs obs).1]
        refine if_congr ?_ rfl rfl
        rw [decide_eq_true_iff]
        exact and_iff_left id
      · intro t' obs networkInterfaces after hold
        exact hinv.introducing_moves (by rw [hposition]; rfl) (.inl held) hold
      · intro t' delivery' before after hends hold
        obtain ⟨operation', iterator, rest', hposition', -⟩ := hold
        -- a loop needs the lock, so it is this one, which has ended
        obtain rfl : t' = t := hinv.alone held (acquired_of_looping hposition')
        exact absurd (List.mem_append_right _ List.mem_cons_self) hends

/-! ### Loops end -/

/-- A loop that has called an observer has fewer ahead. -/
theorem card_ahead_lt {observers : Finset O} {c : O} (hc : c ∈ observers) :
    (observers.filter (Ahead (.first (observers.filter (c < ·))))).card <
      (observers.filter (Ahead (.element c))).card := by
  refine Finset.card_lt_card (Finset.ssubset_iff_of_subset ?_ |>.mpr ⟨c, ?_, ?_⟩)
  · intro obs hobs
    obtain ⟨hmem, hahead⟩ := Finset.mem_filter.mp hobs
    exact Finset.mem_filter.mpr ⟨hmem, ((ahead_filter hmem).mp hahead).le⟩
  · exact Finset.mem_filter.mpr ⟨hc, le_refl c⟩
  · intro hahead
    exact lt_irrefl c ((ahead_filter hc).mp (Finset.mem_filter.mp hahead).2)

/-- A thread in a loop of notifications gets to its end by itself. -/
theorem Inv.loop_ends {s : Threads T O} (h : s.Inv) {t : T} {operation : Operation O}
    {delivery : Delivery} {iterator : Iterator O} {rest : List (Instruction O)}
    (hposition : s.position t = .looping operation delivery iterator rest) :
    ∃ n s', exec next s (List.replicate n (.advance t)) = some s' ∧
      s'.position t = .running operation rest := by
  generalize hn : (s.helper.observers.filter (Ahead iterator)).card = n
  induction n using Nat.strong_induction_on generalizing s iterator with
  | _ n ih =>
      have held := acquired_of_looping hposition
      obtain ⟨s', hnext⟩ := Option.isSome_iff_exists.mp (h.advances held)
      have run : ∀ m, exec next s (List.replicate (m + 1) (.advance t)) =
          exec next s' (List.replicate m (.advance t)) := by
        intro m
        rw [List.replicate_succ, exec, hnext]
        rfl
      have hsound := h.sound t
      rw [hposition] at hsound
      obtain ⟨-, -, rfl | ⟨obs, hmem, rfl⟩⟩ := hsound
      · rw [next, advance, hposition] at hnext
        obtain ⟨lock, -, rfl⟩ := Option.map_eq_some_iff.mp hnext
        exact ⟨1, _, run 0, Function.update_self ..⟩
      · have hnext' := hnext
        rw [next, advance, hposition] at hnext'
        obtain rfl := Option.some.inj hnext'
        have inv' := h.effect (.notify operation delivery obs rest hposition)
        obtain ⟨m, s', hrun, hend⟩ := ih _ (hn ▸ card_ahead_lt hmem) inv'
          (Function.update_self ..) rfl
        exact ⟨m + 1, s', (run m).trans hrun, hend⟩

/-! ### Runs -/

omit [DecidableEq T] in
/-- Who becomes registered is inserted. -/
theorem exists_inserted {obs : O} {before between : List (Moment T O)}
    (hbefore : isRegistered obs before = false)
    (hafter : isRegistered obs (before ++ between) = true) :
    ∃ t networkInterfaces, .inserted t obs networkInterfaces ∈ between := by
  rw [isRegistered, List.foldl_append, ← isRegistered, hbefore] at hafter
  clear hbefore
  induction between with
  | nil => cases hafter
  | cons moment between ih =>
      rw [List.foldl_cons] at hafter
      have later (h : between.foldl (registeredBy obs) false = true) :
          ∃ t networkInterfaces, .inserted t obs networkInterfaces ∈ moment :: between := by
        obtain ⟨t, networkInterfaces, hmem⟩ := ih h
        exact ⟨t, networkInterfaces, List.mem_cons_of_mem _ hmem⟩
      cases moment with
      | inserted t observer networkInterfaces =>
          by_cases hobs : observer = obs
          · rw [hobs]
            exact ⟨t, networkInterfaces, List.mem_cons_self⟩
          · rw [registeredBy, if_neg hobs] at hafter
            exact later hafter
      | erased t observer =>
          rw [registeredBy, ite_self] at hafter
          exact later hafter
      | introduced t observer delivery => exact later hafter
      | loopBegins t delivery => exact later hafter
      | notified t observer delivery => exact later hafter
      | loopEnds t => exact later hafter
      | returned t operation => exact later hafter
      | destroyed t observer => exact later hafter

/-- Whoever is called is registered. -/
theorem Tracked.registered_of_calls {s : Threads T O} (h : s.Tracked) {obs : O}
    {before after : List (Moment T O)} {moment : Moment T O}
    (heq : s.history = before ++ moment :: after) (hcalls : calls obs moment = true) :
    isRegistered obs before = true := by
  have fits := h before moment after heq
  cases moment with
  | introduced t observer delivery =>
      rw [← of_decide_eq_true hcalls]
      exact fits
  | notified t observer delivery =>
      rw [← of_decide_eq_true hcalls]
      exact fits
  | inserted t observer networkInterfaces => cases hcalls
  | erased t observer => cases hcalls
  | loopBegins t delivery => cases hcalls
  | loopEnds t => cases hcalls
  | returned t operation => cases hcalls
  | destroyed t observer => cases hcalls

theorem Tracked.window {s : Threads T O} (h : s.Tracked) : Window s.history where
  afterUnregister := by
    intro before t obs between moment after heq hcalls
    have registered := h.registered_of_calls heq hcalls
    rw [List.append_assoc, List.cons_append] at heq
    have unregistered := (h _ _ _ heq).1 obs rfl
    obtain ⟨t', networkInterfaces, hmem⟩ := exists_inserted unregistered registered
    rcases List.mem_cons.mp hmem with hreturned | hmem
    · cases hreturned
    · exact ⟨t', networkInterfaces, hmem⟩
  introducedFirst := by
    intro before t obs networkInterfaces after heq
    rcases h _ _ _ heq with hwhole | ⟨operation, index, rest, -, -, hheard⟩
    · exact .inr hwhole
    · rw [hheard]
      exact .inl (List.take_prefix ..)
  introducedWhole := by
    intro before t obs networkInterfaces between operation after heq
    exact (h _ _ _ heq).2 before obs networkInterfaces between rfl
  notifiedOnce := by
    intro before t delivery between after heq hends obs
    exact h _ _ _ heq before delivery between rfl hends obs

/-- **The delivery window**: in every run of any threads, an observer is called only between its
insertion and its removal, is introduced to the table first, and is then called once by every loop
that takes the lock while it is registered. -/
theorem window_of_reaches {s : Threads T O} (h : Reaches (Steps next) {} s) : Window s.history := by
  have step : ∀ (a : Threads T O) turn b, a.Inv ∧ a.Tracked → Steps next a turn b →
      b.Inv ∧ b.Tracked := by
    intro a turn b ha hab
    obtain ⟨t, heffect⟩ := effect_of_next hab
    exact ⟨ha.1.effect heffect, ha.2.effect ha.1 heffect⟩
  have both := h.invariant step ⟨inv_empty, throughout_nil _⟩
  exact both.2.window

/-- Thread `true` adds `en0`, thread `false` registers the observer, and `true` says that `en0` is
up, while `false` waits to unregister. -/
def registeredRun : List (Turn Bool Bool) :=
  [.call true (.onInterfaceAdded "en0".toList (en0 1)), .advance true, .advance true,
    .advance true, .advance true, .advance true,
    .call false (.registerObserver (some false)), .advance false, .advance false, .advance false,
    .advance false, .advance false,
    .call true (.onEnabledStateChanged "en0".toList true), .advance true,
    .call false (.unregisterObserver (some false)),
    .advance true, .advance true, .advance true, .advance true, .advance true,
    .advance false, .advance false, .advance false]

/-- What the observer is called with in that run. -/
theorem window_of_reaches_registeredRun :
    ∃ s, exec next ({} : Threads Bool Bool) registeredRun = some s ∧ Window s.history := by
  have goes : (exec next ({} : Threads Bool Bool) registeredRun).isSome = true := by decide
  obtain ⟨s, hrun⟩ := Option.isSome_iff_exists.mp goes
  exact ⟨s, hrun, window_of_reaches (reaches_of_exec hrun)⟩

end Threads

end NetworkInterface
