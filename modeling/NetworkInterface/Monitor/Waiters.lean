import NetworkInterface.Monitor.Win32

/-!
# Monitor — Waiters

The clients of the Windows delegate that are blocked in `waitForFirstEnumeration`.  A client that
finds `_observerThreadCreated` set creates no thread, though the thread may be about to end.

As long as no thread is told to terminate while a client waits, and no client comes to wait for a
thread that was told to, each client that is blocked has a thread to wait for
(`noStuckWaiter_of_reaches`).
-/

namespace NetworkInterface

open Support Runs

namespace Win32

section
variable {O : Type*}

/-! ### Waiters -/

/-- The call is in `waitForFirstEnumeration`, past the exchange. -/
def Point.isWaiting : Point O → Bool
  | .clearTerminate (.waitForFirstEnumeration _) | .createThread (.waitForFirstEnumeration _)
  | .readEnumerated _ | .wait _ => true
  | .clearTerminate .onFirstObserverRegistered | .createThread .onFirstObserverRegistered
  | .exchange _ | .body _ | .setTerminate | .joinable | .join | .resetThread | .clearCreated
  | .clearEnumerated => false

/-- The call is about to create a thread, and to clear `_shouldTerminate` before. -/
def Point.isClearing : Point O → Bool
  | .clearTerminate _ => true
  | .createThread _ | .exchange _ | .readEnumerated _ | .wait _ | .body _ | .setTerminate
  | .joinable | .join | .resetThread | .clearCreated | .clearEnumerated => false

/-- The observer thread will enumerate, or check `_shouldTerminate`. -/
def ThreadRuns (s : Win32 O) : Prop :=
  ∃ phase, s.observerThread = some phase ∧ phase ≠ .ended

/-- A client that is blocked in the wait has a thread to wait for, or one that is about to be
created. -/
def NoStuckWaiter (s : Win32 O) : Prop :=
  ∀ call, .wait call ∈ s.calls → s.enumeratedOnce = false →
    s.ThreadRuns ∨ ∃ point ∈ s.calls, point.isCreating = true

/-- Some call is about to clear `_shouldTerminate`. -/
def Clearing (calls : Multiset (Point O)) : Prop := ∃ point ∈ calls, point.isClearing = true

/-- Some call is in `waitForFirstEnumeration`. -/
def Waiting (calls : Multiset (Point O)) : Prop := ∃ point ∈ calls, point.isWaiting = true

/-- Unless some call is about to clear `_shouldTerminate`, it is set only when no call waits, and
no call comes to wait for a created thread while it is set. -/
def InTurn (s : Win32 O) : Event O → Prop
  | .step .setTerminate                            => Waiting s.calls → Clearing s.calls
  | .step (.exchange (.waitForFirstEnumeration _)) =>
      s.observerThreadCreated = true → s.shouldTerminate = true → Clearing s.calls
  | _                                              => True

/-! ### The calls, when one goes on -/

section
variable [DecidableEq O] {s : Win32 O} {point : Point O} {point? : Option (Point O)}

theorem mem_goes {q : Point O} (h : q ∈ s.goes point point?) : q ∈ s.calls ∨ point? = some q := by
  cases point? with
  | none => exact .inl (Multiset.mem_of_mem_erase h)
  | some point' =>
      rcases Multiset.mem_cons.mp h with rfl | hrest
      · exact .inr rfl
      · exact .inl (Multiset.mem_of_mem_erase hrest)

theorem mem_goes_of_ne {q : Point O} (h : q ∈ s.calls) (hne : q ≠ point) :
    q ∈ s.goes point point? := by
  have there : q ∈ s.calls.erase point := (Multiset.mem_erase_of_ne hne).mpr h
  cases point? with
  | none => exact there
  | some point' => exact Multiset.mem_cons_of_mem there

theorem mem_goes_self {point' : Point O} : point' ∈ s.goes point (some point') :=
  Multiset.mem_cons_self _ _

theorem clearing_goes (point? : Option (Point O)) (hpoint : point.isClearing = false)
    (h : Clearing s.calls) : Clearing (s.goes point point?) := by
  obtain ⟨q, hmem, hclearing⟩ := h
  refine ⟨q, mem_goes_of_ne hmem ?_, hclearing⟩
  rintro rfl
  exact Bool.false_ne_true (hpoint.symm.trans hclearing)

/-- A call that goes on does not start to wait, unless it waited. -/
theorem waiting_of_goes (point? : Option (Point O)) (hmem : point ∈ s.calls)
    (hpoint : ∀ q, point? = some q → q.isWaiting = true → point.isWaiting = true)
    (h : Waiting (s.goes point point?)) : Waiting s.calls := by
  obtain ⟨q, hq, hwaiting⟩ := h
  rcases mem_goes hq with hold | hnew
  · exact ⟨q, hold, hwaiting⟩
  · exact ⟨point, hmem, hpoint q hnew hwaiting⟩

end

/-! ### The invariant -/

theorem Point.isCritical_of_isClearing {point : Point O} (h : point.isClearing = true) :
    point.isCritical = true := by
  cases point with
  | clearTerminate caller => rfl
  | exchange | createThread | readEnumerated | wait | body | setTerminate | joinable | join
  | resetThread | clearCreated | clearEnumerated => cases h

theorem Point.isCreating_of_isClearing {point : Point O} (h : point.isClearing = true) :
    point.isCreating = true := by
  cases point with
  | clearTerminate caller => rfl
  | exchange | createThread | readEnumerated | wait | body | setTerminate | joinable | join
  | resetThread | clearCreated | clearEnumerated => cases h

/-- While a call waits, some call is about to clear `_shouldTerminate`, or it is clear and a thread
is created. -/
def Attended (s : Win32 O) : Prop :=
  Waiting s.calls → Clearing s.calls ∨ s.observerThreadCreated = true ∧ s.shouldTerminate = false

theorem attended_empty : Attended ({} : Win32 O) := by
  rintro ⟨point, hmem, -⟩
  exact absurd hmem (Multiset.notMem_zero point)

theorem Attended.noStuckWaiter {s : Win32 O} (h : s.Attended) (hmode : s.Mode) :
    s.NoStuckWaiter := by
  intro call hmem _
  have creating {point : Point O} (heq : critical s.calls = {point})
      (hpoint : point.isCreating = true) : ∃ point ∈ s.calls, point.isCreating = true := by
    have there : point ∈ critical s.calls := by
      rw [heq]
      exact Multiset.mem_singleton_self point
    exact ⟨point, Multiset.mem_of_mem_filter there, hpoint⟩
  rcases h ⟨.wait call, hmem, rfl⟩ with ⟨point, hpoint, hclearing⟩ | ⟨hcreated, hterminate⟩
  · exact .inr ⟨point, hpoint, Point.isCreating_of_isClearing hclearing⟩
  · cases hmode with
    | idle critical created thread => cases created.symm.trans hcreated
    | clearing caller critical created thread => exact .inr (creating critical rfl)
    | creating caller critical created thread => exact .inr (creating critical rfl)
    | up critical created phase thread ended =>
        refine .inl ⟨phase, thread, fun hended => ?_⟩
        exact Bool.false_ne_true (hterminate.symm.trans (ended hended))
    | reset critical created thread terminate => cases hterminate.symm.trans terminate
    | clear critical created thread terminate => cases hterminate.symm.trans terminate

/-- Nothing happens to the calls and to the two flags. -/
theorem Attended.same {s s' : Win32 O} (h : s.Attended) (hcalls : s'.calls = s.calls)
    (hcreated : s'.observerThreadCreated = s.observerThreadCreated)
    (hterminate : s'.shouldTerminate = s.shouldTerminate) : s'.Attended := by
  rw [Attended, hcalls, hcreated, hterminate]
  exact h

/-- A call begins. -/
theorem Attended.call {s : Win32 O} (h : s.Attended) (call : ApiCall O) :
    Attended { s with calls := begin call ::ₘ s.calls } := by
  rintro ⟨point, hmem, hpoint⟩
  rcases Multiset.mem_cons.mp hmem with rfl | hold
  · have outside : (begin call).isWaiting = false := by
      rw [begin]
      split
      · rfl
      · rfl
    exact absurd (outside.symm.trans hpoint) Bool.false_ne_true
  · refine (h ⟨point, hold, hpoint⟩).imp_left ?_
    rintro ⟨q, hq, hclearing⟩
    exact ⟨q, Multiset.mem_cons_of_mem hq, hclearing⟩

/-! ### The steps -/

variable [DecidableEq O]

/-- A call goes on, and does not start to wait. -/
theorem Attended.quiet {s s' : Win32 O} (h : s.Attended) {point : Point O}
    (point? : Option (Point O)) (hmem : point ∈ s.calls) (hcalls : s'.calls = s.goes point point?)
    (hpoint : point.isClearing = false)
    (hnew : ∀ q, point? = some q → q.isWaiting = true → point.isWaiting = true)
    (hcreated : s'.observerThreadCreated = s.observerThreadCreated)
    (hterminate : s'.shouldTerminate = s.shouldTerminate) : s'.Attended := by
  intro hwaiting
  rw [hcalls] at hwaiting
  rw [hcalls, hcreated, hterminate]
  exact (h (waiting_of_goes point? hmem hnew hwaiting)).imp_left (clearing_goes point? hpoint)

theorem Attended.exchange {s : Win32 O} (h : s.Attended) {caller : Caller O}
    (hmem : .exchange caller ∈ s.calls) (hturn : s.InTurn (.step (.exchange caller))) :
    Attended { s with
      observerThreadCreated := true
      calls := s.goes (.exchange caller)
        (if s.observerThreadCreated then caller.returns else some (.clearTerminate caller)) } := by
  cases hcreated : s.observerThreadCreated with
  | false => exact fun _ => .inl ⟨.clearTerminate caller, mem_goes_self, rfl⟩
  | true =>
      cases caller with
      | onFirstObserverRegistered =>
          exact h.quiet none hmem rfl rfl (fun _ hc => by cases hc) hcreated.symm rfl
      | waitForFirstEnumeration call =>
          intro _
          by_cases hterminate : s.shouldTerminate = true
          · exact .inl (clearing_goes (some (.readEnumerated call)) rfl
              (hturn hcreated hterminate))
          · exact .inr ⟨rfl, Bool.eq_false_iff.mpr hterminate⟩

theorem Attended.setTerminate {s : Win32 O} (hmem : .setTerminate ∈ s.calls)
    (hturn : s.InTurn (.step .setTerminate)) :
    Attended { s with
      shouldTerminate := true, calls := s.goes .setTerminate (some .joinable) } := by
  intro hwaiting
  have waited : Waiting s.calls := by
    refine waiting_of_goes (some .joinable) hmem (fun q hq hc => ?_) hwaiting
    obtain rfl := Option.some.inj hq
    cases hc
  exact .inl (clearing_goes (some .joinable) rfl (hturn waited))

/-- No call waits at the end of the termination. -/
theorem Attended.clearCreated {s : Win32 O} (h : s.Attended) (hmode : s.Mode)
    (hmem : .clearCreated ∈ s.calls) :
    Attended { s with
      observerThreadCreated := false
      calls := s.goes .clearCreated (some .clearEnumerated) } := by
  have hcritical := hmode.of_mem hmem rfl
  intro hwaiting
  have waited : Waiting s.calls := by
    refine waiting_of_goes (some .clearEnumerated) hmem (fun q hq hc => ?_) hwaiting
    obtain rfl := Option.some.inj hq
    cases hc
  rcases h waited with ⟨point, hpoint, hclearing⟩ | ⟨-, hclear⟩
  · have only : point ∈ critical s.calls :=
      Multiset.mem_filter.mpr ⟨hpoint, Point.isCritical_of_isClearing hclearing⟩
    rw [hcritical] at only
    rw [Multiset.mem_singleton.mp only] at hclearing
    cases hclearing
  · exact absurd (hclear.symm.trans (hmode.terminates hcritical rfl)) Bool.false_ne_true

/-- **One step of a call** in turn. -/
theorem Attended.step {s s' : Win32 O} (h : s.Attended) (hmode : s.Mode) {point : Point O}
    (hmem : point ∈ s.calls) (hturn : s.InTurn (.step point)) (hstep : s.step point = some s') :
    s'.Attended := by
  cases point with
  | exchange caller =>
      obtain rfl := Option.some.inj hstep
      exact h.exchange hmem hturn
  | clearTerminate caller =>
      obtain rfl := Option.some.inj hstep
      -- `_shouldTerminate` is false now, and the thread is still to be created
      exact fun _ => .inr ⟨(hmode.of_critical hmem rfl).1, rfl⟩
  | createThread caller =>
      rw [Win32.step, if_neg (hmode.not_joinable hmem rfl)] at hstep
      obtain rfl := Option.some.inj hstep
      refine h.quiet caller.returns hmem rfl rfl (fun q hq _ => ?_) rfl rfl
      cases caller with
      | onFirstObserverRegistered => cases hq
      | waitForFirstEnumeration call => rfl
  | readEnumerated call =>
      obtain rfl := Option.some.inj hstep
      exact h.quiet (some (if s.enumeratedOnce then .body call else .wait call)) hmem rfl rfl
        (fun _ _ _ => rfl) rfl rfl
  | wait call =>
      obtain ⟨-, ⟨⟩⟩ := Option.ite_none_right_eq_some.mp hstep
      exact h.quiet (some (.body call)) hmem rfl rfl (fun _ _ _ => rfl) rfl rfl
  | body call =>
      obtain rfl := Option.some.inj hstep
      refine h.quiet ((call.body s.helper).2.map pointOf) hmem rfl rfl (fun q hq hc => ?_) rfl rfl
      obtain ⟨decision, -, rfl⟩ := Option.map_eq_some_iff.mp hq
      cases decision with
      -- neither call of the delegate begins at the wait
      | onFirstObserverRegistered => cases hc
      | onLastObserverUnregistered => cases hc
  | setTerminate =>
      obtain rfl := Option.some.inj hstep
      exact Attended.setTerminate hmem hturn
  | joinable =>
      obtain rfl := Option.some.inj hstep
      refine h.quiet _ hmem rfl rfl (fun q hq hc => ?_) rfl rfl
      obtain ⟨-, ⟨⟩⟩ := Option.ite_none_right_eq_some.mp hq
      cases hc
  | join =>
      rw [Win32.step] at hstep
      split at hstep
      · obtain rfl := Option.some.inj hstep
        refine h.quiet (some .resetThread) hmem rfl rfl (fun q hq hc => ?_) rfl rfl
        obtain rfl := Option.some.inj hq
        cases hc
      · cases hstep
      · obtain rfl := Option.some.inj hstep
        exact h.same rfl rfl rfl
  | resetThread =>
      rw [Win32.step, if_neg (hmode.not_joinable hmem rfl)] at hstep
      obtain rfl := Option.some.inj hstep
      refine h.quiet (some .clearCreated) hmem rfl rfl (fun q hq hc => ?_) rfl rfl
      obtain rfl := Option.some.inj hq
      cases hc
  | clearCreated =>
      obtain rfl := Option.some.inj hstep
      exact h.clearCreated hmode hmem
  | clearEnumerated =>
      obtain rfl := Option.some.inj hstep
      exact h.quiet none hmem rfl rfl (fun _ hc => by cases hc) rfl rfl

/-- **One step** in turn. -/
theorem Attended.next {s s' : Win32 O} {event : Event O} (h : s.Attended) (hmode : s.Mode)
    (hstep : Meeting InTurn (Steps Win32.next) s event s') : s'.Attended := by
  obtain ⟨hturn, hnext⟩ := hstep
  obtain ⟨-, hnext⟩ := Option.ite_none_left_eq_some.mp hnext
  cases event with
  | call call =>
      obtain ⟨⟩ := hnext
      exact h.call call
  | step point =>
      obtain ⟨hmem, hstep⟩ := Option.ite_none_right_eq_some.mp hnext
      exact h.step hmode hmem hturn hstep
  | check due =>
      obtain ⟨-, ⟨⟩⟩ := Option.ite_none_right_eq_some.mp hnext
      exact h.same rfl rfl rfl
  | enumerate newList =>
      obtain ⟨-, ⟨⟩⟩ := Option.ite_none_right_eq_some.mp hnext
      exact h.same rfl rfl rfl
  | setEnumerated =>
      obtain ⟨-, ⟨⟩⟩ := Option.ite_none_right_eq_some.mp hnext
      exact h.same rfl rfl rfl

/-! ### Runs -/

/-- **No stuck waiter**: in every run that sets `_shouldTerminate` and starts to wait in turn, a
client that is blocked has a thread to wait for. -/
theorem noStuckWaiter_of_reaches {s : Win32 O}
    (h : Reaches (Meeting InTurn (Steps next)) {} s) : s.NoStuckWaiter := by
  have step : ∀ (a : Win32 O) event b, a.Mode ∧ a.Attended →
      Meeting InTurn (Steps next) a event b → b.Mode ∧ b.Attended :=
    fun _ _ _ ha hab => ⟨ha.1.next hab.2, ha.2.next ha.1 hab⟩
  obtain ⟨hmode, hattended⟩ := h.invariant step ⟨mode_empty, attended_empty⟩
  exact hattended.noStuckWaiter hmode

instance decidableClearing (calls : Multiset (Point O)) : Decidable (Clearing calls) :=
  Multiset.decidableExistsMultiset

instance decidableWaiting (calls : Multiset (Point O)) : Decidable (Waiting calls) :=
  Multiset.decidableExistsMultiset

instance decidableInTurn (s : Win32 O) : (event : Event O) → Decidable (InTurn s event)
  | .step .setTerminate => inferInstanceAs (Decidable (Waiting s.calls → Clearing s.calls))
  | .step (.exchange (.waitForFirstEnumeration _)) =>
      inferInstanceAs (Decidable (s.observerThreadCreated = true → s.shouldTerminate = true →
        Clearing s.calls))
  | .step (.exchange .onFirstObserverRegistered) | .step (.clearTerminate _)
  | .step (.createThread _) | .step (.readEnumerated _) | .step (.wait _) | .step (.body _)
  | .step .joinable | .step .join | .step .resetThread | .step .clearCreated
  | .step .clearEnumerated | .call _ | .check _ | .enumerate _ | .setEnumerated =>
      inferInstanceAs (Decidable True)

/-- A first observer registers. -/
def registers : List (Event Unit) :=
  let register := ApiCall.registerObserver (some ())
  let caller := Caller.waitForFirstEnumeration register
  [.call register, .step (.exchange caller), .step (.clearTerminate caller),
    .step (.createThread caller), .check true, .enumerate ∅, .setEnumerated,
    .step (.readEnumerated register), .step (.body register),
    .step (.exchange .onFirstObserverRegistered)]

/-- The observer unregisters, and its call has joined the thread. -/
def unregisters : List (Event Unit) :=
  let unregister := ApiCall.unregisterObserver (some ())
  [.call unregister, .step (.body unregister), .step .setTerminate, .step .joinable, .check false,
    .step .join, .step .resetThread]

/-- The end of the termination. -/
def terminated : List (Event Unit) := [.step .clearCreated, .step .clearEnumerated]

/-- A client creates the thread again, and waits while it enumerates. -/
def waits : List (Event Unit) :=
  let enumerate := ApiCall.enumerateInterfaces true
  let caller := Caller.waitForFirstEnumeration enumerate
  [.call enumerate, .step (.exchange caller), .step (.clearTerminate caller),
    .step (.createThread caller), .check true, .step (.readEnumerated enumerate)]

theorem noStuckWaiter_of_reaches_waits :
    ∃ s, exec next ({} : Win32 Unit) (registers ++ unregisters ++ terminated ++ waits) = some s ∧
      .wait (.enumerateInterfaces true) ∈ s.calls ∧ s.enumeratedOnce = false ∧
      s.NoStuckWaiter := by
  obtain ⟨s, hrun, hcalls, hcleared⟩ :
      ∃ s, exec (guarded InTurn next) ({} : Win32 Unit)
          (registers ++ unregisters ++ terminated ++ waits) = some s ∧
        s.calls = {.wait (.enumerateInterfaces true)} ∧ s.enumeratedOnce = false :=
    ⟨_, rfl, rfl, rfl⟩
  refine ⟨s, exec_of_guarded hrun, ?_, hcleared,
    noStuckWaiter_of_reaches (reaches_of_exec_guarded hrun)⟩
  rw [hcalls]
  exact Multiset.mem_singleton_self _

/-- A client comes to enumerate before the end of the termination, and reads `_enumeratedOnce` after
it. -/
theorem not_noStuckWaiter :
    ¬ ∀ s : Win32 Unit, Reaches (Steps next) {} s → s.NoStuckWaiter := by
  intro h
  obtain ⟨s, hrun, hcalls, hcleared, hthread⟩ :
      ∃ s, exec next ({} : Win32 Unit)
          (registers ++ unregisters ++
            [.call (.enumerateInterfaces true),
              .step (.exchange (.waitForFirstEnumeration (.enumerateInterfaces true)))] ++
            terminated ++ [.step (.readEnumerated (.enumerateInterfaces true))]) = some s ∧
        s.calls = {.wait (.enumerateInterfaces true)} ∧ s.enumeratedOnce = false ∧
        s.observerThread = none := ⟨_, rfl, rfl, rfl, rfl⟩
  have stuck := h s (reaches_of_exec hrun) (.enumerateInterfaces true)
  rw [hcalls] at stuck
  rcases stuck (Multiset.mem_singleton_self _) hcleared with
    ⟨phase, hphase, -⟩ | ⟨point, hpoint, hcreating⟩
  · cases hthread.symm.trans hphase
  · rw [Multiset.mem_singleton.mp hpoint] at hcreating
    cases hcreating

end

end Win32

end NetworkInterface
