import NetworkInterface.Monitor.Freshness

/-!
# Monitor — Win32

The observer thread of the Windows delegate and the clients that create it and wait for it.  Any
number of clients make calls; the reads, writes and exchanges of `_observerThreadCreated`,
`_shouldTerminate` and `_enumeratedOnce`, the uses of `_observerThread` and the wait are steps of
their own.

`_observerThreadCreated` is cleared last, so one call at a time creates the thread or takes it down
(`mode_of_reaches`), and no thread is created over a joinable one.
-/

namespace NetworkInterface

open Support Runs

namespace Win32

/-! ### The threads -/

/-- Who called `createObserverThread`. -/
inductive Caller (O : Type*) where
  | waitForFirstEnumeration (call : ApiCall O)
  | onFirstObserverRegistered
  deriving DecidableEq

/-- What a call does next. -/
inductive Point (O : Type*) where
  /-- `_observerThreadCreated.exchange(true)`. -/
  | exchange (caller : Caller O)
  /-- `_shouldTerminate = false`. -/
  | clearTerminate (caller : Caller O)
  /-- `_observerThread = std::thread(…)`. -/
  | createThread (caller : Caller O)
  /-- `if (!_enumeratedOnce)`. -/
  | readEnumerated (call : ApiCall O)
  /-- `_syncCondVar.wait`. -/
  | wait (call : ApiCall O)
  /-- The part under the lock. -/
  | body (call : ApiCall O)
  /-- `_shouldTerminate = true`. -/
  | setTerminate
  /-- `if (_observerThread.joinable())`. -/
  | joinable
  /-- `_observerThread.join()`. -/
  | join
  /-- `_observerThread = {}`. -/
  | resetThread
  /-- `_observerThreadCreated = false`. -/
  | clearCreated
  /-- `_enumeratedOnce = false`. -/
  | clearEnumerated
  deriving DecidableEq

/-- What a joinable `_observerThread` does next. -/
inductive Phase where
  /-- `while (!_shouldTerminate)`. -/
  | checking
  /-- `refreshInterfaces` and `onNewInterfacesList`. -/
  | enumerating
  /-- `_enumeratedOnce = true`, and `notify_all`. -/
  | enumerated
  /-- The thread has left its function. -/
  | ended
  deriving DecidableEq

end Win32

/-- The helper, the members of `OsDependentDelegate_Win32` and the calls in progress.  It does not
matter which client makes which call. -/
structure Win32 (O : Type*) where
  helper : Helper O := {}
  observerThreadCreated : Bool := false
  shouldTerminate : Bool := false
  enumeratedOnce : Bool := false
  /-- `none` when it is not joinable. -/
  observerThread : Option Win32.Phase := none
  calls : Multiset (Win32.Point O) := 0
  aborted : Bool := false

namespace Win32

/-- A step. -/
inductive Event (O : Type*) where
  | call (call : ApiCall O)
  /-- The call that is at the point goes on. -/
  | step (point : Point O)
  /-- The observer thread checks `_shouldTerminate`, and whether the next enumeration is due. -/
  | check (due : Bool)
  | enumerate (newList : Interfaces)
  | setEnumerated

section
variable {O : Type*}

/-- Where a call begins. -/
def begin (call : ApiCall O) : Point O :=
  if call.waits then .exchange (.waitForFirstEnumeration call) else .body call

/-- Where `createObserverThread` returns to; `onFirstObserverRegistered` is the end of its call. -/
def Caller.returns : Caller O → Option (Point O)
  | .waitForFirstEnumeration call => some (.readEnumerated call)
  | .onFirstObserverRegistered    => none

/-- Where the call of the delegate begins. -/
def pointOf : Decision → Point O
  | .onFirstObserverRegistered  => .exchange .onFirstObserverRegistered
  | .onLastObserverUnregistered => .setTerminate

/-- The calls, when one goes from a point to the next, or returns. -/
def goes [DecidableEq O] (s : Win32 O) (point : Point O) : Option (Point O) → Multiset (Point O)
  | some point' => point' ::ₘ s.calls.erase point
  | none        => s.calls.erase point

/-- `std::terminate`. -/
def abort (s : Win32 O) : Win32 O := { s with aborted := true }

/-- One step of a call.  The wait goes on once `_enumeratedOnce` is set, and the join once the
thread has left its function; the process aborts when a joinable thread is assigned to, or a thread
that is not joinable is joined. -/
def step [DecidableEq O] (s : Win32 O) : Point O → Option (Win32 O)
  | .exchange caller       => some
      { s with
        observerThreadCreated := true
        calls := s.goes (.exchange caller)
          (if s.observerThreadCreated then caller.returns else some (.clearTerminate caller)) }
  | .clearTerminate caller => some
      { s with
        shouldTerminate := false
        calls := s.goes (.clearTerminate caller) (some (.createThread caller)) }
  | .createThread caller   =>
      if s.observerThread.isSome then some s.abort
      else some
        { s with
          observerThread := some .checking
          calls := s.goes (.createThread caller) caller.returns }
  | .readEnumerated call   => some
      { s with
        calls := s.goes (.readEnumerated call)
          (some (if s.enumeratedOnce then .body call else .wait call)) }
  | .wait call             =>
      if s.enumeratedOnce then some { s with calls := s.goes (.wait call) (some (.body call)) }
      else none
  | .body call             => some
      { s with
        helper := (call.body s.helper).1
        calls := s.goes (.body call) ((call.body s.helper).2.map pointOf) }
  | .setTerminate          => some
      { s with shouldTerminate := true, calls := s.goes .setTerminate (some .joinable) }
  | .joinable              => some
      { s with
        calls := s.goes .joinable (if s.observerThread.isSome then some .join else none) }
  | .join                  =>
      match s.observerThread with
      | some .ended => some
          { s with observerThread := none, calls := s.goes .join (some .resetThread) }
      | some _      => none
      | none        => some s.abort
  | .resetThread           =>
      if s.observerThread.isSome then some s.abort
      else some { s with calls := s.goes .resetThread (some .clearCreated) }
  | .clearCreated          => some
      { s with
        observerThreadCreated := false
        calls := s.goes .clearCreated (some .clearEnumerated) }
  | .clearEnumerated       => some
      { s with enumeratedOnce := false, calls := s.goes .clearEnumerated none }

/-- The steps. -/
def next [DecidableEq O] (s : Win32 O) (event : Event O) : Option (Win32 O) :=
  if s.aborted then none
  else
    match event with
    | .call call         => some { s with calls := begin call ::ₘ s.calls }
    | .step point        => if point ∈ s.calls then s.step point else none
    | .check due         =>
        if s.observerThread = some .checking then some
          { s with
            observerThread := some
              (if s.shouldTerminate then .ended else if due then .enumerating else .checking) }
        else none
    | .enumerate newList =>
        if s.observerThread = some .enumerating then some
          { s with
            helper := s.helper.onNewInterfacesList newList
            observerThread := some .enumerated }
        else none
    | .setEnumerated     =>
        if s.observerThread = some .enumerated then some
          { s with enumeratedOnce := true, observerThread := some .checking }
        else none

/-! ### Who creates and who terminates -/

/-- The call is creating the thread, or has joined it and not cleared `_observerThreadCreated`. -/
def Point.isCritical : Point O → Bool
  | .clearTerminate _ | .createThread _ | .resetThread | .clearCreated => true
  | .exchange _ | .readEnumerated _ | .wait _ | .body _ | .setTerminate | .joinable | .join
  | .clearEnumerated => false

/-- The call is about to create a thread. -/
def Point.isCreating : Point O → Bool
  | .clearTerminate _ | .createThread _ => true
  | .exchange _ | .readEnumerated _ | .wait _ | .body _ | .setTerminate | .joinable | .join
  | .resetThread | .clearCreated | .clearEnumerated => false

/-- The calls that create the thread or have joined it. -/
def critical (calls : Multiset (Point O)) : Multiset (Point O) :=
  calls.filter fun point => point.isCritical = true

/-- `_observerThreadCreated` is set from the exchange to the end of the termination, and one call at
most is creating the thread or has joined it; when none is and the flag is set, the thread is
joinable. -/
inductive Mode (s : Win32 O) : Prop where
  | idle (critical : critical s.calls = 0) (created : s.observerThreadCreated = false)
      (thread : s.observerThread = none)
  | clearing (caller : Caller O) (critical : critical s.calls = {.clearTerminate caller})
      (created : s.observerThreadCreated = true) (thread : s.observerThread = none)
  | creating (caller : Caller O) (critical : critical s.calls = {.createThread caller})
      (created : s.observerThreadCreated = true) (thread : s.observerThread = none)
  | up (critical : critical s.calls = 0) (created : s.observerThreadCreated = true) (phase : Phase)
      (thread : s.observerThread = some phase)
      (ended : phase = .ended → s.shouldTerminate = true)
  | reset (critical : critical s.calls = {.resetThread}) (created : s.observerThreadCreated = true)
      (thread : s.observerThread = none) (terminate : s.shouldTerminate = true)
  | clear (critical : critical s.calls = {.clearCreated}) (created : s.observerThreadCreated = true)
      (thread : s.observerThread = none) (terminate : s.shouldTerminate = true)

theorem mode_empty : Mode ({} : Win32 O) := .idle rfl rfl rfl

/-- A critical call is the only one. -/
theorem Mode.of_mem {s : Win32 O} (h : s.Mode) {point : Point O} (hmem : point ∈ s.calls)
    (hcritical : point.isCritical = true) : critical s.calls = {point} := by
  have there : point ∈ critical s.calls := Multiset.mem_filter.mpr ⟨hmem, hcritical⟩
  have single {q : Point O} (heq : critical s.calls = {q}) : critical s.calls = {point} := by
    rw [heq] at there
    rw [heq, Multiset.mem_singleton.mp there]
  have none_there (heq : critical s.calls = 0) : critical s.calls = {point} := by
    rw [heq] at there
    exact absurd there (Multiset.notMem_zero point)
  cases h with
  | idle critical created thread => exact none_there critical
  | clearing caller critical created thread => exact single critical
  | creating caller critical created thread => exact single critical
  | up critical created phase thread ended => exact none_there critical
  | reset critical created thread terminate => exact single critical
  | clear critical created thread terminate => exact single critical

theorem critical_cons_of_pos {calls : Multiset (Point O)} {point : Point O}
    (hpoint : point.isCritical = true) : critical (point ::ₘ calls) = point ::ₘ critical calls :=
  Multiset.filter_cons_of_pos (p := fun point : Point O => point.isCritical = true) calls hpoint

theorem critical_cons_of_neg {calls : Multiset (Point O)} {point : Point O}
    (hpoint : point.isCritical = false) : critical (point ::ₘ calls) = critical calls :=
  Multiset.filter_cons_of_neg (p := fun point : Point O => point.isCritical = true) calls
    (Bool.eq_false_iff.mp hpoint)

theorem critical_cons {calls : Multiset (Point O)} {point : Point O}
    (hpoint : point.isCritical = true) (h : critical calls = 0) :
    critical (point ::ₘ calls) = {point} := by
  rw [critical_cons_of_pos hpoint, h]
  rfl

/-- A step of a call that is not critical, of another thread than the observer thread, with the
flag `_observerThreadCreated` left alone and `_shouldTerminate` left set. -/
theorem Mode.same {s s' : Win32 O} (h : s.Mode) (hcritical : critical s'.calls = critical s.calls)
    (hcreated : s'.observerThreadCreated = s.observerThreadCreated)
    (hthread : s'.observerThread = s.observerThread)
    (hterminate : s.shouldTerminate = true → s'.shouldTerminate = true) : s'.Mode := by
  cases h with
  | idle critical created thread =>
      exact .idle (hcritical.trans critical) (hcreated.trans created) (hthread.trans thread)
  | clearing caller critical created thread =>
      exact .clearing caller (hcritical.trans critical) (hcreated.trans created)
        (hthread.trans thread)
  | creating caller critical created thread =>
      exact .creating caller (hcritical.trans critical) (hcreated.trans created)
        (hthread.trans thread)
  | up critical created phase thread ended =>
      exact .up (hcritical.trans critical) (hcreated.trans created) phase (hthread.trans thread)
        fun hended => hterminate (ended hended)
  | reset critical created thread terminate =>
      exact .reset (hcritical.trans critical) (hcreated.trans created) (hthread.trans thread)
        (hterminate terminate)
  | clear critical created thread terminate =>
      exact .clear (hcritical.trans critical) (hcreated.trans created) (hthread.trans thread)
        (hterminate terminate)

/-- A joinable thread: no call is critical, and the flag is set. -/
theorem Mode.up_of_thread {s : Win32 O} (h : s.Mode) {phase : Phase}
    (hthread : s.observerThread = some phase) :
    critical s.calls = 0 ∧ s.observerThreadCreated = true ∧
      (phase = .ended → s.shouldTerminate = true) := by
  cases h with
  | idle critical created thread => cases thread.symm.trans hthread
  | clearing caller critical created thread => cases thread.symm.trans hthread
  | creating caller critical created thread => cases thread.symm.trans hthread
  | up critical created phase' thread ended =>
      cases thread.symm.trans hthread
      exact ⟨critical, created, ended⟩
  | reset critical created thread terminate => cases thread.symm.trans hthread
  | clear critical created thread terminate => cases thread.symm.trans hthread

/-- Without the flag, there is no thread, and no call is critical. -/
theorem Mode.idle_of_created {s : Win32 O} (h : s.Mode)
    (hcreated : s.observerThreadCreated = false) :
    critical s.calls = 0 ∧ s.observerThread = none := by
  cases h with
  | idle critical created thread => exact ⟨critical, thread⟩
  | clearing caller critical created thread => cases hcreated.symm.trans created
  | creating caller critical created thread => cases hcreated.symm.trans created
  | up critical created phase thread ended => cases hcreated.symm.trans created
  | reset critical created thread terminate => cases hcreated.symm.trans created
  | clear critical created thread terminate => cases hcreated.symm.trans created

/-- A call that has joined the thread: `_shouldTerminate` is set. -/
theorem Mode.terminates {s : Win32 O} (h : s.Mode) {point : Point O}
    (hcritical : critical s.calls = {point}) (hpoint : point.isCreating = false) :
    s.shouldTerminate = true := by
  have creating {q : Point O} (heq : critical s.calls = {q})
      (hq : q.isCreating = true) : s.shouldTerminate = true := by
    rw [Multiset.singleton_inj.mp (hcritical.symm.trans heq), hq] at hpoint
    cases hpoint
  have nonzero : critical s.calls ≠ 0 := by
    rw [hcritical]
    exact Multiset.singleton_ne_zero point
  cases h with
  | idle critical created thread => exact absurd critical nonzero
  | clearing caller critical created thread => exact creating critical rfl
  | creating caller critical created thread => exact creating critical rfl
  | up critical created phase thread ended => exact absurd critical nonzero
  | reset critical created thread terminate => exact terminate
  | clear critical created thread terminate => exact terminate

/-- With a critical call, there is no thread, and the flag is set. -/
theorem Mode.of_critical {s : Win32 O} (h : s.Mode) {point : Point O} (hmem : point ∈ s.calls)
    (hcritical : point.isCritical = true) :
    s.observerThreadCreated = true ∧ s.observerThread = none := by
  have only := h.of_mem hmem hcritical
  have nonzero : critical s.calls ≠ 0 := by
    rw [only]
    exact Multiset.singleton_ne_zero point
  cases h with
  | idle critical created thread => exact absurd critical nonzero
  | clearing caller critical created thread => exact ⟨created, thread⟩
  | creating caller critical created thread => exact ⟨created, thread⟩
  | up critical created phase thread ended => exact absurd critical nonzero
  | reset critical created thread terminate => exact ⟨created, thread⟩
  | clear critical created thread terminate => exact ⟨created, thread⟩

/-- A thread is created, and `_observerThread` reset, only when it is not joinable. -/
theorem Mode.not_joinable {s : Win32 O} (h : s.Mode) {point : Point O} (hmem : point ∈ s.calls)
    (hpoint : point.isCritical = true) : ¬ s.observerThread.isSome = true := by
  rw [(h.of_critical hmem hpoint).2]
  exact Bool.false_ne_true

/-- The observer thread goes on. -/
theorem Mode.thread {s s' : Win32 O} (h : s.Mode) {phase phase' : Phase}
    (hthread : s.observerThread = some phase) (hthread' : s'.observerThread = some phase')
    (hended : phase' = .ended → s.shouldTerminate = true) (hcalls : s'.calls = s.calls)
    (hcreated : s'.observerThreadCreated = s.observerThreadCreated)
    (hterminate : s'.shouldTerminate = s.shouldTerminate) : s'.Mode := by
  obtain ⟨hcritical, hset, -⟩ := h.up_of_thread hthread
  refine .up ?_ (hcreated.trans hset) phase' hthread' fun hc => hterminate.trans (hended hc)
  rw [hcalls]
  exact hcritical

theorem isCritical_begin (call : ApiCall O) : (begin call).isCritical = false := by
  rw [begin]
  split
  · rfl
  · rfl

/-! ### The steps -/

variable [DecidableEq O]

theorem critical_erase_of_neg {s : Win32 O} {point : Point O} (hmem : point ∈ s.calls)
    (hpoint : point.isCritical = false) : critical (s.calls.erase point) = critical s.calls := by
  conv_rhs => rw [← Multiset.cons_erase hmem, critical_cons_of_neg hpoint]

/-- A call that is not critical goes on to a point that is not. -/
theorem critical_goes {s : Win32 O} {point : Point O} {point? : Option (Point O)}
    (hmem : point ∈ s.calls) (hpoint : point.isCritical = false)
    (hnew : ∀ q, point? = some q → q.isCritical = false) :
    critical (s.goes point point?) = critical s.calls := by
  cases point? with
  | none => exact critical_erase_of_neg hmem hpoint
  | some q => exact (critical_cons_of_neg (hnew q rfl)).trans (critical_erase_of_neg hmem hpoint)

/-- The only critical call goes on. -/
theorem critical_erase {s : Win32 O} {point : Point O} (hmem : point ∈ s.calls)
    (hpoint : point.isCritical = true) (hcritical : critical s.calls = {point}) :
    critical (s.calls.erase point) = 0 := by
  rw [← Multiset.cons_erase hmem, critical_cons_of_pos hpoint] at hcritical
  exact (Multiset.cons_inj_right point).mp hcritical

/-- A call goes on between points that are not critical. -/
theorem Mode.quiet {s s' : Win32 O} (h : s.Mode) {point : Point O} (point? : Option (Point O))
    (hmem : point ∈ s.calls) (hcalls : s'.calls = s.goes point point?)
    (hpoint : point.isCritical = false) (hnew : ∀ q, point? = some q → q.isCritical = false)
    (hcreated : s'.observerThreadCreated = s.observerThreadCreated)
    (hterminate : s.shouldTerminate = true → s'.shouldTerminate = true)
    (hthread : s'.observerThread = s.observerThread) : s'.Mode := by
  refine h.same ?_ hcreated hthread hterminate
  rw [hcalls]
  exact critical_goes hmem hpoint hnew

theorem Mode.exchange {s : Win32 O} (h : s.Mode) {caller : Caller O}
    (hmem : .exchange caller ∈ s.calls) :
    Mode { s with
      observerThreadCreated := true
      calls := s.goes (.exchange caller)
        (if s.observerThreadCreated then caller.returns else some (.clearTerminate caller)) } := by
  cases hcreated : s.observerThreadCreated with
  | true =>
      refine h.quiet caller.returns hmem rfl rfl (fun q hq => ?_) hcreated.symm id rfl
      cases caller with
      | onFirstObserverRegistered => cases hq
      | waitForFirstEnumeration call =>
          obtain rfl := Option.some.inj hq
          rfl
  | false =>
      obtain ⟨hcritical, hthread⟩ := h.idle_of_created hcreated
      have erased := (critical_erase_of_neg hmem rfl).trans hcritical
      exact .clearing caller (critical_cons rfl erased) rfl hthread

theorem Mode.createThread {s : Win32 O} (h : s.Mode) {caller : Caller O}
    (hmem : .createThread caller ∈ s.calls) :
    Mode { s with
      observerThread := some .checking
      calls := s.goes (.createThread caller) caller.returns } := by
  obtain ⟨hcreated, -⟩ := h.of_critical hmem rfl
  have erased := critical_erase hmem rfl (h.of_mem hmem rfl)
  refine .up ?_ hcreated .checking rfl fun hc => by cases hc
  cases caller with
  | onFirstObserverRegistered => exact erased
  | waitForFirstEnumeration call => exact (critical_cons_of_neg rfl).trans erased

theorem Mode.join {s : Win32 O} (h : s.Mode) (hmem : .join ∈ s.calls)
    (hthread : s.observerThread = some .ended) :
    Mode { s with observerThread := none, calls := s.goes .join (some .resetThread) } := by
  obtain ⟨hcritical, hcreated, hterminate⟩ := h.up_of_thread hthread
  have erased := (critical_erase_of_neg hmem rfl).trans hcritical
  exact .reset (critical_cons rfl erased) hcreated rfl (hterminate rfl)

/-- **One step of a call**. -/
theorem Mode.step {s s' : Win32 O} (h : s.Mode) {point : Point O} (hmem : point ∈ s.calls)
    (hstep : s.step point = some s') : s'.Mode := by
  cases point with
  | exchange caller =>
      obtain rfl := Option.some.inj hstep
      exact h.exchange hmem
  | clearTerminate caller =>
      obtain rfl := Option.some.inj hstep
      obtain ⟨hcreated, hthread⟩ := h.of_critical hmem rfl
      have erased := critical_erase hmem rfl (h.of_mem hmem rfl)
      exact .creating caller (critical_cons rfl erased) hcreated hthread
  | createThread caller =>
      rw [Win32.step, if_neg (h.not_joinable hmem rfl)] at hstep
      obtain rfl := Option.some.inj hstep
      exact h.createThread hmem
  | readEnumerated call =>
      obtain rfl := Option.some.inj hstep
      refine h.quiet (some (if s.enumeratedOnce then .body call else .wait call)) hmem rfl rfl
        (fun q hq => ?_) rfl id rfl
      obtain rfl := Option.some.inj hq
      split
      · rfl
      · rfl
  | wait call =>
      obtain ⟨-, ⟨⟩⟩ := Option.ite_none_right_eq_some.mp hstep
      refine h.quiet (some (.body call)) hmem rfl rfl (fun q hq => ?_) rfl id rfl
      obtain rfl := Option.some.inj hq
      rfl
  | body call =>
      obtain rfl := Option.some.inj hstep
      refine h.quiet ((call.body s.helper).2.map pointOf) hmem rfl rfl (fun q hq => ?_) rfl id rfl
      obtain ⟨decision, -, rfl⟩ := Option.map_eq_some_iff.mp hq
      cases decision with
      | onFirstObserverRegistered => rfl
      | onLastObserverUnregistered => rfl
  | setTerminate =>
      obtain rfl := Option.some.inj hstep
      refine h.quiet (some .joinable) hmem rfl rfl (fun q hq => ?_) rfl (fun _ => rfl) rfl
      obtain rfl := Option.some.inj hq
      rfl
  | joinable =>
      obtain rfl := Option.some.inj hstep
      refine h.quiet _ hmem rfl rfl (fun q hq => ?_) rfl id rfl
      obtain ⟨-, ⟨⟩⟩ := Option.ite_none_right_eq_some.mp hq
      rfl
  | join =>
      rw [Win32.step] at hstep
      split at hstep
      · -- the thread has left its loop
        rename_i hthread
        obtain rfl := Option.some.inj hstep
        exact h.join hmem hthread
      · cases hstep
      · obtain rfl := Option.some.inj hstep
        exact h.same rfl rfl rfl id
  | resetThread =>
      rw [Win32.step, if_neg (h.not_joinable hmem rfl)] at hstep
      obtain rfl := Option.some.inj hstep
      have hcritical := h.of_mem hmem rfl
      obtain ⟨hcreated, hthread⟩ := h.of_critical hmem rfl
      have erased := critical_erase hmem rfl hcritical
      exact .clear (critical_cons rfl erased) hcreated hthread (h.terminates hcritical rfl)
  | clearCreated =>
      obtain rfl := Option.some.inj hstep
      obtain ⟨-, hthread⟩ := h.of_critical hmem rfl
      have erased := critical_erase hmem rfl (h.of_mem hmem rfl)
      exact .idle ((critical_cons_of_neg rfl).trans erased) rfl hthread
  | clearEnumerated =>
      obtain rfl := Option.some.inj hstep
      exact h.quiet none hmem rfl rfl (fun _ hc => by cases hc) rfl id rfl

/-- **One step**. -/
theorem Mode.next {s s' : Win32 O} {event : Event O} (h : s.Mode)
    (hstep : Steps Win32.next s event s') : s'.Mode := by
  obtain ⟨-, hnext⟩ := Option.ite_none_left_eq_some.mp hstep
  cases event with
  | call call =>
      obtain ⟨⟩ := hnext
      exact h.same (critical_cons_of_neg (isCritical_begin call)) rfl rfl id
  | step point =>
      obtain ⟨hmem, hstep⟩ := Option.ite_none_right_eq_some.mp hnext
      exact h.step hmem hstep
  | check due =>
      obtain ⟨hthread, ⟨⟩⟩ := Option.ite_none_right_eq_some.mp hnext
      refine h.thread hthread rfl (fun hended => ?_) rfl rfl rfl
      by_contra hterminate
      rw [if_neg hterminate] at hended
      cases due <;> cases hended
  | enumerate newList =>
      obtain ⟨hthread, ⟨⟩⟩ := Option.ite_none_right_eq_some.mp hnext
      exact h.thread hthread rfl (fun hc => by cases hc) rfl rfl rfl
  | setEnumerated =>
      obtain ⟨hthread, ⟨⟩⟩ := Option.ite_none_right_eq_some.mp hnext
      exact h.thread hthread rfl (fun hc => by cases hc) rfl rfl rfl

/-- **One thread at a time**, in every run. -/
theorem mode_of_reaches {s : Win32 O} (h : Reaches (Steps Win32.next) {} s) : s.Mode :=
  h.invariant (fun _ _ _ ha hab => ha.next hab) mode_empty

end

end Win32

end NetworkInterface
