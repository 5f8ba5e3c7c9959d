import Mathlib.Data.Multiset.Filter
import NetworkInterface.Helper.Impl
import NetworkInterface.Support.Runs

/-!
# Monitor — LifeCycle

When the observer thread of a delegate runs.  Any number of clients call `registerObserver` and
`unregisterObserver`; under the lock a call updates `_observers` and decides whether it was the
first registration or the last unregistration, and after it has released the lock it calls the
delegate.

So a later decision can reach the delegate before an earlier one.  As long as none does, the
Unix delegate never starts a thread over a running one, and no observer is left without monitoring
(`monitored_of_reaches`).
-/

namespace NetworkInterface

open Support Runs

/-! ### The delegates -/

/-- `OsDependentDelegate_Unix` and `OsDependentDelegate_Win32`. -/
inductive Delegate where
  | unix
  | win32
  deriving DecidableEq

/-- What a call has decided to call the delegate with. -/
inductive Decision where
  | onFirstObserverRegistered
  | onLastObserverUnregistered
  deriving DecidableEq

/-- Whether the observer thread runs, after `waitForFirstEnumeration`: on Windows it calls
`createObserverThread`. -/
def Delegate.waitForFirstEnumeration (running : Bool) : Delegate → Bool
  | .unix  => running
  | .win32 => true

/-- Whether the observer thread runs, after the call of the delegate.  `none`: the process aborts,
which assigning to a joinable `std::thread` makes it do.  On Windows, `_observerThreadCreated` keeps
`createObserverThread` from creating a second thread. -/
def Delegate.run (running : Bool) : Delegate → Decision → Option Bool
  | .unix, .onFirstObserverRegistered  => if running then none else some true
  | .win32, .onFirstObserverRegistered => some true
  | _, .onLastObserverUnregistered     => some false

/-! ### The calls of the clients -/

/-- What a client calls. -/
inductive Request (O : Type*) where
  | registerObserver (observer : Option O)
  | unregisterObserver (observer : Option O)
  deriving DecidableEq

/-- A call in progress. -/
inductive Call (O : Type*) where
  /-- Before `waitForFirstEnumeration`. -/
  | entering (request : Request O)
  /-- Before the lock is taken. -/
  | updating (request : Request O)
  /-- The lock is released, the delegate not called yet. -/
  | deciding (decision : Decision)
  /-- Before the call returns. -/
  | leaving
  deriving DecidableEq

/-- The start of a call: `unregisterObserver` does not wait for the first enumeration. -/
def Request.begin {O : Type*} : Request O → Call O
  | .registerObserver observer   => .entering (.registerObserver observer)
  | .unregisterObserver observer => .updating (.unregisterObserver observer)

/-- What the call decides, if it decides anything. -/
def Request.decision {O : Type*} : Request O → Decision
  | .registerObserver _   => .onFirstObserverRegistered
  | .unregisterObserver _ => .onLastObserverUnregistered

/-- The decision the call still has to take to the delegate. -/
def Call.pending {O : Type*} : Call O → Option Decision
  | .deciding decision => some decision
  | _                  => none

/-- The helper, its observer thread and the calls in progress.  It does not matter which client
makes which call. -/
structure LifeCycle (O : Type*) where
  helper : Helper O := {}
  calls : Multiset (Call O) := 0
  running : Bool := false
  aborted : Bool := false
  /-- The decisions whose delegate calls are still to be made, the oldest first. -/
  order : List Decision := []

/-- A step of one of the clients. -/
inductive Move (O : Type*) where
  | call (request : Request O)
  | wait (request : Request O)
  | update (request : Request O)
  | delegate (decision : Decision)
  | leave

section
variable {O : Type*}

/-- The part under the lock, and whether the delegate is to be called. -/
def Request.apply [DecidableEq O] (helper : Helper O) : Request O → Helper O × Bool
  | .registerObserver observer   => helper.registerObserver observer
  | .unregisterObserver observer => helper.unregisterObserver observer

namespace LifeCycle

/-- A call goes from one stage to the next. -/
def advance [DecidableEq O] (s : LifeCycle O) (old new : Call O) : Multiset (Call O) :=
  new ::ₘ s.calls.erase old

/-- The part under the lock. -/
def update [DecidableEq O] (s : LifeCycle O) (request : Request O) : LifeCycle O :=
  let (helper, decides) := request.apply s.helper
  if decides then
    { s with
      helper := helper
      calls := s.advance (.updating request) (.deciding request.decision)
      order := s.order ++ [request.decision] }
  else
    { s with helper := helper, calls := s.advance (.updating request) .leaving }

/-- The call of the delegate. -/
def delegate [DecidableEq O] (s : LifeCycle O) (kind : Delegate) (decision : Decision) :
    LifeCycle O :=
  { s with
    calls := s.advance (.deciding decision) .leaving
    running := (kind.run s.running decision).getD s.running
    aborted := s.aborted || (kind.run s.running decision).isNone
    order := s.order.tail }

/-- The steps. -/
def next [DecidableEq O] (kind : Delegate) (s : LifeCycle O) : Move O → Option (LifeCycle O)
  | .call request      => some { s with calls := request.begin ::ₘ s.calls }
  | .wait request      =>
      if .entering request ∈ s.calls then some
        { s with
          calls := s.advance (.entering request) (.updating request)
          running := kind.waitForFirstEnumeration s.running }
      else none
  | .update request    => if .updating request ∈ s.calls then some (s.update request) else none
  | .delegate decision =>
      if .deciding decision ∈ s.calls then some (s.delegate kind decision) else none
  | .leave             =>
      if .leaving ∈ s.calls then some { s with calls := s.calls.erase .leaving } else none

/-- The delegate is called for what was decided first, among what it was not called for yet. -/
def InOrder (s : LifeCycle O) : Move O → Prop
  | .delegate decision => s.order.head? = some decision
  | _                  => True

instance (s : LifeCycle O) : (move : Move O) → Decidable (InOrder s move)
  | .delegate decision => inferInstanceAs (Decidable (s.order.head? = some decision))
  | .call _ | .wait _ | .update _ | .leave => inferInstanceAs (Decidable True)

/-- The process has not aborted, and with no call in progress, the observer thread runs whenever
there is an observer. -/
structure Monitored (s : LifeCycle O) : Prop where
  notAborted : s.aborted = false
  running : s.calls = 0 → s.helper.observers.Nonempty → s.running = true

/-! ### The invariant -/

/-- Called for the decisions in turn, a delegate whose thread is started (or not) ends with a thread
that is started (or not), and never starts or stops it twice. -/
def Alternates : Bool → List Decision → Bool → Prop
  | started, [], final                                   => started = final
  | started, .onFirstObserverRegistered :: order, final  =>
      started = false ∧ Alternates true order final
  | started, .onLastObserverUnregistered :: order, final =>
      started = true ∧ Alternates false order final

theorem alternates_first {order : List Decision} : ∀ {started : Bool},
    Alternates started order false →
      Alternates started (order ++ [.onFirstObserverRegistered]) true := by
  induction order with
  | nil => exact fun h => ⟨h, rfl⟩
  | cons decision order ih =>
      cases decision with
      | onFirstObserverRegistered => exact fun ⟨h, hrest⟩ => ⟨h, ih hrest⟩
      | onLastObserverUnregistered => exact fun ⟨h, hrest⟩ => ⟨h, ih hrest⟩

theorem alternates_last {order : List Decision} : ∀ {started : Bool},
    Alternates started order true →
      Alternates started (order ++ [.onLastObserverUnregistered]) false := by
  induction order with
  | nil => exact fun h => ⟨h, rfl⟩
  | cons decision order ih =>
      cases decision with
      | onFirstObserverRegistered => exact fun ⟨h, hrest⟩ => ⟨h, ih hrest⟩
      | onLastObserverUnregistered => exact fun ⟨h, hrest⟩ => ⟨h, ih hrest⟩

/-- Whether there is an observer. -/
def hasObserver (helper : Helper O) : Bool := decide helper.observers.Nonempty

/-- The calls still have to take the decisions of `order` to the delegate.  Taking them there in
that order starts and stops the thread by turns, and leaves it started exactly when there is an
observer.  On Windows, the thread may run without having been started. -/
structure Inv (kind : Delegate) (s : LifeCycle O) : Prop where
  notAborted : s.aborted = false
  pending : s.calls.filterMap Call.pending = s.order
  alternates : ∃ started, Alternates started s.order (hasObserver s.helper) ∧
    (started = true → s.running = true) ∧ (kind = .unix → s.running = true → started = true)

theorem inv_empty (kind : Delegate) : Inv kind ({} : LifeCycle O) where
  notAborted := rfl
  pending := rfl
  alternates := ⟨false, rfl, nofun, fun _ hc => hc⟩

theorem Inv.monitored {kind : Delegate} {s : LifeCycle O} (h : Inv kind s) : Monitored s where
  notAborted := h.notAborted
  running hcalls hobserved := by
    obtain ⟨started, halt, hrun, -⟩ := h.alternates
    have done : s.order = [] := by
      have pending := h.pending
      rw [hcalls] at pending
      exact (Multiset.coe_eq_zero _).mp pending.symm
    rw [done] at halt
    exact hrun (halt.trans (decide_eq_true hobserved))

/-! ### The steps -/

variable [DecidableEq O]

/-- What the part under the lock decides. -/
theorem apply_spec (helper : Helper O) (request : Request O) :
    ∃ helper' decides, request.apply helper = (helper', decides) ∧
      (decides = false → hasObserver helper' = hasObserver helper) ∧
      (decides = true → ∀ {order started}, Alternates started order (hasObserver helper) →
        Alternates started (order ++ [request.decision]) (hasObserver helper')) := by
  cases request with
  | registerObserver observer =>
      cases observer with
      | none => exact ⟨helper, false, rfl, fun _ => rfl, nofun⟩
      | some observer =>
          by_cases hmem : observer ∈ helper.observers
          · exact ⟨helper, false, Helper.registerObserver_of_mem hmem, fun _ => rfl, nofun⟩
          · have there : ∀ received, hasObserver
                (⟨insert observer helper.observers, helper.networkInterfaces, received⟩ : Helper O)
                = true := fun _ => decide_eq_true (Finset.insert_nonempty ..)
            refine ⟨_, _, Helper.registerObserver_of_notMem hmem, fun hnot => ?_, fun hfirst => ?_⟩
            · have hne : helper.observers.Nonempty :=
                Finset.nonempty_iff_ne_empty.mpr (of_decide_eq_false hnot)
              exact (there _).trans (decide_eq_true hne).symm
            · have hempty : hasObserver helper = false := by
                rw [hasObserver, of_decide_eq_true hfirst]
                rfl
              intro order started h
              rw [hempty] at h
              rw [there]
              exact alternates_first h
  | unregisterObserver observer =>
      cases observer with
      | none => exact ⟨helper, false, rfl, fun _ => rfl, nofun⟩
      | some observer =>
          by_cases hmem : observer ∈ helper.observers
          · have there : hasObserver helper = true := decide_eq_true ⟨observer, hmem⟩
            refine ⟨_, _, Helper.unregisterObserver_of_mem hmem, fun hnot => ?_, fun hlast => ?_⟩
            · exact (decide_eq_true
                (Finset.nonempty_iff_ne_empty.mpr (of_decide_eq_false hnot))).trans there.symm
            · intro order started h
              rw [there] at h
              rw [hasObserver, of_decide_eq_true hlast]
              exact alternates_last h
          · exact ⟨helper, false, Helper.unregisterObserver_of_notMem hmem, fun _ => rfl, nofun⟩

/-- What is pending, when a call with nothing pending goes from one stage to the next. -/
theorem pending_advance {s : LifeCycle O} {old : Call O} (hold : old ∈ s.calls)
    (hnone : old.pending = none) (new : Call O) :
    (s.advance old new).filterMap Call.pending =
      new.pending.elim (s.calls.filterMap Call.pending) (· ::ₘ s.calls.filterMap Call.pending) := by
  obtain ⟨rest, hrest⟩ := Multiset.exists_cons_of_mem hold
  rw [advance, hrest, Multiset.erase_cons_head, Multiset.filterMap_cons_none _ _ hnone]
  cases hnew : new.pending with
  | none => exact Multiset.filterMap_cons_none _ _ hnew
  | some decision => exact Multiset.filterMap_cons_some _ _ _ hnew

theorem Inv.wait {kind : Delegate} {s : LifeCycle O} (h : Inv kind s) {request : Request O}
    (hmem : .entering request ∈ s.calls) :
    Inv kind { s with
      calls := s.advance (.entering request) (.updating request)
      running := kind.waitForFirstEnumeration s.running } where
  notAborted := h.notAborted
  pending := (pending_advance hmem rfl _).trans h.pending
  alternates := by
    obtain ⟨started, halt, hrun, hunix⟩ := h.alternates
    cases kind with
    | unix => exact ⟨started, halt, hrun, hunix⟩
    | win32 => exact ⟨started, halt, fun _ => rfl, nofun⟩

theorem Inv.update {kind : Delegate} {s : LifeCycle O} (h : Inv kind s) {request : Request O}
    (hmem : .updating request ∈ s.calls) : Inv kind (s.update request) := by
  obtain ⟨helper', decides, happly, hsame, hdecides⟩ := apply_spec s.helper request
  obtain ⟨started, halt, hrun, hunix⟩ := h.alternates
  rw [LifeCycle.update, happly]
  cases decides with
  | false =>
      refine ⟨h.notAborted, (pending_advance hmem rfl _).trans h.pending, started, ?_, hrun, hunix⟩
      rw [← hsame rfl] at halt
      exact halt
  | true =>
      refine ⟨h.notAborted, ?_, started, hdecides rfl halt, hrun, hunix⟩
      refine (pending_advance hmem rfl _).trans ?_
      change request.decision ::ₘ s.calls.filterMap Call.pending =
        ((s.order ++ [request.decision] : List Decision) : Multiset Decision)
      rw [h.pending, ← Multiset.coe_add, Multiset.coe_singleton, Multiset.add_comm,
        Multiset.singleton_add]

theorem Inv.delegate {kind : Delegate} {s : LifeCycle O} (h : Inv kind s) {decision : Decision}
    (hmem : .deciding decision ∈ s.calls) (horder : s.order.head? = some decision) :
    Inv kind (s.delegate kind decision) := by
  obtain ⟨order, hcons⟩ := List.head?_eq_some_iff.mp horder
  obtain ⟨rest, hrest⟩ := Multiset.exists_cons_of_mem hmem
  obtain ⟨started, halt, hrun, hunix⟩ := h.alternates
  have pending : (s.advance (.deciding decision) .leaving).filterMap Call.pending = order := by
    have whole := h.pending
    rw [hrest, hcons,
      Multiset.filterMap_cons_some _ _ _ (rfl : Call.pending (.deciding decision) = _),
      ← Multiset.cons_coe, Multiset.cons_inj_right] at whole
    rw [advance, hrest, Multiset.erase_cons_head, Multiset.filterMap_cons_none _ _ rfl, whole]
  rw [hcons] at halt
  cases decision with
  | onFirstObserverRegistered =>
      obtain ⟨rfl, hrest⟩ := halt
      cases kind with
      | unix =>
          -- the thread is not running
          have stopped : s.running = false := Bool.eq_false_iff.mpr fun hc =>
            Bool.false_ne_true (hunix rfl hc)
          refine ⟨?_, ?_, true, ?_, fun _ => ?_, fun _ _ => rfl⟩
          · simp [LifeCycle.delegate, Delegate.run, h.notAborted, stopped]
          · simpa [LifeCycle.delegate, hcons] using pending
          · simpa [LifeCycle.delegate, hcons] using hrest
          · simp [LifeCycle.delegate, Delegate.run, stopped]
      | win32 =>
          -- `waitForFirstEnumeration` may have created the thread already
          refine ⟨?_, ?_, true, ?_, fun _ => rfl, nofun⟩
          · simp [LifeCycle.delegate, Delegate.run, h.notAborted]
          · simpa [LifeCycle.delegate, hcons] using pending
          · simpa [LifeCycle.delegate, hcons] using hrest
  | onLastObserverUnregistered =>
      obtain ⟨rfl, hrest⟩ := halt
      have run : kind.run s.running .onLastObserverUnregistered = some false := by
        cases kind <;> rfl
      refine ⟨?_, ?_, false, ?_, nofun, fun _ hc => ?_⟩
      · simp [LifeCycle.delegate, run, h.notAborted]
      · simpa [LifeCycle.delegate, hcons] using pending
      · simpa [LifeCycle.delegate, hcons] using hrest
      · simp [LifeCycle.delegate, run] at hc

/-- **One step** in order keeps the invariant. -/
theorem Inv.next {kind : Delegate} {s s' : LifeCycle O} {move : Move O} (h : Inv kind s)
    (hstep : Meeting InOrder (Steps (LifeCycle.next kind)) s move s') : Inv kind s' := by
  obtain ⟨horder, hnext⟩ := hstep
  cases move with
  | call request =>
      obtain ⟨⟩ := hnext
      refine ⟨h.notAborted, (Multiset.filterMap_cons_none _ _ ?_).trans h.pending, h.alternates⟩
      cases request <;> rfl
  | wait request =>
      obtain ⟨hmem, ⟨⟩⟩ := Option.ite_none_right_eq_some.mp hnext
      exact h.wait hmem
  | update request =>
      obtain ⟨hmem, ⟨⟩⟩ := Option.ite_none_right_eq_some.mp hnext
      exact h.update hmem
  | delegate decision =>
      obtain ⟨hmem, ⟨⟩⟩ := Option.ite_none_right_eq_some.mp hnext
      exact h.delegate hmem horder
  | leave =>
      obtain ⟨hmem, ⟨⟩⟩ := Option.ite_none_right_eq_some.mp hnext
      obtain ⟨rest, hrest⟩ := Multiset.exists_cons_of_mem hmem
      refine ⟨h.notAborted, ?_, h.alternates⟩
      have whole := h.pending
      rw [hrest, Multiset.filterMap_cons_none _ _ rfl] at whole
      rw [hrest, Multiset.erase_cons_head]
      exact whole

/-! ### Runs -/

/-- **The monitoring life cycle**: in every run that calls the delegate in the order of the
decisions, no thread is started over a running one, and no observer is left without monitoring. -/
theorem monitored_of_reaches {kind : Delegate} {s : LifeCycle O}
    (h : Reaches (Meeting InOrder (Steps (LifeCycle.next kind))) {} s) : Monitored s := by
  have inv : Inv kind s := h.invariant (fun _ _ _ ha hab => ha.next hab) (inv_empty kind)
  exact inv.monitored

/-- `false` is registered. -/
def registering : List (Move Bool) :=
  [.call (.registerObserver (some false)), .wait (.registerObserver (some false)),
    .update (.registerObserver (some false)), .delegate .onFirstObserverRegistered, .leave]

/-- `false`, once registered, is monitored. -/
theorem monitored_registering :
    ∃ s, exec (LifeCycle.next .unix) ({} : LifeCycle Bool) registering = some s ∧ Monitored s := by
  have run : exec (guarded InOrder (LifeCycle.next .unix)) ({} : LifeCycle Bool) registering =
      exec (LifeCycle.next .unix) {} registering := rfl
  exact ⟨_, rfl, monitored_of_reaches (reaches_of_exec_guarded run)⟩

/-- The Unix delegate called for a first registration before it is called for the unregistration
decided earlier: the thread it starts is running. -/
theorem aborted_of_overtaking {s : LifeCycle O} (h : Inv .unix s)
    (horder : s.order.head? = some .onLastObserverUnregistered) :
    (s.delegate .unix .onFirstObserverRegistered).aborted = true := by
  obtain ⟨order, hcons⟩ := List.head?_eq_some_iff.mp horder
  obtain ⟨started, halt, hrun, -⟩ := h.alternates
  rw [hcons] at halt
  simp [LifeCycle.delegate, Delegate.run, hrun halt.1]

/-- `false` is unregistered and `true` registered at the same time, and the delegate is called for
the registration first. -/
def overtaking : List (Move Bool) :=
  registering ++
  [.call (.unregisterObserver (some false)), .update (.unregisterObserver (some false)),
    .call (.registerObserver (some true)), .wait (.registerObserver (some true)),
    .update (.registerObserver (some true)), .delegate .onFirstObserverRegistered, .leave,
    .delegate .onLastObserverUnregistered, .leave]

/-- The Unix delegate aborts; the Windows delegate leaves `true` without monitoring. -/
theorem not_monitored :
    (¬ ∀ s : LifeCycle Bool, Reaches (Steps (LifeCycle.next .unix)) {} s → Monitored s) ∧
    ¬ ∀ s : LifeCycle Bool, Reaches (Steps (LifeCycle.next .win32)) {} s → Monitored s := by
  constructor
  · intro h
    obtain ⟨s, hrun, haborted⟩ : ∃ s, exec (LifeCycle.next .unix) {} overtaking = some s ∧
        s.aborted = true := ⟨_, rfl, rfl⟩
    exact Bool.false_ne_true ((h s (reaches_of_exec hrun)).notAborted.symm.trans haborted)
  · intro h
    obtain ⟨s, hrun, hcalls, hobserved, hstopped⟩ :
        ∃ s, exec (LifeCycle.next .win32) {} overtaking = some s ∧ s.calls = 0 ∧
          s.helper.observers.Nonempty ∧ s.running = false := ⟨_, rfl, rfl, ⟨true, by decide⟩, rfl⟩
    exact Bool.false_ne_true
      (hstopped.symm.trans ((h s (reaches_of_exec hrun)).running hcalls hobserved))

end LifeCycle

end

end NetworkInterface
