import NetworkInterface.Helper.Diff
import NetworkInterface.Monitor.LifeCycle

/-!
# Monitor — Freshness

What `registerObserver` reports to the first observer, with a delegate whose observer thread runs
only while there are observers (Unix, macOS and iOS).  One client makes one call after the other,
the list of interfaces the system has may change at any time, and the thread refreshes the table
while it runs.

`_enumeratedOnce` keeps `waitForFirstEnumeration` from enumerating twice.  It is cleared only where
a thread is joined, so once a call has enumerated while no thread was running, a first registration
reports the table as that call left it (`fresh_iff`).
-/

namespace NetworkInterface

open Support Runs

/-! ### Sequential runs -/

/-- A call of the client. -/
inductive ApiCall (O : Type*) where
  /-- With a handler, or with a null one. -/
  | enumerateInterfaces (onInterface : Bool)
  | getInterfaceByName (name : Text)
  | registerObserver (observer : Option O)
  | unregisterObserver (observer : Option O)
  deriving DecidableEq

/-- The call starts with `waitForFirstEnumeration`. -/
def ApiCall.waits {O : Type*} : ApiCall O → Bool
  | .enumerateInterfaces onInterface               => onInterface
  | .getInterfaceByName _ | .registerObserver _    => true
  | .unregisterObserver _                          => false

/-- The part of the call under the lock, and what it calls the delegate with after that. -/
def ApiCall.body {O : Type*} [DecidableEq O] (helper : Helper O) :
    ApiCall O → Helper O × Option Decision
  | .enumerateInterfaces _ | .getInterfaceByName _ => (helper, none)
  | .registerObserver observer                     =>
      let (helper, isFirst) := helper.registerObserver observer
      (helper, if isFirst then some .onFirstObserverRegistered else none)
  | .unregisterObserver observer                   =>
      let (helper, isLast) := helper.unregisterObserver observer
      (helper, if isLast then some .onLastObserverUnregistered else none)

/-- How far the call is. -/
inductive Stage (O : Type*) where
  /-- Before `waitForFirstEnumeration`. -/
  | waiting (call : ApiCall O)
  /-- Before the lock is taken. -/
  | running (call : ApiCall O)
  /-- Before the delegate is called. -/
  | deciding (decision : Decision)
  /-- Before the call returns. -/
  | leaving

/-- The helper, its delegate, and the system. -/
structure Session (O : Type*) where
  helper : Helper O := {}
  /-- `_observerThread` is joinable. -/
  threadRunning : Bool := false
  enumeratedOnce : Bool := false
  /-- The interfaces the system has. -/
  system : Interfaces := ∅
  /-- The call in progress. -/
  stage : Option (Stage O) := none
  /-- The interfaces the system has had during that call, or the last one. -/
  systemDuring : List Interfaces := []
  /-- `_enumeratedOnce` and the table when the call began. -/
  enumeratedBefore : Bool := false
  tableBefore : Interfaces := ∅
  /-- What the call reported, when it registered an observer and no other one was registered. -/
  firstReport : Option (List Interface) := none

/-- A step. -/
inductive Happening (O : Type*) where
  | systemChanges (interfaces : Interfaces)
  /-- The observer thread enumerates. -/
  | refresh
  | call (call : ApiCall O)
  | wait
  | run
  /-- The delegate is called; the macOS one may find no dynamic store to start its thread with. -/
  | delegate (starts : Bool)
  | leave

namespace Session

section
variable {O : Type*}

/-- `refreshInterfaces`, then `onNewInterfacesList`. -/
def enumerate [DecidableEq O] (s : Session O) : Session O :=
  { s with helper := s.helper.onNewInterfacesList s.system }

/-- `waitForFirstEnumeration`. -/
def waitForFirstEnumeration [DecidableEq O] (s : Session O) : Session O :=
  if s.enumeratedOnce then s else { s.enumerate with enumeratedOnce := true }

/-- `onLastObserverUnregistered`, which calls `terminateObserverThread`. -/
def terminateObserverThread (s : Session O) : Session O :=
  if s.threadRunning then { s with threadRunning := false, enumeratedOnce := false } else s

/-- The stage after the part under the lock. -/
def afterLock (decides : Bool) (decision : Decision) : Option (Stage O) :=
  some (if decides then .deciding decision else .leaving)

/-- The part of the call under the lock. -/
def runCall [DecidableEq O] (s : Session O) : ApiCall O → Session O
  | .enumerateInterfaces _ | .getInterfaceByName _ => { s with stage := some .leaving }
  | .registerObserver observer =>
      let (helper, isFirst) := s.helper.registerObserver observer
      { s with
        helper := helper
        stage := afterLock isFirst .onFirstObserverRegistered
        firstReport := if isFirst then
          observer.map fun observer =>
            (helper.received observer).map fun delivery => delivery.notification.intfc
          else none }
  | .unregisterObserver observer =>
      let (helper, isLast) := s.helper.unregisterObserver observer
      { s with helper := helper, stage := afterLock isLast .onLastObserverUnregistered }

/-- The steps. -/
def next [DecidableEq O] (s : Session O) : Happening O → Option (Session O)
  | .systemChanges interfaces => some
      { s with
        system := interfaces
        systemDuring :=
          if s.stage.isSome then interfaces :: s.systemDuring else s.systemDuring }
  | .refresh                  => if s.threadRunning then some s.enumerate else none
  | .call call                =>
      match s.stage with
      | none   => some
          { s with
            stage := some (if call.waits then .waiting call else .running call)
            systemDuring := [s.system]
            enumeratedBefore := s.enumeratedOnce
            tableBefore := s.helper.networkInterfaces
            firstReport := none }
      | some _ => none
  | .wait                     =>
      match s.stage with
      | some (.waiting call) => some
          { s.waitForFirstEnumeration with stage := some (.running call) }
      | _                    => none
  | .run                      =>
      match s.stage with
      | some (.running call) => some (s.runCall call)
      | _                    => none
  | .delegate starts          =>
      match s.stage with
      | some (.deciding .onFirstObserverRegistered)  => some
          { s with threadRunning := starts, stage := some .leaving }
      | some (.deciding .onLastObserverUnregistered) => some
          { s.terminateObserverThread with stage := some .leaving }
      | _                                            => none
  | .leave                    =>
      match s.stage with
      | some .leaving => some { s with stage := none }
      | _             => none

/-- The interfaces are those the system had at some moment of the call. -/
def Fresh (s : Session O) (interfaces : List Interface) : Prop :=
  ∃ table ∈ s.systemDuring, interfaces.Perm (interfacesOf table)

/-! ### The invariant -/

/-- Where the interfaces come from: the table as the call found it when that had been enumerated
before, a list the system had during the call otherwise. -/
def Explained (s : Session O) (interfaces : List Interface) : Prop :=
  (s.enumeratedBefore = true → interfaces = interfacesOf s.tableBefore) ∧
    (s.enumeratedBefore = false → ∃ table ∈ s.systemDuring, interfaces = interfacesOf table)

/-- The thread runs only when there is an observer, or the last one was just unregistered; without
it, the table and `_enumeratedOnce` change in `waitForFirstEnumeration` only. -/
structure Inv (s : Session O) : Prop where
  system : s.stage ≠ none → s.system ∈ s.systemDuring
  deciding : s.stage = some (.deciding .onFirstObserverRegistered) → s.helper.observers.Nonempty
  thread : s.threadRunning = true → s.stage ≠ some (.deciding .onLastObserverUnregistered) →
    s.helper.observers.Nonempty
  waiting : ∀ call, s.stage = some (.waiting call) →
    s.enumeratedOnce = s.enumeratedBefore ∧ s.firstReport = none ∧
      (s.threadRunning = false → s.helper.networkInterfaces = s.tableBefore)
  running : ∀ observer, s.stage = some (.running (.registerObserver observer)) →
    s.threadRunning = false → s.Explained (interfacesOf s.helper.networkInterfaces)
  reported : ∀ report, s.firstReport = some report → s.Explained report

theorem inv_start (system : Interfaces) : Inv ({ system := system } : Session O) where
  system hc := absurd rfl hc
  deciding := nofun
  thread := nofun
  waiting := nofun
  running := nofun
  reported := nofun

/-! ### The steps -/

theorem Inv.systemChanges {s : Session O} (h : s.Inv) (interfaces : Interfaces) :
    Inv { s with
      system := interfaces
      systemDuring :=
        if s.stage.isSome then interfaces :: s.systemDuring else s.systemDuring } := by
  have more {report : List Interface} (he : s.Explained report) :
      Explained { s with
        system := interfaces
        systemDuring :=
          if s.stage.isSome then interfaces :: s.systemDuring else s.systemDuring } report := by
    refine ⟨he.1, fun hbefore => ?_⟩
    obtain ⟨table, hmem, heq⟩ := he.2 hbefore
    refine ⟨table, ?_, heq⟩
    change table ∈ if s.stage.isSome then interfaces :: s.systemDuring else s.systemDuring
    split
    · exact List.mem_cons_of_mem _ hmem
    · exact hmem
  refine ⟨fun hstage => ?_, h.deciding, h.thread, h.waiting,
    fun observer hstage hthread => more (h.running observer hstage hthread),
    fun report hreport => more (h.reported report hreport)⟩
  change interfaces ∈ if s.stage.isSome then interfaces :: s.systemDuring else s.systemDuring
  rw [if_pos (Option.isSome_iff_ne_none.mpr hstage)]
  exact List.mem_cons_self

theorem Inv.call {s : Session O} (h : s.Inv) (hstage : s.stage = none) (call : ApiCall O) :
    Inv { s with
      stage := some (if call.waits then .waiting call else .running call)
      systemDuring := [s.system]
      enumeratedBefore := s.enumeratedOnce
      tableBefore := s.helper.networkInterfaces
      firstReport := none } where
  system _ := List.mem_cons_self
  deciding hc := by
    cases hwaits : call.waits <;> simp [hwaits] at hc
  thread hrunning _ := h.thread hrunning (by rw [hstage]; nofun)
  waiting _ _ := ⟨rfl, rfl, fun _ => rfl⟩
  running observer hc := by
    -- `registerObserver` waits first
    cases hwaits : call.waits with
    | true => simp [hwaits] at hc
    | false =>
        simp only [hwaits, Bool.false_eq_true, if_false, Option.some.injEq, Stage.running.injEq]
          at hc
        rw [hc] at hwaits
        cases hwaits
  reported := nofun

variable [DecidableEq O]

theorem observers_enumerate (s : Session O) :
    s.enumerate.helper.observers = s.helper.observers := by
  rw [enumerate, Helper.onNewInterfacesList_eq]
  exact Helper.observers_notifyAll ..

theorem networkInterfaces_enumerate (s : Session O) :
    s.enumerate.helper.networkInterfaces = s.system := by
  rw [enumerate, Helper.onNewInterfacesList_eq]

theorem Inv.refresh {s : Session O} (h : s.Inv) (hthread : s.threadRunning = true) :
    s.enumerate.Inv where
  system := h.system
  deciding hstage := by
    rw [observers_enumerate]
    exact h.deciding hstage
  thread hrunning hstage := by
    rw [observers_enumerate]
    exact h.thread hrunning hstage
  waiting call hstage := by
    obtain ⟨hflag, hnone, -⟩ := h.waiting call hstage
    exact ⟨hflag, hnone, fun hc => absurd (hthread.symm.trans hc) Bool.true_eq_false.mp⟩
  running _ _ hc := absurd (hthread.symm.trans hc) Bool.true_eq_false.mp
  reported := h.reported

theorem Inv.wait {s : Session O} (h : s.Inv) {call : ApiCall O}
    (hstage : s.stage = some (.waiting call)) :
    Inv { s.waitForFirstEnumeration with stage := some (.running call) } := by
  obtain ⟨hflag, hnone, htable⟩ := h.waiting call hstage
  have hsystem := h.system (by rw [hstage]; nofun)
  have hthread := fun hrunning => h.thread hrunning (by rw [hstage]; nofun)
  rw [waitForFirstEnumeration]
  split
  · -- without a thread, the table is still the one the call found
    rename_i honce
    refine ⟨fun _ => hsystem, nofun, fun hrunning _ => hthread hrunning, nofun,
      fun observer _ hstopped => ⟨fun _ => ?_, fun hbefore => ?_⟩, h.reported⟩
    · exact congrArg interfacesOf (htable hstopped)
    · exact absurd (honce.symm.trans (hflag.trans hbefore)) Bool.true_eq_false.mp
  · -- it is enumerated now
    rename_i honce
    refine ⟨fun _ => hsystem, nofun, fun hrunning _ => ?_, nofun,
      fun observer _ _ => ⟨fun hbefore => ?_, fun _ => ⟨s.system, hsystem, ?_⟩⟩, ?_⟩
    · change s.enumerate.helper.observers.Nonempty
      rw [observers_enumerate]
      exact hthread hrunning
    · exact absurd (hflag.trans hbefore) honce
    · exact congrArg interfacesOf (networkInterfaces_enumerate s)
    · intro report hreport
      cases hnone.symm.trans hreport

/-- What the first observer is told is the table. -/
theorem report_introduction (interfaces : Interfaces) :
    (Helper.introduction interfaces).map (fun delivery => delivery.notification.intfc) =
      interfacesOf interfaces := List.map_map ..

theorem Inv.registerObserver {s : Session O} (h : s.Inv) {observer : Option O}
    (hstage : s.stage = some (.running (.registerObserver observer))) :
    (s.runCall (.registerObserver observer)).Inv := by
  have hsystem := h.system (by rw [hstage]; nofun)
  have hthread := fun hrunning => h.thread hrunning (by rw [hstage]; nofun)
  cases observer with
  | none =>
      exact ⟨fun _ => hsystem, nofun, fun hrunning _ => hthread hrunning, nofun, nofun, nofun⟩
  | some obs =>
      by_cases hmem : obs ∈ s.helper.observers
      · rw [runCall, Helper.registerObserver_of_mem hmem]
        exact ⟨fun _ => hsystem, nofun, fun hrunning _ => hthread hrunning, nofun, nofun, nofun⟩
      · rw [runCall, Helper.registerObserver_of_notMem hmem]
        by_cases hfirst : s.helper.observers = ∅
        · -- no observer, so no thread: the table is the one `waitForFirstEnumeration` left
          have hstopped : s.threadRunning = false := Bool.eq_false_iff.mpr fun hc =>
            Finset.not_nonempty_iff_eq_empty.mpr hfirst (hthread hc)
          rw [decide_eq_true hfirst]
          refine ⟨fun _ => hsystem, fun _ => Finset.insert_nonempty .., fun _ _ =>
            Finset.insert_nonempty .., nofun, nofun, fun report hreport => ?_⟩
          have told : (Function.update s.helper.received obs
              (Helper.introduction s.helper.networkInterfaces) obs).map
                (fun delivery => delivery.notification.intfc) =
              interfacesOf s.helper.networkInterfaces := by
            rw [Function.update_self, report_introduction]
          rw [(Option.some.inj hreport).symm.trans told]
          exact h.running (some obs) hstage hstopped
        · rw [decide_eq_false hfirst]
          exact ⟨fun _ => hsystem, nofun, fun _ _ => Finset.insert_nonempty .., nofun, nofun, nofun⟩

theorem Inv.unregisterObserver {s : Session O} (h : s.Inv) {observer : Option O}
    (hstage : s.stage = some (.running (.unregisterObserver observer))) :
    (s.runCall (.unregisterObserver observer)).Inv := by
  have hsystem := h.system (by rw [hstage]; nofun)
  have hthread := fun hrunning => h.thread hrunning (by rw [hstage]; nofun)
  cases observer with
  | none =>
      exact ⟨fun _ => hsystem, nofun, fun hrunning _ => hthread hrunning, nofun, nofun, h.reported⟩
  | some obs =>
      by_cases hmem : obs ∈ s.helper.observers
      · rw [runCall, Helper.unregisterObserver_of_mem hmem]
        by_cases hlast : s.helper.observers.erase obs = ∅
        · rw [decide_eq_true hlast]
          exact ⟨fun _ => hsystem, nofun, fun _ hc => absurd rfl hc, nofun, nofun, h.reported⟩
        · rw [decide_eq_false hlast]
          exact ⟨fun _ => hsystem, nofun, fun _ _ => Finset.nonempty_iff_ne_empty.mpr hlast, nofun,
            nofun, h.reported⟩
      · rw [runCall, Helper.unregisterObserver_of_notMem hmem]
        exact ⟨fun _ => hsystem, nofun, fun hrunning _ => hthread hrunning, nofun, nofun,
          h.reported⟩

theorem Inv.run {s : Session O} (h : s.Inv) {call : ApiCall O}
    (hstage : s.stage = some (.running call)) : (s.runCall call).Inv := by
  have hsystem := h.system (by rw [hstage]; nofun)
  have hthread := fun hrunning => h.thread hrunning (by rw [hstage]; nofun)
  cases call with
  | enumerateInterfaces | getInterfaceByName =>
      exact ⟨fun _ => hsystem, nofun, fun hrunning _ => hthread hrunning, nofun, nofun, h.reported⟩
  | registerObserver observer => exact h.registerObserver hstage
  | unregisterObserver observer => exact h.unregisterObserver hstage

/-- **One step** keeps the invariant. -/
theorem Inv.next {s s' : Session O} {happening : Happening O} (h : s.Inv)
    (hnext : Steps Session.next s happening s') : s'.Inv := by
  cases happening with
  | systemChanges interfaces =>
      obtain ⟨⟩ := hnext
      exact h.systemChanges interfaces
  | refresh =>
      obtain ⟨hthread, ⟨⟩⟩ := Option.ite_none_right_eq_some.mp hnext
      exact h.refresh hthread
  | call call =>
      rw [Steps, Session.next] at hnext
      split at hnext
      · rename_i hstage
        obtain rfl := Option.some.inj hnext
        exact h.call hstage call
      · cases hnext
  | wait =>
      rw [Steps, Session.next] at hnext
      split at hnext
      · rename_i call hstage
        obtain rfl := Option.some.inj hnext
        exact h.wait hstage
      · cases hnext
  | run =>
      rw [Steps, Session.next] at hnext
      split at hnext
      · rename_i call hstage
        obtain rfl := Option.some.inj hnext
        exact h.run hstage
      · cases hnext
  | delegate starts =>
      rw [Steps, Session.next] at hnext
      split at hnext
      · rename_i hstage
        obtain rfl := Option.some.inj hnext
        exact ⟨fun _ => h.system (by rw [hstage]; nofun), nofun, fun _ _ => h.deciding hstage,
          nofun, nofun, h.reported⟩
      · rename_i hstage
        obtain rfl := Option.some.inj hnext
        have hsystem := h.system (by rw [hstage]; nofun)
        -- a thread that is joined takes `_enumeratedOnce` with it
        rw [terminateObserverThread]
        split
        · exact ⟨fun _ => hsystem, nofun, nofun, nofun, nofun, h.reported⟩
        · rename_i hstopped
          exact ⟨fun _ => hsystem, nofun, fun hc => absurd hc hstopped, nofun, nofun, h.reported⟩
      · cases hnext
  | leave =>
      rw [Steps, Session.next] at hnext
      split at hnext
      · rename_i hstage
        obtain rfl := Option.some.inj hnext
        exact ⟨fun hc => absurd rfl hc, nofun,
          fun hrunning _ => h.thread hrunning (by rw [hstage]; nofun), nofun, nofun, h.reported⟩
      · cases hnext

/-! ### Runs -/

/-- **A fresh snapshot**: what `registerObserver` reports to a first observer is a list the system
had during the call exactly when nothing had been enumerated before the call, since the thread last
ran, or the table the call found is such a list. -/
theorem fresh_iff {system : Interfaces} {s : Session O}
    (h : Reaches (Steps Session.next) { system := system } s) {report : List Interface}
    (hreport : s.firstReport = some report) :
    s.Fresh report ↔ s.enumeratedBefore = false ∨ s.Fresh (interfacesOf s.tableBefore) := by
  have inv : s.Inv := h.invariant (fun _ _ _ ha hab => Inv.next ha hab) (inv_start system)
  obtain ⟨hstale, hfresh⟩ := inv.reported report hreport
  cases hbefore : s.enumeratedBefore with
  | true =>
      rw [hstale hbefore]
      exact ⟨.inr, fun hor => hor.resolve_left nofun⟩
  | false =>
      obtain ⟨table, hmem, rfl⟩ := hfresh hbefore
      exact ⟨fun _ => .inl rfl, fun _ => ⟨table, hmem, .refl _⟩⟩

/-- An observer registers. -/
def firstRegistration : List (Happening Unit) :=
  [.call (.registerObserver (some ())), .wait, .run, .delegate true, .leave]

theorem fresh_iff_firstRegistration :
    ∃ s report, exec Session.next { system := onlyEn0 0 } firstRegistration = some s ∧
      s.firstReport = some report ∧
      (s.Fresh report ↔ s.enumeratedBefore = false ∨ s.Fresh (interfacesOf s.tableBefore)) := by
  obtain ⟨s, hrun, hreport⟩ :
      ∃ s, exec Session.next { system := onlyEn0 0 } firstRegistration = some s ∧
        s.firstReport = some [en0 0] := ⟨_, rfl, rfl⟩
  exact ⟨s, _, hrun, hreport, fresh_iff (reaches_of_exec hrun) hreport⟩

/-- The interfaces are enumerated, `en0` goes, then an observer registers. -/
def staleRegistration : List (Happening Unit) :=
  [.call (.enumerateInterfaces true), .wait, .run, .leave, .systemChanges ∅] ++ firstRegistration

/-- When the registration has returned, the observer was told that `en0` is there. -/
theorem not_fresh :
    ¬ ∀ (system : Interfaces) (s : Session Unit) (report : List Interface),
      Reaches (Steps Session.next) { system := system } s → s.stage = none →
        s.firstReport = some report → s.Fresh report := by
  intro h
  obtain ⟨s, hrun, hstage, hreport, hduring⟩ :
      ∃ s, exec Session.next { system := onlyEn0 0 } staleRegistration = some s ∧
        s.stage = none ∧ s.firstReport = some [en0 0] ∧ s.systemDuring = [∅] :=
    ⟨_, rfl, rfl, rfl, rfl⟩
  obtain ⟨table, hmem, hperm⟩ := h _ s _ (reaches_of_exec hrun) hstage hreport
  rw [hduring] at hmem
  rw [List.mem_singleton.mp hmem] at hperm
  exact List.cons_ne_nil _ _ (List.perm_nil.mp hperm)

end

end Session

end NetworkInterface
