import NetworkInterface.Monitor.Freshness
import NetworkInterface.Support.RecursiveMutex

/-!
# Monitor — Blocking

Who waits for whom in the helper with a polling delegate (Unix, iOS).  Any number of clients make
calls, callbacks make calls of their own while the lock is held, and the observer thread polls until
it is told to terminate.  A thread waits at two places: for the lock, and in
`_observerThread.join()`.  It is described by its stack, the innermost frame first.

- `unreturned_of_selfJoin`: a callback on the observer thread that unregisters the last observer
  never returns; all the thread can do is abort the process.
- `deadlock_of_join`: a callback on a client that unregisters the last observer joins the observer
  thread under the lock.  Once that thread waits for the lock, neither of them ever goes on.
-/

namespace NetworkInterface

open Support Runs

namespace Blocking

/-! ### The threads -/

/-- What is done under the lock. -/
inductive Work (O : Type*) where
  /-- A call, after `waitForFirstEnumeration`. -/
  | call (call : ApiCall O)
  /-- `onNewInterfacesList(std::move(newList))`. -/
  | newList (newList : Interfaces)

/-- What a thread does next, and on the inner frames, what it does after they have returned. -/
inductive Frame (O : Type*) where
  /-- `if (!_enumeratedOnce)`. -/
  | testing (call : ApiCall O)
  /-- `refreshInterfaces(newList)`. -/
  | refreshing (call : ApiCall O)
  /-- `_enumeratedOnce = true`. -/
  | setEnumerated (call : ApiCall O)
  /-- `auto const lg = std::lock_guard(_lock)`. -/
  | locking (work : Work O)
  /-- Under the lock: the callbacks are made, then the lock is released. -/
  | working (work : Work O) (decision : Option Decision)
  /-- `_shouldTerminate = false`. -/
  | clearTerminate
  /-- `_observerThread = std::thread(…)`. -/
  | createThread
  /-- `_shouldTerminate = true`. -/
  | setTerminate
  /-- `if (_observerThread.joinable())`. -/
  | joinable
  /-- `_observerThread.join()`. -/
  | join
  /-- `_observerThread = {}`. -/
  | resetThread
  /-- `_enumeratedOnce = false`. -/
  | clearEnumerated
  /-- `while (!_shouldTerminate)`, on the observer thread. -/
  | checking
  /-- `refreshInterfaces(newList)`, on the observer thread. -/
  | polling

/-- The lock is held by the frame. -/
def Frame.isWorking {O : Type*} : Frame O → Bool
  | .working .. => true
  | .testing _ | .refreshing _ | .setEnumerated _ | .locking _ | .clearTerminate | .createThread
  | .setTerminate | .joinable | .join | .resetThread | .clearEnumerated | .checking
  | .polling    => false

/-- The call of the delegate that the frame is about to make, or makes. -/
def Frame.pending {O : Type*} : Frame O → Option Decision
  | .working _ decision            => decision
  | .clearTerminate | .createThread => some .onFirstObserverRegistered
  | .setTerminate | .joinable | .join | .resetThread | .clearEnumerated =>
      some .onLastObserverUnregistered
  | .testing _ | .refreshing _ | .setEnumerated _ | .locking _ | .checking | .polling => none

/-- The call of the delegate is about to begin. -/
def Frame.isEntering {O : Type*} : Frame O → Bool
  | .clearTerminate | .setTerminate => true
  | .testing _ | .refreshing _ | .setEnumerated _ | .locking _ | .working .. | .createThread
  | .joinable | .join | .resetThread | .clearEnumerated | .checking | .polling => false

/-- How often the lock is held by the frames. -/
def depth {O : Type*} (frames : List (Frame O)) : Nat := frames.countP Frame.isWorking

end Blocking

/-- The helper and its lock, the members of the delegate, and what its clients `some t` and its
observer thread `none` are doing. -/
structure Blocking (T O : Type*) where
  helper : Helper O := {}
  lock : RecursiveMutex (Option T) := .free
  shouldTerminate : Bool := false
  enumeratedOnce : Bool := false
  /-- `_observerThread.joinable()`. -/
  joinable : Bool := false
  frames : Option T → List (Blocking.Frame O) := fun _ => []
  aborted : Bool := false
  /-- The interfaces the system has. -/
  system : Interfaces := ∅
  /-- The decisions whose delegate calls have not returned, the oldest first. -/
  order : List (Option T × Decision) := []

namespace Blocking

/-- A step. -/
inductive Event (T O : Type*) where
  | systemChanges (interfaces : Interfaces)
  | call (t : T) (call : ApiCall O)
  /-- A callback calls the helper. -/
  | callback (party : Option T) (call : ApiCall O)
  /-- A thread goes on; `due` is whether the next check is due, where it is asked. -/
  | advance (party : Option T) (due : Bool)

section
variable {T O : Type*}

/-- Where a call begins; with a null handler, `enumerateInterfaces` returns at once. -/
def begin : ApiCall O → List (Frame O)
  | .enumerateInterfaces onInterface =>
      if onInterface then [.testing (.enumerateInterfaces onInterface)] else []
  | .getInterfaceByName name         => [.testing (.getInterfaceByName name)]
  | .registerObserver observer       => [.testing (.registerObserver observer)]
  | .unregisterObserver observer     => [.locking (.call (.unregisterObserver observer))]

/-- The call of the delegate after the part under the lock. -/
def after : Option Decision → List (Frame O)
  | some .onFirstObserverRegistered  => [.clearTerminate]
  | some .onLastObserverUnregistered => [.setTerminate]
  | none                             => []

/-- The observers are called back, or the handler.  Also `true` at an observer that is registered
already and at a list without differences, where nobody is called. -/
def Work.callsBack (helper : Helper O) : Work O → Bool
  | .call (.enumerateInterfaces onInterface)   =>
      onInterface && !helper.networkInterfaces.entries.isEmpty
  | .call (.registerObserver observer)         =>
      observer.isSome && !helper.networkInterfaces.entries.isEmpty
  | .call (.getInterfaceByName _) | .call (.unregisterObserver _) => false
  | .newList _                                 => decide helper.observers.Nonempty

/-- `std::terminate`. -/
def abort (s : Blocking T O) : Blocking T O := { s with aborted := true }

/-! ### The steps -/

variable [DecidableEq T]

/-- The thread has other frames. -/
def goes (s : Blocking T O) (party : Option T) (frames : List (Frame O)) : Blocking T O :=
  { s with frames := Function.update s.frames party frames }

theorem frames_goes (s : Blocking T O) (party : Option T) (frames : List (Frame O)) :
    (s.goes party frames).frames party = frames := Function.update_self ..

theorem frames_goes_of_ne (s : Blocking T O) {party q : Option T} (h : q ≠ party)
    (frames : List (Frame O)) : (s.goes party frames).frames q = s.frames q :=
  Function.update_of_ne h ..

/-- The call of the delegate returns. -/
def returns (s : Blocking T O) (party : Option T) (decision : Decision) (rest : List (Frame O)) :
    Blocking T O :=
  { s.goes party rest with order := s.order.erase (party, decision) }

theorem frames_returns (s : Blocking T O) (party : Option T) (decision : Decision)
    (rest : List (Frame O)) : (s.returns party decision rest).frames party = rest :=
  s.frames_goes party rest

variable [DecidableEq O]

/-- The lock is taken.  A call updates `_observers`, and decides. -/
def enter (s : Blocking T O) (party : Option T) (rest : List (Frame O))
    (lock : RecursiveMutex (Option T)) : Work O → Blocking T O
  | .call call       =>
      { s.goes party (.working (.call call) (call.body s.helper).2 :: rest) with
        lock := lock
        helper := (call.body s.helper).1
        order := s.order ++ ((call.body s.helper).2.map fun decision => (party, decision)).toList }
  | .newList newList =>
      { s.goes party (.working (.newList newList) none :: rest) with lock := lock }

/-- The lock is released, after `_networkInterfaces = std::move(interfaces)` where it is. -/
def leave (s : Blocking T O) (party : Option T) (rest : List (Frame O)) (decision : Option Decision)
    (lock : RecursiveMutex (Option T)) : Work O → Blocking T O
  | .call _          => { s.goes party (after decision ++ rest) with lock := lock }
  | .newList newList =>
      { s.goes party (after decision ++ rest) with
        lock := lock
        helper := s.helper.onNewInterfacesList newList }

/-- A thread goes on, in its innermost frame.  The process aborts when a joinable thread is assigned
to, when a thread that is not joinable is joined, and when a thread joins itself. -/
def run (s : Blocking T O) (party : Option T) (due : Bool) (rest : List (Frame O)) :
    Frame O → Option (Blocking T O)
  | .testing call          => some (s.goes party
      ((if s.enumeratedOnce then .locking (.call call) else .refreshing call) :: rest))
  | .refreshing call       => some (s.goes party
      (.locking (.newList s.system) :: .setEnumerated call :: rest))
  | .setEnumerated call    => some
      { s.goes party (.locking (.call call) :: rest) with enumeratedOnce := true }
  | .locking work          => (s.lock.lock party).map fun lock => s.enter party rest lock work
  | .working work decision =>
      (s.lock.unlock party).map fun lock => s.leave party rest decision lock work
  | .clearTerminate        => some
      { s.goes party (.createThread :: rest) with shouldTerminate := false }
  | .createThread          =>
      if s.joinable then some s.abort
      else some
        { (s.returns party .onFirstObserverRegistered rest).goes none [.checking] with
          joinable := true }
  | .setTerminate          => some { s.goes party (.joinable :: rest) with shouldTerminate := true }
  | .joinable              => some
      (if s.joinable then s.goes party (.join :: rest)
      else s.returns party .onLastObserverUnregistered rest)
  | .join                  =>
      if s.joinable = false ∨ party = none then some s.abort
      else if (s.frames none).isEmpty then some
        { s.goes party (.resetThread :: rest) with joinable := false }
      else none
  | .resetThread           =>
      if s.joinable then some s.abort else some (s.goes party (.clearEnumerated :: rest))
  | .clearEnumerated       => some
      { s.returns party .onLastObserverUnregistered rest with enumeratedOnce := false }
  | .checking              => some (s.goes party
      (if s.shouldTerminate then rest else if due then .polling :: rest else .checking :: rest))
  | .polling               => some (s.goes party
      (.locking (.newList s.system) :: .checking :: rest))

/-- A thread goes on. -/
def advance (s : Blocking T O) (party : Option T) (due : Bool) : Option (Blocking T O) :=
  match s.frames party with
  | []            => none
  | frame :: rest => s.run party due rest frame

/-- The steps. -/
def next (s : Blocking T O) (event : Event T O) : Option (Blocking T O) :=
  if s.aborted then none
  else
    match event with
    | .systemChanges interfaces => some { s with system := interfaces }
    | .call t call              =>
        match s.frames (some t) with
        | []     => some (s.goes (some t) (begin call))
        | _ :: _ => none
    | .callback party call      =>
        match s.frames party with
        | .working work decision :: rest =>
            if work.callsBack s.helper then
              some (s.goes party (begin call ++ .working work decision :: rest))
            else none
        | _                              => none
    | .advance party due        => s.advance party due

end

/-! ### The lock -/

section
variable {T O : Type*}

theorem depth_begin (call : ApiCall O) (rest : List (Frame O)) :
    depth (begin call ++ rest) = depth rest := by
  cases call with
  | enumerateInterfaces onInterface => cases onInterface <;> rfl
  | getInterfaceByName | registerObserver | unregisterObserver => rfl

theorem depth_after (decision : Option Decision) (rest : List (Frame O)) :
    depth (after decision ++ rest) = depth rest := by
  cases decision with
  | none => rfl
  | some decision => cases decision <;> rfl

theorem depth_working (work : Work O) (decision : Option Decision) (rest : List (Frame O)) :
    depth (.working work decision :: rest) = depth rest + 1 := List.countP_cons_of_pos rfl

variable [DecidableEq T]

/-- The lock is held as often as the frames of a thread say, and an observer thread that has not
ended is joinable. -/
structure Locks (s : Blocking T O) : Prop where
  lock : ∀ party, s.lock.acquisitions party = depth (s.frames party)
  joinable : s.frames none ≠ [] → s.joinable = true

/-- What a step of a thread does to the lock and to the observer thread. -/
inductive Effect (s : Blocking T O) (party : Option T) (frame : Frame O) (rest : List (Frame O))
    (s' : Blocking T O) : Prop where
  | quiet (frames : List (Frame O)) (goes : s'.frames = Function.update s.frames party frames)
      (depth : depth frames = depth (frame :: rest)) (lock : s'.lock = s.lock)
      (joinable : s'.joinable = s.joinable)
  | lock (frames : List (Frame O)) (goes : s'.frames = Function.update s.frames party frames)
      (depth : depth frames = depth (frame :: rest) + 1)
      (lock : s.lock.lock party = some s'.lock) (joinable : s'.joinable = s.joinable)
  | unlock (frames : List (Frame O)) (goes : s'.frames = Function.update s.frames party frames)
      (depth : depth frames = depth (frame :: rest) - 1)
      (lock : s.lock.unlock party = some s'.lock) (joinable : s'.joinable = s.joinable)
  | create (creates : frame = .createThread)
      (goes : s'.frames = Function.update (Function.update s.frames party rest) none [.checking])
      (depth : depth rest = depth (frame :: rest)) (lock : s'.lock = s.lock)
      (stopped : s.joinable = false) (joinable : s'.joinable = true)
  | join (frames : List (Frame O)) (goes : s'.frames = Function.update s.frames party frames)
      (depth : depth frames = depth (frame :: rest)) (lock : s'.lock = s.lock)
      (ended : s.frames none = []) (other : party ≠ none)
  | abort (aborts : s' = s.abort)

/-- The frames of one thread change, and the lock with them. -/
theorem Locks.held {s s' : Blocking T O} (h : s.Locks) {party : Option T} {frames : List (Frame O)}
    (goes : s'.frames = Function.update s.frames party frames)
    (lock : s'.lock.acquisitions = Function.update s.lock.acquisitions party (depth frames)) :
    ∀ q, s'.lock.acquisitions q = depth (s'.frames q) := by
  intro q
  rw [goes, lock]
  by_cases hq : q = party
  · rw [hq, Function.update_self, Function.update_self]
  · rw [Function.update_of_ne hq, Function.update_of_ne hq]
    exact h.lock q

/-- The lock stays as it is. -/
theorem Locks.same {s s' : Blocking T O} (h : s.Locks) {party : Option T} {frames : List (Frame O)}
    (hdepth : depth frames = depth (s.frames party)) (lock : s'.lock = s.lock) :
    s'.lock.acquisitions = Function.update s.lock.acquisitions party (depth frames) := by
  rw [lock, hdepth, ← h.lock party]
  exact (Function.update_eq_self party _).symm

/-- Without a joinable thread there is none. -/
theorem Locks.stopped {s : Blocking T O} (h : s.Locks) (hjoinable : s.joinable = false) :
    s.frames none = [] := by
  by_contra hthread
  rw [h.joinable hthread] at hjoinable
  cases hjoinable

/-- The observer thread, if it is the one that goes on, is there. -/
theorem Locks.running {s s' : Blocking T O} (h : s.Locks) {party : Option T}
    {frames : List (Frame O)} (hframes : s.frames party ≠ [])
    (goes : s'.frames = Function.update s.frames party frames)
    (joinable : s'.joinable = s.joinable) (hthread : s'.frames none ≠ []) :
    s'.joinable = true := by
  refine joinable.trans (h.joinable fun hnone => ?_)
  by_cases hparty : party = none
  · rw [hparty] at hframes
    exact hframes hnone
  · rw [goes, Function.update_of_ne (Ne.symm hparty)] at hthread
    exact hthread hnone

/-- The frames of a thread change only where it goes on itself, or where it is created. -/
theorem frames_of_effect {s s' : Blocking T O} (h : s.Locks) {party q : Option T} {frame : Frame O}
    {rest : List (Frame O)} (heffect : Effect s party frame rest s') (hne : q ≠ party)
    (hthere : s.frames none ≠ []) : s'.frames q = s.frames q := by
  cases heffect with
  | quiet frames goes depth lock joinable => rw [goes, Function.update_of_ne hne]
  | lock frames goes depth lock joinable => rw [goes, Function.update_of_ne hne]
  | unlock frames goes depth lock joinable => rw [goes, Function.update_of_ne hne]
  | create creates goes depth lock stopped joinable => exact absurd (h.stopped stopped) hthere
  | join frames goes depth lock ended other => rw [goes, Function.update_of_ne hne]
  | abort aborts => rw [aborts]; rfl

theorem Locks.effect {s s' : Blocking T O} (h : s.Locks) {party : Option T} {frame : Frame O}
    {rest : List (Frame O)} (hframes : s.frames party = frame :: rest)
    (heffect : Effect s party frame rest s') : s'.Locks := by
  have there : s.frames party ≠ [] := by
    rw [hframes]
    exact List.cons_ne_nil frame rest
  cases heffect with
  | quiet frames goes depth lock joinable =>
      rw [← hframes] at depth
      exact ⟨h.held goes (h.same depth lock), h.running there goes joinable⟩
  | lock frames goes depth lock joinable =>
      refine ⟨h.held goes ?_, h.running there goes joinable⟩
      rw [(RecursiveMutex.acquisitions_lock lock).1, depth, ← hframes, h.lock]
  | unlock frames goes depth lock joinable =>
      refine ⟨h.held goes ?_, h.running there goes joinable⟩
      rw [RecursiveMutex.acquisitions_unlock lock, depth, ← hframes, h.lock]
  | create creates goes hdepth lock stopped joinable =>
      -- the thread that is created has no frame yet
      have idle := h.stopped stopped
      have ne : none ≠ party := by
        rintro rfl
        exact there idle
      rw [← hframes] at hdepth
      refine ⟨fun q => ?_, fun _ => joinable⟩
      rw [goes, lock]
      by_cases hq : q = none
      · rw [hq, Function.update_self, h.lock none, idle]
        rfl
      · rw [Function.update_of_ne hq]
        have client : ∀ q, (s.goes party rest).lock.acquisitions q =
            depth ((s.goes party rest).frames q) := h.held rfl (h.same hdepth rfl)
        exact client q
  | join frames goes depth lock ended other =>
      rw [← hframes] at depth
      refine ⟨h.held goes (h.same depth lock), fun hthread => ?_⟩
      rw [goes, Function.update_of_ne (Ne.symm other)] at hthread
      exact absurd ended hthread
  | abort aborts =>
      rw [aborts]
      exact ⟨h.lock, h.joinable⟩

variable [DecidableEq O]

theorem effect_of_run {s s' : Blocking T O} {party : Option T} {due : Bool} {frame : Frame O}
    {rest : List (Frame O)} (h : s.run party due rest frame = some s') :
    Effect s party frame rest s' := by
  cases frame with
  | testing call =>
      obtain rfl := Option.some.inj h
      refine .quiet _ rfl ?_ rfl rfl
      split
      · rfl
      · rfl
  | refreshing call =>
      obtain rfl := Option.some.inj h
      exact .quiet _ rfl rfl rfl rfl
  | setEnumerated call =>
      obtain rfl := Option.some.inj h
      exact .quiet _ rfl rfl rfl rfl
  | locking work =>
      obtain ⟨lock, hlock, rfl⟩ := Option.map_eq_some_iff.mp h
      cases work with
      | call call => exact .lock _ rfl (depth_working ..) hlock rfl
      | newList newList => exact .lock _ rfl (depth_working ..) hlock rfl
  | working work decision =>
      obtain ⟨lock, hlock, rfl⟩ := Option.map_eq_some_iff.mp h
      have released : depth (after decision ++ rest) =
          depth (.working work decision :: rest) - 1 := by
        rw [depth_after, depth_working, Nat.add_sub_cancel]
      cases work with
      | call call => exact .unlock _ rfl released hlock rfl
      | newList newList => exact .unlock _ rfl released hlock rfl
  | clearTerminate =>
      obtain rfl := Option.some.inj h
      exact .quiet _ rfl rfl rfl rfl
  | createThread =>
      rcases hjoinable : s.joinable with _ | _
      · rw [run, hjoinable] at h
        obtain rfl := Option.some.inj h
        exact .create rfl rfl rfl rfl hjoinable rfl
      · rw [run, hjoinable] at h
        exact .abort (Option.some.inj h).symm
  | setTerminate =>
      obtain rfl := Option.some.inj h
      exact .quiet _ rfl rfl rfl rfl
  | joinable =>
      obtain rfl := Option.some.inj h
      split
      · exact .quiet _ rfl rfl rfl rfl
      · exact .quiet _ rfl rfl rfl rfl
  | join =>
      rw [run] at h
      split at h
      · exact .abort (Option.some.inj h).symm
      · rename_i hjoins
        obtain ⟨hended, heq⟩ := Option.ite_none_right_eq_some.mp h
        obtain rfl := Option.some.inj heq
        exact .join _ rfl rfl rfl (List.isEmpty_iff.mp hended) (not_or.mp hjoins).2
  | resetThread =>
      rw [run] at h
      split at h
      · exact .abort (Option.some.inj h).symm
      · obtain rfl := Option.some.inj h
        exact .quiet _ rfl rfl rfl rfl
  | clearEnumerated =>
      obtain rfl := Option.some.inj h
      exact .quiet _ rfl rfl rfl rfl
  | checking =>
      obtain rfl := Option.some.inj h
      refine .quiet _ rfl ?_ rfl rfl
      split
      · rfl
      · split
        · rfl
        · rfl
  | polling =>
      obtain rfl := Option.some.inj h
      exact .quiet _ rfl rfl rfl rfl

theorem run_of_advance {s s' : Blocking T O} {party : Option T} {due : Bool}
    (h : Steps next s (.advance party due) s') :
    ∃ frame rest, s.frames party = frame :: rest ∧ s.run party due rest frame = some s' := by
  obtain ⟨-, hnext⟩ := Option.ite_none_left_eq_some.mp h
  change s.advance party due = some s' at hnext
  rw [advance] at hnext
  split at hnext
  · cases hnext
  · rename_i frame rest hframes
    exact ⟨frame, rest, hframes, hnext⟩

/-- What an event that is no step of a thread does: it adds frames that do not hold the lock, or
nothing. -/
theorem begins_of_next {s s' : Blocking T O} {event : Event T O} (h : Steps next s event s') :
    (∃ party due frame rest, s.frames party = frame :: rest ∧
      s.run party due rest frame = some s') ∨
    (∃ party call, (s.frames party ≠ [] ∨ party ≠ none) ∧
      (∀ frame rest, s.frames party = frame :: rest → frame.isWorking = true) ∧
      s' = s.goes party (begin call ++ s.frames party)) ∨
    ∃ interfaces, s' = { s with system := interfaces } := by
  obtain ⟨-, hnext⟩ := Option.ite_none_left_eq_some.mp h
  cases event with
  | systemChanges interfaces => exact .inr (.inr ⟨interfaces, (Option.some.inj hnext).symm⟩)
  | call t call =>
      dsimp only at hnext
      split at hnext
      · rename_i hframes
        refine .inr (.inl ⟨some t, call, .inr (Option.some_ne_none t), ?_, ?_⟩)
        · intro frame rest hc
          rw [hframes] at hc
          cases hc
        · rw [hframes, List.append_nil]
          exact (Option.some.inj hnext).symm
      · cases hnext
  | callback party call =>
      dsimp only at hnext
      split at hnext
      · rename_i work decision rest hframes
        obtain ⟨-, heq⟩ := Option.ite_none_right_eq_some.mp hnext
        refine .inr (.inl ⟨party, call, .inl ?_, ?_, ?_⟩)
        · rw [hframes]
          exact List.cons_ne_nil _ _
        · intro frame rest' hc
          rw [hframes] at hc
          obtain ⟨rfl, -⟩ := List.cons.inj hc
          rfl
        · rw [hframes]
          exact (Option.some.inj heq).symm
      · cases hnext
  | advance party due =>
      obtain ⟨frame, rest, hframes, hrun⟩ := run_of_advance h
      exact .inl ⟨party, due, frame, rest, hframes, hrun⟩

theorem Locks.next {s s' : Blocking T O} {event : Event T O} (h : s.Locks)
    (hstep : Steps next s event s') : s'.Locks := by
  rcases begins_of_next hstep with ⟨party, due, frame, rest, hframes, hrun⟩ |
    ⟨party, call, hthere, -, rfl⟩ | ⟨interfaces, rfl⟩
  · exact h.effect hframes (effect_of_run hrun)
  · refine ⟨h.held rfl (h.same (depth_begin call _) rfl), fun hthread => h.joinable ?_⟩
    by_cases hparty : party = none
    · subst hparty
      exact hthere.resolve_right (not_not_intro rfl)
    · change Function.update s.frames party _ none ≠ [] at hthread
      rwa [Function.update_of_ne (Ne.symm hparty)] at hthread
  · exact ⟨h.lock, h.joinable⟩

theorem locks_of_reaches {system : Interfaces} {s : Blocking T O}
    (h : Reaches (Steps next) { system := system } s) : s.Locks := by
  have start : Locks ({ system := system } : Blocking T O) :=
    ⟨fun _ => rfl, fun hc => absurd rfl hc⟩
  exact h.invariant (fun _ _ _ ha hab => ha.next hab) start

/-! ### The observer thread joins itself -/

/-- In `terminateObserverThread`, up to the join. -/
def Frame.isStopping : Frame O → Bool
  | .setTerminate | .joinable | .join => true
  | .testing _ | .refreshing _ | .setEnumerated _ | .locking _ | .working .. | .clearTerminate
  | .createThread | .resetThread | .clearEnumerated | .checking | .polling => false

/-- The observer thread is in `terminateObserverThread`, called on top of `rest`. -/
structure JoinsItself (rest : List (Frame O)) (s : Blocking T O) : Prop where
  locks : s.Locks
  thread : ∃ frame, s.frames none = frame :: rest ∧ frame.isStopping = true

theorem JoinsItself.next {rest : List (Frame O)} {s s' : Blocking T O} {event : Event T O}
    (h : s.JoinsItself rest) (hstep : Steps next s event s') : s'.JoinsItself rest := by
  obtain ⟨locks, frame, hframes, hstops⟩ := h
  have there : s.frames none ≠ [] := by
    rw [hframes]
    exact List.cons_ne_nil frame rest
  have runs : s.joinable = true := locks.joinable there
  refine ⟨locks.next hstep, ?_⟩
  rcases begins_of_next hstep with ⟨party, due, frame', rest', hframes', hrun⟩ |
    ⟨party, call, -, hcalls, rfl⟩ | ⟨interfaces, rfl⟩
  · by_cases hparty : none = party
    · subst hparty
      obtain ⟨rfl, rfl⟩ := List.cons.inj (hframes.symm.trans hframes')
      cases frame with
      | setTerminate =>
          obtain rfl := Option.some.inj hrun
          exact ⟨.joinable, s.frames_goes none _, rfl⟩
      | joinable =>
          rw [run, if_pos runs] at hrun
          obtain rfl := Option.some.inj hrun
          exact ⟨.join, s.frames_goes none _, rfl⟩
      | join =>
          rw [run, if_pos (.inr rfl)] at hrun
          obtain rfl := Option.some.inj hrun
          exact ⟨.join, hframes, rfl⟩
      | testing | refreshing | setEnumerated | locking | working | clearTerminate | createThread
      | resetThread | clearEnumerated | checking | polling => cases hstops
    · rw [frames_of_effect locks (effect_of_run hrun) hparty there]
      exact ⟨frame, hframes, hstops⟩
  · by_cases hparty : none = party
    · -- it makes no callback
      subst hparty
      cases frame with
      | setTerminate | joinable | join => cases hcalls _ _ hframes
      | testing | refreshing | setEnumerated | locking | working | clearTerminate | createThread
      | resetThread | clearEnumerated | checking | polling => cases hstops
    · refine ⟨frame, (Function.update_of_ne hparty ..).trans hframes, hstops⟩
  · exact ⟨frame, hframes, hstops⟩

theorem next_advance {s s' : Blocking T O} {party : Option T} {frame : Frame O}
    {rest : List (Frame O)} (due : Bool) (hrun : s.aborted = false)
    (hframes : s.frames party = frame :: rest) (h : s.run party due rest frame = some s') :
    Steps Blocking.next s (.advance party due) s' := by
  rw [Steps, next, hrun]
  change s.advance party due = some s'
  rw [advance, hframes]
  exact h

theorem aborts_of_join {s : Blocking T O} {rest : List (Frame O)} (hrun : s.aborted = false)
    (hframes : s.frames none = .join :: rest) :
    ∃ s', Reaches (Steps Blocking.next) s s' ∧ s'.aborted = true :=
  ⟨s.abort, .more .refl (next_advance true hrun hframes (if_pos (.inr rfl))), rfl⟩

theorem aborts_of_joinable {s : Blocking T O} {rest : List (Frame O)} (hrun : s.aborted = false)
    (runs : s.joinable = true) (hframes : s.frames none = .joinable :: rest) :
    ∃ s', Reaches (Steps Blocking.next) s s' ∧ s'.aborted = true := by
  have first := next_advance true hrun hframes (congrArg some (if_pos runs))
  obtain ⟨s', more, aborted⟩ := aborts_of_join (s := s.goes none (.join :: rest)) hrun
    (s.frames_goes none _)
  exact ⟨s', .head ⟨_, first⟩ more, aborted⟩

/-- Nothing but aborting the process is left to the observer thread. -/
theorem JoinsItself.aborts {rest : List (Frame O)} {s : Blocking T O} (h : s.JoinsItself rest) :
    ∃ s', Reaches (Steps Blocking.next) s s' ∧ s'.aborted = true := by
  obtain ⟨locks, frame, hframes, hstops⟩ := h
  have runs : s.joinable = true := locks.joinable <| by
    rw [hframes]
    exact List.cons_ne_nil frame rest
  cases hrun : s.aborted with
  | true => exact ⟨s, .refl, hrun⟩
  | false =>
      cases frame with
      | setTerminate =>
          have first := next_advance true hrun hframes rfl
          obtain ⟨s', more, aborted⟩ := aborts_of_joinable
            (s := { s.goes none (.joinable :: rest) with shouldTerminate := true }) hrun runs
            (s.frames_goes none _)
          exact ⟨s', .head ⟨_, first⟩ more, aborted⟩
      | joinable => exact aborts_of_joinable hrun runs hframes
      | join => exact aborts_of_join hrun hframes
      | testing | refreshing | setEnumerated | locking | working | clearTerminate | createThread
      | resetThread | clearEnumerated | checking | polling => cases hstops

/-- **Self-join**: when a callback on the observer thread has unregistered the last observer, its
call never returns, whatever the threads do, and the observer thread can abort the process. -/
theorem unreturned_of_selfJoin {system : Interfaces} {s s' : Blocking T O} {rest : List (Frame O)}
    (h : Reaches (Steps next) { system := system } s)
    (hself : s.frames none = .setTerminate :: rest) (h' : Reaches (Steps next) s s') :
    (∃ frame, s'.frames none = frame :: rest ∧ frame.isStopping = true) ∧
      ∃ s'', Reaches (Steps next) s' s'' ∧ s''.aborted = true := by
  have here : s.JoinsItself rest := ⟨locks_of_reaches h, .setTerminate, hself, rfl⟩
  have there : s'.JoinsItself rest := h'.invariant (fun _ _ _ ha hab => ha.next hab) here
  exact ⟨there.thread, there.aborts⟩

/-- A first observer registers, and the observer thread reads its first list. -/
def registers : List (Event Bool Unit) :=
  .call false (.registerObserver (some ())) :: List.replicate 9 (.advance (some false) true) ++
    List.replicate 2 (.advance none true)

/-- The observer unregisters itself when the observer thread calls it. -/
def selfJoining : List (Event Bool Unit) :=
  registers ++ [.advance none true, .callback none (.unregisterObserver (some ())),
    .advance none true, .advance none true]

theorem unreturned_of_selfJoin_selfJoining :
    ∃ s rest, exec next ({ system := onlyEn0 0 } : Blocking Bool Unit) selfJoining = some s ∧
      s.frames none = .setTerminate :: rest ∧
      ∀ s', Reaches (Steps next) s s' →
        (∃ frame, s'.frames none = frame :: rest ∧ frame.isStopping = true) ∧
          ∃ s'', Reaches (Steps next) s' s'' ∧ s''.aborted = true := by
  obtain ⟨s, rest, hrun, hself⟩ :
      ∃ s rest, exec next ({ system := onlyEn0 0 } : Blocking Bool Unit) selfJoining = some s ∧
        s.frames none = .setTerminate :: rest := ⟨_, _, rfl, rfl⟩
  exact ⟨s, rest, hrun, hself, fun _ => unreturned_of_selfJoin (reaches_of_exec hrun) hself⟩

/-! ### The observer thread is joined under the lock -/

/-- A client joins the observer thread under the lock, and the observer thread waits for the
lock. -/
structure Deadlocked (t : T) (rest rest' : List (Frame O)) (work : Work O) (s : Blocking T O) :
    Prop where
  locks : s.Locks
  client : s.frames (some t) = .join :: rest
  thread : s.frames none = .locking work :: rest'
  held : 0 < depth rest

theorem Deadlocked.next {t : T} {rest rest' : List (Frame O)} {work : Work O} {s s' : Blocking T O}
    {event : Event T O} (h : s.Deadlocked t rest rest' work) (hstep : Steps next s event s') :
    s'.Deadlocked t rest rest' work := by
  obtain ⟨locks, client, thread, held⟩ := h
  have there : s.frames none ≠ [] := by
    rw [thread]
    exact List.cons_ne_nil _ rest'
  have acquired : 0 < s.lock.acquisitions (some t) := by
    rw [locks.lock, client]
    exact held
  suffices hsame : s'.frames (some t) = s.frames (some t) ∧ s'.frames none = s.frames none from
    ⟨locks.next hstep, hsame.1.trans client, hsame.2.trans thread, held⟩
  rcases begins_of_next hstep with ⟨party, due, frame, rest₁, hframes, hrun⟩ |
    ⟨party, call, -, hcalls, rfl⟩ | ⟨interfaces, rfl⟩
  · by_cases hclient : some t = party
    · -- the observer thread has not ended
      subst hclient
      obtain ⟨rfl, rfl⟩ := List.cons.inj (client.symm.trans hframes)
      have runs : s.joinable = true := locks.joinable there
      have waits : s.run (some t) due rest .join = none := by
        rw [run, if_neg, if_neg]
        · exact fun hc => there (List.isEmpty_iff.mp hc)
        · rw [runs]
          rintro (hc | hc) <;> cases hc
      cases waits.symm.trans hrun
    · by_cases hthread : none = party
      · subst hthread
        obtain ⟨rfl, rfl⟩ := List.cons.inj (thread.symm.trans hframes)
        obtain ⟨lock, hlock, -⟩ := Option.map_eq_some_iff.mp hrun
        rw [(RecursiveMutex.acquisitions_lock hlock).2 (some t) hclient] at acquired
        cases acquired
      · have effect := effect_of_run hrun
        exact ⟨frames_of_effect locks effect hclient there,
          frames_of_effect locks effect hthread there⟩
  · -- a thread that calls holds the lock, or was not running
    have hclient : some t ≠ party := by
      rintro rfl
      cases hcalls _ _ client
    have hthread : none ≠ party := by
      rintro rfl
      cases hcalls _ _ thread
    exact ⟨Function.update_of_ne hclient .., Function.update_of_ne hthread ..⟩
  · exact ⟨rfl, rfl⟩

/-- **Joining under the lock**: when a client that holds the lock joins the observer thread, and
that thread waits for the lock, neither of them ever goes on, and nobody else gets the lock. -/
theorem deadlock_of_join {system : Interfaces} {s s' : Blocking T O} {t : T}
    {rest rest' : List (Frame O)} {work : Work O} (h : Reaches (Steps next) { system := system } s)
    (client : s.frames (some t) = .join :: rest) (held : 0 < s.lock.acquisitions (some t))
    (thread : s.frames none = .locking work :: rest') (h' : Reaches (Steps next) s s') :
    s'.frames (some t) = s.frames (some t) ∧ s'.frames none = s.frames none ∧
      ∀ party ≠ some t, s'.lock.acquisitions party = 0 := by
  have locks := locks_of_reaches h
  have here : s.Deadlocked t rest rest' work := by
    refine ⟨locks, client, thread, ?_⟩
    rw [locks.lock, client] at held
    exact held
  have there : s'.Deadlocked t rest rest' work :=
    h'.invariant (fun _ _ _ ha hab => ha.next hab) here
  refine ⟨there.client.trans client.symm, there.thread.trans thread.symm, fun party hparty => ?_⟩
  have owns : 0 < s'.lock.acquisitions (some t) := by
    rw [there.locks.lock, there.client]
    exact there.held
  by_contra hother
  exact hparty (RecursiveMutex.eq_of_acquisitions owns (Nat.pos_of_ne_zero hother))

/-- A handler of `enumerateInterfaces` unregisters the observer, while the observer thread waits for
the lock. -/
def joiningUnderLock : List (Event Bool Unit) :=
  registers ++ .call true (.enumerateInterfaces true) ::
    List.replicate 2 (.advance (some true) true) ++
    .callback (some true) (.unregisterObserver (some ())) ::
    List.replicate 4 (.advance (some true) true)

theorem deadlock_of_join_joiningUnderLock :
    ∃ s, exec next ({ system := onlyEn0 0 } : Blocking Bool Unit) joiningUnderLock = some s ∧
      ∀ s', Reaches (Steps next) s s' →
        s'.frames (some true) = s.frames (some true) ∧ s'.frames none = s.frames none ∧
          ∀ party ≠ some true, s'.lock.acquisitions party = 0 := by
  obtain ⟨s, rest, rest', work, hrun, client, held, thread⟩ :
      ∃ s rest rest' work,
        exec next ({ system := onlyEn0 0 } : Blocking Bool Unit) joiningUnderLock = some s ∧
        s.frames (some true) = .join :: rest ∧ 0 < s.lock.acquisitions (some true) ∧
        s.frames none = .locking work :: rest' := ⟨_, _, _, _, rfl, rfl, by decide, rfl⟩
  exact ⟨s, hrun, fun _ => deadlock_of_join (reaches_of_exec hrun) client held thread⟩

end

end Blocking

end NetworkInterface
